import FieldRules.Text
import Mathlib.Data.List.Basic
import Mathlib.Data.List.Forall2
import Mathlib.Data.List.TakeWhile

/-!
# Joined, cut, replaced and trimmed texts

Cutting takes apart what joining has put together, if the separator is in none of the pieces.
Replacing leaves a text alone that does not have what is replaced.

Results:
* `cut_joinWith`: joined pieces are cut into themselves.
* `joinWith_append`: the text around a piece.
* `joinWith_inj_of_forall₂`: pieces of given lengths are told by what they are joined to.
* `cut_around`: a text is cut around what has no separator.
* `replaceAll_of_absent`, `replaceAll_around`: what replacing does to a text without the piece, and
  to a text that has it once.
* `trimmed_around`, `hasBareEnds_trimmed`: what is trimmed, and that nothing more is to be trimmed.
* `KeepsEnds.hasBareEnds`: a text that is made of another one has bare ends if that one has.
-/

namespace FieldRules.Text

variable {sep : Char}

/-! ## Letters -/

theorem isAlpha_iff (c : Char) :
    c.isAlpha = true ↔ ('A' ≤ c ∧ c ≤ 'Z') ∨ ('a' ≤ c ∧ c ≤ 'z') := by
  have hupper : c.isUpper = true ↔ 'A' ≤ c ∧ c ≤ 'Z' := decide_eq_true_iff
  have hlower : c.isLower = true ↔ 'a' ≤ c ∧ c ≤ 'z' :=
    (Bool.and_eq_true _ _).to_iff.trans (and_congr decide_eq_true_iff decide_eq_true_iff)
  exact (Bool.or_eq_true _ _).to_iff.trans (or_congr hupper hlower)

/-! ## Cutting -/

theorem cut_of_notMem {s : List Char} (h : sep ∉ s) : cut sep s = [s] := by
  induction s with
  | nil => rfl
  | cons c rest ih =>
    obtain ⟨hc, hrest⟩ := not_or.1 (mt List.mem_cons.2 h)
    rw [cut, if_neg (Ne.symm hc), ih hrest]

theorem cut_append_cons (sep : Char) (s rest : List Char) :
    cut sep (s ++ sep :: rest) = cut sep s ++ cut sep rest := by
  induction s with
  | nil => simp [cut]
  | cons c s ih =>
    obtain ⟨first, others, hcut⟩ := List.exists_cons_of_ne_nil (cut_ne_nil sep s)
    rw [List.cons_append, cut, cut, ih, hcut]
    split <;> rfl

theorem cut_append {piece : List Char} (h : sep ∉ piece) (rest : List Char) :
    cut sep (piece ++ sep :: rest) = piece :: cut sep rest := by
  rw [cut_append_cons, cut_of_notMem h, List.singleton_append]

/-! ## Joining -/

theorem joinWith_cons_cons (sep : Char) (piece next : List Char) (pieces : List (List Char)) :
    joinWith sep (piece :: next :: pieces) = piece ++ sep :: joinWith sep (next :: pieces) := rfl

theorem joinWith_cons (sep : Char) (piece : List Char) (pieces : List (List Char)) :
    joinWith sep (piece :: pieces) = piece ++ pieces.flatMap fun p => sep :: p := by
  induction pieces generalizing piece with
  | nil => simp [joinWith]
  | cons next pieces ih => rw [joinWith_cons_cons, ih, List.flatMap_cons, List.cons_append]

/-- The text before a piece. -/
theorem joinWith_append (sep : Char) (before : List (List Char)) (piece : List Char)
    (after : List (List Char)) :
    joinWith sep (before ++ piece :: after) =
      (before.flatMap fun p => p ++ [sep]) ++ joinWith sep (piece :: after) := by
  induction before with
  | nil => rfl
  | cons first before ih =>
    have hne : before ++ piece :: after ≠ [] := by simp
    obtain ⟨next, others, hnext⟩ := List.exists_cons_of_ne_nil hne
    rw [List.cons_append, hnext, joinWith_cons_cons, ← hnext, ih, List.flatMap_cons]
    simp

theorem infix_joinWith {pieces : List (List Char)} {piece : List Char} (h : piece ∈ pieces) :
    piece <:+: joinWith sep pieces := by
  obtain ⟨before, after, rfl⟩ := List.append_of_mem h
  rw [joinWith_append, joinWith_cons, ← List.append_assoc]
  exact List.infix_append _ _ _

theorem infix_of_mem_cut {s piece : List Char} (h : piece ∈ cut sep s) : piece <:+: s := by
  have hpiece : piece <:+: joinWith sep (cut sep s) := infix_joinWith h
  rwa [joinWith_cut] at hpiece

/-- Joined pieces are cut into themselves. -/
theorem cut_joinWith {pieces : List (List Char)} (hne : pieces ≠ [])
    (h : ∀ piece ∈ pieces, sep ∉ piece) : cut sep (joinWith sep pieces) = pieces := by
  induction pieces with
  | nil => exact absurd rfl hne
  | cons piece pieces ih =>
    obtain ⟨hpiece, hpieces⟩ := List.forall_mem_cons.1 h
    cases pieces with
    | nil => exact cut_of_notMem hpiece
    | cons next pieces =>
      rw [joinWith_cons_cons, cut_append hpiece, ih (List.cons_ne_nil _ _) hpieces]

/-- A joined text has no characters but those of the pieces and the separator. -/
theorem notMem_joinWith {pieces : List (List Char)} {c : Char} (hc : c ≠ sep)
    (h : ∀ piece ∈ pieces, c ∉ piece) : c ∉ joinWith sep pieces := by
  cases pieces with
  | nil => simp [joinWith]
  | cons piece pieces =>
    obtain ⟨hpiece, hpieces⟩ := List.forall_mem_cons.1 h
    rw [joinWith_cons, List.mem_append, not_or]
    refine ⟨hpiece, fun hmem => ?_⟩
    obtain ⟨p, hp, hcp⟩ := List.mem_flatMap.1 hmem
    exact (List.mem_cons.1 hcp).elim hc (hpieces p hp)

theorem flatMap_cons_inj_of_forall₂ {pieces others : List (List Char)}
    (h : List.Forall₂ (fun p q : List Char => p.length = q.length) pieces others)
    (heq : (pieces.flatMap fun p => sep :: p) = others.flatMap fun p => sep :: p) :
    pieces = others := by
  induction h with
  | nil => rfl
  | cons hlength _ ih =>
    rw [List.flatMap_cons, List.flatMap_cons] at heq
    obtain ⟨hpiece, hrest⟩ := List.append_inj heq (by simpa using hlength)
    rw [(List.cons.inj hpiece).2, ih hrest]

/-- Pieces of the same lengths that are joined to the same text are the same. -/
theorem joinWith_inj_of_forall₂ {pieces others : List (List Char)}
    (h : List.Forall₂ (fun p q : List Char => p.length = q.length) pieces others)
    (heq : joinWith sep pieces = joinWith sep others) : pieces = others := by
  cases h with
  | nil => rfl
  | cons hlength hrest =>
    rw [joinWith_cons, joinWith_cons] at heq
    obtain ⟨hpiece, heq⟩ := List.append_inj heq hlength
    rw [hpiece, flatMap_cons_inj_of_forall₂ hrest heq]

/-! ## A text around a piece -/

section Around

variable {s t last first : List Char} {init rest : List (List Char)}

/-- What stands between two texts goes on with the last piece of the one, and the first piece of the
    other one goes on with it. -/
theorem joinWith_around (middle : List Char) (hs : cut sep s = init ++ [last])
    (ht : cut sep t = first :: rest) :
    joinWith sep (init ++ (last ++ middle ++ first) :: rest) = s ++ middle ++ t := by
  have hs' : (init.flatMap fun p => p ++ [sep]) ++ last = s := by
    rw [← joinWith_cut sep s, hs, joinWith_append]
    rfl
  have ht' : first ++ (rest.flatMap fun p => sep :: p) = t := by
    rw [← joinWith_cut sep t, ht, joinWith_cons]
  rw [joinWith_append, joinWith_cons, ← hs', ← ht']
  simp only [List.append_assoc]

/-- A text is cut before and behind what has no separator, and nothing is cut there. -/
theorem cut_around {middle : List Char} (hmiddle : sep ∉ middle)
    (hs : cut sep s = init ++ [last]) (ht : cut sep t = first :: rest) :
    cut sep (s ++ middle ++ t) = init ++ (last ++ middle ++ first) :: rest := by
  have hinit : ∀ piece ∈ init ++ [last], sep ∉ piece :=
    fun piece h => notMem_of_mem_cut (hs ▸ h)
  have hrest : ∀ piece ∈ first :: rest, sep ∉ piece :=
    fun piece h => notMem_of_mem_cut (ht ▸ h)
  obtain ⟨hinit, hlast⟩ := List.forall_mem_append.1 hinit
  obtain ⟨hfirst, hrest⟩ := List.forall_mem_cons.1 hrest
  rw [← joinWith_around middle hs ht, cut_joinWith (by simp)]
  refine List.forall_mem_append.2 ⟨hinit, List.forall_mem_cons.2 ⟨?_, hrest⟩⟩
  rw [List.mem_append, List.mem_append, not_or, not_or]
  exact ⟨⟨hlast last (List.mem_singleton_self last), hmiddle⟩, hfirst⟩

end Around

/-- A text has one piece more than separators. -/
theorem length_cut (sep : Char) (s : List Char) : (cut sep s).length = s.count sep + 1 := by
  induction s with
  | nil => rfl
  | cons c rest ih =>
    obtain ⟨first, others, hcut⟩ := List.exists_cons_of_ne_nil (cut_ne_nil sep rest)
    rw [hcut] at ih
    rw [cut, hcut, List.count_cons]
    split
    · next hc => simpa [hc] using ih
    · next hc => simpa [hc] using ih

/-! ## Replacing -/

/-- A text without a piece stays as it is when that piece is replaced. -/
theorem replaceAll_of_absent {old : List Char} (new : List Char) {s : List Char}
    (h : ¬ old <:+: s) : replaceAll old new s = s := by
  induction s with
  | nil => rw [replaceAll]
  | cons c rest ih =>
    rw [List.infix_cons_iff, not_or] at h
    obtain ⟨hhere, hrest⟩ := h
    have hno : ¬ (old ≠ [] ∧ old.isPrefixOf (c :: rest) = true) :=
      fun hp => hhere (List.isPrefixOf_iff_prefix.1 hp.2)
    rw [replaceAll, if_neg hno, ih hrest]

/-- A piece is replaced where it stands, if it does not begin earlier and does not come again. -/
theorem replaceAll_around {old : List Char} (new : List Char) (hne : old ≠ [])
    {before after : List Char}
    (hearlier : ∀ u v, u ++ v = before → v ≠ [] → ¬ old <+: v ++ (old ++ after))
    (hlater : ¬ old <:+: after) :
    replaceAll old new (before ++ (old ++ after)) = before ++ (new ++ after) := by
  induction before with
  | nil =>
    obtain ⟨c, rest, rfl⟩ := List.exists_cons_of_ne_nil hne
    have hhere : (c :: rest) ≠ [] ∧ (c :: rest).isPrefixOf (c :: (rest ++ after)) = true :=
      ⟨hne, List.isPrefixOf_iff_prefix.2 (List.prefix_append (c :: rest) after)⟩
    have hdrop : (rest ++ after).drop ((c :: rest).length - 1) = after := List.drop_left
    rw [List.nil_append, List.nil_append, List.cons_append, replaceAll, if_pos hhere, hdrop,
      replaceAll_of_absent new hlater]
  | cons c before ih =>
    have hno : ¬ (old ≠ [] ∧ old.isPrefixOf (c :: (before ++ (old ++ after))) = true) :=
      fun h => hearlier [] (c :: before) rfl (List.cons_ne_nil _ _)
        (List.isPrefixOf_iff_prefix.1 h.2)
    rw [List.cons_append, replaceAll, if_neg hno,
      ih fun u v huv => hearlier (c :: u) v (by rw [List.cons_append, huv])]
    rfl

/-! ## Trimming -/

section Trimming

variable {p : Char → Bool}

/-- A text without the characters of a class at its ends. -/
def trimmed (p : Char → Bool) (s : List Char) : List Char :=
  ((s.dropWhile p).reverse.dropWhile p).reverse

/-- No character of a class stands at an end of a text. -/
structure HasBareEnds (p : Char → Bool) (s : List Char) : Prop where
  first : ∀ c ∈ s.head?, p c = false
  last : ∀ c ∈ s.getLast?, p c = false

theorem dropWhile_of_head {s : List Char} (h : ∀ c ∈ s.head?, p c = false) :
    s.dropWhile p = s := by
  cases s with
  | nil => rfl
  | cons c s => rw [List.dropWhile_cons_of_neg (by rw [h c rfl]; decide)]

theorem head_dropWhile (s : List Char) : ∀ c ∈ (s.dropWhile p).head?, p c = false := by
  induction s with
  | nil => simp
  | cons c s ih =>
    cases hc : p c with
    | true => rwa [List.dropWhile_cons_of_pos hc]
    | false =>
      rw [List.dropWhile_cons_of_neg (by rw [hc]; decide)]
      intro d hd
      cases hd
      exact hc

theorem trimmed_of_hasBareEnds {s : List Char} (h : HasBareEnds p s) : trimmed p s = s := by
  have hlast : ∀ c ∈ s.reverse.head?, p c = false := by
    rw [List.head?_reverse]
    exact h.last
  rw [trimmed, dropWhile_of_head h.first, dropWhile_of_head hlast, List.reverse_reverse]

theorem exists_append_trimmed (p : Char → Bool) (s : List Char) :
    ∃ before after, s = before ++ trimmed p s ++ after ∧ (∀ c ∈ before, p c = true) ∧
      ∀ c ∈ after, p c = true := by
  refine ⟨s.takeWhile p, ((s.dropWhile p).reverse.takeWhile p).reverse, ?_,
    fun c hc => List.mem_takeWhile_imp hc,
    fun c hc => List.mem_takeWhile_imp (List.mem_reverse.1 hc)⟩
  rw [trimmed, List.append_assoc, ← List.reverse_append, List.takeWhile_append_dropWhile,
    List.reverse_reverse, List.takeWhile_append_dropWhile]

theorem hasBareEnds_trimmed (p : Char → Bool) (s : List Char) : HasBareEnds p (trimmed p s) := by
  have hfront : trimmed p s ++ ((s.dropWhile p).reverse.takeWhile p).reverse = s.dropWhile p := by
    rw [trimmed, ← List.reverse_append, List.takeWhile_append_dropWhile, List.reverse_reverse]
  refine ⟨fun c hc => head_dropWhile s c ?_, fun c hc => ?_⟩
  · rw [← hfront, List.head?_append, Option.mem_def.1 hc]
    rfl
  · rw [trimmed, List.getLast?_reverse] at hc
    exact head_dropWhile _ c hc

theorem mem_of_mem_trimmed {s : List Char} {c : Char} (h : c ∈ trimmed p s) : c ∈ s := by
  obtain ⟨before, after, hsplit, -, -⟩ := exists_append_trimmed p s
  rw [hsplit]
  exact List.mem_append_left _ (List.mem_append_right _ h)

/-- Nothing of a class at the ends of a text matters to it when it is trimmed. -/
theorem trimmed_around {before after : List Char} (hbefore : ∀ c ∈ before, p c = true)
    (hafter : ∀ c ∈ after, p c = true) (s : List Char) :
    trimmed p (before ++ s ++ after) = trimmed p s := by
  have hfront : (before ++ s ++ after).dropWhile p = (s ++ after).dropWhile p := by
    rw [List.append_assoc, List.dropWhile_append_of_pos hbefore]
  have hback : ∀ t : List Char, (t ++ after).reverse.dropWhile p = t.reverse.dropWhile p := by
    intro t
    rw [List.reverse_append,
      List.dropWhile_append_of_pos fun c hc => hafter c (List.mem_reverse.1 hc)]
  rw [trimmed, trimmed, hfront, List.dropWhile_append]
  split
  · next hnil =>
    have hall : after.dropWhile p = [] := List.dropWhile_eq_nil_iff.2 hafter
    rw [List.isEmpty_iff.1 hnil, hall]
  · rw [hback]

theorem HasBareEnds.mono {q : Char → Bool} {s : List Char} (hpq : ∀ c, q c = true → p c = true)
    (h : HasBareEnds p s) : HasBareEnds q s := by
  have hbare : ∀ c, p c = false → q c = false := fun c hc =>
    Bool.eq_false_iff.2 fun hq => Bool.eq_false_iff.1 hc (hpq c hq)
  exact ⟨fun c hc => hbare c (h.first c hc), fun c hc => hbare c (h.last c hc)⟩

theorem trimmed_eq_self_iff {s : List Char} : trimmed p s = s ↔ HasBareEnds p s :=
  ⟨fun h => h ▸ hasBareEnds_trimmed p s, trimmed_of_hasBareEnds⟩

/-- A text that is made of another one, with no more of a class at its ends. -/
structure KeepsEnds (p : Char → Bool) (s out : List Char) : Prop where
  nil : out = [] → s = []
  first : (∃ c ∈ out.head?, p c = true) → ∃ c ∈ s.head?, p c = true
  last : (∃ c ∈ out.getLast?, p c = true) → ∃ c ∈ s.getLast?, p c = true

namespace KeepsEnds

variable {s s' t out out' : List Char}

theorem refl (p : Char → Bool) (s : List Char) : KeepsEnds p s s := ⟨id, id, id⟩

theorem trans (h : KeepsEnds p s t) (h' : KeepsEnds p t out) : KeepsEnds p s out :=
  ⟨fun hnil => h.nil (h'.nil hnil), fun hfirst => h.first (h'.first hfirst),
    fun hlast => h.last (h'.last hlast)⟩

theorem of_hasBareEnds (h : HasBareEnds p out) (hne : out ≠ []) : KeepsEnds p s out where
  nil hnil := absurd hnil hne
  first := fun ⟨c, hc, hp⟩ => absurd hp (Bool.eq_false_iff.1 (h.first c hc))
  last := fun ⟨c, hc, hp⟩ => absurd hp (Bool.eq_false_iff.1 (h.last c hc))

theorem hasBareEnds (h : KeepsEnds p s out) (hs : HasBareEnds p s) : HasBareEnds p out where
  first c hc := Bool.eq_false_iff.2 fun hp => by
    obtain ⟨d, hd, hpd⟩ := h.first ⟨c, hc, hp⟩
    exact Bool.eq_false_iff.1 (hs.first d hd) hpd
  last c hc := Bool.eq_false_iff.2 fun hp => by
    obtain ⟨d, hd, hpd⟩ := h.last ⟨c, hc, hp⟩
    exact Bool.eq_false_iff.1 (hs.last d hd) hpd

theorem append (h : KeepsEnds p s out) (h' : KeepsEnds p s' out') :
    KeepsEnds p (s ++ s') (out ++ out') := by
  refine ⟨fun hnil => ?_, fun hfirst => ?_, fun hlast => ?_⟩
  · rw [List.append_eq_nil_iff] at hnil ⊢
    exact ⟨h.nil hnil.1, h'.nil hnil.2⟩
  · cases out with
    | nil =>
      rw [h.nil rfl]
      exact h'.first hfirst
    | cons c out =>
      obtain ⟨d, hd, hp⟩ := h.first hfirst
      exact ⟨d, by rw [List.head?_append, Option.mem_def.1 hd]; rfl, hp⟩
  · rcases List.eq_nil_or_concat out' with rfl | ⟨out', c, rfl⟩
    · rw [h'.nil rfl, List.append_nil]
      exact h.last (by rwa [List.append_nil] at hlast)
    · obtain ⟨d, hd, hp⟩ := h'.last (by simpa [← List.append_assoc] using hlast)
      exact ⟨d, by rw [List.getLast?_append, Option.mem_def.1 hd]; rfl, hp⟩

theorem flatMap {f : Char → List Char} (h : ∀ c ∈ s, KeepsEnds p [c] (f c)) :
    KeepsEnds p s (s.flatMap f) := by
  induction s with
  | nil => exact refl p []
  | cons c s ih =>
    obtain ⟨hc, hs⟩ := List.forall_mem_cons.1 h
    exact hc.append (ih hs)

end KeepsEnds

end Trimming

end FieldRules.Text
