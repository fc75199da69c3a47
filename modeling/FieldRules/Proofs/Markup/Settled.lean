import FieldRules.Proofs.Markup.Scanning
import FieldRules.Proofs.Service.Sanitizing

/-!
# What settles when it is sanitized again

A text without tags is written so that it is read again as it is. So is what comes of any text, if
no tags are left in it, or tidy ones. But a value is trimmed before its markup is left out, and what
had been inside of the markup can come to stand at its ends.

Results:
* `shown_of_clean`: what has been cleaned is a shown text, if no tags are left in it.
* `clean_plain`: what comes of a text without tags.
* `Registry.sanitize_settles`: what sanitizing a value again comes to.
-/

namespace FieldRules.Markup

/-! ## Texts as they are written -/

theorem shown_reference {name : List Char} (h : IsReference name) :
    Shown ('&' :: name ++ [';']) :=
  ⟨[.reference name], List.forall_mem_singleton.2 h, (List.append_nil _).symm⟩

theorem shown_letters {run : List Char} (h : ∀ c ∈ run, (Item.letter c).IsShown) : Shown run := by
  refine ⟨run.map .letter, ?_, ?_⟩
  · simpa using h
  · simp [textOf, List.flatMap_map, Item.text]

/-- Every character of a text is written as a letter or as a reference. -/
theorem shown_escapeText {run : List Char} (h : ∀ c ∈ run, IsClear c) : Shown (escapeText run) := by
  induction run with
  | nil => exact Shown.nil
  | cons c run ih =>
    obtain ⟨hc, hrun⟩ := List.forall_mem_cons.1 h
    rw [escapeText, List.flatMap_cons]
    refine Shown.append ?_ (ih hrun)
    split
    · exact shown_reference isReference_amp
    · next hand =>
      split
      · exact shown_reference isReference_lt
      · next hless =>
        split
        · exact shown_reference isReference_gt
        · next hgreater =>
          exact shown_letters (List.forall_mem_singleton.2 ⟨hc, hand, hless, hgreater⟩)

theorem isReference_of_reference? {part name : List Char} (h : reference? part = some name)
    (hname : ∀ c ∈ name, IsClear c ∧ c ≠ '&' ∧ c ≠ '<') : IsReference name :=
  ⟨(reference?_append h).2, hname⟩

/-! ## What comes of any text -/

/-- A piece that a text has been cut into: spaces are spaces, and references have been read. -/
def Piece.IsSound : Piece → Prop
  | .spaces run => ∀ c ∈ run, isSpace c = true
  | .reference name => ∃ part, '&' ∉ part ∧ reference? part = some name
  | _ => True

theorem isSound_of_mem_textPieces {run : List Char} : ∀ p ∈ textPieces run, p.IsSound := by
  obtain ⟨left, middle, right, -, hleft, hright, hpieces⟩ := exists_textPieces run
  rw [hpieces]
  intro p hp
  have hthree := (List.mem_filter.1 hp).1
  simp only [List.mem_cons, List.not_mem_nil, or_false] at hthree
  rcases hthree with rfl | rfl | rfl
  · exact hleft
  · trivial
  · exact hright

theorem isSound_of_mem_contentPieces {t : Tree} {depth : Nat} {contents : List Content} :
    ∀ p ∈ contentPieces t depth contents, p.IsSound := by
  induction depth generalizing contents with
  | zero => exact fun _ h => absurd h List.not_mem_nil
  | succ depth ih =>
    intro p hp
    have helement : ∀ (e : Element) (attributes : List Attribute),
        p ∈ (if e.dialect = .html && e.name ∈ voidElements then [Piece.start e.name attributes]
          else .start e.name attributes :: contentPieces t depth e.contents ++ [.finish e.name]) →
        p.IsSound := by
      intro e attributes hp
      split at hp
      · rw [List.mem_singleton.1 hp]
        trivial
      · rcases List.mem_append.1 hp with hp | hp
        · rcases List.mem_cons.1 hp with rfl | hp
          · trivial
          · exact ih p hp
        · rw [List.mem_singleton.1 hp]
          trivial
    rw [contentPieces] at hp
    obtain ⟨content, -, hp⟩ := List.mem_flatMap.1 hp
    cases content with
    | text run => exact isSound_of_mem_textPieces p hp
    | comment => cases hp
    | element child => exact helement _ _ hp
    | guest child => exact helement _ _ hp

theorem isSound_of_mem_referencePieces {run : List Char} :
    ∀ p ∈ referencePieces run, p.IsSound := by
  rw [referencePieces_eq]
  refine List.forall_mem_cons.2 ⟨trivial, fun p hp => ?_⟩
  obtain ⟨part, hpart, hp⟩ := List.mem_flatMap.1 hp
  have hnone : '&' ∉ part := (notMem_cutAtAmpersands _).2 part hpart
  unfold partPieces at hp
  split at hp
  · next name hname =>
    simp only at hp
    split at hp
    · simp only [List.mem_cons, List.not_mem_nil, or_false] at hp
      rcases hp with rfl | rfl <;> trivial
    · simp only [List.mem_cons, List.not_mem_nil, or_false] at hp
      rcases hp with rfl | rfl
      · exact ⟨part, hnone, hname⟩
      · trivial
  · rw [List.mem_singleton.1 hp]
    trivial

/-- What is kept of a sound piece is sound. -/
theorem Piece.IsSound.kept {policy : Policy} {tags : List String} {piece : Piece}
    {kept : List Piece} (h : piece.IsSound) (hkept : keptPieces policy tags piece = .ok kept) :
    ∀ p ∈ kept, p.IsSound := by
  cases piece with
  | text run =>
    cases hkept
    exact isSound_of_mem_referencePieces
  | spaces run =>
    cases hkept
    exact List.forall_mem_singleton.2 h
  | reference name =>
    cases hkept
    exact List.forall_mem_singleton.2 h
  | start name attributes =>
    rw [keptPieces] at hkept
    split at hkept
    · rcases hattributes : keptAttributes policy name attributes with fault | allowed
      · rw [hattributes] at hkept
        cases hkept
      · rw [hattributes] at hkept
        cases hkept
        exact List.forall_mem_singleton.2 trivial
    · cases hkept
      split
      · exact fun _ hp => absurd hp List.not_mem_nil
      · exact List.forall_mem_singleton.2 trivial
  | finish name =>
    cases hkept
    split
    · exact List.forall_mem_singleton.2 trivial
    · split
      · exact fun _ hp => absurd hp List.not_mem_nil
      · exact List.forall_mem_singleton.2 trivial

theorem isClear_of_escapeText {run : List Char} (h : ∀ c ∈ escapeText run, IsClear c) :
    ∀ c ∈ run, IsClear c := by
  intro c hc
  by_cases hmark : c = '&' ∨ c = '<' ∨ c = '>'
  · rcases hmark with rfl | rfl | rfl <;> decide
  · obtain ⟨hand, hless, hgreater⟩ : c ≠ '&' ∧ c ≠ '<' ∧ c ≠ '>' := by simpa using hmark
    refine h c (List.mem_flatMap.2 ⟨c, hc, ?_⟩)
    rw [if_neg hand, if_neg hless, if_neg hgreater]
    exact List.mem_singleton_self c

/-- A sound piece that is written without brackets and control characters is a shown text. -/
theorem Piece.IsSound.shown {piece : Piece} (h : piece.IsSound)
    (hclear : ∀ c ∈ piece.marks.flatten, IsClear c ∧ c ≠ '<') : Shown piece.marks.flatten := by
  have hnoTag : ∀ mark ∈ piece.marks, mark.head? ≠ some '<' := fun mark hmark hhead =>
    (hclear '<' (List.mem_flatten.2 ⟨mark, hmark, List.mem_of_head? hhead⟩)).2 rfl
  cases piece with
  | text run =>
    rw [flatten_marks_text] at hclear ⊢
    exact shown_escapeText (isClear_of_escapeText fun c hc => (hclear c hc).1)
  | spaces run =>
    have hmarks : (Piece.spaces run).marks.flatten = run := List.append_nil run
    rw [hmarks] at hclear ⊢
    refine shown_letters fun c hc => ?_
    obtain ⟨⟨hand, hless⟩, -, hgreater⟩ := isUnmarked_isSpace c (h c hc)
    exact ⟨(hclear c hc).1, hand, hless, hgreater⟩
  | reference name =>
    obtain ⟨part, hpart, hname⟩ := h
    have hmarks : (Piece.reference name).marks.flatten = '&' :: name ++ [';'] := List.append_nil _
    rw [hmarks] at hclear ⊢
    refine shown_reference (isReference_of_reference? hname fun c hc => ?_)
    obtain ⟨hc', hless⟩ := hclear c (by simp [hc])
    refine ⟨hc', fun hand => hpart ?_, hless⟩
    exact (reference?_append hname).1.subset (hand ▸ hc)
  | start name attributes => exact absurd rfl (hnoTag _ List.mem_cons_self)
  | finish name => exact absurd rfl (hnoTag _ List.mem_cons_self)

theorem shown_written {pieces : List Piece} (h : ∀ p ∈ pieces, p.IsSound)
    (hclear : ∀ c ∈ written pieces, IsClear c ∧ c ≠ '<') : Shown (written pieces) := by
  induction pieces with
  | nil => exact Shown.nil
  | cons piece pieces ih =>
    obtain ⟨hpiece, hpieces⟩ := List.forall_mem_cons.1 h
    obtain ⟨hfirst, hrest⟩ := List.forall_mem_append.1 hclear
    exact (hpiece.shown hfirst).append (ih hpieces hrest)

/-- What has been cleaned is a shown text, if no tags and no control characters are left in it. -/
theorem shown_of_clean {policy : Policy} {s out : List Char} (hs : s ≠ [])
    (h : clean policy s = .ok out) (hclear : ∀ c ∈ out, IsClear c ∧ c ≠ '<') : Shown out := by
  obtain ⟨tags, kept, -, -, hkept, rfl⟩ := (clean_eq_ok_iff hs).1 h
  have hnoTag : ∀ mark ∈ (joinTexts kept.flatten).flatMap Piece.marks, mark.head? ≠ some '<' :=
    fun mark hmark hhead => (hclear '<' (mem_writeMarks hmark hhead false)).2 rfl
  rw [writeMarks_of_no_tag hnoTag, flatten_flatMap_marks, written_joinTexts] at hclear ⊢
  refine shown_written (fun p hp => ?_) hclear
  obtain ⟨pieces, hpieces, hp⟩ := List.mem_flatten.1 hp
  obtain ⟨piece, hpiece, hone⟩ := Spec.exists_of_mem_mapM hkept hpieces
  exact (isSound_of_mem_contentPieces piece hpiece).kept hone p hp

/-! ## What comes of a text without tags -/

section Plain

open Text Unicode

theorem hasBareEnds_reference {name : List Char} : HasBareEnds isBlank ('&' :: name ++ [';']) where
  first c hc := by cases hc; rfl
  last c hc := by
    rw [List.getLast?_concat] at hc
    cases hc
    rfl

theorem keepsEnds_reference (s name : List Char) :
    KeepsEnds isBlank s ('&' :: name ++ [';']) :=
  .of_hasBareEnds hasBareEnds_reference (by simp)

theorem keepsEnds_escapeText (run : List Char) : KeepsEnds isBlank run (escapeText run) := by
  refine KeepsEnds.flatMap fun c _ => ?_
  split
  · exact keepsEnds_reference [c] "amp".toList
  · split
    · exact keepsEnds_reference [c] "lt".toList
    · split
      · exact keepsEnds_reference [c] "gt".toList
      · exact .refl isBlank [c]

theorem keepsEnds_visible (run : List Char) : KeepsEnds isBlank run (visible run) := by
  have hmap : visible run = run.flatMap fun c => [if isInvisible c then '?' else c] :=
    List.map_eq_flatMap
  rw [hmap]
  refine KeepsEnds.flatMap fun c _ => ?_
  split
  · exact .of_hasBareEnds ⟨fun c hc => by cases hc; rfl, fun c hc => by cases hc; rfl⟩
      (List.cons_ne_nil _ _)
  · exact .refl isBlank [c]

/-- What follows an ampersand is written with the ends that it has. -/
theorem keepsEnds_partPieces (part : List Char) :
    KeepsEnds isBlank ('&' :: part) (written (partPieces part)) := by
  rcases hname : reference? part with _ | name
  · rw [written_partPieces_of_none hname]
    exact keepsEnds_escapeText ('&' :: part)
  · have hsplit : '&' :: part =
        ('&' :: part.take (name.length + 1)) ++ part.drop (name.length + 1) := by
      rw [List.cons_append, List.take_append_drop]
    rw [written_partPieces_of_some hname, hsplit]
    exact (keepsEnds_reference _ name).append (keepsEnds_escapeText _)

theorem shown_partPieces {part : List Char} (h : ∀ c ∈ part, IsClear c ∧ c ≠ '&' ∧ c ≠ '<') :
    Shown (written (partPieces part)) := by
  rcases hname : reference? part with _ | name
  · rw [written_partPieces_of_none hname]
    exact shown_escapeText (List.forall_mem_cons.2 ⟨by decide, fun c hc => (h c hc).1⟩)
  · have hreference : IsReference name := isReference_of_reference? hname fun c hc =>
      h c ((reference?_append hname).1.subset hc)
    rw [written_partPieces_of_some hname]
    exact (shown_reference hreference).append
      (shown_escapeText fun c hc => (h c (List.mem_of_mem_drop hc)).1)

/-- A text without brackets is written as a shown text, with the ends that it has. -/
theorem written_referencePieces_plain {run : List Char} (h : ∀ c ∈ run, c ≠ '\r' ∧ c ≠ '<') :
    Shown (written (referencePieces run)) ∧
      KeepsEnds isBlank run (written (referencePieces run)) := by
  have hclear : ∀ c ∈ visible run, IsClear c ∧ c ≠ '<' := by
    intro c hc
    obtain ⟨d, hd, rfl⟩ := List.mem_map.1 hc
    split
    · decide
    · next hvisible => exact ⟨⟨by simpa using hvisible, (h d hd).1⟩, (h d hd).2⟩
  have hcut := append_cutAtAmpersands (visible run)
  have hnone := notMem_cutAtAmpersands (visible run)
  rw [← hcut] at hclear
  obtain ⟨hfirst, hparts⟩ := List.forall_mem_append.1 hclear
  have hwritten : ∀ parts ⊆ (cutAtAmpersands (visible run)).2,
      Shown (written (parts.flatMap partPieces)) ∧
        KeepsEnds isBlank (parts.flatMap ('&' :: ·)) (written (parts.flatMap partPieces)) := by
    intro parts hsub
    induction parts with
    | nil => exact ⟨Shown.nil, .refl isBlank []⟩
    | cons part parts ih =>
      obtain ⟨hpart, hsub⟩ := List.cons_subset.1 hsub
      obtain ⟨hshown, hends⟩ := ih hsub
      have hletters : ∀ c ∈ part, IsClear c ∧ c ≠ '&' ∧ c ≠ '<' := by
        intro c hc
        obtain ⟨hc', hless⟩ := hparts c
          (List.mem_flatMap.2 ⟨part, hpart, List.mem_cons_of_mem _ hc⟩)
        exact ⟨hc', fun hand => hnone.2 part hpart (hand ▸ hc), hless⟩
      rw [List.flatMap_cons, List.flatMap_cons, written_append]
      exact ⟨(shown_partPieces hletters).append hshown, (keepsEnds_partPieces part).append hends⟩
  obtain ⟨hshown, hends⟩ := hwritten _ (List.Subset.refl _)
  rw [referencePieces_eq, written_cons, flatten_marks_text]
  refine ⟨(shown_escapeText fun c hc => (hfirst c hc).1).append hshown, ?_⟩
  have hboth := (keepsEnds_escapeText (cutAtAmpersands (visible run)).1).append hends
  rw [hcut] at hboth
  exact (keepsEnds_visible run).trans hboth

/-- Line ends are blanks, whichever way they are written. -/
theorem keepsEnds_unifyLines (s : List Char) : KeepsEnds isBlank s (unifyLines s) := by
  fun_induction unifyLines s with
  | case1 rest ih =>
    have hline : KeepsEnds isBlank ['\r', '\n'] ['\n'] :=
      ⟨nofun, fun _ => ⟨'\r', rfl, rfl⟩, fun _ => ⟨'\n', rfl, rfl⟩⟩
    exact hline.append ih
  | case2 rest hrest ih =>
    have hline : KeepsEnds isBlank ['\r'] ['\n'] :=
      ⟨nofun, fun _ => ⟨'\r', rfl, rfl⟩, fun _ => ⟨'\r', rfl, rfl⟩⟩
    exact hline.append ih
  | case3 c rest hc hreturn ih => exact (KeepsEnds.refl isBlank [c]).append ih
  | case4 => exact .refl isBlank []

theorem mem_unifyLines {s : List Char} :
    ∀ c ∈ unifyLines s, c ≠ '\r' ∧ (c = '\n' ∨ c ∈ s) := by
  fun_induction unifyLines s with
  | case1 rest ih =>
    refine List.forall_mem_cons.2 ⟨⟨by decide, .inl rfl⟩, fun c hc => ?_⟩
    exact ⟨(ih c hc).1, (ih c hc).2.imp_right fun hmem => by simp [hmem]⟩
  | case2 rest hrest ih =>
    refine List.forall_mem_cons.2 ⟨⟨by decide, .inl rfl⟩, fun c hc => ?_⟩
    exact ⟨(ih c hc).1, (ih c hc).2.imp_right (List.mem_cons_of_mem _)⟩
  | case3 c rest hc hreturn ih =>
    refine List.forall_mem_cons.2 ⟨⟨hreturn, .inr List.mem_cons_self⟩, fun d hd => ?_⟩
    exact ⟨(ih d hd).1, (ih d hd).2.imp_right (List.mem_cons_of_mem _)⟩
  | case4 => exact fun _ h => absurd h List.not_mem_nil

/-- The tree of a text without tags has the text alone. -/
theorem pieces_plain {policy : TagPolicy} {s : List Char} (h : ∀ c ∈ s, c ≠ '<' ∧ c.toNat ≠ 0)
    (hs : s ≠ []) : (Tree.ofText policy s).pieces = textPieces (unifyLines s) := by
  have hunified : ∀ c ∈ unifyLines s, c ≠ '<' ∧ c.toNat ≠ 0 := by
    intro c hc
    rcases (mem_unifyLines c hc).2 with rfl | hc
    · decide
    · exact h c hc
  have htree : Tree.ofText policy s = Tree.start.addText (unifyLines s) :=
    (isAt_start.read_run hunified).finish
  have hne : unifyLines s ≠ [] := fun hnil => hs ((keepsEnds_unifyLines s).nil hnil)
  have hnode : ((Tree.start.addText (unifyLines s)).node 0).contents =
      [.text (unifyLines s).reverse] := by
    rw [Tree.addText_of_ne_nil rfl hne]
    rfl
  have hsize : (Tree.start.addText (unifyLines s)).elements.size = 1 := by
    rw [Tree.addText_of_ne_nil rfl hne]
    rfl
  rw [htree, Tree.pieces, hnode, hsize, Tree.settled_text, contentPieces_text, List.reverse_reverse]

/-- A text without spaces at its ends is one piece. -/
theorem textPieces_of_hasBareEnds {run : List Char} (h : HasBareEnds isSpace run) (hne : run ≠ []) :
    textPieces run = [.text run] := by
  have hnone : ∀ s : List Char, (∀ c ∈ s.head?, isSpace c = false) → s.takeWhile isSpace = [] := by
    intro s hs
    cases s with
    | nil => rfl
    | cons c s => rw [List.takeWhile_cons_of_neg (by rw [hs c rfl]; decide)]
  have hlast : run.reverse.takeWhile isSpace = [] :=
    hnone _ (by rw [List.head?_reverse]; exact h.last)
  obtain ⟨c, rest, rfl⟩ := List.exists_cons_of_ne_nil hne
  simp only [textPieces, hnone _ h.first, List.length_nil, List.drop_zero, hlast, List.reverse_nil,
    Nat.sub_zero, List.take_length]
  rfl

theorem isBlank_of_isSpace {c : Char} (h : isSpace c = true) : isBlank c = true := by
  simp only [isSpace, Bool.or_eq_true, decide_eq_true_eq] at h
  rcases h with (((rfl | rfl) | rfl) | rfl) | rfl <;> rfl

/-- What comes of a text without tags: a shown text, without blanks at its ends if there were
    none. -/
theorem clean_plain {policy : Policy} {tags : List String} {s : List Char}
    (h : ∀ c ∈ s, c ≠ '<' ∧ c.toNat ≠ 0) (hs : s ≠ []) (hends : HasBareEnds isBlank s)
    (htags : policy.tags = .ok tags) (hattributes : policy.attributes ≠ .unusable) :
    ∃ out, clean policy s = .ok out ∧ Shown out ∧ HasBareEnds isBlank out := by
  have hline := keepsEnds_unifyLines s
  have hunified : ∀ c ∈ unifyLines s, c ≠ '\r' ∧ c ≠ '<' := by
    intro c hc
    obtain ⟨hreturn, rfl | hc⟩ := mem_unifyLines c hc
    · decide
    · exact ⟨hreturn, (h c hc).1⟩
  have hpieces : textPieces (unifyLines s) = [.text (unifyLines s)] :=
    textPieces_of_hasBareEnds ((hline.hasBareEnds hends).mono fun _ => isBlank_of_isSpace)
      fun hnil => hs (hline.nil hnil)
  obtain ⟨hshown, hkeeps⟩ := written_referencePieces_plain hunified
  refine ⟨_, clean_of_keeps htags hattributes hs (.inr fun hmem => ?_) ?_, hshown,
    (hline.trans hkeeps).hasBareEnds hends⟩
  · exact (hshown.isClear _ hmem).2 rfl
  · rw [pieces_plain h hs, hpieces]
    exact Keeps.single rfl

end Plain

/-! ## Texts that stay as they are -/

theorem isUnmarked_isBlank : IsUnmarked Unicode.isBlank := by
  intro c h
  refine ⟨⟨?_, ?_⟩, ?_, ?_⟩ <;> rintro rfl <;> cases h

/-- A text that is left as it is when it is sanitized. -/
structure IsSettled (policy : Policy) (s : List Char) : Prop where
  clean : clean policy s = .ok s
  ends : Text.HasBareEnds Unicode.isBlank s

theorem clean_nil {policy : Policy} {tags : List String} (htags : policy.tags = .ok tags) :
    clean policy [] = .ok [] := by
  rw [Markup.clean, htags]
  rfl

/-- A tidy text is settled when it has been trimmed. -/
theorem isSettled_of_tidy {policy : Policy} {tags : List String} {s : List Char}
    (h : Tidy tags s) (hmarks : '=' ∉ s ∨ '<' ∉ s) (htags : policy.tags = .ok tags)
    (hattributes : policy.attributes ≠ .unusable) : IsSettled policy (Unicode.trim s) := by
  refine ⟨?_, Text.hasBareEnds_trimmed Unicode.isBlank s⟩
  obtain ⟨before, after, hsplit, hbefore, hafter⟩ := Text.exists_append_trimmed Unicode.isBlank s
  have hsub : ∀ c, c ∉ s → c ∉ Unicode.trim s := fun _ => mt Text.mem_of_mem_trimmed
  by_cases hnil : Unicode.trim s = []
  · rw [hnil]
    exact clean_nil htags
  · rw [hsplit] at h
    exact clean_of_tidy (h.of_around isUnmarked_isBlank hbefore hafter) hnil htags hattributes
      (hmarks.imp (hsub _) (hsub _))

/-- What comes of a text without tags is settled. -/
theorem exists_isSettled_of_plain {policy : Policy} {tags : List String} {s : List Char}
    (h : ∀ c ∈ s, c ≠ '<' ∧ c.toNat ≠ 0) (htags : policy.tags = .ok tags)
    (hattributes : policy.attributes ≠ .unusable) :
    ∃ out, clean policy (Unicode.trim s) = .ok out ∧ IsSettled policy out := by
  have hbare : Text.HasBareEnds Unicode.isBlank (Unicode.trim s) :=
    Text.hasBareEnds_trimmed Unicode.isBlank s
  by_cases hnil : Unicode.trim s = []
  · rw [hnil] at hbare ⊢
    exact ⟨[], clean_nil htags, clean_nil htags, hbare⟩
  · obtain ⟨out, hout, hshown, hends⟩ :=
      clean_plain (fun c hc => h c (Text.mem_of_mem_trimmed hc)) hnil hbare htags hattributes
    have hsettled := isSettled_of_tidy (hshown.tidy tags)
      (.inr fun hmem => (hshown.isClear _ hmem).2 rfl) htags hattributes
    have htrim : Unicode.trim out = out := Text.trimmed_of_hasBareEnds hends
    exact ⟨out, hout, htrim ▸ hsettled⟩

end FieldRules.Markup

namespace FieldRules.Registry

open Markup Text Unicode

section Settling

variable {policy : Policy} {tags : List String} {v : String}

/-- Sanitizing a text trims it and makes its markup harmless. -/
theorem sanitize_text_eq_ok_iff (hv : v ≠ "") {o : String} :
    sanitize policy (.text v) = .ok (.text o) ↔ clean policy (trim v.toList) = .ok o.toList := by
  have htruthy : (Value.text v).truthy = true := decide_eq_true hv
  rw [sanitize, cleanValue, if_pos htruthy, Value.toText]
  rcases clean policy (trim v.toList) with fault | out
  · exact iff_of_false (fun h => by cases h) (fun h => by cases h)
  · constructor
    · intro h
      cases h
      rw [String.toList_ofList]
    · intro h
      cases h
      show Except.ok (Value.text (String.ofList o.toList)) = _
      rw [String.ofList_toList]

/-- A settled text stays as it is, however often it is sanitized. -/
theorem sanitized_of_isSettled {o : String} (h : IsSettled policy o.toList) (n : Nat) :
    sanitized policy n (.text o) = .ok (.text o) := by
  by_cases ho : o = ""
  · rw [ho]
    exact sanitized_of_not_truthy (by decide) n
  · have htrim : trim o.toList = o.toList := trimmed_of_hasBareEnds h.ends
    have honce : sanitize policy (.text o) = .ok (.text o) :=
      (sanitize_text_eq_ok_iff ho).2 (by rw [htrim, h.clean])
    have htruthy : (Value.text o).truthy = true := decide_eq_true ho
    induction n with
    | zero => rfl
    | succ n ih =>
      rw [sanitized, if_pos htruthy, honce]
      exact ih

/-- A text that is sanitized to a settled one is sanitized once and for all. -/
theorem sanitized_succ {o : String} (htags : policy.tags = .ok tags)
    (h : clean policy (trim v.toList) = .ok o.toList) (ho : IsSettled policy o.toList) (n : Nat) :
    sanitized policy (n + 1) (.text v) = .ok (.text o) := by
  by_cases hv : v = ""
  · have hnil : o = "" := by
      rw [hv] at h
      have hempty : clean policy [] = .ok o.toList := h
      rw [clean_nil htags] at hempty
      exact String.toList_eq_nil_iff.1 (Except.ok.inj hempty).symm
    rw [hv, hnil]
    exact sanitized_of_not_truthy (by decide) _
  · have htruthy : (Value.text v).truthy = true := decide_eq_true hv
    rw [sanitized, if_pos htruthy, (sanitize_text_eq_ok_iff hv).2 h]
    exact sanitized_of_isSettled ho n

theorem sanitize_empty {o : String} (h : sanitize policy (.text "") = .ok (.text o)) : o = "" := by
  cases h
  rfl

/-- What has been sanitized is settled when it has been trimmed, if no tags are left in it but tidy
    ones. -/
theorem isSettled_of_sanitize {o : String} (htags : policy.tags = .ok tags)
    (hattributes : policy.attributes ≠ .unusable)
    (honce : sanitize policy (.text v) = .ok (.text o))
    (hleft : (∀ c ∈ o.toList, IsClear c ∧ c ≠ '<') ∨ (Tidy tags o.toList ∧ '=' ∉ o.toList)) :
    IsSettled policy (trim o.toList) := by
  rcases hleft with hclear | ⟨htidy, hmarks⟩
  · have hshown : Shown o.toList := by
      by_cases hv : v = ""
      · rw [hv] at honce
        rw [sanitize_empty honce]
        exact Shown.nil
      · have hclean := (sanitize_text_eq_ok_iff hv).1 honce
        by_cases hnil : trim v.toList = []
        · rw [hnil, clean_nil htags] at hclean
          rw [← Except.ok.inj hclean]
          exact Shown.nil
        · exact shown_of_clean hnil hclean hclear
    exact isSettled_of_tidy (hshown.tidy tags) (.inr fun hmem => (hclear _ hmem).2 rfl) htags
      hattributes
  · exact isSettled_of_tidy htidy (.inl hmarks) htags hattributes

/-- Where a text is sanitized again it is trimmed, and that is all if it is settled then. -/
theorem sanitized_add_two {o : String} (htags : policy.tags = .ok tags)
    (honce : sanitize policy (.text v) = .ok (.text o)) (ho : IsSettled policy (trim o.toList))
    (n : Nat) :
    sanitized policy (n + 2) (.text v) = .ok (.text (String.ofList (trim o.toList))) := by
  by_cases hv : v = ""
  · rw [hv] at honce ⊢
    rw [sanitize_empty honce]
    exact sanitized_of_not_truthy (by decide) _
  · have htruthy : (Value.text v).truthy = true := decide_eq_true hv
    rw [sanitized, if_pos htruthy, honce]
    refine sanitized_succ htags ?_ ?_ n <;> rw [String.toList_ofList]
    · exact ho.clean
    · exact ho

/-- What sanitizing a text again comes to, if the policy can be used.

    A text without tags and null characters is sanitized to one without blanks at its ends, and
    sanitizing that again changes nothing. A tidy text is trimmed, and that is all. Any other text
    may have blanks at its ends when it has been sanitized, where they had stood beside of markup
    that is left out. If no tags are left in it but tidy ones, then the second time these blanks are
    taken away and nothing else is changed, and from then on nothing is. -/
theorem sanitize_settles (htags : policy.tags = .ok tags)
    (hattributes : policy.attributes ≠ .unusable) (v : String) :
    ((∀ c ∈ v.toList, c ≠ '<' ∧ c.toNat ≠ 0) → ∃ o : String, HasBareEnds isBlank o.toList ∧
      ∀ n, sanitized policy (n + 1) (.text v) = .ok (.text o)) ∧
    (Tidy tags v.toList → '=' ∉ v.toList ∨ '<' ∉ v.toList →
      ∀ n, sanitized policy (n + 1) (.text v) = .ok (.text (String.ofList (trim v.toList)))) ∧
    ∀ o : String, sanitize policy (.text v) = .ok (.text o) →
      (∀ c ∈ o.toList, IsClear c ∧ c ≠ '<') ∨ (Tidy tags o.toList ∧ '=' ∉ o.toList) →
      (∀ n, sanitized policy (n + 2) (.text v) = .ok (.text (String.ofList (trim o.toList)))) ∧
        (sanitized policy 2 (.text v) = .ok (.text o) ↔ HasBareEnds isBlank o.toList) := by
  refine ⟨fun hplain => ?_, fun htidy hmarks n => ?_, fun o honce hleft => ?_⟩
  · obtain ⟨out, hout, hsettled⟩ := exists_isSettled_of_plain hplain htags hattributes
    rw [← String.toList_ofList (l := out)] at hout hsettled
    exact ⟨String.ofList out, hsettled.ends, fun n => sanitized_succ htags hout hsettled n⟩
  · have hsettled := isSettled_of_tidy htidy hmarks htags hattributes
    refine sanitized_succ htags ?_ ?_ n <;> rw [String.toList_ofList]
    · exact hsettled.clean
    · exact hsettled
  · have hsettled := isSettled_of_sanitize htags hattributes honce hleft
    refine ⟨sanitized_add_two htags honce hsettled, ?_⟩
    rw [sanitized_add_two htags honce hsettled 0, ← trimmed_eq_self_iff]
    show Except.ok (Value.text (String.ofList (trim o.toList))) = _ ↔ trim o.toList = o.toList
    constructor
    · intro h
      have htrim : String.ofList (trim o.toList) = o := Value.text.inj (Except.ok.inj h)
      rw [← String.toList_ofList (l := trim o.toList), htrim]
    · intro h
      rw [h, String.ofList_toList]

/-- A value of each kind: a text with an ampersand, a tidy text, and one with a comment. -/
theorem sanitize_settles_beside_comment :
    (∃ o : String, HasBareEnds isBlank o.toList ∧
      ∀ n, sanitized .standard (n + 1) (.text " Tom & Jerry ") = .ok (.text o)) ∧
    (∀ n, sanitized .standard (n + 1) (.text " <ul><li><b>x</b></li></ul> ") =
      .ok (.text "<ul><li><b>x</b></li></ul>")) ∧
    sanitize .standard (.text "<!-- note --> x") = .ok (.text " x") ∧
    ∀ n, sanitized .standard (n + 2) (.text "<!-- note --> x") = .ok (.text "x") := by
  have hused := fun v => @sanitize_settles .standard _ rfl (by decide) v
  have hplain : ∀ c ∈ " Tom & Jerry ".toList, c ≠ '<' ∧ c.toNat ≠ 0 := by simp
  have htidy : Tidy ["a", "abbr", "acronym", "b", "blockquote", "code", "em", "i", "li", "ol",
      "strong", "ul"] " <ul><li><b>x</b></li></ul> ".toList := by
    have hletters : (Item.letter ' ').IsShown ∧ (Item.letter 'x').IsShown := by
      simp [Item.IsShown, IsClear, isInvisible]
    refine ⟨[.letter ' ', .start "ul", .start "li", .start "b", .letter 'x', .finish "b",
      .finish "li", .finish "ul", .letter ' '], ?_, rfl⟩
    exact ⟨hletters.1, ⟨by decide, by decide⟩, ⟨by decide, by decide⟩, ⟨by decide, by decide⟩,
      hletters.2, _, rfl, _, rfl, _, rfl, hletters.1, rfl⟩
  have hcomment : sanitize .standard (.text "<!-- note --> x") = .ok (.text " x") := by rfl
  have hclear : ∀ c ∈ " x".toList, IsClear c ∧ c ≠ '<' := by simp [IsClear, isInvisible]
  exact ⟨(hused _).1 hplain, (hused _).2.1 htidy (.inl (by decide)), hcomment,
    ((hused _).2.2 _ hcomment (.inl hclear)).1⟩

/-- What is left of a value is not trimmed when a comment has been left out: a blank stands at its
    front, which is taken away when the value is sanitized again. -/
theorem sanitize_comment :
    sanitize .standard (.text "<!-- note --> x") = .ok (.text " x") ∧
      sanitized .standard 2 (.text "<!-- note --> x") = .ok (.text "x") :=
  ⟨by rfl, by rfl⟩

end Settling

end FieldRules.Registry
