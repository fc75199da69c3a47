import FieldRules.Proofs.Markup.Tidy

/-!
# How pieces are written

Texts that follow each other are written as one. The writer takes a text that stands alone behind a
closing tag for a part of the tag, which matters only for an equals sign.

Results:
* `writeMarks_eq_flatten`: without an equals sign, or without a tag, marks are written one by one.
* `keeps_textPieces`: of a shown text all is kept, and it is written as it was read.
* `clean_of_keeps`: what cleaning writes, if nothing in it is taken for a value.
-/

namespace FieldRules.Markup

/-! ## Marks -/

section Marks

variable {marks : List (List Char)}

/-- The writer takes nothing for a value where no mark is an equals sign. -/
theorem writeMarks_of_no_equals (h : ['='] ∉ marks) (inTag : Bool) :
    writeMarks inTag false marks = marks.flatten := by
  induction marks generalizing inTag with
  | nil => cases inTag <;> rfl
  | cons mark rest ih =>
    obtain ⟨hmark, hrest⟩ := not_or.1 (mt List.mem_cons.2 h)
    rw [writeMarks]
    cases inTag with
    | false => simp [ih hrest]
    | true => simp [ih hrest, Ne.symm hmark]

theorem writeMarks_of_no_tag (h : ∀ mark ∈ marks, mark.head? ≠ some '<') (afterEquals : Bool) :
    writeMarks false afterEquals marks = marks.flatten := by
  induction marks with
  | nil => rfl
  | cons mark rest ih =>
    obtain ⟨hmark, hrest⟩ := List.forall_mem_cons.1 h
    simp [writeMarks, hmark, ih hrest]

/-- A mark that begins a tag is written with its bracket. -/
theorem mem_writeMarks {mark : List Char} (hmark : mark ∈ marks) (h : mark.head? = some '<')
    (afterEquals : Bool) : '<' ∈ writeMarks false afterEquals marks := by
  induction marks with
  | nil => cases hmark
  | cons first rest ih =>
    rw [writeMarks, Bool.not_false, if_pos rfl]
    by_cases hfirst : first.head? = some '<'
    · exact List.mem_append_left _ (List.mem_of_head? hfirst)
    · have hrest : mark ∈ rest :=
        (List.mem_cons.1 hmark).resolve_left fun heq => hfirst (heq ▸ h)
      simp only [hfirst, decide_false]
      exact List.mem_append_right _ (ih hrest)

/-- Without an equals sign, or without a tag, marks are written one by one. -/
theorem writeMarks_eq_flatten (h : '=' ∉ marks.flatten ∨ '<' ∉ marks.flatten) :
    writeMarks false false marks = marks.flatten := by
  rcases h with h | h
  · refine writeMarks_of_no_equals (fun hmem => h ?_) false
    exact List.mem_flatten.2 ⟨_, hmem, List.mem_singleton_self _⟩
  · refine writeMarks_of_no_tag (fun mark hmark hhead => h ?_) false
    exact List.mem_flatten.2 ⟨mark, hmark, List.mem_of_head? hhead⟩

end Marks

/-! ## Pieces -/

/-- Pieces as they are written, one by one. -/
def written (pieces : List Piece) : List Char := pieces.flatMap fun p => p.marks.flatten

@[simp] theorem written_nil : written [] = [] := rfl

@[simp] theorem written_cons (piece : Piece) (pieces : List Piece) :
    written (piece :: pieces) = piece.marks.flatten ++ written pieces := rfl

@[simp] theorem written_append (pieces more : List Piece) :
    written (pieces ++ more) = written pieces ++ written more := List.flatMap_append

theorem flatten_marks_text (run : List Char) :
    (Piece.text run).marks.flatten = escapeText run := List.append_nil _

theorem flatten_flatMap_marks (pieces : List Piece) :
    (pieces.flatMap Piece.marks).flatten = written pieces := by
  induction pieces with
  | nil => rfl
  | cons piece pieces ih => rw [List.flatMap_cons, List.flatten_append, ih, written_cons]

theorem escapeText_append (run more : List Char) :
    escapeText (run ++ more) = escapeText run ++ escapeText more := List.flatMap_append

theorem escapeText_of_no_marks {run : List Char} (h : ∀ c ∈ run, c ≠ '&' ∧ c ≠ '<' ∧ c ≠ '>') :
    escapeText run = run := by
  induction run with
  | nil => rfl
  | cons c run ih =>
    obtain ⟨⟨hand, hless, hgreater⟩, hrun⟩ := List.forall_mem_cons.1 h
    rw [escapeText, List.flatMap_cons, if_neg hand, if_neg hless, if_neg hgreater,
      List.singleton_append, ← escapeText, ih hrun]

/-- Texts that follow each other are written as one. -/
theorem written_joinTexts (pieces : List Piece) : written (joinTexts pieces) = written pieces := by
  induction pieces with
  | nil => rfl
  | cons piece pieces ih =>
    cases piece with
    | text run =>
      cases run with
      | nil => rw [joinTexts, ih, written_cons]; rfl
      | cons c run =>
        rw [joinTexts]
        · split
          · next more rest hjoined =>
            rw [hjoined] at ih
            rw [written_cons, written_cons, ← ih, written_cons, flatten_marks_text,
              flatten_marks_text, flatten_marks_text, escapeText_append, List.append_assoc]
          · rw [written_cons, written_cons, ih]
        · simp
    | spaces run => rw [joinTexts, written_cons, written_cons, ih] <;> simp
    | reference name => rw [joinTexts, written_cons, written_cons, ih] <;> simp
    | start name attributes => rw [joinTexts, written_cons, written_cons, ih] <;> simp
    | finish name => rw [joinTexts, written_cons, written_cons, ih] <;> simp

/-! ## Texts with references -/

/-- A text with its control characters shown. -/
def visible (run : List Char) : List Char := run.map fun c => if isInvisible c then '?' else c

/-- The pieces that come of what follows an ampersand. -/
def partPieces (part : List Char) : List Piece :=
  match reference? part with
  | some name =>
    let rest := Piece.text (part.drop (name.length + 1))
    if name = "amp".toList then [.text ['&'], rest] else [.reference name, rest]
  | none => [.text ('&' :: part)]

theorem referencePieces_eq (run : List Char) :
    referencePieces run = .text (cutAtAmpersands (visible run)).1 ::
      (cutAtAmpersands (visible run)).2.flatMap partPieces := rfl

theorem visible_of_isClear {run : List Char} (h : ∀ c ∈ run, IsClear c) : visible run = run :=
  (List.map_congr_left fun c hc => if_neg (by rw [(h c hc).1]; decide)).trans (List.map_id run)

/-- The parts of a shown text start with references, and there are no marks in the rest of it. -/
theorem cut_textOf {items : List Item} (h : ∀ item ∈ items, item.IsShown) :
    (∀ c ∈ (cutAtAmpersands (textOf items)).1, (Item.letter c).IsShown) ∧
      ∀ part ∈ (cutAtAmpersands (textOf items)).2, ∃ name rest, IsReference name ∧
        part = name ++ ';' :: rest ∧ ∀ c ∈ rest, (Item.letter c).IsShown := by
  induction items with
  | nil => exact ⟨fun _ h => absurd h List.not_mem_nil, fun _ h => absurd h List.not_mem_nil⟩
  | cons item items ih =>
    obtain ⟨hitem, hitems⟩ := List.forall_mem_cons.1 h
    obtain ⟨hfirst, hparts⟩ := ih hitems
    cases item with
    | letter c =>
      rw [textOf_cons, Item.text, List.singleton_append, cutAtAmpersands_cons hitem.2.1]
      exact ⟨List.forall_mem_cons.2 ⟨hitem, hfirst⟩, hparts⟩
    | reference name =>
      have hname : IsReference name := hitem
      have hnone : '&' ∉ name ++ [';'] := by
        simp only [List.mem_append, List.mem_singleton, not_or]
        exact ⟨fun hmem => (hname.clear _ hmem).2.1 rfl, by decide⟩
      rw [textOf_cons, Item.text, List.cons_append, List.cons_append, cutAtAmpersands_self,
        cutAtAmpersands_append hnone]
      refine ⟨fun _ h => absurd h List.not_mem_nil, List.forall_mem_cons.2 ⟨?_, hparts⟩⟩
      exact ⟨name, _, hname, by simp, hfirst⟩
    | start name => exact hitem.elim
    | finish name => exact hitem.elim

/-- A part with a reference is written as the reference and what follows it. -/
theorem written_partPieces_of_some {part name : List Char} (h : reference? part = some name) :
    written (partPieces part) =
      ('&' :: name ++ [';']) ++ escapeText (part.drop (name.length + 1)) := by
  rw [partPieces, h]
  simp only
  split
  · next hamp =>
    rw [written_cons, written_cons, flatten_marks_text, flatten_marks_text, written_nil,
      List.append_nil, hamp]
    rfl
  · simp [Piece.marks]

theorem written_partPieces_of_none {part : List Char} (h : reference? part = none) :
    written (partPieces part) = escapeText ('&' :: part) := by
  rw [partPieces, h, written_cons, flatten_marks_text, written_nil, List.append_nil]

theorem written_partPieces {name rest : List Char} (hname : IsReference name)
    (hrest : ∀ c ∈ rest, (Item.letter c).IsShown) :
    written (partPieces (name ++ ';' :: rest)) = '&' :: (name ++ ';' :: rest) := by
  have hdrop : (name ++ ';' :: rest).drop (name.length + 1) = rest := by simp
  rw [written_partPieces_of_some (hname.read rest), hdrop,
    escapeText_of_no_marks fun c hc => (hrest c hc).2]
  simp

/-- A shown text is written as it was read. -/
theorem written_referencePieces {s : List Char} (h : Shown s) :
    written (referencePieces s) = s := by
  have hvisible : visible s = s := visible_of_isClear fun c hc => (h.isClear c hc).1
  obtain ⟨items, hitems, hs⟩ := h
  obtain ⟨hfirst, hparts⟩ := cut_textOf hitems
  rw [← hs] at hfirst hparts
  have hescape : escapeText (cutAtAmpersands s).1 = (cutAtAmpersands s).1 :=
    escapeText_of_no_marks fun c hc => (hfirst c hc).2
  have hwritten : ∀ parts ⊆ (cutAtAmpersands s).2,
      written (parts.flatMap partPieces) = parts.flatMap ('&' :: ·) := by
    intro parts hsub
    induction parts with
    | nil => rfl
    | cons part parts ih =>
      obtain ⟨hpart, hparts'⟩ := List.cons_subset.1 hsub
      obtain ⟨name, rest, hname, rfl, hrest⟩ := hparts part hpart
      rw [List.flatMap_cons, List.flatMap_cons, written_append, written_partPieces hname hrest,
        ih hparts']
  rw [referencePieces_eq, hvisible, written_cons, flatten_marks_text, hescape,
    hwritten _ (List.Subset.refl _), append_cutAtAmpersands]

/-! ## What is kept -/

/-- Of some pieces everything is kept that the policy keeps, and it is written as a given text. -/
def Keeps (policy : Policy) (tags : List String) (pieces : List Piece) (out : List Char) : Prop :=
  ∃ kept, pieces.mapM (keptPieces policy tags) = .ok kept ∧ written kept.flatten = out

section Keeps

variable {policy : Policy} {tags : List String} {pieces more : List Piece} {out out' : List Char}

theorem Keeps.nil : Keeps policy tags [] [] := ⟨[], rfl, rfl⟩

theorem Keeps.single {piece : Piece} {kept : List Piece}
    (h : keptPieces policy tags piece = .ok kept) : Keeps policy tags [piece] (written kept) := by
  refine ⟨[kept], ?_, by simp⟩
  rw [List.mapM_cons, h]
  rfl

theorem Keeps.append (h : Keeps policy tags pieces out) (h' : Keeps policy tags more out') :
    Keeps policy tags (pieces ++ more) (out ++ out') := by
  obtain ⟨kept, hkept, rfl⟩ := h
  obtain ⟨kept', hkept', rfl⟩ := h'
  refine ⟨kept ++ kept', ?_, by simp⟩
  rw [List.mapM_append, hkept, hkept']
  rfl

theorem Keeps.cons {piece : Piece} {kept : List Piece}
    (h : keptPieces policy tags piece = .ok kept) (h' : Keeps policy tags pieces out) :
    Keeps policy tags (piece :: pieces) (written kept ++ out) := (Keeps.single h).append h'

theorem Keeps.filter_cons {isKept : Piece → Bool} {piece : Piece} {kept : List Piece}
    (h : keptPieces policy tags piece = .ok kept)
    (hempty : isKept piece = false → written kept = [])
    (h' : Keeps policy tags (pieces.filter isKept) out) :
    Keeps policy tags ((piece :: pieces).filter isKept) (written kept ++ out) := by
  cases hpiece : isKept piece with
  | true =>
    rw [List.filter_cons_of_pos hpiece]
    exact h'.cons h
  | false =>
    rw [List.filter_cons_of_neg (by rw [hpiece]; decide), hempty hpiece, List.nil_append]
    exact h'

theorem isUnmarked_isSpace : IsUnmarked isSpace := by
  intro c h
  simp only [isSpace, Bool.or_eq_true, decide_eq_true_eq] at h
  rcases h with (((rfl | rfl) | rfl) | rfl) | rfl <;> decide

theorem mem_takeWhile_isSpace {s : List Char} : ∀ c ∈ s.takeWhile isSpace, isSpace c = true :=
  fun _ hc => List.mem_takeWhile_imp hc

/-- The spaces at the ends of a text, and the text between them. -/
theorem exists_textPieces (run : List Char) : ∃ left middle right,
    run = left ++ middle ++ right ∧ (∀ c ∈ left, isSpace c = true) ∧
      (∀ c ∈ right, isSpace c = true) ∧
      textPieces run = [Piece.spaces left, .text middle, .spaces right].filter fun
        | .spaces [] | .text [] => false
        | _ => true := by
  refine ⟨_, _, _, ?_, mem_takeWhile_isSpace, ?_, rfl⟩
  · have hleft : run.takeWhile isSpace <+: run := List.takeWhile_prefix isSpace
    have hright : ∀ rest : List Char, (rest.reverse.takeWhile isSpace).reverse <:+ rest := by
      intro rest
      rw [← List.reverse_prefix, List.reverse_reverse]
      exact List.takeWhile_prefix isSpace
    rw [List.append_assoc, List.suffix_iff_eq_append.1 (hright _)]
    exact (List.prefix_iff_eq_append.1 hleft).symm
  · intro c hc
    exact mem_takeWhile_isSpace c (List.mem_reverse.1 hc)

/-- Of a shown text all is kept, and it is written as it was read. -/
theorem keeps_textPieces {run : List Char} (h : Shown run) :
    Keeps policy tags (textPieces run) run := by
  obtain ⟨left, middle, right, rfl, hleft, hright, hpieces⟩ := exists_textPieces run
  have hmiddle : Shown middle := h.of_around isUnmarked_isSpace hleft hright
  have hspaces : ∀ spaces, written [.spaces spaces] = spaces := fun spaces => by
    simp [Piece.marks]
  have hthree : Keeps policy tags (textPieces (left ++ middle ++ right))
      (written [.spaces left] ++
        (written (referencePieces middle) ++ (written [.spaces right] ++ []))) := by
    rw [hpieces]
    refine Keeps.filter_cons rfl (fun hempty => ?_) (Keeps.filter_cons rfl (fun hempty => ?_)
      (Keeps.filter_cons rfl (fun hempty => ?_) Keeps.nil))
    · cases left with
      | nil => rfl
      | cons c left => cases hempty
    · cases middle with
      | nil => rw [written_referencePieces hmiddle]
      | cons c middle => cases hempty
    · cases right with
      | nil => rfl
      | cons c right => cases hempty
  rwa [written_referencePieces hmiddle, hspaces, hspaces, List.append_nil,
    ← List.append_assoc] at hthree

theorem keeps_start {name : String} (h : name ∈ tags) :
    Keeps policy tags [.start name []] (Item.start name).text := by
  have hkept : keptPieces policy tags (.start name []) = .ok [.start name []] := by
    rw [keptPieces, if_pos h]
    rfl
  have hwritten : written [.start name []] = (Item.start name).text := by
    simp [Piece.marks, Item.text]
  exact hwritten ▸ Keeps.single hkept

theorem keeps_finish {name : String} (h : name ∈ tags) :
    Keeps policy tags [.finish name] (Item.finish name).text := by
  have hkept : keptPieces policy tags (.finish name) = .ok [.finish name] := by
    rw [keptPieces, if_pos h]
  have hwritten : written [.finish name] = (Item.finish name).text := by
    simp [Piece.marks, Item.text]
  exact hwritten ▸ Keeps.single hkept

end Keeps

/-! ## Cleaned texts -/

/-- The tags that the reader takes for tags. -/
def scanned (policy : Policy) (tags : List String) : TagPolicy :=
  ⟨tags.map fun t => String.ofList (Unicode.lowerText t.toList), policy.strip⟩

section Clean

variable {policy : Policy} {tags : List String} {s out : List Char}

/-- What cleaning a text that is not empty comes to. -/
theorem clean_eq_ok_iff (hs : s ≠ []) : clean policy s = .ok out ↔
    ∃ tags kept, policy.tags = .ok tags ∧ policy.attributes ≠ .unusable ∧
      (Tree.ofText (scanned policy tags) s).pieces.mapM (keptPieces policy tags) = .ok kept ∧
      writeMarks false false ((joinTexts kept.flatten).flatMap Piece.marks) = out := by
  have hempty : ¬ s.isEmpty = true := by simpa using hs
  unfold clean
  rcases policy.tags with fault | tags
  · exact ⟨nofun, fun ⟨_, _, h, _⟩ => nomatch h⟩
  by_cases hattributes : policy.attributes = .unusable
  · refine iff_of_false (fun h => ?_) (fun ⟨_, _, _, h, _⟩ => h hattributes)
    simp only [bind, Except.bind, if_neg hempty, if_pos hattributes] at h
    cases h
  rcases hkept : (Tree.ofText (scanned policy tags) s).pieces.mapM (keptPieces policy tags) with
    fault | kept
  · refine iff_of_false (fun h => ?_) (fun ⟨_, _, htags, _, h, _⟩ => ?_)
    · simp only [bind, Except.bind, if_neg hempty, if_neg hattributes] at h
      rw [scanned] at hkept
      simp only [hkept] at h
      cases h
    · cases htags
      rw [hkept] at h
      cases h
  · rw [scanned] at hkept
    simp only [bind, Except.bind, if_neg hempty, if_neg hattributes, pure, Except.pure, hkept]
    constructor
    · intro h
      exact ⟨tags, kept, rfl, hattributes, hkept, Except.ok.inj h⟩
    · rintro ⟨_, kept', htags, -, hkept', rfl⟩
      cases htags
      rw [scanned, hkept] at hkept'
      cases hkept'
      rfl

/-- What cleaning writes, if nothing in it is taken for a value. -/
theorem clean_of_keeps (htags : policy.tags = .ok tags)
    (hattributes : policy.attributes ≠ .unusable) (hs : s ≠ []) (hmarks : '=' ∉ out ∨ '<' ∉ out)
    (h : Keeps policy tags (Tree.ofText (scanned policy tags) s).pieces out) :
    clean policy s = .ok out := by
  obtain ⟨kept, hkept, hwritten⟩ := h
  refine (clean_eq_ok_iff hs).2 ⟨tags, kept, htags, hattributes, hkept, ?_⟩
  have hflatten : ((joinTexts kept.flatten).flatMap Piece.marks).flatten = out := by
    rw [flatten_flatMap_marks, written_joinTexts, hwritten]
  rw [writeMarks_eq_flatten (hflatten ▸ hmarks), hflatten]

end Clean

end FieldRules.Markup
