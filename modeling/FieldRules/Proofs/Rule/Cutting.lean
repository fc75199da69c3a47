import FieldRules.Proofs.Rule.Brackets
import FieldRules.Proofs.Text

/-!
# Rule texts are cut into their rules

A text of rules with bars between them is cut into these rules. A pattern may have bars of its own:
it is taken out under a mark before the text is cut, and it comes back as it was, if the mark is no
part of the text and nothing after the pattern closes a bracket.

Results:
* `splitWith_joinWith`: a text without a pattern is cut at its bars.
* `splitWith_of_findPattern`: a text with a pattern is cut around it.
* `splitWith_joinWith_of_pattern`: so is a text of rules of which one is a pattern.
* `mark_freshStem_absent`: the mark that is made for a text is no part of it.
-/

namespace FieldRules.Spec

open Text

/-! ## Finding the pattern -/

theorem findPattern_eq_none {s : List Char} (h : ¬ patternOpening <:+: s) :
    findPattern s = none := by
  cases hp : findPattern s with
  | none => rfl
  | some p =>
    refine absurd ?_ h
    rw [← append_of_findPattern hp, PatternParts.segment, List.append_assoc, List.append_assoc]
    exact List.infix_append' _ _ _

theorem findPattern_cons {c : Char} {rest : List Char} (h : ¬ patternOpening <+: c :: rest) :
    findPattern (c :: rest) =
      (findPattern rest).map fun p => { p with before := c :: p.before } := by
  rw [findPattern, if_neg (mt List.isPrefixOf_iff_prefix.1 h)]

theorem prefix_of_prefix_append_cons {w piece rest : List Char} {sep : Char} (hw : sep ∉ w)
    (h : w <+: piece ++ sep :: rest) : w <+: piece := by
  have hlong : piece ++ [sep] <+: piece ++ sep :: rest := ⟨rest, by simp⟩
  rcases List.prefix_or_prefix_of_prefix h hlong with hshort | hmore
  · rcases List.prefix_concat_iff.1 hshort with rfl | hshort
    · simp at hw
    · exact hshort
  · exact absurd (hmore.subset (by simp)) hw

/-- A rule without a pattern is passed over. -/
theorem findPattern_append {piece : List Char} (hbar : '|' ∉ piece)
    (h : ¬ patternOpening <:+: piece) (rest : List Char) :
    findPattern (piece ++ '|' :: rest) =
      (findPattern rest).map fun p => { p with before := piece ++ '|' :: p.before } := by
  induction piece with
  | nil =>
    refine findPattern_cons fun ⟨t, ht⟩ => ?_
    have hfirst : 'r' = '|' := (List.cons.inj ht).1
    exact absurd hfirst (by decide)
  | cons c piece ih =>
    obtain ⟨hc, hpiece⟩ := not_or.1 (mt List.mem_cons.2 hbar)
    obtain ⟨hhere, hrest⟩ := not_or.1 (mt List.infix_cons_iff.2 h)
    have hno : ¬ patternOpening <+: c :: (piece ++ '|' :: rest) :=
      fun hp => hhere (prefix_of_prefix_append_cons (by decide) hp)
    rw [List.cons_append, findPattern_cons hno, ih hpiece hrest, Option.map_map]
    rfl

/-- The first pattern is found behind rules without one. -/
theorem findPattern_joinWith {before : List (List Char)} {piece : List Char}
    {after : List (List Char)} (hbefore : ∀ p ∈ before, '|' ∉ p ∧ ¬ patternOpening <:+: p) :
    findPattern (joinWith '|' (before ++ piece :: after)) =
      (findPattern (joinWith '|' (piece :: after))).map fun p =>
        { p with before := (before.flatMap fun q => q ++ ['|']) ++ p.before } := by
  induction before with
  | nil => simp
  | cons first before ih =>
    obtain ⟨⟨hbar, hopening⟩, hbefore⟩ := List.forall_mem_cons.1 hbefore
    obtain ⟨next, others, hnext⟩ := List.exists_cons_of_ne_nil
      (show before ++ piece :: after ≠ [] by simp)
    rw [List.cons_append, hnext, joinWith_cons_cons, ← hnext, findPattern_append hbar hopening,
      ih hbefore, Option.map_map]
    simp [Function.comp_def]

theorem findPattern_segment {content after : List Char} (hne : content ≠ [])
    (hcontent : '\n' ∉ content) (hafter : ']' ∉ after) :
    findPattern (patternOpening ++ (content ++ ']' :: after)) = some ⟨[], content, after⟩ :=
  findPattern_eq_some_iff.2
    ⟨rfl, hne, hcontent, fun _ _ _ _ => Nat.zero_le _, mt (List.takeWhile_subset _ ·) hafter⟩

/-! ## Taking the pattern out -/

theorem segment_not_at_front {s : List Char} {p : PatternParts} (h : findPattern s = some p)
    (hp : p.before ≠ []) : ¬ p.segment <+: s := by
  rintro ⟨t, ht⟩
  have hfirst := findPattern_eq_some_iff.1 h
  have hopens : Opens patternOpening s := by
    refine ⟨p.content, t, ?_, hfirst.content, hfirst.line⟩
    rw [← ht, PatternParts.segment]
    simp
  exact hp (List.eq_nil_of_length_eq_zero (Nat.le_zero.1 (hfirst.first [] s rfl hopens)))

/-- The pattern is replaced where it was found. -/
theorem replaceFirst_segment {s : List Char} {p : PatternParts} (h : findPattern s = some p)
    (new : List Char) : replaceFirst p.segment new s = p.before ++ new ++ p.after := by
  induction s generalizing p with
  | nil => cases h
  | cons c rest ih =>
    by_cases hp : p.before = []
    · have hs := append_of_findPattern h
      rw [hp, List.nil_append] at hs
      have hprefix : p.segment.isPrefixOf (c :: rest) = true :=
        List.isPrefixOf_iff_prefix.2 ⟨p.after, hs⟩
      rw [replaceFirst, if_pos hprefix, hp, ← hs, List.drop_left, List.nil_append]
    · have hprefix : ¬ p.segment.isPrefixOf (c :: rest) = true :=
        mt List.isPrefixOf_iff_prefix.1 (segment_not_at_front h hp)
      rw [replaceFirst, if_neg hprefix]
      rw [findPattern] at h
      split at h
      · cases h
        exact absurd rfl hp
      · obtain ⟨q, hq, rfl⟩ := Option.map_eq_some_iff.1 h
        have := ih hq
        simpa [PatternParts.segment] using this

/-! ## Marks -/

theorem bar_notMem_mark {stem : List Char} (h : '|' ∉ stem) : '|' ∉ mark stem := by
  unfold mark
  rw [List.mem_append, List.mem_append, not_or, not_or]
  exact ⟨⟨by decide, h⟩, by decide⟩

theorem length_mark (stem : List Char) : (mark stem).length = stem.length + 7 := by
  unfold mark
  rw [List.length_append, List.length_append]
  show 6 + stem.length + 1 = stem.length + 7
  omega

theorem mark_ne_nil (stem : List Char) : mark stem ≠ [] := by
  rw [← List.length_pos_iff, length_mark]
  omega

theorem bar_notMem_freshStem (s : List Char) : '|' ∉ freshStem s := by
  simp [freshStem]

/-- The mark that is made for a text is no part of it. -/
theorem mark_freshStem_absent (s : List Char) : ¬ mark (freshStem s) <:+: s := by
  intro h
  have hle := h.length_le
  rw [length_mark, freshStem, List.length_replicate] at hle
  omega

/-! ## Cutting a rule text -/

/-- A text without a pattern is cut at its bars. -/
theorem splitWith_joinWith {pieces : List (List Char)} (stem : List Char) (hne : pieces ≠ [])
    (h : ∀ p ∈ pieces, '|' ∉ p ∧ ¬ patternOpening <:+: p) :
    splitWith stem (joinWith '|' pieces) = pieces := by
  obtain ⟨before, last, rfl⟩ : ∃ before last, pieces = before ++ [last] :=
    ⟨_, _, (List.dropLast_concat_getLast hne).symm⟩
  have hbefore : ∀ p ∈ before, '|' ∉ p ∧ ¬ patternOpening <:+: p :=
    fun p hp => h p (List.mem_append_left _ hp)
  have hlast := h last (List.mem_append_right _ (List.mem_singleton_self last))
  have hnone : findPattern (joinWith '|' (before ++ [last])) = none := by
    rw [findPattern_joinWith hbefore]
    show (findPattern last).map _ = none
    rw [findPattern_eq_none hlast.2, Option.map_none]
  unfold splitWith
  rw [hnone]
  exact cut_joinWith hne fun p hp => (h p hp).1

/-- A text with a pattern is cut around it, and the pattern comes back as it was, if its mark is
    found again in its place and nowhere else. -/
theorem splitWith_of_findPattern {s stem last first : List Char} {init rest : List (List Char)}
    {p : PatternParts} (h : findPattern s = some p) (hbefore : cut '|' p.before = init ++ [last])
    (hafter : cut '|' p.after = first :: rest) (hstem : '|' ∉ stem)
    (hothers : ∀ piece ∈ init ++ rest, ¬ mark stem <:+: piece)
    (hback : replaceAll (mark stem) p.segment (last ++ (mark stem ++ first)) =
      last ++ (p.segment ++ first)) :
    splitWith stem s = init ++ (last ++ p.segment ++ first) :: rest := by
  obtain ⟨hinit, hrest⟩ := List.forall_mem_append.1 hothers
  unfold splitWith
  rw [h]
  simp only
  rw [replaceFirst_segment h, cut_around (bar_notMem_mark hstem) hbefore hafter, List.map_append,
    List.map_cons, List.map_congr_left fun piece hp => replaceAll_of_absent _ (hinit piece hp),
    List.map_congr_left fun piece hp => replaceAll_of_absent _ (hrest piece hp), List.map_id',
    List.map_id', List.append_assoc, hback, List.append_assoc]

/-- A text with a pattern for a rule is cut around it. -/
theorem splitWith_joinWith_of_pattern {before after : List (List Char)} {content stem : List Char}
    (hbefore : ∀ p ∈ before, '|' ∉ p ∧ ¬ patternOpening <:+: p) (hne : content ≠ [])
    (hcontent : '\n' ∉ content) (hafter : ∀ p ∈ after, '|' ∉ p ∧ ']' ∉ p) (hstem : '|' ∉ stem)
    (hmark : ¬ mark stem <:+:
      joinWith '|' (before ++ (patternOpening ++ content ++ [']']) :: after)) :
    splitWith stem (joinWith '|' (before ++ (patternOpening ++ content ++ [']']) :: after)) =
      before ++ (patternOpening ++ content ++ [']']) :: after := by
  have hclosed : ']' ∉ after.flatMap fun p => '|' :: p := by
    intro hmem
    obtain ⟨p, hp, hin⟩ := List.mem_flatMap.1 hmem
    exact (List.mem_cons.1 hin).elim (by decide) (hafter p hp).2
  have hfound : findPattern (joinWith '|' (before ++ (patternOpening ++ content ++ [']']) :: after))
      = some ⟨before.flatMap fun p => p ++ ['|'], content, after.flatMap fun p => '|' :: p⟩ := by
    have hfirst : joinWith '|' ((patternOpening ++ content ++ [']']) :: after) =
        patternOpening ++ (content ++ ']' :: after.flatMap fun p => '|' :: p) := by
      rw [joinWith_cons]
      simp
    rw [findPattern_joinWith hbefore, hfirst, findPattern_segment hne hcontent hclosed]
    simp
  -- the pattern is a rule of its own, so that the pieces beside it are empty
  have hcutBefore : cut '|' (before.flatMap fun p => p ++ ['|']) = before ++ [[]] := by
    have hjoin := joinWith_append '|' before [] []
    rw [joinWith, List.append_nil] at hjoin
    rw [← hjoin]
    refine cut_joinWith (by simp) (List.forall_mem_append.2 ⟨fun p hp => (hbefore p hp).1, ?_⟩)
    simp
  have hcutAfter : cut '|' (after.flatMap fun p => '|' :: p) = [] :: after := by
    have hjoin := joinWith_cons '|' [] after
    rw [List.nil_append] at hjoin
    rw [← hjoin]
    refine cut_joinWith (by simp) (List.forall_mem_cons.2 ⟨?_, fun p hp => (hafter p hp).1⟩)
    simp
  have hothers : ∀ piece ∈ before ++ after, ¬ mark stem <:+: piece := by
    intro piece hpiece hin
    refine hmark (hin.trans (infix_joinWith ?_))
    rw [List.mem_append, List.mem_cons]
    exact (List.mem_append.1 hpiece).imp id .inr
  have hback : replaceAll (mark stem) (patternOpening ++ content ++ [']'])
      ([] ++ (mark stem ++ [])) = [] ++ ((patternOpening ++ content ++ [']']) ++ []) := by
    refine replaceAll_around _ (mark_ne_nil stem) (fun u v huv hv => ?_) fun hnil => ?_
    · exact absurd (List.append_eq_nil_iff.1 huv).2 hv
    · exact mark_ne_nil stem (List.infix_nil.1 hnil)
  have hsplit := splitWith_of_findPattern hfound hcutBefore hcutAfter hstem hothers hback
  rwa [List.nil_append, List.append_nil] at hsplit

end FieldRules.Spec
