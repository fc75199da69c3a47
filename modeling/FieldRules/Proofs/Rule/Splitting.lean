import FieldRules.Proofs.Rule.Cutting

/-!
# Where a rule text is cut

A rule text is cut at its bars, except for those of its first pattern. The pattern is taken out
under a mark, and the text is cut and put together again; nothing of this shows, as long as the stem
of the mark is no part of the text: the mark is then found again where it was put, and nowhere else.

Results:
* `replaceAll_mark`: the pattern comes back in the place of its mark.
* `splitWith_of_isFirst`: a text with a pattern is cut before and behind it.
* `split_around_pattern`: where a rule text is cut, whatever the mark.
-/

namespace FieldRules.Spec

open Text

/-! ## Marks that are found again -/

/-- A stem with which a mark can be put into a text: it is no part of the text, and it has neither
    bars nor the sign that a mark begins and ends with. -/
structure IsFresh (stem s : List Char) : Prop where
  bar : '|' ∉ stem
  sign : '#' ∉ stem
  absent : ¬ stem <:+: s

theorem isFresh_freshStem (s : List Char) : IsFresh (freshStem s) s := by
  refine ⟨bar_notMem_freshStem s, by simp [freshStem], fun h => ?_⟩
  have hle := h.length_le
  rw [freshStem, List.length_replicate] at hle
  omega

theorem mark_eq_cons (stem : List Char) :
    mark stem = '#' :: ("REGEX".toList ++ stem ++ ['#']) := rfl

namespace IsFresh

variable {stem s piece : List Char}

theorem mark_absent (h : IsFresh stem s) (hpiece : piece <:+: s) : ¬ mark stem <:+: piece := by
  intro hmark
  have hstem : stem <:+: mark stem := ⟨"#REGEX".toList, ['#'], rfl⟩
  exact h.absent (hstem.trans (hmark.trans hpiece))

/-- The mark does not begin in a piece of the text that stands before it: it has the sign at its
    ends only, so that its stem would have to be part of the piece. -/
theorem not_mark_prefix (h : IsFresh stem s) (hpiece : piece <:+: s) (hne : piece ≠ [])
    (rest : List Char) : ¬ mark stem <+: piece ++ (mark stem ++ rest) := by
  obtain ⟨c, piece, rfl⟩ := List.exists_cons_of_ne_nil hne
  rw [mark_eq_cons, List.cons_append, List.cons_prefix_cons]
  rintro ⟨rfl, hprefix⟩
  have hsign : '#' ∉ "REGEX".toList ++ stem := by
    rw [List.mem_append, not_or]
    exact ⟨by decide, h.sign⟩
  have hword : "REGEX".toList ++ stem <+: piece :=
    prefix_of_prefix_append_cons hsign ((List.prefix_append _ _).trans hprefix)
  have hstem : stem <:+: '#' :: piece :=
    (List.suffix_append _ stem).isInfix.trans (List.infix_cons hword.isInfix)
  exact h.absent (hstem.trans hpiece)

/-- What is put in the place of the mark comes there and nowhere else. -/
theorem replaceAll_mark (h : IsFresh stem s) {last first : List Char} (hlast : last <:+: s)
    (hfirst : first <:+: s) (new : List Char) :
    replaceAll (mark stem) new (last ++ (mark stem ++ first)) = last ++ (new ++ first) := by
  refine replaceAll_around new (mark_ne_nil stem) (fun u v huv hv => ?_) (h.mark_absent hfirst)
  have hv' : v <:+: last := huv ▸ (List.suffix_append u v).isInfix
  exact h.not_mark_prefix (hv'.trans hlast) hv first

end IsFresh

/-! ## Cutting around the pattern -/

section Pattern

variable {stem s last first : List Char} {init rest : List (List Char)} {p : PatternParts}

theorem IsFirst.append_segment (h : IsFirst patternOpening s p) :
    p.before ++ p.segment ++ p.after = s := by
  rw [← h.text, PatternParts.segment]
  simp

/-- A text with a pattern is cut before and behind it, and the pattern is left whole between the
    last piece before it and the first one behind it. -/
theorem splitWith_of_isFirst (hfresh : IsFresh stem s) (h : IsFirst patternOpening s p)
    (hbefore : cut '|' p.before = init ++ [last]) (hafter : cut '|' p.after = first :: rest) :
    splitWith stem s = init ++ (last ++ p.segment ++ first) :: rest := by
  have hin : ∀ piece ∈ cut '|' p.before, piece <:+: s := fun piece hpiece =>
    (infix_of_mem_cut hpiece).trans
      (h.text ▸ (List.prefix_append p.before _).isInfix)
  have hout : ∀ piece ∈ cut '|' p.after, piece <:+: s := fun piece hpiece =>
    (infix_of_mem_cut hpiece).trans
      (h.append_segment ▸ (List.suffix_append (p.before ++ p.segment) p.after).isInfix)
  rw [hbefore] at hin
  rw [hafter] at hout
  refine splitWith_of_findPattern (findPattern_eq_some_iff.2 h) hbefore hafter hfresh.bar ?_ ?_
  · intro piece hpiece
    refine hfresh.mark_absent ((List.mem_append.1 hpiece).elim (fun hp => ?_) fun hp => ?_)
    · exact hin piece (List.mem_append_left _ hp)
    · exact hout piece (List.mem_cons_of_mem _ hp)
  · exact hfresh.replaceAll_mark (hin last (List.mem_append_right _ (List.mem_singleton_self last)))
      (hout first List.mem_cons_self) p.segment

theorem exists_cut_eq_append_singleton (sep : Char) (s : List Char) :
    ∃ init last, cut sep s = init ++ [last] :=
  ⟨_, _, (List.dropLast_concat_getLast (cut_ne_nil sep s)).symm⟩

/-- How a text is cut does not depend on the mark. -/
theorem splitWith_eq_split (hfresh : IsFresh stem s) : splitWith stem s = split s := by
  cases h : findPattern s with
  | none =>
    unfold split splitWith
    rw [h]
  | some p =>
    obtain ⟨init, last, hbefore⟩ := exists_cut_eq_append_singleton '|' p.before
    obtain ⟨first, rest, hafter⟩ := List.exists_cons_of_ne_nil (cut_ne_nil '|' p.after)
    have hp := findPattern_eq_some_iff.1 h
    rw [splitWith_of_isFirst hfresh hp hbefore hafter, split,
      splitWith_of_isFirst (isFresh_freshStem s) hp hbefore hafter]

theorem split_eq_cut (h : findPattern s = none) : split s = cut '|' s := by
  unfold split splitWith
  rw [h]

theorem findPattern_eq_none_iff :
    findPattern s = none ↔
      ∀ before rest, before ++ rest = s → ¬ Opens patternOpening rest := by
  rw [findPattern_eq, findOpening_eq_none_iff]

/-- The rules of a text with bars between them give the text back. -/
theorem joinWith_split (s : List Char) : joinWith '|' (split s) = s := by
  cases h : findPattern s with
  | none => rw [split_eq_cut h, joinWith_cut]
  | some p =>
    obtain ⟨init, last, hbefore⟩ := exists_cut_eq_append_singleton '|' p.before
    obtain ⟨first, rest, hafter⟩ := List.exists_cons_of_ne_nil (cut_ne_nil '|' p.after)
    have hp := findPattern_eq_some_iff.1 h
    rw [split, splitWith_of_isFirst (isFresh_freshStem s) hp hbefore hafter,
      joinWith_around _ hbefore hafter, hp.append_segment]

/-- Only the rule with the pattern can have bars. -/
theorem countP_split_le_one (s : List Char) : (split s).countP (fun t => '|' ∈ t) ≤ 1 := by
  have hnone : ∀ pieces : List (List Char), (∀ t ∈ pieces, '|' ∉ t) →
      pieces.countP (fun t => '|' ∈ t) = 0 := by
    intro pieces h
    exact List.countP_eq_zero.2 fun t ht => by simpa using h t ht
  cases h : findPattern s with
  | none =>
    rw [split_eq_cut h, hnone _ fun t => notMem_of_mem_cut]
    exact Nat.zero_le 1
  | some p =>
    obtain ⟨init, last, hbefore⟩ := exists_cut_eq_append_singleton '|' p.before
    obtain ⟨first, rest, hafter⟩ := List.exists_cons_of_ne_nil (cut_ne_nil '|' p.after)
    have hinit : ∀ t ∈ init, '|' ∉ t := fun t ht =>
      notMem_of_mem_cut (hbefore ▸ List.mem_append_left _ ht)
    have hrest : ∀ t ∈ rest, '|' ∉ t := fun t ht =>
      notMem_of_mem_cut (hafter ▸ List.mem_cons_of_mem _ ht)
    rw [split, splitWith_of_isFirst (isFresh_freshStem s) (findPattern_eq_some_iff.1 h) hbefore
      hafter, List.countP_append, List.countP_cons, hnone init hinit, hnone rest hrest]
    split <;> omega

end Pattern

/-- Where a rule text is cut, for every mark whose stem is no part of the text. The rules with bars
    between them give the text back. If the word of a pattern opens no bracket in it, the text is
    cut at all bars. Otherwise the pattern is the first bracket that the word opens; the texts
    before and behind it are cut at all bars, and it stands whole between the last piece of the one
    and the first piece of the other, so that there is one rule more than bars outside of it. One
    rule at most has bars. -/
theorem split_around_pattern (s : List Char) :
    (∀ stem, IsFresh stem s → splitWith stem s = split s) ∧
      joinWith '|' (split s) = s ∧
      ((∀ before rest, before ++ rest = s → ¬ Opens patternOpening rest) →
        split s = cut '|' s) ∧
      ((∃ before rest, before ++ rest = s ∧ Opens patternOpening rest) →
        ∃ p init last first rest, IsFirst patternOpening s p ∧
          cut '|' p.before = init ++ [last] ∧ cut '|' p.after = first :: rest ∧
          split s = init ++ (last ++ p.segment ++ first) :: rest ∧
          (split s).length = p.before.count '|' + p.after.count '|' + 1) ∧
      (split s).countP (fun t => '|' ∈ t) ≤ 1 := by
  refine ⟨fun stem => splitWith_eq_split, joinWith_split s,
    fun h => split_eq_cut (findPattern_eq_none_iff.2 h), ?_, countP_split_le_one s⟩
  rintro ⟨start, tail, htext, hopens⟩
  have hsome : findPattern s ≠ none := fun h => findPattern_eq_none_iff.1 h start tail htext hopens
  obtain ⟨p, hfound⟩ := Option.ne_none_iff_exists'.1 hsome
  have hp := findPattern_eq_some_iff.1 hfound
  obtain ⟨init, last, hbefore⟩ := exists_cut_eq_append_singleton '|' p.before
  obtain ⟨first, rest, hafter⟩ := List.exists_cons_of_ne_nil (cut_ne_nil '|' p.after)
  have hsplit := splitWith_of_isFirst (isFresh_freshStem s) hp hbefore hafter
  refine ⟨p, init, last, first, rest, hp, hbefore, hafter, hsplit, ?_⟩
  have hcountBefore := length_cut '|' p.before
  have hcountAfter := length_cut '|' p.after
  rw [hbefore, List.length_append, List.length_singleton] at hcountBefore
  rw [hafter, List.length_cons] at hcountAfter
  rw [split, hsplit, List.length_append, List.length_cons]
  omega

/-- A pattern between letters is left whole, and the bars beside it separate. -/
example : split "ab|cregex[a|[b]]d|e]|f".toList =
    ["ab".toList, "cregex[a|[b]]d|e]".toList, "f".toList] := by decide +kernel

end FieldRules.Spec
