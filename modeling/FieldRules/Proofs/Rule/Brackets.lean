import FieldRules.Rule.Spec
import Mathlib.Data.List.TakeWhile

/-!
# Brackets of a rule text

A word opens a bracket where it is followed by some content and a closing bracket on the same line;
the bracket then reaches to the last closing bracket of the line. Patterns and options are both
found in this way, each at the first place where its word opens a bracket.

Results:
* `findClose_eq_some_iff`: where a bracket that has been opened is closed.
* `findOpening_eq_some_iff`, `findOpening_eq_none_iff`: the first bracket that a word opens.
* `findPattern_eq`, `readRule_eq`: what is searched for in a rule text, and in a rule.
-/

namespace FieldRules.Spec

/-! ## Closing brackets -/

/-- What a text has before its first line break. -/
def restOfLine (s : List Char) : List Char := s.takeWhile (· ≠ '\n')

theorem restOfLine_cons {c : Char} (hc : c ≠ '\n') (s : List Char) :
    restOfLine (c :: s) = c :: restOfLine s :=
  List.takeWhile_cons_of_pos (by simpa using hc)

theorem restOfLine_append {s : List Char} (h : '\n' ∉ s) (rest : List Char) :
    restOfLine (s ++ rest) = s ++ restOfLine rest := by
  induction s with
  | nil => rfl
  | cons c s ih =>
    obtain ⟨hc, hs⟩ := not_or.1 (mt List.mem_cons.2 h)
    rw [List.cons_append, restOfLine_cons (Ne.symm hc), ih hs, List.cons_append]

theorem splitAtLastClose_eq_none_iff {s : List Char} :
    splitAtLastClose s = none ↔ ']' ∉ restOfLine s := by
  induction s with
  | nil => exact ⟨fun _ => List.not_mem_nil, fun _ => rfl⟩
  | cons c rest ih =>
    by_cases hc : c = '\n'
    · subst hc
      exact ⟨fun _ => List.not_mem_nil, fun _ => rfl⟩
    · rw [splitAtLastClose, if_neg hc, restOfLine_cons hc, List.mem_cons, not_or, ← ih]
      cases splitAtLastClose rest <;> simp [eq_comm]

/-- A line is split at its last closing bracket. -/
theorem splitAtLastClose_eq_some_iff {s inside after : List Char} :
    splitAtLastClose s = some (inside, after) ↔
      inside ++ ']' :: after = s ∧ '\n' ∉ inside ∧ ']' ∉ restOfLine after := by
  constructor
  · intro h
    refine ⟨append_of_splitAtLastClose h, ?_⟩
    induction s generalizing inside with
    | nil => cases h
    | cons c rest ih =>
      rw [splitAtLastClose] at h
      split at h
      · cases h
      · next hc =>
        split at h
        · next i a hr =>
          cases h
          obtain ⟨hline, hlast⟩ := ih hr
          exact ⟨List.not_mem_cons_of_ne_of_not_mem (Ne.symm hc) hline, hlast⟩
        · next hr =>
          split at h
          · cases h
            exact ⟨List.not_mem_nil, splitAtLastClose_eq_none_iff.1 hr⟩
          · cases h
  · rintro ⟨rfl, hline, hlast⟩
    induction inside with
    | nil =>
      rw [List.nil_append, splitAtLastClose, splitAtLastClose_eq_none_iff.2 hlast]
      rfl
    | cons c inside ih =>
      obtain ⟨hc, hinside⟩ := not_or.1 (mt List.mem_cons.2 hline)
      rw [List.cons_append, splitAtLastClose, if_neg (Ne.symm hc), ih hinside]

/-- A bracket that has been opened is closed at the last closing bracket of its line. -/
theorem findClose_eq_some_iff {s content after : List Char} :
    findClose s = some (content, after) ↔
      content ++ ']' :: after = s ∧ content ≠ [] ∧ '\n' ∉ content ∧ ']' ∉ restOfLine after := by
  constructor
  · intro h
    refine ⟨append_of_findClose h, ?_⟩
    cases s with
    | nil => cases h
    | cons c rest =>
      rw [findClose] at h
      split at h
      · cases h
      · next hc =>
        obtain ⟨⟨inside, after'⟩, hsplit, hpair⟩ := Option.map_eq_some_iff.1 h
        cases hpair
        obtain ⟨-, hline, hlast⟩ := splitAtLastClose_eq_some_iff.1 hsplit
        exact ⟨List.cons_ne_nil _ _, List.not_mem_cons_of_ne_of_not_mem (Ne.symm hc) hline, hlast⟩
  · rintro ⟨rfl, hne, hline, hlast⟩
    obtain ⟨c, inside, rfl⟩ := List.exists_cons_of_ne_nil hne
    obtain ⟨hc, hinside⟩ := not_or.1 (mt List.mem_cons.2 hline)
    rw [List.cons_append, findClose, if_neg (Ne.symm hc),
      splitAtLastClose_eq_some_iff.2 ⟨rfl, hinside, hlast⟩]
    rfl

theorem findClose_ne_none {content : List Char} (hne : content ≠ []) (hline : '\n' ∉ content)
    (rest : List Char) : findClose (content ++ ']' :: rest) ≠ none := by
  obtain ⟨c, inside, rfl⟩ := List.exists_cons_of_ne_nil hne
  obtain ⟨hc, hinside⟩ := not_or.1 (mt List.mem_cons.2 hline)
  rw [List.cons_append, findClose, if_neg (Ne.symm hc), ne_eq, Option.map_eq_none_iff,
    splitAtLastClose_eq_none_iff, restOfLine_append hinside, restOfLine_cons (by decide)]
  simp

/-! ## Opened brackets -/

/-- A word opens a bracket at the front of a text: behind it there is some content, and then a
    closing bracket on the same line. -/
def Opens (opening s : List Char) : Prop :=
  ∃ content after, opening ++ (content ++ ']' :: after) = s ∧ content ≠ [] ∧ '\n' ∉ content

/-- The parts of a text around the first bracket that a word opens: the bracket is opened at the
    first place where that can be done, and it reaches to the last closing bracket of its line. -/
structure IsFirst (opening s : List Char) (p : PatternParts) : Prop where
  text : p.before ++ (opening ++ (p.content ++ ']' :: p.after)) = s
  content : p.content ≠ []
  line : '\n' ∉ p.content
  first : ∀ before rest, before ++ rest = s → Opens opening rest →
    p.before.length ≤ before.length
  last : ']' ∉ restOfLine p.after

theorem IsFirst.opens {opening s : List Char} {p : PatternParts} (h : IsFirst opening s p) :
    Opens opening (opening ++ (p.content ++ ']' :: p.after)) :=
  ⟨p.content, p.after, rfl, h.content, h.line⟩

/-- The content of the bracket that a word opens at the front of a text, and what follows it. -/
def bracketAt (opening s : List Char) : Option (List Char × List Char) :=
  if opening.isPrefixOf s then findClose (s.drop opening.length) else none

/-- The first bracket that a word opens. -/
def findOpening (opening : List Char) : List Char → Option PatternParts
  | [] => none
  | c :: rest =>
    match bracketAt opening (c :: rest) with
    | some (content, after) => some ⟨[], content, after⟩
    | none => (findOpening opening rest).map fun p => { p with before := c :: p.before }

section Openings

variable {opening s : List Char} {p q : PatternParts}

theorem bracketAt_append (opening s : List Char) :
    bracketAt opening (opening ++ s) = findClose s := by
  rw [bracketAt, if_pos (List.isPrefixOf_iff_prefix.2 (List.prefix_append opening s)),
    List.drop_left]

theorem bracketAt_eq_some_iff {content after : List Char} :
    bracketAt opening s = some (content, after) ↔
      opening ++ (content ++ ']' :: after) = s ∧ content ≠ [] ∧ '\n' ∉ content ∧
        ']' ∉ restOfLine after := by
  constructor
  · intro h
    have hprefix : opening.isPrefixOf s = true := by
      by_contra hno
      rw [bracketAt, if_neg hno] at h
      cases h
    obtain ⟨t, rfl⟩ := List.isPrefixOf_iff_prefix.1 hprefix
    rw [bracketAt_append, findClose_eq_some_iff] at h
    obtain ⟨rfl, h⟩ := h
    exact ⟨rfl, h⟩
  · rintro ⟨rfl, h⟩
    rw [bracketAt_append, findClose_eq_some_iff]
    exact ⟨rfl, h⟩

theorem bracketAt_eq_none_iff : bracketAt opening s = none ↔ ¬ Opens opening s := by
  constructor
  · rintro h ⟨content, after, rfl, hne, hline⟩
    rw [bracketAt_append] at h
    exact findClose_ne_none hne hline after h
  · intro h
    by_contra hno
    obtain ⟨⟨content, after⟩, hsome⟩ := Option.ne_none_iff_exists'.1 hno
    obtain ⟨htext, hne, hline, -⟩ := bracketAt_eq_some_iff.1 hsome
    exact h ⟨content, after, htext, hne, hline⟩

theorem not_opens_nil (opening : List Char) : ¬ Opens opening [] := by
  rintro ⟨content, after, h, -⟩
  simp at h

/-- Nothing is found in a text in which the word opens no bracket. -/
theorem findOpening_eq_none_iff :
    findOpening opening s = none ↔ ∀ before rest, before ++ rest = s → ¬ Opens opening rest := by
  induction s with
  | nil =>
    refine ⟨fun _ before rest h => ?_, fun _ => rfl⟩
    rw [(List.append_eq_nil_iff.1 h).2]
    exact not_opens_nil opening
  | cons c t ih =>
    rw [findOpening]
    constructor
    · intro h before rest htext
      split at h
      · cases h
      · next hhere =>
        rw [Option.map_eq_none_iff] at h
        cases before with
        | nil =>
          rw [List.nil_append] at htext
          rw [htext]
          exact bracketAt_eq_none_iff.1 hhere
        | cons c' before => exact ih.1 h before rest (List.cons.inj htext).2
    · intro h
      rw [bracketAt_eq_none_iff.2 (h [] (c :: t) rfl)]
      simp only
      rw [ih.2 fun before rest htext => h (c :: before) rest (by rw [List.cons_append, htext])]
      rfl

/-- What is found is the first bracket that the word opens. -/
theorem isFirst_of_findOpening (h : findOpening opening s = some p) : IsFirst opening s p := by
  induction s generalizing p with
  | nil => cases h
  | cons c t ih =>
    rw [findOpening] at h
    split at h
    · next content after hhere =>
      cases h
      obtain ⟨htext, hne, hline, hlast⟩ := bracketAt_eq_some_iff.1 hhere
      exact ⟨htext, hne, hline, fun _ _ _ _ => Nat.zero_le _, hlast⟩
    · next hhere =>
      obtain ⟨q, hq, rfl⟩ := Option.map_eq_some_iff.1 h
      obtain ⟨htext, hne, hline, hfirst, hlast⟩ := ih hq
      refine ⟨by rw [List.cons_append, htext], hne, hline, fun before rest hbefore hopens => ?_,
        hlast⟩
      cases before with
      | nil =>
        rw [List.nil_append] at hbefore
        rw [hbefore] at hopens
        exact absurd hopens (bracketAt_eq_none_iff.1 hhere)
      | cons c' before =>
        exact Nat.succ_le_succ (hfirst before rest (List.cons.inj hbefore).2 hopens)

/-- There is one first bracket at most. -/
theorem IsFirst.unique (hp : IsFirst opening s p) (hq : IsFirst opening s q) : p = q := by
  have hlength : p.before.length = q.before.length :=
    Nat.le_antisymm (hp.first _ _ hq.text hq.opens) (hq.first _ _ hp.text hp.opens)
  obtain ⟨hbefore, hrest⟩ := List.append_inj (hp.text.trans hq.text.symm) hlength
  -- both reach to the last closing bracket of the same line
  have hclosed : some (p.content, p.after) = some (q.content, q.after) := by
    rw [← bracketAt_eq_some_iff.2 ⟨rfl, hp.content, hp.line, hp.last⟩,
      bracketAt_eq_some_iff.2 ⟨hrest.symm, hq.content, hq.line, hq.last⟩]
  obtain ⟨hcontent, hafter⟩ := Prod.mk.inj (Option.some.inj hclosed)
  cases p
  cases q
  rw [PatternParts.mk.injEq]
  exact ⟨hbefore, hcontent, hafter⟩

theorem findOpening_eq_some_iff : findOpening opening s = some p ↔ IsFirst opening s p := by
  refine ⟨isFirst_of_findOpening, fun h => ?_⟩
  have hsome : findOpening opening s ≠ none := fun hnone =>
    findOpening_eq_none_iff.1 hnone _ _ h.text h.opens
  obtain ⟨q, hq⟩ := Option.ne_none_iff_exists'.1 hsome
  rw [hq, (isFirst_of_findOpening hq).unique h]

end Openings

/-! ## What is searched for -/

/-- The pattern of a rule text is the first bracket that its word opens. -/
theorem findPattern_eq (s : List Char) : findPattern s = findOpening patternOpening s := by
  induction s with
  | nil => rfl
  | cons c rest ih =>
    rw [findPattern, findOpening, ih]
    rfl

theorem findPattern_eq_some_iff {s : List Char} {p : PatternParts} :
    findPattern s = some p ↔ IsFirst patternOpening s p := by
  rw [findPattern_eq, findOpening_eq_some_iff]

/-- The word that opens options. -/
def optionsOpening : List Char := ['[']

/-- The options of a rule are taken out of its first brackets; what stands around them is its
    name. -/
theorem readRule_eq (token : List Char) :
    readRule token =
      match findOpening optionsOpening token with
      | some p => (p.before ++ p.after, some p.content)
      | none => (token, none) := by
  induction token with
  | nil => rfl
  | cons c rest ih =>
    have hhere : (if c = '[' then findClose rest else none) =
        bracketAt optionsOpening (c :: rest) := by
      by_cases hc : c = '['
      · subst hc
        exact (bracketAt_append optionsOpening rest).symm
      · rw [if_neg hc, bracketAt, if_neg]
        simp [optionsOpening, Ne.symm hc]
    rw [readRule, findOpening, hhere]
    cases bracketAt optionsOpening (c :: rest) with
    | some bracket => rfl
    | none =>
      simp only
      rw [ih]
      cases findOpening optionsOpening rest <;> rfl

end FieldRules.Spec
