import FieldRules.Rule.Builtin

/-!
# Rules on letters

The rules on letters look at every character for itself. A character is a letter to them if it is
one of the 52 ASCII letters, and also if its other case is one: that lets in four characters that
are not ASCII.

Results:
* `judges_of_verdict`: a built-in rule that gives a verdict on a text reports just that.
* `isLatinLetter_iff`: which characters count as letters.
* `letterRules_judge`: which texts the three rules on letters pass.
* `alpha_kelvin`: the sign for kelvin passes as a letter.
-/

namespace FieldRules

/-! ## What a rule says of a text -/

namespace Registry

/-- A rule reports once on a value on a day, and it passes the value just if something holds. -/
def Judges (r : Registry) (today : Calendar.Today) (rule : String) (value : Value)
    (options : List Value) (P : Prop) : Prop :=
  ∃ passed, r.evaluate today rule value options = .ok [.report passed (some options)] ∧
    (passed = true ↔ P)

section Judges

variable {r : Registry} {today : Calendar.Today} {rule v : String} {options : List Value} {P : Prop}

/-- A rule that gives a verdict on a text that is not empty reports just that. -/
theorem judges_of_verdict {d : Definition} {verdict : Verdict} {passed : Bool}
    (hd : r.get? rule = some d) (hrule : rule ≠ requiredRule) (hcheck : d.check = verdict.check)
    (hv : v ≠ "") (hpassed : verdict v.toList options = .ok passed) (hP : passed = true ↔ P) :
    r.Judges today rule (.text v) options P := by
  have htext : (Value.text v).ruleText? = some v := rfl
  have hempty : (Value.text v).isEmpty = false := by simp [Value.isEmpty, htext, hv]
  have hreport : verdict.check today (.text v) options = [.report passed (some options)] := by
    rw [Verdict.check, show (Value.text v).toText.toList = v.toList from rfl, hpassed]
  refine ⟨passed, ?_, hP⟩
  rw [evaluate, hd]
  simp only
  rw [if_neg hrule, hempty, htext, hcheck, ← hreport]
  rfl

theorem judges_of_shape {d : Definition} {isOfShape : List Char → Bool}
    (hd : r.get? rule = some d) (hrule : rule ≠ requiredRule)
    (hcheck : d.check = (Verdict.ofShape isOfShape).check) (hv : v ≠ "")
    (hP : isOfShape v.toList = true ↔ P) : r.Judges today rule (.text v) options P :=
  judges_of_verdict hd hrule hcheck hv rfl hP

end Judges

end Registry

/-! ## Lower case -/

namespace Unicode

/-- A table of runs moves a code point as one of its runs does, or not at all. -/
theorem CaseRun.search_cases (table : Array CaseRun) (n lo hi : Nat) :
    search table n lo hi = n ∨
      ∃ run ∈ table, run.first ≤ n ∧ n ≤ run.last ∧
        search table n lo hi = (n + run.shift).toNat := by
  fun_induction search table n lo hi with
  | case1 => exact .inl rfl
  | case2 lo hi _ middle run hrun hlow ih => exact ih
  | case3 lo hi _ middle run hrun hlow hhigh ih => exact ih
  | case4 lo hi _ middle run hrun hlow hhigh hstep =>
    exact .inr ⟨run, Array.mem_of_getElem? hrun, by omega, by omega, rfl⟩
  | case5 => exact .inl rfl
  | case6 => exact .inl rfl

/-- Beyond ASCII, only the capital I with a dot and the sign for kelvin have a lower case that is a
    letter from `a` to `z`, and no character has the small I without a dot or the long s for its
    lower case. -/
theorem lowerRuns_apart : ∀ run ∈ lowerRuns, run.last < 128 ∨
    (run.first = 304 ∧ run.last = 304) ∨ (run.first = 8490 ∧ run.last = 8490) ∨
    (122 < run.first + run.shift ∧
      (run.last + run.shift < 305 ∨ 305 < run.first + run.shift) ∧
      (run.last + run.shift < 383 ∨ 383 < run.first + run.shift)) := by
  decide +kernel

theorem toNat_ofNat (n : Nat) : (Char.ofNat n).toNat = n ∨ (Char.ofNat n).toNat = 0 := by
  by_cases h : n.isValidChar
  · rw [Char.ofNat, dif_pos h]
    exact .inl rfl
  · rw [Char.ofNat, dif_neg h]
    exact .inr rfl

end Unicode

namespace Shape

open Unicode (lower twins lowerRuns CaseRun)

/-! ## Letters -/

/-- The letters from `A` to `Z` in either case. -/
def IsAsciiLetter (c : Char) : Prop := ('A' ≤ c ∧ c ≤ 'Z') ∨ ('a' ≤ c ∧ c ≤ 'z')

instance (c : Char) : Decidable (IsAsciiLetter c) := inferInstanceAs (Decidable (_ ∨ _))

/-- The digits from `0` to `9`. -/
def IsAsciiDigit (c : Char) : Prop := '0' ≤ c ∧ c ≤ '9'

instance (c : Char) : Decidable (IsAsciiDigit c) := inferInstanceAs (Decidable (_ ∧ _))

/-- The characters beyond ASCII that count as letters: the capital I with a dot, the small one
    without, the long s, and the sign for kelvin. -/
def strayLetters : List Char := ['\u0130', '\u0131', '\u017f', '\u212a']

/-- The code points of the lower-case letters that count: those from `a` to `z`, and two that share
    their capitals with one of these. -/
def IsSmall (n : Nat) : Prop := (97 ≤ n ∧ n ≤ 122) ∨ n = 305 ∨ n = 383

instance (n : Nat) : Decidable (IsSmall n) := inferInstanceAs (Decidable (_ ∨ _))

theorem isSmall_of_mem_sharedCapitals : ∀ g ∈ Unicode.sharedCapitals, ∀ k ∈ g,
    IsSmall (Char.ofNat k).toNat → ∀ n ∈ g, IsSmall n := by
  decide

theorem isSmall_of_mem_twins {d l : Char} (hl : l ∈ twins d) (h : 'a' ≤ l ∧ l ≤ 'z') :
    IsSmall d.toNat := by
  obtain ⟨g, hg, hl⟩ := List.mem_flatMap.1 hl
  obtain ⟨hg, hd⟩ := List.mem_filter.1 hg
  obtain ⟨k, hk, rfl⟩ := List.mem_map.1 hl
  exact isSmall_of_mem_sharedCapitals g hg k (List.mem_filter.1 hk).1 (.inl h) d.toNat
    (by simpa using hd)

theorem isSmall_of_isLatinLetter {c : Char} (h : isLatinLetter c = true) :
    IsSmall (lower c).toNat := by
  obtain ⟨l, hl, hsmall⟩ := List.any_eq_true.1 h
  have hsmall : 'a' ≤ l ∧ l ≤ 'z' := by simpa using hsmall
  rcases List.mem_cons.1 hl with rfl | hl
  · exact .inl hsmall
  · exact isSmall_of_mem_twins hl hsmall

/-- Beyond ASCII, there are four characters whose lower case counts. -/
theorem mem_strayLetters_of_isSmall {c : Char} (hc : 128 ≤ c.toNat)
    (h : IsSmall (lower c).toNat) : c ∈ strayLetters := by
  have hlower : lower c = Char.ofNat (CaseRun.search lowerRuns c.toNat 0 lowerRuns.size) :=
    if_neg (by omega)
  have hmoved : IsSmall (CaseRun.search lowerRuns c.toNat 0 lowerRuns.size) := by
    rw [hlower] at h
    rcases Unicode.toNat_ofNat (CaseRun.search lowerRuns c.toNat 0 lowerRuns.size) with hn | hn
    · rwa [hn] at h
    · rw [hn] at h
      exact absurd h (by decide)
  have hcode : c.toNat = 304 ∨ c.toNat = 305 ∨ c.toNat = 383 ∨ c.toNat = 8490 := by
    unfold IsSmall at hmoved
    rcases CaseRun.search_cases lowerRuns c.toNat 0 lowerRuns.size with
      hsame | ⟨run, hrun, hfirst, hlast, hmove⟩
    · rw [hsame] at hmoved
      omega
    · rw [hmove] at hmoved
      have hapart := Unicode.lowerRuns_apart run hrun
      omega
  have hchar : c = Char.ofNat c.toNat := (Char.ofNat_toNat c).symm
  rcases hcode with hn | hn | hn | hn <;> rw [hchar, hn] <;> decide

theorem isLatinLetter_ascii : ∀ n < 128,
    (isLatinLetter (Char.ofNat n) = true ↔ IsAsciiLetter (Char.ofNat n)) := by
  decide

theorem toNat_lt_of_isAsciiLetter {c : Char} (h : IsAsciiLetter c) : c.toNat < 128 := by
  have hle : c ≤ 'z' := h.elim (fun h => Char.le_trans h.2 (by decide)) And.right
  exact Nat.lt_of_le_of_lt hle (by decide)

theorem isLatinLetter_of_mem_strayLetters {c : Char} (h : c ∈ strayLetters) :
    128 ≤ c.toNat ∧ isLatinLetter c = true := by
  have hall : (strayLetters.all fun d => decide (128 ≤ d.toNat) && isLatinLetter d) = true := by
    decide +kernel
  simpa using List.all_eq_true.1 hall c h

/-- A character counts as a letter just if it is an ASCII letter or one of four others. -/
theorem isLatinLetter_iff (c : Char) :
    isLatinLetter c = true ↔ IsAsciiLetter c ∨ c ∈ strayLetters := by
  by_cases hc : c.toNat < 128
  · have hascii := isLatinLetter_ascii c.toNat hc
    rw [Char.ofNat_toNat] at hascii
    have hnot : c ∉ strayLetters := fun h =>
      absurd (isLatinLetter_of_mem_strayLetters h).1 (by omega)
    rw [hascii, or_iff_left hnot]
  · have hnot : ¬ IsAsciiLetter c := fun h => hc (toNat_lt_of_isAsciiLetter h)
    rw [or_iff_right hnot]
    exact ⟨fun h => mem_strayLetters_of_isSmall (by omega) (isSmall_of_isLatinLetter h),
      fun h => (isLatinLetter_of_mem_strayLetters h).2⟩

theorem isDigit_iff (c : Char) : c.isDigit = true ↔ IsAsciiDigit c := Char.isDigit_iff_toNat

/-! ## Texts of letters -/

theorem isMadeOf_iff {p : Char → Bool} {P : Char → Prop} (hp : ∀ c, p c = true ↔ P c)
    {s : List Char} : isMadeOf p s = true ↔ s ≠ [] ∧ ∀ c ∈ s, P c := by
  simp [isMadeOf, hp]

end Shape

namespace Registry

open Shape (IsAsciiLetter IsAsciiDigit strayLetters isLatinLetter_iff isDigit_iff)

theorem judges_of_isMadeOf {r : Registry} {today : Calendar.Today} {rule v : String}
    {options : List Value} {d : Definition} {p : Char → Bool} {P : Char → Prop}
    (hd : r.get? rule = some d) (hrule : rule ≠ requiredRule)
    (hcheck : d.check = (Verdict.ofShape (Shape.isMadeOf p)).check) (hv : v ≠ "")
    (hp : ∀ c, p c = true ↔ P c) :
    r.Judges today rule (.text v) options (∀ c ∈ v.toList, P c) := by
  have hne : v.toList ≠ [] := fun h => hv (String.toList_eq_nil_iff.1 h)
  refine judges_of_shape hd hrule hcheck hv ?_
  rw [Shape.isMadeOf_iff hp, and_iff_right hne]

/-- The rules on letters report once on every text that is not empty. They pass the texts of ASCII
    letters, with ASCII digits and dashes where the rule allows them, and besides these only texts
    with the four characters whose other case is an ASCII letter. -/
theorem letterRules_judge (today : Calendar.Today) (policy : Markup.Policy)
    (options : List Value) {v : String} (hv : v ≠ "") :
    (standard policy).Judges today "alpha" (.text v) options
      (∀ c ∈ v.toList, IsAsciiLetter c ∨ c ∈ strayLetters) ∧
    (standard policy).Judges today "alphaNumeric" (.text v) options
      (∀ c ∈ v.toList, (IsAsciiLetter c ∨ c ∈ strayLetters) ∨ IsAsciiDigit c) ∧
    (standard policy).Judges today "alphaNumericDash" (.text v) options
      (∀ c ∈ v.toList, ((IsAsciiLetter c ∨ c ∈ strayLetters) ∨ IsAsciiDigit c) ∨ c = '-') := by
  refine ⟨judges_of_isMadeOf rfl (by decide) rfl hv isLatinLetter_iff,
    judges_of_isMadeOf rfl (by decide) rfl hv fun c => ?_,
    judges_of_isMadeOf rfl (by decide) rfl hv fun c => ?_⟩
  · rw [Bool.or_eq_true, isLatinLetter_iff, isDigit_iff]
  · rw [Bool.or_eq_true, Bool.or_eq_true, isLatinLetter_iff, isDigit_iff, decide_eq_true_iff]

/-- A word with a long s and a dash: only the rule that allows dashes passes it. -/
theorem letterRules_judge_longS : "gro\u017f-9" ≠ "" ∧
    ¬ (∀ c ∈ "gro\u017f-9".toList, (IsAsciiLetter c ∨ c ∈ strayLetters) ∨ IsAsciiDigit c) ∧
    ∃ passed, (standard .standard).evaluate ⟨2024, 5, 31⟩ "alphaNumericDash"
        (.text "gro\u017f-9") [] = .ok [.report passed (some [])] ∧ passed = true := by
  have hne : "gro\u017f-9" ≠ "" := by decide
  have hdash : ¬ ((IsAsciiLetter '-' ∨ '-' ∈ strayLetters) ∨ IsAsciiDigit '-') := by decide
  have hall : ∀ c ∈ "gro\u017f-9".toList,
      ((IsAsciiLetter c ∨ c ∈ strayLetters) ∨ IsAsciiDigit c) ∨ c = '-' :=
    @of_decide_eq_true _ (List.decidableBAll _ _) rfl
  obtain ⟨-, -, passed, hactions, hpassed⟩ :=
    letterRules_judge ⟨2024, 5, 31⟩ .standard [] hne
  exact ⟨hne, fun h => hdash (h '-' (by decide)), passed, hactions, hpassed.2 hall⟩

/-- The sign for kelvin alone passes as a text of letters, although it is no ASCII letter. -/
theorem alpha_kelvin :
    (standard .standard).evaluate ⟨2024, 5, 31⟩ "alpha" (.text "\u212a") [] =
        .ok [.report true (some [])] ∧
      ¬ ∀ c ∈ "\u212a".toList, IsAsciiLetter c := by
  have hshape : Shape.isLetters "\u212a".toList = true := by decide +kernel
  have hkelvin : ¬ IsAsciiLetter '\u212a' := by decide
  refine ⟨?_, fun h => hkelvin (h _ (by decide))⟩
  show Except.ok
    (Verdict.check (Verdict.ofShape Shape.isLetters) ⟨2024, 5, 31⟩ (.text "\u212a") []) = _
  rw [Verdict.check, show (Value.text "\u212a").toText.toList = "\u212a".toList from rfl,
    Verdict.ofShape, hshape]

end Registry

end FieldRules
