import FieldRules.Proofs.Rule.Accepted
import FieldRules.Proofs.Rule.Shapes
import FieldRules.Proofs.Rule.Verdict
import Mathlib.Data.List.Induction
import Mathlib.Data.Nat.Digits.Defs

/-!
# Rules on numbers

A number is read in two ways: by its shape, which allows ASCII digits only and has to be that of
the whole text, and as the integer at the front of a text, which has digits of any script. On the
texts that have the shape of an integer, both ways agree.

Results:
* `isNatural_iff`, `isInteger_iff`, `isDecimal_iff`: the shapes, told without their readers.
* `read_text`: a written integer that is not too long is read as the number that it stands for.
* `exists_limit_of_parseValue`: a comparison is accepted only with an integer to compare with.
* `numberRules_judge`: which texts the rules on numbers pass.
-/

namespace FieldRules.Shape

/-! ## Written numbers -/

/-- One digit or more. -/
def IsDigits (s : List Char) : Prop := s ≠ [] ∧ ∀ c ∈ s, IsAsciiDigit c

instance (s : List Char) : Decidable (IsDigits s) :=
  @instDecidableAnd _ _ _ (List.decidableBAll _ _)

/-- What may stand in front of a number. -/
inductive Sign where
  | absent
  | plus
  | minus
  deriving DecidableEq, Repr

namespace Sign

def text : Sign → List Char
  | absent => []
  | plus => ['+']
  | minus => ['-']

/-- The number of this sign with a given magnitude. -/
def apply : Sign → Nat → Int
  | absent, n | plus, n => n
  | minus, n => -n

end Sign

/-- An integer as it is written. -/
structure WrittenInt where
  sign : Sign
  digits : List Char
  isDigits : IsDigits digits

namespace WrittenInt

def text (w : WrittenInt) : List Char := w.sign.text ++ w.digits

/-- The number that a written integer stands for: its digits are those of the magnitude in base
    ten, most significant first. -/
def value (w : WrittenInt) : Int :=
  w.sign.apply (Nat.ofDigits 10 (w.digits.map fun c => c.toNat - 48).reverse)

end WrittenInt

/-- Digits, with a plus or without. -/
def IsNaturalText (s : List Char) : Prop := ∃ w : WrittenInt, w.sign ≠ .minus ∧ s = w.text

/-- Digits, with a sign or without. -/
def IsIntegerText (s : List Char) : Prop := ∃ w : WrittenInt, s = w.text

/-- An integer, alone or with a point and digits behind it. -/
def IsDecimalText (s : List Char) : Prop :=
  ∃ w : WrittenInt, s = w.text ∨ ∃ fraction, IsDigits fraction ∧ s = w.text ++ '.' :: fraction

/-! ## Signs -/

section Signs

variable {digits : List Char}

/-- A digit has its place value, and it is no sign, no point and no blank. -/
theorem IsAsciiDigit.apart {c : Char} (h : IsAsciiDigit c) :
    Unicode.digitValue? c = some (c.toNat - 48) ∧ c ≠ '-' ∧ c ≠ '+' ∧ c ≠ '.' ∧
      Unicode.isBlank c = false := by
  have hdigit : c.isDigit = true := (isDigit_iff c).2 h
  have hcode : 48 ≤ c.toNat ∧ c.toNat ≤ 57 := Char.isDigit_iff_toNat.1 hdigit
  refine ⟨by rw [Unicode.digitValue?, if_pos hdigit], ?_, ?_, ?_, ?_⟩
  · rintro rfl; exact absurd hcode (by decide)
  · rintro rfl; exact absurd hcode (by decide)
  · rintro rfl; exact absurd hcode (by decide)
  · simp [Unicode.isBlank]
    omega

theorem IsDigits.exists_cons (h : IsDigits digits) :
    ∃ c others, digits = c :: others ∧ IsAsciiDigit c := by
  obtain ⟨c, others, rfl⟩ := List.exists_cons_of_ne_nil h.1
  exact ⟨c, others, rfl, h.2 c List.mem_cons_self⟩

theorem dropSign_append (sign : Sign) (h : IsDigits digits) (rest : List Char) :
    dropSign (sign.text ++ (digits ++ rest)) = digits ++ rest := by
  obtain ⟨c, others, rfl, hc⟩ := h.exists_cons
  obtain ⟨-, hminus, hplus, -, -⟩ := hc.apart
  cases sign <;> simp [Sign.text, dropSign, dropPlus, hminus, hplus]

theorem dropPlus_append {sign : Sign} (hsign : sign ≠ .minus) (h : IsDigits digits) :
    dropPlus (sign.text ++ digits) = digits := by
  obtain ⟨c, others, rfl, hc⟩ := h.exists_cons
  obtain ⟨-, -, hplus, -, -⟩ := hc.apart
  cases sign with
  | absent => simp [Sign.text, dropPlus, hplus]
  | plus => rfl
  | minus => exact absurd rfl hsign

theorem exists_dropPlus (s : List Char) :
    ∃ sign : Sign, sign ≠ .minus ∧ s = sign.text ++ dropPlus s := by
  unfold dropPlus
  split
  · exact ⟨.plus, by decide, rfl⟩
  · exact ⟨.absent, by decide, rfl⟩

theorem exists_dropSign (s : List Char) : ∃ sign : Sign, s = sign.text ++ dropSign s := by
  unfold dropSign
  split
  · exact ⟨.minus, rfl⟩
  · obtain ⟨sign, -, hs⟩ := exists_dropPlus s
    exact ⟨sign, hs⟩

end Signs

/-! ## The shapes of numbers -/

section Shapes

variable {s digits : List Char}

theorem isNumeric_iff : isNumeric s = true ↔ IsDigits s := isMadeOf_iff isDigit_iff

theorem isNatural_iff : isNatural s = true ↔ IsNaturalText s := by
  rw [isNatural, isNumeric_iff]
  constructor
  · intro h
    obtain ⟨sign, hsign, hs⟩ := exists_dropPlus s
    exact ⟨⟨sign, dropPlus s, h⟩, hsign, hs⟩
  · rintro ⟨w, hsign, rfl⟩
    rw [WrittenInt.text, dropPlus_append hsign w.isDigits]
    exact w.isDigits

theorem dropSign_text (w : WrittenInt) : dropSign w.text = w.digits := by
  have h := dropSign_append w.sign w.isDigits []
  rwa [List.append_nil] at h

theorem isInteger_iff : isInteger s = true ↔ IsIntegerText s := by
  rw [isInteger, isNumeric_iff]
  constructor
  · intro h
    obtain ⟨sign, hs⟩ := exists_dropSign s
    exact ⟨⟨sign, dropSign s, h⟩, hs⟩
  · rintro ⟨w, rfl⟩
    rw [dropSign_text]
    exact w.isDigits

theorem span_digits (h : IsDigits digits) (rest : List Char)
    (hrest : ∀ c ∈ rest.head?, c.isDigit = false) :
    (digits ++ rest).takeWhile Char.isDigit = digits ∧
      (digits ++ rest).dropWhile Char.isDigit = rest := by
  have hall : ∀ c ∈ digits, c.isDigit = true := fun c hc => (isDigit_iff c).2 (h.2 c hc)
  rw [List.takeWhile_append_of_pos hall, List.dropWhile_append_of_pos hall]
  cases rest with
  | nil => simp
  | cons c rest => simp [hrest c rfl]

theorem isDecimal_iff : isDecimal s = true ↔ IsDecimalText s := by
  constructor
  · intro h
    obtain ⟨sign, hs⟩ := exists_dropSign s
    have hsplit := List.takeWhile_append_dropWhile (p := Char.isDigit) (l := dropSign s)
    unfold isDecimal at h
    simp only at h
    split at h
    · exact ⟨⟨sign, dropSign s, isNumeric_iff.1 h⟩, .inl hs⟩
    · next fraction hfraction =>
      rw [Bool.and_eq_true, isNumeric_iff, isNumeric_iff] at h
      refine ⟨⟨sign, _, h.1⟩, .inr ⟨fraction, h.2, ?_⟩⟩
      rw [hfraction] at hsplit
      rw [WrittenInt.text, List.append_assoc, hsplit]
      exact hs
    · cases h
  · rintro ⟨w, rfl | ⟨fraction, hfraction, rfl⟩⟩
    · obtain ⟨-, hdrop⟩ := span_digits w.isDigits [] nofun
      rw [List.append_nil] at hdrop
      simp only [isDecimal, dropSign_text, hdrop]
      exact isNumeric_iff.2 w.isDigits
    · obtain ⟨htake, hdrop⟩ := span_digits w.isDigits ('.' :: fraction) (by simp)
      have htext : dropSign (w.text ++ '.' :: fraction) = w.digits ++ '.' :: fraction := by
        rw [WrittenInt.text, List.append_assoc, dropSign_append w.sign w.isDigits]
      simp only [isDecimal, htext, htake, hdrop]
      rw [Bool.and_eq_true, isNumeric_iff, isNumeric_iff]
      exact ⟨w.isDigits, hfraction⟩

theorem IsDigits.isNaturalText (h : IsDigits s) : IsNaturalText s :=
  ⟨⟨.absent, s, h⟩, nofun, rfl⟩

theorem IsNaturalText.isIntegerText (h : IsNaturalText s) : IsIntegerText s :=
  h.imp fun _ h => h.2

theorem IsIntegerText.isDecimalText (h : IsIntegerText s) : IsDecimalText s :=
  h.imp fun _ h => .inl h

/-- Written with a minus or without, a natural number is never negative. -/
theorem value_nonneg_of_isNaturalText {w : WrittenInt} (h : IsNaturalText w.text) :
    0 ≤ w.value := by
  obtain ⟨w', hsign, htext⟩ := h
  have hminus : w.sign ≠ .minus := by
    intro hw
    obtain ⟨c, others, hdigits, hc⟩ := w'.isDigits.exists_cons
    have hne : c ≠ '-' := hc.apart.2.1
    rw [WrittenInt.text, WrittenInt.text, hw, hdigits] at htext
    cases hsign' : w'.sign with
    | absent => simp [hsign', Sign.text, hne.symm] at htext
    | plus => simp [hsign', Sign.text] at htext
    | minus => exact hsign hsign'
  unfold WrittenInt.value Sign.apply
  split
  · exact Int.natCast_nonneg _
  · exact Int.natCast_nonneg _
  · next hw => exact absurd hw hminus

end Shapes

end FieldRules.Shape

/-! ## The integer at the front of a text -/

namespace FieldRules.LeadingInt

open Shape (IsDigits Sign WrittenInt)

theorem digitRow_of_isDigits {digits : List Char} (h : ∀ c ∈ digits, Shape.IsAsciiDigit c) :
    digitRow digits = digits.map fun c => c.toNat - 48 := by
  induction digits with
  | nil => rfl
  | cons c rest ih =>
    obtain ⟨hc, hrest⟩ := List.forall_mem_cons.1 h
    rw [digitRow, hc.apart.1, List.map_cons, ih hrest]

theorem ofDigits_eq (ds : List Nat) : ofDigits ds = Nat.ofDigits 10 ds.reverse := by
  induction ds using List.reverseRecOn with
  | nil => rfl
  | append_singleton ds d ih =>
    rw [List.reverse_append, List.reverse_singleton, List.singleton_append, Nat.ofDigits_cons,
      ← ih, ofDigits, List.foldl_append]
    show ofDigits ds * 10 + d = d + 10 * ofDigits ds
    ring

theorem splitSign_append (sign : Sign) {digits : List Char} (h : IsDigits digits) :
    splitSign (sign.text ++ digits) = (decide (sign = .minus), digits) := by
  obtain ⟨c, others, rfl, hc⟩ := h.exists_cons
  obtain ⟨-, hminus, hplus, -, -⟩ := hc.apart
  cases sign <;> simp [Sign.text, splitSign, hminus, hplus]

theorem dropWhile_isBlank_text (w : WrittenInt) :
    w.text.dropWhile Unicode.isBlank = w.text := by
  obtain ⟨c, others, hdigits, hc⟩ := w.isDigits.exists_cons
  obtain ⟨-, -, -, -, hblank⟩ := hc.apart
  rw [WrittenInt.text, hdigits]
  cases w.sign with
  | absent => simp [Sign.text, hblank]
  | plus => rfl
  | minus => rfl

/-- A written integer that is not too long is read as the number that it stands for. -/
theorem read_text {w : WrittenInt} (h : w.digits.length ≤ digitLimit) :
    read w.text = .value w.value := by
  have hrow : digitRow w.digits = w.digits.map fun c => c.toNat - 48 :=
    digitRow_of_isDigits w.isDigits.2
  have hne : ¬ (digitRow w.digits).isEmpty = true := by
    rw [hrow]
    simp [w.isDigits.1]
  have hlength : ¬ digitLimit < (digitRow w.digits).length := by
    rw [hrow, List.length_map]
    omega
  rw [read, dropWhile_isBlank_text, WrittenInt.text, splitSign_append w.sign w.isDigits]
  simp only
  rw [if_neg hne, if_neg hlength, hrow, ofDigits_eq, WrittenInt.value]
  cases w.sign <;> rfl

end FieldRules.LeadingInt

/-! ## The rules -/

namespace FieldRules

namespace Spec

/-- The number that a rule compares with. -/
def Rule.HasLimit (rule : Rule) (n : Int) : Prop :=
  ∃ option rest, rule.options = option :: rest ∧ LeadingInt.read option.toList = .value n

/-- A rule that asks for an integer is accepted only with an integer for its first option. -/
theorem exists_limit_of_parseValue {registry : Registry} {hasTemplate : String → Bool}
    {field : Option String} {spec : Value} {rules : List Rule} {rule : Rule} {d : Definition}
    (h : parseValue registry hasTemplate field spec = .ok rules) (hmem : rule ∈ rules)
    (htransform : registry.isTransform rule.name = false) (hd : registry.get? rule.name = some d)
    (hinteger : d.integerOption = true) : ∃ n, rule.HasLimit n := by
  have hrule : rule.isTransform = false := (isTransform_of_parseValue h rule hmem).trans htransform
  obtain ⟨d', husable⟩ := isUsable_of_parseValue h hmem hrule
  obtain rfl : d' = d := Option.some.inj (husable.definition.symm.trans hd)
  obtain ⟨option, rest, n, hoptions, hn⟩ := husable.integer hinteger
  exact ⟨n, option, rest, hoptions, hn⟩

end Spec

namespace Verdict

variable {s : List Char} {n m : Int} {rule : Spec.Rule}

theorem integerIn_of_read (h : LeadingInt.read s = .value n) : integerIn s = .ok (some n) := by
  rw [integerIn, h]

theorem limit_of_hasLimit (sign : String) (h : rule.HasLimit m) :
    limit sign (rule.options.map .text) = .ok m := by
  obtain ⟨option, rest, hoptions, hread⟩ := h
  rw [hoptions]
  exact limit_eq sign (integerIn_of_read hread)

theorem comparesInteger_eq (h : LeadingInt.read s = .value n) (hm : rule.HasLimit m)
    (sign : String) (compare : Int → Int → Bool) :
    comparesInteger sign compare s (rule.options.map .text) = .ok (compare n m) := by
  unfold comparesInteger
  rw [integerIn_of_read h, limit_of_hasLimit _ hm]
  rfl

theorem naturalNoZero_eq (h : LeadingInt.read s = .value n) (options : List Value) :
    naturalNoZero s options = .ok (Shape.isNatural s && decide (0 < n)) := by
  unfold naturalNoZero
  rw [integerIn_of_read h]
  cases Shape.isNatural s <;> rfl

end Verdict

namespace Registry

open Shape (IsAsciiDigit IsDigits IsNaturalText IsIntegerText IsDecimalText WrittenInt)

/-- The rules on numbers report once on every text that is not empty. Those on the shape of a number
    pass just the texts of that shape, and each shape is one of the next. On an integer of no more
    digits than can be converted, all rules go by the number that it stands for: its front is read
    as that number, a natural number passes as not zero if it is not, and a comparison that has been
    accepted compares that number with its own. -/
theorem numberRules_judge (today : Calendar.Today) (policy : Markup.Policy)
    (options : List Value) {v : String} (hv : v ≠ "") :
    (standard policy).Judges today "numeric" (.text v) options (∀ c ∈ v.toList, IsAsciiDigit c) ∧
    (standard policy).Judges today "natural" (.text v) options (IsNaturalText v.toList) ∧
    (standard policy).Judges today "integer" (.text v) options (IsIntegerText v.toList) ∧
    (standard policy).Judges today "decimal" (.text v) options (IsDecimalText v.toList) ∧
    ((∀ c ∈ v.toList, IsAsciiDigit c) → IsNaturalText v.toList) ∧
    (IsNaturalText v.toList → IsIntegerText v.toList) ∧
    (IsIntegerText v.toList → IsDecimalText v.toList) ∧
    ∀ w : WrittenInt, v.toList = w.text → w.digits.length ≤ LeadingInt.digitLimit →
      LeadingInt.read v.toList = .value w.value ∧
      (standard policy).Judges today "naturalNoZero" (.text v) options
        (IsNaturalText v.toList ∧ w.value ≠ 0) ∧
      ∀ hasTemplate field spec rules,
        Spec.parseValue (standard policy) hasTemplate field spec = .ok rules →
        ∀ rule ∈ rules,
          (rule.name = "greaterThan" → ∃ m, rule.HasLimit m ∧
            (standard policy).Judges today "greaterThan" (.text v) (rule.options.map .text)
              (m < w.value)) ∧
          (rule.name = "lessThan" → ∃ m, rule.HasLimit m ∧
            (standard policy).Judges today "lessThan" (.text v) (rule.options.map .text)
              (w.value < m)) := by
  have hne : v.toList ≠ [] := fun h => hv (String.toList_eq_nil_iff.1 h)
  refine ⟨judges_of_isMadeOf rfl (by decide) rfl hv Shape.isDigit_iff,
    judges_of_shape rfl (by decide) rfl hv Shape.isNatural_iff,
    judges_of_shape rfl (by decide) rfl hv Shape.isInteger_iff,
    judges_of_shape rfl (by decide) rfl hv Shape.isDecimal_iff,
    fun h => IsDigits.isNaturalText ⟨hne, h⟩, IsNaturalText.isIntegerText,
    IsIntegerText.isDecimalText, fun w hw hlength => ?_⟩
  have hread : LeadingInt.read v.toList = .value w.value := hw ▸ LeadingInt.read_text hlength
  refine ⟨hread, ?_, fun hasTemplate field spec rules hrules rule hmem => ⟨?_, ?_⟩⟩
  · have hsign : IsNaturalText v.toList → 0 ≤ w.value := fun h =>
      Shape.value_nonneg_of_isNaturalText (hw ▸ h)
    refine judges_of_verdict rfl (by decide) rfl hv (Verdict.naturalNoZero_eq hread options) ?_
    rw [Bool.and_eq_true, Shape.isNatural_iff, decide_eq_true_iff]
    exact and_congr_right fun h => by have := hsign h; omega
  · intro hname
    obtain ⟨m, hm⟩ := Spec.exists_limit_of_parseValue hrules hmem (by rw [hname]; rfl)
      (by rw [hname]; rfl) rfl
    exact ⟨m, hm, judges_of_verdict rfl (by decide) rfl hv
      (Verdict.comparesInteger_eq hread hm _ _) decide_eq_true_iff⟩
  · intro hname
    obtain ⟨m, hm⟩ := Spec.exists_limit_of_parseValue hrules hmem (by rw [hname]; rfl)
      (by rw [hname]; rfl) rfl
    exact ⟨m, hm, judges_of_verdict rfl (by decide) rfl hv
      (Verdict.comparesInteger_eq hread hm _ _) decide_eq_true_iff⟩

/-- A number with a plus and a zero in front is compared with a negative one that has more behind
    its digits. -/
theorem numberRules_judge_plus : "+042" ≠ "" ∧
    (∃ rule, Spec.parseValue (standard .standard) (fun _ => true) none
        (.text "integer|greaterThan[-7px]") = .ok [⟨"integer", [], false⟩, rule] ∧
      rule.HasLimit (-7) ∧
      ∃ passed, (standard .standard).evaluate ⟨2024, 5, 31⟩ "greaterThan" (.text "+042")
          (rule.options.map .text) =
            .ok [.report passed (some (rule.options.map .text))] ∧ passed = true) ∧
    ∃ passed, (standard .standard).evaluate ⟨2024, 5, 31⟩ "naturalNoZero" (.text "+042") [] =
      .ok [.report passed (some [])] ∧ passed = true := by
  have hne : "+042" ≠ "" := by decide
  let w : WrittenInt := ⟨.plus, "042".toList, by decide⟩
  have hvalue : w.value = 42 := by decide
  have hlength : w.digits.length ≤ LeadingInt.digitLimit := by decide
  have hparse : Spec.parseValue (standard .standard) (fun _ => true) none
      (.text "integer|greaterThan[-7px]") =
        .ok [⟨"integer", [], false⟩, ⟨"greaterThan", ["-7px"], false⟩] := by rfl
  have hlimit : LeadingInt.read "-7px".toList = .value (-7) := by rfl
  obtain ⟨-, -, -, -, -, -, -, hread⟩ :=
    numberRules_judge ⟨2024, 5, 31⟩ .standard [] hne
  obtain ⟨-, ⟨passed, hzero, hpassed⟩, hrules⟩ := hread w (by decide) hlength
  obtain ⟨hgreater, -⟩ := hrules _ _ _ _ hparse ⟨"greaterThan", ["-7px"], false⟩
    (List.mem_cons_of_mem _ List.mem_cons_self)
  obtain ⟨m, ⟨option, rest, hoptions, hm⟩, passed', hcompare, hpassed'⟩ := hgreater rfl
  obtain ⟨rfl, rfl⟩ := List.cons.inj hoptions
  obtain rfl : m = -7 := LeadingInt.value.inj (hm.symm.trans hlimit)
  refine ⟨hne, ⟨_, hparse, ⟨_, _, rfl, hlimit⟩, passed', hcompare, hpassed'.2 ?_⟩, passed, hzero,
    hpassed.2 ⟨⟨w, by decide, by decide⟩, ?_⟩⟩
  · rw [hvalue]
    decide
  · rw [hvalue]
    decide

end Registry

end FieldRules
