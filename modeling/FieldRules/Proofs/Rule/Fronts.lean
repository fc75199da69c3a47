import FieldRules.Proofs.Rule.Numerals
import FieldRules.Proofs.Text
import Mathlib.Data.List.TakeWhile

/-!
# Texts with an integer at their front

A text has an integer at its front if blanks, a sign or none, and a decimal digit of any script
stand there. The digits are then read as far as they go; neither the blanks nor what follows the
digits matter.

Results:
* `exists_front_iff`: a text with an integer at its front is cut in one way, its digits as long as
  they can be.
* `read_text_front`: the front of a text is read as the number that its sign and its digits are.
* `integerOf_fronts`: which texts have an integer, which one it is, and that a written integer is
  read back whatever stands around it.
-/

namespace FieldRules.LeadingInt

open Shape (IsDigits Sign WrittenInt)

/-- The place value of a decimal digit. -/
def digit (c : Char) : Nat := (Unicode.digitValue? c).getD 0

/-- Blanks, a sign or none, and a decimal digit stand at the front of a text. -/
def HasFront (s : List Char) : Prop :=
  ∃ (blanks : List Char) (sign : Sign) (c : Char) (rest : List Char),
    (∀ b ∈ blanks, Unicode.isBlank b = true) ∧ Unicode.isDecimal c = true ∧
      s = blanks ++ (sign.text ++ c :: rest)

/-- The parts of a text with an integer at its front. The digits are as many as there are. -/
structure Front where
  blanks : List Char
  sign : Sign
  digits : List Char
  rest : List Char
  isBlank : ∀ c ∈ blanks, Unicode.isBlank c = true
  ne_nil : digits ≠ []
  isDecimal : ∀ c ∈ digits, Unicode.isDecimal c = true
  isLongest : ∀ c ∈ rest.head?, Unicode.isDecimal c = false

namespace Front

def text (f : Front) : List Char := f.blanks ++ (f.sign.text ++ (f.digits ++ f.rest))

/-- The number at the front: the digits are its magnitude in base ten, most significant first. -/
def value (f : Front) : Int := f.sign.apply (Nat.ofDigits 10 (f.digits.map digit).reverse)

end Front

/-! ## Digits, signs and blanks are apart -/

section Apart

variable {c : Char} {s : List Char}

theorem zeros_apart : ∀ z ∈ Unicode.zeros.toList,
    z = 48 ∨ 160 < z ∧ z + 9 < 5760 ∨ 5760 < z ∧ z + 9 < 8192 ∨ 12288 < z := by
  decide

theorem exists_zero_of_isDecimal (h : Unicode.isDecimal c = true) :
    ∃ z ∈ Unicode.zeros.toList, z ≤ c.toNat ∧ c.toNat ≤ z + 9 := by
  unfold Unicode.isDecimal Unicode.digitValue? at h
  split at h
  · next hdigit =>
    obtain ⟨hlow, hhigh⟩ := Char.isDigit_iff_toNat.1 hdigit
    exact ⟨48, by decide, hlow, hhigh⟩
  · split at h
    · cases h
    · rw [Option.isSome_map, Option.isSome_iff_exists] at h
      obtain ⟨range, hrange⟩ := h
      have hin := Array.find?_some hrange
      obtain ⟨z, hz, rfl⟩ := Array.mem_map.1 (Array.mem_of_find?_eq_some hrange)
      simp only [Bool.and_eq_true, decide_eq_true_eq] at hin
      exact ⟨z, Array.mem_toList_iff.2 hz, hin⟩

theorem apart_of_isDecimal (h : Unicode.isDecimal c = true) :
    Unicode.isBlank c = false ∧ c ≠ '-' ∧ c ≠ '+' := by
  refine ⟨?_, by rintro rfl; exact absurd h (by decide), by rintro rfl; exact absurd h (by decide)⟩
  obtain ⟨z, hz, hlow, hhigh⟩ := exists_zero_of_isDecimal h
  have hapart := zeros_apart z hz
  simp [Unicode.isBlank]
  omega

theorem digitValue?_of_isDecimal (h : Unicode.isDecimal c = true) :
    Unicode.digitValue? c = some (digit c) := by
  obtain ⟨d, hd⟩ := Option.isSome_iff_exists.1 h
  rw [digit, hd]
  rfl

theorem dropWhile_isBlank_sign (sign : Sign) (h : Unicode.isDecimal c = true) :
    (sign.text ++ c :: s).dropWhile Unicode.isBlank = sign.text ++ c :: s := by
  cases sign with
  | absent => simp [Sign.text, (apart_of_isDecimal h).1]
  | plus => rfl
  | minus => rfl

theorem splitSign_sign (sign : Sign) (h : Unicode.isDecimal c = true) :
    splitSign (sign.text ++ c :: s) = (decide (sign = .minus), c :: s) := by
  obtain ⟨-, hminus, hplus⟩ := apart_of_isDecimal h
  cases sign <;> simp [Sign.text, splitSign, hminus, hplus]

theorem exists_sign (s : List Char) :
    ∃ sign : Sign, s = sign.text ++ (splitSign s).2 ∧
      (splitSign s).1 = decide (sign = .minus) := by
  unfold splitSign
  split
  · exact ⟨.minus, rfl, rfl⟩
  · exact ⟨.plus, rfl, rfl⟩
  · exact ⟨.absent, rfl, rfl⟩

/-- A row of digits ends where the digits do. -/
theorem digitRow_append {digits rest : List Char}
    (h : ∀ c ∈ digits, Unicode.isDecimal c = true)
    (hrest : ∀ c ∈ rest.head?, Unicode.isDecimal c = false) :
    digitRow (digits ++ rest) = digits.map digit := by
  induction digits with
  | nil =>
    cases rest with
    | nil => rfl
    | cons c rest =>
      have hc : Unicode.digitValue? c = none := by
        simpa [Unicode.isDecimal] using hrest c rfl
      rw [List.nil_append, digitRow, hc]
      rfl
  | cons c digits ih =>
    obtain ⟨hc, hdigits⟩ := List.forall_mem_cons.1 h
    rw [List.cons_append, digitRow, digitValue?_of_isDecimal hc, List.map_cons, ← ih hdigits]

end Apart

/-! ## Reading a front -/

section Reading

variable {s : List Char}

/-- A text with an integer at its front is cut so that its digits are as long as they can be. -/
theorem exists_front_iff : (∃ f : Front, s = f.text) ↔ HasFront s := by
  constructor
  · rintro ⟨f, rfl⟩
    obtain ⟨c, others, hdigits⟩ := List.exists_cons_of_ne_nil f.ne_nil
    refine ⟨f.blanks, f.sign, c, others ++ f.rest, f.isBlank, ?_, ?_⟩
    · exact f.isDecimal c (hdigits ▸ List.mem_cons_self)
    · rw [Front.text, hdigits]
      rfl
  · rintro ⟨blanks, sign, c, rest, hblanks, hc, rfl⟩
    refine ⟨⟨blanks, sign, (c :: rest).takeWhile Unicode.isDecimal,
      (c :: rest).dropWhile Unicode.isDecimal, hblanks, by simp [hc],
      fun d hd => List.mem_takeWhile_imp hd, Text.head_dropWhile _⟩, ?_⟩
    rw [Front.text, List.takeWhile_append_dropWhile]

/-- The front of a text is read as the number that its sign and its digits are, if these are not too
    many. -/
theorem read_text_front (f : Front) :
    read f.text =
      if digitLimit < f.digits.length then .tooLong f.digits.length else .value f.value := by
  obtain ⟨c, others, hdigits⟩ := List.exists_cons_of_ne_nil f.ne_nil
  have hc : Unicode.isDecimal c = true := f.isDecimal c (hdigits ▸ List.mem_cons_self)
  have hstart : f.digits ++ f.rest = c :: (others ++ f.rest) := by rw [hdigits]; rfl
  have hblank : f.text.dropWhile Unicode.isBlank = f.sign.text ++ (f.digits ++ f.rest) := by
    rw [Front.text, List.dropWhile_append_of_pos f.isBlank, hstart, dropWhile_isBlank_sign _ hc]
  have hsign : splitSign (f.sign.text ++ (f.digits ++ f.rest)) =
      (decide (f.sign = .minus), f.digits ++ f.rest) := by rw [hstart, splitSign_sign _ hc]
  have hrow : digitRow (f.digits ++ f.rest) = f.digits.map digit :=
    digitRow_append f.isDecimal f.isLongest
  rw [read, hblank, hsign]
  simp only [hrow, List.length_map, List.isEmpty_map, List.isEmpty_iff, f.ne_nil, if_false,
    ofDigits_eq, Front.value]
  cases f.sign <;> rfl

/-- There is nothing to be read just if no integer stands at the front. -/
theorem read_eq_absent_iff : read s = .absent ↔ ¬ HasFront s := by
  constructor
  · intro h hfront
    obtain ⟨f, rfl⟩ := exists_front_iff.2 hfront
    rw [read_text_front] at h
    split at h <;> cases h
  · intro hfront
    obtain ⟨sign, hs, -⟩ := exists_sign (s.dropWhile Unicode.isBlank)
    have hrow : digitRow (splitSign (s.dropWhile Unicode.isBlank)).2 = [] := by
      cases hrest : (splitSign (s.dropWhile Unicode.isBlank)).2 with
      | nil => rfl
      | cons c rest =>
        rw [hrest] at hs
        have hc : Unicode.digitValue? c = none := by
          by_contra hc
          refine hfront ⟨s.takeWhile Unicode.isBlank, sign, c, rest,
            fun b hb => List.mem_takeWhile_imp hb, Option.isSome_iff_ne_none.2 hc, ?_⟩
          rw [← hs, List.takeWhile_append_dropWhile]
        rw [digitRow, hc]
    rw [read]
    simp only [hrow, List.isEmpty_nil, if_true]

end Reading

/-! ## Written integers -/

section Written

/-- An integer as it is written out. -/
def writtenInt (n : Int) : WrittenInt where
  sign := if n < 0 then .minus else .absent
  digits := Nat.toDigits 10 n.natAbs
  isDigits := ⟨Nat.toDigits_ne_nil, fun _ hc =>
    (Shape.isDigit_iff _).1 (Nat.isDigit_of_mem_toDigits (by decide) (Nat.le_refl _) hc)⟩

theorem text_writtenInt (n : Int) : (writtenInt n).text = (Value.int n).toText.toList := by
  show (writtenInt n).text = n.repr.toList
  cases n with
  | ofNat m => exact (Nat.toList_repr).symm
  | negSucc m =>
    have hsign : (writtenInt (.negSucc m)).sign = .minus := if_pos (Int.negSucc_lt_zero m)
    have hrepr : (Int.negSucc m).repr = "-" ++ (m + 1).repr := rfl
    rw [WrittenInt.text, hsign, hrepr, String.toList_append, Nat.toList_repr]
    rfl

/-- A written integer stands for itself. -/
theorem value_writtenInt (n : Int) : (writtenInt n).value = n := by
  have hdigits : ofDigits ((Nat.toDigits 10 n.natAbs).map fun c => c.toNat - 48) = n.natAbs := by
    calc ofDigits ((Nat.toDigits 10 n.natAbs).map fun c => c.toNat - 48)
        = (Nat.toDigits 10 n.natAbs).foldl (fun m c => 10 * m + (c.toNat - 48)) 0 := by
          simp only [ofDigits, List.foldl_map, Nat.mul_comm]
      _ = Nat.ofDigitChars 10 (Nat.toDigits 10 n.natAbs) 0 := Nat.ofDigitChars_eq_foldl.symm
      _ = n.natAbs := Nat.ofDigitChars_toDigits (by decide) (Nat.le_refl _)
  rw [ofDigits_eq] at hdigits
  unfold WrittenInt.value
  show (writtenInt n).sign.apply
    (Nat.ofDigits 10 (List.map _ (Nat.toDigits 10 n.natAbs)).reverse) = n
  rw [hdigits]
  unfold writtenInt
  simp only
  split
  · show -(n.natAbs : Int) = n
    omega
  · show (n.natAbs : Int) = n
    omega

/-- A written integer as the front of a text. -/
def Front.ofWritten (w : WrittenInt) (blanks rest : List Char)
    (hblanks : ∀ c ∈ blanks, Unicode.isBlank c = true)
    (hrest : ∀ c ∈ rest.head?, Unicode.isDecimal c = false) : Front where
  blanks
  sign := w.sign
  digits := w.digits
  rest
  isBlank := hblanks
  ne_nil := w.isDigits.1
  isDecimal c hc := by
    rw [Unicode.isDecimal, (w.isDigits.2 c hc).apart.1]
    rfl
  isLongest := hrest

theorem Front.value_ofWritten {w : WrittenInt} {blanks rest : List Char}
    (hblanks : ∀ c ∈ blanks, Unicode.isBlank c = true)
    (hrest : ∀ c ∈ rest.head?, Unicode.isDecimal c = false) :
    (Front.ofWritten w blanks rest hblanks hrest).value = w.value := by
  have hdigits : w.digits.map digit = w.digits.map fun c => c.toNat - 48 :=
    List.map_congr_left fun c hc => by
      rw [digit, (w.isDigits.2 c hc).apart.1]
      rfl
  rw [Front.value, WrittenInt.value]
  show w.sign.apply (Nat.ofDigits 10 (w.digits.map digit).reverse) = _
  rw [hdigits]

end Written

end FieldRules.LeadingInt

/-! ## The integer of a text -/

namespace FieldRules.Verdict

open LeadingInt (Front HasFront)

theorem integerOf_eq_none_iff (t : String) :
    integerOf (.text t) = .ok none ↔ ¬ HasFront t.toList := by
  rw [← LeadingInt.read_eq_absent_iff]
  show integerIn t.toList = .ok none ↔ _
  unfold integerIn
  cases LeadingInt.read t.toList <;> simp

theorem integerOf_front {t : String} {f : Front} (h : t.toList = f.text) :
    integerOf (.text t) =
      if LeadingInt.digitLimit < f.digits.length then .error (.tooManyDigits f.digits.length)
      else .ok (some f.value) := by
  show integerIn t.toList = _
  rw [integerIn, h, LeadingInt.read_text_front]
  by_cases hlong : LeadingInt.digitLimit < f.digits.length
  · rw [if_pos hlong, if_pos hlong]
  · rw [if_neg hlong, if_neg hlong]

/-- A text has an integer just if blanks, a sign or none, and a decimal digit of any script stand at
    its front. It is then the number that the sign and the digits are, which go as far as they can,
    whatever the blanks are and whatever follows; and a fault, if there are more digits than can be
    converted. So an integer that is not too long is read back from its written form, behind any
    blanks and before anything but a digit. -/
theorem integerOf_fronts :
    (∀ t : String,
      (integerOf (.text t) = .ok none ↔ ¬ HasFront t.toList) ∧
      (HasFront t.toList ↔ ∃ f : Front, t.toList = f.text) ∧
      ∀ f : Front, t.toList = f.text →
        integerOf (.text t) =
          if LeadingInt.digitLimit < f.digits.length then .error (.tooManyDigits f.digits.length)
          else .ok (some f.value)) ∧
    ∀ (n : Int) (blanks rest : String),
      (Nat.toDigits 10 n.natAbs).length ≤ LeadingInt.digitLimit →
      (∀ c ∈ blanks.toList, Unicode.isBlank c = true) →
      (∀ c ∈ rest.toList.head?, Unicode.isDecimal c = false) →
      integerOf (.text (blanks ++ (Value.int n).toText ++ rest)) = .ok (some n) := by
  refine ⟨fun t => ⟨integerOf_eq_none_iff t, LeadingInt.exists_front_iff.symm,
    fun f => integerOf_front⟩, fun n blanks rest hlength hblanks hrest => ?_⟩
  let f := Front.ofWritten (LeadingInt.writtenInt n) blanks.toList rest.toList hblanks hrest
  have htext : (blanks ++ (Value.int n).toText ++ rest).toList = f.text := by
    rw [String.toList_append, String.toList_append, ← LeadingInt.text_writtenInt]
    simp [f, Front.text, Front.ofWritten, Shape.WrittenInt.text]
  have hshort : ¬ LeadingInt.digitLimit < f.digits.length := Nat.not_lt.2 hlength
  rw [integerOf_front htext, if_neg hshort, Front.value_ofWritten, LeadingInt.value_writtenInt]

/-- Digits of another script behind blanks and a sign. -/
example : LeadingInt.read "\t -٤٢px".toList = .value (-42) := by decide +kernel

end FieldRules.Verdict
