import FieldRules.Number.Power

/-!
# Binary floating-point numbers

The numbers of the 64-bit binary format, as exact dyadic rationals `± significand · 2 ^ exponent`
beside the infinities and the value that is no number. Rounding goes to the nearest number of the
format, and a tie goes to the even significand.
-/

namespace FieldRules

/-- A number of the 64-bit binary format. A finite one is kept with its significand below
    `2 ^ 53` and its exponent at least `-1074`. -/
inductive Binary64 where
  | notANumber
  | infinite (negative : Bool)
  | finite (negative : Bool) (significand : Nat) (exponent : Int)
  deriving DecidableEq, Repr, Inhabited

/-- The quotient rounded to the nearest whole number, a tie to the even one. -/
def roundQuotient (num den : Nat) : Nat :=
  let q := num / den
  let r := num % den
  if 2 * r < den then q
  else if den < 2 * r then q + 1
  else q + q % 2

namespace Binary64

/-- The least exponent. -/
def leastExponent : Int := -1074

/-- The greatest exponent. -/
def greatestExponent : Int := 971

/-- The quotient `num / den · 2 ^ (-q)` as numerator and denominator. -/
def scaled (num den : Nat) (q : Int) : Nat × Nat :=
  if q < 0 then (num * twoTo (-q).toNat, den) else (num, den * twoTo q.toNat)

/-- The number of the format next to `num / den`; a denominator of zero counts as one. -/
def ofQuotient (negative : Bool) (num den : Nat) : Binary64 :=
  let den := max den 1
  if num = 0 then .finite negative 0 leastExponent
  else
    let guess : Int := (Nat.log2 num : Int) - Nat.log2 den - 52
    let quotient (q : Int) : Nat := let (a, b) := scaled num den q; a / b
    let q := if quotient guess < twoTo 52 then guess - 1 else guess
    let q := max q leastExponent
    let (a, b) := scaled num den q
    let s := roundQuotient a b
    let (s, q) := if s = twoTo 53 then (twoTo 52, q + 1) else (s, q)
    if greatestExponent < q then .infinite negative else .finite negative s q

/-- The number next to `digits · 10 ^ exponent`. Exponents that lead out of the format on either
    side are settled without writing out the power. -/
def ofDecimal (negative : Bool) (digits : Nat) (exponent : Int) : Binary64 :=
  if digits = 0 then .finite negative 0 leastExponent
  else
    let size : Int := (Nat.log2 digits : Int) * 3 / 10 + exponent
    if 400 < size then .infinite negative
    else if size < -400 then .finite negative 0 leastExponent
    else if exponent < 0 then ofQuotient negative digits (tenTo (-exponent).toNat)
    else ofQuotient negative (digits * tenTo exponent.toNat) 1

/-- The number next to a whole number. -/
def ofInt (n : Int) : Binary64 := ofQuotient (n < 0) n.natAbs 1

/-- The value times `2 ^ 1074`, for finite numbers. -/
def units? : Binary64 → Option Int
  | .finite negative s q =>
    let size : Int := s * twoTo (q - leastExponent).toNat
    some (if negative then -size else size)
  | _ => none

/-- Addition, rounded. -/
def add : Binary64 → Binary64 → Binary64
  | .notANumber, _ | _, .notANumber => .notANumber
  | .infinite a, .infinite b => if a = b then .infinite a else .notANumber
  | .infinite a, _ | _, .infinite a => .infinite a
  | x@(.finite a _ _), y@(.finite b _ _) =>
    let sum := x.units?.getD 0 + y.units?.getD 0
    if sum = 0 then .finite (a && b) 0 leastExponent
    else ofQuotient (sum < 0) sum.natAbs (twoTo 1074)

/-- The number with the other sign. -/
def neg : Binary64 → Binary64
  | .notANumber => .notANumber
  | .infinite a => .infinite (!a)
  | .finite a s q => .finite (!a) s q

/-- Subtraction, rounded. -/
def sub (x y : Binary64) : Binary64 := x.add y.neg

/-- A multiple, rounded. -/
def scale (x : Binary64) (n : Nat) : Binary64 :=
  match x with
  | .finite negative s q =>
    ofQuotient negative (s * n * twoTo (q - leastExponent).toNat) (twoTo 1074)
  | x => x

/-- Zero of either sign. -/
def isZero : Binary64 → Bool
  | .finite _ s _ => s == 0
  | _ => false

/-- A finite number without a fraction. -/
def isWhole (x : Binary64) : Bool :=
  match x.units? with
  | some u => u % twoTo 1074 == 0
  | none => false

/-- Whether the number is at most the given whole number; one that is no number never is. -/
def leInt (x : Binary64) (n : Int) : Bool :=
  match x with
  | .notANumber => false
  | .infinite negative => negative
  | x => x.units?.getD 0 ≤ n * twoTo 1074

/-- Whether the number is below the given whole number; one that is no number never is. -/
def ltInt (x : Binary64) (n : Int) : Bool :=
  match x with
  | .notANumber => false
  | .infinite negative => negative
  | x => x.units?.getD 0 < n * twoTo 1074

/-- Whether the number is below another one; what is no number never is. -/
def lt : Binary64 → Binary64 → Bool
  | .notANumber, _ | _, .notANumber => false
  | .infinite a, .infinite b => a && !b
  | .infinite a, _ => a
  | _, .infinite b => !b
  | x, y => x.units?.getD 0 < y.units?.getD 0

/-- Whether the number is the given whole number. -/
def eqInt (x : Binary64) (n : Int) : Bool :=
  match x.units? with
  | some u => u == n * twoTo 1074
  | none => false

/-- Equality of numbers: both zeros are equal, and what is no number equals nothing. -/
def same : Binary64 → Binary64 → Bool
  | .infinite a, .infinite b => a == b
  | x@(.finite _ _ _), y@(.finite _ _ _) => x.units? == y.units?
  | _, _ => false

end Binary64

end FieldRules
