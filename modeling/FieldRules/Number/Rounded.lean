import FieldRules.Number.Shortest

/-!
# Rounded decimal digits

The decimal digits of a finite number: the fewest that read back, so many significant ones, or so
many places after the point. Rounding is exact and a tie goes to the even digit; zeros at the end
are left out.
-/

namespace FieldRules

namespace Binary64

/-- The digits `0.d₁d₂… · 10 ^ point`; without a digit the number was rounded to nothing. -/
structure DigitRow where
  digits : List Char
  point : Int
  deriving DecidableEq, Repr

/-- Zero is one digit before the point. -/
def DigitRow.zero : DigitRow := ⟨['0'], 1⟩

/-- The number as a quotient. -/
def quotientOf (significand : Nat) (exponent : Int) : Nat × Nat :=
  if exponent < 0 then (significand, twoTo (-exponent).toNat)
  else (significand * twoTo exponent.toNat, 1)

/-- The fewest digits that read back as the number. -/
def shortestRow (significand : Nat) (exponent : Int) : DigitRow :=
  if significand = 0 then .zero
  else
    let d := shortest significand exponent
    let all := digitsOf d.digits
    -- A carry (9.99 to 10.0) gives one digit more than was asked for.
    ⟨withoutTrailingZeros all, d.point + ((all.length : Int) - d.count)⟩

/-- The number rounded to `count` significant digits. -/
def significantRow (count significand : Nat) (exponent : Int) : DigitRow :=
  if significand = 0 then .zero
  else
    let (num, den) := quotientOf significand exponent
    let point := decimalPoint num den
    let places : Int := count - point
    let rounded :=
      if places < 0 then roundQuotient num (den * tenTo (-places).toNat)
      else roundQuotient (num * tenTo places.toNat) den
    let all := digitsOf rounded
    ⟨withoutTrailingZeros all, point + ((all.length : Int) - count)⟩

/-- The number rounded to `places` digits after the point. -/
def fixedRow (places significand : Nat) (exponent : Int) : DigitRow :=
  if significand = 0 then .zero
  else
    let (num, den) := quotientOf significand exponent
    let rounded := roundQuotient (num * tenTo places) den
    if rounded = 0 then ⟨[], -places⟩
    else
      let all := digitsOf rounded
      ⟨withoutTrailingZeros all, (all.length : Int) - places⟩

end Binary64

end FieldRules
