import FieldRules.Number.Binary64

/-!
# Shortest decimal text

A finite number is written with the fewest decimal digits that read back as the same number, and of
those with the digits next to it.
-/

namespace FieldRules

namespace Binary64

/-- Decimal digits `0.d₁d₂… · 10 ^ point`. -/
structure Decimal where
  digits : Nat
  count : Nat
  point : Int
  deriving Repr, DecidableEq

/-- The reals that round to the number, as `low ≤ 4 · significand ≤ high` in units of
    `2 ^ (exponent - 2)`; the ends belong to them when `closed`. -/
structure Interval where
  low : Nat
  middle : Nat
  high : Nat
  closed : Bool

/-- The interval of a number: it is narrower below a power of two. -/
def interval (significand : Nat) (exponent : Int) : Interval where
  low := if significand = twoTo 52 && leastExponent < exponent then 4 * significand - 1
         else 4 * significand - 2
  middle := 4 * significand
  high := 4 * significand + 2
  closed := significand % 2 = 0

/-- The least `point` with `num < den · 10 ^ point`, found from a guess at most two off. -/
def decimalPoint (num den : Nat) : Int :=
  let guess : Int := ((Nat.log2 num : Int) - Nat.log2 den) * 30103 / 100000
  let below (p : Int) : Bool :=
    if p < 0 then num * tenTo (-p).toNat < den else num < den * tenTo p.toNat
  if below (guess - 1) then guess - 1
  else if below guess then guess
  else if below (guess + 1) then guess + 1
  else guess + 2

/-- Tries grids of `count`, `count + 1`, … digits until a point of the grid lies in the interval,
    given as integers over the common denominator `den`. -/
def shortestFrom (range : Interval) (scale den : Nat) (point : Int) (count : Nat) :
    Nat → Decimal
  | 0 => ⟨0, 1, 1⟩
  | more + 1 =>
    let step : Int := point - count
    let (unitNum, unitDen) : Nat × Nat :=
      if step < 0 then (1, tenTo (-step).toNat) else (tenTo step.toNat, 1)
    -- A grid point `c` is the number `c · unitNum / unitDen`.
    let num := range.middle * scale * unitDen
    let unit := unitNum * den
    let c := num / unit
    let inside (c : Nat) : Bool :=
      let x := c * unit
      let low := range.low * scale * unitDen
      let high := range.high * scale * unitDen
      if range.closed then low ≤ x && x ≤ high else low < x && x < high
    let below := inside c
    let above := inside (c + 1)
    if below && above then ⟨roundQuotient num unit, count, point⟩
    else if below then ⟨c, count, point⟩
    else if above then ⟨c + 1, count, point⟩
    else shortestFrom range scale den point (count + 1) more

/-- The shortest digits of a positive finite number. -/
def shortest (significand : Nat) (exponent : Int) : Decimal :=
  let range := interval significand exponent
  let q := exponent - 2
  let (scale, den) : Nat × Nat :=
    if q < 0 then (1, twoTo (-q).toNat) else (twoTo q.toNat, 1)
  let point := decimalPoint (range.middle * scale) den
  shortestFrom range scale den point 1 17

/-- The decimal digits of a natural number. -/
def digitsOf (n : Nat) : List Char := (Nat.repr n).toList

/-- Cuts zeros off the end. -/
def withoutTrailingZeros (ds : List Char) : List Char :=
  (ds.reverse.dropWhile (· == '0')).reverse

/-- How finite numbers are spelled: positional between the two bounds on the decimal point. -/
structure Spelling where
  leastPoint : Int
  greatestPoint : Int

/-- Numbers from `10 ^ -4` up to `10 ^ 16` are written positionally. -/
def plainSpelling : Spelling := ⟨-3, 16⟩

/-- The text of a decimal: a point always stands between digits, an exponent has a sign and at
    least two digits. -/
def Decimal.text (form : Spelling) (d : Decimal) : String :=
  let all := digitsOf d.digits
  -- A carry (9.99 to 10.0) gives one digit more than was asked for.
  let point := d.point + ((all.length : Int) - d.count)
  let ds := withoutTrailingZeros all
  if form.leastPoint ≤ point && point ≤ form.greatestPoint then
    if point ≤ 0 then
      String.ofList ('0' :: '.' :: (List.replicate (-point).toNat '0' ++ ds))
    else
      let n := point.toNat
      let whole := ds.take n ++ List.replicate (n - ds.length) '0'
      let rest := ds.drop n
      String.ofList (whole ++ '.' :: (if rest.isEmpty then ['0'] else rest))
  else
    let e := point - 1
    let mantissa := match ds with
      | [] => ['0']
      | [c] => [c]
      | c :: r => c :: '.' :: r
    let size := digitsOf e.natAbs
    let size := if size.length < 2 then '0' :: size else size
    String.ofList (mantissa ++ 'e' :: (if e < 0 then '-' else '+') :: size)

/-- The text of a number. -/
def text : Binary64 → String
  | .notANumber => "nan"
  | .infinite negative => if negative then "-inf" else "inf"
  | .finite negative s q =>
    let size := if s = 0 then "0.0" else (shortest s q).text plainSpelling
    if negative then "-" ++ size else size

end Binary64

end FieldRules
