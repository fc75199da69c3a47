import FieldRules.Number.Rounded
import FieldRules.Template.Spec

/-!
# Numbers in a layout

A number is laid out in parts: its sign, a mark of its base, the digits before the point, and the
rest. Separators go between groups of the digits; zeros that fill the width in front of the digits
are grouped with them.
-/

namespace FieldRules.Template

/-- A number in its parts. -/
structure Numeral where
  negative : Bool := false
  /-- The mark of the base. -/
  mark : List Char := []
  /-- The digits that separators go between. -/
  digits : List Char := []
  /-- The point and all behind it, or what has no digits. -/
  rest : List Char := []

/-! ## Groups -/

/-- Digits with a separator between groups of `size` of them, counted from the last. -/
def separate (size : Nat) (separator : Char) : List Char → List Char
  | [] => []
  | [c] => [c]
  | c :: d :: rest =>
    let tail := separate size separator (d :: rest)
    if (rest.length + 1) % size = 0 then c :: separator :: tail else c :: tail

/-- The least number of digits that fill a width together with the separators between groups of
    `size` of them; a separator never comes first. -/
def digitsToFill (size width : Nat) : Nat :=
  size * (width / (size + 1)) + max (width % (size + 1)) 1

/-- The number of digits in a group: four where digits stand for bits, else three. -/
def Spec.groupSize (spec : Spec) : Nat :=
  if spec.code.any underscored.contains then 4 else 3

/-- The digits of a number, with zeros in front up to a width and with separators. -/
def Spec.grouped (spec : Spec) (width : Nat) (digits : List Char) : List Char :=
  let filled (count : Nat) : List Char :=
    List.replicate (count - digits.length) '0' ++ digits
  match spec.separator with
  | none => filled width
  | some separator =>
    let size := spec.groupSize
    let count := if width = 0 then digits.length else digitsToFill size width
    separate size separator (filled count)

/-- Lays out a number. -/
def Spec.layNumeral (spec : Spec) (n : Numeral) : Except Fault (List Char) := do
  let width ← spec.room
  let sign := if n.negative then ['-'] else match spec.sign with
    | some '+' => ['+']
    | some ' ' => [' ']
    | _ => []
  let others := sign.length + n.mark.length + n.rest.length
  let align := spec.align.getD '>'
  let digits :=
    if n.digits.isEmpty then []
    else spec.grouped (if spec.fill = '0' && align = '=' then width - others else 0) n.digits
  let front := sign ++ n.mark
  if align = '=' then
    let missing := width - (others + digits.length)
    return front ++ List.replicate missing spec.fill ++ digits ++ n.rest
  else return pad spec.fill align width (front ++ digits ++ n.rest)

/-! ## Whole numbers -/

/-- A letter in capitals. -/
def capitals (s : List Char) : List Char := s.map Char.toUpper

/-- The base that a type stands for, and its mark. -/
def baseOf : Char → Nat × List Char
  | 'b' => (2, ['0', 'b'])
  | 'o' => (8, ['0', 'o'])
  | 'x' => (16, ['0', 'x'])
  | 'X' => (16, ['0', 'X'])
  | _ => (10, [])

/-- The greatest number of a machine word. -/
def wordLimit : Int := 9223372036854775807

/-- A whole number as a single character. -/
def Spec.charNumeral (spec : Spec) (n : Int) : Except Fault Numeral :=
  if spec.sign.isSome then .error .signOnChar
  else if spec.alternate then .error .alternateOnChar
  else if n < -wordLimit - 1 || wordLimit < n then .error .charBeyondWord
  else if n < 0 || 0x10ffff < n then .error .charOutOfRange
  else .ok { rest := [Char.ofNat n.toNat] }

/-- A whole number in the base of its type. -/
def Spec.intNumeral (spec : Spec) (n : Int) : Except Fault Numeral :=
  if spec.precision.isSome then .error .precisionOnInt
  else if spec.positiveZero then .error .zeroOnInt
  else match spec.code with
    | some 'c' => spec.charNumeral n
    | code =>
      let (base, mark) := baseOf (code.getD 'd')
      let digits := Nat.toDigits base n.natAbs
      .ok { negative := n < 0, mark := if spec.alternate then mark else []
            digits := if code = some 'X' then capitals digits else digits }

/-! ## Numbers with a fraction -/

/-- The greatest number of digits that can be asked for. -/
def precisionLimit : Nat := 2147483647

/-- The form of a number with a fraction. -/
inductive Form where
  /-- One digit before the point, and an exponent. -/
  | scientific
  /-- So many places after the point. -/
  | fixed
  /-- So many significant digits, with an exponent where that is shorter. -/
  | general
  /-- The fewest digits that read back. -/
  | shortest
  deriving DecidableEq, Repr

/-- The form that a type stands for. -/
def formOf (spec : Spec) : Form :=
  match spec.code with
  | none => if spec.precision.isSome then .general else .shortest
  | some 'e' | some 'E' => .scientific
  | some 'f' | some 'F' | some '%' => .fixed
  | some _ => .general

/-- The number of digits that are asked for; six are the usual number. -/
def Spec.places (spec : Spec) (form : Form) : Nat :=
  let given := spec.precision.getD 6
  match form with
  | .scientific => given + 1
  | .fixed => given
  | .general => max given 1
  | .shortest => 0

/-- An exponent with its sign and at least two digits. -/
def exponentText (mark : Char) (e : Int) : List Char :=
  let ds := (Nat.repr e.natAbs).toList
  mark :: (if e < 0 then '-' else '+') :: (if ds.length < 2 then '0' :: ds else ds)

/-- The digits of a number around its point, up to the place `last`. -/
def around (digits : List Char) (point last : Int) : List Char :=
  let zeros (n : Int) : List Char := List.replicate n.toNat '0'
  let count : Int := digits.length
  if point ≤ 0 then ['0', '.'] ++ zeros (-point) ++ digits ++ zeros (last - count)
  else if point ≤ count then
    digits.take point.toNat ++ '.' :: digits.drop point.toNat ++ zeros (last - count)
  else digits ++ zeros (point - count) ++ '.' :: zeros (last - point)

/-- The text of a row of digits. Without a type one digit at least stands behind the point. -/
def Spec.rowText (spec : Spec) (form : Form) (row : Binary64.DigitRow) : List Char :=
  let places : Int := spec.places form
  let count : Int := row.digits.length
  let untyped := spec.code.isNone
  let hasExponent := match form with
    | .scientific => true
    | .fixed => false
    | .general => row.point ≤ -4 || (if untyped then places - 1 else places) < row.point
    | .shortest => row.point ≤ -4 || 16 < row.point
  let last : Int := match form with
    | .scientific => places
    | .fixed => row.point + places
    | .general => if spec.alternate then places else count
    | .shortest => count
  let point := if hasExponent then 1 else row.point
  let last := max last (if !hasExponent && untyped then point + 1 else point)
  let body := around row.digits point last
  let body := if body.getLast? = some '.' && !spec.alternate then body.dropLast else body
  if hasExponent then body ++ exponentText 'e' (row.point - 1) else body

/-- A number with a fraction in the form of its type. -/
def Spec.floatNumeral (spec : Spec) (x : Binary64) : Except Fault Numeral :=
  if spec.precision.any (precisionLimit < ·) then .error .precisionTooBig
  else
    let form := formOf spec
    let isPercentage := spec.code = some '%'
    let x := if isPercentage then x.scale 100 else x
    let (negative, shown) : Bool × List Char := match x with
      | .notANumber => (false, "nan".toList)
      | .infinite negative => (negative, "inf".toList)
      | .finite negative s q =>
        let row := match form with
          | .scientific | .general => Binary64.significantRow (spec.places form) s q
          | .fixed => Binary64.fixedRow (spec.places form) s q
          | .shortest => Binary64.shortestRow s q
        let isZero := row.digits.isEmpty || row.digits = ['0']
        (negative && !(spec.positiveZero && isZero), spec.rowText form row)
    let shown := if spec.code.any Char.isUpper then capitals shown else shown
    let shown := if isPercentage then shown ++ ['%'] else shown
    .ok { negative, digits := shown.takeWhile Char.isDigit, rest := shown.dropWhile Char.isDigit }

/-- The types of whole numbers. -/
def intCodes : List Char := ['b', 'c', 'd', 'o', 'x', 'X', 'n']

/-- The types of numbers with a fraction, which whole numbers can have too. -/
def floatCodes : List Char := ['e', 'E', 'f', 'F', 'g', 'G', '%']

/-- Lays out a whole number. -/
def layInt (kind : String) (n : Int) (whole : List Char) : Except Fault (List Char) := do
  let spec ← Spec.read kind (some 'd') true whole
  match spec.code with
  | none => spec.layNumeral (← spec.intNumeral n)
  | some c =>
    if intCodes.contains c then spec.layNumeral (← spec.intNumeral n)
    else if floatCodes.contains c then
      match Binary64.ofInt n with
      | .infinite _ => throw .intBeyondFloat
      | x => spec.layNumeral (← spec.floatNumeral x)
    else throw (.unknownCode c kind)

/-- Lays out a number with a fraction. -/
def layFloat (kind : String) (x : Binary64) (whole : List Char) : Except Fault (List Char) := do
  let spec ← Spec.read kind none true whole
  match spec.code with
  | none => spec.layNumeral (← spec.floatNumeral x)
  | some c =>
    if c = 'n' || floatCodes.contains c then spec.layNumeral (← spec.floatNumeral x)
    else throw (.unknownCode c kind)

end FieldRules.Template
