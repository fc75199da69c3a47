import FieldRules.Unicode.Blank
import FieldRules.Unicode.Digits

/-!
# The integer at the front of a text

A text starts with an integer when blanks, an optional sign and at least one decimal digit of any
script stand at its front; what follows the digits does not matter. Integers of more than 4300
digits are not converted.
-/

namespace FieldRules

/-- What stands at the front of a text. -/
inductive LeadingInt where
  | absent
  | tooLong (digits : Nat)
  | value (n : Int)
  deriving DecidableEq, Repr

namespace LeadingInt

/-- The greatest number of digits that are converted. -/
def digitLimit : Nat := 4300

/-- A sign in front of a number: whether it is a minus, and what follows it. -/
def splitSign : List Char → Bool × List Char
  | '-' :: rest => (true, rest)
  | '+' :: rest => (false, rest)
  | s => (false, s)

/-- The values of the longest row of decimal digits at the front of a text. -/
def digitRow : List Char → List Nat
  | [] => []
  | c :: rest =>
    match Unicode.digitValue? c with
    | some d => d :: digitRow rest
    | none => []

/-- The number with the given decimal digits, most significant first. -/
def ofDigits (ds : List Nat) : Nat := ds.foldl (fun n d => n * 10 + d) 0

/-- Reads the integer at the front of a text. Model of `parse_int`. -/
def read (s : List Char) : LeadingInt :=
  let (negative, rest) := splitSign (s.dropWhile Unicode.isBlank)
  let ds := digitRow rest
  if ds.isEmpty then absent
  else if digitLimit < ds.length then tooLong ds.length
  else value (if negative then -(ofDigits ds : Int) else ofDigits ds)

end LeadingInt

end FieldRules
