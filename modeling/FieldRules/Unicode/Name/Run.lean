/-!
# Runs of character names

Characters that follow each other often have names with the first words in common, the stem. A run
keeps the stem once and what comes after it for each of the characters, in rows with commas between
the tails. Tails that count up are written with the first number and, after a tilde, the last one.
-/

namespace FieldRules.Unicode

/-- The names of characters that follow each other. -/
structure NameRun where
  /-- The first code point. -/
  first : Nat
  /-- The words that all names start with. -/
  stem : String
  /-- What the names go on with. -/
  rows : List String

namespace NameRun

/-- A stem with what it goes on with. -/
def join (stem tail : List Char) : List Char :=
  if stem.isEmpty then tail else if tail.isEmpty then stem else stem ++ ' ' :: tail

/-- A text cut at the commas. -/
def cutTails : List Char → List (List Char)
  | [] => [[]]
  | c :: rest =>
    if c = ',' then [] :: cutTails rest
    else match cutTails rest with
      | [] => [[c]]
      | tail :: others => (c :: tail) :: others

/-- All tails. -/
def tails (run : NameRun) : List (List Char) := run.rows.flatMap fun row => cutTails row.toList

/-- The number with the given ASCII digits. -/
def number (digits : List Char) : Nat := digits.foldl (fun n c => n * 10 + (c.toNat - 48)) 0

/-- Looks for a tail among the written ones, of which the first belongs to the code point `code`. -/
def findTail (tail : List Char) (code : Nat) : List (List Char) → Option Nat
  | [] => none
  | written :: rest =>
    let lead := written.takeWhile (· ≠ '~')
    match written.dropWhile (· ≠ '~') with
    | [] => if written = tail then some code else findTail tail (code + 1) rest
    | _ :: last =>
      let digits := (lead.reverse.takeWhile Char.isDigit).reverse
      let words := lead.take (lead.length - digits.length)
      let given := tail.drop words.length
      let steps := number last - number digits
      let isPadded := given.length = digits.length ||
        (digits.length < given.length && given.head? ≠ some '0')
      let isCounted := words.isPrefixOf tail && isPadded && given.all Char.isDigit &&
        number digits ≤ number given && number given ≤ number last
      if isCounted then some (code + (number given - number digits))
      else findTail tail (code + steps + 1) rest

/-- The code point of a name that the run has. -/
def find? (run : NameRun) (name : List Char) : Option Nat :=
  let stem := run.stem.toList
  let find (tail : List Char) : Option Nat := findTail tail run.first run.tails
  if stem.isEmpty then find name
  else if stem = name then find []
  else if (stem ++ [' ']).isPrefixOf name then find (name.drop (stem.length + 1))
  else none

end NameRun

end FieldRules.Unicode
