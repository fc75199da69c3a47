import FieldRules.Unicode.Blank
import FieldRules.Unicode.Case
import FieldRules.Unicode.Digits

/-!
# The words and numbers of a date

A text is cut into runs of letters, numbers and single other characters. A dot joins what stands on
its two sides; whatever has more than one dot, or letters next to one, is cut at the dots again.
-/

namespace FieldRules.Calendar

/-- What a lexeme has been made of so far. -/
inductive Shape where
  | letters
  | digits
  | dottedLetters
  | dottedDigits
  deriving DecidableEq, Repr

/-- Cuts a text at dots and commas, which are pieces of their own. -/
def cutAtPoints : List Char → List (List Char)
  | [] => [[]]
  | c :: rest =>
    if c = '.' || c = ',' then [] :: [c] :: cutAtPoints rest
    else match cutAtPoints rest with
      | [] => [[c]]
      | piece :: pieces => (c :: piece) :: pieces

/-- The lexemes of one run of characters. -/
def finishRun (shape : Shape) (sawLetters : Bool) (run : List Char) : List (List Char) :=
  let dotted := shape = .dottedLetters || shape = .dottedDigits
  let dots := run.count '.'
  let pieces :=
    if dotted && (sawLetters || 1 < dots || run.getLast? = some '.' || run.getLast? = some ',') then
      match cutAtPoints run with
      | [] => []
      | first :: rest => first :: rest.filter (· ≠ [])
    else [run]
  match pieces with
  | first :: rest =>
    let first :=
      if shape = .dottedDigits && !first.contains '.' then
        first.map fun c => if c = ',' then '.' else c
      else first
    first :: rest
  | [] => []

/-- How a character goes on with a run; none when it starts the next one. -/
def Shape.extend (shape : Shape) (run : List Char) (c : Char) : Option Shape :=
  let letter := Unicode.isLetter c
  let digit := Unicode.isDigitLike c
  let afterDot := run.getLast? = some '.'
  match shape with
  | letters => if letter then some letters else if c = '.' then some dottedLetters else none
  | digits =>
    if digit then some digits
    else if c = '.' || (c = ',' && 2 ≤ run.length) then some dottedDigits
    else none
  | dottedLetters =>
    if c = '.' || letter then some dottedLetters
    else if digit && afterDot then some dottedDigits
    else none
  | dottedDigits =>
    if c = '.' || digit then some dottedDigits
    else if letter && afterDot then some dottedLetters
    else none

/-- A run that has been started: its shape, whether it was seen to have letters, its characters. -/
structure Run where
  shape : Shape
  sawLetters : Bool
  chars : List Char

/-- Whether reading on from a shape shows letters. -/
def Shape.showsLetters : Shape → Bool
  | letters | dottedLetters => true
  | digits | dottedDigits => false

/-- The run that a character starts, if it is no lexeme by itself. -/
def Run.start? (c : Char) : Option Run :=
  if Unicode.isLetter c then some ⟨.letters, false, [c]⟩
  else if Unicode.isDigitLike c then some ⟨.digits, false, [c]⟩
  else none

/-- The run with one more character, if the character goes on with it. -/
def Run.extend? (run : Run) (c : Char) : Option Run :=
  (run.shape.extend run.chars c).map fun shape =>
    ⟨shape, run.sawLetters || run.shape.showsLetters, run.chars ++ [c]⟩

/-- The lexemes of a run that a character has ended. -/
def Run.finish (run : Run) : List (List Char) :=
  finishRun run.shape (run.sawLetters || run.shape.showsLetters) run.chars

/-- Cuts a text into lexemes, after the run that has been started. -/
def lexemesFrom (current : Option Run) : List Char → List (List Char)
  | [] =>
    match current with
    | some run => finishRun run.shape run.sawLetters run.chars
    | none => []
  | c :: rest =>
    match current.bind (·.extend? c) with
    | some run => lexemesFrom (some run) rest
    | none =>
      let finished := match current with
        | some run => run.finish
        | none => []
      let single := if (Run.start? c).isSome then [] else
        if Unicode.isBlank c then [[' ']] else [[c]]
      finished ++ single ++ lexemesFrom (Run.start? c) rest

/-- The lexemes of a text; NUL characters are skipped. -/
def lexemes (s : List Char) : List (List Char) :=
  lexemesFrom none (s.filter (· ≠ Char.ofNat 0))

/-! ## Words -/

/-- A lexeme in lower case. -/
def lowered (s : List Char) : String := String.ofList (Unicode.lowerText s)

/-- Words that stand between the parts of a date and mean nothing. -/
def fillers : List String :=
  [" ", ".", ",", ";", "-", "/", "'", "at", "on", "and", "ad", "m", "t", "of", "st", "nd", "rd",
   "th"]

/-- Names with the number they stand for. -/
def weekdayNames : List (String × Nat) :=
  [("mon", 0), ("monday", 0), ("tue", 1), ("tuesday", 1), ("wed", 2), ("wednesday", 2),
   ("thu", 3), ("thursday", 3), ("fri", 4), ("friday", 4), ("sat", 5), ("saturday", 5),
   ("sun", 6), ("sunday", 6)]

/-- The names of the months. -/
def monthNames : List (String × Nat) :=
  [("jan", 1), ("january", 1), ("feb", 2), ("february", 2), ("mar", 3), ("march", 3), ("apr", 4),
   ("april", 4), ("may", 5), ("jun", 6), ("june", 6), ("jul", 7), ("july", 7), ("aug", 8),
   ("august", 8), ("sep", 9), ("sept", 9), ("september", 9), ("oct", 10), ("october", 10),
   ("nov", 11), ("november", 11), ("dec", 12), ("december", 12)]

/-- The words for hours, minutes and seconds, in this order. -/
def unitNames : List (String × Nat) :=
  [("h", 0), ("hour", 0), ("hours", 0), ("m", 1), ("minute", 1), ("minutes", 1), ("s", 2),
   ("second", 2), ("seconds", 2)]

/-- The halves of the day: 0 before noon and 1 after it. -/
def halfNames : List (String × Nat) := [("am", 0), ("a", 0), ("pm", 1), ("p", 1)]

/-- The names of universal time. -/
def universalNames : List String := ["utc", "gmt", "z"]

/-- Whether a lexeme means nothing. -/
def isFiller (s : List Char) : Bool := fillers.contains (lowered s)

/-- The day of the week that a lexeme names. -/
def weekday? (s : List Char) : Option Nat := weekdayNames.lookup (lowered s)

/-- The month that a lexeme names. -/
def month? (s : List Char) : Option Nat := monthNames.lookup (lowered s)

/-- The unit of time that a lexeme names. -/
def unit? (s : List Char) : Option Nat := unitNames.lookup (lowered s)

/-- The half of the day that a lexeme names. -/
def half? (s : List Char) : Option Nat := halfNames.lookup (lowered s)

/-- Whether a lexeme names universal time. -/
def isUniversal (s : List Char) : Bool := universalNames.contains (lowered s)

end FieldRules.Calendar
