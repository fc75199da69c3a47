import FieldRules.Unicode.Blank
import FieldRules.Unicode.Case

/-!
# Shapes of texts

The shapes that the rules on letters, numbers and addresses look for. A shape is always that of the
whole text, and none of them is that of the empty text.
-/

namespace FieldRules.Shape

/-- A letter from `a` to `z` in either case. A letter of another alphabet counts when it is one of
    these in the other case. -/
def isLatinLetter (c : Char) : Bool :=
  (Unicode.lower c :: Unicode.twins (Unicode.lower c)).any fun l => 'a' ≤ l && l ≤ 'z'

/-- A text made of at least one character, all of one class. -/
def isMadeOf (p : Char → Bool) (s : List Char) : Bool := !s.isEmpty && s.all p

/-- Letters only. -/
def isLetters (s : List Char) : Bool := isMadeOf isLatinLetter s

/-- Letters and digits only. -/
def isLettersOrDigits (s : List Char) : Bool := isMadeOf (fun c => isLatinLetter c || c.isDigit) s

/-- Letters, digits and dashes only. -/
def isLettersDigitsOrDashes (s : List Char) : Bool :=
  isMadeOf (fun c => isLatinLetter c || c.isDigit || c = '-') s

/-- Digits only. -/
def isNumeric (s : List Char) : Bool := isMadeOf Char.isDigit s

/-- A text without a plus in front. -/
def dropPlus : List Char → List Char
  | '+' :: rest => rest
  | s => s

/-- A text without a sign in front. -/
def dropSign : List Char → List Char
  | '-' :: rest => rest
  | s => dropPlus s

/-- Digits, with a plus or without. -/
def isNatural (s : List Char) : Bool := isNumeric (dropPlus s)

/-- Digits, with a sign or without. -/
def isInteger (s : List Char) : Bool := isNumeric (dropSign s)

/-- An integer, with a fraction after a point or without. -/
def isDecimal (s : List Char) : Bool :=
  let digits := dropSign s
  match digits.dropWhile Char.isDigit with
  | [] => isNumeric digits
  | '.' :: fraction => isNumeric (digits.takeWhile Char.isDigit) && isNumeric fraction
  | _ => false

/-! ## Mail addresses -/

/-- A character of an address. -/
def isAddressChar (c : Char) : Bool :=
  c.isAlphanum || c = '_' || c = '-' || c = '+'

/-- Where a reader of an address is: in the blanks before it, at the start of a part before the at
    sign or inside one, at the start of a part after it or inside one (there with whether a dot has
    come yet), or in the blanks behind. -/
inductive AddressPlace where
  | before
  | nameStart
  | name
  | hostStart (dotted : Bool)
  | host (dotted : Bool)
  | behind
  deriving DecidableEq, Repr

/-- Reads on in an address; none where the text cannot be one any more. -/
def AddressPlace.read (p : AddressPlace) (c : Char) : Option AddressPlace :=
  match p with
  | before =>
    if Unicode.isAsciiBlank c then some before
    else if isAddressChar c then some name
    else none
  | nameStart => if isAddressChar c then some name else none
  | name =>
    if isAddressChar c then some name
    else if c = '.' then some nameStart
    else if c = '@' then some (hostStart false)
    else none
  | hostStart dotted => if isAddressChar c then some (host dotted) else none
  | host dotted =>
    if isAddressChar c then some (host dotted)
    else if c = '.' then some (hostStart true)
    else if dotted && Unicode.isAsciiBlank c then some behind
    else none
  | behind => if Unicode.isAsciiBlank c then some behind else none

/-- Whether an address can end here. -/
def AddressPlace.isEnd : AddressPlace → Bool
  | host true | behind => true
  | _ => false

/-- Whether an address can be read to its end from a place. -/
def AddressPlace.accepts (p : AddressPlace) : List Char → Bool
  | [] => p.isEnd
  | c :: rest =>
    match p.read c with
    | some q => q.accepts rest
    | none => false

/-- A mail address, with blanks around it or without: parts with dots between them, an at sign, and
    at least two parts more. -/
def isEmail (s : List Char) : Bool := AddressPlace.before.accepts s

end FieldRules.Shape
