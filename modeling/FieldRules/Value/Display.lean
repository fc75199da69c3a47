import FieldRules.Number.Shortest
import FieldRules.Unicode.Printable
import FieldRules.Value.Basic

/-!
# The text of a value

Texts stand for themselves; every other value is written out, with texts inside lists and mappings
in quotes.
-/

namespace FieldRules

/-- A lower-case hexadecimal digit. -/
def hexDigit (n : Nat) : Char := Nat.digitChar (n % 16)

/-- The last `width` hexadecimal digits of a number. -/
def hexDigits (width n : Nat) : List Char :=
  match width with
  | 0 => []
  | w + 1 => hexDigits w (n / 16) ++ [hexDigit n]

/-- The value of a hexadecimal digit. -/
def hexValue? (c : Char) : Option Nat :=
  if c.isDigit then some (c.toNat - 48)
  else if 'a' ≤ c ∧ c ≤ 'f' then some (c.toNat - 87)
  else if 'A' ≤ c ∧ c ≤ 'F' then some (c.toNat - 55)
  else none

namespace Quoted

/-- A character by its code point, in as many digits as its plane needs. -/
def escapeCode (c : Char) : List Char :=
  if c.toNat < 0x100 then '\\' :: 'x' :: hexDigits 2 c.toNat
  else if c.toNat < 0x10000 then '\\' :: 'u' :: hexDigits 4 c.toNat
  else '\\' :: 'U' :: hexDigits 8 c.toNat

/-- One character between quotes of the given kind. -/
def escape (quote c : Char) : List Char :=
  if c = quote || c = '\\' then ['\\', c]
  else if c = '\n' then ['\\', 'n']
  else if c = '\r' then ['\\', 'r']
  else if c = '\t' then ['\\', 't']
  else if Unicode.isPrintable c then [c]
  else escapeCode c

/-- Single quotes, unless the text has one of them and no double quote. -/
def quoteFor (s : List Char) : Char :=
  if '\'' ∈ s ∧ '"' ∉ s then '"' else '\''

/-- The text in quotes. -/
def ofText (s : String) : String :=
  let quote := quoteFor s.toList
  String.ofList (quote :: (s.toList.flatMap (escape quote) ++ [quote]))

end Quoted

namespace Value

mutual

/-- The written form of a value, texts in quotes. -/
def display : Value → String
  | null => "None"
  | bool b => if b then "True" else "False"
  | int n => toString n
  | float x => x.text
  | text s => Quoted.ofText s
  | list items => "[" ++ String.intercalate ", " (displayItems items) ++ "]"
  | map entries => "\x7b" ++ String.intercalate ", " (displayEntries entries) ++ "\x7d"

/-- The written forms of the items of a list. -/
def displayItems : List Value → List String
  | [] => []
  | v :: rest => display v :: displayItems rest

/-- The written forms of the entries of a mapping. -/
def displayEntries : List (String × Value) → List String
  | [] => []
  | (k, v) :: rest => (Quoted.ofText k ++ ": " ++ display v) :: displayEntries rest

end

/-- The text that a value stands for. -/
def toText : Value → String
  | text s => s
  | v => v.display

/-- The text that the rules see: nothing has none, and truth values are in lower case. -/
def ruleText? : Value → Option String
  | null => none
  | bool b => some (if b then "true" else "false")
  | v => some v.toText

/-- A value without a text, or with the empty one. -/
def isEmpty (v : Value) : Bool :=
  match v.ruleText? with
  | none => true
  | some s => s = ""

mutual

/-- Equality of values: numbers are compared by size, whatever their kind, and a truth value is
    the number zero or one. -/
def same : Value → Value → Bool
  | null, null => true
  | text a, text b => a == b
  | list a, list b => sameItems a b
  | map a, map b => a.length == b.length && sameEntries a b
  | bool a, bool b => a == b
  | bool a, int n | int n, bool a => n == (if a then 1 else 0)
  | bool a, float x | float x, bool a => x.eqInt (if a then 1 else 0)
  | int a, int b => a == b
  | int n, float x | float x, int n => x.eqInt n
  | float x, float y => x.same y
  | _, _ => false

/-- Equality of lists, item by item. -/
def sameItems : List Value → List Value → Bool
  | [], [] => true
  | a :: as, b :: bs => same a b && sameItems as bs
  | _, _ => false

/-- Whether every entry of the first mapping is in the second. -/
def sameEntries : List (String × Value) → List (String × Value) → Bool
  | [], _ => true
  | (k, v) :: rest, other =>
    (match Entries.get? other k with
      | some w => same v w
      | none => false) && sameEntries rest other

end

end Value

end FieldRules
