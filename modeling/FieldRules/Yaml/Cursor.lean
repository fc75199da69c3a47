import FieldRules.Yaml.Fault

/-!
# Reading a document character by character

A cursor stands at a place of a document. Behind the last character stands the character of code
zero, which no document has.
-/

namespace FieldRules.Yaml

/-- A place in a document and the characters from it on. -/
structure Cursor where
  rest : List Char
  mark : Mark

/-- Character-level reading. -/
abbrev Read := StateT Cursor (Except Fault)

/-- The end of a document. -/
def endChar : Char := Char.ofNat 0

/-- A character that ends a line. -/
def isBreak (c : Char) : Bool :=
  c = '\n' || c = '\r' || c.toNat = 0x85 || c.toNat = 0x2028 || c.toNat = 0x2029

/-- The end of a line or of the document. -/
def isBreakOrEnd (c : Char) : Bool := c = endChar || isBreak c

/-- A blank or the end of a line. -/
def isSpaceOrEnd (c : Char) : Bool := c = ' ' || isBreakOrEnd c

/-- A blank, a tab or the end of a line. -/
def isGapOrEnd (c : Char) : Bool := c = '\t' || isSpaceOrEnd c

/-- A character of names. -/
def isWordChar (c : Char) : Bool := c.isAlphanum || c = '-' || c = '_'

/-- A hexadecimal digit. -/
def isHexDigit (c : Char) : Bool :=
  c.isDigit || ('a' ≤ c && c ≤ 'f') || ('A' ≤ c && c ≤ 'F')

/-- The number with the given hexadecimal digits. -/
def hexNumber (ds : List Char) : Nat :=
  ds.foldl (fun n c =>
    16 * n + (if c.isDigit then c.toNat - 48 else if 'a' ≤ c then c.toNat - 87 else c.toNat - 55)) 0

/-- A character as it is shown in messages. -/
def shownChar (c : Char) : String := Quoted.ofText (String.ofList [c])

namespace Cursor

/-- The character so many places on. -/
def peek (c : Cursor) (k : Nat) : Char := c.rest.getD k endChar

/-- The next `n` characters. -/
def take (c : Cursor) (n : Nat) : List Char := c.rest.take n

/-- Goes one character on. -/
def step (c : Cursor) : Cursor :=
  match c.rest with
  | [] => c
  | ch :: rest =>
    let m := c.mark
    let newLine := isBreak ch && !(ch = '\r' && rest.head? = some '\n')
    let mark : Mark :=
      if newLine then ⟨m.index + 1, m.line + 1, 0⟩
      else ⟨m.index + 1, m.line, if ch = '\uFEFF' then m.column else m.column + 1⟩
    ⟨rest, mark⟩

/-- Goes `n` characters on. -/
def forward : Nat → Cursor → Cursor
  | 0, c => c
  | n + 1, c => forward n c.step

/-- Goes on over characters of one class. -/
def skip (p : Char → Bool) (c : Cursor) : Cursor := c.forward (c.rest.takeWhile p).length

/-- Whether a line of three marks stands here that separates documents. -/
def atSeparator (c : Cursor) : Bool :=
  (c.take 3 = ['-', '-', '-'] || c.take 3 = ['.', '.', '.']) && isGapOrEnd (c.peek 3)

/-- The end of a line, and the cursor behind it; nothing where no line ends. -/
def lineBreak (c : Cursor) : List Char × Cursor :=
  let ch := c.peek 0
  if ch = '\r' && c.peek 1 = '\n' then (['\n'], c.forward 2)
  else if ch = '\r' || ch = '\n' || ch.toNat = 0x85 then (['\n'], c.forward 1)
  else if isBreak ch then ([ch], c.forward 1)
  else ([], c)

end Cursor

namespace Read

/-- The next character. -/
def peek : Read Char := return (← get).peek 0

/-- The place. -/
def here : Read Mark := return (← get).mark

/-- Goes on. -/
def forward (n : Nat) : Read Unit := modify (·.forward n)

/-- Goes on over characters of one class. -/
def skip (p : Char → Bool) : Read Unit := modify (·.skip p)

/-- Takes the characters of one class. -/
def takeWhile (p : Char → Bool) : Read (List Char) := do
  let taken := (← get).rest.takeWhile p
  forward taken.length
  return taken

/-- Takes the end of a line. -/
def lineBreak : Read (List Char) := do
  let (taken, c) := (← get).lineBreak
  set c
  return taken

/-- Fails here, in a part that began at a place. -/
def fail {α : Type} (context : String) (began : Option Mark) (problem : String) : Read α := do
  throw (.malformed (some (context, began)) problem (some (← here)))

/-- Skips blanks and a comment. -/
def skipComment : Read Unit := do
  skip (· = ' ')
  if (← peek) = '#' then skip fun c => !isBreakOrEnd c

end Read

end FieldRules.Yaml
