import FieldRules.Value.Display

/-!
# Why a document cannot be read

A fault is told with its place, and often with the place where the part began in which it was found.
A document that is at hand as a text is quoted at these places; one that is read from a file is not.
A place that would be told twice is told once.
-/

namespace FieldRules.Yaml

/-- A place in a document: its offset, its line and its column, counted from zero. -/
structure Mark where
  index : Nat
  line : Nat
  column : Nat
  deriving DecidableEq, Repr, Inhabited

/-- What cannot be made of a scalar, in spite of its tag. -/
inductive Misfit where
  | number
  | hugeCode
  | truthValue
  | time
  | emptyNumber
  deriving DecidableEq, Repr

/-- Why a document cannot be read. -/
inductive Fault where
  /-- Its text is not in order at a place, perhaps inside of some part of it. -/
  | malformed (context : Option (String × Option Mark)) (problem : String) (place : Option Mark)
  /-- It has a character that no document may have. -/
  | unprintable (code position : Nat)
  /-- A scalar has no value of the kind that it should have. -/
  | misfit (kind : Misfit) (detail : String)
  deriving DecidableEq, Repr

/-- A document to be read: its name, its text, and whether it is quoted in messages. -/
structure Source where
  name : String
  text : List Char
  quoted : Bool
  deriving DecidableEq, Repr

/-- A character at which a quotation ends. -/
def endsQuotation (c : Char) : Bool :=
  c.toNat = 0 || c = '\r' || c = '\n' || c.toNat = 0x85 || c.toNat = 0x2028 || c.toNat = 0x2029

/-- The greatest distance of a quotation's ends from its place. -/
def quotationReach : Nat := 37

/-- The characters before a place that are quoted, last first, and whether there are more. -/
def quotedBefore (before : List Char) : List Char × Bool :=
  let line := before.takeWhile fun c => !endsQuotation c
  if quotationReach ≤ line.length then (line.take (quotationReach - 5), true) else (line, false)

/-- The characters after a place that are quoted, and whether there are more. -/
def quotedAfter (after : List Char) : List Char × Bool :=
  let line := after.takeWhile fun c => !endsQuotation c
  if quotationReach ≤ line.length then (line.take (quotationReach - 5), true) else (line, false)

/-- A quotation with a pointer to its place on a second line. -/
def Source.quotation (s : Source) (m : Mark) : String :=
  let (before, moreBefore) := quotedBefore (s.text.take m.index).reverse
  let (after, moreAfter) := quotedAfter (s.text.drop m.index)
  let head := if moreBefore then " ... " else ""
  let tail := if moreAfter then " ... " else ""
  let pointer := List.replicate (4 + head.length + before.length) ' ' ++ ['^']
  "    " ++ head ++ String.ofList (before.reverse ++ after) ++ tail ++ "\n" ++
    String.ofList pointer

/-- The wording of a place. -/
def Source.place (s : Source) (m : Mark) : String :=
  let place := s!"  in \"{s.name}\", line {m.line + 1}, column {m.column + 1}"
  if s.quoted then place ++ ":\n" ++ s.quotation m else place

/-- The wording of a fault in a document. -/
def Fault.message (s : Source) : Fault → String
  | malformed context problem place =>
    let beginning :=
      match context with
      | none => []
      | some (what, none) => [what]
      | some (what, some m) =>
        if place.any fun p => p.line = m.line && p.column = m.column then [what]
        else [what, s.place m]
    let ending := match place with | some m => [problem, s.place m] | none => [problem]
    String.intercalate "\n" (beginning ++ ending)
  | unprintable code position =>
    let digits := Nat.toDigits 16 code
    let digits := List.replicate (4 - digits.length) '0' ++ digits
    s!"unacceptable character #x{String.ofList digits}: special characters are not allowed\n" ++
      s!"  in \"{s.name}\", position {position}"
  | misfit _ detail => detail

end FieldRules.Yaml
