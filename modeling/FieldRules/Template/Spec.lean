import FieldRules.Template.Fault
import FieldRules.Unicode.Digits

/-!
# Layout of one value

What stands after the colon of a placeholder: fill, alignment, sign, width, separators, precision
and a type.
-/

namespace FieldRules.Template

/-- The layout that a placeholder asks for. -/
structure Spec where
  fill : Char := ' '
  align : Option Char := none
  sign : Option Char := none
  positiveZero : Bool := false
  alternate : Bool := false
  width : Option Nat := none
  separator : Option Char := none
  precision : Option Nat := none
  code : Option Char := none

/-- The greatest number that a width, a precision or an index can be. -/
def numberLimit : Nat := 9223372036854775807

/-- The decimal digits at the front of a text as a number. -/
def leadingNumber (s : List Char) : Except Fault (Option Nat × List Char) :=
  let ds := s.takeWhile Unicode.isDecimal
  let rest := s.dropWhile Unicode.isDecimal
  let n := ds.foldl (fun n c => n * 10 + (Unicode.digitValue? c).getD 0) 0
  if ds.isEmpty then .ok (none, s)
  else if numberLimit < n then .error .tooManyDigits
  else .ok (some n, rest)

/-- A character that aligns. -/
def isAlignment (c : Char) : Bool := c = '<' || c = '>' || c = '=' || c = '^'

/-- Takes a character off the front of a text if it is the given one. -/
def dropChar (c : Char) (s : List Char) : Bool × List Char :=
  match s with
  | d :: rest => if d = c then (true, rest) else (false, s)
  | [] => (false, [])

/-- Types that take any separator, and those that take underscores only. -/
def separable : List Char := ['d', 'e', 'f', 'g', 'E', 'G', '%', 'F']

@[inherit_doc separable]
def underscored : List Char := ['b', 'o', 'x', 'X']

/-- Checks that a separator goes with a type. -/
def checkSeparator (separator code : Option Char) : Except Fault Unit :=
  match separator, code with
  | some s, some c =>
    if separable.contains c || (s = '_' && underscored.contains c) then .ok ()
    else .error (.separatorWith s c)
  | _, _ => .ok ()

/-- Reads a layout for a value of the given kind. `code` is the type when none is given; numbers
    stand on the right, and with a zero before the width they are filled behind the sign. -/
def Spec.read (kind : String) (code : Option Char) (isNumber : Bool) (whole : List Char) :
    Except Fault Spec := do
  let (spec, fillGiven, s) : Spec × Bool × List Char := match whole with
    | f :: a :: rest =>
      if isAlignment a then ({ fill := f, align := some a }, true, rest)
      else if isAlignment f then ({ align := some f }, false, a :: rest)
      else ({}, false, whole)
    | [a] => if isAlignment a then ({ align := some a }, false, []) else ({}, false, whole)
    | [] => ({}, false, [])
  let (sign, s) : Option Char × List Char := match s with
    | c :: rest => if c = ' ' || c = '+' || c = '-' then (some c, rest) else (none, s)
    | [] => (none, s)
  let (positiveZero, s) := dropChar 'z' s
  let (alternate, s) := dropChar '#' s
  let (zeroFill, s) := if fillGiven then (false, s) else dropChar '0' s
  let (width, s) ← leadingNumber s
  let (comma, s) := dropChar ',' s
  let (underscore, s) := dropChar '_' s
  if comma && underscore then throw .bothSeparators
  if underscore && s.head? = some ',' then throw .bothSeparators
  let (dot, s) := dropChar '.' s
  let (precision, s) ← if dot then leadingNumber s else pure (none, s)
  if dot && precision.isNone then throw .missingPrecision
  if 1 < s.length then throw (.badSpec (String.ofList whole) kind)
  let code := s.head?.orElse fun _ => code
  let separator := if comma then some ',' else if underscore then some '_' else none
  checkSeparator separator code
  return { spec with
    fill := if zeroFill then '0' else spec.fill
    align := if zeroFill && spec.align.isNone && isNumber then some '=' else spec.align
    sign := sign, positiveZero := positiveZero, alternate := alternate, width := width,
    precision := precision, code := code, separator := separator }

/-! ## Padding -/

/-- From this width on nothing can be written any more. -/
def widthLimit : Nat := 10000000000

/-- The width that has to be filled. -/
def Spec.room (spec : Spec) : Except Fault Nat :=
  let width := spec.width.getD 0
  if widthLimit ≤ width then .error .tooWide else .ok width

/-- Pads a text on the sides that the alignment leaves free. -/
def pad (fill align : Char) (width : Nat) (s : List Char) : List Char :=
  let missing := width - s.length
  let left := if align = '>' then missing else if align = '^' then missing / 2 else 0
  List.replicate left fill ++ s ++ List.replicate (missing - left) fill

/-- Lays out a text. -/
def Spec.layText (spec : Spec) (s : List Char) : Except Fault (List Char) :=
  match spec.sign with
  | some ' ' => .error .spaceOnText
  | some _ => .error .signOnText
  | none =>
    if spec.positiveZero then .error .zeroOnText
    else if spec.alternate then .error .alternateOnText
    else if spec.align = some '=' then .error .equalsOnText
    else do
      let s := match spec.precision with
        | some n => s.take n
        | none => s
      return pad spec.fill (spec.align.getD '<') (← spec.room) s

end FieldRules.Template
