import FieldRules.Template.Subject

/-!
# Filling templates

A template is text with placeholders in braces; a doubled brace stands for one. Placeholders take
the values in turn, or name them by number; they may go into a value, convert it and lay it out.
-/

namespace FieldRules.Template

/-- How placeholders have chosen their values so far. -/
inductive Numbering where
  | unset
  | automatic (next : Nat)
  | manual
  deriving DecidableEq, Repr

/-- What stands between the braces of a placeholder. -/
structure Placeholder where
  name : List Char
  conversion : Option Char
  spec : List Char
  /-- Whether the layout has placeholders of its own. -/
  nested : Bool

/-- What follows a part of a template. -/
abbrev Rest (s : List Char) := { r : List Char // r.length ≤ s.length }

/-- A character that a bracket hides. -/
def insideBrackets (c : Char) : Bool := c != ']'

/-- A character of the first part of a name. -/
def insidePart (c : Char) : Bool := c != '.' && c != '['

theorem dropWhile_length_le (p : Char → Bool) (s : List Char) :
    (s.dropWhile p).length ≤ s.length := (List.dropWhile_suffix _).length_le

/-- Reads a name up to the character that ends it; brackets hide such characters. `taken` is what
    was read, last character first. -/
def scanName (taken : List Char) (s : List Char) :
    Except Fault (List Char × Option Char × Rest s) :=
  match s with
  | [] => .ok (taken.reverse, none, ⟨[], Nat.le_refl _⟩)
  | '\x7b' :: _ => .error .braceInName
  | '[' :: rest =>
    let inner := rest.takeWhile insideBrackets
    have hle := dropWhile_length_le insideBrackets rest
    match scanName (inner.reverse ++ '[' :: taken) (rest.dropWhile insideBrackets) with
    | .error f => .error f
    | .ok (name, ending, ⟨r, h⟩) =>
      .ok (name, ending, ⟨r, Nat.le_succ_of_le (Nat.le_trans h hle)⟩)
  | c :: rest =>
    if c = '\x7d' || c = ':' || c = '!' then
      .ok (taken.reverse, some c, ⟨rest, Nat.le_succ _⟩)
    else match scanName (c :: taken) rest with
      | .error f => .error f
      | .ok (name, ending, ⟨r, h⟩) => .ok (name, ending, ⟨r, Nat.le_succ_of_le h⟩)
termination_by s.length
decreasing_by
  · exact Nat.lt_succ_of_le (dropWhile_length_le insideBrackets rest)
  · exact Nat.lt_succ_self _

/-- Reads a layout up to the brace that closes the placeholder. `depth` counts the braces that are
    open inside it. -/
def scanSpec (taken : List Char) (nested : Bool) (depth : Nat) :
    (s : List Char) → Except Fault (List Char × Bool × Rest s)
  | [] => .error .unmatchedSpec
  | c :: rest =>
    let go (nested : Bool) (depth : Nat) : Except Fault (List Char × Bool × Rest (c :: rest)) :=
      match scanSpec (c :: taken) nested depth rest with
      | .error f => .error f
      | .ok (spec, nested, ⟨r, h⟩) => .ok (spec, nested, ⟨r, Nat.le_succ_of_le h⟩)
    if c = '\x7b' then go true (depth + 1)
    else if c = '\x7d' then
      match depth with
      | 0 => .ok (taken.reverse, nested, ⟨rest, Nat.le_succ _⟩)
      | depth + 1 => go nested depth
    else go nested depth

/-- Reads a placeholder after its opening brace. -/
def scanPlaceholder (s : List Char) : Except Fault (Placeholder × Rest s) := do
  let (name, ending, ⟨r, h⟩) ← scanName [] s
  match ending with
  | some '\x7d' => return (⟨name, none, [], false⟩, ⟨r, h⟩)
  | some ':' =>
    let (spec, nested, ⟨q, hq⟩) ← scanSpec [] false 0 r
    return (⟨name, none, spec, nested⟩, ⟨q, by omega⟩)
  | some _ =>
    match hr : r with
    | [] => throw .noConversion
    | [_] => throw .unmatchedSpec
    | c :: d :: r' =>
      have : r'.length + 2 ≤ s.length := by
        rw [hr, List.length_cons, List.length_cons] at h
        omega
      if d = '\x7d' then return (⟨name, some c, [], false⟩, ⟨r', by omega⟩)
      else if d = ':' then
        let (spec, nested, ⟨q, hq⟩) ← scanSpec [] false 0 r'
        return (⟨name, some c, spec, nested⟩, ⟨q, by omega⟩)
      else throw .noColonAfterConversion
  | none => throw .unterminatedField

/-! ## Values -/

/-- A name that is a number. Digits at its front that make too great a number are refused, whatever
    follows them. -/
def index? (s : List Char) : Except Fault (Option Nat) := do
  let (n, rest) ← leadingNumber s
  return if rest.isEmpty then n else none

/-- Chooses the value of a placeholder by the first part of its name. -/
def choose (values : List Value) (numbering : Numbering) (first : List Char) :
    Except Fault (Value × Numbering) := do
  let pick (i : Nat) (numbering : Numbering) : Except Fault (Value × Numbering) :=
    match values[i]? with
    | some v => .ok (v, numbering)
    | none => .error (.noSuchValue i)
  match first, ← index? first, numbering with
  | [], _, .unset => pick 0 (.automatic 1)
  | [], _, .automatic n => pick n (.automatic (n + 1))
  | [], _, .manual => throw .manualToAutomatic
  | _, some _, .automatic _ => throw .automaticToManual
  | _, some i, _ => pick i .manual
  | name, none, _ => throw (.noSuchName (String.ofList name))

/-- Follows the rest of a name, parts in brackets and after dots, into a subject. -/
def follow (v : Subject) (s : List Char) : Except Fault Subject :=
  match s with
  | [] => .ok v
  | '.' :: rest =>
    let name := rest.takeWhile insidePart
    if name.isEmpty then .error .emptyAttribute
    else match v.attribute? (String.ofList name) with
      | some part => follow part (rest.dropWhile insidePart)
      | none => .error (.noSuchAttribute v.owner (String.ofList name))
  | '[' :: rest =>
    let name := rest.takeWhile insideBrackets
    match h : rest.dropWhile insideBrackets with
    | [] => .error .missingBracket
    | _ :: rest' =>
      if name.isEmpty then .error .emptyAttribute
      else
        match index? name with
        | .error f => .error f
        | .ok index =>
          let item := match index with
            | some i => v.itemAt i
            | none => v.itemNamed (String.ofList name)
          match item with
          | .error f => .error f
          | .ok item => follow item rest'
  | _ => .error .strayAfterBracket
termination_by s.length
decreasing_by
  · exact Nat.lt_succ_of_le (dropWhile_length_le insidePart rest)
  · have hle := dropWhile_length_le insideBrackets rest
    rw [h, List.length_cons] at hle
    exact Nat.lt_succ_of_lt hle

/-- Converts a subject to text before it is laid out. -/
def convert (v : Subject) : Char → Except Fault Subject
  | 's' => .ok (.value (.text v.toText))
  | 'r' => .ok (.value (.text v.display))
  | 'a' => .ok (.value (.text (String.ofList (v.display.toList.flatMap fun c =>
      if c.toNat < 128 then [c] else Quoted.escapeCode c))))
  | c => .error (.unknownConversion c)

/-- The subject of a placeholder, converted. -/
def subjectOf (values : List Value) (numbering : Numbering) (p : Placeholder) :
    Except Fault (Subject × Numbering) := do
  let first := p.name.takeWhile insidePart
  let rest := p.name.dropWhile insidePart
  let (v, numbering) ← choose values numbering first
  let v ← follow (.value v) rest
  let v ← match p.conversion with
    | some c => convert v c
    | none => pure v
  return (v, numbering)

/-! ## Filling -/

/-- A part of a template. -/
inductive Piece where
  | char (c : Char)
  | placeholder (p : Placeholder)

/-- Takes the first part off a template that is not empty. -/
def nextPiece (c : Char) (rest : List Char) : Except Fault (Piece × Rest rest) :=
  if c = '\x7b' then
    match rest with
    | [] => .error .singleOpen
    | d :: rest' =>
      if d = '\x7b' then .ok (.char c, ⟨rest', Nat.le_succ _⟩)
      else (fun r => (.placeholder r.1, r.2)) <$> scanPlaceholder (d :: rest')
  else if c = '\x7d' then
    match rest with
    | [] => .error .singleClose
    | d :: rest' =>
      if d = '\x7d' then .ok (.char c, ⟨rest', Nat.le_succ _⟩) else .error .singleClose
  else .ok (.char c, ⟨rest, Nat.le_refl _⟩)

/-- Fills a template; `nested` fills the layouts that have placeholders of their own. -/
def buildWith (nested : Numbering → List Char → Except Fault (List Char × Numbering))
    (values : List Value) (numbering : Numbering) (s : List Char) :
    Except Fault (List Char × Numbering) :=
  match s with
  | [] => .ok ([], numbering)
  | c :: rest => do
    let (piece, ⟨r, _⟩) ← nextPiece c rest
    match piece with
    | .char c =>
      let (tail, numbering) ← buildWith nested values numbering r
      return (c :: tail, numbering)
    | .placeholder p =>
      let (v, numbering) ← subjectOf values numbering p
      let (spec, numbering) ← if p.nested then nested numbering p.spec
        else pure (p.spec, numbering)
      let shown ← v.lay spec
      let (tail, numbering) ← buildWith nested values numbering r
      return (shown ++ tail, numbering)
termination_by s.length

/-- How deep layouts can have placeholders of their own. -/
def depthLimit : Nat := 2

/-- Fills a template; `depth` bounds the nesting of layouts. -/
def build (values : List Value) : Nat → Numbering → List Char →
    Except Fault (List Char × Numbering)
  | 0, _, _ => .error .tooDeep
  | depth + 1, numbering, s => buildWith (build values depth) values numbering s

/-- Fills a template with values. -/
def fill (template : String) (values : List Value) : Except Fault String :=
  (fun r => String.ofList r.1) <$> build values depthLimit .unset template.toList

end FieldRules.Template
