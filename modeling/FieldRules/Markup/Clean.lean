import FieldRules.Markup.Attribute
import FieldRules.Markup.Build

/-!
# Harmless markup

A text is read as markup, what the policy does not allow is shown as text or left out, and the
result is written again, with every element closed and every attribute in quotes.
-/

namespace FieldRules.Markup

/-! ## Pieces of a page -/

/-- A piece of a page in reading order. Blanks at the ends of a text are pieces of their own. -/
inductive Piece where
  | text (run : List Char)
  | spaces (run : List Char)
  | reference (name : List Char)
  | start (name : String) (attributes : List Attribute)
  | finish (name : String)
  deriving Repr

/-- Elements that have no closing tag. -/
def voidElements : List String :=
  ["base", "command", "event-source", "link", "meta", "hr", "br", "img", "embed", "param", "area",
   "col", "input", "source", "track", "wbr"]

/-- A text without the spaces at its ends, and these spaces. -/
def textPieces (run : List Char) : List Piece :=
  let left := run.takeWhile isSpace
  let rest := run.drop left.length
  let right := (rest.reverse.takeWhile isSpace).reverse
  let middle := rest.take (rest.length - right.length)
  [Piece.spaces left, .text middle, .spaces right].filter fun
    | .spaces [] | .text [] => false
    | _ => true

/-- The pieces of some content; `depth` bounds how deep elements stand in each other. -/
def contentPieces (t : Tree) (depth : Nat) (contents : List Content) : List Piece :=
  match depth with
  | 0 => []
  | depth + 1 =>
    contents.reverse.flatMap fun
      | .text run => textPieces run.reverse
      | .comment => []
      | .element child | .guest child =>
        let e := t.node child
        let start := Piece.start e.name (e.attributes.map (attributeIn e.dialect))
        if e.dialect = .html && e.name ∈ voidElements then [start]
        else start :: contentPieces t depth e.contents ++ [.finish e.name]

/-- The pieces of a page: the settled content of the root. An element stands at most as deep as
    there are elements. -/
def Tree.pieces (t : Tree) : List Piece :=
  contentPieces t t.elements.size (Tree.settled (t.node 0).contents)

/-! ## What is kept -/

/-- A tag as text. -/
def sourceText (name : String) (attributes : List Attribute) : List Char :=
  let shown := attributes.flatMap fun a =>
    ' ' :: a.fullName.toList ++ '=' :: '"' :: a.value.toList ++ ['"']
  '<' :: name.toList ++ shown ++ ['>']

/-- A control character, which is shown as a question mark. -/
def isInvisible (c : Char) : Bool :=
  let n := c.toNat
  n ≤ 8 || n = 11 || n = 12 || (14 ≤ n && n ≤ 31)

/-- A text with its references; the one for the ampersand is an ampersand. -/
def referencePieces (run : List Char) : List Piece :=
  let run := run.map fun c => if isInvisible c then '?' else c
  let (first, parts) := cutAtAmpersands run
  .text first :: parts.flatMap fun part =>
    match reference? part with
    | some name =>
      let rest := Piece.text (part.drop (name.length + 1))
      if name = "amp".toList then [.text ['&'], rest] else [.reference name, rest]
    | none => [.text ('&' :: part)]

/-- What is kept of a piece. -/
def keptPieces (policy : Policy) (tags : List String) : Piece → Except PolicyFault (List Piece)
  | .text run => .ok (referencePieces run)
  | .spaces run => .ok [.spaces run]
  | .reference name => .ok [.reference name]
  | .start name attributes => do
    if name ∈ tags then return [.start name (← keptAttributes policy name attributes)]
    return if policy.strip then [] else [.text (sourceText name attributes)]
  | .finish name =>
    .ok (if name ∈ tags then [.finish name]
      else if policy.strip then []
      else [.text ('<' :: '/' :: name.toList ++ ['>'])])

/-- Joins texts that follow each other, and leaves out empty ones. -/
def joinTexts : List Piece → List Piece
  | [] => []
  | .text [] :: rest => joinTexts rest
  | .text run :: rest =>
    match joinTexts rest with
    | .text more :: rest => .text (run ++ more) :: rest
    | rest => .text run :: rest
  | piece :: rest => piece :: joinTexts rest

/-! ## Writing -/

/-- Attributes that are written without a value, by element. -/
def bareAttributes : Entries (List String) :=
  [("style", ["scoped"]), ("img", ["ismap"]), ("audio", ["autoplay", "controls"]),
   ("video", ["autoplay", "controls"]), ("script", ["defer", "async"]), ("details", ["open"]),
   ("datagrid", ["multiple", "disabled"]),
   ("command", ["hidden", "disabled", "checked", "default"]), ("hr", ["noshade"]),
   ("menu", ["autosubmit"]), ("fieldset", ["disabled", "readonly"]),
   ("option", ["disabled", "readonly", "selected"]), ("optgroup", ["disabled", "readonly"]),
   ("button", ["disabled", "autofocus"]),
   ("input", ["disabled", "readonly", "required", "autofocus", "checked", "ismap"]),
   ("select", ["disabled", "readonly", "autofocus", "multiple"]),
   ("output", ["disabled", "readonly"]), ("iframe", ["seamless"])]

/-- Whether an attribute is written without a value. -/
def isBare (element attr : String) : Bool :=
  attr = "irrelevant" || attr = "itemscope" || attr ∈ (bareAttributes.get? element).getD []

/-- A text as markup. -/
def escapeText (run : List Char) : List Char :=
  run.flatMap fun c =>
    if c = '&' then "&amp;".toList
    else if c = '<' then "&lt;".toList
    else if c = '>' then "&gt;".toList
    else [c]

/-- The marks of an attribute: name, equals sign, quote, value, quote. Single quotes are for values
    with double quotes only. -/
def attributeMarks (element : String) (a : Attribute) : List (List Char) :=
  let name := a.name.toList
  if isBare element a.name then [[' '], name]
  else
    let value := a.value.toList.flatMap fun c =>
      if c = '&' then "&amp;".toList else if c = '<' then "&lt;".toList else [c]
    let quote := if value.contains '"' && !value.contains '\'' then '\'' else '"'
    let value := if quote = '"' then value.flatMap fun c =>
      if c = '"' then "&quot;".toList else [c] else value
    [[' '], name, ['='], [quote], value, [quote]]

/-- The marks that a piece is written with. -/
def Piece.marks : Piece → List (List Char)
  | .text run => [escapeText run]
  | .spaces run => [run]
  | .reference name => [('&' :: name) ++ [';']]
  | .start name attributes =>
    ('<' :: name.toList) :: attributes.flatMap (attributeMarks name) ++ [['>']]
  | .finish name => [('<' :: '/' :: name.toList) ++ ['>']]

/-- Replaces `&amp;` by an ampersand. -/
def unescapeAmpersands : List Char → List Char
  | '&' :: 'a' :: 'm' :: 'p' :: ';' :: rest => '&' :: unescapeAmpersands rest
  | c :: rest => c :: unescapeAmpersands rest
  | [] => []

/-- A value in which references that stand for a known character stay, and every other ampersand is
    escaped. -/
def escapeValue (value : List Char) : List Char :=
  let (first, parts) := cutAtAmpersands (unescapeAmpersands value)
  first ++ parts.flatMap fun part =>
    match (reference? part).filter fun name => (expand? name).isSome with
    | some name => ('&' :: name) ++ ';' :: part.drop (name.length + 1)
    | none => "&amp;".toList ++ part

/-- Writes the marks. A closing tag is one mark, so that the writer counts as inside of a tag from
    the first mark of a tag until a closing bracket stands alone; there, the first mark after an
    equals sign that is no double quote is taken for a value. -/
def writeMarks (inTag afterEquals : Bool) : List (List Char) → List Char
  | [] => []
  | mark :: rest =>
    if !inTag then mark ++ writeMarks (mark.head? = some '<') afterEquals rest
    else if mark = ['>'] then mark ++ writeMarks false afterEquals rest
    else if afterEquals && mark ≠ ['"'] then escapeValue mark ++ writeMarks true false rest
    else mark ++ writeMarks true (afterEquals || mark = ['=']) rest

/-- A text made harmless. -/
def clean (policy : Policy) (s : List Char) : Except PolicyFault (List Char) := do
  let tags ← policy.tags
  if s.isEmpty then return []
  let scanned : TagPolicy :=
    ⟨tags.map fun t => String.ofList (Unicode.lowerText t.toList), policy.strip⟩
  if policy.attributes = .unusable then throw .attributesUnusable
  let kept ← (Tree.ofText scanned s).pieces.mapM (keptPieces policy tags)
  return writeMarks false false ((joinTexts kept.flatten).flatMap Piece.marks)

/-- A value made harmless: its text without the blanks at its ends, as harmless markup. A value that
    does not count as present stays as it is. -/
def cleanValue (policy : Policy) (v : Value) : Except PolicyFault Value :=
  if v.truthy then do
    return .text (String.ofList (← clean policy (Unicode.trim v.toText.toList)))
  else .ok v

end FieldRules.Markup
