import FieldRules.Markup.Link
import FieldRules.Markup.Policy
import FieldRules.Markup.Tree

/-!
# Attributes that are kept

An attribute is kept if the policy allows it and its value does no harm: links name an allowed
scheme, styles are emptied, and drawings refer to nothing outside of the page.
-/

namespace FieldRules.Markup

/-- The vocabulary that the name of an attribute comes from. -/
inductive AttributeSpace where
  | element
  | xlink
  | xml
  | xmlns
  | unknown
  deriving DecidableEq, Repr

/-- An attribute of an element. -/
structure Attribute where
  space : AttributeSpace
  name : String
  value : String
  deriving Repr

/-! ## Names -/

/-- The attributes of drawings and formulas that come from other vocabularies. -/
def sharedAttributes : Entries (AttributeSpace × String) :=
  [("xlink:actuate", .xlink, "actuate"), ("xlink:arcrole", .xlink, "arcrole"),
   ("xlink:href", .xlink, "href"), ("xlink:role", .xlink, "role"), ("xlink:show", .xlink, "show"),
   ("xlink:title", .xlink, "title"), ("xlink:type", .xlink, "type"), ("xml:base", .xml, "base"),
   ("xml:lang", .xml, "lang"), ("xml:space", .xml, "space"), ("xmlns", .xmlns, "xmlns"),
   ("xmlns:xlink", .xmlns, "xlink")]

/-- A name with its vocabulary in braces before it. -/
def splitBraced (name : List Char) : AttributeSpace × List Char :=
  match name with
  | '\x7b' :: rest =>
    match rest.dropWhile (· ≠ '\x7d') with
    | _ :: plain => (.unknown, plain)
    | [] => (.element, name)
  | _ => (.element, name)

/-- An attribute as it is written in a tag, in an element of a language. -/
def attributeIn (dialect : Dialect) (written : String × String) : Attribute :=
  match if dialect = .html then none else sharedAttributes.get? written.1 with
  | some (space, name) => ⟨space, name, written.2⟩
  | none =>
    let (space, name) := splitBraced written.1.toList
    ⟨space, String.ofList name, written.2⟩

/-! ## Values -/

/-- Attributes whose value is a link. -/
def linkAttributes : List String :=
  ["href", "src", "cite", "action", "longdesc", "poster", "background", "datasrc", "dynsrc",
   "lowsrc", "ping"]

/-- Whether the value of an attribute is a link. -/
def Attribute.isLink (a : Attribute) : Bool :=
  match a.space with
  | .element => a.name ∈ linkAttributes
  | .xlink => a.name = "href"
  | .xml => a.name = "base"
  | _ => false

/-- Attributes of drawings that may refer to something else. -/
def referringAttributes : List String :=
  ["clip-path", "color-profile", "cursor", "fill", "filter", "marker", "marker-start",
   "marker-mid", "marker-end", "mask", "stroke"]

/-- Elements of drawings that may link to nothing outside of the page. -/
def localElements : List String :=
  ["altGlyph", "animate", "animateColor", "animateMotion", "animateTransform", "cursor",
   "feImage", "filter", "linearGradient", "pattern", "radialGradient", "textpath", "tref", "set",
   "use"]

/-- A text in which a piece is replaced by a character wherever it stands. -/
def replacePiece (piece : List Char) (c : Char) : List Char → List Char
  | [] => []
  | x :: rest =>
    if piece.isPrefixOf (x :: rest) then
      c :: replacePiece piece c ((x :: rest).drop (max piece.length 1))
    else x :: replacePiece piece c rest
  termination_by s => s.length

/-- A text with the three references for the marks of markup replaced. -/
def unescapeMarks (s : List Char) : List Char :=
  let s := replacePiece "&gt;".toList '>' s
  replacePiece "&amp;".toList '&' (replacePiece "&lt;".toList '<' s)

/-- What follows a reference out of the page at the front of a text: `url`, and in brackets at least
    two characters, the first of them no number sign. -/
def afterReference? : List Char → Option (List Char)
  | 'u' :: 'r' :: 'l' :: rest =>
    match rest.dropWhile Unicode.isBlank with
    | '(' :: rest =>
      match rest.dropWhile Unicode.isBlank with
      | [] | '#' :: _ => none
      | _ :: rest =>
        match rest.takeWhile (· ≠ ')'), rest.dropWhile (· ≠ ')') with
        | _ :: _, _ :: after => some after
        | _, _ => none
    | _ => none
  | _ => none

/-- A text with a space instead of every reference out of the page; at most so many characters are
    read. -/
def dropReferences (characters : Nat) (s : List Char) : List Char :=
  match characters, s with
  | characters + 1, c :: rest =>
    match afterReference? (c :: rest) with
    | some after => ' ' :: dropReferences characters after
    | none => c :: dropReferences characters rest
  | _, _ => []

/-- The value of an attribute that may refer to something else, without references out of the page;
    none if nothing is left of it. -/
def localValue? (value : String) : Option String :=
  let unescaped := unescapeMarks value.toList
  match Unicode.trim (dropReferences unescaped.length unescaped) with
  | [] => none
  | kept => some (String.ofList kept)

/-- Whether a link leads out of the page. -/
def leadsOut (value : String) : Bool :=
  match value.toList.dropWhile Unicode.isBlank with
  | c :: _ => c ≠ '#'
  | [] => false

/-- A harmless attribute of an element; none if its value may do harm. -/
def Attribute.harmless? (element : String) (a : Attribute) : Option Attribute := do
  if a.isLink && !isAllowedLink a.value then none
  let value ←
    if a.space = .element && a.name ∈ referringAttributes then localValue? a.value
    else some a.value
  let isAddress := (a.space = .element || a.space = .xlink) && a.name = "href"
  if element ∈ localElements && isAddress && leadsOut value then none
  return { a with value := if a.space = .element && a.name = "style" then "" else value }

/-- The attributes of an element that are kept. -/
def keptAttributes (policy : Policy) (element : String) :
    List Attribute → Except PolicyFault (List Attribute)
  | [] => .ok []
  | a :: rest => do
    let allowed ← policy.attributes.allows element a.name
    let rest ← keptAttributes policy element rest
    return if allowed then (a.harmless? element).toList ++ rest else rest

/-! ## Text -/

/-- The name of an attribute with that of its vocabulary. -/
def Attribute.fullName (a : Attribute) : String :=
  match a.space with
  | .element | .unknown => a.name
  | .xlink => "xlink:" ++ a.name
  | .xml => "xml:" ++ a.name
  | .xmlns => "xmlns:" ++ a.name

end FieldRules.Markup
