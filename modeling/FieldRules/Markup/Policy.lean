import FieldRules.Value.Display

/-!
# What markup is kept

A policy names the tags and attributes that are kept, and says whether other tags are left out or
shown as text. It is read from plain data; parts of the wrong kind are refused at once or, where a
text may never reach them, only when one does.
-/

namespace FieldRules.Markup

/-- Why a policy cannot be used. -/
inductive PolicyFault where
  | notMapping (kind : String)
  | tagsNotIterable (kind : String)
  | tagNotHashable (kind : String)
  | tagNotText (kind : String)
  | attributesUnusable
  | namesNotIterable (kind : String)
  deriving DecidableEq, Repr

/-- The wording of a policy that cannot be used. -/
def PolicyFault.message : PolicyFault → String
  | notMapping kind => s!"'{kind}' object has no attribute 'get'"
  | tagsNotIterable kind => s!"'{kind}' object is not iterable"
  | tagNotHashable kind => s!"unhashable type: '{kind}'"
  | tagNotText kind => s!"'{kind}' object has no attribute 'lower'"
  | attributesUnusable => "attributes needs to be a callable, a list or a dict"
  | namesNotIterable kind => s!"argument of type '{kind}' is not iterable"

/-- The attributes that one tag may have. A text allows every part of it as a name. -/
inductive NameSet where
  | names (allowed : List String)
  | partsOf (text : String)
  | unusable (kind : String)
  deriving DecidableEq, Repr

/-- The attributes that tags may have: by tag, with `*` for all, or the same for every tag. -/
inductive AttributePolicy where
  | byTag (names : Entries NameSet)
  | forAll (allowed : List String)
  | unusable
  deriving DecidableEq, Repr

/-- What markup is kept. Model of `Sanitizer`. -/
structure Policy where
  tags : Except PolicyFault (List String)
  attributes : AttributePolicy
  strip : Bool

/-- The texts among some values. -/
def textsOf (items : List Value) : List String :=
  items.filterMap fun
    | .text s => some s
    | _ => none

/-- Some inline tags and lists are kept, a few of them with a title, and links with their target. -/
def Policy.standard : Policy where
  tags := .ok ["a", "abbr", "acronym", "b", "blockquote", "code", "em", "i", "li", "ol", "strong",
    "ul"]
  attributes := .byTag
    [("a", .names ["href", "title"]), ("abbr", .names ["title"]), ("acronym", .names ["title"])]
  strip := false

namespace NameSet

/-- The names that a value allows. -/
def ofValue : Value → NameSet
  | .list items => .names (textsOf items)
  | .map entries => .names (Entries.keys entries)
  | .text s => .partsOf s
  | v => .unusable v.kindName

/-- Whether a text stands somewhere in another one. -/
def isPartOf (piece : List Char) : List Char → Bool
  | [] => piece.isEmpty
  | c :: rest => piece.isPrefixOf (c :: rest) || isPartOf piece rest

/-- Whether a name is allowed. -/
def allows (s : NameSet) (name : String) : Except PolicyFault Bool :=
  match s with
  | names allowed => .ok (name ∈ allowed)
  | partsOf text => .ok (isPartOf name.toList text.toList)
  | unusable kind => .error (.namesNotIterable kind)

end NameSet

namespace AttributePolicy

/-- The attribute policy that a value describes. -/
def ofValue : Value → AttributePolicy
  | .map entries => .byTag (entries.map fun e => (e.1, NameSet.ofValue e.2))
  | .list items => .forAll (textsOf items)
  | _ => .unusable

/-- Whether a tag may have an attribute. -/
def allows (p : AttributePolicy) (tag name : String) : Except PolicyFault Bool :=
  match p with
  | byTag rules => do
    if ← ((rules.get? tag).map (·.allows name)).getD (.ok false) then return true
    ((rules.get? "*").map (·.allows name)).getD (.ok false)
  | forAll allowed => .ok (name ∈ allowed)
  | unusable => .error .attributesUnusable

end AttributePolicy

namespace Policy

/-- The tags that a value names; a text names its letters. -/
def tagsOf : Value → Except PolicyFault (Except PolicyFault (List String))
  | .text s => .ok (.ok (s.toList.map fun c => String.ofList [c]))
  | .map entries => .ok (.ok (Entries.keys entries))
  | .list items =>
    match items.find? fun | .list _ | .map _ => true | _ => false with
    | some v => .error (.tagNotHashable v.kindName)
    | none =>
      match items.find? fun | .text _ => false | _ => true with
      | some v => .ok (.error (.tagNotText v.kindName))
      | none => .ok (.ok (textsOf items))
  | v => .error (.tagsNotIterable v.kindName)

/-- The policy that a value describes; what it leaves open is as in the standard policy. -/
def ofValue (v : Value) : Except PolicyFault Policy := do
  if !v.truthy then return standard
  let .map entries := v | throw (.notMapping v.kindName)
  let part (key : String) : Value := (Entries.get? entries key).getD .null
  let tags ←
    match part "tags" with
    | .null => pure standard.tags
    | given => tagsOf given
  let attributes :=
    match part "attributes" with
    | .null => standard.attributes
    | given => AttributePolicy.ofValue given
  return ⟨tags, attributes, (part "strip").truthy⟩

end Policy

end FieldRules.Markup
