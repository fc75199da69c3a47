import FieldRules.Unicode.Blank
import FieldRules.Unicode.Case
import FieldRules.Value.Basic

/-!
# The tokens of a marked-up text

A text is read character by character into runs of text, runs of spaces, tags and comments. Tags
that are not wanted never become tags: they stay the text that they were written as, or they are
left out. Whether the text after a tag is markup depends on the element that the tag has opened, so
the reader is told after every tag how to go on.

Results:
* `follow_markup`: where the text after a tag is markup, the reader goes on as it is.
-/

namespace FieldRules.Markup

/-- A tag that opens an element. It is `empty` if it ends in a solidus. -/
structure StartTag where
  name : String
  attributes : Entries String
  empty : Bool
  deriving Repr

/-- A piece of a marked-up text. -/
inductive Token where
  | text (run : List Char)
  | space (run : List Char)
  | null
  | start (tag : StartTag)
  | finish (name : String)
  | comment
  deriving Repr

/-- How a text is read: as markup, as the text of an element up to its closing tag, or as text up to
    its end. -/
inductive Reading where
  | markup
  | content (element : String)
  | everything
  deriving DecidableEq, Repr

/-- Which tags are tags, by their names in lower case, and whether the others are left out. -/
structure TagPolicy where
  tags : List String
  strip : Bool

/-- Whether a tag is a tag, by its name as it is written. -/
def TagPolicy.wants (policy : TagPolicy) (written : List Char) : Bool :=
  String.ofList (Unicode.lowerText written) ∈ policy.tags

/-- A character that separates the parts of a tag. -/
def isSpace (c : Char) : Bool := c = '\t' || c = '\n' || c = '\x0c' || c = '\r' || c = ' '

/-- An ASCII letter in lower case. -/
def lowerAscii (c : Char) : Char :=
  if 'A' ≤ c && c ≤ 'Z' then Char.ofNat (c.toNat + 32) else c

/-- Every line ends in a line feed alone. -/
def unifyLines : List Char → List Char
  | '\r' :: '\n' :: rest => '\n' :: unifyLines rest
  | '\r' :: rest => '\n' :: unifyLines rest
  | c :: rest => c :: unifyLines rest
  | [] => []

/-- What a text cannot hold is shown by the replacement character. -/
def shown (c : Char) : Char := if c.toNat = 0 then '\uFFFD' else c

/-! ## Tags -/

/-- A tag that is being read: its name, latest character first, its attributes, whether it ends in a
    solidus, and whether the last fault in it was a character that no attribute name may have. -/
structure Tag where
  closing : Bool
  name : List Char
  attributes : Entries String
  empty : Bool
  flawed : Bool
  deriving Repr

/-- A tag of which no more than the name has been read. -/
def Tag.named (closing : Bool) (name : List Char) : Tag := ⟨closing, name, [], false, false⟩

/-- Where in a tag the reader is; names and values have their latest character first. -/
inductive Place where
  | name
  | beforeName
  | inName (attr : List Char)
  | afterName (attr : List Char)
  | beforeValue (attr : List Char)
  | quoted (attr : List Char) (quote : Char) (value : List Char)
  | unquoted (attr : List Char) (value : List Char)
  | afterValue
  | solidus
  deriving Repr

/-- The name of an attribute. -/
def attributeName (name : List Char) : String := String.ofList (name.reverse.map lowerAscii)

/-- Adds an attribute; of two with one name the first counts. -/
def Tag.add (t : Tag) (name value : List Char) : Tag :=
  let key := attributeName name
  if t.attributes.has key then t
  else { t with attributes := t.attributes ++ [(key, String.ofList value.reverse)] }

/-- Ends the name of an attribute; a name that is there already is a fault of its own. -/
def Tag.endName (t : Tag) (name : List Char) : Tag :=
  if t.attributes.has (attributeName name) then { t with flawed := false } else t

/-- The attributes that are kept: after a faulty name, none with a quote or an opening bracket. -/
def Tag.kept (t : Tag) : Entries String :=
  if t.flawed then
    t.attributes.filter fun e => e.1.toList.all fun c => c ≠ '"' && c ≠ '\'' && c ≠ '<'
  else t.attributes

/-- What comes of reading on in a tag. -/
inductive Step where
  | inside (t : Tag) (place : Place)
  | done (t : Tag)

/-- Reads on before the name of an attribute. -/
def Tag.readBeforeName (t : Tag) (c : Char) : Step :=
  if isSpace c then .inside t .beforeName
  else if c = '>' then .done t
  else if c = '/' then .inside t .solidus
  else if c = '\'' || c = '"' || c = '=' || c = '<' then
    .inside { t with flawed := true } (.inName [c])
  else if c.toNat = 0 then .inside { t with flawed := false } (.inName [shown c])
  else .inside t (.inName [c])

/-- Reads on after the name of an attribute. -/
def Tag.readAfterName (t : Tag) (name : List Char) (c : Char) : Step :=
  if isSpace c then .inside t (.afterName name)
  else if c = '=' then .inside t (.beforeValue name)
  else if c = '>' then .done (t.add name [])
  else if c = '/' then .inside (t.add name []) .solidus
  else if c = '\'' || c = '"' || c = '<' || c.toNat = 0 then
    .inside { t.add name [] with flawed := false } (.inName [shown c])
  else .inside (t.add name []) (.inName [c])

/-- Reads on in a value without quotes. -/
def Tag.readUnquoted (t : Tag) (name value : List Char) (c : Char) : Step :=
  if isSpace c then .inside (t.add name value) .beforeName
  else if c = '>' then .done (t.add name value)
  else if c = '"' || c = '\'' || c = '=' || c = '<' || c = '\x60' || c.toNat = 0 then
    .inside { t with flawed := false } (.unquoted name (shown c :: value))
  else .inside t (.unquoted name (c :: value))

/-- Reads one character of a tag. -/
def Tag.read (t : Tag) (place : Place) (c : Char) : Step :=
  match place with
  | .name =>
    if isSpace c then .inside t .beforeName
    else if c = '>' then .done t
    else if c = '/' then .inside t .solidus
    else .inside { t with name := shown c :: t.name } .name
  | .beforeName => t.readBeforeName c
  | .inName name =>
    if c = '=' then .inside (t.endName name) (.beforeValue name)
    else if c = '>' then .done ((t.endName name).add name [])
    else if isSpace c then .inside (t.endName name) (.afterName name)
    else if c = '/' then .inside ((t.endName name).add name []) .solidus
    else if c = '\'' || c = '"' || c = '<' then
      .inside { t with flawed := true } (.inName (c :: name))
    else if c.toNat = 0 then .inside { t with flawed := false } (.inName (shown c :: name))
    else .inside t (.inName (c :: name))
  | .afterName name => t.readAfterName name c
  | .beforeValue name =>
    if isSpace c then .inside t (.beforeValue name)
    else if c = '"' || c = '\'' then .inside t (.quoted name c [])
    else if c = '>' then .done { t.add name [] with flawed := false }
    else if c = '=' || c = '<' || c = '\x60' || c.toNat = 0 then
      .inside { t with flawed := false } (.unquoted name [shown c])
    else .inside t (.unquoted name [c])
  | .quoted name quote value =>
    if c = quote then .inside (t.add name value) .afterValue
    else if c.toNat = 0 then
      .inside { t with flawed := false } (.quoted name quote (shown c :: value))
    else .inside t (.quoted name quote (c :: value))
  | .unquoted name value => t.readUnquoted name value c
  | .afterValue =>
    if isSpace c then .inside t .beforeName
    else if c = '>' then .done t
    else if c = '/' then .inside t .solidus
    else { t with flawed := false }.readBeforeName c
  | .solidus =>
    if c = '>' then .done { t with empty := true }
    else { t with flawed := false }.readBeforeName c

/-- Whether a text that ends here shows its unfinished tag as text; otherwise the tag is lost. -/
def Place.showsUnfinished : Place → Bool
  | .name | .inName _ | .afterName _ | .unquoted _ _ => true
  | _ => false

/-- Whether the next thing in a tag may be the name of an attribute. -/
def Place.isBetweenAttributes : Place → Bool
  | .beforeName | .afterValue | .solidus => true
  | _ => false

/-! ## Comments -/

/-- Where in a comment the reader is. -/
inductive CommentPlace where
  | opening
  | openingDash
  | inside
  | dash
  | twoDashes
  | bang
  deriving DecidableEq, Repr

/-- Reads one character of a comment; none when it is over. -/
def CommentPlace.read (p : CommentPlace) (c : Char) : Option CommentPlace :=
  match p with
  | opening =>
    if c = '-' then some openingDash
    else if c = '>' then none
    else if c.toNat = 0 then some opening
    else some inside
  | openingDash =>
    if c = '-' then some twoDashes
    else if c = '>' then none
    else if c.toNat = 0 then some openingDash
    else some inside
  | inside => some (if c = '-' then dash else inside)
  | dash => some (if c = '-' then twoDashes else inside)
  | twoDashes =>
    if c = '>' then none
    else if c = '-' then some twoDashes
    else if c = '!' then some bang
    else some inside
  | bang =>
    if c = '>' then none
    else if c = '-' then some dash
    else some inside

/-! ## The reader -/

/-- Elements that start a block; where one is left out after another tag, a line is broken. -/
def blockElements : List String :=
  ["address", "article", "aside", "blockquote", "details", "dialog", "dd", "div", "dl", "dt",
   "fieldset", "figcaption", "figure", "footer", "form", "h1", "h2", "h3", "h4", "h5", "h6",
   "header", "hgroup", "hr", "li", "main", "nav", "ol", "p", "pre", "section", "table", "ul"]

/-- What the reader is in; runs have their latest character first. -/
inductive State where
  | between
  | text (run : List Char)
  | space (run : List Char)
  | opened
  | closing
  | declaration (read : List Char)
  | doctype
  | quotation (read : List Char)
  | comment (place : CommentPlace)
  | remark
  | closingRemark (content : List Char)
  | tag (t : Tag) (place : Place)
  | content (element : String) (held : List Char)
  | everything
  deriving Repr

/-- The reader: where it is, whether it has come past a tag, whether text may be quoted, as it may
    in drawings and formulas, all that it has read since the latest bracket that may open a tag,
    and the tokens that nobody has taken yet, both latest first. -/
structure Reader where
  state : State
  sawTag : Bool
  quotes : Bool
  source : List Char
  tokens : List Token

namespace Reader

/-- The reader of a text of which nothing has been read. -/
def start : Reader := ⟨.between, false, false, [], []⟩

/-- Hands out a token. -/
def emit (r : Reader) (t : Token) : Reader := { r with tokens := t :: r.tokens }

/-- Hands out all that has been read since the latest opening bracket. -/
def emitSource (r : Reader) : Reader := r.emit (.text r.source.reverse)

/-- Goes on in another state. -/
def goto (r : Reader) (s : State) : Reader := { r with state := s }

/-- Goes on after an opening bracket. -/
def gotoOpened (r : Reader) : Reader := { r with state := .opened, source := ['<'] }

/-- Reads a character at which no run has been started. -/
def readBetween (r : Reader) (c : Char) : Reader :=
  if c = '<' then r.gotoOpened
  else if c = '&' then (r.emit (.text [c])).goto .between
  else if c.toNat = 0 then (r.emit .null).goto .between
  else if isSpace c then r.goto (.space [c])
  else r.goto (.text [c])

/-- Hands out a finished tag: as a tag, as the text it was written as, or not at all. -/
def finishTag (policy : TagPolicy) (r : Reader) (t : Tag) : Reader :=
  let written := t.name.reverse
  let r' := { r with sawTag := true, state := .between }
  if policy.wants written then
    let name := String.ofList (written.map lowerAscii)
    r'.emit (if t.closing then .finish name else .start ⟨name, t.kept, t.empty⟩)
  else if policy.strip then
    if r.sawTag && !t.closing && String.ofList (Unicode.lowerText written) ∈ blockElements then
      r'.emit (.text ['\n'])
    else r'.emit (.text [])
  else r'.emitSource

/-- Reads one character of a tag. An opening bracket between the attributes of a tag that is not
    wanted makes all before it text, and may open a tag itself. -/
def readTag (policy : TagPolicy) (r : Reader) (t : Tag) (place : Place) (c : Char) : Reader :=
  if c = '<' && place.isBetweenAttributes && !policy.wants t.name.reverse then
    { r with source := r.source.tail }.emitSource.gotoOpened
  else
    match t.read place c with
    | .inside t place => r.goto (.tag t place)
    | .done t => r.finishTag policy t

/-- Ends a remark that began like a closing tag. It is text, unless it holds just a wanted name. -/
def finishClosingRemark (policy : TagPolicy) (r : Reader) (content : List Char) : Reader :=
  let name := Unicode.trim (Unicode.lowerText (content.reverse.map shown))
  if String.ofList name ∈ policy.tags then r.emit .comment else r.emitSource

/-- Reads one character of a remark. -/
def readRemark (r : Reader) (c : Char) : Reader :=
  if c = '>' then (r.emit .comment).goto .between else r.goto .remark

/-- Reads on after an opening bracket and an exclamation mark. -/
def readDeclaration (r : Reader) (taken : List Char) (c : Char) : Reader :=
  if taken = ['-'] && c = '-' then r.goto (.comment .opening)
  else
    let taken' := taken ++ [lowerAscii c]
    if taken' = ['-'] then r.goto (.declaration taken')
    else if taken' = "doctype".toList then r.goto .doctype
    else if taken'.isPrefixOf "doctype".toList then r.goto (.declaration taken')
    else if r.quotes && taken ++ [c] = "[CDATA[".toList then r.goto (.quotation [])
    else if r.quotes && (taken ++ [c]).isPrefixOf "[CDATA[".toList then
      r.goto (.declaration (taken ++ [c]))
    else r.readRemark c

/-- Hands out quoted text. -/
def emitQuotation (r : Reader) (quoted : List Char) : Reader :=
  if quoted.isEmpty then r else r.emit (.text (quoted.reverse.map shown))

/-- Reads one character of quoted text, which ends with two square brackets and an angle bracket. -/
def readQuotation (r : Reader) (quoted : List Char) (c : Char) : Reader :=
  match c, quoted with
  | '>', ']' :: ']' :: quoted => (r.emitQuotation quoted).goto .between
  | _, _ => r.goto (.quotation (c :: quoted))

/-- Hands out a character of an element that holds text only, after what had been held back. -/
def emitContent (r : Reader) (held : List Char) (c : Char) : Reader :=
  let r := if held.isEmpty then r else r.emit (.text held.reverse)
  r.emit (if isSpace c then .space [c] else .text [shown c])

/-- Reads one character of an element that holds text only. -/
def readContent (r : Reader) (element : String) (held : List Char) (c : Char) : Reader :=
  let ending := '<' :: '/' :: element.toList
  let tag := Tag.named true element.toList.reverse
  let restart (r : Reader) : Reader :=
    if c = '<' then (if held.isEmpty then r else r.emit (.text held.reverse)).goto
      (.content element [c])
    else (r.emitContent held c).goto (.content element [])
  if held.length = ending.length then
    if c = '>' then ({ r with sawTag := true }.emit (.finish element)).goto .between
    else if isSpace c then r.goto (.tag tag .beforeName)
    else if c = '/' then r.goto (.tag tag .solidus)
    else restart r
  else if ending[held.length]? = some (lowerAscii c) then r.goto (.content element (c :: held))
  else restart r

/-- Reads one character. -/
def read (policy : TagPolicy) (r : Reader) (c : Char) : Reader :=
  let r := { r with source := c :: r.source }
  match r.state with
  | .between => r.readBetween c
  | .text run =>
    if c = '<' || c = '&' || c.toNat = 0 then (r.emit (.text run.reverse)).readBetween c
    else r.goto (.text (c :: run))
  | .space run =>
    if isSpace c then r.goto (.space (c :: run))
    else (r.emit (.space run.reverse)).readBetween c
  | .opened =>
    if c = '!' then r.goto (.declaration [])
    else if c = '/' then r.goto .closing
    else if c.isAlpha then r.goto (.tag (Tag.named false [c]) .name)
    else if c = '>' then (r.emit (.text ['<', '>'])).goto .between
    else if c = '?' then r.goto .remark
    else (r.emit (.text ['<'])).readBetween c
  | .closing =>
    if c.isAlpha then r.goto (.tag (Tag.named true [c]) .name)
    else if c = '>' then r.goto .between
    else r.goto (.closingRemark [c])
  | .declaration taken => r.readDeclaration taken c
  | .doctype => if c = '>' then r.goto .between else r
  | .quotation quoted => r.readQuotation quoted c
  | .comment place =>
    match place.read c with
    | some place => r.goto (.comment place)
    | none => (r.emit .comment).goto .between
  | .remark => r.readRemark c
  | .closingRemark content =>
    if c = '>' then (r.finishClosingRemark policy content).goto .between
    else r.goto (.closingRemark (c :: content))
  | .tag t place => r.readTag policy t place c
  | .content element held => r.readContent element held c
  | .everything => r.emit (.text [shown c])

/-- Goes on after a tag the way that its element is read. -/
def follow (r : Reader) : Reading → Reader
  | .markup => r
  | .content element => r.goto (.content element [])
  | .everything => r.goto .everything

@[simp] theorem follow_markup (r : Reader) : r.follow .markup = r := rfl

/-- Ends the text. -/
def finish (policy : TagPolicy) (r : Reader) : Reader :=
  match r.state with
  | .between | .doctype | .everything => r
  | .text run => r.emit (.text run.reverse)
  | .space run => r.emit (.space run.reverse)
  | .quotation quoted => r.emitQuotation quoted
  | .opened => r.emit (.text ['<'])
  | .closing => r.emit (.text ['<', '/'])
  | .declaration _ | .comment _ | .remark => r.emit .comment
  | .closingRemark content => r.finishClosingRemark policy content
  | .tag _ place => if place.showsUnfinished then r.emitSource else r
  | .content _ held => if held.isEmpty then r else r.emit (.text held.reverse)

end Reader

end FieldRules.Markup
