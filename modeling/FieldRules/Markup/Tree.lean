import FieldRules.Markup.Token

/-!
# The tree of a marked-up text

A tree under construction: its elements, those of them that are still open, and how the next piece
of the text is taken. A table holds rows only, so that what is written between its rows is put
before the table, as a guest of the element around it.

Results:
* `settled_text`, `settled_element`: content without guests stays as it is when it moves.
-/

namespace FieldRules.Markup

/-- The languages that elements are written in. -/
inductive Dialect where
  | html
  | svg
  | math
  deriving DecidableEq, Repr, Inhabited

/-- What an element holds; a text has its latest character first. A guest is an element that has
    been put before a table. -/
inductive Content where
  | text (run : List Char)
  | comment
  | element (id : Nat)
  | guest (id : Nat)
  deriving Repr

/-- An element: its language, name and attributes, the element it stands in, and what it holds, the
    latest first. -/
structure Element where
  dialect : Dialect
  name : String
  attributes : Entries String
  parent : Option Nat
  contents : List Content
  deriving Repr, Inhabited

/-- What the next tag is read as a part of. -/
inductive Mode where
  | body
  | plain
  | table
  | caption
  | columnGroup
  | tableBody
  | row
  | cell
  | select
  | selectInTable
  deriving DecidableEq, Repr

/-- A tree under construction. Element `0` is the root. `opened` has the elements that are not
    closed yet, the innermost first; `formatting` has the formatting elements to be opened again,
    the latest first, with a mark where an element shuts them out; `form` is the form that is open.
    An element of text alone is read in the mode `plain`, and then the tree goes on in the mode
    `resume`. While it `fosters`, what a table cannot hold is put before the table. `between` is the
    text since the latest tag, the latest character first, where that tag stood between the rows of
    a table. `reading` is how the text has to be read after the latest tag. -/
structure Tree where
  elements : Array Element
  opened : List Nat
  formatting : List (Option Nat)
  form : Option Nat
  skipsLineFeed : Bool
  mode : Mode
  resume : Mode
  fosters : Bool
  between : Option (List Char)
  reading : Reading

/-! ## Kinds of elements -/

/-- Elements that end the search for an element to close. -/
def specialElements : List String :=
  ["address", "applet", "area", "article", "aside", "base", "basefont", "bgsound", "blockquote",
   "body", "br", "button", "caption", "center", "col", "colgroup", "command", "dd", "details",
   "dir", "div", "dl", "dt", "embed", "fieldset", "figure", "footer", "form", "frame", "frameset",
   "h1", "h2", "h3", "h4", "h5", "h6", "head", "header", "hr", "html", "iframe", "image", "img",
   "input", "isindex", "li", "link", "listing", "marquee", "menu", "meta", "nav", "noembed",
   "noframes", "noscript", "object", "ol", "p", "param", "plaintext", "pre", "script", "section",
   "select", "style", "table", "tbody", "td", "textarea", "tfoot", "th", "thead", "title", "tr",
   "ul", "wbr", "xmp"]

/-- Elements that no closing tag inside them reaches out of. -/
def scopeElements : List String :=
  ["applet", "caption", "html", "marquee", "object", "table", "td", "th"]

/-- Elements of formulas that hold text. -/
def formulaTextElements : List String := ["mi", "mo", "mn", "ms", "mtext"]

/-- Elements of drawings that hold what a page holds. -/
def drawingTextElements : List String := ["foreignObject", "desc", "title"]

/-- Elements that are closed by the end of the element around them. -/
def impliedElements : List String := ["dd", "dt", "li", "option", "optgroup", "p", "rp", "rt"]

/-- Elements of a table that hold other such elements, but no text. -/
def rowElements : List String := ["table", "tbody", "tfoot", "thead", "tr"]

namespace Tree

/-- The root alone. -/
def start : Tree where
  elements := #[⟨.html, "html", [], none, []⟩]
  opened := [0]
  formatting := []
  form := none
  skipsLineFeed := false
  mode := .body
  resume := .body
  fosters := false
  between := none
  reading := .markup

/-- An element by its number. -/
def node (t : Tree) (id : Nat) : Element := t.elements.getD id default

/-- The name of an element. -/
def nameOf (t : Tree) (id : Nat) : String := (t.node id).name

/-- The language of an element. -/
def dialectOf (t : Tree) (id : Nat) : Dialect := (t.node id).dialect

/-- Whether an element is one of a page, with a certain name. -/
def isPage (t : Tree) (id : Nat) (name : String) : Bool :=
  t.dialectOf id = .html && t.nameOf id = name

/-- The innermost open element. -/
def current (t : Tree) : Nat := t.opened.headD 0

/-- The name of the innermost open element. -/
def currentName (t : Tree) : String := t.nameOf t.current

/-- Changes an element. -/
def edit (t : Tree) (id : Nat) (f : Element → Element) : Tree :=
  { t with elements := t.elements.modify id f }

/-- Goes on in another mode. -/
def goto (t : Tree) (mode : Mode) : Tree := { t with mode := mode }

/-- Whether an element ends the search for an element to close. -/
def isSpecial (t : Tree) (id : Nat) : Bool :=
  match t.dialectOf id with
  | .html => t.nameOf id ∈ specialElements
  | .svg => t.nameOf id = "foreignObject"
  | .math => false

/-! ## Closing -/

/-- Closes the innermost open element. -/
def pop (t : Tree) : Tree := { t with opened := t.opened.tail }

/-- Closes elements up to and with the innermost one of a kind. -/
def popThrough (t : Tree) (isLast : Nat → Bool) : Tree :=
  { t with opened := (t.opened.dropWhile fun id => !isLast id).tail }

/-- Closes elements up to and with the innermost one of a name. -/
def popName (t : Tree) (name : String) : Tree := t.popThrough (t.nameOf · = name)

/-- Closes elements down to the innermost one of some names, which stays open. -/
def popTo (t : Tree) (names : List String) : Tree :=
  { t with opened := t.opened.dropWhile fun id => t.nameOf id ∉ names && t.nameOf id ≠ "html" }

/-- Closes the open elements that need no closing tag, down to one of the name `except`. -/
def popImplied (t : Tree) (except : String) : Tree :=
  { t with
    opened := t.opened.dropWhile fun id =>
      t.nameOf id ∈ impliedElements && t.nameOf id ≠ except }

/-- How far a closing tag reaches: out of elements, but not out of a button, a list or a table. -/
inductive Scope where
  | element
  | button
  | list
  | table
  deriving DecidableEq, Repr

/-- Whether no closing tag inside of an element reaches out of it. -/
def isLimit (t : Tree) (scope : Scope) (id : Nat) : Bool :=
  let name := t.nameOf id
  match t.dialectOf id with
  | .html =>
    match scope with
    | .element => name ∈ scopeElements
    | .button => name = "button" || name ∈ scopeElements
    | .list => name = "ol" || name = "ul" || name ∈ scopeElements
    | .table => name = "html" || name = "table"
  | .svg => scope ≠ .table && name ∈ drawingTextElements
  | .math => scope ≠ .table && (name = "annotation-xml" || name ∈ formulaTextElements)

/-- Whether an element of a kind is open and can be closed from here. -/
def reaches (t : Tree) (scope : Scope) (isTarget : Nat → Bool) : Bool :=
  match t.opened.find? fun id => isTarget id || t.isLimit scope id with
  | some id => isTarget id
  | none => false

/-- Whether an element of a name is open and can be closed from here. -/
def inScope (t : Tree) (scope : Scope) (name : String) : Bool :=
  t.reaches scope (t.isPage · name)

/-! ## Adding content -/

/-- Some content with text after it, joined to the text before it. -/
def withText (run : List Char) : List Content → List Content
  | .text before :: rest => .text (run.reverse ++ before) :: rest
  | rest => .text run.reverse :: rest

/-- Changes the content before a table. -/
def editBefore (table : Nat) (f : List Content → List Content) : List Content → List Content
  | [] => f []
  | .element id :: rest =>
    if id = table then .element id :: f rest else .element id :: editBefore table f rest
  | c :: rest => c :: editBefore table f rest

/-- The innermost open table and the element around it. -/
def tableAround (t : Tree) : Option (Nat × Nat) :=
  (t.opened.find? (t.nameOf · = "table")).bind fun table =>
    (t.node table).parent.map fun parent => (table, parent)

/-- Whether what comes next is put before a table. -/
def putsBeforeTable (t : Tree) : Bool := t.fosters && t.currentName ∈ rowElements

/-- Changes the content where the next piece is put. -/
def editContents (t : Tree) (f : List Content → List Content) : Tree :=
  match if t.putsBeforeTable then t.tableAround else none with
  | some (table, parent) =>
    t.edit parent fun e => { e with contents := editBefore table f e.contents }
  | none => t.edit t.current fun e => { e with contents := f e.contents }

/-- Adds text. -/
def addText (t : Tree) (run : List Char) : Tree :=
  if run.isEmpty then t else t.editContents (withText run)

/-- Adds a comment to the innermost open element. -/
def addComment (t : Tree) : Tree :=
  t.edit t.current fun e => { e with contents := .comment :: e.contents }

/-- Makes an element that stands nowhere yet; its number is the number of elements before. -/
def make (t : Tree) (dialect : Dialect) (name : String) (attributes : Entries String) : Tree :=
  { t with elements := t.elements.push ⟨dialect, name, attributes, none, []⟩ }

/-- Takes an element out of the one it stands in. -/
def detach (t : Tree) (id : Nat) : Tree :=
  match (t.node id).parent with
  | none => t
  | some p =>
    (t.edit p fun e =>
      { e with
        contents := e.contents.filter fun
          | .element i => i ≠ id
          | _ => true }).edit id fun e => { e with parent := none }

/-- Puts an element last into another one. -/
def attach (t : Tree) (parent id : Nat) : Tree :=
  (t.edit parent fun e => { e with contents := .element id :: e.contents }).edit id
    fun e => { e with parent := some parent }

/-- Puts an element before the innermost open table. -/
def attachGuest (t : Tree) (id : Nat) : Tree :=
  match t.tableAround with
  | some (table, parent) =>
    (t.edit parent fun e =>
      { e with contents := editBefore table (.guest id :: ·) e.contents }).edit id
        fun e => { e with parent := some parent }
  | none => t.attach t.current id

/-- What stays of some content when it moves: guests do not, nor does the text right after one. -/
def settled : List Content → List Content
  | [] => []
  | .guest _ :: rest => settled rest
  | .text run :: rest =>
    match rest with
    | .guest _ :: _ => settled rest
    | _ => .text run :: settled rest
  | c :: rest => c :: settled rest

theorem settled_text (run : List Char) : settled [.text run] = [.text run] := rfl

theorem settled_element (id : Nat) (rest : List Content) :
    settled (.element id :: rest) = .element id :: settled rest := rfl

/-- Moves what an element holds into an empty one. -/
def moveContents (t : Tree) (source target : Nat) : Tree :=
  let moved := settled (t.node source).contents
  let t := (t.edit target fun e => { e with contents := moved }).edit source
    fun e => { e with contents := [] }
  moved.foldl (fun t c =>
    match c with
    | .element id => t.edit id fun e => { e with parent := some target }
    | _ => t) t

/-- Opens an element of a language. -/
def openIn (t : Tree) (dialect : Dialect) (name : String) (attributes : Entries String) : Tree :=
  let id := t.elements.size
  let guest := t.putsBeforeTable
  let t := t.make dialect name attributes
  let t := if guest then t.attachGuest id else t.attach t.current id
  { t with opened := id :: t.opened }

/-- Opens an element. -/
def openElement (t : Tree) (name : String) (attributes : Entries String) : Tree :=
  t.openIn .html name attributes

/-- Adds an element that holds nothing. -/
def addVoid (t : Tree) (name : String) (attributes : Entries String) : Tree :=
  (t.openElement name attributes).pop

/-- Opens an element that holds text only. -/
def openPlain (t : Tree) (name : String) (attributes : Entries String) : Tree :=
  { t.openElement name attributes with
    mode := .plain, resume := t.mode, reading := .content name }

/-! ## Modes -/

/-- The mode in which the content of an element is read, where it is not that of the body. -/
def modeOf? (name : String) : Option Mode :=
  if name = "select" then some .select
  else if name = "td" || name = "th" then some .cell
  else if name = "tr" then some .row
  else if name ∈ ["tbody", "thead", "tfoot"] then some .tableBody
  else if name = "caption" then some .caption
  else if name = "colgroup" then some .columnGroup
  else if name = "table" then some .table
  else none

/-- Goes on in the mode of the innermost open element that has one. -/
def resetMode (t : Tree) : Tree :=
  let modes := t.opened.filterMap fun id =>
    if t.dialectOf id = .html then modeOf? (t.nameOf id) else none
  t.goto (modes.headD .body)

/-- Whether the tree is between the rows or cells of a table. -/
def isBetweenRows (t : Tree) : Bool :=
  t.mode = .table || t.mode = .tableBody || t.mode = .row

end Tree

/-- What has become of a tag: it is dealt with, or it has to be read again in the mode that the tree
    is in now. -/
inductive Turn where
  | done (t : Tree)
  | again (t : Tree)

/-- The tree as it is now. -/
def Turn.tree : Turn → Tree
  | done t => t
  | again t => t

end FieldRules.Markup
