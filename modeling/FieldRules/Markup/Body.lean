import FieldRules.Markup.Dialect
import FieldRules.Markup.Formatting

/-!
# Tags in the body of a page

Tags seldom nest as they should. A closing tag closes what is open inside its element, and an
opening tag closes what its element cannot stand in.
-/

namespace FieldRules.Markup

/-! ## Kinds of elements -/

/-- Elements that format the text in them. -/
def formattingElements : List String :=
  ["b", "big", "code", "em", "font", "i", "s", "small", "strike", "strong", "tt", "u"]

/-- Headings. -/
def headingElements : List String := ["h1", "h2", "h3", "h4", "h5", "h6"]

/-- Elements that stand outside of paragraphs. -/
def outerElements : List String :=
  ["address", "article", "aside", "blockquote", "center", "details", "dir", "div", "dl",
   "fieldset", "figcaption", "figure", "footer", "header", "hgroup", "main", "menu", "nav", "ol",
   "p", "section", "summary", "ul"]

/-- Elements closed by their own closing tag together with all that is open in them. -/
def closedElements : List String :=
  ["address", "article", "aside", "blockquote", "button", "center", "details", "dialog", "dir",
   "div", "dl", "fieldset", "figcaption", "figure", "footer", "header", "hgroup", "listing",
   "main", "menu", "nav", "ol", "pre", "section", "summary", "ul"]

/-- Elements that hold nothing and count as text. -/
def inlineVoidElements : List String :=
  ["area", "br", "embed", "img", "keygen", "wbr", "input"]

/-- Elements that hold nothing and are no text. -/
def plainVoidElements : List String :=
  ["base", "basefont", "bgsound", "command", "link", "meta", "param", "source", "track"]

/-- Elements that hold text only, wherever they stand. -/
def plainElements : List String :=
  ["script", "style", "title", "iframe", "noembed", "noframes", "noscript"]

/-- Tags that mean nothing inside of a text. -/
def misplacedTags : List String :=
  ["html", "body", "frameset", "caption", "col", "colgroup", "frame", "head", "tbody", "td",
   "tfoot", "th", "thead", "tr"]

/-- Elements that shut out the formatting around them. -/
def enclosingElements : List String := ["applet", "marquee", "object"]

namespace Tree

/-! ## Closing tags -/

/-- Closes a paragraph; where none is open, an empty one stands for it. -/
def closeParagraph (t : Tree) : Tree :=
  let t := if t.inScope .button "p" then t else t.openElement "p" []
  (t.popImplied "p").popName "p"

/-- Ends the paragraph that is open, if one is. -/
def endParagraph (t : Tree) : Tree := if t.inScope .button "p" then t.closeParagraph else t

/-- Closes an item of a list. -/
def closeItem (t : Tree) (name : String) : Tree :=
  if t.inScope (if name = "li" then .list else .element) name then
    (t.popImplied name).popName name
  else t

/-- Closes a heading of any rank. -/
def closeHeading (t : Tree) : Tree :=
  if headingElements.any (t.inScope .element) then
    let t := t.popImplied ""
    if headingElements.any (t.inScope .element) then
      t.popThrough (t.nameOf · ∈ headingElements)
    else t
  else t

/-- Closes the form that is open. -/
def closeForm (t : Tree) : Tree :=
  match t.form with
  | none => t
  | some id =>
    let t := { t with form := none }
    if t.reaches .element (· = id) then
      let t := t.popImplied ""
      { t with opened := t.opened.erase id }
    else t

/-- Closes an element that shuts out the formatting around it. -/
def closeEnclosing (t : Tree) (name : String) : Tree :=
  if t.inScope .element name then
    let t := t.popImplied ""
    if t.inScope .element name then (t.popName name).clearFormatting else t
  else t

/-- Reads a closing tag in the body. -/
def closeInBody (t : Tree) (name : String) : Tree :=
  if name = "html" || name = "body" then t
  else if name ∈ closedElements then
    let t := if name = "pre" then { t with skipsLineFeed := false } else t
    if t.inScope .element name then (t.popImplied "").popName name else t
  else if name = "form" then t.closeForm
  else if name = "p" then t.closeParagraph
  else if name = "dd" || name = "dt" || name = "li" then t.closeItem name
  else if name ∈ headingElements then t.closeHeading
  else if name ∈ formattingElements || name = "a" || name = "nobr" then t.closeFormatting 8 name
  else if name ∈ enclosingElements then t.closeEnclosing name
  else if name = "br" then t.reopenFormatting.addVoid name []
  else t.closeOther name

/-- Closes an element as its closing tag would where the opening tag has been read. Between the rows
    of a table that ends the fostering. -/
def closeBefore (t : Tree) (name : String) : Tree :=
  let t := t.closeInBody name
  if t.isBetweenRows then { t with fosters := false } else t

/-! ## Opening tags -/

/-- Opens an item of a list, after the item before it. -/
def openItem (t : Tree) (name : String) (attributes : Entries String) : Tree :=
  let siblings := if name = "li" then ["li"] else ["dt", "dd"]
  let isLimit (id : Nat) : Bool := t.isSpecial id && t.nameOf id ∉ ["address", "div", "p"]
  let t :=
    match t.opened.find? fun id => t.nameOf id ∈ siblings || isLimit id with
    | some id => if t.nameOf id ∈ siblings then t.closeBefore (t.nameOf id) else t
    | none => t
  let t := if t.inScope .button "p" then t.closeBefore "p" else t
  t.openElement name attributes

/-- Opens a link; links do not nest. -/
def openLink (t : Tree) (attributes : Entries String) : Tree :=
  let t :=
    match t.formattingNamed "a" with
    | none => t
    | some id =>
      let t := t.closeFormatting 8 "a"
      { t with opened := t.opened.erase id, formatting := t.formatting.erase (some id) }
  t.reopenFormatting.addFormatting "a" attributes

/-- Opens a form, unless one is open. -/
def openForm (t : Tree) (attributes : Entries String) : Tree :=
  if t.form.isSome then t
  else
    let t := t.endParagraph.openElement "form" attributes
    { t with form := some t.current }

/-- What is asked where a search does not say so itself. -/
def searchPrompt : String := "This is a searchable index. Enter search keywords: "

/-- Adds a search: a form between lines, with a prompt and a field. -/
def addSearch (t : Tree) (attributes : Entries String) : Tree :=
  if t.form.isSome then t
  else
    let own := attributes.filter fun a => a.1 ≠ "action" && a.1 ≠ "prompt"
    let t := t.openForm (attributes.filter (·.1 = "action"))
    let t := (t.endParagraph.addVoid "hr" []).reopenFormatting.openElement "label" []
    let t := t.reopenFormatting.addText ((attributes.get? "prompt").getD searchPrompt).toList
    let t := t.reopenFormatting.addVoid "input" (Entries.put own "name" "isindex")
    ((t.closeInBody "label").endParagraph.addVoid "hr" []).closeForm

/-- Opens a list of choices. -/
def openSelect (t : Tree) (attributes : Entries String) : Tree :=
  let t := t.reopenFormatting.openElement "select" attributes
  let isInTable := t.isBetweenRows || t.mode ∈ [.caption, .columnGroup, .cell]
  t.goto (if isInTable then .selectInTable else .select)

/-- Opens the first element of a drawing or a formula. -/
def openDialect (t : Tree) (dialect : Dialect) (tag : StartTag) : Tree :=
  let t := t.reopenFormatting.openIn dialect tag.name (properAttributes dialect tag.attributes)
  if tag.empty then t.pop else t

/-- Reads an opening tag in the body. A button inside of a button ends the one around it, and then
    its tag is read again. -/
def openInBody (t : Tree) (tag : StartTag) : Turn :=
  let name := tag.name
  let attributes := tag.attributes
  if name = "button" && t.inScope .element name then .again (t.closeInBody name)
  else .done <|
  if name ∈ misplacedTags then t
  else if name ∈ outerElements then t.endParagraph.openElement name attributes
  else if name = "table" then (t.endParagraph.openElement name attributes).goto .table
  else if name = "plaintext" then
    { t.endParagraph.openElement name attributes with reading := .everything }
  else if name ∈ plainVoidElements then t.addVoid name attributes
  else if name ∈ plainElements then t.openPlain name attributes
  else if name = "xmp" then t.endParagraph.reopenFormatting.openPlain name attributes
  else if name = "textarea" then
    { t.openElement name attributes with skipsLineFeed := true, reading := .content name }
  else if name ∈ headingElements then
    let t := t.endParagraph
    (if t.currentName ∈ headingElements then t.pop else t).openElement name attributes
  else if name = "pre" || name = "listing" then
    { t.endParagraph.openElement name attributes with skipsLineFeed := true }
  else if name = "form" then t.openForm attributes
  else if name = "isindex" then t.addSearch attributes
  else if name = "li" || name = "dd" || name = "dt" then t.openItem name attributes
  else if name = "a" then t.openLink attributes
  else if name ∈ formattingElements then t.reopenFormatting.addFormatting name attributes
  else if name = "nobr" then
    let t := t.reopenFormatting
    let t := if t.inScope .element name then (t.closeInBody name).reopenFormatting else t
    t.addFormatting name attributes
  else if name ∈ enclosingElements then
    (t.reopenFormatting.openElement name attributes).markFormatting
  else if name ∈ inlineVoidElements then t.reopenFormatting.addVoid name attributes
  else if name = "image" then t.reopenFormatting.addVoid "img" attributes
  else if name = "hr" then t.endParagraph.addVoid name attributes
  else if name = "select" then t.openSelect attributes
  else if name = "rp" || name = "rt" then
    (if t.inScope .element "ruby" then t.popImplied "" else t).openElement name attributes
  else if name = "option" || name = "optgroup" then
    let t := if t.currentName = "option" then t.closeBefore "option" else t
    t.reopenFormatting.openElement name attributes
  else if name = "svg" then t.openDialect .svg tag
  else if name = "math" then t.openDialect .math tag
  else t.reopenFormatting.openElement name attributes

/-! ## Text -/

/-- Adds text in the body. -/
def addTextInBody (t : Tree) (run : List Char) : Tree := t.reopenFormatting.addText run

/-- Adds spaces in the body; the first line feed of preformatted text is skipped. -/
def addSpacesInBody (t : Tree) (run : List Char) : Tree :=
  let skips := t.skipsLineFeed && t.currentName ∈ ["pre", "listing", "textarea"] &&
    (t.node t.current).contents.isEmpty && run.head? = some '\n'
  let t := { t with skipsLineFeed := false }
  let run := if skips then run.tail else run
  if run.isEmpty then t else t.addTextInBody run

end Tree

end FieldRules.Markup
