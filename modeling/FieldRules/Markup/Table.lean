import FieldRules.Markup.Body

/-!
# Tags in a table

A table holds captions, groups of columns and groups of rows, and a row holds cells. A tag that
stands where its element cannot stand first opens or closes what is missing, and then it is read
again; every other tag is read as in the body, with its element put before the table.
-/

namespace FieldRules.Markup.Tree

/-! ## Parts of a table -/

/-- The tags of the parts of a table. -/
def partTags : List String :=
  ["caption", "col", "colgroup", "tbody", "td", "tfoot", "th", "thead", "tr"]

/-- Groups of rows. -/
def groupElements : List String := ["tbody", "tfoot", "thead"]

/-- Reads something as in the body, with what the table cannot hold put before it. -/
def misplaced (t : Tree) (read : Tree → Tree) : Tree :=
  { read { t with fosters := true } with fosters := false }

/-- Opens a part of the table after all that is open in the table. -/
def openPart (t : Tree) (around : List String) (tag : StartTag) (mode : Mode) : Tree :=
  ((t.popTo around).openElement tag.name tag.attributes).goto mode

/-- Opens a part of the table for which there is no tag. -/
def openMissing (t : Tree) (around : List String) (name : String) (mode : Mode) : Tree :=
  t.openPart around ⟨name, [], false⟩ mode

/-- Opens a cell; formatting does not reach into it. -/
def openCell (t : Tree) (tag : StartTag) : Tree := (t.openPart ["tr"] tag .cell).markFormatting

/-- Opens a caption; formatting does not reach into it. -/
def openCaption (t : Tree) (tag : StartTag) : Tree :=
  t.popTo ["table"] |>.markFormatting |>.openPart ["table"] tag .caption

/-- Whether an element of the innermost table is open. -/
def isOpenInTable (t : Tree) (name : String) : Bool := t.inScope .table name

/-- Ends the group of rows that is open. -/
def endGroup (t : Tree) : Tree := (t.popTo groupElements).pop.goto .table

/-- Ends the row that is open. -/
def endRow (t : Tree) : Tree := (t.popTo ["tr"]).pop.goto .tableBody

/-- Ends a cell. -/
def endCell (t : Tree) (name : String) : Tree :=
  ((t.popImplied name).popName name).clearFormatting.goto .row

/-- Ends the cell that is open, if one is. -/
def endAnyCell (t : Tree) : Tree :=
  if t.isOpenInTable "td" then t.endCell "td"
  else if t.isOpenInTable "th" then t.endCell "th"
  else t

/-- Ends the caption that is open. -/
def endCaption (t : Tree) : Tree :=
  ((t.popImplied "").popName "caption").clearFormatting.goto .table

/-- Ends a group of columns. -/
def endColumns (t : Tree) : Tree := t.pop.goto .table

/-- Reads a tag again after a change, or not at all where there is nothing to change. -/
def againIf (t : Tree) (condition : Bool) (change : Tree → Tree) : Turn :=
  if condition then .again (change t) else .done t

/-! ## Closing tags -/

/-- Reads a closing tag in a table. -/
def closeInTable (t : Tree) (name : String) : Turn :=
  if name = "table" then
    .done (if t.isOpenInTable name then ((t.popImplied "").popName name).resetMode else t)
  else if name = "html" || name = "body" || name ∈ partTags then .done t
  else .done (t.misplaced (·.closeInBody name))

/-- Reads a closing tag in a group of rows. -/
def closeInTableBody (t : Tree) (name : String) : Turn :=
  if name ∈ groupElements then .done (if t.isOpenInTable name then t.endGroup else t)
  else if name = "table" then t.againIf (groupElements.any t.isOpenInTable) endGroup
  else t.closeInTable name

/-- Reads a closing tag in a row. -/
def closeInRow (t : Tree) (name : String) : Turn :=
  let endOpenRow (t : Tree) : Tree := if t.isOpenInTable "tr" then t.endRow else t
  if name = "tr" then .done (endOpenRow t)
  else if name = "table" then t.againIf (t.isOpenInTable "tr") endRow
  else if name ∈ groupElements then t.againIf (t.isOpenInTable name) endOpenRow
  else t.closeInTable name

/-- Reads a closing tag in a cell. -/
def closeInCell (t : Tree) (name : String) : Turn :=
  if name = "td" || name = "th" then .done (if t.isOpenInTable name then t.endCell name else t)
  else if name ∈ rowElements then t.againIf (t.isOpenInTable name) endAnyCell
  else if name = "html" || name = "body" || name ∈ partTags then .done t
  else .done (t.closeInBody name)

/-- Reads a closing tag in a caption. -/
def closeInCaption (t : Tree) (name : String) : Turn :=
  if name = "caption" then .done (if t.isOpenInTable name then t.endCaption else t)
  else if name = "table" then t.againIf (t.isOpenInTable "caption") endCaption
  else if name = "html" || name = "body" || name ∈ partTags then .done t
  else .done (t.closeInBody name)

/-- Reads a closing tag in a group of columns. -/
def closeInColumns (t : Tree) (name : String) : Turn :=
  if name = "colgroup" then .done t.endColumns
  else if name = "col" then .done t
  else .again t.endColumns

/-! ## Opening tags -/

/-- Adds a field to a table: a hidden one as it is, another one before the table. -/
def addField (t : Tree) (tag : StartTag) : Tree :=
  let kind := (tag.attributes.get? "type").map fun kind => kind.toList.map lowerAscii
  if kind = some "hidden".toList then t.addVoid tag.name tag.attributes
  else t.misplaced fun t => (t.openInBody tag).tree

/-- Adds a form to a table, which holds nothing. -/
def addForm (t : Tree) (attributes : Entries String) : Tree :=
  if t.form.isSome then t
  else
    let t := t.openElement "form" attributes
    { t.pop with form := some t.current }

/-- Reads an opening tag in a table; `endTable` is how the table is closed from where the tag
    stands. A table inside of a table only closes the one around it. -/
def openInTable (t : Tree) (tag : StartTag) (endTable : Tree → Turn) : Turn :=
  let name := tag.name
  if name = "col" then .again (t.openMissing ["table"] "colgroup" .columnGroup)
  else if name = "td" || name = "th" || name = "tr" then
    .again (t.openMissing ["table"] "tbody" .tableBody)
  else .done <|
  if name = "html" then t
  else if name = "caption" then t.openCaption tag
  else if name = "colgroup" then t.openPart ["table"] tag .columnGroup
  else if name ∈ groupElements then t.openPart ["table"] tag .tableBody
  else if name = "table" then (endTable t).tree
  else if name = "style" || name = "script" then t.openPlain name tag.attributes
  else if name = "input" then t.addField tag
  else if name = "form" then t.addForm tag.attributes
  else t.misplaced fun t => (t.openInBody tag).tree

/-- Reads an opening tag in a group of rows. -/
def openInTableBody (t : Tree) (tag : StartTag) : Turn :=
  let name := tag.name
  if name = "tr" then .done (t.openPart groupElements tag .row)
  else if name = "td" || name = "th" then .again (t.openMissing groupElements "tr" .row)
  else if name ∈ partTags then t.againIf (groupElements.any t.isOpenInTable) endGroup
  else t.openInTable tag (closeInTableBody · "table")

/-- Reads an opening tag in a row. -/
def openInRow (t : Tree) (tag : StartTag) : Turn :=
  let name := tag.name
  if name = "td" || name = "th" then .done (t.openCell tag)
  else if name ∈ partTags then t.againIf (t.isOpenInTable "tr") endRow
  else t.openInTable tag (closeInRow · "table")

/-- Reads an opening tag in a cell. -/
def openInCell (t : Tree) (tag : StartTag) : Turn :=
  if tag.name ∈ partTags then
    t.againIf (t.isOpenInTable "td" || t.isOpenInTable "th") endAnyCell
  else t.openInBody tag

/-- Reads an opening tag in a caption. -/
def openInCaption (t : Tree) (tag : StartTag) : Turn :=
  if tag.name ∈ partTags then t.againIf (t.isOpenInTable "caption") endCaption
  else t.openInBody tag

/-- Reads an opening tag in a group of columns. -/
def openInColumns (t : Tree) (tag : StartTag) : Turn :=
  if tag.name = "html" then .done t
  else if tag.name = "col" then .done (t.addVoid tag.name tag.attributes)
  else .again t.endColumns

/-! ## Text between the rows -/

/-- Keeps text that stands between the rows of a table until the next tag. -/
def holdText (t : Tree) (run : List Char) : Tree :=
  { t with between := some (run.reverse ++ t.between.getD []) }

/-- Adds the text that has been kept: spaces to the table, other text before it. -/
def releaseText (t : Tree) : Tree :=
  match t.between with
  | none => t
  | some kept =>
    let run := kept.reverse
    let t := { t with between := none }
    if run.all isSpace then t.addText run else t.misplaced (·.addTextInBody run)

end FieldRules.Markup.Tree
