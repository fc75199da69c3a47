import FieldRules.Markup.Table

/-!
# Tags in a list of choices

A list of choices holds options and groups of options. Other tags are left out, but a tag that
stands for a field of a form or for a part of the table around the list ends the list.
-/

namespace FieldRules.Markup.Tree

/-- Whether the innermost list of choices is open, with nothing but options in it. -/
def isInSelect (t : Tree) : Bool :=
  match t.opened.find? fun id => !(t.isPage id "option" || t.isPage id "optgroup") with
  | some id => t.isPage id "select"
  | none => false

/-- Ends the list of choices that is open. -/
def endSelect (t : Tree) : Tree := if t.isInSelect then (t.popName "select").resetMode else t

/-- Closes the innermost open element if it has a certain name. -/
def popIf (t : Tree) (name : String) : Tree := if t.currentName = name then t.pop else t

/-- Reads an opening tag in a list of choices. -/
def openInSelect (t : Tree) (tag : StartTag) : Turn :=
  let name := tag.name
  if name = "input" || name = "keygen" || name = "textarea" then t.againIf t.isInSelect endSelect
  else .done <|
  if name = "option" then (t.popIf "option").openElement name tag.attributes
  else if name = "optgroup" then
    ((t.popIf "option").popIf "optgroup").openElement name tag.attributes
  else if name = "select" then t.endSelect
  else if name = "script" then t.openPlain name tag.attributes
  else t

/-- Reads a closing tag in a list of choices. -/
def closeInSelect (t : Tree) (name : String) : Turn :=
  .done <|
  if name = "option" then t.popIf name
  else if name = "optgroup" then
    let isInGroup := (t.opened.tail.head?.map t.nameOf) = some name
    (if isInGroup then t.popIf "option" else t).popIf name
  else if name = "select" then t.endSelect
  else t

/-- The tags that end a list of choices in a table. -/
def tableTags : List String := ["caption", "table", "tbody", "tfoot", "thead", "tr", "td", "th"]

/-- Reads an opening tag in a list of choices in a table. -/
def openInTableSelect (t : Tree) (tag : StartTag) : Turn :=
  if tag.name ∈ tableTags then .again t.endSelect else t.openInSelect tag

/-- Reads a closing tag in a list of choices in a table. -/
def closeInTableSelect (t : Tree) (name : String) : Turn :=
  if name ∈ tableTags then t.againIf (t.isOpenInTable name) endSelect else t.closeInSelect name

end FieldRules.Markup.Tree
