import FieldRules.Markup.Select

/-!
# Drawings and formulas

Elements of drawings and formulas nest as they are written. Some of them hold what a page holds, and
a tag that can only be one of a page ends the drawing or formula around it.
-/

namespace FieldRules.Markup.Tree

/-- Whether an element of a formula holds text. -/
def holdsFormulaText (t : Tree) (id : Nat) : Bool :=
  t.dialectOf id = .math && t.nameOf id ∈ formulaTextElements

/-- Whether an element that is not one of a page holds what a page holds. -/
def holdsPage (t : Tree) (id : Nat) : Bool :=
  match t.dialectOf id with
  | .html => false
  | .svg => t.nameOf id ∈ drawingTextElements
  | .math =>
    t.nameOf id = "annotation-xml" &&
      (((t.node id).attributes.get? "encoding").map lowerName).any
        (· ∈ ["text/html", "application/xhtml+xml"])

/-- Whether an element is part of a drawing or a formula and does not hold what a page holds. -/
def isForeign (t : Tree) (id : Nat) : Bool :=
  t.dialectOf id ≠ .html && !t.holdsPage id && !t.holdsFormulaText id

/-- Whether an opening tag that comes next is part of a drawing or a formula. -/
def takesTag (t : Tree) (tag : StartTag) : Bool :=
  if t.holdsFormulaText t.current then tag.name = "mglyph" || tag.name = "malignmark"
  else if t.dialectOf t.current = .math && t.currentName = "annotation-xml" && tag.name = "svg" then
    false
  else t.isForeign t.current

/-- Reads an opening tag in a drawing or a formula. -/
def openInForeign (t : Tree) (tag : StartTag) : Turn :=
  if tag.isOfPage then
    .again { t with opened := t.opened.dropWhile t.isForeign }
  else
    let dialect := t.dialectOf t.current
    let tag := tag.within dialect
    let t := t.openIn dialect tag.name tag.attributes
    .done (if tag.empty then t.pop else t)

/-- Reads a closing tag in a drawing or a formula: it closes an element of this name, or else it
    closes what it would close around the drawing or formula. -/
def closeInForeign (t : Tree) (name : String) (closeAround : Tree → Turn) : Turn :=
  let isFound (id : Nat) : Bool := lowerName (t.nameOf id) = name
  let inner := t.opened.takeWhile fun id => t.dialectOf id ≠ .html
  match inner.find? isFound with
  | some id => .done (t.popThrough (· = id))
  | none => closeAround t

end FieldRules.Markup.Tree
