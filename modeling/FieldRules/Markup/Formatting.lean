import FieldRules.Markup.Tree

/-!
# Formatting that is cut off

Formatting that is still open when the element around it ends is opened again around what follows,
and a formatting element that is closed across a block is split, one part outside the block and one
part inside.
-/

namespace FieldRules.Markup.Tree

/-- Opens the formatting elements again that were cut off, the outermost first. -/
def reopenFormatting (t : Tree) : Tree :=
  let isCutOff : Option Nat → Bool
    | some id => id ∉ t.opened
    | none => false
  let cutOff := (t.formatting.takeWhile isCutOff).reverse.filterMap id
  let kept := t.formatting.dropWhile isCutOff
  cutOff.foldl (fun t id =>
      let e := t.node id
      let t' := t.openElement e.name e.attributes
      { t' with formatting := some t.elements.size :: t.formatting })
    { t with formatting := kept }

/-- Adds a formatting element; of more than three alike the oldest is given up. -/
def addFormatting (t : Tree) (name : String) (attributes : Entries String) : Tree :=
  let id := t.elements.size
  let t := t.openElement name attributes
  let alike (i : Nat) : Bool :=
    let e := t.node i
    e.name = name && e.attributes.length = attributes.length &&
      attributes.all fun a => e.attributes.get? a.1 = some a.2
  let near := (t.formatting.takeWhile Option.isSome).filterMap fun i => i
  let formatting :=
    match (near.filter alike)[2]? with
    | some oldest => t.formatting.erase (some oldest)
    | none => t.formatting
  { t with formatting := some id :: formatting }

/-- The latest formatting element of a name since the last mark. -/
def formattingNamed (t : Tree) (name : String) : Option Nat :=
  ((t.formatting.takeWhile Option.isSome).filterMap fun i => i).find? (t.nameOf · = name)

/-- Shuts out the formatting around what follows. -/
def markFormatting (t : Tree) : Tree := { t with formatting := none :: t.formatting }

/-- Gives up the formatting since the last mark. -/
def clearFormatting (t : Tree) : Tree :=
  { t with formatting := (t.formatting.dropWhile Option.isSome).tail }

/-- A list with an item written before the one that has `after` items behind it. -/
def insertWith {α : Type} (items : List α) (after : Nat) (item : α) : List α :=
  items.take after ++ item :: items.drop after

/-- A copy of an element that holds nothing and stands nowhere yet. -/
def makeCopy (t : Tree) (id : Nat) : Tree :=
  let e := t.node id
  t.make e.dialect e.name e.attributes

/-- The split of a formatting element across a block: moves the last part up through the elements
    that are open between the block and the formatting element, at most three of them. `mark` is
    the place of the new formatting element, counted from the oldest. -/
def splitBetween (formattingId block : Nat) (rounds : Nat) (t : Tree) (between : List Nat)
    (last mark : Nat) : Tree × Nat × Nat :=
  match rounds, between with
  | rounds + 1, node :: outer =>
    match t.formatting.idxOf? (some node) with
    | none =>
      splitBetween formattingId block rounds { t with opened := t.opened.erase node } outer
        last mark
    | some index =>
      if node = formattingId then (t, last, mark)
      else
        let mark := if last = block then t.formatting.length - index else mark
        let copy := t.elements.size
        let t := t.makeCopy node
        let t :=
          { t with
            formatting := t.formatting.map fun i => if i = some node then some copy else i
            opened := t.opened.map fun i => if i = node then copy else i }
        splitBetween formattingId block rounds ((t.detach last).attach copy last) outer copy mark
  | _, _ => (t, last, mark)

/-- Splits a formatting element at the outermost block inside of it. In a table the part that holds
    the block is put before the table. -/
def splitFormatting (t : Tree) (formattingId block : Nat) : Tree :=
  let outside := (t.opened.dropWhile (· ≠ formattingId)).tail.headD 0
  let mark := t.formatting.length - 1 - t.formatting.idxOf (some formattingId)
  let between := (t.opened.dropWhile (· ≠ block)).tail
  let (t, last, mark) := splitBetween formattingId block 3 t between block mark
  let t := t.detach last
  let t := if t.nameOf outside ∈ rowElements then t.attachGuest last else t.attach outside last
  let copy := t.elements.size
  let t := ((t.makeCopy formattingId).moveContents block copy).attach block copy
  let formatting := t.formatting.erase (some formattingId)
  let opened := t.opened.erase formattingId
  { t with
    formatting := insertWith formatting (formatting.length - mark) (some copy)
    opened := insertWith opened (opened.idxOf block) copy }

/-- Closes the innermost element of a name that no block hides. -/
def closeOther (t : Tree) (name : String) : Tree :=
  match t.opened.find? fun id => t.nameOf id = name || t.isSpecial id with
  | some id => if t.nameOf id = name then (t.popImplied name).popThrough (· = id) else t
  | none => t

/-- Closes the formatting elements of a name, at most eight rounds of splitting. -/
def closeFormatting (rounds : Nat) (t : Tree) (name : String) : Tree :=
  match rounds with
  | 0 => t
  | rounds + 1 =>
    match t.formattingNamed name with
    | none => t.closeOther name
    | some id =>
      if id ∉ t.opened then { t with formatting := t.formatting.erase (some id) }
      else if !t.inScope .element name then t.closeOther name
      else
        let inside := (t.opened.takeWhile (· ≠ id)).reverse
        match inside.find? t.isSpecial with
        | none =>
          let t := t.popThrough (· = id)
          { t with formatting := t.formatting.erase (some id) }
        | some block => closeFormatting rounds (t.splitFormatting id block) name

end FieldRules.Markup.Tree
