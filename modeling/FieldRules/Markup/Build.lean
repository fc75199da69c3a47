import FieldRules.Markup.Foreign

/-!
# The tree that a text makes

A text is read and its tree is built in step: how the text after a tag is read depends on the
element that the tag has opened.
-/

namespace FieldRules.Markup

namespace Tree

/-! ## Tags -/

/-- Reads an opening tag in the mode of the tree. Text alone has no opening tags. -/
def openOnce (t : Tree) (tag : StartTag) : Turn :=
  if t.takesTag tag then t.openInForeign tag
  else
    match t.mode with
    | .body => t.openInBody tag
    | .plain => .done t
    | .table => t.openInTable tag (closeInTable · "table")
    | .caption => t.openInCaption tag
    | .columnGroup => t.openInColumns tag
    | .tableBody => t.openInTableBody tag
    | .row => t.openInRow tag
    | .cell => t.openInCell tag
    | .select => t.openInSelect tag
    | .selectInTable => t.openInTableSelect tag

/-- Reads a closing tag in the mode of the tree. -/
def closeInMode (t : Tree) (name : String) : Turn :=
  match t.mode with
  | .body => .done (t.closeInBody name)
  | .plain => .done (t.pop.goto t.resume)
  | .table => t.closeInTable name
  | .caption => t.closeInCaption name
  | .columnGroup => t.closeInColumns name
  | .tableBody => t.closeInTableBody name
  | .row => t.closeInRow name
  | .cell => t.closeInCell name
  | .select => t.closeInSelect name
  | .selectInTable => t.closeInTableSelect name

/-- Reads a closing tag once. -/
def closeOnce (t : Tree) (name : String) : Turn :=
  if t.dialectOf t.current = .html then t.closeInMode name
  else t.closeInForeign name (closeInMode · name)

/-- Reads a tag until it is dealt with, at most so many times. -/
def readUntilDone (turns : Nat) (turn : Tree → Turn) (t : Tree) : Tree :=
  match turns with
  | 0 => t
  | turns + 1 =>
    match turn t with
    | .done t => t
    | .again t => readUntilDone turns turn t

/-- How often a tag is read. Each time but the last it closes an element, or it opens one of the
    three that lead from a table to a cell. -/
def turnsAtMost (t : Tree) : Nat := 2 * t.opened.length + 4

/-! ## Text -/

/-- Reads text. Between the rows of a table it is kept until the next tag. -/
def readText (t : Tree) (run : List Char) : Tree :=
  if t.isForeign t.current then t.addText run
  else
    match t.mode with
    | .body | .caption | .cell => t.addTextInBody run
    | .plain | .select | .selectInTable => t.addText run
    | .columnGroup => t.endColumns.holdText run
    | .table | .tableBody | .row => t.holdText run

/-- Reads spaces. -/
def readSpaces (t : Tree) (run : List Char) : Tree :=
  if t.isForeign t.current then t.addText run
  else if t.mode = .body then t.addSpacesInBody run
  else if t.isBetweenRows then t.holdText run
  else t.addText run

/-- Reads a character that a text cannot hold. -/
def readNull (t : Tree) : Tree :=
  if t.isForeign t.current then t.addText ['\uFFFD']
  else if t.mode = .columnGroup then t.endColumns.holdText []
  else t

/-! ## Building -/

/-- Reads one token. -/
def read (t : Tree) (token : Token) : Tree :=
  match token with
  | .text run => if t.between.isSome then t.holdText run else t.readText run
  | .space run => if t.between.isSome then t.holdText run else t.readSpaces run
  | .null => if t.between.isSome then t else t.readNull
  | .start tag =>
    let t := t.releaseText
    readUntilDone t.turnsAtMost (·.openOnce tag) t
  | .finish name =>
    let t := t.releaseText
    readUntilDone t.turnsAtMost (·.closeOnce name) t
  | .comment => t.releaseText.addComment

end Tree

/-- A reader and the tree of what it has read. -/
structure Builder where
  reader : Reader
  tree : Tree

namespace Builder

/-- Gives the tokens that the reader has handed out to the tree. -/
def settle : Builder → Builder
  | ⟨⟨state, sawTag, _, source, tokens⟩, tree⟩ =>
    let tree := tokens.reverse.foldl Tree.read tree
    let quotes := tree.dialectOf tree.current ≠ .html
    let reader : Reader := ⟨state, sawTag, quotes, source, []⟩
    ⟨reader.follow tree.reading, { tree with reading := .markup }⟩

/-- Reads one character. -/
def read (policy : TagPolicy) : Builder → Char → Builder
  | ⟨reader, tree⟩, c =>
    let reader := reader.read policy c
    if reader.tokens.isEmpty then ⟨reader, tree⟩ else settle ⟨reader, tree⟩

/-- Ends the text. -/
def finish (policy : TagPolicy) (b : Builder) : Tree :=
  (settle ⟨b.reader.finish policy, b.tree⟩).tree.releaseText

end Builder

/-- The tree of a text. -/
def Tree.ofText (policy : TagPolicy) (s : List Char) : Tree :=
  ((unifyLines s).foldl (Builder.read policy) ⟨Reader.start, Tree.start⟩).finish policy

end FieldRules.Markup
