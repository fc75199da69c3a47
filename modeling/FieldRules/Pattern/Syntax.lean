/-!
# Pattern syntax

The tree of a search pattern: characters and sets of them, anchors, groups, alternatives, repeats,
conditions on what stands around a place, and references to what a group has matched.
-/

namespace FieldRules.Pattern

/-- How a part of a pattern compares characters. -/
structure Flags where
  /-- Letters match whatever their case. -/
  ignoreCase : Bool := false
  /-- Line ends are places where `^` and `$` match. -/
  multiline : Bool := false
  /-- The dot matches a line end too. -/
  dotAll : Bool := false
  /-- Blanks and comments of the pattern are skipped. -/
  verbose : Bool := false
  /-- Classes and letter case are those of ASCII. -/
  ascii : Bool := false
  /-- Classes and letter case of all scripts are asked for by name. -/
  unicode : Bool := false
  /-- Repeats are refused. -/
  template : Bool := false
  deriving DecidableEq, Repr

/-- Classes of characters that have an escape of their own. -/
inductive Class where
  | digit
  | space
  | word
  deriving DecidableEq, Repr

/-- A member of a set; characters are given by code point. -/
inductive Member where
  | one (code : Nat)
  | range (first last : Nat)
  | ofClass (kind : Class) (negated : Bool)
  deriving DecidableEq, Repr

/-- A condition on a place. -/
inductive Anchor where
  | lineStart
  | lineEnd
  | textStart
  | textEnd
  | wordEdge
  | noWordEdge
  deriving DecidableEq, Repr

/-- Which number of repetitions is tried first, and whether others are tried at all. -/
inductive Greed where
  | greedy
  | lazy
  | possessive
  deriving DecidableEq, Repr

/-- A part of a pattern; a sequence of parts is a list. -/
inductive Node where
  | literal (negated : Bool) (code : Nat)
  | set (negated : Bool) (members : List Member)
  | any
  | anchor (place : Anchor)
  | group (index : Option Nat) (on off : Flags) (body : List Node)
  | branch (alternatives : List (List Node))
  | repeated (least : Nat) (most : Option Nat) (greed : Greed) (body : List Node)
  /-- A condition on what follows or, looking back, on what ends here; `back` is the number of
      characters to go back. -/
  | look (ahead negated : Bool) (back : Nat) (body : List Node)
  | atomic (body : List Node)
  | reference (group : Nat)
  | conditional (group : Nat) (yes no : List Node)
  deriving Inhabited

/-- No flag. -/
def Flags.none : Flags := {}

/-- The flags inside a group that turns some on and some off. A choice of alphabet replaces the
    one that held before. -/
def Flags.within (flags on off : Flags) : Flags where
  ignoreCase := (flags.ignoreCase || on.ignoreCase) && !off.ignoreCase
  multiline := (flags.multiline || on.multiline) && !off.multiline
  dotAll := (flags.dotAll || on.dotAll) && !off.dotAll
  verbose := (flags.verbose || on.verbose) && !off.verbose
  ascii := if on.ascii || on.unicode then on.ascii else flags.ascii
  unicode := if on.ascii || on.unicode then on.unicode else flags.unicode
  template := flags.template || on.template

/-- Flags of either kind. -/
def Flags.union (a b : Flags) : Flags where
  ignoreCase := a.ignoreCase || b.ignoreCase
  multiline := a.multiline || b.multiline
  dotAll := a.dotAll || b.dotAll
  verbose := a.verbose || b.verbose
  ascii := a.ascii || b.ascii
  unicode := a.unicode || b.unicode
  template := a.template || b.template

/-! ## Width -/

/-- The least and the greatest number of characters that a part can match. -/
structure Width where
  least : Nat
  most : Nat
  deriving DecidableEq, Repr

/-- What stands for an unbounded width, and the greatest width that is told. -/
def unboundedWidth : Nat := 4294967295

/-- One part after another. -/
def Width.add (a b : Width) : Width := ⟨a.least + b.least, a.most + b.most⟩

/-- Either of two parts. -/
def Width.either (a b : Width) : Width := ⟨min a.least b.least, max a.most b.most⟩

/-- A part repeated. -/
def Width.times (a : Width) (least : Nat) (most : Option Nat) : Width where
  least := a.least * least
  most := a.most * most.getD unboundedWidth

/-- The width as it is told to the part around: no least width reaches the unbounded one. -/
def Width.told (a : Width) : Width := ⟨min a.least (unboundedWidth - 1), min a.most unboundedWidth⟩

mutual

/-- The width of a part, given the widths of the groups. -/
def Node.width (groups : Nat → Width) : Node → Width
  | .literal _ _ | .set _ _ | .any => ⟨1, 1⟩
  | .anchor _ | .look .. => ⟨0, 0⟩
  | .group _ _ _ body => (seqWidth groups body).told
  | .branch alternatives => anyWidth groups alternatives
  | .repeated least most _ body => (seqWidth groups body).told.times least most
  | .atomic body => (seqWidth groups body).told
  | .reference group => groups group
  | .conditional _ yes no => (seqWidth groups yes).told.either (seqWidth groups no).told

/-- The width of a sequence. -/
def seqWidth (groups : Nat → Width) : List Node → Width
  | [] => ⟨0, 0⟩
  | node :: rest => (node.width groups).add (seqWidth groups rest)

/-- The width of alternatives. -/
def anyWidth (groups : Nat → Width) : List (List Node) → Width
  | [] => ⟨0, 0⟩
  | [body] => (seqWidth groups body).told
  | body :: rest => (seqWidth groups body).told.either (anyWidth groups rest)

end

end FieldRules.Pattern

namespace FieldRules

/-- A pattern that can be searched for: a sequence of parts, the flags they are matched under and
    the number of groups. -/
structure Pattern where
  flags : Pattern.Flags
  body : List Pattern.Node
  groups : Nat

end FieldRules
