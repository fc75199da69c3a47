import FieldRules.Yaml.Lexer
import FieldRules.Yaml.Tag

/-!
# Nodes of a document

A document is one node: a scalar, a sequence or a mapping. A node may have a name, and stand again
where the name is told.
-/

namespace FieldRules.Yaml

/-- A node with its tag and the place where it begins. A node that is named inside of itself has no
    content there. -/
inductive Node where
  | scalar (tag : String) (text : String) (mark : Mark)
  | sequence (tag : String) (items : List Node) (mark : Mark)
  | mapping (tag : String) (entries : List (Node × Node)) (mark : Mark)
  | itself (mark : Mark)
  deriving Inhabited, Repr

/-- The place where a node begins. -/
def Node.mark : Node → Mark
  | scalar _ _ m | sequence _ _ m | mapping _ _ m | itself m => m

/-- The tag of a node. -/
def Node.tag : Node → String
  | scalar t _ _ | sequence t _ _ | mapping t _ _ => t
  | itself _ => ""

/-- The kind of a node in messages. -/
def Node.kind : Node → String
  | scalar _ _ _ => "scalar"
  | sequence _ _ _ | itself _ => "sequence"
  | mapping _ _ _ => "mapping"

/-- A reader of nodes: the tokens to come and the fault behind them, the handles of tags, and the
    named nodes with the places where they begin; a node that is still open has no content yet. -/
structure Composer where
  tokens : List Token
  fault : Option Fault
  handles : List (String × String)
  anchors : List (String × Mark × Option Node)

/-- Node-level reading. -/
abbrev Compose := StateT Composer (Except Fault)

namespace Compose

/-- The state. -/
def state : Compose Composer := get

/-- The next token. -/
def peek : Compose Token := do
  let s ← state
  match s.tokens, s.fault with
  | t :: _, _ => return t
  | [], some fault => throw fault
  | [], none => return default

/-- Takes the next token. -/
def next : Compose Token := do
  let t ← peek
  modify fun s => { s with tokens := s.tokens.tail }
  return t

/-- The kind of the next token. -/
def kind : Compose TokenKind := return (← peek).kind

/-- Whether the next token is one of some kinds. -/
def nextIn (kinds : List TokenKind) : Compose Bool := return (← kind) ∈ kinds

/-- A scalar without characters. -/
def emptyScalar (m : Mark) : Node := .scalar (coreTag "null") "" m

/-- The handles that every document has. -/
def standardHandles : List (String × String) := [("!", "!"), ("!!", coreTag "")]

/-! ## Names and tags -/

/-- What stands before a node: its name, its tag, and the place where it begins. -/
structure Properties where
  anchor : Option String
  tag : Option (Option String × String × Mark)
  first : Option Mark
  last : Option Mark

/-- Reads a name and a tag in either order. -/
def readProperties : Compose Properties := do
  let t ← peek
  match t.kind with
  | .anchor name =>
    let _ ← next
    let u ← peek
    match u.kind with
    | .tag handle rest =>
      let _ ← next
      return ⟨some name, some (handle, rest, u.first), some t.first, some u.last⟩
    | _ => return ⟨some name, none, some t.first, some t.last⟩
  | .tag handle rest =>
    let _ ← next
    let u ← peek
    match u.kind with
    | .anchor name =>
      let _ ← next
      return ⟨some name, some (handle, rest, t.first), some t.first, some u.last⟩
    | _ => return ⟨none, some (handle, rest, t.first), some t.first, some t.last⟩
  | _ => return ⟨none, none, none, none⟩

/-- The full tag. -/
def fullTag (p : Properties) : Compose (Option String) := do
  match p.tag with
  | none => return none
  | some (none, rest, _) => return some rest
  | some (some handle, rest, place) =>
    match (← state).handles.lookup handle with
    | some meaning => return some (meaning ++ rest)
    | none =>
      throw (.malformed (some ("while parsing a node", p.first))
        s!"found undefined tag handle {Quoted.ofText handle}" (some place))

/-- Opens a named node; a name is given once. -/
def openAnchor (anchor : Option String) (m : Mark) : Compose Unit := do
  match anchor with
  | none => return ()
  | some name =>
    match (← state).anchors.lookup name with
    | some (earlier, _) =>
      throw (.malformed
        (some (s!"found duplicate anchor {Quoted.ofText name}; first occurrence", some earlier))
        "second occurrence" (some m))
    | none => modify fun s => { s with anchors := s.anchors ++ [(name, m, none)] }

/-- Gives a named node its content. -/
def closeAnchor (anchor : Option String) (node : Node) : Compose Unit := do
  match anchor with
  | none => return ()
  | some name =>
    modify fun s =>
      { s with
        anchors := s.anchors.map fun e =>
          if e.1 = name then (name, e.2.1, some node) else e }

/-- A tag that leaves open what a node is. -/
def isOpenTag (tag : Option String) : Bool := tag.isNone || tag = some "!"

/-- The fault of a collection that goes on with a wrong token. -/
def wrongToken {α : Type} (context : String) (began : Mark) (expected : String) : Compose α := do
  let t ← peek
  throw (.malformed (some (context, some began))
    s!"{expected} {Quoted.ofText t.kind.name}" (some t.first))

/-! ## Nodes -/

mutual

/-- Reads a node. In a block it may be a block itself; after a key it may be a list that is not
    deeper than the key. -/
def readNode (inBlock afterKey : Bool) : Nat → Compose Node
  | 0 => return default
  | fuel + 1 => do
    let t ← peek
    match t.kind with
    | .reference name =>
      let _ ← next
      match (← state).anchors.lookup name with
      | some (_, some node) => return node
      | some (_, none) => return .itself t.first
      | none =>
        throw (.malformed none s!"found undefined alias {Quoted.ofText name}" (some t.first))
    | _ =>
      let p ← readProperties
      let tag ← fullTag p
      let t ← peek
      let first := p.first.getD t.first
      let collectionTag (name : String) : String :=
        if isOpenTag tag then coreTag name else tag.getD ""
      let asSequence (items : Compose (List Node)) : Compose Node := do
        openAnchor p.anchor first
        let node := Node.sequence (collectionTag "seq") (← items) first
        closeAnchor p.anchor node
        return node
      let asMapping (entries : Compose (List (Node × Node))) : Compose Node := do
        openAnchor p.anchor first
        let node := Node.mapping (collectionTag "map") (← entries) first
        closeAnchor p.anchor node
        return node
      let asScalar (tag text : String) : Compose Node := do
        openAnchor p.anchor first
        let node := Node.scalar tag text first
        closeAnchor p.anchor node
        return node
      match t.kind with
      | .scalar text plain =>
        let _ ← next
        if (plain && tag.isNone) || tag = some "!" then asScalar (plainTag text.toList) text
        else asScalar (tag.getD (coreTag "str")) text
      | .flowSequenceStart =>
        asSequence do
          let began := (← next).first
          readFlowItems began true fuel
      | .flowMappingStart =>
        asMapping do
          let began := (← next).first
          readFlowEntries began true fuel
      | k =>
        if afterKey && k = .blockEntry then asSequence (readLooseItems fuel)
        else if inBlock && k = .blockSequenceStart then
          asSequence do
            let began := (← next).first
            readBlockItems began fuel
        else if inBlock && k = .blockMappingStart then
          asMapping do
            let began := (← next).first
            readBlockEntries began fuel
        else if p.anchor.isSome || tag.isSome then
          asScalar (if isOpenTag tag then coreTag "null" else tag.getD "") ""
        else
          let part := if inBlock then "block" else "flow"
          wrongToken s!"while parsing a {part} node" first
            "expected the node content, but found"

/-- The items of a block list. -/
def readBlockItems (began : Mark) : Nat → Compose (List Node)
  | 0 => return []
  | fuel + 1 => do
    if ← nextIn [.blockEntry] then
      let dash ← next
      let item ←
        if ← nextIn [.blockEntry, .blockEnd] then pure (emptyScalar dash.last)
        else readNode true false fuel
      return item :: (← readBlockItems began fuel)
    if !(← nextIn [.blockEnd]) then
      wrongToken "while parsing a block collection" began "expected <block end>, but found"
    let _ ← next
    return []

/-- The items of a list that is not deeper than the key before it. -/
def readLooseItems : Nat → Compose (List Node)
  | 0 => return []
  | fuel + 1 => do
    if ← nextIn [.blockEntry] then
      let dash ← next
      let item ←
        if ← nextIn [.blockEntry, .key, .value, .blockEnd] then pure (emptyScalar dash.last)
        else readNode true false fuel
      return item :: (← readLooseItems fuel)
    return []

/-- The entries of a block mapping. -/
def readBlockEntries (began : Mark) : Nat → Compose (List (Node × Node))
  | 0 => return []
  | fuel + 1 => do
    if ← nextIn [.key] then
      let mark ← next
      let key ←
        if ← nextIn [.key, .value, .blockEnd] then pure (emptyScalar mark.last)
        else readNode true true fuel
      let value ← readBlockValue fuel
      return (key, value) :: (← readBlockEntries began fuel)
    if ← nextIn [.blockEnd] then
      let _ ← next
      return []
    wrongToken "while parsing a block mapping" began "expected <block end>, but found"

/-- The value of a key in a block. -/
def readBlockValue : Nat → Compose Node
  | 0 => return default
  | fuel + 1 => do
    if ← nextIn [.value] then
      let colon ← next
      if ← nextIn [.key, .value, .blockEnd] then return emptyScalar colon.last
      readNode true true fuel
    else return emptyScalar (← peek).first

/-- The items of a list in brackets. -/
def readFlowItems (began : Mark) (isFirst : Bool) : Nat → Compose (List Node)
  | 0 => return []
  | fuel + 1 => do
    if ← nextIn [.flowSequenceEnd] then
      let _ ← next
      return []
    if !isFirst then
      if ← nextIn [.flowEntry] then
        let _ ← next
      else
        wrongToken "while parsing a flow sequence" began "expected ',' or ']', but got"
    if ← nextIn [.flowSequenceEnd] then
      let _ ← next
      return []
    let item ← if ← nextIn [.key] then readPair fuel else readNode false false fuel
    return item :: (← readFlowItems began false fuel)

/-- A key with its value that is an item of a list in brackets. -/
def readPair : Nat → Compose Node
  | 0 => return default
  | fuel + 1 => do
    let mark ← next
    let key ←
      if ← nextIn [.value, .flowEntry, .flowSequenceEnd] then pure (emptyScalar mark.last)
      else readNode false false fuel
    let value ← readFlowValue [.flowEntry, .flowSequenceEnd] fuel
    return .mapping (coreTag "map") [(key, value)] mark.first

/-- The value of a key in brackets, where some tokens end it. -/
def readFlowValue (ends : List TokenKind) : Nat → Compose Node
  | 0 => return default
  | fuel + 1 => do
    if ← nextIn [.value] then
      let colon ← next
      if ← nextIn ends then return emptyScalar colon.last
      readNode false false fuel
    else return emptyScalar (← peek).first

/-- The entries of a mapping in braces. -/
def readFlowEntries (began : Mark) (isFirst : Bool) : Nat → Compose (List (Node × Node))
  | 0 => return []
  | fuel + 1 => do
    if ← nextIn [.flowMappingEnd] then
      let _ ← next
      return []
    if !isFirst then
      if ← nextIn [.flowEntry] then
        let _ ← next
      else
        wrongToken "while parsing a flow mapping" began "expected ',' or '\x7d', but got"
    if ← nextIn [.flowMappingEnd] then
      let _ ← next
      return []
    let entry ←
      if ← nextIn [.key] then do
        let mark ← next
        let key ←
          if ← nextIn [.value, .flowEntry, .flowMappingEnd] then pure (emptyScalar mark.last)
          else readNode false false fuel
        let value ← readFlowValue [.flowEntry, .flowMappingEnd] fuel
        pure (key, value)
      else do
        let key ← readNode false false fuel
        pure (key, emptyScalar (← peek).first)
    return entry :: (← readFlowEntries began false fuel)

end

/-! ## Documents -/

/-- Reads the directives before a document. -/
def readDirectives (hasVersion : Bool) (handles : List (String × String)) :
    Nat → Compose (List (String × String))
  | 0 => return handles
  | fuel + 1 => do
    let t ← peek
    match t.kind with
    | .directive content =>
      let _ ← next
      match content with
      | .version major _ =>
        if hasVersion then
          throw (.malformed none "found duplicate YAML directive" (some t.first))
        if major ≠ 1 then
          throw (.malformed none "found incompatible YAML document (version 1.* is required)"
            (some t.first))
        readDirectives true handles fuel
      | .tagHandle handle meaning =>
        if (handles.lookup handle).isSome then
          throw (.malformed none s!"duplicate tag handle {Quoted.ofText handle}" (some t.first))
        readDirectives hasVersion (handles ++ [(handle, meaning)]) fuel
      | .unknown => readDirectives hasVersion handles fuel
    | _ => return handles

/-- Skips marks at the end of documents. -/
def skipDocumentEnds : Nat → Compose Unit
  | 0 => return ()
  | fuel + 1 => do
    if ← nextIn [.documentEnd] then
      let _ ← next
      skipDocumentEnds fuel

/-- Whether a token is one before or behind a document. -/
def isOutside : TokenKind → Bool
  | .directive _ | .documentStart | .documentEnd | .streamEnd => true
  | _ => false

/-- Starts a document after others, or the first one where that is marked: the place where it
    starts, or none at the end of all. -/
def startMarked (fuel : Nat) : Compose (Option Mark) := do
  skipDocumentEnds fuel
  if ← nextIn [.streamEnd] then return none
  let first := (← peek).first
  let handles ← readDirectives false [] fuel
  let handles := handles ++ standardHandles.filter fun h => (handles.lookup h.1).isNone
  modify fun s => { s with handles }
  if !(← nextIn [.documentStart]) then
    let t ← peek
    throw (.malformed none
      s!"expected '<document start>', but found {Quoted.ofText t.kind.name}" (some t.first))
  let _ ← next
  return some first

/-- Reads the only document of a stream; a stream may have none. -/
def readOnly (fuel : Nat) : Compose (Option Node) := do
  let _ ← next
  let t ← peek
  let isMarked := match t.kind with
    | .directive _ | .documentStart | .streamEnd => true
    | _ => false
  let node ←
    if isMarked then do
      match ← startMarked fuel with
      | none => return none
      | some _ =>
        let t ← peek
        if isOutside t.kind then pure (emptyScalar t.first) else readNode true false fuel
    else readNode true false fuel
  if ← nextIn [.documentEnd] then
    let _ ← next
  match ← startMarked fuel with
  | none => return some node
  | some place =>
    throw (.malformed (some ("expected a single document in the stream", some node.mark))
      "but found another document" (some place))

end Compose

/-- The node of a document; none for an empty one. -/
def nodeOf? (s : List Char) : Except Fault (Option Node) :=
  let stream := tokensOf s
  let start : Composer := ⟨stream.tokens, stream.fault, Compose.standardHandles, []⟩
  (·.1) <$> (Compose.readOnly (4 * stream.tokens.length + 8)).run start

end FieldRules.Yaml
