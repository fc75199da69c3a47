import FieldRules.Yaml.Scalar
import FieldRules.Yaml.Token

/-!
# From characters to tokens

A key may stand without its mark; that it is one shows only when a colon follows on its line. So
tokens are held back until it is known whether the first of them starts with a key.
-/

namespace FieldRules.Yaml

/-- A place where a key may have begun: the number of its first token, and whether there has to be a
    key. -/
structure PossibleKey where
  number : Nat
  required : Bool
  mark : Mark
  deriving Repr

/-- The reader of tokens: the tokens that are held back, how many were handed out, how many brackets
    are open, the depth of the block and of those around it, whether a key may begin here, and the
    keys that may have begun by the number of open brackets. -/
structure Lexer where
  cursor : Cursor
  held : List Token
  taken : Nat
  brackets : Nat
  depth : Int
  depths : List Int
  keyAllowed : Bool
  keys : List (Nat × PossibleKey)
  done : Bool

/-- Token-level reading. -/
abbrev Lex := StateT Lexer (Except Fault)

namespace Lex

/-- The state. -/
def state : Lex Lexer := get

/-- Reads characters. -/
def chars {α : Type} (r : Read α) : Lex α := do
  let s ← state
  let (a, cursor) ← r.run s.cursor
  set { s with cursor }
  return a

/-- The place. -/
def here : Lex Mark := return (← state).cursor.mark

/-- Hands a token to those that are held. -/
def push (kind : TokenKind) (first last : Mark) : Lex Unit :=
  modify fun s => { s with held := s.held ++ [⟨kind, first, last⟩] }

/-- Hands over a token without characters. -/
def pushHere (kind : TokenKind) : Lex Unit := do
  let m ← here
  push kind m m

/-- Hands over a token of `n` characters. -/
def pushChars (kind : TokenKind) (n : Nat) : Lex Unit := do
  let first ← here
  chars (Read.forward n)
  push kind first (← here)

/-- Says whether a key may begin. -/
def allowKey (allowed : Bool) : Lex Unit := modify fun s => { s with keyAllowed := allowed }

/-- The fault of a key that has to be there and has no colon. -/
def missingColon {α : Type} (k : PossibleKey) : Lex α := do
  throw (.malformed (some ("while scanning a simple key", some k.mark))
    "could not find expected ':'" (some (← here)))

/-- A fault at this place. -/
def failHere {α : Type} (problem : String) : Lex α := do
  throw (.malformed none problem (some (← here)))

/-- Gives up keys that began on another line or too far back. -/
def dropStaleKeys : Lex Unit := do
  let s ← state
  let m := s.cursor.mark
  let isStale (k : PossibleKey) : Bool := k.mark.line ≠ m.line || 1024 < m.index - k.mark.index
  match s.keys.find? fun k => isStale k.2 && k.2.required with
  | some (_, k) => missingColon k
  | none => set { s with keys := s.keys.filter fun k => !isStale k.2 }

/-- Gives up the key that may have begun inside of the open brackets. -/
def dropKey : Lex Unit := do
  let s ← state
  match s.keys.lookup s.brackets with
  | none => return ()
  | some k =>
    if k.required then missingColon k
    set { s with keys := s.keys.filter fun e => e.1 ≠ s.brackets }

/-- Notes that a key may begin here. -/
def saveKey : Lex Unit := do
  let s ← state
  let m := s.cursor.mark
  let required := s.brackets = 0 && s.depth = (m.column : Int)
  if s.keyAllowed then
    dropKey
    modify fun t =>
      { t with keys := t.keys ++ [(s.brackets, ⟨s.taken + s.held.length, required, m⟩)] }

/-- The tokens that end blocks deeper than a column, and the depths that are left. -/
def unwound (column depth : Int) (m : Mark) : List Int → List Token × Int × List Int
  | [] => ([], depth, [])
  | outer :: depths =>
    if column < depth then
      let (ends, depth, depths) := unwound column outer m depths
      (⟨.blockEnd, m, m⟩ :: ends, depth, depths)
    else ([], depth, outer :: depths)

/-- Ends blocks that are deeper than a column. -/
def unwind (column : Int) : Lex Unit := do
  let s ← state
  if s.brackets = 0 then
    let (ends, depth, depths) := unwound column s.depth s.cursor.mark s.depths
    set { s with held := s.held ++ ends, depth, depths }

/-- Goes into a block, if it is deeper than the one around. -/
def indent (column : Int) : Lex Bool := do
  let s ← state
  if s.depth < column then
    set { s with depth := column, depths := s.depth :: s.depths }
    return true
  return false

/-- Skips what stands before a token. A key may begin on a new line. -/
def skipGap : Nat → Lex Unit
  | 0 => return ()
  | fuel + 1 => do
    chars Read.skipComment
    let taken ← chars Read.lineBreak
    if taken.isEmpty then return ()
    if (← state).brackets = 0 then allowKey true
    skipGap fuel

/-- Skips to the next token; a byte order mark may stand at the start of all. -/
def skipToToken : Lex Unit := do
  let s ← state
  if s.cursor.mark.index = 0 && s.cursor.peek 0 = '\uFEFF' then chars (Read.forward 1)
  skipGap (s.cursor.rest.length + 1)

/-! ## One token -/

/-- The end of the document. -/
def readEnd : Lex Unit := do
  unwind (-1)
  dropKey
  modify fun s => { s with keyAllowed := false, keys := [], done := true }
  pushHere .streamEnd

/-- Ends all blocks before what stands between documents. -/
def leaveBlocks : Lex Unit := do
  unwind (-1)
  dropKey
  allowKey false

/-- The content of a directive. -/
def directiveContent : Read DirectiveContent := do
  let began ← Read.here
  Read.forward 1
  let name ← Read.takeWhile isWordChar
  let next ← Read.peek
  if name.isEmpty || !isSpaceOrEnd next then
    Read.fail "while scanning a directive" began
      s!"expected alphabetic or numeric character, but found {shownChar next}"
  let content ←
    if name = "YAML".toList then do
      let (major, minor) ← Read.directiveVersion began
      pure (.version major minor)
    else if name = "TAG".toList then do
      let (handle, meaning) ← Read.directiveTag began
      pure (.tagHandle handle meaning)
    else do
      Read.skip fun c => !isBreakOrEnd c
      pure .unknown
  Read.restOfLine "while scanning a directive" began
  return content

/-- A directive. -/
def readDirective : Lex Unit := do
  leaveBlocks
  let first ← here
  let content ← chars directiveContent
  push (.directive content) first (← here)

/-- The marks around a document. -/
def readSeparator (kind : TokenKind) : Lex Unit := do
  leaveBlocks
  pushChars kind 3

/-- An opening bracket. -/
def readOpening (kind : TokenKind) : Lex Unit := do
  saveKey
  modify fun s => { s with brackets := s.brackets + 1, keyAllowed := true }
  pushChars kind 1

/-- A closing bracket. -/
def readClosing (kind : TokenKind) : Lex Unit := do
  dropKey
  modify fun s => { s with brackets := s.brackets - 1, keyAllowed := false }
  pushChars kind 1

/-- A comma. -/
def readComma : Lex Unit := do
  allowKey true
  dropKey
  pushChars .flowEntry 1

/-- The dash of an entry. -/
def readEntry : Lex Unit := do
  let s ← state
  if s.brackets = 0 then
    if !s.keyAllowed then failHere "sequence entries are not allowed here"
    if ← indent s.cursor.mark.column then pushHere .blockSequenceStart
  allowKey true
  dropKey
  pushChars .blockEntry 1

/-- The mark of a key. -/
def readKey : Lex Unit := do
  let s ← state
  if s.brackets = 0 then
    if !s.keyAllowed then failHere "mapping keys are not allowed here"
    if ← indent s.cursor.mark.column then pushHere .blockMappingStart
  allowKey (s.brackets = 0)
  dropKey
  pushChars .key 1

/-- Writes a token before the one with a number. -/
def insertAt (number : Nat) (t : Token) : Lex Unit :=
  modify fun s =>
    let i := number - s.taken
    { s with held := s.held.take i ++ t :: s.held.drop i }

/-- A colon. It makes a key of what may have been one; otherwise a value stands alone. -/
def readColon : Lex Unit := do
  let s ← state
  match s.keys.lookup s.brackets with
  | some k =>
    set { s with keys := s.keys.filter fun e => e.1 ≠ s.brackets }
    insertAt k.number ⟨.key, k.mark, k.mark⟩
    if s.brackets = 0 then
      if ← indent k.mark.column then insertAt k.number ⟨.blockMappingStart, k.mark, k.mark⟩
    allowKey false
  | none =>
    if s.brackets = 0 then
      if !s.keyAllowed then failHere "mapping values are not allowed here"
      if ← indent s.cursor.mark.column then pushHere .blockMappingStart
    allowKey (s.brackets = 0)
    dropKey
  pushChars .value 1

/-- A token with which a key may begin. -/
def readNamed (kind : Read TokenKind) : Lex Unit := do
  saveKey
  allowKey false
  let first ← here
  let kind ← chars kind
  push kind first (← here)

/-- A text in quotes. -/
def quotedToken (double : Bool) : Read TokenKind :=
  (fun text => .scalar (String.ofList text) false) <$> Read.quoted double

/-- A text in a block. -/
def readBlock (folded : Bool) : Lex Unit := do
  allowKey true
  dropKey
  let s ← state
  let text ← chars (Read.block folded s.depth)
  push (.scalar (String.ofList text) false) s.cursor.mark (← here)

/-- A plain text. -/
def readPlain : Lex Unit := do
  saveKey
  let s ← state
  let (text, last, brokeLine) ← chars (Read.plain (0 < s.brackets) s.depth)
  allowKey brokeLine
  push (.scalar (String.ofList text) true) s.cursor.mark last

/-- Whether a plain text can begin with two characters. -/
def startsPlain (inFlow : Bool) (first second : Char) : Bool :=
  !(isGapOrEnd first || "-?:,[]\x7b\x7d#&*!|>'\"%@\x60".toList.contains first) ||
    (!isGapOrEnd second && (first = '-' || (!inFlow && (first = '?' || first = ':'))))

/-- Reads one token, with the tokens that come with it. -/
def readToken : Lex Unit := do
  skipToToken
  dropStaleKeys
  unwind (← here).column
  let s ← state
  let c := s.cursor
  let first := c.peek 0
  let second := c.peek 1
  let inFlow := 0 < s.brackets
  let atStart := c.mark.column = 0
  if first = endChar then readEnd
  else if first = '%' && atStart then readDirective
  else if atStart && first = '-' && c.atSeparator then readSeparator .documentStart
  else if atStart && first = '.' && c.atSeparator then readSeparator .documentEnd
  else if first = '[' then readOpening .flowSequenceStart
  else if first = '\x7b' then readOpening .flowMappingStart
  else if first = ']' then readClosing .flowSequenceEnd
  else if first = '\x7d' then readClosing .flowMappingEnd
  else if first = ',' then readComma
  else if first = '-' && isGapOrEnd second then readEntry
  else if first = '?' && (inFlow || isGapOrEnd second) then readKey
  else if first = ':' && (inFlow || isGapOrEnd second) then readColon
  else if first = '*' then readNamed (.reference <$> Read.anchorName)
  else if first = '&' then readNamed (.anchor <$> Read.anchorName)
  else if first = '!' then readNamed ((fun t => .tag t.1 t.2) <$> Read.tag)
  else if first = '|' && !inFlow then readBlock false
  else if first = '>' && !inFlow then readBlock true
  else if first = '\'' then readNamed (quotedToken false)
  else if first = '"' then readNamed (quotedToken true)
  else if startsPlain inFlow first second then readPlain
  else
    throw (.malformed (some ("while scanning for the next token", none))
      s!"found character {shownChar first} that cannot start any token" (some c.mark))

/-- Reads on until the first token that is held can be handed out. -/
def fill : Nat → Lex Unit
  | 0 => return ()
  | fuel + 1 => do
    if (← state).done then return ()
    if (← state).held.isEmpty then
      readToken
      fill fuel
    else
      dropStaleKeys
      let s ← state
      if s.keys.any fun k => k.2.number = s.taken then
        readToken
        fill fuel

end Lex

/-- Tokens up to the end or to a fault. -/
structure TokenStream where
  tokens : List Token
  fault : Option Fault

/-- Hands out the tokens one by one. -/
def Lexer.handOut (l : Lexer) (chars : Nat) : Nat → TokenStream
  | 0 => ⟨[], none⟩
  | fuel + 1 =>
    match (Lex.fill (chars + 2)).run l with
    | .error fault => ⟨[], some fault⟩
    | .ok ((), l) =>
      match l.held with
      | [] => ⟨[], none⟩
      | t :: held =>
        let rest := Lexer.handOut { l with held, taken := l.taken + 1 } chars fuel
        ⟨t :: rest.tokens, rest.fault⟩

/-- A character that a document may have. -/
def isDocumentChar (c : Char) : Bool :=
  let n := c.toNat
  n = 9 || n = 10 || n = 13 || (32 ≤ n && n ≤ 126) || n = 0x85 || (0xA0 ≤ n && n ≤ 0xFFFD) ||
    0x10000 ≤ n

/-- The first character that no document may have, with its offset. -/
def firstUnprintable (s : List Char) (position : Nat) : Option (Nat × Nat) :=
  match s with
  | [] => none
  | c :: rest =>
    if isDocumentChar c then firstUnprintable rest (position + 1) else some (c.toNat, position)

/-- The reader of tokens at the start of a document. -/
def Lexer.start (s : List Char) : Lexer :=
  let m : Mark := ⟨0, 0, 0⟩
  { cursor := ⟨s, m⟩, held := [⟨.streamStart, m, m⟩], taken := 0, brackets := 0, depth := -1,
    depths := [], keyAllowed := true, keys := [], done := false }

/-- The tokens of a document. A character gives at most three tokens, and the end of the document
    one for each block. -/
def tokensOf (s : List Char) : TokenStream :=
  match firstUnprintable s 0 with
  | some (code, position) => ⟨[], some (.unprintable code position)⟩
  | none => (Lexer.start s).handOut s.length (4 * s.length + 8)

end FieldRules.Yaml
