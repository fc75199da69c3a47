import FieldRules.Yaml.Cursor

/-!
# Scalars, names and tags as they are written

Plain text, quoted text, and text in blocks, with their lines folded; directives, anchors and tags.
-/

namespace FieldRules.Yaml.Read

/-! ## Directives, anchors and tags -/

/-- The handle of a tag. -/
def tagHandle (part : String) (began : Mark) : Read (List Char) := do
  let c ← get
  if c.peek 0 ≠ '!' then
    fail s!"while scanning a {part}" began s!"expected '!', but found {shownChar (c.peek 0)}"
  if c.peek 1 = ' ' then
    forward 1
    return ['!']
  let word := (c.rest.drop 1).takeWhile isWordChar
  let next := c.peek (word.length + 1)
  if next ≠ '!' then
    forward (word.length + 1)
    fail s!"while scanning a {part}" began s!"expected '!', but found {shownChar next}"
  forward (word.length + 2)
  return '!' :: word ++ ['!']

/-- A character of an address. -/
def isUriChar (c : Char) : Bool := c.isAlphanum || "-;/?:@&=+$,_.!~*'()[]%".toList.contains c

/-- The bytes of escapes with percent signs. -/
def uriBytes (part : String) (began : Mark) : Nat → Read (List UInt8)
  | 0 => return []
  | fuel + 1 => do
    if (← peek) ≠ '%' then return []
    forward 1
    let c ← get
    match [c.peek 0, c.peek 1].find? fun d => !isHexDigit d with
    | some d =>
      fail s!"while scanning a {part}" began
        s!"expected URI escape sequence of 2 hexadecimal numbers, but found {shownChar d}"
    | none =>
      let code := hexNumber (c.take 2)
      forward 2
      return UInt8.ofNat code :: (← uriBytes part began fuel)

/-- An address. -/
def uriParts (part : String) (began : Mark) : Nat → Read (List Char)
  | 0 => return []
  | fuel + 1 => do
    let plain ← takeWhile fun c => isUriChar c && c ≠ '%'
    if (← peek) ≠ '%' then return plain
    let mark ← here
    let bytes ← uriBytes part began fuel
    match String.fromUTF8? ⟨bytes.toArray⟩ with
    | some s => return plain ++ s.toList ++ (← uriParts part began fuel)
    | none =>
      throw (.malformed (some (s!"while scanning a {part}", some began))
        "'utf-8' codec can't decode bytes" (some mark))

/-- An address that is not empty. -/
def uri (part : String) (began : Mark) : Read (List Char) := do
  let c ← get
  let taken ← uriParts part began (c.rest.length + 1)
  if (← here).index = c.mark.index then
    fail s!"while parsing a {part}" began s!"expected URI, but found {shownChar (c.peek 0)}"
  return taken

/-- A number of a directive. -/
def directiveNumber (began : Mark) : Read Nat := do
  let ch ← peek
  if !ch.isDigit then
    fail "while scanning a directive" began s!"expected a digit, but found {shownChar ch}"
  return (← takeWhile Char.isDigit).foldl (fun n c => 10 * n + (c.toNat - 48)) 0

/-- The version of a directive. -/
def directiveVersion (began : Mark) : Read (Nat × Nat) := do
  skip (· = ' ')
  let major ← directiveNumber began
  let dot ← peek
  if dot ≠ '.' then
    fail "while scanning a directive" began s!"expected a digit or '.', but found {shownChar dot}"
  forward 1
  let minor ← directiveNumber began
  let next ← peek
  if !isSpaceOrEnd next then
    fail "while scanning a directive" began s!"expected a digit or ' ', but found {shownChar next}"
  return (major, minor)

/-- The handle of a directive and what it stands for. -/
def directiveTag (began : Mark) : Read (String × String) := do
  skip (· = ' ')
  let handle ← tagHandle "directive" began
  let next ← peek
  if next ≠ ' ' then
    fail "while scanning a directive" began s!"expected ' ', but found {shownChar next}"
  skip (· = ' ')
  let meaning ← uri "directive" began
  let next ← peek
  if !isSpaceOrEnd next then
    fail "while scanning a directive" began s!"expected ' ', but found {shownChar next}"
  return (String.ofList handle, String.ofList meaning)

/-- What may follow on a line: a comment. -/
def restOfLine (context : String) (began : Mark) : Read Unit := do
  skipComment
  let next ← peek
  if !isBreakOrEnd next then
    fail context began s!"expected a comment or a line break, but found {shownChar next}"
  let _ ← lineBreak

/-- The name of an anchor or of an alias. -/
def anchorName : Read String := do
  let began ← here
  let context := if (← peek) = '*' then "while scanning an alias" else "while scanning an anchor"
  forward 1
  let name ← takeWhile isWordChar
  let next ← peek
  if name.isEmpty || !(isGapOrEnd next || "?:,]\x7d%@\x60".toList.contains next) then
    fail context began
      s!"expected alphabetic or numeric character, but found {shownChar next}"
  return String.ofList name

/-- A tag: its handle, if it has one, and the rest. -/
def tag : Read (Option String × String) := do
  let began ← here
  let c ← get
  let (handle, rest) ←
    if c.peek 1 = '<' then do
      forward 2
      let rest ← uri "tag" began
      let next ← peek
      if next ≠ '>' then
        fail "while parsing a tag" began s!"expected '>', but found {shownChar next}"
      forward 1
      pure (none, String.ofList rest)
    else if isGapOrEnd (c.peek 1) then do
      forward 1
      pure (none, "!")
    else do
      let word := (c.rest.drop 1).takeWhile fun ch => !isSpaceOrEnd ch
      let handle ← if word.contains '!' then tagHandle "tag" began else do
        forward 1
        pure ['!']
      let rest ← uri "tag" began
      pure (some (String.ofList handle), String.ofList rest)
  let next ← peek
  if !isSpaceOrEnd next then
    fail "while scanning a tag" began s!"expected ' ', but found {shownChar next}"
  return (handle, rest)

/-! ## Quoted text -/

/-- What a letter stands for after a backslash. -/
def escapes : List (Char × Nat) :=
  [('0', 0), ('a', 7), ('b', 8), ('t', 9), ('\t', 9), ('n', 10), ('v', 11), ('f', 12), ('r', 13),
   ('e', 27), (' ', 32), ('"', 34), ('\\', 92), ('/', 47), ('N', 0x85), ('_', 0xA0),
   ('L', 0x2028), ('P', 0x2029)]

/-- How many digits follow a letter after a backslash. -/
def codeLengths : List (Char × Nat) := [('x', 2), ('u', 4), ('U', 8)]

/-- The ends of empty lines in a quoted text. -/
def quotedBreaks (began : Mark) : Nat → Read (List Char)
  | 0 => return []
  | fuel + 1 => do
    if (← get).atSeparator then
      fail "while scanning a quoted scalar" began "found unexpected document separator"
    skip fun c => c = ' ' || c = '\t'
    if isBreak (← peek) then
      let taken ← lineBreak
      return taken ++ (← quotedBreaks began fuel)
    return []

/-- The character of a code. -/
def codeChar (code : Nat) : Read Char :=
  if code < 0x110000 then return Char.ofNat code
  else if code < 0x80000000 then throw (.misfit .number "chr() arg not in range(0x110000)")
  else throw (.misfit .hugeCode "Python int too large to convert to C int")

/-- An escape, the backslash being read. -/
def escape (began : Mark) (fuel : Nat) : Read (List Char) := do
  let c ← get
  let ch := c.peek 0
  match escapes.lookup ch, codeLengths.lookup ch with
  | some code, _ =>
    forward 1
    return [Char.ofNat code]
  | none, some count =>
    forward 1
    let c ← get
    match ((List.range count).map c.peek).find? fun d => !isHexDigit d with
    | some d =>
      fail "while scanning a double-quoted scalar" began
        s!"expected escape sequence of {count} hexadecimal numbers, but found {shownChar d}"
    | none =>
      let made ← codeChar (hexNumber (c.take count))
      forward count
      return [made]
  | none, none =>
    if isBreak ch then
      let _ ← lineBreak
      quotedBreaks began fuel
    else
      fail "while scanning a double-quoted scalar" began
        s!"found unknown escape character {shownChar ch}"

/-- A run of quoted text without blanks. -/
def quotedWords (double : Bool) (began : Mark) : Nat → Read (List Char)
  | 0 => return []
  | fuel + 1 => do
    let plain ← takeWhile fun c => !(isGapOrEnd c || c = '\'' || c = '"' || c = '\\')
    let c ← get
    let ch := c.peek 0
    if !double && ch = '\'' && c.peek 1 = '\'' then
      forward 2
      return plain ++ '\'' :: (← quotedWords double began fuel)
    else if (double && ch = '\'') || (!double && (ch = '"' || ch = '\\')) then
      forward 1
      return plain ++ ch :: (← quotedWords double began fuel)
    else if double && ch = '\\' then
      forward 1
      let made ← escape began fuel
      return plain ++ made ++ (← quotedWords double began fuel)
    else return plain

/-- Blanks and ends of lines in a quoted text. One line end is a blank, and of more each but the
    first is kept. -/
def quotedGap (began : Mark) (fuel : Nat) : Read (List Char) := do
  let blanks ← takeWhile fun c => c = ' ' || c = '\t'
  let ch ← peek
  if ch = endChar then
    fail "while scanning a quoted scalar" began "found unexpected end of stream"
  if isBreak ch then
    let first ← lineBreak
    let others ← quotedBreaks began fuel
    if first ≠ ['\n'] then return first ++ others
    return if others.isEmpty then [' '] else others
  return blanks

/-- The text up to its closing quote. -/
def quotedRest (double : Bool) (began : Mark) : Nat → Read (List Char)
  | 0 => return []
  | fuel + 1 => do
    if (← peek) = (if double then '"' else '\'') then
      forward 1
      return []
    let gap ← quotedGap began fuel
    let words ← quotedWords double began fuel
    return gap ++ words ++ (← quotedRest double began fuel)

/-- A text in quotes. -/
def quoted (double : Bool) : Read (List Char) := do
  let c ← get
  let fuel := c.rest.length + 1
  forward 1
  let words ← quotedWords double c.mark fuel
  return words ++ (← quotedRest double c.mark fuel)

/-! ## Text in blocks -/

/-- What becomes of the line ends at the end of a block. -/
inductive Chomping where
  | clip
  | strip
  | keep
  deriving DecidableEq, Repr

/-- The sign for the line ends at the end. -/
def chomping? : Char → Option Chomping
  | '+' => some .keep
  | '-' => some .strip
  | _ => none

/-- The digit for the depth of a block. -/
def blockDepth (began : Mark) : Read (Option Nat) := do
  let ch ← peek
  if !ch.isDigit then return none
  if ch = '0' then
    fail "while scanning a block scalar" began
      "expected indentation indicator in the range 1-9, but found 0"
  forward 1
  return some (ch.toNat - 48)

/-- The signs of a block: what becomes of its end, and its depth. -/
def blockSigns (began : Mark) : Read (Chomping × Option Nat) := do
  let signs ←
    match chomping? (← peek) with
    | some chomping => do
      forward 1
      pure (chomping, ← blockDepth began)
    | none => do
      match ← blockDepth began with
      | none => pure (Chomping.clip, none)
      | some depth =>
        match chomping? (← peek) with
        | some chomping => do
          forward 1
          pure (chomping, some depth)
        | none => pure (Chomping.clip, some depth)
  let next ← peek
  if !isSpaceOrEnd next then
    fail "while scanning a block scalar" began
      s!"expected chomping or indentation indicators, but found {shownChar next}"
  return signs

/-- The empty lines at the start of a block, and the greatest depth of blanks in them. -/
def blockStart (depth : Nat) : Nat → Read (List Char × Nat)
  | 0 => return ([], depth)
  | fuel + 1 => do
    let ch ← peek
    if ch = ' ' then
      forward 1
      blockStart (max depth (← here).column) fuel
    else if isBreak ch then
      let first ← lineBreak
      let (others, depth) ← blockStart depth fuel
      return (first ++ others, depth)
    else return ([], depth)

/-- Skips blanks up to a depth. -/
def skipTo (depth : Nat) : Read Unit := do
  let c ← get
  forward (min (c.rest.takeWhile (· = ' ')).length (depth - c.mark.column))

/-- Empty lines inside of a block. -/
def blockBreaks (depth : Nat) : Nat → Read (List (List Char))
  | 0 => return []
  | fuel + 1 => do
    skipTo depth
    if isBreak (← peek) then
      let first ← lineBreak
      return first :: (← blockBreaks depth fuel)
    return []

/-- The lines of a block. In a folded one the end of a line is a blank, unless one of the lines that
    it separates starts with a blank. -/
def blockLines (folded : Bool) (depth : Nat) (chomping : Chomping) (breaks : List (List Char))
    (lastBreak : List Char) : Nat → Read (List Char)
  | 0 => return []
  | fuel + 1 => do
    let c ← get
    if c.mark.column = depth && c.peek 0 ≠ endChar then
      let flush := c.peek 0 ≠ ' ' && c.peek 0 ≠ '\t'
      let line ← takeWhile fun ch => !isBreakOrEnd ch
      let lineEnd ← lineBreak
      let next ← blockBreaks depth fuel
      let c ← get
      let joined : List Char :=
        if c.mark.column = depth && c.peek 0 ≠ endChar then
          if folded && lineEnd = ['\n'] && flush && c.peek 0 ≠ ' ' && c.peek 0 ≠ '\t' then
            if next.isEmpty then [' '] else []
          else lineEnd
        else []
      let others ← blockLines folded depth chomping next lineEnd fuel
      return breaks.flatten ++ line ++ joined ++ others
    else
      return match chomping with
        | .strip => []
        | .clip => lastBreak
        | .keep => lastBreak ++ breaks.flatten

/-- A text in a block, inside of a part of some depth. -/
def block (folded : Bool) (outer : Int) : Read (List Char) := do
  let c ← get
  let fuel := c.rest.length + 1
  forward 1
  let (chomping, given) ← blockSigns c.mark
  restOfLine "while scanning a block scalar" c.mark
  let least := (max (outer + 1) 1).toNat
  match given with
  | none =>
    let (breaks, found) ← blockStart 0 fuel
    blockLines folded (max least found) chomping [breaks] [] fuel
  | some given =>
    let depth := least + given - 1
    let breaks ← blockBreaks depth fuel
    blockLines folded depth chomping breaks [] fuel

/-! ## Plain text -/

/-- The length of a run of plain text. -/
def plainLength (inFlow : Bool) : List Char → Nat
  | [] => 0
  | c :: rest =>
    let next := rest.headD endChar
    if isGapOrEnd c || (inFlow && ",?[]\x7b\x7d".toList.contains c) ||
        (c = ':' && (isGapOrEnd next || (inFlow && ",[]\x7b\x7d".toList.contains next))) then 0
    else plainLength inFlow rest + 1

/-- Empty lines in a plain text; none where documents are separated. -/
def plainBreaks : Nat → Read (Option (List Char))
  | 0 => return some []
  | fuel + 1 => do
    let ch ← peek
    if ch = ' ' then
      forward 1
      plainBreaks fuel
    else if isBreak ch then
      let first ← lineBreak
      if (← get).atSeparator then return none
      return (← plainBreaks fuel).map (first ++ ·)
    else return some []

/-- What stands between two runs of a plain text, and whether a line ended there. -/
def plainGap (fuel : Nat) : Read (List Char × Bool) := do
  let blanks ← takeWhile (· = ' ')
  if !isBreak (← peek) then return (blanks, false)
  let first ← lineBreak
  if (← get).atSeparator then return ([], true)
  match ← plainBreaks fuel with
  | none => return ([], true)
  | some others =>
    if first ≠ ['\n'] then return (first ++ others, true)
    return (if others.isEmpty then [' '] else others, true)

/-- A plain text from the gap before its next run on: the text, the place of its end, and whether a
    line ended behind it. -/
def plainRuns (inFlow : Bool) (depth : Int) (gap : List Char) (last : Mark) (brokeLine : Bool) :
    Nat → Read (List Char × Mark × Bool)
  | 0 => return ([], last, brokeLine)
  | fuel + 1 => do
    let c ← get
    let length := plainLength inFlow c.rest
    if c.peek 0 = '#' || length = 0 then return ([], last, brokeLine)
    let run := c.take length
    forward length
    let last ← here
    let (next, brokeLine) ← plainGap fuel
    let c ← get
    if next.isEmpty || c.peek 0 = '#' || (!inFlow && (c.mark.column : Int) < depth) then
      return (gap ++ run, last, brokeLine)
    let (others, last, brokeLine) ← plainRuns inFlow depth next last brokeLine fuel
    return (gap ++ run ++ others, last, brokeLine)

/-- A plain text inside of a part of some depth. -/
def plain (inFlow : Bool) (outer : Int) : Read (List Char × Mark × Bool) := do
  let c ← get
  plainRuns inFlow (outer + 1) [] c.mark false (c.rest.length + 1)

end FieldRules.Yaml.Read
