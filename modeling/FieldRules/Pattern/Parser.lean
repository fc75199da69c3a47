import FieldRules.Number.Leading
import FieldRules.Pattern.Fault
import FieldRules.Pattern.Syntax
import FieldRules.Unicode.Blank
import FieldRules.Unicode.Identifier
import FieldRules.Unicode.Name

/-!
# Reading patterns

A pattern is first cut into signs, a backslash always with the character after it; the signs are
then read into a tree, with the flags that hold for the whole pattern.
-/

namespace FieldRules.Pattern

/-- A sign of a pattern with its offset. -/
inductive Sign where
  | plain (c : Char) (offset : Nat)
  | escaped (c : Char) (offset : Nat)
  /-- A backslash with nothing after it. -/
  | broken (offset : Nat)
  deriving DecidableEq, Repr

/-- The offset of a sign. -/
def Sign.offset : Sign → Nat
  | plain _ n | escaped _ n | broken n => n

/-- The characters of a sign. -/
def Sign.text : Sign → List Char
  | plain c _ => [c]
  | escaped c _ => ['\\', c]
  | broken _ => ['\\']

/-- Cuts a pattern into signs. -/
def Sign.ofText (offset : Nat) : List Char → List Sign
  | [] => []
  | ['\\'] => [.broken offset]
  | '\\' :: c :: rest => .escaped c offset :: ofText (offset + 2) rest
  | c :: rest => .plain c offset :: ofText (offset + 1) rest

/-- What has been read of a pattern. -/
structure Reading where
  /-- The signs still to be read. -/
  signs : List Sign
  /-- The length of the pattern. -/
  size : Nat
  /-- The flags of the whole pattern. -/
  flags : Flags
  /-- The groups that have names. -/
  names : Entries Nat := []
  /-- The width of each group, first to last; open groups have none. -/
  widths : List (Option Width) := []
  /-- Inside a look-behind, the number that the first group opened in it has. -/
  behind : Option Nat := none
  /-- The groups that conditions ask for by number, with the offset. -/
  asked : List (Nat × Nat) := []

/-- A step of reading. -/
abbrev Read := StateT Reading (Except Fault)

namespace Read

/-- Refuses the pattern at an offset. -/
def failAt {α : Type} (cause : Cause) (offset : Nat) : Read α :=
  throw (.malformed cause (some offset))

/-- The next sign. -/
def peek : Read (Option Sign) := return (← get).signs.head?

/-- The offset of the next sign. -/
def tell : Read Nat := do
  let r ← get
  return match r.signs with
    | [] => r.size
    | s :: _ => s.offset

/-- Refuses the pattern at the next sign. -/
def fail {α : Type} (cause : Cause) : Read α := do failAt cause (← tell)

/-- A lone backslash is refused as soon as it comes next. -/
def checkNext : Read Unit := do
  match (← get).signs with
  | .broken offset :: _ => failAt .escapeAtEnd offset
  | _ => return ()

/-- Takes the next sign. -/
def next : Read (Option Sign) := do
  let r ← get
  match r.signs with
  | [] => return none
  | s :: rest =>
    set { r with signs := rest }
    checkNext
    return some s

/-- The next sign, if it is the given plain character. -/
def nextIs (c : Char) : Read Bool := do
  match ← peek with
  | some (.plain d _) => return c == d
  | _ => return false

/-- Takes the next sign if it is the given plain character. -/
def accept (c : Char) : Read Bool := do
  if ← nextIs c then
    let _ ← next
    return true
  else return false

/-- Takes at most `count` plain characters of a class. -/
def takeWhile (p : Char → Bool) : Nat → Read (List Char)
  | 0 => return []
  | count + 1 => do
    match ← peek with
    | some (.plain c _) =>
      if p c then
        let _ ← next
        return c :: (← takeWhile p count)
      else return []
    | _ => return []

/-- Takes the text up to a terminator, which is dropped. `taken` is what was read of it, and
    `fuel` bounds the signs. -/
def takeUntil (terminator : Char) (what : String) (taken : List Char) : Nat → Read (List Char)
  | 0 => return taken
  | fuel + 1 => do
    match ← next with
    | none =>
      if taken.isEmpty then fail (.missingName what)
      else failAt (.unterminatedName terminator) ((← tell) - taken.length)
    | some s =>
      if s.text = [terminator] then
        if taken.isEmpty then failAt (.missingName what) s.offset else return taken
      else takeUntil terminator what (taken ++ s.text) fuel

/-- The number of groups opened so far, the whole match counted. -/
def groupCount : Read Nat := return (← get).widths.length + 1

/-- The width of a group that is closed. -/
def closedWidth? (group : Nat) : Read (Option Width) := do
  if group = 0 then return none
  else return ((← get).widths[group - 1]?).join

/-- Inside a look-behind, only groups from before it can be referred to. -/
def checkBehind (group : Nat) : Read Unit := do
  match (← get).behind with
  | none => return ()
  | some limit =>
    if (← closedWidth? group).isNone then fail .openGroup
    else if limit ≤ group then fail .sameLookbehind
    else return ()

end Read

open Read

/-- A text as it stands in a cause. -/
def shown (s : List Char) : String := String.ofList s

/-- An octal digit. -/
def isOctal (c : Char) : Bool := '0' ≤ c && c ≤ '7'

/-- An ASCII letter. -/
def isAsciiLetter (c : Char) : Bool := ('a' ≤ c && c ≤ 'z') || ('A' ≤ c && c ≤ 'Z')

/-- The value of a hexadecimal digit. -/
def hexValue (c : Char) : Nat :=
  if c.isDigit then c.toNat - 48
  else if 'a' ≤ c ∧ c ≤ 'f' then c.toNat - 87
  else c.toNat - 55

/-- A hexadecimal digit. -/
def isHex (c : Char) : Bool :=
  c.isDigit || ('a' ≤ c && c ≤ 'f') || ('A' ≤ c && c ≤ 'F')

/-- The number with the given digits. -/
def ofDigits (base : Nat) (ds : List Char) : Nat :=
  ds.foldl (fun n c => n * base + hexValue c) 0

/-- The numbers from this one on are no code points for a machine. -/
def codeLimit : Nat := 0x80000000

/-- A character given by code point. Beyond the last one there is none. -/
def codeEscape (escape : List Char) (start code : Nat) : Read Nat :=
  if code < 0x110000 then return code
  else if code < codeLimit then failAt (.badEscape (shown escape)) start
  else throw .hugeCode

/-- The escapes that mean the same inside and outside of sets: a code point in hexadecimal digits
    or a name. -/
def readCodeEscape (c : Char) (start fuel : Nat) : Read (Option Nat) := do
  let hex (width : Nat) : Read (Option Nat) := do
    let ds ← takeWhile isHex width
    if ds.length = width then
      return some (← codeEscape ('\\' :: c :: ds) start (ofDigits 16 ds))
    else failAt (.incompleteEscape (shown ('\\' :: c :: ds))) start
  if c = 'x' then hex 2
  else if c = 'u' then hex 4
  else if c = 'U' then hex 8
  else if c = 'N' then do
    if !(← accept '\x7b') then fail .missingBrace
    let name ← takeUntil '\x7d' "character name" [] fuel
    match Unicode.named? (shown name) with
    | some code => return some code
    | none => failAt (.undefinedCharacter (shown name)) start
  else return none

/-- The control characters and the backslash, which have escapes of their own. -/
def controlEscape? : Char → Option Nat
  | 'a' => some 7
  | 'b' => some 8
  | 'f' => some 12
  | 'n' => some 10
  | 'r' => some 13
  | 't' => some 9
  | 'v' => some 11
  | '\\' => some 92
  | _ => none

/-- The classes that have escapes of their own. -/
def classEscape? : Char → Option (Class × Bool)
  | 'd' => some (.digit, false)
  | 'D' => some (.digit, true)
  | 's' => some (.space, false)
  | 'S' => some (.space, true)
  | 'w' => some (.word, false)
  | 'W' => some (.word, true)
  | _ => none

/-- The anchors that have escapes of their own. -/
def anchorEscape? : Char → Option Anchor
  | 'A' => some .textStart
  | 'Z' => some .textEnd
  | 'b' => some .wordEdge
  | 'B' => some .noWordEdge
  | _ => none

/-- An escape inside a set. -/
def readSetEscape (c : Char) (start fuel : Nat) : Read Member := do
  match controlEscape? c with
  | some code => return .one code
  | none =>
    match classEscape? c with
    | some (kind, negated) => return .ofClass kind negated
    | none =>
      match ← readCodeEscape c start fuel with
      | some code => return .one code
      | none =>
        if isOctal c then do
          let ds := c :: (← takeWhile isOctal 2)
          let code := ofDigits 8 ds
          if 0o377 < code then failAt (.octalTooLarge (shown ('\\' :: ds))) start
          else return .one code
        else if c.isDigit || isAsciiLetter c then failAt (.badEscape (shown ['\\', c])) start
        else return .one c.toNat

/-- An escape outside of sets. -/
def readEscape (c : Char) (start fuel : Nat) : Read Node := do
  match anchorEscape? c with
  | some place => return .anchor place
  | none =>
    match classEscape? c with
    | some (kind, negated) => return .set false [.ofClass kind negated]
    | none =>
      match controlEscape? c with
      | some code => return .literal false code
      | none =>
        match ← readCodeEscape c start fuel with
        | some code => return .literal false code
        | none =>
          if c = '0' then
            return .literal false (ofDigits 8 (← takeWhile isOctal 2))
          else if c.isDigit then readNumbered c start
          else if isAsciiLetter c then failAt (.badEscape (shown ['\\', c])) start
          else return .literal false c.toNat
where
  /-- Three octal digits are a code point, one or two digits are the number of a group. -/
  readNumbered (c : Char) (start : Nat) : Read Node := do
    let second ← takeWhile Char.isDigit 1
    let third ← if isOctal c && second.any isOctal then takeWhile isOctal 1 else pure []
    let ds := c :: (second ++ third)
    if third.isEmpty then
      let group := ofDigits 10 ds
      if group < (← groupCount) then
        if (← closedWidth? group).isNone then failAt .openGroup start
        checkBehind group
        return .reference group
      else failAt (.invalidGroup group) (start + 1)
    else
      let code := ofDigits 8 ds
      if 0o377 < code then failAt (.octalTooLarge (shown ('\\' :: ds))) start
      else return .literal false code

/-! ## Sets -/

/-- The first part of a range, or a member that stands alone. -/
def readMember (s : Sign) (fuel : Nat) : Read Member :=
  match s with
  | .plain c _ => return .one c.toNat
  | .escaped c start => readSetEscape c start fuel
  | .broken start => failAt .escapeAtEnd start

/-- Reads the members of a set up to its closing bracket. `opened` is the offset of the opening
    one; `members` was read before. -/
def readMembers (opened : Nat) (members : List Member) : Nat → Read (List Member)
  | 0 => failAt .unterminatedSet opened
  | fuel + 1 => do
    match ← next with
    | none => failAt .unterminatedSet opened
    | some first =>
      if first.text = [']'] && !members.isEmpty then return members
      else
        let a ← readMember first fuel
        if ← accept '-' then
          match ← next with
          | none => failAt .unterminatedSet opened
          | some last =>
            if last.text = [']'] then return members ++ [a, .one '-'.toNat]
            else
              let b ← readMember last fuel
              let bad := Cause.badRange (shown first.text) (shown last.text)
              match a, b with
              | .one lo, .one hi =>
                if hi < lo then failAt bad (rangeStart first last (← tell))
                else readMembers opened (members ++ [.range lo hi]) fuel
              | _, _ => failAt bad (rangeStart first last (← tell))
        else readMembers opened (members ++ [a]) fuel
where
  /-- A bad range is told at the offset that its two ends, as single signs, would start at. -/
  rangeStart (first last : Sign) (here : Nat) : Nat :=
    here - (first.text.length + 1 + last.text.length)

/-- A set as a node: one with a single character is that character. -/
def setNode (negated : Bool) (members : List Member) : Node :=
  match members.eraseDups with
  | [.one code] => .literal negated code
  | distinct => .set negated distinct

/-! ## Repeats -/

/-- The repeat counts from this one on are refused. -/
def repeatLimit : Nat := 4294967295

/-- A bound of a repeat. -/
def readBound (ds : List Char) : Read Nat :=
  if LeadingInt.digitLimit < ds.length then throw (.tooManyDigits ds.length)
  else
    let n := ofDigits 10 ds
    if repeatLimit ≤ n then throw .hugeRepeat else return n

/-- Reads bounds after an opening brace; without a proper end nothing is taken. -/
def readBounds (here fuel : Nat) : Read (Option (Nat × Option Nat)) := do
  let before ← get
  if ← nextIs '\x7d' then return none
  let lo ← takeWhile Char.isDigit fuel
  let hi ← if ← accept ',' then takeWhile Char.isDigit fuel else pure lo
  if ← accept '\x7d' then
    let least ← if lo.isEmpty then pure 0 else readBound lo
    if hi.isEmpty then return some (least, none)
    else
      let most ← readBound hi
      if most < least then failAt .leastOverMost here
      else return some (least, some most)
  else
    set before
    return none

/-- A part as a sequence, a plain group opened up. -/
def openPlain (node : Node) : List Node :=
  match node with
  | .group none on off body => if on = .none && off = .none then body else [node]
  | _ => [node]

/-- How a repeat takes its part, which a sign after it may tell. -/
def readGreed : Read Greed := do
  if ← accept '?' then return .lazy
  if ← accept '+' then return .possessive
  return .greedy

/-- Repeats the last part read. `start` is the offset of the quantifier. -/
def repeatLast (nodes : List Node) (least : Nat) (most : Option Nat) (start : Nat) :
    Read (List Node) := do
  match nodes.getLast? with
  | none | some (.anchor _) => failAt .nothingToRepeat start
  | some (.repeated ..) => failAt .multipleRepeat start
  | some node =>
    let greed ← readGreed
    return nodes.dropLast ++ [.repeated least most greed (openPlain node)]

/-! ## Flags -/

/-- Flags written inside a pattern, of which the last is not kept for the pattern itself. -/
def flagOf? : Char → Option Flags
  | 'i' => some { ignoreCase := true }
  | 'm' => some { multiline := true }
  | 's' => some { dotAll := true }
  | 'x' => some { verbose := true }
  | 'a' => some { ascii := true }
  | 'u' => some { unicode := true }
  | 't' => some { template := true }
  | 'L' => some {}
  | _ => none

/-- The flag of a sign. -/
def Sign.flag? : Sign → Option (Char × Flags)
  | .plain c _ => (flagOf? c).map fun f => (c, f)
  | _ => none

/-- Whether a sign is a letter, which decides how an unknown flag is called. -/
def Sign.isLetter (s : Sign) : Bool := s.text.all Unicode.isLetter

/-- Reads flags to turn on. Returns them with the character that ended them. -/
def readFlagsOn (s : Sign) (on : Flags) : Nat → Read (Flags × Char)
  | 0 => fail .missingFlagEnd
  | fuel + 1 => do
    match s.flag? with
    | none => failAt (if s.isLetter then .unknownFlag else .missingFlagEnd) s.offset
    | some (c, flag) =>
      if c = 'L' then fail .localeFlag
      let on := on.union flag
      if on.ascii && on.unicode then fail .incompatibleFlags
      match ← next with
      | none => fail .missingFlagEnd
      | some s =>
        if s.text = [')'] then return (on, ')')
        else if s.text = ['-'] then return (on, '-')
        else if s.text = [':'] then return (on, ':')
        else readFlagsOn s on fuel

/-- Reads flags to turn off, up to the colon. `missing` is the cause when a sign is no flag. -/
def readFlagsOff (off : Flags) (missing : Cause) : Nat → Read Flags
  | 0 => fail missing
  | fuel + 1 => do
    match ← next with
    | none => fail missing
    | some s =>
      if missing = .missingColon && s.text = [':'] then return off
      else match s.flag? with
        | none => failAt (if s.isLetter then .unknownFlag else missing) s.offset
        | some (c, flag) =>
          if c = 'L' || flag.ascii || flag.unicode then fail .alphabetFlagOff
          readFlagsOff (off.union flag) .missingColon fuel

/-- Whether two sets of flags have one in common. -/
def Flags.meets (a b : Flags) : Bool :=
  (a.ignoreCase && b.ignoreCase) || (a.multiline && b.multiline) || (a.dotAll && b.dotAll) ||
    (a.verbose && b.verbose) || (a.template && b.template)

/-- Reads the flags of a group from its first sign; none means that they hold for the whole
    pattern. -/
def readFlags (s : Sign) (fuel : Nat) : Read (Option (Flags × Flags)) := do
  let (on, ending) ← if s.text = ['-'] then pure (Flags.none, '-') else readFlagsOn s .none fuel
  if ending = ')' then
    modify fun r => { r with flags := r.flags.union on }
    return none
  else
    if on.template then failAt .globalFlagOn ((← tell) - 1)
    let off ← if ending = '-' then readFlagsOff .none .missingFlag fuel else pure .none
    if off.template then failAt .globalFlagOff ((← tell) - 1)
    if on.meets off then failAt .flagOnAndOff ((← tell) - 1)
    return some (on, off)

/-! ## Groups -/

/-- Checks a name that was just read, with its terminator. -/
def checkName (name : List Char) : Read Nat := do
  let start := (← tell) - (name.length + 1)
  if Unicode.isName name then return start else failAt (.badGroupName (shown name)) start

/-- Opens a group, under a name if it has one. -/
def openGroup (name : Option (List Char)) : Read Nat := do
  let r ← get
  let group := r.widths.length + 1
  match name with
  | none => set { r with widths := r.widths ++ [none] }
  | some name =>
    let key := shown name
    match r.names.get? key with
    | some earlier =>
      failAt (.redefinedGroup key group earlier) ((← tell) - (name.length + 1))
    | none => set { r with widths := r.widths ++ [none], names := r.names.put key group }
  return group

/-- The widths of the groups read so far. -/
def Reading.groupWidth (r : Reading) (group : Nat) : Width :=
  match r.widths[group - 1]? with
  | some (some w) => w
  | _ => ⟨0, 0⟩

/-- Closes a group: from here on it can be referred to. -/
def closeGroup (group : Nat) (body : List Node) : Read Unit :=
  modify fun r => { r with widths := r.widths.set (group - 1) (some (seqWidth r.groupWidth body)) }

/-- A blank that may stand around a number. -/
def isNumberBlank (c : Char) : Bool :=
  Unicode.isAsciiBlank c || (127 < c.toNat && Unicode.isBlank c)

/-- The decimal digits of a text, with single underscores between them allowed. -/
def digitsOf? (afterDigit : Bool) : List Char → Option (List Nat)
  | [] => if afterDigit then some [] else none
  | '_' :: rest => if afterDigit then digitsOf? false rest else none
  | c :: rest => do
    let d ← Unicode.digitValue? c
    return d :: (← digitsOf? true rest)

/-- A whole number in any script, with blanks around it, a sign and single underscores between
    digits allowed, as long as it has not too many digits. -/
def wholeNumber? (s : List Char) : Option Int :=
  let body := (s.dropWhile isNumberBlank).reverse.dropWhile isNumberBlank |>.reverse
  let (negative, body) := LeadingInt.splitSign body
  match digitsOf? false body with
  | none => none
  | some ds =>
    if LeadingInt.digitLimit < ds.length then none
    else
      let n : Int := LeadingInt.ofDigits ds
      some (if negative then -n else n)

/-- The greatest number of groups. -/
def groupLimit : Nat := 1073741823

/-- The group that a condition asks for. -/
def readAsked (fuel : Nat) : Read Nat := do
  let name ← takeUntil ')' "group name" [] fuel
  let start := (← tell) - (name.length + 1)
  let group ←
    if Unicode.isName name then
      match (← get).names.get? (shown name) with
      | none => failAt (.unknownGroupName (shown name)) start
      | some group => pure group
    else
      match wholeNumber? name with
      | none | some (.negSucc _) => failAt (.badGroupName (shown name)) start
      | some (.ofNat group) =>
        if group = 0 then failAt .badGroupNumber start
        else if groupLimit ≤ group then failAt (.invalidGroup group) start
        else do
          modify fun r =>
            if r.asked.any (·.1 = group) then r
            else { r with asked := r.asked ++ [(group, start)] }
          pure group
  checkBehind group
  return group

/-- Skips a comment of a verbose pattern. -/
def skipLine : Nat → Read Unit
  | 0 => return ()
  | fuel + 1 => do
    match ← next with
    | none => return ()
    | some s => if s.text = ['\n'] then return () else skipLine fuel

/-- Skips a comment in a group of its own. -/
def skipComment (opened : Nat) : Nat → Read Unit
  | 0 => failAt .unterminatedComment opened
  | fuel + 1 => do
    match ← peek with
    | none => failAt .unterminatedComment opened
    | some s =>
      let _ ← next
      if s.text = [')'] then return () else skipComment opened fuel

/-- A blank that a verbose pattern skips. -/
def isSkipped (c : Char) : Bool := Unicode.isAsciiBlank c

/-- Takes the closing parenthesis of a group. -/
def closeParenthesis (opened : Nat) : Read Unit := do
  if !(← accept ')') then failAt .unterminatedGroup opened

/-! ## Alternatives -/

/-- Whether two parts are the same; parts that have parts of their own never are. -/
def Node.sameLeaf : Node → Node → Bool
  | .literal a b, .literal c d => a == c && b == d
  | .set a b, .set c d => a == c && b == d
  | .any, .any => true
  | .anchor a, .anchor b => a == b
  | .reference a, .reference b => a == b
  | _, _ => false

/-- The parts that an alternative has in common with all others at the front, and what is left of
    each. -/
def splitPrefix (others : List (List Node)) : List Node → List Node × List (List Node)
  | [] => ([], [] :: others)
  | node :: rest =>
    let shared := others.all fun
      | first :: _ => node.sameLeaf first
      | [] => false
    if shared then
      let (common, left) := splitPrefix (others.map (·.drop 1)) rest
      (node :: common, left)
    else ([], (node :: rest) :: others)

/-- The members of an alternative that is one character or one set. -/
def membersOf? : List Node → Option (List Member)
  | [.literal false code] => some [.one code]
  | [.set false members] => some members
  | _ => none

/-- Alternatives as parts of a sequence: what all of them start with comes first, and when only
    characters and sets are left, they make one set. -/
def joinAlternatives (first : List Node) (others : List (List Node)) : List Node :=
  let (common, left) := splitPrefix others first
  match left.mapM membersOf? with
  | some sets => common ++ [.set false sets.flatten.eraseDups]
  | none => common ++ [.branch left]

mutual

/-- Reads alternatives up to a closing parenthesis or the end. -/
def readAlternatives (verbose outermost : Bool) (before : List (List Node)) :
    Nat → Read (List Node)
  | 0 => return []
  | fuel + 1 => do
    let items ← readSequence verbose (outermost && before.isEmpty) [] fuel
    if ← accept '|' then
      let whole := (← get).flags.verbose
      let verbose := if outermost then whole else verbose
      readAlternatives verbose outermost (before ++ [items]) fuel
    else match before with
      | [] => return items
      | first :: others => return joinAlternatives first (others ++ [items])

/-- Reads a sequence up to a bar, a closing parenthesis or the end. `nodes` was read before; plain
    groups among them are opened up at the end. -/
def readSequence (verbose first : Bool) (nodes : List Node) : Nat → Read (List Node)
  | 0 => return nodes
  | fuel + 1 => do
    match ← peek with
    | none => return nodes.flatMap openPlain
    | some (.broken start) => failAt .escapeAtEnd start
    | some (.escaped c start) => do
      let _ ← next
      let node ← readEscape c start fuel
      readSequence verbose first (nodes ++ [node]) fuel
    | some (.plain c start) =>
      if c = '|' || c = ')' then return nodes.flatMap openPlain
      else do
        let _ ← next
        let here := start + 1
        let go (nodes : List Node) : Read (List Node) := readSequence verbose first nodes fuel
        if verbose && isSkipped c then go nodes
        else if verbose && c = '#' then
          skipLine fuel
          go nodes
        else if c = '[' then
          let negated ← accept '^'
          let members ← readMembers start [] fuel
          go (nodes ++ [setNode negated members])
        else if c = '?' then go (← repeatLast nodes 0 (some 1) start)
        else if c = '*' then go (← repeatLast nodes 0 none start)
        else if c = '+' then go (← repeatLast nodes 1 none start)
        else if c = '\x7b' then
          match ← readBounds here fuel with
          | none => go (nodes ++ [.literal false c.toNat])
          | some (least, most) => go (← repeatLast nodes least most start)
        else if c = '.' then go (nodes ++ [.any])
        else if c = '^' then go (nodes ++ [.anchor .lineStart])
        else if c = '$' then go (nodes ++ [.anchor .lineEnd])
        else if c = '(' then
          let (node, verbose) ← readGroup verbose (first && nodes.isEmpty) start fuel
          readSequence verbose first (nodes ++ node) fuel
        else go (nodes ++ [.literal false c.toNat])

/-- Reads a group after its opening parenthesis at offset `opened`. A comment and flags of the
    whole pattern leave no node; the latter may make the rest of the pattern verbose. -/
def readGroup (verbose first : Bool) (opened : Nat) : Nat → Read (List Node × Bool)
  | 0 => failAt .unterminatedGroup opened
  | fuel + 1 => do
    let capture (name : Option (List Char)) : Read (List Node × Bool) := do
      let group ← openGroup name
      let body ← readAlternatives verbose false [] fuel
      closeParenthesis opened
      closeGroup group body
      return ([.group (some group) .none .none body], verbose)
    let plain (on off : Flags) : Read (List Node × Bool) := do
      let body ← readAlternatives ((verbose || on.verbose) && !off.verbose) false [] fuel
      closeParenthesis opened
      return ([.group none on off body], verbose)
    let look (ahead negated : Bool) : Read (List Node × Bool) := do
      let outer := (← get).behind
      if !ahead && outer.isNone then
        let count ← groupCount
        modify fun r => { r with behind := some count }
      let body ← readAlternatives verbose false [] fuel
      if !ahead && outer.isNone then modify fun r => { r with behind := none }
      closeParenthesis opened
      let r ← get
      let back := if ahead then 0 else (seqWidth r.groupWidth body).told.least
      return ([.look ahead negated back body], verbose)
    if !(← accept '?') then capture none
    else
      match ← next with
      | none => fail .unexpectedEnd
      | some s =>
        let unknown (before : String) (s : Sign) : Read (List Node × Bool) :=
          failAt (.unknownExtension (before ++ shown s.text)) (opened + 1)
        match s with
        | .plain 'P' _ =>
          if ← accept '<' then
            let name ← takeUntil '>' "group name" [] fuel
            let _ ← checkName name
            capture (some name)
          else if ← accept '=' then
            let name ← takeUntil ')' "group name" [] fuel
            let start ← checkName name
            match (← get).names.get? (shown name) with
            | none => failAt (.unknownGroupName (shown name)) start
            | some group =>
              if (← closedWidth? group).isNone then failAt .openGroup start
              checkBehind group
              return ([.reference group], verbose)
          else
            match ← next with
            | none => fail .unexpectedEnd
            | some s => unknown "P" s
        | .plain ':' _ => plain .none .none
        | .plain '#' _ =>
          skipComment opened fuel
          return ([], verbose)
        | .plain '=' _ => look true false
        | .plain '!' _ => look true true
        | .plain '<' _ =>
          match ← next with
          | none => fail .unexpectedEnd
          | some (.plain '=' _) => look false false
          | some (.plain '!' _) => look false true
          | some s => unknown "<" s
        | .plain '(' _ =>
          let group ← readAsked fuel
          let yes ← readSequence verbose false [] fuel
          let no ← if ← accept '|' then
              let no ← readSequence verbose false [] fuel
              if ← nextIs '|' then fail .tooManyBranches
              pure no
            else pure []
          closeParenthesis opened
          return ([.conditional group yes no], verbose)
        | .plain '>' _ =>
          let body ← readAlternatives verbose false [] fuel
          closeParenthesis opened
          return ([.atomic body], verbose)
        | s =>
          if s.flag?.isSome || s.text = ['-'] then
            match ← readFlags s fuel with
            | some (on, off) => plain on off
            | none =>
              if first then return ([], (← get).flags.verbose)
              else failAt .lateGlobalFlags opened
          else unknown "" s

end

/-! ## Whole patterns -/

/-- The name of a repeat in the refusal of repeats. -/
def Greed.operator : Greed → String
  | greedy => "MAX_REPEAT"
  | lazy => "MIN_REPEAT"
  | possessive => "POSSESSIVE_REPEAT"

mutual

/-- What keeps a part from being searched for: a look-behind of variable width, or a repeat where
    repeats are refused. -/
def Node.obstacle? (groups : Nat → Width) (template : Bool) : Node → Option Cause
  | .group _ on _ body => seqObstacle? groups (template || on.template) body
  | .branch alternatives => anyObstacle? groups template alternatives
  | .repeated _ _ greed body =>
    if template then some (.templateRepeat greed.operator) else seqObstacle? groups template body
  | .look ahead _ _ body =>
    let w := (seqWidth groups body).told
    if !ahead && w.least ≠ w.most then some .variableLookbehind
    else seqObstacle? groups template body
  | .atomic body => seqObstacle? groups template body
  | .conditional _ yes no =>
    (seqObstacle? groups template yes).orElse fun _ => seqObstacle? groups template no
  | _ => none

/-- The first obstacle in a sequence. -/
def seqObstacle? (groups : Nat → Width) (template : Bool) : List Node → Option Cause
  | [] => none
  | node :: rest =>
    (node.obstacle? groups template).orElse fun _ => seqObstacle? groups template rest

/-- The first obstacle in alternatives. -/
def anyObstacle? (groups : Nat → Width) (template : Bool) : List (List Node) → Option Cause
  | [] => none
  | body :: rest =>
    (seqObstacle? groups template body).orElse fun _ => anyObstacle? groups template rest

end

/-- From this width on a look-behind cannot be searched for. -/
def backLimit : Nat := 2147483648

mutual

/-- Whether a part looks back too far. -/
def Node.looksTooFar : Node → Bool
  | .group _ _ _ body | .repeated _ _ _ body | .atomic body => seqLooksTooFar body
  | .branch alternatives => anyLooksTooFar alternatives
  | .look _ _ back body => backLimit ≤ back || seqLooksTooFar body
  | .conditional _ yes no => seqLooksTooFar yes || seqLooksTooFar no
  | _ => false

/-- Whether a sequence looks back too far. -/
def seqLooksTooFar : List Node → Bool
  | [] => false
  | node :: rest => node.looksTooFar || seqLooksTooFar rest

/-- Whether one of the alternatives looks back too far. -/
def anyLooksTooFar : List (List Node) → Bool
  | [] => false
  | body :: rest => seqLooksTooFar body || anyLooksTooFar rest

end

/-- Reads a whole pattern and checks what can only be checked at its end. -/
def readPattern (fuel : Nat) : Read Pattern := do
  checkNext
  let body ← readAlternatives (← get).flags.verbose true [] fuel
  let r ← get
  if r.flags.ascii && r.flags.unicode then throw .bothAlphabets
  if r.signs ≠ [] then fail .unbalanced
  for (group, offset) in r.asked do
    if r.widths.length < group then failAt (.invalidGroup group) offset
  match seqObstacle? r.groupWidth r.flags.template body with
  | some cause => throw (.malformed cause none)
  | none =>
    if seqLooksTooFar body then throw .looksTooFar
    return ⟨r.flags, body, r.widths.length⟩

/-- Reads a pattern under the flags that are given from outside. -/
def compile (flags : Flags) (pattern : List Char) : Except Fault Pattern :=
  let start : Reading :=
    { signs := Sign.ofText 0 pattern, size := pattern.length, flags := flags }
  (·.1) <$> (readPattern (4 * pattern.length + 8)).run start

end FieldRules.Pattern
