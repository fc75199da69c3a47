import FieldRules.Calendar.Moment
import FieldRules.Number.Leading
import FieldRules.Yaml.Node

/-!
# The data of a document

Data are made of nodes by their tags. Keys of mappings may be other things than texts; dates and
times are kept as texts, as they are shown in messages and as they are written.
-/

namespace FieldRules.Yaml

/-- What a document holds. -/
inductive Datum where
  | null
  | bool (b : Bool)
  | int (n : Int)
  | float (x : Binary64)
  | text (s : String)
  | bytes (content : List Nat)
  | time (shown written : String)
  | list (items : List Datum)
  | tuple (items : List Datum)
  | map (entries : List (Datum × Datum))
  | set (members : List Datum)
  deriving Inhabited, Repr

namespace Datum

/-! ## Text -/

/-- One byte between quotes. -/
def escapeByte (quote : Char) (n : Nat) : List Char :=
  let c := Char.ofNat n
  if c = quote || c = '\\' then ['\\', c]
  else if n = 9 then ['\\', 't']
  else if n = 10 then ['\\', 'n']
  else if n = 13 then ['\\', 'r']
  else if 32 ≤ n && n < 127 then [c]
  else '\\' :: 'x' :: hexDigits 2 n

/-- Bytes as they are shown. -/
def showBytes (content : List Nat) : String :=
  let quote := quoteFor (content.map Char.ofNat)
  String.ofList ('b' :: quote :: (content.flatMap (escapeByte quote) ++ [quote]))
where
  /-- Single quotes, unless only they would have to be escaped. -/
  quoteFor (s : List Char) : Char := Quoted.quoteFor s

mutual

/-- A datum as it is shown in messages. -/
def display : Datum → String
  | null => "None"
  | bool b => if b then "True" else "False"
  | int n => toString n
  | float x => x.text
  | text s => Quoted.ofText s
  | bytes content => showBytes content
  | time shown _ => shown
  | list items => "[" ++ String.intercalate ", " (displayItems items) ++ "]"
  | tuple [item] => "(" ++ display item ++ ",)"
  | tuple items => "(" ++ String.intercalate ", " (displayItems items) ++ ")"
  | map entries => "\x7b" ++ String.intercalate ", " (displayEntries entries) ++ "\x7d"
  | set [] => "set()"
  | set members => "\x7b" ++ String.intercalate ", " (displayItems members) ++ "\x7d"

/-- Items as they are shown. -/
def displayItems : List Datum → List String
  | [] => []
  | d :: rest => display d :: displayItems rest

/-- Entries as they are shown. -/
def displayEntries : List (Datum × Datum) → List String
  | [] => []
  | (k, v) :: rest => (display k ++ ": " ++ display v) :: displayEntries rest

end

/-- The text of a datum. -/
def toText : Datum → String
  | text s => s
  | time _ written => written
  | d => d.display

/-- Whether a datum counts as present. -/
def truthy : Datum → Bool
  | null => false
  | bool b => b
  | int n => n ≠ 0
  | float x => !x.isZero
  | text s => s ≠ ""
  | bytes content => !content.isEmpty
  | time _ _ => true
  | list items | tuple items | set items => !items.isEmpty
  | map entries => !entries.isEmpty

/-- The name of a datum's kind in messages. -/
def kindName : Datum → String
  | null => "NoneType"
  | bool _ => "bool"
  | int _ => "int"
  | float _ => "float"
  | text _ => "str"
  | bytes _ => "bytes"
  | time shown _ => String.ofList (shown.toList.takeWhile (· ≠ '('))
  | list _ => "list"
  | tuple _ => "tuple"
  | map _ => "dict"
  | set _ => "set"

/-! ## Keys -/

/-- A key that is a number or a text, as a value. -/
def plain? : Datum → Option Value
  | null => some .null
  | bool b => some (.bool b)
  | int n => some (.int n)
  | float x => some (.float x)
  | text s => some (.text s)
  | _ => none

/-- Whether two keys are one. -/
def isSameKey (a b : Datum) : Bool :=
  match a.plain?, b.plain? with
  | some x, some y => x.same y
  | none, none => a.display = b.display
  | _, _ => false

/-- Writes an entry: in the place of the old one, or last. -/
def putEntry (entries : List (Datum × Datum)) (key value : Datum) : List (Datum × Datum) :=
  match entries with
  | [] => [(key, value)]
  | (k, v) :: rest =>
    if k.isSameKey key then (k, value) :: rest else (k, v) :: putEntry rest key value

/-- The datum under a text. -/
def get? (d : Datum) (key : String) : Option Datum :=
  match d with
  | map entries =>
    (entries.find? fun e => match e.1 with | .text k => k = key | _ => false).map (·.2)
  | _ => none

mutual

/-- A datum as a value; keys become texts. -/
def toValue : Datum → Value
  | null => .null
  | bool b => .bool b
  | int n => .int n
  | float x => .float x
  | text s => .text s
  | bytes content => .text (showBytes content)
  | time _ written => .text written
  | list items | tuple items | set items => .list (toValues items)
  | map entries => .map (toEntries entries)

/-- Items as values. -/
def toValues : List Datum → List Value
  | [] => []
  | d :: rest => toValue d :: toValues rest

/-- Entries with texts for keys. -/
def toEntries : List (Datum × Datum) → List (String × Value)
  | [] => []
  | (k, v) :: rest => (toText k, toValue v) :: toEntries rest

end

end Datum

/-! ## Scalars -/

/-- What a scalar cannot be read as, in words. -/
def invalidInteger {α : Type} (base : Nat) (s : List Char) : Except Fault α :=
  .error (.misfit .number
    s!"invalid literal for int() with base {base}: {Quoted.ofText (String.ofList s)}")

/-- The value of a digit. -/
def digitOf (c : Char) : Nat :=
  if c.isDigit then c.toNat - 48 else if 'a' ≤ c then c.toNat - 87 else c.toNat - 55

/-- A number without a sign to some base. -/
def readNat (base : Nat) (s : List Char) : Except Fault Nat :=
  let isDigit (c : Char) : Bool :=
    if base = 16 then isHexDigit c else c.isDigit && digitOf c < base
  if s.isEmpty || !s.all isDigit then invalidInteger base s
  else if base = 10 && LeadingInt.digitLimit < s.length then
    .error (.misfit .number
      (s!"Exceeds the limit ({LeadingInt.digitLimit} digits) for integer string conversion: " ++
        s!"value has {s.length} digits; use sys.set_int_max_str_digits() to increase the limit"))
  else .ok (s.foldl (fun n c => base * n + digitOf c) 0)

/-- A scalar as an integer. -/
def readInteger (s : List Char) : Except Fault Int := do
  let s := s.filter (· ≠ '_')
  if s.isEmpty then throw (.misfit .emptyNumber "string index out of range")
  let negative := s.head? = some '-'
  let n ←
    match withoutSign s with
    | ['0'] => pure 0
    | '0' :: 'b' :: digits => readNat 2 digits
    | '0' :: 'x' :: digits => readNat 16 digits
    | [] => throw (.misfit .emptyNumber "string index out of range")
    | t =>
      if t.head? = some '0' then readNat 8 t
      else
        let groups ← (colonGroups t).mapM (readNat 10)
        pure (groups.foldl (fun n g => 60 * n + g) 0)
  return if negative then -(n : Int) else n

/-- A number with a point or an exponent and without a sign. -/
def readFraction (s : List Char) : Except Fault Binary64 :=
  let whole := s.takeWhile Char.isDigit
  let rest := s.drop whole.length
  let fraction := match rest with | '.' :: t => t.takeWhile Char.isDigit | _ => []
  let rest := match rest with | '.' :: t => t.drop fraction.length | t => t
  let number (exponent : Int) : Except Fault Binary64 :=
    let digits := (whole ++ fraction).foldl (fun n c => 10 * n + digitOf c) 0
    .ok (.ofDecimal false digits (exponent - fraction.length))
  let fail : Except Fault Binary64 :=
    let shown := Quoted.ofText (String.ofList s)
    .error (.misfit .number s!"could not convert string to float: {shown}")
  if whole.isEmpty && fraction.isEmpty then fail
  else
    match rest with
    | [] => number 0
    | 'e' :: t =>
      let digits := withoutSign t
      if digits.isEmpty || !digits.all Char.isDigit then fail
      else
        let n : Int := digits.foldl (fun n c => 10 * n + digitOf c) 0
        number (if t.head? = some '-' then -n else n)
    | _ => fail

/-- A scalar as a number with a point. -/
def readFloat (s : List Char) : Except Fault Binary64 := do
  let s := (s.filter (· ≠ '_')).map Char.toLower
  if s.isEmpty then throw (.misfit .emptyNumber "string index out of range")
  let signed (x : Binary64) : Binary64 := if s.head? = some '-' then x.neg else x
  let t := withoutSign s
  if t = ".inf".toList then return signed (.infinite false)
  if t = ".nan".toList then return .notANumber
  if t.contains ':' then
    let groups ← (colonGroups t).mapM readFraction
    let zero : Binary64 := .ofInt 0
    let (sum, _) :=
      groups.reverse.foldl (fun (sum, base) g => (Binary64.add sum (g.scale base), base * 60))
        (zero, 1)
    return signed sum
  return signed (← readFraction t)

/-- The number with the given digits; no digits are zero. -/
def decimal (s : List Char) : Nat := s.foldl (fun n c => 10 * n + digitOf c) 0

/-- A span of time as it is shown: whole days, and the seconds that are left over. -/
def showSpan (seconds : Int) : String :=
  let days := seconds / 86400
  let left := seconds % 86400
  let parts := (if days = 0 then [] else [s!"days={days}"]) ++
    (if left = 0 then [] else [s!"seconds={left}"])
  "datetime.timedelta(" ++ String.intercalate ", " parts ++ ")"

/-- The seconds by which a zone is ahead; none for one a day or more away. -/
def Offset.seconds? (o : Offset) : Option Int :=
  let distance : Int := decimal o.hours * 3600 + decimal o.minutes * 60
  if 86400 ≤ distance then none else some (if o.negative then -distance else distance)

/-- The fault of a zone that is a day or more away. -/
def distantZone (o : Offset) : Fault :=
  let distance : Int := decimal o.hours * 3600 + decimal o.minutes * 60
  .misfit .number ("offset must be a timedelta strictly between " ++
    "-timedelta(hours=24) and timedelta(hours=24), not " ++
    showSpan (if o.negative then -distance else distance) ++ ".")

/-- The zone of a time, ahead by so many seconds, as it is shown. -/
def showZone (seconds : Int) : String :=
  if seconds = 0 then ", tzinfo=datetime.timezone.utc"
  else ", tzinfo=datetime.timezone(" ++ showSpan seconds ++ ")"

/-- A number in two digits. -/
def twoDigits (n : Nat) : String := if n < 10 then s!"0{n}" else toString n

/-- A number in so many digits. -/
def paddedDigits (width n : Nat) : String :=
  String.ofList (List.replicate (width - (toString n).length) '0') ++ toString n

/-- The zone of a time, ahead by so many seconds, as it is written. -/
def writeZone (seconds : Int) : String :=
  let minutes := seconds.natAbs / 60
  (if seconds < 0 then "-" else "+") ++ twoDigits (minutes / 60) ++ ":" ++ twoDigits (minutes % 60)

/-- Refuses a date that is not in the calendar. -/
def checkDate (year month day : Nat) : Except Fault Unit := do
  let bad (detail : String) : Except Fault Unit := .error (.misfit .number detail)
  if year = 0 then bad "year 0 is out of range"
  if month = 0 || 12 < month then bad "month must be in 1..12"
  if day = 0 || Calendar.daysInMonth year month < day then bad "day is out of range for month"

/-- A scalar as a date, with a time or without: as it is shown, and as it is written. -/
def readTime (s : List Char) : Except Fault (String × String) := do
  let some p := dateParts s
    | throw (.misfit .time "'NoneType' object has no attribute 'groupdict'")
  let (year, month, day) := (decimal p.year, decimal p.month, decimal p.day)
  let date := s!"{paddedDigits 4 year}-{twoDigits month}-{twoDigits day}"
  match p.time with
  | none =>
    checkDate year month day
    return (s!"datetime.date({year}, {month}, {day})", date)
  | some t =>
    let zone ←
      match t.zone with
      | none => pure none
      | some none => pure (some 0)
      | some (some o) =>
        match o.seconds? with
        | some seconds => pure (some seconds)
        | none => throw (distantZone o)
    checkDate year month day
    let (hour, minute, second) := (decimal t.hour, decimal t.minute, decimal t.second)
    if 23 < hour then throw (.misfit .number "hour must be in 0..23")
    if 59 < minute then throw (.misfit .number "minute must be in 0..59")
    if 59 < second then throw (.misfit .number "second must be in 0..59")
    let digits := (t.fraction.getD []).take 6
    let micro := decimal (digits ++ List.replicate (6 - digits.length) '0')
    let clock := s!"{hour}, {minute}" ++
      (if micro ≠ 0 then s!", {second}, {micro}" else if second ≠ 0 then s!", {second}" else "")
    let written := s!"{twoDigits hour}:{twoDigits minute}:{twoDigits second}" ++
      (if micro ≠ 0 then s!".{paddedDigits 6 micro}" else "")
    let shownZone := (zone.map showZone).getD ""
    let writtenZone := (zone.map writeZone).getD ""
    return (s!"datetime.datetime({year}, {month}, {day}, {clock}{shownZone})",
      s!"{date} {written}{writtenZone}")

/-- The value of a character of base 64. -/
def base64Digit? (c : Char) : Option Nat :=
  if 'A' ≤ c && c ≤ 'Z' then some (c.toNat - 65)
  else if 'a' ≤ c && c ≤ 'z' then some (c.toNat - 71)
  else if c.isDigit then some (c.toNat + 4)
  else if c = '+' then some 62
  else if c = '/' then some 63
  else none

/-- The digits of a text in base 64 after those that have been read, with the number of signs that
    pad them out since the last one. Other characters are left out, and digits that are padded out
    are the last ones. The fault is in words. -/
def base64Digits (digits : List Nat) (pads : Nat) : List Char → Except String (List Nat)
  | [] =>
    match digits.length % 4 with
    | 0 => .ok digits
    | 1 => .error ("Invalid base64-encoded string: number of data characters " ++
        s!"({digits.length}) cannot be 1 more than a multiple of 4")
    | _ => .error "Incorrect padding"
  | c :: rest =>
    let left := digits.length % 4
    if c = '=' then
      if left < 2 then base64Digits digits pads rest
      else if left + pads < 3 then base64Digits digits (pads + 1) rest
      else .ok digits
    else
      match base64Digit? c with
      | some digit => base64Digits (digits ++ [digit]) 0 rest
      | none => base64Digits digits pads rest

/-- The bytes of digits of base 64, four digits for three bytes. -/
def bytesOf : List Nat → List Nat
  | a :: b :: c :: d :: rest =>
    (a * 4 + b / 16) :: (b % 16 * 16 + c / 4) :: (c % 4 * 64 + d) :: bytesOf rest
  | [a, b, c] => [a * 4 + b / 16, b % 16 * 16 + c / 4]
  | [a, b] => [a * 4 + b / 16]
  | _ => []

/-- The first characters of a text that are not in ASCII, in words. -/
def beyondAscii? (s : List Char) : Option String :=
  let first := (s.takeWhile fun c => c.toNat < 128).length
  let what :=
    match (s.drop first).takeWhile fun c => 128 ≤ c.toNat with
    | [] => none
    | [c] => some s!"character '{String.ofList (Quoted.escapeCode c)}' in position {first}"
    | run => some s!"characters in position {first}-{first + run.length - 1}"
  what.map fun what => s!"'ascii' codec can't encode {what}: ordinal not in range(128)"

/-- The bytes of a text in base 64; the fault is in words. -/
def readBase64 (s : List Char) : Except String (List Nat) :=
  match beyondAscii? s with
  | some problem => .error s!"failed to convert base64 data into ascii: {problem}"
  | none =>
    match base64Digits [] 0 s with
    | .ok digits => .ok (bytesOf digits)
    | .error problem => .error s!"failed to decode base64 data: {problem}"

/-! ## Nodes -/

/-- The fault of a node of the wrong kind. -/
def wrongKind {α : Type} (expected : String) (n : Node) : Except Fault α :=
  .error (.malformed none s!"expected {expected} node, but found {n.kind}" (some n.mark))

/-- The text of a scalar; a mapping may have one for its own value. -/
def scalarText (n : Node) : Nat → Except Fault String
  | 0 => wrongKind "a scalar" n
  | depth + 1 =>
    match n with
    | .scalar _ text _ => .ok text
    | .mapping _ entries _ =>
      match entries.find? fun e => e.1.tag = coreTag "value" with
      | some (_, value) => scalarText value depth
      | none => wrongKind "a scalar" n
    | n => wrongKind "a scalar" n

/-- The entries of a mapping, those that are merged into it first. -/
def mergedEntries (began : Mark) (entries : List (Node × Node)) :
    Nat → Except Fault (List (Node × Node))
  | 0 => .ok entries
  | depth + 1 => do
    let isMerge (e : Node × Node) : Bool := e.1.tag = coreTag "merge"
    let merged ← (entries.filter isMerge).mapM fun e =>
      match e.2 with
      | .mapping _ inner m => mergedEntries m inner depth
      | .sequence _ items _ => do
        let parts ← items.mapM fun item =>
          match item with
          | .mapping _ inner m => mergedEntries m inner depth
          | n =>
            .error (.malformed (some ("while constructing a mapping", some began))
              s!"expected a mapping for merging, but found {n.kind}" (some n.mark))
        return parts.reverse.flatten
      | n =>
        .error (.malformed (some ("while constructing a mapping", some began))
          s!"expected a mapping or list of mappings for merging, but found {n.kind}" (some n.mark))
    let own := (entries.filter fun e => !isMerge e).map fun e =>
      match e.1 with
      | .scalar tag text m =>
        if tag = coreTag "value" then (.scalar (coreTag "str") text m, e.2) else e
      | _ => e
    return merged.flatten ++ own

/-- The tags of nodes that cannot be keys. -/
def unhashableTags : List String := ["seq", "map", "set", "omap", "pairs"].map coreTag

mutual

/-- The datum of a node. -/
def build (n : Node) : Nat → Except Fault Datum
  | 0 => .ok .null
  | depth + 1 => do
    let tag := n.tag
    match n with
    | .itself m => throw (.malformed none "found unconstructable recursive node" (some m))
    | n =>
      if tag = coreTag "null" then
        let _ ← scalarText n (depth + 1)
        return .null
      else if tag = coreTag "bool" then
        let word := (← scalarText n (depth + 1)).map Char.toLower
        match truthWords.lookup word with
        | some b => return .bool b
        | none => throw (.misfit .truthValue (Quoted.ofText word))
      else if tag = coreTag "int" then
        return .int (← readInteger (← scalarText n (depth + 1)).toList)
      else if tag = coreTag "float" then
        return .float (← readFloat (← scalarText n (depth + 1)).toList)
      else if tag = coreTag "binary" then
        match readBase64 (← scalarText n (depth + 1)).toList with
        | .ok content => return .bytes content
        | .error problem => throw (.malformed none problem (some n.mark))
      else if tag = coreTag "timestamp" then
        let (shown, written) ← readTime (← scalarText n (depth + 1)).toList
        return .time shown written
      else if tag = coreTag "str" then return .text (← scalarText n (depth + 1))
      else if tag = coreTag "seq" then
        match n with
        | .sequence _ items _ => return .list (← buildAll items depth)
        | n => wrongKind "a sequence" n
      else if tag = coreTag "map" then return .map (← buildMapping n depth)
      else if tag = coreTag "set" then
        return .set ((← buildMapping n depth).map (·.1))
      else if tag = coreTag "omap" then
        return .list (← buildPairs "while constructing an ordered map" n depth)
      else if tag = coreTag "pairs" then
        return .list (← buildPairs "while constructing pairs" n depth)
      else
        throw (.malformed none
          s!"could not determine a constructor for the tag {Quoted.ofText tag}" (some n.mark))

/-- The data of some nodes. -/
def buildAll (items : List Node) : Nat → Except Fault (List Datum)
  | 0 => .ok []
  | depth + 1 => items.mapM fun item => build item depth

/-- The entries of a mapping. -/
def buildMapping (n : Node) : Nat → Except Fault (List (Datum × Datum))
  | 0 => .ok []
  | depth + 1 =>
    match n with
    | .mapping _ entries m => do
      let entries ← mergedEntries m entries (depth + 1)
      entries.foldlM (fun done e => do
        if e.1.tag ∈ unhashableTags then
          throw (.malformed (some ("while constructing a mapping", some m)) "found unhashable key"
            (some e.1.mark))
        let key ← build e.1 depth
        let value ← build e.2 depth
        return Datum.putEntry done key value) []
    | n => wrongKind "a mapping" n

/-- The pairs of a list of mappings with one entry each. -/
def buildPairs (context : String) (n : Node) : Nat → Except Fault (List Datum)
  | 0 => .ok []
  | depth + 1 =>
    match n with
    | .sequence _ items m =>
      items.mapM fun item =>
        match item with
        | .mapping _ [(key, value)] _ => do
          return .tuple [← build key depth, ← build value depth]
        | .mapping _ entries place =>
          .error (.malformed (some (context, some m))
            s!"expected a single mapping item, but found {entries.length} items" (some place))
        | other =>
          .error (.malformed (some (context, some m))
            s!"expected a mapping of length 1, but found {other.kind}" (some other.mark))
    | n =>
      .error (.malformed (some (context, some n.mark))
        s!"expected a sequence, but found {n.kind}" (some n.mark))

end

/-- The data of a document. A node stands at most as deep as there are characters. -/
def read (s : List Char) : Except Fault Datum := do
  match ← nodeOf? s with
  | none => return .null
  | some n => build n (2 * s.length + 4)

end FieldRules.Yaml
