import FieldRules.Yaml.Cursor

/-!
# What a plain scalar is

A scalar without a tag and without quotes is what it looks like: a truth value, a number, a date,
nothing, or else a text.
-/

namespace FieldRules.Yaml

/-- The tag of a kind of node. -/
def coreTag (name : String) : String := "tag:yaml.org,2002:" ++ name

/-- The words for truth values. -/
def truthWords : List (String × Bool) :=
  [("yes", true), ("no", false), ("true", true), ("false", false), ("on", true), ("off", false)]

/-- A word in lower case, with a capital in front, or in capitals. -/
def spellings (word : String) : List String :=
  let first := String.ofList ((word.toList.take 1).map Char.toUpper ++ word.toList.drop 1)
  [word, first, word.map Char.toUpper]

/-- A digit of some base, or an underscore. -/
def isDigitOrGap (base : Nat) (c : Char) : Bool :=
  c = '_' || (if base = 16 then isHexDigit c else c.isDigit && c.toNat - 48 < base)

/-- A number without a sign in front. -/
def withoutSign : List Char → List Char
  | '+' :: rest | '-' :: rest => rest
  | s => s

/-- A group of a number to the base of sixty: a colon and up to two digits, the first below six. -/
def isSixtieth (s : List Char) : Bool :=
  match s with
  | [d] => d.isDigit
  | [t, d] => '0' ≤ t && t ≤ '5' && d.isDigit
  | _ => false

/-- The groups after the colons of a text. -/
def colonGroups : List Char → List (List Char)
  | [] => [[]]
  | c :: rest =>
    match colonGroups rest with
    | group :: groups => if c = ':' then [] :: group :: groups else (c :: group) :: groups
    | [] => [[c]]

/-- A decimal number with underscores, not beginning with one. -/
def isDecimalRun (s : List Char) : Bool :=
  match s with
  | c :: rest => c.isDigit && rest.all (isDigitOrGap 10)
  | [] => false

/-- Whether a text looks like an integer. -/
def looksInteger (s : List Char) : Bool :=
  match withoutSign s with
  | '0' :: 'b' :: digits => !digits.isEmpty && digits.all (isDigitOrGap 2)
  | '0' :: 'x' :: digits => !digits.isEmpty && digits.all (isDigitOrGap 16)
  | '0' :: digits => digits.all (isDigitOrGap 8)
  | t =>
    match colonGroups t with
    | first :: groups => isDecimalRun first && groups.all isSixtieth
    | [] => false

/-- Whether a text is empty or an exponent with a sign. -/
def isExponentOrEmpty : List Char → Bool
  | [] => true
  | e :: sign :: digits =>
    (e = 'e' || e = 'E') && (sign = '+' || sign = '-') && !digits.isEmpty && digits.all Char.isDigit
  | _ => false

/-- Whether a text looks like a number with a point. -/
def looksFloat (s : List Char) : Bool :=
  let t := withoutSign s
  let word := String.ofList t
  let isEndless := word ∈ [".inf", ".Inf", ".INF"]
  let isNaN := String.ofList s ∈ [".nan", ".NaN", ".NAN"]
  let whole := t.takeWhile (isDigitOrGap 10)
  let isPlain :=
    match t.drop whole.length with
    | '.' :: rest =>
      let fraction := rest.takeWhile (isDigitOrGap 10)
      let ending := isExponentOrEmpty (rest.drop fraction.length)
      if whole.isEmpty then s = t && isDecimalRun fraction && ending
      else isDecimalRun whole && ending
    | _ => false
  let isSexagesimal :=
    match colonGroups t with
    | first :: second :: groups =>
      let all := second :: groups
      let last := all.getLastD []
      let seconds := last.takeWhile (· ≠ '.')
      isDecimalRun first && (all.dropLast ++ [seconds]).all isSixtieth &&
        (last.drop seconds.length).head? = some '.' &&
        (last.drop (seconds.length + 1)).all (isDigitOrGap 10)
    | _ => false
  isEndless || isNaN || isPlain || isSexagesimal

/-! ## Dates -/

/-- A distance from universal time as it is written: its sign, its hours and its minutes; none for
    universal time itself. -/
structure Offset where
  negative : Bool
  hours : List Char
  minutes : List Char
  deriving Repr

/-- The parts of a time as they are written; the fraction without its point. -/
structure TimeParts where
  hour : List Char
  minute : List Char
  second : List Char
  fraction : Option (List Char)
  zone : Option (Option Offset)
  deriving Repr

/-- The parts of a date as they are written. -/
structure DateParts where
  year : List Char
  month : List Char
  day : List Char
  time : Option TimeParts
  deriving Repr

/-- Takes between `least` and `most` digits. -/
def takeDigits (least most : Nat) (s : List Char) : Option (List Char × List Char) :=
  let taken := (s.take most).takeWhile Char.isDigit
  if least ≤ taken.length then some (taken, s.drop taken.length) else none

/-- Takes a character. -/
def takeChar (c : Char) : List Char → Option (List Char)
  | d :: rest => if c = d then some rest else none
  | [] => none

/-- Reads the end of a time: nothing, or a zone. -/
def zoneParts (s : List Char) : Option (Option (Option Offset)) :=
  match s.dropWhile fun c => c = ' ' || c = '\t' with
  | [] => if s.isEmpty then some none else none
  | ['Z'] => some (some none)
  | sign :: rest =>
    if sign = '+' || sign = '-' then do
      let (hours, rest) ← takeDigits 1 2 rest
      match rest with
      | [] => some (some (some ⟨sign = '-', hours, []⟩))
      | ':' :: rest =>
        let (minutes, rest) ← takeDigits 2 2 rest
        if rest.isEmpty then some (some (some ⟨sign = '-', hours, minutes⟩)) else none
      | _ => none
    else none

/-- Reads a time. -/
def timeParts (s : List Char) : Option TimeParts := do
  let (hour, s) ← takeDigits 1 2 s
  let s ← takeChar ':' s
  let (minute, s) ← takeDigits 2 2 s
  let s ← takeChar ':' s
  let (second, s) ← takeDigits 2 2 s
  match s with
  | '.' :: rest =>
    let fraction := rest.takeWhile Char.isDigit
    return ⟨hour, minute, second, some fraction, ← zoneParts (rest.drop fraction.length)⟩
  | s => return ⟨hour, minute, second, none, ← zoneParts s⟩

/-- Reads a date, with a time or without. -/
def dateParts (s : List Char) : Option DateParts := do
  let (year, s) ← takeDigits 4 4 s
  let s ← takeChar '-' s
  let (month, s) ← takeDigits 1 2 s
  let s ← takeChar '-' s
  let (day, s) ← takeDigits 1 2 s
  match s with
  | [] => return ⟨year, month, day, none⟩
  | c :: rest =>
    if c = 'T' || c = 't' then return ⟨year, month, day, some (← timeParts rest)⟩
    else if c = ' ' || c = '\t' then
      let time ← timeParts (rest.dropWhile fun c => c = ' ' || c = '\t')
      return ⟨year, month, day, some time⟩
    else none

/-- Whether a text looks like a date: without a time it has two digits for month and day. -/
def looksDate (s : List Char) : Bool :=
  match dateParts s with
  | some p => p.time.isSome || (p.month.length = 2 && p.day.length = 2)
  | none => false

/-! ## The tag -/

/-- The tag of a plain scalar. -/
def plainTag (s : List Char) : String :=
  let word := String.ofList s
  if word ∈ ["", "~", "null", "Null", "NULL"] then coreTag "null"
  else if truthWords.any fun w => word ∈ spellings w.1 then coreTag "bool"
  else if looksFloat s then coreTag "float"
  else if looksInteger s then coreTag "int"
  else if word = "<<" then coreTag "merge"
  else if looksDate s then coreTag "timestamp"
  else if word = "=" then coreTag "value"
  else coreTag "str"

end FieldRules.Yaml
