import FieldRules.Calendar.Lexeme
import FieldRules.Calendar.Moment
import FieldRules.Number.Binary64

/-!
# Reading dates

A date is read from the lexemes of a text in any usual order of its parts. Parts that are missing
come from today's date, with midnight as the time of day; a year of two digits is the one nearest to
today's.
-/

namespace FieldRules.Calendar

/-- Why a text is not read as a date. -/
inductive Fault where
  /-- It is no date. -/
  | noDate
  /-- A number has more digits than can be divided. -/
  | hugeNumber
  deriving DecidableEq, Repr

/-- A number with the digits of its fraction. -/
structure Amount where
  whole : Nat
  fraction : List Nat
  deriving DecidableEq, Repr

/-- The number of a lexeme that is made of digits with at most one dot between them. -/
def amount? (s : List Char) : Option Amount :=
  let wholePart := s.takeWhile (· ≠ '.')
  let rest := s.dropWhile (· ≠ '.')
  let value (ds : List Char) : Option (List Nat) := ds.mapM Unicode.digitValue?
  match value wholePart, value (rest.drop 1) with
  | some w, some f =>
    if w.isEmpty then none else some ⟨w.foldl (fun n d => n * 10 + d) 0, f⟩
  | _, _ => none

/-- Words that are read as numbers but have no digits. -/
def isNumberWord (s : List Char) : Bool :=
  ["nan", "inf", "infinity"].contains (String.ofList (s.map Char.toLower))

/-- The whole number that a lexeme is. -/
def whole (s : List Char) : Except Fault Int :=
  if s.isEmpty || 4300 < s.length then .error .noDate
  else match s.mapM Unicode.digitValue? with
    | some ds => .ok ((ds.foldl (fun n d => n * 10 + d) 0 : Nat) : Int)
    | none => .error .noDate

/-- Whether a number has a fraction. -/
def Amount.hasFraction (a : Amount) : Bool := a.fraction.any (· ≠ 0)

/-- The number of digits that arithmetic keeps, and the greatest number of them that a whole number
    may have to be divided. -/
def precision : Nat := 28

/-- The least number of digits to drop so that at most `precision` are left. -/
def excessDigits (n : Nat) : Nat := (toString n).length - precision

/-- A number rounded to `precision` digits, a tie to the even neighbour; the dropped digits are
    zeros. -/
def roundDigits (n : Nat) : Nat :=
  let unit := tenTo (excessDigits n)
  roundQuotient n unit * unit

/-- The fraction of a number in sixtieths, rounded down. The fraction and its product with sixty are
    rounded to `precision` digits before, so that a fraction next to one gives sixty. -/
def Amount.sixtieths (a : Amount) : Nat :=
  let fraction := roundDigits (a.fraction.foldl (fun n d => n * 10 + d) 0)
  roundDigits (fraction * 60) / tenTo a.fraction.length

/-- The parts of a date that a text gives, in the order of the text. -/
structure Parts where
  values : List Int := []
  centuryGiven : Bool := false
  monthAt : Option Nat := none
  yearAt : Option Nat := none

/-- What a part of a date is known to be. -/
inductive Label where
  | year
  | month
  deriving DecidableEq, Repr

/-- Adds a part. One above 100, or `long`, can only be a year. -/
def Parts.add (p : Parts) (n : Int) (long : Bool) (label : Option Label) : Except Fault Parts :=
  let label? : Except Fault (Option Label) :=
    if long then if label = some .month then .error .noDate else .ok (some .year) else .ok label
  match label? with
  | .error f => .error f
  | .ok label =>
    let index := p.values.length
    let p := { p with values := p.values ++ [n], centuryGiven := p.centuryGiven || long }
    match label with
    | none => .ok p
    | some .month =>
      if p.monthAt.isSome then .error .noDate else .ok { p with monthAt := some index }
    | some .year =>
      if p.yearAt.isSome then .error .noDate else .ok { p with yearAt := some index }

/-- Adds a number. -/
def Parts.addNumber (p : Parts) (n : Int) (label : Option Label) : Except Fault Parts :=
  p.add n (100 < n) label

/-- Adds a lexeme. -/
def Parts.addLexeme (p : Parts) (s : List Char) (label : Option Label) : Except Fault Parts := do
  let long := s.all Unicode.isDigitLike && 2 < s.length
  if long && label = some .month then throw .noDate
  p.add (← whole s) long label

/-- Whether a number can be the day beside the parts that are known. -/
def Parts.canBeDay (p : Parts) (a : Amount) : Except Fault Bool :=
  let upTo (most : Nat) : Bool :=
    1 ≤ a.whole && (a.whole < most || (a.whole = most && !a.hasFraction))
  match p.monthAt with
  | none => .ok (upTo 31)
  | some m =>
    let month := p.values[m]?.getD 0
    let year := match p.yearAt with
      | some y => p.values[y]?.getD 0
      | none => 2000
    let days := daysInMonth year month
    if days = 0 then .error .noDate else .ok (upTo days)

/-- Year, month and day, as far as they are given. -/
structure Resolved where
  year : Option Int := none
  month : Option Int := none
  day : Option Int := none

/-- Decides which part is which: labels first, then what cannot be a day, then month before day. -/
def Parts.resolve (p : Parts) : Except Fault Resolved :=
  match p.values, p.monthAt, p.yearAt with
  | [], _, _ => .ok {}
  | [a], none, some _ => .ok { year := some a }
  | [a], some _, _ => .ok { month := some a }
  | [a], none, none => .ok (if 31 < a then { year := some a } else { day := some a })
  | [a, b], some m, some _ =>
    .ok (if m = 0 then { month := some a, year := some b } else { month := some b, year := some a })
  | [a, b], some m, none =>
    let (month, other) := if m = 0 then (a, b) else (b, a)
    .ok (if 31 < other then { month := some month, year := some other }
      else { month := some month, day := some other })
  | [a, b], none, _ =>
    .ok (if 31 < a then { year := some a, month := some b }
      else if 31 < b then { month := some a, year := some b }
      else { month := some a, day := some b })
  | [a, b, c], some m, some y =>
    let at' (i : Nat) : Int := [a, b, c][i]?.getD 0
    .ok { year := some (at' y), month := some (at' m), day := some (at' (3 - m - y)) }
  | [a, b, c], some 0, none =>
    .ok (if 31 < b then { month := some a, year := some b, day := some c }
      else { month := some a, day := some b, year := some c })
  | [a, b, c], some 1, none =>
    .ok (if 31 < a then { year := some a, month := some b, day := some c }
      else { day := some a, month := some b, year := some c })
  | [a, b, c], some _, none =>
    .ok (if 31 < b then { day := some a, year := some b, month := some c }
      else { year := some a, day := some b, month := some c })
  | [a, b, c], none, y =>
    .ok (if 31 < a || y = some 0 then { year := some a, month := some b, day := some c }
      else if 12 < a then { day := some a, month := some b, year := some c }
      else { month := some a, day := some b, year := some c })
  | _, _, _ => .error .noDate

/-- What a text says of a date. -/
structure Reading where
  lexemes : Array (List Char)
  parts : Parts := {}
  weekday : Option Nat := none
  hour : Option Int := none
  minute : Option Int := none
  second : Option Int := none
  microsecond : Option Int := none
  half : Option Nat := none
  zoneName : Option (List Char) := none
  zoneOffset : Option Int := none

/-- The lexeme at an index, which has to be there. -/
def Reading.lexeme (r : Reading) (i : Nat) : Except Fault (List Char) :=
  match r.lexemes[i]? with
  | some s => .ok s
  | none => .error .noDate

/-- Whether the lexeme at an index is there and passes a test. -/
def Reading.has (r : Reading) (i : Nat) (p : List Char → Bool) : Bool :=
  match r.lexemes[i]? with
  | some s => p s
  | none => false

/-- The hour of a twelve-hour clock in the given half of the day. -/
def hourOfHalf (hour : Int) (half : Nat) : Int :=
  if hour < 12 && half = 1 then hour + 12 else if hour = 12 && half = 0 then 0 else hour

/-- Minutes with a fraction, which gives the seconds. -/
def minuteAndSecond (a : Amount) : Except Fault (Int × Option Int) :=
  if tenTo precision ≤ a.whole then .error .hugeNumber
  else .ok (a.whole, if a.hasFraction then some a.sixtieths else none)

/-- Seconds with a fraction, which gives the microseconds, cut off after six digits. -/
def secondAndMicrosecond (s : List Char) : Except Fault (Int × Int) :=
  let before := s.takeWhile (· ≠ '.')
  match s.dropWhile (· ≠ '.') with
  | [] => do return (← whole s, 0)
  | _ :: after => do
    if after.contains '.' then throw .noDate
    let digits := (after ++ List.replicate (6 - after.length) '0').take 6
    return (← whole before, ← whole digits)

/-- The value of a numeric lexeme. -/
def numeric (s : List Char) : Except Fault Amount :=
  match amount? s with
  | some a => .ok a
  | none => .error .noDate

/-- The unit of time that belongs to the number at an index: it comes next, next after a blank, or
    right before; at the end of the text also before a blank. With the index it stands at. -/
def Reading.unitFor (r : Reading) (i : Nat) : Option Nat :=
  let isUnit (j : Nat) : Bool := r.has j fun s => (unit? s).isSome
  let isBlank (j : Nat) : Bool := r.has j (· = [' '])
  if isUnit (i + 1) then some (i + 1)
  else if isBlank (i + 1) && isUnit (i + 2) then some (i + 2)
  else if 0 < i && isUnit (i - 1) then some (i - 1)
  else if 1 < i && i + 1 = r.lexemes.size && isBlank (i - 1) && isUnit (i - 2) then some (i - 2)
  else none

/-- Gives a number to a unit of time. A unit that stands before is the next larger one. -/
def Reading.setUnit (r : Reading) (s : List Char) (unit : Nat) : Except Fault Reading := do
  let a ← numeric s
  match unit with
  | 0 =>
    if tenTo precision ≤ a.whole then throw .hugeNumber
    let r := { r with hour := some a.whole }
    return if a.hasFraction then { r with minute := some a.sixtieths } else r
  | 1 =>
    let (minute, second) ← minuteAndSecond a
    return { r with minute := some minute, second := second }
  | 2 =>
    let (second, microsecond) ← secondAndMicrosecond s
    return { r with second := some second, microsecond := some microsecond }
  | _ => return r

/-- Reads the number at an index. Returns the index of the last lexeme that was used. -/
def Reading.number (r : Reading) (i : Nat) (s : List Char) : Except Fault (Reading × Nat) := do
  let a ← numeric s
  let n := s.length
  let is (j : Nat) (t : String) : Bool := r.has j (· = t.toList)
  let part (from' count : Nat) : List Char := (s.drop from').take count
  if r.parts.values.length = 3 && (n = 2 || n = 4) && r.hour.isNone &&
      !(is (i + 1) ":" || r.has (i + 1) fun t => (unit? t).isSome) then
    let hour ← whole (part 0 2)
    let r := { r with hour := some hour }
    if n = 4 then return ({ r with minute := some (← whole (part 2 2)) }, i) else return (r, i)
  else if n = 6 || (6 < n && (s.takeWhile (· ≠ '.')).length = 6) then
    if r.parts.values.isEmpty && !s.contains '.' then
      let parts ← r.parts.addLexeme (part 0 2) none
      let parts ← parts.addLexeme (part 2 2) none
      let parts ← parts.addLexeme (s.drop 4) none
      return ({ r with parts := parts }, i)
    else
      let hour ← whole (part 0 2)
      let minute ← whole (part 2 2)
      let (second, microsecond) ← secondAndMicrosecond (s.drop 4)
      return ({ r with hour := some hour, minute := some minute, second := some second,
                       microsecond := some microsecond }, i)
  else if n = 8 || n = 12 || n = 14 then
    let parts ← r.parts.addLexeme (part 0 4) (some .year)
    let parts ← parts.addLexeme (part 4 2) none
    let parts ← parts.addLexeme (part 6 2) none
    let r := { r with parts := parts }
    if n = 8 then return (r, i)
    else
      let r := { r with hour := some (← whole (part 8 2)), minute := some (← whole (part 10 2)) }
      if n = 14 then return ({ r with second := some (← whole (part 12 2)) }, i) else return (r, i)
  else match r.unitFor i with
  | some j =>
    let unit := (unit? (← r.lexeme j)).getD 0
    if i < j then return (← r.setUnit s unit, j) else return (← r.setUnit s (unit + 1), i)
  | none =>
    if is (i + 1) ":" && i + 2 < r.lexemes.size then
      let r := { r with hour := some a.whole }
      let (minute, second) ← minuteAndSecond (← numeric (← r.lexeme (i + 2)))
      let r := { r with minute := some minute, second := second }
      if is (i + 3) ":" && i + 4 < r.lexemes.size then
        let (second, microsecond) ← secondAndMicrosecond (← r.lexeme (i + 4))
        return ({ r with second := some second, microsecond := some microsecond }, i + 4)
      else return (r, i + 2)
    else if is (i + 1) "-" || is (i + 1) "/" || is (i + 1) "." then
      let sep ← r.lexeme (i + 1)
      let parts ← r.parts.addLexeme s none
      if i + 2 < r.lexemes.size && !r.has (i + 2) isFiller then
        let second ← r.lexeme (i + 2)
        let parts ←
          if second.all Unicode.isDigitLike then parts.addLexeme second none
          else match month? second with
            | some m => parts.addNumber m (some .month)
            | none => throw .noDate
        if r.has (i + 3) (· = sep) then
          let third ← r.lexeme (i + 4)
          let parts ← match month? third with
            | some m => parts.addNumber m (some .month)
            | none => parts.addLexeme third none
          return ({ r with parts := parts }, i + 4)
        else return ({ r with parts := parts }, i + 2)
      else return ({ r with parts := parts }, i + 1)
    else if r.lexemes.size ≤ i + 1 || r.has (i + 1) isFiller then
      match (r.lexemes[i + 2]?).bind half? with
      | some half => return ({ r with hour := some (hourOfHalf a.whole half) }, i + 2)
      | none =>
        let isLong := 100 < a.whole || (a.whole = 100 && a.hasFraction)
        return ({ r with parts := ← r.parts.add a.whole isLong none }, i + 1)
    else match (r.lexemes[i + 1]?).bind half?, decide (a.whole < 24) with
      | some half, true => return ({ r with hour := some (hourOfHalf a.whole half) }, i + 1)
      | _, _ =>
        if ← r.parts.canBeDay a then
          return ({ r with parts := ← r.parts.addNumber a.whole none }, i)
        else throw .noDate

/-- The year nearest to the current one among those with the given last two digits; years with
    more digits, or with their century given, are as they are. -/
def fullYear (thisYear year : Int) (centuryGiven : Bool) : Int :=
  if year < 100 && !centuryGiven then
    let y := year + thisYear / 100 * 100
    if thisYear + 50 ≤ y then y - 100 else if y < thisYear - 50 then y + 100 else y
  else year

/-- Whether a lexeme can name a zone: there is a time but no zone yet, and it is made of at most
    five capitals. -/
def canNameZone (hour : Option Int) (name : Option (List Char)) (offset : Option Int)
    (s : List Char) : Bool :=
  hour.isSome && name.isNone && offset.isNone && s.length ≤ 5 &&
    (s.all (fun c => 'A' ≤ c && c ≤ 'Z') || s = ['z'])

/-- Reads the month at an index and what is joined to it. -/
def Reading.monthAt (r : Reading) (thisYear : Int) (i month : Nat) :
    Except Fault (Reading × Nat) := do
  let parts ← r.parts.addNumber month (some .month)
  let is (j : Nat) (t : String) : Bool := r.has j (· = t.toList)
  if is (i + 1) "-" || is (i + 1) "/" then
    let sep ← r.lexeme (i + 1)
    let parts ← parts.addLexeme (← r.lexeme (i + 2)) none
    if r.has (i + 3) (· = sep) then
      let parts ← parts.addLexeme (← r.lexeme (i + 4)) none
      return ({ r with parts := parts }, i + 4)
    else return ({ r with parts := parts }, i + 2)
  else if i + 4 < r.lexemes.size && is (i + 1) " " && is (i + 3) " " &&
      r.has (i + 2) (lowered · = "of") then
    let year ← r.lexeme (i + 4)
    if year.all Unicode.isDigitLike then
      let y := fullYear thisYear (← whole year) false
      return ({ r with parts := ← parts.add y (100 ≤ y) (some .year) }, i + 4)
    else return ({ r with parts := parts }, i + 4)
  else return ({ r with parts := parts }, i)

/-- Reads the distance of a zone whose sign stands at an index, and a name in parentheses after
    it. -/
def Reading.offsetAt (r : Reading) (i : Nat) (positive : Bool) :
    Except Fault (Reading × Nat) := do
  let s ← r.lexeme (i + 1)
  let (hours, minutes, i) ←
    if s.length = 4 then pure (← whole (s.take 2), ← whole (s.drop 2), i)
    else if r.has (i + 2) (· = [':']) then
      pure (← whole s, ← whole (← r.lexeme (i + 3)), i + 2)
    else if s.length ≤ 2 then pure (← whole (s.take 2), 0, i)
    else throw .noDate
  let size := hours * 3600 + minutes * 60
  let r := { r with zoneOffset := some (if positive then size else -size) }
  match r.lexemes[i + 4]? with
  | some name =>
    if r.has (i + 2) isFiller && r.has (i + 3) (· = ['(']) && r.has (i + 5) (· = [')']) &&
        3 ≤ name.length && canNameZone r.hour r.zoneName none name then
      return ({ r with zoneName := some name }, i + 5)
    else return (r, i + 1)
  | none => return (r, i + 1)

/-- Reads the lexeme at an index. Returns the index of the last lexeme that was used. -/
def Reading.step (r : Reading) (thisYear : Int) (i : Nat) (s : List Char) :
    Except Fault (Reading × Nat) := do
  if (amount? s).isSome || isNumberWord s then r.number i s
  else if let some day := weekday? s then return ({ r with weekday := some day }, i)
  else if let some month := month? s then r.monthAt thisYear i month
  else if let some half := half? s then
    match r.hour with
    | none => throw .noDate
    | some hour =>
      if 0 ≤ hour && hour ≤ 12 then
        return ({ r with hour := some (hourOfHalf hour half), half := some half }, i)
      else throw .noDate
  else if canNameZone r.hour r.zoneName r.zoneOffset s then
    let offset : Option Int := if s = ['z'] then some 0 else none
    let r := { r with zoneName := some s, zoneOffset := offset }
    -- A sign after a name tells what has to be added to get the named time.
    if r.has (i + 1) (fun t => t = ['+'] || t = ['-']) then
      let flipped := if r.has (i + 1) (· = ['+']) then ['-'] else ['+']
      return ({ r with lexemes := r.lexemes.setIfInBounds (i + 1) flipped, zoneOffset := none,
                       zoneName := if isUniversal s then none else some s }, i)
    else return (r, i)
  else if r.hour.isSome && (s = ['+'] || s = ['-']) then r.offsetAt i (s = ['+'])
  else if isFiller s then return (r, i)
  else throw .noDate

/-- Reads all lexemes from an index on; `fuel` bounds their number. -/
def Reading.run (thisYear : Int) (r : Reading) (i : Nat) : Nat → Except Fault Reading
  | 0 => .ok r
  | fuel + 1 =>
    match r.lexemes[i]? with
    | none => .ok r
    | some s => do
      let (r, last) ← r.step thisYear i s
      run thisYear r (last + 1) fuel

/-- Today's date. -/
structure Today where
  year : Int
  month : Int
  day : Int
  deriving DecidableEq, Repr

/-- Whether a text said anything about a date. -/
def Reading.isEmpty (r : Reading) : Bool :=
  r.parts.values.isEmpty && r.weekday.isNone && r.hour.isNone && r.minute.isNone &&
    r.second.isNone && r.microsecond.isNone && r.zoneName.isNone && r.zoneOffset.isNone &&
    r.half.isNone

/-- The zone that a text names: universal time under one of its names or at no distance, a distance
    under the name that goes with it, and none if the name is unknown. -/
def Reading.zone (r : Reading) : Option Zone :=
  let named := r.zoneName.isSome
  let universal := (r.zoneOffset = some 0 && !named) || r.zoneName = some ['Z'] ||
    r.zoneName = some ['z'] || r.zoneName.any isUniversal
  if universal || r.zoneOffset = some 0 then some .universal
  else match r.zoneOffset with
    | some n => some (.fixed (r.zoneName.map String.ofList) n)
    | none => none

/-- The greatest distance of a zone in days. -/
def zoneLimit : Int := 999999999

/-- Reads a date. A text without a zone is in universal time. -/
def read (today : Today) (text : List Char) : Except Fault Moment := do
  let words := lexemes text
  let start : Reading := { lexemes := words.toArray }
  let r ← start.run today.year 0 (words.length + 1)
  let resolved ← r.parts.resolve
  if r.isEmpty then throw .noDate
  let year := (resolved.year.map (fullYear today.year · r.parts.centuryGiven)).getD today.year
  let month := resolved.month.getD today.month
  let lastDay := daysInMonth year month
  if resolved.day.isNone && lastDay = 0 then throw .noDate
  let day := resolved.day.getD (min today.day lastDay)
  let civil : Civil :=
    { year, month, day, hour := r.hour.getD 0, minute := r.minute.getD 0,
      second := r.second.getD 0, microsecond := r.microsecond.getD 0 }
  if !civil.valid then throw .noDate
  let civil ← match r.weekday with
    | none => pure civil
    | some target =>
      if resolved.day.isSome then pure civil
      else
        let ahead := (target - weekday civil.year civil.month civil.day) % 7
        let (y, m, d) := ofDayNumber (dayNumber civil.year civil.month civil.day + ahead)
        if 9999 < y then throw .noDate
        pure { civil with year := y, month := m, day := d }
  match r.zone with
  | none => return ⟨civil, .universal⟩
  | some zone =>
    if zoneLimit * 86400 < zone.seconds || zone.seconds < -(zoneLimit * 86400) then throw .noDate
    return ⟨civil, zone⟩

end FieldRules.Calendar
