/-!
# Moments

A moment is a calendar date with a time of day and a zone. Dates are those of the Gregorian calendar
from year 1 to year 9999.
-/

namespace FieldRules.Calendar

/-- A year with a 29th of February. -/
def isLeap (year : Int) : Bool := year % 4 = 0 && (year % 100 ≠ 0 || year % 400 = 0)

/-- The number of days of a month; a number that is no month has none. -/
def daysInMonth (year : Int) (month : Int) : Nat :=
  if month = 2 then if isLeap year then 29 else 28
  else if month = 4 || month = 6 || month = 9 || month = 11 then 30
  else if 1 ≤ month && month ≤ 12 then 31
  else 0

/-- A date and a time of day. -/
structure Civil where
  year : Int
  month : Int
  day : Int
  hour : Int := 0
  minute : Int := 0
  second : Int := 0
  microsecond : Int := 0
  deriving DecidableEq, Repr

/-- Whether all parts are in range. -/
def Civil.valid (c : Civil) : Bool :=
  1 ≤ c.year && c.year ≤ 9999 && 1 ≤ c.month && c.month ≤ 12 && 1 ≤ c.day &&
    c.day ≤ daysInMonth c.year c.month && 0 ≤ c.hour && c.hour < 24 && 0 ≤ c.minute &&
    c.minute < 60 && 0 ≤ c.second && c.second < 60 && 0 ≤ c.microsecond &&
    c.microsecond < 1000000

/-- The number of a day, counted so that the first of March of year 0 is day 0. -/
def dayNumber (year month day : Int) : Int :=
  let y := if month ≤ 2 then year - 1 else year
  let m := if month ≤ 2 then month + 9 else month - 3
  365 * y + y / 4 - y / 100 + y / 400 + (153 * m + 2) / 5 + day - 1

/-- The date of a day number. -/
def ofDayNumber (n : Int) : Int × Int × Int :=
  let era := n / 146097
  let dayOfEra := n % 146097
  let yearOfEra := (dayOfEra - dayOfEra / 1460 + dayOfEra / 36524 - dayOfEra / 146096) / 365
  let dayOfYear := dayOfEra - (365 * yearOfEra + yearOfEra / 4 - yearOfEra / 100)
  let m := (5 * dayOfYear + 2) / 153
  let day := dayOfYear - (153 * m + 2) / 5 + 1
  let month := if m < 10 then m + 3 else m - 9
  let year := yearOfEra + era * 400 + (if month ≤ 2 then 1 else 0)
  (year, month, day)

/-- The day of the week, Monday being 0. -/
def weekday (year month day : Int) : Int := (dayNumber year month day + 2) % 7

/-- A count of microseconds that orders dates and times. -/
def Civil.microseconds (c : Civil) : Int :=
  (((dayNumber c.year c.month c.day * 24 + c.hour) * 60 + c.minute) * 60 + c.second) * 1000000 +
    c.microsecond

/-- A zone: universal time, or a fixed distance from it under a name. -/
inductive Zone where
  | universal
  | fixed (name : Option String) (seconds : Int)
  deriving DecidableEq, Repr

/-- The distance from universal time in seconds. -/
def Zone.seconds : Zone → Int
  | universal => 0
  | fixed _ s => s

/-- A distance below one day, which is all that can be computed with. -/
def Zone.usable (z : Zone) : Bool := -86400 < z.seconds && z.seconds < 86400

/-- A date and time in a zone. -/
structure Moment where
  civil : Civil
  zone : Zone
  deriving DecidableEq, Repr

/-- Whether one moment is before another. Moments of one zone are compared as they stand; others
    cannot be compared when a zone is a day or more away. -/
def Moment.before? (a b : Moment) : Option Bool :=
  if a.zone = b.zone then some (a.civil.microseconds < b.civil.microseconds)
  else if a.zone.usable && b.zone.usable then
    some (a.civil.microseconds - a.zone.seconds * 1000000 <
      b.civil.microseconds - b.zone.seconds * 1000000)
  else none

/-- A number in at least `width` digits. -/
def padded (width : Nat) (n : Int) : String :=
  let ds := (toString n.natAbs).toList
  String.ofList (List.replicate (width - ds.length) '0' ++ ds)

/-- The text of a moment: date, time, a fraction if there is one, and the distance from universal
    time. A zone a day or more away has no text. -/
def Moment.text? (m : Moment) : Option String :=
  if !m.zone.usable then none
  else
    let c := m.civil
    let date := padded 4 c.year ++ "-" ++ padded 2 c.month ++ "-" ++ padded 2 c.day
    let time := padded 2 c.hour ++ ":" ++ padded 2 c.minute ++ ":" ++ padded 2 c.second
    let fraction := if c.microsecond = 0 then "" else "." ++ padded 6 c.microsecond
    let distance := m.zone.seconds.natAbs
    let sign := if m.zone.seconds < 0 then "-" else "+"
    let seconds := if distance % 60 = 0 then "" else ":" ++ padded 2 (distance % 60 : Nat)
    some (date ++ "T" ++ time ++ fraction ++ sign ++ padded 2 (distance / 3600 : Nat) ++ ":" ++
      padded 2 (distance / 60 % 60 : Nat) ++ seconds)

end FieldRules.Calendar
