import FieldRules.Value.Display

/-!
# Reading JSON

Reads one JSON document into a value. A number with a fraction or an exponent is a binary
floating-point number, any other is an integer; `NaN` and the infinities are read too. Of two
entries with one key the later value wins, at the place of the earlier.

A text that cannot be read is refused with the first position at which it went wrong.
-/

namespace FieldRules.Json

/-- Why a text is no JSON document. -/
inductive Cause where
  | byteOrderMark
  | extraData
  | expectedValue
  | expectedName
  | expectedColon
  | expectedComma
  | unterminatedString
  | controlCharacter
  | badEscape
  | badUnicodeEscape
  deriving DecidableEq, Repr

/-- The wording of a cause. -/
def Cause.message : Cause → String
  | byteOrderMark => "Unexpected UTF-8 BOM (decode using utf-8-sig)"
  | extraData => "Extra data"
  | expectedValue => "Expecting value"
  | expectedName => "Expecting property name enclosed in double quotes"
  | expectedColon => "Expecting ':' delimiter"
  | expectedComma => "Expecting ',' delimiter"
  | unterminatedString => "Unterminated string starting at"
  | controlCharacter => "Invalid control character at"
  | badEscape => "Invalid \\escape"
  | badUnicodeEscape => "Invalid \\uXXXX escape"

/-- What keeps a text from being read: it is no document, with the number of characters before and
    from the place where that shows, or it has an integer with more digits than are converted. -/
inductive Fault where
  | malformed (cause : Cause) (remaining : Nat)
  | tooManyDigits (count : Nat)
  deriving DecidableEq, Repr

/-- The greatest number of digits of an integer. -/
def digitLimit : Nat := 4300

/-- What follows a part of `s` that has been read: it is shorter. -/
abbrev Rest (s : List Char) := { r : List Char // r.length < s.length }

/-- A character between tokens. -/
def isSpace (c : Char) : Bool := c == ' ' || c == '\t' || c == '\n' || c == '\r'

/-- Skips the characters between tokens. -/
def skipSpace (s : List Char) : List Char := s.dropWhile isSpace

theorem skipSpace_length_le (s : List Char) : (skipSpace s).length ≤ s.length :=
  (List.dropWhile_suffix _).length_le

/-- The value of four hexadecimal digits. -/
def hexUnit? (a b c d : Char) : Option Nat := do
  let a ← hexValue? a
  let b ← hexValue? b
  let c ← hexValue? c
  let d ← hexValue? d
  return ((a * 16 + b) * 16 + c) * 16 + d

/-- The character that stands after a backslash, the Unicode escape apart. -/
def simpleEscape? : Char → Option Char
  | '"' => some '"'
  | '\\' => some '\\'
  | '/' => some '/'
  | 'b' => some '\x08'
  | 'f' => some '\x0c'
  | 'n' => some '\n'
  | 'r' => some '\r'
  | 't' => some '\t'
  | _ => none

/-- What stands for a 16-bit unit that is no character by itself. -/
def unpaired : Char := '\uFFFD'

/-- The character of a unit that is not the first half of a pair. -/
def ofUnit (unit : Nat) : Char :=
  if 0xDC00 ≤ unit ∧ unit ≤ 0xDFFF then unpaired else Char.ofNat unit

/-- The second half of a pair, when the text goes on with one and does not end with it. -/
def readLowUnit (s : List Char) : Except Fault (Option (Nat × Rest s)) :=
  match s with
  | '\\' :: 'u' :: a :: b :: c :: d :: e :: r =>
    match hexUnit? a b c d with
    | none => .error (.malformed .badUnicodeEscape (r.length + 6))
    | some low =>
      .ok (if 0xDC00 ≤ low ∧ low ≤ 0xDFFF then some (low, ⟨e :: r, by simp⟩) else none)
  | _ => .ok none

/-- Reads what follows a backslash. `start` is the number of characters from the opening quote of
    the string on. -/
def readEscape (start : Nat) (s : List Char) : Except Fault (Char × Rest s) :=
  match s with
  | [] => .error (.malformed .unterminatedString start)
  | 'u' :: r =>
    match r with
    | a :: b :: c :: d :: e :: r' =>
      match hexUnit? a b c d with
      | none => .error (.malformed .badUnicodeEscape (r'.length + 6))
      | some unit =>
        if 0xD800 ≤ unit ∧ unit ≤ 0xDBFF then do
          match ← readLowUnit (e :: r') with
          | some (low, ⟨q, h⟩) =>
            return (Char.ofNat (0x10000 + (unit - 0xD800) * 0x400 + (low - 0xDC00)),
              ⟨q, by simp at h ⊢; omega⟩)
          | none => return (unpaired, ⟨e :: r', by simp⟩)
        else .ok (ofUnit unit, ⟨e :: r', by simp⟩)
    | _ => .error (.malformed .badUnicodeEscape (r.length + 1))
  | c :: r =>
    match simpleEscape? c with
    | none => .error (.malformed .badEscape (r.length + 2))
    | some c => .ok (c, ⟨r, by simp⟩)

/-- Reads the rest of a string after its opening quote. `start` is the number of characters from
    the opening quote on; `acc` holds what was read, last character first. -/
def readString (start : Nat) (acc : List Char) (s : List Char) :
    Except Fault (String × Rest s) :=
  match s with
  | [] => .error (.malformed .unterminatedString start)
  | '"' :: r => .ok (String.ofList acc.reverse, ⟨r, by simp⟩)
  | '\\' :: r => do
    let (c, ⟨r', h'⟩) ← readEscape start r
    let (t, ⟨q, h⟩) ← readString start (c :: acc) r'
    return (t, ⟨q, by simp; omega⟩)
  | c :: r =>
    if c.toNat < 0x20 then .error (.malformed .controlCharacter (r.length + 1))
    else do
      let (t, ⟨q, h⟩) ← readString start (c :: acc) r
      return (t, ⟨q, by simp; omega⟩)
termination_by s.length
decreasing_by
  · simp; omega
  · simp

/-- The value of a row of digits. -/
def ofDigits (ds : List Char) : Nat := ds.foldl (fun n c => n * 10 + (c.toNat - 48)) 0

/-- The parts of a number. -/
structure NumberParts where
  negative : Bool
  whole : List Char
  fraction : List Char
  exponent : Option Int

/-- The digits before a point, without a needless zero, and what follows them. -/
def splitWhole : List Char → Option (List Char × List Char)
  | [] => none
  | '0' :: r => some (['0'], r)
  | c :: r =>
    if c.isDigit then some (c :: r.takeWhile Char.isDigit, r.dropWhile Char.isDigit) else none

/-- The digits behind a point, if there is one, and what follows them. -/
def splitFraction : List Char → List Char × List Char
  | '.' :: d :: r =>
    if d.isDigit then (d :: r.takeWhile Char.isDigit, r.dropWhile Char.isDigit)
    else ([], '.' :: d :: r)
  | r => ([], r)

/-- Whether a minus sign comes first, and what follows a sign. -/
def splitSign : List Char → Bool × List Char
  | '-' :: r => (true, r)
  | '+' :: r => (false, r)
  | r => (false, r)

/-- An exponent, if there is one with digits, and what follows it. -/
def splitExponent (s : List Char) : Option Int × List Char :=
  match s with
  | [] => (none, [])
  | e :: r =>
    let (negative, body) := splitSign r
    let digits := body.takeWhile Char.isDigit
    if (e = 'e' || e = 'E') && !digits.isEmpty then
      let size : Int := ofDigits digits
      (some (if negative then -size else size), body.dropWhile Char.isDigit)
    else (none, e :: r)

/-- Splits a number without its sign off the front of the text. -/
def splitUnsigned (negative : Bool) (s : List Char) : Option (NumberParts × List Char) :=
  match splitWhole s with
  | none => none
  | some (whole, r) =>
    let fraction := splitFraction r
    let exponent := splitExponent fraction.2
    some (⟨negative, whole, fraction.1, exponent.1⟩, exponent.2)

/-- Splits a number off the front of the text: a sign, digits without a needless zero, and a
    fraction and an exponent that have at least one digit each. -/
def splitNumber : List Char → Option (NumberParts × List Char)
  | '-' :: r => splitUnsigned true r
  | s => splitUnsigned false s

theorem dropDigits_length_le (s : List Char) : (s.dropWhile Char.isDigit).length ≤ s.length :=
  (List.dropWhile_suffix _).length_le

theorem splitWhole_length_lt {s whole r : List Char} (h : splitWhole s = some (whole, r)) :
    r.length < s.length := by
  unfold splitWhole at h
  split at h
  · cases h
  · cases h
    exact Nat.lt_succ_self _
  · split at h
    · cases h
      exact Nat.lt_succ_of_le (dropDigits_length_le _)
    · cases h

theorem splitFraction_length_le (s : List Char) : (splitFraction s).2.length ≤ s.length := by
  unfold splitFraction
  split
  · next d r =>
    split
    · have := dropDigits_length_le r
      simp only [List.length_cons]
      omega
    · exact Nat.le_refl _
  · exact Nat.le_refl _

theorem splitSign_length_le (s : List Char) : (splitSign s).2.length ≤ s.length := by
  unfold splitSign
  split <;> simp

theorem splitExponent_length_le (s : List Char) : (splitExponent s).2.length ≤ s.length := by
  unfold splitExponent
  split
  · exact Nat.le_refl _
  · next e r =>
    have h1 := splitSign_length_le r
    have h2 := dropDigits_length_le (splitSign r).2
    dsimp only
    split
    · simp only [List.length_cons]
      omega
    · exact Nat.le_refl _

theorem splitUnsigned_length_lt {negative : Bool} {s r : List Char} {parts : NumberParts}
    (h : splitUnsigned negative s = some (parts, r)) : r.length < s.length := by
  unfold splitUnsigned at h
  split at h
  · cases h
  · next whole q hw =>
    have h1 := splitWhole_length_lt hw
    have h2 := splitFraction_length_le q
    have h3 := splitExponent_length_le (splitFraction q).2
    simp only [Option.some.injEq, Prod.mk.injEq] at h
    rw [← h.2]
    omega

theorem splitNumber_length_lt {s r : List Char} {parts : NumberParts}
    (h : splitNumber s = some (parts, r)) : r.length < s.length := by
  unfold splitNumber at h
  split at h
  · exact Nat.lt_succ_of_lt (splitUnsigned_length_lt h)
  · exact splitUnsigned_length_lt h

/-- The value of a number: an integer when it has neither fraction nor exponent. -/
def NumberParts.value (p : NumberParts) : Except Fault Value :=
  if p.fraction.isEmpty && p.exponent.isNone then
    if digitLimit < p.whole.length then .error (.tooManyDigits p.whole.length)
    else
      let n : Int := ofDigits p.whole
      .ok (.int (if p.negative then -n else n))
  else
    .ok (.float (.ofDecimal p.negative (ofDigits (p.whole ++ p.fraction))
      (p.exponent.getD 0 - p.fraction.length)))

/-- The words that stand for values. -/
def words : List (List Char × Value) :=
  [("null".toList, .null), ("true".toList, .bool true), ("false".toList, .bool false),
   ("NaN".toList, .float .notANumber), ("Infinity".toList, .float (.infinite false)),
   ("-Infinity".toList, .float (.infinite true))]

/-- Reads a word off the front of the text. -/
def readWord (s : List Char) : Option (Value × Rest s) :=
  words.findSome? fun (w, v) =>
    if h : w.isPrefixOf s ∧ 0 < w.length then
      some (v, ⟨s.drop w.length, by
        have h1 : w.length ≤ s.length := (List.isPrefixOf_iff_prefix.1 h.1).length_le
        rw [List.length_drop]; omega⟩)
    else none

mutual

/-- Reads one value off the front of the text. -/
def readValue (s : List Char) : Except Fault (Value × Rest s) :=
  match s with
  | [] => .error (.malformed .expectedValue 0)
  | '"' :: r => do
    let (t, ⟨q, h⟩) ← readString (r.length + 1) [] r
    return (.text t, ⟨q, by simp; omega⟩)
  | '\x7b' :: r =>
    match h : skipSpace r with
    | '\x7d' :: q => .ok (.map [], ⟨q, by
        have := skipSpace_length_le r; rw [h] at this; simp at this ⊢; omega⟩)
    | q => do
      let (entries, ⟨q', h'⟩) ← readEntries [] q
      return (.map entries, ⟨q', by
        have := skipSpace_length_le r; rw [h] at this; simp; omega⟩)
  | '[' :: r =>
    match h : skipSpace r with
    | ']' :: q => .ok (.list [], ⟨q, by
        have := skipSpace_length_le r; rw [h] at this; simp at this ⊢; omega⟩)
    | q => do
      let (items, ⟨q', h'⟩) ← readItems q
      return (.list items, ⟨q', by
        have := skipSpace_length_le r; rw [h] at this; simp; omega⟩)
  | s =>
    match readWord s with
    | some found => .ok found
    | none =>
      match h : splitNumber s with
      | some (parts, r) => do return (← parts.value, ⟨r, splitNumber_length_lt h⟩)
      | none => .error (.malformed .expectedValue s.length)
termination_by 2 * s.length
decreasing_by
  all_goals
    have := skipSpace_length_le r; rw [h] at this; simp; omega

/-- Reads the items of a list up to its closing bracket. -/
def readItems (s : List Char) : Except Fault (List Value × Rest s) := do
  let (v, ⟨r, h⟩) ← readValue s
  match h1 : skipSpace r with
  | ']' :: q => return ([v], ⟨q, by
      have := skipSpace_length_le r; rw [h1] at this; simp at this; omega⟩)
  | ',' :: q =>
    let (vs, ⟨q', h'⟩) ← readItems (skipSpace q)
    return (v :: vs, ⟨q', by
      have := skipSpace_length_le r; rw [h1] at this; simp at this
      have := skipSpace_length_le q; omega⟩)
  | q => .error (.malformed .expectedComma q.length)
termination_by 2 * s.length + 1
decreasing_by
  · omega
  · have := skipSpace_length_le r; rw [h1] at this; simp at this
    have := skipSpace_length_le q; omega

/-- Reads the entries of a mapping up to its closing brace, over those read before. -/
def readEntries (entries : Entries Value) (s : List Char) :
    Except Fault (Entries Value × Rest s) :=
  match s with
  | '"' :: r => do
    let (key, ⟨r1, h1⟩) ← readString (r.length + 1) [] r
    match h2 : skipSpace r1 with
    | ':' :: r2 =>
      let (v, ⟨r3, h3⟩) ← readValue (skipSpace r2)
      let entries := entries.put key v
      match h4 : skipSpace r3 with
      | '\x7d' :: q => return (entries, ⟨q, by
          have := skipSpace_length_le r1; rw [h2] at this; simp at this
          have := skipSpace_length_le r2
          have := skipSpace_length_le r3; rw [h4] at this; simp at this ⊢; omega⟩)
      | ',' :: q =>
        let (entries, ⟨q', h'⟩) ← readEntries entries (skipSpace q)
        return (entries, ⟨q', by
          have := skipSpace_length_le r1; rw [h2] at this; simp at this
          have := skipSpace_length_le r2
          have := skipSpace_length_le r3; rw [h4] at this; simp at this
          have := skipSpace_length_le q; simp; omega⟩)
      | q => .error (.malformed .expectedComma q.length)
    | q => .error (.malformed .expectedColon q.length)
  | s => .error (.malformed .expectedName s.length)
termination_by 2 * s.length + 1
decreasing_by
  · have := skipSpace_length_le r1; rw [h2] at this; simp at this
    have := skipSpace_length_le r2; simp; omega
  · have := skipSpace_length_le r1; rw [h2] at this; simp at this
    have := skipSpace_length_le r2
    have := skipSpace_length_le r3; rw [h4] at this; simp at this
    have := skipSpace_length_le q; simp; omega

end

/-- Reads a whole document. -/
def read (s : List Char) : Except Fault Value :=
  match s with
  | '\uFEFF' :: _ => .error (.malformed .byteOrderMark s.length)
  | s => do
    let (v, ⟨r, _⟩) ← readValue (skipSpace s)
    match skipSpace r with
    | [] => return v
    | q => .error (.malformed .extraData q.length)

/-- The wording of a malformed document: the cause, the line, the column and the offset of the
    place, which lies `remaining` characters before the end. -/
def placeMessage (document : List Char) (cause : Cause) (remaining : Nat) : String :=
  let offset := document.length - remaining
  let before := document.take offset
  let line := before.count '\n' + 1
  let column := (before.reverse.takeWhile (· ≠ '\n')).length + 1
  s!"{cause.message}: line {line} column {column} (char {offset})"

end FieldRules.Json
