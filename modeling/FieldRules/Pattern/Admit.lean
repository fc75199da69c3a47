import FieldRules.Pattern.Syntax
import FieldRules.Unicode.Blank
import FieldRules.Unicode.Case
import FieldRules.Unicode.Digits

/-!
# Parts that match one character

Which characters a literal, a set or the dot admits under the flags of the place.
-/

namespace FieldRules.Pattern

/-- The ASCII digits, letters and the underscore. -/
def isAsciiWord (c : Char) : Bool := c.isAlphanum || c == '_'

/-- Whether a character is of a class. -/
def Class.has (kind : Class) (ascii : Bool) (c : Char) : Bool :=
  match kind with
  | digit => if ascii then c.isDigit else Unicode.isDecimal c
  | space => if ascii then Unicode.isAsciiBlank c else Unicode.isBlank c
  | word => if ascii then isAsciiWord c else Unicode.isWord c

/-- The lower case of a character in the alphabet that is asked for. -/
def lowerIn (ascii : Bool) (c : Char) : Char := if ascii then c.toLower else Unicode.lower c

/-- The character of a code point; half of a surrogate pair is none. -/
def charOf? (code : Nat) : Option Char :=
  if (Char.ofNat code).toNat = code then some (Char.ofNat code) else none

/-- The lower case of a code point. -/
def lowerCode (ascii : Bool) (code : Nat) : Nat :=
  match charOf? code with
  | some c => (lowerIn ascii c).toNat
  | none => code

/-- Whether letter case matters for a code point. -/
def isCasedCode (ascii : Bool) (code : Nat) : Bool :=
  match charOf? code with
  | some c => if ascii then c.isAlpha else Unicode.isCased c
  | none => false

/-- Whether a code point and a character, both in lower case, count as one letter. Two different
    ASCII letters never do. -/
def sameIn (ascii : Bool) (code : Nat) (c : Char) : Bool :=
  code == c.toNat ||
    (!ascii && (128 ≤ code || 128 ≤ c.toNat) && (Unicode.twins c).any (·.toNat == code))

/-- Whether a character is the given one. -/
def admitsCode (flags : Flags) (code : Nat) (c : Char) : Bool :=
  if flags.ignoreCase && isCasedCode flags.ascii code then
    sameIn flags.ascii (lowerCode flags.ascii code) (lowerIn flags.ascii c)
  else c.toNat == code

/-! ## Sets -/

/-- All characters that have the given character as lower case, one of them possibly itself. -/
def raisedForms (ascii : Bool) (c : Char) : List Nat :=
  if ascii then if c.isLower then [c.toNat, c.toUpper.toNat] else [c.toNat]
  else
    let capitals := Unicode.lowerRuns.toList.filterMap fun run =>
      let n := (c.toNat : Int) - run.shift
      if run.first ≤ n && n ≤ run.last && (n - run.first) % run.step = 0 then some n.toNat
      else none
    if Unicode.lower c = c then c.toNat :: capitals else capitals

/-- The letters that count as one with a lower-case letter, in lower case. -/
def relatives (ascii : Bool) (c : Char) : List Char :=
  if ascii then [c] else c :: Unicode.twins c

/-- The last code point of the basic plane. Members of a set beyond it are compared with the lower
    case of a character; a range of them also with the upper case of that, in any alphabet. -/
def basicPlaneEnd : Nat := 0xFFFF

/-- Whether a member of a set admits a character, letter case ignored; `c` is in lower case. -/
def Member.admitsLower (ascii : Bool) (m : Member) (c : Char) : Bool :=
  match m with
  | one code =>
    if code ≤ basicPlaneEnd then sameIn ascii (lowerCode ascii code) c else c.toNat == code
  | range first last =>
    let inRange (n : Nat) : Bool := first ≤ n && n ≤ last
    ((relatives ascii c).any fun d =>
      (raisedForms ascii d).any fun n => inRange n && n ≤ basicPlaneEnd) ||
    (basicPlaneEnd < last && (inRange c.toNat || inRange (Unicode.upper c).toNat))
  | ofClass kind negated => kind.has ascii c != negated

/-- Whether a member of a set admits a character as it is. -/
def Member.admits (ascii : Bool) (m : Member) (c : Char) : Bool :=
  match m with
  | one code => c.toNat == code
  | range first last => first ≤ c.toNat && c.toNat ≤ last
  | ofClass kind negated => kind.has ascii c != negated

/-- Whether letter case matters for a member; beyond the basic plane it is taken to. -/
def Member.isCased (ascii : Bool) : Member → Bool
  | one code => isCasedCode ascii code || basicPlaneEnd < code
  | range first last =>
    basicPlaneEnd < last ||
      if ascii then (first ≤ 90 && 65 ≤ last) || (first ≤ 122 && 97 ≤ last)
      else Unicode.hasCased first last
  | ofClass _ _ => false

/-- Whether letter case is ignored for a set. -/
def ignoresCase (flags : Flags) (members : List Member) : Bool :=
  flags.ignoreCase && members.any (·.isCased flags.ascii)

/-- Whether a set admits a character. -/
def admitsSet (flags : Flags) (negated : Bool) (members : List Member) (c : Char) : Bool :=
  let found :=
    if ignoresCase flags members then
      let c := lowerIn flags.ascii c
      members.any (·.admitsLower flags.ascii c)
    else members.any (·.admits flags.ascii c)
  found != negated

/-! ## Tests -/

mutual

/-- The test of a part that matches exactly one character. -/
def Node.test? (flags : Flags) : Node → Option (Char → Bool)
  | .literal negated code => some fun c => admitsCode flags code c != negated
  | .set negated members => some (admitsSet flags negated members)
  | .any => some fun c => flags.dotAll || c != '\n'
  | .group none on off body => seqTest? (flags.within on off) body
  | _ => none

/-- The test of a sequence that consists of one such part. -/
def seqTest? (flags : Flags) : List Node → Option (Char → Bool)
  | [node] => node.test? flags
  | _ => none

end

/-- The code point that a sequence starts with, if letter case cannot matter for it. -/
def startCode? (flags : Flags) : List Node → Option Nat
  | .literal false code :: _ =>
    if flags.ignoreCase && isCasedCode flags.ascii code then none else some code
  | _ => none

/-- The test that a sequence can be refused by before it is tried: the one of its first character,
    if letter case cannot matter for that. -/
def startTest? (flags : Flags) (nodes : List Node) : Option (Char → Bool) :=
  match nodes with
  | .set negated members :: _ =>
    if ignoresCase flags members then none else some (admitsSet flags negated members)
  | _ => (startCode? flags nodes).map fun code c => c.toNat == code

/-- Whether the characters that a part matches are counted by matching it again and again, which
    moves the cursor: sets of letters in either case. -/
def countsByMatching (flags : Flags) : List Node → Bool
  | [.set _ members] => ignoresCase flags members
  | [.literal _ code] =>
    flags.ignoreCase && !flags.ascii && isCasedCode false code &&
      match charOf? (lowerCode false code) with
      | some c => !(Unicode.twins c).isEmpty
      | none => false
  | _ => false

end FieldRules.Pattern
