import FieldRules.Unicode.Name.Alias
import FieldRules.Unicode.Name.Alphabets
import FieldRules.Unicode.Name.Ancient
import FieldRules.Unicode.Name.Cuneiform
import FieldRules.Unicode.Name.EastAsia
import FieldRules.Unicode.Name.Forms
import FieldRules.Unicode.Name.Notation
import FieldRules.Unicode.Name.Pictographs
import FieldRules.Unicode.Name.Syllables
import FieldRules.Unicode.Name.Symbols

/-!
# Names of characters

A character is found by its name of version 14: one that is listed, one that tells the code point,
or one that spells a Hangul syllable. Listed names are compared without regard to case; those of
ideographs and Hangul syllables are written in capitals.
-/

namespace FieldRules.Unicode

/-- All runs of listed names. -/
def nameRuns : List NameRun :=
  alphabetNames ++ syllableNames ++ symbolNames ++ eastAsianNames ++ formNames ++ ancientNames ++
    cuneiformNames ++ notationNames ++ pictographNames

/-- Stems of listed names that end in a hyphen and the code point, with the ranges of them. -/
def numberedStems : List (String × List (Nat × Nat)) :=
  [("CJK COMPATIBILITY IDEOGRAPH-", [(0xF900, 0xFA6D), (0xFA70, 0xFAD9), (0x2F800, 0x2FA1D)]),
   ("KHITAN SMALL SCRIPT CHARACTER-", [(0x18B00, 0x18CD5)]),
   ("NUSHU CHARACTER-", [(0x1B170, 0x1B2FB)])]

/-- The ranges of unified ideographs. -/
def ideographRanges : List (Nat × Nat) :=
  [(0x3400, 0x4DBF), (0x4E00, 0x9FFF), (0x20000, 0x2A6DF), (0x2A700, 0x2B738), (0x2B740, 0x2B81D),
   (0x2B820, 0x2CEA1), (0x2CEB0, 0x2EBE0), (0x30000, 0x3134A)]

/-- The code point in four or five capital hexadecimal digits, if one of the ranges has it. -/
def codeIn? (ranges : List (Nat × Nat)) (digits : List Char) : Option Nat :=
  let value? (c : Char) : Option Nat :=
    if c.isDigit then some (c.toNat - 48)
    else if 'A' ≤ c && c ≤ 'F' then some (c.toNat - 55)
    else none
  if digits.length ≠ 4 && digits.length ≠ 5 then none
  else
    ((digits.mapM value?).map (·.foldl (fun n d => n * 16 + d) 0)).filter fun n =>
      ranges.any fun r => r.1 ≤ n && n ≤ r.2

/-! ## Hangul syllables -/

/-- The leading consonants. -/
def leadingSounds : List String :=
  ["G", "GG", "N", "D", "DD", "R", "M", "B", "BB", "S", "SS", "", "J", "JJ", "C", "K", "T", "P",
   "H"]

/-- The vowels. -/
def vowelSounds : List String :=
  ["A", "AE", "YA", "YAE", "EO", "E", "YEO", "YE", "O", "WA", "WAE", "OE", "YO", "U", "WEO", "WE",
   "WI", "YU", "EU", "YI", "I"]

/-- The trailing consonants. -/
def trailingSounds : List String :=
  ["", "G", "GG", "GS", "N", "NJ", "NH", "D", "L", "LG", "LM", "LB", "LS", "LT", "LP", "LH", "M",
   "B", "BS", "S", "SS", "NG", "J", "C", "K", "T", "P", "H"]

/-- The longest of some sounds that a text starts with: its index, and the rest of the text. -/
def takeSound? (sounds : List String) (s : List Char) : Option (Nat × List Char) :=
  let found := (sounds.zipIdx.filter fun p => p.1.toList.isPrefixOf s).foldl
    (fun best p =>
      match best with
      | some (sound, _) => if sound.length < p.1.length then some p else best
      | none => some p)
    none
  found.map fun (sound, index) => (index, s.drop sound.length)

/-- The code point of the Hangul syllable that a text spells. -/
def syllable? (s : List Char) : Option Nat := do
  let (leading, s) ← takeSound? leadingSounds s
  let (vowel, s) ← takeSound? vowelSounds s
  let (trailing, s) ← takeSound? trailingSounds s
  if s.isEmpty then
    some (0xAC00 + (leading * vowelSounds.length + vowel) * trailingSounds.length + trailing)
  else none

/-! ## Names -/

/-- What a text goes on with after a stem. -/
def afterStem? (stem : String) (name : List Char) : Option (List Char) :=
  if stem.toList.isPrefixOf name then some (name.drop stem.toList.length) else none

/-- The code point of a listed name in capitals. -/
def listed? (name : List Char) : Option Nat :=
  ((numberedStems.findSome? fun (stem, ranges) =>
      (afterStem? stem name).bind (codeIn? ranges)).orElse fun _ =>
    nameRuns.findSome? (·.find? name)).orElse fun _ =>
  (otherNames.lookup (String.ofList name)).orElse fun _ =>
  (afterStem? "VS" name).bind fun digits =>
    (List.range' 1 256).findSome? fun n =>
      if (toString n).toList = digits then
        some (if n ≤ 16 then 0xFE00 + (n - 1) else 0xE0100 + (n - 17))
      else none

/-- The code point of the character with a name. -/
def named? (name : String) : Option Nat :=
  let s := name.toList
  match afterStem? "HANGUL SYLLABLE " s, afterStem? "CJK UNIFIED IDEOGRAPH-" s with
  | some spelling, _ => syllable? spelling
  | _, some digits => codeIn? ideographRanges digits
  | none, none => listed? (s.map Char.toUpper)

end FieldRules.Unicode
