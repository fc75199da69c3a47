import FieldRules.Value.Display

/-!
# Why a pattern is refused

Each cause has its wording; most are told with the position in the pattern.
-/

namespace FieldRules.Pattern

/-- Why a text is no pattern. -/
inductive Cause where
  | escapeAtEnd
  | incompleteEscape (escape : String)
  | badEscape (escape : String)
  | missingBrace
  | missingName (what : String)
  | unterminatedName (terminator : Char)
  | undefinedCharacter (name : String)
  | octalTooLarge (escape : String)
  | openGroup
  | sameLookbehind
  | invalidGroup (group : Nat)
  | unterminatedSet
  | badRange (first last : String)
  | leastOverMost
  | nothingToRepeat
  | multipleRepeat
  | badGroupName (name : String)
  | unknownGroupName (name : String)
  | redefinedGroup (name : String) (group earlier : Nat)
  | unexpectedEnd
  | unknownExtension (text : String)
  | unterminatedComment
  | unterminatedGroup
  | badGroupNumber
  | tooManyBranches
  | lateGlobalFlags
  | localeFlag
  | incompatibleFlags
  | missingFlagEnd
  | unknownFlag
  | globalFlagOn
  | missingFlag
  | alphabetFlagOff
  | missingColon
  | globalFlagOff
  | flagOnAndOff
  | unbalanced
  | variableLookbehind
  | templateRepeat (operator : String)
  deriving DecidableEq, Repr

/-- The wording of a cause. -/
def Cause.message : Cause → String
  | escapeAtEnd => "bad escape (end of pattern)"
  | incompleteEscape escape => s!"incomplete escape {escape}"
  | badEscape escape => s!"bad escape {escape}"
  | missingBrace => "missing \x7b"
  | missingName what => s!"missing {what}"
  | unterminatedName terminator => s!"missing {terminator}, unterminated name"
  | undefinedCharacter name => "undefined character name " ++ Quoted.ofText name
  | octalTooLarge escape => s!"octal escape value {escape} outside of range 0-0o377"
  | openGroup => "cannot refer to an open group"
  | sameLookbehind => "cannot refer to group defined in the same lookbehind subpattern"
  | invalidGroup group => s!"invalid group reference {group}"
  | unterminatedSet => "unterminated character set"
  | badRange first last => s!"bad character range {first}-{last}"
  | leastOverMost => "min repeat greater than max repeat"
  | nothingToRepeat => "nothing to repeat"
  | multipleRepeat => "multiple repeat"
  | badGroupName name => "bad character in group name " ++ Quoted.ofText name
  | unknownGroupName name => "unknown group name " ++ Quoted.ofText name
  | redefinedGroup name group earlier =>
    "redefinition of group name " ++ Quoted.ofText name ++
      s!" as group {group}; was group {earlier}"
  | unexpectedEnd => "unexpected end of pattern"
  | unknownExtension text => s!"unknown extension ?{text}"
  | unterminatedComment => "missing ), unterminated comment"
  | unterminatedGroup => "missing ), unterminated subpattern"
  | badGroupNumber => "bad group number"
  | tooManyBranches => "conditional backref with more than two branches"
  | lateGlobalFlags => "global flags not at the start of the expression"
  | localeFlag => "bad inline flags: cannot use 'L' flag with a str pattern"
  | incompatibleFlags => "bad inline flags: flags 'a', 'u' and 'L' are incompatible"
  | missingFlagEnd => "missing -, : or )"
  | unknownFlag => "unknown flag"
  | globalFlagOn => "bad inline flags: cannot turn on global flag"
  | missingFlag => "missing flag"
  | alphabetFlagOff => "bad inline flags: cannot turn off flags 'a', 'u' and 'L'"
  | missingColon => "missing :"
  | globalFlagOff => "bad inline flags: cannot turn off global flag"
  | flagOnAndOff => "bad inline flags: flag turned on and off"
  | unbalanced => "unbalanced parenthesis"
  | variableLookbehind => "look-behind requires fixed-width pattern"
  | templateRepeat operator => s!"internal: unsupported template operator {operator}"

/-- What keeps a text from being used as a pattern. -/
inductive Fault where
  /-- The text is no pattern; the place is given for most causes. -/
  | malformed (cause : Cause) (position : Option Nat)
  /-- A code point is beyond what a machine has for one. -/
  | hugeCode
  /-- A repeat count is beyond what a count can be. -/
  | hugeRepeat
  /-- A repeat count has more digits than are converted. -/
  | tooManyDigits (count : Nat)
  /-- Both alphabets are asked for. -/
  | bothAlphabets
  /-- A look-behind is wider than can be gone back. -/
  | looksTooFar
  /-- A match was found in which a group begins behind its end. -/
  | crossedGroup
  deriving DecidableEq, Repr

/-- The place of an offset in a pattern of several lines. -/
def lineAndColumn (pattern : List Char) (offset : Nat) : Nat × Nat :=
  let before := pattern.take offset
  (before.count '\n' + 1, (before.reverse.takeWhile (· ≠ '\n')).length + 1)

/-- The wording for a malformed pattern. -/
def malformedMessage (pattern : List Char) (cause : Cause) : Option Nat → String
  | none => cause.message
  | some position =>
    let place := s!"{cause.message} at position {position}"
    if '\n' ∈ pattern then
      let (line, column) := lineAndColumn pattern position
      s!"{place} (line {line}, column {column})"
    else place

end FieldRules.Pattern
