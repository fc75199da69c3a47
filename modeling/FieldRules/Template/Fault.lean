import FieldRules.Value.Display

/-!
# Why a template cannot be filled

Each cause has its wording.
-/

namespace FieldRules.Template

/-- What keeps a template from being filled. -/
inductive Fault where
  | singleOpen
  | singleClose
  | braceInName
  | noConversion
  | noColonAfterConversion
  | unmatchedSpec
  | unterminatedField
  | tooManyDigits
  | manualToAutomatic
  | automaticToManual
  | noSuchName (name : String)
  | noSuchValue (index : Nat)
  | emptyAttribute
  | strayAfterBracket
  | missingBracket
  | noSuchAttribute (owner name : String)
  | noSuchItem (kind : String)
  | noSuchKey (shown : String)
  | textIndexedByName
  | indexedByName (kind : String)
  | notSubscriptable (kind : String)
  | unknownConversion (c : Char)
  | tooDeep
  | badSpec (spec kind : String)
  | unknownCode (c : Char) (kind : String)
  | signOnText
  | spaceOnText
  | zeroOnText
  | alternateOnText
  | equalsOnText
  | missingPrecision
  | bothSeparators
  | separatorWith (separator code : Char)
  | specUnsupported (kind : String)
  | precisionOnInt
  | zeroOnInt
  | signOnChar
  | alternateOnChar
  | charBeyondWord
  | charOutOfRange
  | intBeyondFloat
  | precisionTooBig
  | tooWide
  deriving DecidableEq, Repr

/-- A character in a message: one without an image is shown by its code point. -/
def shownCode (c : Char) : String :=
  if 32 < c.toNat && c.toNat < 128 then c.toString
  else "\\x" ++ String.ofList (Nat.toDigits 16 c.toNat)

/-- The wording of a cause. -/
def Fault.message : Fault → String
  | singleOpen => "Single '\x7b' encountered in format string"
  | singleClose => "Single '\x7d' encountered in format string"
  | braceInName => "unexpected '\x7b' in field name"
  | noConversion => "end of string while looking for conversion specifier"
  | noColonAfterConversion => "expected ':' after conversion specifier"
  | unmatchedSpec => "unmatched '\x7b' in format spec"
  | unterminatedField => "expected '\x7d' before end of string"
  | tooManyDigits => "Too many decimal digits in format string"
  | manualToAutomatic =>
    "cannot switch from manual field specification to automatic field numbering"
  | automaticToManual =>
    "cannot switch from automatic field numbering to manual field specification"
  | noSuchName name => Quoted.ofText name
  | noSuchValue index => s!"Replacement index {index} out of range for positional args tuple"
  | emptyAttribute => "Empty attribute in format string"
  | strayAfterBracket => "Only '.' or '[' may follow ']' in format field specifier"
  | missingBracket => "Missing ']' in format string"
  | noSuchAttribute owner name => s!"{owner} has no attribute '{name}'"
  | noSuchItem kind => s!"{kind} index out of range"
  | noSuchKey shown => shown
  | textIndexedByName => "string indices must be integers, not 'str'"
  | indexedByName kind => s!"{kind} indices must be integers or slices, not str"
  | notSubscriptable kind => s!"'{kind}' object is not subscriptable"
  | unknownConversion c => s!"Unknown conversion specifier {shownCode c}"
  | tooDeep => "Max string recursion exceeded"
  | badSpec spec kind => s!"Invalid format specifier '{spec}' for object of type '{kind}'"
  | unknownCode c kind => s!"Unknown format code '{shownCode c}' for object of type '{kind}'"
  | signOnText => "Sign not allowed in string format specifier"
  | spaceOnText => "Space not allowed in string format specifier"
  | zeroOnText => "Negative zero coercion (z) not allowed in string format specifier"
  | alternateOnText => "Alternate form (#) not allowed in string format specifier"
  | equalsOnText => "'=' alignment not allowed in string format specifier"
  | missingPrecision => "Format specifier missing precision"
  | bothSeparators => "Cannot specify both ',' and '_'."
  | separatorWith separator code => s!"Cannot specify '{separator}' with '{shownCode code}'."
  | specUnsupported kind => s!"unsupported format string passed to {kind}.__format__"
  | precisionOnInt => "Precision not allowed in integer format specifier"
  | zeroOnInt => "Negative zero coercion (z) not allowed in integer format specifier"
  | signOnChar => "Sign not allowed with integer format specifier 'c'"
  | alternateOnChar => "Alternate form (#) not allowed with integer format specifier 'c'"
  | charBeyondWord => "Python int too large to convert to C long"
  | charOutOfRange => "%c arg not in range(0x110000)"
  | intBeyondFloat => "int too large to convert to float"
  | precisionTooBig => "precision too big"
  | tooWide => ""

end FieldRules.Template
