import FieldRules.Calendar.Reader
import FieldRules.Markup.Policy
import FieldRules.Number.Leading
import FieldRules.Pattern.Fault
import FieldRules.Template.Fault

/-!
# Why a rule cannot be used

A rule text can be wrong when it is read; the rule made of it, or the template of its message, can
still fail when it is used.
-/

namespace FieldRules

/-- What is wrong with one rule of a rule text. -/
inductive SpecCause where
  | unknownRule
  | missingOptions
  | invalidOption (option : String)
  | invalidPattern (detail : String)
  | missingTemplate
  deriving DecidableEq, Repr

/-- The name of a cause. -/
def SpecCause.name : SpecCause → String
  | unknownRule => "UnknownRuleError"
  | missingOptions => "MissingOptionsError"
  | invalidOption _ => "InvalidOptionsError"
  | invalidPattern _ => "InvalidPatternError"
  | missingTemplate => "MissingTemplateError"

/-- A fault of a rule text, found while the text is read: the cause, the rule, and the field if one
    is known. Model of `ConfigurationError`. -/
structure SpecFault where
  cause : SpecCause
  rule : String
  field : Option String
  deriving DecidableEq, Repr

/-- The wording of a fault of a rule text. -/
def SpecFault.message (f : SpecFault) : String :=
  match f.cause with
  | .unknownRule => s!"Rule doesn't exist: '{f.rule}'"
  | .missingOptions => s!"{f.rule} can't operate without options"
  | .invalidOption option => s!"{f.rule} expects an integer option, got '{option}'"
  | .invalidPattern detail => s!"regex expression is invalid: {detail}"
  | .missingTemplate => s!"No error message template for rule '{f.rule}'"

/-- Why a transform gives up. Whatever it is, it is a fault of the transform and none of the rule
    text: that has been read, and found to be right, before any transform is at work. -/
inductive TransformFault where
  /-- Markup cannot be cleaned. -/
  | markup (fault : Markup.PolicyFault)
  /-- A transform with a fault of its own. -/
  | custom (detail : String)
  deriving DecidableEq, Repr

/-- The wording of a transform that gives up. -/
def TransformFault.message : TransformFault → String
  | markup f => f.message
  | custom detail => detail

/-- Why a rule, a session or a run fails. -/
inductive Fault where
  /-- A rule text is wrong. -/
  | spec (fault : SpecFault)
  /-- A rule text is no text. -/
  | specNotText (kind : String)
  /-- The rules of a field are neither a text nor a mapping. -/
  | rulesKind (kind : String)
  /-- A rule is not in the registry. -/
  | noSuchRule (rule : String)
  /-- A rule is in the registry already. -/
  | ruleTaken (rule : String)
  /-- A rule has no option to read; options of a rule text and those given to a rule differ in the
      wording. -/
  | noOption (ofText : Bool)
  /-- An option is of a kind that the rule cannot read. -/
  | optionKind (detail : String)
  /-- A number has too many digits. -/
  | tooManyDigits (count : Nat)
  /-- A pattern cannot be used. -/
  | pattern (source : List Char) (fault : Pattern.Fault)
  /-- A date is out of reach. -/
  | date (fault : Calendar.Fault)
  /-- Moments of zones that are a day or more away are compared. -/
  | distantZone
  /-- A template cannot be filled. -/
  | template (fault : Template.Fault)
  /-- A transform gives up. -/
  | transform (fault : TransformFault)
  /-- A rule with a fault of its own. -/
  | custom (detail : String)
  /-- A rule reported a second time. -/
  | reportedTwice (rule field : String)
  /-- A countdown does not start above zero. -/
  | countdownTotal (total : Int)
  /-- A countdown is at its end already. -/
  | countdownDone (total : Nat)
  /-- A rule that needs a loop is used outside of one. -/
  | noLoop
  /-- The loop that waits for a run is gone. -/
  | loopClosed
  /-- The record is not made of fields. -/
  | notRecord (kind : String)
  /-- The record has no fields that could be written. -/
  | notWritable (kind : String)
  /-- The record has no such field. -/
  | noSuchField (field : String)
  /-- No report has been kept under a number. -/
  | noSuchReport
  deriving DecidableEq, Repr

/-- The wording of a number with too many digits. -/
def tooManyDigitsMessage (count : Nat) : String :=
  s!"Exceeds the limit ({LeadingInt.digitLimit} digits) for integer string conversion: " ++
    s!"value has {count} digits; use sys.set_int_max_str_digits() to increase the limit"

/-- The wording of a fault. -/
def Fault.message : Fault → String
  | spec f => f.message
  | specNotText kind => s!"expected string or bytes-like object, got '{kind}'"
  | rulesKind kind => s!"'{kind}' object has no attribute 'get'"
  | noSuchRule rule => Quoted.ofText rule
  | ruleTaken rule => s!"Rule already registered: {rule}"
  | noOption ofText => (if ofText then "tuple" else "list") ++ " index out of range"
  | optionKind detail => detail
  | tooManyDigits count => tooManyDigitsMessage count
  | pattern source (.malformed cause position) => Pattern.malformedMessage source cause position
  | pattern _ .hugeCode => "Python int too large to convert to C int"
  | pattern _ .hugeRepeat => "the repetition number is too large"
  | pattern _ (.tooManyDigits count) => tooManyDigitsMessage count
  | pattern _ .bothAlphabets => "ASCII and UNICODE flags are incompatible"
  | pattern _ .looksTooFar => "invalid SRE code"
  | pattern _ .crossedGroup =>
    "The span of capturing group is wrong, please report a bug for the re module."
  | date .noDate => "String does not contain a date"
  | date .hugeNumber => "[<class 'decimal.DivisionImpossible'>]"
  | distantZone =>
    "offset must be a timedelta strictly between -timedelta(hours=24) and timedelta(hours=24)."
  | template f => f.message
  | transform f => f.message
  | custom detail => detail
  | reportedTwice rule field => s!"Rule '{rule}' on field '{field}' reported more than once"
  | countdownTotal total => s!"Barrier total must be positive, got {total}"
  | countdownDone total => s!"Completion barrier received more than {total} arrivals"
  | noLoop => "no running event loop"
  | loopClosed => "Event loop is closed"
  | notRecord kind => s!"'{kind}' object has no attribute 'get'"
  | notWritable kind => s!"'{kind}' object does not support item assignment"
  | noSuchField field => Quoted.ofText field
  | noSuchReport => "list index out of range"

end FieldRules
