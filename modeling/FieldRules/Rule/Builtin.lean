import FieldRules.Markup.Clean
import FieldRules.Pattern.Matcher
import FieldRules.Pattern.Parser
import FieldRules.Rule.Registry
import FieldRules.Rule.Shape
import FieldRules.Text

/-!
# The built-in rules

Each of them looks at the text of a value and reports once.
-/

namespace FieldRules

/-- A verdict on a text under some options. -/
abbrev Verdict := List Char → List Value → Except Fault Bool

namespace Verdict

/-- The check that reports a verdict. -/
def check (v : Verdict) : Check := fun _ value options =>
  match v value.toText.toList options with
  | .ok passed => [.report passed (some options)]
  | .error fault => [.fail fault]

/-- A verdict on the shape of a text. Model of `_pattern_predicate`. -/
def ofShape (isOfShape : List Char → Bool) : Verdict := fun s _ => .ok (isOfShape s)

/-- The first option. -/
def firstOption : List Value → Except Fault Value
  | [] => .error (.noOption false)
  | v :: _ => .ok v

/-- The integer at the front of a text. Model of `parse_int`. -/
def integerIn (s : List Char) : Except Fault (Option Int) :=
  match LeadingInt.read s with
  | .absent => .ok none
  | .tooLong count => .error (.tooManyDigits count)
  | .value n => .ok (some n)

/-- The integer at the front of a value's text. -/
def integerOf : Value → Except Fault (Option Int)
  | .null => .ok none
  | v => integerIn v.toText.toList

/-- The first option as an integer, for a comparison written with `sign`. -/
def limit (sign : String) (options : List Value) : Except Fault Int := do
  match ← integerOf (← firstOption options) with
  | some n => return n
  | none =>
    throw (.optionKind s!"'{sign}' not supported between instances of 'int' and 'NoneType'")

/-- At least so many of something. Model of `min_length` and `min_list_length`. -/
def atLeast (count : List Char → Nat) : Verdict := fun s options => do
  return (← limit ">=" options) ≤ (count s : Int)

/-- At most so many of something. Model of `max_length` and `max_list_length`. -/
def atMost (count : List Char → Nat) : Verdict := fun s options => do
  return (count s : Int) ≤ (← limit "<=" options)

/-- As many characters as the option says. Model of `exact_length`. -/
def exactLength : Verdict := fun s options => do
  return (← integerOf (← firstOption options)) = some (s.length : Int)

/-- An integer that stands to the one in the option as asked, by a comparison written with
    `sign`. -/
def comparesInteger (sign : String) (compare : Int → Int → Bool) : Verdict := fun s options => do
  match ← integerIn s with
  | none => return false
  | some n => return compare n (← limit sign options)

/-- An integer above the option. Model of `greater_than`. -/
def greaterThan : Verdict := comparesInteger ">" fun n limit => limit < n

/-- An integer below the option. Model of `less_than`. -/
def lessThan : Verdict := comparesInteger "<" fun n limit => n < limit

/-- A natural number above zero. Model of `natural_no_zero`. -/
def naturalNoZero : Verdict := fun s _ => do
  if !Shape.isNatural s then return false
  match ← integerIn s with
  | none => return false
  | some n => return 0 < n

/-- A text in which a pattern matches somewhere, whatever the case of letters. Model of `regex`. -/
def regex : Verdict := fun s options => do
  match ← firstOption options with
  | .text source =>
    match Pattern.compile { ignoreCase := true } source.toList with
    | .ok p =>
      match p.find s with
      | .ok found => return found
      | .error fault => throw (.pattern source.toList fault)
    | .error fault => throw (.pattern source.toList fault)
  | _ => throw (.optionKind "first argument must be string or compiled pattern")

/-- A text equal to the option. Model of `matches`. -/
def equalsOption : Verdict := fun s options => do
  match ← firstOption options with
  | .text t => return t.toList = s
  | _ => return false

/-- The number of items between commas. -/
def itemCount (s : List Char) : Nat := (Text.cut ',' s).length

/-- Items between commas, none of them empty. Model of `list_rule`. -/
def hasNoEmptyItem (s : List Char) : Bool := (Text.cut ',' s).all fun item => !item.isEmpty

/-- The moment that a text names, if it names one. Model of `parse_date`. -/
def momentIn (today : Calendar.Today) (s : List Char) :
    Except Fault (Option Calendar.Moment) :=
  match Calendar.read today s with
  | .ok m => .ok (some m)
  | .error .noDate => .ok none
  | .error fault => .error (.date fault)

/-- The moment that a value names. -/
def momentOf (today : Calendar.Today) : Value → Except Fault (Option Calendar.Moment)
  | .text t => momentIn today t.toList
  | v => .error (.optionKind s!"Parser must be a string or character stream, not {v.kindName}")

/-- A date. Model of `date`. -/
def date (today : Calendar.Today) : Verdict := fun s _ => do return (← momentIn today s).isSome

/-- A date that stands to the one in the option as asked. -/
def comparesTo (today : Calendar.Today)
    (compare : Calendar.Moment → Calendar.Moment → Option Bool) : Verdict := fun s options => do
  let current ← momentIn today s
  match current, ← momentOf today (← firstOption options) with
  | some a, some b =>
    match compare a b with
    | some passed => return passed
    | none => throw .distantZone
  | _, _ => return false

/-- A date before the one in the option. Model of `before_date`. -/
def beforeDate (today : Calendar.Today) : Verdict := comparesTo today fun a b => a.before? b

/-- A date after the one in the option. Model of `after_date`. -/
def afterDate (today : Calendar.Today) : Verdict := comparesTo today fun a b => b.before? a

/-- The check that reports a verdict which depends on the day it is made on. -/
def dated (v : Calendar.Today → Verdict) : Check := fun today => (v today).check today

/-- The text of a truth value. -/
def isTruthText (s : List Char) : Bool := s = "true".toList || s = "false".toList

end Verdict

/-- Passes a value that is not empty. Model of `required`. -/
def requiredCheck : Check := fun _ value options => [.report (!value.isEmpty) (some options)]

namespace Registry

/-- What a built-in rule asks of its options. -/
inductive OptionNeed where
  | nothing
  | some
  | integer
  deriving DecidableEq, Repr

/-- A built-in rule. -/
def entry (name : String) (need : OptionNeed) (check : Check) : String × Definition :=
  (name, ⟨check, need ≠ .nothing, need = .integer, false⟩)

/-- The built-in rules. -/
def builtinRules : Entries Definition :=
  [entry "required" .nothing requiredCheck,
   entry "minLength" .integer (Verdict.atLeast List.length).check,
   entry "maxLength" .integer (Verdict.atMost List.length).check,
   entry "exactLength" .integer Verdict.exactLength.check,
   entry "greaterThan" .integer Verdict.greaterThan.check,
   entry "lessThan" .integer Verdict.lessThan.check,
   entry "alpha" .nothing (Verdict.ofShape Shape.isLetters).check,
   entry "alphaNumeric" .nothing (Verdict.ofShape Shape.isLettersOrDigits).check,
   entry "alphaNumericDash" .nothing (Verdict.ofShape Shape.isLettersDigitsOrDashes).check,
   entry "numeric" .nothing (Verdict.ofShape Shape.isNumeric).check,
   entry "integer" .nothing (Verdict.ofShape Shape.isInteger).check,
   entry "decimal" .nothing (Verdict.ofShape Shape.isDecimal).check,
   entry "natural" .nothing (Verdict.ofShape Shape.isNatural).check,
   entry "naturalNoZero" .nothing Verdict.naturalNoZero.check,
   entry "email" .nothing (Verdict.ofShape Shape.isEmail).check,
   entry "regex" .some Verdict.regex.check,
   entry "matches" .some Verdict.equalsOption.check,
   entry "list" .nothing (Verdict.ofShape Verdict.hasNoEmptyItem).check,
   entry "minListLength" .integer (Verdict.atLeast Verdict.itemCount).check,
   entry "maxListLength" .integer (Verdict.atMost Verdict.itemCount).check,
   entry "date" .nothing (Verdict.dated Verdict.date),
   entry "beforeDate" .some (Verdict.dated Verdict.beforeDate),
   entry "afterDate" .some (Verdict.dated Verdict.afterDate),
   entry "boolean" .nothing (Verdict.ofShape Verdict.isTruthText).check]

/-- The transform that makes markup harmless. Model of `Sanitizer.__call__`. -/
def sanitize (policy : Markup.Policy) : Transform := fun v =>
  (Markup.cleanValue policy v).mapError .markup

/-- The built-in rules and the transform `sanitize`. Model of `build_default_registry`. -/
def standard (policy : Markup.Policy) : Registry :=
  ⟨builtinRules, [("sanitize", sanitize policy)]⟩

end Registry

end FieldRules
