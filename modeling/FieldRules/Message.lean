import FieldRules.Rule.Fault
import FieldRules.Template.Fill

/-!
# Messages of failed rules

A table has a template for every rule. A message is the template filled with the name of the field
and then the options that are not empty; places without a value stay empty.
-/

namespace FieldRules

/-- Templates by rule. Model of `MessageFormatter`. -/
abbrev MessageTable := Entries String

namespace MessageTable

/-- The templates of the built-in rules. Model of `load_default_error_messages`. -/
def standard : MessageTable :=
  [("required", "The \x7b\x7d field is required."),
   ("minLength", "The \x7b\x7d field must be at least \x7b\x7d characters in length."),
   ("maxLength", "The \x7b\x7d field cannot exceed \x7b\x7d characters in length."),
   ("exactLength", "The \x7b\x7d field must be exactly \x7b\x7d characters in length."),
   ("greaterThan", "The \x7b\x7d field must contain a number greater than \x7b\x7d."),
   ("lessThan", "The \x7b\x7d field must contain a number less than \x7b\x7d."),
   ("alpha", "The \x7b\x7d field may only contain alphabetical characters."),
   ("alphaNumeric", "The \x7b\x7d field may only contain alpha-numeric characters."),
   ("alphaNumericDash",
    "The \x7b\x7d field may only contain alpha-numeric characters and dashes."),
   ("numeric", "The \x7b\x7d field must contain only numbers."),
   ("integer", "The \x7b\x7d field must contain an integer."),
   ("decimal", "The \x7b\x7d field must contain a decimal number."),
   ("natural", "The \x7b\x7d field must contain only positive numbers."),
   ("naturalNoZero", "The \x7b\x7d field must contain a number greater than zero."),
   ("email", "The \x7b\x7d field must contain a valid email address."),
   ("regex", "The \x7b\x7d field is not in the correct format."),
   ("matches", "The \x7b\x7d field does not match the \x7b\x7d field."),
   ("list", "The \x7b\x7d field must be a comma separated list."),
   ("minListLength", "The \x7b\x7d field must contain at least \x7b\x7d items."),
   ("maxListLength", "The \x7b\x7d field cannot contain more than \x7b\x7d items."),
   ("date", "The \x7b\x7d field must contain a valid date."),
   ("beforeDate", "The \x7b\x7d field must contain a date before \x7b\x7d."),
   ("afterDate", "The \x7b\x7d field must contain a date after \x7b\x7d."),
   ("boolean", "The \x7b\x7d field must be true or false.")]

/-- The values of a template: a name, options, and an empty text for every brace it may open. -/
def valuesFor (template : String) (friendly : Value) (options : List Value) : List Value :=
  friendly :: (options.filter Value.truthy).map (fun v => .text v.toText) ++
    List.replicate (template.toList.count '\x7b') (.text "")

/-- The message of a failed rule. Model of `MessageFormatter.format`. -/
def format (table : MessageTable) (rule : String) (friendly : Value) (options : List Value) :
    Except Fault String :=
  match table.get? rule with
  | none => .error (.spec ⟨.missingTemplate, rule, none⟩)
  | some template =>
    (Template.fill template (valuesFor template friendly options)).mapError .template

end MessageTable

end FieldRules
