import FieldRules.Proofs.Service.Verdicts
import FieldRules.Proofs.Session.Errors
import Mathlib.Algebra.GroupWithZero.Nat

/-!
# What checking a record writes

Of the built-in rules only `sanitize` writes to a record: it makes the value of its own field
harmless, once for each time that the field asks for it, as long as something is left of the value.
The checks of a run write nothing.

Results:
* `Registry.transformed_replicate`: `sanitize` several times over.
* `validate_sanitizes`: what a record is like after it has been checked.
-/

namespace FieldRules

/-! ## Sanitizing several times over -/

namespace Registry

/-- The transform among the built-in rules. -/
def sanitizeRule : String := "sanitize"

/-- A value made harmless so many times, as long as it counts as present. -/
def sanitized (policy : Markup.Policy) : Nat → Value → Except TransformFault Value
  | 0, value => .ok value
  | n + 1, value =>
    if value.truthy then sanitize policy value >>= sanitized policy n else .ok value

section Sanitize

variable {r : Registry} {policy : Markup.Policy}

theorem Extends.isTransform_eq (h : r.Extends policy) {name : String}
    (hname : (standard policy).has name = true) :
    r.isTransform name = (name == sanitizeRule) := by
  rw [h.isTransform hname]
  show (Entries.get? [(sanitizeRule, sanitize policy)] name).isSome = _
  rw [Entries.get?_cons, Entries.get?_nil]
  by_cases heq : name = sanitizeRule <;> simp [heq]

theorem transformed_of_not_truthy {value : Value} (h : ¬ value.truthy = true)
    (names : List String) : r.transformed names value = .ok value := by
  induction names with
  | nil => rfl
  | cons name names ih =>
    rw [transformed, List.foldlM_cons, applied, if_neg h]
    exact ih

theorem sanitized_of_not_truthy {value : Value} (h : ¬ value.truthy = true) (n : Nat) :
    sanitized policy n value = .ok value := by
  cases n with
  | zero => rfl
  | succ n => rw [sanitized, if_neg h]

/-- `sanitize` several times over. -/
theorem Extends.transformed_replicate (h : r.Extends policy) (n : Nat) (value : Value) :
    r.transformed (List.replicate n sanitizeRule) value =
      (sanitized policy n value).mapError Fault.transform := by
  have htransform : r.transforms.get? sanitizeRule = some (sanitize policy) :=
    h.transform sanitizeRule rfl
  induction n generalizing value with
  | zero => rfl
  | succ n ih =>
    by_cases htruthy : value.truthy = true
    · rw [List.replicate_succ, transformed, List.foldlM_cons, applied, if_pos htruthy, htransform,
        sanitized, if_pos htruthy]
      simp only
      cases sanitize policy value with
      | error fault => rfl
      | ok made => exact ih made
    · rw [transformed_of_not_truthy htruthy, sanitized_of_not_truthy htruthy]
      rfl

/-- Only a value that counts as present is changed, and only if that is asked for. -/
theorem truthy_of_sanitized_ne {n : Nat} {value made : Value}
    (h : sanitized policy n value = .ok made) (hne : made ≠ value) :
    0 < n ∧ value.truthy = true := by
  by_cases htruthy : value.truthy = true
  · refine ⟨Nat.pos_of_ne_zero ?_, htruthy⟩
    rintro rfl
    cases h
    exact hne rfl
  · rw [sanitized_of_not_truthy htruthy] at h
    cases h
    exact absurd rfl hne

end Sanitize

end Registry

namespace Checker

/-! ## How often fields are sanitized -/

/-- How often a field is sanitized by the rules that it is given. -/
def sanitizeTokens (given : Value) : Nat :=
  match specIn given with
  | .text text => ((Spec.split text.toList).map Spec.nameOf).count Registry.sanitizeRule
  | _ => 0

/-- How often a field is sanitized. -/
def sanitizeCount (rules : Entries Value) (field : String) : Nat :=
  (rules.map fun e => if e.1 = field then sanitizeTokens e.2 else 0).sum

section Count

variable {r : Registry} {policy : Markup.Policy} {rules : Entries Value}

/-- The transforms that a field is given are `sanitize`, as often as that is asked for. -/
theorem transformsOf_eq_replicate (hr : r.Extends policy) {given : Value}
    (hgiven : GivesBuiltins policy given) :
    transformsOf r given = List.replicate (sanitizeTokens given) Registry.sanitizeRule := by
  unfold transformsOf sanitizeTokens
  cases htext : specIn given with
  | text text =>
    simp only
    rw [Spec.transformsIn, ← List.filter_beq]
    apply List.filter_congr
    intro name hname
    obtain ⟨token, htoken, rfl⟩ := List.mem_map.1 hname
    rw [hr.isTransform_eq (hgiven text htext token htoken)]
  | _ => rfl

theorem transformsFor_eq_replicate (hr : r.Extends policy)
    (hrules : UsesBuiltins policy rules) (field : String) :
    transformsFor r rules field =
      List.replicate (sanitizeCount rules field) Registry.sanitizeRule := by
  induction rules with
  | nil => rfl
  | cons e rules ih =>
    obtain ⟨hfirst, hrest⟩ := List.forall_mem_cons.1 hrules
    have hcount : sanitizeCount (e :: rules) field =
        (if e.1 = field then sanitizeTokens e.2 else 0) + sanitizeCount rules field := rfl
    rw [transformsFor, List.flatMap_cons, ← transformsFor, ih hrest, hcount,
      ← List.replicate_append_replicate]
    congr 1
    split
    · exact transformsOf_eq_replicate hr hfirst
    · rfl

end Count

/-! ## Checked records -/

/-- What checking a record writes, with rules that name no others than the built-in ones. If
    something is found out about a record, then the record has the same keys as before, in the same
    order, and its values are those from before, each one sanitized as often as the rules of its
    field ask for it, as long as it counted as present. So a value is another one only if it counted
    as present and was to be sanitized, and the record that is reported is the one that was
    given. -/
theorem validate_sanitizes {c : Checker} {today : Calendar.Today} {policy : Markup.Policy}
    {old rules : Entries Value} {report : Report} (hc : c.registry.Extends policy)
    (hrules : UsesBuiltins policy rules)
    (h : (c.validate today (.map old) rules).2 = .ok report) :
    ∃ new : Entries Value, report.data = .map new ∧
      recordAfter (.map old) (c.validate today (.map old) rules).1 = .map new ∧
      new.keys = old.keys ∧
      (∀ field, old.get? field = none → new.get? field = none) ∧
      ∀ field value, old.get? field = some value → ∃ made, new.get? field = some made ∧
        Registry.sanitized policy (sanitizeCount rules field) value = .ok made ∧
        (made ≠ value → 0 < sanitizeCount rules field ∧ value.truthy = true) := by
  obtain ⟨s, new, verdict, -, -, hrewritten, -, -, rfl, hafter⟩ := verdicts_of_validate hc hrules h
  refine ⟨new, rfl, hafter, hrewritten.keys, fun field hnone => ?_, fun field value hvalue => ?_⟩
  · have hkey : field ∉ Entries.keys new := by
      rw [hrewritten.keys, Entries.mem_keys_iff]
      exact not_not.2 hnone
    exact not_not.1 (mt Entries.mem_keys_iff.2 hkey)
  · obtain ⟨made, hmade, hnew⟩ := hrewritten.values field value hvalue
    rw [transformsFor_eq_replicate hc hrules, hc.transformed_replicate] at hmade
    have hmade := mapError_eq_ok_iff.1 hmade
    exact ⟨made, hnew, hmade, Registry.truthy_of_sanitized_ne hmade⟩

/-- A record with a value to be sanitized, a value that does not count as present, and one that is
    left alone. -/
def mixedRecord : Entries Value :=
  [("a", .text " x "), ("b", .int 0), ("c", .text " y ")]

/-- Rules that sanitize the first field twice, the second one once, and one that is not there. -/
def sanitizeSome : Entries Value :=
  [("b", .text "sanitize"), ("a", .text "sanitize|sanitize"), ("d", .text "sanitize")]

/-- The first field is sanitized, and the others are left as they were. -/
theorem validate_mixedRecord :
    ∃ report : Report,
      (plainChecker.validate someDay (.map mixedRecord) sanitizeSome).2 = .ok report ∧
      ∃ new : Entries Value, report.data = .map new ∧
        recordAfter (.map mixedRecord)
          (plainChecker.validate someDay (.map mixedRecord) sanitizeSome).1 = .map new ∧
        new.get? "a" = some (.text "x") ∧ new.get? "b" = some (.int 0) := by
  have hextends : plainChecker.registry.Extends .standard :=
    Registry.extends_standard .standard
  have hbuiltin : UsesBuiltins .standard sanitizeSome := by
    intro e he text htext
    simp only [sanitizeSome, List.mem_cons, List.not_mem_nil, or_false] at he
    rcases he with rfl | rfl | rfl <;> cases htext <;> decide
  have hok : (plainChecker.validate someDay (.map mixedRecord) sanitizeSome).2.toBool = true := by
    decide +kernel
  rcases hreport : (plainChecker.validate someDay (.map mixedRecord) sanitizeSome).2 with
    fault | report
  · rw [hreport] at hok
    cases hok
  · obtain ⟨new, hdata, hafter, -, -, hvalues⟩ := validate_sanitizes hextends hbuiltin hreport
    obtain ⟨made, hnew, hmade, -⟩ := hvalues "a" (.text " x ") rfl
    obtain ⟨made', hnew', hmade', -⟩ := hvalues "b" (.int 0) rfl
    have hcount : sanitizeCount sanitizeSome "a" = 2 := by decide
    have hcount' : sanitizeCount sanitizeSome "b" = 1 := by decide
    rw [hcount] at hmade
    rw [hcount', Registry.sanitized_of_not_truthy (by decide)] at hmade'
    cases hmade'
    have htwice : Registry.sanitized .standard 2 (.text " x ") = .ok (.text "x") := by rfl
    cases hmade.symm.trans htwice
    exact ⟨report, rfl, new, hdata, hafter, hnew, hnew'⟩

end Checker

end FieldRules
