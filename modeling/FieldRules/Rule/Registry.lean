import FieldRules.Rule.Fault

/-!
# The registry of rules

A rule is a check under a name, or a transform that changes a value at once. A check is given a
value and its options and answers with what it does: it reports, keeps its report for later, fails,
or acts on the session that it runs in.

Results:
* `get?_register_self`, `get?_register_ne`: what a registry holds after a rule is registered.
* `evaluate_of_isEmpty`: an empty value passes every rule but `required`, without a check.
-/

namespace FieldRules

/-- One step of what a check does. -/
inductive Action where
  /-- Writes the call down. -/
  | note
  /-- Reports a verdict, with options to show. -/
  | report (passed : Bool) (options : Option (List Value))
  /-- Keeps the report for later. -/
  | keep
  /-- Gives up. -/
  | fail (fault : Fault)
  /-- Writes a field of the record. -/
  | assign (field : String) (value : Value)
  /-- Gives a field its rules. -/
  | configure (field : String) (friendly : Value) (spec : Value)
  /-- Takes another record. -/
  | replace (record : Value)
  /-- Gives way to the loop some times, then reports a verdict; none stands for a fault. -/
  | later (yields : Nat) (verdict : Option Bool)

/-- What can be seen of a check where no session is: how often its call was written down, and its
    reports. -/
structure Observation where
  notes : Nat
  reports : List (Bool × Option (List Value))

/-- Watches a check up to its first fault. -/
def observe : List Action → Except Fault Observation
  | [] => .ok ⟨0, []⟩
  | .note :: rest => do
    let seen ← observe rest
    return { seen with notes := seen.notes + 1 }
  | .report passed options :: rest => do
    let seen ← observe rest
    return { seen with reports := (passed, options) :: seen.reports }
  | .fail fault :: _ => .error fault
  | .later _ _ :: _ => .error .noLoop
  | _ :: rest => observe rest

/-- A check: from the day it is made on, a value and options to what is done. -/
abbrev Check := Calendar.Today → Value → List Value → List Action

/-- A transform of a value, which may give up. -/
abbrev Transform := Value → Except TransformFault Value

/-- A check with what its options have to be. Model of `RuleDefinition`. -/
structure Definition where
  check : Check
  requiresOptions : Bool
  integerOption : Bool
  isAsync : Bool

/-- The rules and the transforms that are known. Model of `RuleRegistry`. -/
structure Registry where
  rules : Entries Definition
  transforms : Entries Transform

namespace Registry

/-- No rules. -/
def empty : Registry := ⟨[], []⟩

/-- Whether a name is taken. Model of `RuleRegistry.__contains__`. -/
def has (r : Registry) (name : String) : Bool := r.rules.has name || r.transforms.has name

/-- The definition of a rule. Model of `RuleRegistry.get`. -/
def get? (r : Registry) (name : String) : Option Definition := r.rules.get? name

/-- Whether a name is that of a transform. Model of `is_transform`. -/
def isTransform (r : Registry) (name : String) : Bool := r.transforms.has name

/-- Whether a rule needs options. Model of `requires_options`. -/
def requiresOptions (r : Registry) (name : String) : Bool :=
  ((r.get? name).map (·.requiresOptions)).getD false

/-- All names: rules, then transforms, each in the order of registration. Model of
    `RuleRegistry.names`. -/
def names (r : Registry) : List String := r.rules.keys ++ r.transforms.keys

/-- Adds a rule under a free name. Model of `register` and `register_async`. -/
def register (r : Registry) (name : String) (d : Definition) : Except Fault Registry :=
  if r.has name then .error (.ruleTaken name) else .ok { r with rules := r.rules.put name d }

/-- Adds a transform under a free name. Model of `register_transform`. -/
def registerTransform (r : Registry) (name : String) (t : Transform) : Except Fault Registry :=
  if r.has name then .error (.ruleTaken name)
  else .ok { r with transforms := r.transforms.put name t }

/-- The rule that sees empty values. -/
def requiredRule : String := "required"

/-- What a rule does with a value on a day. An empty value passes every other rule. Model of
    `RuleRegistry.evaluate`. -/
def evaluate (r : Registry) (today : Calendar.Today) (name : String) (value : Value)
    (options : List Value) : Except Fault (List Action) :=
  match r.get? name with
  | none => .error (.noSuchRule name)
  | some d =>
    if name = requiredRule then .ok (d.check today value options)
    else if value.isEmpty then .ok [.report true (some options)]
    else
      let seen : Value := match value.ruleText? with | some s => .text s | none => .null
      .ok (d.check today seen options)

/-- A registered rule is found. -/
theorem get?_register_self {r r' : Registry} {name : String} {d : Definition}
    (h : r.register name d = .ok r') : r'.get? name = some d := by
  unfold register at h
  split at h
  · cases h
  · cases h; simp [get?]

/-- Registering a rule leaves the others alone. -/
theorem get?_register_ne {r r' : Registry} {name other : String} {d : Definition}
    (h : r.register name d = .ok r') (hne : other ≠ name) : r'.get? other = r.get? other := by
  unfold register at h
  split at h
  · cases h
  · cases h; exact Entries.get?_put_ne _ _ hne

/-- An empty value passes every rule but `required`, without a check. -/
theorem evaluate_of_isEmpty {r : Registry} {today : Calendar.Today} {name : String}
    {d : Definition} {value : Value} {options : List Value} (hd : r.get? name = some d)
    (hn : name ≠ requiredRule) (hv : value.isEmpty = true) :
    r.evaluate today name value options = .ok [.report true (some options)] := by
  simp [evaluate, hd, hn, hv]

end Registry

end FieldRules
