import FieldRules.Proofs.Session.Rewriting
import FieldRules.Service.Checker

/-!
# Records whose rules are refused

A record is checked when all of its fields have their rules. A rule text is read as a whole before
anything is done with it, so that a field whose rule text is refused stays as it is, and so do the
fields that come after it. But the transforms of the fields before it have been at work by then, and
what they have written stays in the record.

Results:
* `prepares_of_run_configure`: what giving fields their rules does to a session and to its record.
* `validate_refuses`: what is left of a record if the rule text of a field is refused, and that
  nothing else refuses a rule text but the checks themselves.
* `validate_sanitized`: a field is sanitized before the rules of the next one are refused.
-/

namespace FieldRules.Checker

open Session (Rewrites)

/-! ## Transforms of fields -/

/-- The rule text in what a field is given. -/
def specIn : Value → Value
  | .map parts => (Entries.get? parts "rules").getD (.text "")
  | given => given

/-- The names of the transforms that a field is given. -/
def transformsOf (registry : Registry) (given : Value) : List String :=
  match specIn given with
  | .text text => Spec.transformsIn registry text
  | _ => []

/-- The names of the transforms that rules have for a field. -/
def transformsFor (registry : Registry) (rules : Entries Value) (field : String) : List String :=
  rules.flatMap fun e => if e.1 = field then transformsOf registry e.2 else []

/-- Entries as transforms have left them: the keys are the same, in the same order, and the value of
    each field is what the transforms that it was given have made of it. Without transforms, all is
    the same. -/
structure Rewritten (registry : Registry) (rules old new : Entries Value) : Prop where
  keys : new.keys = old.keys
  values : ∀ field value, old.get? field = some value → ∃ made,
    registry.transformed (transformsFor registry rules field) value = .ok made ∧
      new.get? field = some made
  same : (∀ e ∈ rules, transformsOf registry e.2 = []) → new = old

/-- A record as transforms have left it. One that is not made of fields is the same. -/
inductive IsRewritten (registry : Registry) (rules : Entries Value) : Value → Value → Prop
  | fields {old new : Entries Value} (h : Rewritten registry rules old new) :
    IsRewritten registry rules (.map old) (.map new)
  | other {record : Value} (h : ∀ entries, record ≠ .map entries) :
    IsRewritten registry rules record record

section Transforms

variable {registry : Registry} {rules : Entries Value} {field : String} {given : Value}
  {s s₁ s' : Session}

theorem transformsFor_cons_self (registry : Registry) (field : String) (given : Value)
    (rules : Entries Value) :
    transformsFor registry ((field, given) :: rules) field =
      transformsOf registry given ++ transformsFor registry rules field := by
  rw [transformsFor, List.flatMap_cons, if_pos rfl, transformsFor]

theorem transformsFor_cons_ne {other : String} (h : field ≠ other) :
    transformsFor registry ((field, given) :: rules) other =
      transformsFor registry rules other := by
  rw [transformsFor, List.flatMap_cons, if_neg h, List.nil_append, transformsFor]

theorem isRewritten_nil (registry : Registry) (record : Value) :
    IsRewritten registry [] record record := by
  by_cases h : ∃ entries, record = .map entries
  · obtain ⟨entries, rfl⟩ := h
    exact .fields ⟨rfl, fun field value hvalue => ⟨value, rfl, hvalue⟩, fun _ => rfl⟩
  · exact .other fun entries hrecord => h ⟨entries, hrecord⟩

/-- The transforms of one field come before those of the other rules. -/
theorem IsRewritten.cons {record : Value}
    (h : Rewrites field (transformsOf s.registry given) s s₁)
    (h' : IsRewritten s.registry rules s₁.record record) :
    IsRewritten s.registry ((field, given) :: rules) s.record record := by
  cases h with
  | nothing hnone =>
    -- the record has no entry for the field, so that no value is looked up with its transforms
    generalize s.record = first at hnone h'
    cases h' with
    | other hother => exact .other hother
    | @fields old new h' =>
      refine .fields ⟨h'.keys, fun other value hvalue => ?_, fun hall => ?_⟩
      · have hne : field ≠ other := by
          rintro rfl
          cases (hnone old rfl).symm.trans hvalue
        rw [transformsFor_cons_ne hne]
        exact h'.values other value hvalue
      · exact h'.same (List.forall_mem_cons.1 hall).2
  | @entry old value made hrecord hvalue hmade =>
    rw [Session.record_setRecord
      (Session.current_lt_of_has hrecord (Session.has_of_get? hvalue))] at h'
    rw [hrecord]
    cases h' with
    | other hother => exact absurd rfl (hother _)
    | @fields _ new h' =>
      refine .fields ⟨h'.keys.trans (Entries.keys_put_of_get? hvalue made), ?_, fun hall => ?_⟩
      · intro other value' hvalue'
        by_cases hne : field = other
        · -- what the first transforms have made is what the others start from
          subst hne
          cases hvalue.symm.trans hvalue'
          rw [transformsFor_cons_self, Registry.transformed_append hmade]
          exact h'.values field made (Entries.get?_put_self old field made)
        · rw [transformsFor_cons_ne hne]
          refine h'.values other value' ?_
          rw [Entries.get?_put_ne old made (Ne.symm hne), hvalue']
      · obtain ⟨hnone, hall⟩ := List.forall_mem_cons.1 hall
        rw [hnone] at hmade
        cases hmade
        rw [Entries.put_of_get? hvalue] at h'
        exact h'.same hall

end Transforms

/-! ## Giving fields their rules -/

section Configure

variable {field : String} {given : Value} {rules : Entries Value} {s s' : Session}
  {fault : SpecFault}

theorem configureField_cases (field : String) (given : Value) :
    (∃ friendly, configureField field given = Session.addRule field friendly (specIn given)) ∨
      configureField field given = throw (.rulesKind given.kindName) ∧
        ∀ registry hasTemplate fault,
          Spec.parseValue registry hasTemplate (some field) (specIn given) ≠
            .error (.spec fault) := by
  cases given with
  | text spec => exact .inl ⟨_, rfl⟩
  | map parts => exact .inl ⟨_, rfl⟩
  | _ => exact .inr ⟨rfl, fun _ _ _ h => by cases h⟩

/-- A field that is given its rules has its entry rewritten. -/
theorem rewrites_of_run_configureField (h : (configureField field given).run s = (.ok (), s')) :
    ∃ s₁ new, Rewrites field (transformsOf s.registry given) s s₁ ∧
      s' = s₁.withSpec field new := by
  rcases configureField_cases field given with ⟨friendly, hadd⟩ | ⟨hthrow, -⟩
  · rw [hadd] at h
    obtain ⟨text, s₁, new, htext, hrewrites, hs'⟩ := Session.rewrites_of_run_addRule h
    refine ⟨s₁, new, ?_, hs'⟩
    rw [transformsOf, htext]
    exact hrewrites
  · rw [hthrow] at h
    cases h

theorem run_configureField_of_refused
    (h : Spec.parseValue s.registry s.templates.has (some field) (specIn given) =
      .error (.spec fault)) :
    (configureField field given).run s = (.error (.spec fault), s) := by
  rcases configureField_cases field given with ⟨friendly, hadd⟩ | ⟨-, hnone⟩
  · rw [hadd, Session.run_addRule, h]
  · exact absurd h (hnone _ _ _)

/-- A field that cannot be given its rules, with a fault of a rule text: it is that of its own rule
    text. -/
theorem refused_of_run_configureField
    (h : (configureField field given).run s = (.error (.spec fault), s')) :
    Spec.parseValue s.registry s.templates.has (some field) (specIn given) =
      .error (.spec fault) := by
  rcases configureField_cases field given with ⟨friendly, hadd⟩ | ⟨hthrow, -⟩
  · rw [hadd] at h
    rcases Session.isLate_of_run_addRule h with hparse | ⟨found, -, hlate⟩
    · exact hparse
    · cases hlate
  · rw [hthrow] at h
    cases h

/-- What giving fields their rules does to a session: the record is rewritten by their transforms,
    and rules are read with the same registry and the same templates afterwards. -/
structure Prepares (rules : Entries Value) (s s' : Session) : Prop where
  registry : s'.registry = s.registry
  templates : s'.templates = s.templates
  current : s'.current = s.current
  record : IsRewritten s.registry rules s.record s'.record

theorem prepares_of_run_configure (h : (configure rules).run s = (.ok (), s')) :
    Prepares rules s s' := by
  induction rules generalizing s with
  | nil =>
    cases h
    exact ⟨rfl, rfl, rfl, isRewritten_nil _ _⟩
  | cons e rules ih =>
    obtain ⟨field, given⟩ := e
    obtain ⟨⟨⟩, s₂, hfirst, hrest⟩ := run_bind_eq_ok_iff.1 h
    obtain ⟨s₁, new, hrewrites, rfl⟩ := rewrites_of_run_configureField hfirst
    have hwrites := hrewrites.writes
    have hregistry : (s₁.withSpec field new).registry = s.registry := hwrites.registry
    obtain ⟨hregistry', htemplates, hcurrent, hrecord⟩ := ih hrest
    rw [hregistry] at hregistry' hrecord
    exact ⟨hregistry', htemplates.trans hwrites.templates, hcurrent.trans hwrites.current,
      IsRewritten.cons hrewrites hrecord⟩

end Configure

/-! ## Refusals -/

/-- The rule text of a field is refused, after the fields before it were given their rules. -/
structure Refusal (c : Checker) (today : Calendar.Today) (data : Value) (rules : Entries Value)
    where
  before : Entries Value
  field : String
  given : Value
  later : Entries Value
  session : Session
  fault : SpecFault
  rules_eq : rules = before ++ (field, given) :: later
  prepared : (configure before).run (c.session today data) = (.ok (), session)
  refused : Spec.parseValue c.registry c.settings.messages.has (some field) (specIn given) =
    .error (.spec fault)

/-- Why a record is not checked, with a fault of a rule text. -/
inductive Reason (c : Checker) (today : Calendar.Today) (data : Value) (rules : Entries Value)
    (fault : SpecFault) : Prop
  /-- The rule text of a field is refused. -/
  | refused (r : Refusal c today data rules) (h : r.fault = fault)
  /-- All fields have their rules, and a check gives up with the fault. -/
  | run {session after : Session}
    (hprepared : (configure rules).run (c.session today data) = (.ok (), session))
    (h : (Session.run none).run session = (.error (.spec fault), after))

section Validate

variable {c : Checker} {today : Calendar.Today} {data : Value} {rules : Entries Value}
  {s : Session}

theorem isRewritten_recordAfter (h : (configure rules).run (c.session today data) = (.ok (), s)) :
    IsRewritten c.registry rules data (recordAfter data s) := by
  obtain ⟨-, -, hcurrent, hrecord⟩ := prepares_of_run_configure h
  have hzero : s.recordAt 0 = s.record := by rw [Session.record, hcurrent]; rfl
  cases data with
  | null => exact .other fun entries hnull => by cases hnull
  | _ =>
    rw [← hzero] at hrecord
    exact hrecord

theorem validate_of_run_configure {fault : Fault}
    (h : (configure rules).run (c.session today data) = (.error fault, s)) :
    c.validate today data rules = (s, .error (.rule fault)) := by
  rw [validate, run_bind, h]

theorem run_configure_of_refusal (r : Refusal c today data rules) :
    (configure rules).run (c.session today data) = (.error (.spec r.fault), r.session) := by
  obtain ⟨hregistry, htemplates, -, -⟩ := prepares_of_run_configure r.prepared
  have hfield : (configureField r.field r.given).run r.session =
      (.error (.spec r.fault), r.session) := by
    apply run_configureField_of_refused
    rw [hregistry, htemplates]
    exact r.refused
  rw [configure, run_forM_eq_error_iff]
  exact ⟨r.before, (r.field, r.given), r.later, r.session, r.rules_eq, r.prepared, hfield⟩

theorem reason_of_run_configure {fault : SpecFault}
    (h : (configure rules).run (c.session today data) = (.error (.spec fault), s)) :
    Reason c today data rules fault := by
  rw [configure, run_forM_eq_error_iff] at h
  obtain ⟨before, ⟨field, given⟩, later, s₁, hrules, hprepared, hfield⟩ := h
  obtain ⟨hregistry, htemplates, -, -⟩ := prepares_of_run_configure hprepared
  have hrefused := refused_of_run_configureField hfield
  rw [hregistry, htemplates] at hrefused
  exact .refused ⟨before, field, given, later, s₁, fault, hrules, hprepared, hrefused⟩ rfl

/-- What is left of a record whose rules are refused. The transforms of the fields before the one
    whose rule text is refused have rewritten it, and nothing else has been done to it: so it is as
    it was if those fields were given no transforms. There is no other way for a fault of a rule
    text than a check that gives up with one itself. -/
theorem validate_refuses (c : Checker) (today : Calendar.Today) (data : Value)
    (rules : Entries Value) :
    (∀ r : Refusal c today data rules,
      (c.validate today data rules).2 = .error (.rule (.spec r.fault)) ∧
        IsRewritten c.registry r.before data (recordAfter data (c.validate today data rules).1)) ∧
      ∀ fault, (c.validate today data rules).2 = .error (.rule (.spec fault)) →
        Reason c today data rules fault := by
  refine ⟨fun r => ?_, fun fault h => ?_⟩
  · rw [validate_of_run_configure (run_configure_of_refusal r)]
    exact ⟨rfl, isRewritten_recordAfter r.prepared⟩
  · rw [validate, run_bind] at h
    rcases hconfigure : (configure rules).run (c.session today data) with ⟨fault' | ⟨⟩, s⟩
    · rw [hconfigure] at h
      cases h
      exact reason_of_run_configure hconfigure
    · rw [hconfigure] at h
      simp only at h
      rcases hrun : (Session.run none).run s with ⟨fault' | ⟨⟩, s'⟩
      · rw [hrun] at h
        cases h
        exact .run hconfigure hrun
      · rw [hrun] at h
        simp only [firstReport] at h
        split at h <;> cases h

end Validate

/-! ## A field that is sanitized first -/

/-- A checker with the built-in rules and no templates. -/
def plainChecker : Checker :=
  ⟨⟨.map [], [], .ofInt 0⟩, .standard .standard⟩

/-- The day of the examples. -/
def someDay : Calendar.Today := ⟨2024, 5, 31⟩

/-- A record of one field, with blanks around its value. -/
def paddedRecord : Value := .map [("a", .text " x ")]

/-- Rules that sanitize the field, and ask for a rule that does not exist for another one. -/
def sanitizeFirst : Entries Value := [("a", .text "sanitize"), ("b", .text "nope")]

/-- The first field is given its rules, and the rule text of the second one is refused. -/
theorem exists_refusal :
    ∃ r : Refusal plainChecker someDay paddedRecord sanitizeFirst,
      r.before = [("a", .text "sanitize")] := by
  have hfirst : ((configure [("a", .text "sanitize")]).run
      (plainChecker.session someDay paddedRecord)).1.toBool = true := by decide +kernel
  have hsecond : Spec.parseValue plainChecker.registry plainChecker.settings.messages.has (some "b")
      (specIn (.text "nope")) = .error (.spec ⟨.unknownRule, "nope", some "b"⟩) := by
    decide +kernel
  rcases hrun : (configure [("a", .text "sanitize")]).run
    (plainChecker.session someDay paddedRecord) with ⟨fault | ⟨⟩, s⟩
  · rw [hrun] at hfirst
    cases hfirst
  · exact ⟨⟨[("a", .text "sanitize")], "b", .text "nope", [], s,
      ⟨.unknownRule, "nope", some "b"⟩, rfl, hrun, hsecond⟩, rfl⟩

/-- That record is as the transforms of the first field have left it. -/
theorem validate_padded :
    ∃ r : Refusal plainChecker someDay paddedRecord sanitizeFirst,
      r.before = [("a", .text "sanitize")] ∧
      (plainChecker.validate someDay paddedRecord sanitizeFirst).2 =
        .error (.rule (.spec r.fault)) ∧
      IsRewritten plainChecker.registry r.before paddedRecord
        (recordAfter paddedRecord
          (plainChecker.validate someDay paddedRecord sanitizeFirst).1) := by
  obtain ⟨r, hbefore⟩ := exists_refusal
  exact ⟨r, hbefore, (validate_refuses plainChecker someDay paddedRecord sanitizeFirst).1 r⟩

/-- Whether a record was refused for that rule, and has been sanitized. -/
def isRefusedSanitized : Session × Except Service.Fault Report → Bool
  | (s, .error (.rule (.spec fault))) =>
    fault = ⟨.unknownRule, "nope", some "b"⟩ &&
      match recordAfter paddedRecord s with
      | .map [(key, .text value)] => key = "a" && value = "x"
      | _ => false
  | _ => false

theorem refused_of_isRefusedSanitized {outcome : Session × Except Service.Fault Report}
    (h : isRefusedSanitized outcome = true) :
    outcome.2 = .error (.rule (.spec ⟨.unknownRule, "nope", some "b"⟩)) ∧
      recordAfter paddedRecord outcome.1 = .map [("a", .text "x")] := by
  unfold isRefusedSanitized at h
  split at h
  · next s fault =>
    simp only [Bool.and_eq_true, decide_eq_true_eq] at h
    obtain ⟨rfl, h⟩ := h
    split at h
    · next key value hrecord =>
      simp only [Bool.and_eq_true, decide_eq_true_eq] at h
      obtain ⟨rfl, rfl⟩ := h
      exact ⟨rfl, hrecord⟩
    · cases h
  · cases h

/-- The rules of a record are refused, and by then its field has been sanitized. -/
theorem validate_sanitized :
    (plainChecker.validate someDay paddedRecord sanitizeFirst).2 =
        .error (.rule (.spec ⟨.unknownRule, "nope", some "b"⟩)) ∧
      recordAfter paddedRecord (plainChecker.validate someDay paddedRecord sanitizeFirst).1 ≠
        paddedRecord := by
  have h :
      isRefusedSanitized (plainChecker.validate someDay paddedRecord sanitizeFirst) = true := by
    decide +kernel
  obtain ⟨hfault, hrecord⟩ := refused_of_isRefusedSanitized h
  refine ⟨hfault, fun hsame => ?_⟩
  have hfields : Value.map [("a", .text "x")] = paddedRecord := hrecord.symm.trans hsame
  simp [paddedRecord] at hfields

end FieldRules.Checker
