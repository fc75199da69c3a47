import FieldRules.Proofs.Session.Configured

/-!
# What transforms make of a record

The transforms of a rule text act as soon as it is put to use, one after the other. Each one gets
what the one before has made of the field, as long as that counts as present, and writes it into the
record.

Results:
* `Rewrites.trans`: transforms of one field, several times over.
* `rewrites_of_run_useRules`: what putting rules to use does to a record.
* `rewrites_of_run_addRule`: what giving a field its rules does to a record.
* `isLate_of_run_addRule`: why a field cannot be given its rules.
-/

namespace FieldRules

/-! ## Transforms -/

namespace Registry

/-- What a transform makes of a value. One that does not count as present is left as it is. -/
def applied (r : Registry) (value : Value) (name : String) : Except Fault Value :=
  if value.truthy then
    match r.transforms.get? name with
    | some transform => (transform value).mapError Fault.transform
    | none => .error (.noSuchRule name)
  else .ok value

/-- What transforms make of a value, one after the other. -/
def transformed (r : Registry) (names : List String) (value : Value) : Except Fault Value :=
  names.foldlM r.applied value

theorem transformed_nil (r : Registry) (value : Value) : r.transformed [] value = .ok value := rfl

theorem transformed_singleton (r : Registry) (name : String) (value : Value) :
    r.transformed [name] value = r.applied value name := by
  rw [transformed, List.foldlM_cons]
  cases r.applied value name <;> rfl

theorem transformed_append {r : Registry} {names names' : List String} {value value' : Value}
    (h : r.transformed names value = .ok value') :
    r.transformed (names ++ names') value = r.transformed names' value' := by
  rw [transformed] at h
  rw [transformed, List.foldlM_append, h]
  rfl

end Registry

/-- The names of the transforms in a rule text, in their order. -/
def Spec.transformsIn (registry : Registry) (text : String) : List String :=
  ((Spec.split text.toList).map Spec.nameOf).filter registry.isTransform

namespace Spec

/-- The transforms among the rules of a text are those that it names. -/
theorem transformsIn_eq {registry : Registry} {hasTemplate : String → Bool}
    {field : Option String} {text : String} {rules : List Rule}
    (h : parse registry hasTemplate field text.toList = .ok rules) :
    (rules.filter (·.isTransform)).map (·.name) = transformsIn registry text := by
  have hread := (forall₂_of_mapM h).imp fun token rule hrule => (eq_of_parseRule hrule).1
  change (rules.filter _).map _ = ((split text.toList).map nameOf).filter _
  change List.Forall₂ _ (split text.toList) rules at hread
  clear h
  generalize split text.toList = tokens at hread
  induction hread with
  | nil => rfl
  | @cons token rule tokens rules hrule _ ih =>
    rw [List.map_cons, List.filter_cons, List.filter_cons, ← ih, hrule]
    simp only
    split <;> rfl

end Spec

namespace Session

/-! ## Records that are rewritten -/

/-- What transforms of a field do to a session: what they have made of the entry of the field is
    written into the record. Without an entry, nothing is done. -/
inductive Rewrites (field : String) (names : List String) (s : Session) : Session → Prop
  | entry {entries : Entries Value} {value made : Value} (hrecord : s.record = .map entries)
    (hvalue : entries.get? field = some value)
    (hmade : s.registry.transformed names value = .ok made) :
    Rewrites field names s (s.setRecord (.map (entries.put field made)))
  | nothing (h : ∀ entries, s.record = .map entries → Entries.get? entries field = none) :
    Rewrites field names s s

section Record

variable {field : String} {names names' : List String} {s s₁ s₂ s' : Session}

theorem has_of_get? {entries : Entries Value} {value : Value}
    (h : entries.get? field = some value) : entries.has field = true := by
  rw [Entries.has, h, Option.isSome_some]

theorem Rewrites.writes (h : Rewrites field names s s') : Writes field s s' := by
  cases h with
  | entry hrecord hvalue hmade => exact .entry _ hrecord (has_of_get? hvalue)
  | nothing h => exact .nothing

theorem setRecord_self (h : s.current < s.records.length) : s.setRecord s.record = s := by
  have hlist : s.records.set s.current s.record = s.records := by
    rw [record, recordAt, List.getD_eq_getElem?_getD, List.getElem?_eq_getElem h,
      Option.getD_some, List.set_getElem_self]
  rw [setRecord, hlist]

/-- Transforms that leave the entry of the field as it is leave the session as it is. -/
theorem rewrites_self (h : ∀ entries value, s.record = .map entries →
    Entries.get? entries field = some value → s.registry.transformed names value = .ok value) :
    Rewrites field names s s := by
  by_cases hentry : ∃ entries value, s.record = .map entries ∧
    Entries.get? entries field = some value
  · -- the entry is written once more as it is
    obtain ⟨entries, value, hrecord, hvalue⟩ := hentry
    have hmade := Rewrites.entry hrecord hvalue (h entries value hrecord hvalue)
    rwa [Entries.put_of_get? hvalue, ← hrecord,
      setRecord_self (current_lt_of_has hrecord (has_of_get? hvalue))] at hmade
  · refine .nothing fun entries hrecord => ?_
    cases hvalue : Entries.get? entries field with
    | none => rfl
    | some value => exact absurd ⟨entries, value, hrecord, hvalue⟩ hentry

/-- Transforms one after the other do what all of them do. -/
theorem Rewrites.trans (h : Rewrites field names s s₁) (h' : Rewrites field names' s₁ s₂) :
    Rewrites field (names ++ names') s s₂ := by
  cases h with
  | nothing hnone =>
    cases h' with
    | nothing => exact .nothing hnone
    | entry hrecord hvalue => cases (hnone _ hrecord).symm.trans hvalue
  | @entry entries value made hrecord hvalue hmade =>
    have hnow := record_setRecord (current_lt_of_has hrecord (has_of_get? hvalue))
      (.map (entries.put field made))
    cases h' with
    | nothing hnone => cases (hnone _ hnow).symm.trans (entries.get?_put_self field made)
    | entry hrecord' hvalue' hmade' =>
      cases hnow.symm.trans hrecord'
      cases (entries.get?_put_self field made).symm.trans hvalue'
      rw [setRecord_setRecord, Entries.put_put]
      exact .entry hrecord hvalue ((Registry.transformed_append hmade).trans hmade')

end Record

/-! ## Rules that are put to use -/

section Rules

variable {field : String} {s s' : Session} {rule : Spec.Rule} {rules rest : List Spec.Rule}
  {uses : List RuleUse}

/-- A transform rewrites the record, and the other rules go on from there. -/
theorem rewrites_of_run_useRules_transform (hrule : rule.isTransform = true)
    (h : (useRules field (rule :: rest)).run s = (.ok uses, s')) :
    ∃ s₁, Rewrites field [rule.name] s s₁ ∧ (useRules field rest).run s₁ = (.ok uses, s') := by
  unfold useRules at h
  rw [run_get_bind, if_pos hrule, run_lift_bind_eq_ok_iff] at h
  obtain ⟨value, hfield, h⟩ := h
  have hvalue {entries : Entries Value} {old : Value} (hrecord : s.record = .map entries)
      (hget : entries.get? field = some old) : old = value := by
    rw [hrecord, Value.field?_map, hget] at hfield
    exact Except.ok.inj hfield
  simp only at h
  split at h
  · next htruthy =>
    -- only a field that the record has can be present
    obtain ⟨entries, hrecord, hhas⟩ := has_of_truthy hfield htruthy
    obtain ⟨old, hget⟩ := Option.isSome_iff_exists.1 hhas
    obtain rfl := hvalue hrecord hget
    split at h
    · next transform htransform =>
      rw [run_lift_bind_eq_ok_iff] at h
      obtain ⟨made, hmade, h⟩ := h
      rw [run_bind, run_assign hrecord] at h
      refine ⟨_, .entry hrecord hget ?_, h⟩
      rw [Registry.transformed_singleton, Registry.applied, if_pos htruthy, htransform]
      exact hmade
    · cases h
  · next hfalsy =>
    refine ⟨s, rewrites_self fun entries old hrecord hget => ?_, h⟩
    rw [hvalue hrecord hget, Registry.transformed_singleton, Registry.applied, if_neg hfalsy]

theorem run_useRules_of_deferred (hrule : rule.isTransform = false)
    (h : (useRules field (rule :: rest)).run s = (.ok uses, s')) :
    ∃ uses', (useRules field rest).run s = (.ok uses', s') := by
  unfold useRules at h
  rw [run_get_bind, if_neg (Bool.eq_false_iff.1 hrule), run_lift_bind_eq_ok_iff] at h
  obtain ⟨use, -, h⟩ := h
  obtain ⟨uses', s₁, hrest, h⟩ := run_bind_eq_ok_iff.1 h
  cases h
  exact ⟨uses', hrest⟩

/-- Rules that are put to use rewrite the record with the transforms among them. -/
theorem rewrites_of_run_useRules (h : (useRules field rules).run s = (.ok uses, s')) :
    Rewrites field ((rules.filter (·.isTransform)).map (·.name)) s s' := by
  induction rules generalizing s uses with
  | nil =>
    cases h
    exact rewrites_self fun _ value _ _ => Registry.transformed_nil _ value
  | cons rule rest ih =>
    cases hrule : rule.isTransform with
    | true =>
      obtain ⟨s₁, hfirst, hrest⟩ := rewrites_of_run_useRules_transform hrule h
      rw [List.filter_cons_of_pos hrule, List.map_cons]
      exact hfirst.trans (ih hrest)
    | false =>
      obtain ⟨uses', hrest⟩ := run_useRules_of_deferred hrule h
      rw [List.filter_cons_of_neg (Bool.eq_false_iff.1 hrule)]
      exact ih hrest

/-- A field that is given its rules has its entry rewritten by the transforms that its rule text
    names. Nothing else changes but the rules of the field. -/
theorem rewrites_of_run_addRule {friendly spec : Value}
    (h : (addRule field friendly spec).run s = (.ok (), s')) :
    ∃ text s₁ new, spec = .text text ∧ Rewrites field (Spec.transformsIn s.registry text) s s₁ ∧
      s' = s₁.withSpec field new := by
  rw [run_addRule] at h
  cases hparse : Spec.parseValue s.registry s.templates.has (some field) spec with
  | error fault =>
    rw [hparse] at h
    cases h
  | ok rules =>
    obtain ⟨text, rfl, htext⟩ := Spec.parse_of_parseValue hparse
    rw [hparse] at h
    simp only at h
    rcases huse : (useRules field rules).run s with ⟨fault | uses, s₁⟩
    · rw [huse] at h
      cases h
    · rw [huse] at h
      cases h
      have hrewrites := rewrites_of_run_useRules huse
      rw [Spec.transformsIn_eq htext] at hrewrites
      exact ⟨text, s₁, _, rfl, hrewrites, rfl⟩

/-- A field that cannot be given its rules: the rule text is refused, or its rules are not put to
    use. -/
theorem isLate_of_run_addRule {friendly spec : Value} {fault : Fault}
    (h : (addRule field friendly spec).run s = (.error fault, s')) :
    Spec.parseValue s.registry s.templates.has (some field) spec = .error fault ∨
      ∃ rules, Spec.parseValue s.registry s.templates.has (some field) spec = .ok rules ∧
        IsLate s rules fault := by
  rw [run_addRule] at h
  cases hparse : Spec.parseValue s.registry s.templates.has (some field) spec with
  | error fault' =>
    rw [hparse] at h
    cases h
    exact .inl rfl
  | ok rules =>
    obtain ⟨-, -, hlate⟩ := confined_useRules field (Spec.isTransform_of_parseValue hparse)
    rw [hparse] at h
    simp only at h
    rcases huse : (useRules field rules).run s with ⟨fault' | uses, s₁⟩
    · rw [huse] at h hlate
      cases h
      exact .inr ⟨rules, rfl, hlate fault rfl⟩
    · rw [huse] at h
      cases h

end Rules

end Session

end FieldRules
