import FieldRules.Proofs.Service.Pool
import FieldRules.Proofs.Service.Refusal
import FieldRules.Proofs.Session.FanOut

/-!
# What is checked although it has the wrong shape

A field is given its rules as a text, or as an object with a text. Records are objects, and their
identifying fields are a list. Nobody looks at this before a record is checked: what has another
shape is refused by whoever comes to need it, with a fault of its own, and is taken where nobody
does.

Results:
* `run_of_other`: a run with tasks fails if the record is no object.
* `isReadable_of_validate`, `isRecord_of_validate`: what fields were given and what the record was,
  if it has been checked.
* `takes_of_validateEach`: what a batch was like, if its records have been checked.
* `exists_checker_of_run_batch`: who has checked a batch, and on what day.
-/

namespace FieldRules

namespace Spec

theorem split_ne_nil (s : List Char) : split s ≠ [] := by
  unfold split splitWith
  split
  · exact Text.cut_ne_nil '|' s
  · exact fun h => Text.cut_ne_nil '|' _ (List.map_eq_nil_iff.1 h)

theorem ne_nil_of_parseValue {registry : Registry} {hasTemplate : String → Bool}
    {field : Option String} {spec : Value} {rules : List Rule}
    (h : parseValue registry hasTemplate field spec = .ok rules) : rules ≠ [] := by
  obtain ⟨text, -, htext⟩ := parse_of_parseValue h
  rintro rfl
  exact split_ne_nil text.toList (List.forall₂_nil_right_iff.1 (forall₂_of_mapM htext))

end Spec

/-! ## Records that are no objects -/

namespace Session

section Other

variable {field : String} {s s' : Session}

theorem map_of_field? {record value : Value} (h : record.field? field = .ok value) :
    ∃ entries, record = .map entries := by
  cases record with
  | map entries => exact ⟨entries, rfl⟩
  | _ => cases h

/-- Rules that are put to use while the record is no object leave the session as it is, and there is
    no transform among them. -/
theorem useRules_of_other {rules : List Spec.Rule} {uses : List RuleUse}
    (hother : ∀ entries, s.record ≠ .map entries) (hrules : rules ≠ [])
    (h : (useRules field rules).run s = (.ok uses, s')) : uses ≠ [] ∧ s' = s := by
  have hsame : s' = s := by
    cases rewrites_of_run_useRules h with
    | entry hrecord => exact absurd hrecord (hother _)
    | nothing => rfl
  refine ⟨?_, hsame⟩
  obtain ⟨rule, rest, rfl⟩ := List.exists_cons_of_ne_nil hrules
  unfold useRules at h
  rw [run_get_bind] at h
  cases hrule : rule.isTransform with
  | true =>
    -- a transform looks its field up first
    rw [if_pos hrule, run_lift_bind_eq_ok_iff] at h
    obtain ⟨value, hvalue, -⟩ := h
    obtain ⟨entries, hrecord⟩ := map_of_field? hvalue
    exact absurd hrecord (hother entries)
  | false =>
    rw [if_neg (Bool.eq_false_iff.1 hrule), run_lift_bind_eq_ok_iff] at h
    obtain ⟨use, -, h⟩ := h
    obtain ⟨uses', s₁, -, h⟩ := run_bind_eq_ok_iff.1 h
    cases h
    exact List.cons_ne_nil _ _

/-- A field that is given its rules while the record is no object has some rule afterwards, and
    nothing else has changed. -/
theorem run_addRule_of_other {friendly spec : Value} (hother : ∀ entries, s.record ≠ .map entries)
    (h : (addRule field friendly spec).run s = (.ok (), s')) :
    ∃ new : FieldSpec, new.rules ≠ [] ∧ s' = s.withSpec field new := by
  rw [run_addRule] at h
  cases hparse : Spec.parseValue s.registry s.templates.has (some field) spec with
  | error fault =>
    rw [hparse] at h
    cases h
  | ok rules =>
    rw [hparse] at h
    simp only at h
    rcases huse : (useRules field rules).run s with ⟨fault | uses, s₁⟩
    · rw [huse] at h
      cases h
    · rw [huse] at h
      cases h
      obtain ⟨huses, rfl⟩ := useRules_of_other hother (Spec.ne_nil_of_parseValue hparse) huse
      exact ⟨_, huses, rfl⟩

theorem tasks_withSpec_ne_nil (s : Session) (field : String) {new : FieldSpec}
    (h : new.rules ≠ []) : (s.withSpec field new).tasks ≠ [] := by
  obtain ⟨use, rest, huses⟩ := List.exists_cons_of_ne_nil h
  have hmem : (field, new) ∈ s.fields.put field new :=
    Entries.mem_of_get? (Entries.get?_put_self _ _ _)
  have htask : (⟨field, new.friendly, use.rule, use.options, use.shown, none⟩ : Task) ∈
      (s.withSpec field new).tasks :=
    List.mem_flatMap.2 ⟨_, hmem, by simp [huses]⟩
  exact List.ne_nil_of_mem htask

/-- A run with tasks fails if the record is no object: the first task looks its field up. -/
theorem run_of_other (loop : Option Nat) (hother : ∀ entries, s.record ≠ .map entries)
    (htasks : s.tasks ≠ []) : (run loop).run s ≠ (.ok (), s') := by
  intro h
  cases hc : Countdown.start s.tasks.length with
  | error fault => exact htasks (run_of_start_error loop hc).1
  | ok countdown =>
    obtain ⟨task, rest, htask⟩ := List.exists_cons_of_ne_nil htasks
    rw [run_of_start loop hc, htask, performAll] at h
    obtain ⟨⟨⟩, s₁, hperform, -⟩ := run_bind_eq_ok_iff.1 h
    unfold perform at hperform
    obtain ⟨⟨⟩, s₂, hbegin, hperform⟩ := run_bind_eq_ok_iff.1 hperform
    cases hbegin
    rw [run_get_bind, run_lift_bind_eq_ok_iff] at hperform
    obtain ⟨value, hvalue, -⟩ := hperform
    obtain ⟨entries, hrecord⟩ := map_of_field? hvalue
    exact hother entries hrecord

end Other

end Session

namespace Checker

/-! ## What fields are given -/

/-- What a field can be given its rules with: a text, or an object with a text. An object without
    one counts as one with an empty text, which names a rule without a name, should there be one. -/
inductive IsReadable (registry : Registry) : Value → Prop
  | text (spec : String) : IsReadable registry (.text spec)
  | object {parts : Entries Value} {spec : String} (h : parts.get? "rules" = some (.text spec)) :
    IsReadable registry (.map parts)
  | nothing {parts : Entries Value} (h : parts.get? "rules" = none)
    (hname : registry.has "" = true) : IsReadable registry (.map parts)

section Configure

variable {field : String} {given : Value} {rules : Entries Value} {s s' : Session}

theorem has_of_parseValue_empty {registry : Registry} {hasTemplate : String → Bool}
    {found : List Spec.Rule}
    (h : Spec.parseValue registry hasTemplate (some field) (.text "") = .ok found) :
    registry.has "" = true := by
  have hread := Spec.forall₂_of_mapM (l := [[]]) h
  obtain ⟨rule, -, hrule, -⟩ := List.forall₂_cons_left_iff.1 hread
  have hname := Spec.has_of_parseRule hrule
  rwa [(Spec.eq_of_parseRule hrule).1] at hname

theorem isReadable_of_run_configureField
    (h : (configureField field given).run s = (.ok (), s')) : IsReadable s.registry given := by
  cases given with
  | text spec => exact .text spec
  | map parts =>
    change (Session.addRule field _ _).run s = _ at h
    rw [Session.run_addRule] at h
    rcases hparse : Spec.parseValue s.registry s.templates.has (some field)
      ((Entries.get? parts "rules").getD (.text "")) with fault | found
    · rw [hparse] at h
      cases h
    · cases hrules : Entries.get? parts "rules" with
      | none =>
        rw [hrules] at hparse
        exact .nothing hrules (has_of_parseValue_empty hparse)
      | some spec =>
        rw [hrules] at hparse
        obtain ⟨text, rfl, -⟩ := Spec.parse_of_parseValue hparse
        exact .object hrules
  | _ => cases h

/-- Fields that have been given their rules could be given them. -/
theorem isReadable_of_run_configure (h : (configure rules).run s = (.ok (), s')) :
    ∀ e ∈ rules, IsReadable s.registry e.2 := by
  induction rules generalizing s with
  | nil => exact fun _ he => absurd he List.not_mem_nil
  | cons e rules ih =>
    obtain ⟨⟨⟩, s₁, hfirst, hrest⟩ := run_bind_eq_ok_iff.1 h
    obtain ⟨s₂, new, hrewrites, rfl⟩ := rewrites_of_run_configureField hfirst
    have hregistry : (s₂.withSpec e.1 new).registry = s.registry := hrewrites.writes.registry
    rw [List.forall_mem_cons]
    exact ⟨isReadable_of_run_configureField hfirst, hregistry ▸ ih hrest⟩

theorem run_configureField_of_other (hother : ∀ entries, s.record ≠ .map entries)
    (h : (configureField field given).run s = (.ok (), s')) :
    s'.tasks ≠ [] ∧ s'.record = s.record := by
  rcases configureField_cases field given with ⟨friendly, hadd⟩ | ⟨hthrow, -⟩
  · rw [hadd] at h
    obtain ⟨new, hnew, rfl⟩ := Session.run_addRule_of_other hother h
    exact ⟨s.tasks_withSpec_ne_nil field hnew, rfl⟩
  · rw [hthrow] at h
    cases h

theorem tasks_of_run_configure (hother : ∀ entries, s.record ≠ .map entries)
    (hsome : s.tasks ≠ [] ∨ rules ≠ []) (h : (configure rules).run s = (.ok (), s')) :
    s'.tasks ≠ [] ∧ s'.record = s.record := by
  induction rules generalizing s with
  | nil =>
    cases h
    exact ⟨hsome.resolve_right fun hne => hne rfl, rfl⟩
  | cons e rules ih =>
    obtain ⟨⟨⟩, s₁, hfirst, hrest⟩ := run_bind_eq_ok_iff.1 h
    obtain ⟨htasks, hrecord⟩ := run_configureField_of_other hother hfirst
    obtain ⟨htasks', hrecord'⟩ := ih (by rwa [hrecord]) (.inl htasks) hrest
    exact ⟨htasks', hrecord'.trans hrecord⟩

end Configure

/-! ## What is found out -/

section Validate

variable {c : Checker} {today : Calendar.Today} {data : Value} {rules : Entries Value}
  {report : Report}

/-- A record that has been checked was given all of its rules, and the run went through. -/
theorem exists_run_of_validate (h : (c.validate today data rules).2 = .ok report) :
    ∃ s s', (configure rules).run (c.session today data) = (.ok (), s) ∧
      (Session.run none).run s = (.ok (), s') := by
  rw [validate, run_bind] at h
  rcases hconfigure : (configure rules).run (c.session today data) with ⟨fault | ⟨⟩, s⟩
  · rw [hconfigure] at h
    cases h
  · rw [hconfigure] at h
    simp only at h
    rcases hrun : (Session.run none).run s with ⟨fault | ⟨⟩, s'⟩
    · rw [hrun] at h
      cases h
    · exact ⟨s, s', rfl, hrun⟩

theorem isReadable_of_validate (h : (c.validate today data rules).2 = .ok report) :
    ∀ e ∈ rules, IsReadable c.registry e.2 := by
  obtain ⟨s, s', hconfigure, -⟩ := exists_run_of_validate h
  exact isReadable_of_run_configure hconfigure

/-- What records can be: nothing, or an object. -/
def IsRecord (data : Value) : Prop := data = .null ∨ ∃ entries, data = .map entries

/-- A record that has been checked with some rule is one. -/
theorem isRecord_of_validate (h : (c.validate today data rules).2 = .ok report)
    (hrules : rules ≠ []) : IsRecord data := by
  obtain ⟨s, s', hconfigure, hrun⟩ := exists_run_of_validate h
  by_contra hno
  have hother : ∀ entries, (c.session today data).record ≠ .map entries := by
    intro entries hrecord
    cases data with
    | null => exact hno (.inl rfl)
    | _ => exact hno (.inr ⟨entries, hrecord⟩)
  obtain ⟨htasks, hrecord⟩ := tasks_of_run_configure hother (.inr hrules) hconfigure
  exact Session.run_of_other none (by rwa [hrecord]) htasks hrun

end Validate

/-! ## Batches -/

/-- What the records, the rules and the identifying fields of a batch are, if its records have been
    checked. Without rules, nobody looks at the records. -/
structure Takes (c : Checker) (records : List Value) (rules : Entries Value) (names : Value) :
    Prop where
  isReadable : ∀ e ∈ rules, IsReadable c.registry e.2
  isRecord : rules ≠ [] → ∀ data ∈ records, IsRecord data
  exists_names : ∃ found, namesIn names = .ok found

section Batch

variable {c : Checker} {today : Calendar.Today} {rules : Entries Value} {names : Value}

theorem takes_of_validateEntry {data : Value} {entry : BatchEntry}
    (h : (c.validateEntry today rules names data).2 = .ok entry) : c.Takes [data] rules names := by
  unfold validateEntry at h
  rcases hvalidate : c.validate today data rules with ⟨s, fault | report⟩
  · rw [hvalidate] at h
    cases h
  · rw [hvalidate] at h
    have hreport : (c.validate today data rules).2 = .ok report := by rw [hvalidate]
    refine ⟨isReadable_of_validate hreport, fun hrules => ?_, ?_⟩
    · exact List.forall_mem_singleton.2 (isRecord_of_validate hreport hrules)
    · cases hnames : namesIn names with
      | ok found => exact ⟨found, rfl⟩
      | error fault =>
        have hidentity : identity (recordAfter data s) names = .error fault := by
          rw [identity, hnames]
          rfl
        simp only [hidentity] at h
        cases h

/-- What a batch with records was like, if all of them have been checked. -/
theorem takes_of_validateEach {records : List Value} {entries : List BatchEntry}
    (hsome : records ≠ []) (h : (c.validateEach today rules names records).2 = .ok entries) :
    c.Takes records rules names := by
  induction records generalizing entries with
  | nil => exact absurd rfl hsome
  | cons data rest ih =>
    rw [validateEach] at h
    rcases hentry : c.validateEntry today rules names data with ⟨s, fault | entry⟩
    · rw [hentry] at h
      cases h
    · have hok : (c.validateEntry today rules names data).2 = .ok entry := by rw [hentry]
      have hfirst := takes_of_validateEntry hok
      cases rest with
      | nil => exact hfirst
      | cons next rest =>
        rw [hentry] at h
        simp only at h
        cases hrest : (c.validateEach today rules names (next :: rest)).2 with
        | error fault =>
          rw [hrest] at h
          cases h
        | ok others =>
          have hlater := ih (List.cons_ne_nil _ _) hrest
          refine ⟨hfirst.isReadable, fun hrules => ?_, hfirst.exists_names⟩
          exact List.forall_mem_cons.2
            ⟨hfirst.isRecord hrules data (List.mem_singleton_self data), hlater.isRecord hrules⟩

end Batch

end Checker

namespace Service

variable {σ : Type} {host : Host (StateM σ)} {service service' : Service} {world world' : σ}
  {records : List Value} {rules : Entries Value} {names : Value} {sessions : List Session}

theorem exists_of_run_bind {α β : Type} {x : ServiceM (StateM σ) α}
    {f : α → ServiceM (StateM σ) β} {b : β}
    (h : (x >>= f).run service world = ((.ok b, service'), world')) :
    ∃ a service₁ world₁, x.run service world = ((.ok a, service₁), world₁) ∧
      (f a).run service₁ world₁ = ((.ok b, service'), world') := by
  rw [run_bind] at h
  rcases hx : x.run service world with ⟨⟨fault | a, service₁⟩, world₁⟩
  · rw [hx] at h
    cases h
  · rw [hx] at h
    exact ⟨a, service₁, world₁, rfl, h⟩

theorem eq_of_run_lift {α : Type} {x : Except Fault α} {a : α}
    (h : (liftM x : ServiceM (StateM σ) α).run service world = ((.ok a, service'), world')) :
    x = .ok a ∧ service' = service := by
  have hrun : (liftM x : ServiceM (StateM σ) α).run service world = ((x, service), world) := rfl
  rw [hrun] at h
  cases h
  exact ⟨rfl, rfl⟩

/-- A batch has been checked on the day that the host told, by the service, or by the worker that
    there is then, unless it had no records. -/
theorem exists_checker_of_run_batch {result : Except Fault (List BatchEntry)}
    (h : (batch host records rules names).run service world =
      ((.ok (sessions, result), service'), world')) :
    records = [] ∨ ∃ c : Checker, (c = service.checker ∨ service'.worker = some c) ∧
      result = (c.validateEach (host.today.run world).1 rules names records).2 := by
  unfold batch at h
  rw [run_bind, run_ask] at h
  simp only at h
  rw [run_bind, run_get] at h
  simp only at h
  split at h
  · cases hfound : service.checker.validateEach (host.today.run world).1 rules names records with
    | mk sessions₁ result₁ =>
      rw [hfound] at h
      cases h
      exact .inr ⟨service.checker, .inl rfl, by rw [hfound]⟩
  · split at h
    · next hempty => exact .inl (List.isEmpty_iff.1 hempty)
    · obtain ⟨⟨⟩, service₁, world₁, -, h⟩ := exists_of_run_bind h
      rw [run_bind, run_get] at h
      obtain ⟨worker, service₂, world₂, hworker, h⟩ := exists_of_run_bind h
      rw [workerOf] at hworker
      cases hfound : service₁.worker with
      | none =>
        rw [hfound] at hworker
        cases hworker
      | some c =>
        rw [hfound] at hworker
        cases hworker
        cases h
        exact .inr ⟨_, .inr hfound, rfl⟩

theorem run_batch_nil (host : Host (StateM σ)) (rules : Entries Value) (names : Value)
    (service : Service) (world : σ) :
    (batch host [] rules names).run service world =
      ((.ok ([], .ok []), service), (host.today.run world).2) := by
  obtain ⟨config, checker, worker, pool⟩ := service
  unfold batch
  rw [run_bind, run_ask]
  cases pool <;> rfl

end Service

end FieldRules
