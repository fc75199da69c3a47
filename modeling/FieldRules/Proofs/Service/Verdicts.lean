import FieldRules.Proofs.Service.Refusal
import FieldRules.Proofs.Session.Decided

/-!
# Records checked with the built-in rules

A checker may have other rules besides the built-in ones, but as long as the rules of a record name
none of those, each of its tasks has a verdict or a fault. Then what is found out about the record
is told by the verdicts, and by what the transforms have made of it.

Results:
* `exists_verdict_of_run_configure`: the tasks of fields that were given built-in rules have
  verdicts or faults.
* `validate_of_verdicts`: what is found out about a record with these verdicts.
* `verdicts_of_validate`: what is known when something is found out about a record.
-/

namespace FieldRules.Checker

/-- A field is given no other rules than the built-in ones. -/
def GivesBuiltins (policy : Markup.Policy) (given : Value) : Prop :=
  ∀ text, specIn given = .text text → ∀ token ∈ Spec.split text.toList,
    (Registry.standard policy).has (Spec.nameOf token) = true

/-- All fields are given no other rules than the built-in ones. -/
def UsesBuiltins (policy : Markup.Policy) (rules : Entries Value) : Prop :=
  ∀ e ∈ rules, GivesBuiltins policy e.2

/-! ## Fields that are given their rules -/

section Configure

variable {field : String} {given : Value} {rules : Entries Value} {s s' : Session}

/-- Whatever becomes of giving fields their rules, the rules in use can be used. -/
theorem isSound_configure (hs : s.IsSound) (rules : Entries Value) :
    (s.after (configure rules)).IsSound := by
  have hfield : ∀ (s : Session) (field : String) (given : Value),
      Session.Upholds s (configureField field given) := by
    intro s field given
    rcases configureField_cases field given with ⟨friendly, hadd⟩ | ⟨hthrow, -⟩
    · rw [hadd]
      exact Session.upholds_addRule field friendly _
    · rw [hthrow]
      exact leaves_throw (.refl s) trivial
  have hall : ∀ s : Session, Session.Upholds s (configure rules) := by
    induction rules with
    | nil => exact fun s => leaves_pure (.refl s) trivial
    | cons e rules ih => exact fun s => (hfield s e.1 e.2).bind fun _ _ _ => ih _
  exact (hall s).state.isSound hs

/-- Giving fields their rules changes nothing of a session but its records and its fields. -/
theorem eq_of_run_configure (h : (configure rules).run s = (.ok (), s')) :
    s' = { s with records := s'.records, fields := s'.fields } := by
  induction rules generalizing s with
  | nil =>
    cases h
    rfl
  | cons e rules ih =>
    obtain ⟨⟨⟩, s₁, hconfigure, h⟩ := run_bind_eq_ok_iff.1 h
    obtain ⟨s₂, new, hrewrites, rfl⟩ := rewrites_of_run_configureField hconfigure
    rw [ih h]
    cases hrewrites <;> rfl

/-- A rule that is put to use has the name of a token of its rule text. -/
theorem names_of_run_addRule {friendly spec : Value}
    (h : (Session.addRule field friendly spec).run s = (.ok (), s')) :
    ∃ text new, spec = .text text ∧ s'.fields = s.fields.put field new ∧
      ∀ use ∈ new.rules, ∃ token ∈ Spec.split text.toList, use.rule = Spec.nameOf token := by
  rw [Session.run_addRule] at h
  cases hparse : Spec.parseValue s.registry s.templates.has (some field) spec with
  | error fault =>
    rw [hparse] at h
    cases h
  | ok found =>
    obtain ⟨text, rfl, htext⟩ := Spec.parse_of_parseValue hparse
    obtain ⟨hwrites, hvalue, -⟩ :=
      Session.confined_useRules field (Spec.isTransform_of_parseValue hparse)
    rw [hparse] at h
    rcases huse : (Session.useRules field found).run s with ⟨fault | uses, s₁⟩
    · simp only [huse] at h
      cases h
    · simp only [huse] at h
      rw [huse] at hwrites hvalue
      cases h
      refine ⟨text, _, rfl, by rw [Session.withSpec, hwrites.fields], fun use hmem => ?_⟩
      obtain ⟨i, hi, rfl⟩ := List.getElem_of_mem hmem
      have hused := hvalue uses rfl
      have hrule := hused.get (hused.length_eq ▸ hi) hi
      have hfound := (List.mem_filter.1 (List.get_mem _ ⟨i, hused.length_eq ▸ hi⟩)).1
      obtain ⟨token, htoken, hread⟩ := Spec.exists_of_mem_mapM htext hfound
      refine ⟨token, htoken, ?_⟩
      have hname := hrule.name
      rw [(Spec.eq_of_parseRule hread).1] at hname
      exact hname

/-- The rules that fields are given have the names of the tokens of their rule texts. -/
theorem names_of_run_configure {P : String → Prop}
    (h : (configure rules).run s = (.ok (), s'))
    (hrules : ∀ e ∈ rules, ∀ text, specIn e.2 = .text text → ∀ token ∈ Spec.split text.toList,
      P (Spec.nameOf token))
    (hs : ∀ e ∈ s.fields, ∀ use ∈ e.2.rules, P use.rule) :
    ∀ e ∈ s'.fields, ∀ use ∈ e.2.rules, P use.rule := by
  induction rules generalizing s with
  | nil =>
    cases h
    exact hs
  | cons e rules ih =>
    obtain ⟨field, given⟩ := e
    obtain ⟨hfirst, hrest⟩ := List.forall_mem_cons.1 hrules
    obtain ⟨⟨⟩, s₁, hconfigure, h⟩ := run_bind_eq_ok_iff.1 h
    change (configureField field given).run s = (.ok (), s₁) at hconfigure
    refine ih h hrest fun e' he' use huse => ?_
    rcases configureField_cases field given with ⟨friendly, hadd⟩ | ⟨hthrow, -⟩
    · rw [hadd] at hconfigure
      obtain ⟨text, new, htext, hfields, hnames⟩ := names_of_run_addRule hconfigure
      rw [hfields] at he'
      rcases Entries.mem_put he' with rfl | he'
      · obtain ⟨token, htoken, hname⟩ := hnames use huse
        exact hname ▸ hfirst text htext token htoken
      · exact hs e' he' use huse
    · rw [hthrow] at hconfigure
      cases hconfigure

end Configure

/-! ## What is found out -/

section Validate

variable {c : Checker} {today : Calendar.Today} {policy : Markup.Policy} {old new : Entries Value}
  {rules : Entries Value} {s : Session}

/-- The tasks of fields that were given built-in rules have verdicts or faults. -/
theorem exists_verdict_of_run_configure (hc : c.registry.Extends policy)
    (hrules : UsesBuiltins policy rules)
    (h : (configure rules).run (c.session today (.map old)) = (.ok (), s))
    (entries : Entries Value) :
    ∃ verdict : Task → Except Fault Bool,
      ∀ t ∈ s.tasks, Decides c.registry today (.map entries) t (verdict t) := by
  have hregistry : s.registry = c.registry := (prepares_of_run_configure h).registry
  have hsound : s.IsSound := by
    have := isSound_configure (Session.isSound_start today c.registry c.settings.messages
      c.settings.separator (.map old)) rules
    unfold Session.after at this
    rwa [show Session.start today c.registry c.settings.messages c.settings.separator (.map old) =
      c.session today (.map old) from rfl, h] at this
  refine exists_verdict fun t ht => ?_
  obtain ⟨e, he, use, huse, rfl⟩ := Session.mem_tasks ht
  obtain ⟨d, hd⟩ := hsound.uses e he use huse
  have hname : (Registry.standard policy).has use.rule = true :=
    names_of_run_configure (P := fun name => (Registry.standard policy).has name = true) h
      hrules (fun _ he => absurd he List.not_mem_nil) e he use huse
  rw [hregistry] at hd
  exact hc.exists_decides hd hname today entries rfl rfl

/-- What is found out about a record when its fields have their rules and the verdicts of their
    tasks are known. -/
theorem validate_of_verdicts {verdict : Task → Except Fault Bool}
    (h : (configure rules).run (c.session today (.map old)) = (.ok (), s))
    (hrecord : s.record = .map new)
    (hd : ∀ t ∈ s.tasks, Decides c.registry today (.map new) t (verdict t)) :
    recordAfter (.map old) (c.validate today (.map old) rules).1 = .map new ∧
      (c.validate today (.map old) rules).2 =
        match settleAll c.settings.messages verdict s.tasks with
        | (.ok (), settled) => .ok ⟨errorsIn s.separator settled, .map new⟩
        | (.error fault, _) => .error (.rule fault) := by
  have hs := eq_of_run_configure h
  have hregistry : s.registry = c.registry := by rw [hs]; rfl
  have hmessages : s.templates = c.settings.messages := by rw [hs]; rfl
  have hzero : s.current = 0 := by rw [hs]; rfl
  have hnone : s.received = [] := by rw [hs]; rfl
  have htoday : s.today = today := by rw [hs]; rfl
  rw [← hrecord, ← hregistry, ← htoday] at hd
  obtain ⟨s', number, hrun, hsame, hreceived⟩ := Session.run_of_decided hd
  have hafter : s'.recordAt 0 = .map new := by
    rw [Session.recordAt, hsame.records, ← hzero]
    exact hrecord
  rw [hmessages] at hrun hreceived
  rw [validate, run_bind, h]
  simp only [hrun]
  rcases hsettle : settleAll c.settings.messages verdict s.tasks with ⟨fault | ⟨⟩, settled⟩
  · exact ⟨hafter, rfl⟩
  · have hall := (settleAll_of_ok (congrArg Prod.fst hsettle)).2
    rw [hsettle] at hall hreceived
    rw [hnone, hzero, if_pos hall, List.nil_append] at hreceived
    refine ⟨hafter, ?_⟩
    simp only [firstReport, hreceived, hafter]

/-- When something is found out about a record, its fields were given their rules, the transforms
    have rewritten it, and every task was settled without a fault. -/
theorem verdicts_of_validate {report : Report} (hc : c.registry.Extends policy)
    (hrules : UsesBuiltins policy rules)
    (h : (c.validate today (.map old) rules).2 = .ok report) :
    ∃ s new verdict, (configure rules).run (c.session today (.map old)) = (.ok (), s) ∧
      s.record = .map new ∧ Rewritten c.registry rules old new ∧
      (∀ t ∈ s.tasks, Decides c.registry today (.map new) t (verdict t)) ∧
      (settleAll c.settings.messages verdict s.tasks).1 = .ok () ∧
      report = ⟨errorsIn s.separator (settleAll c.settings.messages verdict s.tasks).2, .map new⟩ ∧
      recordAfter (.map old) (c.validate today (.map old) rules).1 = .map new := by
  rcases hconfigure : (configure rules).run (c.session today (.map old)) with ⟨fault | ⟨⟩, s⟩
  · rw [validate_of_run_configure hconfigure] at h
    cases h
  · obtain ⟨new, hrecord, hrewritten⟩ :
        ∃ new, s.record = .map new ∧ Rewritten c.registry rules old new := by
      have hrecord : IsRewritten c.registry rules (.map old) s.record :=
        (prepares_of_run_configure hconfigure).record
      generalize s.record = record at hrecord
      cases hrecord with
      | fields h => exact ⟨_, rfl, h⟩
      | other h => exact absurd rfl (h old)
    obtain ⟨verdict, hd⟩ := exists_verdict_of_run_configure hc hrules hconfigure new
    obtain ⟨hafter, hreport⟩ := validate_of_verdicts hconfigure hrecord hd
    rw [h] at hreport
    rcases hsettle : settleAll c.settings.messages verdict s.tasks with ⟨fault | ⟨⟩, settled⟩
    · rw [hsettle] at hreport
      cases hreport
    · rw [hsettle] at hreport
      cases hreport
      refine ⟨s, new, verdict, rfl, hrecord, hrewritten, hd, ?_, ?_, hafter⟩ <;> rw [hsettle]

end Validate

end FieldRules.Checker
