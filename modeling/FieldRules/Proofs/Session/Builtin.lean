import FieldRules.Proofs.Rule.Verdict
import FieldRules.Proofs.Session.FanOut
import FieldRules.Proofs.Template.Plain

/-!
# Runs of the built-in rules

In a session with the built-in rules and their templates, every task of a run reports once, and the
last report hands over the result before the run returns. The exceptions are values that the check
of a rule fails on: then the run fails with it, and its result is never handed over.

Results:
* `evaluate_cases`: what a built-in rule in use does with a value.
* `performAll_report`: tasks that report at once, one after the other.
* `run_of_readable`, `run_of_unreadable`: runs with and without a value that a check fails on.
* `run_of_calls`: so it is with whatever was asked of a session before.
* `run_ones`: a number of one digit more than are converted.
-/

namespace FieldRules

/-! ## Built-in rules on values -/

/-- The check of a built-in rule fails on a value that is not empty. -/
def Unreadable (today : Calendar.Today) (rule : String) (options : List Value) (value : Value)
    (fault : Fault) : Prop :=
  ∃ t, value.ruleText? = some t ∧ t ≠ "" ∧ Verdict.Escapes today rule t.toList options fault

section Evaluate

variable {today : Calendar.Today} {policy : Markup.Policy} {templates : MessageTable}
  {use : RuleUse} {d : Definition}

theorem evaluate_of_required (h : use.IsUsable (.standard policy) templates d)
    (hrule : use.rule = Registry.requiredRule) (today : Calendar.Today) (value : Value) :
    (Registry.standard policy).evaluate today use.rule value use.options =
      .ok [.report (!value.isEmpty) (some use.options)] := by
  have hget := h.definition
  rw [hrule] at hget ⊢
  obtain rfl := Option.some.inj (hget.symm.trans rfl)
  rw [Registry.evaluate, hget]
  simp only [if_true]
  rfl

theorem evaluate_of_text (h : use.IsUsable (.standard policy) templates d)
    (hrule : use.rule ≠ Registry.requiredRule) (today : Calendar.Today) {value : Value}
    {t : String} (ht : value.ruleText? = some t) (hne : t ≠ "") :
    (Registry.standard policy).evaluate today use.rule value use.options =
      .ok (d.check today (.text t) use.options) := by
  have hempty : value.isEmpty = false := by simp [Value.isEmpty, ht, hne]
  rw [Registry.evaluate, h.definition]
  simp only
  rw [if_neg hrule, hempty, ht]
  rfl

/-- A built-in rule in use reports once on a value, or its check fails on it. -/
theorem evaluate_cases (h : use.IsUsable (.standard policy) templates d)
    (today : Calendar.Today) (value : Value) :
    (∃ passed, (Registry.standard policy).evaluate today use.rule value use.options =
        .ok [.report passed (some use.options)]) ∨
      ∃ fault, Unreadable today use.rule use.options value fault ∧
        (Registry.standard policy).evaluate today use.rule value use.options =
          .ok [.fail fault] := by
  by_cases hrule : use.rule = Registry.requiredRule
  · exact .inl ⟨_, evaluate_of_required h hrule today value⟩
  · by_cases hempty : value.isEmpty = true
    · exact .inl ⟨true, Registry.evaluate_of_isEmpty h.definition hrule hempty⟩
    · cases ht : value.ruleText? with
      | none => simp [Value.isEmpty, ht] at hempty
      | some t =>
        have hne : t ≠ "" := by
          rintro rfl
          simp [Value.isEmpty, ht] at hempty
        rw [evaluate_of_text h hrule today ht hne]
        rcases Verdict.check_cases h hrule t with ⟨passed, hcheck⟩ | ⟨fault, he, hcheck⟩
        · exact .inl ⟨passed, by rw [hcheck]⟩
        · exact .inr ⟨fault, ⟨t, ht, hne, he⟩, by rw [hcheck]⟩

/-- The check of a built-in rule in use fails on a value that it cannot read. -/
theorem evaluate_of_unreadable (h : use.IsUsable (.standard policy) templates d)
    {value : Value} {fault : Fault} (hu : Unreadable today use.rule use.options value fault) :
    (Registry.standard policy).evaluate today use.rule value use.options = .ok [.fail fault] := by
  obtain ⟨t, ht, hne, he⟩ := hu
  have hcheck := Verdict.check_of_escapes h he
  have hrule : use.rule ≠ Registry.requiredRule := by
    intro hrule
    have hget := h.definition
    rw [hrule] at hget
    obtain rfl := Option.some.inj (hget.symm.trans rfl)
    cases hcheck
  rw [evaluate_of_text h hrule today ht hne, hcheck]

end Evaluate

namespace Session

/-! ## Tasks that report at once -/

/-- In a run, the tasks before some number have reported and the others have not; every failure of
    a task has a message. -/
structure Underway (s : Session) (run number : Nat) (r : Run) : Prop where
  run : s.runs[run]? = some r
  remaining : r.countdown.remaining + number = r.tasks.length
  waits : ∀ j, number ≤ j → ∀ t, r.tasks[j]? = some t → t.outcome = none
  loop : r.loop = none
  messages : ∀ t ∈ r.tasks, ∃ message,
    s.templates.format t.rule t.friendly (t.shown.map .text) = .ok message

theorem judge_eq_none {t : Task} {templates : MessageTable} {message : String}
    (h : templates.format t.rule t.friendly (t.shown.map .text) = .ok message) (passed : Bool) :
    (t.judge templates passed).2 = none := by
  unfold Task.judge
  cases passed <;> simp [h]

/-- What the result of a run is when it is handed over. -/
def receivedOf (s : Session) (run : Nat) (r : Run) : Received :=
  ⟨⟨r.errors s.separator, r.record, some run⟩, decide (r.record = s.current)⟩

/-- A run with one more task settled is still underway. -/
theorem Underway.next {s s' : Session} {run number : Nat} {r r' : Run} {t : Task}
    (hu : Underway s run number r)
    (hremaining : r'.countdown.remaining + 1 = r.countdown.remaining)
    (htasks : r'.tasks = r.tasks.set number t) (hloop : r'.loop = r.loop)
    (hmessage : ∃ message, s.templates.format t.rule t.friendly (t.shown.map .text) = .ok message)
    (hruns : s'.runs = s.runs.set run r') (htemplates : s'.templates = s.templates) :
    Underway s' run (number + 1) r' := by
  have hbefore := hu.remaining
  refine ⟨?_, ?_, fun j hj u hju => ?_, hloop.trans hu.loop, fun u hmem => ?_⟩
  · rw [hruns, List.getElem?_set_self (List.getElem?_eq_some_iff.1 hu.run).1]
  · rw [htasks, List.length_set]
    omega
  · rw [htasks, List.getElem?_set_ne (by omega)] at hju
    exact hu.waits j (by omega) u hju
  · rw [htasks] at hmem
    rw [htemplates]
    rcases List.mem_or_eq_of_mem_set hmem with hmem | rfl
    · exact hu.messages u hmem
    · exact hmessage

theorem run_deliver_none (s : Session) (result : Delivery) :
    (deliver result none).run s =
      (.ok (), { s with
        delivered := s.delivered ++ [result]
        received := s.received ++ [⟨result, decide (result.record = s.current)⟩] }) := rfl

/-- The next report of a run that is underway is accepted, and the last one hands over the
    result. -/
theorem run_report_of_underway {s : Session} {run number : Nat} {r : Run} (passed : Bool)
    (hu : Underway s run number r) (hlt : number < r.tasks.length) :
    ∃ s' r', (report ⟨run, number⟩ passed).run s = (.ok (), s') ∧
      Underway s' run (number + 1) r' ∧ r'.tasks.length = r.tasks.length ∧ r'.record = r.record ∧
      Same s s' ∧ s'.received = s.received ++
        if number + 1 = r.tasks.length then [s.receivedOf run r'] else [] := by
  have ht : r.tasks[number]? = some r.tasks[number] := List.getElem?_eq_getElem hlt
  have hn := hu.waits number (Nat.le_refl _) _ ht
  have hremaining := hu.remaining
  obtain ⟨c, hc, hreport⟩ := Run.report_of_isNone s.templates passed ht hn (by omega)
  obtain ⟨message, hmessage⟩ := hu.messages _ (List.getElem_mem hlt)
  rw [judge_eq_none hmessage] at hreport
  generalize htask : ({ r.tasks[number] with outcome := _ } : Task) = t at hreport
  generalize hr' : ({ r with tasks := r.tasks.set number t, countdown := c } : Run) = r' at hreport
  have hmessage' : ∃ message, s.templates.format t.rule t.friendly (t.shown.map .text) =
    .ok message := ⟨message, by rw [← htask]; exact hmessage⟩
  have hnext : ∀ s' : Session, s'.runs = s.runs.set run r' → s'.templates = s.templates →
      Underway s' run (number + 1) r' := fun s' =>
    hu.next (by rw [← hr']; exact hc) (by rw [← hr']) (by rw [← hr']) hmessage'
  have hlength : r'.tasks.length = r.tasks.length := by rw [← hr', List.length_set]
  have hrecord : r'.record = r.record := by rw [← hr']
  have hloop : r'.loop = none := by rw [← hr']; exact hu.loop
  by_cases hlast : c.remaining = 0
  · have hend : number + 1 = r.tasks.length := by omega
    let result : Delivery := ⟨r'.errors s.separator, r'.record, some run⟩
    refine ⟨{ s with
      runs := s.runs.set run r'
      delivered := s.delivered ++ [result]
      received := s.received ++ [⟨result, decide (r'.record = s.current)⟩] }, r', ?_,
      hnext _ rfl rfl, hlength, hrecord, ⟨rfl, rfl, rfl, rfl, rfl, rfl⟩, ?_⟩
    · rw [run_report]
      simp only [hu.run, hreport, hlast, decide_true, if_true]
      rw [run_bind, hloop, run_deliver_none]
      rfl
    · rw [if_pos hend]
      rfl
  · have hend : ¬ number + 1 = r.tasks.length := by omega
    refine ⟨{ s with runs := s.runs.set run r' }, r', ?_, hnext _ rfl rfl, hlength, hrecord,
      ⟨rfl, rfl, rfl, rfl, rfl, rfl⟩, ?_⟩
    · rw [run_report]
      simp only [hu.run, hreport, hlast, decide_false]
      rfl
    · rw [if_neg hend, List.append_nil]

/-- A task that reports at once settles one more task; the last one hands over the result. -/
theorem perform_report {s : Session} {run number record : Nat} {r : Run} {task : Task}
    {value : Value} {passed : Bool} {options : Option (List Value)} (hu : Underway s run number r)
    (hlt : number < r.tasks.length) (hvalue : (s.recordAt record).field? task.field = .ok value)
    (hactions : s.registry.evaluate s.today task.rule value task.options =
      .ok [.report passed options]) :
    ∃ s' r', (perform ⟨run, number⟩ record task).run s = (.ok (), s') ∧
      Underway s' run (number + 1) r' ∧ r'.tasks.length = r.tasks.length ∧ r'.record = r.record ∧
      Same s s' ∧ s'.received = s.received ++
        if number + 1 = r.tasks.length then [s.receivedOf run r'] else [] := by
  have hbegun : Underway (s.beginTask run) run number r.beginNext :=
    ⟨by simp [beginTask, hu.run], hu.remaining, hu.waits, hu.loop, hu.messages⟩
  obtain ⟨s', r', hreport, hu', hlength, hrecord, hsame, hreceived⟩ :=
    run_report_of_underway passed hbegun hlt
  refine ⟨s', r', ?_, hu', hlength, hrecord, ⟨hsame.today, hsame.registry, hsame.templates,
    hsame.fields, hsame.records, hsame.current⟩, hreceived⟩
  rw [run_perform _ hvalue hactions]
  show (report ⟨run, number⟩ passed >>= fun _ => (pure () : SessionM Unit)).run _ = _
  rw [run_bind, hreport]
  rfl

/-- Tasks that report at once are settled one after the other; the last one of the run hands over
    the result. -/
theorem performAll_report {s : Session} {run number : Nat} {r : Run} {tasks : List Task}
    (record : Nat) (hu : Underway s run number r) (hlen : number + tasks.length ≤ r.tasks.length)
    (htasks : ∀ t ∈ tasks, ∃ value passed options,
      (s.recordAt record).field? t.field = .ok value ∧
        s.registry.evaluate s.today t.rule value t.options = .ok [.report passed options]) :
    ∃ s' r', (performAll run record tasks number).run s = (.ok (), s') ∧
      Underway s' run (number + tasks.length) r' ∧ r'.tasks.length = r.tasks.length ∧
      r'.record = r.record ∧ Same s s' ∧
      (number + tasks.length < r.tasks.length → s'.received = s.received) ∧
      (tasks ≠ [] → number + tasks.length = r.tasks.length →
        ∃ errors, s'.received = s.received ++
          [⟨⟨errors, r.record, some run⟩, decide (r.record = s.current)⟩]) := by
  induction tasks generalizing s number r with
  | nil => exact ⟨s, r, rfl, hu, rfl, rfl, ⟨rfl, rfl, rfl, rfl, rfl, rfl⟩, fun _ => rfl, nofun⟩
  | cons task rest ih =>
    obtain ⟨⟨value, passed, options, hvalue, hactions⟩, hrest⟩ := List.forall_mem_cons.1 htasks
    rw [List.length_cons] at hlen
    obtain ⟨s₁, r₁, hfirst, hu₁, hlength₁, hrecord₁, hsame₁, hreceived₁⟩ :=
      perform_report hu (by omega) hvalue hactions
    have hrest₁ : ∀ t ∈ rest, ∃ value passed options,
        (s₁.recordAt record).field? t.field = .ok value ∧
          s₁.registry.evaluate s₁.today t.rule value t.options = .ok [.report passed options] := by
      unfold recordAt
      rw [hsame₁.today, hsame₁.registry, hsame₁.records]
      exact hrest
    obtain ⟨s', r', hrun, hu', hlength, hrecord, hsame, hwaiting, hdone⟩ :=
      ih hu₁ (by omega) hrest₁
    have hnumber : number + 1 + rest.length = number + (task :: rest).length := by
      rw [List.length_cons]
      omega
    rw [hnumber] at hu' hwaiting hdone
    rw [hlength₁] at hlength hwaiting hdone
    rw [hrecord₁] at hrecord hdone
    have hcurrent := hsame₁.current
    refine ⟨s', r', ?_, hu', hlength, hrecord, hsame₁.trans hsame, fun hlt => ?_, fun _ hend => ?_⟩
    · rw [performAll, run_bind, hfirst]
      exact hrun
    · have hmore : ¬ number + 1 = r.tasks.length := by omega
      rw [hwaiting hlt, hreceived₁, if_neg hmore, List.append_nil]
    · by_cases hlast : rest = []
      · have hone : number + 1 = r.tasks.length := by simpa [hlast] using hend
        subst hlast
        cases hrun
        refine ⟨r₁.errors s.separator, ?_⟩
        rw [hreceived₁, if_pos hone, receivedOf, hrecord₁]
      · have hmore : ¬ number + 1 = r.tasks.length := by
          have := List.length_pos_iff.2 hlast
          rw [List.length_cons] at hend
          omega
        obtain ⟨errors, hreceived⟩ := hdone hlast hend
        exact ⟨errors, by rw [hreceived, hreceived₁, if_neg hmore, List.append_nil, hcurrent]⟩

/-! ## Runs -/

/-- A session with the built-in rules and their templates, on a mapping. -/
structure IsStandard (s : Session) (policy : Markup.Policy) (entries : Entries Value) :
    Prop where
  sound : s.IsSound
  registry : s.registry = .standard policy
  templates : s.templates = .standard
  record : s.record = .map entries

/-- What the record of a session has for a task. -/
def valueOf (entries : Entries Value) (t : Task) : Value := (entries.get? t.field).getD .null

section Standard

variable {s : Session} {policy : Markup.Policy} {entries : Entries Value}

theorem IsStandard.field? (h : s.IsStandard policy entries) (t : Task) :
    (s.recordAt s.current).field? t.field = .ok (valueOf entries t) := by
  have hrecord : s.recordAt s.current = .map entries := h.record
  rw [hrecord, Value.field?_map]
  rfl

theorem IsStandard.use (h : s.IsStandard policy entries) {t : Task} (ht : t ∈ s.tasks) :
    ∃ use : RuleUse, use.rule = t.rule ∧ use.options = t.options ∧
      ∃ d, use.IsUsable (.standard policy) .standard d := by
  obtain ⟨e, he, use, huse, rfl⟩ := mem_tasks ht
  obtain ⟨d, hd⟩ := h.sound.uses e he use huse
  rw [h.registry, h.templates] at hd
  exact ⟨use, rfl, rfl, d, hd⟩

/-- Every task reports once, or its check fails. -/
theorem IsStandard.evaluate_cases (h : s.IsStandard policy entries) {t : Task}
    (ht : t ∈ s.tasks) (today : Calendar.Today) (value : Value) :
    (∃ passed, s.registry.evaluate today t.rule value t.options =
        .ok [.report passed (some t.options)]) ∨
      ∃ fault, Unreadable today t.rule t.options value fault ∧
        s.registry.evaluate today t.rule value t.options = .ok [.fail fault] := by
  obtain ⟨use, hrule, hoptions, d, hd⟩ := h.use ht
  rw [h.registry, ← hrule, ← hoptions]
  exact FieldRules.evaluate_cases hd today value

theorem IsStandard.evaluate_of_unreadable (h : s.IsStandard policy entries) {t : Task}
    (ht : t ∈ s.tasks) {today : Calendar.Today} {value : Value} {fault : Fault}
    (hu : Unreadable today t.rule t.options value fault) :
    s.registry.evaluate today t.rule value t.options = .ok [.fail fault] := by
  obtain ⟨use, hrule, hoptions, d, hd⟩ := h.use ht
  rw [← hrule, ← hoptions] at hu
  rw [h.registry, ← hrule, ← hoptions]
  exact FieldRules.evaluate_of_unreadable hd hu

/-- A run of built-in rules is underway when it is taken up. -/
theorem IsStandard.underway (h : s.IsStandard policy entries) {countdown : Countdown}
    (hc : Countdown.start s.tasks.length = .ok countdown) :
    (s.openRun countdown none).Underway s.runs.length 0
      ⟨s.tasks, s.current, countdown, 0, none⟩ := by
  have hremaining : countdown.remaining = s.tasks.length := by
    unfold Countdown.start at hc
    split at hc
    · cases hc
    · cases hc
      rfl
  refine ⟨by simp [openRun], hremaining, fun j _ t ht => ?_, rfl, fun t ht => ?_⟩
  · obtain ⟨e, -, use, -, rfl⟩ := mem_tasks (List.mem_of_getElem? ht)
    rfl
  · obtain ⟨use, hrule, -, d, hd⟩ := h.use ht
    have htemplates : (s.openRun countdown none).templates = .standard := h.templates
    rw [htemplates, ← hrule]
    exact MessageTable.exists_format_standard hd.template _ _

theorem IsStandard.reports (h : s.IsStandard policy entries) {tasks : List Task}
    (hmem : ∀ t ∈ tasks, t ∈ s.tasks)
    (hread : ∀ t ∈ tasks, ∀ fault, ¬ Unreadable s.today t.rule t.options (valueOf entries t) fault)
    (countdown : Countdown) :
    ∀ t ∈ tasks, ∃ value passed options,
      ((s.openRun countdown none).recordAt s.current).field? t.field = .ok value ∧
        (s.openRun countdown none).registry.evaluate s.today t.rule value t.options =
          .ok [.report passed options] := by
  intro t ht
  rcases h.evaluate_cases (hmem t ht) s.today (valueOf entries t) with
    ⟨passed, hactions⟩ | ⟨fault, hu, -⟩
  · exact ⟨_, passed, _, h.field? t, hactions⟩
  · exact absurd hu (hread t ht fault)

/-- A run without a value that a check fails on hands over one result before it returns. -/
theorem run_of_readable (h : s.IsStandard policy entries)
    (hread : ∀ t ∈ s.tasks, ∀ fault,
      ¬ Unreadable s.today t.rule t.options (valueOf entries t) fault) :
    ∃ s' errors number, (run none).run s = (.ok (), s') ∧
      s'.received = s.received ++ [⟨⟨errors, s.current, number⟩, true⟩] := by
  rcases hc : Countdown.start s.tasks.length with fault | countdown
  · obtain ⟨-, hrun⟩ := run_of_start_error none hc
    rw [hrun, run_deliver_none]
    exact ⟨_, none, none, rfl, by simp⟩
  · rw [run_of_start none hc]
    have hne : s.tasks ≠ [] := by
      intro hnil
      rw [hnil] at hc
      cases hc
    obtain ⟨s', r', hrun, -, -, -, -, -, hdone⟩ := performAll_report s.current
      (h.underway hc) (Nat.le_of_eq (Nat.zero_add _)) (h.reports (fun _ => id) hread countdown)
    obtain ⟨errors, hreceived⟩ := hdone hne (Nat.zero_add _)
    refine ⟨s', errors, some s.runs.length, hrun, ?_⟩
    rw [hreceived]
    simp [openRun]

/-- A run with a value that a check fails on ends there, and hands over no result. -/
theorem run_of_unreadable (h : s.IsStandard policy entries) {before rest : List Task}
    {task : Task} {fault : Fault} (htasks : s.tasks = before ++ task :: rest)
    (hread : ∀ t ∈ before, ∀ fault,
      ¬ Unreadable s.today t.rule t.options (valueOf entries t) fault)
    (hu : Unreadable s.today task.rule task.options (valueOf entries task) fault) :
    ∃ s', (run none).run s = (.error fault, s') ∧ s'.received = s.received := by
  have hmem : ∀ t ∈ before, t ∈ s.tasks := fun t ht => by
    rw [htasks]
    exact List.mem_append_left _ ht
  have htask : task ∈ s.tasks := by
    rw [htasks]
    exact List.mem_append_right _ List.mem_cons_self
  rcases hc : Countdown.start s.tasks.length with _ | countdown
  · rw [(run_of_start_error none hc).1] at htask
    cases htask
  · rw [run_of_start none hc]
    have hlt : 0 + before.length < s.tasks.length := by
      rw [htasks, List.length_append, List.length_cons]
      omega
    obtain ⟨s₁, r₁, hrun, -, -, -, hsame, hwaiting, -⟩ := performAll_report s.current
      (h.underway hc) (Nat.le_of_lt hlt) (h.reports hmem hread countdown)
    have hvalue : (s₁.recordAt s.current).field? task.field = .ok (valueOf entries task) := by
      have hrecord : s₁.recordAt s.current = s.recordAt s.current := by
        unfold recordAt
        rw [hsame.records]
        rfl
      rw [hrecord]
      exact h.field? task
    have hactions : s₁.registry.evaluate s₁.today task.rule (valueOf entries task)
        task.options = .ok [.fail fault] := by
      rw [hsame.today, hsame.registry]
      exact h.evaluate_of_unreadable htask hu
    refine ⟨s₁.beginTask s.runs.length, ?_, hwaiting hlt⟩
    rw [htasks, performAll_append, run_bind, hrun]
    simp only
    rw [performAll, run_bind, run_perform _ hvalue hactions]
    rfl

end Standard

theorem isSound_of_calls (today : Calendar.Today) (registry : Registry)
    (templates : MessageTable) (separator : String) (record : Value) (calls : List Call) :
    (calls.foldl call (start today registry templates separator record)).IsSound ∧
      (calls.foldl call (start today registry templates separator record)).registry = registry := by
  refine List.foldlRecOn (motive := fun s => s.IsSound ∧ s.registry = registry) calls call
    ⟨isSound_start today registry templates separator record, rfl⟩ fun s hs c _ => ?_
  exact ⟨isSound_call hs.1 c, (registry_call s c).trans hs.2⟩

end Session

/-- A value that is neither a list nor a mapping, and no integer that is too long to be written. -/
def Value.IsFlat : Value → Prop
  | .list _ | .map _ => False
  | .int n => n.natAbs < tenTo LeadingInt.digitLimit
  | _ => True

namespace Session

/-- A session with the built-in rules and their templates, whatever was asked of it: every task
    reports once, or its check fails on the value. A run without such a value returns, and has
    handed over exactly one result by then; a run with one ends with the first of them, and has
    handed over none. -/
theorem run_of_calls (today : Calendar.Today) (policy : Markup.Policy) (templates : MessageTable)
    (separator : String) (record : Value) (calls : List Call) :
    let s := calls.foldl call (start today (.standard policy) templates separator record)
    ∀ entries, s.templates = .standard → s.record = .map entries → (∀ e ∈ entries, e.2.IsFlat) →
      (∀ t ∈ s.tasks, ∀ today value,
        (∃ passed, s.registry.evaluate today t.rule value t.options =
          .ok [.report passed (some t.options)]) ∨
        ∃ fault, Unreadable today t.rule t.options value fault ∧
          s.registry.evaluate today t.rule value t.options = .ok [.fail fault]) ∧
      ((∀ t ∈ s.tasks, ∀ fault, ¬ Unreadable s.today t.rule t.options (valueOf entries t) fault) →
        ∃ s' errors number, (run none).run s = (.ok (), s') ∧
          s'.received = s.received ++ [⟨⟨errors, s.current, number⟩, true⟩]) ∧
      ∀ before task rest fault, s.tasks = before ++ task :: rest →
        (∀ t ∈ before, ∀ fault, ¬ Unreadable s.today t.rule t.options (valueOf entries t) fault) →
        Unreadable s.today task.rule task.options (valueOf entries task) fault →
        ∃ s', (run none).run s = (.error fault, s') ∧ s'.received = s.received := by
  intro s entries htemplates hrecord _
  obtain ⟨hsound, hregistry⟩ :
      s.IsSound ∧ s.registry = .standard policy :=
    isSound_of_calls today (.standard policy) templates separator record calls
  have h : s.IsStandard policy entries := ⟨hsound, hregistry, htemplates, hrecord⟩
  refine ⟨fun t ht => h.evaluate_cases ht, run_of_readable h, ?_⟩
  intro before task rest fault htasks hread hu
  exact run_of_unreadable h htasks hread hu

/-- A session on a record with an age, which has to be above eighteen. -/
def ofAge (age : String) : Session :=
  [Call.addRule "age" (.text "Age") (.text "greaterThan[18]")].foldl call
    (start ⟨2024, 5, 31⟩ (.standard Markup.Policy.standard) .standard "<br>"
      (.map [("age", .text age)]))

theorem tasks_ofAge (age : String) :
    (ofAge age).tasks = [⟨"age", .text "Age", "greaterThan", [.text "18"], ["18"], none⟩] := rfl

theorem run_of_fortyOne :
    ((ofAge "41").templates = .standard ∧ (ofAge "41").record = .map [("age", .text "41")] ∧
        ∀ e ∈ [("age", Value.text "41")], e.2.IsFlat) ∧
      ∃ s' errors number, (run none).run (ofAge "41") = (.ok (), s') ∧
        s'.received = [⟨⟨errors, 0, number⟩, true⟩] := by
  have hflat : ∀ e ∈ [("age", Value.text "41")], e.2.IsFlat := by
    intro e he
    rw [List.mem_singleton.1 he]
    trivial
  have hrun := (run_of_calls ⟨2024, 5, 31⟩ Markup.Policy.standard .standard "<br>"
    (.map [("age", .text "41")]) [.addRule "age" (.text "Age") (.text "greaterThan[18]")]
    [("age", .text "41")] rfl rfl hflat).2.1
  refine ⟨⟨rfl, rfl, hflat⟩, hrun fun t ht fault hu => ?_⟩
  obtain rfl := List.mem_singleton.1 ((tasks_ofAge "41") ▸ ht)
  obtain ⟨text, htext, -, he⟩ := hu
  cases htext
  simp only at he
  generalize hrule : "greaterThan" = rule at he
  cases he with
  | integer hin h =>
    have hread : LeadingInt.read (Value.text "41").toText.toList = .value 41 := by decide
    cases hread.symm.trans h
  | natural hshape h => exact absurd hrule (by decide)
  | pattern hp h => exact absurd hrule (by decide)
  | date hin h hfault => exact absurd (hrule ▸ hin) (by decide)
  | optionDate hin hs h hfault => exact absurd (hrule ▸ hin) (by decide)
  | zone hin ha hb h hfar => exact absurd (hrule ▸ hin) (by decide)

/-- A row of ones is too long a number if there are more of them than are converted. -/
theorem read_ones {count : Nat} (h : LeadingInt.digitLimit < count) :
    LeadingInt.read (List.replicate count '1') = .tooLong count := by
  have hrow : ∀ n, LeadingInt.digitRow (List.replicate n '1') = List.replicate n 1 := by
    intro n
    induction n with
    | zero => rfl
    | succ n ih =>
      have hone : Unicode.digitValue? '1' = some 1 := by decide
      rw [List.replicate_succ, LeadingInt.digitRow, hone, ih]
      rfl
  cases count with
  | zero => cases h
  | succ n =>
    have hblank : (List.replicate (n + 1) '1').dropWhile Unicode.isBlank =
        List.replicate (n + 1) '1' := by
      rw [List.replicate_succ, List.dropWhile_cons]
      rfl
    have hsign : LeadingInt.splitSign (List.replicate (n + 1) '1') =
        (false, List.replicate (n + 1) '1') := rfl
    rw [LeadingInt.read, hblank, hsign]
    simp only
    rw [hrow, List.length_replicate, if_neg (by simp), if_pos h]

/-- A run ends with a number that has one digit more than are converted, and its result is never
    handed over. -/
theorem run_ones :
    let s := ofAge (.ofList (List.replicate 4301 '1'))
    ((run none).run s).1 = .error (.tooManyDigits 4301) ∧ ((run none).run s).2.received = [] := by
  generalize hones : String.ofList (List.replicate 4301 '1') = ones
  have htext : ones.toList = List.replicate 4301 '1' := by rw [← hones, String.toList_ofList]
  have hne : ones ≠ "" := by
    rintro rfl
    rw [List.replicate_succ] at htext
    cases htext
  have hread : LeadingInt.read ones.toList = .tooLong 4301 := by
    rw [htext]
    exact read_ones (by decide)
  obtain ⟨hsound, hregistry⟩ := isSound_of_calls ⟨2024, 5, 31⟩ (.standard Markup.Policy.standard)
    .standard "<br>" (.map [("age", .text ones)])
    [.addRule "age" (.text "Age") (.text "greaterThan[18]")]
  have h : (ofAge ones).IsStandard Markup.Policy.standard [("age", .text ones)] :=
    ⟨hsound, hregistry, rfl, rfl⟩
  have hu : Unreadable ⟨2024, 5, 31⟩ "greaterThan" [.text "18"] (.text ones)
      (.tooManyDigits 4301) := ⟨ones, rfl, hne, .integer (by decide) hread⟩
  have htasks : (ofAge ones).tasks =
      [] ++ ⟨"age", .text "Age", "greaterThan", [.text "18"], ["18"], none⟩ :: [] :=
    tasks_ofAge ones
  obtain ⟨s', hrun, hreceived⟩ := run_of_unreadable h htasks nofun hu
  intro s
  rw [hrun]
  exact ⟨rfl, hreceived⟩

end Session

end FieldRules
