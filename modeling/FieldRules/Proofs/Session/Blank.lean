import FieldRules.Proofs.Rule.Moving
import FieldRules.Proofs.Session.Captured
import FieldRules.Proofs.Session.Decided
import FieldRules.Proofs.Session.Delivery
import FieldRules.Proofs.Session.Manner

/-!
# Fields without a value

A field may be left out: all rules but `required` pass it then, whatever their checks would say, so
that a field without a value has the messages of its `required` rules and no others. This holds for
every check that is registered besides the built-in ones, and whatever becomes of other fields; a
check may even write to the record, as long as the field has no value when its own rules are come
to.

Results:
* `begun_performAll`: how many tasks a run begins.
* `Reaches.leads`: a run that comes to a task goes on behind it.
* `accepted_of_blank`: what is accepted for the tasks of a field without a value.
* `delivery_of_blank`: the errors of a field without a value.
-/

namespace FieldRules

/-! ## Checks that are not called -/

namespace Registry

variable {r : Registry} {policy : Markup.Policy} {name : String}

/-- Without a value `required` fails, and every other rule passes whatever its check is. -/
theorem evaluate_of_blank (hname : r.get? name ≠ none)
    (hrequired : name = requiredRule → r.Extends policy) {value : Value}
    (hvalue : value.isEmpty = true) (today : Calendar.Today) (options : List Value) :
    r.evaluate today name value options =
      .ok [.report (decide (name ≠ requiredRule)) (some options)] := by
  obtain ⟨d, hd⟩ := Option.ne_none_iff_exists'.1 hname
  by_cases h : name = requiredRule
  · have hsame := evaluate_congr ((hrequired h).rule name (h ▸ rfl)) today value options
    have hcheck : (standard policy).evaluate today requiredRule value options =
        .ok [.report (!value.isEmpty) (some options)] := rfl
    rw [hsame, h, hcheck, hvalue]
    rfl
  · rw [evaluate_of_isEmpty hd h hvalue, decide_eq_true h]

end Registry

namespace Session

/-! ## How far a run gets -/

section Begun

variable {s : Session} {run number : Nat} {r : Run}

/-- Tasks are begun one after the other: all of them, or some of them if a check fails. -/
theorem begun_performAll (record : Nat) (tasks : List Task) (hs : s.Capable)
    (hr : s.runs[run]? = some r) (hbegun : r.begun = number)
    (hlen : number + tasks.length ≤ r.tasks.length) :
    ∃ r', (s.after (performAll run record tasks number)).runs[run]? = some r' ∧
      r'.tasks.length = r.tasks.length ∧ r'.begun ≤ number + tasks.length ∧
      (((performAll run record tasks number).run s).1 = .ok () →
        r'.begun = number + tasks.length) := by
  induction tasks generalizing s number r with
  | nil => exact ⟨r, hr, rfl, by simp [hbegun], fun _ => by simp [hbegun]⟩
  | cons task rest ih =>
    rw [List.length_cons] at hlen ⊢
    have hlt : number < r.tasks.length := by omega
    obtain ⟨hleads, r₁, hr₁, hbegun₁, hlength₁⟩ :
        Conducts 0 s (perform ⟨run, number⟩ record task) ∧
          ∃ r', (s.after (perform ⟨run, number⟩ record task)).runs[run]? = some r' ∧
            r'.begun = number + 1 ∧ r'.tasks.length = r.tasks.length :=
      conducts_perform hs hr hbegun hlt (Nat.zero_le _) record task
    have hcapable := hleads.state.capable
    unfold after at hr₁ ⊢
    rw [performAll, run_bind]
    rcases hfirst : (perform ⟨run, number⟩ record task).run s with ⟨fault | ⟨⟩, s₁⟩
    · rw [hfirst] at hr₁
      exact ⟨r₁, hr₁, hlength₁, by omega, fun h => by cases h⟩
    · rw [hfirst] at hr₁ hcapable
      obtain ⟨r', hr', hlength, hle, hall⟩ := ih hcapable hr₁ hbegun₁ (by omega)
      exact ⟨r', hr', hlength.trans hlength₁, by omega, fun h => by rw [hall h]; omega⟩

end Begun

/-- A run of a session comes to a task: it has worked through the ones before. -/
def Reaches (s : Session) (loop : Option Nat) (before : List Task) (s₁ : Session) : Prop :=
  (performAll s.runs.length s.current before 0).run (s.opened loop) = (.ok (), s₁)

section Reaches

variable {s s₁ : Session} {loop : Option Nat} {before rest : List Task} {task : Task}

theorem mem_tasks_of_eq (htasks : s.tasks = before ++ task :: rest) : task ∈ s.tasks :=
  htasks ▸ List.mem_append_right before List.mem_cons_self

theorem length_lt_of_eq (htasks : s.tasks = before ++ task :: rest) :
    before.length < s.tasks.length := by
  rw [htasks, List.length_append, List.length_cons]
  omega

theorem exists_opened (loop : Option Nat) (htask : task ∈ s.tasks) :
    ∃ countdown, Countdown.start s.tasks.length = .ok countdown ∧
      s.opened loop = s.openRun countdown loop := by
  rcases hc : Countdown.start s.tasks.length with fault | countdown
  · rw [(run_of_start_error loop hc).1] at htask
    cases htask
  · exact ⟨countdown, rfl, by rw [opened, hc]⟩

theorem run_eq_performAll (loop : Option Nat) (htask : task ∈ s.tasks) :
    (Session.run loop).run s =
      (performAll s.runs.length s.current s.tasks 0).run (s.opened loop) := by
  obtain ⟨countdown, hc, hopened⟩ := exists_opened loop htask
  rw [hopened, run_of_start loop hc]

theorem runs_opened (loop : Option Nat) (htask : task ∈ s.tasks) :
    ∃ countdown, (s.opened loop).runs[s.runs.length]? =
      some ⟨s.tasks, s.current, countdown, 0, loop⟩ := by
  obtain ⟨countdown, -, hopened⟩ := exists_opened loop htask
  exact ⟨countdown, by simp [hopened, openRun]⟩

theorem leads_opened (hs : s.Capable) (loop : Option Nat) (htask : task ∈ s.tasks) :
    Leads 0 s (s.opened loop) := by
  obtain ⟨countdown, hc, hopened⟩ := exists_opened loop htask
  have hstep : Step s (.start loop) (s.openRun countdown loop) := .start loop hc
  rw [hopened]
  exact ⟨⟨_, .single hstep, by simp⟩,
    fun ref href => (History.single hstep).hasBegun (hs ref href)⟩

theorem leads_run_of_opened (hs : s.Capable) (loop : Option Nat) (htask : task ∈ s.tasks) :
    Leads 0 (s.opened loop) (s.after (Session.run loop)) := by
  obtain ⟨countdown, hr⟩ := runs_opened loop htask
  rw [after, run_eq_performAll loop htask]
  exact (conducts_performAll s.current s.tasks 0 (leads_opened hs loop htask).capable hr rfl
    (by simp) (Nat.zero_le _)).state

/-- What is known of a session whose run comes to a task: no rules and no templates have been
    exchanged, and as many tasks have been begun as there are before. -/
theorem Reaches.leads (h : s.Reaches loop before s₁) (hs : s.Capable)
    (htasks : s.tasks = before ++ task :: rest) :
    Leads 0 s s₁ ∧ Keeps s s₁ ∧ ∃ r, s₁.runs[s.runs.length]? = some r ∧
      r.begun = before.length ∧ r.tasks.length = s.tasks.length := by
  have htask := mem_tasks_of_eq htasks
  obtain ⟨countdown, hr⟩ := runs_opened loop htask
  have hopened := leads_opened hs loop htask
  have hlen : 0 + before.length ≤ s.tasks.length := by
    rw [Nat.zero_add]
    exact Nat.le_of_lt (length_lt_of_eq htasks)
  have hafter : (s.opened loop).after (performAll s.runs.length s.current before 0) = s₁ := by
    rw [after, h]
  have hworked : Leads 0 (s.opened loop) s₁ := hafter ▸
    (conducts_performAll s.current before 0 hopened.capable hr rfl hlen (Nat.zero_le _)).state
  have hkeeps : Keeps (s.opened loop) s₁ := hafter ▸ (upholds_performAll _ _ before 0).state
  obtain ⟨r, hr', hlength, -, hbegun⟩ :=
    begun_performAll s.current before hopened.capable hr rfl hlen
  rw [hafter] at hr'
  rw [h, Nat.zero_add] at hbegun
  exact ⟨hopened.trans hworked, (keeps_opened s loop).trans hkeeps, r, hr', hbegun rfl, hlength⟩

theorem Reaches.run_eq (h : s.Reaches loop before s₁) (htasks : s.tasks = before ++ task :: rest) :
    (Session.run loop).run s =
      (performAll s.runs.length s.current (task :: rest) before.length).run s₁ := by
  have htask := mem_tasks_of_eq htasks
  rw [run_eq_performAll loop htask, htasks, performAll_append, run_bind, h, Nat.zero_add]

/-- What a run does behind a task that it comes to. -/
theorem Reaches.leads_after (h : s.Reaches loop before s₁) (hs : s.Capable)
    (htasks : s.tasks = before ++ task :: rest) :
    Leads 0 (s₁.after (perform ⟨s.runs.length, before.length⟩ s.current task))
      (s.after (Session.run loop)) := by
  obtain ⟨hleads, -, r, hr, hbegun, hlength⟩ := h.leads hs htasks
  rw [htasks, List.length_append, List.length_cons] at hlength
  have hlt : before.length < r.tasks.length := by omega
  obtain ⟨hfirst, r₁, hr₁, hbegun₁, hlength₁⟩ :
      Conducts 0 s₁ (perform ⟨s.runs.length, before.length⟩ s.current task) ∧
        ∃ r', (s₁.after (perform ⟨s.runs.length, before.length⟩ s.current task)).runs[
            s.runs.length]? = some r' ∧
          r'.begun = before.length + 1 ∧ r'.tasks.length = r.tasks.length :=
    conducts_perform hleads.capable hr hbegun hlt (Nat.zero_le _) s.current task
  have hrun := h.run_eq htasks
  rw [performAll, run_bind] at hrun
  have hcapable := hfirst.state.capable
  unfold after at hr₁ ⊢
  rw [hrun]
  rcases hperform : (perform ⟨s.runs.length, before.length⟩ s.current task).run s₁ with
    ⟨fault | ⟨⟩, s₂⟩
  · rw [hperform] at hcapable
    exact .refl hcapable
  · rw [hperform] at hr₁ hcapable
    exact (conducts_performAll s.current rest (before.length + 1) hcapable hr₁ hbegun₁ (by omega)
      (Nat.zero_le _)).state

end Reaches

/-! ## Fields without a value -/

/-- A field has no value whenever a run comes to one of its rules. -/
def IsBlank (s : Session) (loop : Option Nat) (field : String) : Prop :=
  ∀ before task rest s₁, s.tasks = before ++ task :: rest → task.field = field →
    s.Reaches loop before s₁ →
      ∃ value, (s₁.recordAt s.current).field? field = .ok value ∧ value.isEmpty = true

/-- The tasks of a field that ask for a value. -/
def requiredTasks (s : Session) (field : String) : List Task :=
  (s.tasks.filter (·.field = field)).filter (·.rule = Registry.requiredRule)

/-- A session on the built-in rules, whatever was done to it and whatever was registered since,
    before a run that nobody waits for, or that a loop of its own waits for. -/
inductive BeforeRun (policy : Markup.Policy) : Session → Option Nat → Prop
  | alone (today : Calendar.Today) (templates : MessageTable) (separator : String) (record : Value)
    (operations : List Operation) :
    BeforeRun policy (operations.foldl operate
      (start today (.standard policy) templates separator record)) none
  | awaited {s : Session} (h : BeforeRun policy s none) :
    BeforeRun policy s.openLoop (some s.loops)

section Blank

variable {s s₁ s' : Session} {loop : Option Nat} {before rest : List Task} {task : Task}
  {field : String} {policy : Markup.Policy}

/-- The built-in rules stay as they are, whatever is done and whatever is registered. -/
theorem extends_operate (hs : s.registry.Extends policy) (operation : Operation) :
    (s.operate operation).registry.Extends policy := by
  cases operation with
  | call c =>
    show (s.call c).registry.Extends policy
    rwa [registry_call]
  | register name d =>
    rcases hr : s.registry.register name d with fault | registry
    · simpa [operate, hr, Except.toOption] using hs
    · simpa [operate, hr, Except.toOption] using hs.register hr
  | registerTransform name t =>
    rcases hr : s.registry.registerTransform name t with fault | registry
    · simpa [operate, hr, Except.toOption] using hs
    · simpa [operate, hr, Except.toOption] using hs.registerTransform hr

/-- What is known of a session before a run. -/
structure IsReady (policy : Markup.Policy) (s : Session) : Prop where
  history : ∃ today registry templates separator record h,
    History (start today registry templates separator record) h s
  isSound : s.IsSound
  capable : s.Capable
  registry : s.registry.Extends policy

theorem BeforeRun.isReady (h : BeforeRun policy s loop) : IsReady policy s := by
  induction h with
  | alone today templates separator record operations =>
    obtain ⟨h, hh⟩ :=
      history_of_operations today (.standard policy) templates separator record operations
    refine ⟨⟨_, _, _, _, _, h, hh⟩, isSound_of_operations _ _ _ _ _ operations,
      capable_of_operations _ _ _ _ _ operations, ?_⟩
    exact List.foldlRecOn (motive := fun s : Session => s.registry.Extends policy) operations
      operate (Registry.extends_standard policy)
      fun _ hs operation _ => extends_operate hs operation
  | @awaited s _ ih =>
    obtain ⟨⟨today, registry, templates, separator, record, h, hh⟩, hsound, hcapable,
      hregistry⟩ := ih
    have hleads : Leads 0 s s.openLoop := leads_openLoop hcapable
    have hkeeps : Keeps s s.openLoop := .of_same ⟨rfl, rfl, rfl, rfl, rfl, rfl⟩
    obtain ⟨h', hh', -⟩ := hleads.history
    exact ⟨⟨_, _, _, _, _, _, hh.trans hh'⟩, hkeeps.isSound hsound, hleads.capable, hregistry⟩

/-- A rule of a field without a value is only reported, whatever its check is: it has passed, unless
    it asks for a value. -/
theorem run_perform_of_blank (policy : Markup.Policy) (ref : TaskRef) {record : Nat}
    {value : Value} (hname : s.registry.get? task.rule ≠ none)
    (hrequired : task.rule = Registry.requiredRule → s.registry.Extends policy)
    (hvalue : (s.recordAt record).field? task.field = .ok value) (hempty : value.isEmpty = true) :
    (perform ref record task).run s =
      (report ref (decide (task.rule ≠ Registry.requiredRule))).run (s.beginTask ref.run) := by
  rw [run_perform ref hvalue
    (Registry.evaluate_of_blank hname hrequired hempty s.today task.options)]
  show (report ref _ >>= fun _ => (pure () : SessionM Unit)).run _ = _
  rw [bind_pure_unit]

theorem IsReady.history_run (h : IsReady policy s) (loop : Option Nat) :
    ∃ today registry templates separator record h,
      History (start today registry templates separator record) h (s.after (Session.run loop)) := by
  obtain ⟨today, registry, templates, separator, record, past, hpast⟩ := h.history
  obtain ⟨present, hpresent, -⟩ :=
    (conducts_run h.capable (Nat.zero_le _) loop).state.history
  exact ⟨today, registry, templates, separator, record, _, hpast.trans hpresent⟩

theorem IsReady.get?_ne_none (h : IsReady policy s) (htask : task ∈ s.tasks) :
    s.registry.get? task.rule ≠ none := by
  obtain ⟨e, he, use, huse, rfl⟩ := mem_tasks htask
  obtain ⟨d, hd⟩ := h.isSound.uses e he use huse
  rw [hd.definition]
  exact Option.some_ne_none d

/-- A task of a field without a value is settled as soon as its run comes to it, and the run goes on
    from there. -/
theorem accepted_of_blank (h : IsReady policy s) (hblank : s.IsBlank loop field)
    (htasks : s.tasks = before ++ task :: rest) (hfield : task.field = field)
    (hreach : s.Reaches loop before s₁) :
    ∃ today registry templates separator record h,
      History (start today registry templates separator record) h (s.after (Session.run loop)) ∧
        accepted h ⟨s.runs.length, before.length⟩ =
          some (decide (task.rule ≠ Registry.requiredRule), s.templates) := by
  obtain ⟨today, registry, templates, separator, record, past, hpast⟩ := h.history
  obtain ⟨hleads, hkeeps, r, hr, hbegun, hlength⟩ := hreach.leads h.capable htasks
  obtain ⟨h₁, hh₁, -⟩ := hleads.history
  obtain ⟨h₂, hh₂, -⟩ := (hreach.leads_after h.capable htasks).history
  obtain ⟨value, hvalue, hempty⟩ := hblank before task rest s₁ htasks hfield hreach
  have htask := mem_tasks_of_eq htasks
  have hlt : before.length < r.tasks.length := hlength ▸ length_lt_of_eq htasks
  have hperform : (perform ⟨s.runs.length, before.length⟩ s.current task).run s₁ = _ :=
    run_perform_of_blank policy ⟨s.runs.length, before.length⟩
      (hkeeps.registry ▸ h.get?_ne_none htask) (fun _ => hkeeps.registry ▸ h.registry)
      (hfield ▸ hvalue) hempty
  have hbegin : Step s₁ (.begin s.runs.length) (s₁.beginTask s.runs.length) :=
    .begin hr (by omega)
  have hbegunTask : (s₁.beginTask s.runs.length).HasBegun ⟨s.runs.length, before.length⟩ :=
    ⟨r.beginNext, by simp [Session.beginTask, hr], by simp [Run.beginNext, hbegun]⟩
  have hreport := Step.report (decide (task.rule ≠ Registry.requiredRule)) hbegunTask
  rw [after, hperform] at hh₂
  refine ⟨today, registry, templates, separator, record, _,
    (((hpast.trans hh₁).snoc hbegin).snoc hreport).trans hh₂, ?_⟩
  -- the task had not been begun before, so that this report is its first one
  have hnone : accepted (past ++ h₁) ⟨s.runs.length, before.length⟩ = none :=
    ((hpast.trans hh₁).ledger.runs _ r hr).unbegun _ (Nat.le_of_eq hbegun)
  have hnone' : accepted (past ++ h₁ ++ [.begin s.runs.length]) ⟨s.runs.length, before.length⟩ =
      none := by
    rw [accepted_snoc_of_none rfl, hnone]
  rw [accepted_append, accepted_append, hnone', Option.none_or]
  simp only [accepted, List.findSome?_cons, reportOf_report_self]
  exact congrArg some (congrArg (Prod.mk _) hkeeps.templates)

/-- A run that hands over a result has come to all of its tasks. -/
theorem exists_reaches_of_delivery (h : IsReady policy s)
    (htasks : s.tasks = before ++ task :: rest) {later : List Event}
    (hlater : History (s.after (Session.run loop)) later s')
    (hnone : .begin s.runs.length ∉ later) {result : Delivery}
    (hd : result ∈ s'.deliveriesOf s.runs.length) : ∃ s₁, s.Reaches loop before s₁ := by
  have htask := mem_tasks_of_eq htasks
  rcases hbefore : (performAll s.runs.length s.current before 0).run (s.opened loop) with
    ⟨fault | ⟨⟩, s₁⟩
  · exfalso
    obtain ⟨today, registry, templates, separator, record, past, hpast⟩ := h.history_run loop
    obtain ⟨countdown, hr⟩ := runs_opened loop htask
    have hlength := length_lt_of_eq htasks
    obtain ⟨r, hr', hlength', hbegun, -⟩ := begun_performAll s.current before
      (leads_opened h.capable loop htask).capable hr rfl (by simp only; omega)
    have hrun : s.after (Session.run loop) = s₁ := by
      rw [after, run_eq_performAll loop htask, htasks, performAll_append, run_bind, hbefore]
    rw [after, hbefore, ← hrun] at hr'
    have hlt : r.begun < r.tasks.length := by
      simp only at hlength' hbegun
      omega
    have hempty := hpast.deliveriesOf_eq_nil hr' hlt hlater hnone
    rw [hempty] at hd
    cases hd
  · exact ⟨s₁, hbefore⟩

/-! ## The messages of a field without a value -/

/-- If the tasks of a field have messages just where they ask for a value, then those are the
    messages of the field. -/
theorem messagesOf_eq_of_message? {tasks : List Task} {message : Value → List String → String}
    (h : ∀ t ∈ tasks, t.field = field → t.message? =
      if t.rule = Registry.requiredRule then some (message t.friendly t.shown) else none) :
    messagesOf tasks field = (((tasks.map Task.unreported).filter (·.field = field)).filter
      (·.rule = Registry.requiredRule)).map fun t => message t.friendly t.shown := by
  induction tasks with
  | nil => rfl
  | cons t tasks ih =>
    obtain ⟨ht, htasks⟩ := List.forall_mem_cons.1 h
    rw [messagesOf_cons, ih htasks, List.map_cons]
    by_cases hfield : t.field = field
    · rw [if_pos hfield, ht hfield]
      by_cases hrule : t.rule = Registry.requiredRule <;> simp [Task.unreported, hfield, hrule]
    · simp [Task.unreported, hfield]

theorem map_unreported_tasks (s : Session) : s.tasks.map Task.unreported = s.tasks := by
  have hself : ∀ t ∈ s.tasks, t.unreported = t := fun t ht => by
    rw [Task.unreported, ← outcome_of_mem_tasks ht]
  rw [List.map_congr_left hself, List.map_id']

/-- What is left of a task of a field without a value: a message, if it asks for one. -/
theorem message?_of_blank (h : IsReady policy s) (hblank : s.IsBlank loop field)
    {message : Value → List String → String}
    (hformat : ∀ t ∈ s.requiredTasks field, s.templates.format t.rule t.friendly
      (t.shown.map .text) = .ok (message t.friendly t.shown))
    {later : List Event} (hlater : History (s.after (Session.run loop)) later s')
    (hnone : .begin s.runs.length ∉ later) {result : Delivery}
    (hd : result ∈ s'.deliveriesOf s.runs.length) {r : Run}
    (hr : s'.runs[s.runs.length]? = some r) (hsame : r.tasks.map Task.unreported = s.tasks)
    {t : Task} (ht : t ∈ r.tasks) (hfield : t.field = field) :
    t.message? =
      if t.rule = Registry.requiredRule then some (message t.friendly t.shown) else none := by
  obtain ⟨before, rest, hsplit⟩ := List.append_of_mem ht
  have htasks : s.tasks = before.map Task.unreported ++ t.unreported ::
      rest.map Task.unreported := by
    rw [← hsame, hsplit, List.map_append, List.map_cons]
  obtain ⟨s₁, hreach⟩ := exists_reaches_of_delivery h htasks hlater hnone hd
  obtain ⟨today, registry, templates, separator, record, past, hpast, hacc⟩ :=
    accepted_of_blank h hblank htasks hfield hreach
  have hget : r.tasks[before.length]? = some t := by simp [hsplit]
  have houtcome := ((hpast.trans hlater).ledger.runs _ r hr).outcome _ t hget
  rw [List.length_map] at hacc
  rw [accepted_append, hacc, Option.some_or, Option.map_some] at houtcome
  have hrule : t.unreported.rule = t.rule := rfl
  rw [hrule] at houtcome
  unfold Task.message?
  rw [houtcome]
  by_cases hrequired : t.rule = Registry.requiredRule
  · have hmem : t.unreported ∈ s.requiredTasks field := by
      unfold requiredTasks
      rw [htasks]
      simp [Task.unreported, hfield, hrequired]
    have hmessage : s.templates.format t.rule t.friendly (t.shown.map .text) =
        .ok (message t.friendly t.shown) := hformat t.unreported hmem
    simp [Task.judge, hrequired, hrequired ▸ hmessage]
  · simp [Task.judge, hrequired]

/-- The errors of a result have for a field without a value what its rules `required` say. -/
theorem get?_errors_of_blank (h : IsReady policy s) (hblank : s.IsBlank loop field)
    {message : Value → List String → String}
    (hformat : ∀ t ∈ s.requiredTasks field, s.templates.format t.rule t.friendly
      (t.shown.map .text) = .ok (message t.friendly t.shown))
    (hne : s.tasks ≠ []) {later : List Event}
    (hlater : History (s.after (Session.run loop)) later s')
    (hnone : .begin s.runs.length ∉ later) {result : Delivery}
    (hd : result ∈ s'.deliveriesOf s.runs.length) :
    (result.errors.getD []).get? field = joined s.separator
      ((s.requiredTasks field).map fun t => message t.friendly t.shown) := by
  obtain ⟨task, htask⟩ := List.exists_mem_of_ne_nil _ hne
  obtain ⟨today, registry, templates, separator, record, past, hpast⟩ := h.history
  obtain ⟨countdown, hr₀⟩ := runs_opened loop htask
  obtain ⟨h₁, hh₁, -⟩ := (leads_opened h.capable loop htask).history
  obtain ⟨h₂, hh₂, -⟩ := (leads_run_of_opened h.capable loop htask).history
  obtain ⟨r, hr, hcont, -⟩ := (hh₂.trans hlater).continues hr₀
  have hsame : r.tasks.map Task.unreported = s.tasks :=
    hcont.tasks.trans (map_unreported_tasks s)
  have hl := ((hpast.trans hh₁).trans (hh₂.trans hlater)).ledger.runs _ r hr
  obtain rfl : result = ⟨r.errors s'.separator, r.record, some s.runs.length⟩ := by
    rw [hl.deliveries, Run.results] at hd
    split at hd
    · exact List.mem_singleton.1 hd
    · cases hd
  rw [errors_getD, get?_errorsOf, (hh₁.trans (hh₂.trans hlater)).separator,
    messagesOf_eq_of_message? fun t ht =>
      message?_of_blank h hblank hformat hlater hnone hd hr hsame ht, hsame]
  rfl

/-! ## The rules of a field without a value -/

/-- The uses of rules of one name show the options that are written. -/
theorem map_shown_filter {rules : List Spec.Rule} {uses : List RuleUse}
    (h : List.Forall₂ (IsUseOf s field) rules uses) (name : String) :
    (uses.filter (·.rule = name)).map (·.shown) =
      (rules.filter (·.name = name)).map (·.options) := by
  induction h with
  | nil => rfl
  | @cons rule use _ _ hfirst _ ih =>
    by_cases hname : rule.name = name
    · have huse : use.rule = name := hfirst.name.trans hname
      rw [List.filter_cons_of_pos (by simpa using huse),
        List.filter_cons_of_pos (by simpa using hname), List.map_cons, List.map_cons, ih,
        hfirst.shown]
    · have huse : use.rule ≠ name := fun heq => hname (hfirst.name.symm.trans heq)
      rw [List.filter_cons_of_neg (by simpa using huse),
        List.filter_cons_of_neg (by simpa using hname), ih]

theorem requiredTasks_of_get? (hnd : s.fields.keys.Nodup) {spec : FieldSpec}
    (h : s.fields.get? field = some spec) :
    (s.requiredTasks field).map (fun t => (t.friendly, t.shown)) =
      ((spec.rules.filter (·.rule = Registry.requiredRule)).map (·.shown)).map
        (spec.friendly, ·) := by
  rw [requiredTasks, filter_tasks, Entries.filter_key hnd, h]
  simp [tasksOf, List.filter_map, Function.comp_def]

/-- A field asks for a value as often as its rule text does. -/
theorem requiredTasks_of_addRule {s₀ : Session} {friendly : Value} {text : String}
    (hnd : s.fields.keys.Nodup) (hregistry : s₀.registry.Extends policy)
    (hadd : (addRule field friendly (.text text)).run s₀ = (.ok (), s₁))
    (hkept : s.fields.get? field = s₁.fields.get? field) :
    (s.requiredTasks field).map (fun t => (t.friendly, t.shown)) =
      ((Spec.split text.toList).filter (Spec.nameOf · = Registry.requiredRule)).map
        fun token => (label field friendly, Spec.optionsIn token) := by
  obtain ⟨found, uses, s₂, hfound, huses, rfl⟩ := run_addRule_eq_ok_iff.1 hadd
  obtain ⟨rfl, -⟩ := Spec.parse_eq_ok_iff.1 hfound
  have hflags : ∀ rule ∈ (Spec.split text.toList).map (Spec.ruleOf s₀.registry),
      rule.isTransform = s₀.registry.isTransform rule.name := by
    intro rule hrule
    obtain ⟨token, -, rfl⟩ := List.mem_map.1 hrule
    rfl
  have hused := (confined_useRules field hflags).value uses (by rw [huses])
  have hshown := map_shown_filter hused Registry.requiredRule
  have hrequired : s₀.registry.isTransform Registry.requiredRule = false :=
    hregistry.isTransform rfl
  have htokens : (((Spec.split text.toList).map (Spec.ruleOf s₀.registry)).filter
      (!·.isTransform)).filter (·.name = Registry.requiredRule) =
      ((Spec.split text.toList).filter (Spec.nameOf · = Registry.requiredRule)).map
        (Spec.ruleOf s₀.registry) := by
    rw [List.filter_filter, List.filter_map]
    congr 1
    apply List.filter_congr
    intro token _
    by_cases htoken : Spec.nameOf token = Registry.requiredRule <;>
      simp [Spec.ruleOf, htoken, hrequired]
  rw [withSpec, Entries.get?_put_self] at hkept
  rw [requiredTasks_of_get? hnd hkept, hshown, htokens, List.map_map, List.map_map]
  rfl

/-- A field that has no value whenever a run comes to its rules: no check but that of `required` is
    called for it, and what a result of the run has for it are the messages of `required`, one for
    each time that the rule text asks for it. So it is whatever was done to the session before,
    whatever rules were registered besides the built-in ones, however their checks report, and
    whatever becomes of the other fields. -/
theorem delivery_of_blank (h : BeforeRun policy s loop) (hblank : s.IsBlank loop field)
    (message : Value → List String → String)
    (hformat : ∀ t ∈ s.requiredTasks field, s.templates.format t.rule t.friendly
      (t.shown.map .text) = .ok (message t.friendly t.shown)) :
    (∀ before task rest s₁, s.tasks = before ++ task :: rest → task.field = field →
      task.rule ≠ Registry.requiredRule → s.Reaches loop before s₁ →
        s₁.registry.get? task.rule ≠ none ∧
        ∀ registry : Registry, registry.get? task.rule ≠ none →
          (perform ⟨s.runs.length, before.length⟩ s.current task).run { s₁ with registry } =
            (report ⟨s.runs.length, before.length⟩ true).run
              ({ s₁ with registry }.beginTask s.runs.length)) ∧
      (s.tasks ≠ [] → ∀ later s' result, History (s.after (Session.run loop)) later s' →
        .begin s.runs.length ∉ later → result ∈ s'.deliveriesOf s.runs.length →
          (result.errors.getD []).get? field = joined s.separator
            ((s.requiredTasks field).map fun t => message t.friendly t.shown)) ∧
      (s.tasks = [] → (s.after (Session.run loop)).delivered =
        s.delivered ++ [⟨none, s.current, none⟩]) ∧
      ∀ s₀ s₁ friendly text, s₀.registry.Extends policy →
        (addRule field friendly (.text text)).run s₀ = (.ok (), s₁) →
        s.fields.get? field = s₁.fields.get? field →
          (s.requiredTasks field).map (fun t => (t.friendly, t.shown)) =
            ((Spec.split text.toList).filter (Spec.nameOf · = Registry.requiredRule)).map
              fun token => (label field friendly, Spec.optionsIn token) := by
  have hready := h.isReady
  refine ⟨?_, ?_, ?_, ?_⟩
  · intro before task rest s₁ htasks hfield hrule hreach
    obtain ⟨-, hkeeps, -⟩ := hreach.leads hready.capable htasks
    have htask := mem_tasks_of_eq htasks
    obtain ⟨value, hvalue, hempty⟩ := hblank before task rest s₁ htasks hfield hreach
    refine ⟨hkeeps.registry ▸ hready.get?_ne_none htask, fun registry hname => ?_⟩
    have hperform := run_perform_of_blank (s := { s₁ with registry }) policy
      ⟨s.runs.length, before.length⟩ hname (fun heq => absurd heq hrule) (hfield ▸ hvalue) hempty
    rwa [decide_eq_true hrule] at hperform
  · intro hne later s' result hlater hnone hd
    exact get?_errors_of_blank hready hblank hformat hne hlater hnone hd
  · intro hnil
    have hc : Countdown.start s.tasks.length = .error (.countdownTotal 0) := by
      rw [hnil]
      rfl
    rw [after, (run_of_start_error loop hc).2]
    exact delivered_deliver s _ loop
  · intro s₀ s₁ friendly text hregistry hadd hkept
    obtain ⟨_, _, _, _, _, past, hpast⟩ := hready.history
    exact requiredTasks_of_addRule hpast.ledger.fields hregistry hadd hkept

end Blank

/-- A rule that nothing fulfils, for two fields; one of them has to have a value as well. -/
def pickyOperations : List Operation :=
  [.register "picky" ⟨fun _ _ _ => [.report false none], false, false, false⟩,
    .call (.addRule "name" (.text "Name") (.text "picky")),
    .call (.addRule "mail" (.text "Mail") (.text "picky|required"))]

/-- A session on a record with a name and no mail address. -/
def picky : Session :=
  pickyOperations.foldl operate (start ⟨2024, 5, 31⟩ (.standard .standard)
    [("picky", "Not so."), ("required", "Missing.")] ", "
    (.map [("name", .text "x"), ("mail", .text "")]))

theorem tasks_picky : picky.tasks =
    [⟨"name", .text "Name", "picky", [], [], none⟩, ⟨"mail", .text "Mail", "picky", [], [], none⟩,
      ⟨"mail", .text "Mail", "required", [], [], none⟩] := rfl

theorem beforeRun_picky : BeforeRun .standard picky none :=
  .alone _ _ _ _ pickyOperations

theorem format_picky {t : Task} (ht : t ∈ picky.tasks) :
    picky.templates.format t.rule t.friendly (t.shown.map .text) =
      .ok (if t.rule = Registry.requiredRule then "Missing." else "Not so.") := by
  have htemplates : picky.templates = [("picky", "Not so."), ("required", "Missing.")] := rfl
  rw [htemplates]
  rw [tasks_picky] at ht
  simp only [List.mem_cons, List.not_mem_nil, or_false] at ht
  rcases ht with rfl | rfl | rfl <;> with_unfolding_all rfl

/-- The run of `picky` reports for each of its tasks at once. -/
theorem performAll_picky {before rest : List Task} (hsplit : picky.tasks = before ++ rest) :
    ∃ s' r', (performAll 0 picky.current before 0).run (picky.opened none) = (.ok (), s') ∧
      Underway s' 0 before.length r' ∧ r'.tasks.length = picky.tasks.length ∧
      s'.records = picky.records := by
  have hunderway : Underway (picky.opened none) 0 0
      ⟨picky.tasks, 0, ⟨3, 3, Nat.le_refl _⟩, 0, none⟩ :=
    ⟨rfl, rfl, fun j _ t ht => outcome_of_mem_tasks (List.mem_of_getElem? ht), rfl,
      fun t ht => ⟨_, format_picky ht⟩⟩
  have hreports : ∀ t ∈ picky.tasks, ∃ value passed options,
      ((picky.opened none).recordAt picky.current).field? t.field = .ok value ∧
        (picky.opened none).registry.evaluate (picky.opened none).today t.rule value t.options =
          .ok [.report passed options] := by
    rw [tasks_picky]
    intro t ht
    simp only [List.mem_cons, List.not_mem_nil, or_false] at ht
    rcases ht with rfl | rfl | rfl <;> exact ⟨_, _, _, rfl, rfl⟩
  have hlen : 0 + before.length ≤ picky.tasks.length := by
    rw [hsplit, List.length_append]
    omega
  obtain ⟨s', r', hrun, hunderway', hlength, -, hsame, -⟩ :=
    performAll_report picky.current hunderway hlen
      fun t ht => hreports t (hsplit ▸ List.mem_append_left _ ht)
  rw [Nat.zero_add] at hunderway'
  exact ⟨s', r', hrun, hunderway', hlength, hsame.records⟩

theorem isBlank_picky : picky.IsBlank none "mail" := by
  intro before task rest s₁ htasks hfield hreach
  obtain ⟨s', -, hrun, -, -, hrecords⟩ := performAll_picky htasks
  obtain rfl : s₁ = s' := congrArg Prod.snd (hreach.symm.trans hrun)
  refine ⟨.text "", ?_, rfl⟩
  rw [recordAt, hrecords]
  rfl

/-- The run hands over a result. -/
theorem exists_delivery_picky : ∃ result, result ∈ (picky.after (run none)).deliveriesOf 0 := by
  obtain ⟨s', r', hrun, hunderway, hlength, -⟩ :=
    performAll_picky (List.append_nil picky.tasks).symm
  obtain ⟨_, _, _, _, _, past, hpast⟩ := beforeRun_picky.isReady.history_run none
  have hafter : picky.after (run none) = s' := by
    rw [after, run_eq_performAll none (by rw [tasks_picky]; exact List.mem_cons_self)]
    exact congrArg Prod.snd hrun
  rw [hafter] at hpast ⊢
  have hdone : r'.countdown.remaining = 0 := by
    have := hunderway.remaining
    omega
  rw [(hpast.ledger.runs 0 r' hunderway.run).deliveries, Run.results, if_pos hdone]
  exact ⟨_, List.mem_singleton_self _⟩

/-- The field without a value has the message of `required` only, though nothing fulfils its other
    rule: the check of that rule is not called. -/
theorem delivery_of_picky :
    BeforeRun .standard picky none ∧ picky.IsBlank none "mail" ∧
      (∃ s₁, picky.Reaches none [⟨"name", .text "Name", "picky", [], [], none⟩] s₁ ∧
        (perform ⟨0, 1⟩ 0 ⟨"mail", .text "Mail", "picky", [], [], none⟩).run s₁ =
          (report ⟨0, 1⟩ true).run (s₁.beginTask 0)) ∧
      ∃ result ∈ (picky.after (run none)).deliveriesOf 0,
        (result.errors.getD []).get? "mail" = some "Missing." := by
  have hformat : ∀ t ∈ picky.requiredTasks "mail", picky.templates.format t.rule t.friendly
      (t.shown.map .text) = .ok "Missing." := by
    intro t ht
    simp only [requiredTasks, List.mem_filter, decide_eq_true_eq] at ht
    rw [format_picky ht.1.1, if_pos ht.2]
  obtain ⟨hpasses, herrors, -⟩ :=
    delivery_of_blank beforeRun_picky isBlank_picky (fun _ _ => "Missing.") hformat
  have hsplit : picky.tasks = [⟨"name", .text "Name", "picky", [], [], none⟩] ++
      ⟨"mail", .text "Mail", "picky", [], [], none⟩ ::
        [⟨"mail", .text "Mail", "required", [], [], none⟩] := tasks_picky
  obtain ⟨s₁, -, hreach, -⟩ := performAll_picky hsplit
  obtain ⟨hname, hpasses⟩ := hpasses _ _ _ s₁ hsplit rfl (by decide) hreach
  obtain ⟨result, hresult⟩ := exists_delivery_picky
  exact ⟨beforeRun_picky, isBlank_picky, ⟨s₁, hreach, hpasses s₁.registry hname⟩, result, hresult,
    herrors (by rw [tasks_picky]; exact List.cons_ne_nil _ _) [] _ result (.nil _)
      List.not_mem_nil hresult⟩

end Session

end FieldRules
