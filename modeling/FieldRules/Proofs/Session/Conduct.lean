import FieldRules.Proofs.Session.History

/-!
# What a session does is a history

Histories leave open who acts on a session. The lemmas here say that everything a session does by
itself is one of them: checks report for tasks that have been begun only, whether at once, from a
kept report or from the loop, and a run begins no tasks but its own.

Results:
* `leads_calls`: calls on a session are histories, and begin no tasks of earlier runs.
* `history_of_calls`: whatever is asked of a new session, what happens is a history.
-/

namespace FieldRules

namespace Session

/-! ## Actions that are histories -/

/-- Only tasks that have been begun can report later. -/
def Capable (s : Session) : Prop := ∀ ref ∈ s.held, s.HasBegun ref

/-- A state comes about by a history that begins tasks of runs from some number on only. -/
structure Leads (base : Nat) (s s' : Session) : Prop where
  history : ∃ h, History s h s' ∧ ∀ n, .begin n ∈ h → base ≤ n
  capable : s'.Capable

namespace Leads

variable {base : Nat} {s s' s'' : Session}

theorem refl (hs : s.Capable) : Leads base s s := ⟨⟨[], .nil s, by simp⟩, hs⟩

theorem trans (hl : Leads base s s') (hl' : Leads base s' s'') : Leads base s s'' := by
  obtain ⟨h, hh, hb⟩ := hl.history
  obtain ⟨h', hh', hb'⟩ := hl'.history
  refine ⟨⟨h ++ h', hh.trans hh', fun n hn => ?_⟩, hl'.capable⟩
  exact (List.mem_append.1 hn).elim (hb n) (hb' n)

theorem mono {base' : Nat} (hl : Leads base s s') (hle : base' ≤ base) : Leads base' s s' := by
  obtain ⟨h, hh, hb⟩ := hl.history
  exact ⟨⟨h, hh, fun n hn => Nat.le_trans hle (hb n hn)⟩, hl.capable⟩

theorem hasBegun (hl : Leads base s s') {ref : TaskRef} (hb : s.HasBegun ref) :
    s'.HasBegun ref := by
  obtain ⟨h, hh, -⟩ := hl.history
  exact hh.hasBegun hb

theorem of_edit (hs : s.Capable) (he : Edit s s')
    (hheld : ∀ ref ∈ s'.held, ref ∈ s.held ∨ s.HasBegun ref) : Leads base s s' := by
  refine ⟨⟨[.edit], .single (.edit he), by simp⟩, fun ref href => ?_⟩
  exact (History.single (.edit he)).hasBegun ((hheld ref href).elim (hs ref) id)

end Leads

instance (base : Nat) : Trans (Leads base) (Leads base) (Leads base) := ⟨Leads.trans⟩

/-- An action leads on from a state, whether it ends with a fault or not. -/
abbrev Conducts {α : Type} (base : Nat) (s : Session) (action : SessionM α) : Prop :=
  Stays (Leads base) s action

/-! ## Changes of the session -/

section Edits

variable {base : Nat} {s : Session}

theorem conducts_become (hs : s.Capable) {s' : Session} (he : Edit s s')
    (hheld : ∀ ref ∈ s'.held, ref ∈ s.held ∨ s.HasBegun ref) : Conducts base s (become s') :=
  stays_set (.of_edit hs he hheld)

theorem conducts_modify (hs : s.Capable) {f : Session → Session} (he : Edit s (f s))
    (hheld : ∀ ref ∈ (f s).held, ref ∈ s.held ∨ s.HasBegun ref) :
    Conducts base s (modify f : SessionM Unit) :=
  stays_modify (.of_edit hs he hheld)

theorem edit_setRecord (s : Session) (record : Value) : Edit s (s.setRecord record) :=
  ⟨rfl, fun _ => rfl, rfl, id⟩

theorem conducts_assign (hs : s.Capable) (field : String) (value : Value) :
    Conducts base s (assign field value) := by
  unfold assign
  refine leaves_get_bind (leaves_lift_bind (.refl hs) fun record _ => ?_)
  exact conducts_become hs (edit_setRecord s record) fun _ => .inl

theorem conducts_dropField (hs : s.Capable) (field : String) :
    Conducts base s (dropField field) := by
  unfold dropField
  refine leaves_get_bind ?_
  split
  · split
    · exact conducts_become hs (edit_setRecord s _) fun _ => .inl
    · exact leaves_throw (.refl hs) trivial
  · exact leaves_throw (.refl hs) trivial

theorem edit_replaceRecord (s : Session) (record : Value) : Edit s (s.replaceRecord record) :=
  ⟨rfl, fun _ => rfl, rfl, fun _ => List.nodup_nil⟩

theorem conducts_setTemplates (hs : s.Capable) (templates : MessageTable) :
    Conducts base s (setTemplates templates) := by
  unfold setTemplates
  refine leaves_get_bind ?_
  simp only
  split
  · exact leaves_throw (.refl hs) trivial
  · exact conducts_become hs ⟨rfl, fun _ => rfl, rfl, id⟩ fun _ => .inl

theorem conducts_useRules (field : String) (rules : List Spec.Rule) (hs : s.Capable) :
    Conducts base s (useRules field rules) := by
  induction rules generalizing s with
  | nil => exact leaves_pure (.refl hs) trivial
  | cons rule rest ih =>
    unfold useRules
    refine leaves_get_bind ?_
    split
    · refine leaves_lift_bind (.refl hs) fun value _ => ?_
      split
      · split
        · refine leaves_lift_bind (.refl hs) fun value' _ => ?_
          exact (conducts_assign hs field value').bind fun _ _ hl => ih hl.capable
        · exact leaves_throw (.refl hs) trivial
      · exact ih hs
    · refine leaves_lift_bind (.refl hs) fun use _ => ?_
      exact (ih hs).bind fun uses _ hl => leaves_pure (.refl hl.capable) trivial

/-- Writing an entry keeps every key once. -/
theorem nodup_keys_put {α : Type} {m : Entries α} (hm : m.keys.Nodup) (key : String) (value : α) :
    (m.put key value).keys.Nodup := by
  rw [Entries.keys_put]
  split
  · exact hm
  · next hkey =>
    rw [List.nodup_append]
    refine ⟨hm, by simp, fun a ha b hb hab => hkey ?_⟩
    rw [List.mem_singleton] at hb
    exact hb ▸ hab ▸ ha

theorem conducts_addRule (hs : s.Capable) (field : String) (friendly spec : Value) :
    Conducts base s (addRule field friendly spec) := by
  unfold addRule
  refine leaves_get_bind (leaves_lift_bind (.refl hs) fun rules _ => ?_)
  refine (conducts_useRules field rules hs).bind fun uses _ hl => ?_
  refine conducts_modify hl.capable ⟨rfl, fun _ => rfl, rfl, fun hf => ?_⟩ fun _ => .inl
  exact nodup_keys_put hf _ _

end Edits

/-! ## Checks -/

section Checks

variable {base : Nat} {s : Session}

/-- A report is accepted or refused, but only a task that has been begun makes one. -/
theorem conducts_report (hs : s.Capable) {ref : TaskRef} (hb : s.HasBegun ref) (passed : Bool) :
    Conducts base s (report ref passed) := by
  have hstep := Step.report passed hb
  suffices h : Leads base s (s.after (report ref passed)) from stays_of_state h
  refine ⟨⟨_, .single hstep, by simp⟩, fun ref' href => ?_⟩
  apply (History.single hstep).hasBegun
  apply hs ref'
  obtain ⟨r, hr, -⟩ := hb
  rcases hrep : r.report s.templates ref.task passed with fault | ⟨r', last, fault⟩
  · rwa [after_report_of_error hr hrep] at href
  · rw [after_report_of_ok hr hrep] at href
    cases last with
    | false => exact href
    | true =>
      rw [if_pos rfl] at href
      have := (aside_deliver _ _ _).held ref' href
      exact this

theorem conducts_act (hs : s.Capable) {ref : TaskRef} (hb : s.HasBegun ref) (call : CallNote)
    (action : Action) : Conducts base s (act ref call action) := by
  cases action with
  | note => exact conducts_modify hs ⟨rfl, fun _ => rfl, rfl, id⟩ fun _ => .inl
  | report passed options => exact conducts_report hs hb passed
  | keep =>
    refine conducts_modify hs ⟨rfl, fun _ => rfl, rfl, id⟩ fun ref' href => ?_
    rw [mem_held] at href ⊢
    rcases href with hk | hj
    · rcases List.mem_append.1 hk with hk | hk
      · exact .inl (.inl hk)
      · obtain rfl := Option.some.inj (List.mem_singleton.1 hk)
        exact .inr hb
    · exact .inl (.inr hj)
  | fail fault => exact leaves_throw (.refl hs) trivial
  | assign field value => exact conducts_assign hs field value
  | configure field friendly spec => exact conducts_addRule hs field friendly spec
  | replace record =>
    exact conducts_modify hs (edit_replaceRecord s record) fun _ => .inl
  | later yields verdict =>
    unfold act
    refine leaves_get_bind ?_
    split
    · next l hl =>
      refine conducts_become hs ⟨rfl, fun _ => rfl, rfl, id⟩ fun ref' href => ?_
      rw [mem_held] at href ⊢
      rcases href with hk | ⟨job, hj, hr⟩
      · exact .inl (.inl hk)
      · simp only [jobs, Option.toList_some, List.flatMap_cons, List.flatMap_nil,
          List.append_nil, List.mem_append, List.mem_singleton] at hj
        rcases hj with hj | rfl
        · exact .inl (.inr ⟨job, by simpa [jobs, hl] using hj, hr⟩)
        · rw [Job.refs, List.mem_singleton] at hr
          exact .inr (hr ▸ hb)
    · exact leaves_throw (.refl hs) trivial

theorem conducts_forM (actions : List Action) (hs : s.Capable) {ref : TaskRef}
    (hb : s.HasBegun ref) (call : CallNote) :
    Conducts base s (actions.forM (act ref call)) := by
  induction actions generalizing s with
  | nil => exact leaves_pure (.refl hs) trivial
  | cons action rest ih =>
    show Conducts base s (act ref call action >>= fun _ => rest.forM (act ref call))
    exact (conducts_act hs hb call action).bind fun _ _ hl => ih hl.capable (hl.hasBegun hb)

end Checks

/-! ## Runs -/

section Runs

variable {base : Nat} {s : Session}

/-- The next task of a run is begun, and what its check does begins no task of that run. -/
theorem conducts_perform (hs : s.Capable) {ref : TaskRef} {r : Run}
    (hr : s.runs[ref.run]? = some r) (hbegun : r.begun = ref.task)
    (hlt : ref.task < r.tasks.length) (hbase : base ≤ ref.run) (record : Nat) (task : Task) :
    Conducts base s (perform ref record task) ∧
      ∃ r', (s.after (perform ref record task)).runs[ref.run]? = some r' ∧
        r'.begun = ref.task + 1 ∧ r'.tasks.length = r.tasks.length := by
  have hstep : Step s (.begin ref.run) (s.beginTask ref.run) := .begin hr (hbegun ▸ hlt)
  have hr₁ : (s.beginTask ref.run).runs[ref.run]? = some r.beginNext := by
    simp [beginTask, hr]
  have hb₁ : (s.beginTask ref.run).HasBegun ref :=
    ⟨r.beginNext, hr₁, by simp [Run.beginNext, hbegun]⟩
  have hs₁ : (s.beginTask ref.run).Capable :=
    fun ref' href => (History.single hstep).hasBegun (hs ref' href)
  have hbegin : Leads base s (s.beginTask ref.run) :=
    ⟨⟨_, .single hstep, by simp [hbase]⟩, hs₁⟩
  have hcheck : Leads (ref.run + 1) (s.beginTask ref.run) (s.after (perform ref record task)) := by
    refine (show Conducts (ref.run + 1) (s.beginTask ref.run) _ from ?_).state
    refine leaves_get_bind (leaves_lift_bind (.refl hs₁) fun value _ => ?_)
    refine leaves_lift_bind (.refl hs₁) fun actions _ => ?_
    exact conducts_forM actions hs₁ hb₁ _
  refine ⟨stays_of_state (hbegin.trans (hcheck.mono (by omega))), ?_⟩
  obtain ⟨h, hh, hb⟩ := hcheck.history
  obtain ⟨r', hr', hcont, hsame⟩ := hh.continues hr₁
  have hnone : .begin ref.run ∉ h := fun hmem => absurd (hb _ hmem) (by omega)
  refine ⟨r', hr', ?_, hcont.length_eq⟩
  rw [hsame hnone, Run.beginNext, hbegun]

theorem conducts_performAll {run : Nat} (record : Nat) (tasks : List Task) (number : Nat)
    (hs : s.Capable) {r : Run} (hr : s.runs[run]? = some r) (hbegun : r.begun = number)
    (hlen : number + tasks.length ≤ r.tasks.length) (hbase : base ≤ run) :
    Conducts base s (performAll run record tasks number) := by
  induction tasks generalizing s number r with
  | nil => exact leaves_pure (.refl hs) trivial
  | cons task rest ih =>
    rw [List.length_cons] at hlen
    have hlt : number < r.tasks.length := by omega
    obtain ⟨hfirst, r', hr', hbegun', hlen'⟩ :
        Conducts base s (perform ⟨run, number⟩ record task) ∧
          ∃ r', (s.after (perform ⟨run, number⟩ record task)).runs[run]? = some r' ∧
            r'.begun = number + 1 ∧ r'.tasks.length = r.tasks.length :=
      conducts_perform hs hr hbegun hlt hbase record task
    refine hfirst.bind fun _ _ hl => ih (number + 1) hl.capable hr' hbegun' ?_
    omega

theorem conducts_deliver (hs : s.Capable) {result : Delivery} (hnone : result.run = none)
    (loop : Option Nat) : Conducts base s (deliver result loop) := by
  have haside := aside_deliver s result loop
  suffices h : Leads base s (s.after (deliver result loop)) from stays_of_state h
  refine .of_edit hs ⟨runs_deliver s result loop, fun n => ?_, haside.separator, ?_⟩
    fun ref href => .inl (haside.held ref href)
  · simp [deliveriesOf, hnone]
  · rw [haside.fields]
    exact id

theorem conducts_run (hs : s.Capable) (hbase : base ≤ s.runs.length) (loop : Option Nat) :
    Conducts base s (run loop) := by
  unfold run
  refine leaves_get_bind ?_
  split
  · exact conducts_deliver hs rfl loop
  · next countdown hc =>
    have hstep : Step s (.start loop) (s.openRun countdown loop) := .start loop hc
    have hopen : Conducts base s (become (s.openRun countdown loop)) :=
      stays_of_state ⟨⟨_, .single hstep, by simp⟩,
        fun ref href => (History.single hstep).hasBegun (hs ref href)⟩
    refine hopen.bind fun _ _ hl => ?_
    refine conducts_performAll s.current s.tasks 0 hl.capable (r :=
      ⟨s.tasks, s.current, countdown, 0, loop⟩) ?_ rfl (by simp) hbase
    show (s.runs ++ [_])[s.runs.length]? = _
    simp

theorem conducts_complete (hs : s.Capable) (number : Int) (passed : Bool) :
    Conducts base s (complete number passed) := by
  unfold complete
  refine leaves_get_bind ?_
  simp only
  generalize (if number < 0 then number + s.kept.length else number) = index
  split
  · exact stays_of_state (.refl hs)
  · split
    · next kept hk =>
      cases kept with
      | none => exact leaves_pure (.refl hs) trivial
      | some ref =>
        have hheld : ref ∈ s.held := mem_held.2 (.inl (List.mem_of_getElem? hk))
        exact conducts_report hs (hs ref hheld) passed
    · exact leaves_throw (.refl hs) trivial

end Runs

/-! ## The loop -/

section Loop

variable {base : Nat} {s : Session}

theorem conducts_editLoop (hs : s.Capable) {f : Loop → Loop}
    (hjobs : ∀ l, ∀ job ∈ (f l).jobs, job ∈ l.jobs ∨ ∀ ref ∈ job.refs, s.HasBegun ref) :
    Conducts base s (editLoop f) := by
  refine conducts_modify hs ⟨rfl, fun _ => rfl, rfl, id⟩ fun ref href => ?_
  rw [mem_held] at href ⊢
  rcases href with hk | ⟨job, hj, hr⟩
  · exact .inl (.inl hk)
  · cases hl : s.loop with
    | none => simp [jobs, hl] at hj
    | some l =>
      have hj' : job ∈ (f l).jobs := by simpa [jobs, hl] using hj
      rcases hjobs l job hj' with hmem | hbegun
      · exact .inl (.inr ⟨job, by simpa [jobs, hl] using hmem, hr⟩)
      · exact .inr (hbegun ref hr)

theorem conducts_leave (hs : s.Capable) {job : Job} (hjob : ∀ ref ∈ job.refs, s.HasBegun ref) :
    Conducts base s (leave job) := by
  refine conducts_editLoop hs fun l job' hmem => ?_
  rcases List.mem_append.1 hmem with hmem | hmem
  · exact .inl hmem
  · exact .inr (List.mem_singleton.1 hmem ▸ hjob)

theorem conducts_doJob (hs : s.Capable) {job : Job} (hjob : ∀ ref ∈ job.refs, s.HasBegun ref) :
    Conducts base s (doJob job) := by
  cases job with
  | step ref yields verdict => cases yields <;> exact conducts_leave hs hjob
  | settle ref passed => exact conducts_report hs (hjob ref (List.mem_singleton_self ref)) passed
  | resolve result =>
    unfold doJob
    refine leaves_get_bind ?_
    split
    · exact leaves_pure (.refl hs) trivial
    · have hhand : Conducts base s (editLoop fun l => { l with handed := true }) :=
        conducts_editLoop hs fun l job hmem => .inl hmem
      exact hhand.bind fun _ _ hl => conducts_leave hl.capable (by simp [Job.refs])
  | wake result => exact conducts_editLoop hs fun l job hmem => .inl hmem

theorem leads_dropJobs (hs : s.Capable) (loops : Nat) {loop : Option Loop}
    (hjobs : loop.toList.flatMap (·.jobs) = []) :
    Leads base s { s with loops := loops, loop := loop } := by
  refine .of_edit hs ⟨rfl, fun _ => rfl, rfl, id⟩ fun ref href => .inl ?_
  rw [mem_held] at href ⊢
  rcases href with hk | ⟨job, hj, -⟩
  · exact .inl hk
  · rw [jobs, hjobs] at hj
    cases hj

theorem leads_openLoop (hs : s.Capable) : Leads base s s.openLoop := leads_dropJobs hs _ rfl

theorem leads_closeLoop (hs : s.Capable) : Leads base s s.closeLoop := leads_dropJobs hs _ rfl

theorem leads_foldl_doJob (work : List Job) (hs : s.Capable)
    (hwork : ∀ job ∈ work, ∀ ref ∈ job.refs, s.HasBegun ref) :
    Leads base s (work.foldl (fun s job => s.after (doJob job)) s) := by
  induction work generalizing s with
  | nil => exact .refl hs
  | cons job rest ih =>
    obtain ⟨hjob, hrest⟩ := List.forall_mem_cons.1 hwork
    have hl : Leads base s (s.after (doJob job)) := (conducts_doJob hs hjob).state
    refine hl.trans (ih hl.capable fun job' hmem ref href => ?_)
    exact hl.hasBegun (hrest job' hmem ref href)

theorem leads_turn (hs : s.Capable) : Leads base s s.turn := by
  unfold turn
  split
  · exact .refl hs
  · next l hl =>
    have hheld : ∀ job ∈ l.jobs, ∀ ref ∈ job.refs, s.HasBegun ref := by
      intro job hj ref href
      exact hs ref (mem_held.2 (.inr ⟨job, by simpa [jobs, hl] using hj, href⟩))
    have hclear : Leads base s { s with loop := some { l with jobs := [] } } :=
      leads_dropJobs hs _ rfl
    refine hclear.trans (leads_foldl_doJob l.jobs hclear.capable fun job hj ref href => ?_)
    exact hclear.hasBegun (hheld job hj ref href)

theorem leads_turns (hs : s.Capable) (limit : Nat) : Leads base s (s.turns limit) := by
  induction limit generalizing s with
  | zero => exact .refl hs
  | succ limit ih =>
    unfold turns
    split
    · exact .refl hs
    · have hturn : Leads base s s.turn := leads_turn hs
      exact hturn.trans (ih hturn.capable)

theorem leads_completeAll (completions : List (Int × Bool)) (hs : s.Capable) :
    Leads base s (s.completeAll completions).1 := by
  induction completions generalizing s with
  | nil => exact .refl hs
  | cons completion rest ih =>
    have hl : Leads base s (s.after (complete completion.1 completion.2)) :=
      (conducts_complete hs completion.1 completion.2).state
    exact hl.trans (ih hl.capable)

theorem leads_awaitRun (hs : s.Capable) (hbase : base ≤ s.runs.length)
    (completions : List (Int × Bool)) (limit : Nat) :
    Leads base s (s.awaitRun completions limit).1 := by
  have hopen : Leads base s s.openLoop := leads_openLoop hs
  have hrun : Leads base s.openLoop (s.openLoop.after (run (some s.loops))) :=
    (conducts_run hopen.capable hbase (some s.loops)).state
  unfold awaitRun
  unfold after at hrun
  simp only
  generalize ExceptT.run (run (some s.loops)) s.openLoop = outcome at hrun ⊢
  obtain ⟨started, s₁⟩ := outcome
  have hcomplete : Leads base s₁ (s₁.completeAll completions).1 :=
    leads_completeAll completions hrun.capable
  have hbefore := (hopen.trans hrun).trans hcomplete
  cases started with
  | error fault => exact hbefore.trans (leads_closeLoop hbefore.capable)
  | ok =>
    have hturns := hbefore.trans (leads_turns hbefore.capable limit)
    exact hturns.trans (leads_closeLoop hturns.capable)

end Loop

/-! ## Calls -/

/-- What can be asked of a session from outside. -/
inductive Call where
  | turnDay (today : Calendar.Today)
  | assign (field : String) (value : Value)
  | dropField (field : String)
  | addRule (field : String) (friendly spec : Value)
  | setTemplates (templates : MessageTable)
  | replaceRecord (record : Value)
  | reset
  | run
  | complete (number : Int) (passed : Bool)
  | awaitRun (completions : List (Int × Bool)) (limit : Nat)

/-- What a call leaves of a session. -/
def call (s : Session) : Call → Session
  | .turnDay today => s.turnDay today
  | .assign field value => s.after (assign field value)
  | .dropField field => s.after (dropField field)
  | .addRule field friendly spec => s.after (addRule field friendly spec)
  | .setTemplates templates => s.after (setTemplates templates)
  | .replaceRecord record => s.replaceRecord record
  | .reset => s.reset
  | .run => s.after (run none)
  | .complete number passed => s.after (complete number passed)
  | .awaitRun completions limit => (s.awaitRun completions limit).1

/-- A call is a history, and begins no tasks but those of the run that it takes up. -/
theorem leads_call {s : Session} (hs : s.Capable) (c : Call) :
    Leads s.runs.length s (s.call c) := by
  cases c with
  | turnDay today => exact .of_edit hs ⟨rfl, fun _ => rfl, rfl, id⟩ fun _ => .inl
  | assign field value => exact (conducts_assign hs field value).state
  | dropField field => exact (conducts_dropField hs field).state
  | addRule field friendly spec => exact (conducts_addRule hs field friendly spec).state
  | setTemplates templates => exact (conducts_setTemplates hs templates).state
  | replaceRecord record => exact .of_edit hs (edit_replaceRecord s record) fun _ => .inl
  | reset => exact .of_edit hs (edit_replaceRecord s (.map [])) fun _ => .inl
  | run => exact (conducts_run hs (Nat.le_refl _) none).state
  | complete number passed => exact (conducts_complete hs number passed).state
  | awaitRun completions limit => exact leads_awaitRun hs (Nat.le_refl _) completions limit

/-- Calls, one after the other, are a history, and begin no tasks of runs that were there before. -/
theorem leads_calls {s : Session} (hs : s.Capable) (calls : List Call) :
    Leads s.runs.length s (calls.foldl call s) := by
  induction calls generalizing s with
  | nil => exact .refl hs
  | cons c rest ih =>
    have hl := leads_call hs c
    obtain ⟨h, hh, -⟩ := hl.history
    exact hl.trans ((ih hl.capable).mono hh.length_runs_le)

/-- Whatever is asked of a new session, what happens is a history. -/
theorem history_of_calls (today : Calendar.Today) (registry : Registry) (templates : MessageTable)
    (separator : String) (record : Value) (calls : List Call) :
    ∃ h, History (start today registry templates separator record) h
      (calls.foldl call (start today registry templates separator record)) := by
  have hcapable : (start today registry templates separator record).Capable := by
    simp [Capable, held, jobs, start]
  obtain ⟨h, hh, -⟩ := (leads_calls hcapable calls).history
  exact ⟨h, hh⟩

end Session

end FieldRules
