import FieldRules.Proofs.Session.FanOut

/-!
# How checks report

A check reports at once, or keeps its report for later, or gives way to the loop first. Besides, it
may write down the call, and act on the record and the rules; nothing of that touches the runs, the
kept reports or the loop. No run waits for a loop that is yet to come, since a loop has a number of
its own.

Results:
* `run_of_actions`: a check that reports once is one act of reporting between other actions.
* `bare_of_forM`: those other actions leave runs, kept reports and the loop alone.
* `history_of_operations`: what is done to a session is a history.
* `loopsBegun_of_operations`: no run waits for a loop that is yet to come.
-/

namespace FieldRules

/-- How a check reports: at once, or when somebody completes the report that it kept, or from the
    loop, after it has given way some times. None stands for a fault in the loop. -/
inductive Manner where
  | now (passed : Bool)
  | kept
  | loop (yields : Nat) (verdict : Option Bool)

/-- A check that reports in a manner gives a verdict. That of a report that is kept is up to who
    completes it; a fault in the loop stands for a failure. -/
def Manner.Gives (verdict : Bool) : Manner → Prop
  | .now passed => passed = verdict
  | .kept => True
  | .loop _ v => v.getD false = verdict

/-- How an action reports, if it does. -/
def Action.manner? : Action → Option Manner
  | .report passed _ => some (.now passed)
  | .keep => some .kept
  | .later yields verdict => some (.loop yields verdict)
  | _ => none

namespace Session

/-! ## What actions leave alone -/

/-- A session without its records, its rules and the calls that were written down. -/
def bare (s : Session) : Session :=
  { s with records := [], current := 0, fields := [], notes := [] }

/-- The loops that the runs are for, and how many loops there have been. -/
def callers (s : Session) : List (Option Nat) × Nat := (s.runs.map (·.loop), s.loops)

/-- A part of two sessions is the same. -/
def IsSpared {β : Type} (part : Session → β) (s s' : Session) : Prop := part s' = part s

instance {β : Type} (part : Session → β) :
    Trans (IsSpared part) (IsSpared part) (IsSpared part) := ⟨fun h h' => h'.trans h⟩

/-- An action leaves a part of a session alone. -/
abbrev Spares {α β : Type} (part : Session → β) (s : Session) (action : SessionM α) : Prop :=
  Stays (IsSpared part) s action

theorem callers_of_spares_bare {α : Type} {s : Session} {action : SessionM α}
    (h : Spares bare s action) : Spares callers s action :=
  stays_of_state (congrArg callers h.state : callers (s.after action).bare = callers s.bare)

/-! ## Records and rules -/

section Rules

variable {s : Session}

theorem spares_assign (field : String) (value : Value) : Spares bare s (assign field value) := by
  unfold assign
  exact leaves_get_bind (leaves_lift_bind rfl fun record _ => stays_set rfl)

theorem spares_dropField (field : String) : Spares bare s (dropField field) := by
  unfold dropField
  refine leaves_get_bind ?_
  split
  · split
    · exact stays_set rfl
    · exact leaves_throw rfl trivial
  · exact leaves_throw rfl trivial

theorem spares_useRules (field : String) (rules : List Spec.Rule) :
    Spares bare s (useRules field rules) := by
  induction rules generalizing s with
  | nil => exact leaves_pure rfl trivial
  | cons rule rest ih =>
    unfold useRules
    refine leaves_get_bind ?_
    split
    · refine leaves_lift_bind rfl fun value _ => ?_
      split
      · split
        · refine leaves_lift_bind rfl fun value' _ => ?_
          exact (spares_assign field value').bind fun _ _ _ => ih
        · exact leaves_throw rfl trivial
      · exact ih
    · refine leaves_lift_bind rfl fun use _ => ?_
      exact ih.bind fun uses _ _ => leaves_pure rfl trivial

theorem spares_addRule (field : String) (friendly spec : Value) :
    Spares bare s (addRule field friendly spec) := by
  unfold addRule
  refine leaves_get_bind (leaves_lift_bind rfl fun rules _ => ?_)
  exact (spares_useRules field rules).bind fun uses _ _ => stays_modify rfl

theorem spares_setTemplates (templates : MessageTable) :
    Spares callers s (setTemplates templates) := by
  unfold setTemplates
  refine leaves_get_bind ?_
  simp only
  split
  · exact leaves_throw rfl trivial
  · exact stays_set rfl

theorem spares_act {ref : TaskRef} {call : CallNote} {action : Action}
    (h : action.manner? = none) : Spares bare s (act ref call action) := by
  cases action with
  | note => exact stays_modify rfl
  | fail fault => exact leaves_throw rfl trivial
  | assign field value => exact spares_assign field value
  | configure field friendly spec => exact spares_addRule field friendly spec
  | replace record => exact stays_modify rfl
  | report | keep | later => cases h

end Rules

/-! ## Checks that report once -/

/-- The check of a task reports once in a manner, and whatever else it does goes without a fault. -/
def Cooperates (s : Session) (ref : TaskRef) (record : Nat) (task : Task) (manner : Manner) :
    Prop :=
  ∃ value actions, (s.recordAt record).field? task.field = .ok value ∧
    s.registry.evaluate s.today task.rule value task.options = .ok actions ∧
    actions.filterMap Action.manner? = [manner] ∧
    ∀ before action rest, actions = before ++ action :: rest → action.manner? = none →
      ((act ref (noteOf task value) action).run
        ((s.beginTask ref.run).after (before.forM (act ref (noteOf task value))))).1 = .ok ()

section Cooperation

variable {ref : TaskRef} {call : CallNote}

theorem forM_cons (action : Action) (rest : List Action) :
    (action :: rest).forM (act ref call) =
      act ref call action >>= fun _ => rest.forM (act ref call) := rfl

theorem forM_append (actions rest : List Action) :
    (actions ++ rest).forM (act ref call) =
      actions.forM (act ref call) >>= fun _ => rest.forM (act ref call) := by
  induction actions with
  | nil => exact (pure_bind _ _).symm
  | cons action actions ih => rw [List.cons_append, forM_cons, ih, forM_cons, bind_assoc]

/-- Actions that are no reports are done one after the other, and leave runs, kept reports and the
    loop alone. -/
theorem bare_of_forM {s : Session} {actions : List Action}
    (hside : ∀ action ∈ actions, action.manner? = none)
    (hok : ∀ before action rest, actions = before ++ action :: rest →
      ((act ref call action).run (s.after (before.forM (act ref call)))).1 = .ok ()) :
    ((actions.forM (act ref call)).run s).1 = .ok () ∧
      (s.after (actions.forM (act ref call))).bare = s.bare := by
  induction actions generalizing s with
  | nil => exact ⟨rfl, rfl⟩
  | cons action rest ih =>
    obtain ⟨hfirst, hrest⟩ := List.forall_mem_cons.1 hside
    have hact : ((act ref call action).run s).1 = .ok () := hok [] action rest rfl
    have hrun : ∀ actions : List Action, ((action :: actions).forM (act ref call)).run s =
        (actions.forM (act ref call)).run (s.after (act ref call action)) := by
      intro actions
      rw [forM_cons, run_bind_of_ok hact]
    have hok' : ∀ before a post, rest = before ++ a :: post →
        ((act ref call a).run
          ((s.after (act ref call action)).after (before.forM (act ref call)))).1 = .ok () := by
      intro before a post h
      have := hok (action :: before) a post (by rw [h, List.cons_append])
      rwa [after, hrun] at this
    obtain ⟨htail, hbare⟩ := ih hrest hok'
    refine ⟨by rw [hrun]; exact htail, ?_⟩
    rw [after, hrun]
    exact hbare.trans (spares_act hfirst).state

/-- A check that reports once is an act of reporting with other actions before and after it. Those
    before it leave runs, kept reports and the loop alone, and so do those after it, once the report
    is made. -/
theorem run_of_actions {s : Session} {actions : List Action} {manner : Manner}
    (hmanner : actions.filterMap Action.manner? = [manner])
    (hok : ∀ before action rest, actions = before ++ action :: rest → action.manner? = none →
      ((act ref call action).run (s.after (before.forM (act ref call)))).1 = .ok ()) :
    ∃ action s₁, action.manner? = some manner ∧ s₁.bare = s.bare ∧
      (((act ref call action).run s₁).1 = .ok () →
        ((actions.forM (act ref call)).run s).1 = .ok () ∧
          (s.after (actions.forM (act ref call))).bare =
            (s₁.after (act ref call action)).bare) := by
  obtain ⟨before, action, rest, rfl, hbefore, haction, hrest⟩ :=
    List.filterMap_eq_cons_iff.1 hmanner
  rw [List.filterMap_eq_nil_iff] at hrest
  obtain ⟨hfirst, hbare⟩ := bare_of_forM (s := s) hbefore fun pre a post h =>
    hok pre a (post ++ action :: rest) (by rw [h, List.append_assoc, List.cons_append])
      (hbefore a (h ▸ List.mem_append_right pre List.mem_cons_self))
  refine ⟨action, s.after (before.forM (act ref call)), haction, hbare, fun hact => ?_⟩
  have hrun : ∀ actions : List Action, ((before ++ action :: actions).forM (act ref call)).run s =
      (actions.forM (act ref call)).run
        ((s.after (before.forM (act ref call))).after (act ref call action)) := by
    intro actions
    rw [forM_append, run_bind_of_ok hfirst, forM_cons, run_bind_of_ok hact]
  obtain ⟨hlast, hbare'⟩ := bare_of_forM
    (s := (s.after (before.forM (act ref call))).after (act ref call action)) hrest
    fun pre a post h => by
      have := hok (before ++ action :: pre) a post (by rw [h, List.append_assoc, List.cons_append])
        (hrest a (h ▸ List.mem_append_right pre List.mem_cons_self))
      rwa [after, hrun] at this
  exact ⟨by rw [hrun]; exact hlast, by rw [after, hrun]; exact hbare'⟩

end Cooperation

/-! ## Operations -/

section Callers

variable {s : Session}

theorem spares_deliver (result : Delivery) (loop : Option Nat) :
    Spares callers s (deliver result loop) := by
  obtain ⟨received, loop', h, -⟩ := after_deliver s result loop
  suffices hc : (s.after (deliver result loop)).callers = s.callers from stays_of_state hc
  rw [h]
  rfl

theorem spares_report (ref : TaskRef) (passed : Bool) : Spares callers s (report ref passed) := by
  suffices hc : (s.after (report ref passed)).callers = s.callers from stays_of_state hc
  cases hr : s.runs[ref.run]? with
  | none =>
    unfold after
    rw [run_report, hr]
  | some r =>
    rcases hrep : r.report s.templates ref.task passed with fault | ⟨r', last, fault⟩
    · rw [after_report_of_error hr hrep]
    · have hloop : r'.loop = r.loop := (Run.continues_of_report_eq_ok hrep).1.loop
      have hset : callers { s with runs := s.runs.set ref.run r' } = s.callers := by
        obtain ⟨hlt, rfl⟩ := List.getElem?_eq_some_iff.1 hr
        unfold callers
        simp only [List.map_set, hloop]
        congr 1
        apply List.ext_getElem?
        intro i
        by_cases hi : ref.run = i
        · subst hi
          simp [hlt]
        · simp [hi]
      rw [after_report_of_ok hr hrep]
      split
      · exact (spares_deliver _ _).state.trans hset
      · exact hset

theorem spares_callers_act (ref : TaskRef) (call : CallNote) (action : Action) :
    Spares callers s (act ref call action) := by
  cases action with
  | report passed options => exact spares_report ref passed
  | keep => exact stays_modify rfl
  | later yields verdict =>
    unfold act
    refine leaves_get_bind ?_
    split
    · exact stays_set rfl
    · exact leaves_throw rfl trivial
  | _ => exact callers_of_spares_bare (spares_act rfl)

theorem spares_forM (ref : TaskRef) (call : CallNote) (actions : List Action) :
    Spares callers s (actions.forM (act ref call)) := by
  induction actions generalizing s with
  | nil => exact leaves_pure rfl trivial
  | cons action rest ih =>
    rw [forM_cons]
    exact (spares_callers_act ref call action).bind fun _ _ _ => ih

theorem callers_beginTask (s : Session) (run : Nat) : (s.beginTask run).callers = s.callers := by
  have hmap : (s.runs.modify run Run.beginNext).map (·.loop) = s.runs.map (·.loop) := by
    apply List.ext_getElem?
    intro i
    rw [List.getElem?_map, List.getElem?_map, List.getElem?_modify]
    cases s.runs[i]? with
    | none => rfl
    | some r => by_cases h : run = i <;> simp [h, Run.beginNext]
  exact Prod.ext hmap rfl

theorem spares_perform (ref : TaskRef) (record : Nat) (task : Task) :
    Spares callers s (perform ref record task) := by
  unfold perform
  refine (stays_modify (callers_beginTask s ref.run)).bind fun _ _ _ => leaves_get_bind ?_
  refine leaves_lift_bind rfl fun value _ => leaves_lift_bind rfl fun actions _ => ?_
  exact spares_forM ref _ actions

theorem spares_performAll (run record : Nat) (tasks : List Task) (number : Nat) :
    Spares callers s (performAll run record tasks number) := by
  induction tasks generalizing s number with
  | nil => exact leaves_pure rfl trivial
  | cons task rest ih => exact (spares_perform _ record task).bind fun _ _ _ => ih (number + 1)

theorem spares_complete (number : Int) (passed : Bool) :
    Spares callers s (complete number passed) := by
  unfold complete
  refine leaves_get_bind ?_
  simp only
  generalize (if number < 0 then number + s.kept.length else number) = index
  split
  · exact leaves_throw rfl trivial
  · split
    · split
      · exact spares_report _ passed
      · exact leaves_pure rfl trivial
    · exact leaves_throw rfl trivial

theorem callers_completeAll (s : Session) (completions : List (Int × Bool)) :
    (s.completeAll completions).1.callers = s.callers := by
  induction completions generalizing s with
  | nil => rfl
  | cons completion rest ih => exact (ih _).trans (spares_complete completion.1 completion.2).state

theorem spares_doJob (job : Job) : Spares callers s (doJob job) := by
  cases job with
  | step ref yields verdict => cases yields <;> exact stays_modify rfl
  | settle ref passed => exact spares_report ref passed
  | resolve result =>
    unfold doJob
    refine leaves_get_bind ?_
    split
    · exact leaves_pure rfl trivial
    · have hhand : Spares callers s (editLoop fun l => { l with handed := true }) :=
        stays_modify rfl
      exact hhand.bind fun _ _ _ => stays_modify rfl
  | wake result => exact stays_modify rfl

theorem callers_turns (s : Session) (limit : Nat) : (s.turns limit).callers = s.callers := by
  have hjobs : ∀ (jobs : List Job) (s : Session),
      (jobs.foldl (fun s job => s.after (doJob job)) s).callers = s.callers := by
    intro jobs
    induction jobs with
    | nil => exact fun _ => rfl
    | cons job rest ih => exact fun s => (ih _).trans (spares_doJob job).state
  have hturn : ∀ s : Session, s.turn.callers = s.callers := by
    intro s
    unfold turn
    split
    · rfl
    · exact hjobs _ _
  induction limit generalizing s with
  | zero => rfl
  | succ limit ih =>
    unfold turns
    split
    · rfl
    · exact (ih _).trans (hturn s)

/-- The runs after a run are those before it, and one for its loop if it had tasks. -/
theorem callers_run (s : Session) (loop : Option Nat) :
    (s.after (run loop)).callers = s.callers ∨
      (s.after (run loop)).callers = (s.runs.map (·.loop) ++ [loop], s.loops) := by
  rcases hc : Countdown.start s.tasks.length with fault | countdown
  · left
    unfold after
    rw [(run_of_start_error loop hc).2]
    exact (spares_deliver _ loop).state
  · right
    unfold after
    rw [run_of_start loop hc]
    refine Eq.trans (spares_performAll (s := s.openRun countdown loop) _ _ _ _).state ?_
    simp [callers, openRun]

/-- No run waits for a loop that is yet to come. -/
def LoopsBegun (s : Session) : Prop :=
  ∀ r ∈ s.runs, ∀ number, r.loop = some number → number < s.loops

theorem LoopsBegun.of_callers {s' : Session} (hs : s.LoopsBegun) (h : s'.callers = s.callers) :
    s'.LoopsBegun := by
  obtain ⟨hruns, hloops⟩ := Prod.mk.inj h
  intro r hr number hloop
  have hmem : r.loop ∈ s.runs.map (·.loop) := hruns ▸ List.mem_map_of_mem hr
  obtain ⟨r', hr', hloop'⟩ := List.mem_map.1 hmem
  rw [hloops]
  exact hs r' hr' number (hloop'.trans hloop)

theorem loopsBegun_run (hs : s.LoopsBegun) {loop : Option Nat}
    (hloop : ∀ number, loop = some number → number < s.loops) :
    (s.after (run loop)).LoopsBegun := by
  rcases callers_run s loop with h | h
  · exact hs.of_callers h
  · obtain ⟨hruns, hloops⟩ := Prod.mk.inj h
    intro r hr number hnumber
    have hmem : r.loop ∈ s.runs.map (·.loop) ++ [loop] := hruns ▸ List.mem_map_of_mem hr
    rw [hloops]
    rcases List.mem_append.1 hmem with hmem | hmem
    · obtain ⟨r', hr', hloop'⟩ := List.mem_map.1 hmem
      exact hs r' hr' number (hloop'.trans hnumber)
    · exact hloop number (List.mem_singleton.1 hmem ▸ hnumber)

theorem loopsBegun_awaitRun (hs : s.LoopsBegun) (completions : List (Int × Bool)) (limit : Nat) :
    (s.awaitRun completions limit).1.LoopsBegun := by
  have hopen : s.openLoop.LoopsBegun :=
    fun r hr number hloop => Nat.lt_succ_of_lt (hs r hr number hloop)
  have hrun : (s.openLoop.after (run (some s.loops))).LoopsBegun := by
    refine loopsBegun_run hopen fun number hnumber => ?_
    cases hnumber
    exact Nat.lt_succ_self s.loops
  unfold awaitRun
  unfold after at hrun
  simp only
  generalize ExceptT.run (run (some s.loops)) s.openLoop = outcome at hrun ⊢
  obtain ⟨started, s₁⟩ := outcome
  have hbefore := hrun.of_callers (callers_completeAll s₁ completions)
  cases started with
  | error fault => exact hbefore
  | ok => exact hbefore.of_callers (callers_turns _ limit)

/-- No operation makes a run wait for a loop that is yet to come. -/
theorem loopsBegun_operate (hs : s.LoopsBegun) (operation : Operation) :
    (s.operate operation).LoopsBegun := by
  cases operation with
  | register name d => exact hs
  | registerTransform name t => exact hs
  | call c =>
    cases c with
    | turnDay today => exact hs
    | assign field value =>
      exact hs.of_callers (callers_of_spares_bare (spares_assign field value)).state
    | dropField field => exact hs.of_callers (callers_of_spares_bare (spares_dropField field)).state
    | addRule field friendly spec =>
      exact hs.of_callers (callers_of_spares_bare (spares_addRule field friendly spec)).state
    | setTemplates templates => exact hs.of_callers (spares_setTemplates templates).state
    | replaceRecord record => exact hs
    | reset => exact hs
    | run => exact loopsBegun_run hs nofun
    | complete number passed => exact hs.of_callers (spares_complete number passed).state
    | awaitRun completions limit => exact loopsBegun_awaitRun hs completions limit

end Callers

theorem loopsBegun_of_operations (today : Calendar.Today) (registry : Registry)
    (templates : MessageTable) (separator : String) (record : Value) (operations : List Operation) :
    (operations.foldl operate (start today registry templates separator record)).LoopsBegun :=
  List.foldlRecOn operations operate (fun _ hr => absurd hr List.not_mem_nil)
    fun _ hs operation _ => loopsBegun_operate hs operation

theorem leads_operate {s : Session} (hs : s.Capable) (operation : Operation) :
    Leads 0 s (s.operate operation) := by
  cases operation with
  | call c => exact (leads_call hs c).mono (Nat.zero_le _)
  | register name d => exact .of_edit hs ⟨rfl, fun _ => rfl, rfl, id⟩ fun _ => .inl
  | registerTransform name t => exact .of_edit hs ⟨rfl, fun _ => rfl, rfl, id⟩ fun _ => .inl

/-- Whatever is done to a new session, what happens is a history. -/
theorem history_of_operations (today : Calendar.Today) (registry : Registry)
    (templates : MessageTable) (separator : String) (record : Value) (operations : List Operation) :
    ∃ h, History (start today registry templates separator record) h
      (operations.foldl operate (start today registry templates separator record)) := by
  have hleads : Leads 0 (start today registry templates separator record)
      (operations.foldl operate (start today registry templates separator record)) := by
    refine List.foldlRecOn operations operate (.refl (by simp [Capable, held, jobs, start])) ?_
    exact fun s hs operation _ => hs.trans (leads_operate hs.capable operation)
  obtain ⟨h, hh, -⟩ := hleads.history
  exact ⟨h, hh⟩

end Session

end FieldRules
