import FieldRules.Proofs.Session.Builtin
import FieldRules.Proofs.Session.Ledger

/-!
# Runs whose verdicts are known

A task whose check reports once and does nothing else has a verdict; one whose check only fails has
a fault. A run of such tasks settles them one after the other, up to the first fault, and hands over
its result when all of them are settled. Nothing else of a check matters to it: neither its options
nor the value that it was given.

Results:
* `settleAll_eq_ok_iff`: when tasks are settled without a fault.
* `performAll_decided`: tasks with known verdicts, one after the other.
* `run_of_decided`: what a run of tasks with known verdicts does.
* `Registry.Extends.exists_decides`: a built-in rule in use has a verdict or a fault.
-/

namespace FieldRules

/-! ## Tasks and their verdicts -/

/-- A task as a verdict settles it. -/
def Task.reported (t : Task) (templates : MessageTable) (passed : Bool) : Task :=
  { t with outcome := some (t.judge templates passed).1 }

/-- What a reporter is told. -/
def told : Option Fault → Except Fault Unit
  | some fault => .error fault
  | none => .ok ()

/-- The errors of tasks that have reported; none if every task passed. -/
def errorsIn (separator : String) (tasks : List Task) : Option (Entries String) :=
  match errorsOf separator tasks with
  | [] => none
  | errors => some errors

theorem Run.errors_eq (r : Run) (separator : String) :
    r.errors separator = errorsIn separator r.tasks := rfl

/-- What the check of a task comes to on a record, if it does nothing but report once or fail. -/
inductive Decides (registry : Registry) (today : Calendar.Today) (record : Value) (t : Task) :
    Except Fault Bool → Prop
  | verdict {value : Value} {passed : Bool} {options : Option (List Value)}
    (hvalue : record.field? t.field = .ok value)
    (hactions : registry.evaluate today t.rule value t.options = .ok [.report passed options]) :
    Decides registry today record t (.ok passed)
  | fault {value : Value} {fault : Fault} (hvalue : record.field? t.field = .ok value)
    (hactions : registry.evaluate today t.rule value t.options = .ok [.fail fault]) :
    Decides registry today record t (.error fault)

/-- What becomes of tasks with some verdicts, one after the other: what their run is told, and the
    tasks afterwards. After a fault the other tasks are left as they are. -/
def settleAll (templates : MessageTable) (verdict : Task → Except Fault Bool) :
    List Task → Except Fault Unit × List Task
  | [] => (.ok (), [])
  | t :: rest =>
    match verdict t with
    | .error fault => (.error fault, t :: rest)
    | .ok passed =>
      match (t.judge templates passed).2 with
      | some fault => (.error fault, t.reported templates passed :: rest)
      | none =>
        ((settleAll templates verdict rest).1,
          t.reported templates passed :: (settleAll templates verdict rest).2)

/-- Whether all of some tasks have reported. -/
def areSettled (tasks : List Task) : Bool := tasks.all (·.outcome.isSome)

section Settle

variable {templates : MessageTable} {verdict : Task → Except Fault Bool} {t : Task}
  {tasks : List Task} {fault : Fault} {passed : Bool}

theorem areSettled_cons (t : Task) (tasks : List Task) :
    areSettled (t :: tasks) = (t.outcome.isSome && areSettled tasks) := rfl

theorem areSettled_eq_false (h : ∀ t ∈ tasks, t.outcome = none) (hne : tasks ≠ []) :
    areSettled tasks = false := by
  cases tasks with
  | nil => exact absurd rfl hne
  | cons t rest => rw [areSettled_cons, h t List.mem_cons_self]; rfl

theorem settleAll_of_error (h : verdict t = .error fault) (rest : List Task) :
    settleAll templates verdict (t :: rest) = (.error fault, t :: rest) := by
  rw [settleAll, h]

theorem settleAll_of_judge_some (h : verdict t = .ok passed)
    (hjudge : (t.judge templates passed).2 = some fault) (rest : List Task) :
    settleAll templates verdict (t :: rest) =
      (.error fault, t.reported templates passed :: rest) := by
  rw [settleAll, h]
  simp only [hjudge]

theorem settleAll_of_judge_none (h : verdict t = .ok passed)
    (hjudge : (t.judge templates passed).2 = none) (rest : List Task) :
    settleAll templates verdict (t :: rest) =
      ((settleAll templates verdict rest).1,
        t.reported templates passed :: (settleAll templates verdict rest).2) := by
  rw [settleAll, h]
  simp only [hjudge]

/-- A task is settled without a fault. -/
def Settles (templates : MessageTable) (verdict : Task → Except Fault Bool) (t : Task) : Prop :=
  ∃ passed, verdict t = .ok passed ∧ (t.judge templates passed).2 = none

/-- A task as its verdict settles it; one without a verdict is left as it is. -/
def Task.decided (templates : MessageTable) (verdict : Task → Except Fault Bool) (t : Task) :
    Task :=
  match verdict t with
  | .ok passed => t.reported templates passed
  | .error _ => t

/-- Tasks are settled without a fault if each of them is. -/
theorem settleAll_eq_ok_iff :
    (settleAll templates verdict tasks).1 = .ok () ↔ ∀ t ∈ tasks, Settles templates verdict t := by
  induction tasks with
  | nil => exact ⟨fun _ => nofun, fun _ => rfl⟩
  | cons t rest ih =>
    rw [List.forall_mem_cons, ← ih]
    cases hv : verdict t with
    | error fault =>
      rw [settleAll_of_error hv]
      refine ⟨nofun, fun ⟨⟨passed, hok, _⟩, _⟩ => ?_⟩
      cases hv.symm.trans hok
    | ok passed =>
      cases hjudge : (t.judge templates passed).2 with
      | some fault =>
        rw [settleAll_of_judge_some hv hjudge]
        refine ⟨nofun, fun ⟨⟨passed', hok, hnone⟩, _⟩ => ?_⟩
        cases hv.symm.trans hok
        cases hjudge.symm.trans hnone
      | none =>
        rw [settleAll_of_judge_none hv hjudge]
        exact ⟨fun h => ⟨⟨passed, hv, hjudge⟩, h⟩, fun h => h.2⟩

/-- Tasks that are settled without a fault are all settled by their verdicts. -/
theorem settleAll_of_ok (h : (settleAll templates verdict tasks).1 = .ok ()) :
    (settleAll templates verdict tasks).2 = tasks.map (Task.decided templates verdict) ∧
      areSettled (settleAll templates verdict tasks).2 = true := by
  rw [settleAll_eq_ok_iff] at h
  induction tasks with
  | nil => exact ⟨rfl, rfl⟩
  | cons t rest ih =>
    obtain ⟨⟨passed, hv, hjudge⟩, hrest⟩ := List.forall_mem_cons.1 h
    obtain ⟨htasks, hall⟩ := ih hrest
    rw [settleAll_of_judge_none hv hjudge, List.map_cons, Task.decided, hv, areSettled_cons]
    exact ⟨by rw [htasks], by rw [hall]; rfl⟩

end Settle

/-- A check comes to one thing at most. -/
theorem Decides.unique {registry : Registry} {today : Calendar.Today} {record : Value} {t : Task}
    {v v' : Except Fault Bool} (h : Decides registry today record t v)
    (h' : Decides registry today record t v') : v = v' := by
  cases h with
  | verdict hvalue hactions =>
    cases h' with
    | verdict hvalue' hactions' =>
      cases hvalue.symm.trans hvalue'
      cases hactions.symm.trans hactions'
      rfl
    | fault hvalue' hactions' =>
      cases hvalue.symm.trans hvalue'
      cases hactions.symm.trans hactions'
  | fault hvalue hactions =>
    cases h' with
    | verdict hvalue' hactions' =>
      cases hvalue.symm.trans hvalue'
      cases hactions.symm.trans hactions'
    | fault hvalue' hactions' =>
      cases hvalue.symm.trans hvalue'
      cases hactions.symm.trans hactions'
      rfl

theorem exists_verdict {registry : Registry} {today : Calendar.Today} {record : Value}
    {tasks : List Task} (h : ∀ t ∈ tasks, ∃ v, Decides registry today record t v) :
    ∃ verdict : Task → Except Fault Bool,
      ∀ t ∈ tasks, Decides registry today record t (verdict t) := by
  classical
  refine ⟨fun t => if ht : t ∈ tasks then (h t ht).choose else .ok true, fun t ht => ?_⟩
  simp only [dif_pos ht]
  exact (h t ht).choose_spec

/-! ## Registries with the built-in rules -/

namespace Registry

/-- A registry has the built-in rules as they are, whatever else has been registered. -/
structure Extends (r : Registry) (policy : Markup.Policy) : Prop where
  rule : ∀ name, (standard policy).has name = true →
    r.get? name = (standard policy).get? name
  transform : ∀ name, (standard policy).has name = true →
    r.transforms.get? name = (standard policy).transforms.get? name

section Extends

variable {r r' : Registry} {policy : Markup.Policy} {name : String}

theorem extends_standard (policy : Markup.Policy) :
    (standard policy).Extends policy := ⟨fun _ _ => rfl, fun _ _ => rfl⟩

theorem Extends.has (h : r.Extends policy)
    (hname : (standard policy).has name = true) : r.has name = true := by
  have hrule : r.rules.get? name = (standard policy).rules.get? name := h.rule name hname
  rw [Registry.has, Entries.has, Entries.has, hrule, h.transform name hname]
  exact hname

theorem Extends.isTransform (h : r.Extends policy)
    (hname : (standard policy).has name = true) :
    r.isTransform name = (standard policy).isTransform name := by
  rw [Registry.isTransform, Registry.isTransform, Entries.has, Entries.has,
    h.transform name hname]

/-- Registering a rule under a free name leaves the built-in rules as they are. -/
theorem Extends.register (h : r.Extends policy) {d : Definition}
    (hr : r.register name d = .ok r') : r'.Extends policy := by
  unfold Registry.register at hr
  split at hr
  · cases hr
  · next hfree =>
    cases hr
    refine ⟨fun other hother => ?_, h.transform⟩
    have hne : other ≠ name := fun heq => hfree (heq ▸ h.has hother)
    exact (Entries.get?_put_ne _ _ hne).trans (h.rule other hother)

/-- So does registering a transform. -/
theorem Extends.registerTransform (h : r.Extends policy) {t : Transform}
    (hr : r.registerTransform name t = .ok r') : r'.Extends policy := by
  unfold Registry.registerTransform at hr
  split at hr
  · cases hr
  · next hfree =>
    cases hr
    refine ⟨h.rule, fun other hother => ?_⟩
    have hne : other ≠ name := fun heq => hfree (heq ▸ h.has hother)
    exact (Entries.get?_put_ne _ _ hne).trans (h.transform other hother)

theorem evaluate_congr (h : r.get? name = r'.get? name) (today : Calendar.Today) (value : Value)
    (options : List Value) :
    r.evaluate today name value options = r'.evaluate today name value options := by
  rw [evaluate, evaluate, h]

/-- A built-in rule in use comes to a verdict or a fault, whatever the record has for its field. -/
theorem Extends.exists_decides (h : r.Extends policy) {use : RuleUse}
    {templates : MessageTable} {d : Definition} (huse : use.IsUsable r templates d)
    (hname : (standard policy).has use.rule = true) (today : Calendar.Today)
    (entries : Entries Value) {t : Task} (hrule : t.rule = use.rule)
    (hoptions : t.options = use.options) :
    ∃ v, Decides r today (.map entries) t v := by
  have hstandard : use.IsUsable (standard policy) templates d :=
    huse.of_get? (h.rule _ hname).symm (h.isTransform hname).symm
  have hvalue := Value.field?_map entries t.field
  have heval := evaluate_congr (h.rule _ hname) today ((entries.get? t.field).getD .null)
    use.options
  rw [← hrule, ← hoptions] at heval
  rcases evaluate_cases hstandard today ((entries.get? t.field).getD .null) with
    ⟨passed, hactions⟩ | ⟨fault, -, hactions⟩
  · rw [← hrule, ← hoptions] at hactions
    exact ⟨_, .verdict hvalue (heval.trans hactions)⟩
  · rw [← hrule, ← hoptions] at hactions
    exact ⟨_, .fault hvalue (heval.trans hactions)⟩

end Extends

end Registry

namespace Session

/-! ## Runs at some task -/

/-- A run that no loop waits for stands before some of its tasks: these have not reported, and they
    are all that is waited for. -/
structure StandsAt (s : Session) (run : Nat) (r : Run) (before rest : List Task) : Prop where
  run : s.runs[run]? = some r
  tasks : r.tasks = before ++ rest
  remaining : r.countdown.remaining = rest.length
  waits : ∀ t ∈ rest, t.outcome = none
  loop : r.loop = none

/-- What a run of tasks with verdicts leaves of a session: nothing has changed of it but its runs
    and its results. -/
structure Untouched (s s' : Session) : Prop extends Same s s' where
  separator : s'.separator = s.separator

theorem Untouched.refl (s : Session) : Untouched s s := ⟨⟨rfl, rfl, rfl, rfl, rfl, rfl⟩, rfl⟩

theorem Untouched.trans {s s' s'' : Session} (h : Untouched s s') (h' : Untouched s' s'') :
    Untouched s s'' :=
  ⟨h.toSame.trans h'.toSame, h'.separator.trans h.separator⟩

theorem untouched_beginTask (s : Session) (run : Nat) : Untouched s (s.beginTask run) :=
  ⟨⟨rfl, rfl, rfl, rfl, rfl, rfl⟩, rfl⟩

/-- The result of a run whose tasks are these. -/
def resultOf (s : Session) (run : Nat) (record : Nat) (tasks : List Task) : Received :=
  ⟨⟨errorsIn s.separator tasks, record, some run⟩, decide (record = s.current)⟩

section Perform

variable {s : Session} {run : Nat} {r : Run} {before rest : List Task} {t : Task}

theorem StandsAt.beginTask (h : s.StandsAt run r before rest) :
    (s.beginTask run).StandsAt run r.beginNext before rest :=
  ⟨by simp [Session.beginTask, h.run], h.tasks, h.remaining, h.waits, h.loop⟩

/-- The next report of a run settles its task, and the last one hands over the result. -/
theorem run_report_of_standsAt (passed : Bool) (h : s.StandsAt run r before (t :: rest)) :
    ∃ s' r', (report ⟨run, before.length⟩ passed).run s =
        (told (t.judge s.templates passed).2, s') ∧
      s'.StandsAt run r' (before ++ [t.reported s.templates passed]) rest ∧
      r'.record = r.record ∧ Untouched s s' ∧
      s'.received = s.received ++ if rest = [] then
        [s.resultOf run r.record (before ++ [t.reported s.templates passed])] else [] := by
  have ht : r.tasks[before.length]? = some t := by
    rw [h.tasks, List.getElem?_append_right (Nat.le_refl _), Nat.sub_self, List.getElem?_cons_zero]
  have hlength := h.remaining
  rw [List.length_cons] at hlength
  obtain ⟨c, hc, hreport⟩ := Run.report_of_isNone s.templates passed ht
    (h.waits t List.mem_cons_self) (by omega)
  have hset : r.tasks.set before.length (t.reported s.templates passed) =
      (before ++ [t.reported s.templates passed]) ++ rest := by
    rw [h.tasks, List.set_append_right _ _ (Nat.le_refl _), Nat.sub_self, List.set_cons_zero,
      List.append_assoc, List.singleton_append]
  change r.report s.templates before.length passed =
    .ok ({ r with tasks := r.tasks.set before.length (t.reported s.templates passed),
                  countdown := c }, _, _) at hreport
  rw [hset] at hreport
  generalize hr' : ({ r with tasks := _, countdown := c } : Run) = r' at hreport
  have hstands : ∀ s' : Session, s'.runs = s.runs.set run r' →
      s'.StandsAt run r' (before ++ [t.reported s.templates passed]) rest := by
    intro s' hruns
    subst hr'
    refine ⟨?_, rfl, by simp only; omega, fun u hu => h.waits u (List.mem_cons_of_mem _ hu), h.loop⟩
    rw [hruns, List.getElem?_set_self (List.getElem?_eq_some_iff.1 h.run).1]
  have hrecord : r'.record = r.record := by rw [← hr']
  by_cases hlast : rest = []
  · have hzero : c.remaining = 0 := by
      rw [hlast, List.length_nil] at hlength
      omega
    have hresult : (⟨r'.errors s.separator, r'.record, some run⟩ : Delivery) =
        (s.resultOf run r.record (before ++ [t.reported s.templates passed])).toDelivery := by
      rw [Run.errors_eq, hrecord, ← hr', hlast, List.append_nil]
      rfl
    refine ⟨{ s with
      runs := s.runs.set run r'
      delivered := s.delivered ++ [⟨r'.errors s.separator, r'.record, some run⟩]
      received := s.received ++
        [s.resultOf run r.record (before ++ [t.reported s.templates passed])] }, r', ?_,
      hstands _ rfl, hrecord, ⟨⟨rfl, rfl, rfl, rfl, rfl, rfl⟩, rfl⟩, by rw [if_pos hlast]⟩
    have hloop : r'.loop = none := by rw [← hr']; exact h.loop
    rw [run_report]
    simp only [h.run, hreport, hzero, decide_true, if_true]
    rw [run_bind, hloop, run_deliver_none, hresult]
    simp only
    cases (t.judge s.templates passed).2 <;> rfl
  · have hmore : c.remaining ≠ 0 := by
      have := List.length_pos_iff.2 hlast
      omega
    refine ⟨{ s with runs := s.runs.set run r' }, r', ?_, hstands _ rfl, hrecord,
      ⟨⟨rfl, rfl, rfl, rfl, rfl, rfl⟩, rfl⟩, by rw [if_neg hlast, List.append_nil]⟩
    rw [run_report]
    simp only [h.run, hreport, hmore, decide_false]
    cases (t.judge s.templates passed).2 <;> rfl

/-- A task with a verdict is begun and settled. -/
theorem run_perform_of_verdict {record : Nat} {passed : Bool}
    (h : s.StandsAt run r before (t :: rest))
    (hd : Decides s.registry s.today (s.recordAt record) t (.ok passed)) :
    ∃ s' r', (perform ⟨run, before.length⟩ record t).run s =
        (told (t.judge s.templates passed).2, s') ∧
      s'.StandsAt run r' (before ++ [t.reported s.templates passed]) rest ∧
      r'.record = r.record ∧ Untouched s s' ∧
      s'.received = s.received ++ if rest = [] then
        [s.resultOf run r.record (before ++ [t.reported s.templates passed])] else [] := by
  obtain ⟨s', r', hreport, hstands, hrecord, hsame, hreceived⟩ :=
    run_report_of_standsAt passed h.beginTask
  refine ⟨s', r', ?_, hstands, hrecord, (untouched_beginTask s run).trans hsame, hreceived⟩
  cases hd with
  | verdict hvalue hactions =>
    rw [run_perform _ hvalue hactions]
    show (report ⟨run, before.length⟩ passed >>= fun _ => (pure () : SessionM Unit)).run _ = _
    rw [bind_pure_unit]
    exact hreport

theorem run_perform_of_fault {record : Nat} {fault : Fault}
    (hd : Decides s.registry s.today (s.recordAt record) t (.error fault)) (ref : TaskRef) :
    (perform ref record t).run s = (.error fault, s.beginTask ref.run) := by
  cases hd with
  | fault hvalue hactions =>
    rw [run_perform ref hvalue hactions]
    rfl

end Perform

/-- Tasks with known verdicts are settled one after the other, and the last one of the run hands
    over the result. -/
theorem performAll_decided {s : Session} {run : Nat} {r : Run} {before tasks : List Task}
    {verdict : Task → Except Fault Bool} (h : s.StandsAt run r before tasks) (record : Nat)
    (hd : ∀ t ∈ tasks, Decides s.registry s.today (s.recordAt record) t (verdict t)) :
    ∃ s', (performAll run record tasks before.length).run s =
        ((settleAll s.templates verdict tasks).1, s') ∧ Untouched s s' ∧
      s'.received = s.received ++
        if tasks ≠ [] ∧ areSettled (settleAll s.templates verdict tasks).2 = true then
          [s.resultOf run r.record (before ++ (settleAll s.templates verdict tasks).2)]
        else [] := by
  induction tasks generalizing s r before with
  | nil => exact ⟨s, rfl, .refl s, by simp⟩
  | cons t rest ih =>
    obtain ⟨hfirst, hrest⟩ := List.forall_mem_cons.1 hd
    obtain ⟨-, hwaits⟩ := List.forall_mem_cons.1 h.waits
    cases hv : verdict t with
    | error fault =>
      rw [hv] at hfirst
      refine ⟨s.beginTask run, ?_, untouched_beginTask s run, ?_⟩
      · rw [performAll, run_bind, run_perform_of_fault hfirst, settleAll_of_error hv]
      · have hopen : areSettled (t :: rest) = false :=
          areSettled_eq_false h.waits (List.cons_ne_nil t rest)
        rw [settleAll_of_error hv, hopen]
        simp [beginTask]
    | ok passed =>
      rw [hv] at hfirst
      obtain ⟨s₁, r₁, hperform, hstands, hrecord, hsame, hreceived⟩ :=
        run_perform_of_verdict h hfirst
      cases hjudge : (t.judge s.templates passed).2 with
      | some fault =>
        rw [hjudge] at hperform
        refine ⟨s₁, ?_, hsame, ?_⟩
        · rw [performAll, run_bind, hperform, settleAll_of_judge_some hv hjudge]
          rfl
        · rw [hreceived, settleAll_of_judge_some hv hjudge, areSettled_cons]
          by_cases hlast : rest = []
          · subst hlast
            simp [areSettled, Task.reported]
          · rw [areSettled_eq_false hwaits hlast]
            simp [hlast]
      | none =>
        rw [hjudge] at hperform
        have hrest' : ∀ u ∈ rest,
            Decides s₁.registry s₁.today (s₁.recordAt record) u (verdict u) := by
          unfold recordAt
          rw [hsame.today, hsame.registry, hsame.records]
          exact hrest
        obtain ⟨s', hrun, hsame', hreceived'⟩ := ih hstands hrest'
        rw [List.length_append, List.length_singleton] at hrun
        rw [hsame.templates] at hrun hreceived'
        refine ⟨s', ?_, hsame.trans hsame', ?_⟩
        · rw [performAll, run_bind, hperform, settleAll_of_judge_none hv hjudge]
          exact hrun
        · rw [hreceived', hreceived, settleAll_of_judge_none hv hjudge, areSettled_cons]
          by_cases hlast : rest = []
          · subst hlast
            simp [settleAll, areSettled, Task.reported]
          · have hcurrent := hsame.current
            have hseparator := hsame.separator
            simp [hlast, resultOf, Task.reported, hcurrent, hseparator, hrecord]

/-- A run of tasks with known verdicts settles them one after the other, and hands over its result
    if all of them are settled. -/
theorem run_of_decided {s : Session} {verdict : Task → Except Fault Bool}
    (hd : ∀ t ∈ s.tasks, Decides s.registry s.today s.record t (verdict t)) :
    ∃ s' number, (run none).run s = ((settleAll s.templates verdict s.tasks).1, s') ∧
      Untouched s s' ∧ s'.received = s.received ++
        if areSettled (settleAll s.templates verdict s.tasks).2 then
          [⟨⟨errorsIn s.separator (settleAll s.templates verdict s.tasks).2, s.current, number⟩,
            true⟩]
        else [] := by
  rcases hc : Countdown.start s.tasks.length with fault | countdown
  · obtain ⟨hnil, hrun⟩ := run_of_start_error none hc
    rw [hrun, run_deliver_none, hnil]
    refine ⟨_, none, rfl, ⟨⟨rfl, rfl, rfl, rfl, rfl, rfl⟩, rfl⟩, ?_⟩
    simp [settleAll, areSettled, errorsIn, errorsOf]
  · obtain ⟨hpos, hremaining⟩ := Countdown.start_eq_ok hc
    have hne : s.tasks ≠ [] := by
      rintro hnil
      rw [hnil] at hpos
      cases hpos
    have hstands : (s.openRun countdown none).StandsAt s.runs.length
        ⟨s.tasks, s.current, countdown, 0, none⟩ [] s.tasks :=
      ⟨by simp [openRun], rfl, by simp only; omega, fun t ht => outcome_of_mem_tasks ht, rfl⟩
    obtain ⟨s', hrun, hsame, hreceived⟩ :=
      performAll_decided hstands s.current hd
    have htemplates : (s.openRun countdown none).templates = s.templates := rfl
    rw [htemplates] at hrun hreceived
    have hopen : Untouched s (s.openRun countdown none) := ⟨⟨rfl, rfl, rfl, rfl, rfl, rfl⟩, rfl⟩
    refine ⟨s', some s.runs.length, ?_, hopen.trans hsame, ?_⟩
    · rw [run_of_start none hc]
      exact hrun
    · rw [hreceived]
      simp only [hne, ne_eq, not_false_eq_true, true_and, List.nil_append, resultOf, openRun,
        decide_true]

end Session

end FieldRules
