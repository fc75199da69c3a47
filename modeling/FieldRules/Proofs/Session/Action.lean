import FieldRules.Proofs.Action
import FieldRules.Session.Loop

/-!
# What an action leaves behind

An action on a session ends with a value or a fault, and what it did before a fault stays done. The
lemmas here say how actions are put together, and what handing over a result and taking a report
leave of a session.

Results:
* `delivered_deliver`: handing over a result adds it to those delivered.
* `run_report_of_isSome`: a second report of a task is refused, and the session stays as it is.
* `accepts_report`: the first report of a task settles it, and only the last report of a run hands
  over a result.
-/

namespace FieldRules

/-! ## Reports of a run -/

/-- The first report of a task is accepted as long as reports are waited for. -/
theorem Run.report_of_isNone {r : Run} {i : Nat} {t : Task} (templates : MessageTable)
    (passed : Bool) (ht : r.tasks[i]? = some t) (hn : t.outcome = none)
    (hpos : 0 < r.countdown.remaining) :
    ∃ c : Countdown, c.remaining + 1 = r.countdown.remaining ∧
      r.report templates i passed =
        .ok ({ r with
                tasks := r.tasks.set i { t with outcome := some (t.judge templates passed).1 }
                countdown := c },
          decide (c.remaining = 0), (t.judge templates passed).2) := by
  have harr : ∃ c last, r.countdown.arrive = .ok (c, last) := by
    unfold Countdown.arrive
    rw [if_neg (by omega)]
    exact ⟨_, _, rfl⟩
  obtain ⟨c, last, harr⟩ := harr
  obtain ⟨hrem, -, hlast⟩ := Countdown.remaining_of_arrive harr
  refine ⟨c, hrem.symm, ?_⟩
  have hdec : last = decide (c.remaining = 0) := by
    rw [Bool.eq_iff_iff, hlast, decide_eq_true_eq]
  unfold Run.report
  rw [ht]
  simp only [hn, Option.isSome_none, Bool.false_eq_true, if_false, harr, hdec]
  rfl

/-- What a run with some number has handed over: its result, if no report is waited for. -/
def Run.results (r : Run) (separator : String) (number : Nat) : List Delivery :=
  if r.countdown.remaining = 0 then [⟨r.errors separator, r.record, some number⟩] else []

theorem Run.filter_results_self (r : Run) (separator : String) (number : Nat) :
    (r.results separator number).filter (fun d => d.run = some number) =
      r.results separator number := by
  unfold results
  split <;> simp

theorem Run.filter_results_ne (r : Run) (separator : String) {number other : Nat}
    (h : number ≠ other) :
    (r.results separator number).filter (fun d => d.run = some other) = [] := by
  unfold results
  split <;> simp [h]

namespace Session

/-! ## Sequences of actions -/

section Sequence

variable {α β : Type}

theorem run_get (s : Session) : (get : SessionM Session).run s = (.ok s, s) := rfl

theorem run_become (s s' : Session) : (become s').run s = (.ok (), s') := rfl

theorem run_modify (f : Session → Session) (s : Session) :
    (modify f : SessionM Unit).run s = (.ok (), f s) := rfl

theorem run_throw (fault : Fault) (s : Session) :
    (throw fault : SessionM α).run s = (.error fault, s) := rfl

/-- A sequence goes on from what an action left that succeeded. -/
theorem run_bind_of_ok {action : SessionM α} {next : α → SessionM β} {a : α} {s : Session}
    (h : (action.run s).1 = .ok a) :
    (action >>= next).run s = (next a).run (s.after action) := by
  rw [run_bind]
  unfold after
  rcases hrun : action.run s with ⟨fault | b, s'⟩
  · rw [hrun] at h
    cases h
  · rw [hrun] at h
    cases h
    rfl

end Sequence

end Session

/-! ## Who holds a report -/

/-- The tasks that a piece of work can report for. -/
def Job.refs : Job → List TaskRef
  | .step ref _ _ => [ref]
  | .settle ref _ => [ref]
  | .resolve _ => []
  | .wake _ => []

namespace Session

/-- The work of a session's loop. -/
def jobs (s : Session) : List Job := s.loop.toList.flatMap (·.jobs)

/-- The tasks that can report later: those that kept their reports, and those in the work of the
    loop. -/
def held (s : Session) : List TaskRef := s.kept.filterMap id ++ s.jobs.flatMap Job.refs

theorem mem_held {s : Session} {ref : TaskRef} :
    ref ∈ s.held ↔ some ref ∈ s.kept ∨ ∃ job ∈ s.jobs, ref ∈ job.refs := by
  simp [held]

/-- What reports leave alone, whatever they deliver. -/
structure Aside (s s' : Session) : Prop where
  separator : s'.separator = s.separator
  fields : s'.fields = s.fields
  held : ∀ ref ∈ s'.held, ref ∈ s.held

theorem Aside.refl (s : Session) : Aside s s := ⟨rfl, rfl, fun _ h => h⟩

/-! ## Handing over a result -/

section Deliver

variable (s : Session) (result : Delivery) (loop : Option Nat)

/-- Handing over a result does nothing but that: it changes the list of results, and what the
    receiver gets. -/
theorem after_deliver :
    ∃ received loop', s.after (deliver result loop) =
        { s with delivered := s.delivered ++ [result], received := received, loop := loop' } ∧
      ∀ job ∈ loop'.toList.flatMap (·.jobs), job ∈ s.jobs ∨ job = .resolve result := by
  unfold after deliver
  rw [run_bind, run_modify]
  simp only
  rw [run_bind, run_get]
  cases loop with
  | none => exact ⟨_, s.loop, rfl, fun job hj => .inl hj⟩
  | some number =>
    cases hl : s.loop with
    | none => exact ⟨s.received, none, by simp [run_throw, ← hl], by simp⟩
    | some l =>
      by_cases hn : l.number = number
      · refine ⟨s.received, some { l with jobs := l.jobs ++ [.resolve result] }, ?_, ?_⟩
        · simp [hn, run_become]
        · intro job hj
          simpa [jobs, hl] using hj
      · refine ⟨s.received, some l, by simp [hn, run_throw, ← hl], ?_⟩
        intro job hj
        exact .inl (by simpa [jobs, hl] using hj)

@[simp] theorem runs_deliver : (s.after (deliver result loop)).runs = s.runs := by
  obtain ⟨_, _, h, -⟩ := after_deliver s result loop
  rw [h]

/-- Handing over a result adds it to those delivered. -/
@[simp] theorem delivered_deliver :
    (s.after (deliver result loop)).delivered = s.delivered ++ [result] := by
  obtain ⟨_, _, h, -⟩ := after_deliver s result loop
  rw [h]

theorem aside_deliver : Aside s (s.after (deliver result loop)) := by
  obtain ⟨received, loop', h, hjobs⟩ := after_deliver s result loop
  rw [h]
  refine ⟨rfl, rfl, fun ref href => ?_⟩
  rw [mem_held] at href ⊢
  rcases href with hk | ⟨job, hj, hr⟩
  · exact .inl hk
  · rcases hjobs job hj with hj | rfl
    · exact .inr ⟨job, hj, hr⟩
    · simp [Job.refs] at hr

end Deliver

/-! ## Taking a report -/

/-- What taking a report does, read off the run that it is about. -/
theorem run_report (s : Session) (ref : TaskRef) (passed : Bool) :
    (report ref passed).run s =
      match s.runs[ref.run]? with
      | none => (.error .noSuchReport, s)
      | some r =>
        match r.report s.templates ref.task passed with
        | .error fault => (.error fault, s)
        | .ok (r', last, fault) =>
          (do
            if last then deliver ⟨r'.errors s.separator, r'.record, some ref.run⟩ r'.loop
            match fault with
            | some fault => throw fault
            | none => return () : SessionM Unit).run { s with runs := s.runs.set ref.run r' } := by
  unfold report
  rw [run_bind, run_get]
  simp only
  cases s.runs[ref.run]? with
  | none => rfl
  | some r =>
    simp only
    rw [run_bind]
    rcases h : r.report s.templates ref.task passed with _ | ⟨r', last, fault⟩ <;> rfl

/-- A second report of a task is refused, and the session stays as it is. -/
theorem run_report_of_isSome {s : Session} {ref : TaskRef} {r : Run} {t : Task} (passed : Bool)
    (hr : s.runs[ref.run]? = some r) (ht : r.tasks[ref.task]? = some t)
    (h : t.outcome.isSome = true) :
    (report ref passed).run s = (.error (.reportedTwice t.rule t.field), s) := by
  rw [run_report, hr]
  simp only
  rw [Run.report_eq_error_of_reported ht h]

theorem after_report_of_error {s : Session} {ref : TaskRef} {passed : Bool} {r : Run}
    {fault : Fault} (hr : s.runs[ref.run]? = some r)
    (h : r.report s.templates ref.task passed = .error fault) :
    s.after (report ref passed) = s := by
  unfold after
  rw [run_report, hr]
  simp only
  rw [h]

/-- What an accepted report leaves is there before the reporter is told of a fault. -/
theorem after_report_of_ok {s : Session} {ref : TaskRef} {passed last : Bool} {r r' : Run}
    {fault : Option Fault} (hr : s.runs[ref.run]? = some r)
    (h : r.report s.templates ref.task passed = .ok (r', last, fault)) :
    s.after (report ref passed) =
      if last then
        ({ s with runs := s.runs.set ref.run r' } : Session).after
          (deliver ⟨r'.errors s.separator, r'.record, some ref.run⟩ r'.loop)
      else { s with runs := s.runs.set ref.run r' } := by
  unfold after
  rw [run_report, hr]
  simp only
  rw [h]
  simp only
  cases last with
  | false => cases fault <;> rfl
  | true =>
    simp only [if_true]
    rw [run_bind]
    rcases (deliver _ _).run _ with ⟨_ | _, _⟩
    · rfl
    · cases fault <;> rfl

/-- What an accepted report of a task does: it settles the task and takes one off the countdown of
    its run, and only the last one of the run hands over a result. -/
structure Accepts (s s' : Session) (ref : TaskRef) (passed : Bool) (r r' : Run) (t : Task) :
    Prop where
  remaining : r'.countdown.remaining + 1 = r.countdown.remaining
  tasks : r'.tasks = r.tasks.set ref.task
    { t with outcome := some (t.judge s.templates passed).1 }
  begun : r'.begun = r.begun
  runs : s'.runs = s.runs.set ref.run r'
  delivered : s'.delivered = s.delivered ++ r'.results s.separator ref.run
  aside : Aside s s'

/-- The first report of a task is accepted as long as reports are waited for. -/
theorem accepts_report {s : Session} {ref : TaskRef} {r : Run} {t : Task} (passed : Bool)
    (hr : s.runs[ref.run]? = some r) (ht : r.tasks[ref.task]? = some t) (hn : t.outcome = none)
    (hpos : 0 < r.countdown.remaining) :
    ∃ r', Accepts s (s.after (report ref passed)) ref passed r r' t := by
  obtain ⟨c, hrem, hrep⟩ := Run.report_of_isNone s.templates passed ht hn hpos
  rw [after_report_of_ok hr hrep]
  refine ⟨{ r with
    tasks := r.tasks.set ref.task { t with outcome := some (t.judge s.templates passed).1 }
    countdown := c }, hrem, rfl, rfl, ?_, ?_, ?_⟩
  · split <;> simp
  · by_cases hc : c.remaining = 0 <;> simp [Run.results, hc]
  · split
    · obtain ⟨hseparator, hfields, hheld⟩ := aside_deliver _ _ _
      exact ⟨hseparator, hfields, hheld⟩
    · exact ⟨rfl, rfl, fun _ h => h⟩

end Session

end FieldRules
