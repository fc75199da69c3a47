import FieldRules.Proofs.Session.Order
import Mathlib.Algebra.GroupWithZero.Nat

/-!
# Waiting for the reports of a run

While a loop waits for a run, each task of the run has been settled by its verdict or has not
reported yet. With the last report the result comes into the work of the loop, is handed over, and
ends the waiting. Each piece of work brings the loop nearer to having no work, whichever is done
next; and what is reported in other runs does not touch the loop.

Results:
* `Waits.report`: what a report of the run does.
* `Waits.work`: what a piece of work does, whichever is taken.
* `Waits.complete`: what the completion of a kept report does.
-/

namespace FieldRules

/-- A piece of work that carries a result. -/
def Job.carries : Job → Bool
  | .resolve _ | .wake _ => true
  | .step _ _ _ | .settle _ _ => false

/-- How many pieces of work a piece of work stands for, with those that come of it. -/
def Job.weight : Job → Nat
  | .step _ yields _ => yields + 2
  | .settle _ _ => 1
  | .resolve _ => 2
  | .wake _ => 1

/-- A piece of work is about a task of a run with so many tasks, and reports its verdict. -/
def Job.Fits (run count : Nat) (verdict : Nat → Bool) : Job → Prop
  | .step ref _ v => ref.run = run ∧ ref.task < count ∧ v.getD false = verdict ref.task
  | .settle ref passed => ref.run = run ∧ ref.task < count ∧ passed = verdict ref.task
  | .resolve _ | .wake _ => True

/-- How far the result of a run has come, told by the work that carries a result, by whether a
    result was handed over, and by the result that the waiting ended with. -/
inductive Handover (result : Delivery) (isOver : Prop) : List Job → Bool → Option Delivery → Prop
  | waiting (h : ¬ isOver) : Handover result isOver [] false none
  | delivered (h : isOver) : Handover result isOver [.resolve result] false none
  | handed (h : isOver) : Handover result isOver [.wake result] true none
  | ended (h : isOver) : Handover result isOver [] true (some result)

theorem Handover.of_not {result : Delivery} {isOver : Prop} {jobs : List Job} {handed : Bool}
    {ended : Option Delivery} (h : Handover result isOver jobs handed ended) (hnot : ¬ isOver) :
    jobs = [] ∧ handed = false ∧ ended = none := by
  cases h with
  | waiting => exact ⟨rfl, rfl, rfl⟩
  | delivered h | handed h | ended h => exact absurd h hnot

section Handover

variable {result result' : Delivery} {isOver : Prop} {before rest : List Job} {handed : Bool}
  {ended : Option Delivery}

theorem Handover.of_resolve
    (h : Handover result isOver (before ++ (Job.resolve result' :: rest).filter Job.carries)
      handed ended) :
    before = [] ∧ rest.filter Job.carries = [] ∧ result' = result ∧ isOver ∧ handed = false ∧
      ended = none := by
  rw [List.filter_cons_of_pos rfl] at h
  generalize hjobs : before ++ Job.resolve result' :: rest.filter Job.carries = jobs at h
  cases h with
  | waiting | ended => simp at hjobs
  | delivered h =>
    have hsplit := List.append_eq_singleton_iff.1 hjobs
    simp_all
  | handed h =>
    have hsplit := List.append_eq_singleton_iff.1 hjobs
    simp at hsplit

theorem Handover.of_wake
    (h : Handover result isOver (before ++ (Job.wake result' :: rest).filter Job.carries)
      handed ended) :
    before = [] ∧ rest.filter Job.carries = [] ∧ result' = result ∧ isOver ∧ handed = true ∧
      ended = none := by
  rw [List.filter_cons_of_pos rfl] at h
  generalize hjobs : before ++ Job.wake result' :: rest.filter Job.carries = jobs at h
  cases h with
  | waiting | ended => simp at hjobs
  | delivered h =>
    have hsplit := List.append_eq_singleton_iff.1 hjobs
    simp at hsplit
  | handed h =>
    have hsplit := List.append_eq_singleton_iff.1 hjobs
    simp_all

end Handover

theorem Task.judge_of_format {t : Task} {templates : MessageTable} {message : Task → String}
    (h : templates.format t.rule t.friendly (t.shown.map .text) = .ok (message t))
    (passed : Bool) :
    t.settled message passed = { t with outcome := some (t.judge templates passed).1 } ∧
      (t.judge templates passed).2 = none := by
  unfold judge settled
  rw [h]
  cases passed <;> exact ⟨rfl, rfl⟩

namespace Session

/-! ## What is waited for -/

section Awaited

variable (s : Session) (message : Task → String) (verdict done : Nat → Bool)

/-- The result that who waits for a run of the session should get. -/
def awaitedResult : Delivery :=
  ⟨s.expected message verdict, s.current, if s.tasks = [] then none else some s.runs.length⟩

/-- The tasks of the session's rules, those that are done settled by their verdicts. -/
def tasksAfter : List Task :=
  s.tasks.mapIdx fun i t => if done i then t.settled message (verdict i) else t

/-- The run that is waited for, when some of its tasks are done. -/
structure IsAwaited (r : Run) : Prop where
  tasks : r.tasks = s.tasksAfter message verdict done
  record : r.record = s.current
  loop : r.loop = some s.loops
  remaining : r.countdown.remaining = r.tasks.countP (·.outcome.isNone)

/-- All tasks are done. -/
def IsOver : Prop := ∀ i < s.tasks.length, done i = true

/-- A loop waits for a run of the session that was taken up in the state `s`. -/
structure Waits (u : Session) (l : Loop) : Prop where
  templates : u.templates = s.templates
  separator : u.separator = s.separator
  run : ∀ r, u.runs[s.runs.length]? = some r → s.IsAwaited message verdict done r
  hasRun : s.tasks ≠ [] → s.runs.length < u.runs.length
  others : ∀ n r, u.runs[n]? = some r → n ≠ s.runs.length → r.loop ≠ some s.loops
  kept : ∀ i, some ⟨s.runs.length, i⟩ ∈ u.kept → i < s.tasks.length
  loop : u.loop = some l
  number : l.number = s.loops
  fits : ∀ job ∈ l.jobs, job.Fits s.runs.length s.tasks.length verdict
  handover : Handover (s.awaitedResult message verdict) (s.IsOver done)
    (l.jobs.filter Job.carries) l.handed l.result

/-- Every task that is not done can report later. -/
def AllLive (u : Session) : Prop :=
  ∀ i < s.tasks.length, done i = false → ⟨s.runs.length, i⟩ ∈ u.held

open Classical in
/-- How many pieces of work a loop can do at most, if nobody completes a report. -/
noncomputable def weight (l : Loop) : Nat :=
  (l.jobs.map Job.weight).sum + if s.IsOver done then 0 else 2

end Awaited

variable {s u : Session} {message : Task → String} {verdict done : Nat → Bool} {l : Loop}

/-! ## Tasks that are done -/

theorem getElem?_tasksAfter (s : Session) (message : Task → String) (verdict done : Nat → Bool)
    (i : Nat) :
    (s.tasksAfter message verdict done)[i]? =
      s.tasks[i]?.map fun t => if done i then t.settled message (verdict i) else t := by
  simp [tasksAfter, List.getElem?_mapIdx]

theorem isNone_outcome_tasksAfter {i : Nat} {t : Task}
    (ht : (s.tasksAfter message verdict done)[i]? = some t) :
    t.outcome.isNone = !done i := by
  rw [getElem?_tasksAfter] at ht
  obtain ⟨t', ht', rfl⟩ := Option.map_eq_some_iff.1 ht
  cases done i with
  | true => rfl
  | false => simp [outcome_of_mem_tasks (List.mem_of_getElem? ht')]

/-- No task is without an outcome just when all are done. -/
theorem countP_tasksAfter_eq_zero_iff :
    (s.tasksAfter message verdict done).countP (·.outcome.isNone) = 0 ↔ s.IsOver done := by
  have hlen : (s.tasksAfter message verdict done).length = s.tasks.length := by simp [tasksAfter]
  rw [List.countP_eq_zero]
  constructor
  · intro hall i hi
    have := hall _ (List.getElem_mem (hlen ▸ hi))
    rw [isNone_outcome_tasksAfter (List.getElem?_eq_getElem _)] at this
    simpa using this
  · intro hall t ht
    obtain ⟨i, hi, rfl⟩ := List.getElem_of_mem ht
    rw [isNone_outcome_tasksAfter (List.getElem?_eq_getElem hi), hall i (hlen ▸ hi)]
    simp

theorem tasksAfter_update {i : Nat} (hi : i < s.tasks.length) :
    s.tasksAfter message verdict (Function.update done i true) =
      (s.tasksAfter message verdict done).set i (s.tasks[i].settled message (verdict i)) := by
  apply List.ext_getElem?
  intro j
  rw [List.getElem?_set, getElem?_tasksAfter, getElem?_tasksAfter]
  by_cases hij : i = j
  · subst hij
    simp [tasksAfter, hi]
  · simp [hij, Function.update_of_ne (Ne.symm hij)]

theorem tasksAfter_of_isOver (h : s.IsOver done) :
    s.tasksAfter message verdict done =
      s.tasks.mapIdx fun i t => t.settled message (verdict i) := by
  apply List.ext_getElem?
  intro i
  rw [getElem?_tasksAfter, List.getElem?_mapIdx]
  by_cases hi : i < s.tasks.length
  · simp [hi, h i hi]
  · simp [hi]

theorem IsAwaited.result {r : Run} (hr : s.IsAwaited message verdict done r)
    (hnd : s.fields.keys.Nodup) (hne : s.tasks ≠ []) (hover : s.IsOver done) :
    (⟨r.errors s.separator, r.record, some s.runs.length⟩ : Delivery) =
      s.awaitedResult message verdict := by
  have herrors := errors_settled hnd (hr.tasks.trans (tasksAfter_of_isOver hover))
  rw [awaitedResult, if_neg hne, herrors, hr.record]

theorem held_mono {u' : Session} {ref : TaskRef} (h : ref ∈ u.held)
    (hkept : ∀ ref ∈ u.kept, ref ∈ u'.kept) (hjobs : ∀ job ∈ u.jobs, job ∈ u'.jobs) :
    ref ∈ u'.held := by
  rw [mem_held] at h ⊢
  rcases h with hk | ⟨job, hj, href⟩
  · exact .inl (hkept _ hk)
  · exact .inr ⟨job, hjobs job hj, href⟩

/-! ## Results for the loop and for others -/

theorem run_deliver_self (hl : u.loop = some l) (result : Delivery) :
    (deliver result (some l.number)).run u =
      (.ok (), { u with
        delivered := u.delivered ++ [result]
        loop := some { l with jobs := l.jobs ++ [.resolve result] } }) := by
  unfold deliver
  rw [run_bind, run_modify]
  simp only
  rw [run_bind, run_get]
  simp only [hl, if_true]
  rfl

/-- A result for somebody else leaves the loop alone. -/
theorem after_deliver_ne (hl : u.loop = some l) (result : Delivery) {loop : Option Nat}
    (hne : loop ≠ some l.number) :
    ∃ received, u.after (deliver result loop) =
      { u with delivered := u.delivered ++ [result], received := received } := by
  unfold after deliver
  rw [run_bind, run_modify]
  simp only
  rw [run_bind, run_get]
  cases loop with
  | none => exact ⟨_, rfl⟩
  | some number =>
    have hnumber : l.number ≠ number := fun h => hne (congrArg some h.symm)
    exact ⟨u.received, by simp only [hl, if_neg hnumber]; rfl⟩

/-! ## Reports of other runs -/

/-- What is reported in another run does not touch the loop. -/
theorem Waits.report_other (h : s.Waits message verdict done u l) {ref : TaskRef}
    (hne : ref.run ≠ s.runs.length) (passed : Bool) :
    s.Waits message verdict done (u.after (report ref passed)) l ∧
      (u.after (report ref passed)).kept = u.kept := by
  cases hr : u.runs[ref.run]? with
  | none =>
    unfold after
    rw [run_report, hr]
    exact ⟨h, rfl⟩
  | some r =>
    rcases hrep : r.report u.templates ref.task passed with fault | ⟨r', last, fault⟩
    · rw [after_report_of_error hr hrep]
      exact ⟨h, rfl⟩
    · have hloop : r'.loop = r.loop := (Run.continues_of_report_eq_ok hrep).1.loop
      have hset : s.Waits message verdict done { u with runs := u.runs.set ref.run r' } l := by
        refine { h with run := ?_, hasRun := ?_, others := ?_ }
        · simpa [List.getElem?_set, hne] using h.run
        · simpa using h.hasRun
        · intro n q hq hn
          rw [List.getElem?_set] at hq
          split at hq
          · next heq =>
            split at hq
            · cases hq
              rw [hloop]
              exact h.others _ r hr hne
            · cases hq
          · exact h.others n q hq hn
      rw [after_report_of_ok hr hrep]
      split
      · have hself : r'.loop ≠ some l.number := by
          rw [hloop, h.number]
          exact h.others _ r hr hne
        obtain ⟨received, hdeliver⟩ := after_deliver_ne
          (u := { u with runs := u.runs.set ref.run r' }) h.loop
          ⟨r'.errors u.separator, r'.record, some ref.run⟩ hself
        rw [hdeliver]
        exact ⟨{ hset with }, rfl⟩
      · exact ⟨hset, rfl⟩

/-! ## Reports of the run -/

/-- From one state of waiting to another, by so many pieces of work: the kept reports stay, what is
    done stays done, whatever could report still can or is done, and so does the result of the
    loop. -/
structure Advances (s : Session) (message : Task → String) (verdict done : Nat → Bool)
    (u : Session) (l : Loop) (done' : Nat → Bool) (u' : Session) (l' : Loop) (count : Nat) :
    Prop where
  waits : s.Waits message verdict done' u' l'
  kept : u'.kept = u.kept
  stays : ∀ i, done i = true → done' i = true
  held : ∀ i, ⟨s.runs.length, i⟩ ∈ u.held → ⟨s.runs.length, i⟩ ∈ u'.held ∨ done' i = true
  weight : s.weight done' l' + count ≤ s.weight done l
  result : l.result.isSome = true → l'.result = l.result

theorem Waits.refl (h : s.Waits message verdict done u l) :
    s.Advances message verdict done u l done u l 0 :=
  ⟨h, rfl, fun _ => id, fun _ => .inl, Nat.le_refl _, fun _ => rfl⟩

theorem Advances.trans {done' done'' : Nat → Bool} {u' u'' : Session} {l' l'' : Loop}
    {count count' : Nat} (h : s.Advances message verdict done u l done' u' l' count)
    (h' : s.Advances message verdict done' u' l' done'' u'' l'' count') :
    s.Advances message verdict done u l done'' u'' l'' (count + count') := by
  refine ⟨h'.waits, h'.kept.trans h.kept, fun i hi => h'.stays i (h.stays i hi), fun i hi => ?_, ?_,
    fun hl => ?_⟩
  · rcases h.held i hi with hheld | hdone
    · exact h'.held i hheld
    · exact .inr (h'.stays i hdone)
  · have := h.weight
    have := h'.weight
    omega
  · have hl' := h.result hl
    rw [h'.result (hl' ▸ hl), hl']

theorem Advances.allLive {done' : Nat → Bool} {u' : Session} {l' : Loop} {count : Nat}
    (h : s.Advances message verdict done u l done' u' l' count) (hlive : s.AllLive done u) :
    s.AllLive done' u' := by
  intro i hi hdone'
  have hdone : done i = false := by
    rw [Bool.eq_false_iff] at hdone' ⊢
    exact fun h' => hdone' (h.stays i h')
  exact (h.held i (hlive i hi hdone)).resolve_right (Bool.eq_false_iff.1 hdone')

theorem Waits.of_loop (h : s.Waits message verdict done u l) {l' : Loop}
    (hnumber : l'.number = l.number)
    (hfits : ∀ job ∈ l'.jobs, job ∈ l.jobs ∨ job.Fits s.runs.length s.tasks.length verdict)
    (hhandover : Handover (s.awaitedResult message verdict) (s.IsOver done)
      (l'.jobs.filter Job.carries) l'.handed l'.result) :
    s.Waits message verdict done { u with loop := some l' } l' :=
  { h with
    loop := rfl
    number := hnumber.trans h.number
    fits := fun job hj => (hfits job hj).elim (h.fits job) id
    handover := hhandover }

theorem Waits.isSome_outcome (h : s.Waits message verdict done u l) {i : Nat}
    (hi : i < s.tasks.length) :
    ∃ r t, u.runs[s.runs.length]? = some r ∧ r.tasks[i]? = some t ∧
      t.outcome.isSome = done i := by
  have hne : s.tasks ≠ [] := List.ne_nil_of_length_pos (Nat.zero_lt_of_lt hi)
  have hr := List.getElem?_eq_getElem (h.hasRun hne)
  have hlen : i < (s.tasksAfter message verdict done).length := by simpa [tasksAfter] using hi
  refine ⟨_, (s.tasksAfter message verdict done)[i], hr, ?_, ?_⟩
  · rw [(h.run _ hr).tasks, List.getElem?_eq_getElem hlen]
  · rw [← Option.not_isNone, isNone_outcome_tasksAfter (List.getElem?_eq_getElem hlen),
      Bool.not_not]

/-- What becomes of the loop with a report, whether it was the last one or not. -/
theorem Waits.loop_of_report (h : s.Waits message verdict done u l) (hnot : ¬ s.IsOver done)
    {done' : Nat → Bool} {l' : Loop}
    (hl' : s.IsOver done' ∧
        l' = { l with jobs := l.jobs ++ [.resolve (s.awaitedResult message verdict)] } ∨
      ¬ s.IsOver done' ∧ l' = l) :
    l'.number = l.number ∧ (∀ job ∈ l.jobs, job ∈ l'.jobs) ∧
      (∀ job ∈ l'.jobs, job.Fits s.runs.length s.tasks.length verdict) ∧
      Handover (s.awaitedResult message verdict) (s.IsOver done')
        (l'.jobs.filter Job.carries) l'.handed l'.result ∧
      s.weight done' l' ≤ s.weight done l ∧ l'.result = l.result := by
  obtain ⟨hnone, hhanded, hended⟩ := h.handover.of_not hnot
  rcases hl' with ⟨hover, rfl⟩ | ⟨hover, rfl⟩
  · refine ⟨rfl, fun job => List.mem_append_left _, fun job hj => ?_, ?_, ?_, rfl⟩
    · rcases List.mem_append.1 hj with hj | hj
      · exact h.fits job hj
      · rw [List.mem_singleton.1 hj]
        trivial
    · rw [List.filter_append, hnone, hhanded, hended]
      exact .delivered hover
    · simp [weight, hover, hnot, Job.weight]
  · refine ⟨rfl, fun _ => id, h.fits, ?_, ?_, rfl⟩
    · rw [hnone, hhanded, hended]
      exact .waiting hover
    · simp [weight, hover, hnot]

section Reports

variable (hnd : s.fields.keys.Nodup)
  (hformat : ∀ t ∈ s.tasks,
    s.templates.format t.rule t.friendly (t.shown.map .text) = .ok (message t))

include hnd hformat

/-- A report of the run settles its task. With the last of them, the result becomes the last piece
    of work. -/
theorem Waits.run_report (h : s.Waits message verdict done u l) {i : Nat}
    (hi : i < s.tasks.length) (hdone : done i = false) :
    ∃ r' delivered l', (Session.report ⟨s.runs.length, i⟩ (verdict i)).run u =
        (.ok (), { u with
          runs := u.runs.set s.runs.length r', delivered := delivered, loop := some l' }) ∧
      s.IsAwaited message verdict (Function.update done i true) r' ∧
      (s.IsOver (Function.update done i true) ∧
          l' = { l with jobs := l.jobs ++ [.resolve (s.awaitedResult message verdict)] } ∨
        ¬ s.IsOver (Function.update done i true) ∧ l' = l) := by
  have hne : s.tasks ≠ [] := List.ne_nil_of_length_pos (Nat.zero_lt_of_lt hi)
  obtain ⟨r, hr⟩ : ∃ r, u.runs[s.runs.length]? = some r :=
    ⟨_, List.getElem?_eq_getElem (h.hasRun hne)⟩
  have hawaited := h.run r hr
  have hout : s.tasks[i].outcome = none := outcome_of_mem_tasks (List.getElem_mem hi)
  have ht : r.tasks[i]? = some s.tasks[i] := by
    rw [hawaited.tasks, getElem?_tasksAfter, List.getElem?_eq_getElem hi]
    simp [hdone]
  have hpos : 0 < r.countdown.remaining := by
    rw [hawaited.remaining, List.countP_pos_iff]
    exact ⟨_, List.mem_of_getElem? ht, by simp [hout]⟩
  obtain ⟨c, hc, hreport⟩ := Run.report_of_isNone u.templates (verdict i) ht hout hpos
  obtain ⟨hsettled, hfault⟩ :=
    Task.judge_of_format (hformat _ (List.getElem_mem hi)) (verdict i)
  rw [← h.templates] at hsettled hfault
  rw [hfault, ← hsettled] at hreport
  have hafter : s.IsAwaited message verdict (Function.update done i true)
      { r with
        tasks := r.tasks.set i (s.tasks[i].settled message (verdict i))
        countdown := c } := by
    refine ⟨?_, hawaited.record, hawaited.loop, ?_⟩
    · rw [tasksAfter_update hi, hawaited.tasks]
    · obtain ⟨hlt, hget⟩ := List.getElem?_eq_some_iff.1 ht
      have hrem := hawaited.remaining
      simp only [List.countP_set hlt, hget, hout, Task.settled]
      simp only [Option.isNone_none, Option.isNone_some, if_true, Bool.false_eq_true, if_false]
      omega
  have hover : c.remaining = 0 ↔ s.IsOver (Function.update done i true) := by
    have := hafter.remaining
    rw [hafter.tasks] at this
    rw [this, countP_tasksAfter_eq_zero_iff]
  have hresult := hafter.result hnd hne
  generalize { r with
    tasks := r.tasks.set i (s.tasks[i].settled message (verdict i))
    countdown := c } = r' at hreport hafter hresult
  refine ⟨r', ?_⟩
  rw [Session.run_report, hr]
  simp only
  rw [hreport]
  by_cases hlast : c.remaining = 0
  · have hloop : ({ u with runs := u.runs.set s.runs.length r' } : Session).loop = some l := h.loop
    refine ⟨u.delivered ++ [s.awaitedResult message verdict],
      { l with jobs := l.jobs ++ [.resolve (s.awaitedResult message verdict)] }, ?_, hafter,
      .inl ⟨hover.1 hlast, rfl⟩⟩
    simp only [hlast, decide_true, if_true]
    rw [run_bind, hafter.loop, ← h.number, run_deliver_self hloop, h.separator,
      hresult (hover.1 hlast)]
    rfl
  · refine ⟨u.delivered, l, ?_, hafter, .inr ⟨mt hover.2 hlast, rfl⟩⟩
    simp only [hlast, decide_false, Bool.false_eq_true, if_false, ← h.loop]
    rfl

/-- A report of the run settles its task, if that is not done. -/
theorem Waits.report (h : s.Waits message verdict done u l) {i : Nat} (hi : i < s.tasks.length)
    {passed : Bool} (hpassed : done i = true ∨ passed = verdict i) :
    ∃ done' l', s.Advances message verdict done u l done'
        (u.after (Session.report ⟨s.runs.length, i⟩ passed)) l' 0 ∧
      done' = Function.update done i true ∧
      (done i = false → ((Session.report ⟨s.runs.length, i⟩ passed).run u).1 = .ok ()) := by
  cases hdone : done i with
  | true =>
    obtain ⟨r, t, hr, ht, hout⟩ := h.isSome_outcome hi
    have hsame : (Session.report ⟨s.runs.length, i⟩ passed).run u =
        (.error (.reportedTwice t.rule t.field), u) :=
      run_report_of_isSome passed hr ht (hout.trans hdone)
    refine ⟨done, l, ?_, ?_, nofun⟩
    · unfold after
      rw [hsame]
      exact h.refl
    · rw [← hdone, Function.update_eq_self]
  | false =>
    obtain rfl : passed = verdict i := hpassed.resolve_left (by simp [hdone])
    obtain ⟨r', delivered, l', hrun, hawaited, hl'⟩ := h.run_report hnd hformat hi hdone
    have hnot : ¬ s.IsOver done := fun hover => by simp [hover i hi] at hdone
    refine ⟨Function.update done i true, l', ?_, rfl, fun _ => by rw [hrun]⟩
    obtain ⟨hnumber, hjobs, hfits, hhandover, hweight, hresult⟩ := h.loop_of_report hnot hl'
    unfold after
    rw [hrun]
    refine ⟨⟨h.templates, h.separator, fun r hr => ?_, fun hne => ?_, fun n r hr hn => ?_, h.kept,
      rfl, hnumber.trans h.number, hfits, hhandover⟩, rfl, fun j hj => ?_, fun j hj => ?_, hweight,
      fun _ => hresult⟩
    · obtain ⟨-, hr⟩ : s.runs.length < u.runs.length ∧ r' = r := by
        simpa [List.getElem?_set] using hr
      exact hr ▸ hawaited
    · simpa using h.hasRun hne
    · rw [List.getElem?_set_ne (Ne.symm hn)] at hr
      exact h.others n r hr hn
    · rcases eq_or_ne j i with rfl | hne
      · exact Function.update_self _ _ _
      · rwa [Function.update_of_ne hne]
    · refine .inl (held_mono hj (fun _ => id) fun job hjob => ?_)
      simpa [jobs] using hjobs job (by simpa [jobs, h.loop] using hjob)

end Reports

/-! ## Work -/

theorem weight_cons {before rest : List Job} {job : Job} (hj : l.jobs = before ++ job :: rest) :
    s.weight done { l with jobs := before ++ rest } + job.weight = s.weight done l := by
  simp only [weight, hj, List.map_append, List.map_cons, List.sum_append, List.sum_cons]
  omega

/-- Who can report when a piece of work is taken out of the loop. -/
theorem held_of_cons (hl : u.loop = some l) {before rest : List Job} {job : Job}
    (hj : l.jobs = before ++ job :: rest) {ref : TaskRef} (h : ref ∈ u.held) :
    ref ∈ job.refs ∨
      ref ∈ ({ u with loop := some { l with jobs := before ++ rest } } : Session).held := by
  rw [mem_held] at h ⊢
  rcases h with hk | ⟨job', hj', href⟩
  · exact .inr (.inl hk)
  · have hmem : job' ∈ before ++ job :: rest := by
      rw [← hj]
      simpa [jobs, hl] using hj'
    rcases List.mem_cons.1 (List.perm_middle.mem_iff.1 hmem) with rfl | hrest
    · exact .inl href
    · exact .inr (.inr ⟨job', by simpa [jobs] using hrest, href⟩)

/-- A piece of work that only leaves other work, for the same tasks, makes it less. -/
theorem Waits.relay (h : s.Waits message verdict done u l) {before rest : List Job} {job : Job}
    (hj : l.jobs = before ++ job :: rest) (next : List Job) {l' : Loop}
    (hjobs : l'.jobs = before ++ rest ++ next) (hnumber : l'.number = l.number)
    (hfits : ∀ job ∈ next, job.Fits s.runs.length s.tasks.length verdict)
    (hrefs : ∀ ref ∈ job.refs, ∃ job' ∈ next, ref ∈ job'.refs)
    (hhandover : Handover (s.awaitedResult message verdict) (s.IsOver done)
      (l'.jobs.filter Job.carries) l'.handed l'.result)
    (hweight : (next.map Job.weight).sum < job.weight)
    (hresult : l.result.isSome = true → l'.result = l.result) :
    s.Advances message verdict done u l done { u with loop := some l' } l' 1 := by
  have hnext : ∀ job' ∈ next, job' ∈ l'.jobs := fun job' hn => hjobs ▸ List.mem_append_right _ hn
  refine ⟨h.of_loop hnumber (fun job' hj' => ?_) hhandover, rfl, fun _ => id, fun i hi => .inl ?_,
    ?_, hresult⟩
  · rcases List.mem_append.1 (hjobs ▸ hj') with hold | hn
    · rw [hj]
      exact .inl (List.perm_middle.mem_iff.2 (List.mem_cons_of_mem _ hold))
    · exact .inr (hfits job' hn)
  · rw [mem_held]
    rcases held_of_cons h.loop hj hi with href | hheld
    · obtain ⟨job', hn, href⟩ := hrefs _ href
      exact .inr ⟨job', by simpa [jobs] using hnext job' hn, href⟩
    · refine mem_held.1 (held_mono hheld (fun _ => id) fun job' hj' => ?_)
      have hold : job' ∈ before ++ rest := by simpa [jobs] using hj'
      have hmem : job' ∈ l'.jobs := hjobs ▸ List.mem_append_left _ hold
      simpa [jobs] using hmem
  · have hcons : s.weight done { l with jobs := before ++ rest } + job.weight = s.weight done l :=
      weight_cons hj
    simp only [weight, hjobs, List.map_append, List.sum_append] at hcons ⊢
    omega

section Steps

variable {before rest : List Job}

theorem Waits.handover_append (h : s.Waits message verdict done u l)
    (hj : l.jobs = before ++ rest) :
    Handover (s.awaitedResult message verdict) (s.IsOver done)
      (before.filter Job.carries ++ rest.filter Job.carries) l.handed l.result := by
  rw [← List.filter_append, ← hj]
  exact h.handover

/-- A check that goes on leaves itself, or its report. -/
theorem Waits.work_step (h : s.Waits message verdict done u l) {ref : TaskRef} {yields : Nat}
    {v : Option Bool} (hj : l.jobs = before ++ .step ref yields v :: rest) :
    ∃ l', s.Advances message verdict done u l done
      (({ u with loop := some { l with jobs := before ++ rest } } : Session).after
        (doJob (.step ref yields v))) l' 1 := by
  obtain ⟨hrun, htask, hv⟩ :
      ref.run = s.runs.length ∧ ref.task < s.tasks.length ∧ v.getD false = verdict ref.task :=
    h.fits (.step ref yields v) (by simp [hj])
  have hhandover := h.handover_append hj
  obtain ⟨next, hdo, hnext, hfits, hcarries, hweight⟩ : ∃ next : Job,
      doJob (.step ref yields v) = leave next ∧ next.refs = [ref] ∧
      next.Fits s.runs.length s.tasks.length verdict ∧ next.carries = false ∧
      next.weight < (Job.step ref yields v).weight := by
    cases yields with
    | zero =>
      exact ⟨.settle ref (v.getD false), rfl, rfl, ⟨hrun, htask, hv⟩, rfl, Nat.lt_succ_self _⟩
    | succ yields =>
      exact ⟨.step ref yields v, rfl, rfl, ⟨hrun, htask, hv⟩, rfl, Nat.lt_succ_self _⟩
  rw [hdo]
  refine ⟨_, h.relay hj [next] rfl rfl ?_ ?_ ?_ ?_ fun _ => rfl⟩
  · simpa using hfits
  · exact fun ref' href => ⟨next, List.mem_singleton_self next, hnext ▸ href⟩
  · have hlast : [next].filter Job.carries = [] := by
      rw [List.filter_cons_of_neg (by simp [hcarries]), List.filter_nil]
    simpa [hlast, Job.carries] using hhandover
  · simpa using hweight

/-- The result is handed over to who waits. -/
theorem Waits.work_resolve (h : s.Waits message verdict done u l) {result : Delivery}
    (hj : l.jobs = before ++ .resolve result :: rest) :
    ∃ l', s.Advances message verdict done u l done
      (({ u with loop := some { l with jobs := before ++ rest } } : Session).after
        (doJob (.resolve result))) l' 1 := by
  obtain ⟨hb, hr, rfl, hover, hhanded, hended⟩ := (h.handover_append hj).of_resolve
  have hdo : (({ u with loop := some { l with jobs := before ++ rest } } : Session).after
      (doJob (.resolve (s.awaitedResult message verdict)))) =
      { u with loop := some { l with
          jobs := before ++ rest ++ [.wake (s.awaitedResult message verdict)]
          handed := true } } := by
    unfold after doJob
    rw [run_bind, run_get]
    simp only [Option.map_some, Option.getD_some, hhanded, Bool.false_eq_true, if_false]
    rfl
  rw [hdo]
  refine ⟨_, h.relay hj [.wake (s.awaitedResult message verdict)] rfl rfl ?_ ?_ ?_ ?_
    fun _ => rfl⟩
  · simp [Job.Fits]
  · simp [Job.refs]
  · simp only [List.filter_append, hb, hr, hended]
    exact .handed hover
  · simp [Job.weight]

/-- Who waits goes on with the result. -/
theorem Waits.work_wake (h : s.Waits message verdict done u l) {result : Delivery}
    (hj : l.jobs = before ++ .wake result :: rest) :
    ∃ l', s.Advances message verdict done u l done
      (({ u with loop := some { l with jobs := before ++ rest } } : Session).after
        (doJob (.wake result))) l' 1 := by
  obtain ⟨hb, hr, rfl, hover, hhanded, hended⟩ := (h.handover_append hj).of_wake
  refine ⟨_, h.relay hj [] (List.append_nil _).symm rfl ?_ ?_ ?_ ?_ ?_⟩
  · simp
  · simp [Job.refs]
  · simp only [List.filter_append, hb, hr, hhanded]
    exact .ended hover
  · simp [Job.weight]
  · simp [hended]

variable (hnd : s.fields.keys.Nodup)
  (hformat : ∀ t ∈ s.tasks,
    s.templates.format t.rule t.friendly (t.shown.map .text) = .ok (message t))

include hnd hformat

/-- A verdict from the loop is reported. -/
theorem Waits.work_settle (h : s.Waits message verdict done u l) {ref : TaskRef} {passed : Bool}
    (hj : l.jobs = before ++ .settle ref passed :: rest) :
    ∃ done' l', s.Advances message verdict done u l done'
      (({ u with loop := some { l with jobs := before ++ rest } } : Session).after
        (doJob (.settle ref passed))) l' 1 := by
  obtain ⟨run, i⟩ := ref
  obtain ⟨rfl, hi, hv⟩ : run = s.runs.length ∧ i < s.tasks.length ∧ passed = verdict i :=
    h.fits (.settle ⟨run, i⟩ passed) (by simp [hj])
  have htaken : s.Waits message verdict done
      { u with loop := some { l with jobs := before ++ rest } }
      { l with jobs := before ++ rest } := by
    refine h.of_loop rfl (fun job hmem => .inl ?_) ?_
    · rw [hj]
      exact List.perm_middle.mem_iff.2 (List.mem_cons_of_mem _ hmem)
    · simpa [Job.carries] using h.handover_append hj
  obtain ⟨done', l', hadv, rfl, -⟩ := htaken.report hnd hformat hi (.inr hv)
  refine ⟨_, l', hadv.waits, hadv.kept, hadv.stays, fun j hheld => ?_, ?_, hadv.result⟩
  · rcases held_of_cons h.loop hj hheld with href | hheld
    · obtain rfl : j = i := by simpa [Job.refs] using href
      exact .inr (Function.update_self _ _ _)
    · exact hadv.held j hheld
  · have hcons : s.weight done { l with jobs := before ++ rest } + 1 = s.weight done l :=
      weight_cons hj
    have hweight := hadv.weight
    omega

/-- Whatever piece of work is taken next, it leaves less than there was. -/
theorem Waits.work (h : s.Waits message verdict done u l) {job : Job}
    (hj : l.jobs = before ++ job :: rest) :
    ∃ done' l', s.Advances message verdict done u l done'
      (({ u with loop := some { l with jobs := before ++ rest } } : Session).after (doJob job))
      l' 1 := by
  cases job with
  | step ref yields v => exact ⟨done, h.work_step hj⟩
  | settle ref passed => exact h.work_settle hnd hformat hj
  | resolve result => exact ⟨done, h.work_resolve hj⟩
  | wake result => exact ⟨done, h.work_wake hj⟩

end Steps

/-! ## Completions -/

/-- The task whose report is kept under a number. Numbers below zero count from the end. -/
def keptAt (s : Session) (number : Int) : Option TaskRef :=
  let index := if number < 0 then number + s.kept.length else number
  if index < 0 then none else s.kept[index.toNat]?.join

theorem after_complete (s : Session) (number : Int) (passed : Bool) :
    s.after (complete number passed) =
      match s.keptAt number with
      | some ref => s.after (report ref passed)
      | none => s := by
  unfold after complete keptAt
  rw [run_bind, run_get]
  simp only
  generalize (if number < 0 then number + s.kept.length else number) = index
  split
  · rfl
  · rcases s.kept[index.toNat]? with _ | _ | ref <;> rfl

theorem mem_kept_of_keptAt {number : Int} {ref : TaskRef} (h : s.keptAt number = some ref) :
    some ref ∈ s.kept := by
  unfold keptAt at h
  simp only at h
  generalize (if number < 0 then number + s.kept.length else number) = index at h
  split at h
  · cases h
  · exact List.mem_of_getElem? (Option.join_eq_some_iff.1 h)

section Completions

variable (hnd : s.fields.keys.Nodup)
  (hformat : ∀ t ∈ s.tasks,
    s.templates.format t.rule t.friendly (t.shown.map .text) = .ok (message t))

include hnd hformat

/-- A kept report of the run that is completed settles its task, if that is not done. -/
theorem Waits.complete (h : s.Waits message verdict done u l) {number : Int} {passed : Bool}
    (hpassed : ∀ i, u.keptAt number = some ⟨s.runs.length, i⟩ →
      done i = true ∨ passed = verdict i) :
    ∃ done' l', s.Advances message verdict done u l done'
        (u.after (Session.complete number passed)) l' 0 ∧
      ∀ i, u.keptAt number = some ⟨s.runs.length, i⟩ → done' i = true := by
  rw [after_complete]
  cases hkept : u.keptAt number with
  | none => exact ⟨done, l, h.refl, nofun⟩
  | some ref =>
    obtain ⟨run, i⟩ := ref
    by_cases hrun : run = s.runs.length
    · subst hrun
      have hi := h.kept i (mem_kept_of_keptAt hkept)
      obtain ⟨done', l', hadv, rfl, -⟩ := h.report hnd hformat hi (hpassed i hkept)
      refine ⟨_, l', hadv, fun j hj => ?_⟩
      obtain rfl : i = j := by simpa using hj
      exact Function.update_self _ _ _
    · have hother : (⟨run, i⟩ : TaskRef).run ≠ s.runs.length := hrun
      obtain ⟨hwaits, hkept'⟩ := h.report_other hother passed
      refine ⟨done, l, ⟨hwaits, hkept', fun _ => id, fun j hj => .inl ?_, Nat.le_refl _,
        fun _ => rfl⟩, fun j hj => ?_⟩
      · rw [mem_held, jobs] at hj ⊢
        rwa [hwaits.loop, hkept', ← h.loop]
      · simp only [Option.some.injEq, TaskRef.mk.injEq] at hj
        exact absurd hj.1 hrun

end Completions

end Session

end FieldRules
