import FieldRules.Proofs.Session.Manner
import FieldRules.Proofs.Session.Schedule
import Mathlib.Data.List.Induction

/-!
# Waiting for a run agrees with running

A session can be run by itself, or in a loop that waits for its result. If every check reports once,
at once, from a kept report or from the loop, then whoever waits gets one result, whatever the order
in which the work is done and the kept reports are completed; and a run by itself hands over the
same result for the same verdicts.

Results:
* `waits_awaitStarted`: a run that is waited for begins all tasks, and each has reported or can.
* `awaited_of_operations`: waiting for a run agrees with running.
-/

namespace FieldRules

namespace Session

variable {s u : Session} {message : Task → String} {verdict done : Nat → Bool} {l : Loop}

/-! ## One task -/

theorem Waits.of_bare (h : s.Waits message verdict done u l) {u' : Session}
    (hb : u'.bare = u.bare) : s.Waits message verdict done u' l := by
  have htemplates : u'.templates = u.templates := congrArg (·.templates) hb
  have hseparator : u'.separator = u.separator := congrArg (·.separator) hb
  have hruns : u'.runs = u.runs := congrArg (·.runs) hb
  have hkept : u'.kept = u.kept := congrArg (·.kept) hb
  have hloop : u'.loop = u.loop := congrArg (·.loop) hb
  exact ⟨htemplates ▸ h.templates, hseparator ▸ h.separator, hruns ▸ h.run, hruns ▸ h.hasRun,
    hruns ▸ h.others, hkept ▸ h.kept, hloop ▸ h.loop, h.number, h.fits, h.handover⟩

theorem held_of_bare {u' : Session} (hb : u'.bare = u.bare) : u'.held = u.held := by
  have hkept : u'.kept = u.kept := congrArg (·.kept) hb
  have hloop : u'.loop = u.loop := congrArg (·.loop) hb
  rw [held, held, jobs, jobs, hkept, hloop]

/-- Beginning a task does not touch what is waited for. -/
theorem Waits.beginTask (h : s.Waits message verdict done u l) (run : Nat) :
    s.Waits message verdict done (u.beginTask run) l := by
  have hmodify : ∀ (n : Nat) (r : Run), (u.beginTask run).runs[n]? = some r →
      ∃ r', u.runs[n]? = some r' ∧ (r = r' ∨ r = Run.beginNext r') := by
    intro n r hr
    rw [Session.beginTask, List.getElem?_modify] at hr
    cases hr' : u.runs[n]? with
    | none => simp [hr'] at hr
    | some r' =>
      rw [hr'] at hr
      by_cases hn : run = n
      · exact ⟨r', rfl, .inr (by simpa [hn, eq_comm] using hr)⟩
      · exact ⟨r', rfl, .inl (by simpa [hn, eq_comm] using hr)⟩
  refine ⟨h.templates, h.separator, fun r hr => ?_, fun hne => ?_, fun n r hr hn => ?_, h.kept,
    h.loop, h.number, h.fits, h.handover⟩
  · obtain ⟨r', hr', rfl | rfl⟩ := hmodify _ _ hr
    · exact h.run _ hr'
    · obtain ⟨htasks, hrecord, hloop, hremaining⟩ := h.run _ hr'
      exact ⟨htasks, hrecord, hloop, hremaining⟩
  · simpa [Session.beginTask] using h.hasRun hne
  · obtain ⟨r', hr', rfl | rfl⟩ := hmodify _ _ hr
    · exact h.others n _ hr' hn
    · exact h.others n r' hr' hn

/-- What has become of a task that was not done: it has reported, or it can report later; and
    whatever else could report still can. -/
structure Starts (s : Session) (message : Task → String) (verdict done : Nat → Bool) (i : Nat)
    (u u' : Session) (done' : Nat → Bool) (l' : Loop) : Prop where
  waits : s.Waits message verdict done' u' l'
  others : ∀ j, j ≠ i → done' j = done j
  held : ∀ j, ⟨s.runs.length, j⟩ ∈ u.held → ⟨s.runs.length, j⟩ ∈ u'.held ∨ done' j = true
  live : done' i = true ∨ ⟨s.runs.length, i⟩ ∈ u'.held

section Tasks

variable (hnd : s.fields.keys.Nodup)
  (hformat : ∀ t ∈ s.tasks,
    s.templates.format t.rule t.friendly (t.shown.map .text) = .ok (message t))

include hnd hformat

/-- An action that reports in a manner makes its task report, or lets it report later. -/
theorem Waits.act (h : s.Waits message verdict done u l) {i : Nat} (hi : i < s.tasks.length)
    (hdone : done i = false) {action : Action} {manner : Manner}
    (haction : action.manner? = some manner) (hverdict : manner.Gives (verdict i))
    (call : CallNote) :
    ((Session.act ⟨s.runs.length, i⟩ call action).run u).1 = .ok () ∧
      ∃ done' l', s.Starts message verdict done i u
        (u.after (Session.act ⟨s.runs.length, i⟩ call action)) done' l' := by
  cases action with
  | report passed options =>
    cases haction
    obtain ⟨done', l', hadv, rfl, hok⟩ := h.report hnd hformat hi (.inr hverdict)
    exact ⟨hok hdone, _, l', hadv.waits, fun j hj => Function.update_of_ne hj _ _, hadv.held,
      .inl (Function.update_self _ _ _)⟩
  | keep =>
    refine ⟨rfl, done, l, { h with kept := fun j hj => ?_ }, fun _ _ => rfl, fun j hj => .inl ?_,
      .inr ?_⟩
    · rcases List.mem_append.1 hj with hj | hj
      · exact h.kept j hj
      · obtain rfl : j = i := by simpa using hj
        exact hi
    · exact mem_held.2 ((mem_held.1 hj).imp_left (List.mem_append_left _))
    · exact mem_held.2 (.inl (List.mem_append_right _ (List.mem_singleton_self _)))
  | later yields v =>
    cases haction
    have hrun : (Session.act ⟨s.runs.length, i⟩ call (.later yields v)).run u =
        (.ok (), { u with loop := some { l with
          jobs := l.jobs ++ [.step ⟨s.runs.length, i⟩ yields v] } }) := by
      unfold Session.act
      rw [run_bind, run_get]
      simp only [h.loop]
      rfl
    have hafter := congrArg Prod.snd hrun
    refine ⟨by rw [hrun], done, { l with
      jobs := l.jobs ++ [.step ⟨s.runs.length, i⟩ yields v] }, ?_, fun _ _ => rfl,
      fun j hj => .inl ?_, .inr ?_⟩
    · rw [after, hafter]
      refine h.of_loop rfl (fun job hj => ?_) ?_
      · rcases List.mem_append.1 hj with hj | hj
        · exact .inl hj
        · rw [List.mem_singleton.1 hj]
          exact .inr ⟨rfl, hi, hverdict⟩
      · simpa [List.filter_append, List.filter_cons, Job.carries] using h.handover
    · rw [after, hafter]
      refine held_mono hj (fun _ => id) fun job hjob => ?_
      have hmem : job ∈ l.jobs := by simpa [jobs, h.loop] using hjob
      simp [jobs, hmem]
    · rw [after, hafter, mem_held]
      exact .inr ⟨.step ⟨s.runs.length, i⟩ yields v, by simp [jobs], List.mem_singleton_self _⟩
  | _ => cases haction

/-- A task whose check reports once is begun without a fault; then it has reported, or it can report
    later. -/
theorem Waits.perform (h : s.Waits message verdict done u l) {i : Nat} (hi : i < s.tasks.length)
    (hdone : done i = false) {record : Nat} {task : Task} {manner : Manner}
    (hc : u.Cooperates ⟨s.runs.length, i⟩ record task manner)
    (hverdict : manner.Gives (verdict i)) :
    ((Session.perform ⟨s.runs.length, i⟩ record task).run u).1 = .ok () ∧
      ∃ done' l', s.Starts message verdict done i u
        (u.after (Session.perform ⟨s.runs.length, i⟩ record task)) done' l' := by
  obtain ⟨value, actions, hvalue, hactions, hmanner, hok⟩ := hc
  have hrun := run_perform ⟨s.runs.length, i⟩ hvalue hactions
  have hafter : u.after (Session.perform ⟨s.runs.length, i⟩ record task) =
      (u.beginTask s.runs.length).after
        (actions.forM (Session.act ⟨s.runs.length, i⟩ (noteOf task value))) :=
    congrArg Prod.snd hrun
  obtain ⟨action, s₁, haction, hbare, hgo⟩ := run_of_actions hmanner hok
  have hreached := (h.beginTask s.runs.length).of_bare hbare
  obtain ⟨hact, done', l', hstarts⟩ :=
    hreached.act hnd hformat hi hdone haction hverdict (noteOf task value)
  obtain ⟨hall, hbare'⟩ := hgo hact
  have hheld : s₁.held = (u.beginTask s.runs.length).held := held_of_bare hbare
  have hheld' := held_of_bare hbare'
  refine ⟨by rw [hrun]; exact hall, done', l', ?_⟩
  rw [hafter]
  refine ⟨hstarts.waits.of_bare hbare', hstarts.others, fun j hj => ?_, ?_⟩
  · rw [hheld']
    refine hstarts.held j ?_
    rw [hheld]
    exact hj
  · exact hheld' ▸ hstarts.live

end Tasks

/-! ## All tasks -/

/-- The state in which a run that is waited for has been taken up. -/
def awaitOpened (s : Session) : Session := s.openLoop.opened (some s.loops)

/-- The state in which a run that is waited for has worked through the given tasks. -/
def awaitedThrough (s : Session) (tasks : List Task) : Session :=
  s.awaitOpened.after (performAll s.runs.length s.current tasks 0)

/-- The state in which a run that is waited for has begun all tasks. -/
def awaitStarted (s : Session) : Session := s.openLoop.after (run (some s.loops))

/-- When a run is waited for, the check of each task reports once, in the manner that is given for
    its number. -/
def AllCooperate (s : Session) (manner : Nat → Manner) : Prop :=
  ∀ before task rest, s.tasks = before ++ task :: rest →
    (s.awaitedThrough before).Cooperates ⟨s.runs.length, before.length⟩ s.current task
      (manner before.length)

theorem awaitOpened_eq {countdown : Countdown}
    (hc : Countdown.start s.tasks.length = .ok countdown) :
    s.awaitOpened = s.openLoop.openRun countdown (some s.loops) := by
  have hc : Countdown.start s.openLoop.tasks.length = .ok countdown := hc
  unfold awaitOpened opened
  rw [hc]

theorem Capable.notMem_kept (h : s.Capable) (i : Nat) : some ⟨s.runs.length, i⟩ ∉ s.kept := by
  intro hi
  obtain ⟨r, hr, -⟩ := h ⟨s.runs.length, i⟩ (mem_held.2 (.inl hi))
  exact absurd (List.getElem?_eq_some_iff.1 hr).1 (Nat.lt_irrefl _)

theorem LoopsBegun.loop_ne (h : s.LoopsBegun) {n : Nat} {r : Run} (hr : s.runs[n]? = some r) :
    r.loop ≠ some s.loops :=
  fun hloop => absurd (h r (List.mem_of_getElem? hr) _ hloop) (Nat.lt_irrefl _)

/-- No task of a run that has just been taken up is done. -/
theorem waits_awaitOpened (hcapable : s.Capable) (hloops : s.LoopsBegun) {countdown : Countdown}
    (hc : Countdown.start s.tasks.length = .ok countdown) :
    s.Waits message verdict (fun _ => false) (s.openLoop.openRun countdown (some s.loops))
      ⟨s.loops, [], false, none⟩ := by
  obtain ⟨hpos, hremaining⟩ := Countdown.start_eq_ok hc
  have hruns : ∀ n r, (s.openLoop.openRun countdown (some s.loops)).runs[n]? = some r →
      n < s.runs.length ∧ s.runs[n]? = some r ∨
        n = s.runs.length ∧ r = ⟨s.tasks, s.current, countdown, 0, some s.loops⟩ := by
    intro n r hr
    have hr : (s.runs ++ [⟨s.tasks, s.current, countdown, 0, some s.loops⟩])[n]? = some r := hr
    rcases Nat.lt_or_ge n s.runs.length with hlt | hge
    · rw [List.getElem?_append_left hlt] at hr
      exact .inl ⟨hlt, hr⟩
    · rw [List.getElem?_append_right hge, List.getElem?_singleton] at hr
      split at hr
      · next hzero => exact .inr ⟨by omega, (Option.some.inj hr).symm⟩
      · cases hr
  refine ⟨rfl, rfl, fun r hr => ?_, fun _ => ?_, fun n r hr hn => ?_,
    fun i hi => absurd hi (hcapable.notMem_kept i), rfl, rfl,
    fun job hj => absurd hj List.not_mem_nil, .waiting ?_⟩
  · rcases hruns _ r hr with ⟨hlt, -⟩ | ⟨-, rfl⟩
    · exact absurd hlt (Nat.lt_irrefl _)
    · refine ⟨?_, rfl, rfl, ?_⟩
      · apply List.ext_getElem?
        intro i
        simp [getElem?_tasksAfter]
      · refine hremaining.trans (List.countP_eq_length.2 fun t ht => ?_).symm
        simp [outcome_of_mem_tasks ht]
  · simp [openRun, openLoop]
  · rcases hruns n r hr with ⟨-, hr⟩ | ⟨rfl, -⟩
    · exact hloops.loop_ne hr
    · exact absurd rfl hn
  · intro hover
    exact absurd (hover 0 hpos) (by simp)

theorem awaitedResult_of_tasks_nil (h : s.tasks = []) :
    s.awaitedResult message verdict = ⟨none, s.current, none⟩ := by
  have hfailures : ∀ field, s.failures message verdict field = [] := by simp [failures, h]
  simp [awaitedResult, h, expected, hfailures, joined]

/-- A run without tasks has its result in the work of the loop at once. -/
theorem waits_of_start_error (hcapable : s.Capable) (hloops : s.LoopsBegun) {fault : Fault}
    (hc : Countdown.start s.tasks.length = .error fault) :
    s.tasks = [] ∧ ((run (some s.loops)).run s.openLoop).1 = .ok () ∧
      ∃ l, s.Waits message verdict (fun _ => true) s.awaitStarted l := by
  obtain ⟨hnil, hrun⟩ : s.tasks = [] ∧ (run (some s.loops)).run s.openLoop =
      (deliver ⟨none, s.current, none⟩ (some s.loops)).run s.openLoop :=
    run_of_start_error (s := s.openLoop) (some s.loops) hc
  have hloop : s.openLoop.loop = some ⟨s.loops, [], false, none⟩ := rfl
  have hdeliver := hrun.trans (run_deliver_self hloop ⟨none, s.current, none⟩)
  have hafter := congrArg Prod.snd hdeliver
  refine ⟨hnil, by rw [hdeliver], ⟨s.loops, [.resolve ⟨none, s.current, none⟩], false, none⟩, ?_⟩
  rw [awaitStarted, after, hafter]
  refine ⟨rfl, rfl, fun r hr => ?_, fun hne => absurd hnil hne, fun n r hr _ => hloops.loop_ne hr,
    fun i hi => absurd hi (hcapable.notMem_kept i), rfl, rfl, by simp [Job.Fits], ?_⟩
  · have hlt : s.runs.length < s.runs.length := (List.getElem?_eq_some_iff.1 hr).1
    exact absurd hlt (Nat.lt_irrefl _)
  · rw [awaitedResult_of_tasks_nil hnil]
    exact .delivered fun _ _ => rfl

section FanOut

variable (hnd : s.fields.keys.Nodup)
  (hformat : ∀ t ∈ s.tasks,
    s.templates.format t.rule t.friendly (t.shown.map .text) = .ok (message t))
  (hcapable : s.Capable) (hloops : s.LoopsBegun) {manner : Nat → Manner}
  (hcooperate : s.AllCooperate manner)
  (hverdict : ∀ i < s.tasks.length, (manner i).Gives (verdict i))

include hnd hformat hcapable hloops hcooperate hverdict

/-- Tasks are begun one after the other without a fault; each of them has reported, or it can report
    later. -/
theorem waits_awaitedThrough {countdown : Countdown}
    (hc : Countdown.start s.tasks.length = .ok countdown) (before rest : List Task)
    (hsplit : s.tasks = before ++ rest) :
    ((performAll s.runs.length s.current before 0).run s.awaitOpened).1 = .ok () ∧
      ∃ done l, s.Waits message verdict done (s.awaitedThrough before) l ∧
        (∀ i, before.length ≤ i → done i = false) ∧
        ∀ i < before.length, done i = false →
          ⟨s.runs.length, i⟩ ∈ (s.awaitedThrough before).held := by
  -- the tasks before the next one have been begun, and none after it has reported
  induction before using List.reverseRecOn generalizing rest with
  | nil =>
    refine ⟨rfl, fun _ => false, ⟨s.loops, [], false, none⟩, ?_, fun _ _ => rfl,
      fun i hi => absurd hi (Nat.not_lt_zero i)⟩
    show s.Waits message verdict _ s.awaitOpened _
    rw [awaitOpened_eq hc]
    exact waits_awaitOpened hcapable hloops hc
  | append_singleton before task ih =>
    rw [List.append_assoc, List.singleton_append] at hsplit
    obtain ⟨hok, done, l, hwaits, hfresh, hlive⟩ := ih (task :: rest) hsplit
    have hlt : before.length < s.tasks.length := by simp [hsplit]
    have hrun : (performAll s.runs.length s.current (before ++ [task]) 0).run s.awaitOpened =
        (perform ⟨s.runs.length, before.length⟩ s.current task).run (s.awaitedThrough before) := by
      have hlast : performAll s.runs.length s.current [task] before.length =
          perform ⟨s.runs.length, before.length⟩ s.current task := bind_pure_unit
      rw [performAll_append, run_bind_of_ok hok, Nat.zero_add, hlast]
      rfl
    have hafter : s.awaitedThrough (before ++ [task]) =
        (s.awaitedThrough before).after (perform ⟨s.runs.length, before.length⟩ s.current task) :=
      congrArg Prod.snd hrun
    obtain ⟨htask, done', l', hstarts⟩ := hwaits.perform hnd hformat hlt
      (hfresh _ (Nat.le_refl _)) (hcooperate before task rest hsplit) (hverdict _ hlt)
    rw [hrun, hafter]
    refine ⟨htask, done', l', hstarts.waits, fun i hi => ?_, fun i hi hdone => ?_⟩
    · rw [List.length_append, List.length_singleton] at hi
      rw [hstarts.others i (by omega)]
      exact hfresh i (by omega)
    · rw [List.length_append, List.length_singleton] at hi
      rcases Nat.lt_succ_iff_lt_or_eq.1 hi with hi | rfl
      · rw [hstarts.others i (by omega)] at hdone
        refine (hstarts.held i (hlive i hi hdone)).resolve_right ?_
        rw [hstarts.others i (by omega), hdone]
        exact Bool.false_ne_true
      · exact hstarts.live.resolve_left (Bool.eq_false_iff.1 hdone)

/-- A run that is waited for begins all of its tasks without a fault; each of them has reported, or
    it can report later. -/
theorem waits_awaitStarted :
    ((run (some s.loops)).run s.openLoop).1 = .ok () ∧
      ∃ done l, s.Waits message verdict done s.awaitStarted l ∧
        s.AllLive done s.awaitStarted := by
  rcases hc : Countdown.start s.tasks.length with fault | countdown
  · obtain ⟨hnil, hok, l, hwaits⟩ := waits_of_start_error hcapable hloops hc
    exact ⟨hok, _, l, hwaits, fun i hi => absurd hi (by simp [hnil])⟩
  · have hrun : (run (some s.loops)).run s.openLoop =
        (performAll s.runs.length s.current s.tasks 0).run s.awaitOpened := by
      rw [run_of_start (s := s.openLoop) (some s.loops) hc, awaitOpened_eq hc]
      rfl
    obtain ⟨hok, done, l, hwaits, -, hlive⟩ := waits_awaitedThrough hnd hformat hcapable hloops
      hcooperate hverdict hc s.tasks [] (List.append_nil _).symm
    have hafter : s.awaitStarted = s.awaitedThrough s.tasks := congrArg Prod.snd hrun
    rw [hrun, hafter]
    exact ⟨hok, done, l, hwaits, hlive⟩

end FanOut

/-! ## A run by itself -/

/-- When all tasks of a run have reported their verdicts, the run has handed over the result that is
    waited for, and nothing else. -/
theorem deliveriesOf_of_accepted {today : Calendar.Today} {registry : Registry}
    {templates : MessageTable} {separator : String} {record : Value} {past h : List Event}
    {loop : Option Nat} {s' : Session}
    (hpast : History (start today registry templates separator record) past s)
    (hh : History s (.start loop :: h) s')
    (hformat : ∀ t ∈ s.tasks,
      s.templates.format t.rule t.friendly (t.shown.map .text) = .ok (message t))
    (hacc : ∀ i < s.tasks.length,
      accepted h ⟨s.runs.length, i⟩ = some (verdict i, s.templates)) :
    s'.deliveriesOf s.runs.length = [s.awaitedResult message verdict] := by
  have hl := hpast.ledger
  obtain ⟨r, _, hr, hcont⟩ := hh.run_of_start
  have hrun := (hpast.trans hh).ledger.runs _ r hr
  have hlen : r.tasks.length = s.tasks.length := hcont.length_eq
  have hacc' : ∀ i < s.tasks.length, accepted (past ++ .start loop :: h) ⟨s.runs.length, i⟩ =
      some (verdict i, s.templates) := by
    intro i hi
    rw [accepted_append, (hl.unstarted _ (Nat.le_refl _)).2 i, Option.none_or]
    exact hacc i hi
  have hall : r.countdown.remaining = 0 := by
    rw [hrun.remaining_eq_zero_iff, hlen]
    intro i hi
    rw [hacc' i hi]
    exact Option.some_ne_none _
  have hne : s.tasks ≠ [] := List.ne_nil_of_length_pos (hlen ▸ hrun.hasTasks)
  have htasks := hrun.tasks_eq hcont.tasks hacc' hformat
  rw [hrun.deliveries, Run.results, if_pos hall, hh.separator, errors_settled hl.fields htasks,
    hcont.record, awaitedResult, if_neg hne]

theorem delivered_of_tasks_nil (h : s.tasks = []) (loop : Option Nat) :
    (s.after (run loop)).delivered = s.delivered ++ [s.awaitedResult message verdict] := by
  obtain ⟨fault, hc⟩ : ∃ fault, Countdown.start s.tasks.length = .error fault := by
    rw [h]
    exact ⟨_, rfl⟩
  rw [after, (run_of_start_error loop hc).2, awaitedResult_of_tasks_nil h]
  exact delivered_deliver s _ loop

/-- No check but that of `required` is started for an empty value. -/
theorem Cooperates.eq_now_of_isEmpty {ref : TaskRef} {record : Nat} {task : Task}
    {manner : Manner} (h : s.Cooperates ref record task manner)
    (hrule : task.rule ≠ Registry.requiredRule) {value : Value}
    (hvalue : (s.recordAt record).field? task.field = .ok value) (hempty : value.isEmpty = true) :
    manner = .now true := by
  obtain ⟨value', actions, hvalue', hactions, hmanner, -⟩ := h
  obtain rfl : value = value' := Except.ok.inj (hvalue.symm.trans hvalue')
  cases hd : s.registry.get? task.rule with
  | none =>
    unfold Registry.evaluate at hactions
    rw [hd] at hactions
    cases hactions
  | some d =>
    rw [Registry.evaluate_of_isEmpty hd hrule hempty] at hactions
    cases hactions
    simpa [Action.manner?, eq_comm] using hmanner

/-! ## Waiting agrees with running -/

/-- What waiting for a run comes to, once its completions are made: its turns end it. -/
theorem awaitRun_of_started (s : Session) (completions : List (Int × Bool)) (limit : Nat)
    (hok : ((run (some s.loops)).run s.openLoop).1 = .ok ()) :
    (s.awaitRun completions limit).2.1 =
      .ok ((s.awaitStarted.completeAll completions).1.turns limit).awaited := by
  unfold awaitRun awaitStarted after
  simp only
  rcases hrun : (run (some s.loops)).run s.openLoop with ⟨fault | ⟨⟩, s₁⟩
  · rw [hrun] at hok
    cases hok
  · rfl

/-- Waiting for a run agrees with running. Whatever was done to a session, let every check of its
    next run report once. Then a loop that waits for the run starts it without a fault. In whatever
    order its work is done and kept reports are completed, there is only so much work; who waits has
    one result at most, and keeps it; as long as there is none, there is work to do, or a kept
    report to complete. The turns of the loop bring that result, after completions of all kept
    reports. And a run by itself in which each task reports the same verdict hands over the same
    result. The checks of empty values have passed, other than that of `required`. -/
theorem awaited_of_operations {today : Calendar.Today} {registry : Registry}
    {templates : MessageTable} {separator : String} {record : Value}
    {operations : List Operation} {s : Session} {message : Task → String}
    {manner : Nat → Manner} {verdict : Nat → Bool}
    (hs : s = operations.foldl operate (start today registry templates separator record))
    (hformat : ∀ t ∈ s.tasks,
      s.templates.format t.rule t.friendly (t.shown.map .text) = .ok (message t))
    (hcooperate : s.AllCooperate manner)
    (hverdict : ∀ i < s.tasks.length, (manner i).Gives (verdict i)) :
    ((run (some s.loops)).run s.openLoop).1 = .ok () ∧
      (∃ bound,
        (∀ count v, Schedule s.runs.length verdict s.awaitStarted count v →
          count ≤ bound ∧
          (v.awaited = none ∨ v.awaited = some (s.awaitedResult message verdict)) ∧
          (v.awaited = none → v.jobs ≠ [] ∨
            ∃ i, some ⟨s.runs.length, i⟩ ∈ v.kept ∧ ¬ v.HasReported ⟨s.runs.length, i⟩) ∧
          ∀ count' w, Schedule s.runs.length verdict v count' w → v.awaited.isSome = true →
            w.awaited = v.awaited) ∧
        ∀ completions, s.awaitStarted.CompletesAs s.runs.length verdict completions →
          s.awaitStarted.CompletesAll s.runs.length completions → ∀ limit ≥ bound,
            (s.awaitRun completions limit).2.1 =
              .ok (some (s.awaitedResult message verdict))) ∧
      (∀ h s', History s (.start none :: h) s' →
        (∀ i < s.tasks.length,
          accepted h ⟨s.runs.length, i⟩ = some (verdict i, s.templates)) →
        s'.deliveriesOf s.runs.length = [s.awaitedResult message verdict]) ∧
      (s.tasks = [] →
        (s.after (run none)).delivered = s.delivered ++ [s.awaitedResult message verdict]) ∧
      ∀ before task rest value, s.tasks = before ++ task :: rest →
        task.rule ≠ Registry.requiredRule →
        ((s.awaitedThrough before).recordAt s.current).field? task.field = .ok value →
        value.isEmpty = true → manner before.length = .now true := by
  have hcapable : s.Capable :=
    hs ▸ capable_of_operations today registry templates separator record operations
  have hloops : s.LoopsBegun :=
    hs ▸ loopsBegun_of_operations today registry templates separator record operations
  obtain ⟨past, hpast⟩ :=
    history_of_operations today registry templates separator record operations
  rw [← hs] at hpast
  have hnd := hpast.ledger.fields
  obtain ⟨hok, done, l, hwaits, hlive⟩ :=
    waits_awaitStarted hnd hformat hcapable hloops hcooperate hverdict
  refine ⟨hok, ⟨s.weight done l, fun count v hv => ?_, fun completions has hall limit hlimit => ?_⟩,
    fun h s' hh hacc => deliveriesOf_of_accepted hpast hh hformat hacc,
    fun hnil => delivered_of_tasks_nil hnil none, ?_⟩
  · obtain ⟨done', l', hadv⟩ := hv.advances hnd hformat hwaits
    have hweight := hadv.weight
    refine ⟨by omega, hadv.waits.awaited_cases, hadv.waits.progress (hadv.allLive hlive),
      fun count' w hw hsome => ?_⟩
    obtain ⟨done'', l'', hadv'⟩ := hw.advances hnd hformat hadv.waits
    rw [hadv.waits.awaited_eq] at hsome ⊢
    rw [hadv'.waits.awaited_eq, hadv'.result hsome]
  · obtain ⟨hcompleted, hreported⟩ := hwaits.schedule_completeAll hnd hformat has
    obtain ⟨done', l', hadv⟩ := hcompleted.advances hnd hformat hwaits
    have hweight := hadv.weight
    rw [awaitRun_of_started s completions limit hok]
    refine congrArg _ (hadv.waits.awaited_turns hnd hformat (hadv.allLive hlive) (fun i hk => ?_)
      (by omega))
    exact hreported i (hall i (hadv.kept ▸ hk))
  · intro before task rest value hsplit hrule hvalue hempty
    exact (hcooperate before task rest hsplit).eq_now_of_isEmpty hrule hvalue hempty

/-- Rules that report at once, from a kept report and from the loop. -/
def mixedOperations : List Operation :=
  [.register "now" ⟨fun _ _ _ => [.note, .report true none], false, false, false⟩,
    .register "later" ⟨fun _ _ _ => [.note, .keep], false, false, false⟩,
    .register "loop" ⟨fun _ _ _ => [.later 1 (some false)], false, false, true⟩,
    .call (.addRule "name" (.text "Name") (.text "now|later|loop"))]

def mixedTemplates : MessageTable :=
  [("now", "Not now."), ("later", "Not later."), ("loop", "Not in the loop.")]

/-- A session with one rule of each kind. -/
def mixed : Session :=
  { start ⟨2024, 5, 31⟩ .empty mixedTemplates ", " (.map [("name", .text "x")]) with
    registry :=
      ⟨[("now", ⟨fun _ _ _ => [.note, .report true none], false, false, false⟩),
        ("later", ⟨fun _ _ _ => [.note, .keep], false, false, false⟩),
        ("loop", ⟨fun _ _ _ => [.later 1 (some false)], false, false, true⟩)], []⟩
    fields :=
      [("name", ⟨.text "Name", [⟨"now", [], []⟩, ⟨"later", [], []⟩, ⟨"loop", [], []⟩]⟩)] }

theorem mixed_eq : mixed =
    mixedOperations.foldl operate
      (start ⟨2024, 5, 31⟩ .empty mixedTemplates ", " (.map [("name", .text "x")])) := rfl

def mixedManner : Nat → Manner
  | 0 => .now true
  | 1 => .kept
  | _ => .loop 1 (some false)

theorem tasks_mixed : mixed.tasks =
    [⟨"name", .text "Name", "now", [], [], none⟩, ⟨"name", .text "Name", "later", [], [], none⟩,
      ⟨"name", .text "Name", "loop", [], [], none⟩] := rfl

theorem allCooperate_mixed : mixed.AllCooperate mixedManner := by
  -- besides their reports, the checks only write down the call
  have hnote : ∀ (actions : List Action) (ref : TaskRef) (call : CallNote) (u : Session),
      (∀ action ∈ actions, action.manner? = none → action = .note) →
      ∀ before action rest, actions = before ++ action :: rest → action.manner? = none →
        ((act ref call action).run (u.after (before.forM (act ref call)))).1 = .ok () := by
    intro actions ref call u hactions before action rest hsplit hside
    obtain rfl := hactions action (hsplit ▸ List.mem_append_right _ List.mem_cons_self) hside
    rfl
  intro before task rest hsplit
  rw [tasks_mixed] at hsplit
  rcases before with _ | ⟨_, _ | ⟨_, _ | ⟨_, before⟩⟩⟩ <;>
    simp only [List.cons_append, List.nil_append, List.cons.injEq] at hsplit
  · obtain ⟨rfl, rfl⟩ := hsplit
    exact ⟨.text "x", [.note, .report true none], rfl, rfl, rfl,
      hnote _ _ _ _ (by simp [Action.manner?])⟩
  · obtain ⟨rfl, rfl, rfl⟩ := hsplit
    exact ⟨.text "x", [.note, .keep], rfl, rfl, rfl,
      hnote _ _ _ _ (by simp [Action.manner?])⟩
  · obtain ⟨rfl, rfl, rfl, rfl⟩ := hsplit
    exact ⟨.text "x", [.later 1 (some false)], rfl, rfl, rfl,
      hnote _ _ _ _ (by simp [Action.manner?])⟩
  · simp at hsplit

/-- The kept report is completed with a failure, and the check in the loop fails: whoever waits gets
    both messages, in the order of the rules. -/
theorem awaited_of_mixed : ∃ bound, ∀ limit ≥ bound, (mixed.awaitRun [(0, false)] limit).2.1 =
    .ok (some ⟨some [("name", "Not later., Not in the loop.")], 0, some 0⟩) := by
  have hnow : mixed.templates.format "now" (.text "Name") [] = .ok "Not now." := by
    with_unfolding_all rfl
  have hlater : mixed.templates.format "later" (.text "Name") [] = .ok "Not later." := by
    with_unfolding_all rfl
  have hloop : mixed.templates.format "loop" (.text "Name") [] = .ok "Not in the loop." := by
    with_unfolding_all rfl
  have hformat : ∀ t ∈ mixed.tasks, mixed.templates.format t.rule t.friendly
      (t.shown.map .text) = .ok ((mixedTemplates.get? t.rule).getD "") := by
    intro t ht
    rw [tasks_mixed] at ht
    simp only [List.mem_cons, List.not_mem_nil, or_false] at ht
    rcases ht with rfl | rfl | rfl
    · exact hnow
    · exact hlater
    · exact hloop
  have hverdict : ∀ i < mixed.tasks.length, (mixedManner i).Gives (i == 0) := by
    intro i hi
    rcases i with _ | _ | i
    · rfl
    · trivial
    · rfl
  obtain ⟨-, ⟨bound, -, hall⟩, -⟩ := @awaited_of_operations ⟨2024, 5, 31⟩ .empty mixedTemplates ", "
    (.map [("name", .text "x")]) mixedOperations mixed
    (fun t => (mixedTemplates.get? t.rule).getD "") mixedManner (· == 0) mixed_eq hformat
    allCooperate_mixed hverdict
  have hresult : mixed.awaitedResult (fun t => (mixedTemplates.get? t.rule).getD "") (· == 0) =
      ⟨some [("name", "Not later., Not in the loop.")], 0, some 0⟩ := rfl
  have hkept : mixed.awaitStarted.kept = [some ⟨0, 1⟩] := rfl
  have hat : mixed.awaitStarted.keptAt 0 = some ⟨0, 1⟩ := by
    unfold keptAt
    rw [hkept]
    rfl
  rw [hresult] at hall
  refine ⟨bound, hall [(0, false)] ?_ ?_⟩
  · intro before number passed rest i hsplit hk _
    obtain ⟨rfl, hcompletion⟩ : before = [] ∧ ((0 : Int), false) = (number, passed) := by
      rcases before with _ | ⟨c, before⟩
      · exact ⟨rfl, (List.cons.inj hsplit).1⟩
      · simp at hsplit
    obtain ⟨rfl, rfl⟩ := Prod.mk.inj hcompletion
    rw [hat] at hk
    cases hk
    exact .inr rfl
  · intro i hi
    rw [hkept] at hi
    obtain ⟨-, rfl⟩ : mixed.runs.length = 0 ∧ i = 1 := by simpa using hi
    exact ⟨(0, false), List.mem_singleton_self _, hat⟩

/-- The rule `required`, reporting a failure from the loop. -/
def requiredOperations : List Operation :=
  [.register "required" ⟨fun _ _ _ => [.later 1 (some false)], false, false, true⟩,
    .call (.addRule "name" (.text "Name") (.text "required"))]

/-- A session whose only field is empty, and has the rule `required`, which reports from the
    loop. -/
def requiredInLoop : Session :=
  { start ⟨2024, 5, 31⟩
      ⟨[("required", ⟨fun _ _ _ => [.later 1 (some false)], false, false, true⟩)], []⟩
      [("required", "Missing.")] ", " (.map [("name", .text "")]) with
    fields := [("name", ⟨.text "Name", [⟨"required", [], []⟩]⟩)] }

/-- The check of `required` is started for an empty value, and who waits gets its failure, which is
    not what a run would hand over if the rule had passed. -/
theorem awaitRun_requiredInLoop :
    requiredInLoop = requiredOperations.foldl operate
        (start ⟨2024, 5, 31⟩ .empty [("required", "Missing.")] ", " (.map [("name", .text "")])) ∧
      (Value.text "").isEmpty = true ∧
      requiredInLoop.registry.evaluate requiredInLoop.today "required" (.text "") [] =
        .ok [.later 1 (some false)] ∧
      (requiredInLoop.awaitRun [] 60).2.1 =
        .ok (some ⟨some [("name", "Missing.")], 0, some 0⟩) ∧
      requiredInLoop.expected (fun _ => "Missing.") (fun _ => true) = none := by
  refine ⟨rfl, ?_, ?_, ?_, ?_⟩ <;> with_unfolding_all rfl

end Session

end FieldRules
