import FieldRules.Proofs.Session.History

/-!
# The ledger of a session

How the reports in a history, the outcomes of tasks, the countdown of a run and the results that
were handed over hang together. Every moment of a session keeps the ledger, so it holds after every
history of a new session.

Results:
* `Step.ledger`: a moment keeps the ledger.
* `History.ledger`: the ledger holds after every history of a new session.
* `RunLedger.remaining_eq_zero_iff`: a countdown is at its end just when every task has reported.
-/

namespace FieldRules

theorem Countdown.start_eq_ok {total : Nat} {c : Countdown}
    (h : Countdown.start total = .ok c) : 0 < total ∧ c.remaining = total := by
  unfold Countdown.start at h
  split at h
  · cases h
  · cases h
    exact ⟨by omega, by simp⟩

namespace Session

/-! ## Accepted reports -/

theorem accepted_append (h h' : List Event) (ref : TaskRef) :
    accepted (h ++ h') ref = (accepted h ref).or (accepted h' ref) := by
  simp [accepted, List.findSome?_append]

theorem accepted_snoc_of_none {h : List Event} {e : Event} {ref : TaskRef}
    (he : e.reportOf ref = none) : accepted (h ++ [e]) ref = accepted h ref := by
  rw [accepted_append]
  simp [accepted, he]

theorem reportOf_report_self (ref : TaskRef) (passed : Bool) (templates : MessageTable) :
    (Event.report ref passed templates).reportOf ref = some (passed, templates) := by
  simp [Event.reportOf]

theorem reportOf_report_ne {ref ref' : TaskRef} (passed : Bool) (templates : MessageTable)
    (hne : ref ≠ ref') : (Event.report ref passed templates).reportOf ref' = none := by
  simp [Event.reportOf, hne]

theorem accepted_report_ne {h : List Event} {ref ref' : TaskRef} (passed : Bool)
    (templates : MessageTable) (hne : ref ≠ ref') :
    accepted (h ++ [.report ref passed templates]) ref' = accepted h ref' :=
  accepted_snoc_of_none (reportOf_report_ne passed templates hne)

/-! ## The ledger of one run -/

/-- The ledger of a run with the number `n`, after a history: which tasks have reported, what became
    of them, how many are waited for, and which results were handed over. -/
structure RunLedger (h : List Event) (separator : String) (deliveries : List Delivery) (n : Nat)
    (r : Run) : Prop where
  hasTasks : 0 < r.tasks.length
  begun_le : r.begun ≤ r.tasks.length
  unbegun : ∀ i, r.begun ≤ i → accepted h ⟨n, i⟩ = none
  outcome : ∀ i t, r.tasks[i]? = some t →
    t.outcome = (accepted h ⟨n, i⟩).map fun v => (t.judge v.2 v.1).1
  remaining : r.countdown.remaining = r.tasks.countP (·.outcome.isNone)
  deliveries : deliveries = r.results separator n

namespace RunLedger

variable {h h' : List Event} {separator : String} {deliveries : List Delivery} {n : Nat} {r : Run}

theorem congr (hl : RunLedger h separator deliveries n r)
    (hacc : ∀ i, accepted h' ⟨n, i⟩ = accepted h ⟨n, i⟩) :
    RunLedger h' separator deliveries n r where
  hasTasks := hl.hasTasks
  begun_le := hl.begun_le
  unbegun i hi := (hacc i).trans (hl.unbegun i hi)
  outcome i t ht := by rw [hacc i]; exact hl.outcome i t ht
  remaining := hl.remaining
  deliveries := hl.deliveries

theorem isNone_outcome (hl : RunLedger h separator deliveries n r) {i : Nat} {t : Task}
    (ht : r.tasks[i]? = some t) : t.outcome.isNone = (accepted h ⟨n, i⟩).isNone := by
  rw [hl.outcome i t ht, Option.isNone_map]

/-- A countdown is at its end just when every task has reported. -/
theorem remaining_eq_zero_iff (hl : RunLedger h separator deliveries n r) :
    r.countdown.remaining = 0 ↔ ∀ i < r.tasks.length, accepted h ⟨n, i⟩ ≠ none := by
  rw [hl.remaining, List.countP_eq_zero]
  constructor
  · intro hall i hi
    have := hall _ (List.getElem_mem hi)
    rw [hl.isNone_outcome (List.getElem?_eq_getElem hi)] at this
    simpa using this
  · intro hall t ht
    obtain ⟨i, hi, rfl⟩ := List.getElem_of_mem ht
    have := hall i hi
    rw [hl.isNone_outcome (List.getElem?_eq_getElem hi)]
    simpa using this

theorem remaining_pos (hl : RunLedger h separator deliveries n r) {i : Nat} {t : Task}
    (ht : r.tasks[i]? = some t) (hn : t.outcome = none) : 0 < r.countdown.remaining := by
  rw [hl.remaining, List.countP_pos_iff]
  exact ⟨t, List.mem_of_getElem? ht, by simp [hn]⟩

end RunLedger

/-! ## The ledger of a session -/

/-- The ledger of a session after a history. -/
structure Ledger (h : List Event) (s : Session) : Prop where
  runs : ∀ n r, s.runs[n]? = some r → RunLedger h s.separator (s.deliveriesOf n) n r
  unstarted : ∀ n, s.runs.length ≤ n → s.deliveriesOf n = [] ∧ ∀ i, accepted h ⟨n, i⟩ = none
  fields : s.fields.keys.Nodup

theorem Ledger.congr {h h' : List Event} {s : Session} (hl : Ledger h s)
    (hacc : ∀ ref, accepted h' ref = accepted h ref) : Ledger h' s where
  runs n r hr := (hl.runs n r hr).congr fun i => hacc ⟨n, i⟩
  unstarted n hn :=
    ⟨(hl.unstarted n hn).1, fun i => (hacc ⟨n, i⟩).trans ((hl.unstarted n hn).2 i)⟩
  fields := hl.fields

theorem ledger_start (today : Calendar.Today) (registry : Registry) (templates : MessageTable)
    (separator : String)
    (record : Value) : Ledger [] (start today registry templates separator record) where
  runs n r hr := by simp [start] at hr
  unstarted n _ := ⟨rfl, fun _ => rfl⟩
  fields := List.nodup_nil

theorem outcome_of_mem_tasks {s : Session} {t : Task} (ht : t ∈ s.tasks) : t.outcome = none := by
  simp only [tasks, List.mem_flatMap, List.mem_map] at ht
  obtain ⟨_, _, _, _, rfl⟩ := ht
  rfl

/-- A run that is taken up waits for all of its tasks. -/
theorem Ledger.openRun {h : List Event} {s : Session} (hl : Ledger h s) {countdown : Countdown}
    (loop : Option Nat) (hc : Countdown.start s.tasks.length = .ok countdown) :
    Ledger (h ++ [.start loop]) (s.openRun countdown loop) := by
  obtain ⟨hpos, hrem⟩ := Countdown.start_eq_ok hc
  have hacc : ∀ ref, accepted (h ++ [.start loop]) ref = accepted h ref :=
    fun ref => accepted_snoc_of_none rfl
  refine ⟨fun n r hr => ?_, fun n hn => ?_, hl.fields⟩
  · rcases Nat.lt_trichotomy n s.runs.length with hlt | rfl | hgt
    · have hr' : s.runs[n]? = some r := by
        rwa [Session.openRun, List.getElem?_append_left hlt] at hr
      exact (hl.runs n r hr').congr fun i => hacc _
    · obtain ⟨hd, hnone⟩ := hl.unstarted _ (Nat.le_refl _)
      have hr' : r = ⟨s.tasks, s.current, countdown, 0, loop⟩ := by
        simpa [Session.openRun, eq_comm] using hr
      subst hr'
      refine ⟨hpos, Nat.zero_le _, fun i _ => ?_, fun i t ht => ?_, ?_, ?_⟩
      · rw [hacc, hnone]
      · rw [hacc, hnone]
        exact outcome_of_mem_tasks (List.mem_of_getElem? ht)
      · rw [hrem, List.countP_eq_length.2]
        intro t ht
        rw [outcome_of_mem_tasks ht]
        rfl
      · rw [Run.results, if_neg (by simp only; omega)]
        exact hd
    · have hlen : (s.openRun countdown loop).runs.length ≤ n := by
        simp only [Session.openRun, List.length_append, List.length_singleton]
        omega
      rw [List.getElem?_eq_none hlen] at hr
      cases hr
  · have hn' : s.runs.length ≤ n := by
      simp [Session.openRun] at hn
      omega
    exact ⟨(hl.unstarted n hn').1, fun i => (hacc _).trans ((hl.unstarted n hn').2 i)⟩

/-- Beginning a task changes how many tasks have been begun, and nothing else. -/
theorem Ledger.beginTask {h : List Event} {s : Session} (hl : Ledger h s) {m : Nat} {q : Run}
    (hq : s.runs[m]? = some q) (hlt : q.begun < q.tasks.length) :
    Ledger (h ++ [.begin m]) (s.beginTask m) := by
  have hacc : ∀ ref, accepted (h ++ [.begin m]) ref = accepted h ref :=
    fun ref => accepted_snoc_of_none rfl
  refine ⟨fun n r hr => ?_, fun n hn => ?_, hl.fields⟩
  · rw [Session.beginTask, List.getElem?_modify] at hr
    by_cases hmn : m = n
    · subst hmn
      obtain rfl : q.beginNext = r := by simpa [hq] using hr
      have hrun := hl.runs m q hq
      refine ⟨hrun.hasTasks, hlt, fun i hi => ?_, fun i t ht => ?_, hrun.remaining,
        hrun.deliveries⟩
      · exact (hacc _).trans (hrun.unbegun i (Nat.le_of_succ_le hi))
      · rw [hacc]
        exact hrun.outcome i t ht
    · have hr' : s.runs[n]? = some r := by simpa [hmn] using hr
      exact (hl.runs n r hr').congr fun i => hacc _
  · have hn' : s.runs.length ≤ n := by
      simpa [Session.beginTask] using hn
    exact ⟨(hl.unstarted n hn').1, fun i => (hacc _).trans ((hl.unstarted n hn').2 i)⟩

/-- The report that is accepted goes into the ledger of its run. -/
theorem RunLedger.settle {h : List Event} {separator : String} {deliveries : List Delivery}
    {n i : Nat} {r r' : Run} {t : Task} (hl : RunLedger h separator deliveries n r)
    (ht : r.tasks[i]? = some t) (hn : t.outcome = none) (hi : i < r.begun) (passed : Bool)
    (templates : MessageTable) (hrem : r'.countdown.remaining + 1 = r.countdown.remaining)
    (htasks : r'.tasks = r.tasks.set i { t with outcome := some (t.judge templates passed).1 })
    (hbegun : r'.begun = r.begun) :
    RunLedger (h ++ [.report ⟨n, i⟩ passed templates]) separator
      (deliveries ++ r'.results separator n) n r' := by
  have hlt : i < r.tasks.length := (List.getElem?_eq_some_iff.1 ht).1
  have hself : accepted (h ++ [.report ⟨n, i⟩ passed templates]) ⟨n, i⟩ =
      some (passed, templates) := by
    have hnone : accepted h ⟨n, i⟩ = none := by
      rw [← Option.isNone_iff_eq_none, ← hl.isNone_outcome ht, hn, Option.isNone_none]
    rw [accepted_append, hnone]
    simp [accepted, reportOf_report_self]
  have hother : ∀ j, j ≠ i →
      accepted (h ++ [.report ⟨n, i⟩ passed templates]) ⟨n, j⟩ = accepted h ⟨n, j⟩ :=
    fun j hj => accepted_report_ne passed templates fun he => hj (TaskRef.mk.inj he).2.symm
  refine ⟨?_, ?_, fun j hj => ?_, fun j u hu => ?_, ?_, ?_⟩
  · rw [htasks, List.length_set]
    exact hl.hasTasks
  · rw [htasks, List.length_set, hbegun]
    exact hl.begun_le
  · rw [hother j (by omega)]
    exact hl.unbegun j (hbegun ▸ hj)
  · rw [htasks, List.getElem?_set] at hu
    by_cases hij : i = j
    · subst hij
      obtain rfl : { t with outcome := some (t.judge templates passed).1 } = u := by
        simpa [hlt] using hu
      rw [hself]
      rfl
    · rw [hother j (Ne.symm hij)]
      exact hl.outcome j u (by simpa [hij] using hu)
  · have hti : r.tasks[i] = t := (List.getElem?_eq_some_iff.1 ht).2
    have hrem' := hl.remaining
    rw [htasks, List.countP_set hlt, hti, hn]
    simp only [Option.isNone_none, Option.isNone_some, if_true, Bool.false_eq_true, if_false]
    omega
  · rw [hl.deliveries, Run.results, if_neg (by omega), List.nil_append]

theorem deliveriesOf_of_delivered {s s' : Session} {l : List Delivery}
    (h : s'.delivered = s.delivered ++ l) (n : Nat) :
    s'.deliveriesOf n = s.deliveriesOf n ++ l.filter fun d => d.run = some n := by
  simp [deliveriesOf, h]

/-- A second report of a task changes nothing. -/
theorem Ledger.report_again {h : List Event} {s : Session} (hl : Ledger h s) {ref : TaskRef}
    (passed : Bool) {r : Run} {t : Task} {outcome : Outcome} (hr : s.runs[ref.run]? = some r)
    (ht : r.tasks[ref.task]? = some t) (ho : t.outcome = some outcome) :
    Ledger (h ++ [.report ref passed s.templates]) (s.after (report ref passed)) := by
  have hsome : t.outcome.isSome = true := by rw [ho, Option.isSome_some]
  rw [after_report_of_error hr (Run.report_eq_error_of_reported ht hsome)]
  refine hl.congr fun ref' => ?_
  by_cases hne : ref = ref'
  · subst hne
    have hacc : (accepted h ref).isNone = false := by
      rw [← (hl.runs _ r hr).isNone_outcome ht, ho, Option.isNone_some]
    rw [accepted_append, Option.or_of_isSome]
    simpa using hacc
  · exact accepted_report_ne passed s.templates hne

/-- The first report of a task settles its outcome and takes one off the countdown; if nothing is
    left of it, the result goes out. -/
theorem Ledger.report_first {h : List Event} {s : Session} (hl : Ledger h s) {ref : TaskRef}
    (passed : Bool) {r : Run} {t : Task} (hr : s.runs[ref.run]? = some r)
    (ht : r.tasks[ref.task]? = some t) (hn : t.outcome = none) (hbegun : ref.task < r.begun) :
    Ledger (h ++ [.report ref passed s.templates]) (s.after (report ref passed)) := by
  have hrun := hl.runs _ r hr
  obtain ⟨hlen, -⟩ := List.getElem?_eq_some_iff.1 hr
  obtain ⟨r', ha⟩ := accepts_report passed hr ht hn (hrun.remaining_pos ht hn)
  refine ⟨fun n q hq => ?_, fun n hge => ?_, ha.aside.fields ▸ hl.fields⟩
  · rw [ha.runs, List.getElem?_set] at hq
    rw [deliveriesOf_of_delivered ha.delivered, ha.aside.separator]
    by_cases hrn : ref.run = n
    · subst hrn
      obtain rfl : r' = q := by simpa [hlen] using hq
      rw [r'.filter_results_self]
      exact hrun.settle ht hn hbegun passed s.templates ha.remaining ha.tasks ha.begun
    · have hq' : s.runs[n]? = some q := by simpa [hrn] using hq
      rw [r'.filter_results_ne _ hrn, List.append_nil]
      refine (hl.runs n q hq').congr fun i => accepted_report_ne passed _ fun he => hrn ?_
      exact congrArg TaskRef.run he
  · rw [ha.runs, List.length_set] at hge
    have hrn : ref.run ≠ n := by omega
    obtain ⟨hd, hnone⟩ := hl.unstarted n hge
    constructor
    · rw [deliveriesOf_of_delivered ha.delivered, hd, r'.filter_results_ne _ hrn, List.nil_append]
    · intro i
      rw [accepted_report_ne passed _ fun he => hrn (congrArg TaskRef.run he), hnone]

theorem Ledger.report {h : List Event} {s : Session} (hl : Ledger h s) {ref : TaskRef}
    (passed : Bool) (hb : s.HasBegun ref) :
    Ledger (h ++ [.report ref passed s.templates]) (s.after (report ref passed)) := by
  obtain ⟨r, hr, hbegun⟩ := hb
  have hlt : ref.task < r.tasks.length :=
    Nat.lt_of_lt_of_le hbegun (hl.runs _ r hr).begun_le
  have ht : r.tasks[ref.task]? = some r.tasks[ref.task] := List.getElem?_eq_getElem hlt
  cases hn : r.tasks[ref.task].outcome with
  | none => exact hl.report_first passed hr ht hn hbegun
  | some outcome => exact hl.report_again passed hr ht hn

theorem Ledger.edit {h : List Event} {s s' : Session} (hl : Ledger h s) (he : Edit s s') :
    Ledger (h ++ [.edit]) s' := by
  refine Ledger.congr (h := h) ?_ fun ref => accepted_snoc_of_none rfl
  refine ⟨fun n r hr => ?_, fun n hn => ?_, he.fields hl.fields⟩
  · rw [he.separator, he.deliveries n]
    exact hl.runs n r (he.runs ▸ hr)
  · rw [he.deliveries n]
    exact hl.unstarted n (he.runs ▸ hn)

/-- A moment keeps the ledger. -/
theorem Step.ledger {h : List Event} {e : Event} {s s' : Session} (hs : Step s e s')
    (hl : Ledger h s) : Ledger (h ++ [e]) s' := by
  cases hs with
  | start loop hc => exact hl.openRun loop hc
  | begin hr hlt => exact hl.beginTask hr hlt
  | report passed hb => exact hl.report passed hb
  | edit he => exact hl.edit he

namespace History

theorem ledger_append {h h' : List Event} {s s' : Session} (hh : History s h' s')
    (hl : Ledger h s) : Ledger (h ++ h') s' := by
  induction hh with
  | nil => rwa [List.append_nil]
  | snoc _ hs ih =>
    rw [← List.append_assoc]
    exact hs.ledger ih

/-- The ledger holds after every history of a new session. -/
theorem ledger {today : Calendar.Today} {registry : Registry} {templates : MessageTable}
    {separator : String} {record : Value} {h : List Event} {s : Session}
    (hh : History (start today registry templates separator record) h s) : Ledger h s :=
  hh.ledger_append (ledger_start today registry templates separator record)

end History

end Session

end FieldRules
