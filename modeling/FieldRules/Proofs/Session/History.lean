import FieldRules.Proofs.Session.Action

/-!
# Histories of a session

Between the steps of a run anything may happen: checks report for their own task or for another
one, at once or later, once, twice or never; they act on the session, start other runs, and fail or
put up with a fault. A history lists what happened to a session, moment by moment, and leaves open
who did it. Only two things bind it: a task reports no earlier than it has been begun, and nothing
but reports and the steps of a run touches a run or hands over its result.

Results:
* `History.trans`, `History.of_cons`: histories are put together and taken apart.
* `History.continues`: a run keeps its tasks, its record and its receiver.
* `History.hasBegun`: a task that has been begun stays so.
-/

namespace FieldRules

/-! ## Runs that go on -/

/-- A task before any report. -/
def Task.unreported (t : Task) : Task := { t with outcome := none }

/-- A run that goes on: nothing of it changes but outcomes, the countdown, and how many tasks have
    been begun. -/
structure Run.Continues (r r' : Run) : Prop where
  tasks : r'.tasks.map Task.unreported = r.tasks.map Task.unreported
  record : r'.record = r.record
  loop : r'.loop = r.loop
  begun : r.begun ≤ r'.begun

namespace Run

theorem Continues.refl (r : Run) : r.Continues r := ⟨rfl, rfl, rfl, Nat.le_refl _⟩

theorem Continues.trans {r r' r'' : Run} (h : r.Continues r') (h' : r'.Continues r'') :
    r.Continues r'' :=
  ⟨h'.tasks.trans h.tasks, h'.record.trans h.record, h'.loop.trans h.loop,
    Nat.le_trans h.begun h'.begun⟩

theorem Continues.length_eq {r r' : Run} (h : r.Continues r') :
    r'.tasks.length = r.tasks.length := by
  have := congrArg List.length h.tasks
  rwa [List.length_map, List.length_map] at this

theorem beginNext_continues (r : Run) : r.Continues r.beginNext := ⟨rfl, rfl, rfl, Nat.le_succ _⟩

/-- A report that is accepted settles a task of the run that had no outcome. -/
theorem eq_of_report_eq_ok {r r' : Run} {templates : MessageTable} {i : Nat} {passed last : Bool}
    {fault : Option Fault} (h : r.report templates i passed = .ok (r', last, fault)) :
    ∃ t c, r.tasks[i]? = some t ∧ t.outcome = none ∧
      r' = { r with
        tasks := r.tasks.set i { t with outcome := some (t.judge templates passed).1 }
        countdown := c } := by
  unfold Run.report at h
  cases ht : r.tasks[i]? with
  | none => rw [ht] at h; cases h
  | some t =>
    rw [ht] at h
    simp only at h
    split at h
    · cases h
    · next hn =>
      rcases harr : r.countdown.arrive with _ | ⟨c, l⟩
      · rw [harr] at h; cases h
      · rw [harr] at h
        cases h
        refine ⟨t, c, rfl, ?_, rfl⟩
        simpa using hn

theorem continues_of_report_eq_ok {r r' : Run} {templates : MessageTable} {i : Nat}
    {passed last : Bool} {fault : Option Fault}
    (h : r.report templates i passed = .ok (r', last, fault)) :
    r.Continues r' ∧ r'.begun = r.begun := by
  obtain ⟨t, c, ht, -, rfl⟩ := eq_of_report_eq_ok h
  refine ⟨⟨?_, rfl, rfl, Nat.le_refl _⟩, rfl⟩
  apply List.ext_getElem?
  intro j
  simp only [List.map_set, List.getElem?_set, List.getElem?_map, List.length_map]
  split
  · next hij =>
    subst hij
    obtain ⟨hi, rfl⟩ := List.getElem?_eq_some_iff.1 ht
    simp [hi, Task.unreported]
  · rfl

end Run

namespace Session

/-! ## Events -/

/-- What happens to a session at one moment. -/
inductive Event where
  /-- A run is taken up. -/
  | start (loop : Option Nat)
  /-- The next task of a run is begun. -/
  | begin (run : Nat)
  /-- A task reports, under the templates of that moment. -/
  | report (ref : TaskRef) (passed : Bool) (templates : MessageTable)
  /-- Anything else is done to the session. -/
  | edit

/-- The verdict and the templates of an event, if it is a report of a task. -/
def Event.reportOf (ref : TaskRef) : Event → Option (Bool × MessageTable)
  | .report ref' passed templates => if ref' = ref then some (passed, templates) else none
  | _ => none

/-- The number of the task and the verdict of an event, if it is a report in a run. -/
def Event.reportIn (run : Nat) : Event → Option (Nat × Bool)
  | .report ref passed _ => if ref.run = run then some (ref.task, passed) else none
  | _ => none

/-- The report of a task that counts: its first one. -/
def accepted (h : List Event) (ref : TaskRef) : Option (Bool × MessageTable) :=
  h.findSome? (·.reportOf ref)

/-- All reports in a run, in the order in which they were made. -/
def reportsIn (h : List Event) (run : Nat) : List (Nat × Bool) := h.filterMap (·.reportIn run)

/-- The results that a run has handed over. -/
def deliveriesOf (s : Session) (run : Nat) : List Delivery :=
  s.delivered.filter fun d => d.run = some run

/-- Whether a task has been begun. -/
def HasBegun (s : Session) (ref : TaskRef) : Prop :=
  ∃ r, s.runs[ref.run]? = some r ∧ ref.task < r.begun

/-- A change of a session that is none of its runs' doing: records, rules, templates, the registry
    and the loop may change as they like, as long as every field has its rules once. -/
structure Edit (s s' : Session) : Prop where
  runs : s'.runs = s.runs
  deliveries : ∀ n, s'.deliveriesOf n = s.deliveriesOf n
  separator : s'.separator = s.separator
  fields : s.fields.keys.Nodup → s'.fields.keys.Nodup

/-- One moment of a session. -/
inductive Step : Session → Event → Session → Prop where
  | start {s : Session} {countdown : Countdown} (loop : Option Nat)
      (h : Countdown.start s.tasks.length = .ok countdown) :
      Step s (.start loop) (s.openRun countdown loop)
  | begin {s : Session} {n : Nat} {r : Run} (hr : s.runs[n]? = some r)
      (h : r.begun < r.tasks.length) : Step s (.begin n) (s.beginTask n)
  | report {s : Session} {ref : TaskRef} (passed : Bool) (h : s.HasBegun ref) :
      Step s (.report ref passed s.templates) (s.after (report ref passed))
  | edit {s s' : Session} (h : Edit s s') : Step s .edit s'

/-- What happened to a session, from one state to another. -/
inductive History : Session → List Event → Session → Prop where
  | nil (s : Session) : History s [] s
  | snoc {s s' s'' : Session} {h : List Event} {e : Event} (hh : History s h s')
      (hs : Step s' e s'') : History s (h ++ [e]) s''

/-! ## Putting histories together -/

namespace History

theorem single {s s' : Session} {e : Event} (h : Step s e s') : History s [e] s' :=
  .snoc (.nil s) h

theorem trans {s s' s'' : Session} {h h' : List Event} (hh : History s h s')
    (hh' : History s' h' s'') : History s (h ++ h') s'' := by
  induction hh' with
  | nil => rwa [List.append_nil]
  | snoc _ hs ih =>
    rw [← List.append_assoc]
    exact .snoc ih hs

/-- A history of two parts goes through a state between them. -/
theorem of_append {s s'' : Session} {h h' : List Event} (hh : History s (h ++ h') s'') :
    ∃ s', History s h s' ∧ History s' h' s'' := by
  generalize hl : h ++ h' = l at hh
  induction hh generalizing h' with
  | nil =>
    obtain ⟨rfl, rfl⟩ := List.append_eq_nil_iff.1 hl
    exact ⟨s, .nil s, .nil s⟩
  | @snoc _ _ g e hh hs ih =>
    rcases List.eq_nil_or_concat h' with rfl | ⟨h'', e', rfl⟩
    · rw [List.append_nil] at hl
      subst hl
      exact ⟨_, .snoc hh hs, .nil _⟩
    · rw [List.concat_eq_append] at hl ⊢
      rw [← List.append_assoc] at hl
      obtain ⟨rfl, rfl⟩ := List.append_singleton_inj.1 hl
      obtain ⟨s₁, h₁, h₂⟩ := ih rfl
      exact ⟨s₁, h₁, .snoc h₂ hs⟩

theorem eq_of_nil {s s' : Session} (hh : History s [] s') : s' = s := by
  generalize hl : ([] : List Event) = l at hh
  cases hh with
  | nil => rfl
  | snoc => simp at hl

/-- The first event of a history, and the history after it. -/
theorem of_cons {s s'' : Session} {e : Event} {h : List Event} (hh : History s (e :: h) s'') :
    ∃ s', Step s e s' ∧ History s' h s'' := by
  obtain ⟨s', h₁, h₂⟩ := of_append (h := [e]) hh
  refine ⟨s', ?_, h₂⟩
  generalize hl : [e] = l at h₁
  cases h₁ with
  | nil => cases hl
  | snoc hg hs =>
    rw [← List.nil_append [e]] at hl
    obtain ⟨rfl, rfl⟩ := List.append_singleton_inj.1 hl
    rwa [eq_of_nil hg] at hs

end History

/-! ## What every history leaves alone -/

theorem Edit.refl (s : Session) : Edit s s := ⟨rfl, fun _ => rfl, rfl, id⟩

theorem Edit.trans {s s' s'' : Session} (h : Edit s s') (h' : Edit s' s'') : Edit s s'' :=
  ⟨h'.runs.trans h.runs, fun n => (h'.deliveries n).trans (h.deliveries n),
    h'.separator.trans h.separator, fun hf => h'.fields (h.fields hf)⟩

/-- A run goes on with every moment, and only its own beginnings begin its tasks. -/
theorem Step.continues {s s' : Session} {e : Event} (hs : Step s e s') {n : Nat} {r : Run}
    (hr : s.runs[n]? = some r) :
    ∃ r', s'.runs[n]? = some r' ∧ r.Continues r' ∧ (e ≠ .begin n → r'.begun = r.begun) := by
  have same : s'.runs[n]? = some r →
      ∃ r', s'.runs[n]? = some r' ∧ r.Continues r' ∧ (e ≠ .begin n → r'.begun = r.begun) :=
    fun h => ⟨r, h, .refl r, fun _ => rfl⟩
  cases hs with
  | start loop h =>
    apply same
    exact List.getElem?_append_left (List.getElem?_eq_some_iff.1 hr).1 ▸ hr
  | @begin m _ hm h =>
    show ∃ r', (s.runs.modify m Run.beginNext)[n]? = some r' ∧ _
    rw [List.getElem?_modify, hr]
    by_cases hmn : m = n
    · exact ⟨r.beginNext, by simp [hmn], r.beginNext_continues, by simp [hmn]⟩
    · exact ⟨r, by simp [hmn], .refl r, fun _ => rfl⟩
  | @report ref passed h =>
    obtain ⟨q, hq, -⟩ := h
    rcases hrep : q.report s.templates ref.task passed with fault | ⟨q', last, fault⟩
    · apply same
      rw [after_report_of_error hq hrep]
      exact hr
    · have hruns : (s.after (Session.report ref passed)).runs = s.runs.set ref.run q' := by
        rw [after_report_of_ok hq hrep]
        cases last <;> simp
      rw [hruns, List.getElem?_set]
      by_cases hn : ref.run = n
      · subst hn
        obtain ⟨hlt, -⟩ := List.getElem?_eq_some_iff.1 hr
        obtain rfl := Option.some.inj (hq.symm.trans hr)
        obtain ⟨hc, hb⟩ := Run.continues_of_report_eq_ok hrep
        exact ⟨q', by simp [hlt], hc, fun _ => hb⟩
      · exact ⟨r, by rw [if_neg hn]; exact hr, .refl r, fun _ => rfl⟩
  | edit h => exact same (h.runs ▸ hr)

theorem Step.separator {s s' : Session} {e : Event} (hs : Step s e s') :
    s'.separator = s.separator := by
  cases hs with
  | start | begin => rfl
  | @report ref passed h =>
    obtain ⟨r, hr, -⟩ := h
    rcases hrep : r.report s.templates ref.task passed with fault | ⟨r', last, fault⟩
    · rw [after_report_of_error hr hrep]
    · rw [after_report_of_ok hr hrep]
      cases last with
      | false => rfl
      | true => exact (aside_deliver _ _ _).separator
  | edit h => exact h.separator

namespace History

theorem separator {s s' : Session} {h : List Event} (hh : History s h s') :
    s'.separator = s.separator := by
  induction hh with
  | nil => rfl
  | snoc _ hs ih => rw [hs.separator, ih]

/-- A run keeps its tasks, its record and its receiver, and only its own beginnings begin its
    tasks. -/
theorem continues {s s' : Session} {h : List Event} (hh : History s h s') {n : Nat} {r : Run}
    (hr : s.runs[n]? = some r) :
    ∃ r', s'.runs[n]? = some r' ∧ r.Continues r' ∧ (.begin n ∉ h → r'.begun = r.begun) := by
  induction hh with
  | nil => exact ⟨r, hr, .refl r, fun _ => rfl⟩
  | snoc _ hs ih =>
    obtain ⟨r₁, hr₁, hc₁, hb₁⟩ := ih
    obtain ⟨r₂, hr₂, hc₂, hb₂⟩ := hs.continues hr₁
    refine ⟨r₂, hr₂, hc₁.trans hc₂, fun hn => ?_⟩
    rw [List.mem_append, List.mem_singleton, not_or] at hn
    rw [hb₂ (Ne.symm hn.2), hb₁ hn.1]

theorem length_runs_le {s s' : Session} {h : List Event} (hh : History s h s') :
    s.runs.length ≤ s'.runs.length := by
  rw [← Nat.not_lt]
  intro hlt
  obtain ⟨_, hr, -⟩ := hh.continues (List.getElem?_eq_getElem hlt)
  rw [List.getElem?_eq_none (Nat.le_refl _)] at hr
  cases hr

/-- A task that has been begun stays so. -/
theorem hasBegun {s s' : Session} {h : List Event} (hh : History s h s') {ref : TaskRef}
    (hb : s.HasBegun ref) : s'.HasBegun ref := by
  obtain ⟨r, hr, hlt⟩ := hb
  obtain ⟨r', hr', hc, -⟩ := hh.continues hr
  exact ⟨r', hr', Nat.lt_of_lt_of_le hlt hc.begun⟩

end History

end Session

end FieldRules
