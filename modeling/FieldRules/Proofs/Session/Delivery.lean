import FieldRules.Proofs.Session.Conduct
import FieldRules.Proofs.Session.Errors

/-!
# When a run hands over its result

Checks may misbehave as they like: a run hands over one result at most, and not before each of its
tasks has reported. A task that has failed is in the errors of that result, unless the template of
its message could not be filled.

Results:
* `delivery_of_history`: when a run hands over a result, and that further reports are refused.
* `deliveriesOf_calls`: nothing that is asked of a session ends a run that was cut short.
* `errors_of_history`: which failures the errors of a result leave out.
-/

namespace FieldRules

/-! ## Failures without a message -/

/-- A table has a template for the rule of a task, and it cannot be filled. -/
def MessageTable.Unfillable (table : MessageTable) (t : Task) : Prop :=
  ∃ fault, table.format t.rule t.friendly (t.shown.map .text) = .error (.template fault)

/-- A message is refused for want of a template, or because the template cannot be filled. -/
theorem MessageTable.fault_of_format {table : MessageTable} {rule : String} {friendly : Value}
    {options : List Value} {fault : Fault} (h : table.format rule friendly options = .error fault) :
    (∃ f, fault = .spec f) ∨ ∃ f, fault = .template f := by
  unfold format at h
  split at h
  · cases h
    exact .inl ⟨_, rfl⟩
  · rcases hfill : Template.fill _ _ with f | message
    · rw [hfill] at h
      cases h
      exact .inr ⟨f, rfl⟩
    · rw [hfill] at h
      cases h

theorem Task.exists_message_iff (t : Task) (table : MessageTable) :
    (∃ message, (t.judge table false).1 = .failed message) ↔ ¬ table.Unfillable t := by
  unfold judge MessageTable.Unfillable
  rcases hf : table.format t.rule t.friendly (t.shown.map .text) with fault | message
  · rcases MessageTable.fault_of_format hf with ⟨f, rfl⟩ | ⟨f, rfl⟩ <;> simp
  · simp

theorem Task.message_ne_of_passed (t : Task) (table : MessageTable) (message : String) :
    (t.judge table true).1 ≠ .failed message := by
  simp [judge]

namespace Session

variable {today : Calendar.Today} {registry : Registry} {templates : MessageTable}
  {separator : String} {record : Value} {h : List Event} {s : Session}

/-! ## One result, and not too early -/

theorem RunLedger.deliveries_of_begun_lt {deliveries : List Delivery} {n : Nat} {r : Run}
    (hl : RunLedger h separator deliveries n r) (hlt : r.begun < r.tasks.length) :
    deliveries = [] := by
  have hne : r.countdown.remaining ≠ 0 := by
    intro hzero
    exact hl.remaining_eq_zero_iff.1 hzero r.begun hlt (hl.unbegun r.begun (Nat.le_refl _))
  rw [hl.deliveries, Run.results, if_neg hne]

/-- A run that ends before it has begun all of its tasks hands over nothing, whatever is reported
    later. -/
theorem History.deliveriesOf_eq_nil
    (hh : History (start today registry templates separator record) h s) {n : Nat} {r : Run}
    (hr : s.runs[n]? = some r) (hlt : r.begun < r.tasks.length)
    {later : List Event} {s' : Session} (hlater : History s later s') (hnone : .begin n ∉ later) :
    s'.deliveriesOf n = [] := by
  obtain ⟨r', hr', hcont, hbegun⟩ := hlater.continues hr
  apply ((hh.trans hlater).ledger.runs n r' hr').deliveries_of_begun_lt
  rw [hbegun hnone, hcont.length_eq]
  exact hlt

/-- Nothing that is asked of a session ends a run that was cut short. -/
theorem deliveriesOf_calls (hh : History (start today registry templates separator record) h s)
    (hs : s.Capable) {n : Nat} {r : Run} (hr : s.runs[n]? = some r)
    (hlt : r.begun < r.tasks.length) (calls : List Call) :
    (calls.foldl call s).deliveriesOf n = [] := by
  obtain ⟨later, hlater, hbase⟩ := (leads_calls hs calls).history
  have hnone : .begin n ∉ later := by
    intro hmem
    have hlen : n < s.runs.length := (List.getElem?_eq_some_iff.1 hr).1
    exact absurd (hbase n hmem) (by omega)
  exact hh.deliveriesOf_eq_nil hr hlt hlater hnone

/-- A run hands over one result at most, and only when each of its tasks has made a report that was
    accepted. A run that ends before it has begun all of its tasks hands over nothing, whatever is
    reported later. Every further report of a task is refused, and leaves the session as it is. -/
theorem delivery_of_history (hh : History (start today registry templates separator record) h s)
    {n : Nat} {r : Run} (hr : s.runs[n]? = some r) :
    (s.deliveriesOf n).length ≤ 1 ∧
      (s.deliveriesOf n ≠ [] ↔ ∀ i < r.tasks.length, accepted h ⟨n, i⟩ ≠ none) ∧
      (r.begun < r.tasks.length → ∀ later s', History s later s' → .begin n ∉ later →
        s'.deliveriesOf n = []) ∧
      ∀ i t passed, r.tasks[i]? = some t → accepted h ⟨n, i⟩ ≠ none →
        (report ⟨n, i⟩ passed).run s = (.error (.reportedTwice t.rule t.field), s) := by
  have hl := hh.ledger.runs n r hr
  refine ⟨?_, ?_, ?_, ?_⟩
  · rw [hl.deliveries, Run.results]
    split <;> simp
  · rw [← hl.remaining_eq_zero_iff, hl.deliveries, Run.results]
    split <;> simp [*]
  · intro hlt later s' hlater hnone
    exact hh.deliveriesOf_eq_nil hr hlt hlater hnone
  · intro i t passed ht hacc
    refine run_report_of_isSome passed hr ht ?_
    rw [hl.outcome i t ht, Option.isSome_map]
    exact Option.isSome_iff_ne_none.2 hacc

/-- A session with two rules on one field, and one on another. -/
def applicant : Session :=
  { start ⟨2024, 5, 31⟩ .empty
      [("long", "Too short."), ("word", "No word."), ("low", "Too old.")] ", " (.map []) with
    fields :=
      [("name", ⟨.text "Name", [⟨"long", [], []⟩, ⟨"word", [], []⟩]⟩),
        ("age", ⟨.text "Age", [⟨"low", [], []⟩]⟩)] }

theorem history_applicant :
    History (start applicant.today .empty applicant.templates ", " (.map [])) [.edit] applicant :=
  .single (.edit ⟨rfl, fun _ => rfl, rfl, fun _ => by decide⟩)

/-- The run of `applicant`, before its first task. -/
def applicantOpen : Session := applicant.openRun ⟨3, 3, Nat.le_refl _⟩ none

theorem step_applicantOpen : Step applicant (.start none) applicantOpen := .start none rfl

/-- The first of three tasks has reported, and the others have not been begun. -/
def cutShort : Session := (applicantOpen.beginTask 0).after (report ⟨0, 0⟩ true)

theorem history_cutShort :
    History (start applicant.today .empty applicant.templates ", " (.map []))
      [.edit, .start none, .begin 0, .report ⟨0, 0⟩ true applicant.templates] cutShort := by
  have hbegin : Step applicantOpen (.begin 0) (applicantOpen.beginTask 0) :=
    .begin rfl (by decide)
  have hreport : Step (applicantOpen.beginTask 0) (.report ⟨0, 0⟩ true applicant.templates)
      cutShort := .report true ⟨_, rfl, by decide⟩
  exact .snoc (.snoc (.snoc history_applicant step_applicantOpen) hbegin) hreport

/-- A run that was cut short hands over nothing, whatever is reported later. -/
theorem delivery_of_cutShort :
    cutShort.deliveriesOf 0 = [] ∧
      (∀ later s', History cutShort later s' → .begin 0 ∉ later → s'.deliveriesOf 0 = []) ∧
      (report ⟨0, 0⟩ false).run cutShort = (.error (.reportedTwice "long" "name"), cutShort) := by
  obtain ⟨-, -, hlater, hagain⟩ := delivery_of_history (n := 0) history_cutShort rfl
  refine ⟨hlater (by decide) [] _ (.nil _) (by simp), hlater (by decide), ?_⟩
  exact hagain 0 _ false rfl (by simp [accepted, Event.reportOf])

/-! ## Failures in the result -/

/-- What a report that was accepted did to its task. -/
theorem RunLedger.failed_iff {deliveries : List Delivery} {n : Nat} {r : Run}
    (hl : RunLedger h separator deliveries n r) {t : Task} :
    (t ∈ r.tasks ∧ ∃ message, t.outcome = some (.failed message)) ↔
      ∃ i table, r.tasks[i]? = some t ∧ accepted h ⟨n, i⟩ = some (false, table) ∧
        ¬ table.Unfillable t := by
  constructor
  · rintro ⟨ht, message, hm⟩
    obtain ⟨i, hi, rfl⟩ := List.getElem_of_mem ht
    have hout := hl.outcome i _ (List.getElem?_eq_getElem hi)
    rw [hm] at hout
    cases hacc : accepted h ⟨n, i⟩ with
    | none => rw [hacc] at hout; cases hout
    | some v =>
      obtain ⟨passed, table⟩ := v
      rw [hacc, Option.map_some, Option.some.injEq] at hout
      cases passed with
      | true => exact absurd hout.symm (Task.message_ne_of_passed _ table message)
      | false =>
        refine ⟨i, table, List.getElem?_eq_getElem hi, hacc, ?_⟩
        exact (Task.exists_message_iff _ table).1 ⟨message, hout.symm⟩
  · rintro ⟨i, table, hi, hacc, hfill⟩
    refine ⟨List.mem_of_getElem? hi, ?_⟩
    obtain ⟨message, hm⟩ := (Task.exists_message_iff t table).2 hfill
    exact ⟨message, by rw [hl.outcome i t hi, hacc, Option.map_some, hm]⟩

/-- The fields with errors are those with a failure that has a message. -/
theorem RunLedger.mem_errors_iff {deliveries : List Delivery} {n : Nat} {r : Run}
    (hl : RunLedger h separator deliveries n r) {field : String} :
    field ∈ (errorsOf separator r.tasks).keys ↔
      ∃ i t table, r.tasks[i]? = some t ∧ t.field = field ∧
        accepted h ⟨n, i⟩ = some (false, table) ∧ ¬ table.Unfillable t := by
  rw [mem_keys_errorsOf]
  constructor
  · rintro ⟨t, ht, hf, hm⟩
    obtain ⟨i, table, hi, hacc, hfill⟩ := hl.failed_iff.1 ⟨ht, hm⟩
    exact ⟨i, t, table, hi, hf, hacc, hfill⟩
  · rintro ⟨i, t, table, hi, hf, hacc, hfill⟩
    obtain ⟨ht, hm⟩ := hl.failed_iff.2 ⟨i, table, hi, hacc, hfill⟩
    exact ⟨t, ht, hf, hm⟩

theorem errors_getD (r : Run) (separator : String) :
    (r.errors separator).getD [] = errorsOf separator r.tasks := by
  unfold Run.errors
  split <;> simp [*]

theorem errors_eq_none_iff (r : Run) (separator : String) :
    r.errors separator = none ↔ errorsOf separator r.tasks = [] := by
  unfold Run.errors
  cases errorsOf separator r.tasks <;> simp

/-- The field of a failed task is missing from the errors of a result just when no failure of that
    field had a template that could be filled or no template at all; and a result is free of errors
    just when that is so for every field. -/
theorem errors_of_history (hh : History (start today registry templates separator record) h s)
    {n : Nat} {r : Run} (hr : s.runs[n]? = some r) {result : Delivery}
    (hd : result ∈ s.deliveriesOf n) :
    (∀ field, field ∉ (result.errors.getD []).keys ↔
      ∀ i t table, r.tasks[i]? = some t → t.field = field →
        accepted h ⟨n, i⟩ = some (false, table) → table.Unfillable t) ∧
    (result.errors = none ↔
      ∀ i t table, r.tasks[i]? = some t → accepted h ⟨n, i⟩ = some (false, table) →
        table.Unfillable t) := by
  have hl := hh.ledger.runs n r hr
  obtain rfl : result = ⟨r.errors s.separator, r.record, some n⟩ := by
    rw [hl.deliveries, Run.results] at hd
    split at hd
    · exact List.mem_singleton.1 hd
    · cases hd
  have hmissing : ∀ field, field ∉ (errorsOf s.separator r.tasks).keys ↔
      ∀ i t table, r.tasks[i]? = some t → t.field = field →
        accepted h ⟨n, i⟩ = some (false, table) → table.Unfillable t := by
    intro field
    rw [hl.mem_errors_iff]
    simp only [not_exists, not_and, not_not]
  constructor
  · intro field
    rw [errors_getD]
    exact hmissing field
  · rw [errors_eq_none_iff]
    constructor
    · intro hnil i t table ht
      exact (hmissing t.field).1 (by simp [hnil, Entries.keys]) i t table ht rfl
    · intro hall
      have hkeys : (errorsOf s.separator r.tasks).keys = [] := by
        rw [List.eq_nil_iff_forall_not_mem]
        intro field
        exact (hmissing field).2 fun i t table ht _ => hall i t table ht
      exact List.map_eq_nil_iff.1 hkeys

/-- A session with one rule, whose check reports a failure and whose template is not closed. -/
def unclosed : Session :=
  { start ⟨2024, 5, 31⟩ ⟨[("short", ⟨fun _ _ _ => [.report false none], false, false, false⟩)], []⟩
      [("short", "\x7b")] ", " (.map [("name", .text "x")]) with
    fields := [("name", ⟨.text "Name", [⟨"short", [], []⟩]⟩)] }

/-- The run of `unclosed`, before its task. -/
def unclosedOpen : Session := unclosed.openRun ⟨1, 1, Nat.le_refl _⟩ none

/-- The only task of a run has failed, and has no message. -/
def unrecorded : Session := (unclosedOpen.beginTask 0).after (report ⟨0, 0⟩ false)

theorem history_unrecorded :
    History (start unclosed.today unclosed.registry unclosed.templates ", "
        (.map [("name", .text "x")]))
      [.edit, .start none, .begin 0, .report ⟨0, 0⟩ false unclosed.templates] unrecorded := by
  have hedit : Edit (start unclosed.today unclosed.registry unclosed.templates ", "
      (.map [("name", .text "x")])) unclosed := ⟨rfl, fun _ => rfl, rfl, fun _ => by decide⟩
  have hstart : Step unclosed (.start none) unclosedOpen := .start none rfl
  have hbegin : Step unclosedOpen (.begin 0) (unclosedOpen.beginTask 0) := .begin rfl (by decide)
  have hreport : Step (unclosedOpen.beginTask 0) (.report ⟨0, 0⟩ false unclosed.templates)
      unrecorded := .report false ⟨_, rfl, by decide⟩
  exact .snoc (.snoc (.snoc (.single (.edit hedit)) hstart) hbegin) hreport

/-- The only task has failed, and the result is free of errors. -/
theorem errors_of_unrecorded : ∃ result ∈ unrecorded.deliveriesOf 0, result.errors = none := by
  have hrun : unrecorded.runs[0]? =
      some ⟨[⟨"name", .text "Name", "short", [], [], some .unrecorded⟩], 0,
        ⟨1, 0, Nat.zero_le _⟩, 1, none⟩ := by with_unfolding_all rfl
  have hd : ⟨none, 0, some 0⟩ ∈ unrecorded.deliveriesOf 0 := by
    have : unrecorded.deliveriesOf 0 = [⟨none, 0, some 0⟩] := by with_unfolding_all rfl
    rw [this]
    exact List.mem_singleton_self _
  refine ⟨_, hd, (errors_of_history history_unrecorded hrun hd).2.2 ?_⟩
  intro i t table ht hacc
  obtain ⟨rfl, rfl⟩ : i = 0 ∧ t = ⟨"name", .text "Name", "short", [], [], some .unrecorded⟩ := by
    cases i with
    | zero => simpa [eq_comm] using ht
    | succ i => simp at ht
  obtain rfl : table = unclosed.templates := by
    simpa [accepted, Event.reportOf, eq_comm] using hacc
  exact ⟨.singleOpen, by with_unfolding_all rfl⟩

/-- The check of the only rule reports a failure, and the run hands over a result without errors. -/
theorem run_unclosed :
    unclosed.registry.evaluate unclosed.today "short" (.text "x") [] = .ok [.report false none] ∧
      (unclosed.after (run none)).delivered.map (·.errors) = [none] := by
  constructor <;> with_unfolding_all rfl

end Session

end FieldRules
