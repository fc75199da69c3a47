import FieldRules.Message
import FieldRules.Session.Countdown

/-!
# Runs

A run has one task for every rule of every field, in their order. Each task reports once. When the
last one has reported, the messages of the failed ones are collected by field.

Results:
* `report_eq_error_of_reported`: a second report of a task is refused.
-/

namespace FieldRules

/-- What a task has reported. A failure whose message could not be made is unrecorded. -/
inductive Outcome where
  | passed
  | failed (message : String)
  | unrecorded
  deriving DecidableEq, Repr

/-- One rule of one field in a run. Model of `RuleContext`. -/
structure Task where
  field : String
  friendly : Value
  rule : String
  options : List Value
  shown : List String
  outcome : Option Outcome
  deriving Repr

/-- A run: its tasks, the number of the record it is about, the countdown of its reports, how many
    of its tasks have been begun, and the loop that waits for it, if one does. -/
structure Run where
  tasks : List Task
  record : Nat
  countdown : Countdown
  begun : Nat
  loop : Option Nat
  deriving Repr

/-- The message of a task that has failed. -/
def Task.message? (t : Task) : Option String :=
  match t.outcome with
  | some (.failed message) => some message
  | _ => none

/-- Adds a message to those of a field. -/
def addMessage (separator : String) (errors : Entries String) (field message : String) :
    Entries String :=
  match errors.get? field with
  | some before => errors.put field (before ++ separator ++ message)
  | none => errors.put field message

/-- The messages of the failed tasks by field, in the order of the tasks. -/
def errorsOf (separator : String) (tasks : List Task) : Entries String :=
  tasks.foldl (fun errors t =>
    match t.message? with
    | some message => addMessage separator errors t.field message
    | none => errors) []

/-- What a report means for a task: its outcome, and the fault that the reporter is told. A failure
    without a template has the fault itself for its message. Model of `_record_failure`. -/
def Task.judge (t : Task) (templates : MessageTable) (passed : Bool) : Outcome × Option Fault :=
  if passed then (.passed, none)
  else
    match templates.format t.rule t.friendly (t.shown.map .text) with
    | .ok message => (.failed message, none)
    | .error (.spec fault) => (.failed fault.message, some (.spec fault))
    | .error fault => (.unrecorded, some fault)

namespace Run

/-- The errors of a run that is over; none if every task passed. Model of `finalize` in
    `execute`. -/
def errors (r : Run) (separator : String) : Option (Entries String) :=
  match errorsOf separator r.tasks with
  | [] => none
  | errors => some errors

/-- Begins the next task of a run. -/
def beginNext (r : Run) : Run := { r with begun := r.begun + 1 }

/-- What a report does to a run: the run after it, whether it was the last report, and the fault
    that the reporter is told. -/
def report (r : Run) (templates : MessageTable) (i : Nat) (passed : Bool) :
    Except Fault (Run × Bool × Option Fault) :=
  match r.tasks[i]? with
  | none => .error .noSuchReport
  | some t =>
    if t.outcome.isSome then .error (.reportedTwice t.rule t.field)
    else do
      let (outcome, fault) := t.judge templates passed
      let (countdown, last) ← r.countdown.arrive
      let tasks := r.tasks.set i { t with outcome := some outcome }
      return ({ r with tasks, countdown }, last, fault)

/-- A second report of a task is refused. -/
theorem report_eq_error_of_reported {r : Run} {templates : MessageTable} {i : Nat} {passed : Bool}
    {t : Task} (ht : r.tasks[i]? = some t) (h : t.outcome.isSome = true) :
    r.report templates i passed = .error (.reportedTwice t.rule t.field) := by
  simp [report, ht, h]

end Run

end FieldRules
