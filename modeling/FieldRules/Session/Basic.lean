import FieldRules.Rule.Spec
import FieldRules.Session.Run

/-!
# Sessions

A session holds a record and the rules of its fields. A run works through all of them; its checks
may report at once or later, and may act on the session meanwhile. Records that a session has put
aside are kept, since a run goes on with the record that it was started on.

Results:
* `field?_map`: what a record has for a field.
-/

namespace FieldRules

/-- A rule of a field: the options that its check gets, and those that its message shows. Model of
    `RuleInstance`. -/
structure RuleUse where
  rule : String
  options : List Value
  shown : List String
  deriving Repr

/-- The rules of a field, and the name that messages have for it. Model of `FieldSpec`. -/
structure FieldSpec where
  friendly : Value
  rules : List RuleUse
  deriving Repr

/-- A task of a run, by their numbers. -/
structure TaskRef where
  run : Nat
  task : Nat
  deriving DecidableEq, Repr

/-- What a run is told at its end: its errors and its record, by its number; and the number of the
    run, if it had tasks. -/
structure Delivery where
  errors : Option (Entries String)
  record : Nat
  run : Option Nat
  deriving Repr

/-- A result that was delivered, and whether its record was the session's own at that time. -/
structure Received extends Delivery where
  isCurrent : Bool
  deriving Repr

/-- A call of a check that was written down. -/
structure CallNote where
  rule : String
  value : Value
  options : List Value
  deriving Repr

/-- Work that waits for the next turn of a loop. -/
inductive Job where
  /-- A check goes on, to give way some more times before its verdict. -/
  | step (task : TaskRef) (yields : Nat) (verdict : Option Bool)
  /-- A verdict is reported. -/
  | settle (task : TaskRef) (passed : Bool)
  /-- A result is handed to who waits for it. -/
  | resolve (result : Delivery)
  /-- Who waits goes on. -/
  | wake (result : Delivery)
  deriving Repr

/-- A loop: its number, the work for its next turn, and the result that was waited for. -/
structure Loop where
  number : Nat
  jobs : List Job
  handed : Bool
  result : Option Delivery
  deriving Repr

/-- A session. `today` is the day that its checks are made on; `kept` has the tasks that kept their
    reports for later, none standing for one of another session; `delivered` has every result that a
    run was told, and `received` those that were for no loop; `loops` counts the loops that have
    been started. Model of `Validator`. -/
structure Session where
  today : Calendar.Today
  registry : Registry
  templates : MessageTable
  separator : String
  records : List Value
  current : Nat
  fields : Entries FieldSpec
  runs : List Run
  kept : List (Option TaskRef)
  notes : List CallNote
  delivered : List Delivery
  received : List Received
  loops : Nat
  loop : Option Loop

/-- What is done in a session; what was done before a fault stays done. -/
abbrev SessionM := ExceptT Fault (StateM Session)

/-- What a record has for a field; nothing for one that it does not have. -/
def Value.field? (record : Value) (field : String) : Except Fault Value :=
  match record with
  | .map entries => .ok ((Entries.get? entries field).getD .null)
  | v => .error (.notRecord v.kindName)

theorem Value.field?_map (entries : Entries Value) (field : String) :
    (Value.map entries).field? field = .ok ((entries.get? field).getD .null) := rfl

/-- A record with a field written. -/
def Value.withField (record : Value) (field : String) (value : Value) : Except Fault Value :=
  match record with
  | .map entries => .ok (.map (Entries.put entries field value))
  | v => .error (.notWritable v.kindName)

namespace Session

/-- A session on a record. -/
def start (today : Calendar.Today) (registry : Registry) (templates : MessageTable)
    (separator : String) (record : Value) : Session :=
  { today, registry, templates, separator, records := [record], current := 0, fields := [],
    runs := [], kept := [], notes := [], delivered := [], received := [], loops := 0, loop := none }

/-- A record by its number. -/
def recordAt (s : Session) (number : Nat) : Value := s.records.getD number (.map [])

/-- The record of a session. -/
def record (s : Session) : Value := s.recordAt s.current

/-- The number of tasks that a run has. Model of `outstanding_tasks`. -/
def taskCount (s : Session) : Nat := (s.fields.flatMap fun e => e.2.rules).length

/-- Writes the record. -/
def setRecord (s : Session) (record : Value) : Session :=
  { s with records := s.records.set s.current record }

/-- Takes another record, and forgets the rules. Model of `set_data`. -/
def replaceRecord (s : Session) (record : Value) : Session :=
  { s with records := s.records ++ [record], current := s.records.length, fields := [] }

/-- Forgets the record and the rules. Model of `Validator.reset`. -/
def reset (s : Session) : Session := s.replaceRecord (.map [])

/-- Goes on on another day. -/
def turnDay (s : Session) (today : Calendar.Today) : Session := { s with today }

/-- Goes on in another state. -/
def become (s : Session) : SessionM Unit := set s

/-- What is left of a session after some action, its fault forgotten. -/
def after {α : Type} (s : Session) (action : SessionM α) : Session := (action.run s).2

/-- Writes a field of the record. -/
def assign (field : String) (value : Value) : SessionM Unit := do
  let s : Session ← get
  let record ← s.record.withField field value
  become (s.setRecord record)

/-- Drops a field of the record. -/
def dropField (field : String) : SessionM Unit := do
  let s : Session ← get
  match s.record with
  | .map entries =>
    if Entries.has entries field then become (s.setRecord (.map (Entries.erase entries field)))
    else throw (.noSuchField field)
  | v => throw (.notWritable v.kindName)

/-! ## Rules of a field -/

/-- The rule that compares a field with another one. -/
def matchesRule : String := "matches"

/-- Puts a rule to use. The rule `matches` takes the other field's value now; its message shows the
    field's name. -/
def useRule (s : Session) (rule : Spec.Rule) : Except Fault RuleUse :=
  if rule.name = matchesRule then
    match rule.options with
    | [] => .error (.noOption true)
    | other :: rest => do
      let value ← s.record.field? other
      let option : Value := match value.ruleText? with | some t => .text t | none => .null
      return ⟨rule.name, option :: rest.map .text, rule.options⟩
  else .ok ⟨rule.name, rule.options.map .text, rule.options⟩

/-- Goes through the rules of a field: transforms change its value, if that counts as present, and
    the others are put to use. -/
def useRules (field : String) : List Spec.Rule → SessionM (List RuleUse)
  | [] => return []
  | rule :: rest => do
    let s : Session ← get
    if rule.isTransform then
      let value ← s.record.field? field
      if value.truthy then
        match s.registry.transforms.get? rule.name with
        | some transform => assign field (← (transform value).mapError Fault.transform)
        | none => throw (.noSuchRule rule.name)
      useRules field rest
    else
      let use ← s.useRule rule
      return use :: (← useRules field rest)

/-- Gives a field its rules, in place of those that it had. Model of `add_rule`. -/
def addRule (field : String) (friendly : Value) (spec : Value) : SessionM Unit := do
  let s : Session ← get
  let rules ← Spec.parseValue s.registry s.templates.has (some field) spec
  let uses ← useRules field rules
  let name := if friendly.truthy then friendly else .text field
  modify fun s => { s with fields := s.fields.put field ⟨name, uses⟩ }

/-- Takes another table of templates, if it has one for every rule in use. Model of
    `set_error_messages`. -/
def setTemplates (templates : MessageTable) : SessionM Unit := do
  let s : Session ← get
  let uses := s.fields.flatMap fun e => e.2.rules.map fun r => (e.1, r.rule)
  match uses.find? fun use => !templates.has use.2 with
  | some (field, rule) => throw (.spec ⟨.missingTemplate, rule, some field⟩)
  | none => become { s with templates }

/-! ## Reports -/

/-- Hands the result of a run to whom it is for. -/
def deliver (result : Delivery) (loop : Option Nat) : SessionM Unit := do
  modify fun s => { s with delivered := s.delivered ++ [result] }
  let s : Session ← get
  match loop, s.loop with
  | none, _ =>
    become { s with received := s.received ++ [⟨result, result.record = s.current⟩] }
  | some number, some l =>
    if l.number = number then
      become { s with loop := some { l with jobs := l.jobs ++ [.resolve result] } }
    else throw .loopClosed
  | some _, none => throw .loopClosed

/-- Takes the report of a task. The last report of a run delivers its result. Model of `done` in
    `execute`. -/
def report (ref : TaskRef) (passed : Bool) : SessionM Unit := do
  let s : Session ← get
  let some run := s.runs[ref.run]? | throw .noSuchReport
  let (run, last, fault) ← run.report s.templates ref.task passed
  become { s with runs := s.runs.set ref.run run }
  if last then deliver ⟨run.errors s.separator, run.record, some ref.run⟩ run.loop
  match fault with
  | some fault => throw fault
  | none => return ()

/-- Reports for a task that kept its report. Numbers below zero count from the end. -/
def complete (number : Int) (passed : Bool) : SessionM Unit := do
  let s : Session ← get
  let index := if number < 0 then number + s.kept.length else number
  if index < 0 then throw .noSuchReport
  let some kept := s.kept[index.toNat]? | throw .noSuchReport
  match kept with
  | some ref => report ref passed
  | none => return ()

/-! ## Runs -/

/-- Does one step of a check. -/
def act (ref : TaskRef) (call : CallNote) : Action → SessionM Unit
  | .note => modify fun s => { s with notes := s.notes ++ [call] }
  | .report passed _ => report ref passed
  | .keep => modify fun s => { s with kept := s.kept ++ [some ref] }
  | .fail fault => throw fault
  | .assign field value => assign field value
  | .configure field friendly spec => addRule field friendly spec
  | .replace record => modify (·.replaceRecord record)
  | .later yields verdict => do
    let s : Session ← get
    match s.loop with
    | some l =>
      become { s with loop := some { l with jobs := l.jobs ++ [.step ref yields verdict] } }
    | none => throw .noLoop

/-- Begins the next task of a run; from then on the task can report. -/
def beginTask (s : Session) (run : Nat) : Session :=
  { s with runs := s.runs.modify run Run.beginNext }

/-- Does the next task of a run: reads the value of its field now, and does what its check does on
    the day it is. Model of the body of the loop in `execute`. -/
def perform (ref : TaskRef) (record : Nat) (task : Task) : SessionM Unit := do
  modify (·.beginTask ref.run)
  let s : Session ← get
  let value ← (s.recordAt record).field? task.field
  let actions ← s.registry.evaluate s.today task.rule value task.options
  let seen : Value :=
    if task.rule = Registry.requiredRule then value
    else match value.ruleText? with | some t => .text t | none => .null
  actions.forM (act ref ⟨task.rule, seen, task.options⟩)

/-- The tasks of a run, from its number on. -/
def performAll (run record : Nat) : List Task → Nat → SessionM Unit
  | [], _ => return ()
  | task :: rest, number => do
    perform ⟨run, number⟩ record task
    performAll run record rest (number + 1)

/-- The tasks that the fields ask for. -/
def tasks (s : Session) : List Task :=
  s.fields.flatMap fun (field, spec) =>
    spec.rules.map fun r => ⟨field, spec.friendly, r.rule, r.options, r.shown, none⟩

/-- Takes up a run. Its tasks are those of now, whatever is done to the session later. -/
def openRun (s : Session) (countdown : Countdown) (loop : Option Nat) : Session :=
  { s with runs := s.runs ++ [⟨s.tasks, s.current, countdown, 0, loop⟩] }

/-- Works through the rules of all fields. A run without tasks is over at once. Model of
    `execute`. -/
def run (loop : Option Nat) : SessionM Unit := do
  let s : Session ← get
  match Countdown.start s.tasks.length with
  | .error _ => deliver ⟨none, s.current, none⟩ loop
  | .ok countdown =>
    become (s.openRun countdown loop)
    performAll s.runs.length s.current s.tasks 0

end Session

end FieldRules
