import FieldRules.Rule.Builtin
import FieldRules.Service.Fault
import FieldRules.Session.Loop
import FieldRules.Settings.Basic

/-!
# Checking records

A checker has settings and a registry. It checks a record in a session of its own: the fields get
their rules, one after the other, and a run works through them. A record of a batch has an identity
too, made of some of its fields.

Results:
* `identity_of_forall_not_has`: a record without any identifying field is unknown.
-/

namespace FieldRules

/-- What records are checked with. -/
structure Checker where
  settings : Settings
  registry : Registry

/-- What is found out about a record: its errors, if there are any, and the record as it is then. -/
structure Report where
  errors : Option (Entries String)
  data : Value
  deriving Repr

/-- Whether a record has no errors. -/
def Report.isValid (r : Report) : Bool := r.errors.isNone

/-- What is found out about a record of a batch. -/
structure BatchEntry where
  identity : String
  report : Report
  deriving Repr

/-- What is known of a rule: whether it acts at once, what it asks for, and its template. -/
structure RuleInfo where
  isImmediate : Bool
  requiresOptions : Bool
  isAsync : Bool
  message : Option String
  deriving DecidableEq, Repr

namespace Checker

open Service (IdentityFault)

/-- A session on a record, on some day; nothing counts as a record without fields. Model of
    `create_validator`. -/
def session (c : Checker) (today : Calendar.Today) (data : Value) : Session :=
  let record := match data with | .null => .map [] | v => v
  Session.start today c.registry c.settings.messages c.settings.separator record

/-- A record as a session on it has left it. -/
def recordAfter (data : Value) (s : Session) : Value :=
  match data with
  | .null => .null
  | _ => s.recordAt 0

/-- Gives a field its rules: a text, or a mapping that may have a name for messages too. Model of
    `_configure`. -/
def configureField (field : String) : Value → SessionM Unit
  | .text spec => Session.addRule field (.text field) (.text spec)
  | .map parts =>
    Session.addRule field ((Entries.get? parts "friendly_name").getD .null)
      ((Entries.get? parts "rules").getD (.text ""))
  | v => throw (.rulesKind v.kindName)

/-- Gives fields their rules. -/
def configure (rules : Entries Value) : SessionM Unit :=
  rules.forM fun (field, spec) => configureField field spec

/-- The first result that a session has received. -/
def firstReport (s : Session) : Except Service.Fault Report :=
  match s.received with
  | [] => .error .incomplete
  | first :: _ => .ok ⟨first.errors, s.recordAt first.record⟩

/-- Checks a record: the session that was made for it, and what is found out. Model of
    `ValidationService.validate`. -/
def validate (c : Checker) (today : Calendar.Today) (data : Value) (rules : Entries Value) :
    Session × Except Service.Fault Report :=
  match (do configure rules; Session.run none : SessionM Unit).run (c.session today data) with
  | (.ok (), s) => (s, firstReport s)
  | (.error fault, s) => (s, .error (.rule fault))

/-- Checks a record in a loop that turns so many times at most; there is no report if the run is not
    over then. Model of `validate_async`. -/
def awaitReport (c : Checker) (today : Calendar.Today) (data : Value) (rules : Entries Value)
    (limit : Nat) : Session × Except Service.Fault (Option Report) :=
  match (configure rules).run (c.session today data) with
  | (.error fault, s) => (s, .error (.rule fault))
  | (.ok (), s) =>
    let (s, result, _) := s.awaitRun [] limit
    (s, (result.mapError .rule).map fun d => d.map fun d => ⟨d.errors, s.recordAt d.record⟩)

/-! ## Identities -/

/-- The names of identifying fields: a list, the keys of a mapping or the letters of a text. -/
def namesIn : Value → Except IdentityFault (List Value)
  | .list names => .ok names
  | .map entries => .ok ((Entries.keys entries).map .text)
  | .text s => .ok (s.toList.map fun c => .text (String.ofList [c]))
  | v => .error (.namesKind v.kindName)

/-- The item of a list; numbers below zero count from the end. -/
def itemAt (items : List Value) (name : Value) : Except IdentityFault Value :=
  let at? (n : Int) : Except IdentityFault Value :=
    let index := if n < 0 then n + items.length else n
    match if index < 0 then none else items[index.toNat]? with
    | some v => .ok v
    | none => .error .outOfRange
  match name with
  | .int n => at? n
  | .bool b => at? (if b then 1 else 0)
  | v => .error (.listItem v.kindName)

/-- What a record has under a name, if it has something. -/
def partOf (record name : Value) : Except IdentityFault (Option Value) :=
  match record, name with
  | .map _, .list _ | .map _, .map _ => .error (.nameKind name.kindName)
  | .map entries, .text key => .ok (Entries.get? entries key)
  | .map _, _ => .ok none
  | .list items, name => if items.any name.same then some <$> itemAt items name else .ok none
  | .text s, .text part =>
    if Markup.NameSet.isPartOf part.toList s.toList then .error .textItem else .ok none
  | .text _, name => .error (.notText name.kindName)
  | v, _ => .error (.recordKind v.kindName)

/-- The identity of a record without an identifying field. -/
def unknownIdentity : String := "unknown"

/-- The identity of a record: the texts of its identifying fields with dashes between them. Model of
    `_extract_id`. -/
def identity (record names : Value) : Except IdentityFault String := do
  let parts ← (← namesIn names).filterMapM (partOf record)
  if parts.isEmpty then return unknownIdentity
  return String.intercalate "-" (parts.map Value.toText)

/-- A record without any identifying field is unknown. -/
theorem identity_of_forall_not_has {entries : Entries Value} {names : List String}
    (h : ∀ name ∈ names, entries.get? name = none) :
    identity (.map entries) (.list (names.map .text)) = .ok unknownIdentity := by
  have hp : (names.map Value.text).filterMapM (partOf (.map entries)) = .ok [] := by
    induction names with
    | nil => rfl
    | cons n names ih =>
      have hn := h n List.mem_cons_self
      have hr := ih fun m hm => h m (List.mem_cons_of_mem _ hm)
      rw [List.map_cons, List.filterMapM_cons]
      simp only [partOf, hn]
      exact hr
  show (do
    let parts ← (names.map Value.text).filterMapM (partOf (.map entries))
    if parts.isEmpty then return unknownIdentity
    return String.intercalate "-" (parts.map Value.toText)) = _
  rw [hp]
  rfl

/-! ## Batches -/

/-- Checks a record of a batch. Model of `_batch_entry`. -/
def validateEntry (c : Checker) (today : Calendar.Today) (rules : Entries Value)
    (names data : Value) : Session × Except Service.Fault BatchEntry :=
  let (s, result) := c.validate today data rules
  (s, do
    let report ← result
    let identity ← (identity (recordAfter data s) names).mapError .identity
    return ⟨identity, report⟩)

/-- Checks the records of a batch up to the first one that cannot be checked: the sessions that were
    made, and what is found out. -/
def validateEach (c : Checker) (today : Calendar.Today) (rules : Entries Value) (names : Value) :
    List Value → List Session × Except Service.Fault (List BatchEntry)
  | [] => ([], .ok [])
  | data :: rest =>
    match c.validateEntry today rules names data with
    | (s, .error fault) => ([s], .error fault)
    | (s, .ok entry) =>
      let (sessions, entries) := c.validateEach today rules names rest
      (s :: sessions, entries.map (entry :: ·))

/-! ## Rules -/

/-- What is known of the rules. Model of `discover_rules`. -/
def ruleInfos (c : Checker) : Entries RuleInfo :=
  c.registry.names.map fun name =>
    (name,
      if c.registry.isTransform name then ⟨true, false, false, none⟩
      else
        match c.registry.get? name with
        | some d => ⟨false, d.requiresOptions, d.isAsync, c.settings.messages.get? name⟩
        | none => ⟨false, false, false, none⟩)

/-! ## Loading -/

/-- Loads settings, and makes a registry of the built-in rules for them. Model of `_initialize`. -/
def load {m : Type → Type} [Monad m] (host : Host m) (config : Option String) :
    ExceptT Settings.Fault m Checker := do
  let settings ← Settings.load host config
  let policy ← settings.policy
  return ⟨settings, Registry.standard policy⟩

end Checker

end FieldRules
