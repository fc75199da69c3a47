import FieldRules.Service.Basic

/-!
# Requests and responses

A request is an object with a version, an identifier, a method and parameters. A response has the
identifier of its request, and either a result or an error with a code.
-/

namespace FieldRules.Rpc

/-- The version of the protocol. -/
def version : String := "2.0"

/-! ## Requests -/

/-- Why a request is refused. -/
inductive Refusal where
  | notObject
  | wrongVersion (found : Value)
  | noMethod
  | paramsKind (kind : String)
  | unknownMethod (method : Value)
  | missingParam (name : String)
  | paramKind (name expected found : String)
  deriving Repr

/-- The code of a refusal. -/
def Refusal.code : Refusal → Int
  | notObject | wrongVersion _ | noMethod => -32600
  | unknownMethod _ => -32601
  | paramsKind _ | missingParam _ | paramKind _ _ _ => -32602

/-- The wording of a refusal. -/
def Refusal.message : Refusal → String
  | notObject => "Request must be a JSON object"
  | wrongVersion found => s!"Invalid JSON-RPC version: {found.toText}"
  | noMethod => "Missing 'method' field"
  | paramsKind kind => s!"Params must be an object, got {kind}"
  | unknownMethod method => s!"Method not found: {method.toText}"
  | missingParam name => s!"Missing required parameter: {name}"
  | paramKind name expected found => s!"Parameter '{name}' must be {expected}, got {found}"

/-- A request. -/
structure Request where
  id : Value
  method : Value
  params : Entries Value
  deriving Repr

/-- What a request asks for. -/
inductive Call where
  | validate (data rules : Entries Value)
  | batchValidate (records : List Value) (rules : Entries Value) (idFields : Value)
  | discoverRules
  | reloadConfig
  | configAge
  deriving Repr

/-- Reads the envelope of a request. A refusal comes with the identifier, once that is known. Model
    of `_unpack`. -/
def Request.read (v : Value) : Except (Value × Refusal) Request :=
  match v with
  | .map parts =>
    let part (name : String) : Value := (Entries.get? parts name).getD .null
    if !(part "jsonrpc").same (.text version) then
      .error (.null, .wrongVersion (part "jsonrpc"))
    else if !(part "method").truthy then .error (part "id", .noMethod)
    else
      match (Entries.get? parts "params").getD (.map []) with
      | .map params => .ok ⟨part "id", part "method", params⟩
      | params => .error (part "id", .paramsKind params.kindName)
  | _ => .error (.null, .notObject)

/-- The entries of an object. -/
def entriesIn? : Value → Option (Entries Value)
  | .map entries => some entries
  | _ => none

/-- The items of a list. -/
def itemsIn? : Value → Option (List Value)
  | .list items => some items
  | _ => none

/-- A parameter that has to be there, and of the kind that can be read so. Model of `_require`. -/
def required {α : Type} (read : Value → Option α) (expected : String) (params : Entries Value)
    (name : String) : Except Refusal α :=
  match (params.get? name).getD .null with
  | .null => .error (.missingParam name)
  | v =>
    match read v with
    | some found => .ok found
    | none => .error (.paramKind name expected v.kindName)

/-- A parameter that has to be an object. -/
def requiredMap : Entries Value → String → Except Refusal (Entries Value) :=
  required entriesIn? (Value.map []).kindName

/-- A parameter that has to be a list. -/
def requiredList : Entries Value → String → Except Refusal (List Value) :=
  required itemsIn? (Value.list []).kindName

/-- What a method asks for with its parameters. Model of the handlers, such as
    `_handle_validate`. -/
def callOf (method : Value) (params : Entries Value) : Except Refusal Call :=
  match method with
  | .text "validate" => do
    let data ← requiredMap params "data"
    return .validate data (← requiredMap params "rules")
  | .text "batch_validate" => do
    let records ← requiredList params "records"
    let rules ← requiredMap params "rules"
    return .batchValidate records rules ((params.get? "id_fields").getD (.list []))
  | .text "discover_rules" => .ok .discoverRules
  | .text "reload_config" => .ok .reloadConfig
  | .text "get_config_age" => .ok .configAge
  | method => .error (.unknownMethod method)

/-! ## Responses -/

/-- What went wrong with a request. -/
structure Problem where
  code : Int
  message : String
  data : Option Value
  deriving Repr

/-- A response. -/
structure Response where
  id : Value
  outcome : Except Problem Value

namespace Problem

/-- A line that cannot be read. -/
def ofParse (detail : String) : Problem := ⟨-32700, s!"Parse error: {detail}", none⟩

/-- A request that is refused. -/
def ofRefusal (r : Refusal) : Problem := ⟨r.code, r.message, none⟩

/-- A fault of the service itself. -/
def ofDetail (detail : String) : Problem := ⟨-32000, s!"Internal error: {detail}", none⟩

/-- A rule text that is wrong. -/
def ofSpec (f : SpecFault) : Problem :=
  ⟨-32001, f.message,
    some (.map
      [("type", .text f.cause.name), ("rule_name", .text f.rule),
       ("field_name", match f.field with | some field => .text field | none => .null)])⟩

/-- A problem as a value. -/
def toValue (p : Problem) : Value :=
  .map ([("code", .int p.code), ("message", .text p.message)] ++
    (match p.data with | some data => [("data", data)] | none => []))

end Problem

/-- A response as a value. -/
def Response.toValue (r : Response) : Value :=
  .map [("jsonrpc", .text version), ("id", r.id),
    match r.outcome with
    | .ok result => ("result", result)
    | .error problem => ("error", problem.toValue)]

/-! ## Results -/

/-- The errors of a report as a value. -/
def errorsValue (r : Report) : Value := .map ((r.errors.getD []).map fun e => (e.1, .text e.2))

/-- The parts of a report. -/
def reportParts (r : Report) : Entries Value :=
  [("valid", .bool r.isValid), ("errors", errorsValue r), ("data", r.data)]

/-- What is found out about a record of a batch, as a value. -/
def entryValue (e : BatchEntry) : Value :=
  .map (("record_id", .text e.identity) :: reportParts e.report)

/-- What is known of a rule, as a value. -/
def ruleInfoValue (i : RuleInfo) : Value :=
  .map
    [("kind", .text (if i.isImmediate then "immediate" else "deferred")),
     ("requires_options", .bool i.requiresOptions),
     ("asynchronous", .bool i.isAsync),
     ("message", match i.message with | some t => .text t | none => .null)]

end FieldRules.Rpc
