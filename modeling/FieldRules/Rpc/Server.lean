import FieldRules.Json.Reader
import FieldRules.Json.Writer
import FieldRules.Rpc.Request
import FieldRules.Unicode.Blank

/-!
# The server

The server answers requests line by line. Blank lines are skipped. When it has been told to stop, it
still answers the next request. It ends with the input, when it is interrupted, when reading fails,
and with a line that has a number too long to be read.

Results:
* `feed_of_isOver`: a server that has ended does nothing any more.
-/

namespace FieldRules.Rpc

variable {m : Type → Type} [Monad m]

/-! ## Answering -/

/-- Does what a request asks for. -/
def perform (host : Host m) : Call → ServiceM m Value
  | .validate data rules => do
    let today : Calendar.Today ← (host.today : StateT Service m _)
    let s : Service ← get
    let report ← (s.checker.validate today (.map data) rules).2
    return .map (reportParts report)
  | .batchValidate records rules idFields => do
    let (_, result) ← Service.batch host records rules idFields
    return .list ((← result).map entryValue)
  | .discoverRules => do
    let s : Service ← get
    return .map (s.checker.ruleInfos.map fun e => (e.1, ruleInfoValue e.2))
  | .reloadConfig => do
    Service.reload host
    return .map [("status", .text "ok"), ("message", .text "Configuration reloaded")]
  | .configAge => return .map [("config_age", .float (← Service.age host))]

/-- The problem that a fault of the service is. -/
def problemOf : Service.Fault → Problem
  | .rule (.spec f) => .ofSpec f
  | f => .ofDetail f.message

/-- Whether a fault is noted. -/
def isNoted : Service.Fault → Bool
  | .rule (.spec _) => false
  | _ => true

/-- Answers a request that has been read; what is noted meanwhile comes with the outcome. Model of
    `_dispatch`. -/
def dispatch (host : Host m) (r : Request) :
    StateT Service m (List String × Except Problem Value) := do
  let head := s!"dispatching {r.method.toText}"
  let failed (detail : String) : List String × Except Problem Value :=
    ([head, s!"request failed: {detail}"], .error (.ofDetail detail))
  match r.method with
  | .list _ | .map _ => return failed s!"unhashable type: '{r.method.kindName}'"
  | method =>
    match callOf method r.params with
    | .error refusal => return ([head], .error (.ofRefusal refusal))
    | .ok call =>
      match ← (perform host call).run with
      | .ok result => return ([head], .ok result)
      | .error fault =>
        return (head :: (if isNoted fault then [s!"request failed: {fault.message}"] else []),
          .error (problemOf fault))

/-- Answers a line. A line with a number that has too many digits has no answer. Model of
    `handle_request`. -/
def answer (host : Host m) (line : List Char) :
    StateT Service m (Except Nat (List String × Response)) := do
  match Json.read line with
  | .error (.tooManyDigits count) => return .error count
  | .error (.malformed cause remaining) =>
    return .ok ([], ⟨.null, .error (.ofParse (Json.placeMessage line cause remaining))⟩)
  | .ok v =>
    match Request.read v with
    | .error (id, refusal) => return .ok ([], ⟨id, .error (.ofRefusal refusal)⟩)
    | .ok request => do
      let (notes, outcome) ← dispatch host request
      return .ok (notes, ⟨request.id, outcome⟩)

/-! ## The loop -/

/-- What happens to a server: a line with its end comes in, it is told to stop, it is interrupted,
    reading fails, or the input ends. -/
inductive Event where
  | line (text : String)
  | stop
  | interrupt
  | failure (detail : String)
  | inputEnd
  deriving DecidableEq, Repr

/-- What a server puts out: lines of responses, and notes on what it does. -/
inductive Output where
  | response (line : String)
  | note (text : String)
  deriving DecidableEq, Repr

/-- A server: its service, whether it goes on after the next request, and whether it has ended.
    Model of `ValidationJsonRpcServer`. -/
structure Server where
  service : Service
  isRunning : Bool
  isOver : Bool

namespace Server

/-- A server at its start. -/
def start (service : Service) : Server × List Output :=
  (⟨service, true, false⟩, [.note "server started"])

/-- The server at its end: the pool is closed. -/
def finish (s : Server) (outputs : List Output) : Server × List Output :=
  ({ s with service := { s.service with pool := none }, isOver := true },
    outputs ++ [.note "server stopped"])

/-- A text without the blanks at its ends. -/
def trimmed (text : String) : String := String.ofList (Unicode.trim text.toList)

/-- Takes a line that is not blank. -/
def takeLine (host : Host m) (s : Server) (text : String) : m (Server × List Output) := do
  let received := Output.note s!"<- {trimmed text}"
  let (result, service) ← (answer host text.toList).run s.service
  let s := { s with service }
  match result with
  | .error count =>
    return s.finish [received, .note s!"server loop failed: {tooManyDigitsMessage count}"]
  | .ok (notes, response) =>
    let written := Json.write response.toValue
    let outputs :=
      received :: notes.map .note ++ [.note s!"-> {written}", .response written]
    return if s.isRunning then (s, outputs) else s.finish outputs

/-- What a server does at an event. Model of `start_server`. -/
def feed (host : Host m) (s : Server) (event : Event) : m (Server × List Output) :=
  if s.isOver then pure (s, [])
  else
    match event with
    | .line text => if trimmed text = "" then pure (s, []) else s.takeLine host text
    | .stop => pure ({ s with isRunning := false }, [.note "stop requested"])
    | .interrupt => pure (s.finish [.note "interrupted"])
    | .failure detail => pure (s.finish [.note s!"server loop failed: {detail}"])
    | .inputEnd => pure (s.finish [.note "stdin closed"])

/-- A server that has ended does nothing any more. -/
theorem feed_of_isOver (host : Host m) (s : Server) (event : Event) (h : s.isOver = true) :
    s.feed host event = pure (s, []) := by
  simp [feed, h]

end Server

/-- The text of a note. -/
def noteText (text : String) : String := "[DEBUG] " ++ text

end FieldRules.Rpc
