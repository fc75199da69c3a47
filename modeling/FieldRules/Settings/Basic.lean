import FieldRules.Digest
import FieldRules.Host.Path
import FieldRules.Markup.Policy
import FieldRules.Message
import FieldRules.Settings.Fault
import FieldRules.Settings.Location
import FieldRules.Text

/-!
# Settings

Settings are given in a YAML document: where the templates of messages are found, what stands
between the messages of a field, how markup is cleaned, how long remote servers are waited for, and
whether batches are worked on by a pool. All of it may be left out. Templates from remote servers
are copied into a folder; as long as a copy is there, nothing is fetched.
-/

namespace FieldRules

/-- Settings: the document that they were given in, the templates, and the time of loading. -/
structure Settings where
  given : Yaml.Datum
  messages : MessageTable
  loadedAt : Binary64
  deriving Repr

namespace Settings

open Yaml (Datum)

/-! ## Schemas -/

/-- What the document of settings may hold. Model of `LOCAL_CONFIG_SCHEMA`. -/
def configSchema : Schema :=
  .record
    [("error_messages_location", .text),
     ("error_separator", .text),
     ("remote_timeout_seconds", .plain [.number] (some ⟨0, true⟩)),
     ("batch_parallelism", .plain [.truth] none),
     ("batch_max_workers", .plain [.integer, .nothing] (some ⟨1, false⟩)),
     ("sanitize",
      .record
        [("tags", .listOf .text),
         ("attributes", .tableOf (.listOf .text)),
         ("strip", .plain [.truth] none)]
        true)]
    false

/-- What a document of templates may hold. Model of `ERROR_MESSAGES_SCHEMA`. -/
def messageSchema : Schema := .tableOf .text

/-- Refuses a document that does not fit. Model of `_check_schema`. -/
def checkDocument (schema : Schema) (source : String) (d : Datum) : Except Fault Unit :=
  match schema.check d with
  | .ok none => .ok ()
  | .ok (some finding) => .error (.unfit source finding)
  | .error (key, other) => .error (.unordered key other)

/-! ## Parts -/

/-- The settings that are used if none are given. -/
def standardDocument : Datum :=
  let texts (names : List String) : Datum := .list (names.map .text)
  .map
    [(.text "error_separator", .text "<br>"),
     (.text "remote_timeout_seconds", .int 10),
     (.text "sanitize",
      .map
        [(.text "tags", texts ["a", "abbr", "acronym", "b", "blockquote", "code", "em", "i", "li",
            "ol", "strong", "ul"]),
         (.text "attributes",
          .map
            [(.text "a", texts ["href", "title"]),
             (.text "abbr", texts ["title"]),
             (.text "acronym", texts ["title"])]),
         (.text "strip", .bool false)]),
     (.text "batch_parallelism", .bool false),
     (.text "batch_max_workers", .null)]

/-- Where the templates are found, if the settings say so. -/
def locationIn (given : Datum) : Option String :=
  match given.get? "error_messages_location" with
  | some (.text s) => if s = "" then none else some s
  | _ => none

/-- How long remote servers are waited for. -/
def patienceIn (given : Datum) : Value :=
  ((given.get? "remote_timeout_seconds").map Datum.toValue).getD (.int 10)

/-- What stands between the messages of a field. Model of `get_error_separator`. -/
def separator (s : Settings) : String :=
  match s.given.get? "error_separator" with
  | some (.text t) => t
  | _ => "<br>"

/-- How long remote servers are waited for. Model of `get_remote_timeout`. -/
def patience (s : Settings) : Value := patienceIn s.given

/-- What the settings say about markup. -/
def markup (s : Settings) : Value :=
  ((s.given.get? "sanitize").map Datum.toValue).getD (.map [])

/-- Whether batches are worked on by a pool. Model of `get_batch_parallelism`. -/
def isParallel (s : Settings) : Bool :=
  ((s.given.get? "batch_parallelism").map Datum.truthy).getD false

/-- The number of workers of a pool, if it is fixed. Model of `get_batch_max_workers`. -/
def workers (s : Settings) : Value :=
  ((s.given.get? "batch_max_workers").map Datum.toValue).getD .null

/-- What markup is kept. Model of `Sanitizer.from_config`. -/
def policy (s : Settings) : Except Fault Markup.Policy :=
  (Markup.Policy.ofValue s.markup).mapError .markup

/-- A document of templates as a table. -/
def tableOf : Datum → MessageTable
  | .map entries => entries.map fun (key, value) => (key.toText, value.toText)
  | _ => []

/-! ## Loading -/

variable {m : Type → Type} [Monad m]

/-- Goes on with what was done, unless it failed. -/
def orFail {ε α : Type} (wrap : ε → Fault) (action : m (Except ε α)) : ExceptT Fault m α :=
  ExceptT.mk do return (← action).mapError wrap

/-- Reads a document. -/
def readDocument (source : Yaml.Source) : Except Fault Datum :=
  (Yaml.read source.text).mapError (.document source)

/-- Reads a document in a file. Model of `_load_yaml`. -/
def loadFile (host : Host m) (path : String) : ExceptT Fault m Datum := do
  let text ← orFail .file (host.readFile path)
  readDocument ⟨path, Text.plainBreaks text.toList, false⟩

/-- Whether a server refuses to give a document. -/
def isRefused (r : Reply) : Bool := 400 ≤ r.status && r.status < 600

/-- Fetches the text of a remote document. Model of `_fetch_uri`. -/
def fetchText (host : Host m) (uri : String) (patience : Value) : ExceptT Fault m String := do
  let reply ← orFail (fun detail => .fetch uri (.unreachable detail)) (host.fetch uri patience)
  if isRefused reply then throw (.fetch uri (.refused reply.status reply.reason))
  return reply.text

/-- The place of the copy of a remote document. -/
def copyPath (host : Host m) (uri : String) : String :=
  Path.seenFrom host.cacheFolder s!"messages_{Digest.ofText uri}.yaml"

/-- A remote document: its copy, if there is one; else it is fetched, copied and read. Model of
    `_load_config_from_uri`. -/
def loadRemote (host : Host m) (uri : String) (patience : Value) : ExceptT Fault m Datum := do
  let copy := copyPath host uri
  if ← host.isThere copy then loadFile host copy
  else
    let text ← fetchText host uri patience
    orFail .file (host.makeFolder host.cacheFolder)
    orFail .file (host.writeFile copy text)
    readDocument ⟨"<unicode string>", text.toList, true⟩

/-- The document at a location; a path is seen from a folder. Model of `_load_config_from_uri`. -/
def loadFrom (host : Host m) (folder : String) (patience : Value) (written : String) :
    ExceptT Fault m Datum :=
  match Location.read written with
  | .path path => loadFile host (Path.seenFrom folder path)
  | .file path => loadFile host path
  | .remote uri => loadRemote host uri patience
  | .unsupported scheme uri => throw (.unsupportedScheme scheme uri)
  | .malformed fault => throw (.malformedLocation fault)

/-- The document of settings in a file; an empty one says nothing. -/
def loadGiven (host : Host m) (path : String) : ExceptT Fault m Datum := do
  let d ← loadFile host path
  return if d.truthy then d else .map []

/-- Loads the templates that settings ask for; the location is seen from the folder of the
    settings. -/
def loadTable (host : Host m) (folder : String) (given : Datum) : ExceptT Fault m MessageTable := do
  match locationIn given with
  | none => return .standard
  | some written => do
    let d ← loadFrom host folder (patienceIn given) written
    checkDocument messageSchema written d
    return tableOf d

/-- Loads settings from a document at a full path. -/
def loadAt (host : Host m) (path : String) (given : Datum) : ExceptT Fault m Settings := do
  checkDocument configSchema path given
  let messages ← loadTable host (Path.folderOf path) given
  return ⟨given, messages, ← host.now⟩

/-- Loads settings: those in a file, or the standard ones. Model of `ConfigLoader.__init__`. -/
def load (host : Host m) (config : Option String) : ExceptT Fault m Settings := do
  match config.filter (· ≠ "") with
  | none => return ⟨standardDocument, .standard, ← host.now⟩
  | some written => do
    let path ← host.resolve written
    loadAt host path (← loadGiven host path)

/-- Takes the copies of remote documents away. Model of `clear_cache`. -/
def dropCopies (host : Host m) : ExceptT Fault m Unit := do
  if ← host.isThere host.cacheFolder then orFail .file (host.removeFolder host.cacheFolder)

end Settings

end FieldRules
