import FieldRules.Host.Basic
import FieldRules.Rule.Fault
import FieldRules.Settings.Authority
import FieldRules.Settings.Schema
import FieldRules.Yaml.Fault

/-!
# Why settings cannot be loaded
-/

namespace FieldRules.Settings

/-- Why a remote document is not at hand. -/
inductive FetchProblem where
  | unreachable (detail : String)
  | refused (status : Nat) (reason : String)
  deriving DecidableEq, Repr

/-- Why settings cannot be loaded. -/
inductive Fault where
  /-- A file or a folder cannot be used. -/
  | file (fault : FileFault)
  /-- A document cannot be read. -/
  | document (source : Yaml.Source) (fault : Yaml.Fault)
  /-- A document does not fit its schema. -/
  | unfit (source : String) (finding : Finding)
  /-- Two keys of documents that do not fit have no order. -/
  | unordered (key other : Yaml.Datum)
  /-- A location is no address. -/
  | malformedLocation (fault : AuthorityFault)
  /-- A location is of a kind that is not supported. -/
  | unsupportedScheme (scheme uri : String)
  /-- A remote document is not at hand. -/
  | fetch (uri : String) (problem : FetchProblem)
  /-- The settings of markup cannot be used. -/
  | markup (fault : Markup.PolicyFault)

/-- The wording of a remote document that is not at hand. -/
def FetchProblem.message (uri : String) : FetchProblem → String
  | unreachable detail => detail
  | refused status reason =>
    let side := if status < 500 then "Client" else "Server"
    s!"{status} {side} Error: {reason} for url: {uri}"

/-- The wording of a fault. -/
def Fault.message : Fault → String
  | file f => f.message
  | document source f => f.message source
  | unfit source f => s!"Invalid configuration in {source} at {f.place}: {f.complaint.message}"
  | unordered key other =>
    s!"'>' not supported between instances of '{key.kindName}' and '{other.kindName}'"
  | malformedLocation f => f.message
  | unsupportedScheme scheme uri => s!"Unsupported URI scheme: {scheme} in {uri}"
  | fetch uri problem => s!"Failed to fetch config from {uri}: {problem.message uri}"
  | markup f => f.message

end FieldRules.Settings
