import FieldRules.Settings.Fault

/-!
# Why a service cannot answer
-/

namespace FieldRules.Service

/-- Why a record has no identity. -/
inductive IdentityFault where
  /-- The names of the identifying fields are no list. -/
  | namesKind (kind : String)
  /-- The record has no parts. -/
  | recordKind (kind : String)
  /-- A name is of a kind that no field can have. -/
  | nameKind (kind : String)
  /-- A name is no text, and the record is one. -/
  | notText (kind : String)
  /-- A part of a text is no item of it. -/
  | textItem
  /-- An item of a list is no number of an item. -/
  | listItem (kind : String)
  /-- A list has no item of that number. -/
  | outOfRange
  deriving DecidableEq, Repr

/-- The wording of a record without an identity. -/
def IdentityFault.message : IdentityFault → String
  | namesKind kind => s!"'{kind}' object is not iterable"
  | recordKind kind => s!"argument of type '{kind}' is not iterable"
  | nameKind kind => s!"unhashable type: '{kind}'"
  | notText kind => s!"'in <string>' requires string as left operand, not {kind}"
  | textItem => "string indices must be integers, not 'str'"
  | listItem kind => s!"list indices must be integers or slices, not {kind}"
  | outOfRange => "list index out of range"

/-- Why a service cannot answer. -/
inductive Fault where
  /-- A rule, a session or a run fails. -/
  | rule (fault : FieldRules.Fault)
  /-- Settings cannot be loaded. -/
  | settings (fault : Settings.Fault)
  /-- A pool cannot be made. -/
  | pool (detail : String)
  /-- A run is not over when it should be. -/
  | incomplete
  /-- There is no worker. -/
  | noWorker
  /-- A record has no identity. -/
  | identity (fault : IdentityFault)

/-- The wording of a fault. -/
def Fault.message : Fault → String
  | rule f => f.message
  | settings f => f.message
  | pool detail => detail
  | incomplete =>
    "Validation did not complete synchronously; use validate_async() with asynchronous rules"
  | noWorker =>
    "_validate_record called outside a worker process — _worker_service was not initialised by " ++
      "_init_worker()"
  | identity f => f.message

end FieldRules.Service
