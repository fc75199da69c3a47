import FieldRules.Yaml.Datum

/-!
# Schemas

A schema says what a document may hold. All that does not fit is found; of several findings the one
nearest to the root is told, and of these the one whose path comes last in order.

Results:
* `findings_tableOf_eq_nil_iff`: a table fits just if all of its values do.
-/

namespace FieldRules.Settings

open Yaml (Datum)

/-- A kind of data. -/
inductive Kind where
  | text
  | number
  | integer
  | truth
  | list
  | mapping
  | nothing
  deriving DecidableEq, Repr

namespace Kind

/-- The name of a kind. -/
def name : Kind → String
  | text => "string"
  | number => "number"
  | integer => "integer"
  | truth => "boolean"
  | list => "array"
  | mapping => "object"
  | nothing => "null"

/-- Whether a datum is of a kind. Whole numbers count as integers however they are written. -/
def has : Kind → Datum → Bool
  | text, .text _ => true
  | number, .int _ | number, .float _ | integer, .int _ => true
  | integer, .float x => x.isWhole
  | truth, .bool _ => true
  | list, .list _ => true
  | mapping, .map _ => true
  | nothing, .null => true
  | _, _ => false

end Kind

/-- The least number that is allowed; a strict bound is not reached. -/
structure Bound where
  least : Int
  isStrict : Bool
  deriving DecidableEq, Repr

/-- Whether a datum is within a bound. What is no number is. -/
def Bound.admits (b : Bound) : Datum → Bool
  | .int n => if b.isStrict then b.least < n else b.least ≤ n
  | .float x => if b.isStrict then !x.leInt b.least else !x.ltInt b.least
  | _ => true

/-- What a document may hold. A record has some parts with schemas of their own, and perhaps no
    others; the values of a table all have one schema. -/
inductive Schema where
  | plain (kinds : List Kind) (bound : Option Bound)
  | listOf (items : Schema)
  | record (parts : List (String × Schema)) (isClosed : Bool)
  | tableOf (values : Schema)

/-- What does not fit. -/
inductive Complaint where
  | kind (found : Datum) (allowed : List Kind)
  | bound (found : Datum) (bound : Bound)
  | others (keys : List Datum)
  deriving Repr

/-- What does not fit, and the keys and numbers that lead there. -/
structure Finding where
  path : List Datum
  complaint : Complaint
  deriving Repr

namespace Schema

/-- A finding one step further from the root. -/
def under (key : Datum) (f : Finding) : Finding := { f with path := key :: f.path }

/-- The keys of a mapping that are not among the given names. -/
def otherKeys (known : List String) (entries : List (Datum × Datum)) : List Datum :=
  (entries.map (·.1)).filter fun key => match key with | .text k => k ∉ known | _ => true

mutual

/-- All that does not fit a schema. -/
def findings : Schema → Datum → List Finding
  | plain kinds bound, d =>
    (if kinds.any (·.has d) then [] else [⟨[], .kind d kinds⟩]) ++
      (match bound with
        | some b => if b.admits d then [] else [⟨[], .bound d b⟩]
        | none => [])
  | listOf items, .list ds =>
    (ds.zipIdx.map fun e => (findings items e.1).map (under (.int e.2))).flatten
  | listOf _, d => [⟨[], .kind d [.list]⟩]
  | record parts isClosed, .map entries =>
    findingsOfParts parts (.map entries) ++
      (match isClosed, otherKeys (parts.map (·.1)) entries with
        | true, key :: keys => [⟨[], .others (key :: keys)⟩]
        | _, _ => [])
  | record _ _, d => [⟨[], .kind d [.mapping]⟩]
  | tableOf values, .map entries =>
    (entries.map fun e => (findings values e.2).map (under e.1)).flatten
  | tableOf _, d => [⟨[], .kind d [.mapping]⟩]

/-- What does not fit the parts that a mapping has. -/
def findingsOfParts : List (String × Schema) → Datum → List Finding
  | [], _ => []
  | (name, s) :: rest, d =>
    (match d.get? name with
      | some part => (findings s part).map (under (.text name))
      | none => []) ++ findingsOfParts rest d

end

/-- A table fits just if all of its values do. -/
theorem findings_tableOf_eq_nil_iff (values : Schema) (entries : List (Datum × Datum)) :
    (tableOf values).findings (.map entries) = [] ↔ ∀ e ∈ entries, values.findings e.2 = [] := by
  simp only [findings, List.flatten_eq_nil_iff, List.mem_map, forall_exists_index, and_imp,
    forall_apply_eq_imp_iff₂, List.map_eq_nil_iff]

end Schema

/-! ## The finding that is told -/

/-- The order of keys of one kind: numbers by size and texts by character. Keys of two kinds have
    none. -/
def isAfter (a b : Datum) : Except (Datum × Datum) Bool :=
  let size? : Datum → Option Binary64
    | .bool b => some (.ofInt (if b then 1 else 0))
    | .int n => some (.ofInt n)
    | .float x => some x
    | _ => none
  match a, b with
  | .text s, .text t => .ok (t < s)
  | .time _ s, .time _ t => .ok (t < s)
  | a, b =>
    match size? a, size? b with
    | some x, some y => .ok (y.lt x)
    | _, _ => .error (a, b)

/-- The order of paths of one length, by the first step at which they part. -/
def isPathAfter : List Datum → List Datum → Except (Datum × Datum) Bool
  | a :: as, b :: bs => if a.isSameKey b then isPathAfter as bs else isAfter a b
  | _, _ => .ok false

/-- Whether a finding is to be told rather than another one. -/
def Finding.precedes (f g : Finding) : Except (Datum × Datum) Bool :=
  if f.path.length = g.path.length then isPathAfter f.path g.path
  else .ok (f.path.length < g.path.length)

/-- The finding that is told. -/
def toldOf : List Finding → Except (Datum × Datum) (Option Finding)
  | [] => .ok none
  | first :: rest => do
    let told ← rest.foldlM (fun told f => do return if ← f.precedes told then f else told) first
    return some told

namespace Schema

/-- What is told of a datum that does not fit. -/
def check (s : Schema) (d : Datum) : Except (Datum × Datum) (Option Finding) :=
  toldOf (s.findings d)

/-- Texts. -/
def text : Schema := plain [.text] none

end Schema

/-! ## Wording -/

/-- Keys in the order of their texts. -/
def sortKeys (keys : List Datum) : List Datum :=
  keys.mergeSort fun a b => !(b.toText < a.toText)

/-- The wording of a complaint. -/
def Complaint.message : Complaint → String
  | kind found allowed =>
    s!"{found.display} is not of type " ++
      String.intercalate ", " (allowed.map fun k => Quoted.ofText k.name)
  | bound found b =>
    if b.isStrict then s!"{found.display} is less than or equal to the minimum of {b.least}"
    else s!"{found.display} is less than the minimum of {b.least}"
  | others keys =>
    let shown := String.intercalate ", " ((sortKeys keys).map Datum.display)
    let verb := if keys.length = 1 then "was" else "were"
    s!"Additional properties are not allowed ({shown} {verb} unexpected)"

/-- The wording of a path. -/
def Finding.place (f : Finding) : String :=
  if f.path.isEmpty then "root" else String.intercalate " -> " (f.path.map Datum.toText)

end FieldRules.Settings
