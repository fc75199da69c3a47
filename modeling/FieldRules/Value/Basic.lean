import FieldRules.Number.Binary64

/-!
# Values of a record

A record's fields hold plain data: nothing, a truth value, a number, a text, a list or a mapping
from texts in the order of insertion.

Results:
* `get?_put_self`, `get?_put_ne`: what a mapping holds after an entry is written.
* `keys_put`: a written key keeps its place, a new key comes last.
-/

namespace FieldRules

/-- Plain data. -/
inductive Value where
  | null
  | bool (b : Bool)
  | int (n : Int)
  | float (x : Binary64)
  | text (s : String)
  | list (items : List Value)
  | map (entries : List (String × Value))
  deriving Inhabited, Repr

/-- A mapping from texts, in the order in which the keys were first written. -/
abbrev Entries (α : Type) := List (String × α)

namespace Entries

variable {α : Type}

/-- The value under a key. -/
def get? (m : Entries α) (key : String) : Option α := m.lookup key

/-- The keys in their order. -/
def keys (m : Entries α) : List String := m.map Prod.fst

/-- Whether the mapping has the key. -/
def has (m : Entries α) (key : String) : Bool := (m.get? key).isSome

/-- Writes an entry: in the place of the old one, or last. -/
def put (m : Entries α) (key : String) (value : α) : Entries α :=
  match m with
  | [] => [(key, value)]
  | (k, v) :: rest =>
    if key = k then (k, value) :: rest else (k, v) :: put rest key value

/-- Drops an entry. -/
def erase (m : Entries α) (key : String) : Entries α := m.filter (·.1 ≠ key)

/-- All entries of `other` written over `m`. -/
def merge (m other : Entries α) : Entries α := other.foldl (fun m e => m.put e.1 e.2) m

@[simp] theorem get?_nil (key : String) : get? ([] : Entries α) key = none := rfl

theorem get?_cons (k : String) (v : α) (m : Entries α) (key : String) :
    get? ((k, v) :: m) key = if key = k then some v else get? m key := by
  unfold get?
  rw [List.lookup_cons]
  by_cases h : key = k
  · rw [if_pos h, beq_iff_eq.2 h]
  · rw [if_neg h, beq_eq_false_iff_ne.2 h]

/-- A written entry is read back. -/
@[simp] theorem get?_put_self (m : Entries α) (key : String) (value : α) :
    (m.put key value).get? key = some value := by
  induction m with
  | nil => simp [put, get?_cons]
  | cons e m ih =>
    obtain ⟨k, v⟩ := e
    by_cases h : key = k <;> simp [put, get?_cons, h, ih]

/-- Writing an entry leaves the others alone. -/
theorem get?_put_ne (m : Entries α) {key other : String} (value : α) (h : other ≠ key) :
    (m.put key value).get? other = m.get? other := by
  induction m with
  | nil => simp [put, get?_cons, h]
  | cons e m ih =>
    obtain ⟨k, v⟩ := e
    by_cases hk : key = k
    · subst hk; simp [put, get?_cons, h]
    · simp [put, get?_cons, hk, ih]

/-- A written key keeps its place, and a new one comes last. -/
theorem keys_put (m : Entries α) (key : String) (value : α) :
    (m.put key value).keys = if key ∈ m.keys then m.keys else m.keys ++ [key] := by
  induction m with
  | nil => simp [put, keys]
  | cons e m ih =>
    obtain ⟨k, v⟩ := e
    by_cases hk : key = k
    · subst hk; simp [put, keys]
    · simp only [keys] at ih
      by_cases hm : key ∈ m.map Prod.fst <;> simp_all [put, keys]

end Entries

namespace Value

/-- Whether a value counts as present: nothing, `false`, zero and everything empty do not. -/
def truthy : Value → Bool
  | null => false
  | bool b => b
  | int n => n ≠ 0
  | float x => !x.isZero
  | text s => s ≠ ""
  | list items => !items.isEmpty
  | map entries => !entries.isEmpty

/-- The name of a value's kind in messages. -/
def kindName : Value → String
  | null => "NoneType"
  | bool _ => "bool"
  | int _ => "int"
  | float _ => "float"
  | text _ => "str"
  | list _ => "list"
  | map _ => "dict"

end Value

end FieldRules
