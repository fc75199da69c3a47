import FieldRules.Text

/-!
# Paths

A path is a list of names that lead from the root of a tree of files to a place in it.

Results:
* `normal_normal`: a normal path stays as it is.
-/

namespace FieldRules

/-- The names that lead to a place, from the root on. -/
abbrev Path := List String

namespace Path

/-- The names of a written path, with those that lead nowhere. -/
def names (written : String) : List String := Text.pieces '/' written

/-- One more name: a dot stays in the place, and two of them lead back. -/
def step (p : Path) (name : String) : Path :=
  if name = "" || name = "." then p else if name = ".." then p.dropLast else p ++ [name]

/-- The place that names lead to, if there is nothing in the way. -/
def normal (names : List String) : Path := names.foldl step []

/-- A path in writing. -/
def text (p : Path) : String := "/" ++ String.intercalate "/" p

/-- The folder of a written path. -/
def folderOf (written : String) : String :=
  match (names written).dropLast with
  | [] => ""
  | [""] => "/"
  | names => String.intercalate "/" names

/-- A written path, seen from a folder. -/
def seenFrom (folder written : String) : String :=
  if written.toList.head? = some '/' then written
  else if folder = "" || folder.toList.getLast? = some '/' then folder ++ written
  else folder ++ "/" ++ written

/-- Names that lead on. -/
def IsPlain (p : Path) : Prop := ∀ name ∈ p, name ≠ "" ∧ name ≠ "." ∧ name ≠ ".."

theorem isPlain_step {p : Path} (h : IsPlain p) (name : String) : IsPlain (step p name) := by
  unfold step
  split
  · exact h
  · next h0 =>
    split
    · exact fun n hn => h n (List.dropLast_subset p hn)
    · next h1 =>
      intro n hn
      rcases List.mem_append.1 hn with hn | hn
      · exact h n hn
      · simp at hn h0
        subst hn
        exact ⟨h0.1, h0.2, h1⟩

theorem isPlain_normal (names : List String) : IsPlain (normal names) := by
  unfold normal
  have : ∀ (p : Path), IsPlain p → IsPlain (names.foldl step p) := by
    induction names with
    | nil => exact fun _ h => h
    | cons n names ih => exact fun p h => ih _ (isPlain_step h n)
  exact this [] (by simp [IsPlain])

theorem foldl_step_of_isPlain {names : List String} (h : IsPlain names) (p : Path) :
    names.foldl step p = p ++ names := by
  induction names generalizing p with
  | nil => simp
  | cons n names ih =>
    obtain ⟨h0, h1, h2⟩ := h n List.mem_cons_self
    have hs : step p n = p ++ [n] := by simp [step, h0, h1, h2]
    rw [List.foldl_cons, hs, ih fun m hm => h m (List.mem_cons_of_mem _ hm)]
    simp

/-- A normal path stays as it is. -/
theorem normal_normal (names : List String) : normal (normal names) = normal names := by
  rw [normal, foldl_step_of_isPlain (isPlain_normal names)]
  rfl

end Path

end FieldRules
