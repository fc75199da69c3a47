/-!
# Texts cut at a character, and their line breaks

Results:
* `joinWith_cut`: the pieces joined by the character give the text back.
* `notMem_of_mem_cut`: no piece has the character.
* `plainBreaks_of_notMem`: a text without carriage returns stays as it is.
-/

namespace FieldRules.Text

/-- The pieces of a text between the occurrences of a character; never empty. -/
def cut (sep : Char) : List Char → List (List Char)
  | [] => [[]]
  | c :: rest =>
    if c = sep then [] :: cut sep rest
    else match cut sep rest with
      | [] => [[c]]
      | piece :: pieces => (c :: piece) :: pieces

/-- Pieces with a character between them. -/
def joinWith (sep : Char) : List (List Char) → List Char
  | [] => []
  | [piece] => piece
  | piece :: pieces => piece ++ sep :: joinWith sep pieces

theorem cut_ne_nil (sep : Char) (s : List Char) : cut sep s ≠ [] := by
  cases s with
  | nil => simp [cut]
  | cons c rest =>
    rw [cut]
    split
    · simp
    · split <;> simp

/-- The pieces joined by the character give the text back. -/
theorem joinWith_cut (sep : Char) (s : List Char) : joinWith sep (cut sep s) = s := by
  induction s with
  | nil => rfl
  | cons c rest ih =>
    rw [cut]
    cases h : cut sep rest with
    | nil => exact absurd h (cut_ne_nil sep rest)
    | cons piece pieces =>
      rw [h] at ih
      split
      · next hc => subst hc; simp [joinWith, ih]
      · cases pieces with
        | nil => simp [joinWith] at ih ⊢; exact ih
        | cons q qs => simp [joinWith] at ih ⊢; exact ih

/-- No piece has the character. -/
theorem notMem_of_mem_cut {sep : Char} {s piece : List Char} (h : piece ∈ cut sep s) :
    sep ∉ piece := by
  induction s generalizing piece with
  | nil => simp [cut] at h; simp [h]
  | cons c rest ih =>
    rw [cut] at h
    cases hr : cut sep rest with
    | nil => exact absurd hr (cut_ne_nil sep rest)
    | cons first others =>
      rw [hr] at h ih
      split at h
      · rcases List.mem_cons.1 h with rfl | h
        · simp
        · exact ih h
      · next hc =>
        rcases List.mem_cons.1 h with rfl | h
        · simp [Ne.symm hc, ih List.mem_cons_self]
        · exact ih (List.mem_cons_of_mem _ h)

/-- A text with the first occurrence of a piece replaced. -/
def replaceFirst (old new : List Char) : List Char → List Char
  | [] => []
  | c :: rest =>
    if old.isPrefixOf (c :: rest) then new ++ (c :: rest).drop old.length
    else c :: replaceFirst old new rest

/-- A text with every occurrence of a piece replaced, from the front on; the empty piece is left
    alone. -/
def replaceAll (old new : List Char) : List Char → List Char
  | [] => []
  | c :: rest =>
    if old ≠ [] ∧ old.isPrefixOf (c :: rest) then
      new ++ replaceAll old new (rest.drop (old.length - 1))
    else c :: replaceAll old new rest
termination_by s => s.length
decreasing_by
  · rw [List.length_drop, List.length_cons]
    omega
  · exact Nat.lt_succ_self _

/-- The pieces of a `String`. -/
def pieces (sep : Char) (s : String) : List String := (cut sep s.toList).map String.ofList

/-- A text with one character for every line break. -/
def plainBreaks : List Char → List Char
  | '\r' :: '\n' :: rest => '\n' :: plainBreaks rest
  | '\r' :: rest => '\n' :: plainBreaks rest
  | c :: rest => c :: plainBreaks rest
  | [] => []

/-- A text without carriage returns stays as it is. -/
theorem plainBreaks_of_notMem {s : List Char} (h : '\r' ∉ s) : plainBreaks s = s := by
  induction s with
  | nil => rfl
  | cons c rest ih =>
    have hc : c ≠ '\r' := fun e => h (by simp [e])
    have hr := ih fun hm => h (List.mem_cons_of_mem _ hm)
    rw [plainBreaks] <;> simp_all

end FieldRules.Text
