/-!
# Tables of code point ranges

A property of characters is kept as an array of inclusive ranges of code points in ascending
order, and is read by halving.

Results:
* `Ranges.search_true`: a character found in a table lies in one of the table's ranges.
-/

namespace FieldRules.Unicode

/-- Inclusive ranges of code points, ascending and apart from each other. -/
abbrev Ranges := Array (Nat × Nat)

/-- Looks for `n` among the ranges with index in `[lo, hi)`. -/
def Ranges.search (table : Ranges) (n lo hi : Nat) : Bool :=
  if lo < hi then
    let middle := (lo + hi) / 2
    match table[middle]? with
    | none => false
    | some (first, last) =>
      if n < first then search table n lo middle
      else if last < n then search table n (middle + 1) hi
      else true
  else false
termination_by hi - lo

/-- Whether the table has the character. -/
def Ranges.has (table : Ranges) (c : Char) : Bool :=
  table.search c.toNat 0 table.size

/-- A code point that is found lies in one of the ranges. -/
theorem Ranges.search_true {table : Ranges} {n lo hi : Nat} (h : table.search n lo hi = true) :
    ∃ r ∈ table, r.1 ≤ n ∧ n ≤ r.2 := by
  fun_induction Ranges.search table n lo hi with
  | case1 => simp at h
  | case2 lo hi _ middle first last hm _ ih => exact ih h
  | case3 lo hi _ middle first last hm _ _ ih => exact ih h
  | case4 lo hi _ middle first last hm h1 h2 =>
    exact ⟨(first, last), Array.mem_of_getElem? hm, by simp; omega⟩
  | case5 => simp at h

end FieldRules.Unicode
