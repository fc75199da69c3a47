import FieldRules.Rule.Fault

/-!
# Countdowns

A countdown is started with a number of arrivals to wait for; the last of them ends it, and none may
come after that.

Results:
* `arrive_eq_error_iff`: an arrival is refused just after the end.
* `remaining_of_arrive`: an arrival takes one off.
-/

namespace FieldRules

/-- How many arrivals are waited for, of how many at the start. Model of `CompletionBarrier`. -/
structure Countdown where
  total : Nat
  remaining : Nat
  le_total : remaining ≤ total := by omega
  deriving Repr

namespace Countdown

/-- A countdown for a positive number of arrivals. -/
def start (total : Int) : Except Fault Countdown :=
  if total < 1 then .error (.countdownTotal total)
  else .ok ⟨total.toNat, total.toNat, Nat.le_refl _⟩

/-- Whether the last arrival has come. Model of `CompletionBarrier.completed`. -/
def isDone (c : Countdown) : Bool := c.remaining = 0

/-- One arrival, and whether it was the last. Model of `CompletionBarrier.arrive`. -/
def arrive (c : Countdown) : Except Fault (Countdown × Bool) :=
  if c.remaining = 0 then .error (.countdownDone c.total)
  else
    .ok (⟨c.total, c.remaining - 1, Nat.le_trans (Nat.sub_le _ _) c.le_total⟩, c.remaining = 1)

/-- An arrival is refused just after the end. -/
theorem arrive_eq_error_iff {c : Countdown} {f : Fault} :
    c.arrive = .error f ↔ c.isDone = true ∧ f = .countdownDone c.total := by
  unfold arrive isDone
  split <;> simp_all [eq_comm]

/-- An arrival takes one off, and the last one leaves none. -/
theorem remaining_of_arrive {c c' : Countdown} {last : Bool} (h : c.arrive = .ok (c', last)) :
    c.remaining = c'.remaining + 1 ∧ c'.total = c.total ∧ (last = true ↔ c'.remaining = 0) := by
  unfold arrive at h
  split at h
  · cases h
  · cases h
    refine ⟨by simp only; omega, rfl, ?_⟩
    simp only [decide_eq_true_eq]
    omega

end Countdown

end FieldRules
