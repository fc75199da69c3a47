/-!
# Actions that may fail

What is done with a state may fail, and what it did before stays done. So what an action leaves is
told by a relation of two states, whether it fails or not, with what it ends with beside it.

Results:
* `run_bind`: a sequence of two actions.
* `run_bind_eq_ok_iff`: when a sequence of two actions succeeds.
* `run_forM_eq_error_iff`: when one of a list of actions fails.
* `Leaves.bind`: what a sequence of two actions leaves.
-/

namespace FieldRules

variable {ε ε' σ α β : Type}

theorem mapError_eq_ok_iff {f : ε → ε'} {x : Except ε α} {a : α} :
    x.mapError f = .ok a ↔ x = .ok a := by
  cases x with
  | error e => exact ⟨nofun, nofun⟩
  | ok b => exact ⟨fun h => by cases h; rfl, fun h => by cases h; rfl⟩

theorem mapError_eq_error_iff {f : ε → ε'} {x : Except ε α} {e' : ε'} :
    x.mapError f = .error e' ↔ ∃ e, x = .error e ∧ f e = e' := by
  cases x with
  | error e =>
    refine ⟨fun h => ⟨e, rfl, Except.error.inj h⟩, ?_⟩
    rintro ⟨_, ⟨⟩, rfl⟩
    rfl
  | ok b => exact ⟨nofun, fun ⟨_, h, _⟩ => nomatch h⟩

/-- A sequence of two actions goes on from what the first one left, unless that failed. -/
theorem run_bind_stateT {m : Type → Type} [Monad m] (x : ExceptT ε (StateT σ m) α)
    (f : α → ExceptT ε (StateT σ m) β) (s : σ) :
    (x >>= f).run s = x.run s >>= fun
      | (.ok a, s') => (f a).run s'
      | (.error fault, s') => pure (.error fault, s') := by
  simp only [bind, ExceptT.bind, ExceptT.mk, ExceptT.run, StateT.bind]
  congr 1
  funext outcome
  rcases outcome with ⟨_ | _, _⟩ <;> rfl

theorem run_bind (x : ExceptT ε (StateM σ) α) (f : α → ExceptT ε (StateM σ) β) (s : σ) :
    (x >>= f).run s =
      match x.run s with
      | (.ok a, s') => (f a).run s'
      | (.error fault, s') => (.error fault, s') := by
  rw [run_bind_stateT]
  rcases x.run s with ⟨_ | _, _⟩ <;> rfl

/-- Two actions succeed one after the other if the first one does, and the second one then. -/
theorem run_bind_eq_ok_iff {x : ExceptT ε (StateM σ) α} {f : α → ExceptT ε (StateM σ) β} {b : β}
    {s s' : σ} :
    (x >>= f).run s = (.ok b, s') ↔
      ∃ a s₁, x.run s = (.ok a, s₁) ∧ (f a).run s₁ = (.ok b, s') := by
  rw [run_bind]
  rcases x.run s with ⟨fault | a, s₁⟩
  · exact ⟨nofun, nofun⟩
  · refine ⟨fun h => ⟨a, s₁, rfl, h⟩, ?_⟩
    rintro ⟨_, _, ⟨⟩, h⟩
    exact h

theorem run_lift_eq_ok_iff {x : Except ε α} {a : α} {s s' : σ} :
    (liftM x : ExceptT ε (StateM σ) α).run s = (.ok a, s') ↔ x = .ok a ∧ s' = s := by
  have hrun : (liftM x : ExceptT ε (StateM σ) α).run s = (x, s) := rfl
  rw [hrun]
  exact ⟨fun h => by cases h; exact ⟨rfl, rfl⟩, fun ⟨h, h'⟩ => by rw [h, h']⟩

theorem run_lift_bind_eq_ok_iff {x : Except ε α} {f : α → ExceptT ε (StateM σ) β} {b : β}
    {s s' : σ} :
    ((liftM x : ExceptT ε (StateM σ) α) >>= f).run s = (.ok b, s') ↔
      ∃ a, x = .ok a ∧ (f a).run s = (.ok b, s') := by
  simp only [run_bind_eq_ok_iff, run_lift_eq_ok_iff]
  constructor
  · rintro ⟨a, _, ⟨hx, rfl⟩, h⟩
    exact ⟨a, hx, h⟩
  · rintro ⟨a, hx, h⟩
    exact ⟨a, s, ⟨hx, rfl⟩, h⟩

/-- Actions one after the other fail with the first one that does, from what the others left. -/
theorem run_forM_eq_error_iff {f : α → ExceptT ε (StateM σ) Unit} {l : List α} {e : ε} {s s' : σ} :
    (l.forM f).run s = (.error e, s') ↔
      ∃ before a later s₁, l = before ++ a :: later ∧ (before.forM f).run s = (.ok (), s₁) ∧
        (f a).run s₁ = (.error e, s') := by
  induction l generalizing s with
  | nil =>
    refine ⟨nofun, ?_⟩
    rintro ⟨before, a, later, s₁, hl, -⟩
    cases before <;> cases hl
  | cons b l ih =>
    have hcons (rest : List α) : (b :: rest).forM f = f b >>= fun _ => rest.forM f := rfl
    rw [hcons, run_bind]
    constructor
    · rcases hfirst : (f b).run s with ⟨fault | ⟨⟩, s₁⟩
      · exact fun h => ⟨[], b, l, s, rfl, rfl, hfirst.trans h⟩
      · intro h
        obtain ⟨before, a, later, s₂, rfl, hbefore, ha⟩ := ih.1 h
        exact ⟨b :: before, a, later, s₂, rfl, by rw [hcons, run_bind, hfirst]; exact hbefore, ha⟩
    · rintro ⟨before, a, later, s₂, hl, hbefore, ha⟩
      cases before with
      | nil =>
        cases hl
        cases hbefore
        rw [ha]
      | cons b before =>
        cases hl
        rw [hcons, run_bind] at hbefore
        rcases hfirst : (f b).run s with ⟨fault | ⟨⟩, s₁⟩
        · rw [hfirst] at hbefore
          cases hbefore
        · rw [hfirst] at hbefore
          exact ih.2 ⟨before, a, later, s₂, rfl, hbefore, ha⟩

theorem run_adapt_eq_ok_iff {x : ExceptT ε (StateM σ) α} {f : ε → ε'} {a : α} {s s' : σ} :
    (x.adapt f).run s = (.ok a, s') ↔ x.run s = (.ok a, s') := by
  have hrun : (x.adapt f).run s = ((x.run s).1.mapError f, (x.run s).2) := rfl
  rw [hrun, Prod.ext_iff, Prod.ext_iff]
  exact and_congr_left fun _ => mapError_eq_ok_iff

theorem run_get_bind (f : σ → ExceptT ε (StateM σ) β) (s : σ) :
    ((get : ExceptT ε (StateM σ) σ) >>= f).run s = (f s).run s := rfl

/-! ## What an action leaves -/

/-- An action leaves a state that is related to the one before it, whether it ends with a fault or
    not. A value that it ends with, and a fault, are as told. -/
structure Leaves (rel : σ → σ → Prop) (s : σ) (action : ExceptT ε (StateM σ) α) (told : α → Prop)
    (failed : ε → Prop) : Prop where
  state : rel s (action.run s).2
  value : ∀ a, (action.run s).1 = .ok a → told a
  fault : ∀ e, (action.run s).1 = .error e → failed e

/-- An action leaves a state that is related to the one before it. -/
abbrev Stays (rel : σ → σ → Prop) (s : σ) (action : ExceptT ε (StateM σ) α) : Prop :=
  Leaves rel s action (fun _ => True) fun _ => True

section Leaves

variable {rel : σ → σ → Prop} {s : σ} {told : α → Prop} {told' : β → Prop}
  {failed failed' : ε → Prop}

theorem stays_of_state {action : ExceptT ε (StateM σ) α} (h : rel s (action.run s).2) :
    Stays rel s action := ⟨h, fun _ _ => trivial, fun _ _ => trivial⟩

theorem Leaves.imp {action : ExceptT ε (StateM σ) α} {told' : α → Prop}
    (h : Leaves rel s action told failed) (htold : ∀ a, told a → told' a)
    (hfailed : ∀ e, failed e → failed' e) : Leaves rel s action told' failed' :=
  ⟨h.state, fun a ha => htold a (h.value a ha), fun e he => hfailed e (h.fault e he)⟩

/-- The second of two actions starts from what the first one has left, knowing its value. -/
theorem Leaves.bind [Trans rel rel rel] {action : ExceptT ε (StateM σ) α}
    {next : α → ExceptT ε (StateM σ) β} (h : Leaves rel s action told failed)
    (hnext : ∀ a, told a → rel s (action.run s).2 →
      Leaves rel (action.run s).2 (next a) told' failed) :
    Leaves rel s (action >>= next) told' failed := by
  obtain ⟨hstate, hvalue, hfault⟩ := h
  rcases hrun : action.run s with ⟨e | a, s'⟩
  · have hbind : (action >>= next).run s = (.error e, s') := by rw [run_bind, hrun]
    rw [hrun] at hstate hfault
    refine ⟨by rwa [hbind], fun b hb => ?_, fun e' he => ?_⟩
    · rw [hbind] at hb
      cases hb
    · rw [hbind] at he
      cases he
      exact hfault e rfl
  · have hbind : (action >>= next).run s = (next a).run s' := by rw [run_bind, hrun]
    rw [hrun] at hstate hvalue hnext
    obtain ⟨hstate', hvalue', hfault'⟩ := hnext a (hvalue a rfl) hstate
    exact ⟨by rw [hbind]; exact Trans.trans hstate hstate', by rwa [hbind], by rwa [hbind]⟩

theorem leaves_get_bind {next : σ → ExceptT ε (StateM σ) β}
    (h : Leaves rel s (next s) told' failed) :
    Leaves rel s ((get : ExceptT ε (StateM σ) σ) >>= next) told' failed :=
  ⟨h.state, h.value, h.fault⟩

theorem leaves_lift_bind {x : Except ε α} {next : α → ExceptT ε (StateM σ) β} (hrefl : rel s s)
    (h : ∀ a, x = .ok a → Leaves rel s (next a) told' failed)
    (herror : ∀ e, x = .error e → failed e := by exact fun _ _ => trivial) :
    Leaves rel s ((liftM x : ExceptT ε (StateM σ) α) >>= next) told' failed := by
  cases x with
  | error e =>
    refine ⟨hrefl, fun b hb => (by cases hb), fun e' he => ?_⟩
    cases he
    exact herror e rfl
  | ok a => exact h a rfl

theorem leaves_pure {a : α} (hrefl : rel s s) (h : told a) :
    Leaves rel s (pure a : ExceptT ε (StateM σ) α) told failed := by
  refine ⟨hrefl, fun b hb => ?_, fun e he => (by cases he)⟩
  cases hb
  exact h

theorem stays_set {s' : σ} (h : rel s s') : Stays rel s (set s' : ExceptT ε (StateM σ) Unit) :=
  stays_of_state h

theorem stays_modify {f : σ → σ} (h : rel s (f s)) :
    Stays rel s (modify f : ExceptT ε (StateM σ) Unit) :=
  stays_of_state h

theorem leaves_throw {e : ε} (hrefl : rel s s) (h : failed e) :
    Leaves rel s (throw e : ExceptT ε (StateM σ) α) told failed := by
  refine ⟨hrefl, fun b hb => (by cases hb), fun e' he => ?_⟩
  cases he
  exact h

end Leaves

end FieldRules
