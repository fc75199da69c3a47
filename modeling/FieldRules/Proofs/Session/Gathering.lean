import FieldRules.Session.Countdown
import Mathlib.Algebra.GroupWithZero.Nat
import Mathlib.Data.List.Perm.Subperm

/-!
# Arrivals at a countdown

A countdown is shared. Anyone may arrive at it at any time, and so may the finalizer that its end
calls. An arrival takes its turn in one locked step, in which the countdown counts or refuses it.
The arrival that was the last to be waited for then calls the finalizer, in further steps outside of
the lock; other arrivals may come in between.

Results:
* `Sound.step`, `sound_of_run`: what a step keeps, and what holds after any steps.
* `Sound.exists_step`: as long as arrivals are not over, one of them can go on.
* `finalizes_once`: the count, the calls of the finalizer, and the arrivals that are refused.
-/

namespace FieldRules

/-- How far an arrival has come. -/
inductive Stage where
  /-- It has not had its turn yet. -/
  | waiting
  /-- It was the last one to be waited for, and has yet to call the finalizer. -/
  | chosen
  /-- It is in the finalizer. -/
  | finalizing
  /-- It has come back. -/
  | done
  /-- The countdown has refused it. -/
  | refused (fault : Fault)
  /-- The finalizer has failed, and so has the arrival that called it. -/
  | failed
  deriving DecidableEq, Repr

/-- Whether an arrival is over. -/
def Stage.isOver : Stage → Bool
  | waiting | chosen | finalizing => false
  | done | refused _ | failed => true

/-- The number of steps that an arrival may still take. -/
def Stage.stepsLeft : Stage → Nat
  | waiting => 3
  | chosen => 2
  | finalizing => 1
  | done | refused _ | failed => 0

/-- An arrival: how far it has come, and the arrival in whose finalizer it was made, if in one. -/
structure Arrival where
  stage : Stage
  within : Option Nat
  deriving DecidableEq, Repr

/-- A countdown and the arrivals at it, which go by their numbers. `turns` has those that have had
    their turn, in the order of their locked steps; `calls` counts the calls of the finalizer. -/
structure Gathering where
  countdown : Countdown
  arrivals : List Arrival
  turns : List Nat
  calls : Nat

namespace Gathering

/-- A step that is taken at a gathering. -/
inductive Move where
  /-- An arrival is made, in the finalizer that another one has called or elsewhere. -/
  | come (within : Option Nat)
  /-- An arrival has its turn. -/
  | turn (number : Nat)
  /-- The arrival that was chosen calls the finalizer. -/
  | finalize (number : Nat)
  /-- The finalizer comes back, or fails. -/
  | finish (number : Nat) (fails : Bool)
  deriving DecidableEq, Repr

/-- Whether an arrival is made. -/
def Move.isCome : Move → Bool
  | come _ => true
  | turn _ | finalize _ | finish _ _ => false

/-- A countdown at which nobody has arrived. -/
def start (c : Countdown) : Gathering := ⟨c, [], [], 0⟩

/-- How far an arrival has come. -/
def stage? (g : Gathering) (i : Nat) : Option Stage := (g.arrivals[i]?).map Arrival.stage

/-- One more arrival. -/
def come (g : Gathering) (within : Option Nat) : Gathering :=
  { g with arrivals := g.arrivals ++ [⟨.waiting, within⟩] }

/-- An arrival goes on to a stage. -/
def withStage (g : Gathering) (i : Nat) (stage : Stage) : Gathering :=
  { g with arrivals := g.arrivals.modify i fun a => { a with stage } }

/-- Whether the arrivals that were made in the finalizer of an arrival are over. -/
def isLeft (g : Gathering) (i : Nat) : Bool :=
  g.arrivals.all fun a => a.within ≠ some i || a.stage.isOver

/-- The locked step of an arrival. -/
def takeTurn (g : Gathering) (i : Nat) : Gathering :=
  match g.countdown.arrive with
  | .error fault => { g.withStage i (.refused fault) with turns := g.turns ++ [i] }
  | .ok (countdown, last) =>
    { g.withStage i (if last then .chosen else .done) with
      countdown, turns := g.turns ++ [i] }

/-- A step, if it can be taken. -/
def step (g : Gathering) : Move → Option Gathering
  | .come none => some (g.come none)
  | .come (some i) => if g.stage? i = some .finalizing then some (g.come (some i)) else none
  | .turn i => if g.stage? i = some .waiting then some (g.takeTurn i) else none
  | .finalize i =>
    if g.stage? i = some .chosen then
      some { g.withStage i .finalizing with calls := g.calls + 1 }
    else none
  | .finish i fails =>
    if g.stage? i = some .finalizing ∧ g.isLeft i = true then
      some (g.withStage i (if fails then .failed else .done))
    else none

/-- Steps, one after the other. -/
def run (g : Gathering) (moves : List Move) : Option Gathering := moves.foldlM step g

/-- Whether all arrivals are over. -/
def isOver (g : Gathering) : Bool := g.arrivals.all fun a => a.stage.isOver

/-! ## Stages -/

section Stages

theorem getElem?_concat_cases {α : Type} {l : List α} {a b : α} {k : Nat}
    (h : (l ++ [b])[k]? = some a) : l[k]? = some a ∨ k = l.length ∧ a = b := by
  rcases Nat.lt_or_ge k l.length with hlt | hge
  · rw [List.getElem?_append_left hlt] at h
    exact .inl h
  · rw [List.getElem?_append_right hge, List.getElem?_singleton] at h
    split at h
    · exact .inr ⟨by omega, (Option.some.inj h).symm⟩
    · cases h

variable {g : Gathering} {i j : Nat} {stage old : Stage} {within : Option Nat}

theorem stage?_come (i : Nat) :
    (g.come within).stage? i = if i = g.arrivals.length then some .waiting else g.stage? i := by
  unfold stage? come
  rcases Nat.lt_trichotomy i g.arrivals.length with h | h | h
  · rw [if_neg (Nat.ne_of_lt h), List.getElem?_append_left h]
  · subst h
    simp
  · rw [if_neg (Nat.ne_of_gt h), List.getElem?_eq_none (by simp; omega),
      List.getElem?_eq_none (Nat.le_of_lt h)]

theorem stage?_withStage (h : g.stage? i = some old) (j : Nat) :
    (g.withStage i stage).stage? j = if j = i then some stage else g.stage? j := by
  unfold stage? withStage
  rw [List.getElem?_modify]
  by_cases hj : j = i
  · subst hj
    obtain ⟨a, ha, -⟩ := Option.map_eq_some_iff.1 h
    simp [ha]
  · simp [hj, Ne.symm hj]

theorem lt_of_stage? (h : g.stage? i = some stage) : i < g.arrivals.length := by
  obtain ⟨a, ha, -⟩ := Option.map_eq_some_iff.1 h
  exact (List.getElem?_eq_some_iff.1 ha).1

theorem stage?_of_getElem? {a : Arrival} (h : g.arrivals[i]? = some a) :
    g.stage? i = some a.stage := by
  rw [stage?, h]
  rfl

theorem within_withStage {a : Arrival} (h : (g.withStage i stage).arrivals[j]? = some a) :
    ∃ a', g.arrivals[j]? = some a' ∧ a'.within = a.within := by
  unfold withStage at h
  rw [List.getElem?_modify] at h
  obtain ⟨a', ha', rfl⟩ := Option.map_eq_some_iff.1 h
  refine ⟨a', ha', ?_⟩
  split <;> rfl

end Stages

/-! ## When a step can be taken -/

section Moves

variable {g g' : Gathering} {i : Nat}

theorem step_come_iff {within : Option Nat} :
    g.step (.come within) = some g' ↔
      (∀ j, within = some j → g.stage? j = some .finalizing) ∧ g.come within = g' := by
  cases within <;> simp [step]

theorem step_turn_iff :
    g.step (.turn i) = some g' ↔ g.stage? i = some .waiting ∧ g.takeTurn i = g' := by
  simp [step]

theorem step_finalize_iff :
    g.step (.finalize i) = some g' ↔ g.stage? i = some .chosen ∧
      { g.withStage i .finalizing with calls := g.calls + 1 } = g' := by
  simp [step]

theorem step_finish_iff {fails : Bool} :
    g.step (.finish i fails) = some g' ↔
      (g.stage? i = some .finalizing ∧ g.isLeft i = true) ∧
        g.withStage i (if fails then .failed else .done) = g' := by
  simp [step]

end Moves

/-! ## What every step keeps -/

/-- How far an arrival can be that has had its turn after `k` others: those before the last one to
    be waited for have come back, this one has called the finalizer or is going to, and those behind
    it are refused. -/
structure Fits (total calls k : Nat) (stage : Stage) : Prop where
  counted : k + 1 < total → stage = .done
  last : k + 1 = total → stage = .chosen ∧ calls = 0 ∨
    (stage = .finalizing ∨ stage = .done ∨ stage = .failed) ∧ calls = 1
  late : total ≤ k → stage = .refused (.countdownDone total)

/-- A gathering as steps leave it. -/
structure Sound (total : Nat) (g : Gathering) : Prop where
  total_eq : g.countdown.total = total
  remaining_eq : g.countdown.remaining = total - g.turns.length
  nodup : g.turns.Nodup
  waiting : ∀ (i : Nat) (stage : Stage), g.stage? i = some stage → (stage = .waiting ↔ i ∉ g.turns)
  turn : ∀ (k i : Nat), g.turns[k]? = some i →
    ∃ stage, g.stage? i = some stage ∧ Fits total g.calls k stage
  calls : g.turns.length < total → g.calls = 0
  within : ∀ (i : Nat) (a : Arrival) (j : Nat), g.arrivals[i]? = some a → a.within = some j → j < i

section Steps

variable {total : Nat} {g g' : Gathering} {i k : Nat} {stage : Stage}

theorem Fits.of_ne {calls calls' : Nat} (h : Fits total calls k stage) (hk : k + 1 ≠ total) :
    Fits total calls' k stage :=
  ⟨h.counted, fun hlast => absurd hlast hk, h.late⟩

theorem sound_start {c : Countdown} (htotal : c.total = total) (h : c.remaining = total) :
    Sound total (start c) where
  total_eq := htotal
  remaining_eq := h
  nodup := List.nodup_nil
  waiting _ _ hstage := by cases hstage
  turn _ _ hk := by cases hk
  calls _ := rfl
  within _ _ _ ha := by cases ha

/-- What an arrival has done that waits no longer: it has had its turn. -/
theorem Sound.exists_turn (h : Sound total g) (hstage : g.stage? i = some stage)
    (hne : stage ≠ .waiting) : ∃ k : Nat, g.turns[k]? = some i ∧ Fits total g.calls k stage := by
  have hmem : i ∈ g.turns := by
    by_contra hmem
    exact hne ((h.waiting i stage hstage).2 hmem)
  obtain ⟨k, hk⟩ := List.mem_iff_getElem?.1 hmem
  obtain ⟨stage', hstage', hfits⟩ := h.turn k i hk
  obtain rfl : stage' = stage := Option.some.inj (hstage'.symm.trans hstage)
  exact ⟨k, hk, hfits⟩

theorem Sound.turn_inj (h : Sound total g) {k' : Nat} (hk : g.turns[k]? = some i)
    (hk' : g.turns[k']? = some i) : k' = k := by
  obtain ⟨hlt, -⟩ := List.getElem?_eq_some_iff.1 hk
  exact ((List.getElem?_inj hlt h.nodup).1 (hk.trans hk'.symm)).symm

theorem Sound.come (h : Sound total g) {within : Option Nat}
    (hwithin : ∀ j, within = some j → g.stage? j = some .finalizing) :
    Sound total (g.come within) where
  total_eq := h.total_eq
  remaining_eq := h.remaining_eq
  nodup := h.nodup
  waiting i stage hstage := by
    rw [stage?_come] at hstage
    split at hstage
    · next hnew =>
      cases hstage
      refine ⟨fun _ hmem => ?_, fun _ => rfl⟩
      obtain ⟨k, hk⟩ := List.mem_iff_getElem?.1 hmem
      obtain ⟨_, hold, -⟩ := h.turn k i hk
      exact absurd hnew (Nat.ne_of_lt (lt_of_stage? hold))
    · exact h.waiting i stage hstage
  turn k i hk := by
    obtain ⟨stage, hstage, hfits⟩ := h.turn k i hk
    refine ⟨stage, ?_, hfits⟩
    rw [stage?_come, if_neg (Nat.ne_of_lt (lt_of_stage? hstage)), hstage]
  calls := h.calls
  within i a j ha hj := by
    rcases getElem?_concat_cases ha with hold | ⟨rfl, rfl⟩
    · exact h.within i a j hold hj
    · exact lt_of_stage? (hwithin j hj)

/-- A turn ends in the stage that fits its place. -/
theorem Sound.endsTurn (h : Sound total g) (hwaiting : g.stage? i = some .waiting)
    {countdown : Countdown} (htotal : countdown.total = total)
    (hremaining : countdown.remaining = total - (g.turns.length + 1))
    (hne : stage ≠ .waiting) (hfits : Fits total g.calls g.turns.length stage) :
    Sound total { g.withStage i stage with countdown, turns := g.turns ++ [i] } where
  total_eq := htotal
  remaining_eq := by rw [hremaining, List.length_append, List.length_singleton]
  nodup := by
    have hnew : i ∉ g.turns := (h.waiting i _ hwaiting).1 rfl
    exact List.nodup_append.2 ⟨h.nodup, by simp, fun a ha b hb hab => by
      rw [List.mem_singleton.1 hb] at hab
      exact hnew (hab ▸ ha)⟩
  waiting j other hother := by
    change (g.withStage i stage).stage? j = some other at hother
    rw [stage?_withStage hwaiting] at hother
    split at hother
    · next hj =>
      cases hother
      simp [hj, hne]
    · next hj =>
      rw [h.waiting j other hother]
      simp [hj]
  turn k j hk := by
    change ∃ other, (g.withStage i stage).stage? j = some other ∧ Fits total g.calls k other
    rw [stage?_withStage hwaiting]
    rcases getElem?_concat_cases hk with hold | ⟨rfl, rfl⟩
    · obtain ⟨other, hother, hfits'⟩ := h.turn k j hold
      have hj : j ≠ i := by
        rintro rfl
        exact (h.waiting j _ hwaiting).1 rfl (List.mem_of_getElem? hold)
      rw [if_neg hj]
      exact ⟨other, hother, hfits'⟩
    · rw [if_pos rfl]
      exact ⟨stage, rfl, hfits⟩
  calls hlt := by
    rw [List.length_append, List.length_singleton] at hlt
    exact h.calls (by omega)
  within j a m ha hm := by
    obtain ⟨a', ha', hwithin⟩ := within_withStage ha
    exact h.within j a' m ha' (hwithin.trans hm)

/-- The countdown counts an arrival, or refuses it if there have been enough. -/
theorem Sound.takeTurn (h : Sound total g) (hwaiting : g.stage? i = some .waiting) :
    Sound total (g.takeTurn i) := by
  unfold Gathering.takeTurn
  rcases harrive : g.countdown.arrive with fault | ⟨countdown, last⟩
  · obtain ⟨hdone, rfl⟩ := Countdown.arrive_eq_error_iff.1 harrive
    have hzero : g.countdown.remaining = 0 := by simpa [Countdown.isDone] using hdone
    have hremaining := h.remaining_eq
    refine h.endsTurn hwaiting h.total_eq ?_ nofun ⟨by omega, by omega, fun _ => ?_⟩
    · show g.countdown.remaining = total - (g.turns.length + 1)
      omega
    · rw [h.total_eq]
  · obtain ⟨hone, htotal, hlast⟩ := Countdown.remaining_of_arrive harrive
    have hremaining := h.remaining_eq
    have hcalls : g.calls = 0 := h.calls (by omega)
    refine h.endsTurn hwaiting (htotal.trans h.total_eq) (by omega) ?_ ⟨?_, ?_, by omega⟩
    · cases last <;> exact nofun
    · intro hlt
      have hmore : last ≠ true := fun hl => by
        have := hlast.1 hl
        omega
      rw [if_neg hmore]
    · intro heq
      rw [if_pos (hlast.2 (by omega))]
      exact .inl ⟨rfl, hcalls⟩

/-- The last arrival goes on. -/
theorem Sound.goesOn (h : Sound total g) (hk : g.turns[k]? = some i) (hlast : k + 1 = total)
    {calls : Nat} (hne : stage ≠ .waiting) (hfits : Fits total calls k stage) :
    Sound total { g.withStage i stage with calls } := by
  obtain ⟨old, hold, -⟩ := h.turn k i hk
  have hlt : k < g.turns.length := (List.getElem?_eq_some_iff.1 hk).1
  refine ⟨h.total_eq, h.remaining_eq, h.nodup, fun j other hother => ?_, fun k' j hk' => ?_,
    fun hfew => ?_, fun j a m ha hm => ?_⟩
  · change (g.withStage i stage).stage? j = some other at hother
    rw [stage?_withStage hold] at hother
    split at hother
    · next hj =>
      cases hother
      rw [hj]
      exact ⟨fun hw => absurd hw hne, fun hmem => absurd (List.mem_of_getElem? hk) hmem⟩
    · exact h.waiting j other hother
  · change ∃ other, (g.withStage i stage).stage? j = some other ∧ Fits total calls k' other
    rw [stage?_withStage hold]
    by_cases hj : j = i
    · subst hj
      obtain rfl := h.turn_inj hk hk'
      rw [if_pos rfl]
      exact ⟨stage, rfl, hfits⟩
    · obtain ⟨other, hother, hfits'⟩ := h.turn k' j hk'
      rw [if_neg hj]
      refine ⟨other, hother, hfits'.of_ne fun hlast' => hj ?_⟩
      obtain rfl : k' = k := by omega
      exact Option.some.inj (hk'.symm.trans hk)
  · exact absurd (show g.turns.length < total from hfew) (by omega)
  · obtain ⟨a', ha', hwithin⟩ := within_withStage ha
    exact h.within j a' m ha' (hwithin.trans hm)

theorem Sound.of_chosen (h : Sound total g) (hstage : g.stage? i = some .chosen) :
    ∃ k : Nat, g.turns[k]? = some i ∧ k + 1 = total ∧ g.calls = 0 := by
  obtain ⟨k, hk, hfits⟩ := h.exists_turn hstage nofun
  rcases Nat.lt_trichotomy (k + 1) total with hlt | heq | hgt
  · cases hfits.counted hlt
  · rcases hfits.last heq with ⟨-, hcalls⟩ | ⟨hother | hother | hother, -⟩
    · exact ⟨k, hk, heq, hcalls⟩
    all_goals cases hother
  · cases hfits.late (by omega)

theorem Sound.of_finalizing (h : Sound total g) (hstage : g.stage? i = some .finalizing) :
    ∃ k : Nat, g.turns[k]? = some i ∧ k + 1 = total ∧ g.calls = 1 := by
  obtain ⟨k, hk, hfits⟩ := h.exists_turn hstage nofun
  rcases Nat.lt_trichotomy (k + 1) total with hlt | heq | hgt
  · cases hfits.counted hlt
  · rcases hfits.last heq with ⟨hother, -⟩ | ⟨-, hcalls⟩
    · cases hother
    · exact ⟨k, hk, heq, hcalls⟩
  · cases hfits.late (by omega)

/-- A step keeps a gathering sound. -/
theorem Sound.step (h : Sound total g) {move : Move} (hstep : g.step move = some g') :
    Sound total g' := by
  cases move with
  | come within =>
    obtain ⟨hwithin, rfl⟩ := step_come_iff.1 hstep
    exact h.come hwithin
  | turn i =>
    obtain ⟨hi, rfl⟩ := step_turn_iff.1 hstep
    exact h.takeTurn hi
  | finalize i =>
    obtain ⟨hi, rfl⟩ := step_finalize_iff.1 hstep
    obtain ⟨k, hk, hlast, hcalls⟩ := h.of_chosen hi
    exact h.goesOn hk hlast nofun ⟨by omega, fun _ => .inr ⟨.inl rfl, by omega⟩, by omega⟩
  | finish i fails =>
    obtain ⟨⟨hi, -⟩, rfl⟩ := step_finish_iff.1 hstep
    obtain ⟨k, hk, hlast, hcalls⟩ := h.of_finalizing hi
    refine h.goesOn hk hlast ?_ ⟨by omega, fun _ => .inr ⟨.inr ?_, hcalls⟩, by omega⟩
    · cases fails <;> exact nofun
    · cases fails with
      | false => exact .inl rfl
      | true => exact .inr rfl

/-- What holds of a gathering holds after any steps. -/
theorem sound_of_run {moves : List Move} (h : Sound total g) (hrun : g.run moves = some g') :
    Sound total g' := by
  induction moves generalizing g with
  | nil =>
    cases hrun
    exact h
  | cons move moves ih =>
    obtain ⟨g₁, hstep, hrest⟩ := Option.bind_eq_some_iff.1 hrun
    exact ih (h.step hstep) hrest

end Steps

/-! ## Going on -/

/-- The number of steps that the arrivals may still take. -/
def stepsLeft (g : Gathering) : Nat := (g.arrivals.map fun a => a.stage.stepsLeft).sum

section GoingOn

variable {total : Nat} {g g' : Gathering} {i j : Nat} {stage old : Stage} {move : Move}

theorem Sound.eq_of_finalizing (h : Sound total g) (hi : g.stage? i = some .finalizing)
    (hj : g.stage? j = some .finalizing) : i = j := by
  obtain ⟨k, hk, hlast, -⟩ := h.of_finalizing hi
  obtain ⟨k', hk', hlast', -⟩ := h.of_finalizing hj
  obtain rfl : k' = k := by omega
  exact Option.some.inj (hk.symm.trans hk')

/-- As long as arrivals are not over, one of them can go on. -/
theorem Sound.exists_step (h : Sound total g) (hover : g.isOver = false) :
    ∃ move g', move.isCome = false ∧ g.step move = some g' := by
  have hturn : ∀ j, g.stage? j = some .waiting → ∃ move g', move.isCome = false ∧
      g.step move = some g' := fun j hj => ⟨.turn j, _, rfl, step_turn_iff.2 ⟨hj, rfl⟩⟩
  have hcall : ∀ j, g.stage? j = some .chosen → ∃ move g', move.isCome = false ∧
      g.step move = some g' := fun j hj => ⟨.finalize j, _, rfl, step_finalize_iff.2 ⟨hj, rfl⟩⟩
  obtain ⟨a, ha, hstage⟩ : ∃ a ∈ g.arrivals, a.stage.isOver = false := by
    simpa [isOver] using hover
  obtain ⟨i, hi⟩ := List.mem_iff_getElem?.1 ha
  have hi := stage?_of_getElem? hi
  cases hs : a.stage with
  | waiting => exact hturn i (hs ▸ hi)
  | chosen => exact hcall i (hs ▸ hi)
  | done | refused | failed =>
    rw [hs] at hstage
    cases hstage
  | finalizing =>
    rw [hs] at hi
    cases hleft : g.isLeft i with
    | true => exact ⟨.finish i false, _, rfl, step_finish_iff.2 ⟨⟨hi, hleft⟩, rfl⟩⟩
    | false =>
      -- an arrival that was made in this finalizer is not over, and it is not in it itself
      obtain ⟨b, hb, hwithin, hstage'⟩ :
          ∃ b ∈ g.arrivals, b.within = some i ∧ b.stage.isOver = false := by
        simpa [isLeft] using hleft
      obtain ⟨j, hj⟩ := List.mem_iff_getElem?.1 hb
      have hlt := h.within j b i hj hwithin
      have hj := stage?_of_getElem? hj
      cases hs' : b.stage with
      | waiting => exact hturn j (hs' ▸ hj)
      | chosen => exact hcall j (hs' ▸ hj)
      | finalizing => exact absurd (h.eq_of_finalizing hi (hs' ▸ hj)) (Nat.ne_of_lt hlt)
      | done | refused | failed =>
        rw [hs'] at hstage'
        cases hstage'

theorem stepsLeft_withStage (h : g.stage? i = some old) :
    (g.withStage i stage).stepsLeft + old.stepsLeft = g.stepsLeft + stage.stepsLeft := by
  obtain ⟨a, ha, rfl⟩ := Option.map_eq_some_iff.1 h
  obtain ⟨hlt, rfl⟩ := List.getElem?_eq_some_iff.1 ha
  have hsplit : g.arrivals = g.arrivals.take i ++ g.arrivals[i] :: g.arrivals.drop (i + 1) := by
    rw [List.getElem_cons_drop, List.take_append_drop]
  have hold : g.stepsLeft = ((g.arrivals.take i).map fun a => a.stage.stepsLeft).sum +
      (g.arrivals[i].stage.stepsLeft +
        ((g.arrivals.drop (i + 1)).map fun a => a.stage.stepsLeft).sum) := by
    rw [stepsLeft]
    conv_lhs => rw [hsplit]
    rw [List.map_append, List.map_cons, List.sum_append, List.sum_cons]
  have hnew : (g.withStage i stage).stepsLeft =
      ((g.arrivals.take i).map fun a => a.stage.stepsLeft).sum +
        (stage.stepsLeft + ((g.arrivals.drop (i + 1)).map fun a => a.stage.stepsLeft).sum) := by
    rw [stepsLeft, withStage, List.modify_eq_take_cons_drop hlt, List.map_append, List.map_cons,
      List.sum_append, List.sum_cons]
  omega

/-- A step takes from those that are left, unless an arrival is made. -/
theorem stepsLeft_step (hmove : move.isCome = false) (hstep : g.step move = some g') :
    g'.stepsLeft < g.stepsLeft := by
  cases move with
  | come => cases hmove
  | turn i =>
    obtain ⟨hi, rfl⟩ := step_turn_iff.1 hstep
    have hless : ∀ stage : Stage, stage.stepsLeft < 3 →
        (g.withStage i stage).stepsLeft < g.stepsLeft := fun stage hstage => by
      have hleft : (g.withStage i stage).stepsLeft + 3 = g.stepsLeft + stage.stepsLeft :=
        stepsLeft_withStage hi
      omega
    unfold takeTurn
    split
    · exact hless (.refused _) (Nat.succ_pos 2)
    · exact hless _ (by split <;> decide)
  | finalize i =>
    obtain ⟨hi, rfl⟩ := step_finalize_iff.1 hstep
    have hleft : (g.withStage i .finalizing).stepsLeft + 2 = g.stepsLeft + 1 :=
      stepsLeft_withStage hi
    show (g.withStage i .finalizing).stepsLeft < g.stepsLeft
    omega
  | finish i fails =>
    obtain ⟨⟨hi, -⟩, rfl⟩ := step_finish_iff.1 hstep
    have hover : (if fails then Stage.failed else .done).stepsLeft = 0 := by cases fails <;> rfl
    have hleft : (g.withStage i (if fails then .failed else .done)).stepsLeft + 1 =
        g.stepsLeft + (if fails then Stage.failed else .done).stepsLeft := stepsLeft_withStage hi
    omega

/-- The arrivals that there are come to their end. -/
theorem Sound.exists_run (h : Sound total g) :
    ∃ moves g', (∀ move ∈ moves, move.isCome = false) ∧ g.run moves = some g' ∧
      g'.isOver = true := by
  induction hn : g.stepsLeft using Nat.strongRecOn generalizing g with
  | _ n ih =>
    cases hover : g.isOver with
    | true => exact ⟨[], g, nofun, rfl, hover⟩
    | false =>
      obtain ⟨move, g₁, hmove, hstep⟩ := h.exists_step hover
      have hless := stepsLeft_step hmove hstep
      obtain ⟨moves, g', hmoves, hrun, hend⟩ := ih _ (hn ▸ hless) (h.step hstep) rfl
      refine ⟨move :: moves, g', List.forall_mem_cons.2 ⟨hmove, hmoves⟩, ?_, hend⟩
      rw [run, List.foldlM_cons, hstep]
      exact hrun

end GoingOn

/-! ## What a gathering comes to -/

section Results

variable {total : Nat} {g g' : Gathering} {i : Nat}

theorem Sound.calls_le (h : Sound total g) (hpos : 0 < total) :
    g.calls ≤ 1 ∧ (0 < g.calls → total ≤ g.turns.length) := by
  rcases Nat.lt_or_ge g.turns.length total with hfew | hmany
  · have hcalls := h.calls hfew
    omega
  · obtain ⟨stage, -, hfits⟩ := h.turn (total - 1) _
      (List.getElem?_eq_getElem (by omega : total - 1 < g.turns.length))
    rcases hfits.last (by omega) with ⟨-, hcalls⟩ | ⟨-, hcalls⟩ <;> omega

/-- When enough arrivals are over, the finalizer has been called. -/
theorem Sound.calls_of_isOver (h : Sound total g) (hpos : 0 < total) (hover : g.isOver = true)
    (hmany : total ≤ g.arrivals.length) : g.calls = 1 := by
  have hstages : ∀ i stage, g.stage? i = some stage → stage.isOver = true := by
    intro i stage hstage
    obtain ⟨a, ha, rfl⟩ := Option.map_eq_some_iff.1 hstage
    exact List.all_eq_true.1 hover a (List.mem_of_getElem? ha)
  have hall : List.range g.arrivals.length ⊆ g.turns := by
    intro i hi
    have hstage := stage?_of_getElem? (List.getElem?_eq_getElem (List.mem_range.1 hi))
    by_contra hmem
    have hwaiting := (h.waiting i _ hstage).2 hmem
    have hend := hstages i _ hstage
    rw [hwaiting] at hend
    cases hend
  have hlength : g.arrivals.length ≤ g.turns.length := by
    have := List.nodup_range.length_le_of_subset hall
    rwa [List.length_range] at this
  obtain ⟨stage, hstage, hfits⟩ := h.turn (total - 1) _
    (List.getElem?_eq_getElem (by omega : total - 1 < g.turns.length))
  rcases hfits.last (by omega) with ⟨rfl, -⟩ | ⟨-, hcalls⟩
  · cases hstages _ _ hstage
  · exact hcalls

/-- The arrivals that are refused are those with a turn after the last one that is waited for. -/
theorem Sound.isRefused_iff (h : Sound total g) {fault : Fault} :
    g.stage? i = some (.refused fault) ↔
      fault = .countdownDone total ∧ ∃ k : Nat, total ≤ k ∧ g.turns[k]? = some i := by
  constructor
  · intro hstage
    obtain ⟨k, hk, hfits⟩ := h.exists_turn hstage nofun
    rcases Nat.lt_trichotomy (k + 1) total with hless | heq | hlate
    · cases hfits.counted hless
    · rcases hfits.last heq with ⟨hother, -⟩ | ⟨hother | hother | hother, -⟩
      all_goals cases hother
    · exact ⟨Stage.refused.inj (hfits.late (by omega)), k, by omega, hk⟩
  · rintro ⟨rfl, k, hlate, hk⟩
    obtain ⟨stage, hstage, hfits⟩ := h.turn k i hk
    rw [hstage, hfits.late hlate]

/-- A turn after the last one that is waited for changes nothing but for the arrival itself. -/
theorem Sound.turn_late (h : Sound total g) (hlate : total ≤ g.turns.length)
    (hstep : g.step (.turn i) = some g') :
    g'.countdown = g.countdown ∧ g'.stage? i = some (.refused (.countdownDone total)) := by
  obtain ⟨hi, rfl⟩ := step_turn_iff.1 hstep
  have hremaining := h.remaining_eq
  have harrive : g.countdown.arrive = .error (.countdownDone total) := by
    rw [Countdown.arrive_eq_error_iff, h.total_eq]
    exact ⟨by simp [Countdown.isDone]; omega, rfl⟩
  unfold Gathering.takeTurn
  rw [harrive]
  refine ⟨rfl, ?_⟩
  show (g.withStage i _).stage? i = _
  rw [stage?_withStage hi, if_pos rfl]

/-- A countdown for a positive number of arrivals can be started. Whatever steps are then taken, in
    whatever order, it waits for as many as have had no turn yet of those at the start, and for none
    in the end. The finalizer is called once at most, and not before the last turn that is waited
    for. All arrivals can come to their end without a further one; then the finalizer has been
    called, if there are enough of them. Those that are refused are the ones with a turn after the
    last one that is waited for, the finalizer's own included, and such a turn leaves the countdown
    as it is. -/
theorem finalizes_once (hpos : 1 ≤ total) :
    ∃ c, Countdown.start total = .ok c ∧ ∀ moves g, (start c).run moves = some g →
      (g.countdown.remaining : Int) = max ((total : Int) - g.turns.length) 0 ∧
      (g.calls ≤ 1 ∧ (0 < g.calls → total ≤ g.turns.length)) ∧
      (g.isOver = true → total ≤ g.arrivals.length → g.calls = 1) ∧
      (∃ later g', (∀ move ∈ later, move.isCome = false) ∧ g.run later = some g' ∧
        g'.isOver = true) ∧
      (∀ i fault, g.stage? i = some (.refused fault) ↔
        fault = .countdownDone total ∧ ∃ k : Nat, total ≤ k ∧ g.turns[k]? = some i) ∧
      ∀ i g', total ≤ g.turns.length → g.step (.turn i) = some g' →
        g'.countdown = g.countdown ∧ g'.stage? i = some (.refused (.countdownDone total)) := by
  have hstart : Countdown.start total = .ok ⟨total, total, Nat.le_refl _⟩ := by
    rw [Countdown.start, if_neg (by omega)]
    rfl
  refine ⟨_, hstart, fun moves g hrun => ?_⟩
  have h : Sound total g := sound_of_run (sound_start rfl rfl) hrun
  have hremaining := h.remaining_eq
  exact ⟨by omega, h.calls_le hpos, h.calls_of_isOver hpos, h.exists_run,
    fun i fault => h.isRefused_iff, fun i g' => h.turn_late⟩

end Results

/-- The steps of four arrivals at a countdown for two. The third has its turn before the finalizer
    is called, and the finalizer makes the fourth, with which it fails. -/
def crowdedMoves : List Move :=
  [.come none, .come none, .turn 1, .come none, .turn 0, .turn 2, .finalize 0, .come (some 0),
    .turn 3, .finish 0 true]

/-- Those two arrivals are refused, and the finalizer has been called. -/
theorem finalizes_once_crowded :
    1 ≤ 2 ∧ ∃ c g, Countdown.start 2 = .ok c ∧ (start c).run crowdedMoves = some g ∧
      g.turns = [1, 0, 2, 3] ∧ (g.isOver = true ∧ 2 ≤ g.arrivals.length) ∧
      g.countdown.remaining = 0 ∧ g.calls = 1 ∧
      ∀ i, g.stage? i = some (.refused (.countdownDone 2)) ↔ i = 2 ∨ i = 3 := by
  obtain ⟨c, hc, hruns⟩ := finalizes_once (show 1 ≤ 2 by decide)
  obtain rfl : ⟨2, 2, Nat.le_refl 2⟩ = c := Except.ok.inj hc
  obtain ⟨hremaining, -, hcalls, -, hrefused, -⟩ := hruns crowdedMoves _ rfl
  refine ⟨by decide, _, _, hc, rfl, rfl, ⟨rfl, by decide⟩, Int.ofNat.inj hremaining,
    hcalls rfl (by decide), fun i => (hrefused i _).trans ⟨?_, ?_⟩⟩
  · rintro ⟨-, k, hlate, hk⟩
    match k, hlate, hk with
    | 2, _, hk => exact .inl (Option.some.inj hk).symm
    | 3, _, hk => exact .inr (Option.some.inj hk).symm
  · rintro (rfl | rfl)
    · exact ⟨rfl, 2, by decide, rfl⟩
    · exact ⟨rfl, 3, by decide, rfl⟩

end Gathering

end FieldRules
