import FieldRules.Proofs.Session.Waiting

/-!
# Schedules of a loop

The work of a loop may be done in any order, and kept reports may be completed at any time between.
A schedule is such an order, as far as it goes. The turns of the loop are one of them, and so are
completions one after the other.

Results:
* `Schedule.advances`: a loop that waits for a run goes on waiting for it, with less and less work.
* `Waits.progress`: while it waits, there is work, or a kept report that nobody has completed.
* `Waits.awaited_turns`: if all kept reports have been completed, the turns of the loop end the
  waiting.
-/

namespace FieldRules

namespace Session

variable {s u : Session} {message : Task → String} {verdict done : Nat → Bool} {l : Loop}

/-! ## Schedules -/

/-- A task has reported. -/
def HasReported (s : Session) (ref : TaskRef) : Prop :=
  ∃ r t, s.runs[ref.run]? = some r ∧ r.tasks[ref.task]? = some t ∧ t.outcome.isSome = true

/-- From one state to another, a loop does so many pieces of work, in any order. Meanwhile kept
    reports are completed; the first completion for a task of the run is with its verdict. -/
inductive Schedule (run : Nat) (verdict : Nat → Bool) : Session → Nat → Session → Prop
  | nil (u : Session) : Schedule run verdict u 0 u
  | work {u v : Session} {count : Nat} {l : Loop} {before rest : List Job} {job : Job}
      (h : Schedule run verdict u count v) (hl : v.loop = some l)
      (hj : l.jobs = before ++ job :: rest) :
      Schedule run verdict u (count + 1)
        (({ v with loop := some { l with jobs := before ++ rest } } : Session).after (doJob job))
  | complete {u v : Session} {count : Nat} (h : Schedule run verdict u count v) (number : Int)
      (passed : Bool) (hp : ∀ i, v.keptAt number = some ⟨run, i⟩ →
        v.HasReported ⟨run, i⟩ ∨ passed = verdict i) :
      Schedule run verdict u count (v.after (complete number passed))

theorem Schedule.trans {run : Nat} {v w : Session} {count count' : Nat}
    (h : Schedule run verdict u count v) (h' : Schedule run verdict v count' w) :
    Schedule run verdict u (count + count') w := by
  induction h' with
  | nil => exact h
  | work _ hl hj ih => exact .work ih hl hj
  | complete _ number passed hp ih => exact .complete ih number passed hp

/-! ## What can be seen of a loop that waits -/

theorem Waits.hasReported_iff (h : s.Waits message verdict done u l) {i : Nat}
    (hi : i < s.tasks.length) : u.HasReported ⟨s.runs.length, i⟩ ↔ done i = true := by
  obtain ⟨r, t, hr, ht, hout⟩ := h.isSome_outcome hi
  constructor
  · rintro ⟨r', t', hr', ht', hsome⟩
    obtain rfl := Option.some.inj (hr.symm.trans hr')
    obtain rfl := Option.some.inj (ht.symm.trans ht')
    rw [← hout, hsome]
  · intro hdone
    exact ⟨r, t, hr, ht, hout.trans hdone⟩

theorem Waits.awaited_eq (h : s.Waits message verdict done u l) : u.awaited = l.result := by
  rw [awaited, h.loop]
  rfl

/-- The waiting ends with one result only. -/
theorem Waits.awaited_cases (h : s.Waits message verdict done u l) :
    u.awaited = none ∨ u.awaited = some (s.awaitedResult message verdict) := by
  rw [h.awaited_eq]
  have hhandover := h.handover
  generalize l.jobs.filter Job.carries = jobs at hhandover
  generalize l.handed = handed at hhandover
  generalize l.result = result at hhandover
  cases hhandover with
  | waiting | delivered | handed => exact .inl rfl
  | ended => exact .inr rfl

/-- While the loop waits, there is work, or a kept report that nobody has completed. -/
theorem Waits.progress (h : s.Waits message verdict done u l) (hlive : s.AllLive done u)
    (hnone : u.awaited = none) :
    u.jobs ≠ [] ∨ ∃ i, some ⟨s.runs.length, i⟩ ∈ u.kept ∧ ¬ u.HasReported ⟨s.runs.length, i⟩ := by
  have hjobs : u.jobs = l.jobs := by simp [jobs, h.loop]
  by_cases hnil : u.jobs = []
  · right
    have hhandover := h.handover
    rw [← h.awaited_eq, hnone, ← hjobs, hnil, List.filter_nil] at hhandover
    generalize l.handed = handed at hhandover
    cases hhandover with
    | waiting hnot =>
      obtain ⟨i, hlt, hdone⟩ : ∃ i, i < s.tasks.length ∧ done i ≠ true := by
        simpa [IsOver] using hnot
      rcases mem_held.1 (hlive i hlt (Bool.eq_false_iff.2 hdone)) with hk | ⟨job, hj, -⟩
      · exact ⟨i, hk, mt (h.hasReported_iff hlt).1 hdone⟩
      · rw [hnil] at hj
        cases hj
  · exact .inl hnil

/-- Every piece of work counts for one at least. -/
theorem length_jobs_le_weight : l.jobs.length ≤ s.weight done l := by
  have hsum : ∀ jobs : List Job, jobs.length ≤ (jobs.map Job.weight).sum := by
    intro jobs
    induction jobs with
    | nil => exact Nat.le_refl _
    | cons job rest ih =>
      have hpos : 0 < job.weight := by cases job <;> simp [Job.weight]
      rw [List.length_cons, List.map_cons, List.sum_cons]
      omega
  exact Nat.le_trans (hsum l.jobs) (Nat.le_add_right _ _)

section Steps

variable (hnd : s.fields.keys.Nodup)
  (hformat : ∀ t ∈ s.tasks,
    s.templates.format t.rule t.friendly (t.shown.map .text) = .ok (message t))

include hnd hformat

/-- Whatever is done next, a loop that waits for a run goes on waiting for it, with less and less
    work. -/
theorem Schedule.advances {v : Session} {count : Nat}
    (hs : Schedule s.runs.length verdict u count v) (h : s.Waits message verdict done u l) :
    ∃ done' l', s.Advances message verdict done u l done' v l' count := by
  induction hs with
  | nil => exact ⟨done, l, h.refl⟩
  | work _ hl hj ih =>
    obtain ⟨done₁, l₁, hadv⟩ := ih
    obtain rfl := Option.some.inj (hadv.waits.loop.symm.trans hl)
    obtain ⟨done₂, l₂, hwork⟩ := hadv.waits.work hnd hformat hj
    exact ⟨done₂, l₂, hadv.trans hwork⟩
  | complete _ number passed hp ih =>
    obtain ⟨done₁, l₁, hadv⟩ := ih
    obtain ⟨done₂, l₂, hcomplete, -⟩ := hadv.waits.complete hnd hformat fun i hkept => by
      have hi := hadv.waits.kept i (mem_kept_of_keptAt hkept)
      exact (hp i hkept).imp_left (hadv.waits.hasReported_iff hi).1
    exact ⟨done₂, l₂, hadv.trans hcomplete⟩

end Steps

/-! ## Turns -/

/-- Puts work in front of that of the loop. -/
def front (jobs : List Job) (s : Session) : Session :=
  { s with loop := s.loop.map fun l => { l with jobs := jobs ++ l.jobs } }

section Front

variable (jobs : List Job)

theorem after_deliver_front (u : Session) (result : Delivery) (loop : Option Nat) :
    (u.front jobs).after (deliver result loop) = (u.after (deliver result loop)).front jobs := by
  unfold after deliver
  rw [run_bind, run_modify, run_bind, run_modify]
  simp only
  rw [run_bind, run_get, run_bind, run_get]
  cases loop with
  | none => rfl
  | some number =>
    cases hl : u.loop with
    | none => simp [front, hl, run_throw]
    | some l =>
      by_cases hn : l.number = number <;> simp [front, hl, hn, run_become, run_throw]

theorem after_report_front (u : Session) (ref : TaskRef) (passed : Bool) :
    (u.front jobs).after (report ref passed) = (u.after (report ref passed)).front jobs := by
  cases hr : u.runs[ref.run]? with
  | none =>
    unfold after
    rw [run_report, run_report]
    simp only [front, hr]
  | some r =>
    have hr' : (u.front jobs).runs[ref.run]? = some r := hr
    rcases hrep : r.report u.templates ref.task passed with fault | ⟨r', last, fault⟩
    · rw [after_report_of_error hr hrep, after_report_of_error hr' hrep]
    · rw [after_report_of_ok hr hrep, after_report_of_ok hr' hrep]
      cases last with
      | false => rfl
      | true => exact after_deliver_front jobs { u with runs := u.runs.set ref.run r' } _ _

theorem after_editLoop_front (u : Session) {f : Loop → Loop}
    (hf : ∀ l : Loop,
      f { l with jobs := jobs ++ l.jobs } = { f l with jobs := jobs ++ (f l).jobs }) :
    (u.front jobs).after (editLoop f) = (u.after (editLoop f)).front jobs := by
  show ({ u with loop := (u.front jobs).loop.map f } : Session) =
    front jobs { u with loop := u.loop.map f }
  cases hl : u.loop with
  | none => simp [front, hl]
  | some l => simp [front, hl, hf]

/-- Work in front of that of the loop can be put there before or after a piece of work is done. -/
theorem after_doJob_front (u : Session) (job : Job) :
    (u.front jobs).after (doJob job) = (u.after (doJob job)).front jobs := by
  have hleave : ∀ job u, (front jobs u).after (leave job) = (u.after (leave job)).front jobs :=
    fun job u => after_editLoop_front jobs u fun l => by simp
  cases job with
  | step ref yields v => cases yields <;> exact hleave _ u
  | settle ref passed => exact after_report_front jobs u ref passed
  | resolve result =>
    have hhanded : ((u.front jobs).loop.map (·.handed)).getD true =
        (u.loop.map (·.handed)).getD true := by cases hl : u.loop <;> simp [front, hl]
    unfold after doJob
    rw [run_bind, run_get, run_bind, run_get]
    simp only [hhanded]
    split
    · rfl
    · rw [run_bind_of_ok rfl, run_bind_of_ok rfl, after_editLoop_front jobs u fun l => rfl]
      exact hleave _ _
  | wake result => exact after_editLoop_front jobs u fun l => rfl

end Front

theorem front_nil (u : Session) : u.front [] = u := by
  unfold front
  cases hl : u.loop <;> simp [← hl]

section Turns

variable (hnd : s.fields.keys.Nodup)
  (hformat : ∀ t ∈ s.tasks,
    s.templates.format t.rule t.friendly (t.shown.map .text) = .ok (message t))

include hnd hformat

/-- Work that is done from the front on, while other work comes up behind it, is a schedule. -/
theorem Waits.schedule_foldl {w : Session} (work : List Job)
    (h : s.Waits message verdict done (w.front work) l) :
    Schedule s.runs.length verdict (w.front work) work.length
      (work.foldl (fun u job => u.after (doJob job)) w) := by
  induction work generalizing w done l with
  | nil =>
    rw [front_nil]
    exact .nil w
  | cons job rest ih =>
    have hstep : Schedule s.runs.length verdict (w.front (job :: rest)) 1
        ((w.after (doJob job)).front rest) := by
      cases hw : w.loop with
      | none =>
        have hl := h.loop
        simp [front, hw] at hl
      | some lw =>
        have hl : (w.front (job :: rest)).loop =
            some { lw with jobs := job :: (rest ++ lw.jobs) } := by simp [front, hw]
        rw [← after_doJob_front]
        have hrest : w.front rest = { w.front (job :: rest) with
            loop := some { lw with jobs := [] ++ (rest ++ lw.jobs) } } := by simp [front, hw]
        have hnil : Schedule s.runs.length verdict (w.front (job :: rest)) 0
            (w.front (job :: rest)) := .nil _
        have hwork := hnil.work hl (List.nil_append _).symm
        rw [hrest]
        exact hwork
    obtain ⟨done', l', hadv⟩ := hstep.advances hnd hformat h
    rw [List.length_cons, Nat.add_comm]
    exact hstep.trans (ih hadv.waits)

/-- A turn does all work that is there. -/
theorem Waits.schedule_turn (h : s.Waits message verdict done u l) :
    Schedule s.runs.length verdict u l.jobs.length u.turn := by
  have hfront : ({ u with loop := some { l with jobs := [] } } : Session).front l.jobs = u := by
    simp [front, ← h.loop]
  have hturn : u.turn = l.jobs.foldl (fun u job => u.after (doJob job))
      { u with loop := some { l with jobs := [] } } := by
    unfold turn
    rw [h.loop]
  have hschedule := Waits.schedule_foldl hnd hformat
    (w := { u with loop := some { l with jobs := [] } }) l.jobs (by rw [hfront]; exact h)
  rwa [hfront, ← hturn] at hschedule

/-- If every kept report of the run has been completed, the turns of the loop end the waiting. -/
theorem Waits.awaited_turns (h : s.Waits message verdict done u l) (hlive : s.AllLive done u)
    (hkept : ∀ i, some ⟨s.runs.length, i⟩ ∈ u.kept → u.HasReported ⟨s.runs.length, i⟩)
    {limit : Nat} (hlimit : s.weight done l ≤ limit) :
    (u.turns limit).awaited = some (s.awaitedResult message verdict) := by
  have hjobs : ∀ {u done l}, s.Waits message verdict done u l → s.AllLive done u →
      (∀ i, some ⟨s.runs.length, i⟩ ∈ u.kept → u.HasReported ⟨s.runs.length, i⟩) →
      u.awaited = none → l.jobs ≠ [] := by
    intro u done l h hlive hkept hnone
    rcases h.progress hlive hnone with hjobs | ⟨i, hk, hunreported⟩
    · simpa [jobs, h.loop] using hjobs
    · exact absurd (hkept i hk) hunreported
  induction limit generalizing u done l with
  | zero =>
    refine h.awaited_cases.resolve_left fun hnone => hjobs h hlive hkept hnone ?_
    have hle : l.jobs.length ≤ s.weight done l := length_jobs_le_weight
    exact List.eq_nil_of_length_eq_zero (by omega)
  | succ limit ih =>
    unfold turns
    split
    · next hsome =>
      refine h.awaited_cases.resolve_left fun hnone => ?_
      rw [hnone] at hsome
      cases hsome
    · next hnone =>
      have hpos := List.length_pos_iff.2 (hjobs h hlive hkept (by simpa using hnone))
      obtain ⟨done', l', hadv⟩ := (h.schedule_turn hnd hformat).advances hnd hformat h
      have hweight := hadv.weight
      refine ih hadv.waits (hadv.allLive hlive) (fun i hk => ?_) (by omega)
      have hi := hadv.waits.kept i hk
      rw [hadv.kept] at hk
      exact (hadv.waits.hasReported_iff hi).2 (hadv.stays i ((h.hasReported_iff hi).1 (hkept i hk)))

end Turns

/-! ## Completions one after the other -/

/-- The first completion of each kept report of a run is with its verdict. -/
def CompletesAs (s : Session) (run : Nat) (verdict : Nat → Bool)
    (completions : List (Int × Bool)) : Prop :=
  ∀ before number passed rest i, completions = before ++ (number, passed) :: rest →
    s.keptAt number = some ⟨run, i⟩ → (∀ c ∈ before, s.keptAt c.1 ≠ some ⟨run, i⟩) →
      s.HasReported ⟨run, i⟩ ∨ passed = verdict i

/-- All kept reports of a run are completed. -/
def CompletesAll (s : Session) (run : Nat) (completions : List (Int × Bool)) : Prop :=
  ∀ i, some ⟨run, i⟩ ∈ s.kept → ∃ c ∈ completions, s.keptAt c.1 = some ⟨run, i⟩

theorem keptAt_congr {u' : Session} (h : u'.kept = u.kept) (number : Int) :
    u'.keptAt number = u.keptAt number := by
  unfold keptAt
  rw [h]

section Completions

variable (hnd : s.fields.keys.Nodup)
  (hformat : ∀ t ∈ s.tasks,
    s.templates.format t.rule t.friendly (t.shown.map .text) = .ok (message t))

include hnd hformat

/-- Completions one after the other are a schedule without work, and whoever's report was completed
    has reported. -/
theorem Waits.schedule_completeAll {completions : List (Int × Bool)}
    (h : s.Waits message verdict done u l)
    (hc : u.CompletesAs s.runs.length verdict completions) :
    Schedule s.runs.length verdict u 0 (u.completeAll completions).1 ∧
      ∀ i, (∃ c ∈ completions, u.keptAt c.1 = some ⟨s.runs.length, i⟩) →
        (u.completeAll completions).1.HasReported ⟨s.runs.length, i⟩ := by
  induction completions generalizing u done l with
  | nil => exact ⟨.nil u, by simp⟩
  | cons completion rest ih =>
    obtain ⟨number, passed⟩ := completion
    have hhead : ∀ i, u.keptAt number = some ⟨s.runs.length, i⟩ →
        u.HasReported ⟨s.runs.length, i⟩ ∨ passed = verdict i :=
      fun i hk => hc [] number passed rest i rfl hk (by simp)
    obtain ⟨done', l', hadv, hdone'⟩ := h.complete hnd hformat fun i hk =>
      (hhead i hk).imp_left (h.hasReported_iff (h.kept i (mem_kept_of_keptAt hk))).1
    have hat := keptAt_congr hadv.kept
    have hc' : (u.after (Session.complete number passed)).CompletesAs s.runs.length verdict
        rest := by
      intro before number' passed' rest' i hsplit hk hbefore
      rw [hat] at hk
      have hi := h.kept i (mem_kept_of_keptAt hk)
      have hstays : u.HasReported ⟨s.runs.length, i⟩ →
          (u.after (Session.complete number passed)).HasReported ⟨s.runs.length, i⟩ := fun hr =>
        (hadv.waits.hasReported_iff hi).2 (hadv.stays i ((h.hasReported_iff hi).1 hr))
      by_cases hfirst : u.keptAt number = some ⟨s.runs.length, i⟩
      · exact .inl ((hadv.waits.hasReported_iff hi).2 (hdone' i hfirst))
      · refine (hc ((number, passed) :: before) number' passed' rest' i (by rw [hsplit]; rfl) hk
          ?_).imp_left hstays
        refine List.forall_mem_cons.2 ⟨hfirst, fun c hmem => ?_⟩
        rw [← hat]
        exact hbefore c hmem
    obtain ⟨hrest, hreported⟩ := ih hadv.waits hc'
    have hstep : Schedule s.runs.length verdict u 0 (u.after (Session.complete number passed)) :=
      .complete (.nil u) number passed hhead
    refine ⟨hstep.trans hrest, ?_⟩
    rintro i ⟨c, hmem, hk⟩
    rcases List.mem_cons.1 hmem with rfl | hmem
    · obtain ⟨done'', l'', hadv'⟩ := hrest.advances hnd hformat hadv.waits
      have hi := h.kept i (mem_kept_of_keptAt hk)
      exact (hadv'.waits.hasReported_iff hi).2 (hadv'.stays i (hdone' i hk))
    · exact hreported i ⟨c, hmem, by rw [hat, hk]⟩

end Completions

end Session

end FieldRules
