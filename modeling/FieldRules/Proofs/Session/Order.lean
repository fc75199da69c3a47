import FieldRules.Proofs.Session.Delivery

/-!
# The order of reports

However the reports of a run are ordered, and whatever happens between them, the run hands over the
same result with the last of them: the messages of the failed rules of each field, joined, field by
field and rule by rule in the order that they had when the run was taken up.

Results:
* `delivery_of_perm`: the result of a run does not depend on the order of the reports.
-/

namespace FieldRules

/-- A task with the outcome that a verdict gives it. -/
def Task.settled (message : Task → String) (passed : Bool) (t : Task) : Task :=
  { t with outcome := some (if passed then .passed else .failed (message t)) }

namespace Session

/-! ## The errors that are expected -/

/-- The messages of the failed rules of a field, in the order of the rules. Tasks are told apart by
    their places. -/
def failures (s : Session) (message : Task → String) (verdict : Nat → Bool) (field : String) :
    List String :=
  (s.tasks.zipIdx.filter fun t => t.1.field = field && !verdict t.2).map fun t => message t.1

/-- The errors that a run of the session's rules should have: one entry for each field with a failed
    rule, in the order of the fields; none if no rule failed. -/
def expected (s : Session) (message : Task → String) (verdict : Nat → Bool) :
    Option (Entries String) :=
  match s.fields.keys.filterMap fun field =>
    (joined s.separator (s.failures message verdict field)).map (field, ·) with
  | [] => none
  | errors => some errors

/-! ## Reports and accepted reports -/

theorem reportsIn_append (h h' : List Event) (n : Nat) :
    reportsIn (h ++ h') n = reportsIn h n ++ reportsIn h' n := List.filterMap_append

theorem Event.exists_reportIn_iff {e : Event} {n i : Nat} :
    (∃ passed, e.reportIn n = some (i, passed)) ↔ e.reportOf ⟨n, i⟩ ≠ none := by
  cases e with
  | report ref passed templates =>
    obtain ⟨m, j⟩ := ref
    by_cases hm : m = n
    · by_cases hj : j = i <;> simp [reportIn, reportOf, hm, hj]
    · simp [reportIn, reportOf, hm]
  | _ => simp [reportIn, reportOf]

/-- A report is accepted for every task that has reported. -/
theorem accepted_ne_none_iff {h : List Event} {n i : Nat} :
    accepted h ⟨n, i⟩ ≠ none ↔ i ∈ (reportsIn h n).map Prod.fst := by
  rw [accepted, ne_eq, List.findSome?_eq_none_iff]
  constructor
  · intro hne
    obtain ⟨e, hne⟩ := not_forall.1 hne
    obtain ⟨he, hr⟩ := Classical.not_imp.1 hne
    obtain ⟨passed, hp⟩ := Event.exists_reportIn_iff.2 hr
    exact List.mem_map.2 ⟨(i, passed), List.mem_filterMap.2 ⟨e, he, hp⟩, rfl⟩
  · intro hi hnone
    obtain ⟨⟨_, passed⟩, hmem, rfl⟩ := List.mem_map.1 hi
    obtain ⟨e, he, hp⟩ := List.mem_filterMap.1 hmem
    exact Event.exists_reportIn_iff.1 ⟨passed, hp⟩ (hnone e he)

/-- The report that is accepted is one of those that were made. -/
theorem report_mem_of_accepted {h : List Event} {ref : TaskRef} {passed : Bool}
    {templates : MessageTable} (ha : accepted h ref = some (passed, templates)) :
    .report ref passed templates ∈ h := by
  obtain ⟨e, he, hr⟩ := List.exists_of_findSome?_eq_some ha
  cases e <;> simp only [Event.reportOf, reduceCtorEq] at hr
  split at hr
  · next href =>
    subst href
    cases hr
    exact he
  · cases hr

theorem eq_verdict_of_accepted {pre post : List Event} {n count i : Nat} {verdict : Nat → Bool}
    {templates : MessageTable} {v : Bool × MessageTable}
    (htemplates : ∀ i passed table, .report ⟨n, i⟩ passed table ∈ pre ++ post → table = templates)
    (hreports : (reportsIn (pre ++ post) n).Perm
      ((List.range count).map fun i => (i, verdict i)))
    (ha : accepted pre ⟨n, i⟩ = some v) : v = (verdict i, templates) := by
  obtain ⟨passed, table⟩ := v
  have hmem := List.mem_append_left post (report_mem_of_accepted ha)
  have hin : (i, passed) ∈ reportsIn (pre ++ post) n :=
    List.mem_filterMap.2 ⟨_, hmem, by simp [Event.reportIn]⟩
  obtain ⟨j, -, hj⟩ := List.mem_map.1 (hreports.subset hin)
  obtain ⟨rfl, rfl⟩ := Prod.mk.inj hj
  rw [htemplates _ _ _ hmem]

/-- If the numbers up to a bound are dealt into two lists, one of them has them all just when the
    other one is empty. -/
theorem forall_mem_iff_of_perm_range {l l' : List Nat} {count : Nat}
    (hp : (l ++ l').Perm (List.range count)) : (∀ i < count, i ∈ l) ↔ l' = [] := by
  constructor
  · intro hall
    rw [List.eq_nil_iff_forall_not_mem]
    intro i hi
    have hlt : i < count := List.mem_range.1 (hp.subset (List.mem_append_right l hi))
    have hnd : (l ++ l').Nodup := hp.nodup_iff.2 List.nodup_range
    exact (List.nodup_append.1 hnd).2.2 i (hall i hlt) i hi rfl
  · rintro rfl i hi
    rw [List.append_nil] at hp
    exact hp.symm.subset (List.mem_range.2 hi)

/-! ## Settled tasks -/

/-- When all of its tasks have reported under templates that can be filled, a run has the tasks that
    it was taken up with, each settled by its verdict. -/
theorem RunLedger.tasks_eq {h : List Event} {separator : String} {deliveries : List Delivery}
    {n : Nat} {r : Run} {tasks : List Task} {templates : MessageTable} {message : Task → String}
    {verdict : Nat → Bool} (hl : RunLedger h separator deliveries n r)
    (htasks : r.tasks.map Task.unreported = tasks.map Task.unreported)
    (hacc : ∀ i < tasks.length, accepted h ⟨n, i⟩ = some (verdict i, templates))
    (hformat : ∀ t ∈ tasks,
      templates.format t.rule t.friendly (t.shown.map .text) = .ok (message t)) :
    r.tasks = tasks.mapIdx fun i t => t.settled message (verdict i) := by
  have hlen : r.tasks.length = tasks.length := by
    simpa using congrArg List.length htasks
  apply List.ext_getElem (by simpa using hlen)
  intro i hi hi'
  rw [List.length_mapIdx] at hi'
  have hout := hl.outcome i _ (List.getElem?_eq_getElem hi)
  have hsame : r.tasks[i].unreported = tasks[i].unreported := by
    have := congrArg (fun l => l[i]?) htasks
    simpa [hi, hi'] using this
  have hmessage := hformat _ (List.getElem_mem hi')
  rw [hacc i hi', Option.map_some] at hout
  rw [List.getElem_mapIdx]
  generalize r.tasks[i] = u at hout hsame
  generalize tasks[i] = t at hsame hmessage
  obtain ⟨field, friendly, rule, options, shown, outcome⟩ := u
  simp only [Task.unreported, Task.mk.injEq, and_true] at hsame
  obtain ⟨rfl, rfl, rfl, rfl, rfl⟩ := hsame
  have hjudge : outcome = some (t.judge templates (verdict i)).1 := hout
  rw [hjudge]
  unfold Task.settled Task.judge
  rw [hmessage]
  cases verdict i <;> rfl

/-- The messages of a field's settled tasks are those of its failed rules. -/
theorem messagesOf_settled (s : Session) (message : Task → String) (verdict : Nat → Bool)
    (field : String) :
    messagesOf (s.tasks.mapIdx fun i t => t.settled message (verdict i)) field =
      s.failures message verdict field := by
  unfold messagesOf failures
  rw [List.mapIdx_eq_zipIdx_map, List.filterMap_map, ← List.filterMap_eq_map,
    List.filterMap_filter]
  apply List.filterMap_congr
  rintro ⟨t, i⟩ -
  show (if t.field = field then (t.settled message (verdict i)).message? else none) = _
  by_cases hf : t.field = field <;> cases verdict i <;>
    simp [hf, Task.settled, Task.message?]

/-- The errors of the settled tasks are the expected ones. -/
theorem errors_settled {s : Session} (hnd : s.fields.keys.Nodup) {r : Run}
    {message : Task → String} {verdict : Nat → Bool}
    (htasks : r.tasks = s.tasks.mapIdx fun i t => t.settled message (verdict i)) :
    r.errors s.separator = s.expected message verdict := by
  have hfields : r.tasks.map Task.field =
      s.fields.flatMap fun e => e.2.rules.map fun _ => e.1 := by
    have hmap : r.tasks.map Task.field = s.tasks.map Task.field := by
      rw [htasks, List.mapIdx_eq_zipIdx_map, List.map_map]
      show s.tasks.zipIdx.map (Task.field ∘ Prod.fst) = _
      rw [← List.map_map, List.zipIdx_map_fst]
    rw [hmap, tasks, List.map_flatMap]
    simp only [List.map_map, Function.comp_def]
  unfold Run.errors expected
  rw [errorsOf_eq s.separator hnd hfields, htasks]
  simp only [messagesOf_settled]
  rfl

/-! ## The result of a run -/

/-- A run that was taken up goes on with the tasks and the record of that moment. -/
theorem History.run_of_start {s s' : Session} {loop : Option Nat} {h : List Event}
    (hh : History s (.start loop :: h) s') :
    ∃ r countdown, s'.runs[s.runs.length]? = some r ∧
      Run.Continues ⟨s.tasks, s.current, countdown, 0, loop⟩ r := by
  obtain ⟨s₁, hs, hrest⟩ := hh.of_cons
  cases hs with
  | @start countdown _ hc =>
    have hopen : (s.openRun countdown loop).runs[s.runs.length]? =
        some ⟨s.tasks, s.current, countdown, 0, loop⟩ := by
      simp [openRun]
    obtain ⟨r, hr, hcont, -⟩ := hrest.continues hopen
    exact ⟨r, countdown, hr, hcont⟩

/-- The result of a run depends on the verdicts of its tasks, and not on the order of their reports
    or on what happens between them. Let a run be taken up in the state `s₁`, and let each of its
    tasks report once under templates that can be filled. Then the run hands over nothing before the
    last report, and with it one result: the record that it was started on, and the errors that the
    rules of `s₁` should have. -/
theorem delivery_of_perm {today : Calendar.Today} {registry : Registry}
    {templates : MessageTable} {separator : String} {record : Value} {s₁ s : Session}
    {before pre post : List Event} {loop : Option Nat} {message : Task → String}
    {verdict : Nat → Bool}
    (hbefore : History (start today registry templates separator record) before s₁)
    (hpre : History s₁ (.start loop :: pre) s)
    (hformat : ∀ t ∈ s₁.tasks,
      s₁.templates.format t.rule t.friendly (t.shown.map .text) = .ok (message t))
    (htemplates : ∀ i passed table, .report ⟨s₁.runs.length, i⟩ passed table ∈ pre ++ post →
      table = s₁.templates)
    (hreports : (reportsIn (pre ++ post) s₁.runs.length).Perm
      ((List.range s₁.tasks.length).map fun i => (i, verdict i))) :
    s.deliveriesOf s₁.runs.length =
      if reportsIn post s₁.runs.length = [] then
        [⟨s₁.expected message verdict, s₁.current, some s₁.runs.length⟩]
      else [] := by
  have hl₀ := hbefore.ledger
  obtain ⟨r, _, hr, hcont⟩ := hpre.run_of_start
  generalize hn : s₁.runs.length = n at *
  have hrun := (hbefore.trans hpre).ledger.runs n r hr
  have hlen : r.tasks.length = s₁.tasks.length := hcont.length_eq
  -- the reports before the run are about other runs
  have hacc : ∀ i, accepted (before ++ .start loop :: pre) ⟨n, i⟩ = accepted pre ⟨n, i⟩ := by
    intro i
    rw [accepted_append, (hl₀.unstarted n (Nat.le_of_eq hn)).2 i, Option.none_or]
    rfl
  have hdealt : ((reportsIn pre n).map Prod.fst ++ (reportsIn post n).map Prod.fst).Perm
      (List.range s₁.tasks.length) := by
    have := hreports.map Prod.fst
    rwa [reportsIn_append, List.map_append, List.map_map, List.map_id''] at this
    intro i
    rfl
  have hall : r.countdown.remaining = 0 ↔ reportsIn post n = [] := by
    rw [hrun.remaining_eq_zero_iff, hlen, ← List.map_eq_nil_iff (f := Prod.fst),
      ← forall_mem_iff_of_perm_range hdealt]
    simp only [hacc, accepted_ne_none_iff]
  rw [hrun.deliveries, Run.results]
  by_cases hpost : reportsIn post n = []
  · rw [if_pos (hall.2 hpost), if_pos hpost]
    have hverdict : ∀ i < s₁.tasks.length, accepted (before ++ .start loop :: pre) ⟨n, i⟩ =
        some (verdict i, s₁.templates) := by
      intro i hi
      have hreported : accepted pre ⟨n, i⟩ ≠ none :=
        hacc i ▸ hrun.remaining_eq_zero_iff.1 (hall.2 hpost) i (hlen ▸ hi)
      obtain ⟨v, hv⟩ := Option.ne_none_iff_exists'.1 hreported
      rw [hacc, hv, eq_verdict_of_accepted htemplates hreports hv]
    have htasks := hrun.tasks_eq hcont.tasks hverdict hformat
    rw [hpre.separator, errors_settled hl₀.fields htasks, hcont.record]
  · rw [if_neg (mt hall.1 hpost), if_neg hpost]

/-- All tasks of a run have been begun; the second one has reported meanwhile. -/
def applicantBegun : Session :=
  (((applicantOpen.beginTask 0).beginTask 0).after (report ⟨0, 1⟩ true)).beginTask 0

/-- The third task has reported, and then the rules and the record were forgotten. -/
def applicantReset : Session := (applicantBegun.after (report ⟨0, 2⟩ false)).reset

/-- What becomes of `applicant` when its tasks report out of their order. -/
def applicantLog : List Event :=
  [.begin 0, .begin 0, .report ⟨0, 1⟩ true applicant.templates, .begin 0,
    .report ⟨0, 2⟩ false applicant.templates, .edit, .report ⟨0, 0⟩ false applicant.templates]

theorem history_applicantLog : History applicant (.start none :: applicantLog)
    (applicantReset.after (report ⟨0, 0⟩ false)) := by
  have hbegin : Step applicantOpen (.begin 0) (applicantOpen.beginTask 0) :=
    .begin rfl (by decide)
  have hbegin' : Step (applicantOpen.beginTask 0) (.begin 0)
      ((applicantOpen.beginTask 0).beginTask 0) := .begin rfl (by decide)
  have hsecond : Step ((applicantOpen.beginTask 0).beginTask 0)
      (.report ⟨0, 1⟩ true applicant.templates)
      (((applicantOpen.beginTask 0).beginTask 0).after (report ⟨0, 1⟩ true)) :=
    .report true ⟨_, rfl, by decide⟩
  have hbegin'' : Step (((applicantOpen.beginTask 0).beginTask 0).after (report ⟨0, 1⟩ true))
      (.begin 0) applicantBegun := .begin rfl (by decide)
  have hthird : Step applicantBegun (.report ⟨0, 2⟩ false applicant.templates)
      (applicantBegun.after (report ⟨0, 2⟩ false)) := .report false ⟨_, rfl, by decide⟩
  have hreset : Step (applicantBegun.after (report ⟨0, 2⟩ false)) .edit applicantReset :=
    .edit ⟨rfl, fun _ => rfl, rfl, fun _ => List.nodup_nil⟩
  have htail : History applicantBegun
      [.report ⟨0, 2⟩ false applicant.templates, .edit] applicantReset :=
    .snoc (.single hthird) hreset
  have hbegun : applicantBegun.HasBegun ⟨0, 0⟩ := ⟨_, rfl, by decide⟩
  have htemplates : applicantReset.templates = applicant.templates := by with_unfolding_all rfl
  have hfirst : Step applicantReset (.report ⟨0, 0⟩ false applicant.templates)
      (applicantReset.after (report ⟨0, 0⟩ false)) :=
    htemplates ▸ .report false (htail.hasBegun hbegun)
  exact .snoc (.trans (.snoc (.snoc (.snoc (.snoc (.single step_applicantOpen) hbegin) hbegin')
    hsecond) hbegin'') htail) hfirst

/-- The errors are those of the rules that the run was taken up with, in their order. -/
theorem delivery_of_applicantLog :
    (applicantReset.after (report ⟨0, 0⟩ false)).deliveriesOf 0 =
      [⟨some [("name", "Too short."), ("age", "Too old.")], 0, some 0⟩] := by
  have hlong : applicant.templates.format "long" (.text "Name") [] = .ok "Too short." := by
    with_unfolding_all rfl
  have hword : applicant.templates.format "word" (.text "Name") [] = .ok "No word." := by
    with_unfolding_all rfl
  have hlow : applicant.templates.format "low" (.text "Age") [] = .ok "Too old." := by
    with_unfolding_all rfl
  have hformat : ∀ t ∈ applicant.tasks, applicant.templates.format t.rule t.friendly
      (t.shown.map .text) = .ok ((applicant.templates.get? t.rule).getD "") := by
    intro t ht
    simp only [tasks, applicant, List.flatMap_cons, List.flatMap_nil, List.map_cons, List.map_nil,
      List.cons_append, List.nil_append, List.mem_cons, List.not_mem_nil, or_false] at ht
    rcases ht with rfl | rfl | rfl
    · exact hlong
    · exact hword
    · exact hlow
  have hdelivery : (applicantReset.after (report ⟨0, 0⟩ false)).deliveriesOf 0 =
      if reportsIn [] 0 = [] then
        [⟨applicant.expected (fun t => (applicant.templates.get? t.rule).getD "") (· = 1), 0,
          some 0⟩]
      else [] := by
    refine @delivery_of_perm _ _ _ _ _ _ _ _ applicantLog [] _ _ _ history_applicant
      history_applicantLog hformat ?_ (by decide)
    intro i passed table hmem
    simp [applicantLog] at hmem
    tauto
  rw [hdelivery]
  rfl

end Session

end FieldRules
