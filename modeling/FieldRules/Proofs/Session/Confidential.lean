import FieldRules.Proofs.Session.Decided
import FieldRules.Proofs.Session.Rewriting

/-!
# Values that only comparisons see

A field may have no rules of its own and be no more than what others are compared with. Then a
session depends on its value by the verdicts of those comparisons only: two sessions that differ in
the value alone go through the same steps, and their rules differ in nothing but the value that was
taken for the comparison. No message has it, since messages show the options as they were written;
and what the record has for the field later is never read.

Results:
* `Lockstep.bind`: two sequences of actions that go through the same steps.
* `lockstep_addRule`: giving a field its rules in two sessions.
* `agreeOff_of_calls`: sessions that were given the same rules.
* `runOutcome_of_agreeOff`: what runs of such sessions come to.
* `matches_keeps_confidence`: the value of a compared field reaches no result.
-/

namespace FieldRules

/-! ## Tasks without their options -/

/-- A task without what its check gets. -/
def Task.withoutOptions (t : Task) : Task := { t with options := [] }

section WithoutOptions

variable {templates : MessageTable} {verdict verdict' : Task → Except Fault Bool}
  {tasks tasks' : List Task}

theorem judge_eq_of_withoutOptions {t t' : Task} (h : t.withoutOptions = t'.withoutOptions)
    (templates : MessageTable) (passed : Bool) :
    t.judge templates passed = t'.judge templates passed := by
  have hjudge : t.withoutOptions.judge templates passed =
      t'.withoutOptions.judge templates passed := by
    rw [h]
  exact hjudge

theorem errorsIn_map_withoutOptions (separator : String) (tasks : List Task) :
    errorsIn separator (tasks.map Task.withoutOptions) = errorsIn separator tasks := by
  unfold errorsIn errorsOf
  rw [List.foldl_map]
  rfl

theorem areSettled_map_withoutOptions (tasks : List Task) :
    areSettled (tasks.map Task.withoutOptions) = areSettled tasks := by
  unfold areSettled
  rw [List.all_map]
  rfl

/-- Tasks that differ in their options only are settled alike by the same verdicts. -/
theorem settleAll_congr (templates : MessageTable)
    (h : List.Forall₂ (fun t t' => t.withoutOptions = t'.withoutOptions ∧
      verdict t = verdict' t') tasks tasks') :
    (settleAll templates verdict tasks).1 = (settleAll templates verdict' tasks').1 ∧
      (settleAll templates verdict tasks).2.map Task.withoutOptions =
        (settleAll templates verdict' tasks').2.map Task.withoutOptions := by
  have hrest : ∀ {tasks tasks' : List Task},
      List.Forall₂ (fun t t' => t.withoutOptions = t'.withoutOptions ∧ verdict t = verdict' t')
        tasks tasks' → tasks.map Task.withoutOptions = tasks'.map Task.withoutOptions := by
    intro tasks tasks' h
    induction h with
    | nil => rfl
    | cons hfirst _ ih => rw [List.map_cons, List.map_cons, hfirst.1, ih]
  induction h with
  | nil => exact ⟨rfl, rfl⟩
  | @cons t t' rest rest' hfirst hothers ih =>
    obtain ⟨hsame, hverdict⟩ := hfirst
    cases hv : verdict t with
    | error fault =>
      rw [settleAll_of_error hv, settleAll_of_error (hverdict ▸ hv)]
      exact ⟨rfl, hrest (.cons ⟨hsame, hverdict⟩ hothers)⟩
    | ok passed =>
      have hv' := hverdict ▸ hv
      have hjudge := judge_eq_of_withoutOptions hsame templates passed
      have hreported : (t.reported templates passed).withoutOptions =
          (t'.reported templates passed).withoutOptions :=
        congrArg (Task.reported · templates passed) hsame
      cases hfault : (t.judge templates passed).2 with
      | some fault =>
        rw [settleAll_of_judge_some hv hfault, settleAll_of_judge_some hv' (hjudge ▸ hfault),
          List.map_cons, List.map_cons, hreported, hrest hothers]
        exact ⟨rfl, rfl⟩
      | none =>
        rw [settleAll_of_judge_none hv hfault, settleAll_of_judge_none hv' (hjudge ▸ hfault),
          List.map_cons, List.map_cons, hreported, ih.2]
        exact ⟨ih.1, rfl⟩

end WithoutOptions

namespace Session

/-! ## Sessions that differ in one field of the record -/

/-- Two uses of a rule that compares with a field differ in what was taken from it at most; other
    uses do not differ. -/
def UseAlike (p : String) (use use' : RuleUse) : Prop :=
  use.rule = use'.rule ∧ use.shown = use'.shown ∧
    (use.options = use'.options ∨ use.rule = matchesRule ∧ use.shown.head? = some p)

/-- The rules of a field in two sessions. -/
def SpecAlike (p : String) (e e' : String × FieldSpec) : Prop :=
  e.1 = e'.1 ∧ e.2.friendly = e'.2.friendly ∧ List.Forall₂ (UseAlike p) e.2.rules e'.2.rules

/-- Two records have the same for every field but one. -/
def EntriesAlike (p : String) (entries entries' : Entries Value) : Prop :=
  ∀ field, field ≠ p → entries.get? field = entries'.get? field

/-- Two sessions agree but for what their records have for one field, and what comparisons have
    taken from it. -/
structure AgreeOff (p : String) (s s' : Session) : Prop where
  today : s.today = s'.today
  registry : s.registry = s'.registry
  templates : s.templates = s'.templates
  separator : s.separator = s'.separator
  received : s.received.map (·.errors) = s'.received.map (·.errors)
  record : ∃ entries entries', s.record = .map entries ∧ s'.record = .map entries' ∧
    EntriesAlike p entries entries'
  fields : List.Forall₂ (SpecAlike p) s.fields s'.fields

/-- Two outcomes are the same fault, or values in some relation. -/
inductive Alike {α : Type} (R : α → α → Prop) : Except Fault α → Except Fault α → Prop
  | ok {a a' : α} (h : R a a') : Alike R (.ok a) (.ok a')
  | error (fault : Fault) : Alike R (.error fault) (.error fault)

/-- Two actions in two sessions go through the same steps: their outcomes are alike, and so are the
    sessions afterwards. -/
structure Lockstep {α : Type} (p : String) (R : α → α → Prop) (s s' : Session)
    (action action' : SessionM α) : Prop where
  alike : Alike R (action.run s).1 (action'.run s').1
  agree : AgreeOff p (s.after action) (s'.after action')

section Sequence

variable {α β : Type} {p : String} {R : α → α → Prop} {R' : β → β → Prop} {s s' : Session}

theorem Lockstep.bind {action action' : SessionM α} {next next' : α → SessionM β}
    (h : Lockstep p R s s' action action')
    (hnext : ∀ a a', R a a' → AgreeOff p (s.after action) (s'.after action') →
      Lockstep p R' (s.after action) (s'.after action') (next a) (next' a')) :
    Lockstep p R' s s' (action >>= next) (action' >>= next') := by
  obtain ⟨halike, hagree⟩ := h
  unfold after at hagree hnext
  rcases hrun : action.run s with ⟨outcome, t⟩
  rcases hrun' : action'.run s' with ⟨outcome', t'⟩
  rw [hrun, hrun'] at halike hagree hnext
  cases halike with
  | ok hvalues =>
    obtain ⟨halike', hagree'⟩ := hnext _ _ hvalues hagree
    unfold after at hagree'
    constructor <;> (try unfold after) <;> rw [run_bind, run_bind, hrun, hrun']
    · exact halike'
    · exact hagree'
  | error fault =>
    constructor <;> (try unfold after) <;> rw [run_bind, run_bind, hrun, hrun']
    · exact .error fault
    · exact hagree

theorem lockstep_get_bind {next next' : Session → SessionM β}
    (h : Lockstep p R' s s' (next s) (next' s')) :
    Lockstep p R' s s' ((get : SessionM Session) >>= next) ((get : SessionM Session) >>= next') :=
  ⟨h.alike, h.agree⟩

theorem lockstep_lift_bind {x x' : Except Fault α} {next next' : α → SessionM β}
    (hs : AgreeOff p s s') (hx : Alike R x x')
    (h : ∀ a a', R a a' → x = .ok a → x' = .ok a' → Lockstep p R' s s' (next a) (next' a')) :
    Lockstep p R' s s' ((liftM x : SessionM α) >>= next) ((liftM x' : SessionM α) >>= next') := by
  cases hx with
  | ok hvalues =>
    obtain ⟨halike, hagree⟩ := h _ _ hvalues rfl rfl
    exact ⟨halike, hagree⟩
  | error fault => exact ⟨.error fault, hs⟩

theorem lockstep_pure (hs : AgreeOff p s s') {a a' : α} (h : R a a') :
    Lockstep p R s s' (pure a : SessionM α) (pure a') := ⟨.ok h, hs⟩

theorem lockstep_throw (hs : AgreeOff p s s') (fault : Fault) :
    Lockstep p R s s' (throw fault : SessionM α) (throw fault) := ⟨.error fault, hs⟩

theorem alike_refl (x : Except Fault α) : Alike Eq x x := by
  cases x with
  | ok a => exact .ok rfl
  | error fault => exact .error fault

end Sequence

/-! ## Giving fields their rules -/

section Rules

variable {p field : String} {s s' : Session}

theorem EntriesAlike.symm {entries entries' : Entries Value} (h : EntriesAlike p entries entries') :
    EntriesAlike p entries' entries := fun other hne => (h other hne).symm

theorem AgreeOff.field? (hs : AgreeOff p s s') (hne : field ≠ p) :
    s.record.field? field = s'.record.field? field := by
  obtain ⟨entries, entries', hrecord, hrecord', hentries⟩ := hs.record
  rw [hrecord, hrecord', Value.field?_map, Value.field?_map, hentries field hne]

/-- The same value is written in both sessions. -/
theorem lockstep_assign (hs : AgreeOff p s s') (hne : field ≠ p) {value : Value}
    (hvalue : s.record.field? field = .ok value) (htruthy : value.truthy = true) (made : Value) :
    Lockstep p Eq s s' (assign field made) (assign field made) := by
  obtain ⟨entries, hrecord, hhas⟩ := has_of_truthy hvalue htruthy
  obtain ⟨entries', hrecord', hhas'⟩ := has_of_truthy (hs.field? hne ▸ hvalue) htruthy
  have hwritten :=
    record_setRecord (current_lt_of_has hrecord hhas) (.map (Entries.put entries field made))
  have hwritten' :=
    record_setRecord (current_lt_of_has hrecord' hhas') (.map (Entries.put entries' field made))
  obtain ⟨_, _, h, h', hentries⟩ := hs.record
  cases hrecord.symm.trans h
  cases hrecord'.symm.trans h'
  constructor
  · rw [run_assign hrecord, run_assign hrecord']
    exact .ok rfl
  · unfold after
    rw [run_assign hrecord, run_assign hrecord']
    refine ⟨hs.today, hs.registry, hs.templates, hs.separator, hs.received,
      ⟨_, _, hwritten, hwritten', fun other hother => ?_⟩, hs.fields⟩
    by_cases heq : other = field
    · rw [heq, Entries.get?_put_self, Entries.get?_put_self]
    · rw [Entries.get?_put_ne _ _ heq, Entries.get?_put_ne _ _ heq, hentries other hother]

/-- A rule is put to use alike. -/
theorem alike_useRule (hs : AgreeOff p s s') (rule : Spec.Rule) :
    Alike (UseAlike p) (s.useRule rule) (s'.useRule rule) := by
  unfold useRule
  split
  · next hmatches =>
    cases hoptions : rule.options with
    | nil => exact .error _
    | cons other rest =>
      simp only
      by_cases hother : other = p
      · obtain ⟨entries, entries', hrecord, hrecord', -⟩ := hs.record
        rw [hrecord, hrecord', Value.field?_map, Value.field?_map]
        refine .ok ⟨rfl, rfl, .inr ⟨hmatches, ?_⟩⟩
        rw [hother, List.head?_cons]
      · rw [hs.field? hother]
        cases s'.record.field? other with
        | error fault => exact .error fault
        | ok value => exact .ok ⟨rfl, rfl, .inl rfl⟩
  · exact .ok ⟨rfl, rfl, .inl rfl⟩

/-- Rules of another field are put to use alike, and its transforms write the same. -/
theorem lockstep_useRules (hs : AgreeOff p s s') (hne : field ≠ p) (rules : List Spec.Rule) :
    Lockstep p (List.Forall₂ (UseAlike p)) s s' (useRules field rules) (useRules field rules) := by
  induction rules generalizing s s' with
  | nil => exact lockstep_pure hs .nil
  | cons rule rest ih =>
    unfold useRules
    refine lockstep_get_bind ?_
    split
    · rw [hs.field? hne]
      refine lockstep_lift_bind hs (alike_refl _) fun value _ heq hvalue _ => ?_
      subst heq
      split
      · next htruthy =>
        rw [hs.registry]
        split
        · refine lockstep_lift_bind hs (alike_refl _) fun made _ heq _ _ => ?_
          subst heq
          refine (lockstep_assign hs hne ((hs.field? hne).trans hvalue) htruthy made).bind ?_
          exact fun _ _ _ hs' => ih hs'
        · exact lockstep_throw hs _
      · exact ih hs
    · refine lockstep_lift_bind hs (alike_useRule hs rule) fun use use' huse _ _ => ?_
      refine (ih hs).bind fun uses uses' huses hs' => ?_
      exact lockstep_pure hs' (.cons huse huses)

/-- Rules are put in their place alike. -/
theorem forall₂_put {fields fields' : Entries FieldSpec} {spec spec' : FieldSpec}
    (h : List.Forall₂ (SpecAlike p) fields fields') (hfriendly : spec.friendly = spec'.friendly)
    (hrules : List.Forall₂ (UseAlike p) spec.rules spec'.rules) :
    List.Forall₂ (SpecAlike p) (fields.put field spec) (fields'.put field spec') := by
  induction h with
  | nil => exact .cons ⟨rfl, hfriendly, hrules⟩ .nil
  | @cons e e' rest rest' hfirst _ ih =>
    obtain ⟨key, old⟩ := e
    obtain ⟨key', old'⟩ := e'
    obtain ⟨rfl, hold⟩ : key = key' ∧ _ := hfirst
    rw [Entries.put, Entries.put]
    split
    · exact .cons ⟨rfl, hfriendly, hrules⟩ ‹_›
    · exact .cons ⟨rfl, hold⟩ ih

/-- Another field is given its rules alike. -/
theorem lockstep_addRule (hs : AgreeOff p s s') (hne : field ≠ p) (friendly spec : Value) :
    Lockstep p (fun _ _ => True) s s' (addRule field friendly spec)
      (addRule field friendly spec) := by
  unfold addRule
  refine lockstep_get_bind ?_
  rw [hs.registry, hs.templates]
  refine lockstep_lift_bind hs (alike_refl _) fun rules _ heq _ _ => ?_
  subst heq
  refine (lockstep_useRules hs hne rules).bind fun uses uses' huses hs' => ?_
  exact ⟨.ok trivial, hs'.today, hs'.registry, hs'.templates, hs'.separator, hs'.received,
    hs'.record, forall₂_put hs'.fields rfl huses⟩

end Rules

/-! ## The compared field itself -/

section Compared

variable {p : String} {s s' s₁ : Session}

theorem SpecAlike.symm {e e' : String × FieldSpec} (h : SpecAlike p e e') : SpecAlike p e' e := by
  obtain ⟨hfield, hfriendly, hrules⟩ := h
  refine ⟨hfield.symm, hfriendly.symm, (hrules.imp fun use use' huse => ?_).flip⟩
  obtain ⟨hrule, hshown, hoptions⟩ := huse
  exact ⟨hrule.symm, hshown.symm, hoptions.imp Eq.symm fun h => ⟨hrule ▸ h.1, hshown ▸ h.2⟩⟩

theorem AgreeOff.symm (h : AgreeOff p s s') : AgreeOff p s' s := by
  obtain ⟨entries, entries', hrecord, hrecord', hentries⟩ := h.record
  exact ⟨h.today.symm, h.registry.symm, h.templates.symm, h.separator.symm, h.received.symm,
    ⟨entries', entries, hrecord', hrecord, hentries.symm⟩,
    (h.fields.imp fun _ _ => SpecAlike.symm).flip⟩

/-- What is written to the compared field makes no difference. -/
theorem AgreeOff.of_writes (h : AgreeOff p s s') (hwrites : Writes p s s₁) : AgreeOff p s₁ s' := by
  obtain ⟨entries, entries', hrecord, hrecord', hentries⟩ := h.record
  cases hwrites with
  | nothing => exact h
  | @entry entries₁ value hrecord₁ hhas =>
    cases hrecord.symm.trans hrecord₁
    refine ⟨h.today, h.registry, h.templates, h.separator, h.received,
      ⟨_, _, record_setRecord (current_lt_of_has hrecord hhas) _, hrecord', fun field hne => ?_⟩,
      h.fields⟩
    rw [Entries.get?_put_ne _ _ hne, hentries field hne]

/-- A field that is not given its rules has its entry written at most. -/
theorem writes_of_addRule {field : String} {friendly spec : Value}
    (h : field ∉ (s.after (addRule field friendly spec)).fields.keys) :
    Writes field s (s.after (addRule field friendly spec)) := by
  unfold after at h ⊢
  rw [run_addRule] at h ⊢
  cases hparse : Spec.parseValue s.registry s.templates.has (some field) spec with
  | error fault => exact .nothing
  | ok rules =>
    have hwrites := (confined_useRules field (Spec.isTransform_of_parseValue hparse)).state
    rw [hparse] at h
    simp only at h ⊢
    rcases huse : (useRules field rules).run s with ⟨fault | uses, s₁⟩
    · rw [huse] at hwrites
      exact hwrites
    · rw [huse] at h
      refine absurd ?_ h
      simp only [withSpec, Entries.keys_put]
      split
      · assumption
      · exact List.mem_append_right _ (List.mem_singleton_self _)

/-- Giving a field its rules takes those of no other field away. -/
theorem keys_subset_addRule (s : Session) (field : String) (friendly spec : Value) :
    s.fields.keys ⊆ (s.after (addRule field friendly spec)).fields.keys := by
  unfold after
  rw [run_addRule]
  cases hparse : Spec.parseValue s.registry s.templates.has (some field) spec with
  | error fault => exact fun _ h => h
  | ok rules =>
    have hwrites := (confined_useRules field (Spec.isTransform_of_parseValue hparse)).state
    simp only
    rcases huse : (useRules field rules).run s with ⟨fault | uses, s₁⟩
    · rw [huse] at hwrites
      simp only
      rw [hwrites.fields]
      exact fun _ h => h
    · rw [huse] at hwrites
      simp only [withSpec]
      rw [hwrites.fields, Entries.keys_put]
      split
      · exact fun _ h => h
      · exact List.subset_append_left _ _

end Compared

/-! ## Runs of such sessions -/

/-- What a run comes to: whether it returns, and the errors that have been received by then. -/
def runOutcome (s : Session) : Except Fault Unit × List (Option (Entries String)) :=
  (((run none).run s).1, (s.after (run none)).received.map (·.errors))

/-- Two tasks of sessions that are alike. -/
def TaskAlike (p : String) (t t' : Task) : Prop :=
  t.withoutOptions = t'.withoutOptions ∧
    (t.options = t'.options ∨ t.rule = matchesRule ∧ t.shown.head? = some p)

section Runs

variable {p : String} {s s' : Session}

theorem AgreeOff.tasks (h : AgreeOff p s s') : List.Forall₂ (TaskAlike p) s.tasks s'.tasks := by
  refine List.rel_flatMap h.fields fun e e' ⟨hfield, hfriendly, hrules⟩ => ?_
  simp only [List.forall₂_map_left_iff, List.forall₂_map_right_iff]
  refine hrules.imp fun use use' ⟨hrule, hshown, hoptions⟩ => ⟨?_, hoptions⟩
  simp only [Task.withoutOptions, hfield, hfriendly, hrule, hshown]

theorem field_mem_of_mem_tasks {t : Task} (ht : t ∈ s.tasks) : t.field ∈ s.fields.keys := by
  obtain ⟨e, he, use, -, rfl⟩ := mem_tasks ht
  exact List.mem_map_of_mem he

/-- Comparisons with the field have the same verdicts in two sessions. -/
def SameComparisons (p : String) (s s' : Session) : Prop :=
  ∀ (i : Nat) (t t' : Task), s.tasks[i]? = some t → s'.tasks[i]? = some t' →
    t.rule = matchesRule → t.shown.head? = some p →
    ∀ v, Decides s.registry s.today s.record t v ↔ Decides s'.registry s'.today s'.record t' v

/-- A task of another field comes to the same in two sessions that are alike. -/
theorem AgreeOff.decides (h : AgreeOff p s s') {t t' : Task} {v : Except Fault Bool}
    (hsame : t.withoutOptions = t'.withoutOptions) (hoptions : t.options = t'.options)
    (hne : t.field ≠ p) (hd : Decides s.registry s.today s.record t v) :
    Decides s'.registry s'.today s'.record t' v := by
  obtain rfl : t = t' := by
    obtain ⟨field, friendly, rule, options, shown, outcome⟩ := t
    obtain ⟨field', friendly', rule', options', shown', outcome'⟩ := t'
    simp only [Task.withoutOptions, Task.mk.injEq, true_and] at hsame
    simp only at hoptions
    simp only [Task.mk.injEq]
    exact ⟨hsame.1, hsame.2.1, hsame.2.2.1, hoptions, hsame.2.2.2⟩
  have hvalue := h.field? hne
  rw [← h.today, ← h.registry]
  cases hd with
  | verdict hfield hactions => exact .verdict (hvalue ▸ hfield) hactions
  | fault hfield hactions => exact .fault (hvalue ▸ hfield) hactions

/-- Runs of sessions that are alike come to the same, if the field has no rules of its own and the
    comparisons with it have the same verdicts. -/
theorem runOutcome_of_agreeOff (h : AgreeOff p s s') (hp : p ∉ s.fields.keys)
    (hd : ∀ t ∈ s.tasks, ∃ v, Decides s.registry s.today s.record t v)
    (hd' : ∀ t ∈ s'.tasks, ∃ v, Decides s'.registry s'.today s'.record t v)
    (hsame : SameComparisons p s s') : runOutcome s = runOutcome s' := by
  obtain ⟨verdict, hverdict⟩ := exists_verdict hd
  obtain ⟨verdict', hverdict'⟩ := exists_verdict hd'
  have htasks : List.Forall₂ (fun t t' => t.withoutOptions = t'.withoutOptions ∧
      verdict t = verdict' t') s.tasks s'.tasks := by
    have halike := h.tasks
    rw [List.forall₂_iff_get] at halike ⊢
    refine ⟨halike.1, fun i hi hi' => ?_⟩
    obtain ⟨hsame', hoptions⟩ := halike.2 i hi hi'
    refine ⟨hsame', ?_⟩
    have hmem := List.get_mem s.tasks ⟨i, hi⟩
    have hfirst := hverdict _ hmem
    have hsecond := hverdict' _ (List.get_mem s'.tasks ⟨i, hi'⟩)
    have hne : (s.tasks.get ⟨i, hi⟩).field ≠ p :=
      fun heq => hp (heq ▸ field_mem_of_mem_tasks hmem)
    have hget : s.tasks[i]? = some (s.tasks.get ⟨i, hi⟩) := List.getElem?_eq_getElem hi
    have hget' : s'.tasks[i]? = some (s'.tasks.get ⟨i, hi'⟩) := List.getElem?_eq_getElem hi'
    generalize s.tasks.get ⟨i, hi⟩ = t at *
    generalize s'.tasks.get ⟨i, hi'⟩ = t' at *
    rcases hoptions with hoptions | ⟨hrule, hshown⟩
    · exact (h.decides hsame' hoptions hne hfirst).unique hsecond
    · exact ((hsame i t t' hget hget' hrule hshown _).1 hfirst).unique hsecond
  obtain ⟨told, settled⟩ := settleAll_congr s.templates htasks
  have hsettled := congrArg areSettled settled
  have herrors := congrArg (errorsIn s.separator) settled
  rw [areSettled_map_withoutOptions, areSettled_map_withoutOptions] at hsettled
  rw [errorsIn_map_withoutOptions, errorsIn_map_withoutOptions] at herrors
  obtain ⟨_, _, hrun, -, hreceived⟩ := run_of_decided hverdict
  obtain ⟨_, _, hrun', -, hreceived'⟩ := run_of_decided hverdict'
  rw [← h.templates] at hrun' hreceived'
  unfold runOutcome after
  rw [hrun, hrun', hreceived, hreceived', told, List.map_append, List.map_append, h.received,
    hsettled, herrors, h.separator]
  split <;> rfl

/-- Whatever rules are given to two sessions that are alike, they stay so, as long as the field gets
    no rules. -/
theorem agreeOff_of_calls {calls : List Call}
    (hcalls : ∀ c ∈ calls, ∃ field friendly spec, c = .addRule field friendly spec)
    (h : AgreeOff p s s') (hp : p ∉ (calls.foldl call s).fields.keys)
    (hp' : p ∉ (calls.foldl call s').fields.keys) :
    AgreeOff p (calls.foldl call s) (calls.foldl call s') := by
  have hgrow : ∀ {calls : List Call},
      (∀ c ∈ calls, ∃ field friendly spec, c = .addRule field friendly spec) →
      ∀ s : Session, s.fields.keys ⊆ (calls.foldl call s).fields.keys := by
    intro calls hcalls
    induction calls with
    | nil => exact fun _ _ h => h
    | cons c rest ih =>
      obtain ⟨⟨field, friendly, spec, rfl⟩, hrest⟩ := List.forall_mem_cons.1 hcalls
      exact fun s => List.Subset.trans (keys_subset_addRule s field friendly spec) (ih hrest _)
  induction calls generalizing s s' with
  | nil => exact h
  | cons c rest ih =>
    obtain ⟨⟨field, friendly, spec, rfl⟩, hrest⟩ := List.forall_mem_cons.1 hcalls
    refine ih hrest ?_ hp hp'
    by_cases hfield : field = p
    · subst hfield
      have hwrites : Writes field s (s.after (addRule field friendly spec)) :=
        writes_of_addRule fun hmem => hp (hgrow hrest _ hmem)
      have hwrites' : Writes field s' (s'.after (addRule field friendly spec)) :=
        writes_of_addRule fun hmem => hp' (hgrow hrest _ hmem)
      exact ((h.of_writes hwrites).symm.of_writes hwrites').symm
    · exact (lockstep_addRule h hfield friendly spec).agree

/-- What is changed of the entry of the field alone. -/
theorem agreeOff_change {c : Call} (hs : s.IsSound) (h : AgreeOff p s s')
    (hc : c = .dropField p ∨ ∃ value, c = .assign p value) :
    AgreeOff p (s.call c) s' ∧ (s.call c).fields = s.fields := by
  obtain ⟨entries, entries', hrecord, hrecord', hentries⟩ := h.record
  have hset : ∀ made : Entries Value,
      (∀ field, field ≠ p → made.get? field = Entries.get? entries field) →
      AgreeOff p (s.setRecord (.map made)) s' ∧ (s.setRecord (.map made)).fields = s.fields := by
    intro made hmade
    refine ⟨⟨h.today, h.registry, h.templates, h.separator, h.received, ⟨made, entries',
      record_setRecord hs.current _, hrecord', fun field hne => ?_⟩, h.fields⟩, rfl⟩
    rw [hmade field hne, hentries field hne]
  rcases hc with rfl | ⟨value, rfl⟩
  · show AgreeOff p (s.after (dropField p)) s' ∧ (s.after (dropField p)).fields = s.fields
    unfold after dropField
    rw [run_get_bind, hrecord]
    simp only
    split
    · exact hset _ fun field hne => Entries.get?_erase_ne entries hne
    · exact ⟨h, rfl⟩
  · show AgreeOff p (s.after (assign p value)) s' ∧ (s.after (assign p value)).fields = s.fields
    unfold after
    rw [run_assign hrecord]
    exact hset _ fun field hne => Entries.get?_put_ne _ _ hne

theorem exists_decides_of_isSound {policy : Markup.Policy} {entries : Entries Value}
    (hs : s.IsSound) (hregistry : s.registry = .standard policy)
    (hrecord : s.record = .map entries) :
    ∀ t ∈ s.tasks, ∃ v, Decides s.registry s.today s.record t v := by
  intro t ht
  obtain ⟨e, he, use, huse, rfl⟩ := mem_tasks ht
  obtain ⟨d, hd⟩ := hs.uses e he use huse
  rw [hregistry] at hd ⊢
  rw [hrecord]
  exact (Registry.extends_standard policy).exists_decides hd hd.has s.today entries rfl rfl

/-- What is done to the entry of the field after the rules were given makes no difference to a run,
    if the field has no rules of its own. -/
theorem runOutcome_of_changes {policy : Markup.Policy} {changes : List Call}
    (hs : s.IsSound) (hregistry : s.registry = .standard policy) (h : AgreeOff p s s)
    (hp : p ∉ s.fields.keys)
    (hchanges : ∀ c ∈ changes, c = .dropField p ∨ ∃ value, c = .assign p value) :
    runOutcome (changes.foldl call s) = runOutcome s := by
  obtain ⟨hs₁, hregistry₁, h₁, hfields⟩ : (changes.foldl call s).IsSound ∧
      (changes.foldl call s).registry = .standard policy ∧
      AgreeOff p (changes.foldl call s) s ∧ (changes.foldl call s).fields = s.fields := by
    refine List.foldlRecOn (motive := fun s₁ : Session => s₁.IsSound ∧
      s₁.registry = .standard policy ∧ AgreeOff p s₁ s ∧ s₁.fields = s.fields) changes call
      ⟨hs, hregistry, h, rfl⟩ fun s₁ ⟨hs₁, hregistry₁, h₁, hfields₁⟩ c hc => ?_
    obtain ⟨h₂, hfields₂⟩ := agreeOff_change hs₁ h₁ (hchanges c hc)
    exact ⟨isSound_call hs₁ c, (registry_call s₁ c).trans hregistry₁, h₂, hfields₂.trans hfields₁⟩
  obtain ⟨entries₁, entries, hrecord₁, hrecord, -⟩ := h₁.record
  have htasks : (changes.foldl call s).tasks = s.tasks := by
    rw [tasks, tasks, hfields]
  refine runOutcome_of_agreeOff h₁ (hfields ▸ hp)
    (exists_decides_of_isSound hs₁ hregistry₁ hrecord₁)
    (exists_decides_of_isSound hs hregistry hrecord) fun i t t' ht ht' _ _ v => ?_
  rw [htasks, ht'] at ht
  cases ht
  have hne : t.field ≠ p :=
    fun heq => hp (heq ▸ field_mem_of_mem_tasks (List.mem_of_getElem? ht'))
  exact ⟨h₁.decides rfl rfl hne, h₁.symm.decides rfl rfl hne⟩

theorem agreeOff_start (today : Calendar.Today) (registry : Registry) (templates : MessageTable)
    (separator : String) {entries entries' : Entries Value} (h : EntriesAlike p entries entries') :
    AgreeOff p (start today registry templates separator (.map entries))
      (start today registry templates separator (.map entries')) :=
  ⟨rfl, rfl, rfl, rfl, rfl, ⟨entries, entries', rfl, rfl, h⟩, .nil⟩

end Runs

/-- The value of a field that others are compared with, and that has no rules of its own, reaches no
    result of a run. Let two sessions be made with the same templates for records that differ in
    that field only, and let them be given the same rules, whether that goes well or not. If the
    comparisons with the field have the same verdicts, then their runs come to the same, and so do
    the errors. And whatever is done to the field in the record after the rules were given, the run
    of either session comes to what it would have come to before. -/
theorem matches_keeps_confidence (today : Calendar.Today) (policy : Markup.Policy)
    (templates : MessageTable) (separator p : String) (entries entries' : Entries Value)
    (calls : List Call) (hentries : EntriesAlike p entries entries')
    (hcalls : ∀ c ∈ calls, ∃ field friendly spec, c = .addRule field friendly spec) :
    let s := calls.foldl call
      (start today (.standard policy) templates separator (.map entries))
    let s' := calls.foldl call
      (start today (.standard policy) templates separator (.map entries'))
    p ∉ s.fields.keys → p ∉ s'.fields.keys →
      (SameComparisons p s s' → runOutcome s = runOutcome s') ∧
        ∀ changes : List Call, (∀ c ∈ changes, c = .dropField p ∨ ∃ value, c = .assign p value) →
          runOutcome (changes.foldl call s) = runOutcome s ∧
            runOutcome (changes.foldl call s') = runOutcome s' := by
  intro s s' hp hp'
  obtain ⟨hs, hregistry⟩ :=
    isSound_of_calls today (.standard policy) templates separator (.map entries) calls
  obtain ⟨hs', hregistry'⟩ :=
    isSound_of_calls today (.standard policy) templates separator (.map entries') calls
  have hagree : AgreeOff p s s' :=
    agreeOff_of_calls hcalls (agreeOff_start today _ templates separator hentries) hp hp'
  have hself : AgreeOff p s s :=
    agreeOff_of_calls hcalls (agreeOff_start today _ templates separator fun _ _ => rfl) hp hp
  have hself' : AgreeOff p s' s' :=
    agreeOff_of_calls hcalls (agreeOff_start today _ templates separator fun _ _ => rfl) hp' hp'
  obtain ⟨_, _, hrecord, hrecord', -⟩ := hagree.record
  refine ⟨runOutcome_of_agreeOff hagree hp (exists_decides_of_isSound hs hregistry hrecord)
    (exists_decides_of_isSound hs' hregistry' hrecord'), fun changes hchanges => ⟨?_, ?_⟩⟩
  · exact runOutcome_of_changes hs hregistry hself hp hchanges
  · exact runOutcome_of_changes hs' hregistry' hself' hp' hchanges

/-- A record with a password, and what was typed for it once more. -/
def typedAgain (password : String) : Entries Value :=
  [("again", .text "sesame"), ("password", .text password)]

/-- What was typed once more has to match the password. -/
def confirmPassword : List Call :=
  [.addRule "again" (.text "Password") (.text "matches[password]")]

/-- A session on such a record. -/
def confirming (password : String) : Session :=
  confirmPassword.foldl call
    (start ⟨2024, 5, 31⟩ (.standard .standard) .standard "<br>" (.map (typedAgain password)))

theorem tasks_confirming (password : String) :
    (confirming password).tasks =
      [⟨"again", .text "Password", "matches", [.text password], ["password"], none⟩] := rfl

/-- Two wrong passwords give the same errors, and dropping one of them changes nothing. -/
theorem runOutcome_confirming :
    EntriesAlike "password" (typedAgain "first") (typedAgain "second") ∧
      SameComparisons "password" (confirming "first") (confirming "second") ∧
      runOutcome (confirming "first") = runOutcome (confirming "second") ∧
      runOutcome ((confirming "first").call (.dropField "password")) =
        runOutcome (confirming "first") := by
  have hentries : EntriesAlike "password" (typedAgain "first") (typedAgain "second") := by
    intro field hne
    simp only [typedAgain, Entries.get?_cons, Entries.get?_nil, if_neg hne]
  have hcalls : ∀ c ∈ confirmPassword, ∃ field friendly spec, c = .addRule field friendly spec := by
    intro c hc
    exact ⟨_, _, _, List.mem_singleton.1 hc⟩
  have hfirst : Decides (confirming "first").registry ⟨2024, 5, 31⟩ (confirming "first").record
      ⟨"again", .text "Password", "matches", [.text "first"], ["password"], none⟩ (.ok false) :=
    .verdict rfl rfl
  have hsecond : Decides (confirming "second").registry ⟨2024, 5, 31⟩ (confirming "second").record
      ⟨"again", .text "Password", "matches", [.text "second"], ["password"], none⟩ (.ok false) :=
    .verdict rfl rfl
  have hsame : SameComparisons "password" (confirming "first") (confirming "second") := by
    intro i t t' ht ht' _ _ v
    rw [tasks_confirming] at ht ht'
    obtain rfl := List.mem_singleton.1 (List.mem_of_getElem? ht)
    obtain rfl := List.mem_singleton.1 (List.mem_of_getElem? ht')
    exact ⟨fun h => h.unique hfirst ▸ hsecond, fun h => h.unique hsecond ▸ hfirst⟩
  obtain ⟨houtcome, hchanges⟩ := matches_keeps_confidence ⟨2024, 5, 31⟩ .standard .standard "<br>"
    "password" (typedAgain "first") (typedAgain "second") confirmPassword hentries hcalls
    (by decide +kernel) (by decide +kernel)
  exact ⟨hentries, hsame, houtcome hsame, (hchanges [.dropField "password"] (by simp)).1⟩

end Session

end FieldRules
