import FieldRules.Proofs.Entries
import FieldRules.Proofs.Rule.Accepted
import FieldRules.Proofs.Session.Conduct
import FieldRules.Rule.Builtin

/-!
# Rules in use can be used

The registry, its transforms, the rules of the fields and the templates depend on each other: a rule
in use has to be in the registry and not among its transforms, its options have to be such as its
definition asks for, and there has to be a template for its messages. Whatever is done to a session,
and whatever is registered meanwhile, this stays so; what is refused changes nothing of it.

Results:
* `Keeps`: what every action leaves alone.
* `isSound_operate`: every operation leaves rules that can be used.
* `isSound_of_operations`: so do operations one after the other, from the start.
-/

namespace FieldRules

/-- A rule in use can be used, by its definition. The options of `matches` are what the other field
    had, so that they need not be an integer even if one is asked for. -/
structure RuleUse.IsUsable (use : RuleUse) (registry : Registry) (templates : MessageTable)
    (d : Definition) : Prop where
  definition : registry.get? use.rule = some d
  notTransform : registry.isTransform use.rule = false
  template : templates.has use.rule = true
  options : d.requiresOptions = true → use.options ≠ []
  texts : use.rule ≠ Session.matchesRule → use.options = use.shown.map .text
  integer : d.integerOption = true → use.rule ≠ Session.matchesRule →
    ∃ option rest n, use.options = option :: rest ∧ Verdict.integerOf option = .ok (some n)
  pattern : use.rule = Spec.regexRule →
    ∃ option rest p, use.options = .text option :: rest ∧
      Pattern.compile { ignoreCase := true } option.toList = .ok p

namespace RuleUse

variable {use : RuleUse} {registry registry' : Registry} {templates : MessageTable}
  {d : Definition}

theorem IsUsable.of_has (h : use.IsUsable registry templates d) {templates' : MessageTable}
    (ht : templates'.has use.rule = true) : use.IsUsable registry templates' d :=
  ⟨h.definition, h.notTransform, ht, h.options, h.texts, h.integer, h.pattern⟩

theorem IsUsable.of_get? (h : use.IsUsable registry templates d)
    (hget : registry'.get? use.rule = registry.get? use.rule)
    (htransform : registry'.isTransform use.rule = registry.isTransform use.rule) :
    use.IsUsable registry' templates d :=
  ⟨hget.trans h.definition, htransform.trans h.notTransform, h.template, h.options, h.texts,
    h.integer, h.pattern⟩

theorem IsUsable.has (h : use.IsUsable registry templates d) : registry.has use.rule = true := by
  have hrule : registry.rules.get? use.rule = some d := h.definition
  simp [Registry.has, Entries.has, hrule]

theorem IsUsable.ne_of_not_has (h : use.IsUsable registry templates d) {name : String}
    (hfree : registry.has name = false) : use.rule ≠ name := by
  rintro rfl
  cases hfree.symm.trans h.has

theorem IsUsable.register (h : use.IsUsable registry templates d) {name : String}
    {added : Definition} (hr : registry.register name added = .ok registry') :
    use.IsUsable registry' templates d := by
  unfold Registry.register at hr
  split at hr
  · cases hr
  · next hfree =>
    cases hr
    have hne := h.ne_of_not_has (Bool.eq_false_iff.2 hfree)
    exact h.of_get? (Entries.get?_put_ne _ _ hne) rfl

theorem IsUsable.registerTransform (h : use.IsUsable registry templates d) {name : String}
    {t : Transform} (hr : registry.registerTransform name t = .ok registry') :
    use.IsUsable registry' templates d := by
  unfold Registry.registerTransform at hr
  split at hr
  · cases hr
  · next hfree =>
    cases hr
    have hne := h.ne_of_not_has (Bool.eq_false_iff.2 hfree)
    exact h.of_get? rfl (Entries.has_put_ne _ _ hne)

end RuleUse

namespace Session

/-- The rules of a session's fields can be used, and its record is one of its records. -/
structure IsSound (s : Session) : Prop where
  current : s.current < s.records.length
  uses : ∀ e ∈ s.fields, ∀ use ∈ e.2.rules, ∃ d, use.IsUsable s.registry s.templates d

/-! ## What actions keep -/

/-- Nothing of a session has changed that its rules depend on. -/
structure Same (s s' : Session) : Prop where
  today : s'.today = s.today
  registry : s'.registry = s.registry
  templates : s'.templates = s.templates
  fields : s'.fields = s.fields
  records : s'.records = s.records
  current : s'.current = s.current

theorem Same.trans {s s' s'' : Session} (h : Same s s') (h' : Same s' s'') : Same s s'' :=
  ⟨h'.today.trans h.today, h'.registry.trans h.registry, h'.templates.trans h.templates,
    h'.fields.trans h.fields, h'.records.trans h.records, h'.current.trans h.current⟩

/-- What every action keeps that does not change the templates: the day, the registry and the
    templates are the same, the rules can be used if they could, and records that are mappings stay
    mappings. -/
structure Keeps (s s' : Session) : Prop where
  today : s'.today = s.today
  registry : s'.registry = s.registry
  templates : s'.templates = s.templates
  isSound : s.IsSound → s'.IsSound
  length_le : s.records.length ≤ s'.records.length
  map : ∀ n < s.records.length, (∃ entries, s.recordAt n = .map entries) →
    ∃ entries, s'.recordAt n = .map entries

namespace Keeps

variable {s s' s'' : Session}

theorem of_same (h : Same s s') : Keeps s s' := by
  refine ⟨h.today, h.registry, h.templates, fun hs => ⟨?_, ?_⟩,
    Nat.le_of_eq (by rw [h.records]), ?_⟩
  · rw [h.current, h.records]
    exact hs.current
  · rw [h.fields, h.registry, h.templates]
    exact hs.uses
  · unfold recordAt
    rw [h.records]
    exact fun _ _ => id

theorem refl (s : Session) : Keeps s s := of_same ⟨rfl, rfl, rfl, rfl, rfl, rfl⟩

theorem trans (h : Keeps s s') (h' : Keeps s' s'') : Keeps s s'' :=
  ⟨h'.today.trans h.today, h'.registry.trans h.registry, h'.templates.trans h.templates,
    h'.isSound ∘ h.isSound, Nat.le_trans h.length_le h'.length_le,
    fun n hn hm => h'.map n (Nat.lt_of_lt_of_le hn h.length_le) (h.map n hn hm)⟩

end Keeps

instance : Trans Keeps Keeps Keeps := ⟨Keeps.trans⟩

/-- An action keeps what it has to keep, whether it ends with a fault or not; if it ends with a
    value, that is as told. -/
abbrev Ensures {α : Type} (s : Session) (action : SessionM α) (told : α → Prop) : Prop :=
  Leaves Keeps s action told fun _ => True

/-- An action keeps what it has to keep. -/
abbrev Upholds {α : Type} (s : Session) (action : SessionM α) : Prop :=
  Stays Keeps s action

/-! ## Records -/

section Records

variable {s : Session}

theorem keeps_setRecord (s : Session) (entries : Entries Value) :
    Keeps s (s.setRecord (.map entries)) := by
  refine ⟨rfl, rfl, rfl, fun hs => ⟨?_, hs.uses⟩, Nat.le_of_eq (by simp [setRecord]),
    fun n hn hm => ?_⟩
  · simpa [setRecord] using hs.current
  · simp only [recordAt, setRecord, List.getD_eq_getElem?_getD, List.getElem?_set]
    split
    · next hcurrent => exact ⟨entries, by simp [hcurrent, hn]⟩
    · simpa only [recordAt, List.getD_eq_getElem?_getD] using hm

theorem keeps_replaceRecord (s : Session) (record : Value) : Keeps s (s.replaceRecord record) := by
  refine ⟨rfl, rfl, rfl, fun hs => ⟨?_, ?_⟩, ?_, fun n hn hm => ?_⟩
  · simp [replaceRecord]
  · exact fun e he => absurd he (List.not_mem_nil)
  · simp [replaceRecord]
  · simpa [recordAt, replaceRecord, List.getD_eq_getElem?_getD, List.getElem?_append_left hn]
      using hm

theorem upholds_assign (field : String) (value : Value) : Upholds s (assign field value) := by
  unfold assign
  refine leaves_get_bind (leaves_lift_bind (.refl _) fun record hrecord => ?_)
  unfold Value.withField at hrecord
  split at hrecord
  · cases hrecord
    exact stays_set (keeps_setRecord s _)
  · cases hrecord

theorem upholds_dropField (field : String) : Upholds s (dropField field) := by
  unfold dropField
  refine leaves_get_bind ?_
  split
  · split
    · exact stays_set (keeps_setRecord s _)
    · exact leaves_throw (.refl _) trivial
  · exact leaves_throw (.refl _) trivial

end Records

/-! ## Rules of a field -/

section Rules

variable {s : Session}

/-- A rule that can be used is put to use as one. -/
theorem isUsable_of_useRule {rule : Spec.Rule} {d : Definition} {use : RuleUse}
    (hrule : rule.IsUsable s.registry s.templates.has d) (h : s.useRule rule = .ok use) :
    use.IsUsable s.registry s.templates d := by
  unfold useRule at h
  split at h
  · next hmatches =>
    cases hoptions : rule.options with
    | nil =>
      rw [hoptions] at h
      cases h
    | cons other rest =>
      simp only [hoptions] at h
      cases hvalue : s.record.field? other with
      | error fault =>
        rw [hvalue] at h
        cases h
      | ok value =>
        rw [hvalue] at h
        cases h
        refine ⟨hrule.definition, hrule.notTransform, hrule.template, ?_, ?_, ?_, ?_⟩
        · exact fun _ => List.cons_ne_nil _ _
        · exact fun hne => absurd hmatches hne
        · exact fun _ hne => absurd hmatches hne
        · intro hregex
          simp only [hmatches] at hregex
          exact absurd hregex (by decide)
  · cases h
    refine ⟨hrule.definition, hrule.notTransform, hrule.template, ?_, fun _ => rfl, ?_, ?_⟩
    · exact fun hd => by simpa using hrule.options hd
    · intro hd _
      obtain ⟨option, rest, n, hoptions, hread⟩ := hrule.integer hd
      refine ⟨.text option, rest.map .text, n, by simp [hoptions], ?_⟩
      simp [Verdict.integerOf, Verdict.integerIn, Value.toText, hread]
    · intro hregex
      obtain ⟨option, rest, p, hoptions, hcompile⟩ := hrule.pattern hregex
      exact ⟨option, rest.map .text, p, by simp [hoptions], hcompile⟩

/-- Rules that can be used are put to use as such. -/
theorem ensures_useRules (field : String) {rules : List Spec.Rule}
    (hrules : ∀ rule ∈ rules, rule.isTransform = false →
      ∃ d, rule.IsUsable s.registry s.templates.has d) :
    Ensures s (useRules field rules) fun uses =>
      ∀ use ∈ uses, ∃ d, use.IsUsable s.registry s.templates d := by
  induction rules generalizing s with
  | nil => exact leaves_pure (.refl _) fun use huse => absurd huse List.not_mem_nil
  | cons rule rest ih =>
    obtain ⟨hrule, hrest⟩ := List.forall_mem_cons.1 hrules
    have hgo : ∀ {s'}, Keeps s s' → Ensures s' (useRules field rest) fun uses =>
        ∀ use ∈ uses, ∃ d, use.IsUsable s.registry s.templates d := by
      intro s' hkeeps
      rw [← hkeeps.registry, ← hkeeps.templates] at hrest ⊢
      exact ih hrest
    unfold useRules
    refine leaves_get_bind ?_
    split
    · refine leaves_lift_bind (.refl _) fun value _ => ?_
      split
      · split
        · refine leaves_lift_bind (.refl _) fun value' _ => ?_
          exact (upholds_assign field value').bind fun _ _ => hgo
        · exact leaves_throw (.refl _) trivial
      · exact hgo (.refl s)
    · next hcheck =>
      obtain ⟨d, hd⟩ := hrule (Bool.eq_false_iff.2 hcheck)
      refine leaves_lift_bind (.refl _) fun use huse => ?_
      refine (hgo (.refl s)).bind fun uses huses _ => leaves_pure (.refl _) ?_
      exact List.forall_mem_cons.2 ⟨⟨d, isUsable_of_useRule hd huse⟩, huses⟩

/-- A field gets rules that can be used, or keeps those that it had. -/
theorem upholds_addRule (field : String) (friendly spec : Value) :
    Upholds s (addRule field friendly spec) := by
  unfold addRule
  refine leaves_get_bind (leaves_lift_bind (.refl _) fun rules hparse => ?_)
  have huse := ensures_useRules (s := s) field fun rule hmem hrule =>
    Spec.isUsable_of_parseValue hparse hmem hrule
  refine huse.bind fun uses huses hkeeps => stays_modify ?_
  refine ⟨rfl, rfl, rfl, fun hs => ⟨hs.current, fun e he use hmem => ?_⟩, Nat.le_refl _,
    fun _ _ => id⟩
  rcases Entries.mem_put he with rfl | he
  · obtain ⟨d, hd⟩ := huses use hmem
    exact ⟨d, hkeeps.registry ▸ hkeeps.templates ▸ hd⟩
  · exact hs.uses e he use hmem

end Rules

/-! ## Runs -/

section Runs

variable {s : Session}

theorem upholds_deliver (result : Delivery) (loop : Option Nat) :
    Upholds s (deliver result loop) := by
  obtain ⟨received, loop', h, -⟩ := after_deliver s result loop
  suffices hk : Keeps s (s.after (deliver result loop)) from stays_of_state hk
  rw [h]
  exact .of_same ⟨rfl, rfl, rfl, rfl, rfl, rfl⟩

theorem upholds_report (ref : TaskRef) (passed : Bool) : Upholds s (report ref passed) := by
  suffices hk : Keeps s (s.after (report ref passed)) from stays_of_state hk
  cases hr : s.runs[ref.run]? with
  | none =>
    unfold after
    rw [run_report, hr]
    exact .refl s
  | some r =>
    rcases hrep : r.report s.templates ref.task passed with fault | ⟨r', last, fault⟩
    · rw [after_report_of_error hr hrep]
      exact .refl s
    · rw [after_report_of_ok hr hrep]
      have hset : Keeps s { s with runs := s.runs.set ref.run r' } :=
        .of_same ⟨rfl, rfl, rfl, rfl, rfl, rfl⟩
      split
      · exact hset.trans (upholds_deliver _ _).state
      · exact hset

theorem upholds_act (ref : TaskRef) (call : CallNote) (action : Action) :
    Upholds s (act ref call action) := by
  cases action with
  | note => exact stays_modify (.of_same ⟨rfl, rfl, rfl, rfl, rfl, rfl⟩)
  | report passed options => exact upholds_report ref passed
  | keep => exact stays_modify (.of_same ⟨rfl, rfl, rfl, rfl, rfl, rfl⟩)
  | fail fault => exact leaves_throw (.refl _) trivial
  | assign field value => exact upholds_assign field value
  | configure field friendly spec => exact upholds_addRule field friendly spec
  | replace record => exact stays_modify (keeps_replaceRecord s record)
  | later yields verdict =>
    unfold act
    refine leaves_get_bind ?_
    split
    · exact stays_set (.of_same ⟨rfl, rfl, rfl, rfl, rfl, rfl⟩)
    · exact leaves_throw (.refl _) trivial

theorem upholds_forM (ref : TaskRef) (call : CallNote) (actions : List Action) :
    Upholds s (actions.forM (act ref call)) := by
  induction actions generalizing s with
  | nil => exact leaves_pure (.refl _) trivial
  | cons action rest ih =>
    show Upholds s (act ref call action >>= fun _ => rest.forM (act ref call))
    exact (upholds_act ref call action).bind fun _ _ _ => ih

theorem keeps_beginTask (s : Session) (run : Nat) : Keeps s (s.beginTask run) :=
  .of_same ⟨rfl, rfl, rfl, rfl, rfl, rfl⟩

theorem upholds_perform (ref : TaskRef) (record : Nat) (task : Task) :
    Upholds s (perform ref record task) := by
  unfold perform
  refine (stays_modify (keeps_beginTask s ref.run)).bind fun _ _ _ => leaves_get_bind ?_
  refine leaves_lift_bind (.refl _) fun value _ => leaves_lift_bind (.refl _) fun actions _ => ?_
  exact upholds_forM ref _ actions

theorem upholds_performAll (run record : Nat) (tasks : List Task) (number : Nat) :
    Upholds s (performAll run record tasks number) := by
  induction tasks generalizing s number with
  | nil => exact leaves_pure (.refl _) trivial
  | cons task rest ih => exact (upholds_perform _ record task).bind fun _ _ _ => ih (number + 1)

theorem upholds_run (loop : Option Nat) : Upholds s (run loop) := by
  unfold run
  refine leaves_get_bind ?_
  split
  · exact upholds_deliver _ loop
  · next countdown _ =>
    have hopen : Keeps s (s.openRun countdown loop) := .of_same ⟨rfl, rfl, rfl, rfl, rfl, rfl⟩
    exact (stays_set hopen).bind fun _ _ _ => upholds_performAll _ _ _ 0

theorem upholds_complete (number : Int) (passed : Bool) : Upholds s (complete number passed) := by
  unfold complete
  refine leaves_get_bind ?_
  simp only
  generalize (if number < 0 then number + s.kept.length else number) = index
  split
  · exact leaves_throw (.refl _) trivial
  · split
    · split
      · exact upholds_report _ passed
      · exact leaves_pure (.refl _) trivial
    · exact leaves_throw (.refl _) trivial

end Runs

/-! ## The loop -/

section Loop

variable {s : Session}

theorem upholds_editLoop (f : Loop → Loop) : Upholds s (editLoop f) :=
  stays_modify (.of_same ⟨rfl, rfl, rfl, rfl, rfl, rfl⟩)

theorem upholds_doJob (job : Job) : Upholds s (doJob job) := by
  cases job with
  | step ref yields verdict => cases yields <;> exact upholds_editLoop _
  | settle ref passed => exact upholds_report ref passed
  | resolve result =>
    unfold doJob
    refine leaves_get_bind ?_
    split
    · exact leaves_pure (.refl _) trivial
    · exact (upholds_editLoop _).bind fun _ _ _ => upholds_editLoop _
  | wake result => exact upholds_editLoop _

theorem keeps_turn (s : Session) : Keeps s s.turn := by
  have hjobs : ∀ (jobs : List Job) (s : Session),
      Keeps s (jobs.foldl (fun s job => s.after (doJob job)) s) := by
    intro jobs
    induction jobs with
    | nil => exact .refl
    | cons job rest ih => exact fun s => (upholds_doJob job).state.trans (ih _)
  unfold turn
  split
  · exact .refl s
  · next l _ =>
    have hclear : Keeps s { s with loop := some { l with jobs := [] } } :=
      .of_same ⟨rfl, rfl, rfl, rfl, rfl, rfl⟩
    exact hclear.trans (hjobs l.jobs _)

theorem keeps_turns (s : Session) (limit : Nat) : Keeps s (s.turns limit) := by
  induction limit generalizing s with
  | zero => exact .refl s
  | succ limit ih =>
    unfold turns
    split
    · exact .refl s
    · exact (keeps_turn s).trans (ih _)

theorem keeps_completeAll (s : Session) (completions : List (Int × Bool)) :
    Keeps s (s.completeAll completions).1 := by
  induction completions generalizing s with
  | nil => exact .refl s
  | cons completion rest ih =>
    exact (upholds_complete completion.1 completion.2).state.trans (ih _)

theorem keeps_awaitRun (s : Session) (completions : List (Int × Bool)) (limit : Nat) :
    Keeps s (s.awaitRun completions limit).1 := by
  have hopen : Keeps s s.openLoop := .of_same ⟨rfl, rfl, rfl, rfl, rfl, rfl⟩
  have hrun := (upholds_run (s := s.openLoop) (some s.loops)).state
  unfold awaitRun
  simp only
  generalize ExceptT.run (run (some s.loops)) s.openLoop = outcome at hrun ⊢
  obtain ⟨started, s₁⟩ := outcome
  have hbefore := (hopen.trans hrun).trans (keeps_completeAll s₁ completions)
  cases started with
  | error fault => exact hbefore.trans (.of_same ⟨rfl, rfl, rfl, rfl, rfl, rfl⟩)
  | ok =>
    exact (hbefore.trans (keeps_turns _ limit)).trans (.of_same ⟨rfl, rfl, rfl, rfl, rfl, rfl⟩)

end Loop

/-! ## Operations -/

/-- A table of templates is taken only if it has one for every rule in use. -/
theorem isSound_setTemplates {s : Session} (hs : s.IsSound) (templates : MessageTable) :
    (s.after (setTemplates templates)).IsSound := by
  unfold after setTemplates
  rw [run_bind, run_get]
  simp only
  split
  · exact hs
  · next hnone =>
    refine ⟨hs.current, fun e he use huse => ?_⟩
    obtain ⟨d, hd⟩ := hs.uses e he use huse
    have hhas := List.find?_eq_none.1 hnone (e.1, use.rule)
      (List.mem_flatMap.2 ⟨e, he, List.mem_map.2 ⟨use, huse, rfl⟩⟩)
    have ht : templates.has use.rule = true := by simpa using hhas
    exact ⟨d, hd.of_has ht⟩

/-- What is done to a session: something is asked of it, or a rule or a transform is registered. -/
inductive Operation where
  | call (c : Call)
  | register (name : String) (d : Definition)
  | registerTransform (name : String) (t : Transform)

/-- What an operation leaves of a session; a registration that is refused changes nothing. -/
def operate (s : Session) : Operation → Session
  | .call c => s.call c
  | .register name d => { s with registry := (s.registry.register name d).toOption.getD s.registry }
  | .registerTransform name t =>
    { s with registry := (s.registry.registerTransform name t).toOption.getD s.registry }

/-- What calls leave of a session can be used if it could. -/
theorem isSound_call {s : Session} (hs : s.IsSound) (c : Call) : (s.call c).IsSound := by
  cases c with
  | turnDay today => exact ⟨hs.current, hs.uses⟩
  | assign field value => exact (upholds_assign field value).state.isSound hs
  | dropField field => exact (upholds_dropField field).state.isSound hs
  | addRule field friendly spec => exact (upholds_addRule field friendly spec).state.isSound hs
  | setTemplates templates => exact isSound_setTemplates hs templates
  | replaceRecord record => exact (keeps_replaceRecord s record).isSound hs
  | reset => exact (keeps_replaceRecord s _).isSound hs
  | run => exact (upholds_run none).state.isSound hs
  | complete number passed => exact (upholds_complete number passed).state.isSound hs
  | awaitRun completions limit => exact (keeps_awaitRun s completions limit).isSound hs

/-- No call changes the registry. -/
theorem registry_call (s : Session) (c : Call) : (s.call c).registry = s.registry := by
  cases c with
  | turnDay today => rfl
  | assign field value => exact (upholds_assign field value).state.registry
  | dropField field => exact (upholds_dropField field).state.registry
  | addRule field friendly spec => exact (upholds_addRule field friendly spec).state.registry
  | setTemplates templates =>
    show (s.after (setTemplates templates)).registry = s.registry
    unfold after setTemplates
    rw [run_bind, run_get]
    simp only
    split <;> rfl
  | replaceRecord record => rfl
  | reset => rfl
  | run => exact (upholds_run none).state.registry
  | complete number passed => exact (upholds_complete number passed).state.registry
  | awaitRun completions limit => exact (keeps_awaitRun s completions limit).registry

/-- Every operation leaves rules that can be used. -/
theorem isSound_operate {s : Session} (hs : s.IsSound) (operation : Operation) :
    (s.operate operation).IsSound := by
  cases operation with
  | call c => exact isSound_call hs c
  | register name d =>
    refine ⟨hs.current, fun e he use huse => ?_⟩
    obtain ⟨d', hd'⟩ := hs.uses e he use huse
    rcases hr : s.registry.register name d with fault | registry
    · exact ⟨d', by simpa [operate, hr, Except.toOption] using hd'⟩
    · exact ⟨d', by simpa [operate, hr, Except.toOption] using hd'.register hr⟩
  | registerTransform name t =>
    refine ⟨hs.current, fun e he use huse => ?_⟩
    obtain ⟨d', hd'⟩ := hs.uses e he use huse
    rcases hr : s.registry.registerTransform name t with fault | registry
    · exact ⟨d', by simpa [operate, hr, Except.toOption] using hd'⟩
    · exact ⟨d', by simpa [operate, hr, Except.toOption] using hd'.registerTransform hr⟩

theorem isSound_start (today : Calendar.Today) (registry : Registry) (templates : MessageTable)
    (separator : String) (record : Value) :
    (start today registry templates separator record).IsSound :=
  ⟨Nat.zero_lt_one, fun _ he => absurd he List.not_mem_nil⟩

/-- Whatever is done to a new session, its rules can be used. -/
theorem isSound_of_operations (today : Calendar.Today) (registry : Registry)
    (templates : MessageTable) (separator : String) (record : Value) (operations : List Operation) :
    (operations.foldl operate (start today registry templates separator record)).IsSound :=
  List.foldlRecOn operations operate (isSound_start today registry templates separator record)
    fun _ hs operation _ => isSound_operate hs operation

end Session

end FieldRules
