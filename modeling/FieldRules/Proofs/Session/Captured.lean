import FieldRules.Proofs.Session.Rewriting

/-!
# What rules take from a record

The transforms of a field act while its rules are put to use, one after the other, and a rule that
compares takes the value of another field between them. As long as a field with transforms is not
compared with itself, nothing depends on this order: whether its rules are put to use is told by the
record as it was before, and so is what they are put to.

Results:
* `useRule_congr`: a rule takes from a record what it compares with, and nothing else.
* `captures_cons_transform_iff`: a transform does not change what the other rules take.
* `run_useRules_eq_ok_iff`: when rules are put to use, and what they are put to.
* `run_addRule_eq_ok_iff`: when a field is given its rules.
-/

namespace FieldRules.Session

/-- The field that a rule compares with. -/
def comparedField? (rule : Spec.Rule) : Option String :=
  if rule.name = matchesRule then rule.options.head? else none

/-- No rule compares with a field, if there are transforms among the rules. -/
def ComparesElsewhere (field : String) (rules : List Spec.Rule) : Prop :=
  ∀ t ∈ rules, t.isTransform = true → ∀ rule ∈ rules, comparedField? rule ≠ some field

/-- What rules of a field are put to, by the record of a session: the transforms have something made
    of the value of the field, and each of the other rules takes what it needs from the record. -/
structure Captures (s : Session) (field : String) (rules : List Spec.Rule) (uses : List RuleUse) :
    Prop where
  made : ∀ entries value, s.record = .map entries → Entries.get? entries field = some value →
    ∃ made, s.registry.transformed ((rules.filter (·.isTransform)).map (·.name)) value = .ok made
  uses : List.Forall₂ (fun rule use => s.useRule rule = .ok use)
    (rules.filter (!·.isTransform)) uses

section Captured

variable {field : String} {s s₁ s' : Session} {rule : Spec.Rule} {rest rules : List Spec.Rule}
  {use : RuleUse} {uses : List RuleUse} {entries entries₁ : Entries Value} {names : List String}

/-- A rule takes from a record what it compares with, and nothing else. -/
theorem useRule_congr (h : ∀ other, comparedField? rule = some other →
    s₁.record.field? other = s.record.field? other) : s₁.useRule rule = s.useRule rule := by
  unfold useRule
  by_cases hname : rule.name = matchesRule
  · rw [if_pos hname, if_pos hname]
    cases hoptions : rule.options with
    | nil => rfl
    | cons other more =>
      simp only
      rw [h other (by rw [comparedField?, if_pos hname, hoptions, List.head?_cons])]
  · rw [if_neg hname, if_neg hname]

theorem forall₂_useRule_congr (h : ∀ rule ∈ rules, s₁.useRule rule = s.useRule rule) :
    List.Forall₂ (fun rule use => s₁.useRule rule = .ok use) rules uses ↔
      List.Forall₂ (fun rule use => s.useRule rule = .ok use) rules uses :=
  ⟨fun h' => ((List.forall₂_and_left _ _).2 ⟨h, h'⟩).imp fun _ _ h => h.1.symm.trans h.2,
    fun h' => ((List.forall₂_and_left _ _).2 ⟨h, h'⟩).imp fun _ _ h => h.1.trans h.2⟩

/-- Rules are put to the same on a record that has the same for their field, and for the fields that
    they compare with. -/
theorem Captures.congr (h : Captures s field rules uses) (hregistry : s₁.registry = s.registry)
    (hrecord : s.record = .map entries) (hrecord₁ : s₁.record = .map entries₁)
    (hfield : Entries.get? entries₁ field = Entries.get? entries field)
    (hother : ∀ rule ∈ rules, ∀ other, comparedField? rule = some other →
      Entries.get? entries₁ other = Entries.get? entries other) : Captures s₁ field rules uses := by
  refine ⟨fun entries' value hentries hvalue => ?_, ?_⟩
  · cases hrecord₁.symm.trans hentries
    rw [hregistry]
    exact h.made entries value hrecord (hfield ▸ hvalue)
  · have hsame : ∀ rule ∈ rules.filter (!·.isTransform), s₁.useRule rule = s.useRule rule := by
      intro rule hrule
      apply useRule_congr
      intro other hcompared
      rw [hrecord, hrecord₁, Value.field?_map, Value.field?_map,
        hother rule (List.mem_of_mem_filter hrule) other hcompared]
    exact (forall₂_useRule_congr hsame).2 h.uses

/-! ## Rules one after the other -/

/-- What transforms have written is found under the key of their field only. -/
theorem Rewrites.exists_entries (h : Rewrites field names s s₁)
    (hrecord : s.record = .map entries) :
    ∃ entries₁, s₁.record = .map entries₁ ∧
      (∀ other, other ≠ field → Entries.get? entries₁ other = Entries.get? entries other) ∧
      (names = [] → entries₁ = entries) := by
  cases h with
  | @entry entries' value made hrecord' hvalue hmade =>
    cases hrecord.symm.trans hrecord'
    refine ⟨_, record_setRecord (current_lt_of_has hrecord (has_of_get? hvalue)) _,
      fun other hne => Entries.get?_put_ne _ _ hne, ?_⟩
    rintro rfl
    cases hmade
    exact Entries.put_of_get? hvalue
  | nothing => exact ⟨entries, hrecord, fun _ _ => rfl, fun _ => rfl⟩

theorem Rewrites.registry (h : Rewrites field names s s₁) : s₁.registry = s.registry :=
  h.writes.registry

/-- Something is made of a value by transforms one after the other, if each has something made. -/
theorem transformed_cons_eq_ok_iff {r : Registry} {name : String} {value : Value} :
    (∃ made, r.transformed (name :: names) value = .ok made) ↔
      ∃ first, r.applied value name = .ok first ∧
        ∃ made, r.transformed names first = .ok made := by
  rw [Registry.transformed, List.foldlM_cons]
  constructor
  · rintro ⟨made, h⟩
    cases hfirst : r.applied value name with
    | error fault =>
      rw [hfirst] at h
      cases h
    | ok first =>
      rw [hfirst] at h
      exact ⟨first, rfl, made, h⟩
  · rintro ⟨first, hfirst, made, h⟩
    rw [hfirst]
    exact ⟨made, h⟩

/-- A transform does not change what the other rules take from the record. -/
theorem captures_cons_transform_iff (hrule : rule.isTransform = true)
    (hrecord : s.record = .map entries) (helse : ComparesElsewhere field (rule :: rest))
    (h : Rewrites field [rule.name] s s₁) :
    Captures s field (rule :: rest) uses ↔ Captures s₁ field rest uses := by
  obtain ⟨entries₁, hrecord₁, hothers, -⟩ := h.exists_entries hrecord
  have hsame : ∀ r ∈ rest.filter (!·.isTransform), s₁.useRule r = s.useRule r := by
    intro r hr
    apply useRule_congr
    intro other hcompared
    have hne : other ≠ field := by
      rintro rfl
      exact helse rule List.mem_cons_self hrule r
        (List.mem_cons_of_mem _ (List.mem_of_mem_filter hr)) hcompared
    rw [hrecord, hrecord₁, Value.field?_map, Value.field?_map, hothers other hne]
  have huses : List.Forall₂ (fun rule use => s₁.useRule rule = .ok use) _ uses ↔ _ :=
    forall₂_useRule_congr hsame
  have hnames : (((rule :: rest).filter (·.isTransform)).map (·.name)) =
      rule.name :: (rest.filter (·.isTransform)).map (·.name) := by
    rw [List.filter_cons_of_pos hrule, List.map_cons]
  have hdeferred : (rule :: rest).filter (!·.isTransform) = rest.filter (!·.isTransform) :=
    List.filter_cons_of_neg (by simp [hrule])
  cases h with
  | nothing hnone =>
    -- without an entry nothing has to be made of it
    refine ⟨fun h => ⟨fun entries' value hentries hvalue => ?_, hdeferred ▸ h.uses⟩,
      fun h => ⟨fun entries' value hentries hvalue => ?_, hdeferred ▸ h.uses⟩⟩ <;>
    cases (hnone _ hentries).symm.trans hvalue
  | @entry entries' value first hrecord' hvalue hfirst =>
    cases hrecord.symm.trans hrecord'
    cases (record_setRecord (current_lt_of_has hrecord (has_of_get? hvalue)) _).symm.trans hrecord₁
    rw [Registry.transformed_singleton] at hfirst
    have hmade : (∃ made, s.registry.transformed
          (((rule :: rest).filter (·.isTransform)).map (·.name)) value = .ok made) ↔
        ∃ made, s.registry.transformed ((rest.filter (·.isTransform)).map (·.name)) first =
          .ok made := by
      rw [hnames, transformed_cons_eq_ok_iff]
      refine ⟨?_, fun h => ⟨first, hfirst, h⟩⟩
      rintro ⟨first', hfirst', h⟩
      cases hfirst.symm.trans hfirst'
      exact h
    constructor
    · rintro ⟨h, h'⟩
      refine ⟨fun entries' value' hentries hvalue' => ?_, huses.2 (hdeferred ▸ h')⟩
      cases hrecord₁.symm.trans hentries
      cases (Entries.get?_put_self entries field first).symm.trans hvalue'
      exact hmade.1 (h entries value hrecord hvalue)
    · rintro ⟨h, h'⟩
      refine ⟨fun entries' value' hentries hvalue' => ?_, hdeferred ▸ huses.1 h'⟩
      cases hrecord.symm.trans hentries
      cases hvalue.symm.trans hvalue'
      exact hmade.2 (h _ first hrecord₁ (Entries.get?_put_self entries field first))

/-- A rule that is no transform is put to what it takes itself. -/
theorem captures_cons_deferred_iff (hrule : rule.isTransform = false) :
    Captures s field (rule :: rest) uses ↔
      ∃ use uses', s.useRule rule = .ok use ∧ Captures s field rest uses' ∧
        uses = use :: uses' := by
  have hnames : (rule :: rest).filter (·.isTransform) = rest.filter (·.isTransform) :=
    List.filter_cons_of_neg (by simp [hrule])
  have hdeferred : (rule :: rest).filter (!·.isTransform) = rule :: rest.filter (!·.isTransform) :=
    List.filter_cons_of_pos (by simp [hrule])
  constructor
  · rintro ⟨hmade, huses⟩
    rw [hnames] at hmade
    rw [hdeferred] at huses
    cases huses with
    | cons huse huses => exact ⟨_, _, huse, ⟨hmade, huses⟩, rfl⟩
  · rintro ⟨use, uses', huse, ⟨hmade, huses⟩, rfl⟩
    exact ⟨hnames ▸ hmade, hdeferred ▸ .cons huse huses⟩

theorem run_useRules_of_not_truthy {value : Value} (rest : List Spec.Rule)
    (hrule : rule.isTransform = true) (hvalue : s.record.field? field = .ok value)
    (hfalsy : ¬ value.truthy = true) :
    (useRules field (rule :: rest)).run s = (useRules field rest).run s := by
  rw [useRules, run_get_bind, if_pos hrule, hvalue]
  show (if value.truthy = true then _ else _ : SessionM (List RuleUse)).run s = _
  rw [if_neg hfalsy]

/-- What a transform makes of a value that counts as present is written to the record. -/
theorem run_useRules_of_applied {value made : Value} (rest : List Spec.Rule)
    (hrule : rule.isTransform = true) (hvalue : s.record.field? field = .ok value)
    (htruthy : value.truthy = true) (hmade : s.registry.applied value rule.name = .ok made) :
    (useRules field (rule :: rest)).run s =
      (assign field made >>= fun _ => useRules field rest).run s := by
  rw [Registry.applied, if_pos htruthy] at hmade
  rw [useRules, run_get_bind, if_pos hrule, hvalue]
  show (if value.truthy = true then _ else _ : SessionM (List RuleUse)).run s = _
  rw [if_pos htruthy]
  cases htransform : s.registry.transforms.get? rule.name with
  | none =>
    rw [htransform] at hmade
    cases hmade
  | some transform =>
    rw [htransform] at hmade
    simp only at hmade ⊢
    rw [hmade]
    rfl

/-- A transform rewrites the record if something is made of the value of the field, and the other
    rules go on from there. -/
theorem run_useRules_transform (rest : List Spec.Rule) (hrule : rule.isTransform = true)
    (hrecord : s.record = .map entries) (h : ∀ value, entries.get? field = some value →
      ∃ made, s.registry.applied value rule.name = .ok made) :
    ∃ s₁, Rewrites field [rule.name] s s₁ ∧
      (useRules field (rule :: rest)).run s = (useRules field rest).run s₁ := by
  have hfield : s.record.field? field = .ok ((entries.get? field).getD .null) := by
    rw [hrecord, Value.field?_map]
  cases hvalue : entries.get? field with
  | none =>
    rw [hvalue] at hfield
    refine ⟨s, .nothing fun entries' hentries => ?_,
      run_useRules_of_not_truthy rest hrule hfield (by decide)⟩
    cases hrecord.symm.trans hentries
    exact hvalue
  | some value =>
    rw [hvalue, Option.getD_some] at hfield
    obtain ⟨made, hmade⟩ := h value hvalue
    have hrewrites := Rewrites.entry hrecord hvalue
      ((Registry.transformed_singleton s.registry rule.name value).trans hmade)
    by_cases htruthy : value.truthy = true
    · refine ⟨_, hrewrites, ?_⟩
      rw [run_useRules_of_applied rest hrule hfield htruthy hmade, run_bind, run_assign hrecord]
    · rw [Registry.applied, if_neg htruthy] at hmade
      cases hmade
      rw [Entries.put_of_get? hvalue, ← hrecord,
        setRecord_self (current_lt_of_has hrecord (has_of_get? hvalue))] at hrewrites
      exact ⟨s, hrewrites, run_useRules_of_not_truthy rest hrule hfield htruthy⟩

/-- When rules are put to use, and what they are put to: both are told by the record as it was
    before any of them, if a field with transforms is not compared with itself. -/
theorem run_useRules_eq_ok_iff (hrecord : s.record = .map entries)
    (helse : ComparesElsewhere field rules) :
    (∃ s', (useRules field rules).run s = (.ok uses, s')) ↔ Captures s field rules uses := by
  induction rules generalizing s uses entries with
  | nil =>
    constructor
    · rintro ⟨s', h⟩
      cases h
      exact ⟨fun _ value _ _ => ⟨value, rfl⟩, .nil⟩
    · rintro ⟨-, ⟨⟩⟩
      exact ⟨s, rfl⟩
  | cons rule rest ih =>
    have helse' : ComparesElsewhere field rest := fun t ht htransform r hr =>
      helse t (List.mem_cons_of_mem _ ht) htransform r (List.mem_cons_of_mem _ hr)
    cases hrule : rule.isTransform with
    | true =>
      constructor
      · rintro ⟨s', h⟩
        obtain ⟨s₁, hrewrites, h⟩ := rewrites_of_run_useRules_transform hrule h
        obtain ⟨entries₁, hrecord₁, -⟩ := hrewrites.exists_entries hrecord
        exact (captures_cons_transform_iff hrule hrecord helse hrewrites).2
          ((ih hrecord₁ helse').1 ⟨s', h⟩)
      · intro h
        obtain ⟨s₁, hrewrites, hrun⟩ := run_useRules_transform rest hrule hrecord
          fun value hvalue => by
            have hmade := h.made entries value hrecord hvalue
            rw [List.filter_cons_of_pos hrule, List.map_cons, transformed_cons_eq_ok_iff] at hmade
            obtain ⟨first, hfirst, -⟩ := hmade
            exact ⟨first, hfirst⟩
        obtain ⟨entries₁, hrecord₁, -⟩ := hrewrites.exists_entries hrecord
        rw [hrun]
        exact (ih hrecord₁ helse').2
          ((captures_cons_transform_iff hrule hrecord helse hrewrites).1 h)
    | false =>
      have hread (s' : Session) : (useRules field (rule :: rest)).run s = (.ok uses, s') ↔
          ∃ use uses', s.useRule rule = .ok use ∧
            (useRules field rest).run s = (.ok uses', s') ∧ uses = use :: uses' := by
        rw [useRules, run_get_bind, if_neg (Bool.eq_false_iff.1 hrule), run_lift_bind_eq_ok_iff]
        refine exists_congr fun use => ?_
        rw [run_bind_eq_ok_iff]
        constructor
        · rintro ⟨huse, uses', s₁, hrest, h⟩
          cases h
          exact ⟨uses', huse, hrest, rfl⟩
        · rintro ⟨uses', huse, hrest, rfl⟩
          exact ⟨huse, uses', s', hrest, rfl⟩
      rw [captures_cons_deferred_iff hrule]
      constructor
      · rintro ⟨s', h⟩
        obtain ⟨use, uses', huse, hrest, rfl⟩ := (hread s').1 h
        exact ⟨use, uses', huse, (ih hrecord helse').1 ⟨s', hrest⟩, rfl⟩
      · rintro ⟨use, uses', huse, h, rfl⟩
        obtain ⟨s', hrest⟩ := (ih hrecord helse').2 h
        exact ⟨s', (hread s').2 ⟨use, uses', huse, hrest, rfl⟩⟩

/-- A field is given its rules if the rule text is accepted and its rules are put to use. -/
theorem run_addRule_eq_ok_iff {friendly spec : Value} :
    (addRule field friendly spec).run s = (.ok (), s') ↔
      ∃ found uses s₁, Spec.parseValue s.registry s.templates.has (some field) spec = .ok found ∧
        (useRules field found).run s = (.ok uses, s₁) ∧
        s' = s₁.withSpec field ⟨label field friendly, uses⟩ := by
  rw [run_addRule]
  constructor
  · intro h
    split at h
    · cases h
    · next found hfound =>
      split at h
      · cases h
      · next uses s₁ huse =>
        cases h
        exact ⟨found, uses, s₁, hfound, huse, rfl⟩
  · rintro ⟨found, uses, s₁, hfound, huse, rfl⟩
    rw [hfound]
    simp only
    rw [huse]

end Captured

end FieldRules.Session
