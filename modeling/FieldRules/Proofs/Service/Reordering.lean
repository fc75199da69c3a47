import FieldRules.Proofs.Rule.Moving
import FieldRules.Proofs.Service.Sanitizing
import FieldRules.Proofs.Session.Captured
import Mathlib.Data.List.Perm.Basic

/-!
# Rules in another order

The fields of a record are given their rules one after the other. Some of these rules write to the
record, and some take values from it for later. As long as no value is taken that is written, the
order makes no difference: neither that of the fields, nor the place that `sanitize` has among the
rules of its field.

Results:
* `fits_of_run_configure`, `run_configure_of_fits`: what fields are given is told by the record as
  it was before all of them.
* `Fits.moved`: it is the same wherever `sanitize` stands.
* `validate_reordered`: what is found out about a record does not depend on the order of its rules.
-/

namespace FieldRules.Checker

open Session (Captures ComparesElsewhere Rewrites comparedField?)

/-! ## What a field is given -/

/-- The name for a field in messages, if it is given one. -/
def friendlyIn (field : String) : Value → Value
  | .map parts => (Entries.get? parts "friendly_name").getD .null
  | _ => .text field

/-- The fields that a field is compared with by the rules that it is given. -/
def comparedIn (given : Value) : List String :=
  match specIn given with
  | .text text => (Spec.split text.toList).filterMap fun token =>
      if Spec.nameOf token = Session.matchesRule then (Spec.optionsIn token).head? else none
  | _ => []

/-- What a field has when it has been given its rules, by the record that a session has before. -/
def Fits (s : Session) (e : String × Value) (f : String × FieldSpec) : Prop :=
  ∃ found uses,
    Spec.parseValue s.registry s.templates.has (some e.1) (specIn e.2) = .ok found ∧
      s.Captures e.1 found uses ∧ f = (e.1, ⟨Session.label e.1 (friendlyIn e.1 e.2), uses⟩)

/-- No field with transforms is compared with. -/
def ComparesUntransformed (registry : Registry) (rules : Entries Value) : Prop :=
  ∀ e ∈ rules, ∀ other ∈ comparedIn e.2, ∀ e' ∈ rules, e'.1 = other →
    transformsOf registry e'.2 = []

section Fields

variable {s s' : Session} {e e' : String × Value} {f : String × FieldSpec} {field : String}
  {given : Value} {found : List Spec.Rule} {rules : Entries Value} {old : Entries Value}
  {registry : Registry} {hasTemplate : String → Bool} {new : Entries FieldSpec}

theorem configureField_eq {text : String} (h : specIn given = .text text) :
    configureField field given =
      Session.addRule field (friendlyIn field given) (specIn given) := by
  cases given with
  | text spec => rfl
  | map parts => rfl
  | _ => cases h

theorem mem_comparedIn {rule : Spec.Rule} {other : String}
    (h : Spec.parseValue registry hasTemplate (some field) (specIn given) = .ok found)
    (hrule : rule ∈ found) (hother : comparedField? rule = some other) :
    other ∈ comparedIn given := by
  obtain ⟨text, htext, hparse⟩ := Spec.parse_of_parseValue h
  obtain ⟨rfl, -⟩ := Spec.parse_eq_ok_iff.1 hparse
  obtain ⟨token, htoken, rfl⟩ := List.mem_map.1 hrule
  rw [comparedIn, htext]
  exact List.mem_filterMap.2 ⟨token, htoken, hother⟩

theorem comparesElsewhere_of_parseValue (hrules : ComparesUntransformed registry rules)
    (he : e ∈ rules)
    (h : Spec.parseValue registry hasTemplate (some e.1) (specIn e.2) = .ok found) :
    ComparesElsewhere e.1 found := by
  intro t ht htransform rule hrule hother
  have hnone := hrules e he e.1 (mem_comparedIn h hrule hother) e he rfl
  obtain ⟨text, htext, hparse⟩ := Spec.parse_of_parseValue h
  rw [transformsOf, htext] at hnone
  simp only at hnone
  rw [← Spec.transformsIn_eq hparse, List.map_eq_nil_iff, List.filter_eq_nil_iff] at hnone
  exact hnone t ht htransform

/-- A field that is given its rules has what fits the record before. -/
theorem fits_of_run_configureField (hrecord : s.record = .map old)
    (hrules : ComparesUntransformed s.registry rules) (he : e ∈ rules)
    (h : (configureField e.1 e.2).run s = (.ok (), s')) :
    ∃ f, Fits s e f ∧ s'.fields = s.fields.put e.1 f.2 := by
  rcases configureField_cases e.1 e.2 with ⟨friendly, hadd⟩ | ⟨hthrow, -⟩
  · rw [hadd] at h
    obtain ⟨text, -, -, htext, -⟩ := Session.rewrites_of_run_addRule h
    rw [← hadd, configureField_eq htext] at h
    obtain ⟨found, uses, s₁, hfound, huse, rfl⟩ := Session.run_addRule_eq_ok_iff.1 h
    have hcaptures := (Session.run_useRules_eq_ok_iff hrecord
      (comparesElsewhere_of_parseValue hrules he hfound)).1 ⟨s₁, huse⟩
    refine ⟨_, ⟨found, uses, hfound, hcaptures, rfl⟩, ?_⟩
    rw [Session.withSpec, (Session.rewrites_of_run_useRules huse).writes.fields]
  · rw [hthrow] at h
    cases h

/-- A field is given its rules if something fits the record. -/
theorem run_configureField_of_fits (hrecord : s.record = .map old)
    (hrules : ComparesUntransformed s.registry rules) (he : e ∈ rules) (h : Fits s e f) :
    ∃ s', (configureField e.1 e.2).run s = (.ok (), s') ∧
      s'.fields = s.fields.put e.1 f.2 := by
  obtain ⟨found, uses, hfound, hcaptures, rfl⟩ := h
  obtain ⟨text, htext, -⟩ := Spec.parse_of_parseValue hfound
  obtain ⟨s₁, huse⟩ := (Session.run_useRules_eq_ok_iff hrecord
    (comparesElsewhere_of_parseValue hrules he hfound)).2 hcaptures
  refine ⟨s₁.withSpec e.1 ⟨Session.label e.1 (friendlyIn e.1 e.2), uses⟩, ?_, ?_⟩
  · rw [configureField_eq htext]
    exact Session.run_addRule_eq_ok_iff.2 ⟨found, uses, s₁, hfound, huse, rfl⟩
  · rw [Session.withSpec, (Session.rewrites_of_run_useRules huse).writes.fields]

theorem Fits.key (h : Fits s e f) : f.1 = e.1 := by
  obtain ⟨-, -, -, -, rfl⟩ := h
  rfl

theorem Fits.put_eq (h : Fits s e f) (hnew : e.1 ∉ Entries.keys new) :
    Entries.put new e.1 f.2 = new ++ [f] := by
  rw [Entries.put_of_notMem_keys hnew, ← h.key]

theorem Fits.notMem_keys_append (h : Fits s e f) (he : e.1 ∉ rules.keys)
    (hnew : ∀ key ∈ rules.keys, key ∉ Entries.keys new) :
    ∀ key ∈ rules.keys, key ∉ Entries.keys (new ++ [f]) := by
  intro key hkey hmem
  rw [Entries.keys, List.map_append, List.mem_append] at hmem
  rcases hmem with hmem | hmem
  · exact hnew key hkey hmem
  · exact he (h.key ▸ List.mem_singleton.1 hmem ▸ hkey)

/-- What fits a record fits one that has the same for the field, and for those that it is compared
    with. -/
theorem Fits.congr {entries : Entries Value} (h : Fits s e f) (hregistry : s'.registry = s.registry)
    (htemplates : s'.templates = s.templates) (hrecord : s.record = .map old)
    (hrecord' : s'.record = .map entries) (hfield : entries.get? e.1 = old.get? e.1)
    (hother : ∀ other ∈ comparedIn e.2, entries.get? other = old.get? other) : Fits s' e f := by
  obtain ⟨found, uses, hfound, hcaptures, hf⟩ := h
  refine ⟨found, uses, by rw [hregistry, htemplates, hfound], ?_, hf⟩
  exact hcaptures.congr hregistry hrecord hrecord' hfield fun rule hrule other hcompared =>
    hother other (mem_comparedIn hfound hrule hcompared)

/-- What fits the record for the other fields is the same before and after a field is given its
    rules. -/
theorem fits_iff_of_run_configureField (hrecord : s.record = .map old)
    (hrules : ComparesUntransformed s.registry (e :: rules)) (he : e.1 ∉ Entries.keys rules)
    (h : (configureField e.1 e.2).run s = (.ok (), s')) :
    s'.registry = s.registry ∧ (∃ entries, s'.record = .map entries) ∧
      ∀ e' ∈ rules, ∀ f, Fits s' e' f ↔ Fits s e' f := by
  obtain ⟨s₁, new, hrewrites, rfl⟩ := rewrites_of_run_configureField h
  obtain ⟨entries, hrecord₁, hothers, hsame⟩ := hrewrites.exists_entries hrecord
  have hregistry : (s₁.withSpec e.1 new).registry = s.registry := hrewrites.writes.registry
  have htemplates : (s₁.withSpec e.1 new).templates = s.templates := hrewrites.writes.templates
  have hrecord' : (s₁.withSpec e.1 new).record = .map entries := hrecord₁
  refine ⟨hregistry, ⟨entries, hrecord'⟩, fun e' he' f => ?_⟩
  have hfield : Entries.get? entries e'.1 = old.get? e'.1 :=
    hothers _ fun heq => he (heq ▸ List.mem_map_of_mem he')
  have hother : ∀ other ∈ comparedIn e'.2, Entries.get? entries other = old.get? other := by
    intro other hmem
    by_cases heq : other = e.1
    · rw [hsame (hrules e' (List.mem_cons_of_mem _ he') other hmem e List.mem_cons_self heq.symm)]
    · exact hothers other heq
  exact ⟨fun h => h.congr hregistry.symm htemplates.symm hrecord' hrecord hfield.symm
      fun other hmem => (hother other hmem).symm,
    fun h => h.congr hregistry htemplates hrecord hrecord' hfield hother⟩

theorem ComparesUntransformed.tail (h : ComparesUntransformed registry (e :: rules)) :
    ComparesUntransformed registry rules := fun e₁ he₁ other hother e₂ he₂ =>
  h e₁ (List.mem_cons_of_mem _ he₁) other hother e₂ (List.mem_cons_of_mem _ he₂)

/-- Fields that are given their rules have what fits the record as it was before all of them. -/
theorem fits_of_run_configure (hrecord : s.record = .map old)
    (hrules : ComparesUntransformed s.registry rules) (hkeys : rules.keys.Nodup)
    (hnew : ∀ key ∈ rules.keys, key ∉ s.fields.keys)
    (h : (configure rules).run s = (.ok (), s')) :
    ∃ new, s'.fields = s.fields ++ new ∧ List.Forall₂ (Fits s) rules new := by
  induction rules generalizing s old with
  | nil =>
    cases h
    exact ⟨[], (List.append_nil _).symm, .nil⟩
  | cons e rules ih =>
    obtain ⟨⟨⟩, s₁, hfirst, hrest⟩ := run_bind_eq_ok_iff.1 h
    change (configureField e.1 e.2).run s = (.ok (), s₁) at hfirst
    obtain ⟨he, hkeys⟩ : e.1 ∉ Entries.keys rules ∧ (Entries.keys rules).Nodup :=
      List.nodup_cons.1 hkeys
    obtain ⟨hfield, hnew⟩ :
        e.1 ∉ s.fields.keys ∧ ∀ key ∈ Entries.keys rules, key ∉ s.fields.keys :=
      List.forall_mem_cons.1 hnew
    obtain ⟨f, hf, hfields⟩ :=
      fits_of_run_configureField hrecord hrules List.mem_cons_self hfirst
    obtain ⟨hregistry, ⟨entries, hrecord₁⟩, hsame⟩ :=
      fits_iff_of_run_configureField hrecord hrules he hfirst
    rw [hf.put_eq hfield] at hfields
    obtain ⟨new, hfields', hfits⟩ := ih hrecord₁ (hregistry ▸ hrules.tail) hkeys
      (hfields ▸ hf.notMem_keys_append he hnew) hrest
    rw [hfields, List.append_assoc, List.singleton_append] at hfields'
    exact ⟨f :: new, hfields', .cons hf (((List.forall₂_and_left _ _).2
      ⟨fun e' he' => he', hfits⟩).imp fun e' f' h => (hsame e' h.1 f').1 h.2)⟩

/-- Fields are given their rules if something fits the record for each of them. -/
theorem run_configure_of_fits (hrecord : s.record = .map old)
    (hrules : ComparesUntransformed s.registry rules) (hkeys : rules.keys.Nodup)
    (hnew : ∀ key ∈ rules.keys, key ∉ s.fields.keys) (h : List.Forall₂ (Fits s) rules new) :
    ∃ s', (configure rules).run s = (.ok (), s') ∧ s'.fields = s.fields ++ new := by
  induction rules generalizing s old new with
  | nil =>
    cases h
    exact ⟨s, rfl, (List.append_nil _).symm⟩
  | cons e rules ih =>
    cases h with
    | @cons _ f _ new hf hfits =>
      obtain ⟨he, hkeys⟩ : e.1 ∉ Entries.keys rules ∧ (Entries.keys rules).Nodup :=
        List.nodup_cons.1 hkeys
      obtain ⟨hfield, hnew⟩ :
          e.1 ∉ s.fields.keys ∧ ∀ key ∈ Entries.keys rules, key ∉ s.fields.keys :=
        List.forall_mem_cons.1 hnew
      obtain ⟨s₁, hfirst, hfields⟩ :=
        run_configureField_of_fits hrecord hrules List.mem_cons_self hf
      obtain ⟨hregistry, ⟨entries, hrecord₁⟩, hsame⟩ :=
        fits_iff_of_run_configureField hrecord hrules he hfirst
      rw [hf.put_eq hfield] at hfields
      obtain ⟨s', hrest, hfields'⟩ := ih hrecord₁ (hregistry ▸ hrules.tail) hkeys
        (hfields ▸ hf.notMem_keys_append he hnew)
        (((List.forall₂_and_left _ _).2 ⟨fun e' he' => he', hfits⟩).imp
          fun e' f' h => (hsame e' h.1 f').2 h.2)
      rw [hfields, List.append_assoc, List.singleton_append] at hfields'
      exact ⟨s', run_bind_eq_ok_iff.2 ⟨(), s₁, hfirst, hrest⟩, hfields'⟩

end Fields

/-! ## Rules that are moved -/

/-- A field is given the same rules, but `sanitize` may have been moved in their text. -/
inductive MovedIn : Value → Value → Prop
  | refl (given : Value) : MovedIn given given
  | text {text text' : String} (h : Spec.IsMoved text text') : MovedIn (.text text) (.text text')
  | parts {parts : Entries Value} {text text' : String}
    (hrules : parts.get? "rules" = some (.text text)) (h : Spec.IsMoved text text') :
    MovedIn (.map parts) (.map (parts.put "rules" (.text text')))

/-- The fields are given their rules in another order, and `sanitize` may have been moved in
    them. -/
def Reordered (rules rules' : Entries Value) : Prop :=
  ∃ moved : Entries Value,
    List.Forall₂ (fun e e' => e'.1 = e.1 ∧ MovedIn e.2 e'.2) rules moved ∧ moved.Perm rules'

section Moved

variable {policy : Markup.Policy} {given given' : Value} {s : Session}
  {e e' : String × Value} {f : String × FieldSpec} {rules rules' : Entries Value}

/-- The names of the built-in rules have no line breaks. -/
theorem newline_notMem_of_has {name : String}
    (h : (Registry.standard policy).has name = true) : '\n' ∉ name.toList := by
  have hrules : ∀ name ∈ (Registry.builtinRules).keys, '\n' ∉ name.toList := by
    simp only [Registry.builtinRules, Registry.entry, Entries.keys, List.map_cons, List.map_nil]
    decide
  rw [Registry.has, Bool.or_eq_true, Entries.has, Entries.has, Option.isSome_iff_ne_none,
    Option.isSome_iff_ne_none, ← Entries.mem_keys_iff, ← Entries.mem_keys_iff] at h
  rcases h with h | h
  · exact hrules name h
  · obtain rfl : name = Registry.sanitizeRule := List.mem_singleton.1 h
    decide

theorem MovedIn.cases (h : MovedIn given given') :
    given' = given ∨ ∃ text text', specIn given = .text text ∧ specIn given' = .text text' ∧
      Spec.IsMoved text text' := by
  cases h with
  | refl => exact .inl rfl
  | text h => exact .inr ⟨_, _, rfl, rfl, h⟩
  | @parts parts text text' hrules h =>
    refine .inr ⟨text, text', ?_, ?_, h⟩
    · rw [specIn, hrules, Option.getD_some]
    · rw [specIn, Entries.get?_put_self, Option.getD_some]

theorem MovedIn.friendlyIn_eq (h : MovedIn given given') (field : String) :
    friendlyIn field given' = friendlyIn field given := by
  cases h with
  | refl => rfl
  | text h => rfl
  | parts hrules h =>
    rw [friendlyIn, friendlyIn, Entries.get?_put_ne _ _ (by decide)]

theorem GivesBuiltins.newline_notMem (h : GivesBuiltins policy given) {text : String}
    (htext : specIn given = .text text) : ∀ t ∈ Spec.split text.toList, '\n' ∉ t := fun t ht =>
  Spec.newline_notMem_of_nameOf (newline_notMem_of_has (h text htext t ht))

/-- A field is given the same rules as often as before. -/
theorem MovedIn.same (h : MovedIn given given') (hgiven : GivesBuiltins policy given) :
    GivesBuiltins policy given' ∧ sanitizeTokens given' = sanitizeTokens given ∧
      ∀ other, other ∈ comparedIn given' ↔ other ∈ comparedIn given := by
  rcases h.cases with rfl | ⟨text, text', htext, htext', hmoved⟩
  · exact ⟨hgiven, rfl, fun _ => Iff.rfl⟩
  · obtain ⟨hperm, -⟩ := hmoved.split (hgiven.newline_notMem htext)
    refine ⟨?_, ?_, fun other => ?_⟩
    · intro text₁ htext₁ token htoken
      cases htext'.symm.trans htext₁
      exact hgiven text htext token (hperm.mem_iff.1 htoken)
    · rw [sanitizeTokens, sanitizeTokens, htext, htext']
      exact (hperm.map Spec.nameOf).count_eq _
    · rw [comparedIn, comparedIn, htext, htext']
      exact (hperm.filterMap _).mem_iff

/-- What fits a record is the same wherever `sanitize` stands among the rules. -/
theorem Fits.moved (h : Fits s e f) (hs : s.registry.Extends policy)
    (hgiven : GivesBuiltins policy e.2) (hkey : e'.1 = e.1) (hmoved : MovedIn e.2 e'.2) :
    Fits s e' f := by
  obtain ⟨hgiven', hcount, -⟩ := hmoved.same hgiven
  have hfriendly := hmoved.friendlyIn_eq e.1
  obtain ⟨found, uses, hfound, hcaptures, hf⟩ := h
  rcases hmoved.cases with heq | ⟨text, text', htext, htext', hmoved⟩
  · have : e' = e := Prod.ext hkey heq
    rw [this]
    exact ⟨found, uses, hfound, hcaptures, hf⟩
  · rw [htext] at hfound
    have hsanitize : s.registry.isTransform (Spec.nameOf Spec.sanitizeToken) = true := by
      have hname : Spec.nameOf Spec.sanitizeToken = Registry.sanitizeRule := by decide +kernel
      rw [hname, hs.isTransform_eq rfl, beq_self_eq_true]
    obtain ⟨found', hfound', hdeferred⟩ :=
      Spec.parse_of_isMoved hmoved (hgiven.newline_notMem htext) hsanitize hfound
    have hnames (given : Value) (hgiven : GivesBuiltins policy given) {text : String}
        (htext : specIn given = .text text) {found : List Spec.Rule}
        (hfound : Spec.parse s.registry s.templates.has (some e.1) text.toList = .ok found) :
        (found.filter (·.isTransform)).map (·.name) =
          List.replicate (sanitizeTokens given) Registry.sanitizeRule := by
      rw [Spec.transformsIn_eq hfound, ← transformsOf_eq_replicate hs hgiven, transformsOf, htext]
    refine ⟨found', uses, ?_, ⟨?_, ?_⟩, ?_⟩
    · rw [htext', hkey]
      exact hfound'
    · rw [hkey, hnames e'.2 hgiven' htext' hfound', hcount, ← hnames e.2 hgiven htext hfound]
      exact hcaptures.made
    · rw [hdeferred]
      exact hcaptures.uses
    · rw [hf, hkey, hfriendly]

theorem Reordered.mem (h : Reordered rules rules') (he' : e' ∈ rules') :
    ∃ e ∈ rules, e'.1 = e.1 ∧ MovedIn e.2 e'.2 := by
  obtain ⟨moved, hmoved, hperm⟩ := h
  obtain ⟨i, hi, rfl⟩ := List.getElem_of_mem (hperm.mem_iff.2 he')
  have hlt : i < rules.length := hmoved.length_eq ▸ hi
  exact ⟨rules[i], List.getElem_mem hlt, hmoved.get hlt hi⟩

theorem Reordered.keys_perm (h : Reordered rules rules') : rules'.keys.Perm rules.keys := by
  obtain ⟨moved, hmoved, hperm⟩ := h
  have hkeys : Entries.keys moved = rules.keys := by
    unfold Entries.keys
    rw [← List.forall₂_eq_eq_eq, List.forall₂_map_left_iff, List.forall₂_map_right_iff]
    exact hmoved.flip.imp fun _ _ h => h.1
  exact hkeys ▸ (hperm.symm.map Prod.fst)

theorem Reordered.usesBuiltins (h : Reordered rules rules')
    (hrules : UsesBuiltins policy rules) : UsesBuiltins policy rules' := by
  intro e' he'
  obtain ⟨e, he, -, hmoved⟩ := h.mem he'
  exact (hmoved.same (hrules e he)).1

theorem Reordered.sanitizeCount_eq (h : Reordered rules rules')
    (hrules : UsesBuiltins policy rules) (field : String) :
    sanitizeCount rules' field = sanitizeCount rules field := by
  obtain ⟨moved, hmoved, hperm⟩ := h
  rw [sanitizeCount, ← (hperm.map _).sum_nat, sanitizeCount]
  congr 1
  rw [← List.forall₂_eq_eq_eq, List.forall₂_map_left_iff, List.forall₂_map_right_iff]
  refine ((List.forall₂_and_left _ _).2 ⟨hrules, hmoved⟩).flip.imp fun e' e h => ?_
  obtain ⟨hgiven, hkey, hmoved⟩ := h
  rw [hkey, (hmoved.same hgiven).2.1]

theorem comparesUntransformed {r : Registry} (hr : r.Extends policy)
    (hrules : UsesBuiltins policy rules)
    (h : ∀ e ∈ rules, ∀ other ∈ comparedIn e.2, sanitizeCount rules other = 0) :
    ComparesUntransformed r rules := by
  intro e he other hother e' he' hkey
  have hnone : sanitizeTokens e'.2 = 0 := by
    have hzero := List.sum_eq_zero_iff_forall_eq_nat.1 (h e he other hother) _
      (List.mem_map_of_mem he')
    rwa [if_pos hkey] at hzero
  rw [transformsOf_eq_replicate hr (hrules e' he'), hnone, List.replicate_zero]

theorem Reordered.compared (h : Reordered rules rules') (hrules : UsesBuiltins policy rules)
    (hcompared : ∀ e ∈ rules, ∀ other ∈ comparedIn e.2, sanitizeCount rules other = 0) :
    ∀ e ∈ rules', ∀ other ∈ comparedIn e.2, sanitizeCount rules' other = 0 := by
  intro e' he' other hother
  obtain ⟨e, he, -, hmoved⟩ := h.mem he'
  rw [h.sanitizeCount_eq hrules]
  exact hcompared e he other (((hmoved.same (hrules e he)).2.2 other).1 hother)

/-- What fits a record for rules in some order fits it for the rules in another order, in that
    order. -/
theorem Reordered.exists_fits (h : Reordered rules rules')
    (hs : s.registry.Extends policy) (hrules : UsesBuiltins policy rules)
    {fields : Entries FieldSpec} (hfits : List.Forall₂ (Fits s) rules fields) :
    ∃ fields' : Entries FieldSpec, List.Forall₂ (Fits s) rules' fields' ∧ fields'.Perm fields := by
  obtain ⟨moved, hmoved, hperm⟩ := h
  have hfits' : List.Forall₂ (Fits s) moved fields := by
    clear hperm
    induction hmoved generalizing fields with
    | nil =>
      cases hfits
      exact .nil
    | cons hfirst _ ih =>
      obtain ⟨hgiven, hrules⟩ := List.forall_mem_cons.1 hrules
      cases hfits with
      | cons hf hfits => exact .cons (hf.moved hs hgiven hfirst.1 hfirst.2) (ih hrules hfits)
  exact List.perm_comp_forall₂ hperm.symm hfits'

end Moved

/-! ## Errors of fields in another order -/

section Errors

variable {tasks tasks' : List Task} {separator : String}

theorem getD_errorsIn (separator : String) (tasks : List Task) :
    (errorsIn separator tasks).getD [] = errorsOf separator tasks := by
  unfold errorsIn
  split <;> simp [*]

theorem isNone_errorsIn : (errorsIn separator tasks).isNone = true ↔
    ∀ field, (errorsOf separator tasks).get? field = none := by
  have hnil : (∀ field, (errorsOf separator tasks).get? field = none) ↔
      errorsOf separator tasks = [] := by
    refine ⟨fun h => ?_, fun h field => by rw [h]; rfl⟩
    have hkeys : (errorsOf separator tasks).keys = [] :=
      List.eq_nil_iff_forall_not_mem.2 fun field => mt Entries.mem_keys_iff.1 (not_not.2 (h field))
    exact List.map_eq_nil_iff.1 hkeys
  rw [hnil]
  unfold errorsIn
  cases errorsOf separator tasks <;> simp

/-- Entries in another order have the same one under each key. -/
theorem filter_key_of_perm {α : Type} {m m' : Entries α} (h : m'.Perm m) (hm : m.keys.Nodup)
    (key : String) : m'.filter (·.1 = key) = m.filter (·.1 = key) := by
  induction h with
  | nil => rfl
  | cons e _ ih =>
    have hm := (List.nodup_cons.1 hm).2
    rw [List.filter_cons, List.filter_cons, ih hm]
  | swap e e' m =>
    have hne : e.1 ≠ e'.1 := fun heq => (List.nodup_cons.1 hm).1 (by simp [heq])
    by_cases he : e.1 = key
    · have he' : ¬ e'.1 = key := fun h => hne (he.trans h.symm)
      simp [he, he']
    · simp [List.filter_cons, he]
  | @trans m₁ m₂ m₃ _ h ih ih' =>
    exact (ih ((h.map Prod.fst).nodup_iff.2 hm)).trans (ih' hm)

theorem messagesOf_map {f : Task → Task} (hf : ∀ t, (f t).field = t.field) (tasks : List Task)
    (field : String) :
    messagesOf (tasks.map f) field = messagesOf ((tasks.filter (·.field = field)).map f) field := by
  unfold messagesOf
  rw [List.filterMap_map, List.filterMap_map, List.filterMap_filter]
  apply List.filterMap_congr
  intro t _
  by_cases ht : t.field = field <;> simp [hf, ht]

/-- The errors of fields in another order are the same. -/
theorem errorsIn_of_perm {s s' : Session} {f : Task → Task} (hf : ∀ t, (f t).field = t.field)
    (hs : s.fields.keys.Nodup) (h : s'.fields.Perm s.fields) (separator : String) :
    (errorsIn separator (s'.tasks.map f)).isNone = (errorsIn separator (s.tasks.map f)).isNone ∧
      ∀ field, Entries.get? ((errorsIn separator (s'.tasks.map f)).getD []) field =
        Entries.get? ((errorsIn separator (s.tasks.map f)).getD []) field := by
  have hmessages (field : String) :
      messagesOf (s'.tasks.map f) field = messagesOf (s.tasks.map f) field := by
    rw [messagesOf_map hf, messagesOf_map hf s.tasks, Session.filter_tasks, Session.filter_tasks,
      filter_key_of_perm h hs]
  refine ⟨?_, fun field => ?_⟩
  · rw [Bool.eq_iff_iff, isNone_errorsIn, isNone_errorsIn]
    simp only [get?_errorsOf, hmessages]
  · rw [getD_errorsIn, getD_errorsIn, get?_errorsOf, get?_errorsOf, hmessages]

end Errors

/-! ## Records that are checked -/

section Validate

variable {c : Checker} {today : Calendar.Today} {policy : Markup.Policy}
  {old new new' rules rules' : Entries Value} {s s' : Session}

/-- Transforms in another order leave the same of a record. -/
theorem Reordered.rewritten_eq (h : Reordered rules rules') (hc : c.registry.Extends policy)
    (hrules : UsesBuiltins policy rules) (hold : old.keys.Nodup)
    (hnew : Rewritten c.registry rules old new) (hnew' : Rewritten c.registry rules' old new') :
    new' = new := by
  rw [Entries.eq_filterMap_keys (m := new) (hnew.keys ▸ hold),
    Entries.eq_filterMap_keys (m := new') (hnew'.keys ▸ hold), hnew.keys, hnew'.keys]
  apply List.filterMap_congr
  intro field hfield
  obtain ⟨value, hvalue⟩ := Option.ne_none_iff_exists'.1 (Entries.mem_keys_iff.1 hfield)
  obtain ⟨made, hmade, hget⟩ := hnew.values field value hvalue
  obtain ⟨made', hmade', hget'⟩ := hnew'.values field value hvalue
  rw [transformsFor_eq_replicate hc hrules] at hmade
  rw [transformsFor_eq_replicate hc (h.usesBuiltins hrules), h.sanitizeCount_eq hrules] at hmade'
  cases hmade.symm.trans hmade'
  rw [hget, hget']

/-- Fields that are given their rules in another order have the same rules, in that order. -/
theorem Reordered.run_configure (h : Reordered rules rules')
    (hc : c.registry.Extends policy) (hrules : UsesBuiltins policy rules)
    (hkeys : rules.keys.Nodup)
    (hcompared : ∀ e ∈ rules, ∀ other ∈ comparedIn e.2, sanitizeCount rules other = 0)
    (hrun : (configure rules).run (c.session today (.map old)) = (.ok (), s)) :
    s.fields.keys.Nodup ∧
      ∃ s', (configure rules').run (c.session today (.map old)) = (.ok (), s') ∧
        s'.fields.Perm s.fields := by
  have hrules' := h.usesBuiltins hrules
  have hrecord : (c.session today (.map old)).record = .map old := rfl
  obtain ⟨fields, hfields, hfits⟩ := fits_of_run_configure hrecord
    (comparesUntransformed hc hrules hcompared) hkeys (fun _ _ => List.not_mem_nil) hrun
  have hfieldKeys : Entries.keys fields = rules.keys := by
    unfold Entries.keys
    rw [← List.forall₂_eq_eq_eq, List.forall₂_map_left_iff, List.forall₂_map_right_iff]
    exact hfits.flip.imp fun _ _ h => Fits.key h
  obtain ⟨fields', hfits', hperm⟩ := h.exists_fits (s := c.session today (.map old)) hc hrules hfits
  obtain ⟨s', hrun', hfields'⟩ := run_configure_of_fits hrecord
    (comparesUntransformed hc hrules' (h.compared hrules hcompared))
    (h.keys_perm.nodup_iff.2 hkeys) (fun _ _ => List.not_mem_nil) hfits'
  have hnil : (c.session today (.map old)).fields = [] := rfl
  rw [hnil, List.nil_append] at hfields hfields'
  exact ⟨by rw [hfields, hfieldKeys]; exact hkeys, s', hrun',
    by rw [hfields, hfields']; exact hperm⟩

/-- What is found out about a record does not depend on the order in which its fields are given
    their rules, nor on the place of `sanitize` among the rules of a field, as long as no field is
    compared with that is sanitized. If something is found out with the rules in one order, then it
    is with the rules in the other: the record is valid or not alike, each field has the same
    errors, and the record is left the same, with its keys in the same order. -/
theorem validate_reordered {report : Report} (hc : c.registry.Extends policy)
    (hrules : UsesBuiltins policy rules) (hold : old.keys.Nodup) (hkeys : rules.keys.Nodup)
    (hcompared : ∀ e ∈ rules, ∀ other ∈ comparedIn e.2, sanitizeCount rules other = 0)
    (hreordered : Reordered rules rules')
    (h : (c.validate today (.map old) rules).2 = .ok report) :
    ∃ report', (c.validate today (.map old) rules').2 = .ok report' ∧
      report'.isValid = report.isValid ∧
      (∀ field, Entries.get? (report'.errors.getD []) field =
        Entries.get? (report.errors.getD []) field) ∧
      report'.data = report.data ∧
      recordAfter (.map old) (c.validate today (.map old) rules').1 =
        recordAfter (.map old) (c.validate today (.map old) rules).1 := by
  obtain ⟨s, new, verdict, hrun, hrecord, hrewritten, hd, hsettle, rfl, hafter⟩ :=
    verdicts_of_validate hc hrules h
  obtain ⟨hnodup, s', hrun', hperm⟩ :=
    hreordered.run_configure hc hrules hkeys hcompared hrun
  have hrecord' : s'.record = .map new := by
    have hrewritten' : IsRewritten c.registry rules' (.map old) s'.record :=
      (prepares_of_run_configure hrun').record
    generalize s'.record = record at hrewritten'
    cases hrewritten' with
    | fields h => rw [hreordered.rewritten_eq hc hrules hold hrewritten h]
    | other h => exact absurd rfl (h old)
  have htasks : s'.tasks.Perm s.tasks := hperm.flatMap_right _
  obtain ⟨hafter', hreport⟩ := validate_of_verdicts hrun' hrecord' fun t ht =>
    hd t (htasks.mem_iff.1 ht)
  have hsettle' : (settleAll c.settings.messages verdict s'.tasks).1 = .ok () :=
    settleAll_eq_ok_iff.2 fun t ht => settleAll_eq_ok_iff.1 hsettle t (htasks.mem_iff.1 ht)
  have hsettled := (settleAll_of_ok hsettle).1
  have hsettled' := (settleAll_of_ok hsettle').1
  have hseparator : s'.separator = s.separator := by
    rw [eq_of_run_configure hrun, eq_of_run_configure hrun']
  have hfield (t : Task) : (Task.decided c.settings.messages verdict t).field = t.field := by
    unfold Task.decided
    split <;> rfl
  obtain ⟨hnone, herrors⟩ := errorsIn_of_perm hfield hnodup hperm s.separator
  rw [← hsettled, ← hsettled'] at hnone herrors
  refine ⟨⟨errorsIn s.separator (settleAll c.settings.messages verdict s'.tasks).2, .map new⟩, ?_,
    hnone, herrors, rfl, hafter'.trans hafter.symm⟩
  rw [hreport, hseparator]
  rcases hall : settleAll c.settings.messages verdict s'.tasks with ⟨fault | ⟨⟩, settled⟩
  · rw [hall] at hsettle'
    cases hsettle'
  · rfl

end Validate

/-- A checker with the built-in rules and a template for each of them. -/
def templateChecker : Checker :=
  ⟨⟨.map [], .standard, .ofInt 0⟩, .standard .standard⟩

/-- A record with a field that has letters only when it is sanitized, and two equal fields. -/
def equalFields : Entries Value := [("d", .text "y"), ("b", .text " x "), ("c", .text "y")]

/-- Rules with `sanitize` before another one, and between others in a mapping with a name. -/
def sanitizeEarly : Entries Value :=
  [("a", .text "sanitize|alpha"), ("c", .text "matches[d]"),
    ("b", .map [("friendly_name", .text "B"), ("rules", .text "alpha|sanitize|required")])]

/-- The same rules in another order, and `sanitize` in other places. -/
def sanitizeLate : Entries Value :=
  [("b", .map [("friendly_name", .text "B"), ("rules", .text "sanitize|alpha|required")]),
    ("a", .text "alpha|sanitize"), ("c", .text "matches[d]")]

theorem reordered_sanitizeLate : Reordered sanitizeEarly sanitizeLate := by
  have hrules : Entries.get? [("friendly_name", Value.text "B"),
      ("rules", .text "alpha|sanitize|required")] "rules" =
        some (.text "alpha|sanitize|required") := rfl
  refine ⟨[("a", .text "alpha|sanitize"), ("c", .text "matches[d]"),
    ("b", .map [("friendly_name", .text "B"), ("rules", .text "sanitize|alpha|required")])], ?_, ?_⟩
  · refine .cons ⟨rfl, .text ?_⟩ (.cons ⟨rfl, .refl _⟩ (.cons ⟨rfl, .parts hrules ?_⟩ .nil))
    · exact ⟨["alpha".toList, Spec.sanitizeToken], by decide +kernel⟩
    · exact ⟨[Spec.sanitizeToken, "alpha".toList, "required".toList], by decide +kernel⟩
  · show List.Perm ([_, _] ++ [_]) ([_] ++ [_, _])
    exact List.perm_append_comm

/-- Both orders find out the same about that record. -/
theorem validate_equalFields :
    ∃ report report' : Report,
      (templateChecker.validate someDay (.map equalFields) sanitizeEarly).2 = .ok report ∧
      (templateChecker.validate someDay (.map equalFields) sanitizeLate).2 = .ok report' ∧
      report'.isValid = report.isValid ∧ report'.data = report.data ∧
      ∀ field, Entries.get? (report'.errors.getD []) field =
        Entries.get? (report.errors.getD []) field := by
  have hextends : templateChecker.registry.Extends .standard :=
    Registry.extends_standard .standard
  have hbuiltin : UsesBuiltins .standard sanitizeEarly := by
    intro e he text htext
    simp only [sanitizeEarly, List.mem_cons, List.not_mem_nil, or_false] at he
    rcases he with rfl | rfl | rfl <;> cases htext <;> decide +kernel
  have hcompared : ∀ e ∈ sanitizeEarly, ∀ other ∈ comparedIn e.2,
      sanitizeCount sanitizeEarly other = 0 := by
    decide +kernel
  have hok :
      (templateChecker.validate someDay (.map equalFields) sanitizeEarly).2.toBool = true := by
    decide +kernel
  rcases hreport : (templateChecker.validate someDay (.map equalFields) sanitizeEarly).2 with
    fault | report
  · rw [hreport] at hok
    cases hok
  · obtain ⟨report', hreport', hvalid, herrors, hdata, -⟩ := validate_reordered hextends hbuiltin
      (by decide) (by decide) hcompared reordered_sanitizeLate hreport
    exact ⟨report, report', rfl, hreport', hvalid, hdata, herrors⟩

end FieldRules.Checker
