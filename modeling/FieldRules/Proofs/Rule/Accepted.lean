import FieldRules.Rule.Spec
import Mathlib.Data.List.Forall2

/-!
# What is known of accepted rules

A rule text is accepted only if every rule of it can be used: it is a transform, or the registry has
it, there is a template for its messages, and its options are such as its definition asks for.

Results:
* `parseRule_of_get?`: the checks of a rule that is no transform, in their order.
* `eq_of_parseRule`: what is known of a rule that has been accepted.
* `isUsable_of_parseValue`: what is known of the rules of a rule text that has been accepted.
-/

namespace FieldRules.Spec

/-- A rule that is no transform can be used, by its definition. -/
structure Rule.IsUsable (rule : Rule) (registry : Registry) (hasTemplate : String → Bool)
    (d : Definition) : Prop where
  definition : registry.get? rule.name = some d
  notTransform : registry.isTransform rule.name = false
  template : hasTemplate rule.name = true
  options : d.requiresOptions = true → rule.options ≠ []
  integer : d.integerOption = true →
    ∃ option rest n, rule.options = option :: rest ∧ LeadingInt.read option.toList = .value n
  pattern : rule.name = regexRule →
    ∃ option rest p, rule.options = option :: rest ∧
      Pattern.compile { ignoreCase := true } option.toList = .ok p

/-! ## Options -/

section Options

variable {fail : SpecCause → Fault} {options : List String}

theorem value_of_checkInteger (h : checkInteger fail options = .ok ()) :
    ∃ option rest n, options = option :: rest ∧ LeadingInt.read option.toList = .value n := by
  cases options with
  | nil => cases h
  | cons option rest =>
    rw [checkInteger] at h
    split at h
    · cases h
    · cases h
    · next n hn => exact ⟨option, rest, n, rfl, hn⟩

theorem compile_of_checkPattern (h : checkPattern fail options = .ok ()) :
    ∃ option rest p, options = option :: rest ∧
      Pattern.compile { ignoreCase := true } option.toList = .ok p := by
  cases options with
  | nil => cases h
  | cons option rest =>
    rw [checkPattern] at h
    split at h
    · next p hp => exact ⟨option, rest, p, rfl, hp⟩
    · cases h
    · cases h

end Options

/-! ## Rules as they are written -/

/-- The name of a rule as it is written. -/
def nameOf (token : List Char) : String := String.ofList (readRule token).1

/-- The options of a rule as it is written. -/
def optionsIn (token : List Char) : List String := optionsOf (nameOf token) (readRule token).2

/-- A rule as it is written is refused, for some cause. -/
def refusal (field : Option String) (token : List Char) (cause : SpecCause) : Fault :=
  .spec ⟨cause, nameOf token, field⟩

/-! ## Rules -/

section Rules

variable {registry : Registry} {hasTemplate : String → Bool} {field : Option String}
  {token : List Char}

theorem parseRule_of_isTransform (h : registry.isTransform (nameOf token) = true) :
    parseRule registry hasTemplate field token = .ok ⟨nameOf token, optionsIn token, true⟩ := by
  have hname : registry.isTransform (String.ofList (readRule token).1) = true := h
  unfold parseRule
  simp only
  rw [if_pos hname]
  rfl

theorem parseRule_of_get?_eq_none (h : registry.isTransform (nameOf token) = false)
    (hd : registry.get? (nameOf token) = none) :
    parseRule registry hasTemplate field token = .error (refusal field token .unknownRule) := by
  have hname : registry.isTransform (String.ofList (readRule token).1) = false := h
  have hnone : registry.get? (String.ofList (readRule token).1) = none := hd
  unfold parseRule
  simp only [hname, hnone]
  rfl

/-- The checks of a rule that is no transform, in their order. -/
theorem parseRule_of_get? {d : Definition} (h : registry.isTransform (nameOf token) = false)
    (hd : registry.get? (nameOf token) = some d) :
    parseRule registry hasTemplate field token = (do
      (if d.requiresOptions && (optionsIn token).isEmpty then
        .error (refusal field token .missingOptions) else .ok ())
      (if d.integerOption then checkInteger (refusal field token) (optionsIn token) else .ok ())
      (if nameOf token = regexRule then checkPattern (refusal field token) (optionsIn token)
        else .ok ())
      (if !hasTemplate (nameOf token) then .error (refusal field token .missingTemplate)
        else .ok ())
      return ⟨nameOf token, optionsIn token, false⟩) := by
  unfold nameOf at h hd
  delta optionsIn nameOf refusal parseRule
  simp only
  rw [if_neg (by rw [h]; decide)]
  simp only [hd]
  (repeat' split) <;> rfl

theorem eq_ok_of_bind {ε α : Type} {first : Except ε Unit} {next : Unit → Except ε α} {a : α}
    (h : (first >>= next) = .ok a) : first = .ok () ∧ next () = .ok a := by
  cases first with
  | error e => cases h
  | ok u => exact ⟨rfl, h⟩

/-- What is known of a rule that has been accepted: its name and its options are those that are
    written, and it can be used, unless it is a transform. -/
theorem eq_of_parseRule {rule : Rule} (h : parseRule registry hasTemplate field token = .ok rule) :
    rule = ⟨nameOf token, optionsIn token, registry.isTransform (nameOf token)⟩ ∧
      (rule.isTransform = false → ∃ d, rule.IsUsable registry hasTemplate d) := by
  cases hname : registry.isTransform (nameOf token) with
  | true =>
    rw [parseRule_of_isTransform hname] at h
    cases h
    exact ⟨rfl, nofun⟩
  | false =>
    cases hd : registry.get? (nameOf token) with
    | none =>
      rw [parseRule_of_get?_eq_none hname hd] at h
      cases h
    | some d =>
      rw [parseRule_of_get? hname hd] at h
      obtain ⟨hoptions, h⟩ := eq_ok_of_bind h
      obtain ⟨hinteger, h⟩ := eq_ok_of_bind h
      obtain ⟨hpattern, h⟩ := eq_ok_of_bind h
      obtain ⟨htemplate, h⟩ := eq_ok_of_bind h
      cases h
      refine ⟨rfl, fun _ => ⟨d, hd, hname, ?_, fun hd hnil => ?_, fun hd => ?_, fun hr => ?_⟩⟩
      · split at htemplate
        · cases htemplate
        · next h => simpa using h
      · simp only at hnil
        rw [if_pos (by rw [hd, hnil]; rfl)] at hoptions
        cases hoptions
      · rw [if_pos hd] at hinteger
        exact value_of_checkInteger hinteger
      · rw [if_pos hr] at hpattern
        exact compile_of_checkPattern hpattern

/-- The registry has the rules that are accepted. -/
theorem has_of_parseRule {rule : Rule}
    (h : parseRule registry hasTemplate field token = .ok rule) :
    registry.has rule.name = true := by
  obtain ⟨hrule, husable⟩ := eq_of_parseRule h
  cases htransform : registry.isTransform (nameOf token) with
  | true =>
    rw [hrule, Registry.has, show registry.transforms.has (nameOf token) = true from htransform,
      Bool.or_true]
  | false =>
    obtain ⟨d, hd⟩ := husable (by rw [hrule, htransform])
    have hhas : registry.rules.has rule.name = true := by
      rw [Entries.has, show registry.rules.get? rule.name = some d from hd.definition]
      rfl
    rw [Registry.has, hhas, Bool.true_or]

/-- What is made of a list item by item is made of one of its items each. -/
theorem forall₂_of_mapM {ε α β : Type} {f : α → Except ε β} {l : List α} {l' : List β}
    (h : l.mapM f = .ok l') : List.Forall₂ (fun a b => f a = .ok b) l l' := by
  induction l generalizing l' with
  | nil =>
    cases h
    exact .nil
  | cons a rest ih =>
    rw [List.mapM_cons] at h
    rcases hf : f a with e | b
    · rw [hf] at h
      cases h
    · rcases hrest : rest.mapM f with e | rest'
      · rw [hf, hrest] at h
        cases h
      · rw [hf, hrest] at h
        cases h
        exact .cons hf (ih hrest)

theorem exists_of_mem_mapM {ε α β : Type} {f : α → Except ε β} {l : List α} {l' : List β}
    (h : l.mapM f = .ok l') {b : β} (hb : b ∈ l') : ∃ a ∈ l, f a = .ok b := by
  have hall := forall₂_of_mapM h
  clear h
  induction hall with
  | nil => cases hb
  | cons hf _ ih =>
    rcases List.mem_cons.1 hb with rfl | hb
    · exact ⟨_, List.mem_cons_self, hf⟩
    · obtain ⟨a, ha, hfa⟩ := ih hb
      exact ⟨a, List.mem_cons_of_mem _ ha, hfa⟩

theorem parse_of_parseValue {spec : Value} {rules : List Rule}
    (h : parseValue registry hasTemplate field spec = .ok rules) :
    ∃ text, spec = .text text ∧ parse registry hasTemplate field text.toList = .ok rules := by
  cases spec with
  | text t => exact ⟨t, rfl, h⟩
  | _ => cases h

theorem isTransform_of_parseValue {spec : Value} {rules : List Rule}
    (h : parseValue registry hasTemplate field spec = .ok rules) :
    ∀ rule ∈ rules, rule.isTransform = registry.isTransform rule.name := by
  intro rule hmem
  obtain ⟨text, -, htext⟩ := parse_of_parseValue h
  obtain ⟨token, -, htoken⟩ := exists_of_mem_mapM htext hmem
  rw [(eq_of_parseRule htoken).1]

/-- The rules of a rule text that has been accepted can be used, unless they are transforms. -/
theorem isUsable_of_parseValue {spec : Value} {rules : List Rule}
    (h : parseValue registry hasTemplate field spec = .ok rules) {rule : Rule}
    (hmem : rule ∈ rules) (hrule : rule.isTransform = false) :
    ∃ d, rule.IsUsable registry hasTemplate d := by
  obtain ⟨text, -, htext⟩ := parse_of_parseValue h
  obtain ⟨token, -, htoken⟩ := exists_of_mem_mapM htext hmem
  exact (eq_of_parseRule htoken).2 hrule

end Rules

end FieldRules.Spec
