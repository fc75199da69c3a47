import FieldRules.Message
import FieldRules.Proofs.Rule.Accepted
import FieldRules.Rule.Builtin

/-!
# Why a rule text is refused

A rule text is read rule by rule, and the first rule that does not pass a check decides: it is
refused for a cause, by its name. Some options are not refused but end the reading in another way: a
check that asks for an option where there is none, an integer of more digits than are converted, and
a pattern that is not found to be malformed but cannot be used all the same.

Results:
* `isWrong_or_unforeseen_of_parseRule`: what is wrong with a rule that is not accepted.
* `parseRule_of_unforeseen`: the options that are not refused.
* `isRight_iff`: which rules are accepted.
* `parse_or_first_fault`: a rule text is accepted, or its first wrong rule tells why not.
* `parse_hugeRepeat`: a pattern that ends the reading without being refused.
-/

namespace FieldRules.Spec

/-! ## Wrong rules -/

/-- The definition of a rule as it is written; the rule is no transform. -/
structure IsDefinedBy (registry : Registry) (token : List Char) (d : Definition) : Prop where
  notTransform : registry.isTransform (nameOf token) = false
  definition : registry.get? (nameOf token) = some d

/-- What is wrong with a rule that is refused. -/
inductive IsWrong (registry : Registry) (hasTemplate : String → Bool) (token : List Char) :
    SpecCause → Prop
  /-- Nobody has the name. -/
  | unknownRule (h : registry.has (nameOf token) = false) :
    IsWrong registry hasTemplate token .unknownRule
  /-- The rule needs options. -/
  | missingOptions {d : Definition} (hd : IsDefinedBy registry token d)
      (hneeds : d.requiresOptions = true) (h : optionsIn token = []) :
    IsWrong registry hasTemplate token .missingOptions
  /-- The first option does not start with an integer. -/
  | invalidOption {d : Definition} {option : String} {rest : List String}
      (hd : IsDefinedBy registry token d) (hinteger : d.integerOption = true)
      (hoptions : optionsIn token = option :: rest)
      (h : LeadingInt.read option.toList = .absent) :
    IsWrong registry hasTemplate token (.invalidOption option)
  /-- The option is no pattern. -/
  | invalidPattern {d : Definition} {option : String} {rest : List String}
      {cause : Pattern.Cause} {position : Option Nat} (hd : IsDefinedBy registry token d)
      (hname : nameOf token = regexRule)
      (hoptions : optionsIn token = option :: rest)
      (h : Pattern.compile { ignoreCase := true } option.toList =
        .error (.malformed cause position)) :
    IsWrong registry hasTemplate token
      (.invalidPattern (Pattern.malformedMessage option.toList cause position))
  /-- There is no template for the messages of the rule. -/
  | missingTemplate {d : Definition} (hd : IsDefinedBy registry token d)
      (h : hasTemplate (nameOf token) = false) :
    IsWrong registry hasTemplate token .missingTemplate

/-- Options that are not refused, although they cannot be used: their check ends with a fault of
    its own. -/
inductive Unforeseen (registry : Registry) (token : List Char) : Fault → Prop
  /-- The first option is read, but the rule has none and need not have one. -/
  | noOption {d : Definition} (hd : IsDefinedBy registry token d)
      (hread : d.integerOption = true ∨ nameOf token = regexRule)
      (hneeds : d.requiresOptions = false) (h : optionsIn token = []) :
    Unforeseen registry token (.noOption true)
  /-- The first option starts with an integer that is too long. -/
  | longInteger {d : Definition} {option : String} {rest : List String} {count : Nat}
      (hd : IsDefinedBy registry token d) (hinteger : d.integerOption = true)
      (hoptions : optionsIn token = option :: rest)
      (h : LeadingInt.read option.toList = .tooLong count) :
    Unforeseen registry token (.tooManyDigits count)
  /-- The option is no malformed pattern, but it cannot be used. -/
  | pattern {d : Definition} {option : String} {rest : List String} {fault : Pattern.Fault}
      (hd : IsDefinedBy registry token d) (hname : nameOf token = regexRule)
      (hoptions : optionsIn token = option :: rest)
      (hinteger : d.integerOption = true → ∃ n, LeadingInt.read option.toList = .value n)
      (hfault : ∀ cause position, fault ≠ .malformed cause position)
      (h : Pattern.compile { ignoreCase := true } option.toList = .error fault) :
    Unforeseen registry token (.pattern option.toList fault)

/-- A rule passes all checks. -/
structure IsRight (registry : Registry) (hasTemplate : String → Bool) (token : List Char) :
    Prop where
  notWrong : ∀ cause, ¬ IsWrong registry hasTemplate token cause
  foreseen : ∀ fault, ¬ Unforeseen registry token fault

/-! ## Checks that fail -/

section Checks

variable {ε α : Type}

theorem eq_error_of_bind {first : Except ε Unit} {next : Unit → Except ε α} {e : ε}
    (h : (first >>= next) = .error e) :
    first = .error e ∨ first = .ok () ∧ next () = .error e := by
  cases first with
  | error e' =>
    cases h
    exact .inl rfl
  | ok u => exact .inr ⟨rfl, h⟩

variable {registry : Registry} {hasTemplate : String → Bool} {field : Option String}
  {token : List Char} {d : Definition} {fault : Fault}

/-- What a check of an integer fails with. -/
theorem isWrong_or_unforeseen_of_checkInteger (hd : IsDefinedBy registry token d)
    (hinteger : d.integerOption = true)
    (hneeds : d.requiresOptions = true → optionsIn token ≠ [])
    (h : checkInteger (refusal field token) (optionsIn token) = .error fault) :
    (∃ cause, fault = refusal field token cause ∧ IsWrong registry hasTemplate token cause) ∨
      Unforeseen registry token fault := by
  cases hoptions : optionsIn token with
  | nil =>
    rw [hoptions] at h
    cases h
    have hfree : d.requiresOptions = false := by
      rw [← Bool.not_eq_true]
      exact fun hd => hneeds hd hoptions
    exact .inr (.noOption hd (.inl hinteger) hfree hoptions)
  | cons option rest =>
    rw [hoptions, checkInteger] at h
    split at h
    · next hread =>
      cases h
      exact .inl ⟨_, rfl, .invalidOption hd hinteger hoptions hread⟩
    · next count hread =>
      cases h
      exact .inr (.longInteger hd hinteger hoptions hread)
    · cases h

/-- What a check of a pattern fails with. -/
theorem isWrong_or_unforeseen_of_checkPattern (hd : IsDefinedBy registry token d)
    (hname : nameOf token = regexRule)
    (hneeds : d.requiresOptions = true → optionsIn token ≠ [])
    (hinteger : d.integerOption = true → ∃ option rest n, optionsIn token = option :: rest ∧
      LeadingInt.read option.toList = .value n)
    (h : checkPattern (refusal field token) (optionsIn token) = .error fault) :
    (∃ cause, fault = refusal field token cause ∧ IsWrong registry hasTemplate token cause) ∨
      Unforeseen registry token fault := by
  cases hoptions : optionsIn token with
  | nil =>
    rw [hoptions] at h
    cases h
    have hfree : d.requiresOptions = false := by
      rw [← Bool.not_eq_true]
      exact fun hd => hneeds hd hoptions
    exact .inr (.noOption hd (.inr hname) hfree hoptions)
  | cons option rest =>
    rw [hoptions, checkPattern] at h
    split at h
    · cases h
    · next cause position hcompile =>
      cases h
      exact .inl ⟨_, rfl, .invalidPattern hd hname hoptions hcompile⟩
    · next fault hfault hcompile =>
      cases h
      refine .inr (.pattern hd hname hoptions (fun hd => ?_) (fun cause position he => ?_) hcompile)
      · obtain ⟨option', rest', n, hoptions', hread⟩ := hinteger hd
        cases hoptions.symm.trans hoptions'
        exact ⟨n, hread⟩
      · exact hfault cause position he

/-- What is wrong with a rule that is not accepted. -/
theorem isWrong_or_unforeseen_of_parseRule
    (h : parseRule registry hasTemplate field token = .error fault) :
    (∃ cause, fault = refusal field token cause ∧ IsWrong registry hasTemplate token cause) ∨
      Unforeseen registry token fault := by
  cases hname : registry.isTransform (nameOf token) with
  | true =>
    rw [parseRule_of_isTransform hname] at h
    cases h
  | false =>
    cases hget : registry.get? (nameOf token) with
    | none =>
      rw [parseRule_of_get?_eq_none hname hget] at h
      cases h
      refine .inl ⟨_, rfl, .unknownRule ?_⟩
      have hrules : registry.rules.has (nameOf token) = false := Option.isSome_eq_false_iff.2 (by
        rw [Option.isNone_iff_eq_none]
        exact hget)
      rw [Registry.has, hrules]
      exact hname
    | some d =>
      have hd : IsDefinedBy registry token d := ⟨hname, hget⟩
      rw [parseRule_of_get? hname hget] at h
      rcases eq_error_of_bind h with h | ⟨hoptions, h⟩
      · split at h
        · next hmissing =>
          cases h
          obtain ⟨hneeds, hnil⟩ := Bool.and_eq_true_iff.1 hmissing
          exact .inl ⟨_, rfl, .missingOptions hd hneeds (List.isEmpty_iff.1 hnil)⟩
        · cases h
      have hneeds : d.requiresOptions = true → optionsIn token ≠ [] := by
        intro hd hnil
        rw [hd, hnil] at hoptions
        cases hoptions
      rcases eq_error_of_bind h with h | ⟨hinteger, h⟩
      · split at h
        · next hasked => exact isWrong_or_unforeseen_of_checkInteger hd hasked hneeds h
        · cases h
      rcases eq_error_of_bind h with h | ⟨-, h⟩
      · split at h
        · next hregex =>
          refine isWrong_or_unforeseen_of_checkPattern hd hregex hneeds (fun hasked => ?_) h
          rw [if_pos hasked] at hinteger
          exact value_of_checkInteger hinteger
        · cases h
      rcases eq_error_of_bind h with h | ⟨-, h⟩
      · split at h
        · next hnone =>
          cases h
          exact .inl ⟨_, rfl, .missingTemplate hd (by simpa using hnone)⟩
        · cases h
      · cases h

theorem checkPattern_eq_error {fail : SpecCause → Fault} {option : String} {rest : List String}
    {fault : Pattern.Fault} (hfault : ∀ cause position, fault ≠ .malformed cause position)
    (h : Pattern.compile { ignoreCase := true } option.toList = .error fault) :
    checkPattern fail (option :: rest) = .error (.pattern option.toList fault) := by
  rw [checkPattern, h]
  cases fault with
  | malformed cause position => exact absurd rfl (hfault cause position)
  | _ => rfl

/-- Options that are not refused end the reading with a fault of their own. -/
theorem parseRule_of_unforeseen (h : Unforeseen registry token fault) :
    parseRule registry hasTemplate field token = .error fault := by
  cases h with
  | @noOption d hd hread hneeds hnil =>
    rw [parseRule_of_get? hd.notTransform hd.definition, hneeds, hnil]
    cases hasked : d.integerOption with
    | true => rfl
    | false =>
      have hregex : nameOf token = regexRule := hread.resolve_left (by rw [hasked]; decide)
      rw [if_pos hregex]
      rfl
  | longInteger hd hinteger hoptions hread =>
    rw [parseRule_of_get? hd.notTransform hd.definition, hinteger, hoptions]
    simp only [List.isEmpty_cons, Bool.and_false, checkInteger, hread]
    rfl
  | @pattern d option rest fault hd hname hoptions hinteger hfault hcompile =>
    have hpassed : (if d.integerOption = true then
        checkInteger (refusal field token) (option :: rest) else .ok ()) = .ok () := by
      split
      · next hasked =>
        obtain ⟨n, hread⟩ := hinteger hasked
        simp only [checkInteger, hread]
      · rfl
    rw [parseRule_of_get? hd.notTransform hd.definition, hoptions, if_pos hname, hpassed,
      checkPattern_eq_error hfault hcompile, List.isEmpty_cons, Bool.and_false]
    rfl

/-- Nothing is wrong with a rule that is accepted. -/
theorem not_isWrong_of_parseRule {rule : Rule}
    (h : parseRule registry hasTemplate field token = .ok rule) (cause : SpecCause) :
    ¬ IsWrong registry hasTemplate token cause := by
  have hhas := has_of_parseRule h
  obtain ⟨hrule, husable⟩ := eq_of_parseRule h
  subst hrule
  have hdefined : ∀ {d}, IsDefinedBy registry token d →
      Rule.IsUsable ⟨nameOf token, optionsIn token, registry.isTransform (nameOf token)⟩ registry
        hasTemplate d := by
    intro d hd
    obtain ⟨d', hd'⟩ := husable hd.notTransform
    cases hd.definition.symm.trans hd'.definition
    exact hd'
  intro hwrong
  cases hwrong with
  | unknownRule hno =>
    rw [hhas] at hno
    cases hno
  | missingOptions hd hneeds hnil => exact (hdefined hd).options hneeds hnil
  | invalidOption hd hinteger hoptions habsent =>
    obtain ⟨option, rest, n, hoptions', hread⟩ := (hdefined hd).integer hinteger
    cases hoptions.symm.trans hoptions'
    rw [habsent] at hread
    cases hread
  | invalidPattern hd hname hoptions hmalformed =>
    obtain ⟨option, rest, p, hoptions', hcompile⟩ := (hdefined hd).pattern hname
    cases hoptions.symm.trans hoptions'
    rw [hmalformed] at hcompile
    cases hcompile
  | missingTemplate hd hno =>
    have htemplate := (hdefined hd).template
    rw [hno] at htemplate
    cases htemplate

/-- The rules that pass all checks are accepted, and no others. -/
theorem isRight_iff : IsRight registry hasTemplate token ↔
    ∃ rule, parseRule registry hasTemplate field token = .ok rule := by
  constructor
  · intro hright
    cases h : parseRule registry hasTemplate field token with
    | ok rule => exact ⟨rule, rfl⟩
    | error fault =>
      rcases isWrong_or_unforeseen_of_parseRule h with ⟨cause, -, hwrong⟩ | hunforeseen
      · exact absurd hwrong (hright.notWrong cause)
      · exact absurd hunforeseen (hright.foreseen fault)
  · rintro ⟨rule, hrule⟩
    refine ⟨not_isWrong_of_parseRule hrule, fun fault hunforeseen => ?_⟩
    rw [parseRule_of_unforeseen hunforeseen] at hrule
    cases hrule

end Checks

/-! ## The first wrong rule -/

section Texts

variable {ε α β : Type} {f : α → Except ε β}

/-- What is made of a list item by item fails at the first item that fails. -/
theorem exists_first_of_mapM {l : List α} {e : ε} (h : l.mapM f = .error e) :
    ∃ before a after, l = before ++ a :: after ∧ (∀ b ∈ before, ∃ c, f b = .ok c) ∧
      f a = .error e := by
  induction l with
  | nil => cases h
  | cons a rest ih =>
    rw [List.mapM_cons] at h
    cases hf : f a with
    | error e' =>
      rw [hf] at h
      cases h
      exact ⟨[], a, rest, rfl, nofun, hf⟩
    | ok b =>
      cases hrest : rest.mapM f with
      | ok rest' =>
        rw [hf, hrest] at h
        cases h
      | error e' =>
        rw [hf, hrest] at h
        cases h
        obtain ⟨before, a', after, rfl, hbefore, ha'⟩ := ih hrest
        exact ⟨a :: before, a', after, rfl, List.forall_mem_cons.2 ⟨⟨b, hf⟩, hbefore⟩, ha'⟩

theorem mapM_eq_error {before : List α} {a : α} {e : ε} (after : List α)
    (hbefore : ∀ b ∈ before, ∃ c, f b = .ok c) (ha : f a = .error e) :
    (before ++ a :: after).mapM f = .error e := by
  induction before with
  | nil =>
    rw [List.nil_append, List.mapM_cons, ha]
    rfl
  | cons b before ih =>
    obtain ⟨⟨c, hb⟩, hbefore⟩ := List.forall_mem_cons.1 hbefore
    rw [List.cons_append, List.mapM_cons, hb, ih hbefore]
    rfl

end Texts

/-- A rule text is accepted, one rule for every rule as it is written, if all of them are right; or
    the first one that is not tells why. Most often that rule is refused, by its name and for a
    cause that it has. The reading ends in another way just if the rule has options that are not
    foreseen: none to be read although they need not be there, an integer that is too long, or a
    pattern that cannot be used without being malformed. -/
theorem parse_or_first_fault (stem : List Char) (registry : Registry)
    (hasTemplate : String → Bool) (field : Option String) (spec : List Char) :
    ((∃ rules, parseWith stem registry hasTemplate field spec = .ok rules ∧
        List.Forall₂ (fun token rule => IsRight registry hasTemplate token ∧
          rule = ⟨nameOf token, optionsIn token, registry.isTransform (nameOf token)⟩)
          (splitWith stem spec) rules) ∨
      ∃ before token after fault, splitWith stem spec = before ++ token :: after ∧
        (∀ t ∈ before, IsRight registry hasTemplate t) ∧
        parseWith stem registry hasTemplate field spec = .error fault ∧
        ((∃ cause, fault = .spec ⟨cause, nameOf token, field⟩ ∧
            IsWrong registry hasTemplate token cause) ∨
          Unforeseen registry token fault)) ∧
      ∀ before token after fault, splitWith stem spec = before ++ token :: after →
        (∀ t ∈ before, IsRight registry hasTemplate t) → Unforeseen registry token fault →
        parseWith stem registry hasTemplate field spec = .error fault := by
  constructor
  · cases h : parseWith stem registry hasTemplate field spec with
    | ok rules =>
      refine .inl ⟨rules, rfl, (forall₂_of_mapM h).imp fun token rule hrule => ?_⟩
      exact ⟨isRight_iff.2 ⟨rule, hrule⟩, (eq_of_parseRule hrule).1⟩
    | error fault =>
      obtain ⟨before, token, after, hsplit, hbefore, htoken⟩ := exists_first_of_mapM h
      exact .inr ⟨before, token, after, fault, hsplit, fun t ht => isRight_iff.2 (hbefore t ht),
        rfl, isWrong_or_unforeseen_of_parseRule htoken⟩
  · intro before token after fault hsplit hbefore hunforeseen
    rw [parseWith, hsplit]
    exact mapM_eq_error after (fun t ht => isRight_iff.1 (hbefore t ht))
      (parseRule_of_unforeseen hunforeseen)

/-- A pattern with a repeat count beyond what a count can be ends the reading without being
    refused. -/
theorem parse_hugeRepeat :
    parse (.standard Markup.Policy.standard) MessageTable.standard.has none
        "regex[a\x7b4294967295\x7d]".toList =
      .error (.pattern "a\x7b4294967295\x7d".toList .hugeRepeat) := by
  decide +kernel

end FieldRules.Spec
