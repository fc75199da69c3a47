import FieldRules.Message
import FieldRules.Proofs.Rule.Accepted
import FieldRules.Proofs.Rule.Render
import FieldRules.Proofs.Rule.Splitting
import FieldRules.Rule.Builtin

/-!
# What is written back

A rule should be a name, or a name with options in brackets behind it. The brackets are looked for
anywhere in a rule, though, and what stands behind them is taken for the rest of the name. Written
back, the name comes first as a whole; so a rule text that has been accepted is written back as it
was just if nothing stands behind the brackets of its rules.

Results:
* `written_of_isFirst`: how a rule with brackets is written back.
* `text_written_eq_iff`: when a rule is written back as it was.
* `render_of_parse`: what is accepted, and when a rule text is written back as it was.
* `parse_splitName`: a name with its options in the middle is accepted.
-/

namespace FieldRules.Spec

open Text

/-! ## Rules written back -/

/-- A rule as it should have been written. -/
def Rule.request (rule : Rule) : Request := ⟨rule.name, rule.options⟩

/-- What is asked for by a rule as it is written. -/
def written (token : List Char) : Request := ⟨nameOf token, optionsIn token⟩

/-- The options in brackets give back what stands in the brackets, and there is one at least. -/
theorem content_optionsOf (name : String) (content : List Char) :
    optionsOf name (some content) ≠ [] ∧
      (Request.mk name (optionsOf name (some content))).content = content := by
  by_cases hname : name = regexRule
  · rw [optionsOf, if_pos hname]
    exact ⟨List.cons_ne_nil _ _, String.toList_ofList⟩
  · rw [optionsOf, if_neg hname]
    refine ⟨mt List.map_eq_nil_iff.1 (cut_ne_nil ',' content), ?_⟩
    have hpieces : ((cut ',' content).map String.ofList).map String.toList = cut ',' content := by
      rw [List.map_map]
      simp [Function.comp_def, String.toList_ofList]
    rw [Request.content, hpieces, joinWith_cut]

section Tokens

variable {token : List Char} {p : PatternParts}

theorem written_of_findOpening (h : findOpening optionsOpening token = none) :
    (written token).name.toList = token ∧ (written token).options = [] := by
  unfold written optionsIn nameOf
  rw [readRule_eq, h]
  exact ⟨String.toList_ofList, rfl⟩

/-- The name of a rule with brackets is what stands before them and behind them, and its options are
    what stands in them. -/
theorem written_of_isFirst (h : IsFirst optionsOpening token p) :
    (written token).name.toList = p.before ++ p.after ∧ (written token).options ≠ [] ∧
      (written token).content = p.content := by
  have hread : readRule token = (p.before ++ p.after, some p.content) := by
    rw [readRule_eq, findOpening_eq_some_iff.2 h]
  have hname : nameOf token = String.ofList (p.before ++ p.after) := by
    rw [nameOf, hread]
  obtain ⟨hne, hcontent⟩ := content_optionsOf (nameOf token) p.content
  unfold written optionsIn
  rw [hread]
  exact ⟨by rw [hname, String.toList_ofList], hne, hcontent⟩

theorem text_written_of_isFirst (h : IsFirst optionsOpening token p) :
    (written token).text = p.before ++ p.after ++ '[' :: (p.content ++ [']']) := by
  obtain ⟨hname, hne, hcontent⟩ := written_of_isFirst h
  rw [Request.Valid.text_of_options_ne_nil hne, hname, hcontent]

theorem text_written_of_findOpening (h : findOpening optionsOpening token = none) :
    (written token).text = token := by
  obtain ⟨hname, hnil⟩ := written_of_findOpening h
  rw [Request.text, if_pos hnil, hname]

/-- A rule with brackets is written as what stands before them, the brackets, and what stands behind
    them. -/
theorem IsFirst.append_brackets (h : IsFirst optionsOpening token p) :
    token = p.before ++ ('[' :: (p.content ++ [']']) ++ p.after) := by
  rw [← h.text, optionsOpening]
  simp

/-- What stands behind the brackets does not end with a closing bracket of the same line, so it
    cannot change places with them. -/
theorem IsFirst.after_eq_nil (h : IsFirst optionsOpening token p)
    (heq : p.after ++ '[' :: (p.content ++ [']']) = '[' :: (p.content ++ [']']) ++ p.after) :
    p.after = [] := by
  have hline : '\n' ∉ '[' :: (p.content ++ [']']) := by
    rw [List.mem_cons, List.mem_append, not_or, not_or]
    exact ⟨by decide, h.line, by decide⟩
  have hlast := h.last
  rcases List.append_eq_append_iff.1 heq with ⟨rest, hrest, htail⟩ | ⟨rest, hrest, htail⟩
  · -- the text behind is the front of the brackets, and so their end as well
    by_contra hne
    have hafter : '\n' ∉ p.after := fun hmem => hline (hrest ▸ List.mem_append_left _ hmem)
    have hends : p.after.getLast hne = ']' := by
      have hgetLast : ('[' :: (p.content ++ [']'])).getLast (List.cons_ne_nil _ _) = ']' := by simp
      rw [← hgetLast]
      simp only [htail]
      rw [List.getLast_append_of_ne_nil _ hne]
    have hclose : ']' ∈ restOfLine p.after := by
      have hall := restOfLine_append hafter []
      rw [List.append_nil] at hall
      rw [hall, ← hends]
      exact List.mem_append_left _ (List.getLast_mem hne)
    exact absurd hclose hlast
  · -- the brackets are the front of the text behind
    rw [hrest, restOfLine_append hline] at hlast
    exact absurd (List.mem_append_left _ (by simp)) hlast

/-- A rule with brackets is written back as it was just if nothing stands behind them. -/
theorem IsFirst.text_written_eq_iff (h : IsFirst optionsOpening token p) :
    (written token).text = token ↔ p.after = [] := by
  have htoken := h.append_brackets
  have htext := text_written_of_isFirst h
  constructor
  · intro hback
    have heq := htext.symm.trans (hback.trans htoken)
    rw [List.append_assoc] at heq
    exact h.after_eq_nil (List.append_cancel_left heq)
  · intro hafter
    rw [hafter, List.append_nil] at htext htoken
    exact htext.trans htoken.symm

/-- A rule is written back as it was just if nothing stands behind its brackets. -/
theorem text_written_eq_iff :
    (written token).text = token ↔ ∀ p, IsFirst optionsOpening token p → p.after = [] := by
  constructor
  · exact fun h p hp => hp.text_written_eq_iff.1 h
  · intro h
    cases hfound : findOpening optionsOpening token with
    | none => exact text_written_of_findOpening hfound
    | some p =>
      have hp := findOpening_eq_some_iff.1 hfound
      exact hp.text_written_eq_iff.2 (h p hp)

/-- A rule is written back with all that it has, in some order. -/
theorem length_text_written (token : List Char) : (written token).text.length = token.length := by
  cases hfound : findOpening optionsOpening token with
  | none => rw [text_written_of_findOpening hfound]
  | some p =>
    have hp := findOpening_eq_some_iff.1 hfound
    have htoken := congrArg List.length hp.append_brackets
    simp only [List.length_append, List.length_cons, List.length_nil] at htoken
    rw [text_written_of_isFirst hp]
    simp only [List.length_append, List.length_cons, List.length_nil]
    omega

end Tokens

/-! ## Rule texts written back -/

section Texts

variable {registry : Registry} {hasTemplate : String → Bool} {field : Option String}

/-- The texts of rules are those of their tokens just if they are so one by one. -/
theorem joinWith_map_text_written_eq_iff (tokens : List (List Char)) :
    joinWith '|' (tokens.map fun token => (written token).text) = joinWith '|' tokens ↔
      ∀ token ∈ tokens, (written token).text = token := by
  constructor
  · intro h
    have hlengths : List.Forall₂ (fun p q : List Char => p.length = q.length)
        (tokens.map fun token => (written token).text) tokens := by
      rw [List.forall₂_map_left_iff]
      exact List.forall₂_same.2 fun token _ => length_text_written token
    have hall := joinWith_inj_of_forall₂ hlengths h
    rw [← List.map_id tokens, List.map_map] at hall
    exact List.map_inj_left.1 hall
  · intro h
    rw [List.map_congr_left h, List.map_id']

/-- A rule that has been accepted is one of the registry. Either the whole rule is its name, or its
    first brackets have its options in them and its name is what stands before and behind them; such
    a rule is written back as it was just if nothing stands behind. -/
structure IsAccepted (registry : Registry) (token : List Char) (rule : Rule) : Prop where
  has : registry.has rule.name = true
  read : (rule.name.toList = token ∧ rule.options = [] ∧ rule.request.text = token) ∨
    ∃ p, IsFirst optionsOpening token p ∧ rule.name.toList = p.before ++ p.after ∧
      rule.options ≠ [] ∧ rule.request.content = p.content ∧
      (rule.request.text = token ↔ p.after = [])

theorem isAccepted_of_parseRule {token : List Char} {rule : Rule}
    (h : parseRule registry hasTemplate field token = .ok rule) :
    IsAccepted registry token rule := by
  refine ⟨has_of_parseRule h, ?_⟩
  obtain ⟨hrule, -⟩ := eq_of_parseRule h
  subst hrule
  cases hfound : findOpening optionsOpening token with
  | none =>
    obtain ⟨hname, hoptions⟩ := written_of_findOpening hfound
    exact .inl ⟨hname, hoptions, text_written_of_findOpening hfound⟩
  | some p =>
    have hp := findOpening_eq_some_iff.1 hfound
    obtain ⟨hname, hoptions, hcontent⟩ := written_of_isFirst hp
    exact .inr ⟨p, hp, hname, hoptions, hcontent, hp.text_written_eq_iff⟩

/-- What is accepted, and when it is written back as it was, for every mark whose stem is no part of
    the text: the rule text is written back as it was just if nothing stands behind the brackets of
    any of its rules. -/
theorem render_of_parse {stem spec : List Char} (hfresh : IsFresh stem spec) {rules : List Rule}
    (h : parseWith stem registry hasTemplate field spec = .ok rules) :
    List.Forall₂ (IsAccepted registry) (split spec) rules ∧
      (render (rules.map Rule.request) = spec ↔
        ∀ token ∈ split spec, ∀ p, IsFirst optionsOpening token p → p.after = []) := by
  rw [parseWith, splitWith_eq_split hfresh] at h
  have hparsed := forall₂_of_mapM h
  refine ⟨hparsed.imp fun token rule => isAccepted_of_parseRule, ?_⟩
  have hrequests : rules.map Rule.request = (split spec).map written := by
    rw [← List.forall₂_eq_eq_eq, List.forall₂_map_left_iff, List.forall₂_map_right_iff]
    refine hparsed.flip.imp fun rule token hrule => ?_
    rw [(eq_of_parseRule hrule).1]
    rfl
  have hwritten := joinWith_map_text_written_eq_iff (split spec)
  rw [joinWith_split] at hwritten
  rw [render, hrequests, List.map_map]
  exact hwritten.trans (forall₂_congr fun token _ => text_written_eq_iff)

end Texts

/-- What stands behind the brackets of a rule comes before them when it is written back. -/
theorem render_splitName :
    parse (.standard Markup.Policy.standard) MessageTable.standard.has none
        "min[3]Length|required".toList =
          .ok [⟨"minLength", ["3"], false⟩, ⟨"required", [], false⟩] ∧
      render [⟨"minLength", ["3"]⟩, ⟨"required", []⟩] ≠ "min[3]Length|required".toList := by
  have hparse : parse (.standard Markup.Policy.standard) MessageTable.standard.has
      none "min[3]Length|required".toList =
        .ok [⟨"minLength", ["3"], false⟩, ⟨"required", [], false⟩] := by
    decide +kernel
  have hfirst : IsFirst optionsOpening "min[3]Length".toList
      ⟨"min".toList, "3".toList, "Length".toList⟩ :=
    findOpening_eq_some_iff.1 (by decide +kernel)
  have htoken : "min[3]Length".toList ∈ split "min[3]Length|required".toList := by
    decide +kernel
  refine ⟨hparse, fun hback => ?_⟩
  have hafter := (render_of_parse (isFresh_freshStem _) hparse).2.1 hback _ htoken _ hfirst
  exact absurd hafter (by decide)

/-- A name with its options in the middle is accepted, and it is not written back so. -/
theorem parse_splitName :
    parse (.standard Markup.Policy.standard) MessageTable.standard.has none
        "min[3]Length".toList = .ok [⟨"minLength", ["3"], false⟩] ∧
      render [⟨"minLength", ["3"]⟩] ≠ "min[3]Length".toList := by
  decide +kernel

end FieldRules.Spec
