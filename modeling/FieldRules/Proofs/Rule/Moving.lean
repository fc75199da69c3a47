import FieldRules.Proofs.Rule.Accepted
import FieldRules.Proofs.Rule.Splitting

/-!
# Rules that are moved within their text

A rule with brackets can hold the rules behind it together with itself, if its brackets close
behind them. So a rule text whose rules are put in another order may be cut in another way. Rules
that have no brackets do not matter for this, though: they can be moved to any other place, as long
as the rules have no line breaks.

Results:
* `split_append_of_plain`, `split_append_of_notMem`: rules without a pattern before a text, and
  rules without brackets behind it.
* `split_joinWith`, `isCut_of_split`: which rules are the rules of the text that they are joined to.
* `IsMoved.split`: a text in which `sanitize` was moved has the same rules in another order.
* `parse_of_isMoved`: so it is accepted if it was before.
-/

namespace FieldRules.Spec

open Text

/-! ## Texts that are cut in two parts -/

section Parts

variable {s rest piece : List Char}

theorem Opens.close_mem {opening : List Char} (h : Opens opening s) : ']' ∈ s := by
  obtain ⟨content, after, rfl, -⟩ := h
  simp

/-- What has no closing bracket does not help to open one before it. -/
theorem opens_append_iff {opening : List Char} (h : ']' ∉ rest) :
    Opens opening (s ++ rest) ↔ Opens opening s := by
  constructor
  · rintro ⟨content, after, htext, hne, hline⟩
    have hparts : (opening ++ content ++ [']']) ++ after = s ++ rest := by
      rw [← htext]
      simp
    rcases List.append_eq_append_iff.1 hparts with ⟨more, rfl, -⟩ | ⟨more, hclose, rfl⟩
    · exact ⟨content, more, by simp, hne, hline⟩
    · rcases List.eq_nil_or_concat more with rfl | ⟨more, c, rfl⟩
      · exact ⟨content, [], by rw [← List.append_nil s, ← hclose]; simp, hne, hline⟩
      · rw [List.concat_eq_append, ← List.append_assoc] at hclose
        obtain rfl := List.singleton_inj.1 (List.append_inj_right' hclose rfl)
        exact absurd (by simp) h
  · rintro ⟨content, after, rfl, hne, hline⟩
    exact ⟨content, after ++ rest, by simp, hne, hline⟩

theorem close_notMem_restOfLine_append (hs : ']' ∉ restOfLine s) (h : ']' ∉ rest) :
    ']' ∉ restOfLine (s ++ rest) := by
  unfold restOfLine at hs ⊢
  rw [List.takeWhile_append]
  split
  · next hall =>
    rw [(List.takeWhile_prefix _).eq_of_length hall] at hs
    exact List.not_mem_append hs (mt (List.takeWhile_subset _ ·) h)
  · exact hs

/-- The pattern of a text stays its pattern when something without closing brackets follows. -/
theorem findPattern_append_of_notMem (h : ']' ∉ rest) :
    findPattern (s ++ rest) =
      (findPattern s).map fun p => { p with after := p.after ++ rest } := by
  cases hfound : findPattern s with
  | none =>
    refine findPattern_eq_none_iff.2 fun before tail htext hopens => ?_
    rcases List.append_eq_append_iff.1 htext with ⟨more, rfl, rfl⟩ | ⟨more, rfl, rfl⟩
    · exact findPattern_eq_none_iff.1 hfound before more rfl ((opens_append_iff h).1 hopens)
    · exact h (List.mem_append_right more hopens.close_mem)
  | some p =>
    have hp := findPattern_eq_some_iff.1 hfound
    refine findPattern_eq_some_iff.2 ⟨?_, hp.content, hp.line, fun before tail htext hopens => ?_,
      close_notMem_restOfLine_append hp.last h⟩
    · rw [← hp.text]
      simp
    · rcases List.append_eq_append_iff.1 htext with ⟨more, rfl, rfl⟩ | ⟨more, rfl, rfl⟩
      · exact hp.first before more rfl ((opens_append_iff h).1 hopens)
      · have hlength := congrArg List.length hp.text
        simp only [List.length_append] at hlength ⊢
        omega

/-- Behind a text, what has no closing brackets is cut at all its bars. -/
theorem split_append_of_notMem (h : ']' ∉ rest) :
    split (s ++ '|' :: rest) = split s ++ cut '|' rest := by
  have hclose : ']' ∉ '|' :: rest := List.not_mem_cons_of_ne_of_not_mem (by decide) h
  have hfind := findPattern_append_of_notMem (s := s) hclose
  cases hfound : findPattern s with
  | none =>
    rw [hfound] at hfind
    rw [split_eq_cut hfound, split_eq_cut hfind, cut_append_cons]
  | some p =>
    rw [hfound] at hfind
    obtain ⟨init, last, hbefore⟩ := exists_cut_eq_append_singleton '|' p.before
    obtain ⟨first, others, hafter⟩ := List.exists_cons_of_ne_nil (cut_ne_nil '|' p.after)
    have hafter' : cut '|' (p.after ++ '|' :: rest) = first :: (others ++ cut '|' rest) := by
      rw [cut_append_cons, hafter, List.cons_append]
    rw [split, splitWith_of_isFirst (isFresh_freshStem _) (findPattern_eq_some_iff.1 hfind) hbefore
      hafter', split, splitWith_of_isFirst (isFresh_freshStem _) (findPattern_eq_some_iff.1 hfound)
      hbefore hafter]
    exact (List.append_assoc init (_ :: others) _).symm

/-- A rule without a pattern can stand before any text. -/
theorem split_append_of_plain (hbar : '|' ∉ piece) (h : ¬ patternOpening <:+: piece) :
    split (piece ++ '|' :: rest) = piece :: split rest := by
  have hfind := findPattern_append hbar h rest
  cases hfound : findPattern rest with
  | none =>
    rw [hfound] at hfind
    rw [split_eq_cut hfound, split_eq_cut hfind, cut_append hbar]
  | some p =>
    rw [hfound] at hfind
    obtain ⟨init, last, hbefore⟩ := exists_cut_eq_append_singleton '|' p.before
    obtain ⟨first, others, hafter⟩ := List.exists_cons_of_ne_nil (cut_ne_nil '|' p.after)
    have hbefore' : cut '|' (piece ++ '|' :: p.before) = piece :: init ++ [last] := by
      rw [cut_append hbar, hbefore, List.cons_append]
    rw [split, splitWith_of_isFirst (isFresh_freshStem _) (findPattern_eq_some_iff.1 hfind) hbefore'
      hafter, split, splitWith_of_isFirst (isFresh_freshStem _) (findPattern_eq_some_iff.1 hfound)
      hbefore hafter, List.cons_append]
    rfl

end Parts

/-! ## Rules of the text that they are joined to -/

/-- Rules that are the rules of the text that they are joined to: the word of a pattern comes in
    one of them first, this one is the only rule of its own text, and there are neither bars nor
    closing brackets behind it. -/
inductive IsCut : List (List Char) → Prop
  | nil : IsCut []
  | plain {token : List Char} {rest : List (List Char)} (hbar : '|' ∉ token)
    (hopening : ¬ patternOpening <:+: token) (hrest : IsCut rest) : IsCut (token :: rest)
  | pattern {token : List Char} {rest : List (List Char)} (hopening : patternOpening <:+: token)
    (hsplit : split token = [token]) (hrest : ∀ r ∈ rest, '|' ∉ r ∧ ']' ∉ r) :
    IsCut (token :: rest)

section Cut

variable {token : List Char} {tokens rest : List (List Char)}

theorem split_of_plain (hbar : '|' ∉ token) (hopening : ¬ patternOpening <:+: token) :
    split token = [token] := by
  rw [split_eq_cut (findPattern_eq_none hopening), cut_of_notMem hbar]

/-- Such rules are the rules of the text that they are joined to. -/
theorem split_joinWith (h : IsCut tokens) (hne : tokens ≠ []) :
    split (joinWith '|' tokens) = tokens := by
  induction h with
  | nil => exact absurd rfl hne
  | @plain token rest hbar hopening hrest ih =>
    cases rest with
    | nil => exact split_of_plain hbar hopening
    | cons next rest =>
      rw [joinWith_cons_cons, split_append_of_plain hbar hopening, ih (List.cons_ne_nil _ _)]
  | @pattern token rest hopening hsplit hrest =>
    cases rest with
    | nil => exact hsplit
    | cons next rest =>
      have hclose : ']' ∉ joinWith '|' (next :: rest) :=
        notMem_joinWith (by decide) fun r hr => (hrest r hr).2
      rw [joinWith_cons_cons, split_append_of_notMem hclose, hsplit,
        cut_joinWith (List.cons_ne_nil _ _) fun r hr => (hrest r hr).1, List.singleton_append]

/-- The word of a pattern opens a bracket if there is a closing bracket in the text behind its
    rule, and no line break. -/
theorem opens_of_close_mem {tail text : List Char} (htail : '\n' ∉ tail) (htext : '\n' ∉ text)
    (hclose : ']' ∈ text) :
    Opens patternOpening (patternOpening ++ (tail ++ '|' :: text)) := by
  obtain ⟨inside, after, rfl⟩ := List.append_of_mem hclose
  refine ⟨tail ++ '|' :: inside, after, by simp, by simp, ?_⟩
  have hinside : '\n' ∉ inside := fun hmem => htext (List.mem_append_left _ hmem)
  exact List.not_mem_append htail (List.not_mem_cons_of_ne_of_not_mem (by decide) hinside)

theorem le_length_of_cut {s last : List Char} {init : List (List Char)}
    (h : cut '|' s = token :: init ++ [last]) : token.length ≤ s.length := by
  have hmem : token ∈ cut '|' s := by rw [h]; simp
  exact (infix_of_mem_cut hmem).length_le

/-- When there is a pattern word in the first rule, nothing behind this rule has bars or closing
    brackets. -/
theorem notMem_of_split (hline : ∀ t ∈ token :: rest, '\n' ∉ t)
    (hspecial : '|' ∈ token ∨ patternOpening <:+: token) (hne : rest ≠ [])
    (h : split (joinWith '|' (token :: rest)) = token :: rest) :
    ∀ r ∈ rest, '|' ∉ r ∧ ']' ∉ r := by
  obtain ⟨htoken, hrest⟩ := List.forall_mem_cons.1 hline
  have htext : joinWith '|' (token :: rest) = token ++ '|' :: joinWith '|' rest := by
    obtain ⟨next, others, rfl⟩ := List.exists_cons_of_ne_nil hne
    rw [joinWith_cons_cons]
  have hnewline : '\n' ∉ joinWith '|' rest := notMem_joinWith (by decide) hrest
  -- a closing bracket behind the rule would let a word in it open a bracket
  have hopens (hword : patternOpening <:+: token) (hclose : ']' ∈ joinWith '|' rest) :
      ∃ start tail, start ++ tail = joinWith '|' (token :: rest) ∧
        start.length < token.length ∧ Opens patternOpening tail := by
    obtain ⟨start, tail, rfl⟩ := hword
    refine ⟨start, patternOpening ++ (tail ++ '|' :: joinWith '|' rest), ?_, ?_,
      opens_of_close_mem (fun hmem => htoken (List.mem_append_right _ hmem)) hnewline hclose⟩
    · rw [htext]
      simp
    · have hlength : patternOpening.length = 6 := rfl
      simp only [List.length_append, hlength]
      omega
  have hinside {r : List Char} (hr : r ∈ rest) (hclose : ']' ∈ r) : ']' ∈ joinWith '|' rest :=
    (infix_joinWith hr).subset hclose
  cases hfound : findPattern (joinWith '|' (token :: rest)) with
  | none =>
    rw [split_eq_cut hfound] at h
    have hbars : ∀ t ∈ token :: rest, '|' ∉ t := fun t ht => notMem_of_mem_cut (h ▸ ht)
    obtain ⟨hbar, hbars⟩ := List.forall_mem_cons.1 hbars
    refine fun r hr => ⟨hbars r hr, fun hclose => ?_⟩
    obtain ⟨start, tail, hparts, -, hopen⟩ :=
      hopens (hspecial.resolve_left hbar) (hinside hr hclose)
    exact findPattern_eq_none_iff.1 hfound start tail hparts hopen
  | some p =>
    have hp := findPattern_eq_some_iff.1 hfound
    obtain ⟨init, last, hbefore⟩ := exists_cut_eq_append_singleton '|' p.before
    obtain ⟨first, others, hafter⟩ := List.exists_cons_of_ne_nil (cut_ne_nil '|' p.after)
    rw [split, splitWith_of_isFirst (isFresh_freshStem _) hp hbefore hafter] at h
    have hnewline' : '\n' ∉ joinWith '|' (token :: rest) := notMem_joinWith (by decide) hline
    have hparts : p.before ++ p.segment ++ p.after = joinWith '|' (token :: rest) :=
      hp.append_segment
    have hline' : '\n' ∉ p.after := fun hmem => hnewline' (hparts ▸ List.mem_append_right _ hmem)
    have hclosed : ']' ∉ p.after := by
      have hlast := hp.last
      rwa [← List.append_nil p.after, restOfLine_append hline', show restOfLine [] = [] from rfl,
        List.append_nil] at hlast
    cases init with
    | nil =>
      obtain ⟨-, rfl⟩ := List.cons.inj h
      intro r hr
      have hmem : r ∈ cut '|' p.after := by
        rw [hafter]
        exact List.mem_cons_of_mem _ hr
      exact ⟨notMem_of_mem_cut hmem, fun hclose => hclosed ((infix_of_mem_cut hmem).subset hclose)⟩
    | cons t init =>
      -- the pattern would have begun in the first rule already
      obtain ⟨rfl, hrules⟩ := List.cons.inj h
      have hbar : '|' ∉ t := notMem_of_mem_cut (s := p.before) (by rw [hbefore]; simp)
      have hclose : ']' ∈ joinWith '|' rest := by
        refine hinside (r := last ++ p.segment ++ first) (by rw [← hrules]; simp) ?_
        simp [PatternParts.segment]
      obtain ⟨start, tail, hstart, hshort, hopen⟩ := hopens (hspecial.resolve_left hbar) hclose
      have hfirst := hp.first start tail hstart hopen
      have hlong := le_length_of_cut hbefore
      omega

/-- Rules without line breaks that are the rules of the text that they are joined to. -/
theorem isCut_of_split (hline : ∀ t ∈ tokens, '\n' ∉ t)
    (h : split (joinWith '|' tokens) = tokens) : IsCut tokens := by
  induction tokens with
  | nil => exact .nil
  | cons token rest ih =>
    by_cases hplain : '|' ∉ token ∧ ¬ patternOpening <:+: token
    · refine .plain hplain.1 hplain.2 ?_
      cases rest with
      | nil => exact .nil
      | cons next rest =>
        rw [joinWith_cons_cons, split_append_of_plain hplain.1 hplain.2] at h
        exact ih (fun t ht => hline t (List.mem_cons_of_mem _ ht)) (List.cons.inj h).2
    · have hspecial : '|' ∈ token ∨ patternOpening <:+: token := by
        rwa [not_and_or, not_not, not_not] at hplain
      have hsingle : split token = [token] ∧ ∀ r ∈ rest, '|' ∉ r ∧ ']' ∉ r := by
        cases rest with
        | nil => exact ⟨h, by simp⟩
        | cons next rest =>
          have hrest := notMem_of_split hline hspecial (List.cons_ne_nil _ _) h
          have hclose : ']' ∉ joinWith '|' (next :: rest) :=
            notMem_joinWith (by decide) fun r hr => (hrest r hr).2
          rw [joinWith_cons_cons, split_append_of_notMem hclose,
            cut_joinWith (List.cons_ne_nil _ _) fun r hr => (hrest r hr).1,
            ← List.singleton_append] at h
          exact ⟨List.append_cancel_right h, hrest⟩
      refine .pattern ?_ hsingle.1 hsingle.2
      -- without a pattern, a rule with a bar would have been cut
      by_contra hword
      have hcut := hsingle.1
      rw [split_eq_cut (findPattern_eq_none hword)] at hcut
      exact hspecial.elim (notMem_of_mem_cut (hcut ▸ List.mem_singleton_self token)) hword

end Cut

/-! ## Moving `sanitize` -/

/-- The rule that may be moved. -/
def sanitizeToken : List Char := "sanitize".toList

/-- A rule text in which `sanitize` was moved: its rules are those of the other text in some order,
    and the ones that are not `sanitize` have kept their order. -/
def IsMoved (text text' : String) : Prop :=
  ∃ tokens, text'.toList = joinWith '|' tokens ∧ tokens.Perm (split text.toList) ∧
    tokens.filter (· ≠ sanitizeToken) = (split text.toList).filter (· ≠ sanitizeToken)

section Moved

variable {tokens : List (List Char)} {text text' : String}

theorem sanitizeToken_plain :
    '|' ∉ sanitizeToken ∧ ']' ∉ sanitizeToken ∧ ¬ patternOpening <:+: sanitizeToken := by
  refine ⟨by decide, by decide, fun hword => ?_⟩
  have hopen : '[' ∈ patternOpening := by decide
  exact absurd (hword.subset hopen) (by decide)

/-- Whether rules are cut again as they were does not depend on `sanitize` among them. -/
theorem isCut_filter_iff : IsCut (tokens.filter (· ≠ sanitizeToken)) ↔ IsCut tokens := by
  constructor
  · intro h
    induction tokens with
    | nil => exact .nil
    | cons token tokens ih =>
      by_cases htoken : token = sanitizeToken
      · subst htoken
        rw [List.filter_cons_of_neg (by simp)] at h
        exact .plain sanitizeToken_plain.1 sanitizeToken_plain.2.2 (ih h)
      · rw [List.filter_cons_of_pos (by simpa using htoken)] at h
        cases h with
        | plain hbar hopening hrest => exact .plain hbar hopening (ih hrest)
        | pattern hopening hsplit hrest =>
          refine .pattern hopening hsplit fun r hr => ?_
          by_cases heq : r = sanitizeToken
          · exact heq ▸ ⟨sanitizeToken_plain.1, sanitizeToken_plain.2.1⟩
          · exact hrest r (List.mem_filter.2 ⟨hr, by simpa using heq⟩)
  · intro h
    induction h with
    | nil => exact .nil
    | @plain token rest hbar hopening hrest ih =>
      by_cases htoken : token = sanitizeToken
      · rwa [List.filter_cons_of_neg (by simpa using htoken)]
      · rw [List.filter_cons_of_pos (by simpa using htoken)]
        exact .plain hbar hopening ih
    | @pattern token rest hopening hsplit hrest =>
      have htoken : token ≠ sanitizeToken := by
        rintro rfl
        exact sanitizeToken_plain.2.2 hopening
      rw [List.filter_cons_of_pos (by simpa using htoken)]
      exact .pattern hopening hsplit fun r hr => hrest r (List.mem_of_mem_filter hr)

/-- A text in which `sanitize` was moved has the rules that it was made of. -/
theorem IsMoved.split (h : IsMoved text text') (hline : ∀ t ∈ split text.toList, '\n' ∉ t) :
    (Spec.split text'.toList).Perm (Spec.split text.toList) ∧
      (Spec.split text'.toList).filter (· ≠ sanitizeToken) =
        (Spec.split text.toList).filter (· ≠ sanitizeToken) := by
  obtain ⟨tokens, htext, hperm, hfilter⟩ := h
  have hcut : IsCut (Spec.split text.toList) := isCut_of_split hline (by rw [joinWith_split])
  rw [← isCut_filter_iff, ← hfilter, isCut_filter_iff] at hcut
  have hne : tokens ≠ [] := by
    rintro rfl
    rw [List.nil_perm] at hperm
    have hjoin := joinWith_split text.toList
    rw [hperm] at hjoin
    rw [← hjoin] at hperm
    exact absurd hperm (by decide)
  rw [htext, split_joinWith hcut hne]
  exact ⟨hperm, hfilter⟩

end Moved

/-! ## Reading what was moved -/

/-- A rule as it is written, read without any checks. -/
def ruleOf (registry : Registry) (token : List Char) : Rule :=
  ⟨nameOf token, optionsIn token, registry.isTransform (nameOf token)⟩

section Read

variable {registry : Registry} {hasTemplate : String → Bool} {field : Option String}
  {token s : List Char} {rules : List Rule}

/-- A rule whose name has no line break has none at all. -/
theorem newline_notMem_of_nameOf (h : '\n' ∉ (nameOf token).toList) : '\n' ∉ token := by
  rw [nameOf, readRule_eq, String.toList_ofList] at h
  cases hfound : findOpening optionsOpening token with
  | none =>
    rw [hfound] at h
    exact h
  | some p =>
    rw [hfound] at h
    have hp := findOpening_eq_some_iff.1 hfound
    have hopening : '\n' ∉ optionsOpening := by decide
    have hclose : ']' ≠ '\n' := by decide
    simp only [List.mem_append, not_or] at h
    rw [← hp.text]
    simp [h.1, h.2, hopening, hp.line, hclose.symm]

/-- A rule text is accepted if each of its rules is, as it is written. -/
theorem parse_eq_ok_iff :
    parse registry hasTemplate field s = .ok rules ↔
      rules = (split s).map (ruleOf registry) ∧
        ∀ token ∈ split s,
          parseRule registry hasTemplate field token = .ok (ruleOf registry token) := by
  change (split s).mapM _ = _ ↔ _
  constructor
  · intro h
    have hread := (forall₂_of_mapM h).imp fun token rule hrule =>
      (⟨(eq_of_parseRule hrule).1, hrule⟩ : rule = ruleOf registry token ∧ _)
    clear h
    generalize split s = tokens at hread
    induction hread with
    | nil => exact ⟨rfl, by simp⟩
    | cons hrule _ ih =>
      obtain ⟨rfl, hrule⟩ := hrule
      exact ⟨by rw [ih.1, List.map_cons], List.forall_mem_cons.2 ⟨hrule, ih.2⟩⟩
  · rintro ⟨rfl, h⟩
    generalize split s = tokens at h
    induction tokens with
    | nil => rfl
    | cons token tokens ih =>
      obtain ⟨hfirst, hrest⟩ := List.forall_mem_cons.1 h
      rw [List.mapM_cons, hfirst, ih hrest]
      rfl

/-- A rule text in which `sanitize` was moved is accepted if it was before, and it has the same
    rules besides its transforms, in the same order. -/
theorem parse_of_isMoved {text text' : String} (hmoved : IsMoved text text')
    (hline : ∀ t ∈ split text.toList, '\n' ∉ t)
    (hsanitize : registry.isTransform (nameOf sanitizeToken) = true)
    (h : parse registry hasTemplate field text.toList = .ok rules) :
    ∃ rules', parse registry hasTemplate field text'.toList = .ok rules' ∧
      rules'.filter (!·.isTransform) = rules.filter (!·.isTransform) := by
  obtain ⟨hperm, hfilter⟩ := hmoved.split hline
  obtain ⟨rfl, hread⟩ := parse_eq_ok_iff.1 h
  refine ⟨_, parse_eq_ok_iff.2 ⟨rfl, fun token ht => hread token (hperm.mem_iff.1 ht)⟩, ?_⟩
  -- what is no transform is not `sanitize`, so that it has kept its place
  have hkept (tokens : List (List Char)) :
      (tokens.map (ruleOf registry)).filter (!·.isTransform) =
        ((tokens.filter (· ≠ sanitizeToken)).filter
          fun t => !(ruleOf registry t).isTransform).map (ruleOf registry) := by
    rw [List.filter_map, List.filter_filter]
    congr 1
    apply List.filter_congr
    intro token _
    by_cases htoken : token = sanitizeToken
    · subst htoken
      simp [ruleOf, hsanitize]
    · simp [htoken]
  rw [hkept, hkept, hfilter]

end Read

end FieldRules.Spec
