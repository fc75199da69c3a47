import FieldRules.Proofs.Rule.Cutting

/-!
# Rendered rules are read back

Rules are written as their names, with the options in brackets behind them, and bars between the
rules. Reading such a text gives the rules back, with their options and in their order, as long as
the names and the options keep clear of the delimiters; only a pattern may have them.

Results:
* `split_render`: the text is cut into the texts of its rules.
* `parseRule_text`: the text of a rule is read back.
* `parse_render`: the text of a list of rules is read back.
-/

namespace FieldRules.Spec

open Text

/-! ## Writing rules -/

/-- A rule that is asked for. -/
structure Request where
  name : String
  options : List String

namespace Request

/-- What stands in the brackets of a rule. -/
def content (r : Request) : List Char := joinWith ',' (r.options.map String.toList)

/-- A rule as it is written: its name, and its options in brackets if it has any. -/
def text (r : Request) : List Char :=
  if r.options = [] then r.name.toList else r.name.toList ++ '[' :: (r.content ++ [']'])

/-- A rule as it should be read. -/
def rule (registry : Registry) (r : Request) : Rule :=
  ⟨r.name, r.options, registry.isTransform r.name⟩

end Request

/-- A rule text: the rules with bars between them. -/
def render (requests : List Request) : List Char := joinWith '|' (requests.map Request.text)

/-! ## Requests that can be written -/

/-- The characters that a name cannot have. -/
def isDelimiter (c : Char) : Bool := c = '|' || c = '[' || c = ']' || c = '\n'

/-- The characters that an option cannot have, unless it is a pattern. -/
def isOptionDelimiter (c : Char) : Bool := isDelimiter c || c = ','

/-- A rule that can be written and used: its name and its options have no delimiters, unless it is a
    pattern, and its options are those that its definition asks for. -/
structure Request.Valid (registry : Registry) (hasTemplate : String → Bool) (r : Request) :
    Prop where
  registered : registry.has r.name = true
  name : r.name.toList.any isDelimiter = false
  ending : regexRule.toList <:+ r.name.toList → r.name = regexRule
  options : r.name ≠ regexRule →
    ∀ option ∈ r.options, option.toList.any isOptionDelimiter = false
  joined : r.name ≠ regexRule → r.options ≠ [] → r.content ≠ []
  pattern : r.name = regexRule → ∃ pattern, r.options = [pattern] ∧ pattern ≠ "" ∧
    '\n' ∉ pattern.toList ∧ ∃ p, Pattern.compile { ignoreCase := true } pattern.toList = .ok p
  template : registry.isTransform r.name = false → hasTemplate r.name = true
  required : ∀ d, registry.isTransform r.name = false → registry.get? r.name = some d →
    d.requiresOptions = true → r.options ≠ []
  integer : ∀ d, registry.isTransform r.name = false → registry.get? r.name = some d →
    d.integerOption = true → ∃ option rest n, r.options = option :: rest ∧
      LeadingInt.read option.toList = .value n

namespace Request.Valid

variable {registry : Registry} {hasTemplate : String → Bool} {r : Request}

theorem notMem_name (h : r.Valid registry hasTemplate) {c : Char} (hc : isDelimiter c = true) :
    c ∉ r.name.toList :=
  fun hmem => List.any_eq_false.1 h.name c hmem hc

theorem notMem_option (h : r.Valid registry hasTemplate) (hr : r.name ≠ regexRule)
    {option : String} (hoption : option ∈ r.options) {c : Char} (hc : isOptionDelimiter c = true) :
    c ∉ option.toList :=
  fun hmem => List.any_eq_false.1 (h.options hr option hoption) c hmem hc

theorem notMem_content (h : r.Valid registry hasTemplate) (hr : r.name ≠ regexRule) {c : Char}
    (hc : isDelimiter c = true) : c ∉ r.content := by
  refine notMem_joinWith (fun hcomma => ?_) fun piece hpiece hmem => ?_
  · subst hcomma
    exact absurd hc (by decide)
  · obtain ⟨option, hoption, rfl⟩ := List.mem_map.1 hpiece
    exact h.notMem_option hr hoption (by rw [isOptionDelimiter, hc, Bool.true_or]) hmem

/-- What stands in brackets is not empty and stays on its line. -/
theorem content_clear (h : r.Valid registry hasTemplate) (hr : r.options ≠ []) :
    r.content ≠ [] ∧ '\n' ∉ r.content := by
  by_cases hname : r.name = regexRule
  · obtain ⟨pattern, hoptions, hne, hline, -⟩ := h.pattern hname
    have hcontent : r.content = pattern.toList := by
      rw [Request.content, hoptions]
      rfl
    rw [hcontent]
    exact ⟨fun hnil => hne (String.toList_eq_nil_iff.1 hnil), hline⟩
  · exact ⟨h.joined hname hr, h.notMem_content hname (by decide)⟩

theorem text_of_options_ne_nil (hr : r.options ≠ []) :
    r.text = r.name.toList ++ '[' :: (r.content ++ [']']) := by
  rw [Request.text, if_neg hr]

theorem bar_notMem_text (h : r.Valid registry hasTemplate) (hr : r.name ≠ regexRule) :
    '|' ∉ r.text := by
  unfold Request.text
  split
  · exact h.notMem_name (by decide)
  · simp [h.notMem_name (c := '|') (by decide), h.notMem_content hr (c := '|') (by decide)]

/-- A rule that is no pattern does not look like one. -/
theorem opening_not_infix_text (h : r.Valid registry hasTemplate) (hr : r.name ≠ regexRule) :
    ¬ patternOpening <:+: r.text := by
  rintro ⟨before, after, htext⟩
  have hopening : before ++ patternOpening ++ after =
      (before ++ regexRule.toList) ++ '[' :: after := by
    rw [List.append_assoc, List.append_assoc]
    rfl
  rw [hopening] at htext
  by_cases hoptions : r.options = []
  · rw [Request.text, if_pos hoptions] at htext
    exact h.notMem_name (c := '[') (by decide) (htext ▸ by simp)
  · rw [text_of_options_ne_nil hoptions] at htext
    have hafter : '[' ∉ r.content ++ [']'] := by
      simp [h.notMem_content hr (c := '[') (by decide)]
    obtain ⟨hname, -⟩ := (List.append_cons_inj_of_notMem (h.notMem_name (by decide)) hafter).1
      htext.symm
    exact hr (h.ending ⟨before, hname.symm⟩)

theorem text_of_pattern (hr : r.name = regexRule) {pattern : String}
    (hoptions : r.options = [pattern]) :
    r.text = patternOpening ++ pattern.toList ++ [']'] := by
  rw [text_of_options_ne_nil (by simp [hoptions]), Request.content, hoptions, hr]
  rfl

end Request.Valid

/-! ## Reading one rule -/

theorem readRule_of_notMem {name : List Char} (h : '[' ∉ name) : readRule name = (name, none) := by
  induction name with
  | nil => rfl
  | cons c name ih =>
    obtain ⟨hc, hname⟩ := not_or.1 (mt List.mem_cons.2 h)
    simp only [readRule, if_neg (Ne.symm hc), ih hname]

/-- The first bracket of a rule opens its options, and the last one closes them. -/
theorem readRule_append {name content : List Char} (hname : '[' ∉ name) (hne : content ≠ [])
    (hline : '\n' ∉ content) :
    readRule (name ++ '[' :: (content ++ [']'])) = (name, some content) := by
  induction name with
  | nil =>
    rw [List.nil_append, readRule, if_pos rfl,
      findClose_eq_some_iff.2 ⟨rfl, hne, hline, List.not_mem_nil⟩]
  | cons c name ih =>
    obtain ⟨hc, hname⟩ := not_or.1 (mt List.mem_cons.2 hname)
    rw [List.cons_append]
    simp only [readRule, if_neg (Ne.symm hc), ih hname]

namespace Request.Valid

variable {registry : Registry} {hasTemplate : String → Bool} {r : Request}

/-- What stands in the brackets is taken apart into the options. -/
theorem optionsOf_content (h : r.Valid registry hasTemplate) (hr : r.options ≠ []) :
    optionsOf r.name (some r.content) = r.options := by
  by_cases hname : r.name = regexRule
  · obtain ⟨pattern, hoptions, -⟩ := h.pattern hname
    rw [optionsOf, if_pos hname, Request.content, hoptions]
    show [String.ofList pattern.toList] = [pattern]
    rw [String.ofList_toList]
  · have hcommas : ∀ piece ∈ r.options.map String.toList, ',' ∉ piece := by
      intro piece hpiece hmem
      obtain ⟨option, hoption, rfl⟩ := List.mem_map.1 hpiece
      exact h.notMem_option hname hoption (by decide) hmem
    have hne : r.options.map String.toList ≠ [] := mt List.map_eq_nil_iff.1 hr
    rw [optionsOf, if_neg hname, Request.content, cut_joinWith hne hcommas, List.map_map]
    simp [Function.comp_def, String.ofList_toList]

theorem read_text (h : r.Valid registry hasTemplate) :
    String.ofList (readRule r.text).1 = r.name ∧
      optionsOf r.name (readRule r.text).2 = r.options := by
  by_cases hr : r.options = []
  · rw [Request.text, if_pos hr, readRule_of_notMem (h.notMem_name (by decide)), hr]
    exact ⟨String.ofList_toList, rfl⟩
  · obtain ⟨hne, hline⟩ := h.content_clear hr
    rw [text_of_options_ne_nil hr, readRule_append (h.notMem_name (by decide)) hne hline]
    exact ⟨String.ofList_toList, h.optionsOf_content hr⟩

theorem checkInteger_options (h : r.Valid registry hasTemplate) {d : Definition}
    (htransform : registry.isTransform r.name = false) (hd : registry.get? r.name = some d)
    (hinteger : d.integerOption = true) (fail : SpecCause → Fault) :
    checkInteger fail r.options = .ok () := by
  obtain ⟨option, rest, n, hoptions, hread⟩ := h.integer d htransform hd hinteger
  rw [hoptions]
  simp only [checkInteger, hread]

theorem checkPattern_options (h : r.Valid registry hasTemplate) (hname : r.name = regexRule)
    (fail : SpecCause → Fault) : checkPattern fail r.options = .ok () := by
  obtain ⟨pattern, hoptions, -, -, p, hp⟩ := h.pattern hname
  rw [hoptions]
  simp only [checkPattern, hp]

/-- The text of a rule is read back. -/
theorem parseRule_text (h : r.Valid registry hasTemplate) (field : Option String) :
    parseRule registry hasTemplate field r.text = .ok (r.rule registry) := by
  obtain ⟨hname, hoptions⟩ := h.read_text
  unfold parseRule
  simp only [hname, hoptions]
  cases htransform : registry.isTransform r.name with
  | true => simp [Request.rule, htransform]; rfl
  | false =>
    obtain ⟨d, hd⟩ : ∃ d, registry.get? r.name = some d := by
      have hhas := h.registered
      rw [Registry.has, show registry.transforms.has r.name = false from htransform,
        Bool.or_false] at hhas
      exact Option.isSome_iff_exists.1 hhas
    have hrequired : (d.requiresOptions && r.options.isEmpty) = false := by
      cases hd' : d.requiresOptions with
      | false => rfl
      | true => simpa using h.required d htransform hd hd'
    simp only [hd, hrequired, h.template htransform, Request.rule, htransform]
    cases hinteger : d.integerOption <;> by_cases hname : r.name = regexRule
    · rw [if_pos hname, h.checkPattern_options hname]
      rfl
    · rw [if_neg hname]
      rfl
    · rw [if_pos hname, h.checkPattern_options hname, h.checkInteger_options htransform hd hinteger]
      rfl
    · rw [if_neg hname, h.checkInteger_options htransform hd hinteger]
      rfl

end Request.Valid

/-! ## Reading a rule text -/

section Texts

variable {registry : Registry} {hasTemplate : String → Bool} {requests : List Request}

/-- The first pattern of a list of rules, the rules before it and those after it. -/
theorem exists_pattern (hvalid : ∀ r ∈ requests, r.Valid registry hasTemplate)
    (hlast : requests.Pairwise fun r r' => r.name = regexRule → r'.options = [])
    (hpattern : ∃ r ∈ requests, r.name = regexRule) :
    ∃ before r after, requests = before ++ r :: after ∧ r.name = regexRule ∧
      (∀ q ∈ before, q.name ≠ regexRule) ∧ ∀ q ∈ after, q.name ≠ regexRule ∧ q.options = [] := by
  obtain ⟨r, hr, hname⟩ := hpattern
  obtain ⟨before, after, rfl⟩ := List.append_of_mem hr
  have hoptions : ∀ q ∈ before ++ r :: after, q.name = regexRule → q.options ≠ [] := by
    intro q hq hregex
    obtain ⟨pattern, hpattern, -⟩ := (hvalid q hq).pattern hregex
    simp [hpattern]
  obtain ⟨-, htail, hcross⟩ := List.pairwise_append.1 hlast
  refine ⟨before, r, after, rfl, hname, fun q hq hregex => ?_, fun q hq => ?_⟩
  · exact hoptions r hr hname (hcross q hq r List.mem_cons_self hregex)
  · have hnone : q.options = [] := (List.pairwise_cons.1 htail).1 q hq hname
    refine ⟨fun hregex => ?_, hnone⟩
    exact hoptions q (List.mem_append_right _ (List.mem_cons_of_mem _ hq)) hregex hnone

/-- A text of rules is cut into the texts of its rules. -/
theorem split_render {stem : List Char} (hne : requests ≠ [])
    (hvalid : ∀ r ∈ requests, r.Valid registry hasTemplate)
    (hlast : requests.Pairwise fun r r' => r.name = regexRule → r'.options = [])
    (hstem : '|' ∉ stem) (hmark : ¬ mark stem <:+: render requests) :
    splitWith stem (render requests) = requests.map Request.text := by
  have hplain : ∀ r ∈ requests, r.name ≠ regexRule →
      '|' ∉ r.text ∧ ¬ patternOpening <:+: r.text :=
    fun r hr hname =>
      ⟨(hvalid r hr).bar_notMem_text hname, (hvalid r hr).opening_not_infix_text hname⟩
  by_cases hpattern : ∃ r ∈ requests, r.name = regexRule
  · obtain ⟨before, r, after, rfl, hname, hbefore, hafter⟩ :=
      exists_pattern hvalid hlast hpattern
    obtain ⟨pattern, hoptions, hpne, hline, -⟩ :=
      (hvalid r (List.mem_append_right _ List.mem_cons_self)).pattern hname
    have hin : ∀ q ∈ after, q ∈ before ++ r :: after :=
      fun q hq => List.mem_append_right _ (List.mem_cons_of_mem _ hq)
    unfold render at hmark ⊢
    rw [List.map_append, List.map_cons, Request.Valid.text_of_pattern hname hoptions] at hmark ⊢
    refine splitWith_joinWith_of_pattern ?_ ?_ hline ?_ hstem hmark
    · intro p hp
      obtain ⟨q, hq, rfl⟩ := List.mem_map.1 hp
      exact hplain q (List.mem_append_left _ hq) (hbefore q hq)
    · exact fun hnil => hpne (String.toList_eq_nil_iff.1 hnil)
    · intro p hp
      obtain ⟨q, hq, rfl⟩ := List.mem_map.1 hp
      refine ⟨(hplain q (hin q hq) (hafter q hq).1).1, ?_⟩
      rw [Request.text, if_pos (hafter q hq).2]
      exact (hvalid q (hin q hq)).notMem_name (by decide)
  · refine splitWith_joinWith stem (mt List.map_eq_nil_iff.1 hne) fun p hp => ?_
    obtain ⟨r, hr, rfl⟩ := List.mem_map.1 hp
    exact hplain r hr fun hname => hpattern ⟨r, hr, hname⟩

theorem mapM_parseRule_text (field : Option String)
    (hvalid : ∀ r ∈ requests, r.Valid registry hasTemplate) :
    (requests.map Request.text).mapM (parseRule registry hasTemplate field) =
      .ok (requests.map (Request.rule registry)) := by
  induction requests with
  | nil => rfl
  | cons r requests ih =>
    obtain ⟨hr, hrequests⟩ := List.forall_mem_cons.1 hvalid
    rw [List.map_cons, List.mapM_cons, hr.parseRule_text field, ih hrequests]
    rfl

/-- Reading undoes writing. A list of rules that can be written, in which nothing after a pattern
    has options, is read back from its text: the same names and options in the same order, marked as
    transforms just when they are transforms. This holds for every mark that is no part of the text,
    so it holds for the one that is made for it. -/
theorem parse_render (field : Option String) (hne : requests ≠ [])
    (hvalid : ∀ r ∈ requests, r.Valid registry hasTemplate)
    (hlast : requests.Pairwise fun r r' => r.name = regexRule → r'.options = []) :
    (∀ stem, '|' ∉ stem → ¬ mark stem <:+: render requests →
      parseWith stem registry hasTemplate field (render requests) =
        .ok (requests.map (Request.rule registry))) ∧
      parse registry hasTemplate field (render requests) =
        .ok (requests.map (Request.rule registry)) := by
  have hall : ∀ stem, '|' ∉ stem → ¬ mark stem <:+: render requests →
      parseWith stem registry hasTemplate field (render requests) =
        .ok (requests.map (Request.rule registry)) := by
    intro stem hstem hmark
    unfold parseWith
    rw [split_render hne hvalid hlast hstem hmark, mapM_parseRule_text field hvalid]
  exact ⟨hall, hall _ (bar_notMem_freshStem _) (mark_freshStem_absent _)⟩

end Texts

/-- Two rules with options, one without, and a transform. -/
def smallRegistry : Registry :=
  ⟨[("minLength", ⟨fun _ _ _ => [], true, true, false⟩),
    ("regex", ⟨fun _ _ _ => [], true, false, false⟩),
    ("required", ⟨fun _ _ _ => [], false, false, false⟩)], [("trim", .ok)]⟩

/-- A pattern with all delimiters, between other rules. -/
def smallRequests : List Request :=
  [⟨"trim", []⟩, ⟨"minLength", ["3"]⟩, ⟨"regex", ["^[a|b],$"]⟩, ⟨"required", []⟩]

theorem valid_smallRequests :
    ∀ r ∈ smallRequests, r.Valid smallRegistry fun _ => true := by
  have hcompiles : ∃ p, Pattern.compile { ignoreCase := true } "^[a|b],$".toList = .ok p := by
    have hok :
        (Pattern.compile { ignoreCase := true } "^[a|b],$".toList).toOption.isSome = true := by
      decide +kernel
    revert hok
    cases Pattern.compile { ignoreCase := true } "^[a|b],$".toList with
    | error fault => intro hok; cases hok
    | ok p => exact fun _ => ⟨p, rfl⟩
  intro r hr
  simp only [smallRequests, List.mem_cons, List.not_mem_nil, or_false] at hr
  rcases hr with rfl | rfl | rfl | rfl
  · exact ⟨rfl, by decide, by decide, by decide, by decide, fun h => absurd h (by decide),
      fun _ => rfl, fun _ h => absurd h (by decide), fun _ h => absurd h (by decide)⟩
  · exact ⟨rfl, by decide, by decide, by decide, by decide, fun h => absurd h (by decide),
      fun _ => rfl, fun _ _ _ _ => by decide,
      fun _ _ _ _ => ⟨"3", [], 3, rfl, by decide +kernel⟩⟩
  · refine ⟨rfl, by decide, by decide, by decide, by decide,
      fun _ => ⟨"^[a|b],$", rfl, by decide, by decide, hcompiles⟩,
      fun _ => rfl, fun _ _ _ _ => by decide, fun d _ hd hinteger => ?_⟩
    cases hd
    cases hinteger
  · refine ⟨rfl, by decide, by decide, by decide, by decide, fun h => absurd h (by decide),
      fun _ => rfl, fun d _ hd hrequired => ?_, fun d _ hd hinteger => ?_⟩
    · cases hd
      cases hrequired
    · cases hd
      cases hinteger

/-- A pattern with all delimiters is read back, between other rules. -/
theorem parse_smallRequests :
    parse smallRegistry (fun _ => true) none "trim|minLength[3]|regex[^[a|b],$]|required".toList =
      .ok [⟨"trim", [], true⟩, ⟨"minLength", ["3"], false⟩, ⟨"regex", ["^[a|b],$"], false⟩,
        ⟨"required", [], false⟩] :=
  (parse_render none (List.cons_ne_nil _ _) valid_smallRequests (by decide)).2

end FieldRules.Spec
