import FieldRules.Proofs.Session.Usable

/-!
# Verdicts of the built-in rules

A built-in rule whose options were accepted reports once on every text, with some exceptions: a
number with too many digits where numbers are compared, a number in a date that is too long to be
divided, dates that cannot be compared since a zone of theirs is a day or more away, and a pattern
that matches with a group that ends before it begins. There the check fails.

Results:
* `check_cases`: a built-in rule in use reports once, or fails for one of these reasons.
* `check_of_escapes`: it fails where there is such a reason.
-/

namespace FieldRules.Verdict

/-- The rules that compare integers, those that compare dates, and those that read dates. -/
def integerComparisons : List String := ["greaterThan", "lessThan"]

@[inherit_doc integerComparisons]
def dateComparisons : List String := ["beforeDate", "afterDate"]

@[inherit_doc integerComparisons]
def dateRules : List String := "date" :: dateComparisons

/-- Why the check of a built-in rule fails on a text although the options were accepted. -/
inductive Escapes (today : Calendar.Today) :
    String → List Char → List Value → FieldRules.Fault → Prop where
  | integer {rule : String} {s : List Char} {options : List Value} {count : Nat}
      (hrule : rule ∈ integerComparisons) (h : LeadingInt.read s = .tooLong count) :
      Escapes today rule s options (.tooManyDigits count)
  | natural {s : List Char} {options : List Value} {count : Nat}
      (hshape : Shape.isNatural s = true) (h : LeadingInt.read s = .tooLong count) :
      Escapes today "naturalNoZero" s options (.tooManyDigits count)
  | pattern {s : List Char} {source : String} {rest : List Value} {p : Pattern}
      {fault : Pattern.Fault} (hp : Pattern.compile { ignoreCase := true } source.toList = .ok p)
      (h : p.find s = .error fault) :
      Escapes today Spec.regexRule s (.text source :: rest) (.pattern source.toList fault)
  | date {rule : String} {s : List Char} {options : List Value} {fault : Calendar.Fault}
      (hrule : rule ∈ dateRules) (h : Calendar.read today s = .error fault)
      (hfault : fault ≠ .noDate) : Escapes today rule s options (.date fault)
  | optionDate {rule : String} {s : List Char} {source : String} {rest : List Value}
      {current : Option Calendar.Moment} {fault : Calendar.Fault} (hrule : rule ∈ dateComparisons)
      (hs : momentIn today s = .ok current)
      (h : Calendar.read today source.toList = .error fault) (hfault : fault ≠ .noDate) :
      Escapes today rule s (.text source :: rest) (.date fault)
  | zone {rule : String} {s : List Char} {source : String} {rest : List Value}
      {a b : Calendar.Moment} (hrule : rule ∈ dateComparisons)
      (ha : Calendar.read today s = .ok a) (hb : Calendar.read today source.toList = .ok b)
      (h : a.zone ≠ b.zone) (hfar : (a.zone.usable && b.zone.usable) = false) :
      Escapes today rule s (.text source :: rest) .distantZone

/-- A verdict on a text is given, or there is a reason why it is not. -/
def Settled (today : Calendar.Today) (rule : String) (v : Verdict) (options : List Value)
    (s : List Char) : Prop :=
  (∃ passed, v s options = .ok passed) ∨
    ∃ fault, Escapes today rule s options fault ∧ v s options = .error fault

section Verdicts

variable {today : Calendar.Today} {rule : String} {options : List Value} {s : List Char}

theorem settled_ofShape (isOfShape : List Char → Bool) :
    Settled today rule (ofShape isOfShape) options s := .inl ⟨_, rfl⟩

/-! ## Integers -/

section Integers

variable {option : Value} {rest : List Value} {n : Int}

theorem limit_eq (sign : String) (h : integerOf option = .ok (some n)) :
    limit sign (option :: rest) = .ok n := by
  simp [limit, firstOption, h, bind, Except.bind, pure, Except.pure]

theorem settled_atLeast (h : integerOf option = .ok (some n)) (count : List Char → Nat) :
    Settled today rule (atLeast count) (option :: rest) s := by
  refine .inl ⟨decide (n ≤ count s), ?_⟩
  rw [atLeast, limit_eq _ h]
  rfl

theorem settled_atMost (h : integerOf option = .ok (some n)) (count : List Char → Nat) :
    Settled today rule (atMost count) (option :: rest) s := by
  refine .inl ⟨decide ((count s : Int) ≤ n), ?_⟩
  rw [atMost, limit_eq _ h]
  rfl

theorem settled_exactLength (h : integerOf option = .ok (some n)) :
    Settled today rule exactLength (option :: rest) s := by
  refine .inl ⟨decide (some n = some (s.length : Int)), ?_⟩
  simp [exactLength, firstOption, h, bind, Except.bind, pure, Except.pure]

theorem integerIn_cases (s : List Char) :
    (∃ found, integerIn s = .ok found) ∨
      ∃ count, LeadingInt.read s = .tooLong count ∧
        integerIn s = .error (.tooManyDigits count) := by
  unfold integerIn
  cases LeadingInt.read s with
  | absent => exact .inl ⟨_, rfl⟩
  | tooLong count => exact .inr ⟨count, rfl, rfl⟩
  | value n => exact .inl ⟨_, rfl⟩

/-- A comparison of integers gives a verdict unless the integer of the text is too long. -/
theorem settled_comparesInteger (hrule : rule ∈ integerComparisons)
    (h : integerOf option = .ok (some n)) (sign : String) (compare : Int → Int → Bool) :
    Settled today rule (comparesInteger sign compare) (option :: rest) s := by
  unfold Settled comparesInteger
  rcases integerIn_cases s with ⟨found, hs⟩ | ⟨count, hread, hs⟩
  · left
    rw [hs, limit_eq _ h]
    cases found <;> exact ⟨_, rfl⟩
  · refine .inr ⟨_, .integer hrule hread, ?_⟩
    rw [hs]
    rfl

theorem settled_naturalNoZero : Settled today "naturalNoZero" naturalNoZero options s := by
  unfold Settled naturalNoZero
  cases hshape : Shape.isNatural s with
  | false => exact .inl ⟨false, rfl⟩
  | true =>
    rcases integerIn_cases s with ⟨found, hs⟩ | ⟨count, hread, hs⟩
    · left
      rw [hs]
      cases found <;> exact ⟨_, rfl⟩
    · refine .inr ⟨_, .natural hshape hread, ?_⟩
      rw [hs]
      rfl

end Integers

/-! ## Patterns and options -/

theorem settled_regex {source : String} {rest : List Value} {p : Pattern}
    (hp : Pattern.compile { ignoreCase := true } source.toList = .ok p) :
    Settled today Spec.regexRule regex (.text source :: rest) s := by
  unfold Settled regex
  simp only [firstOption, bind, Except.bind, hp]
  rcases hfind : p.find s with fault | found
  · exact .inr ⟨_, .pattern hp hfind, rfl⟩
  · exact .inl ⟨found, rfl⟩

theorem settled_equalsOption (h : options ≠ []) :
    Settled today rule equalsOption options s := by
  obtain ⟨option, rest, rfl⟩ := List.exists_cons_of_ne_nil h
  left
  unfold equalsOption
  cases option <;> exact ⟨_, rfl⟩

/-! ## Dates -/

section Dates

theorem momentIn_cases (today : Calendar.Today) (s : List Char) :
    (∃ a, Calendar.read today s = .ok a ∧ momentIn today s = .ok (some a)) ∨
      momentIn today s = .ok none ∨
      ∃ fault, Calendar.read today s = .error fault ∧ fault ≠ .noDate ∧
        momentIn today s = .error (.date fault) := by
  unfold momentIn
  rcases Calendar.read today s with fault | a
  · cases fault with
    | noDate => exact .inr (.inl rfl)
    | hugeNumber => exact .inr (.inr ⟨_, rfl, by decide, rfl⟩)
  · exact .inl ⟨a, rfl, rfl⟩

theorem settled_date : Settled today "date" (date today) options s := by
  unfold Settled date
  rcases momentIn_cases today s with ⟨a, -, hs⟩ | hs | ⟨fault, hread, hfault, hs⟩
  · exact .inl ⟨true, by rw [hs]; rfl⟩
  · exact .inl ⟨false, by rw [hs]; rfl⟩
  · exact .inr ⟨_, .date (by decide) hread hfault, by rw [hs]; rfl⟩

theorem before?_eq_none_iff {a b : Calendar.Moment} :
    a.before? b = none ↔ a.zone ≠ b.zone ∧ (a.zone.usable && b.zone.usable) = false := by
  unfold Calendar.Moment.before?
  by_cases hzone : a.zone = b.zone
  · simp [hzone]
  · cases hnear : a.zone.usable && b.zone.usable <;> simp [hzone]

/-- Dates are compared unless one of them is refused or they are of zones that are too far away. -/
theorem settled_comparesTo {compare : Calendar.Moment → Calendar.Moment → Option Bool}
    {source : String} {rest : List Value} (hrule : rule ∈ dateComparisons)
    (hcompare : ∀ a b, compare a b = none →
      a.zone ≠ b.zone ∧ (a.zone.usable && b.zone.usable) = false) :
    Settled today rule (comparesTo today compare) (.text source :: rest) s := by
  have hdate : rule ∈ dateRules := List.mem_cons_of_mem _ hrule
  have hoption : momentOf today (.text source) = momentIn today source.toList := rfl
  unfold Settled comparesTo
  simp only [firstOption]
  rcases momentIn_cases today s with ⟨a, ha, hs⟩ | hs | ⟨fault, hread, hfault, hs⟩
  · rcases momentIn_cases today source.toList with ⟨b, hb, ht⟩ | ht | ⟨fault, hread, hfault, ht⟩
    · rw [hs]
      simp only [bind, Except.bind, hoption, ht]
      rcases hab : compare a b with _ | passed
      · obtain ⟨hne, hfar⟩ := hcompare a b hab
        exact .inr ⟨_, .zone hrule ha hb hne hfar, rfl⟩
      · exact .inl ⟨passed, rfl⟩
    · exact .inl ⟨false, by rw [hs]; simp only [bind, Except.bind, hoption, ht]; rfl⟩
    · refine .inr ⟨_, .optionDate hrule hs hread hfault, ?_⟩
      rw [hs]
      simp only [bind, Except.bind, hoption, ht]
  · rcases momentIn_cases today source.toList with ⟨b, hb, ht⟩ | ht | ⟨fault, hread, hfault, ht⟩
    · exact .inl ⟨false, by rw [hs]; simp only [bind, Except.bind, hoption, ht]; rfl⟩
    · exact .inl ⟨false, by rw [hs]; simp only [bind, Except.bind, hoption, ht]; rfl⟩
    · refine .inr ⟨_, .optionDate hrule hs hread hfault, ?_⟩
      rw [hs]
      simp only [bind, Except.bind, hoption, ht]
  · exact .inr ⟨_, .date hdate hread hfault, by rw [hs]; rfl⟩

end Dates

end Verdicts

/-! ## All built-in rules -/

section All

variable {today : Calendar.Today} {policy : Markup.Policy} {templates : MessageTable}
  {use : RuleUse} {d : Definition}

theorem text_of_isUsable (h : use.IsUsable (.standard policy) templates d)
    (hsome : d.requiresOptions = true) (hrule : use.rule ≠ Session.matchesRule) :
    ∃ source rest, use.options = .text source :: rest := by
  have hne := h.options hsome
  rw [h.texts hrule] at hne ⊢
  cases hshown : use.shown with
  | nil => exact absurd (by rw [hshown]; rfl) hne
  | cons source rest => exact ⟨source, rest.map .text, rfl⟩

theorem settled_of_integer {v : Verdict} {s : List Char}
    (h : use.IsUsable (.standard policy) templates d) (hinteger : d.integerOption = true)
    (hv : ∀ {option rest n}, integerOf option = .ok (some n) →
      Settled today use.rule v (option :: rest) s)
    (hrule : use.rule ≠ Session.matchesRule := by simp [Session.matchesRule]) :
    Settled today use.rule v use.options s := by
  obtain ⟨option, rest, n, hoptions, hn⟩ := h.integer hinteger hrule
  rw [hoptions]
  exact hv hn

theorem settled_of_text {v : Verdict} {s : List Char}
    (h : use.IsUsable (.standard policy) templates d) (hsome : d.requiresOptions = true)
    (hv : ∀ {source rest}, Settled today use.rule v (.text source :: rest) s)
    (hrule : use.rule ≠ Session.matchesRule := by simp [Session.matchesRule]) :
    Settled today use.rule v use.options s := by
  obtain ⟨source, rest, hoptions⟩ := text_of_isUsable h hsome hrule
  rw [hoptions]
  exact hv

/-- A built-in rule in use gives a verdict on every text, unless there is a reason why not. -/
theorem settled_of_isUsable (h : use.IsUsable (.standard policy) templates d)
    (hrequired : use.rule ≠ Registry.requiredRule) :
    ∃ v : Verdict, d.check today = v.check today ∧
      ∀ s, Settled today use.rule v use.options s := by
  have hmem : (use.rule, d) ∈ Registry.builtinRules := Entries.mem_of_get? h.definition
  obtain ⟨rule, options, shown⟩ := use
  simp only [Registry.builtinRules, Registry.entry, List.mem_cons, Prod.mk.injEq,
    List.not_mem_nil, or_false] at hmem
  rcases hmem with ⟨rfl, rfl⟩ | ⟨rfl, rfl⟩ | ⟨rfl, rfl⟩ | ⟨rfl, rfl⟩ | ⟨rfl, rfl⟩ | ⟨rfl, rfl⟩ |
    ⟨rfl, rfl⟩ | ⟨rfl, rfl⟩ | ⟨rfl, rfl⟩ | ⟨rfl, rfl⟩ | ⟨rfl, rfl⟩ | ⟨rfl, rfl⟩ | ⟨rfl, rfl⟩ |
    ⟨rfl, rfl⟩ | ⟨rfl, rfl⟩ | ⟨rfl, rfl⟩ | ⟨rfl, rfl⟩ | ⟨rfl, rfl⟩ | ⟨rfl, rfl⟩ | ⟨rfl, rfl⟩ |
    ⟨rfl, rfl⟩ | ⟨rfl, rfl⟩ | ⟨rfl, rfl⟩ | ⟨rfl, rfl⟩
  · exact absurd rfl hrequired
  · exact ⟨_, rfl, fun s => settled_of_integer h rfl (settled_atLeast · _)⟩
  · exact ⟨_, rfl, fun s => settled_of_integer h rfl (settled_atMost · _)⟩
  · exact ⟨_, rfl, fun s => settled_of_integer h rfl settled_exactLength⟩
  iterate 2
    · refine ⟨_, rfl, fun s => settled_of_integer h rfl fun hn => ?_⟩
      exact settled_comparesInteger (by simp [integerComparisons]) hn _ _
  iterate 7 exact ⟨_, rfl, fun s => settled_ofShape _⟩
  · exact ⟨_, rfl, fun s => settled_naturalNoZero⟩
  · exact ⟨_, rfl, fun s => settled_ofShape _⟩
  · refine ⟨_, rfl, fun s => ?_⟩
    obtain ⟨source, rest, p, hoptions, hp⟩ := h.pattern rfl
    simp only at hoptions ⊢
    rw [hoptions]
    exact settled_regex hp
  · exact ⟨_, rfl, fun s => settled_equalsOption (h.options rfl)⟩
  · exact ⟨_, rfl, fun s => settled_ofShape _⟩
  · exact ⟨_, rfl, fun s => settled_of_integer h rfl (settled_atLeast · _)⟩
  · exact ⟨_, rfl, fun s => settled_of_integer h rfl (settled_atMost · _)⟩
  · exact ⟨_, rfl, fun s => settled_date⟩
  · refine ⟨_, rfl, fun s => settled_of_text h rfl ?_⟩
    exact settled_comparesTo (by simp [dateComparisons]) fun a b => before?_eq_none_iff.1
  · refine ⟨_, rfl, fun s => settled_of_text h rfl ?_⟩
    refine settled_comparesTo (by simp [dateComparisons]) fun a b hab => ?_
    obtain ⟨hne, hfar⟩ := before?_eq_none_iff.1 hab
    exact ⟨hne.symm, by rwa [Bool.and_comm]⟩
  · exact ⟨_, rfl, fun s => settled_ofShape _⟩

/-- The check of a built-in rule in use reports once on a text, or it fails for some reason. -/
theorem check_cases (h : use.IsUsable (.standard policy) templates d)
    (hrequired : use.rule ≠ Registry.requiredRule) (t : String) :
    (∃ passed, d.check today (.text t) use.options = [.report passed (some use.options)]) ∨
      ∃ fault, Escapes today use.rule t.toList use.options fault ∧
        d.check today (.text t) use.options = [.fail fault] := by
  obtain ⟨v, hcheck, hsettled⟩ := settled_of_isUsable h hrequired
  have htext : (Value.text t).toText.toList = t.toList := rfl
  rw [hcheck]
  unfold check
  rw [htext]
  rcases hsettled t.toList with ⟨passed, hv⟩ | ⟨fault, hescapes, hv⟩
  · exact .inl ⟨passed, by rw [hv]⟩
  · exact .inr ⟨fault, hescapes, by rw [hv]⟩

/-- A text that is refused names no moment. -/
theorem momentIn_of_error {s : List Char} {fault : Calendar.Fault}
    (h : Calendar.read today s = .error fault) (hfault : fault ≠ .noDate) :
    momentIn today s = .error (.date fault) := by
  rcases momentIn_cases today s with ⟨a, ha, -⟩ | hs | ⟨fault', hread, -, hs⟩
  · rw [ha] at h
    cases h
  · cases fault with
    | noDate => exact absurd rfl hfault
    | hugeNumber => rw [momentIn, h]
  · rw [hread] at h
    cases h
    exact hs

/-- A verdict is not given where there is a reason for it. -/
theorem fails_of_escapes {s : List Char} {fault : FieldRules.Fault}
    (h : use.IsUsable (.standard policy) templates d)
    (he : Escapes today use.rule s use.options fault) :
    ∃ v : Verdict, d.check today = v.check today ∧ v s use.options = .error fault := by
  have hget := h.definition
  obtain ⟨rule, options, shown⟩ := use
  simp only at he hget ⊢
  cases he with
  | @integer _ _ _ count hrule hread =>
    have hs : integerIn s = .error (.tooManyDigits count) := by rw [integerIn, hread]
    simp only [integerComparisons, List.mem_cons, List.not_mem_nil, or_false] at hrule
    rcases hrule with rfl | rfl
    · obtain rfl := Option.some.inj (hget.symm.trans rfl)
      exact ⟨greaterThan, rfl, by rw [greaterThan, comparesInteger, hs]; rfl⟩
    · obtain rfl := Option.some.inj (hget.symm.trans rfl)
      exact ⟨lessThan, rfl, by rw [lessThan, comparesInteger, hs]; rfl⟩
  | @natural _ _ count hshape hread =>
    have hs : integerIn s = .error (.tooManyDigits count) := by rw [integerIn, hread]
    obtain rfl := Option.some.inj (hget.symm.trans rfl)
    exact ⟨naturalNoZero, rfl, by simp only [naturalNoZero, hshape, hs]; rfl⟩
  | pattern hp hfind =>
    obtain rfl := Option.some.inj (hget.symm.trans rfl)
    refine ⟨regex, rfl, ?_⟩
    simp only [regex, firstOption, bind, Except.bind, hp, hfind]
    rfl
  | date hrule hread hfault =>
    have hs := momentIn_of_error hread hfault
    simp only [dateRules, dateComparisons, List.mem_cons, List.not_mem_nil, or_false] at hrule
    rcases hrule with rfl | rfl | rfl
    · obtain rfl := Option.some.inj (hget.symm.trans rfl)
      exact ⟨date today, rfl, by rw [date, hs]; rfl⟩
    · obtain rfl := Option.some.inj (hget.symm.trans rfl)
      exact ⟨beforeDate today, rfl, by rw [beforeDate, comparesTo, hs]; rfl⟩
    · obtain rfl := Option.some.inj (hget.symm.trans rfl)
      exact ⟨afterDate today, rfl, by rw [afterDate, comparesTo, hs]; rfl⟩
  | @optionDate _ _ source rest current fault hrule hs hread hfault =>
    have hoption : momentOf today (.text source) = .error (.date fault) :=
      momentIn_of_error hread hfault
    have hcompare : ∀ compare, comparesTo today compare s (.text source :: rest) =
        .error (.date fault) := by
      intro compare
      simp only [comparesTo, firstOption, hs, hoption, bind, Except.bind]
    simp only [dateComparisons, List.mem_cons, List.not_mem_nil, or_false] at hrule
    rcases hrule with rfl | rfl
    · obtain rfl := Option.some.inj (hget.symm.trans rfl)
      exact ⟨beforeDate today, rfl, hcompare _⟩
    · obtain rfl := Option.some.inj (hget.symm.trans rfl)
      exact ⟨afterDate today, rfl, hcompare _⟩
  | @zone _ _ source rest a b hrule ha hb hne hfar =>
    have hs : momentIn today s = .ok (some a) := by rw [momentIn, ha]
    have hoption : momentOf today (.text source) = .ok (some b) := by
      rw [momentOf, momentIn, hb]
    have hcompare : ∀ compare, compare a b = none →
        comparesTo today compare s (.text source :: rest) = .error .distantZone := by
      intro compare hab
      simp only [comparesTo, firstOption, hs, hoption, bind, Except.bind, hab]
      rfl
    have hab : a.before? b = none := before?_eq_none_iff.2 ⟨hne, hfar⟩
    have hba : b.before? a = none := before?_eq_none_iff.2 ⟨hne.symm, by rwa [Bool.and_comm]⟩
    simp only [dateComparisons, List.mem_cons, List.not_mem_nil, or_false] at hrule
    rcases hrule with rfl | rfl
    · obtain rfl := Option.some.inj (hget.symm.trans rfl)
      exact ⟨beforeDate today, rfl, hcompare _ hab⟩
    · obtain rfl := Option.some.inj (hget.symm.trans rfl)
      exact ⟨afterDate today, rfl, hcompare _ hba⟩

/-- The check of a built-in rule in use fails on a text where there is a reason for it. -/
theorem check_of_escapes {t : String} {fault : FieldRules.Fault}
    (h : use.IsUsable (.standard policy) templates d)
    (he : Escapes today use.rule t.toList use.options fault) :
    d.check today (.text t) use.options = [.fail fault] := by
  obtain ⟨v, hcheck, hv⟩ := fails_of_escapes h he
  have htext : (Value.text t).toText.toList = t.toList := rfl
  rw [hcheck, check, htext, hv]

end All

end FieldRules.Verdict
