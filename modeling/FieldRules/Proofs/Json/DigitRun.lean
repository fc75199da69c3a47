import FieldRules.Json.Reader
import Mathlib.Data.List.TakeWhile

/-!
# Numbers that are too long to be read

Every reader takes something off the front of a text and leaves the rest. The one fault that is no
fault of form comes from an integer with too many digits, and these digits stand in the text in a
row. So a text without such a row is either read or refused for its form.

Results:
* `takesFront_readValue`: what a value leaves is the end of the text.
* `hasDigitRun_of_read`: a number that is too long is a row of digits in the text.
* `read_digits`: a text of too many digits is refused for their number.
-/

namespace FieldRules.Json

/-! ## Rows of digits -/

/-- A text has so many digits in a row. -/
def HasDigitRun (count : Nat) (s : List Char) : Prop :=
  ∃ digits, digits <:+: s ∧ digits.length = count ∧ ∀ c ∈ digits, c.isDigit = true

theorem HasDigitRun.mono {count : Nat} {s t : List Char} (h : HasDigitRun count s) (hs : s <:+: t) :
    HasDigitRun count t := by
  obtain ⟨digits, hd, hc⟩ := h
  exact ⟨digits, hd.trans hs, hc⟩

/-- What a reader makes of a text: it takes something off the front of it, or it is refused for its
    form, or for digits in a row that are too many. -/
def TakesFront {α : Type} (s : List Char) : Except Fault (α × Rest s) → Prop
  | .ok (_, r) => r.1 <:+ s
  | .error (.malformed _ _) => True
  | .error (.tooManyDigits count) => digitLimit < count ∧ HasDigitRun count s

section Steps

variable {α β : Type} {s t : List Char}

theorem TakesFront.bind {x : Except Fault (α × Rest t)}
    {next : α × Rest t → Except Fault (β × Rest s)} (h : TakesFront t x) (ht : t <:+ s)
    (hnext : ∀ a r, r.1 <:+ s → TakesFront s (next (a, r))) : TakesFront s (x >>= next) := by
  match x, h with
  | .ok (a, r), h => exact hnext a r (h.trans ht)
  | .error (.malformed _ _), _ => trivial
  | .error (.tooManyDigits _), h => exact ⟨h.1, h.2.mono ht.isInfix⟩

end Steps

/-! ## Parts of values -/

theorem skipSpace_suffix (s : List Char) : skipSpace s <:+ s := List.dropWhile_suffix _

theorem suffix_of_skipSpace {s t r : List Char} {c : Char} (h : skipSpace s = c :: r)
    (hs : s <:+ t) : r <:+ t :=
  (List.suffix_cons c r).trans (h ▸ (skipSpace_suffix s).trans hs)

theorem takesFront_readLowUnit (s : List Char) :
    (∀ e, readLowUnit s = .error e → ∃ cause n, e = .malformed cause n) ∧
      ∀ low r, readLowUnit s = .ok (some (low, r)) → r.1 <:+ s := by
  unfold readLowUnit
  split
  · next a b c d e r =>
    split
    · simp
    · constructor
      · simp
      · intro low r' h
        split at h
        · cases h
          exact ⟨['\\', 'u', a, b, c, d], rfl⟩
        · cases h
  · simp

theorem takesFront_readEscape (start : Nat) (s : List Char) :
    TakesFront s (readEscape start s) := by
  unfold readEscape
  split
  · trivial
  · next r =>
    split
    · next a b c d e r' =>
      have hrest : e :: r' <:+ 'u' :: a :: b :: c :: d :: e :: r' := ⟨['u', a, b, c, d], rfl⟩
      split
      · trivial
      · split
        · obtain ⟨hfault, hlow⟩ := takesFront_readLowUnit (e :: r')
          rcases hread : readLowUnit (e :: r') with fault | _ | ⟨low, q⟩
          · obtain ⟨cause, n, rfl⟩ := hfault fault hread
            trivial
          · exact hrest
          · exact (hlow low q hread).trans hrest
        · exact hrest
    · trivial
  · next c r _ =>
    split
    · trivial
    · exact List.suffix_cons c r

theorem takesFront_readString (start : Nat) (acc s : List Char) :
    TakesFront s (readString start acc s) := by
  fun_induction readString start acc s with
  | case1 => trivial
  | case2 acc r => exact List.suffix_cons '"' r
  | case3 acc r ih =>
    refine (takesFront_readEscape start r).bind (List.suffix_cons _ _) fun c r' hr => ?_
    exact (ih c r'.1 r'.2).bind hr fun t q hq => hq
  | case4 => trivial
  | case5 acc c r _ _ _ ih => exact ih.bind (List.suffix_cons c r) fun t q hq => hq

theorem suffix_of_readWord {s : List Char} {v : Value} {r : Rest s}
    (h : readWord s = some (v, r)) : r.1 <:+ s := by
  obtain ⟨⟨w, _⟩, -, hw⟩ := List.exists_of_findSome?_eq_some h
  simp only at hw
  split at hw
  · cases hw
    exact List.drop_suffix _ _
  · cases hw

/-! ## Numbers -/

theorem dropDigits_suffix (s : List Char) : s.dropWhile Char.isDigit <:+ s :=
  List.dropWhile_suffix _

/-- The digits before a point stand in the text in a row. -/
theorem splitWhole_parts {s whole r : List Char} (h : splitWhole s = some (whole, r)) :
    r <:+ s ∧ whole <:+: s ∧ ∀ c ∈ whole, c.isDigit = true := by
  unfold splitWhole at h
  split at h
  · cases h
  · cases h
    have hzero : ∀ c ∈ ['0'], c.isDigit = true := fun c hc => by rw [List.mem_singleton.1 hc]; rfl
    exact ⟨List.suffix_cons '0' r, ⟨[], r, rfl⟩, hzero⟩
  · next c r' _ =>
    split at h
    · next hc =>
      cases h
      refine ⟨(dropDigits_suffix r').trans (List.suffix_cons c r'), ?_, ?_⟩
      · exact ⟨[], r'.dropWhile Char.isDigit, by simp⟩
      · intro d hd
        rcases List.mem_cons.1 hd with rfl | hd
        · exact hc
        · exact List.all_eq_true.1 List.all_takeWhile d hd
    · cases h

theorem splitFraction_suffix (s : List Char) : (splitFraction s).2 <:+ s := by
  unfold splitFraction
  split
  · next d r =>
    split
    · exact (dropDigits_suffix r).trans ((List.suffix_cons d r).trans (List.suffix_cons '.' _))
    · exact List.suffix_refl _
  · exact List.suffix_refl _

theorem splitSign_suffix (s : List Char) : (splitSign s).2 <:+ s := by
  unfold splitSign
  split
  · exact List.suffix_cons _ _
  · exact List.suffix_cons _ _
  · exact List.suffix_refl _

theorem splitExponent_suffix (s : List Char) : (splitExponent s).2 <:+ s := by
  unfold splitExponent
  split
  · exact List.suffix_refl _
  · next e r =>
    dsimp only
    split
    · exact (dropDigits_suffix _).trans ((splitSign_suffix r).trans (List.suffix_cons e r))
    · exact List.suffix_refl _

theorem splitUnsigned_parts {negative : Bool} {s r : List Char} {parts : NumberParts}
    (h : splitUnsigned negative s = some (parts, r)) :
    r <:+ s ∧ parts.whole <:+: s ∧ ∀ c ∈ parts.whole, c.isDigit = true := by
  unfold splitUnsigned at h
  split at h
  · cases h
  · next whole q hw =>
    obtain ⟨hq, hrow⟩ := splitWhole_parts hw
    cases h
    exact ⟨(splitExponent_suffix _).trans ((splitFraction_suffix q).trans hq), hrow⟩

theorem splitNumber_parts {s r : List Char} {parts : NumberParts}
    (h : splitNumber s = some (parts, r)) :
    r <:+ s ∧ parts.whole <:+: s ∧ ∀ c ∈ parts.whole, c.isDigit = true := by
  unfold splitNumber at h
  split at h
  · next t =>
    obtain ⟨hr, hw, hd⟩ := splitUnsigned_parts h
    have ht : t <:+ '-' :: t := List.suffix_cons '-' t
    exact ⟨hr.trans ht, hw.trans ht.isInfix, hd⟩
  · exact splitUnsigned_parts h

/-- A number has a value, unless it is an integer with too many digits. -/
theorem value_eq_error {p : NumberParts} {fault : Fault} (h : p.value = .error fault) :
    fault = .tooManyDigits p.whole.length ∧ digitLimit < p.whole.length := by
  unfold NumberParts.value at h
  split at h
  · split at h
    · next hlong =>
      cases h
      exact ⟨rfl, hlong⟩
    · cases h
  · cases h

/-! ## Values -/

theorem length_lt_of_skipSpace {s r : List Char} {c : Char} {n : Nat} (h : skipSpace s = c :: r)
    (hs : s.length ≤ n) : (skipSpace r).length < n := by
  have hle := skipSpace_length_le s
  have hle' := skipSpace_length_le r
  rw [h, List.length_cons] at hle
  omega

mutual

/-- What a value leaves is the end of the text. -/
theorem takesFront_readValue (s : List Char) : TakesFront s (readValue s) := by
  unfold readValue
  split
  · trivial
  · next r =>
    exact (takesFront_readString (r.length + 1) [] r).bind (List.suffix_cons _ r) fun t q hq => hq
  · next r =>
    have hr : skipSpace r <:+ '\x7b' :: r := (skipSpace_suffix r).trans (List.suffix_cons _ r)
    have hlt := skipSpace_length_le r
    split
    · next q h => exact suffix_of_skipSpace h (List.suffix_cons _ r)
    · exact (takesFront_readEntries [] (skipSpace r)).bind hr fun entries q hq => hq
  · next r =>
    have hr : skipSpace r <:+ '[' :: r := (skipSpace_suffix r).trans (List.suffix_cons _ r)
    have hlt := skipSpace_length_le r
    split
    · next q h => exact suffix_of_skipSpace h (List.suffix_cons _ r)
    · exact (takesFront_readItems (skipSpace r)).bind hr fun items q hq => hq
  · split
    · next found h => exact suffix_of_readWord h
    · split
      · next parts r h =>
        obtain ⟨hr, hw, hd⟩ := splitNumber_parts h
        rcases hv : parts.value with fault | v
        · obtain ⟨rfl, hlong⟩ := value_eq_error hv
          exact ⟨hlong, _, hw, rfl, hd⟩
        · exact hr
      · trivial
termination_by 2 * s.length
decreasing_by all_goals subst_vars; rw [List.length_cons]; omega

theorem takesFront_readItems (s : List Char) : TakesFront s (readItems s) := by
  unfold readItems
  refine (takesFront_readValue s).bind (List.suffix_refl s) fun v r hr => ?_
  simp only
  split
  · next q h => exact suffix_of_skipSpace h hr
  · next q h =>
    have hq : skipSpace q <:+ s := (skipSpace_suffix q).trans (suffix_of_skipSpace h hr)
    have hlt := length_lt_of_skipSpace h (Nat.le_of_lt r.2)
    exact (takesFront_readItems (skipSpace q)).bind hq fun vs q' hq' => hq'
  · trivial
termination_by 2 * s.length + 1
decreasing_by all_goals omega

theorem takesFront_readEntries (entries : Entries Value) (s : List Char) :
    TakesFront s (readEntries entries s) := by
  unfold readEntries
  split
  · next r =>
    refine (takesFront_readString (r.length + 1) [] r).bind (List.suffix_cons _ r)
      fun key r₁ h₁ => ?_
    simp only
    split
    · next r₂ h₂ =>
      have hlt := length_lt_of_skipSpace h₂ (Nat.le_of_lt r₁.2)
      have hr₂ : skipSpace r₂ <:+ '"' :: r :=
        (skipSpace_suffix r₂).trans (suffix_of_skipSpace h₂ h₁)
      refine (takesFront_readValue (skipSpace r₂)).bind hr₂ fun v r₃ h₃ => ?_
      simp only
      split
      · next q h => exact suffix_of_skipSpace h h₃
      · next q h =>
        have hq : skipSpace q <:+ '"' :: r := (skipSpace_suffix q).trans (suffix_of_skipSpace h h₃)
        have hlt' := length_lt_of_skipSpace h (Nat.le_of_lt r₃.2)
        exact (takesFront_readEntries _ (skipSpace q)).bind hq fun es q' hq' => hq'
      · trivial
    · trivial
  · trivial
termination_by 2 * s.length + 1
decreasing_by all_goals subst_vars; rw [List.length_cons]; omega

end

/-- A number that is too long is a row of digits in the text. -/
theorem hasDigitRun_of_read {s : List Char} {count : Nat}
    (h : read s = .error (.tooManyDigits count)) : digitLimit < count ∧ HasDigitRun count s := by
  unfold read at h
  split at h
  · cases h
  · have hfront := takesFront_readValue (skipSpace s)
    rcases hread : readValue (skipSpace s) with fault | ⟨v, r⟩
    · rw [hread] at h hfront
      cases h
      exact ⟨hfront.1, hfront.2.mono (skipSpace_suffix s).isInfix⟩
    · rw [hread] at h
      simp only [bind, Except.bind] at h
      split at h <;> cases h

/-! ## A text of digits -/

/-- No word starts with a digit. -/
theorem readWord_of_isDigit {c : Char} {s : List Char} (hc : c.isDigit = true) :
    readWord (c :: s) = none := by
  have hhead : ∀ w ∈ words, ∃ d rest, w.1 = d :: rest ∧ d.isDigit = false := by
    intro w hw
    simp only [words, List.mem_cons, List.not_mem_nil, or_false] at hw
    rcases hw with rfl | rfl | rfl | rfl | rfl | rfl <;> exact ⟨_, _, rfl, by decide⟩
  rw [readWord, List.findSome?_eq_none_iff]
  intro w hw
  obtain ⟨d, rest, hd, hdigit⟩ := hhead w hw
  have hne : d ≠ c := by
    rintro rfl
    rw [hc] at hdigit
    cases hdigit
  simp [hd, hne]

/-- A row of digits without a needless zero is a number as a whole. -/
theorem splitNumber_digits {c : Char} {digits : List Char} (hc : c ≠ '0')
    (hd : ∀ d ∈ c :: digits, d.isDigit = true) :
    splitNumber (c :: digits) = some (⟨false, c :: digits, [], none⟩, []) := by
  obtain ⟨hdigit, hdigits⟩ := List.forall_mem_cons.1 hd
  have hminus : c ≠ '-' := by
    rintro rfl
    exact absurd hdigit (by decide)
  have hwhole : splitWhole (c :: digits) = some (c :: digits, []) := by
    rw [splitWhole, if_pos hdigit, List.takeWhile_eq_self_iff.2 hdigits,
      List.dropWhile_eq_nil_iff.2 hdigits]
    exact fun h => hc h
  have hunsigned : splitUnsigned false (c :: digits) =
      some (⟨false, c :: digits, [], none⟩, []) := by
    rw [splitUnsigned, hwhole]
    rfl
  rw [splitNumber, hunsigned]
  exact fun r h => hminus (List.cons.inj h).1

/-- A text of too many digits is refused for their number. -/
theorem read_digits {c : Char} {digits : List Char} (hc : c ≠ '0')
    (hd : ∀ d ∈ c :: digits, d.isDigit = true) (hlong : digitLimit < (c :: digits).length) :
    read (c :: digits) = .error (.tooManyDigits (c :: digits).length) := by
  have hdigit : c.isDigit = true := hd c List.mem_cons_self
  have hother : ∀ d : Char, d.isDigit = false → c ≠ d := by
    rintro d hd rfl
    rw [hdigit] at hd
    cases hd
  have hspace : skipSpace (c :: digits) = c :: digits := by
    have : isSpace c = false := by
      simp [isSpace, hother ' ' rfl, hother '\t' rfl, hother '\n' rfl, hother '\r' rfl]
    rw [skipSpace, List.dropWhile_cons, this]
    rfl
  have hvalue : readValue (skipSpace (c :: digits)) =
      .error (.tooManyDigits (c :: digits).length) := by
    rw [hspace, readValue]
    · rw [readWord_of_isDigit hdigit]
      simp only
      split
      · next parts r h =>
        obtain ⟨rfl, rfl⟩ := Prod.mk.inj (Option.some.inj (h.symm.trans (splitNumber_digits hc hd)))
        have hparts : (⟨false, c :: digits, [], none⟩ : NumberParts).value =
            .error (.tooManyDigits (c :: digits).length) := if_pos hlong
        rw [hparts]
        rfl
      · next h => rw [splitNumber_digits hc hd] at h; cases h
    · exact List.cons_ne_nil c digits
    all_goals exact fun r h => hother _ (by decide) (List.cons.inj h).1
  rw [read, hvalue]
  · rfl
  · exact fun r h => hother '\uFEFF' (by decide) (List.cons.inj h).1

end FieldRules.Json
