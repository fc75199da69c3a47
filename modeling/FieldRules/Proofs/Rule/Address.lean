import FieldRules.Proofs.Rule.Shapes
import FieldRules.Proofs.Text

/-!
# The rule on mail addresses

The reader of an address goes through a text once, character by character. What it accepts is told
without it here: a text is an address if, without the ASCII blanks at its ends, it has one at sign,
with parts before it and at least two parts behind it, all of them made of ASCII letters, digits
and three marks.

Results:
* `follows_cons`: what may follow a place of the reader, told at its first character.
* `accepts_iff`: from every place, the reader accepts just what may follow it.
* `isEmail_iff`: which texts are addresses.
* `email_judges`: which texts the rule on addresses passes.
-/

namespace FieldRules.Shape

open Text (cut cut_ne_nil cut_append cut_of_notMem joinWith_cut notMem_of_mem_cut)

/-! ## Addresses -/

/-- A character that a part of an address may have. -/
def IsAddressLetter (c : Char) : Prop :=
  IsAsciiLetter c ∨ IsAsciiDigit c ∨ c = '_' ∨ c = '-' ∨ c = '+'

instance (c : Char) : Decidable (IsAddressLetter c) := inferInstanceAs (Decidable (_ ∨ _))

/-- A part of an address. -/
def IsAddressPart (part : List Char) : Prop := part ≠ [] ∧ ∀ c ∈ part, IsAddressLetter c

instance (part : List Char) : Decidable (IsAddressPart part) :=
  @instDecidableAnd _ _ _ (List.decidableBAll _ _)

/-- Parts with dots between them. -/
def IsDotted (s : List Char) : Prop := ∀ part ∈ cut '.' s, IsAddressPart part

instance (s : List Char) : Decidable (IsDotted s) :=
  inferInstanceAs (Decidable (∀ part ∈ cut '.' s, IsAddressPart part))

/-- An address without blanks around it: a name, one at sign, and a host of at least two parts. -/
def IsAddress (s : List Char) : Prop :=
  ∃ name host, cut '@' s = [name, host] ∧ IsDotted name ∧ IsDotted host ∧
    2 ≤ (cut '.' host).length

/-- The blanks that may stand around an address. -/
def IsAsciiBlank (c : Char) : Prop :=
  c = ' ' ∨ c = '\t' ∨ c = '\n' ∨ c = '\r' ∨ c = '\x0c' ∨ c = '\x0b'

instance (c : Char) : Decidable (IsAsciiBlank c) := inferInstanceAs (Decidable (_ ∨ _))

/-! ## Classes of characters -/

theorem isAsciiBlank_iff (c : Char) : Unicode.isAsciiBlank c = true ↔ IsAsciiBlank c := by
  constructor
  · intro h
    have hcode : c.toNat = 32 ∨ c.toNat = 9 ∨ c.toNat = 10 ∨ c.toNat = 11 ∨ c.toNat = 12 ∨
        c.toNat = 13 := by
      simp only [Unicode.isAsciiBlank, Bool.or_eq_true, beq_iff_eq, Bool.and_eq_true,
        decide_eq_true_eq] at h
      rcases h with rfl | h
      · exact .inl rfl
      · omega
    have hchar : c = Char.ofNat c.toNat := (Char.ofNat_toNat c).symm
    rcases hcode with hn | hn | hn | hn | hn | hn <;> rw [hchar, hn] <;> decide
  · rintro (rfl | rfl | rfl | rfl | rfl | rfl) <;> decide

theorem isAddressChar_iff (c : Char) : isAddressChar c = true ↔ IsAddressLetter c := by
  have hletter : c.isAlpha = true ↔ IsAsciiLetter c := Text.isAlpha_iff c
  simp only [isAddressChar, IsAddressLetter, Char.isAlphanum, Bool.or_eq_true, decide_eq_true_eq,
    hletter, isDigit_iff, or_assoc]

theorem apart_of_isAddressChar {c : Char} (h : isAddressChar c = true) :
    Unicode.isAsciiBlank c = false ∧ c ≠ '.' ∧ c ≠ '@' := by
  refine ⟨?_, by rintro rfl; exact absurd h (by decide), by rintro rfl; exact absurd h (by decide)⟩
  rw [Bool.eq_false_iff, Ne, isAsciiBlank_iff]
  rintro (rfl | rfl | rfl | rfl | rfl | rfl) <;> exact absurd h (by decide)

/-! ## Parts with dots between them -/

/-- What may follow the first character of a part: the rest of the part, and more parts. -/
def IsDottedRest (s : List Char) : Prop := IsDotted ('a' :: s)

theorem not_isDotted_nil : ¬ IsDotted [] := by decide

theorem isDottedRest_nil : IsDottedRest [] := by
  unfold IsDottedRest
  decide

theorem isDotted_cons_of_ne {c : Char} (hc : c ≠ '.') {s first : List Char}
    {others : List (List Char)} (hcut : cut '.' s = first :: others) :
    IsDotted (c :: s) ↔ IsAddressLetter c ∧ (∀ d ∈ first, IsAddressLetter d) ∧
      ∀ part ∈ others, IsAddressPart part := by
  rw [IsDotted, cut, if_neg hc, hcut]
  simp only [List.forall_mem_cons, IsAddressPart, ne_eq, List.cons_ne_nil, not_false_eq_true,
    true_and, and_assoc]

theorem isDotted_cons (c : Char) (s : List Char) :
    IsDotted (c :: s) ↔ isAddressChar c = true ∧ IsDottedRest s := by
  obtain ⟨first, others, hcut⟩ := List.exists_cons_of_ne_nil (cut_ne_nil '.' s)
  have hletter : IsAddressLetter 'a' := by decide
  by_cases hc : c = '.'
  · subst hc
    have hfirst : ([] : List Char) ∈ cut '.' ('.' :: s) := by simp [cut]
    exact iff_of_false (fun h => (h [] hfirst).1 rfl) (fun h => absurd h.1 (by decide))
  · rw [IsDottedRest, isDotted_cons_of_ne hc hcut, isDotted_cons_of_ne (by decide) hcut,
      isAddressChar_iff, and_iff_right hletter]

theorem isDottedRest_cons_dot (s : List Char) : IsDottedRest ('.' :: s) ↔ IsDotted s := by
  have hcut : cut '.' ('.' :: s) = [] :: cut '.' s := by rw [cut, if_pos rfl]
  have hletter : IsAddressLetter 'a' := by decide
  rw [IsDottedRest, isDotted_cons_of_ne (by decide) hcut, and_iff_right hletter,
    and_iff_right (by simp)]
  exact Iff.rfl

theorem isDottedRest_cons {c : Char} (hc : c ≠ '.') (s : List Char) :
    IsDottedRest (c :: s) ↔ isAddressChar c = true ∧ IsDottedRest s := by
  obtain ⟨first, others, hcut⟩ := List.exists_cons_of_ne_nil (cut_ne_nil '.' s)
  have hletter : IsAddressLetter 'a' := by decide
  have hcut' : cut '.' (c :: s) = (c :: first) :: others := by rw [cut, if_neg hc, hcut]
  rw [IsDottedRest, isDotted_cons_of_ne (by decide) hcut', IsDottedRest,
    isDotted_cons_of_ne (by decide) hcut, and_iff_right hletter, and_iff_right hletter,
    List.forall_mem_cons, isAddressChar_iff, and_assoc]

/-! ## What may follow a place -/

/-- A host, with blanks behind it: parts of which the first may have been begun, and of which a dot
    may have been read. -/
def IsHost (isParts : List Char → Prop) (dotted : Bool) (s : List Char) : Prop :=
  ∃ host blanks, s = host ++ blanks ∧ isParts host ∧ (dotted = true ∨ '.' ∈ host) ∧
    ∀ c ∈ blanks, Unicode.isAsciiBlank c = true

/-- A name, of which the first part may have been begun, an at sign and a host. -/
def IsNameAndHost (isParts : List Char → Prop) (s : List Char) : Prop :=
  ∃ name host, s = name ++ '@' :: host ∧ isParts name ∧ IsHost IsDotted false host

/-- What may follow a place of the reader of an address. -/
def AddressPlace.Follows : AddressPlace → List Char → Prop
  | before, s => ∃ blanks rest, s = blanks ++ rest ∧
      (∀ c ∈ blanks, Unicode.isAsciiBlank c = true) ∧ IsNameAndHost IsDotted rest
  | nameStart, s => IsNameAndHost IsDotted s
  | name, s => IsNameAndHost IsDottedRest s
  | hostStart dotted, s => IsHost IsDotted dotted s
  | host dotted, s => IsHost IsDottedRest dotted s
  | behind, s => ∀ c ∈ s, Unicode.isAsciiBlank c = true

section Steps

variable (c : Char) (s : List Char) (dotted : Bool)

theorem isNameAndHost_cons :
    IsNameAndHost IsDotted (c :: s) ↔ isAddressChar c = true ∧ IsNameAndHost IsDottedRest s := by
  constructor
  · rintro ⟨name, host, hs, hname, hhost⟩
    cases name with
    | nil => exact absurd hname not_isDotted_nil
    | cons d name =>
      obtain ⟨rfl, rfl⟩ := List.cons.inj hs
      obtain ⟨hc, hname⟩ := (isDotted_cons _ _).1 hname
      exact ⟨hc, name, host, rfl, hname, hhost⟩
  · rintro ⟨hc, name, host, rfl, hname, hhost⟩
    exact ⟨c :: name, host, rfl, (isDotted_cons _ _).2 ⟨hc, hname⟩, hhost⟩

theorem isNameAndHost_rest_cons :
    IsNameAndHost IsDottedRest (c :: s) ↔ (isAddressChar c = true ∧ IsNameAndHost IsDottedRest s) ∨
      (c = '.' ∧ IsNameAndHost IsDotted s) ∨ (c = '@' ∧ IsHost IsDotted false s) := by
  constructor
  · rintro ⟨name, host, hs, hname, hhost⟩
    cases name with
    | nil =>
      obtain ⟨rfl, rfl⟩ := List.cons.inj hs
      exact .inr (.inr ⟨rfl, hhost⟩)
    | cons d name =>
      obtain ⟨rfl, rfl⟩ := List.cons.inj hs
      by_cases hc : c = '.'
      · subst hc
        exact .inr (.inl ⟨rfl, name, host, rfl, (isDottedRest_cons_dot _).1 hname, hhost⟩)
      · obtain ⟨hc, hname⟩ := (isDottedRest_cons hc _).1 hname
        exact .inl ⟨hc, name, host, rfl, hname, hhost⟩
  · rintro (⟨hc, name, host, rfl, hname, hhost⟩ | ⟨rfl, name, host, rfl, hname, hhost⟩ |
      ⟨rfl, hhost⟩)
    · exact ⟨c :: name, host, rfl,
        (isDottedRest_cons (apart_of_isAddressChar hc).2.1 _).2 ⟨hc, hname⟩, hhost⟩
    · exact ⟨'.' :: name, host, rfl, (isDottedRest_cons_dot _).2 hname, hhost⟩
    · exact ⟨[], s, rfl, isDottedRest_nil, hhost⟩

theorem isHost_cons :
    IsHost IsDotted dotted (c :: s) ↔
      isAddressChar c = true ∧ IsHost IsDottedRest dotted s := by
  constructor
  · rintro ⟨host, blanks, hs, hhost, hdot, hblanks⟩
    cases host with
    | nil => exact absurd hhost not_isDotted_nil
    | cons d host =>
      obtain ⟨rfl, rfl⟩ := List.cons.inj hs
      obtain ⟨hc, hhost⟩ := (isDotted_cons _ _).1 hhost
      have hne : '.' ≠ c := (apart_of_isAddressChar hc).2.1.symm
      exact ⟨hc, host, blanks, rfl, hhost,
        hdot.imp_right fun h => (List.mem_cons.1 h).resolve_left hne, hblanks⟩
  · rintro ⟨hc, host, blanks, rfl, hhost, hdot, hblanks⟩
    exact ⟨c :: host, blanks, rfl, (isDotted_cons _ _).2 ⟨hc, hhost⟩,
      hdot.imp_right (List.mem_cons_of_mem _), hblanks⟩

theorem isHost_rest_cons :
    IsHost IsDottedRest dotted (c :: s) ↔
      (isAddressChar c = true ∧ IsHost IsDottedRest dotted s) ∨
      (c = '.' ∧ IsHost IsDotted true s) ∨
      (dotted = true ∧ ∀ d ∈ c :: s, Unicode.isAsciiBlank d = true) := by
  constructor
  · rintro ⟨host, blanks, hs, hhost, hdot, hblanks⟩
    cases host with
    | nil => exact .inr (.inr ⟨hdot.resolve_right List.not_mem_nil, hs ▸ hblanks⟩)
    | cons d host =>
      obtain ⟨rfl, rfl⟩ := List.cons.inj hs
      by_cases hc : c = '.'
      · subst hc
        exact .inr (.inl ⟨rfl, host, blanks, rfl, (isDottedRest_cons_dot _).1 hhost, .inl rfl,
          hblanks⟩)
      · obtain ⟨hchar, hhost⟩ := (isDottedRest_cons hc _).1 hhost
        exact .inl ⟨hchar, host, blanks, rfl, hhost,
          hdot.imp_right fun h => (List.mem_cons.1 h).resolve_left (Ne.symm hc), hblanks⟩
  · rintro (⟨hc, host, blanks, rfl, hhost, hdot, hblanks⟩ |
      ⟨rfl, host, blanks, rfl, hhost, -, hblanks⟩ | ⟨rfl, hblanks⟩)
    · exact ⟨c :: host, blanks, rfl,
        (isDottedRest_cons (apart_of_isAddressChar hc).2.1 _).2 ⟨hc, hhost⟩,
        hdot.imp_right (List.mem_cons_of_mem _), hblanks⟩
    · exact ⟨'.' :: host, blanks, rfl, (isDottedRest_cons_dot _).2 hhost,
        .inr List.mem_cons_self, hblanks⟩
    · exact ⟨[], c :: s, rfl, isDottedRest_nil, .inl rfl, hblanks⟩

theorem AddressPlace.follows_before_cons :
    before.Follows (c :: s) ↔ (Unicode.isAsciiBlank c = true ∧ before.Follows s) ∨
      (isAddressChar c = true ∧ name.Follows s) := by
  constructor
  · rintro ⟨blanks, rest, hs, hblanks, hrest⟩
    cases blanks with
    | nil =>
      obtain rfl : c :: s = rest := hs
      exact .inr ((isNameAndHost_cons _ _).1 hrest)
    | cons d blanks =>
      obtain ⟨rfl, rfl⟩ := List.cons.inj hs
      obtain ⟨hc, hblanks⟩ := List.forall_mem_cons.1 hblanks
      exact .inl ⟨hc, blanks, rest, rfl, hblanks, hrest⟩
  · rintro (⟨hc, blanks, rest, rfl, hblanks, hrest⟩ | ⟨hc, hname⟩)
    · exact ⟨c :: blanks, rest, rfl, List.forall_mem_cons.2 ⟨hc, hblanks⟩, hrest⟩
    · exact ⟨[], c :: s, rfl, fun _ h => absurd h List.not_mem_nil,
        (isNameAndHost_cons _ _).2 ⟨hc, hname⟩⟩

/-- What may follow a place, told at its first character: the reader goes on to another place, and
    the rest may follow that one. -/
theorem AddressPlace.follows_cons (p : AddressPlace) :
    p.Follows (c :: s) ↔ ∃ q, p.read c = some q ∧ q.Follows s := by
  have hclass : isAddressChar c = true →
      Unicode.isAsciiBlank c = false ∧ c ≠ '.' ∧ c ≠ '@' := apart_of_isAddressChar
  cases p with
  | before =>
    show before.Follows (c :: s) ↔ _
    rw [follows_before_cons]
    by_cases hblank : Unicode.isAsciiBlank c = true
    · have hchar : isAddressChar c = false := by
        rw [Bool.eq_false_iff]
        intro h
        rw [(hclass h).1] at hblank
        cases hblank
      simp [read, hblank, hchar]
    · by_cases hchar : isAddressChar c = true <;> simp [read, hblank, hchar]
  | nameStart =>
    simp only [Follows, isNameAndHost_cons]
    by_cases hchar : isAddressChar c = true <;> simp [read, hchar]
  | name =>
    simp only [Follows, isNameAndHost_rest_cons]
    by_cases hchar : isAddressChar c = true
    · obtain ⟨-, hdot, hat⟩ := hclass hchar
      simp [read, hchar, hdot, hat]
    · by_cases hdot : c = '.'
      · subst hdot
        simp [read, hchar]
      · by_cases hat : c = '@'
        · subst hat
          simp [read, hchar]
        · simp [read, hchar, hdot, hat]
  | hostStart dotted =>
    simp only [Follows, isHost_cons]
    by_cases hchar : isAddressChar c = true <;> simp [read, hchar]
  | host dotted =>
    simp only [Follows, isHost_rest_cons, List.forall_mem_cons]
    by_cases hchar : isAddressChar c = true
    · obtain ⟨hblank, hdot, -⟩ := hclass hchar
      simp [read, hchar, hdot, hblank]
    · by_cases hdot : c = '.'
      · subst hdot
        have hblank : Unicode.isAsciiBlank '.' = false := by decide
        simp [read, hchar, hblank]
      · by_cases hblank : Unicode.isAsciiBlank c = true <;> cases dotted <;>
          simp [read, hchar, hdot, hblank]
  | behind =>
    simp only [Follows, List.forall_mem_cons]
    by_cases hblank : Unicode.isAsciiBlank c = true <;> simp [read, hblank]

end Steps

/-- What may follow a place is nothing at all just where an address can end. -/
theorem AddressPlace.follows_nil (p : AddressPlace) : p.Follows [] ↔ p.isEnd = true := by
  have hname : ∀ isParts, ¬ IsNameAndHost isParts [] := by
    rintro isParts ⟨name, host, hs, -⟩
    simp at hs
  cases p with
  | before =>
    refine iff_of_false ?_ (by decide)
    rintro ⟨blanks, rest, hs, -, hrest⟩
    rw [(List.append_eq_nil_iff.1 hs.symm).2] at hrest
    exact hname _ hrest
  | nameStart => exact iff_of_false (hname _) (by decide)
  | name => exact iff_of_false (hname _) (by decide)
  | hostStart dotted =>
    refine iff_of_false ?_ Bool.false_ne_true
    rintro ⟨host, blanks, hs, hhost, -⟩
    rw [(List.append_eq_nil_iff.1 hs.symm).1] at hhost
    exact not_isDotted_nil hhost
  | host dotted =>
    constructor
    · rintro ⟨host, blanks, hs, -, hdot, -⟩
      rw [(List.append_eq_nil_iff.1 hs.symm).1] at hdot
      rw [hdot.resolve_right List.not_mem_nil]
      rfl
    · intro h
      have hdotted : dotted = true := by cases dotted <;> simp_all [isEnd]
      exact ⟨[], [], rfl, isDottedRest_nil, .inl hdotted, fun _ h => absurd h List.not_mem_nil⟩
  | behind => exact iff_of_true (fun _ h => absurd h List.not_mem_nil) rfl

/-- From every place, the reader accepts just what may follow it. -/
theorem AddressPlace.accepts_iff (p : AddressPlace) (s : List Char) :
    p.accepts s = true ↔ p.Follows s := by
  induction s generalizing p with
  | nil => exact (follows_nil p).symm
  | cons c s ih =>
    rw [follows_cons, accepts]
    cases p.read c with
    | none => simp
    | some q => simp [ih]

/-! ## Which texts are addresses -/

section Addresses

variable {s : List Char}

theorem notMem_of_isDotted (h : IsDotted s) {c : Char} (hc : ¬ IsAddressLetter c)
    (hdot : c ≠ '.') : c ∉ s := by
  have hjoined : c ∉ Text.joinWith '.' (cut '.' s) :=
    Text.notMem_joinWith hdot fun part hpart hmem => hc ((h part hpart).2 c hmem)
  rwa [joinWith_cut] at hjoined

theorem two_le_length_cut_iff : 2 ≤ (cut '.' s).length ↔ '.' ∈ s := by
  rw [Text.length_cut, ← List.one_le_count_iff]
  omega

/-- An address is cut at its at sign. -/
theorem isAddress_iff : IsAddress s ↔
    ∃ name host, s = name ++ '@' :: host ∧ IsDotted name ∧ IsDotted host ∧ '.' ∈ host := by
  constructor
  · rintro ⟨name, host, hcut, hname, hhost, hdot⟩
    refine ⟨name, host, ?_, hname, hhost, two_le_length_cut_iff.1 hdot⟩
    rw [← joinWith_cut '@' s, hcut]
    rfl
  · rintro ⟨name, host, rfl, hname, hhost, hdot⟩
    have hat : '@' ∉ name := notMem_of_isDotted hname (by decide) (by decide)
    have hat' : '@' ∉ host := notMem_of_isDotted hhost (by decide) (by decide)
    refine ⟨name, host, ?_, hname, hhost, two_le_length_cut_iff.2 hdot⟩
    rw [cut_append hat, cut_of_notMem hat']

/-- An address has no blanks. -/
theorem not_isAsciiBlank_of_isAddress (h : IsAddress s) {c : Char} (hc : c ∈ s) :
    Unicode.isAsciiBlank c = false := by
  obtain ⟨name, host, rfl, hname, hhost, -⟩ := isAddress_iff.1 h
  rw [Bool.eq_false_iff]
  intro hblank
  have hapart : ¬ IsAddressLetter c ∧ c ≠ '.' ∧ c ≠ '@' := by
    rcases (isAsciiBlank_iff c).1 hblank with rfl | rfl | rfl | rfl | rfl | rfl <;> decide
  obtain ⟨hletter, hdot, hat⟩ := hapart
  rcases List.mem_append.1 hc with hmem | hmem
  · exact notMem_of_isDotted hname hletter hdot hmem
  · exact notMem_of_isDotted hhost hletter hdot ((List.mem_cons.1 hmem).resolve_left hat)

/-- The reader accepts a text just if it is an address without the blanks at its ends. -/
theorem isEmail_iff (s : List Char) :
    isEmail s = true ↔ IsAddress (Text.trimmed Unicode.isAsciiBlank s) := by
  rw [isEmail, AddressPlace.accepts_iff]
  constructor
  · rintro ⟨before, rest, rfl, hbefore, name, _, rfl, hname, host, after, rfl, hhost, hdot, hafter⟩
    have haddress : IsAddress (name ++ '@' :: host) :=
      isAddress_iff.2 ⟨name, host, rfl, hname, hhost, hdot.resolve_left Bool.false_ne_true⟩
    have hbare : Text.HasBareEnds Unicode.isAsciiBlank (name ++ '@' :: host) :=
      ⟨fun c hc => not_isAsciiBlank_of_isAddress haddress (List.mem_of_head? hc),
        fun c hc => not_isAsciiBlank_of_isAddress haddress (List.mem_of_getLast? hc)⟩
    have htext : before ++ (name ++ '@' :: (host ++ after)) =
        before ++ (name ++ '@' :: host) ++ after := by simp
    rw [htext, Text.trimmed_around hbefore hafter, Text.trimmed_of_hasBareEnds hbare]
    exact haddress
  · intro h
    obtain ⟨before, after, hs, hbefore, hafter⟩ :=
      Text.exists_append_trimmed Unicode.isAsciiBlank s
    obtain ⟨name, host, htrimmed, hname, hhost, hdot⟩ := isAddress_iff.1 h
    rw [htrimmed] at hs
    refine ⟨before, name ++ '@' :: (host ++ after), ?_, hbefore, name, host ++ after, rfl, hname,
      host, after, rfl, hhost, .inr hdot, hafter⟩
    rw [hs]
    simp

end Addresses

end FieldRules.Shape

namespace FieldRules.Registry

open Shape (IsAddress IsAsciiBlank)

/-- The rule on addresses reports once on every text that is not empty. It passes the text just if,
    without the ASCII blanks at its ends, it has one at sign, what stands before it is one part or
    more with dots between them, what stands behind it is two parts or more, and every part is a
    text that is not empty, of ASCII letters, ASCII digits, underscores, dashes and plus signs. -/
theorem email_judges (today : Calendar.Today) (policy : Markup.Policy) (options : List Value)
    {v : String} (hv : v ≠ "") :
    (standard policy).Judges today "email" (.text v) options
      (IsAddress (Text.trimmed (fun c => decide (IsAsciiBlank c)) v.toList)) := by
  have hblank : (fun c => decide (IsAsciiBlank c)) = Unicode.isAsciiBlank :=
    funext fun c => Bool.eq_iff_iff.2 (by rw [decide_eq_true_iff, Shape.isAsciiBlank_iff])
  rw [hblank]
  exact judges_of_shape rfl (by decide) rfl hv (Shape.isEmail_iff v.toList)

/-- An address with a tab before it and a line break behind it passes. -/
theorem email_judges_amongBlanks : "\tj.o+x@mail.example.co\n" ≠ "" ∧
    IsAddress "j.o+x@mail.example.co".toList ∧
    ∃ passed, (standard .standard).evaluate ⟨2024, 5, 31⟩ "email"
        (.text "\tj.o+x@mail.example.co\n") [] = .ok [.report passed (some [])] ∧
      passed = true := by
  have hne : "\tj.o+x@mail.example.co\n" ≠ "" := by decide
  have haddress : IsAddress "j.o+x@mail.example.co".toList :=
    ⟨"j.o+x".toList, "mail.example.co".toList, by decide, by decide, by decide, by decide⟩
  have htrimmed : Text.trimmed (fun c => decide (IsAsciiBlank c))
      "\tj.o+x@mail.example.co\n".toList = "j.o+x@mail.example.co".toList := by decide
  obtain ⟨passed, hactions, hpassed⟩ := email_judges ⟨2024, 5, 31⟩ .standard [] hne
  exact ⟨hne, haddress, passed, hactions, hpassed.2 (htrimmed ▸ haddress)⟩

end FieldRules.Registry
