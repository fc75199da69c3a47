import FieldRules.Markup.Clean
import FieldRules.Proofs.Text

/-!
# References in a text

A reference reaches up to its semicolon, so that what follows it does not change what is read. The
references that stand for the marks of markup are such.

Results:
* `reference?_append`: a reference is read again in front of any other text.
* `isReference_amp`, `isReference_lt`, `isReference_gt`: the references that stand for the marks.
* `append_cutAtAmpersands`: a text is put together again from what it was cut into.
-/

namespace FieldRules.Markup

/-! ## Names -/

section Names

variable {taken s name : List Char}

theorem isNameStart_of_prefix {table : List (List Char)} (hname : name ∈ table)
    (h : s <+: name) : isNameStart table s = true :=
  List.any_eq_true.2 ⟨name, hname, List.isPrefixOf_iff_prefix.2 h⟩

/-- A known name is read up to its semicolon. -/
theorem namedReference_of_mem (hname : taken.reverse ++ s ∈ referenceNames)
    (hne : taken.reverse ++ s ≠ []) (hs : ∀ c ∈ s, endsReference c = false) (rest : List Char) :
    namedReference taken (s ++ ';' :: rest) = some (taken.reverse ++ s) := by
  induction s generalizing taken with
  | nil =>
    have htaken : taken.isEmpty = false := by simpa using hne
    have hend : endsReference ';' = true := by decide
    rw [List.nil_append, namedReference, if_pos hend, htaken, List.append_nil]
    rfl
  | cons c s ih =>
    obtain ⟨hc, hs⟩ := List.forall_mem_cons.1 hs
    have hsplit : (c :: taken).reverse ++ s = taken.reverse ++ c :: s := by simp
    have hstart : isNameStart referenceNames (taken.reverse ++ [c]) = true :=
      isNameStart_of_prefix hname ⟨s, by simp⟩
    rw [List.cons_append, namedReference, hc, if_neg Bool.false_ne_true, if_pos hstart,
      ih (hsplit ▸ hname) (hsplit ▸ hne) hs, hsplit]

/-- What has been read of a name is read again in front of any other text. -/
theorem exists_read_of_namedReference (h : namedReference taken s = some name) :
    ∃ read, name = taken.reverse ++ read ∧ name ≠ [] ∧ read <+: s ∧
      ∀ rest, namedReference taken (read ++ ';' :: rest) = some name := by
  induction s generalizing taken with
  | nil => cases h
  | cons c s ih =>
    rw [namedReference] at h
    split at h
    · next hend =>
      split at h
      · next hdone =>
        obtain ⟨rfl, htaken⟩ : c = ';' ∧ taken ≠ [] := by simpa using hdone
        cases h
        refine ⟨[], by simp, by simpa using htaken, List.nil_prefix, fun rest => ?_⟩
        have hempty : taken.isEmpty = false := by simpa using htaken
        rw [List.nil_append, namedReference, if_pos hend, hempty]
        rfl
      · cases h
    · next hend =>
      split at h
      · next hstart =>
        obtain ⟨read, rfl, hne, hread, hagain⟩ := ih h
        refine ⟨c :: read, by simp, hne, (List.prefix_cons_inj c).2 hread, fun rest => ?_⟩
        rw [List.cons_append, namedReference, if_neg hend, if_pos hstart, hagain]
      · cases h

@[inherit_doc exists_read_of_namedReference]
theorem exists_read_of_numericReference {hexadecimal : Bool}
    (h : numericReference hexadecimal taken s = some name) :
    ∃ read, name = taken.reverse ++ read ∧ read <+: s ∧
      ∀ rest, numericReference hexadecimal taken (read ++ ';' :: rest) = some name := by
  have hsemicolon : ∀ taken rest,
      numericReference hexadecimal taken (';' :: rest) = some taken.reverse := by
    intro taken rest
    rw [numericReference, if_pos (by decide), if_pos rfl]
  induction s generalizing taken with
  | nil => cases h
  | cons c s ih =>
    rw [numericReference] at h
    split at h
    · split at h
      · cases h
        exact ⟨[], by simp, List.nil_prefix, fun rest => hsemicolon taken rest⟩
      · cases h
    · next hend =>
      split at h
      · next hdigit =>
        obtain ⟨read, rfl, hread, hagain⟩ := ih h
        refine ⟨c :: read, by simp, (List.prefix_cons_inj c).2 hread, fun rest => ?_⟩
        rw [List.cons_append, numericReference, if_neg hend, if_pos hdigit, hagain]
      · split at h
        · cases h
          exact ⟨[], by simp, List.nil_prefix, fun rest => hsemicolon taken rest⟩
        · cases h

end Names

/-- A reference is read again in front of any other text. -/
theorem reference?_append {s name : List Char} (h : reference? s = some name) :
    name <+: s ∧ ∀ rest, reference? (name ++ ';' :: rest) = some name := by
  unfold reference? at h
  split at h
  · next rest =>
    obtain ⟨read, rfl, hread, hagain⟩ := exists_read_of_numericReference h
    exact ⟨by simpa using hread, fun rest => hagain rest⟩
  · next rest =>
    obtain ⟨read, rfl, hread, hagain⟩ := exists_read_of_numericReference h
    exact ⟨by simpa using hread, fun rest => hagain rest⟩
  · next rest hx hX =>
    obtain ⟨read, rfl, hread, hagain⟩ := exists_read_of_numericReference h
    refine ⟨by simpa using hread, fun rest' => ?_⟩
    cases read with
    | nil => exact hagain rest'
    | cons c read =>
      obtain ⟨behind, rfl⟩ := hread
      have hcx : c ≠ 'x' := fun hc => hx _ (by rw [hc]; rfl)
      have hcX : c ≠ 'X' := fun hc => hX _ (by rw [hc]; rfl)
      have hplain : reference? (['#'] ++ (c :: read) ++ ';' :: rest') =
          numericReference false ['#'] (c :: read ++ ';' :: rest') := by
        simp [reference?, hcx, hcX]
      exact hplain.trans (hagain rest')
  · next hsharp =>
    obtain ⟨read, rfl, hne, hread, hagain⟩ := exists_read_of_namedReference h
    refine ⟨by simpa using hread, fun rest' => ?_⟩
    obtain ⟨c, read, rfl⟩ := List.exists_cons_of_ne_nil (by simpa using hne)
    obtain ⟨behind, rfl⟩ := hread
    have hc : c ≠ '#' := fun hc => hsharp _ (by rw [hc]; rfl)
    have hplain : reference? (c :: read ++ ';' :: rest') =
        namedReference [] (c :: read ++ ';' :: rest') := by
      simp [reference?, hc]
    exact hplain.trans (hagain rest')

/-! ## References that stay as they are -/

/-- A character that a text may hold as it is: no control characters but tabs and line feeds. -/
def IsClear (c : Char) : Prop := isInvisible c = false ∧ c ≠ '\r'

instance (c : Char) : Decidable (IsClear c) := inferInstanceAs (Decidable (_ ∧ _))

theorem IsClear.toNat_ne_zero {c : Char} (h : IsClear c) : c.toNat ≠ 0 := by
  intro hnull
  have hvisible := h.1
  simp [isInvisible, hnull] at hvisible

/-- A name that is read as a reference in front of any text. -/
structure IsReference (name : List Char) : Prop where
  read : ∀ rest, reference? (name ++ ';' :: rest) = some name
  clear : ∀ c ∈ name, IsClear c ∧ c ≠ '&' ∧ c ≠ '<'

/-- The letters of names end no reference, and they have no meaning of their own. -/
theorem isClear_of_isAlpha {c : Char} (h : c.isAlpha = true) :
    endsReference c = false ∧ c ≠ '#' ∧ IsClear c ∧ c ≠ '&' ∧ c ≠ '<' := by
  have hascii : ∀ n < 128, (Char.ofNat n).isAlpha = true →
      endsReference (Char.ofNat n) = false ∧ Char.ofNat n ≠ '#' ∧ IsClear (Char.ofNat n) ∧
        Char.ofNat n ≠ '&' ∧ Char.ofNat n ≠ '<' := by
    decide
  have hle : c ≤ 'z' :=
    ((Text.isAlpha_iff c).1 h).elim (fun h => Char.le_trans h.2 (by decide)) And.right
  have hcode : c.toNat < 128 := Nat.lt_of_le_of_lt hle (by decide)
  have hc := hascii c.toNat hcode
  rw [Char.ofNat_toNat] at hc
  exact hc h

theorem isReference_of_mem {name : List Char} (hmem : name ∈ referenceNames) (hne : name ≠ [])
    (h : name.all Char.isAlpha = true) : IsReference name := by
  have hletters : ∀ c ∈ name, c.isAlpha = true := List.all_eq_true.1 h
  refine ⟨fun rest => ?_, fun c hc => (isClear_of_isAlpha (hletters c hc)).2.2⟩
  obtain ⟨c, others, rfl⟩ := List.exists_cons_of_ne_nil hne
  have hc : c ≠ '#' := (isClear_of_isAlpha (hletters c List.mem_cons_self)).2.1
  have hplain : reference? (c :: others ++ ';' :: rest) =
      namedReference [] (c :: others ++ ';' :: rest) := by
    simp [reference?, hc]
  rw [hplain]
  exact namedReference_of_mem hmem hne (fun c hc => (isClear_of_isAlpha (hletters c hc)).1) rest

theorem mem_referenceNames {row : String} {name : List Char} (i : Nat)
    (hrow : referenceNameRows[i]? = some row) (hname : name ∈ Text.cut ' ' row.toList) :
    name ∈ referenceNames :=
  List.mem_flatMap.2 ⟨row, List.mem_of_getElem? hrow, hname⟩

theorem isReference_amp : IsReference "amp".toList :=
  isReference_of_mem (mem_referenceNames 69 rfl (by decide +kernel)) (by decide) (by decide)

theorem isReference_gt : IsReference "gt".toList :=
  isReference_of_mem (mem_referenceNames 105 rfl (by decide +kernel)) (by decide) (by decide)

theorem isReference_lt : IsReference "lt".toList :=
  isReference_of_mem (mem_referenceNames 125 rfl (by decide +kernel)) (by decide) (by decide)

/-! ## Cutting at ampersands -/

theorem cutAtAmpersands_self (rest : List Char) :
    cutAtAmpersands ('&' :: rest) =
      ([], (cutAtAmpersands rest).1 :: (cutAtAmpersands rest).2) := rfl

theorem cutAtAmpersands_cons {c : Char} (hc : c ≠ '&') (rest : List Char) :
    cutAtAmpersands (c :: rest) = (c :: (cutAtAmpersands rest).1, (cutAtAmpersands rest).2) := by
  rw [cutAtAmpersands]
  simp only
  rw [if_neg hc]

theorem cutAtAmpersands_append {piece : List Char} (h : '&' ∉ piece) (rest : List Char) :
    cutAtAmpersands (piece ++ rest) =
      (piece ++ (cutAtAmpersands rest).1, (cutAtAmpersands rest).2) := by
  induction piece with
  | nil => rfl
  | cons c piece ih =>
    obtain ⟨hc, hpiece⟩ := not_or.1 (mt List.mem_cons.2 h)
    rw [List.cons_append, cutAtAmpersands_cons (Ne.symm hc), ih hpiece]
    rfl

/-- What a text is cut into gives the text back. -/
theorem append_cutAtAmpersands (s : List Char) :
    (cutAtAmpersands s).1 ++ (cutAtAmpersands s).2.flatMap ('&' :: ·) = s := by
  induction s with
  | nil => rfl
  | cons c rest ih =>
    by_cases hc : c = '&'
    · subst hc
      rw [cutAtAmpersands_self, List.flatMap_cons, List.nil_append, List.cons_append, ih]
    · rw [cutAtAmpersands_cons hc, List.cons_append, ih]

/-- No piece has an ampersand. -/
theorem notMem_cutAtAmpersands (s : List Char) :
    '&' ∉ (cutAtAmpersands s).1 ∧ ∀ part ∈ (cutAtAmpersands s).2, '&' ∉ part := by
  induction s with
  | nil => exact ⟨List.not_mem_nil, fun _ h => absurd h List.not_mem_nil⟩
  | cons c rest ih =>
    by_cases hc : c = '&'
    · subst hc
      rw [cutAtAmpersands_self]
      exact ⟨List.not_mem_nil, List.forall_mem_cons.2 ih⟩
    · rw [cutAtAmpersands_cons hc]
      exact ⟨by simpa [Ne.symm hc] using ih.1, ih.2⟩

end FieldRules.Markup
