import FieldRules.Message
import FieldRules.Proofs.Entries

/-!
# Plain templates

A template of plain text, doubled braces and empty placeholders is filled by writing the texts of
the values in the places, one after the other. A message has a value for every place, so that such a
template always gives one.

Results:
* `buildWith_write`: what a plain template is filled with.
* `format_of_isPlain`: a rule with a plain template always has a message.
* `fill_eq_zipIdx`: a plain template place by place, each by its number.
* `format_place_by_place`: what the message of a rule with a plain template is.
* `isPlain_standard`: the templates of the built-in rules are plain.
* `exists_format_standard`: so the built-in rules always have messages.
-/

namespace FieldRules.Template

/-- A part of a plain template: a character, or the place of a value. -/
inductive Part where
  | char (c : Char)
  | place
  deriving DecidableEq, Repr

namespace Part

/-- A part in writing: braces are doubled, and a place is an empty placeholder. -/
def write : Part → List Char
  | char c => if c = '\x7b' || c = '\x7d' then [c, c] else [c]
  | place => ['\x7b', '\x7d']

/-- Parts with the texts of values in their places; a place without a value stays empty. -/
def fill : List Part → List Value → List Char
  | [], _ => []
  | char c :: rest, values => c :: fill rest values
  | place :: rest, [] => fill rest []
  | place :: rest, v :: values => v.toText.toList ++ fill rest values

end Part

/-- The number of places. -/
def places (parts : List Part) : Nat := parts.count .place

/-- Placeholders that are empty have taken so many values so far. -/
def Numbering.HasTaken (numbering : Numbering) (n : Nat) : Prop :=
  numbering = .automatic n ∨ numbering = .unset ∧ n = 0

/-- An empty placeholder. -/
def emptyPlaceholder : Placeholder := ⟨[], none, [], false⟩

theorem subjectOf_emptyPlaceholder {values : List Value} {numbering : Numbering} {n : Nat}
    {v : Value} (hn : numbering.HasTaken n) (hv : values[n]? = some v) :
    subjectOf values numbering emptyPlaceholder = .ok (.value v, .automatic (n + 1)) := by
  have hfollow : follow (.value v) [] = .ok (.value v) := by rw [follow]
  have hchoose : choose values numbering [] = .ok (v, .automatic (n + 1)) := by
    have hindex : index? [] = .ok none := rfl
    rcases hn with rfl | ⟨rfl, rfl⟩
    · simp [choose, hindex, hv, bind, Except.bind]
    · simp [choose, hindex, hv, bind, Except.bind]
  simp [subjectOf, emptyPlaceholder, hchoose, hfollow, bind, Except.bind, pure, Except.pure]

/-- A character in writing is taken off the front of a template. -/
theorem nextPiece_char (c : Char) (rest : List Char) :
    ∃ d tail, (Part.char c).write ++ rest = d :: tail ∧
      ∃ h, nextPiece d tail = .ok (.char c, ⟨rest, h⟩) := by
  by_cases hopen : c = '\x7b'
  · subst hopen
    exact ⟨_, _, rfl, _, rfl⟩
  · by_cases hclose : c = '\x7d'
    · subst hclose
      exact ⟨_, _, rfl, _, rfl⟩
    · refine ⟨c, rest, ?_, Nat.le_refl _, ?_⟩
      · simp [Part.write, hopen, hclose]
      · simp [nextPiece, hopen, hclose]

/-- So is an empty placeholder. -/
theorem nextPiece_place (rest : List Char) :
    ∃ h, nextPiece '\x7b' ('\x7d' :: rest) = .ok (.placeholder emptyPlaceholder, ⟨rest, h⟩) := by
  refine ⟨Nat.le_succ _, ?_⟩
  have hname : scanName [] ('\x7d' :: rest) = .ok ([], some '\x7d', ⟨rest, Nat.le_succ _⟩) := by
    rw [scanName]
    · rfl
    · decide
    · decide
  have hscan : scanPlaceholder ('\x7d' :: rest) =
      .ok (emptyPlaceholder, ⟨rest, Nat.le_succ _⟩) := by
    rw [scanPlaceholder, hname]
    rfl
  rw [nextPiece, if_pos rfl, if_neg (by decide), hscan]
  rfl

/-- A plain template is filled with the values after those that have been taken, if they are enough
    for its places. -/
theorem buildWith_write (nested : Numbering → List Char → Except Fault (List Char × Numbering))
    {values : List Value} {parts : List Part} {numbering : Numbering} {n : Nat}
    (hn : numbering.HasTaken n) (hplaces : n + places parts ≤ values.length) :
    ∃ numbering', buildWith nested values numbering (parts.flatMap Part.write) =
      .ok (Part.fill parts (values.drop n), numbering') := by
  induction parts generalizing numbering n with
  | nil => exact ⟨numbering, by rw [List.flatMap_nil, buildWith]; rfl⟩
  | cons part rest ih =>
    cases part with
    | char c =>
      rw [places, List.count_cons_of_ne (by simp)] at hplaces
      obtain ⟨numbering', hrest⟩ := ih hn hplaces
      obtain ⟨d, tail, hwrite, hle, hpiece⟩ := nextPiece_char c (rest.flatMap Part.write)
      refine ⟨numbering', ?_⟩
      rw [List.flatMap_cons, hwrite, buildWith, hpiece]
      simp only [bind, Except.bind]
      rw [hrest]
      rfl
    | place =>
      rw [places, List.count_cons_self] at hplaces
      have hlt : n < values.length := by omega
      have htaken : (Numbering.automatic (n + 1)).HasTaken (n + 1) := .inl rfl
      obtain ⟨numbering', hrest⟩ := ih htaken (by rw [places]; omega)
      obtain ⟨hle, hpiece⟩ := nextPiece_place (rest.flatMap Part.write)
      have hsubject := subjectOf_emptyPlaceholder hn (List.getElem?_eq_getElem hlt)
      have hlay : (Subject.value values[n]).lay [] = .ok values[n].toText.toList := rfl
      refine ⟨numbering', ?_⟩
      have hwrite : (Part.place :: rest).flatMap Part.write =
        '\x7b' :: '\x7d' :: rest.flatMap Part.write := rfl
      rw [hwrite, buildWith, hpiece]
      simp only [bind, Except.bind]
      rw [hsubject]
      simp only [emptyPlaceholder, Bool.false_eq_true, if_false, pure, Except.pure]
      rw [hlay]
      simp only
      rw [hrest, List.drop_eq_getElem_cons hlt]
      rfl

/-! ## Messages -/

/-- Places without values may as well have empty ones. -/
theorem fill_append_replicate (parts : List Part) (values : List Value) (count : Nat) :
    Part.fill parts (values ++ List.replicate count (.text "")) = Part.fill parts values := by
  induction parts generalizing values count with
  | nil => rfl
  | cons part rest ih =>
    cases part with
    | char c => simp [Part.fill, ih]
    | place =>
      cases values with
      | cons v values => simp [Part.fill, ih]
      | nil =>
        cases count with
        | zero => rfl
        | succ count =>
          have hrest := ih [] count
          rw [List.nil_append] at hrest
          simp [List.replicate_succ, Part.fill, Value.toText, hrest]

/-- A template is plain. -/
def IsPlain (template : String) (parts : List Part) : Prop :=
  template.toList = parts.flatMap Part.write

/-- The parts of a plain text with empty placeholders. -/
def partsOf : List Char → List Part
  | '\x7b' :: '\x7d' :: rest => .place :: partsOf rest
  | c :: rest => .char c :: partsOf rest
  | [] => []

theorem exists_isPlain {template : String} {text : List Char} (h : template = String.ofList text)
    (hparts : (partsOf text).flatMap Part.write = text) : ∃ parts, IsPlain template parts :=
  ⟨partsOf text, by rw [IsPlain, h, String.toList_ofList, hparts]⟩

/-- There are no more places than opening braces. -/
theorem places_le_count (parts : List Part) :
    places parts ≤ (parts.flatMap Part.write).count '\x7b' := by
  induction parts with
  | nil => exact Nat.le_refl _
  | cons part rest ih =>
    rw [List.flatMap_cons, List.count_append]
    cases part with
    | char c =>
      rw [places, List.count_cons_of_ne (by simp)]
      exact Nat.le_trans ih (Nat.le_add_left _ _)
    | place =>
      have hone : Part.place.write.count '\x7b' = 1 := rfl
      rw [places, List.count_cons_self, hone]
      rw [places] at ih
      omega

end Template

open Template in
/-- A rule with a plain template always has a message: the template with the name of the field and
    the options that are not empty in its places. -/
theorem MessageTable.format_of_isPlain {table : MessageTable} {rule template : String}
    {parts : List Part} (ht : table.get? rule = some template) (hp : IsPlain template parts)
    (friendly : Value) (options : List Value) :
    table.format rule friendly options = .ok (.ofList (Part.fill parts
      (friendly :: (options.filter Value.truthy).map fun v => .text v.toText))) := by
  have hplaces : 0 + places parts ≤ (valuesFor template friendly options).length := by
    have hcount := places_le_count parts
    rw [← hp] at hcount
    rw [valuesFor, List.length_append, List.length_replicate]
    omega
  have hstart : Numbering.unset.HasTaken 0 := .inr ⟨rfl, rfl⟩
  obtain ⟨numbering, hbuild⟩ := buildWith_write (build _ 1) hstart hplaces
  rw [List.drop_zero, valuesFor, fill_append_replicate] at hbuild
  unfold format fill
  rw [ht]
  simp only
  rw [hp, depthLimit, build, valuesFor, hbuild]
  rfl

/-! ## Places by their numbers -/

namespace Template

/-- The text of a part with some places before it: a character stands for itself, and a place for
    the value with its number, if there is one. -/
def Part.text (values : List Value) (before : Nat) : Part → List Char
  | char c => [c]
  | place => ((values[before]?).map fun v => v.toText.toList).getD []

theorem places_cons_char (c : Char) (parts : List Part) :
    places (.char c :: parts) = places parts := List.count_cons_of_ne (by simp)

theorem places_cons_place (parts : List Part) :
    places (.place :: parts) = places parts + 1 := List.count_cons_self

/-- A part is filled by its number: the number of places before it says which value it gets. -/
theorem fill_drop_eq_zipIdx (parts : List Part) (values : List Value) (taken : Nat) :
    Part.fill parts (values.drop taken) =
      parts.zipIdx.flatMap fun (part, i) => part.text values (taken + places (parts.take i)) := by
  induction parts generalizing taken with
  | nil => rfl
  | cons part rest ih =>
    rw [List.zipIdx_cons', List.flatMap_cons, List.flatMap_map]
    cases part with
    | char c =>
      simp only [Prod.map, id, List.take_succ_cons, places_cons_char]
      rw [← ih taken]
      rfl
    | place =>
      have hstep (i : Nat) : taken + (places (rest.take i) + 1) =
          taken + 1 + places (rest.take i) := by omega
      simp only [Prod.map, id, List.take_succ_cons, places_cons_place, hstep]
      rw [← ih (taken + 1)]
      -- the value of this place is the first of those that have not been taken
      cases hvalue : values[taken]? with
      | none =>
        have hle := List.getElem?_eq_none_iff.1 hvalue
        rw [List.drop_eq_nil_of_le hle, List.drop_eq_nil_of_le (Nat.le_succ_of_le hle)]
        simp [Part.text, Part.fill, places, hvalue]
      | some v =>
        obtain ⟨hlt, rfl⟩ := List.getElem?_eq_some_iff.1 hvalue
        rw [List.drop_eq_getElem_cons hlt]
        simp [Part.text, Part.fill, places, hvalue]

/-- A plain template is filled place by place: the place with a number gets the value with that
    number, and stays empty if there is none. -/
theorem fill_eq_zipIdx (parts : List Part) (values : List Value) :
    Part.fill parts values =
      parts.zipIdx.flatMap fun (part, i) => part.text values (places (parts.take i)) := by
  have h := fill_drop_eq_zipIdx parts values 0
  simpa using h

/-- Only the texts of the options matter. -/
theorem Part.text_cons_map (friendly : Value) (options : List Value) (before : Nat) (part : Part) :
    part.text (friendly :: options.map fun v => .text v.toText) before =
      part.text (friendly :: options) before := by
  cases part with
  | char c => rfl
  | place =>
    cases before with
    | zero => rfl
    | succ n =>
      simp only [Part.text, List.getElem?_cons_succ, List.getElem?_map, Option.map_map]
      rfl

end Template

open Template in
/-- The message of a rule with a plain template: the template with single braces for doubled ones,
    and in the place with a number the text that has this number among the name of the field and the
    options that are not empty. There always is a message: places without such a text stay
    empty, texts without a place are left out, and texts are taken as they are, also if they have
    braces. -/
theorem MessageTable.format_place_by_place {table : MessageTable} {rule template : String}
    {parts : List Part} (ht : table.get? rule = some template) (hp : IsPlain template parts)
    (friendly : Value) (options : List Value) :
    table.format rule friendly options = .ok (.ofList (parts.zipIdx.flatMap fun (part, i) =>
      part.text (friendly :: options.filter Value.truthy) (places (parts.take i)))) := by
  rw [format_of_isPlain ht hp, fill_eq_zipIdx]
  simp only [Part.text_cons_map]

/-- A template with doubled braces around its first place, and two places side by side. -/
def MessageTable.amongTemplate : String :=
  "\x7b\x7b\x7b\x7d\x7d\x7d is not among \x7b\x7d\x7b\x7d."

open Template in
/-- A name that has braces itself, an option that is left out, and a place that stays empty. -/
theorem MessageTable.format_amongTemplate :
    Entries.get? [("among", amongTemplate)] "among" = some amongTemplate ∧
      IsPlain amongTemplate
        (.char '\x7b' :: .place :: .char '\x7d' ::
          (" is not among ".toList.map Part.char ++ [.place, .place, .char '.'])) ∧
      format [("among", amongTemplate)] "among" (.text "\x7bx\x7d")
          [.text "", .text "a\x7b\x7d", .null] =
        .ok "\x7b\x7bx\x7d\x7d is not among a\x7b\x7d." := by
  have ht : Entries.get? [("among", amongTemplate)] "among" = some amongTemplate := by decide
  have hp : IsPlain amongTemplate (.char '\x7b' :: .place :: .char '\x7d' ::
      (" is not among ".toList.map Part.char ++ [.place, .place, .char '.'])) := by
    rw [IsPlain]
    decide
  exact ⟨ht, hp, (format_place_by_place ht hp _ _).trans (congrArg _ (by decide))⟩

open Template in
/-- The templates of the built-in rules are plain. -/
theorem MessageTable.isPlain_standard : ∀ e ∈ standard, ∃ parts, IsPlain e.2 parts := by
  simp only [standard, List.forall_mem_cons]
  repeat' apply And.intro
  all_goals first
    | exact exists_isPlain rfl (by decide +kernel)
    | exact fun _ he => absurd he List.not_mem_nil

/-- A rule with a template among the standard ones always has a message. -/
theorem MessageTable.exists_format_standard {rule : String} (h : standard.has rule = true)
    (friendly : Value) (options : List Value) :
    ∃ message, standard.format rule friendly options = .ok message := by
  obtain ⟨template, ht⟩ := Option.isSome_iff_exists.1 h
  obtain ⟨parts, hparts⟩ := isPlain_standard _ (Entries.mem_of_get? ht)
  exact ⟨_, format_of_isPlain ht hparts friendly options⟩

end FieldRules
