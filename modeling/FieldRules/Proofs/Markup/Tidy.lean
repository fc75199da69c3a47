import FieldRules.Proofs.Markup.Reference
import FieldRules.Proofs.Text
import Mathlib.Data.List.Induction

/-!
# Tidy markup

A tidy text is made of letters, references and tags without attributes. Its elements are closed in
the order that they are nested in, and none of them closes or moves another one. A shown text is one
without tags.

Results:
* `Shown.append`: shown texts stand behind each other.
* `Shown.of_around`, `Tidy.of_around`: blanks can be taken from the ends.
-/

namespace FieldRules.Markup

/-! ## Items -/

/-- What a tidy text is made of. -/
inductive Item where
  | letter (c : Char)
  | reference (name : List Char)
  | start (name : String)
  | finish (name : String)

namespace Item

/-- An item as it is written. -/
def text : Item → List Char
  | letter c => [c]
  | reference name => '&' :: name ++ [';']
  | start name => '<' :: name.toList ++ ['>']
  | finish name => '<' :: '/' :: name.toList ++ ['>']

/-- The item is no tag, and it is read as it is written. -/
def IsShown : Item → Prop
  | letter c => IsClear c ∧ c ≠ '&' ∧ c ≠ '<' ∧ c ≠ '>'
  | reference name => IsReference name
  | start _ | finish _ => False

end Item

/-- Items as they are written. -/
def textOf (items : List Item) : List Char := items.flatMap Item.text

@[simp] theorem textOf_nil : textOf [] = [] := rfl

@[simp] theorem textOf_cons (item : Item) (items : List Item) :
    textOf (item :: items) = item.text ++ textOf items := rfl

@[simp] theorem textOf_append (items more : List Item) :
    textOf (items ++ more) = textOf items ++ textOf more := List.flatMap_append

/-! ## Shown and tidy texts -/

/-- A text without tags that is written as it is read. -/
def Shown (s : List Char) : Prop := ∃ items, (∀ item ∈ items, item.IsShown) ∧ s = textOf items

/-- Elements that are opened again where they have been cut off. -/
def reopenedElements : List String := "a" :: formattingElements

/-- Elements that stand in a line without any effect on what is around them. -/
def phraseElements : List String :=
  ["abbr", "acronym", "bdo", "cite", "del", "dfn", "ins", "kbd", "label", "mark", "q", "samp",
   "span", "sub", "sup", "var"]

/-- The elements of a tidy text. -/
def tidyElements : List String := reopenedElements ++ phraseElements ++ outerElements ++ ["li"]

/-- An element of a tidy text can be opened in some open elements, the innermost first, and nothing
    is closed for it: none that is opened again stands in one of the same name, none that ends a
    paragraph stands in one, and an item stands in its list. -/
structure Fits (name : String) (path : List String) : Prop where
  kind : name ∈ tidyElements
  reopened : name ∈ reopenedElements → name ∉ path
  paragraph : name ∈ outerElements ∨ name = "li" → "p" ∉ path
  item : name = "li" → path.head? = some "ol" ∨ path.head? = some "ul"

instance (name : String) (path : List String) : Decidable (Fits name path) :=
  decidable_of_iff (name ∈ tidyElements ∧ (name ∈ reopenedElements → name ∉ path) ∧
      (name ∈ outerElements ∨ name = "li" → "p" ∉ path) ∧
      (name = "li" → path.head? = some "ol" ∨ path.head? = some "ul"))
    ⟨fun ⟨hkind, hreopened, hparagraph, hitem⟩ => ⟨hkind, hreopened, hparagraph, hitem⟩,
      fun h => ⟨h.kind, h.reopened, h.paragraph, h.item⟩⟩

/-- Items that are nested in some open elements, the innermost first, and close all of them. The
    elements have kept tags. -/
def Nested (tags : List String) : List String → List Item → Prop
  | path, [] => path = []
  | path, .letter c :: rest => (Item.letter c).IsShown ∧ Nested tags path rest
  | path, .reference name :: rest => IsReference name ∧ Nested tags path rest
  | path, .start name :: rest =>
    (name ∈ tags ∧ Fits name path) ∧ Nested tags (name :: path) rest
  | path, .finish name :: rest => ∃ outer, path = name :: outer ∧ Nested tags outer rest

/-- A text whose elements are nested. -/
def Tidy (tags : List String) (s : List Char) : Prop :=
  ∃ items, Nested tags [] items ∧ s = textOf items

section Nested

variable {tags path : List String} {items : List Item}

theorem nested_append_of_isShown {shown : List Item} (h : ∀ item ∈ shown, item.IsShown)
    (items : List Item) : Nested tags path (shown ++ items) ↔ Nested tags path items := by
  induction shown with
  | nil => rfl
  | cons item shown ih =>
    obtain ⟨hitem, hshown⟩ := List.forall_mem_cons.1 h
    cases item with
    | letter c => rw [List.cons_append, Nested, and_iff_right hitem, ih hshown]
    | reference name =>
      have hname : IsReference name := hitem
      rw [List.cons_append, Nested, and_iff_right hname, ih hshown]
    | start name => exact hitem.elim
    | finish name => exact hitem.elim

theorem Nested.of_concat_letter {c : Char} (h : Nested tags path (items ++ [.letter c])) :
    Nested tags path items := by
  induction items generalizing path with
  | nil => exact h.2
  | cons item items ih =>
    cases item with
    | letter c => exact ⟨h.1, ih h.2⟩
    | reference name => exact ⟨h.1, ih h.2⟩
    | start name => exact ⟨h.1, ih h.2⟩
    | finish name =>
      obtain ⟨outer, hpath, h⟩ := h
      exact ⟨outer, hpath, ih h⟩

end Nested

theorem Shown.nil : Shown [] := ⟨[], fun _ h => absurd h List.not_mem_nil, rfl⟩

theorem Shown.append {s s' : List Char} (h : Shown s) (h' : Shown s') : Shown (s ++ s') := by
  obtain ⟨items, hitems, rfl⟩ := h
  obtain ⟨items', hitems', rfl⟩ := h'
  exact ⟨items ++ items', List.forall_mem_append.2 ⟨hitems, hitems'⟩, (textOf_append _ _).symm⟩

/-- A shown text has no control characters and begins no tag. -/
theorem Shown.isClear {s : List Char} (h : Shown s) : ∀ c ∈ s, IsClear c ∧ c ≠ '<' := by
  obtain ⟨items, hitems, rfl⟩ := h
  intro c hc
  obtain ⟨item, hitem, hc⟩ := List.mem_flatMap.1 hc
  have hshown := hitems item hitem
  cases item with
  | letter d =>
    obtain rfl := List.mem_singleton.1 hc
    exact ⟨hshown.1, hshown.2.2.1⟩
  | reference name =>
    have hmarks : ∀ c ∈ ['&', ';'], IsClear c ∧ c ≠ '<' := by
      simp [IsClear, isInvisible]
    simp only [Item.text, List.cons_append, List.mem_cons, List.mem_append, List.not_mem_nil,
      or_false] at hc
    rcases hc with rfl | hc | rfl
    · exact hmarks _ (by simp)
    · exact ⟨(hshown.clear c hc).1, (hshown.clear c hc).2.2⟩
    · exact hmarks _ (by simp)
  | start name => exact hshown.elim
  | finish name => exact hshown.elim

theorem Shown.tidy {s : List Char} (h : Shown s) (tags : List String) : Tidy tags s := by
  obtain ⟨items, hitems, rfl⟩ := h
  refine ⟨items, ?_, rfl⟩
  rw [← List.append_nil items, nested_append_of_isShown hitems]
  rfl

/-! ## The ends of a text -/

section Ends

variable {p : Char → Bool}

/-- A character that is no mark at the front of a text is an item of its own. -/
theorem exists_of_textOf_eq_cons {items : List Item} {c : Char} {s : List Char}
    (h : textOf items = c :: s) (hc : c ≠ '&' ∧ c ≠ '<') :
    ∃ rest, items = .letter c :: rest ∧ textOf rest = s := by
  cases items with
  | nil => cases h
  | cons item rest =>
    rw [textOf_cons] at h
    cases item with
    | letter d =>
      obtain ⟨rfl, rfl⟩ := List.cons.inj h
      exact ⟨rest, rfl, rfl⟩
    | reference name => exact absurd (List.cons.inj h).1.symm hc.1
    | start name => exact absurd (List.cons.inj h).1.symm hc.2
    | finish name => exact absurd (List.cons.inj h).1.symm hc.2

/-- A character that closes nothing at the end of a text is an item of its own. -/
theorem exists_of_textOf_eq_concat {items : List Item} {c : Char} {s : List Char}
    (h : textOf items = s ++ [c]) (hc : c ≠ ';' ∧ c ≠ '>') :
    ∃ rest, items = rest ++ [.letter c] ∧ textOf rest = s := by
  rcases List.eq_nil_or_concat items with rfl | ⟨rest, item, rfl⟩
  · exact absurd h.symm (by simp)
  · rw [List.concat_eq_append, textOf_append, textOf_cons, textOf_nil, List.append_nil] at h
    have hlast : ∀ body : List Char, ∀ d, item.text = body ++ [d] →
        textOf rest ++ body = s ∧ d = c := by
      intro body d hbody
      rw [hbody, ← List.append_assoc] at h
      obtain ⟨hs, hd⟩ := List.append_inj' h rfl
      exact ⟨hs, List.head_eq_of_cons_eq hd⟩
    cases item with
    | letter d =>
      obtain ⟨hs, rfl⟩ := hlast [] d rfl
      exact ⟨rest, List.concat_eq_append, by simpa using hs⟩
    | reference name => exact absurd (hlast ('&' :: name) ';' rfl).2.symm hc.1
    | start name => exact absurd (hlast ('<' :: name.toList) '>' rfl).2.symm hc.2
    | finish name => exact absurd (hlast ('<' :: '/' :: name.toList) '>' rfl).2.symm hc.2

/-- None of some characters is a mark of markup. -/
def IsUnmarked (p : Char → Bool) : Prop :=
  ∀ c, p c = true → (c ≠ '&' ∧ c ≠ '<') ∧ c ≠ ';' ∧ c ≠ '>'

/-- Unmarked characters can be taken from the ends of a text, if letters can be taken from the ends
    of its items. -/
theorem exists_of_textOf_eq_around (hp : IsUnmarked p) {Q : List Item → Prop}
    (hfirst : ∀ c rest, Q (.letter c :: rest) → Q rest)
    (hlast : ∀ c rest, Q (rest ++ [.letter c]) → Q rest) {before s after : List Char}
    (hbefore : ∀ c ∈ before, p c = true) (hafter : ∀ c ∈ after, p c = true) {items : List Item}
    (hitems : Q items) (h : textOf items = before ++ s ++ after) :
    ∃ middle, Q middle ∧ s = textOf middle := by
  induction before generalizing items with
  | nil =>
    induction after using List.reverseRecOn generalizing items with
    | nil => exact ⟨items, hitems, by simpa using h.symm⟩
    | append_singleton after c ih =>
      obtain ⟨hafter, hc⟩ := List.forall_mem_append.1 hafter
      rw [← List.append_assoc] at h
      obtain ⟨rest, rfl, hrest⟩ :=
        exists_of_textOf_eq_concat h (hp c (hc c List.mem_cons_self)).2
      exact ih hafter (hlast c rest hitems) hrest
  | cons c before ih =>
    obtain ⟨hc, hbefore⟩ := List.forall_mem_cons.1 hbefore
    obtain ⟨rest, rfl, hrest⟩ := exists_of_textOf_eq_cons h (hp c hc).1
    exact ih hbefore (hfirst c rest hitems) hrest

theorem Shown.of_around (hp : IsUnmarked p) {before s after : List Char}
    (h : Shown (before ++ s ++ after)) (hbefore : ∀ c ∈ before, p c = true)
    (hafter : ∀ c ∈ after, p c = true) : Shown s := by
  obtain ⟨items, hitems, htext⟩ := h
  exact exists_of_textOf_eq_around hp (fun _ _ h => (List.forall_mem_cons.1 h).2)
    (fun _ _ h => (List.forall_mem_append.1 h).1) hbefore hafter hitems htext.symm

theorem Tidy.of_around (hp : IsUnmarked p) {tags : List String} {before s after : List Char}
    (h : Tidy tags (before ++ s ++ after)) (hbefore : ∀ c ∈ before, p c = true)
    (hafter : ∀ c ∈ after, p c = true) : Tidy tags s := by
  obtain ⟨items, hitems, htext⟩ := h
  exact exists_of_textOf_eq_around hp (fun _ _ h => h.2) (fun _ _ h => h.of_concat_letter)
    hbefore hafter hitems htext.symm

end Ends

end FieldRules.Markup
