import FieldRules.Proofs.Markup.Nesting

/-!
# How a tidy text is read

A plain tree takes text as it is. The items of a tidy text leave the tree plain: a text is added to
the innermost open element, and a tag opens or closes the element that is written, and nothing else.

Results:
* `IsPlain.addText_append`: text that is added in parts.
* `Holds.addText`, `Holds.start`, `Holds.finish`: what the items do to the tree.
-/

namespace FieldRules.Markup

/-! ## Tags -/

/-- The elements that have tags with rules of their own. -/
def ruledElements : List String :=
  misplacedTags ++ outerElements ++ plainVoidElements ++ plainElements ++ headingElements ++
    enclosingElements ++ inlineVoidElements ++ closedElements ++
    ["button", "table", "plaintext", "xmp", "textarea", "pre", "listing", "form", "isindex", "li",
     "dd", "dt", "a", "nobr", "image", "hr", "select", "rp", "rt", "option", "optgroup", "svg",
     "math", "html", "body", "p", "br"]

theorem not_ruled : ∀ name ∈ formattingElements ++ phraseElements, name ∉ ruledElements := by
  decide +kernel

theorem not_misplaced : ∀ name ∈ outerElements, name ∉ "button" :: misplacedTags := by
  decide

theorem closed_of_mem_outerElements : ∀ name ∈ outerElements,
    name = "p" ∨
      name ∈ closedElements ∧ name ∉ impliedElements ∧ name ∉ ["html", "body", "pre"] := by
  decide

theorem not_reopened : ∀ name ∈ phraseElements ++ outerElements ++ ["li"],
    name ∉ reopenedElements := by
  decide +kernel

theorem cases_of_mem_tidyElements {name : String} (h : name ∈ tidyElements) :
    name = "a" ∨ name ∈ formattingElements ∨ name ∈ phraseElements ∨ name ∈ outerElements ∨
      name = "li" := by
  simpa only [tidyElements, reopenedElements, List.cons_append, List.mem_cons, List.mem_append,
    List.not_mem_nil, or_false, or_assoc] using h

namespace Tree

variable {t : Tree} {name : String}

theorem openInBody_of_not_ruled (h : name ∈ formattingElements ++ phraseElements) :
    t.openInBody ⟨name, [], false⟩ =
      .done (if name ∈ formattingElements then t.reopenFormatting.addFormatting name []
        else t.reopenFormatting.openElement name []) := by
  have hrule := not_ruled name h
  simp only [ruledElements, List.mem_append, List.mem_cons, List.not_mem_nil, or_false,
    not_or] at hrule
  simp [openInBody, hrule]

theorem closeInBody_of_not_ruled (h : name ∈ formattingElements ++ phraseElements) :
    t.closeInBody name =
      if name ∈ formattingElements then t.closeFormatting 8 name else t.closeOther name := by
  have hrule := not_ruled name h
  simp only [ruledElements, List.mem_append, List.mem_cons, List.not_mem_nil, or_false,
    not_or] at hrule
  simp [closeInBody, hrule]

theorem openInBody_of_mem_outerElements (h : name ∈ outerElements) :
    t.openInBody ⟨name, [], false⟩ = .done (t.endParagraph.openElement name []) := by
  have hrule := not_misplaced name h
  simp only [List.mem_cons, not_or] at hrule
  simp [openInBody, hrule, h]

theorem closeInBody_of_mem_closedElements (h : name ∈ closedElements)
    (hrule : name ∉ ["html", "body", "pre"]) : t.closeInBody name =
      if t.inScope .element name then (t.popImplied "").popName name else t := by
  simp only [List.mem_cons, List.not_mem_nil, or_false, not_or] at hrule
  simp [closeInBody, hrule, h]

end Tree

/-! ## Trees that take text as it is -/

/-- A tree that takes text and tags as those of a page, with no formatting to be opened again. -/
structure Tree.IsPlain (t : Tree) : Prop where
  dialect : t.dialectOf t.current = .html
  formatting : ∀ f ∈ t.formatting, ∃ id ∈ t.opened, f = some id
  mode : t.mode = .body
  fosters : t.fosters = false
  between : t.between = none
  skipsLineFeed : t.skipsLineFeed = false
  reading : t.reading = .markup

namespace Tree

variable {t : Tree}

theorem withText_append (run more : List Char) (contents : List Content) :
    withText (run ++ more) contents = withText more (withText run contents) := by
  cases contents with
  | nil => simp [withText]
  | cons c contents => cases c <;> simp [withText]

theorem edit_edit (t : Tree) (id : Nat) (f g : Element → Element) :
    (t.edit id f).edit id g = t.edit id (g ∘ f) := by
  have helements : (t.elements.modify id f).modify id g = t.elements.modify id (g ∘ f) := by
    ext j h h'
    · simp
    · simp only [Array.getElem_modify]
      split <;> rfl
  simp [edit, helements]

theorem dialectOf_edit (t : Tree) (id j : Nat) (f : List Content → List Content) :
    (t.edit id fun e => { e with contents := f e.contents }).dialectOf j = t.dialectOf j := by
  by_cases hj : j < t.elements.size
  · by_cases hid : j = id
    · subst hid
      rw [dialectOf, node_edit_self _ hj, dialectOf]
    · rw [dialectOf, node_edit_ne _ hid, dialectOf]
  · simp [dialectOf, node, edit, Array.getD, hj]

namespace IsPlain

theorem addText (h : t.IsPlain) (run : List Char) : (t.addText run).IsPlain := by
  by_cases hrun : run = []
  · rw [hrun, addText_nil]
    exact h
  · rw [addText_of_ne_nil h.fosters hrun]
    exact ⟨(dialectOf_edit t _ _ _).trans h.dialect, h.formatting, h.mode,
      h.fosters, h.between, h.skipsLineFeed, h.reading⟩

/-- Text that is added in two parts is added as one. -/
theorem addText_append (h : t.IsPlain) (run more : List Char) :
    t.addText (run ++ more) = (t.addText run).addText more := by
  by_cases hrun : run = []
  · rw [hrun, List.nil_append, addText_nil]
  by_cases hmore : more = []
  · rw [hmore, List.append_nil, addText_nil]
  have hboth : run ++ more ≠ [] := List.append_ne_nil_of_left_ne_nil hrun more
  have hcurrent : (t.addText run).current = t.current := by
    rw [addText_of_ne_nil h.fosters hrun]
    rfl
  rw [addText_of_ne_nil (h.addText run).fosters hmore, hcurrent,
    addText_of_ne_nil h.fosters hrun, addText_of_ne_nil h.fosters hboth, edit_edit]
  simp only [withText_append, Function.comp_def]

/-- Formatting that is open needs not be opened again. -/
theorem reopenFormatting (h : t.IsPlain) : t.reopenFormatting = t := by
  unfold Tree.reopenFormatting
  cases hformatting : t.formatting with
  | nil =>
    show { t with formatting := [] } = t
    rw [← hformatting]
  | cons f rest =>
    obtain ⟨id, hid, rfl⟩ := h.formatting f (hformatting ▸ List.mem_cons_self)
    simp only [List.takeWhile_cons, List.dropWhile_cons, hid, not_true_eq_false, decide_false,
      if_neg Bool.false_ne_true, List.reverse_nil, List.filterMap_nil, List.foldl_nil]
    rw [← hformatting]

theorem not_foreign (h : t.IsPlain) :
    t.isForeign t.current = false ∧ ∀ tag, t.takesTag tag = false := by
  have hforeign : t.isForeign t.current = false := by simp [isForeign, h.dialect]
  have hformula : t.holdsFormulaText t.current = false := by simp [holdsFormulaText, h.dialect]
  exact ⟨hforeign, fun tag => by simp [takesTag, hforeign, hformula]⟩

theorem read_text (h : t.IsPlain) (run : List Char) : t.read (.text run) = t.addText run := by
  simp [read, h.between, readText, h.not_foreign.1, h.mode, addTextInBody, h.reopenFormatting]

theorem read_space (h : t.IsPlain) (run : List Char) : t.read (.space run) = t.addText run := by
  have hskips : { t with skipsLineFeed := false } = t := by rw [← h.skipsLineFeed]
  have hspaces : t.addSpacesInBody run = t.addText run := by
    simp only [addSpacesInBody, h.skipsLineFeed, Bool.false_and, hskips,
      if_neg Bool.false_ne_true, addTextInBody, h.reopenFormatting]
    cases run <;> rfl
  simp [read, h.between, readSpaces, h.not_foreign.1, h.mode, hspaces]

theorem releaseText (h : t.IsPlain) : t.releaseText = t := by
  simp [Tree.releaseText, h.between]

end IsPlain

end Tree

/-! ## What the items do to the tree -/

/-- A tree has been read from a text in which elements of some names are open: it is read on as
    text with tags, and the formatting elements to be opened again are those that are open. -/
structure Holds (tags : List String) (t : Tree) (names : List String) (s : List Char) : Prop where
  spine : Spine tags t t.opened names [] s
  formatting : t.formatting =
    (t.opened.filter fun id => decide (t.nameOf id ∈ reopenedElements)).map some
  mode : t.mode = .body
  fosters : t.fosters = false
  between : t.between = none
  skipsLineFeed : t.skipsLineFeed = false
  reading : t.reading = .markup

section Holds

variable {tags : List String} {t : Tree} {names : List String} {s : List Char} {name : String}

theorem holds_start (tags : List String) : Holds tags Tree.start [] [] where
  spine := .root rfl (by decide) .nil
  formatting := by rfl
  mode := rfl
  fosters := rfl
  between := rfl
  skipsLineFeed := rfl
  reading := rfl

theorem Holds.exists_cons (h : Holds tags t names s) :
    ∃ id path, t.opened = id :: path ∧ t.current = id ∧ t.dialectOf t.current = .html := by
  obtain ⟨id, path, hopened⟩ := List.exists_cons_of_ne_nil h.spine.ne_nil
  have hcurrent : t.current = id := by rw [Tree.current, hopened]; rfl
  refine ⟨id, path, hopened, hcurrent, hcurrent ▸ h.spine.dialectOf id ?_⟩
  rw [hopened]
  exact List.mem_cons_self

theorem Holds.plain (h : Holds tags t names s) : t.IsPlain where
  dialect := by
    obtain ⟨_, _, _, _, hdialect⟩ := h.exists_cons
    exact hdialect
  formatting := by
    rw [h.formatting]
    intro f hf
    obtain ⟨id, hid, rfl⟩ := List.mem_map.1 hf
    exact ⟨id, (List.mem_filter.1 hid).1, rfl⟩
  mode := h.mode
  fosters := h.fosters
  between := h.between
  skipsLineFeed := h.skipsLineFeed
  reading := h.reading

theorem filter_reopened_congr {t t' : Tree} {ids : List Nat}
    (h : ids.map t.nameOf = ids.map t'.nameOf) :
    (ids.filter fun id => decide (t.nameOf id ∈ reopenedElements)) =
      ids.filter fun id => decide (t'.nameOf id ∈ reopenedElements) :=
  List.filter_congr fun id hid => by rw [List.map_inj_left.1 h id hid]

theorem Holds.addText {run : List Char} (h : Holds tags t names s) (hrun : Shown run) :
    Holds tags (t.addText run) names (s ++ run) := by
  have hspine := h.spine.addText h.fosters hrun
  have hplain := h.plain.addText run
  have hnames := h.spine.map_nameOf.trans hspine.map_nameOf.symm
  have hkept : (t.addText run).opened = t.opened ∧ (t.addText run).formatting = t.formatting := by
    by_cases hempty : run = []
    · rw [hempty]
      exact ⟨rfl, rfl⟩
    · rw [Tree.addText_of_ne_nil h.fosters hempty]
      exact ⟨rfl, rfl⟩
  refine ⟨hkept.1.symm ▸ hspine, ?_, hplain.mode, hplain.fosters, hplain.between,
    hplain.skipsLineFeed, hplain.reading⟩
  rw [hkept.1, hkept.2, h.formatting, filter_reopened_congr hnames]

theorem readUntilDone_of_done {turn : Tree → Turn} {t' : Tree} (h : turn t = .done t') (n : Nat) :
    Tree.readUntilDone (n + 1) turn t = t' := by
  rw [Tree.readUntilDone, h]

theorem filterMap_takeWhile_isSome (ids : List Nat) :
    ((ids.map some).takeWhile Option.isSome).filterMap (fun i => i) = ids := by
  rw [List.takeWhile_eq_self_iff.2 (by simp), List.filterMap_map]
  exact List.filterMap_some

/-- A formatting element of a new name is one more to be opened again; none is given up for it. -/
theorem Holds.addFormatting_eq (h : Holds tags t names s)
    (hspine : Spine tags (t.openElement name []) (t.openElement name []).opened (name :: names) []
      (s ++ (Item.start name).text)) (hname : name ∉ names ++ ["html"]) :
    t.addFormatting name [] = { t.openElement name [] with
      formatting := some t.elements.size :: t.formatting } := by
  have hformatting : (t.openElement name []).formatting = t.formatting := by
    rw [Tree.openElement_eq h.fosters]
    rfl
  have hnames : t.opened.map (t.openElement name []).nameOf = names ++ ["html"] := by
    have hmap := hspine.map_nameOf
    rw [Tree.opened_openElement h.fosters, List.map_cons, List.cons_append] at hmap
    exact (List.cons.inj hmap).2
  have hother : ∀ id ∈ t.opened, (t.openElement name []).nameOf id ≠ name := by
    intro id hid heq
    have hmem := List.mem_map_of_mem (f := (t.openElement name []).nameOf) hid
    rw [hnames, heq] at hmem
    exact hname hmem
  unfold Tree.addFormatting
  simp only [hformatting, h.formatting, filterMap_takeWhile_isSome]
  rw [List.filter_eq_nil_iff.2]
  · rfl
  · intro id hid halike
    simp only [Bool.and_eq_true, decide_eq_true_eq] at halike
    exact hother id (List.mem_filter.1 hid).1 halike.1.1

/-! ### Opening -/

theorem Holds.mem_names (h : Holds tags t names s) {id : Nat} (hid : id ∈ t.opened) :
    t.nameOf id ∈ names ++ ["html"] := by
  rw [← h.spine.map_nameOf]
  exact List.mem_map_of_mem hid

/-- No paragraph is ended where none is open. -/
theorem Holds.not_inScope_paragraph (h : Holds tags t names s) (hparagraph : "p" ∉ names) :
    t.inScope .button "p" = false := by
  have hnone : ∀ id ∈ t.opened, t.isPage id "p" = false := by
    intro id hid
    refine Bool.eq_false_iff.2 fun hpage => ?_
    simp only [Tree.isPage, Bool.and_eq_true, decide_eq_true_eq] at hpage
    have hmem := h.mem_names hid
    rw [hpage.2, List.mem_append] at hmem
    exact hmem.elim hparagraph (by decide)
  unfold Tree.inScope Tree.reaches
  split
  · next id hid => exact hnone id (List.mem_of_find?_eq_some hid)
  · rfl

/-- No link is open where none is among the names, so that none is closed for another. -/
theorem Holds.openLink (h : Holds tags t names s) (hlink : "a" ∉ names) :
    t.openLink [] = t.addFormatting "a" [] := by
  have hnone : t.formattingNamed "a" = none := by
    rw [Tree.formattingNamed, h.formatting, filterMap_takeWhile_isSome, List.find?_eq_none]
    intro id hid hname
    have hmem := h.mem_names (List.mem_filter.1 hid).1
    rw [of_decide_eq_true hname, List.mem_append] at hmem
    exact hmem.elim hlink (by decide)
  rw [Tree.openLink, hnone]
  show t.reopenFormatting.addFormatting "a" [] = _
  rw [h.plain.reopenFormatting]

/-- An item right inside of its list is opened there. -/
theorem Holds.openItem (h : Holds tags t names s)
    (hlist : names.head? = some "ol" ∨ names.head? = some "ul") (hparagraph : "p" ∉ names) :
    t.openItem "li" [] = t.openElement "li" [] := by
  obtain ⟨id, path, hopened, -, -⟩ := h.exists_cons
  have hspecial : t.nameOf id ≠ "li" ∧ t.isSpecial id = true ∧
      t.nameOf id ∉ ["address", "div", "p"] := by
    have hdialect : t.dialectOf id = .html :=
      h.spine.dialectOf id (by rw [hopened]; exact List.mem_cons_self)
    have hhead : names.head? = some (t.nameOf id) ∨ names = [] := by
      have hnames := h.spine.map_nameOf
      rw [hopened] at hnames
      cases names with
      | nil => exact .inr rfl
      | cons name names => exact .inl (congrArg some (List.cons.inj hnames).1.symm)
    have hname : t.nameOf id = "ol" ∨ t.nameOf id = "ul" := by
      rcases hhead with hhead | hnil
      · simpa [hhead] using hlist
      · simp [hnil] at hlist
    rcases hname with hname | hname <;>
      simp [Tree.isSpecial, hdialect, hname, specialElements]
  obtain ⟨hname, hspecial, hother⟩ := hspecial
  have hfind : (t.opened.find? fun id => decide (t.nameOf id ∈ ["li"]) ||
      (t.isSpecial id && decide (t.nameOf id ∉ ["address", "div", "p"]))) = some id := by
    rw [hopened, List.find?_cons_of_pos]
    rw [hspecial, decide_eq_true hother, Bool.and_self, Bool.or_true]
  have hnot : t.nameOf id ∉ ["li"] := mt List.mem_singleton.1 hname
  simp only [Tree.openItem, if_true, hfind, hnot, if_false, h.not_inScope_paragraph hparagraph,
    if_neg Bool.false_ne_true]

/-- The tag of an element that can be opened opens the element, and that is all. -/
theorem Holds.openInBody (h : Holds tags t names s) (hfits : Fits name names) :
    t.openInBody ⟨name, [], false⟩ = .done
      (if name ∈ reopenedElements then t.addFormatting name [] else t.openElement name []) := by
  have hreopen := h.plain.reopenFormatting
  rcases cases_of_mem_tidyElements hfits.kind with rfl | hkind | hkind | hkind | rfl
  · have hlink : "a" ∉ names := hfits.reopened (by decide)
    rw [if_pos (by decide), ← h.openLink hlink]
    rfl
  · have hmem : name ∈ reopenedElements := List.mem_cons_of_mem _ hkind
    rw [Tree.openInBody_of_not_ruled (List.mem_append_left _ hkind), if_pos hkind, hreopen,
      if_pos hmem]
  · have hnot : name ∉ reopenedElements :=
      not_reopened name (List.mem_append_left _ (List.mem_append_left _ hkind))
    rw [Tree.openInBody_of_not_ruled (List.mem_append_right _ hkind), hreopen, if_neg hnot,
      if_neg fun hmem => hnot (List.mem_cons_of_mem _ hmem)]
  · have hnot : name ∉ reopenedElements :=
      not_reopened name (List.mem_append_left _ (List.mem_append_right _ hkind))
    rw [Tree.openInBody_of_mem_outerElements hkind, Tree.endParagraph,
      h.not_inScope_paragraph (hfits.paragraph (.inl hkind)), if_neg Bool.false_ne_true,
      if_neg hnot]
  · rw [if_neg (by decide), ← h.openItem (hfits.item rfl) (hfits.paragraph (.inr rfl))]
    rfl

theorem Holds.read_start (h : Holds tags t names s) (hfits : Fits name names) :
    t.read (.start ⟨name, [], false⟩) =
      if name ∈ reopenedElements then t.addFormatting name [] else t.openElement name [] := by
  have hopen : t.openOnce ⟨name, [], false⟩ = .done
      (if name ∈ reopenedElements then t.addFormatting name [] else t.openElement name []) := by
    simp only [Tree.openOnce, h.plain.not_foreign.2, if_neg Bool.false_ne_true, h.mode,
      h.openInBody hfits]
  rw [Tree.read, h.plain.releaseText]
  exact readUntilDone_of_done hopen _

/-- An opening tag opens its element. -/
theorem Holds.start (h : Holds tags t names s) (htag : name ∈ tags) (hfits : Fits name names) :
    Holds tags (t.read (.start ⟨name, [], false⟩)) (name :: names)
      (s ++ (Item.start name).text) := by
  have hspine := h.spine.openElement h.fosters htag hfits.kind
  have hopened := Tree.opened_openElement h.fosters name
  have hmap := hspine.map_nameOf
  rw [hopened, List.map_cons, List.cons_append] at hmap
  obtain ⟨hnew, hold⟩ := List.cons.inj hmap
  have hfields : (t.openElement name []).mode = t.mode ∧
      (t.openElement name []).fosters = t.fosters ∧
      (t.openElement name []).between = t.between ∧
      (t.openElement name []).skipsLineFeed = t.skipsLineFeed ∧
      (t.openElement name []).reading = t.reading ∧
      (t.openElement name []).formatting = t.formatting := by
    rw [Tree.openElement_eq h.fosters]
    exact ⟨rfl, rfl, rfl, rfl, rfl, rfl⟩
  obtain ⟨hmode, hfosters, hbetween, hskips, hreading, hformatting⟩ := hfields
  have hfilter := filter_reopened_congr (h.spine.map_nameOf.trans hold.symm)
  have hholds : ∀ formatting, formatting = ((t.elements.size :: t.opened).filter fun id =>
      decide ((t.openElement name []).nameOf id ∈ reopenedElements)).map some →
      Holds tags { t.openElement name [] with formatting := formatting } (name :: names)
        (s ++ (Item.start name).text) := by
    intro formatting hf
    rw [← hopened] at hf
    exact ⟨hspine.congr ⟨le_rfl, fun _ hclosed => ⟨hclosed, rfl⟩, fun _ _ => rfl⟩,
      hf, hmode.trans h.mode, hfosters.trans h.fosters, hbetween.trans h.between,
      hskips.trans h.skipsLineFeed, hreading.trans h.reading⟩
  rw [h.read_start hfits]
  split
  · next hmem =>
    have hname : name ∉ names ++ ["html"] := by
      rw [List.mem_append, List.mem_singleton, not_or]
      exact ⟨hfits.reopened hmem, fun hhtml => absurd (hhtml ▸ hmem) (by decide)⟩
    rw [h.addFormatting_eq hspine hname]
    refine hholds _ ?_
    rw [List.filter_cons_of_pos (by rw [hnew]; exact decide_eq_true hmem), List.map_cons,
      h.formatting, hfilter]
  · next hmem =>
    refine hholds (t.openElement name []).formatting ?_
    rw [List.filter_cons_of_neg (by rw [hnew]; simpa using hmem), hformatting, h.formatting,
      hfilter]

/-! ### Closing -/

section Closing

variable {id : Nat} {path : List Nat}

theorem closeOther_eq (hopened : t.opened = id :: path) (hname : t.nameOf id = name) :
    t.closeOther name = { t with opened := path } := by
  simp [Tree.closeOther, hopened, hname, Tree.popImplied, Tree.popThrough]

theorem inScope_self (hopened : t.opened = id :: path) (hname : t.nameOf id = name)
    (hdialect : t.dialectOf id = .html) (scope : Tree.Scope) : t.inScope scope name = true := by
  simp [Tree.inScope, Tree.reaches, hopened, Tree.isPage, hdialect, hname]

theorem popName_popImplied (hopened : t.opened = id :: path) (hname : t.nameOf id = name)
    {except : String} (hexcept : name ∉ impliedElements ∨ name = except) :
    (t.popImplied except).popName name = { t with opened := path } := by
  have hkept : t.popImplied except = t := by
    rw [Tree.popImplied, hopened, List.dropWhile_cons_of_neg, ← hopened]
    rw [hname]
    rcases hexcept with hexcept | hexcept <;> simp [hexcept]
  rw [hkept]
  simp [Tree.popName, Tree.popThrough, hopened, hname]

theorem closeFormatting_eq (hopened : t.opened = id :: path) (hname : t.nameOf id = name)
    (hdialect : t.dialectOf id = .html) {ids : List Nat}
    (hformatting : t.formatting = (id :: ids).map some) :
    t.closeFormatting 8 name = { t with opened := path, formatting := ids.map some } := by
  have hnamed : t.formattingNamed name = some id := by
    rw [Tree.formattingNamed, hformatting, filterMap_takeWhile_isSome]
    simp [hname]
  simp [Tree.closeFormatting, hnamed, hopened, inScope_self hopened hname hdialect,
    Tree.popThrough, hformatting]

/-- The innermost element is closed by its name, if it is one that is not opened again. -/
theorem closeInBody_of_not_reopened (hopened : t.opened = id :: path) (hname : t.nameOf id = name)
    (hdialect : t.dialectOf id = .html) (hkind : name ∈ tidyElements)
    (hnot : name ∉ reopenedElements) : t.closeInBody name = { t with opened := path } := by
  have hscope := inScope_self hopened hname hdialect
  rcases cases_of_mem_tidyElements hkind with rfl | hkind | hkind | hkind | rfl
  · exact absurd List.mem_cons_self hnot
  · exact absurd (List.mem_cons_of_mem _ hkind) hnot
  · rw [Tree.closeInBody_of_not_ruled (List.mem_append_right _ hkind),
      if_neg fun hmem => hnot (List.mem_cons_of_mem _ hmem), closeOther_eq hopened hname]
  · rcases closed_of_mem_outerElements name hkind with rfl | ⟨hclosed, himplied, hrule⟩
    · have hclose : t.closeInBody "p" = t.closeParagraph := by rfl
      rw [hclose, Tree.closeParagraph, if_pos (hscope _),
        popName_popImplied hopened hname (.inr rfl)]
    · rw [Tree.closeInBody_of_mem_closedElements hclosed hrule, if_pos (hscope _),
        popName_popImplied hopened hname (.inl himplied)]
  · have hclose : t.closeInBody "li" = t.closeItem "li" := by rfl
    rw [hclose, Tree.closeItem, if_pos (hscope _), popName_popImplied hopened hname (.inr rfl)]

theorem closeInBody_of_reopened (hopened : t.opened = id :: path) (hname : t.nameOf id = name)
    (hdialect : t.dialectOf id = .html) (hmem : name ∈ reopenedElements) {ids : List Nat}
    (hformatting : t.formatting = (id :: ids).map some) :
    t.closeInBody name = { t with opened := path, formatting := ids.map some } := by
  rw [← closeFormatting_eq hopened hname hdialect hformatting]
  rcases List.mem_cons.1 hmem with rfl | hmem
  · rfl
  · rw [Tree.closeInBody_of_not_ruled (List.mem_append_left _ hmem), if_pos hmem]

end Closing

theorem Spine.mem_names {ids : List Nat} {link : List Content}
    (h : Spine tags t ids names link s) : ∀ name ∈ names, name ∈ tags ∧ name ∈ tidyElements := by
  induction h with
  | root => exact fun _ h => absurd h List.not_mem_nil
  | inner _ _ _ _ htag hkind _ ih => exact List.forall_mem_cons.2 ⟨⟨htag, hkind⟩, ih⟩

/-- The innermost element is closed by its name, and the formatting left is what is still open. -/
theorem Holds.closeInBody (h : Holds tags t (name :: names) s) {id : Nat} {path : List Nat}
    (hopened : t.opened = id :: path) : t.closeInBody name = { t with
      opened := path
      formatting := (path.filter fun id => decide (t.nameOf id ∈ reopenedElements)).map some } := by
  have hnames := h.spine.map_nameOf
  rw [hopened, List.map_cons, List.cons_append] at hnames
  have hname : t.nameOf id = name := (List.cons.inj hnames).1
  have hdialect : t.dialectOf id = .html :=
    h.spine.dialectOf id (by rw [hopened]; exact List.mem_cons_self)
  have hkind := (h.spine.mem_names name List.mem_cons_self).2
  have hformatting := h.formatting
  rw [hopened] at hformatting
  by_cases hmem : name ∈ reopenedElements
  · rw [List.filter_cons_of_pos (by rw [hname]; exact decide_eq_true hmem)] at hformatting
    exact closeInBody_of_reopened hopened hname hdialect hmem hformatting
  · rw [List.filter_cons_of_neg (by rw [hname]; simpa using hmem)] at hformatting
    rw [closeInBody_of_not_reopened hopened hname hdialect hkind hmem, ← hformatting]

/-- A closing tag closes its element. -/
theorem Holds.finish (h : Holds tags t (name :: names) s) :
    Holds tags (t.read (.finish name)) names (s ++ (Item.finish name).text) := by
  obtain ⟨id, path, hopened, hcurrent, hdialect⟩ := h.exists_cons
  have hclose : t.closeOnce name = .done (t.closeInBody name) := by
    rw [Tree.closeOnce, if_pos hdialect, Tree.closeInMode, h.mode]
  have hread : t.read (.finish name) = t.closeInBody name := by
    rw [Tree.read, h.plain.releaseText]
    exact readUntilDone_of_done hclose _
  have hspine := h.spine
  rw [hopened] at hspine
  rw [hread, h.closeInBody hopened]
  exact ⟨hspine.close hopened rfl rfl, rfl, h.mode, h.fosters, h.between, h.skipsLineFeed,
    h.reading⟩

end Holds

end FieldRules.Markup
