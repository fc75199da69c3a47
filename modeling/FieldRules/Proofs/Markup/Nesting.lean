import FieldRules.Proofs.Markup.Writing

/-!
# Trees of nested elements

The tree of a tidy text has the elements that are still open on a line from the root to the
innermost one, and all else in it is closed. So what has been read of the text is what the elements
on this line hold, one behind the other.

Results:
* `Reads.keeps`: what closed contents were read from is what they are written as.
* `Spine.focus`: what the innermost open element holds, and what comes of a change of it.
* `Spine.addText`, `Spine.openElement`, `Spine.close`: what the steps of the reader come to.
-/

namespace FieldRules.Markup

/-! ## Tidy elements -/

theorem not_void_of_mem_tidyElements : ∀ name ∈ tidyElements, name ∉ voidElements := by
  decide

/-! ## Closed contents -/

/-- An element of the tree that is not open any more. -/
def Tree.IsClosed (t : Tree) (id : Nat) : Prop := id < t.elements.size ∧ id ∉ t.opened

/-- Contents, the latest first, that have been read from a text: shown texts, and closed elements
    that have been made after the one that holds them. -/
inductive Reads (tags : List String) (t : Tree) : Nat → List Content → List Char → Prop where
  | nil {holder : Nat} : Reads tags t holder [] []
  | text {holder : Nat} {rest : List Content} {out : List Char} (run : List Char)
      (hrun : Shown run.reverse) (hrest : Reads tags t holder rest out) :
      Reads tags t holder (.text run :: rest) (out ++ run.reverse)
  | element {holder id : Nat} {name : String} {parent : Option Nat} {contents rest : List Content}
      {inner out : List Char} (hid : holder < id) (hclosed : t.IsClosed id)
      (hnode : t.node id = ⟨.html, name, [], parent, contents⟩) (htag : name ∈ tags)
      (hkind : name ∈ tidyElements) (hinner : Reads tags t id contents inner)
      (hrest : Reads tags t holder rest out) :
      Reads tags t holder (.element id :: rest)
        (out ++ ((Item.start name).text ++ inner ++ (Item.finish name).text))

/-- Closed elements are the same in both trees, and closed in both. -/
def Tree.KeepsClosed (t t' : Tree) : Prop :=
  ∀ id, t.IsClosed id → t'.IsClosed id ∧ t'.node id = t.node id

section Reads

variable {tags : List String} {t t' : Tree} {holder : Nat} {contents : List Content}
  {out : List Char}

theorem Reads.congr (h : t.KeepsClosed t') (hreads : Reads tags t holder contents out) :
    Reads tags t' holder contents out := by
  induction hreads with
  | nil => exact .nil
  | text run hrun _ ih => exact .text run hrun ih
  | element hid hclosed hnode htag hkind _ _ ihinner ihrest =>
    obtain ⟨hclosed', hsame⟩ := h _ hclosed
    exact .element hid hclosed' (hsame.trans hnode) htag hkind ihinner ihrest

/-- Text that is added to what an element holds. -/
theorem Reads.withText {run : List Char} (hrun : Shown run)
    (h : Reads tags t holder contents out) :
    Reads tags t holder (Tree.withText run contents) (out ++ run) := by
  have hnew : ∀ {rest out}, Reads tags t holder rest out →
      Reads tags t holder (.text run.reverse :: rest) (out ++ run) := by
    intro rest out hrest
    have htext := Reads.text run.reverse (by rwa [List.reverse_reverse]) hrest
    rwa [List.reverse_reverse] at htext
  cases h with
  | nil => exact hnew .nil
  | text before hbefore hrest =>
    have htext := Reads.text (run.reverse ++ before)
      (by rw [List.reverse_append, List.reverse_reverse]; exact hbefore.append hrun) hrest
    rwa [List.reverse_append, List.reverse_reverse, ← List.append_assoc] at htext
  | element hid hclosed hnode htag hkind hinner hrest =>
    exact hnew (.element hid hclosed hnode htag hkind hinner hrest)

theorem Reads.settled (h : Reads tags t holder contents out) :
    Tree.settled contents = contents := by
  induction h with
  | nil => rfl
  | text run hrun hrest ih =>
    cases hrest <;> rw [Tree.settled, ih] <;> simp
  | element hid hclosed hnode htag hkind hinner hrest ihinner ihrest =>
    rw [Tree.settled_element, ihrest]

theorem contentPieces_cons (t : Tree) (depth : Nat) (c : Content) (rest : List Content) :
    contentPieces t (depth + 1) (c :: rest) =
      contentPieces t (depth + 1) rest ++ contentPieces t (depth + 1) [c] := by
  simp [contentPieces]

theorem contentPieces_text (t : Tree) (depth : Nat) (run : List Char) :
    contentPieces t (depth + 1) [.text run] = textPieces run.reverse := by
  simp [contentPieces]

theorem contentPieces_element {id : Nat} {name : String} {parent : Option Nat}
    (hnode : t.node id = ⟨.html, name, [], parent, contents⟩) (hname : name ∉ voidElements)
    (depth : Nat) : contentPieces t (depth + 1) [.element id] =
      [.start name []] ++ contentPieces t depth contents ++ [.finish name] := by
  simp [contentPieces, hnode, hname]

/-- What closed contents were read from is what they are written as. The elements in an element have
    been made after it, so that they stand no deeper than there are elements. -/
theorem Reads.keeps {policy : Policy} (h : Reads tags t holder contents out) {depth : Nat}
    (hholder : holder < t.elements.size) (hdepth : t.elements.size ≤ holder + depth) :
    Keeps policy tags (contentPieces t depth contents) out := by
  obtain ⟨depth, rfl⟩ : ∃ d, depth = d + 1 := ⟨depth - 1, by omega⟩
  induction h generalizing depth with
  | nil => exact Keeps.nil
  | text run hrun hrest ih =>
    rw [contentPieces_cons, contentPieces_text]
    exact (ih hholder depth hdepth).append (keeps_textPieces hrun)
  | @element holder id name parent contents rest inner out hid hclosed hnode htag hkind hinner
      hrest ihinner ihrest =>
    rw [contentPieces_cons,
      contentPieces_element hnode (not_void_of_mem_tidyElements name hkind)]
    obtain ⟨depth', rfl⟩ : ∃ d, depth = d + 1 := ⟨depth - 1, by have := hclosed.1; omega⟩
    refine (ihrest hholder _ hdepth).append ?_
    exact ((keeps_start htag).append (ihinner hclosed.1 depth' (by omega))).append
      (keeps_finish htag)

end Reads

/-! ## Open elements -/

/-- The open elements, the innermost first, the names of all but the root, and the text that has
    been read so far. Each of them but the innermost holds the next one last, and the innermost
    holds `link` last. -/
inductive Spine (tags : List String) (t : Tree) :
    List Nat → List String → List Content → List Char → Prop where
  | root {attributes : Entries String} {parent : Option Nat} {link contents : List Content}
      {out : List Char}
      (hnode : t.node 0 = ⟨.html, "html", attributes, parent, link ++ contents⟩)
      (hsize : 0 < t.elements.size) (hreads : Reads tags t 0 contents out) :
      Spine tags t [0] [] link out
  | inner {outer id : Nat} {path : List Nat} {name : String} {names : List String}
      {parent : Option Nat} {link contents : List Content} {before out : List Char}
      (houter : Spine tags t (outer :: path) names [.element id] before) (hid : outer < id)
      (hsize : id < t.elements.size)
      (hnode : t.node id = ⟨.html, name, [], parent, link ++ contents⟩) (htag : name ∈ tags)
      (hkind : name ∈ tidyElements) (hreads : Reads tags t id contents out) :
      Spine tags t (id :: outer :: path) (name :: names) link
        (before ++ ((Item.start name).text ++ out))

/-- A tree goes on from another one: what is closed stays as it is, and so do some open elements. -/
structure Tree.Continues (t t' : Tree) (path : List Nat) : Prop where
  size : t.elements.size ≤ t'.elements.size
  closed : t.KeepsClosed t'
  opened : ∀ id ∈ path, t'.node id = t.node id

section Spine

variable {tags : List String} {t t' : Tree} {id : Nat} {ids path : List Nat} {names : List String}
  {link : List Content} {s : List Char}

theorem Spine.congr (h : Spine tags t ids names link s) (hcontinues : t.Continues t' ids) :
    Spine tags t' ids names link s := by
  induction h with
  | root hnode hsize hreads =>
    exact .root ((hcontinues.opened _ List.mem_cons_self).trans hnode)
      (hsize.trans_le hcontinues.size) (hreads.congr hcontinues.closed)
  | inner houter hid hsize hnode htag hkind hreads ih =>
    exact .inner (ih ⟨hcontinues.size, hcontinues.closed,
        fun j hj => hcontinues.opened j (List.mem_cons_of_mem _ hj)⟩) hid
      (hsize.trans_le hcontinues.size)
      ((hcontinues.opened _ List.mem_cons_self).trans hnode) htag hkind
      (hreads.congr hcontinues.closed)

/-- What the innermost open element holds has been read last, and it can be changed alone. -/
theorem Spine.focus (h : Spine tags t (id :: path) names link s) :
    ∃ contents before out, s = before ++ out ∧ (t.node id).contents = link ++ contents ∧
      Reads tags t id contents out ∧
      ∀ t' link' contents' out', t.Continues t' path →
        t'.node id = { t.node id with contents := link' ++ contents' } →
        Reads tags t' id contents' out' →
          Spine tags t' (id :: path) names link' (before ++ out') := by
  cases h with
  | @root attributes parent _ contents _ hnode hsize hreads =>
    refine ⟨contents, [], s, rfl, by rw [hnode], hreads, ?_⟩
    intro t' link' contents' out' hcontinues hnode' hreads'
    rw [hnode] at hnode'
    exact .root hnode' (hsize.trans_le hcontinues.size) hreads'
  | @inner outer _ path name names parent _ contents before out houter hid hsize hnode htag hkind
      hreads =>
    refine ⟨contents, before ++ (Item.start name).text, out, by rw [List.append_assoc],
      by rw [hnode], hreads, ?_⟩
    intro t' link' contents' out' hcontinues hnode' hreads'
    rw [hnode] at hnode'
    rw [List.append_assoc]
    exact .inner (houter.congr hcontinues) hid (hsize.trans_le hcontinues.size) hnode' htag hkind
      hreads'

/-- Open elements have been made one after the other. -/
theorem Spine.pairwise (h : Spine tags t ids names link s) : ids.Pairwise (· > ·) := by
  induction h with
  | root => exact List.pairwise_singleton _ _
  | @inner outer id path name names parent link contents before out houter hid hsize hnode htag
      hkind hreads ih =>
    refine List.pairwise_cons.2 ⟨fun j hj => ?_, ih⟩
    rcases List.mem_cons.1 hj with rfl | hj
    · exact hid
    · exact ((List.pairwise_cons.1 ih).1 j hj).trans hid

theorem Spine.lt_size (h : Spine tags t ids names link s) : ∀ id ∈ ids, id < t.elements.size := by
  induction h with
  | root _ hsize _ => exact fun id hid => (List.mem_singleton.1 hid) ▸ hsize
  | inner _ _ hsize _ _ _ _ ih => exact List.forall_mem_cons.2 ⟨hsize, ih⟩

theorem Spine.dialectOf (h : Spine tags t ids names link s) :
    ∀ id ∈ ids, t.dialectOf id = .html := by
  induction h with
  | root hnode _ _ =>
    intro id hid
    rw [List.mem_singleton.1 hid, Tree.dialectOf, hnode]
  | inner _ _ _ hnode _ _ _ ih =>
    exact List.forall_mem_cons.2 ⟨by rw [Tree.dialectOf, hnode], ih⟩

theorem Spine.map_nameOf (h : Spine tags t ids names link s) :
    ids.map t.nameOf = names ++ ["html"] := by
  induction h with
  | root hnode _ _ => simp [Tree.nameOf, hnode]
  | inner _ _ _ hnode _ _ _ ih => rw [List.map_cons, ih, Tree.nameOf, hnode, List.cons_append]

theorem Spine.ne_nil (h : Spine tags t ids names link s) : ids ≠ [] := by
  cases h <;> exact List.cons_ne_nil _ _

theorem Spine.notMem (h : Spine tags t (id :: path) names link s) : id ∉ path :=
  fun hmem => absurd ((List.pairwise_cons.1 h.pairwise).1 id hmem) (lt_irrefl id)

end Spine

/-! ## Steps -/

section Steps

variable {tags : List String} {t : Tree} {id : Nat} {path : List Nat} {names : List String}
  {s : List Char}

theorem Tree.size_edit (t : Tree) (id : Nat) (f : Element → Element) :
    (t.edit id f).elements.size = t.elements.size := by
  simp [Tree.edit]

theorem Tree.node_edit_self (f : Element → Element) (h : id < t.elements.size) :
    (t.edit id f).node id = f (t.node id) := by
  simp [Tree.node, Tree.edit, Array.getD, h, Array.getElem_modify]

theorem Tree.node_edit_ne {j : Nat} (f : Element → Element) (h : j ≠ id) :
    (t.edit id f).node j = t.node j := by
  simp [Tree.node, Tree.edit, Array.getD, Array.getElem_modify, Ne.symm h]

theorem Tree.continues_edit (f : Element → Element) (h : t.opened = id :: path) (hid : id ∉ path) :
    t.Continues (t.edit id f) path where
  size := (t.size_edit id f).ge
  closed j hj := by
    have hne : j ≠ id := fun heq => hj.2 (by rw [h, heq]; exact List.mem_cons_self)
    exact ⟨⟨(t.size_edit id f).symm ▸ hj.1, hj.2⟩, Tree.node_edit_ne f hne⟩
  opened j hj := Tree.node_edit_ne f fun heq => hid (heq ▸ hj)

theorem Tree.addText_nil (t : Tree) : t.addText [] = t := rfl

theorem Tree.addText_of_ne_nil (hfosters : t.fosters = false) {run : List Char} (hrun : run ≠ []) :
    t.addText run =
      t.edit t.current fun e => { e with contents := Tree.withText run e.contents } := by
  rw [Tree.addText, if_neg (by simpa using hrun)]
  simp [Tree.editContents, Tree.putsBeforeTable, hfosters]

/-- Text is added to the innermost open element. -/
theorem Spine.addText {run : List Char} (h : Spine tags t t.opened names [] s)
    (hfosters : t.fosters = false) (hrun : Shown run) :
    Spine tags (t.addText run) t.opened names [] (s ++ run) := by
  obtain ⟨id, path, hopened⟩ := List.exists_cons_of_ne_nil h.ne_nil
  have hcurrent : t.current = id := by rw [Tree.current, hopened]; rfl
  rw [hopened] at h ⊢
  by_cases hempty : run = []
  · rw [hempty, List.append_nil]
    exact h
  · have hsize : id < t.elements.size := h.lt_size id List.mem_cons_self
    obtain ⟨contents, before, out, rfl, hcontents, hreads, hchange⟩ := h.focus
    have hcontinues := Tree.continues_edit (t := t)
      (fun e => { e with contents := Tree.withText run e.contents }) hopened h.notMem
    rw [Tree.addText_of_ne_nil hfosters hempty, hcurrent, List.append_assoc]
    refine hchange _ [] (Tree.withText run contents) _ hcontinues ?_
      ((hreads.congr hcontinues.closed).withText hrun)
    rw [Tree.node_edit_self _ hsize, hcontents]
    rfl

/-! ### Opening -/

theorem Tree.node_make_new (t : Tree) (dialect : Dialect) (name : String)
    (attributes : Entries String) :
    (t.make dialect name attributes).node t.elements.size =
      ⟨dialect, name, attributes, none, []⟩ := by
  simp [Tree.node, Tree.make, Array.getD]

theorem Tree.node_make_old {j : Nat} (h : j < t.elements.size) (dialect : Dialect) (name : String)
    (attributes : Entries String) : (t.make dialect name attributes).node j = t.node j := by
  simp [Tree.node, Tree.make, Array.getD, Array.getElem_push, h, Nat.lt_succ_of_lt h]

theorem Tree.size_make (t : Tree) (dialect : Dialect) (name : String)
    (attributes : Entries String) :
    (t.make dialect name attributes).elements.size = t.elements.size + 1 := by
  simp [Tree.make]

theorem Tree.openElement_eq (hfosters : t.fosters = false) (name : String)
    (attributes : Entries String) : t.openElement name attributes =
      { (t.make .html name attributes).attach t.current t.elements.size with
        opened := t.elements.size :: t.opened } := by
  simp [Tree.openElement, Tree.openIn, Tree.putsBeforeTable, hfosters, Tree.make, Tree.attach,
    Tree.edit, Tree.current]

section Opening

variable (hfosters : t.fosters = false) (name : String)
include hfosters

theorem Tree.size_openElement :
    (t.openElement name []).elements.size = t.elements.size + 1 := by
  rw [Tree.openElement_eq hfosters]
  simp only [Tree.attach, Tree.size_edit, Tree.size_make]

theorem Tree.node_openElement_old {j : Nat} (h : j < t.elements.size) (hj : j ≠ t.current) :
    (t.openElement name []).node j = t.node j := by
  rw [Tree.openElement_eq hfosters]
  show ((t.make .html name []).attach t.current t.elements.size).node j = t.node j
  rw [Tree.attach, Tree.node_edit_ne _ h.ne, Tree.node_edit_ne _ hj, Tree.node_make_old h]

theorem Tree.node_openElement_current (h : t.current < t.elements.size) :
    (t.openElement name []).node t.current = { t.node t.current with
      contents := .element t.elements.size :: (t.node t.current).contents } := by
  rw [Tree.openElement_eq hfosters]
  show ((t.make .html name []).attach t.current t.elements.size).node t.current = _
  rw [Tree.attach, Tree.node_edit_ne _ h.ne, Tree.node_edit_self, Tree.node_make_old h]
  rw [Tree.size_make]
  exact Nat.lt_succ_of_lt h

theorem Tree.node_openElement_new (h : t.current < t.elements.size) :
    (t.openElement name []).node t.elements.size = ⟨.html, name, [], some t.current, []⟩ := by
  rw [Tree.openElement_eq hfosters]
  show ((t.make .html name []).attach t.current t.elements.size).node t.elements.size = _
  rw [Tree.attach, Tree.node_edit_self, Tree.node_edit_ne _ h.ne', Tree.node_make_new]
  rw [Tree.size_edit, Tree.size_make]
  exact Nat.lt_succ_self _

theorem Tree.opened_openElement :
    (t.openElement name []).opened = t.elements.size :: t.opened := by
  rw [Tree.openElement_eq hfosters]

end Opening

/-- An element is opened in the innermost one. -/
theorem Spine.openElement {name : String} (h : Spine tags t t.opened names [] s)
    (hfosters : t.fosters = false) (htag : name ∈ tags) (hkind : name ∈ tidyElements) :
    Spine tags (t.openElement name []) (t.openElement name []).opened (name :: names) []
      (s ++ (Item.start name).text) := by
  obtain ⟨id, path, hopened⟩ := List.exists_cons_of_ne_nil h.ne_nil
  have hcurrent : t.current = id := by rw [Tree.current, hopened]; rfl
  have hpath : ∀ j ∈ t.opened, j < t.elements.size := h.lt_size
  rw [Tree.opened_openElement hfosters, hopened]
  rw [hopened] at h hpath
  have hsize : t.current < t.elements.size := hcurrent ▸ hpath id List.mem_cons_self
  have hold : ∀ j < t.elements.size, j ≠ id → (t.openElement name []).node j = t.node j :=
    fun j hj hne => Tree.node_openElement_old hfosters name hj (hcurrent ▸ hne)
  have hcontinues : t.Continues (t.openElement name []) path := by
    refine ⟨?_, fun j hj => ?_, fun j hj => ?_⟩
    · rw [Tree.size_openElement hfosters]
      exact Nat.le_succ _
    · have hne : j ≠ id := fun heq => hj.2 (by rw [hopened, heq]; exact List.mem_cons_self)
      refine ⟨⟨?_, ?_⟩, hold j hj.1 hne⟩
      · rw [Tree.size_openElement hfosters]
        exact Nat.lt_succ_of_lt hj.1
      · rw [Tree.opened_openElement hfosters]
        exact fun hmem => (List.mem_cons.1 hmem).elim hj.1.ne hj.2
    · exact hold j (hpath j (List.mem_cons_of_mem _ hj)) fun heq => h.notMem (heq ▸ hj)
  obtain ⟨contents, before, out, rfl, hcontents, hreads, hchange⟩ := h.focus
  have houter : Spine tags (t.openElement name []) (id :: path) names
      [.element t.elements.size] (before ++ out) := by
    refine hchange _ _ contents out hcontinues ?_ (hreads.congr hcontinues.closed)
    have hnode := Tree.node_openElement_current hfosters name hsize
    rw [hcurrent, hcontents] at hnode
    exact hnode
  have hnew : (t.openElement name []).node t.elements.size =
      ⟨.html, name, [], some t.current, [] ++ []⟩ := Tree.node_openElement_new hfosters name hsize
  have hinner := Spine.inner houter (hcurrent ▸ hsize)
    (by rw [Tree.size_openElement hfosters]; exact Nat.lt_succ_self _) hnew htag hkind Reads.nil
  rwa [List.append_nil] at hinner

/-- The innermost element is closed. -/
theorem Spine.close {t' : Tree} {name : String}
    (h : Spine tags t (id :: path) (name :: names) [] s) (hopened : t.opened = id :: path)
    (helements : t'.elements = t.elements) (hopened' : t'.opened = path) :
    Spine tags t' path names [] (s ++ (Item.finish name).text) := by
  have hnotMem : id ∉ path := h.notMem
  have hnode' : ∀ j, t'.node j = t.node j := fun j => by rw [Tree.node, helements, Tree.node]
  have hclosed : t.KeepsClosed t' := by
    refine fun j hj => ⟨⟨helements ▸ hj.1, fun hmem => hj.2 ?_⟩, hnode' j⟩
    rw [hopened]
    exact List.mem_cons_of_mem _ (hopened' ▸ hmem)
  cases h with
  | @inner outer _ path _ _ parent _ contents before out houter hid hsize hnode htag hkind
      hreads =>
    have hcontinues : t.Continues t' path := ⟨helements ▸ le_rfl, hclosed, fun j _ => hnode' j⟩
    obtain ⟨contents', before', out', rfl, hcontents', hreads', hchange⟩ := houter.focus
    have hread : Reads tags t' outer (.element id :: contents')
        (out' ++ ((Item.start name).text ++ out ++ (Item.finish name).text)) := by
      have hsame : t'.node id = ⟨.html, name, [], parent, contents⟩ := (hnode' id).trans hnode
      exact .element hid ⟨helements ▸ hsize, hopened' ▸ hnotMem⟩ hsame htag hkind
        (hreads.congr hclosed) (hreads'.congr hclosed)
    have hholder : t'.node outer =
        { t.node outer with contents := [] ++ .element id :: contents' } := by
      have hlast : .element id :: contents' = (t.node outer).contents := hcontents'.symm
      rw [hnode', List.nil_append, hlast]
    have hspine := hchange t' [] _ _ hcontinues hholder hread
    simpa only [List.append_assoc] using hspine

end Steps

end FieldRules.Markup
