import FieldRules.Proofs.Markup.Reading

/-!
# How a tidy text is scanned

The reader holds the end of a text back until it is over, but with it the tree has all that has been
read. The names of tidy elements are read letter by letter, and what comes of their tags is what
the tags do to the tree.

Results:
* `IsAt.read_letter`: what a character of a text does to the reader.
* `IsAt.read_tag`: what a tag does to it.
* `clean_of_tidy`: cleaning leaves a tidy text as it is.
-/

namespace FieldRules.Markup

/-! ## Readers that hold text back -/

/-- The tokens that a reader holds back, if it reads text. -/
def State.pending : State → Option (List Token)
  | .between => some []
  | .text run => some [.text run.reverse]
  | .space run => some [.space run.reverse]
  | _ => none

/-- With the tokens that the reader holds back, the tree has all that has been read. -/
structure IsAt (b : Builder) (t : Tree) : Prop where
  tokens : b.reader.tokens = []
  plain : b.tree.IsPlain
  pending : ∃ tokens, b.reader.state.pending = some tokens ∧ tokens.foldl Tree.read b.tree = t

section IsAt

variable {policy : TagPolicy} {b : Builder} {t : Tree} {r : Reader}

theorem isAt_start : IsAt ⟨Reader.start, Tree.start⟩ Tree.start where
  tokens := rfl
  plain := (holds_start []).plain
  pending := ⟨[], rfl, rfl⟩

/-- What is held back is text, so that the tree is plain with it. -/
theorem IsAt.isPlain (h : IsAt b t) : t.IsPlain := by
  obtain ⟨⟨state, sawTag, quotes, source, tokens⟩, tree⟩ := b
  obtain ⟨-, hplain, pending, hpending, rfl⟩ := h
  have hplain : tree.IsPlain := hplain
  cases state with
  | between =>
    cases hpending
    exact hplain
  | text run =>
    cases hpending
    show (tree.read (.text run.reverse)).IsPlain
    rw [hplain.read_text]
    exact hplain.addText _
  | space run =>
    cases hpending
    show (tree.read (.space run.reverse)).IsPlain
    rw [hplain.read_space]
    exact hplain.addText _
  | _ => cases hpending

theorem settle_eq {tree : Tree} (h : r.tokens.reverse.foldl Tree.read tree = t)
    (hreading : t.reading = .markup) : ∃ quotes, Builder.settle ⟨r, tree⟩ =
      ⟨⟨r.state, r.sawTag, quotes, r.source, []⟩, t⟩ := by
  have hsame : { t with reading := .markup } = t := by rw [← hreading]
  refine ⟨t.dialectOf t.current ≠ .html, ?_⟩
  unfold Builder.settle
  simp only [h, hreading, hsame, Reader.follow_markup]

/-- Whether there are tokens or not, the tree has them, and the reader goes on. -/
theorem read_eq {tree : Tree} {c : Char}
    (h : (r.read policy c).tokens.reverse.foldl Tree.read tree = t)
    (hreading : t.reading = .markup) : ∃ quotes, Builder.read policy ⟨r, tree⟩ c =
      ⟨⟨(r.read policy c).state, (r.read policy c).sawTag, quotes, (r.read policy c).source, []⟩,
        t⟩ := by
  have hread : Builder.read policy ⟨r, tree⟩ c =
      if (r.read policy c).tokens.isEmpty then ⟨r.read policy c, tree⟩
      else Builder.settle ⟨r.read policy c, tree⟩ := rfl
  rw [hread]
  split
  · next hempty =>
    have hnone : (r.read policy c).tokens = [] := List.isEmpty_iff.1 hempty
    rw [hnone, List.reverse_nil, List.foldl_nil] at h
    rw [h, ← hnone]
    exact ⟨_, rfl⟩
  · exact settle_eq h hreading

theorem isAt_read {tree : Tree} {tokens : List Token} {c : Char}
    (h : (r.read policy c).tokens.reverse.foldl Tree.read tree = t) (hplain : t.IsPlain)
    (hpending : (r.read policy c).state.pending = some tokens) :
    IsAt (Builder.read policy ⟨r, tree⟩ c) (tokens.foldl Tree.read t) := by
  obtain ⟨quotes, hread⟩ := read_eq h hplain.reading
  rw [hread]
  exact ⟨rfl, hplain, tokens, hpending, rfl⟩

/-- A character at which no run has been started is handed out, or it starts a run. -/
theorem readBetween_letter (r : Reader) {c : Char} (hless : c ≠ '<') (hnull : c.toNat ≠ 0) :
    ∃ new tokens, (r.readBetween c).tokens = new ++ r.tokens ∧
      (r.readBetween c).state.pending = some tokens ∧ ∀ t : Tree, t.IsPlain →
        (new.reverse.foldl Tree.read t).IsPlain ∧
          tokens.foldl Tree.read (new.reverse.foldl Tree.read t) = t.addText [c] := by
  rw [Reader.readBetween, if_neg hless]
  split
  · refine ⟨[.text [c]], [], rfl, rfl, fun t ht => ?_⟩
    have hread : [Token.text [c]].reverse.foldl Tree.read t = t.addText [c] := ht.read_text [c]
    rw [hread]
    exact ⟨ht.addText [c], rfl⟩
  · split
    · exact ⟨[], [.space [c]], rfl, rfl, fun t ht => ⟨ht, ht.read_space [c]⟩⟩
    · exact ⟨[], [.text [c]], rfl, rfl, fun t ht => ⟨ht, ht.read_text [c]⟩⟩

theorem isAt_read_between {r' : Reader} {tree : Tree} {c : Char} (hless : c ≠ '<')
    (hnull : c.toNat ≠ 0) (hread : r.read policy c = r'.readBetween c)
    (h : r'.tokens.reverse.foldl Tree.read tree = t) (hplain : t.IsPlain) :
    IsAt (Builder.read policy ⟨r, tree⟩ c) (t.addText [c]) := by
  obtain ⟨new, tokens, hnew, hpending, hadd⟩ := readBetween_letter r' hless hnull
  obtain ⟨hplain', hsame⟩ := hadd t hplain
  rw [← hsame]
  refine isAt_read ?_ hplain' (by rw [hread, hpending])
  rw [hread, hnew, List.reverse_append, List.foldl_append, h]

/-- A character of a text is added to the tree. -/
theorem IsAt.read_letter (h : IsAt b t) {c : Char} (hless : c ≠ '<') (hnull : c.toNat ≠ 0) :
    IsAt (b.read policy c) (t.addText [c]) := by
  have ht : t.IsPlain := h.isPlain
  obtain ⟨⟨state, sawTag, quotes, source, tokens⟩, tree⟩ := b
  obtain ⟨hnone, hplain, pending, hpending, rfl⟩ := h
  obtain rfl : tokens = [] := hnone
  have hplain : tree.IsPlain := hplain
  -- The run is over and the character is read behind it.
  have hover : Reader.read policy ⟨state, sawTag, quotes, source, []⟩ c =
      Reader.readBetween ⟨state, sawTag, quotes, c :: source, pending.reverse⟩ c →
      IsAt (Builder.read policy ⟨⟨state, sawTag, quotes, source, []⟩, tree⟩ c)
        ((pending.foldl Tree.read tree).addText [c]) := by
    intro hread
    refine isAt_read_between hless hnull hread ?_ ht
    rw [List.reverse_reverse]
  cases state with
  | between =>
    cases hpending
    exact hover rfl
  | text run =>
    cases hpending
    by_cases hand : c = '&'
    · exact hover (by simp [Reader.read, Reader.emit, hand])
    · have hread : Reader.read policy ⟨.text run, sawTag, quotes, source, []⟩ c =
          ⟨.text (c :: run), sawTag, quotes, c :: source, []⟩ := by
        simp [Reader.read, Reader.goto, hless, hand, hnull]
      have hadd : [Token.text (c :: run).reverse].foldl Tree.read tree =
          (tree.read (.text run.reverse)).addText [c] := by
        rw [List.foldl_cons, List.foldl_nil, hplain.read_text, hplain.read_text, List.reverse_cons,
          hplain.addText_append]
      exact hadd ▸ isAt_read (by rw [hread]; rfl) hplain (by rw [hread]; rfl)
  | space run =>
    cases hpending
    by_cases hspace : isSpace c = true
    · have hread : Reader.read policy ⟨.space run, sawTag, quotes, source, []⟩ c =
          ⟨.space (c :: run), sawTag, quotes, c :: source, []⟩ := by
        simp [Reader.read, Reader.goto, hspace]
      have hadd : [Token.space (c :: run).reverse].foldl Tree.read tree =
          (tree.read (.space run.reverse)).addText [c] := by
        rw [List.foldl_cons, List.foldl_nil, hplain.read_space, hplain.read_space,
          List.reverse_cons, hplain.addText_append]
      exact hadd ▸ isAt_read (by rw [hread]; rfl) hplain (by rw [hread]; rfl)
    · exact hover (by simp [Reader.read, Reader.emit, hspace])
  | _ => cases hpending

theorem IsAt.read_run (h : IsAt b t) {s : List Char} (hs : ∀ c ∈ s, c ≠ '<' ∧ c.toNat ≠ 0) :
    IsAt (s.foldl (Builder.read policy) b) (t.addText s) := by
  induction s generalizing b t with
  | nil => exact h
  | cons c s ih =>
    obtain ⟨⟨hless, hnull⟩, hs⟩ := List.forall_mem_cons.1 hs
    rw [List.foldl_cons, ← List.singleton_append, h.isPlain.addText_append]
    exact ih (h.read_letter hless hnull) hs

/-! ## Tags -/

/-- An opening bracket ends the text that the reader holds back. -/
theorem IsAt.read_less (h : IsAt b t) (policy : TagPolicy) : ∃ sawTag quotes,
    b.read policy '<' = ⟨⟨.opened, sawTag, quotes, ['<'], []⟩, t⟩ := by
  have ht : t.IsPlain := h.isPlain
  obtain ⟨⟨state, sawTag, quotes, source, tokens⟩, tree⟩ := b
  obtain ⟨hnone, -, pending, hpending, rfl⟩ := h
  obtain rfl : tokens = [] := hnone
  have hover : Reader.read policy ⟨state, sawTag, quotes, source, []⟩ '<' =
      ⟨.opened, sawTag, quotes, ['<'], pending.reverse⟩ := by
    cases state <;> cases hpending <;> rfl
  obtain ⟨quotes', hread⟩ := read_eq (r := ⟨state, sawTag, quotes, source, []⟩)
    (by rw [hover, List.reverse_reverse]) ht.reading
  rw [hover] at hread
  exact ⟨sawTag, quotes', hread⟩

/-- A letter that stands in the name of a tag as it is written. -/
def isNameLetter (c : Char) : Bool :=
  c.isAlpha && !isSpace c && c ≠ '>' && c ≠ '/' && c.toNat ≠ 0 && lowerAscii c = c

theorem nameLetters_of_mem_tidyElements : ∀ name ∈ tidyElements,
    name.toList ≠ [] ∧ name.toList.all isNameLetter = true := by
  decide

/-- What is handed out for a tag without attributes. -/
def tagToken (closing : Bool) (name : String) : Token :=
  if closing then .finish name else .start ⟨name, [], false⟩

/-- The name of a tag is read letter by letter. -/
theorem read_nameLetters (policy : TagPolicy) (t : Tree) (sawTag quotes closing : Bool)
    (source taken : List Char) {letters : List Char}
    (h : ∀ c ∈ letters, isNameLetter c = true) :
    ∃ source', letters.foldl (Builder.read policy)
        ⟨⟨.tag (Tag.named closing taken) .name, sawTag, quotes, source, []⟩, t⟩ =
      ⟨⟨.tag (Tag.named closing (letters.reverse ++ taken)) .name, sawTag, quotes, source', []⟩,
        t⟩ := by
  induction letters generalizing taken source with
  | nil => exact ⟨source, rfl⟩
  | cons c letters ih =>
    obtain ⟨hc, hletters⟩ := List.forall_mem_cons.1 h
    simp only [isNameLetter, Bool.and_eq_true, Bool.not_eq_true', decide_eq_true_eq] at hc
    obtain ⟨⟨⟨⟨⟨-, hspace⟩, hgreater⟩, hsolidus⟩, hnull⟩, -⟩ := hc
    have hread : Builder.read policy
        ⟨⟨.tag (Tag.named closing taken) .name, sawTag, quotes, source, []⟩, t⟩ c =
        ⟨⟨.tag (Tag.named closing (c :: taken)) .name, sawTag, quotes, c :: source, []⟩, t⟩ := by
      simp [Builder.read, Reader.read, Reader.readTag, Place.isBetweenAttributes, Tag.read,
        Tag.named, hspace, hgreater, hsolidus, shown, hnull, Reader.goto]
    rw [List.foldl_cons, hread, List.reverse_cons, List.append_assoc]
    exact ih _ _ hletters

/-- Where the name of a tag is over, the tag is handed out. -/
theorem read_nameEnd {sawTag quotes closing : Bool} {source : List Char} {name : String}
    (hname : ∀ c ∈ name.toList, isNameLetter c = true)
    (hwants : policy.wants name.toList = true) (hplain : (t.read (tagToken closing name)).IsPlain) :
    IsAt (Builder.read policy
        ⟨⟨.tag (Tag.named closing name.toList.reverse) .name, sawTag, quotes, source, []⟩, t⟩ '>')
      (t.read (tagToken closing name)) := by
  have hlower : name.toList.map lowerAscii = name.toList := by
    refine (List.map_congr_left fun c hc => ?_).trans (List.map_id _)
    have hletter := hname c hc
    simp only [isNameLetter, Bool.and_eq_true, decide_eq_true_eq] at hletter
    exact hletter.2
  have hread : Reader.read policy
      ⟨.tag (Tag.named closing name.toList.reverse) .name, sawTag, quotes, source, []⟩ '>' =
      ⟨.between, true, quotes, '>' :: source, [tagToken closing name]⟩ := by
    have hspace : isSpace '>' = false := by decide
    cases closing <;> simp [Reader.read, Reader.readTag, Place.isBetweenAttributes, Tag.read,
      hspace, Reader.finishTag, Tag.named, hwants, hlower, Reader.emit, tagToken, Tag.kept]
  show IsAt _ ([].foldl Tree.read (t.read (tagToken closing name)))
  exact isAt_read (by rw [hread]; rfl) hplain (by rw [hread]; rfl)

/-- With its first letter a tag begins. -/
theorem IsAt.read_tagStart (h : IsAt b t) (policy : TagPolicy) (closing : Bool) {c : Char}
    (hc : c.isAlpha = true) :
    ∃ sawTag quotes source,
      ('<' :: (if closing then ['/'] else []) ++ [c]).foldl (Builder.read policy) b =
        ⟨⟨.tag (Tag.named closing [c]) .name, sawTag, quotes, source, []⟩, t⟩ := by
  obtain ⟨sawTag, quotes, hless⟩ := h.read_less policy
  have hmark : c ≠ '!' ∧ c ≠ '/' := by
    constructor <;> rintro rfl <;> exact absurd hc (by decide)
  cases closing with
  | false =>
    refine ⟨sawTag, quotes, [c, '<'], ?_⟩
    show Builder.read policy (b.read policy '<') c = _
    rw [hless]
    simp [Builder.read, Reader.read, hmark, hc, Reader.goto]
  | true =>
    refine ⟨sawTag, quotes, [c, '/', '<'], ?_⟩
    show Builder.read policy (Builder.read policy (b.read policy '<') '/') c = _
    rw [hless]
    simp [Builder.read, Reader.read, hc, Reader.goto]

/-- A tag without attributes is given to the tree. -/
theorem IsAt.read_tag (h : IsAt b t) (closing : Bool) {name : String}
    (hkind : name ∈ tidyElements) (hwants : policy.wants name.toList = true)
    (hplain : (t.read (tagToken closing name)).IsPlain) :
    IsAt (('<' :: (if closing then ['/'] else []) ++ name.toList ++ ['>']).foldl
      (Builder.read policy) b) (t.read (tagToken closing name)) := by
  obtain ⟨hne, hall⟩ := nameLetters_of_mem_tidyElements name hkind
  have hletters : ∀ c ∈ name.toList, isNameLetter c = true := List.all_eq_true.1 hall
  obtain ⟨c, letters, hname⟩ := List.exists_cons_of_ne_nil hne
  have hc := hletters c (by rw [hname]; exact List.mem_cons_self)
  simp only [isNameLetter, Bool.and_eq_true, decide_eq_true_eq] at hc
  obtain ⟨sawTag, quotes, source, hfirst⟩ :=
    h.read_tagStart policy closing hc.1.1.1.1.1
  obtain ⟨source', hnameRead⟩ := read_nameLetters policy t sawTag quotes closing source [c]
    fun d hd => hletters d (by rw [hname]; exact List.mem_cons_of_mem _ hd)
  have hreversed : letters.reverse ++ [c] = name.toList.reverse := by rw [hname, List.reverse_cons]
  have hsplit : '<' :: (if closing then ['/'] else []) ++ name.toList ++ ['>'] =
      ('<' :: (if closing then ['/'] else []) ++ [c]) ++ letters ++ ['>'] := by
    rw [hname]
    simp
  rw [hsplit, List.foldl_append, List.foldl_append, hfirst, hnameRead, hreversed]
  exact read_nameEnd hletters hwants hplain

/-- At the end of the text the tree has all that has been read. -/
theorem IsAt.finish (h : IsAt b t) : b.finish policy = t := by
  have ht : t.IsPlain := h.isPlain
  obtain ⟨⟨state, sawTag, quotes, source, tokens⟩, tree⟩ := b
  obtain ⟨hnone, -, pending, hpending, rfl⟩ := h
  obtain rfl : tokens = [] := hnone
  have hover : Reader.finish policy ⟨state, sawTag, quotes, source, []⟩ =
      ⟨state, sawTag, quotes, source, pending.reverse⟩ := by
    cases state <;> cases hpending <;> rfl
  obtain ⟨quotes', hsettle⟩ := settle_eq
    (r := ⟨state, sawTag, quotes, source, pending.reverse⟩) (by rw [List.reverse_reverse])
    ht.reading
  rw [Builder.finish, hover, hsettle]
  exact ht.releaseText

end IsAt

/-! ## Tidy texts -/

section Tidy

variable {tags : List String}

/-- Items that are nested in the open elements are read one after the other. -/
theorem Holds.read_items {scan : TagPolicy} (hwants : ∀ name ∈ tags, scan.wants name.toList = true)
    {items : List Item} {b : Builder} {t : Tree} {names : List String} {s : List Char}
    (h : Holds tags t names s) (hat : IsAt b t) (hnested : Nested tags names items) :
    ∃ t', Holds tags t' [] (s ++ textOf items) ∧
      IsAt ((textOf items).foldl (Builder.read scan) b) t' := by
  induction items generalizing b t names s with
  | nil =>
    obtain rfl : names = [] := hnested
    exact ⟨t, by simpa using h, hat⟩
  | cons item items ih =>
    rw [textOf_cons, List.foldl_append, ← List.append_assoc]
    have hshown : item.IsShown → Nested tags names items →
        ∃ t', Holds tags t' [] (s ++ item.text ++ textOf items) ∧
          IsAt ((textOf items).foldl (Builder.read scan)
            (item.text.foldl (Builder.read scan) b)) t' := by
      intro hitem hrest
      have hone : Shown item.text := ⟨[item], by simpa using hitem, by simp⟩
      have hletters : ∀ c ∈ item.text, c ≠ '<' ∧ c.toNat ≠ 0 := fun c hc =>
        ⟨(hone.isClear c hc).2, (hone.isClear c hc).1.toNat_ne_zero⟩
      exact ih (h.addText hone) (hat.read_run hletters) hrest
    cases item with
    | letter c => exact hshown hnested.1 hnested.2
    | reference name => exact hshown hnested.1 hnested.2
    | start name =>
      obtain ⟨⟨htag, hfits⟩, hrest⟩ := hnested
      have hholds := h.start htag hfits
      exact ih hholds (hat.read_tag false hfits.kind (hwants name htag) hholds.plain) hrest
    | finish name =>
      obtain ⟨outer, rfl, hrest⟩ := hnested
      obtain ⟨htag, hkind⟩ := h.spine.mem_names name List.mem_cons_self
      have hholds := h.finish
      exact ih hholds (hat.read_tag true hkind (hwants name htag) hholds.plain) hrest

theorem unifyLines_eq {s : List Char} (h : '\r' ∉ s) : unifyLines s = s := by
  induction s with
  | nil => rfl
  | cons c s ih =>
    obtain ⟨hc, hs⟩ := not_or.1 (mt List.mem_cons.2 h)
    rw [unifyLines, ih hs]
    · rintro - hc' -
      exact hc hc'.symm
    · exact fun hc' => hc hc'.symm

theorem notMem_text_of_mem_tidyElements {name : String} (h : name ∈ tidyElements) :
    '\r' ∉ (Item.start name).text ∧ '\r' ∉ (Item.finish name).text := by
  have hname : '\r' ∉ name.toList := fun hmem => absurd
    (List.all_eq_true.1 (nameLetters_of_mem_tidyElements name h).2 _ hmem) (by decide)
  simp [Item.text, hname]

theorem Nested.notMem_textOf {items : List Item} {names : List String}
    (h : Nested tags names items) (hnames : ∀ name ∈ names, name ∈ tidyElements) :
    '\r' ∉ textOf items := by
  induction items generalizing names with
  | nil => exact List.not_mem_nil
  | cons item items ih =>
    have hshown : item.IsShown → '\r' ∉ item.text := by
      intro hitem hmem
      have hone : Shown item.text := ⟨[item], by simpa using hitem, by simp⟩
      exact (hone.isClear _ hmem).1.2 rfl
    rw [textOf_cons, List.mem_append, not_or]
    cases item with
    | letter c => exact ⟨hshown h.1, ih h.2 hnames⟩
    | reference name => exact ⟨hshown h.1, ih h.2 hnames⟩
    | start name =>
      obtain ⟨⟨-, hfits⟩, hrest⟩ := h
      exact ⟨(notMem_text_of_mem_tidyElements hfits.kind).1,
        ih hrest (List.forall_mem_cons.2 ⟨hfits.kind, hnames⟩)⟩
    | finish name =>
      obtain ⟨outer, rfl, hrest⟩ := h
      obtain ⟨hkind, houter⟩ := List.forall_mem_cons.1 hnames
      exact ⟨(notMem_text_of_mem_tidyElements hkind).2, ih hrest houter⟩

theorem Holds.keeps {policy : Policy} {t : Tree} {s : List Char} (h : Holds tags t [] s) :
    Keeps policy tags t.pieces s := by
  have hspine := h.spine
  generalize t.opened = ids at hspine
  cases hspine with
  | @root attributes parent _ contents _ hnode hsize hreads =>
    have hcontents : (t.node 0).contents = contents := by rw [hnode]; rfl
    rw [Tree.pieces, hcontents, hreads.settled]
    exact hreads.keeps hsize (by omega)

/-- Cleaning leaves a tidy text as it is. -/
theorem clean_of_tidy {policy : Policy} {s : List Char} (h : Tidy tags s) (hs : s ≠ [])
    (htags : policy.tags = .ok tags) (hattributes : policy.attributes ≠ .unusable)
    (hmarks : '=' ∉ s ∨ '<' ∉ s) : clean policy s = .ok s := by
  obtain ⟨items, hnested, rfl⟩ := h
  have hwants : ∀ name ∈ tags, (scanned policy tags).wants name.toList = true := by
    intro name hname
    exact decide_eq_true (List.mem_map_of_mem hname)
  obtain ⟨t, hholds, hat⟩ := (holds_start tags).read_items hwants isAt_start hnested
  have htree : Tree.ofText (scanned policy tags) (textOf items) = t := by
    rw [Tree.ofText, unifyLines_eq (hnested.notMem_textOf fun _ h => absurd h List.not_mem_nil)]
    exact hat.finish
  refine clean_of_keeps htags hattributes hs hmarks ?_
  rw [htree]
  exact hholds.keeps

end Tidy

end FieldRules.Markup
