import FieldRules.Host.World
import FieldRules.Proofs.Action
import FieldRules.Proofs.Text

/-!
# Files in folders that were made

Making a folder goes the way that its name is walked, so that the name leads there afterwards,
whatever names that lead back it has. A file that is then written into the folder is found under its
name, with its text.

Results:
* `names_seenFrom`: the names of a path that is seen from a folder.
* `walk_of_makeWay`: a way that was made can be walked.
* `readFile_of_makeFolder`: a file that is written into a folder that was made can be read.
* `extends_of_makeFolder`, `lookup_of_writeFile`: what making a folder and writing a file leave as
  it was.
* `lookup_of_removeFolder`: a folder that was taken away has no files any more.
-/

namespace FieldRules

/-! ## Names -/

namespace Path

theorem names_of_notMem {name : String} (h : '/' ∉ name.toList) : names name = [name] := by
  rw [names, Text.pieces, Text.cut_of_notMem h, List.map_singleton, String.ofList_toList]

theorem names_append_slash (folder name : String) :
    names (folder ++ "/" ++ name) = names folder ++ names name := by
  have htext : (folder ++ "/" ++ name).toList = folder.toList ++ '/' :: name.toList := by simp
  rw [names, Text.pieces, htext, Text.cut_append_cons, List.map_append]
  rfl

/-- A path that is seen from a folder has the names of the folder, but for an empty one at the
    end, and its own name. -/
theorem names_seenFrom (folder : String) {name : String} (h : '/' ∉ name.toList) :
    Path.names (Path.seenFrom folder name) = Path.names folder ++ [name] ∨
      ∃ above, Path.names folder = above ++ [""] ∧
        Path.names (Path.seenFrom folder name) = above ++ [name] := by
  have hhead : name.toList.head? ≠ some '/' := fun hh => h (List.mem_of_head? hh)
  rw [seenFrom, if_neg hhead]
  split
  · next hend =>
    right
    rcases Bool.or_eq_true_iff.1 hend with hempty | hslash
    · have hfolder : folder = "" := of_decide_eq_true hempty
      refine ⟨[], by rw [hfolder]; rfl, ?_⟩
      rw [hfolder, String.empty_append, names_of_notMem h, List.nil_append]
    · obtain ⟨above, habove⟩ := List.getLast?_eq_some_iff.1 (of_decide_eq_true hslash)
      have hfolder : folder = String.ofList above ++ "/" := by
        rw [← String.toList_inj]
        simp [habove]
      have hnone : names "" = [""] := rfl
      refine ⟨names (String.ofList above), ?_, ?_⟩
      · rw [hfolder, ← hnone, ← names_append_slash, String.append_empty]
      · rw [hfolder, names_append_slash, names_of_notMem h]
  · exact .inl (by rw [names_append_slash, names_of_notMem h])

theorem seenFrom_ne_empty (folder : String) {name : String} (h : name ≠ "") :
    seenFrom folder name ≠ "" := by
  rw [seenFrom]
  split
  · exact h
  · split <;> simp [h]

theorem normal_names_seenFrom (folder : String) {name : String} (h : '/' ∉ name.toList)
    (hplain : name ≠ "" ∧ name ≠ "." ∧ name ≠ "..") :
    normal (names (seenFrom folder name)) = normal (names folder) ++ [name] := by
  have hstep (p : Path) : p.step name = p ++ [name] := by simp [step, hplain]
  have hempty (p : Path) : p.step "" = p := by simp [step]
  rcases names_seenFrom folder h with hnames | ⟨above, hfolder, hnames⟩
  · simp [normal, hnames, hstep]
  · simp [normal, hnames, hfolder, hstep, hempty]

end Path

namespace World

/-! ## Walking -/

theorem walk_append (w : World) (p : Path) (names rest : List String) :
    w.walk p (names ++ rest) = (w.walk p names).bind fun q => w.walk q rest := by
  induction names generalizing p with
  | nil => rfl
  | cons name names ih =>
    rw [List.cons_append, walk, walk]
    cases w.place? p with
    | none => rfl
    | some place =>
      cases place with
      | file text => rfl
      | folder =>
        simp only
        split
        · exact ih _
        · rfl

/-- An empty name stays in a folder, and the next name needs one too. -/
theorem walk_empty_cons (w : World) (p : Path) (name : String) (rest : List String) :
    w.walk p ("" :: name :: rest) = w.walk p (name :: rest) := by
  have hstep : p.step "" = p := by simp [Path.step]
  rw [walk]
  cases hp : w.place? p with
  | none => simp [walk, hp]
  | some place =>
    cases place with
    | file text => simp [walk, hp]
    | folder => simp [hstep, hp]

theorem place?_congr {w w' : World} (hfolders : w'.folders = w.folders)
    (hfiles : w'.files = w.files) (p : Path) : w'.place? p = w.place? p := by
  rw [place?, place?, hfolders, hfiles]

theorem locate_congr {w w' : World} (hfolders : w'.folders = w.folders)
    (hfiles : w'.files = w.files) (written : String) : w'.locate written = w.locate written := by
  have hwalk (p : Path) (names : List String) : w'.walk p names = w.walk p names := by
    induction names generalizing p with
    | nil => rfl
    | cons name rest ih => simp only [walk, place?_congr hfolders hfiles, ih]
  rw [locate, locate, hwalk]

theorem readFile_congr {w w' : World} (hfolders : w'.folders = w.folders)
    (hfiles : w'.files = w.files) (written : String) :
    w'.readFile written = w.readFile written := by
  rw [readFile, readFile, locate_congr hfolders hfiles]
  simp only [place?_congr hfolders hfiles]

/-! ## Places -/

theorem place?_eq_file_iff {w : World} {p : Path} {text : String} :
    w.place? p = some (.file text) ↔ w.files.lookup p = some text := by
  rw [place?]
  cases w.files.lookup p with
  | none => by_cases h : (p = [] || p ∈ w.folders) = true <;> simp [h]
  | some found => simp

theorem place?_eq_folder_iff {w : World} {p : Path} :
    w.place? p = some .folder ↔ w.files.lookup p = none ∧ (p = [] ∨ p ∈ w.folders) := by
  rw [place?]
  cases w.files.lookup p with
  | none => simp [Decidable.or_iff_not_imp_left]
  | some found => simp

/-! ## Making folders -/

/-- A world has all that another one has, and perhaps more. -/
def Extends (w' w : World) : Prop := ∀ p place, w.place? p = some place → w'.place? p = some place

theorem Extends.refl (w : World) : w.Extends w := fun _ _ => id

theorem Extends.trans {w w' w'' : World} (h' : w''.Extends w') (h : w'.Extends w) :
    w''.Extends w := fun p place hp => h' p place (h p place hp)

theorem mem_folders_putFolder {w : World} {p q : Path} :
    q ∈ (w.putFolder p).folders ↔ q ∈ w.folders ∨ q ∈ ancestors p := by
  by_cases hq : q ∈ w.folders <;> simp [putFolder, hq]

theorem mem_ancestors_self {p : Path} (h : p ≠ []) : p ∈ ancestors p := by
  have hlen := List.length_pos_iff.2 h
  refine List.mem_map.2 ⟨p.length - 1, List.mem_range.2 (by omega), ?_⟩
  rw [Nat.sub_add_cancel hlen, List.take_length]

theorem extends_putFolder (w : World) (p : Path) : (w.putFolder p).Extends w := by
  intro q place hq
  cases place with
  | file text =>
    have hfile : w.files.lookup q = some text := place?_eq_file_iff.1 hq
    exact place?_eq_file_iff.2 hfile
  | folder =>
    obtain ⟨hnone, hq⟩ := place?_eq_folder_iff.1 hq
    exact place?_eq_folder_iff.2 ⟨hnone, hq.imp_right fun h => mem_folders_putFolder.2 (.inl h)⟩

/-- A folder that was made is there, and so is all that was there before. -/
theorem extends_of_withFolder? {w w' : World} {p : Path} (h : w.withFolder? p = some w') :
    w'.place? p = some .folder ∧ w'.Extends w := by
  unfold withFolder? at h
  split at h
  · next hp =>
    cases h
    exact ⟨hp, .refl w⟩
  · cases h
  · next hp =>
    cases h
    rw [place?] at hp
    split at hp
    · cases hp
    · next hnone =>
      have hne : p ≠ [] := by
        rintro rfl
        simp at hp
      exact ⟨place?_eq_folder_iff.2
        ⟨hnone, .inr (mem_folders_putFolder.2 (.inr (mem_ancestors_self hne)))⟩,
        extends_putFolder w p⟩

theorem extends_makeWay {w w' : World} {p : Path} {names : List String}
    (h : w.makeWay p names = .ok w') : w'.Extends w := by
  induction names generalizing w p with
  | nil =>
    rw [makeWay] at h
    split at h
    · next hp =>
      cases h
      exact (extends_of_withFolder? hp).2
    · cases h
  | cons name rest ih =>
    rw [makeWay] at h
    split at h
    · next hp => exact (ih h).trans (extends_of_withFolder? hp).2
    · cases h

/-- A way that was made can be walked, in every world that has its folders. -/
theorem walk_of_makeWay {w w' v : World} {p : Path} {names : List String}
    (h : w.makeWay p names = .ok w')
    (hv : ∀ q, w'.place? q = some .folder → v.place? q = some .folder) :
    v.place? p = some .folder ∧ v.walk p names = .ok (names.foldl Path.step p) ∧
      v.place? (names.foldl Path.step p) = some .folder := by
  induction names generalizing w p with
  | nil =>
    rw [makeWay] at h
    split at h
    · next hp =>
      cases h
      have hthere := hv p (extends_of_withFolder? hp).1
      exact ⟨hthere, rfl, hthere⟩
    · cases h
  | cons name rest ih =>
    rw [makeWay] at h
    split at h
    · next hp =>
      have hthere := hv p (extends_makeWay h _ _ (extends_of_withFolder? hp).1)
      obtain ⟨hnext, hwalk, hend⟩ := ih h
      refine ⟨hthere, ?_, hend⟩
      rw [walk, hthere]
      simp only [hnext, Option.isSome_some, if_true, hwalk, List.foldl_cons]
    · cases h

/-! ## Writing a file -/

theorem lookup_filter_ne {p q : Path} (files : List (Path × String)) (h : q ≠ p) :
    (files.filter (·.1 ≠ p)).lookup q = files.lookup q := by
  induction files with
  | nil => rfl
  | cons first files ih =>
    obtain ⟨r, text⟩ := first
    by_cases hr : r = p
    · rw [List.filter_cons_of_neg (by simp [hr]), ih, List.lookup_cons, hr,
        beq_eq_false_iff_ne.2 h]
    · rw [List.filter_cons_of_pos (by simp [hr]), List.lookup_cons, List.lookup_cons, ih]

theorem place?_putFile_of_ne {w : World} {p q : Path} {place : Place} (text : String) (hne : q ≠ p)
    (hq : w.place? q = some place) : (w.putFile p text).place? q = some place := by
  have hfiles : (w.putFile p text).files.lookup q = w.files.lookup q := by
    rw [putFile, List.lookup_cons, beq_eq_false_iff_ne.2 hne]
    exact lookup_filter_ne w.files hne
  cases place with
  | file found => exact place?_eq_file_iff.2 (hfiles.trans (place?_eq_file_iff.1 hq))
  | folder =>
    obtain ⟨hnone, hq⟩ := place?_eq_folder_iff.1 hq
    exact place?_eq_folder_iff.2
      ⟨hfiles.trans hnone, hq.imp_right fun h => mem_folders_putFolder.2 (.inl h)⟩

theorem walk_seenFrom (w : World) (folder : String) {name : String} (h : '/' ∉ name.toList) :
    w.walk [] (Path.names (Path.seenFrom folder name)) =
      w.walk [] (Path.names folder ++ [name]) := by
  rcases Path.names_seenFrom folder h with hnames | ⟨above, hfolder, hnames⟩
  · rw [hnames]
  · rw [hnames, hfolder, List.append_assoc, walk_append, walk_append]
    congr 1
    funext p
    exact (walk_empty_cons w p name []).symm

/-- A file that is written into a folder that was made can be read. -/
theorem readFile_of_makeFolder {w w₁ w₂ : World} {folder name text : String}
    (hname : '/' ∉ name.toList) (hplain : name ≠ "" ∧ name ≠ "." ∧ name ≠ "..")
    (hmake : w.makeFolder folder = .ok w₁)
    (hwrite : w₁.writeFile (Path.seenFrom folder name) text = .ok w₂) :
    w₂.readFile (Path.seenFrom folder name) = .ok text := by
  have hway : w.makeWay [] (Path.names folder) = .ok w₁ := mapError_eq_ok_iff.1 hmake
  rw [writeFile, Path.normal_names_seenFrom folder hname hplain, Path.normal] at hwrite
  generalize hp : (Path.names folder).foldl Path.step [] = p at hwrite
  have hfree : w₁.place? (p ++ [name]) ≠ some .folder ∧ w₂ = w₁.putFile (p ++ [name]) text := by
    split at hwrite
    · cases hwrite
    · next hne => exact ⟨hne, (Except.ok.inj hwrite).symm⟩
  obtain ⟨hfree, rfl⟩ := hfree
  have hkept (q : Path) (hq : w₁.place? q = some .folder) :
      (w₁.putFile (p ++ [name]) text).place? q = some .folder := by
    refine place?_putFile_of_ne text ?_ hq
    rintro rfl
    exact hfree hq
  obtain ⟨-, hwalk, hend⟩ := walk_of_makeWay hway hkept
  rw [hp] at hwalk hend
  have hstep : Path.step p name = p ++ [name] := by simp [Path.step, hplain]
  have hlocate : (w₁.putFile (p ++ [name]) text).locate (Path.seenFrom folder name) =
      .ok (p ++ [name]) := by
    rw [locate, if_neg (Path.seenFrom_ne_empty folder hplain.1), walk_seenFrom _ _ hname,
      walk_append, hwalk, Except.bind, walk, hend]
    simp only [hstep, place?_putFile, Option.isSome_some, if_true, walk]
    rfl
  rw [readFile, hlocate]
  simp only [bind, Except.bind, place?_putFile]
  rfl

/-! ## Files that stay -/

theorem eq_foldl_of_walk {w : World} {p q : Path} {names : List String}
    (h : w.walk p names = .ok q) : q = names.foldl Path.step p := by
  induction names generalizing p with
  | nil => exact (Except.ok.inj h).symm
  | cons name rest ih =>
    rw [walk] at h
    split at h
    · cases h
    · cases h
    · simp only at h
      split at h
      · exact ih h
      · cases h

theorem eq_normal_of_locate {w : World} {p : Path} {written : String}
    (h : w.locate written = .ok p) : p = Path.normal (Path.names written) := by
  rw [locate] at h
  split at h
  · cases h
  · exact eq_foldl_of_walk (mapError_eq_ok_iff.1 h)

/-- What is read is in a file at the place of its path. -/
theorem readFile_eq_ok_iff {w : World} {written text : String} :
    w.readFile written = .ok text ↔
      (w.locate written).toBool = true ∧
        w.files.lookup (Path.normal (Path.names written)) = some text := by
  rw [readFile]
  cases hl : w.locate written with
  | error fault => exact ⟨nofun, fun h => nomatch h.1⟩
  | ok p =>
    rw [← eq_normal_of_locate hl, ← place?_eq_file_iff]
    simp only [bind, Except.bind]
    rcases w.place? p with _ | _ | found
    · exact ⟨nofun, fun h => nomatch h.2⟩
    · exact ⟨nofun, fun h => nomatch h.2⟩
    · exact ⟨fun h => by cases h; exact ⟨rfl, rfl⟩, fun h => by cases h.2; rfl⟩

/-- A way can be walked where its folders are, and something is where something was. -/
theorem walk_of_kept {w w' : World} {p q : Path} {names : List String}
    (hfolder : ∀ q, w.place? q = some .folder → w'.place? q = some .folder)
    (hplace : ∀ q, (w.place? q).isSome = true → (w'.place? q).isSome = true)
    (h : w.walk p names = .ok q) : w'.walk p names = .ok q := by
  induction names generalizing p with
  | nil => exact h
  | cons name rest ih =>
    rw [walk] at h ⊢
    split at h
    · cases h
    · cases h
    · next hp =>
      simp only at h
      split at h
      · next hnext =>
        rw [hfolder p hp]
        simp only [hplace _ hnext, if_true]
        exact ih h
      · cases h

theorem locate_of_kept {w w' : World} {written : String}
    (hfolder : ∀ q, w.place? q = some .folder → w'.place? q = some .folder)
    (hplace : ∀ q, (w.place? q).isSome = true → (w'.place? q).isSome = true)
    (h : (w.locate written).toBool = true) : (w'.locate written).toBool = true := by
  rw [locate] at h ⊢
  split at h
  · cases h
  · cases hwalk : w.walk [] (Path.names written) with
    | error problem =>
      rw [hwalk] at h
      cases h
    | ok p =>
      rw [if_neg ‹_›, walk_of_kept hfolder hplace hwalk]
      rfl

theorem Extends.isThere {w w' : World} {written : String} (h : w'.Extends w)
    (hthere : (w.locate written).toBool = true) : (w'.locate written).toBool = true := by
  refine locate_of_kept (fun q => h q .folder) (fun q hq => ?_) hthere
  obtain ⟨place, hplace⟩ := Option.isSome_iff_exists.1 hq
  rw [h q place hplace, Option.isSome_some]

theorem files_of_makeWay {w w' : World} {p : Path} {names : List String}
    (h : w.makeWay p names = .ok w') : w'.files = w.files ∧ w'.fetches = w.fetches := by
  have hfolder {w w' : World} {p : Path} (h : w.withFolder? p = some w') :
      w'.files = w.files ∧ w'.fetches = w.fetches := by
    unfold withFolder? at h
    split at h
    · cases h
      exact ⟨rfl, rfl⟩
    · cases h
    · cases h
      exact ⟨rfl, rfl⟩
  induction names generalizing w p with
  | nil =>
    rw [makeWay] at h
    split at h
    · next hp =>
      cases h
      exact hfolder hp
    · cases h
  | cons name rest ih =>
    rw [makeWay] at h
    split at h
    · next hp =>
      obtain ⟨hfiles, hfetches⟩ := ih h
      exact ⟨hfiles.trans (hfolder hp).1, hfetches.trans (hfolder hp).2⟩
    · cases h

/-- Making a folder leaves the files as they are, and all that was there. -/
theorem extends_of_makeFolder {w w' : World} {folder : String} (h : w.makeFolder folder = .ok w') :
    w'.files = w.files ∧ w'.fetches = w.fetches ∧ w'.Extends w := by
  have hway : w.makeWay [] (Path.names folder) = .ok w' := mapError_eq_ok_iff.1 h
  exact ⟨(files_of_makeWay hway).1, (files_of_makeWay hway).2, extends_makeWay hway⟩

/-- Writing a file leaves the other files as they are, and all paths that lead somewhere. -/
theorem lookup_of_writeFile {w w' : World} {written text : String}
    (h : w.writeFile written text = .ok w') :
    (∀ q ≠ Path.normal (Path.names written), w'.files.lookup q = w.files.lookup q) ∧
      w'.fetches = w.fetches ∧
      ∀ path, (w.locate path).toBool = true → (w'.locate path).toBool = true := by
  rw [writeFile] at h
  generalize Path.normal (Path.names written) = p at h ⊢
  split at h
  · cases h
  · next hfree =>
    cases h
    have hlookup (q : Path) (hq : q ≠ p) :
        (w.putFile p text).files.lookup q = w.files.lookup q := by
      rw [putFile, List.lookup_cons, beq_eq_false_iff_ne.2 hq]
      exact lookup_filter_ne w.files hq
    refine ⟨hlookup, rfl, fun path hpath => locate_of_kept (fun q hq => ?_) (fun q hq => ?_) hpath⟩
    · refine place?_putFile_of_ne text ?_ hq
      rintro rfl
      exact hfree hq
    · by_cases hqp : q = p
      · rw [hqp, place?_putFile, Option.isSome_some]
      · obtain ⟨place, hplace⟩ := Option.isSome_iff_exists.1 hq
        rw [place?_putFile_of_ne text hqp hplace, Option.isSome_some]

/-- What was fetched makes no difference to the folders that can be made. -/
theorem makeFolder_withFetches (w : World) (fetches : List (String × Value)) (folder : String) :
    { w with fetches }.makeFolder folder =
      (w.makeFolder folder).map fun w' => { w' with fetches } := by
  have hfolder (w : World) (p : Path) : { w with fetches }.withFolder? p =
      (w.withFolder? p).map fun w' => { w' with fetches } := by
    have hplace : { w with fetches }.place? p = w.place? p := rfl
    rw [withFolder?, withFolder?, hplace]
    rcases w.place? p with _ | _ | text <;> rfl
  have hway (p : Path) (names : List String) : { w with fetches }.makeWay p names =
      (w.makeWay p names).map fun w' => { w' with fetches } := by
    induction names generalizing w p with
    | nil =>
      rw [makeWay, makeWay, hfolder]
      cases w.withFolder? p <;> rfl
    | cons name rest ih =>
      rw [makeWay, makeWay, hfolder]
      cases w.withFolder? p with
      | none => rfl
      | some w' => exact ih w' _
  rw [makeFolder, makeFolder, hway]
  cases w.makeWay [] (Path.names folder) <;> rfl

theorem writeFile_withFetches (w : World) (fetches : List (String × Value))
    (written text : String) :
    { w with fetches }.writeFile written text =
      (w.writeFile written text).map fun w' => { w' with fetches } := by
  have hplace (p : Path) : { w with fetches }.place? p = w.place? p := rfl
  rw [writeFile, writeFile]
  simp only [hplace]
  rcases w.place? (Path.normal (Path.names written)) with _ | _ | found <;> rfl

/-- The folder of a file is there, if it has a name. -/
theorem isThere_of_seenFrom {w : World} {folder name : String} (hfolder : folder ≠ "")
    (hname : '/' ∉ name.toList) (h : (w.locate (Path.seenFrom folder name)).toBool = true) :
    (w.locate folder).toBool = true := by
  rw [locate] at h ⊢
  split at h
  · cases h
  · rw [walk_seenFrom w folder hname, walk_append] at h
    rw [if_neg hfolder]
    cases hwalk : w.walk [] (Path.names folder) with
    | error problem =>
      rw [hwalk] at h
      cases h
    | ok p => rfl

/-- A folder that was taken away has no files any more. -/
theorem lookup_of_removeFolder {w w' : World} {folder : String}
    (h : w.removeFolder folder = .ok w') :
    w'.fetches = w.fetches ∧
      ∀ name, w'.files.lookup (Path.normal (Path.names folder) ++ [name]) = none := by
  rw [removeFolder] at h
  cases hl : w.locate folder with
  | error fault =>
    rw [hl] at h
    cases h
  | ok p =>
    rw [hl] at h
    simp only [bind, Except.bind] at h
    split at h
    · cases h
      refine ⟨rfl, fun name => ?_⟩
      rw [← eq_normal_of_locate hl, dropFolder, List.lookup_eq_none_iff]
      intro e he
      have hkept := (List.mem_filter.1 he).2
      rw [bne_iff_ne]
      intro heq
      have hprefix : p.isPrefixOf (p ++ [name]) = true :=
        List.isPrefixOf_iff_prefix.2 (List.prefix_append p [name])
      rw [← heq, hprefix] at hkept
      cases hkept
    · cases h

end World

end FieldRules
