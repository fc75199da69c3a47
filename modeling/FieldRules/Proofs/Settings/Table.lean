import FieldRules.Proofs.Host.Copy
import FieldRules.Settings.Basic

/-!
# Tables of templates that are still there

A table of templates is loaded from a file, from a copy, or from the reply of a server; a reply is
copied, so that after loading the text of the table is in a file. As long as that file is read as it
was left, the table is loaded from it, and nothing else is needed. A reply is read with its line
breaks as they are, and a file with plain ones: both give the same table if no line ends with a
carriage return.

Results:
* `run_loadTable_of_unchanged`: a table whose file has not changed is loaded again.
* `eq_of_run_loadTable`: tables loaded from the same text are the same.
-/

namespace FieldRules.Settings

open Yaml (Datum)

/-! ## Actions in a world -/

/-- What is done in a world and may fail. -/
abbrev InWorld (α : Type) := ExceptT Fault (StateM World) α

variable {α : Type} {cache folder written path text : String} {given d : Datum}
  {w w' v : World} {patience : Value} {location : Location}

theorem run_orFail {ε : Type} (wrap : ε → Fault) (x : StateM World (Except ε α)) (w : World) :
    (orFail wrap x).run w = ((x w).1.mapError wrap, (x w).2) := rfl

theorem run_attempt_eq_ok_iff {ε : Type} {wrap : ε → Fault} {change : World → Except ε World} :
    (orFail wrap (World.attempt change)).run w = (.ok (), w') ↔ change w = .ok w' := by
  rw [run_orFail, World.attempt]
  cases change w with
  | error fault => exact ⟨nofun, nofun⟩
  | ok w₁ => exact ⟨fun h => by cases h; rfl, fun h => by cases h; rfl⟩

theorem run_makeFolder_eq_ok_iff :
    (orFail .file ((World.host cache).makeFolder path) : InWorld Unit).run w = (.ok (), w') ↔
      w.makeFolder path = .ok w' := run_attempt_eq_ok_iff

theorem run_writeFile_eq_ok_iff :
    (orFail .file ((World.host cache).writeFile path text) : InWorld Unit).run w = (.ok (), w') ↔
      w.writeFile path text = .ok w' := run_attempt_eq_ok_iff

theorem run_isThere (cache path : String) (w : World) :
    (liftM ((World.host cache).isThere path) : InWorld Bool).run w =
      (.ok (w.locate path).toBool, w) := rfl

/-! ## Documents -/

/-- The text of a file is read as a document. -/
def IsText (text : String) (d : Datum) : Prop := Yaml.read (Text.plainBreaks text.toList) = .ok d

theorem readDocument_eq_ok_iff {source : Yaml.Source} :
    readDocument source = .ok d ↔ Yaml.read source.text = .ok d := mapError_eq_ok_iff

theorem run_readFile_eq_ok_iff :
    (orFail .file ((World.host cache).readFile path) : InWorld String).run w = (.ok text, w') ↔
      w.readFile path = .ok text ∧ w' = w := by
  show (liftM ((w.readFile path).mapError Fault.file) : InWorld String).run w = _ ↔ _
  rw [run_lift_eq_ok_iff, mapError_eq_ok_iff]

theorem run_loadFile_eq_ok_iff :
    (loadFile (World.host cache) path).run w = (.ok d, w') ↔
      (∃ text, w.readFile path = .ok text ∧ IsText text d) ∧ w' = w := by
  simp only [loadFile, run_bind_eq_ok_iff, run_readFile_eq_ok_iff, run_lift_eq_ok_iff,
    readDocument_eq_ok_iff]
  constructor
  · rintro ⟨text, _, ⟨htext, rfl⟩, hd, rfl⟩
    exact ⟨⟨text, htext, hd⟩, rfl⟩
  · rintro ⟨⟨text, htext, hd⟩, rfl⟩
    exact ⟨text, w', ⟨htext, rfl⟩, hd, rfl⟩

theorem isThere_of_readFile (h : w.readFile path = .ok text) : (w.locate path).toBool = true := by
  rw [World.readFile] at h
  cases hl : w.locate path with
  | error fault =>
    rw [hl] at h
    cases h
  | ok p => rfl

/-! ## Copies -/

/-- The name of the copy of a remote document. -/
def copyName (uri : String) : String := s!"messages_{Digest.ofText uri}.yaml"

theorem copyPath_eq (cache uri : String) :
    copyPath (World.host cache) uri = Path.seenFrom cache (copyName uri) := rfl

theorem notMem_hexWord (x : UInt32) : '/' ∉ Digest.hexWord x := by
  have hdigit : ∀ n < 16, Nat.digitChar n ≠ '/' := by decide
  intro h
  obtain ⟨n, -, hn⟩ := List.mem_map.1 h
  exact hdigit _ (Nat.mod_lt _ (by decide)) hn

/-- A copy has a plain name of its own in the folder of copies. -/
theorem copyName_plain (uri : String) :
    '/' ∉ (copyName uri).toList ∧ copyName uri ≠ "" ∧ copyName uri ≠ "." ∧ copyName uri ≠ ".." := by
  have hdigest : '/' ∉ (Digest.ofText uri).toList := by
    rw [Digest.ofText, String.toList_ofList]
    intro h
    obtain ⟨x, -, hx⟩ := List.mem_flatMap.1 h
    exact notMem_hexWord x hx
  have htext : (copyName uri).toList =
      'm' :: ("essages_".toList ++ (Digest.ofText uri).toList ++ ".yaml".toList) := by
    simp [copyName, toString]
  refine ⟨by simp [htext, hdigest], ?_, ?_, ?_⟩ <;>
  · intro he
    rw [he] at htext
    cases htext

theorem fetch_eq (cache uri : String) (patience : Value) (w : World) :
    (World.host cache).fetch uri patience w =
      ((w.replies.get? uri).elim (.error "unreachable") .ok,
        { w with fetches := w.fetches ++ [(uri, patience)] }) := by
  simp only [World.host, bind, StateT.bind, modify, modifyGet, MonadStateOf.modifyGet,
    StateT.modifyGet, get, getThe, MonadStateOf.get, StateT.get, pure]
  cases w.replies.get? uri <;> rfl

/-- A text that is fetched is that of a reply. -/
theorem reply_of_run_fetchText {uri : String}
    (h : (fetchText (World.host cache) uri patience).run w = (.ok text, w')) :
    ∃ reply, w.replies.get? uri = some reply ∧ reply.text = text := by
  rw [fetchText, run_bind_eq_ok_iff] at h
  obtain ⟨reply, w₁, hfetch, h⟩ := h
  have hreply : w.replies.get? uri = some reply := by
    rw [run_orFail, fetch_eq] at hfetch
    cases hfound : w.replies.get? uri with
    | none =>
      rw [hfound] at hfetch
      cases hfetch
    | some found =>
      rw [hfound] at hfetch
      cases hfetch
      rfl
  refine ⟨reply, hreply, ?_⟩
  split at h
  · cases h
  · cases h
    rfl

/-- A remote document is loaded from its copy, or else from a reply, which is then copied. -/
theorem copy_of_run_loadRemote {uri : String}
    (h : (loadRemote (World.host cache) uri patience).run w = (.ok d, w')) :
    (∃ text, w.readFile (copyPath (World.host cache) uri) = .ok text ∧ IsText text d ∧ w' = w) ∨
      ∃ reply, (w.readFile (copyPath (World.host cache) uri)).toOption = none ∧
        w.replies.get? uri = some reply ∧ Yaml.read reply.text.toList = .ok d ∧
        w'.readFile (copyPath (World.host cache) uri) = .ok reply.text := by
  rw [loadRemote, run_bind_eq_ok_iff] at h
  obtain ⟨isThere, w₁, hthere, h⟩ := h
  rw [run_isThere] at hthere
  cases hthere
  split at h
  · next hthere =>
    obtain ⟨⟨text, htext, hd⟩, rfl⟩ := run_loadFile_eq_ok_iff.1 h
    exact .inl ⟨text, htext, hd, rfl⟩
  · next hthere =>
    right
    rw [run_bind_eq_ok_iff] at h
    obtain ⟨text, w₂, hfetch, h⟩ := h
    obtain ⟨reply, hreply, rfl⟩ := reply_of_run_fetchText hfetch
    simp only [run_bind_eq_ok_iff] at h
    obtain ⟨⟨⟩, w₃, hmake, ⟨⟩, w₄, hwrite, hread⟩ := h
    obtain ⟨hd, rfl⟩ := run_lift_eq_ok_iff.1 hread
    obtain ⟨hname, hplain⟩ := copyName_plain uri
    rw [run_makeFolder_eq_ok_iff] at hmake
    rw [run_writeFile_eq_ok_iff, copyPath_eq] at hwrite
    rw [readDocument_eq_ok_iff] at hd
    refine ⟨reply, ?_, hreply, hd, ?_⟩
    · cases hread : w.readFile (copyPath (World.host cache) uri) with
      | error fault => rfl
      | ok text => exact absurd (isThere_of_readFile hread) hthere
    rw [copyPath_eq]
    exact World.readFile_of_makeFolder hname hplain hmake hwrite

theorem run_loadRemote_of_readFile {uri : String}
    (htext : w.readFile (copyPath (World.host cache) uri) = .ok text) (hd : IsText text d) :
    (loadRemote (World.host cache) uri patience).run w = (.ok d, w) := by
  rw [loadRemote, run_bind_eq_ok_iff]
  refine ⟨_, w, run_isThere cache _ w, ?_⟩
  rw [isThere_of_readFile htext]
  exact run_loadFile_eq_ok_iff.2 ⟨⟨text, htext, hd⟩, rfl⟩

/-! ## Locations -/

/-- The file that the document at a location is in, or its copy if it is a remote one. -/
def Location.file? (cache folder : String) : Location → Option String
  | .path path => some (Path.seenFrom folder path)
  | .file path => some path
  | .remote uri => some (copyPath (World.host cache) uri)
  | .unsupported _ _ | .malformed _ => none

/-- The text that a world has at a location: that of the file, or that of a reply if there is no
    copy to read. -/
def Location.text? (cache folder : String) (w : World) : Location → Option String
  | .path path => (w.readFile (Path.seenFrom folder path)).toOption
  | .file path => (w.readFile path).toOption
  | .remote uri =>
    (w.readFile (copyPath (World.host cache) uri)).toOption.or
      ((w.replies.get? uri).map Reply.text)
  | .unsupported _ _ | .malformed _ => none

/-- A remote text at a location has no carriage returns. -/
def Location.IsPlain (cache folder : String) (w : World) (location : Location) : Prop :=
  ∀ uri text, location = .remote uri → location.text? cache folder w = some text →
    '\r' ∉ text.toList

/-- A document that was loaded is in a file afterwards, with the text that was there. -/
theorem text_of_run_loadFrom (hplain : (Location.read written).IsPlain cache folder w)
    (h : (loadFrom (World.host cache) folder patience written).run w = (.ok d, w')) :
    ∃ path text, (Location.read written).file? cache folder = some path ∧
      w'.readFile path = .ok text ∧ (Location.read written).text? cache folder w = some text ∧
      IsText text d := by
  unfold loadFrom at h
  cases hl : Location.read written with
  | path path =>
    simp only [hl] at h
    obtain ⟨⟨text, htext, hd⟩, rfl⟩ := run_loadFile_eq_ok_iff.1 h
    exact ⟨_, text, rfl, htext, by rw [Location.text?, htext]; rfl, hd⟩
  | file path =>
    simp only [hl] at h
    obtain ⟨⟨text, htext, hd⟩, rfl⟩ := run_loadFile_eq_ok_iff.1 h
    exact ⟨_, text, rfl, htext, by rw [Location.text?, htext]; rfl, hd⟩
  | remote uri =>
    rw [hl] at hplain
    simp only [hl] at h
    rcases copy_of_run_loadRemote h with ⟨text, htext, hd, rfl⟩ | ⟨reply, hthere, hreply, hd, hcopy⟩
    · exact ⟨_, text, rfl, htext, by rw [Location.text?, htext]; rfl, hd⟩
    · have htext : (Location.remote uri).text? cache folder w = some reply.text := by
        rw [Location.text?, hthere, hreply]
        rfl
      refine ⟨_, reply.text, rfl, hcopy, htext, ?_⟩
      rw [IsText, Text.plainBreaks_of_notMem (hplain uri _ rfl htext)]
      exact hd
  | unsupported scheme uri =>
    simp only [hl] at h
    cases h
  | malformed fault =>
    simp only [hl] at h
    cases h

/-- A document whose file can be read is loaded from it, and nothing else is done. -/
theorem run_loadFrom_of_readFile
    (hfile : (Location.read written).file? cache folder = some path)
    (htext : w.readFile path = .ok text) (hd : IsText text d) :
    (loadFrom (World.host cache) folder patience written).run w = (.ok d, w) := by
  have hload : (loadFile (World.host cache) path).run w = (.ok d, w) :=
    run_loadFile_eq_ok_iff.2 ⟨⟨text, htext, hd⟩, rfl⟩
  unfold loadFrom
  cases hl : Location.read written with
  | path path =>
    rw [hl] at hfile
    cases hfile
    exact hload
  | file path =>
    rw [hl] at hfile
    cases hfile
    exact hload
  | remote uri =>
    rw [hl] at hfile
    cases hfile
    exact run_loadRemote_of_readFile htext hd
  | unsupported scheme uri =>
    rw [hl] at hfile
    cases hfile
  | malformed fault =>
    rw [hl] at hfile
    cases hfile

/-! ## Tables -/

/-- The file of the table that settings ask for. -/
def tableFile? (cache folder : String) (given : Datum) : Option String :=
  (locationIn given).bind fun written => (Location.read written).file? cache folder

/-- The text of the table that settings ask for, as a world has it. -/
def tableText? (cache folder : String) (given : Datum) (w : World) : Option String :=
  (locationIn given).bind fun written => (Location.read written).text? cache folder w

/-- The text of a remote table has no carriage returns. -/
def IsTablePlain (cache folder : String) (given : Datum) (w : World) : Prop :=
  ∀ written, locationIn given = some written → (Location.read written).IsPlain cache folder w

variable {messages messages' : MessageTable}

/-- A text is read as a table, which is taken from a location. -/
def IsTable (written text : String) (messages : MessageTable) : Prop :=
  ∃ d, IsText text d ∧ checkDocument messageSchema written d = .ok () ∧ tableOf d = messages

theorem IsTable.unique (h : IsTable written text messages) (h' : IsTable written text messages') :
    messages' = messages := by
  obtain ⟨d, hd, -, rfl⟩ := h
  obtain ⟨d', hd', -, rfl⟩ := h'
  rw [IsText, hd] at hd'
  rw [Except.ok.inj hd']

/-- A table that was loaded is the standard one, or it is in a file afterwards, with the text that
    was there. -/
theorem table_of_run_loadTable (hplain : IsTablePlain cache folder given w)
    (h : (loadTable (World.host cache) folder given).run w = (.ok messages, w')) :
    locationIn given = none ∧ messages = .standard ∨
      ∃ written path text, locationIn given = some written ∧
        tableFile? cache folder given = some path ∧ w'.readFile path = .ok text ∧
        tableText? cache folder given w = some text ∧ IsTable written text messages := by
  unfold loadTable at h
  cases hl : locationIn given with
  | none =>
    simp only [hl] at h
    cases h
    exact .inl ⟨rfl, rfl⟩
  | some written =>
    simp only [hl, run_bind_eq_ok_iff, run_lift_eq_ok_iff] at h
    obtain ⟨d, w₁, hload, ⟨⟩, w₂, ⟨hcheck, rfl⟩, htable⟩ := h
    cases htable
    obtain ⟨path, text, hfile, hread, htext, hd⟩ := text_of_run_loadFrom (hplain written hl) hload
    refine .inr ⟨written, path, text, rfl, ?_, hread, ?_, d, hd, hcheck, rfl⟩
    · rw [tableFile?, hl, Option.bind_some, hfile]
    · rw [tableText?, hl, Option.bind_some, htext]

/-- A table whose file has not changed is loaded again, and nothing else is done. -/
theorem run_loadTable_of_unchanged (hplain : IsTablePlain cache folder given w)
    (h : (loadTable (World.host cache) folder given).run w = (.ok messages, w'))
    (hv : ∀ path, tableFile? cache folder given = some path →
      v.readFile path = w'.readFile path) :
    (loadTable (World.host cache) folder given).run v = (.ok messages, v) := by
  unfold loadTable
  rcases table_of_run_loadTable hplain h with
    ⟨hl, rfl⟩ | ⟨written, path, text, hl, hfile, hread, -, d, hd, hcheck, rfl⟩
  · rw [hl]
    rfl
  · have hfrom : (Location.read written).file? cache folder = some path := by
      rw [← hfile, tableFile?, hl, Option.bind_some]
    simp only [hl, run_bind_eq_ok_iff, run_lift_eq_ok_iff]
    refine ⟨d, v, ?_, (), v, ⟨hcheck, rfl⟩, rfl⟩
    exact run_loadFrom_of_readFile hfrom ((hv path hfile).trans hread) hd

/-- Tables that are loaded from the same text are the same. -/
theorem eq_of_run_loadTable {v' : World} (hplain : IsTablePlain cache folder given w)
    (h : (loadTable (World.host cache) folder given).run w = (.ok messages, w'))
    (h' : (loadTable (World.host cache) folder given).run v = (.ok messages', v'))
    (hv : tableText? cache folder given v = tableText? cache folder given w) :
    messages' = messages := by
  have hplain' : IsTablePlain cache folder given v := by
    intro written hl uri text hremote htext
    refine hplain written hl uri text hremote ?_
    rw [tableText?, tableText?, hl, Option.bind_some, Option.bind_some] at hv
    exact hv ▸ htext
  rcases table_of_run_loadTable hplain h with
    ⟨hl, rfl⟩ | ⟨written, path, text, hl, -, -, htext, htable⟩ <;>
  rcases table_of_run_loadTable hplain' h' with
    ⟨hl', rfl⟩ | ⟨written', path', text', hl', -, -, htext', htable'⟩
  · rfl
  · rw [hl] at hl'
    cases hl'
  · rw [hl] at hl'
    cases hl'
  · obtain rfl : written' = written := by
      rw [hl] at hl'
      exact (Option.some.inj hl').symm
    obtain rfl : text' = text := by
      rw [htext', htext] at hv
      exact Option.some.inj hv
    exact htable.unique htable'

end FieldRules.Settings
