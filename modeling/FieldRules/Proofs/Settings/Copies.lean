import FieldRules.Proofs.Service.Loading

/-!
# Copies of remote documents

A remote document is fetched when there is no copy of it, and copied into a folder. The copies stay
until they are taken away, so that a document is loaded from the reply that was fetched last,
whatever the server has by then, and nothing is fetched twice in between.

Results:
* `loadRemote_cases`: what loading a remote document comes to.
* `afterLoad_cases`: what loading settings does to a world.
* `coherent_of_history`: the copies are what was fetched last.
* `stored_of_history`: nothing is fetched twice, where copies can be written.
* `copies_of_history`: what is fetched, and what settings with a remote table have.
-/

namespace FieldRules.Settings

open Yaml (Datum)

variable {cache uri text written : String} {config : Option String} {patience : Value}
  {w w' : World}

/-! ## Places of copies -/

/-- The place of the copy of a remote document. -/
def copyPlace (cache uri : String) : Path :=
  Path.normal (Path.names (copyPath (World.host cache) uri))

theorem copyPlace_eq (cache uri : String) :
    copyPlace cache uri = Path.normal (Path.names cache) ++ [copyName uri] := by
  obtain ⟨hname, hplain⟩ := copyName_plain uri
  rw [copyPlace, copyPath_eq, Path.normal_names_seenFrom cache hname hplain]

theorem digest_eq_of_copyName_eq {uri uri' : String} (h : copyName uri' = copyName uri) :
    Digest.ofText uri' = Digest.ofText uri := by
  have htext : "messages_".toList ++ (Digest.ofText uri').toList ++ ".yaml".toList =
      "messages_".toList ++ (Digest.ofText uri).toList ++ ".yaml".toList := by
    simpa [copyName, toString] using congrArg String.toList h
  rw [List.append_left_inj, List.append_right_inj] at htext
  exact String.toList_inj.1 htext

theorem copyPlace_eq_iff {uri uri' : String} :
    copyPlace cache uri' = copyPlace cache uri ↔ Digest.ofText uri' = Digest.ofText uri := by
  rw [copyPlace_eq, copyPlace_eq, List.append_right_inj, List.singleton_inj]
  refine ⟨digest_eq_of_copyName_eq, fun h => ?_⟩
  rw [copyName, copyName, h]

theorem copyPath_of_digest_eq {uri uri' : String} (h : Digest.ofText uri' = Digest.ofText uri) :
    copyPath (World.host cache) uri' = copyPath (World.host cache) uri := by
  rw [copyPath_eq, copyPath_eq, copyName, copyName, h]

/-! ## Loading a remote document -/

/-- The text that a server gives, unless it cannot be reached or refuses. -/
def served? (w : World) (uri : String) : Option String :=
  (w.replies.get? uri).bind fun reply => if isRefused reply then none else some reply.text

/-- The folder of copies can be made, and copies can be written into it. -/
def CanCopy (cache : String) (w : World) : Prop :=
  ∀ uri text, ∃ w₁ w₂, w.makeFolder cache = .ok w₁ ∧
    w₁.writeFile (copyPath (World.host cache) uri) text = .ok w₂

/-- What comes of a remote document that is fetched, and the world afterwards: it is refused, or it
    cannot be copied, or it is copied and read. -/
inductive Fetched (cache uri : String) (w : World) : Except Fault Datum → World → Prop where
  | refused (fault : Fault) (h : served? w uri = none) : Fetched cache uri w (.error fault) w
  | noFolder (text : String) (fault : FileFault) (h : served? w uri = some text)
      (hmake : w.makeFolder cache = .error fault) : Fetched cache uri w (.error (.file fault)) w
  | noCopy (text : String) (fault : FileFault) (w₁ : World) (h : served? w uri = some text)
      (hmake : w.makeFolder cache = .ok w₁)
      (hwrite : w₁.writeFile (copyPath (World.host cache) uri) text = .error fault) :
      Fetched cache uri w (.error (.file fault)) w₁
  | copied (text : String) (w₁ w₂ : World) (h : served? w uri = some text)
      (hmake : w.makeFolder cache = .ok w₁)
      (hwrite : w₁.writeFile (copyPath (World.host cache) uri) text = .ok w₂) :
      Fetched cache uri w (readDocument ⟨"<unicode string>", text.toList, true⟩) w₂

/-- A world that has been asked for a remote document. -/
def asked (w : World) (uri : String) (patience : Value) : World :=
  { w with fetches := w.fetches ++ [(uri, patience)] }

theorem locate_asked (w : World) (uri : String) (patience : Value) (path : String) :
    (asked w uri patience).locate path = w.locate path := by
  apply World.locate_congr <;> rfl

theorem readFile_asked (w : World) (uri : String) (patience : Value) (path : String) :
    (asked w uri patience).readFile path = w.readFile path := by
  apply World.readFile_congr <;> rfl

theorem run_fetchText (cache uri : String) (patience : Value) (w : World) :
    ∃ fault, (fetchText (World.host cache) uri patience).run w =
      ((served? w uri).elim (.error fault) .ok, asked w uri patience) := by
  rw [fetchText, run_bind, run_orFail, fetch_eq, served?]
  cases w.replies.get? uri with
  | none => exact ⟨_, rfl⟩
  | some reply =>
    simp only [Option.elim_some, Except.mapError, Option.bind_some]
    cases isRefused reply with
    | true => exact ⟨_, rfl⟩
    | false => exact ⟨.malformedLocation .lopsided, rfl⟩

theorem run_attempt {change : World → Except FileFault World} :
    (orFail .file (World.attempt change) : InWorld Unit).run w =
      match change w with
      | .ok w' => (.ok (), w')
      | .error fault => (.error (.file fault), w) := by
  rw [run_orFail, World.attempt]
  cases change w <;> rfl

theorem run_makeFolder (cache path : String) (w : World) :
    (orFail .file ((World.host cache).makeFolder path) : InWorld Unit).run w =
      match w.makeFolder path with
      | .ok w' => (.ok (), w')
      | .error fault => (.error (.file fault), w) := run_attempt

theorem run_writeFile (cache path text : String) (w : World) :
    (orFail .file ((World.host cache).writeFile path text) : InWorld Unit).run w =
      match w.writeFile path text with
      | .ok w' => (.ok (), w')
      | .error fault => (.error (.file fault), w) := run_attempt

/-- A remote document is loaded from its copy if there is one. Else it is fetched. -/
theorem loadRemote_cases (cache uri : String) (patience : Value) (w : World) :
    ((w.locate (copyPath (World.host cache) uri)).toBool = true ∧
        (loadRemote (World.host cache) uri patience).run w =
          (loadFile (World.host cache) (copyPath (World.host cache) uri)).run w) ∨
      ((w.locate (copyPath (World.host cache) uri)).toBool = false ∧
        Fetched cache uri (asked w uri patience)
          ((loadRemote (World.host cache) uri patience).run w).1
          ((loadRemote (World.host cache) uri patience).run w).2) := by
  rw [loadRemote, run_bind, run_isThere]
  cases hthere : (w.locate (copyPath (World.host cache) uri)).toBool with
  | true => exact .inl ⟨rfl, rfl⟩
  | false =>
    refine .inr ⟨rfl, ?_⟩
    simp only [Bool.false_eq_true, if_false]
    obtain ⟨fault, hfetch⟩ := run_fetchText cache uri patience w
    have hserved : served? (asked w uri patience) uri = served? w uri := rfl
    rw [run_bind, hfetch]
    cases hs : served? w uri with
    | none => exact .refused fault (hserved.trans hs)
    | some text =>
      simp only [Option.elim_some]
      rw [run_bind, run_makeFolder]
      cases hmake : (asked w uri patience).makeFolder (World.host cache).cacheFolder with
      | error fault => exact .noFolder text fault (hserved.trans hs) hmake
      | ok w₁ =>
        simp only
        rw [run_bind, run_writeFile]
        cases hwrite : w₁.writeFile (copyPath (World.host cache) uri) text with
        | error fault => exact .noCopy text fault w₁ (hserved.trans hs) hmake hwrite
        | ok w₂ => exact .copied text w₁ w₂ (hserved.trans hs) hmake hwrite

/-! ## Loading settings -/

/-- Settings in a file ask for a table on a remote server. -/
def AsksFor (cache : String) (config : Option String) (w : World) (uri : String) : Prop :=
  ∃ path given written, fileOf? config = some path ∧
    (loadGiven (World.host cache) path).run w = (.ok given, w) ∧
    locationIn given = some written ∧ Location.read written = .remote uri

section Loading

variable {α β : Type} {x : InWorld α} {f : α → InWorld β} {asks : String → Prop}

/-- What leaves the world alone. -/
def IsReading (x : InWorld α) : Prop := ∀ w, (x.run w).2 = w

/-- What does to a world what loading one of some remote documents does, or nothing. -/
def IsLoadingIn (cache : String) (w : World) (asks : String → Prop) (x : InWorld α) : Prop :=
  (x.run w).2 = w ∨ ∃ uri patience, asks uri ∧
    (x.run w).2 = ((loadRemote (World.host cache) uri patience).run w).2

theorem IsReading.isLoadingIn (h : IsReading x) : IsLoadingIn cache w asks x := .inl (h w)

theorem IsReading.bind (hx : IsReading x)
    (hf : ∀ a, x.run w = (.ok a, w) → IsLoadingIn cache w asks (f a)) :
    IsLoadingIn cache w asks (x >>= f) := by
  have hw := hx w
  rw [IsLoadingIn, run_bind]
  rcases hrun : x.run w with ⟨fault | a, w'⟩
  · rw [hrun] at hw
    exact .inl hw
  · rw [hrun] at hw
    obtain rfl : w' = w := hw
    exact hf a hrun

theorem IsLoadingIn.bind (hx : IsLoadingIn cache w asks x) (hf : ∀ a, IsReading (f a)) :
    IsLoadingIn cache w asks (x >>= f) := by
  have hw : ((x >>= f).run w).2 = (x.run w).2 := by
    rw [run_bind]
    rcases x.run w with ⟨fault | a, w'⟩
    · rfl
    · exact hf a w'
  rw [IsLoadingIn, hw]
  exact hx

end Loading

theorem isReading_loadFile (cache path : String) :
    IsReading (loadFile (World.host cache) path) := by
  intro w
  have hread : (orFail .file ((World.host cache).readFile path) : InWorld String).run w =
    ((w.readFile path).mapError .file, w) := rfl
  rw [loadFile, run_bind, hread]
  cases w.readFile path <;> rfl

theorem isReading_loadGiven (cache path : String) :
    IsReading (loadGiven (World.host cache) path) := by
  intro w
  have hload := isReading_loadFile cache path w
  rw [loadGiven, run_bind]
  rcases hrun : (loadFile (World.host cache) path).run w with ⟨fault | d, w'⟩ <;>
  · rw [hrun] at hload
    exact hload

theorem isLoadingIn_loadFrom (cache folder : String) (patience : Value) (written : String)
    (w : World) : IsLoadingIn cache w (fun uri => Location.read written = .remote uri)
      (loadFrom (World.host cache) folder patience written) := by
  unfold loadFrom
  cases Location.read written with
  | path path => exact (isReading_loadFile cache _).isLoadingIn
  | file path => exact (isReading_loadFile cache _).isLoadingIn
  | remote uri => exact .inr ⟨uri, patience, rfl, rfl⟩
  | unsupported scheme uri => exact .inl rfl
  | malformed fault => exact .inl rfl

theorem isLoadingIn_loadTable (cache folder : String) (given : Datum) (w : World) :
    IsLoadingIn cache w
      (fun uri => ∃ written, locationIn given = some written ∧ Location.read written = .remote uri)
      (loadTable (World.host cache) folder given) := by
  unfold loadTable
  cases hlocation : locationIn given with
  | none => exact .inl rfl
  | some written =>
    have hfrom : IsLoadingIn cache w
        (fun uri => ∃ written', some written = some written' ∧ Location.read written' = .remote uri)
        (loadFrom (World.host cache) folder (patienceIn given) written) := by
      rcases isLoadingIn_loadFrom cache folder (patienceIn given) written w with
        h | ⟨uri, patience, hremote, h⟩
      · exact .inl h
      · exact .inr ⟨uri, patience, ⟨written, rfl, hremote⟩, h⟩
    refine hfrom.bind fun d w => ?_
    rw [run_bind]
    rcases hcheck : checkDocument messageSchema written d with fault | ⟨⟩ <;> rfl

/-- Loading settings does to the world what loading the remote table does that they ask for, or
    nothing. -/
theorem isLoadingIn_load (cache : String) (config : Option String) (w : World) :
    IsLoadingIn cache w (AsksFor cache config w) (load (World.host cache) config) := by
  unfold load AsksFor fileOf?
  cases config.filter (· ≠ "") with
  | none => exact .inl rfl
  | some written =>
    have hresolve : IsReading (liftM ((World.host cache).resolve written) : InWorld String) :=
      fun w => rfl
    refine hresolve.bind fun path hpath => ?_
    cases hpath
    refine (isReading_loadGiven cache _).bind fun given hgiven => ?_
    have hcheck : IsReading (liftM (checkDocument configSchema
        (Path.normal (Path.names written)).text given) : InWorld Unit) := fun w => rfl
    refine hcheck.bind fun _ _ => ?_
    have htable : IsLoadingIn cache w _ (loadTable (World.host cache) _ given) :=
      isLoadingIn_loadTable cache (Path.folderOf (Path.normal (Path.names written)).text) given w
    refine IsLoadingIn.bind ?_ fun messages w => rfl
    rcases htable with h | ⟨uri, patience, ⟨location, hlocation, hremote⟩, h⟩
    · exact .inl h
    · exact .inr ⟨uri, patience, ⟨_, given, location, rfl, hgiven, hlocation, hremote⟩, h⟩

/-! ## What is fetched -/

/-- What a world is after settings were loaded in it, or could not be. -/
def afterLoad (cache : String) (config : Option String) (w : World) : World :=
  ((load (World.host cache) config).run w).2

/-- What loading does to a world: nothing, or the remote table that settings ask for is fetched, if
    it has no copy. -/
theorem afterLoad_cases (cache : String) (config : Option String) (w : World) :
    afterLoad cache config w = w ∨
      ∃ uri patience result, AsksFor cache config w uri ∧
        (w.locate (copyPath (World.host cache) uri)).toBool = false ∧
        Fetched cache uri (asked w uri patience) result (afterLoad cache config w) := by
  rcases isLoadingIn_load cache config w with h | ⟨uri, patience, hasks, h⟩
  · exact .inl h
  · rw [afterLoad, h]
    rcases loadRemote_cases cache uri patience w with ⟨-, hload⟩ | ⟨hthere, hfetched⟩
    · rw [hload]
      exact .inl (isReading_loadFile cache _ w)
    · exact .inr ⟨uri, patience, _, hasks, hthere, hfetched⟩

theorem Fetched.fetches_eq {result : Except Fault Datum} (h : Fetched cache uri w result w') :
    w'.fetches = w.fetches := by
  cases h with
  | refused | noFolder => rfl
  | noCopy text fault _ _ hmake => exact (World.extends_of_makeFolder hmake).2.1
  | copied text w₁ _ _ hmake hwrite =>
    exact (World.lookup_of_writeFile hwrite).2.1.trans (World.extends_of_makeFolder hmake).2.1

theorem Fetched.of_ok {d : Datum} (h : Fetched cache uri w (.ok d) w') :
    ∃ text, served? w uri = some text ∧ Yaml.read text.toList = .ok d := by
  generalize hresult : (Except.ok d : Except Fault Datum) = result at h
  cases h with
  | refused | noFolder | noCopy => cases hresult
  | copied text w₁ _ hs =>
    have hd := readDocument_eq_ok_iff.1 hresult.symm
    exact ⟨text, hs, hd⟩

/-- The documents that are fetched between two worlds, the last one first, each with the text that
    its server gave. -/
def served (w w' : World) : List (String × String) :=
  ((w'.fetches.drop w.fetches.length).filterMap fun e => (served? w e.1).map (e.1, ·)).reverse

theorem served_self (w : World) : served w w = [] := by simp [served]

theorem Fetched.served_eq {result : Except Fault Datum}
    (h : Fetched cache uri (asked w uri patience) result w') :
    served w w' = ((served? w uri).map (uri, ·)).toList := by
  rw [served, h.fetches_eq, asked, List.drop_left, List.filterMap_cons, List.filterMap_nil]
  cases served? w uri <;> rfl

/-! ## Taking copies away -/

theorem removed_of_run_dropCopies (h : (dropCopies (World.host cache)).run w = (.ok (), w')) :
    (w.locate cache).toBool = false ∧ w' = w ∨ w.removeFolder cache = .ok w' := by
  rw [dropCopies, run_bind, run_isThere] at h
  change (if (w.locate cache).toBool then orFail .file ((World.host cache).removeFolder cache)
    else pure () : InWorld Unit).run w = _ at h
  split at h
  · exact .inr (run_attempt_eq_ok_iff.1 h)
  · next hthere =>
    cases h
    exact .inl ⟨Bool.eq_false_iff.2 hthere, rfl⟩

theorem fetches_dropCopies (cache : String) (w : World) :
    ((dropCopies (World.host cache)).run w).2.fetches = w.fetches := by
  rw [dropCopies, run_bind, run_isThere]
  change ((if (w.locate cache).toBool then orFail .file ((World.host cache).removeFolder cache)
    else pure () : InWorld Unit).run w).2.fetches = _
  split
  · change ((orFail .file (World.attempt (·.removeFolder cache)) : InWorld Unit).run w).2.fetches =
      w.fetches
    rw [run_attempt]
    cases hremove : w.removeFolder cache with
    | error fault => rfl
    | ok w' => exact (World.lookup_of_removeFolder hremove).1
  · rfl

/-! ## Histories -/

/-- A world in which the copies are as they were, whatever else may have changed. -/
structure KeepsCopies (cache : String) (w w' : World) : Prop where
  file : ∀ uri, w'.files.lookup (copyPlace cache uri) = w.files.lookup (copyPlace cache uri)
  read : ∀ uri, (w'.readFile (copyPath (World.host cache) uri)).toOption =
    (w.readFile (copyPath (World.host cache) uri)).toOption

/-- A world whose servers give something else. -/
def withReplies (w : World) (replies : Entries Reply) : World := { w with replies }

theorem keepsCopies_withReplies (w : World) (replies : Entries Reply) :
    KeepsCopies cache w (withReplies w replies) := by
  refine ⟨fun uri => rfl, fun uri => ?_⟩
  have hread (path : String) : (withReplies w replies).readFile path = w.readFile path := by
    apply World.readFile_congr <;> rfl
  rw [hread]

/-- What can become of a folder of copies that nothing else writes into: there are no copies in it
    at first; settings are loaded, or cannot be; the copies are taken away; and other things change,
    such as what servers give. With it go the worlds in which settings were loaded, and what was
    fetched since the copies were taken away, the last first. -/
inductive History (cache : String) : List World → List (String × String) → World → Prop where
  | start (w : World) (hnone : ∀ uri, w.files.lookup (copyPlace cache uri) = none) :
      History cache [] [] w
  | load {loads : List World} {bodies : List (String × String)} {w : World}
      (h : History cache loads bodies w) (config : Option String) :
      History cache (w :: loads) (served w (afterLoad cache config w) ++ bodies)
        (afterLoad cache config w)
  | drop {loads : List World} {bodies : List (String × String)} {w w' : World}
      (h : History cache loads bodies w)
      (hdrop : (dropCopies (World.host cache)).run w = (.ok (), w')) : History cache loads [] w'
  | change {loads : List World} {bodies : List (String × String)} {w w' : World}
      (h : History cache loads bodies w) (hkeeps : KeepsCopies cache w w') :
      History cache loads bodies w'

/-- The copies are what was fetched last, of the documents whose addresses have the digest. -/
structure Coherent (cache : String) (bodies : List (String × String)) (w : World) : Prop where
  readable : ∀ uri text, w.files.lookup (copyPlace cache uri) = some text →
    (w.locate (copyPath (World.host cache) uri)).toBool = true
  last : ∀ uri text, w.files.lookup (copyPlace cache uri) = some text →
    (bodies.map fun e => (Digest.ofText e.1, e.2)).lookup (Digest.ofText uri) = some text

theorem Coherent.of_none (h : ∀ uri, w.files.lookup (copyPlace cache uri) = none) :
    Coherent cache [] w := by
  constructor <;>
  · intro uri text htext
    cases (h uri).symm.trans htext

variable {bodies : List (String × String)} {loads : List World}

theorem Coherent.drop (h : Coherent cache bodies w) (hcache : cache ≠ "")
    (hdrop : (dropCopies (World.host cache)).run w = (.ok (), w')) : Coherent cache [] w' := by
  apply Coherent.of_none
  intro uri
  rcases removed_of_run_dropCopies hdrop with ⟨hnone, rfl⟩ | hremove
  · cases hfile : w'.files.lookup (copyPlace cache uri) with
    | none => rfl
    | some text =>
      have hthere := h.readable uri text hfile
      rw [copyPath_eq] at hthere
      rw [World.isThere_of_seenFrom hcache (copyName_plain uri).1 hthere] at hnone
      cases hnone
  · rw [copyPlace_eq]
    exact (World.lookup_of_removeFolder hremove).2 _

theorem Coherent.change (h : Coherent cache bodies w) (hkeeps : KeepsCopies cache w w') :
    Coherent cache bodies w' := by
  constructor
  · intro uri text htext
    rw [hkeeps.file] at htext
    have hread := World.readFile_eq_ok_iff.2 ⟨h.readable uri text htext, htext⟩
    have hread' := hkeeps.read uri
    rw [hread] at hread'
    cases hr : w'.readFile (copyPath (World.host cache) uri) with
    | error fault =>
      rw [hr] at hread'
      cases hread'
    | ok found => exact isThere_of_readFile hr
  · intro uri text htext
    rw [hkeeps.file] at htext
    exact h.last uri text htext

theorem Coherent.lookup_eq_none (h : Coherent cache bodies w)
    (hthere : (w.locate (copyPath (World.host cache) uri)).toBool = false) :
    w.files.lookup (copyPlace cache uri) = none := by
  cases hfile : w.files.lookup (copyPlace cache uri) with
  | none => rfl
  | some text =>
    rw [h.readable uri text hfile] at hthere
    cases hthere

theorem Coherent.mono (h : Coherent cache bodies w) (hfiles : w'.files = w.files)
    (hkept : ∀ path, (w.locate path).toBool = true → (w'.locate path).toBool = true) :
    Coherent cache bodies w' := by
  constructor
  · intro uri text htext
    rw [hfiles] at htext
    exact hkept _ (h.readable uri text htext)
  · intro uri text htext
    rw [hfiles] at htext
    exact h.last uri text htext

theorem Coherent.cons (h : Coherent cache bodies w)
    (hnone : w.files.lookup (copyPlace cache uri) = none) :
    Coherent cache ((uri, text) :: bodies) w := by
  refine ⟨h.readable, fun uri' text' htext => ?_⟩
  have hne : Digest.ofText uri' ≠ Digest.ofText uri := by
    intro hdigest
    rw [copyPlace_eq_iff.2 hdigest, hnone] at htext
    cases htext
  rw [List.map_cons, List.lookup_cons, beq_eq_false_iff_ne.2 hne]
  exact h.last uri' text' htext

/-- A copy that is written is what was fetched last. -/
theorem Coherent.copy (h : Coherent cache bodies w)
    (hwrite : w.writeFile (copyPath (World.host cache) uri) text = .ok w')
    (hread : w'.readFile (copyPath (World.host cache) uri) = .ok text) :
    Coherent cache ((uri, text) :: bodies) w' := by
  obtain ⟨hother, -, hkept⟩ := World.lookup_of_writeFile hwrite
  obtain ⟨hthere, hfile⟩ := World.readFile_eq_ok_iff.1 hread
  have hcases (uri' : String) :
      Digest.ofText uri' = Digest.ofText uri ∨ Digest.ofText uri' ≠ Digest.ofText uri ∧
        w'.files.lookup (copyPlace cache uri') = w.files.lookup (copyPlace cache uri') := by
    by_cases hdigest : Digest.ofText uri' = Digest.ofText uri
    · exact .inl hdigest
    · exact .inr ⟨hdigest, hother _ fun hplace => hdigest (copyPlace_eq_iff.1 hplace)⟩
  constructor
  · intro uri' text' htext
    rcases hcases uri' with hdigest | ⟨-, hsame⟩
    · rw [copyPath_of_digest_eq hdigest]
      exact hthere
    · rw [hsame] at htext
      exact hkept _ (h.readable uri' text' htext)
  · intro uri' text' htext
    rw [List.map_cons, List.lookup_cons]
    rcases hcases uri' with hdigest | ⟨hdigest, hsame⟩
    · rw [copyPlace_eq_iff.2 hdigest, copyPlace, hfile] at htext
      rw [hdigest, beq_self_eq_true]
      exact htext
    · rw [beq_eq_false_iff_ne.2 hdigest]
      rw [hsame] at htext
      exact h.last uri' text' htext

/-- Whatever comes of a document that is fetched, the copies are what was fetched last. -/
theorem Coherent.fetched (h : Coherent cache bodies w) {result : Except Fault Datum}
    (hthere : (w.locate (copyPath (World.host cache) uri)).toBool = false)
    (hfetched : Fetched cache uri (asked w uri patience) result w') :
    Coherent cache (served w w' ++ bodies) w' := by
  have hasked : Coherent cache bodies (asked w uri patience) :=
    h.mono rfl fun path => by rw [locate_asked]; exact id
  have hnone : (asked w uri patience).files.lookup (copyPlace cache uri) = none :=
    h.lookup_eq_none hthere
  have hmade {w₁ : World} (hmake : (asked w uri patience).makeFolder cache = .ok w₁) :
      Coherent cache bodies w₁ ∧ w₁.files.lookup (copyPlace cache uri) = none := by
    obtain ⟨hfiles, -, hextends⟩ := World.extends_of_makeFolder hmake
    exact ⟨hasked.mono hfiles fun path => hextends.isThere, by rw [hfiles, hnone]⟩
  rw [hfetched.served_eq]
  have hsame : served? (asked w uri patience) uri = served? w uri := rfl
  cases hfetched with
  | refused fault hs =>
    rw [← hsame, hs]
    exact hasked
  | noFolder text fault hs hmake =>
    rw [← hsame, hs]
    exact hasked.cons hnone
  | noCopy text fault _ hs hmake hwrite =>
    rw [← hsame, hs]
    exact (hmade hmake).1.cons (hmade hmake).2
  | copied text w₁ _ hs hmake hwrite =>
    rw [← hsame, hs]
    obtain ⟨hname, hplain⟩ := copyName_plain uri
    exact (hmade hmake).1.copy hwrite (World.readFile_of_makeFolder hname hplain hmake hwrite)

/-- In every history, the copies are what was fetched last. -/
theorem coherent_of_history (hcache : cache ≠ "") (h : History cache loads bodies w) :
    Coherent cache bodies w := by
  induction h with
  | start w hnone => exact .of_none hnone
  | @load loads bodies w h config ih =>
    rcases afterLoad_cases cache config w with
      hsame | ⟨uri, patience, result, -, hthere, hfetched⟩
    · rw [hsame, served_self]
      exact ih
    · exact ih.fetched hthere hfetched
  | drop h hdrop ih => exact ih.drop hcache hdrop
  | change h hkeeps ih => exact ih.change hkeeps

/-! ## What is fetched once -/

/-- Nothing was fetched twice, and what was fetched has a copy that can be read. -/
structure Stored (cache : String) (bodies : List (String × String)) (w : World) : Prop where
  nodup : (bodies.map Prod.fst).Nodup
  copied : ∀ uri ∈ bodies.map Prod.fst,
    ((w.readFile (copyPath (World.host cache) uri)).toOption).isSome = true

theorem isSome_toOption_iff {α : Type} {x : Except FileFault α} :
    x.toOption.isSome = true ↔ ∃ a, x = .ok a := by
  cases x with
  | error fault => exact ⟨nofun, nofun⟩
  | ok a => exact ⟨fun _ => ⟨a, rfl⟩, fun _ => rfl⟩

/-- Where copies can be written, a document that its server gives is copied and read. -/
theorem CanCopy.copied_of_fetched (hcan : CanCopy cache w) {result : Except Fault Datum}
    (hfetched : Fetched cache uri (asked w uri patience) result w')
    (hs : served? w uri = some text) :
    result = readDocument ⟨"<unicode string>", text.toList, true⟩ ∧
      ∃ w₁, (asked w uri patience).makeFolder cache = .ok w₁ ∧
        w₁.writeFile (copyPath (World.host cache) uri) text = .ok w' := by
  obtain ⟨v₁, v₂, hmake, hwrite⟩ := hcan uri text
  have hmake' : (asked w uri patience).makeFolder cache =
      .ok { v₁ with fetches := w.fetches ++ [(uri, patience)] } := by
    rw [asked, World.makeFolder_withFetches, hmake]
    rfl
  have hwrite' : { v₁ with fetches := w.fetches ++ [(uri, patience)] }.writeFile
      (copyPath (World.host cache) uri) text =
        .ok { v₂ with fetches := w.fetches ++ [(uri, patience)] } := by
    rw [World.writeFile_withFetches, hwrite]
    rfl
  have hserved : served? (asked w uri patience) uri = some text := hs
  cases hfetched with
  | refused fault hnone => cases hserved.symm.trans hnone
  | noFolder found fault _ hfail => cases hmake'.symm.trans hfail
  | noCopy found fault _ hfound hmade hfail =>
    obtain rfl := Option.some.inj (hserved.symm.trans hfound)
    obtain rfl := Except.ok.inj (hmake'.symm.trans hmade)
    cases hwrite'.symm.trans hfail
  | copied found w₁ _ hfound hmade hwritten =>
    obtain rfl := Option.some.inj (hserved.symm.trans hfound)
    exact ⟨rfl, w₁, hmade, hwritten⟩

/-- Its copy can be read then, and so can all other copies that could be read before. -/
theorem CanCopy.readFile_of_fetched (hcan : CanCopy cache w) {result : Except Fault Datum}
    (hfetched : Fetched cache uri (asked w uri patience) result w')
    (hs : served? w uri = some text) :
    w'.readFile (copyPath (World.host cache) uri) = .ok text ∧
      ∀ uri', Digest.ofText uri' ≠ Digest.ofText uri →
        (w.readFile (copyPath (World.host cache) uri')).toOption.isSome = true →
        (w'.readFile (copyPath (World.host cache) uri')).toOption.isSome = true := by
  obtain ⟨-, w₁, hmade, hwritten⟩ := hcan.copied_of_fetched hfetched hs
  obtain ⟨hname, hplain⟩ := copyName_plain uri
  obtain ⟨hfiles, -, hextends⟩ := World.extends_of_makeFolder hmade
  obtain ⟨hother, -, hkept⟩ := World.lookup_of_writeFile hwritten
  refine ⟨World.readFile_of_makeFolder hname hplain hmade hwritten, fun uri' hne hread => ?_⟩
  rw [isSome_toOption_iff] at hread ⊢
  obtain ⟨text', hread⟩ := hread
  obtain ⟨hthere, hfile⟩ := World.readFile_eq_ok_iff.1 hread
  refine ⟨text', World.readFile_eq_ok_iff.2 ⟨hkept _ (hextends.isThere ?_), ?_⟩⟩
  · rw [locate_asked]
    exact hthere
  · refine (hother _ fun hplace => hne (copyPlace_eq_iff.1 hplace)).trans ?_
    rw [hfiles]
    exact hfile

/-- Nothing that has a copy is fetched, and what is fetched is copied. -/
theorem Stored.fetched (h : Stored cache bodies w) (hcan : CanCopy cache w)
    {result : Except Fault Datum}
    (hthere : (w.locate (copyPath (World.host cache) uri)).toBool = false)
    (hfetched : Fetched cache uri (asked w uri patience) result w') :
    Stored cache (served w w' ++ bodies) w' := by
  rw [hfetched.served_eq]
  cases hs : served? w uri with
  | none =>
    have hsame : w' = asked w uri patience := by
      have hserved : served? (asked w uri patience) uri = none := hs
      cases hfetched with
      | refused => rfl
      | noFolder text _ hfound | noCopy text _ _ hfound | copied text _ _ hfound =>
        cases hserved.symm.trans hfound
    refine ⟨h.nodup, fun uri' huri' => ?_⟩
    rw [hsame, readFile_asked]
    exact h.copied uri' huri'
  | some text =>
    obtain ⟨hread, hkept⟩ := hcan.readFile_of_fetched hfetched hs
    -- a document with a copy of the same name would not have been fetched
    have hne : ∀ uri' ∈ bodies.map Prod.fst, Digest.ofText uri' ≠ Digest.ofText uri := by
      intro uri' huri' hdigest
      have hcopied := h.copied uri' huri'
      rw [copyPath_of_digest_eq hdigest, isSome_toOption_iff] at hcopied
      obtain ⟨text', hcopied⟩ := hcopied
      rw [isThere_of_readFile hcopied] at hthere
      cases hthere
    refine ⟨List.nodup_cons.2 ⟨fun hmem => hne uri hmem rfl, h.nodup⟩, fun uri' huri' => ?_⟩
    rcases List.mem_cons.1 huri' with rfl | hmem
    · rw [hread]
      rfl
    · exact hkept uri' (hne uri' hmem) (h.copied uri' hmem)

/-- In every history in which copies can be written, nothing is fetched twice. -/
theorem stored_of_history (h : History cache loads bodies w)
    (hcan : ∀ v ∈ loads, CanCopy cache v) : Stored cache bodies w := by
  induction h with
  | start w _ => exact ⟨List.nodup_nil, nofun⟩
  | @load loads bodies w h config ih =>
    obtain ⟨hw, hloads⟩ := List.forall_mem_cons.1 hcan
    rcases afterLoad_cases cache config w with
      hsame | ⟨uri, patience, result, -, hthere, hfetched⟩
    · rw [hsame, served_self]
      exact ih hloads
    · exact (ih hloads).fetched hw hthere hfetched
  | drop h hdrop ih => exact ⟨List.nodup_nil, nofun⟩
  | change h hkeeps ih =>
    refine ⟨(ih hcan).nodup, fun uri huri => ?_⟩
    rw [hkeeps.read]
    exact (ih hcan).copied uri huri

/-! ## What is loaded -/

theorem fetches_afterLoad (cache : String) (config : Option String) (w : World) :
    (afterLoad cache config w).fetches = w.fetches ∨
      ∃ uri patience, AsksFor cache config w uri ∧
        (w.locate (copyPath (World.host cache) uri)).toBool = false ∧
        (afterLoad cache config w).fetches = w.fetches ++ [(uri, patience)] := by
  rcases afterLoad_cases cache config w with
    hsame | ⟨uri, patience, result, hasks, hthere, hfetched⟩
  · exact .inl (by rw [hsame])
  · refine .inr ⟨uri, patience, hasks, hthere, ?_⟩
    rw [hfetched.fetches_eq]
    rfl

/-- A remote table is loaded from a document that is read at its address. -/
theorem loadRemote_of_run_loadTable {folder : String} {given : Datum} {messages : MessageTable}
    (hlocation : locationIn given = some written) (hremote : Location.read written = .remote uri)
    (h : (loadTable (World.host cache) folder given).run w = (.ok messages, w')) :
    ∃ d, (loadRemote (World.host cache) uri (patienceIn given)).run w = (.ok d, w') ∧
      checkDocument messageSchema written d = .ok () ∧ tableOf d = messages := by
  unfold loadTable at h
  simp only [hlocation, run_bind_eq_ok_iff, run_lift_eq_ok_iff] at h
  obtain ⟨d, w₁, hload, ⟨⟩, w₂, ⟨hcheck, rfl⟩, htable⟩ := h
  cases htable
  refine ⟨d, ?_, hcheck, rfl⟩
  unfold loadFrom at hload
  rw [hremote] at hload
  exact hload

/-- The addresses of documents differ from another one in their digests. -/
def DigestsDiffer (uri : String) (bodies : List (String × String)) : Prop :=
  ∀ e ∈ bodies, Digest.ofText e.1 = Digest.ofText uri → e.1 = uri

theorem DigestsDiffer.lookup_eq (h : DigestsDiffer uri bodies) :
    (bodies.map fun e => (Digest.ofText e.1, e.2)).lookup (Digest.ofText uri) =
      bodies.lookup uri := by
  induction bodies with
  | nil => rfl
  | cons e bodies ih =>
    obtain ⟨uri', text⟩ := e
    obtain ⟨hfirst, hrest⟩ := List.forall_mem_cons.1 h
    rw [List.map_cons, List.lookup_cons, List.lookup_cons, ih hrest]
    by_cases huri : uri = uri'
    · rw [huri, beq_self_eq_true, beq_self_eq_true]
    · have hdigest : Digest.ofText uri ≠ Digest.ofText uri' := fun he => huri (hfirst he.symm).symm
      rw [beq_eq_false_iff_ne.2 huri, beq_eq_false_iff_ne.2 hdigest]

/-- A remote document that is loaded is read from what was fetched last. -/
theorem loadRemote_fetched_last (h : Coherent cache bodies w) {d : Datum}
    (hload : (loadRemote (World.host cache) uri patience).run w = (.ok d, w'))
    (hplain : ∀ e ∈ served w w' ++ bodies, '\r' ∉ e.2.toList)
    (hdigests : DigestsDiffer uri (served w w' ++ bodies)) :
    ∃ body, (served w w' ++ bodies).lookup uri = some body ∧ Yaml.read body.toList = .ok d := by
  rcases loadRemote_cases cache uri patience w with ⟨-, hfile⟩ | ⟨hthere, hfetched⟩
  · rw [hfile] at hload
    obtain ⟨⟨text, hread, hd⟩, rfl⟩ := run_loadFile_eq_ok_iff.1 hload
    rw [served_self, List.nil_append] at hplain hdigests ⊢
    have hlast := h.last uri text (World.readFile_eq_ok_iff.1 hread).2
    rw [hdigests.lookup_eq] at hlast
    obtain ⟨later, earlier, hsplit, -⟩ := List.lookup_eq_some_iff.1 hlast
    have hmem : (uri, text) ∈ bodies := by simp [hsplit]
    rw [IsText, Text.plainBreaks_of_notMem (hplain (uri, text) hmem)] at hd
    exact ⟨text, hlast, hd⟩
  · rw [hload] at hfetched
    obtain ⟨text, hs, hd⟩ := hfetched.of_ok
    have hserved : served? w uri = some text := hs
    rw [hfetched.served_eq, hserved]
    exact ⟨text, by simp, hd⟩

/-- What becomes of the copies of remote documents, in every history of loading settings, taking the
    copies away, and changes of what servers give. A document is asked for only when settings ask
    for it and it has no copy, and never when copies are taken away. Where copies can be written,
    none is fetched twice before they are taken away. Settings with a remote table have what is read
    from the text that was fetched last, whatever its server has by then. -/
theorem copies_of_history (hcache : cache ≠ "") (h : History cache loads bodies w) :
    (∀ config, (afterLoad cache config w).fetches = w.fetches ∨
      ∃ uri patience, AsksFor cache config w uri ∧
        (w.locate (copyPath (World.host cache) uri)).toBool = false ∧
        (afterLoad cache config w).fetches = w.fetches ++ [(uri, patience)]) ∧
      ((dropCopies (World.host cache)).run w).2.fetches = w.fetches ∧
      ((∀ v ∈ loads, CanCopy cache v) → (bodies.map Prod.fst).Nodup) ∧
      ∀ config s w', (load (World.host cache) config).run w = (.ok s, w') →
        ∀ written uri, locationIn s.given = some written → Location.read written = .remote uri →
          (∀ e ∈ served w w' ++ bodies, '\r' ∉ e.2.toList) →
          DigestsDiffer uri (served w w' ++ bodies) →
          ∃ body d, (served w w' ++ bodies).lookup uri = some body ∧
            Yaml.read body.toList = .ok d ∧ tableOf d = s.messages := by
  refine ⟨fun config => fetches_afterLoad cache config w, fetches_dropCopies cache w,
    fun hcan => (stored_of_history h hcan).nodup, ?_⟩
  intro config s w' hload written uri hlocation hremote hplain hdigests
  obtain ⟨d, hfrom, -, htable⟩ :=
    loadRemote_of_run_loadTable hlocation hremote (given_of_run_load hload).2
  obtain ⟨body, hlast, hd⟩ :=
    loadRemote_fetched_last (coherent_of_history hcache h) hfrom hplain hdigests
  exact ⟨body, d, hlast, hd, htable⟩

/-! ## A server that changes its mind -/

/-- A world with settings that ask for a remote table, which its server gives. -/
def serverWorld : World where
  folders := []
  files := [(["config.yaml"], "error_messages_location: http://t/m\n")]
  replies := [("http://t/m", ⟨200, "OK", "required: needed\n"⟩)]
  fetches := []
  clock := .ofInt 1000
  today := ⟨2024, 5, 31⟩
  refusedPools := []

/-- The world after the settings were loaded, with another table on the server. -/
def changedWorld : World :=
  withReplies (afterLoad "/cache" (some "/config.yaml") serverWorld)
    [("http://t/m", ⟨200, "OK", "required: wanted\n"⟩)]

theorem copyPlace_cache (uri : String) : copyPlace "/cache" uri = ["cache", copyName uri] := by
  have hfolder : Path.normal (Path.names "/cache") = ["cache"] := rfl
  rw [copyPlace_eq, hfolder]
  rfl

theorem lookup_serverWorld (uri : String) :
    serverWorld.files.lookup (copyPlace "/cache" uri) = none := by
  simp [copyPlace_cache, serverWorld]

/-- Copies can be written into that world, whatever the servers give. -/
theorem canCopy_of_files (hfolders : w.folders = []) (hfiles : w.files = serverWorld.files) :
    CanCopy "/cache" w := by
  obtain ⟨folders, files, replies, fetches, clock, today, refused⟩ := w
  cases hfolders
  cases hfiles
  intro uri text
  let made (folders : List Path) : World :=
    ⟨folders, serverWorld.files, replies, fetches, clock, today, refused⟩
  have hmake : (made []).makeFolder "/cache" = .ok (made [["cache"]]) := rfl
  have hfree : (made [["cache"]]).place? (copyPlace "/cache" uri) = none := by
    rw [World.place?, lookup_serverWorld]
    simp [made, copyPlace_cache]
  have hwrite : (made [["cache"]]).writeFile (copyPath (World.host "/cache") uri) text =
      .ok ((made [["cache"]]).putFile (copyPlace "/cache" uri) text) := by
    rw [World.writeFile, ← copyPlace, hfree]
  exact ⟨_, _, hmake, hwrite⟩

theorem history_changedWorld :
    History "/cache" [serverWorld] [("http://t/m", "required: needed\n")] changedWorld := by
  have hserved : served serverWorld (afterLoad "/cache" (some "/config.yaml") serverWorld) =
      [("http://t/m", "required: needed\n")] := by decide +kernel
  have hload := (History.start serverWorld lookup_serverWorld).load (some "/config.yaml")
  rw [hserved] at hload
  exact hload.change (keepsCopies_withReplies _ _)

/-- Whether settings were loaded that ask for that table, with nothing fetched. -/
def isLoadedAgain : Except Fault Settings × World → Bool
  | (.ok s, w') => locationIn s.given = some "http://t/m" && served changedWorld w' = []
  | (.error _, _) => false

theorem exists_loadedAgain :
    ∃ s w', (load (World.host "/cache") (some "/config.yaml")).run changedWorld = (.ok s, w') ∧
      locationIn s.given = some "http://t/m" ∧ served changedWorld w' = [] := by
  have h : isLoadedAgain
      ((load (World.host "/cache") (some "/config.yaml")).run changedWorld) = true := by
    decide +kernel
  rcases hrun : (load (World.host "/cache") (some "/config.yaml")).run changedWorld with
    ⟨_ | s, w'⟩
  · rw [hrun] at h
    cases h
  · rw [hrun] at h
    simp only [isLoadedAgain, Bool.and_eq_true, decide_eq_true_eq] at h
    exact ⟨s, w', rfl, h⟩

/-- Settings that are loaded again have the table that was fetched first. -/
theorem copies_of_changedWorld :
    ∃ s w', (load (World.host "/cache") (some "/config.yaml")).run changedWorld = (.ok s, w') ∧
      (∀ v ∈ [serverWorld], CanCopy "/cache" v) ∧
      ([("http://t/m", "required: needed\n")].map Prod.fst).Nodup ∧
      ∃ d, Yaml.read "required: needed\n".toList = .ok d ∧ tableOf d = s.messages := by
  obtain ⟨s, w', hload, hlocation, hserved⟩ := exists_loadedAgain
  have hremote : Location.read "http://t/m" = .remote "http://t/m" := by decide +kernel
  have hcan : ∀ v ∈ [serverWorld], CanCopy "/cache" v := by
    intro v hv
    rw [List.mem_singleton.1 hv]
    exact canCopy_of_files rfl rfl
  obtain ⟨-, -, hnodup, hlast⟩ := copies_of_history (by decide) history_changedWorld
  have htable := hlast _ s w' hload _ _ hlocation hremote
  rw [hserved] at htable
  obtain ⟨body, d, hbody, hd, htable⟩ := htable (by decide) (by simp [DigestsDiffer])
  cases hbody
  exact ⟨s, w', hload, hcan, hnodup hcan, d, hd, htable⟩

end FieldRules.Settings
