import FieldRules.Proofs.Settings.Copies

/-!
# Remote tables that could not be loaded

A remote document is copied as soon as its server gives it, before it is read. If the server cannot
be reached or refuses, there is no copy, and the table is loaded as soon as the server gives one. A
document that is no table is copied as well. Its copy is in the way from then on: all settings that
ask for the table fail, whatever the server has by then.

Results:
* `run_load_of_asks`: what loading settings with a remote table comes to.
* `load_after_failed_load`: what is left of settings that could not be loaded, and what becomes of
  settings that ask for the same table later.
* `load_after_brokenReply`: a document that cannot be read is in the way of a table.
-/

namespace FieldRules.Settings

open Yaml (Datum)

variable {cache uri text path : String} {config : Option String} {given d : Datum}
  {messages : MessageTable} {w w' v : World} {fault : Fault}

/-! ## Settings that ask for a table -/

/-- Settings in a file fit their schema and ask for a table on a remote server. -/
structure Asks (cache : String) (config : Option String) (w : World) (path : String)
    (given : Datum) (uri : String) : Prop where
  file : fileOf? config = some path
  document : (loadGiven (World.host cache) path).run w = (.ok given, w)
  fits : checkDocument configSchema path given = .ok ()
  location : locationIn given = some uri
  remote : Location.read uri = .remote uri

/-- The text that a server gives is read as a table. -/
def IsServedTable (uri text : String) (messages : MessageTable) : Prop :=
  ∃ d, Yaml.read text.toList = .ok d ∧ checkDocument messageSchema uri d = .ok () ∧
    tableOf d = messages

/-- Settings with a remote table are loaded when the document is loaded and is a table. -/
theorem run_load_of_asks (h : Asks cache config w path given uri) :
    (load (World.host cache) config).run w =
      match (loadRemote (World.host cache) uri (patienceIn given)).run w with
      | (.error fault, w') => (.error fault, w')
      | (.ok d, w') =>
        ((checkDocument messageSchema uri d).map fun _ => ⟨given, tableOf d, w'.clock⟩, w') := by
  obtain ⟨hfile, hgiven, hfits, hlocation, hremote⟩ := h
  have htable : (loadTable (World.host cache) (Path.folderOf path) given).run w =
      match (loadRemote (World.host cache) uri (patienceIn given)).run w with
      | (.error fault, w') => (.error fault, w')
      | (.ok d, w') => ((checkDocument messageSchema uri d).map fun _ => tableOf d, w') := by
    have hfrom : loadFrom (World.host cache) (Path.folderOf path) (patienceIn given) uri =
        loadRemote (World.host cache) uri (patienceIn given) := by
      unfold loadFrom
      rw [hremote]
    unfold loadTable
    rw [hlocation]
    simp only
    rw [hfrom, run_bind]
    rcases (loadRemote (World.host cache) uri (patienceIn given)).run w with ⟨fault | d, w'⟩
    · rfl
    · simp only
      rw [run_bind]
      generalize checkDocument messageSchema uri d = fit
      cases fit <;> rfl
  have hloadAt : (loadAt (World.host cache) path given).run w =
      match (loadTable (World.host cache) (Path.folderOf path) given).run w with
      | (.error fault, w') => (.error fault, w')
      | (.ok messages, w') => (.ok ⟨given, messages, w'.clock⟩, w') := by
    have hcheck : (liftM (checkDocument configSchema path given) : InWorld Unit).run w =
        (.ok (), w) := run_lift_eq_ok_iff.2 ⟨hfits, rfl⟩
    rw [loadAt, run_bind, hcheck]
    simp only
    rw [run_bind]
    rcases (loadTable (World.host cache) (Path.folderOf path) given).run w with
      ⟨fault | messages, w'⟩ <;> rfl
  have hload : (load (World.host cache) config).run w =
      (loadAt (World.host cache) path given).run w := by
    unfold load
    unfold fileOf? at hfile
    cases hc : config.filter (· ≠ "") with
    | none =>
      rw [hc] at hfile
      cases hfile
    | some written =>
      rw [hc] at hfile
      cases hfile
      have hresolve : (liftM ((World.host cache).resolve written) : InWorld String).run w =
        (.ok (Path.normal (Path.names written)).text, w) := rfl
      simp only
      rw [run_bind, hresolve]
      simp only
      rw [run_bind, hgiven]
  rw [hload, hloadAt, htable]
  rcases (loadRemote (World.host cache) uri (patienceIn given)).run w with ⟨fault | d, w'⟩
  · rfl
  · simp only
    generalize checkDocument messageSchema uri d = fit
    cases fit <;> rfl

theorem run_load_of_run_loadRemote (h : Asks cache config w path given uri)
    (hload : (loadRemote (World.host cache) uri (patienceIn given)).run w = (.ok d, w')) :
    (load (World.host cache) config).run w =
      ((checkDocument messageSchema uri d).map fun _ => ⟨given, tableOf d, w'.clock⟩, w') := by
  rw [run_load_of_asks h, hload]

theorem exists_run_load_of_table (h : Asks cache config w path given uri)
    (hload : (loadRemote (World.host cache) uri (patienceIn given)).run w = (.ok d, w'))
    (hfit : checkDocument messageSchema uri d = .ok ()) :
    ∃ s, (load (World.host cache) config).run w = (.ok s, w') ∧ s.given = given ∧
      s.messages = tableOf d := by
  rw [run_load_of_run_loadRemote h hload, hfit]
  exact ⟨_, rfl, rfl, rfl⟩

theorem run_load_of_run_loadRemote_error (h : Asks cache config w path given uri)
    (hload : (loadRemote (World.host cache) uri (patienceIn given)).run w = (.error fault, w')) :
    (load (World.host cache) config).run w = (.error fault, w') := by
  rw [run_load_of_asks h, hload]

/-! ## Documents without a copy -/

/-- There is a copy of a remote document. -/
def isCopied (cache uri : String) (w : World) : Bool :=
  (w.locate (copyPath (World.host cache) uri)).toBool

/-- A document without a copy is asked for; if its server gives nothing, nothing else is done. -/
theorem run_loadRemote_of_served_none (patience : Value)
    (hmissing : isCopied cache uri w = false) (hnone : served? w uri = none) :
    ∃ fault, (loadRemote (World.host cache) uri patience).run w =
      (.error fault, asked w uri patience) := by
  rcases loadRemote_cases cache uri patience w with ⟨hthere, -⟩ | ⟨-, hfetched⟩
  · cases hmissing.symm.trans hthere
  · have hserved : served? (asked w uri patience) uri = none := hnone
    rcases hrun : (loadRemote (World.host cache) uri patience).run w with ⟨result, w'⟩
    rw [hrun] at hfetched
    cases hfetched with
    | refused fault => exact ⟨fault, rfl⟩
    | noFolder text _ hfound | noCopy text _ _ hfound | copied text _ _ hfound =>
      cases hserved.symm.trans hfound

theorem run_loadRemote_of_served (patience : Value) (hmissing : isCopied cache uri w = false)
    (hcan : CanCopy cache w) (hserved : served? w uri = some text) :
    ∃ w', (loadRemote (World.host cache) uri patience).run w =
        (readDocument ⟨"<unicode string>", text.toList, true⟩, w') ∧
      w'.readFile (copyPath (World.host cache) uri) = .ok text := by
  rcases loadRemote_cases cache uri patience w with ⟨hthere, -⟩ | ⟨-, hfetched⟩
  · cases hmissing.symm.trans hthere
  · rcases hrun : (loadRemote (World.host cache) uri patience).run w with ⟨result, w'⟩
    rw [hrun] at hfetched
    obtain ⟨rfl, -⟩ := hcan.copied_of_fetched hfetched hserved
    exact ⟨w', rfl, (hcan.readFile_of_fetched hfetched hserved).1⟩

theorem run_loadRemote_of_copied (patience : Value)
    (hread : v.readFile (copyPath (World.host cache) uri) = .ok text) :
    (loadRemote (World.host cache) uri patience).run v =
      (loadFile (World.host cache) (copyPath (World.host cache) uri)).run v := by
  rcases loadRemote_cases cache uri patience v with ⟨-, hload⟩ | ⟨hmissing, -⟩
  · exact hload
  · cases (isThere_of_readFile hread).symm.trans hmissing

/-! ## Tables after a failure -/

theorem exists_run_load_of_served (h : Asks cache config w path given uri)
    (hmissing : isCopied cache uri w = false) (hcan : CanCopy cache w)
    (hserved : served? w uri = some text) (htable : IsServedTable uri text messages) :
    ∃ s w', (load (World.host cache) config).run w = (.ok s, w') ∧ s.messages = messages := by
  obtain ⟨d, hd, hfit, rfl⟩ := htable
  obtain ⟨w', hload, -⟩ := run_loadRemote_of_served (patienceIn given) hmissing hcan hserved
  have hread : readDocument ⟨"<unicode string>", text.toList, true⟩ = .ok d :=
    readDocument_eq_ok_iff.2 hd
  rw [hread] at hload
  obtain ⟨s, hs, -, hmessages⟩ := exists_run_load_of_table h hload hfit
  exact ⟨s, w', hs, hmessages⟩

/-- Where there is a copy of a document that is no table, settings fail, whatever their server
    gives. -/
theorem exists_run_load_of_copied (h : Asks cache config v path given uri)
    (hread : v.readFile (copyPath (World.host cache) uri) = .ok text)
    (hplain : '\r' ∉ text.toList) (hbad : ∀ messages, ¬ IsServedTable uri text messages) :
    ∃ fault, (load (World.host cache) config).run v = (.error fault, v) := by
  have hload := run_loadRemote_of_copied (patienceIn given) hread
  have hsame := isReading_loadFile cache (copyPath (World.host cache) uri) v
  rcases hrun : (loadFile (World.host cache) (copyPath (World.host cache) uri)).run v with
    ⟨fault | d, v'⟩
  · rw [hrun] at hload hsame
    obtain rfl : v' = v := hsame
    exact ⟨fault, run_load_of_run_loadRemote_error h hload⟩
  · obtain ⟨⟨found, hfound, hd⟩, rfl⟩ := run_loadFile_eq_ok_iff.1 hrun
    obtain rfl := Except.ok.inj (hread.symm.trans hfound)
    rw [IsText, Text.plainBreaks_of_notMem hplain] at hd
    rw [run_load_of_run_loadRemote h (hload.trans hrun)]
    cases hfit : checkDocument messageSchema uri d with
    | error fault => exact ⟨fault, rfl⟩
    | ok => exact absurd ⟨d, hd, hfit, rfl⟩ (hbad (tableOf d))

/-- Settings that fail although their server gives a document: it is no table, and it is copied. -/
theorem copied_of_failed_load (h : Asks cache config w path given uri)
    (hmissing : isCopied cache uri w = false) (hcan : CanCopy cache w)
    (hserved : served? w uri = some text)
    (hfail : (load (World.host cache) config).run w = (.error fault, w')) :
    w'.readFile (copyPath (World.host cache) uri) = .ok text ∧
      ∀ messages, ¬ IsServedTable uri text messages := by
  obtain ⟨w₁, hload, hread⟩ := run_loadRemote_of_served (patienceIn given) hmissing hcan hserved
  refine ⟨?_, fun messages htable => ?_⟩
  · cases hd : readDocument ⟨"<unicode string>", text.toList, true⟩ with
    | error fault' =>
      rw [hd] at hload
      cases (run_load_of_run_loadRemote_error h hload).symm.trans hfail
      exact hread
    | ok d =>
      rw [hd] at hload
      obtain rfl : w₁ = w' :=
        congrArg Prod.snd ((run_load_of_run_loadRemote h hload).symm.trans hfail)
      exact hread
  · obtain ⟨s, w₂, hs, -⟩ := exists_run_load_of_served h hmissing hcan hserved htable
    cases hs.symm.trans hfail

/-- A later world in which nothing else has written to the copy of a document, or made one. -/
structure KeepsCopy (cache uri : String) (w v : World) : Prop where
  isCopied : isCopied cache uri v = isCopied cache uri w
  text : v.readFile (copyPath (World.host cache) uri) =
    w.readFile (copyPath (World.host cache) uri)

theorem keepsCopy_withReplies (w : World) (replies : Entries Reply) :
    KeepsCopy cache uri w (withReplies w replies) := by
  have hplace : (withReplies w replies).locate (copyPath (World.host cache) uri) =
      w.locate (copyPath (World.host cache) uri) := by
    apply World.locate_congr <;> rfl
  refine ⟨by rw [isCopied, isCopied, hplace], ?_⟩
  apply World.readFile_congr <;> rfl

/-- What is left of settings that could not be loaded, though they ask for a table without a copy as
    they should. If the server could not be reached or refused, there is no copy afterwards, and all
    settings that ask for the table are loaded with it as soon as the server gives it. If the server
    gave a document, it is no table; there is a copy of it afterwards, and as long as it is there,
    all settings that ask for the table fail, whatever the server gives. -/
theorem load_after_failed_load (h : Asks cache config w path given uri)
    (hmissing : isCopied cache uri w = false) (hcan : CanCopy cache w)
    (hfail : (load (World.host cache) config).run w = (.error fault, w')) :
    (served? w uri = none ∧ isCopied cache uri w' = false ∧
        ∀ config' v path' given', Asks cache config' v path' given' uri →
          KeepsCopy cache uri w' v → CanCopy cache v →
          ∀ text messages, served? v uri = some text → IsServedTable uri text messages →
          ∃ s v', (load (World.host cache) config').run v = (.ok s, v') ∧
            s.messages = messages) ∨
      ∃ text, served? w uri = some text ∧ (∀ messages, ¬ IsServedTable uri text messages) ∧
        w'.readFile (copyPath (World.host cache) uri) = .ok text ∧
        ∀ config' v path' given', Asks cache config' v path' given' uri →
          KeepsCopy cache uri w' v → '\r' ∉ text.toList →
          ∃ fault', (load (World.host cache) config').run v = (.error fault', v) := by
  cases hserved : served? w uri with
  | none =>
    obtain ⟨fault', hload⟩ := run_loadRemote_of_served_none (patienceIn given) hmissing
      hserved
    cases (run_load_of_run_loadRemote_error h hload).symm.trans hfail
    have hnone : isCopied cache uri (asked w uri (patienceIn given)) = false := by
      rw [isCopied, locate_asked]
      exact hmissing
    refine .inl ⟨rfl, hnone, fun config' v path' given' h' hkeeps hcan' text messages => ?_⟩
    exact exists_run_load_of_served h' (hkeeps.isCopied.trans hnone) hcan'
  | some text =>
    obtain ⟨hread, hbad⟩ := copied_of_failed_load h hmissing hcan hserved hfail
    refine .inr ⟨text, rfl, hbad, hread, fun config' v path' given' h' hkeeps hplain => ?_⟩
    exact exists_run_load_of_copied h' (hkeeps.text.trans hread) hplain hbad

/-! ## A server that gives something else first -/

/-- Whether a file of settings fits, and asks for that table. -/
def asksForTable : Except Fault Datum × World → Bool
  | (.ok given, _) =>
    (checkDocument configSchema "/config.yaml" given).toBool &&
      locationIn given = some "http://t/m"
  | (.error _, _) => false

/-- The settings ask for that table in every world with these files. -/
theorem exists_asks_of_files (hfolders : w.folders = []) (hfiles : w.files = serverWorld.files) :
    ∃ given, Asks "/cache" (some "/config.yaml") w "/config.yaml" given "http://t/m" := by
  have h : asksForTable
      ((loadGiven (World.host "/cache") "/config.yaml").run serverWorld) = true := by
    decide +kernel
  have hfile : fileOf? (some "/config.yaml") = some "/config.yaml" := by decide +kernel
  have hremote : Location.read "http://t/m" = .remote "http://t/m" := by decide +kernel
  have hread : w.readFile "/config.yaml" = serverWorld.readFile "/config.yaml" :=
    World.readFile_congr hfolders hfiles _
  rcases hrun : (loadGiven (World.host "/cache") "/config.yaml").run serverWorld with
    ⟨_ | given, w'⟩
  · rw [hrun] at h
    cases h
  · rw [hrun, asksForTable, Bool.and_eq_true, decide_eq_true_eq] at h
    obtain ⟨hfits, hlocation⟩ := h
    refine ⟨given, hfile, (run_loadGiven_of_unchanged hread hrun).2, ?_, hlocation, hremote⟩
    cases hcheck : checkDocument configSchema "/config.yaml" given with
    | error fault =>
      rw [hcheck] at hfits
      cases hfits
    | ok => rfl

/-- That world, with a server that cannot be reached. -/
def silentWorld : World := withReplies serverWorld []

/-- That world, with a server that gives a document that cannot be read. -/
def brokenWorld : World := withReplies serverWorld [("http://t/m", ⟨200, "OK", "["⟩)]

/-- Whether a text is read as the table of that server. -/
def isServerTable : Except Yaml.Fault Datum → Bool
  | .ok d => (checkDocument messageSchema "http://t/m" d).toBool &&
      tableOf d = [("required", "needed")]
  | .error _ => false

theorem isServedTable_server :
    IsServedTable "http://t/m" "required: needed\n" [("required", "needed")] := by
  have h : isServerTable (Yaml.read "required: needed\n".toList) = true := by decide +kernel
  cases hd : Yaml.read "required: needed\n".toList with
  | error fault =>
    rw [hd] at h
    cases h
  | ok d =>
    rw [hd, isServerTable, Bool.and_eq_true, decide_eq_true_eq] at h
    obtain ⟨hfits, htable⟩ := h
    refine ⟨d, hd, ?_, htable⟩
    cases hcheck : checkDocument messageSchema "http://t/m" d with
    | error fault =>
      rw [hcheck] at hfits
      cases hfits
    | ok => rfl

/-- Settings that failed because their server could not be reached are loaded when it is back. -/
theorem load_after_silence :
    ∃ given fault w',
      (Asks "/cache" (some "/config.yaml") silentWorld "/config.yaml" given "http://t/m" ∧
        isCopied "/cache" "http://t/m" silentWorld = false ∧ CanCopy "/cache" silentWorld ∧
        (load (World.host "/cache") (some "/config.yaml")).run silentWorld = (.error fault, w')) ∧
      isCopied "/cache" "http://t/m" w' = false ∧
      ∃ s v, (load (World.host "/cache") (some "/config.yaml")).run
          (withReplies w' serverWorld.replies) = (.ok s, v) ∧
        s.messages = [("required", "needed")] := by
  obtain ⟨given, hasks⟩ : ∃ given, Asks "/cache" (some "/config.yaml") silentWorld "/config.yaml"
    given "http://t/m" := exists_asks_of_files rfl rfl
  have hmissing : isCopied "/cache" "http://t/m" silentWorld = false := by decide +kernel
  have hcan : CanCopy "/cache" silentWorld := canCopy_of_files rfl rfl
  obtain ⟨fault, hload⟩ := run_loadRemote_of_served_none (patienceIn given) hmissing rfl
  have hfail := run_load_of_run_loadRemote_error hasks hload
  refine ⟨given, fault, _, ⟨hasks, hmissing, hcan, hfail⟩, ?_⟩
  rcases load_after_failed_load hasks hmissing hcan hfail with
    ⟨-, hnone, hlater⟩ | ⟨text, hserved, -⟩
  · obtain ⟨given', hasks'⟩ : ∃ given', Asks "/cache" (some "/config.yaml")
        (withReplies (asked silentWorld "http://t/m" (patienceIn given)) serverWorld.replies)
        "/config.yaml" given' "http://t/m" := exists_asks_of_files rfl rfl
    exact ⟨hnone, hlater _ _ _ _ hasks' (keepsCopy_withReplies _ _) (canCopy_of_files rfl rfl) _ _
      rfl isServedTable_server⟩
  · cases hserved

/-- Whether settings cannot be loaded in a world and leave a copy of that table, and cannot be
    loaded either when its server has the table. -/
def failsTwice (w : World) : Bool :=
  match (load (World.host "/cache") (some "/config.yaml")).run w with
  | (.ok _, _) => false
  | (.error _, w') =>
    isCopied "/cache" "http://t/m" w' &&
      match (load (World.host "/cache") (some "/config.yaml")).run
        (withReplies w' serverWorld.replies) with
      | (.ok _, _) => false
      | (.error _, _) => true

theorem runs_of_failsTwice (h : failsTwice w = true) :
    ∃ fault w' fault' w'',
      (load (World.host "/cache") (some "/config.yaml")).run w = (.error fault, w') ∧
      isCopied "/cache" "http://t/m" w' = true ∧
      (load (World.host "/cache") (some "/config.yaml")).run
        (withReplies w' serverWorld.replies) = (.error fault', w'') := by
  rw [failsTwice] at h
  rcases hfirst : (load (World.host "/cache") (some "/config.yaml")).run w with ⟨fault | s, w'⟩
  · rw [hfirst] at h
    simp only [Bool.and_eq_true] at h
    obtain ⟨hcopied, h⟩ := h
    rcases hsecond : (load (World.host "/cache") (some "/config.yaml")).run
      (withReplies w' serverWorld.replies) with ⟨fault' | s', w''⟩
    · exact ⟨fault, w', fault', w'', rfl, hcopied, hsecond⟩
    · rw [hsecond] at h
      cases h
  · rw [hfirst] at h
    cases h

/-- Settings that fail since a document cannot be read leave a copy of it, and fail once more when
    the server has a table, with which they are loaded where there is no such copy. -/
theorem load_after_brokenReply :
    isCopied "/cache" "http://t/m" brokenWorld = false ∧
      (∃ fault w' fault' w'',
        (load (World.host "/cache") (some "/config.yaml")).run brokenWorld = (.error fault, w') ∧
        isCopied "/cache" "http://t/m" w' = true ∧
        (load (World.host "/cache") (some "/config.yaml")).run
          (withReplies w' serverWorld.replies) = (.error fault', w'')) ∧
      ∃ s v, (load (World.host "/cache") (some "/config.yaml")).run serverWorld = (.ok s, v) ∧
        s.messages = [("required", "needed")] := by
  have hmissing : isCopied "/cache" "http://t/m" brokenWorld = false := by decide +kernel
  have hmissing' : isCopied "/cache" "http://t/m" serverWorld = false := by decide +kernel
  have hfails : failsTwice brokenWorld = true := by decide +kernel
  obtain ⟨given, hasks⟩ : ∃ given, Asks "/cache" (some "/config.yaml") serverWorld "/config.yaml"
    given "http://t/m" := exists_asks_of_files rfl rfl
  have hcan : CanCopy "/cache" serverWorld := canCopy_of_files rfl rfl
  exact ⟨hmissing, runs_of_failsTwice hfails,
    exists_run_load_of_served hasks hmissing' hcan rfl isServedTable_server⟩

end FieldRules.Settings
