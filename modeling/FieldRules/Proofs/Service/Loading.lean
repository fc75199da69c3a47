import FieldRules.Proofs.Settings.Table
import FieldRules.Service.Checker

/-!
# Loading what was loaded before

What is loaded depends on the file of the settings and on the table that they ask for. Where both
are as they were, the same is loaded once more; where only the pool is set in another way, what is
loaded checks records alike.

Results:
* `Settings.run_load_of_unchanged`: settings whose files have not changed are loaded again.
* `Checker.agrees_of_run_load`: what is loaded from settings that differ in their pools checks
  alike.
* `Checker.validateEach_of_agrees`: checkers that check alike find out the same about a batch.
-/

namespace FieldRules

open Yaml (Datum)

variable {cache : String} {config config' : Option String} {w w' v v' : World}

/-! ## Settings -/

namespace Settings

variable {path : String} {given : Datum} {s : Settings}

/-- The full path of the file of settings, if they are in one. -/
def fileOf? (config : Option String) : Option String :=
  (config.filter (· ≠ "")).map fun written => (Path.normal (Path.names written)).text

/-- The folder that the location of the table is seen from. -/
def folderOf (config : Option String) : String := Path.folderOf ((fileOf? config).getD "")

theorem run_loadGiven_of_unchanged (hv : v.readFile path = w.readFile path)
    (h : (loadGiven (World.host cache) path).run w = (.ok given, w')) :
    w' = w ∧ (loadGiven (World.host cache) path).run v = (.ok given, v) := by
  rw [loadGiven, run_bind_eq_ok_iff] at h ⊢
  obtain ⟨d, w₁, hload, hgiven⟩ := h
  obtain ⟨⟨text, htext, hd⟩, rfl⟩ := run_loadFile_eq_ok_iff.1 hload
  cases hgiven
  exact ⟨rfl, d, v, run_loadFile_eq_ok_iff.2 ⟨⟨text, hv.trans htext, hd⟩, rfl⟩, rfl⟩

/-- What was done to load settings from a file, if there is one. -/
theorem given_of_run_load (h : (load (World.host cache) config).run w = (.ok s, w')) :
    (fileOf? config = none ∧ s.given = standardDocument ∨
      ∃ path, fileOf? config = some path ∧
        (loadGiven (World.host cache) path).run w = (.ok s.given, w) ∧
        checkDocument configSchema path s.given = .ok ()) ∧
      (loadTable (World.host cache) (folderOf config) s.given).run w = (.ok s.messages, w') := by
  unfold load at h
  unfold folderOf fileOf?
  cases hc : config.filter (· ≠ "") with
  | none =>
    simp only [hc] at h
    cases h
    exact ⟨.inl ⟨rfl, rfl⟩, rfl⟩
  | some written =>
    simp only [hc, run_bind_eq_ok_iff] at h
    obtain ⟨path, w₁, ⟨⟩, given, w₂, hgiven, hload⟩ := h
    obtain ⟨rfl, hagain⟩ := run_loadGiven_of_unchanged rfl hgiven
    simp only [loadAt, run_bind_eq_ok_iff, run_lift_eq_ok_iff] at hload
    obtain ⟨⟨⟩, w₃, ⟨hcheck, rfl⟩, messages, w₄, htable, clock, w₅, ⟨⟩, hs⟩ := hload
    cases hs
    exact ⟨.inr ⟨_, rfl, hagain, hcheck⟩, htable⟩

/-- Documents of settings that differ in nothing but the choice of a pool. -/
def DifferInPool (given given' : Datum) : Prop :=
  ∀ key, key ≠ "batch_parallelism" → given'.get? key = given.get? key

theorem DifferInPool.locationIn_eq {given given' : Datum} (h : DifferInPool given given') :
    locationIn given' = locationIn given := by
  rw [locationIn, locationIn, h _ (by decide)]

theorem DifferInPool.patienceIn_eq {given given' : Datum} (h : DifferInPool given given') :
    patienceIn given' = patienceIn given := by
  rw [patienceIn, patienceIn, h _ (by decide)]

theorem DifferInPool.loadTable_eq {given given' : Datum} (h : DifferInPool given given')
    (host : Host (StateM World)) (folder : String) :
    loadTable host folder given' = loadTable host folder given := by
  unfold loadTable
  rw [h.locationIn_eq, h.patienceIn_eq]

theorem DifferInPool.separator_eq {s s' : Settings} (h : DifferInPool s.given s'.given) :
    s'.separator = s.separator := by
  unfold separator
  rw [h _ (by decide)]

theorem DifferInPool.policy_eq {s s' : Settings} (h : DifferInPool s.given s'.given) :
    s'.policy = s.policy := by
  rw [policy, policy, markup, markup, h _ (by decide)]

/-- Settings whose files have not changed are loaded again, and nothing else is done. -/
theorem run_load_of_unchanged (hplain : IsTablePlain cache (folderOf config) s.given w)
    (h : (load (World.host cache) config).run w = (.ok s, w'))
    (hconfig : ∀ path, fileOf? config = some path → v.readFile path = w.readFile path)
    (htable : ∀ path, tableFile? cache (folderOf config) s.given = some path →
      v.readFile path = w'.readFile path) :
    (load (World.host cache) config).run v = (.ok { s with loadedAt := v.clock }, v) := by
  obtain ⟨hfile, hload⟩ := given_of_run_load h
  have hagain := run_loadTable_of_unchanged hplain hload htable
  obtain ⟨given, messages, loadedAt⟩ := s
  unfold load
  unfold folderOf fileOf? at hagain
  unfold fileOf? at hfile hconfig
  cases hc : config.filter (· ≠ "") with
  | none =>
    rw [hc] at hfile hagain
    obtain ⟨-, rfl⟩ | ⟨path, ⟨⟩, -⟩ := hfile
    cases hagain
    rfl
  | some written =>
    rw [hc] at hfile hagain hconfig
    obtain ⟨⟨⟩, -⟩ | ⟨path, ⟨⟩, hgiven, hcheck⟩ := hfile
    obtain ⟨-, hgiven⟩ := run_loadGiven_of_unchanged (hconfig _ rfl) hgiven
    simp only [run_bind_eq_ok_iff]
    refine ⟨_, v, rfl, given, v, hgiven, ?_⟩
    simp only [loadAt, run_bind_eq_ok_iff, run_lift_eq_ok_iff]
    exact ⟨(), v, ⟨hcheck, rfl⟩, messages, v, hagain, v.clock, v, rfl, rfl⟩

end Settings

/-! ## Checkers -/

namespace Checker

variable {c c' : Checker}

/-- What was done to load a checker. -/
theorem run_load_eq_ok_iff :
    (load (World.host cache) config).run w = (.ok c, w') ↔
      ∃ policy, (Settings.load (World.host cache) config).run w = (.ok c.settings, w') ∧
        c.settings.policy = .ok policy ∧ c.registry = .standard policy := by
  simp only [load, run_bind_eq_ok_iff, run_lift_eq_ok_iff]
  constructor
  · rintro ⟨settings, w₁, hload, policy, w₂, ⟨hpolicy, rfl⟩, hc⟩
    cases hc
    exact ⟨policy, hload, hpolicy, rfl⟩
  · rintro ⟨policy, hload, hpolicy, hregistry⟩
    obtain ⟨settings, registry⟩ := c
    cases hregistry
    exact ⟨settings, w', hload, policy, w', ⟨hpolicy, rfl⟩, rfl⟩

/-- Two checkers check alike: they have the same rules, templates and separator. -/
structure Agrees (c c' : Checker) : Prop where
  registry : c'.registry = c.registry
  messages : c'.settings.messages = c.settings.messages
  separator : c'.settings.separator = c.settings.separator

theorem validateEntry_of_agrees (h : c.Agrees c') (today : Calendar.Today) (rules : Entries Value)
    (names data : Value) :
    c'.validateEntry today rules names data = c.validateEntry today rules names data := by
  have hsession : c'.session today data = c.session today data := by
    unfold session
    rw [h.registry, h.messages, h.separator]
  rw [validateEntry, validateEntry, validate, validate, hsession]

/-- Checkers that check alike find out the same about a batch. -/
theorem validateEach_of_agrees (h : c.Agrees c') (today : Calendar.Today) (rules : Entries Value)
    (names : Value) (records : List Value) :
    c'.validateEach today rules names records = c.validateEach today rules names records := by
  induction records with
  | nil => rfl
  | cons data records ih => rw [validateEach, validateEach, validateEntry_of_agrees h, ih]

/-- A checker whose files have not changed is loaded again, and nothing else is done. -/
theorem run_load_of_unchanged
    (hplain : Settings.IsTablePlain cache (Settings.folderOf config) c.settings.given w)
    (h : (load (World.host cache) config).run w = (.ok c, w'))
    (hconfig : ∀ path, Settings.fileOf? config = some path → v.readFile path = w.readFile path)
    (htable : ∀ path,
      Settings.tableFile? cache (Settings.folderOf config) c.settings.given = some path →
        v.readFile path = w'.readFile path) :
    ∃ c', (load (World.host cache) config).run v = (.ok c', v) ∧ c.Agrees c' := by
  obtain ⟨policy, hload, hpolicy, hregistry⟩ := run_load_eq_ok_iff.1 h
  have hagain := Settings.run_load_of_unchanged hplain hload hconfig htable
  refine ⟨⟨{ c.settings with loadedAt := v.clock }, c.registry⟩, ?_, rfl, rfl, rfl⟩
  exact run_load_eq_ok_iff.2 ⟨policy, hagain, hpolicy, hregistry⟩

/-- Settings that differ in their pools, and find the same table, are loaded to checkers that check
    alike. -/
theorem agrees_of_run_load
    (hplain : Settings.IsTablePlain cache (Settings.folderOf config) c.settings.given w)
    (h : (load (World.host cache) config).run w = (.ok c, w'))
    (h' : (load (World.host cache) config').run v = (.ok c', v'))
    (hgiven : Settings.DifferInPool c.settings.given c'.settings.given)
    (hfolder : Settings.folderOf config' = Settings.folderOf config)
    (htable : Settings.tableText? cache (Settings.folderOf config) c.settings.given v =
      Settings.tableText? cache (Settings.folderOf config) c.settings.given w) :
    c.Agrees c' := by
  obtain ⟨policy, hload, hpolicy, hregistry⟩ := run_load_eq_ok_iff.1 h
  obtain ⟨policy', hload', hpolicy', hregistry'⟩ := run_load_eq_ok_iff.1 h'
  have hmessages := (Settings.given_of_run_load hload).2
  have hmessages' := (Settings.given_of_run_load hload').2
  rw [hfolder, hgiven.loadTable_eq] at hmessages'
  rw [hgiven.policy_eq, hpolicy] at hpolicy'
  cases hpolicy'
  exact ⟨by rw [hregistry, hregistry'],
    Settings.eq_of_run_loadTable hplain hmessages hmessages' htable, hgiven.separator_eq⟩

end Checker

end FieldRules
