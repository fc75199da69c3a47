import FieldRules.Proofs.Service.Loading
import FieldRules.Service.Basic

/-!
# Batches in a pool

A service with a pool leaves its batches to a worker, which loads the settings for itself before its
first record. As long as nothing that the service has loaded changes, the worker checks like the
service, so that batches are answered as by a service whose settings ask for no pool.

Results:
* `IsPoolOf.answer`: what a batch is answered in a pool, and that it goes on so.
* `answers_of_differsInPool`: with a pool and without one, batches are answered alike.
-/

namespace FieldRules.Service

variable {cache : String}

/-! ## Pools -/

/-- What settings have for a pool in a world: none if they ask for none, and a fault if none can be
    made there. -/
def poolIn (settings : Settings) (w : World) : Except Fault (Option Pool) :=
  if settings.isParallel then
    match w.makePool settings.workers with
    | .ok () => .ok (some ⟨settings.workers, false⟩)
    | .error detail => .error (.pool detail)
  else .ok none

theorem run_openPool (settings : Settings) (w : World) :
    (openPool (World.host cache) settings).run w = (poolIn settings w, w) := by
  unfold openPool poolIn
  cases settings.isParallel with
  | false => rfl
  | true =>
    have hmake : ((World.host cache).makePool settings.workers :
        ExceptT Fault (StateM World) _).run w = (.ok (w.makePool settings.workers), w) := rfl
    simp only [Bool.not_true, Bool.false_eq_true, if_false, if_true]
    rw [run_bind, hmake]
    cases w.makePool settings.workers <;> rfl

/-- A pool that was made is not ready yet. -/
theorem eq_of_poolIn_eq_ok {settings : Settings} {w : World} {pool : Option Pool}
    (h : poolIn settings w = .ok pool) :
    pool = if settings.isParallel then some ⟨settings.workers, false⟩ else none := by
  unfold poolIn at h
  split at h
  · next hparallel =>
    rw [if_pos hparallel]
    split at h <;> cases h
    rfl
  · next hparallel =>
    rw [if_neg hparallel]
    cases h
    rfl

theorem run_start {config : Option String} {checker : Checker} {pool : Option Pool} {w w' : World}
    (hload : (Checker.load (World.host cache) config).run w = (.ok checker, w'))
    (hpool : poolIn checker.settings w' = .ok pool) :
    (start (World.host cache) config).run w = (.ok ⟨config, checker, none, pool⟩, w') := by
  rw [start, run_bind_eq_ok_iff]
  refine ⟨checker, w', run_adapt_eq_ok_iff.2 hload, ?_⟩
  rw [run_bind, run_openPool, hpool]
  rfl

/-! ## Services that were started -/

/-- A service in the world in which it was started, from settings in a file, and in the world that
    was there then. -/
structure Started (cache : String) where
  config : Option String
  before : World
  service : Service
  after : World
  isStarted : (start (World.host cache) config).run before = (.ok service, after)

namespace Started

variable (s : Started cache)

/-- The document of settings. -/
def given : Yaml.Datum := s.service.checker.settings.given

/-- The folder that the location of the table is seen from. -/
def folder : String := Settings.folderOf s.config

/-- The text of the table, as a world has it. -/
def tableText? (w : World) : Option String := Settings.tableText? cache s.folder s.given w

/-- A remote table was found without carriage returns. -/
def HasPlainTable : Prop := Settings.IsTablePlain cache s.folder s.given s.before

/-- What was loaded has not changed: the file of the settings is read as it was when the service was
    started, and the file of the table as it was left then. -/
structure IsUnchangedIn (w : World) : Prop where
  config : ∀ path, Settings.fileOf? s.config = some path → w.readFile path = s.before.readFile path
  table : ∀ path, Settings.tableFile? cache s.folder s.given = some path →
    w.readFile path = s.after.readFile path

/-- The same service with a pool and without one: the settings differ in nothing else, and the same
    table was found. -/
structure DiffersInPool (s s' : Started cache) : Prop where
  isParallel : s.service.checker.settings.isParallel = true
  isSequential : s'.service.checker.settings.isParallel = false
  given : Settings.DifferInPool s.given s'.given
  folder : s'.folder = s.folder
  table : s.tableText? s'.before = s.tableText? s.before

theorem run_load (s : Started cache) :
    (Checker.load (World.host cache) s.config).run s.before =
        (.ok s.service.checker, s.after) ∧
      ∃ pool, poolIn s.service.checker.settings s.after = .ok pool ∧
        s.service = ⟨s.config, s.service.checker, none, pool⟩ := by
  obtain ⟨config, before, service, after, h⟩ := s
  rw [start, run_bind_eq_ok_iff] at h
  obtain ⟨checker, w, hload, h⟩ := h
  rw [run_adapt_eq_ok_iff] at hload
  rw [run_bind, run_openPool] at h
  cases hpool : poolIn checker.settings w with
  | error fault =>
    rw [hpool] at h
    cases h
  | ok pool =>
    rw [hpool] at h
    cases h
    exact ⟨hload, pool, hpool, rfl⟩

theorem config_eq (s : Started cache) : s.service.config = s.config := by
  obtain ⟨-, _, -, hs⟩ := s.run_load
  exact congrArg Service.config hs

theorem pool_eq (s : Started cache) :
    s.service.pool =
      if s.service.checker.settings.isParallel then
        some ⟨s.service.checker.settings.workers, false⟩
      else none := by
  obtain ⟨-, pool, hpool, hs⟩ := s.run_load
  exact (congrArg Service.pool hs).trans (eq_of_poolIn_eq_ok hpool)

theorem run_load_worker {s : Started cache} {w : World} (hplain : s.HasPlainTable)
    (h : s.IsUnchangedIn w) :
    ∃ worker, (Checker.load (World.host cache) s.config).run w = (.ok worker, w) ∧
      s.service.checker.Agrees worker :=
  Checker.run_load_of_unchanged hplain s.run_load.1 h.config h.table

theorem DiffersInPool.agrees {s s' : Started cache} (h : s.DiffersInPool s')
    (hplain : s.HasPlainTable) : s.service.checker.Agrees s'.service.checker :=
  Checker.agrees_of_run_load hplain s.run_load.1 s'.run_load.1 h.given h.folder h.table

end Started

/-! ## Batches -/

/-- A batch that a service is given, and the world in which it is given. -/
structure Batch where
  world : World
  records : List Value
  rules : Entries Value
  names : Value

/-- What a service answers to a batch, and the service afterwards. -/
def answer (cache : String) (s : Service) (b : Batch) :
    Except Fault (List BatchEntry) × Service :=
  let ((result, s'), _) := (batch (World.host cache) b.records b.rules b.names).run s b.world
  (result.bind (·.2), s')

/-- What a service answers to batches, one after the other. -/
def answers (cache : String) (s : Service) : List Batch → List (Except Fault (List BatchEntry))
  | [] => []
  | b :: rest => (s.answer cache b).1 :: answers cache (s.answer cache b).2 rest

theorem answer_of_pool_none {t : Service} (h : t.pool = none) (b : Batch) :
    t.answer cache b =
      ((t.checker.validateEach b.world.today b.rules b.names b.records).2, t) := by
  obtain ⟨config, checker, worker, pool⟩ := t
  cases h
  rfl

/-- A service whose batches go to a worker, which checks like a service that was started: the
    worker that there is, or one that will be made ready. -/
structure IsPoolOf (s : Started cache) (t : Service) : Prop where
  config : t.config = s.config
  pool : ∃ pool, t.pool = some pool ∧ (pool.isReady = true →
    ∃ worker, t.worker = some worker ∧ s.service.checker.Agrees worker)

theorem isPoolOf_service {s : Started cache}
    (h : s.service.checker.settings.isParallel = true) : IsPoolOf s s.service :=
  ⟨s.config_eq, _, s.pool_eq.trans (if_pos h), nofun⟩

theorem run_bind {σ α β : Type} (x : ServiceM (StateM σ) α) (f : α → ServiceM (StateM σ) β)
    (t : Service) (w : σ) :
    (x >>= f).run t w =
      match x.run t w with
      | ((.ok a, t'), w') => (f a).run t' w'
      | ((.error fault, t'), w') => ((.error fault, t'), w') := by
  rw [run_bind_stateT]
  show (StateT.bind _ _) w = _
  unfold StateT.bind
  rcases x.run t w with ⟨⟨_ | _, _⟩, _⟩ <;> rfl

theorem run_get {σ : Type} (t : Service) (w : σ) :
    (get : ServiceM (StateM σ) Service).run t w = ((.ok t, t), w) := rfl

theorem run_set {σ : Type} (t t' : Service) (w : σ) :
    (set t' : ServiceM (StateM σ) Unit).run t w = ((.ok (), t'), w) := rfl

theorem run_ask {σ α : Type} (question : StateM σ α) (t : Service) (w : σ) :
    (liftM (question : StateT Service (StateM σ) α) : ServiceM (StateM σ) α).run t w =
      ((.ok (question.run w).1, t), (question.run w).2) := rfl

theorem run_today (t : Service) (w : World) :
    (liftM ((World.host cache).today : StateT Service (StateM World) Calendar.Today) :
      ServiceM (StateM World) Calendar.Today).run t w = ((.ok w.today, t), w) :=
  run_ask _ t w

theorem run_inHost {σ α : Type} (action : ExceptT Fault (StateM σ) α) (t : Service) (w : σ) :
    (ExceptT.mk (action.run : StateT Service (StateM σ) _) : ServiceM (StateM σ) α).run t w =
      (((action.run w).1, t), (action.run w).2) := rfl

theorem run_withSettings {α : Type} (action : Settings.InWorld α) (t : Service) (w : World) :
    (withSettings action : ServiceM (StateM World) α).run t w =
      (((action.run w).1.mapError .settings, t), (action.run w).2) := rfl

theorem run_readyPool {host : Host (StateM World)} {config : Option String}
    {checker worker' : Checker} {worker : Option Checker} {workers : Value} {w w' : World}
    (h : (Checker.load host config).run w = (.ok worker', w')) :
    (readyPool host).run ⟨config, checker, worker, some ⟨workers, false⟩⟩ w =
      ((.ok (), ⟨config, checker, some worker', some ⟨workers, true⟩⟩), w') := by
  have hworker (t : Service) : (readyWorker host config).run t w =
      ((.ok (), { t with worker := some worker' }), w') := by
    rw [readyWorker, run_bind, run_withSettings, h]
    rfl
  exact hworker ⟨config, checker, worker, some ⟨workers, true⟩⟩

/-- What is answered by a pool that has not been used is what its worker finds out. -/
theorem answer_of_not_isReady {config : Option String} {checker worker' : Checker}
    {worker : Option Checker} {workers record : Value} {records : List Value}
    {rules : Entries Value} {names : Value} {w w' : World}
    (h : (Checker.load (World.host cache) config).run w = (.ok worker', w')) :
    Service.answer cache ⟨config, checker, worker, some ⟨workers, false⟩⟩
        ⟨w, record :: records, rules, names⟩ =
      ((worker'.validateEach w.today rules names (record :: records)).2,
        ⟨config, checker, some worker', some ⟨workers, true⟩⟩) := by
  have hrun : (batch (World.host cache) (record :: records) rules names).run
      ⟨config, checker, worker, some ⟨workers, false⟩⟩ w =
        ((.ok ([], (worker'.validateEach w.today rules names (record :: records)).2),
          ⟨config, checker, some worker', some ⟨workers, true⟩⟩), w') := by
    unfold batch
    rw [run_bind, run_today]
    simp only
    rw [run_bind, run_get]
    simp only [Option.isNone_some, Bool.false_eq_true, if_false, List.isEmpty_cons]
    rw [run_bind, run_readyPool h]
    rfl
  rw [answer, hrun]
  rfl

/-- What a batch is answered in a pool while nothing changes: what the service itself would find
    out. It goes on so. -/
theorem IsPoolOf.answer {s : Started cache} {t : Service} {b : Batch} (ht : IsPoolOf s t)
    (hplain : s.HasPlainTable) (hb : s.IsUnchangedIn b.world) :
    (t.answer cache b).1 =
        (s.service.checker.validateEach b.world.today b.rules b.names b.records).2 ∧
      IsPoolOf s (t.answer cache b).2 := by
  obtain ⟨config, checker, worker, pool⟩ := t
  obtain ⟨hconfig, ⟨workers, isReady⟩, hpool, hready⟩ := ht
  obtain ⟨w, records, rules, names⟩ := b
  cases hpool
  cases hconfig
  cases records with
  | nil => exact ⟨rfl, rfl, _, rfl, hready⟩
  | cons record records =>
    cases isReady with
    | true =>
      obtain ⟨worker', hworker, hagrees⟩ := hready rfl
      cases hworker
      refine ⟨?_, rfl, _, rfl, fun _ => ⟨worker', rfl, hagrees⟩⟩
      rw [← Checker.validateEach_of_agrees hagrees]
      rfl
    | false =>
      obtain ⟨worker', hload, hagrees⟩ := Started.run_load_worker hplain hb
      rw [answer_of_not_isReady hload]
      refine ⟨?_, rfl, _, rfl, fun _ => ⟨worker', rfl, hagrees⟩⟩
      rw [Checker.validateEach_of_agrees hagrees]

theorem IsPoolOf.answers {s : Started cache} {t : Service} {batches : List Batch}
    (ht : IsPoolOf s t) (hplain : s.HasPlainTable)
    (hbatches : ∀ b ∈ batches, s.IsUnchangedIn b.world) :
    t.answers cache batches =
      batches.map fun b =>
        (s.service.checker.validateEach b.world.today b.rules b.names b.records).2 := by
  induction batches generalizing t with
  | nil => rfl
  | cons b batches ih =>
    obtain ⟨hb, hrest⟩ := List.forall_mem_cons.1 hbatches
    obtain ⟨hfirst, ht'⟩ := ht.answer hplain hb
    rw [Service.answers, hfirst, ih ht' hrest, List.map_cons]

theorem answers_of_pool_none {t : Service} (h : t.pool = none) (batches : List Batch) :
    t.answers cache batches =
      batches.map fun b =>
        (t.checker.validateEach b.world.today b.rules b.names b.records).2 := by
  induction batches with
  | nil => rfl
  | cons b batches ih => rw [answers, answer_of_pool_none h, ih, List.map_cons]

/-- With a pool and without one, batches are answered alike, one after the other, each in a world
    of its own in which nothing that was loaded has changed. -/
theorem answers_of_differsInPool (s s' : Started cache) (h : s.DiffersInPool s')
    (hplain : s.HasPlainTable) (batches : List Batch)
    (hbatches : ∀ b ∈ batches, s.IsUnchangedIn b.world) :
    s.service.answers cache batches = s'.service.answers cache batches := by
  have hnone : s'.service.pool = none := by
    rw [s'.pool_eq, h.isSequential]
    rfl
  rw [(isPoolOf_service h.isParallel).answers hplain hbatches, answers_of_pool_none hnone]
  refine List.map_congr_left fun b _ => ?_
  rw [Checker.validateEach_of_agrees (h.agrees hplain)]

/-! ## A table on a remote server -/

/-- Settings that say where the table is, and whether there is a pool. -/
def remoteSettings (isParallel : Bool) : String :=
  "error_messages_location: http://t/m\nbatch_parallelism: " ++ toString isParallel ++ "\n"

/-- The document of such settings. -/
def remoteDocument (isParallel : Bool) : Yaml.Datum :=
  .map [(.text "error_messages_location", .text "http://t/m"),
    (.text "batch_parallelism", .bool isParallel)]

/-- A world with such settings, and with the table on a server. -/
def remoteWorld : World where
  folders := []
  files := [(["pool.yaml"], remoteSettings true), (["plain.yaml"], remoteSettings false)]
  replies := [("http://t/m", ⟨200, "OK", "required: needed\n"⟩)]
  fetches := []
  clock := .ofQuotient false 1000 1
  today := ⟨2024, 5, 31⟩
  refusedPools := []

/-- A service that was started in that world, and left the settings as they are. -/
structure IsRemote (isParallel : Bool) (path : String) (s : Started "/cache") : Prop where
  config : s.config = some path
  before : s.before = remoteWorld
  given : s.given = remoteDocument isParallel
  file : (s.after.readFile path).toOption = some (remoteSettings isParallel)

/-- Whether a start in that world is that of such a service. -/
def isRemoteStart (isParallel : Bool) (path : String) :
    Except Fault Service × World → Bool
  | (.ok service, after) =>
    (match service.checker.settings.given with
      | .map [(.text key, .text location), (.text key', .bool b)] =>
        key = "error_messages_location" && location = "http://t/m" &&
          key' = "batch_parallelism" && b = isParallel
      | _ => false) &&
      (after.readFile path).toOption = some (remoteSettings isParallel)
  | (.error _, _) => false

theorem exists_isRemote {isParallel : Bool} {path : String}
    (h : isRemoteStart isParallel path
      ((start (World.host "/cache") (some path)).run remoteWorld) = true) :
    ∃ s, IsRemote isParallel path s := by
  rcases hrun : (start (World.host "/cache") (some path)).run remoteWorld with
    ⟨_ | service, after⟩
  · rw [hrun] at h
    cases h
  · rw [hrun] at h
    simp only [isRemoteStart, Bool.and_eq_true, decide_eq_true_eq] at h
    obtain ⟨hgiven, hfile⟩ := h
    refine ⟨⟨some path, remoteWorld, service, after, hrun⟩, rfl, rfl, ?_, hfile⟩
    show service.checker.settings.given = _
    split at hgiven
    · next heq =>
      simp only [Bool.and_eq_true, decide_eq_true_eq] at hgiven
      obtain ⟨⟨⟨rfl, rfl⟩, rfl⟩, rfl⟩ := hgiven
      exact heq
    · cases hgiven

theorem exists_pool : ∃ s, IsRemote true "/pool.yaml" s := exists_isRemote (by decide +kernel)

theorem exists_plain : ∃ s, IsRemote false "/plain.yaml" s := exists_isRemote (by decide +kernel)

theorem IsRemote.isParallel_eq {isParallel : Bool} {path : String} {s : Started "/cache"}
    (h : IsRemote isParallel path s) : s.service.checker.settings.isParallel = isParallel := by
  have hsays : ((remoteDocument isParallel).get? "batch_parallelism").map Yaml.Datum.truthy =
      some isParallel := by cases isParallel <;> decide
  rw [Settings.isParallel, ← Started.given, h.given, hsays, Option.getD_some]

theorem IsRemote.differsInPool {s s' : Started "/cache"} (h : IsRemote true "/pool.yaml" s)
    (h' : IsRemote false "/plain.yaml" s') : s.DiffersInPool s' := by
  refine ⟨h.isParallel_eq, h'.isParallel_eq, ?_, ?_, ?_⟩
  · intro key hkey
    rw [h.given, h'.given]
    simp [Yaml.Datum.get?, remoteDocument, hkey.symm, List.find?_cons]
  · rw [Started.folder, Started.folder, h.config, h'.config]
    decide +kernel
  · rw [h.before, h'.before]

theorem IsRemote.hasPlainTable {s : Started "/cache"} (h : IsRemote true "/pool.yaml" s) :
    s.HasPlainTable := by
  have hread : Settings.Location.read "http://t/m" = .remote "http://t/m" := by decide +kernel
  have hfound : (Settings.Location.remote "http://t/m").text? "/cache" s.folder remoteWorld =
      some "required: needed\n" := by
    show ((remoteWorld.readFile (Settings.copyPath (World.host "/cache") "http://t/m")).toOption.or
      ((remoteWorld.replies.get? "http://t/m").map Reply.text)) = _
    decide +kernel
  intro written hl uri text _ htext
  rw [h.given] at hl
  cases hl
  rw [hread, h.before, hfound] at htext
  cases htext
  decide

/-- The server is out of reach later, on another day. -/
theorem IsRemote.isUnchangedIn {s : Started "/cache"} (h : IsRemote true "/pool.yaml" s) :
    s.IsUnchangedIn { s.after with replies := [], today := ⟨2024, 6, 2⟩ } := by
  have hlater (path : String) :
      World.readFile { s.after with replies := [], today := ⟨2024, 6, 2⟩ } path =
        s.after.readFile path := by
    apply World.readFile_congr <;> rfl
  refine ⟨fun path hpath => ?_, fun path _ => hlater path⟩
  obtain rfl : "/pool.yaml" = path := by
    have hpool : Settings.fileOf? (some "/pool.yaml") = some "/pool.yaml" := by decide +kernel
    rw [h.config, hpool] at hpath
    exact Option.some.inj hpath
  have hbefore : remoteWorld.readFile "/pool.yaml" = .ok (remoteSettings true) := by decide +kernel
  rw [hlater, h.before, hbefore]
  have hfile := h.file
  cases hread : s.after.readFile "/pool.yaml" with
  | error fault =>
    rw [hread] at hfile
    cases hfile
  | ok text =>
    rw [hread] at hfile
    rw [← Option.some.inj hfile]

/-- A record without a name that it should have. -/
def laterBatch (s : Started "/cache") : Batch where
  world := { s.after with replies := [], today := ⟨2024, 6, 2⟩ }
  records := [.map [("id", .int 7), ("name", .text "")]]
  rules := [("name", .text "required")]
  names := .list [.text "id"]

theorem answers_of_isRemote :
    ∃ s s' : Started "/cache",
      (s.DiffersInPool s' ∧ s.HasPlainTable ∧
        ∀ b ∈ [laterBatch s, laterBatch s], s.IsUnchangedIn b.world) ∧
        s.service.answers "/cache" [laterBatch s, laterBatch s] =
          s'.service.answers "/cache" [laterBatch s, laterBatch s] := by
  obtain ⟨s, h⟩ := exists_pool
  obtain ⟨s', h'⟩ := exists_plain
  have hunchanged : ∀ b ∈ [laterBatch s, laterBatch s], s.IsUnchangedIn b.world := by
    intro b hb
    obtain rfl : b = laterBatch s := by simpa using hb
    exact h.isUnchangedIn
  exact ⟨s, s', ⟨h.differsInPool h', h.hasPlainTable, hunchanged⟩,
    answers_of_differsInPool s s' (h.differsInPool h') h.hasPlainTable _ hunchanged⟩

end FieldRules.Service
