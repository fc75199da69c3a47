import FieldRules.Proofs.Service.Pool

/-!
# What a service answers from

A service loads its settings when it is started and when it is told to reload them. It answers from
what it has loaded then, whatever becomes of the files afterwards. A pool is different: its worker
loads the settings for itself, with the first record that it gets. Files that have changed since the
service loaded them are seen by the worker, and batches are answered from what it has loaded. The
day is no part of what was loaded: it is always that of the world in which the service is asked.

Results:
* `run_reload`: how a service reloads.
* `exists_started_of_run_reload`: a service that has been told to reload is as if it were started
  anew.
* `holds_of_history`: what a service has of what was loaded, whatever was asked since.
* `reply_of_history`: what a service answers from.
* `reply_of_editedTable`: a batch is answered from a table that was written after the start.
-/

namespace FieldRules.Service

variable {cache : String}

/-! ## Questions -/

/-- What a service is asked for: to check a record, to check a batch, to tell its rules, or to make
    a session on a record. -/
inductive Question where
  | validate (data : Value) (rules : Entries Value)
  | batch (records : List Value) (rules : Entries Value) (names : Value)
  | rules
  | session (data : Value)

/-- What is found out. -/
inductive Findings where
  | report (found : Except Fault Report)
  | entries (found : Except Fault (List BatchEntry))
  | rules (infos : Entries RuleInfo)
  | session (made : Session)

/-- A question, and the world in which it is asked. -/
structure Visit where
  world : World
  question : Question

/-- What a checker finds out, on some day. -/
def findings (c : Checker) (today : Calendar.Today) : Question → Findings
  | .validate data rules => .report (c.validate today data rules).2
  | .batch records rules names => .entries (c.validateEach today rules names records).2
  | .rules => .rules c.ruleInfos
  | .session data => .session (c.session today data)

/-- What a service answers, and the service afterwards. -/
def ask (cache : String) (t : Service) (v : Visit) : Findings × Service :=
  match v.question with
  | .batch records rules names =>
    let (found, t') := t.answer cache ⟨v.world, records, rules, names⟩
    (.entries found, t')
  | question => (findings t.checker v.world.today question, t)

/-- Whether a question is a batch with records in it. -/
def Question.isFilledBatch : Question → Bool
  | .batch (_ :: _) _ _ => true
  | _ => false

/-- The first batch with records in it. -/
def firstBatch? (visits : List Visit) : Option Visit := visits.find? (·.question.isFilledBatch)

theorem findings_of_agrees {c c' : Checker} (h : c.Agrees c') (today : Calendar.Today)
    {q : Question} (hq : q.isFilledBatch = true) : findings c' today q = findings c today q := by
  cases q with
  | batch records rules names => simp only [findings, Checker.validateEach_of_agrees h]
  | validate | rules | session => cases hq

section Ask

variable {t : Service} {v : Visit} {workers : Value}

/-- What is no batch with records in it is answered by the service itself. -/
theorem ask_of_not_isFilledBatch (hq : v.question.isFilledBatch = false) :
    t.ask cache v = (findings t.checker v.world.today v.question, t) := by
  obtain ⟨w, q⟩ := v
  cases q with
  | validate | rules | session => rfl
  | batch records rules names =>
    cases records with
    | cons record records => cases hq
    | nil =>
      obtain ⟨config, checker, worker, pool⟩ := t
      cases pool <;> rfl

theorem ask_of_pool_none (h : t.pool = none) :
    t.ask cache v = (findings t.checker v.world.today v.question, t) := by
  obtain ⟨w, q⟩ := v
  cases q with
  | validate | rules | session => rfl
  | batch records rules names =>
    simp only [ask, findings, answer_of_pool_none h]

/-- A batch in a pool that has been used changes nothing, and its worker answers. -/
theorem ask_of_isReady (hpool : t.pool = some ⟨workers, true⟩) :
    (t.ask cache v).2 = t ∧ ∀ worker, t.worker = some worker →
      v.question.isFilledBatch = true →
        (t.ask cache v).1 = findings worker v.world.today v.question := by
  obtain ⟨w, q⟩ := v
  obtain ⟨config, checker, worker, pool⟩ := t
  cases hpool
  cases q with
  | validate | rules | session => exact ⟨rfl, nofun⟩
  | batch records rules names =>
    cases records with
    | nil => exact ⟨rfl, nofun⟩
    | cons record records =>
      cases worker with
      | none => exact ⟨rfl, nofun⟩
      | some worker =>
        refine ⟨rfl, fun worker' hworker _ => ?_⟩
        cases hworker
        rfl

/-- A pool whose worker cannot load its settings counts as ready, and has the worker that it had. -/
theorem answer_of_run_load_error {config : Option String} {checker : Checker}
    {worker : Option Checker} {record : Value} {records : List Value} {rules : Entries Value}
    {names : Value} {w w' : World} {fault : Settings.Fault}
    (h : (Checker.load (World.host cache) config).run w = (.error fault, w')) :
    Service.answer cache ⟨config, checker, worker, some ⟨workers, false⟩⟩
        ⟨w, record :: records, rules, names⟩ =
      (.error (.settings fault), ⟨config, checker, worker, some ⟨workers, true⟩⟩) := by
  have hworker (t : Service) : (readyWorker (World.host cache) config).run t w =
      ((.error (.settings fault), t), w') := by
    rw [readyWorker, run_bind, run_withSettings, h]
    rfl
  have hready : (readyPool (World.host cache)).run
      ⟨config, checker, worker, some ⟨workers, false⟩⟩ w =
        ((.error (.settings fault), ⟨config, checker, worker, some ⟨workers, true⟩⟩), w') :=
    hworker ⟨config, checker, worker, some ⟨workers, true⟩⟩
  have hrun : (batch (World.host cache) (record :: records) rules names).run
      ⟨config, checker, worker, some ⟨workers, false⟩⟩ w =
        ((.error (.settings fault), ⟨config, checker, worker, some ⟨workers, true⟩⟩), w') := by
    unfold batch
    rw [run_bind, run_today]
    simp only
    rw [run_bind, run_get]
    simp only [Option.isNone_some, Bool.false_eq_true, if_false, List.isEmpty_cons]
    rw [run_bind, hready]
  rw [answer, hrun]
  rfl

/-- The first batch in a pool makes it ready: its worker loads the settings in the world of the
    batch, and answers. -/
theorem ask_of_not_isReady (hpool : t.pool = some ⟨workers, false⟩)
    (hq : v.question.isFilledBatch = true) :
    ∃ worker, (t.ask cache v).2 = { t with worker, pool := some ⟨workers, true⟩ } ∧
      ∀ c w', (Checker.load (World.host cache) t.config).run v.world = (.ok c, w') →
        worker = some c ∧ (t.ask cache v).1 = findings c v.world.today v.question := by
  obtain ⟨w, q⟩ := v
  obtain ⟨config, checker, worker, pool⟩ := t
  cases hpool
  cases q with
  | validate | rules | session => cases hq
  | batch records rules names =>
    cases records with
    | nil => cases hq
    | cons record records =>
      rcases hload : (Checker.load (World.host cache) config).run w with ⟨fault | worker', w'⟩
      · refine ⟨worker, ?_, fun c w'' hc => ?_⟩
        · simp only [ask, answer_of_run_load_error hload]
        · cases hc
      · refine ⟨some worker', ?_, fun c w'' hc => ?_⟩
        · simp only [ask, answer_of_not_isReady hload]
        · cases hc
          exact ⟨rfl, by simp only [ask, answer_of_not_isReady hload]; rfl⟩

end Ask

/-! ## Reloading -/

/-- How a service reloads: the pool is closed, then the copies are taken away, and then everything
    is loaded. Only if that succeeds, the service goes on with what was loaded, and makes a new
    pool. -/
theorem run_reload (t : Service) (w : World) :
    (reload (World.host cache)).run t w =
      match (Settings.dropCopies (World.host cache)).run w with
      | (.error fault, w₁) => ((.error (.settings fault), { t with pool := none }), w₁)
      | (.ok (), w₁) =>
        match (Checker.load (World.host cache) t.config).run w₁ with
        | (.error fault, w₂) => ((.error (.settings fault), { t with pool := none }), w₂)
        | (.ok checker, w₂) =>
          match poolIn checker.settings w₂ with
          | .error fault => ((.error fault, { t with checker, pool := none }), w₂)
          | .ok pool => ((.ok (), { t with checker, pool }), w₂) := by
  have hclose : (close : ServiceM (StateM World) Unit).run t w =
      ((.ok (), { t with pool := none }), w) := rfl
  have hopen (settings : Settings) (t : Service) (w : World) :
      (ExceptT.mk (openPool (World.host cache) settings).run :
        ServiceM (StateM World) (Option Pool)).run t w = ((poolIn settings w, t), w) := by
    rw [run_inHost, run_openPool]
  rw [reload, run_bind, hclose]
  simp only
  rw [run_bind, run_withSettings]
  rcases (Settings.dropCopies (World.host cache)).run w with ⟨fault | ⟨⟩, w₁⟩
  · rfl
  · simp only [Except.mapError]
    rw [run_bind, run_get]
    simp only
    rw [run_bind, run_withSettings]
    rcases (Checker.load (World.host cache) t.config).run w₁ with ⟨fault | checker, w₂⟩
    · rfl
    · simp only [Except.mapError]
      rw [run_bind, run_set]
      simp only
      rw [run_bind, hopen]
      cases poolIn checker.settings w₂ <;> rfl

/-- A service that has been told to reload is as if it were started anew, in the world without
    copies of remote documents. -/
theorem exists_started_of_run_reload {t t' : Service} {w w' : World}
    (h : (reload (World.host cache)).run t w = ((.ok (), t'), w')) :
    ∃ s : Started cache, s.config = t.config ∧
      (Settings.dropCopies (World.host cache)).run w = (.ok (), s.before) ∧ s.after = w' ∧
      t' = { s.service with worker := t.worker } := by
  rw [run_reload] at h
  rcases hdrop : (Settings.dropCopies (World.host cache)).run w with ⟨fault | ⟨⟩, w₁⟩
  · rw [hdrop] at h
    cases h
  · rw [hdrop] at h
    simp only at h
    rcases hload : (Checker.load (World.host cache) t.config).run w₁ with ⟨fault | checker, w₂⟩
    · rw [hload] at h
      cases h
    · rw [hload] at h
      simp only at h
      cases hpool : poolIn checker.settings w₂ with
      | error fault =>
        rw [hpool] at h
        cases h
      | ok pool =>
        rw [hpool] at h
        cases h
        exact ⟨⟨t.config, w₁, ⟨t.config, checker, none, pool⟩, w', run_start hload hpool⟩,
          rfl, rfl, rfl, rfl⟩

theorem Started.service_eq {s s' : Started cache} (hconfig : s'.config = s.config)
    (hbefore : s'.before = s.before) : s'.service = s.service := by
  have h := s'.isStarted
  rw [hconfig, hbefore, s.isStarted] at h
  exact (Except.ok.inj (congrArg Prod.fst h)).symm

/-! ## Histories -/

/-- What can become of a service: it was started, it is asked, each time in some world, and told to
    reload in some world, which succeeds. With it goes what was loaded last, as a start of its own,
    and what was asked since then. -/
inductive History : Started cache → List Visit → Service → Prop where
  | start (s : Started cache) : History s [] s.service
  | ask {s : Started cache} {since : List Visit} {t : Service} (h : History s since t)
      (v : Visit) : History s (since ++ [v]) (t.ask cache v).2
  | reload {s s' : Started cache} {since : List Visit} {t t' : Service} {w w' : World}
      (h : History s since t)
      (hreload : (reload (World.host cache)).run t w = ((.ok (), t'), w'))
      (hconfig : s'.config = t.config)
      (hbefore : (Settings.dropCopies (World.host cache)).run w = (.ok (), s'.before)) :
      History s' [] t'

namespace Started

/-- Whether the settings ask for a pool. -/
def isParallel (s : Started cache) : Bool := s.service.checker.settings.isParallel

end Started

/-- What a service has of what was loaded last. The service itself has what was loaded then; its
    pool is ready as soon as there was a batch, and then its worker has what it found with the
    first one. -/
structure Holds (s : Started cache) (since : List Visit) (t : Service) : Prop where
  config : t.config = s.config
  checker : t.checker = s.service.checker
  pool : t.pool =
    if s.isParallel then some ⟨s.service.checker.settings.workers, (firstBatch? since).isSome⟩
    else none
  worker : s.isParallel = true → ∀ first, firstBatch? since = some first →
    ∀ c w', (Checker.load (World.host cache) s.config).run first.world = (.ok c, w') →
      t.worker = some c

variable {s : Started cache} {since : List Visit} {t : Service}

theorem holds_start (s : Started cache) (worker : Option Checker) :
    Holds s [] { s.service with worker } := by
  exact ⟨s.config_eq, rfl, s.pool_eq, nofun⟩

theorem firstBatch?_append_of_not (v : Visit) (h : v.question.isFilledBatch = false) :
    firstBatch? (since ++ [v]) = firstBatch? since := by
  simp [firstBatch?, List.find?_append, h]

theorem firstBatch?_append_of_isSome {first : Visit} (v : Visit)
    (h : firstBatch? since = some first) : firstBatch? (since ++ [v]) = some first := by
  rw [firstBatch?] at h
  simp [firstBatch?, List.find?_append, h]

theorem firstBatch?_append_of_none (v : Visit) (hq : v.question.isFilledBatch = true)
    (h : firstBatch? since = none) : firstBatch? (since ++ [v]) = some v := by
  rw [firstBatch?] at h
  simp [firstBatch?, List.find?_append, h, hq]

/-- A question changes nothing but the worker, and that with the first batch only. -/
theorem Holds.ask (h : Holds s since t) (v : Visit) :
    Holds s (since ++ [v]) (t.ask cache v).2 := by
  cases hq : v.question.isFilledBatch with
  | false =>
    rw [ask_of_not_isFilledBatch hq]
    refine ⟨h.config, h.checker, ?_, ?_⟩
    · rw [firstBatch?_append_of_not v hq]
      exact h.pool
    · rw [firstBatch?_append_of_not v hq]
      exact h.worker
  | true =>
    cases hparallel : s.isParallel with
    | false =>
      have hpool : t.pool = none := by rw [h.pool, hparallel, if_neg Bool.false_ne_true]
      rw [ask_of_pool_none hpool]
      refine ⟨h.config, h.checker, ?_, by rw [hparallel]; exact nofun⟩
      rw [hpool, hparallel, if_neg Bool.false_ne_true]
    | true =>
      have hpool := h.pool
      rw [hparallel, if_pos rfl] at hpool
      cases hfirst : firstBatch? since with
      | some first =>
        rw [hfirst, Option.isSome_some] at hpool
        rw [(ask_of_isReady hpool).1]
        refine ⟨h.config, h.checker, ?_, ?_⟩
        · rw [firstBatch?_append_of_isSome v hfirst, hparallel, if_pos rfl]
          exact hpool
        · rw [firstBatch?_append_of_isSome v hfirst, ← hfirst]
          exact h.worker
      | none =>
        rw [hfirst, Option.isSome_none] at hpool
        obtain ⟨worker, hafter, hworker⟩ := ask_of_not_isReady hpool hq
        rw [hafter]
        refine ⟨h.config, h.checker, ?_, ?_⟩
        · rw [firstBatch?_append_of_none v hq hfirst, hparallel, if_pos rfl]
          rfl
        · rw [firstBatch?_append_of_none v hq hfirst, ← h.config]
          intro _ first hv c w' hload
          cases hv
          exact (hworker c w' hload).1

/-- What a service has of what was loaded last, whatever it was asked since then. -/
theorem holds_of_history (h : History s since t) : Holds s since t := by
  induction h with
  | start s => exact holds_start s s.service.worker
  | ask _ v ih => exact ih.ask v
  | reload _ hreload hconfig hbefore =>
    obtain ⟨s₁, hconfig₁, hbefore₁, -, rfl⟩ := exists_started_of_run_reload hreload
    rw [hbefore₁] at hbefore
    have hbefore : s₁.before = _ := congrArg Prod.snd hbefore
    rw [Started.service_eq (hconfig₁.trans hconfig.symm) hbefore]
    exact holds_start _ _

/-- What a service answers. It answers from what was loaded last, at its start or when it was told
    to reload, in whatever world it is asked; but a batch in a pool is answered from what the worker
    has loaded, in the world of the first batch since then. If nothing that the service had loaded
    had changed in that world, the answer is the same. -/
theorem reply_of_history (h : History s since t) (v : Visit) :
    (s.isParallel = false ∨ v.question.isFilledBatch = false →
        (t.ask cache v).1 = findings s.service.checker v.world.today v.question) ∧
      (s.isParallel = true → v.question.isFilledBatch = true →
        ∃ first, firstBatch? (since ++ [v]) = some first ∧
          (∀ c w', (Checker.load (World.host cache) s.config).run first.world = (.ok c, w') →
            (t.ask cache v).1 = findings c v.world.today v.question) ∧
          (s.HasPlainTable → s.IsUnchangedIn first.world →
            (t.ask cache v).1 = findings s.service.checker v.world.today v.question)) := by
  have ht := holds_of_history h
  constructor
  · rintro (hparallel | hq)
    · have hpool := ht.pool
      rw [hparallel, if_neg Bool.false_ne_true] at hpool
      rw [ask_of_pool_none hpool, ht.checker]
    · rw [ask_of_not_isFilledBatch hq, ht.checker]
  · intro hparallel hq
    have hpool := ht.pool
    rw [hparallel, if_pos rfl] at hpool
    have hreply : ∃ first, firstBatch? (since ++ [v]) = some first ∧
        ∀ c w', (Checker.load (World.host cache) s.config).run first.world = (.ok c, w') →
          (t.ask cache v).1 = findings c v.world.today v.question := by
      cases hfirst : firstBatch? since with
      | some first =>
        rw [hfirst, Option.isSome_some] at hpool
        refine ⟨first, firstBatch?_append_of_isSome v hfirst, fun c w' hload => ?_⟩
        exact (ask_of_isReady hpool).2 c (ht.worker hparallel first hfirst c w' hload) hq
      | none =>
        rw [hfirst, Option.isSome_none] at hpool
        obtain ⟨worker, -, hworker⟩ := ask_of_not_isReady hpool hq
        rw [ht.config] at hworker
        exact ⟨v, firstBatch?_append_of_none v hq hfirst, fun c w' hload => (hworker c w' hload).2⟩
    obtain ⟨first, hfirst, hfound⟩ := hreply
    refine ⟨first, hfirst, hfound, fun hplain hunchanged => ?_⟩
    obtain ⟨c, hload, hagrees⟩ := Started.run_load_worker hplain hunchanged
    rw [hfound c _ hload, findings_of_agrees hagrees _ hq]

/-! ## A table that is edited -/

/-- The day on which the services are asked. -/
def tableDay : Calendar.Today := ⟨2024, 5, 31⟩

/-- A world with settings that ask for a pool, and with a table in a file. -/
def tableWorld (table : String) : World where
  folders := []
  files := [(["config.yaml"], "batch_parallelism: true\nerror_messages_location: messages.yaml\n"),
    (["messages.yaml"], table)]
  replies := []
  fetches := []
  clock := .ofInt 1000
  today := tableDay
  refusedPools := []

/-- A table with a template for the rule in use. -/
def fullTable : String := "required: needed\n"

/-- A table without one. -/
def poorTable : String := "email: wrong\n"

/-- A batch of one record that has what it should have. -/
def namedBatch : Question :=
  .batch [.map [("name", .text "Jo")]] [("name", .text "required")] (.list [.text "name"])

/-- Whether each record of a batch was found to be valid. -/
def validIn : Findings → Option (List Bool)
  | .entries (.ok entries) => some (entries.map fun e => e.report.isValid)
  | _ => none

/-- The fault of a rule text that was found out. -/
def specFaultIn : Findings → Option SpecFault
  | .entries (.error (.rule (.spec fault))) => some fault
  | _ => none

/-- A service that was started with the full table. -/
structure IsTabled (s : Started "/cache") : Prop where
  config : s.config = some "/config.yaml"
  before : s.before = tableWorld fullTable
  isParallel : s.isParallel = true
  table : (Settings.locationIn s.given).map Settings.Location.read = some (.path "messages.yaml")
  after : (s.after.readFile "/messages.yaml").toOption = some fullTable
  -- what the service itself finds out, and what it answers when the table has become poor
  valid : validIn (findings s.service.checker tableDay namedBatch) = some [true]
  fault : specFaultIn (s.service.ask "/cache" ⟨tableWorld poorTable, namedBatch⟩).1 =
    some ⟨.missingTemplate, "required", some "name"⟩

/-- Whether a start in that world is that of such a service. -/
def isTabledStart : Except Fault Service × World → Bool
  | (.ok service, after) =>
    service.checker.settings.isParallel &&
      decide ((Settings.locationIn service.checker.settings.given).map Settings.Location.read =
        some (.path "messages.yaml")) &&
      (after.readFile "/messages.yaml").toOption = some fullTable &&
      validIn (findings service.checker tableDay namedBatch) = some [true] &&
      specFaultIn (service.ask "/cache" ⟨tableWorld poorTable, namedBatch⟩).1 =
        some ⟨.missingTemplate, "required", some "name"⟩
  | (.error _, _) => false

theorem exists_isTabled : ∃ s, IsTabled s := by
  have h : isTabledStart
      ((start (World.host "/cache") (some "/config.yaml")).run (tableWorld fullTable)) = true := by
    decide +kernel
  rcases hrun : (start (World.host "/cache") (some "/config.yaml")).run (tableWorld fullTable) with
    ⟨_ | service, after⟩
  · rw [hrun] at h
    cases h
  · rw [hrun] at h
    simp only [isTabledStart, Bool.and_eq_true, decide_eq_true_eq] at h
    obtain ⟨⟨⟨⟨hparallel, htable⟩, hafter⟩, hvalid⟩, hfault⟩ := h
    exact ⟨⟨some "/config.yaml", tableWorld fullTable, service, after, hrun⟩, rfl, rfl, hparallel,
      htable, hafter, hvalid, hfault⟩

/-- A batch is answered from a table that was written after the service was started: a rule is
    refused for which the service has a template, and finds the record to be valid. -/
theorem reply_of_editedTable :
    ∃ s : Started "/cache", History s [] s.service ∧ s.before = tableWorld fullTable ∧
      validIn (findings s.service.checker tableDay namedBatch) = some [true] ∧
      specFaultIn (s.service.ask "/cache" ⟨tableWorld poorTable, namedBatch⟩).1 =
        some ⟨.missingTemplate, "required", some "name"⟩ ∧
      (s.service.ask "/cache" ⟨tableWorld poorTable, namedBatch⟩).1 ≠
        findings s.service.checker tableDay namedBatch := by
  obtain ⟨s, h⟩ := exists_isTabled
  refine ⟨s, .start s, h.before, h.valid, h.fault, fun he => ?_⟩
  have hfault := h.fault
  rw [he] at hfault
  have hvalid := h.valid
  revert hfault hvalid
  cases findings s.service.checker tableDay namedBatch with
  | entries found =>
    cases found with
    | ok entries => exact nofun
    | error fault => exact fun _ => nofun
  | report | rules | session => exact nofun

theorem IsTabled.hasPlainTable {s : Started "/cache"} (h : IsTabled s) : s.HasPlainTable := by
  intro written hlocation uri text hremote
  have htable := h.table
  rw [hlocation, Option.map_some, hremote] at htable
  cases htable

/-- The worker finds what the service has found, when its first batch comes before the edit. -/
theorem IsTabled.isUnchangedIn {s : Started "/cache"} (h : IsTabled s) :
    s.IsUnchangedIn (tableWorld fullTable) := by
  refine ⟨fun path _ => by rw [h.before], fun path hpath => ?_⟩
  obtain rfl : "/messages.yaml" = path := by
    have hfolder : s.folder = "/" := by
      rw [Started.folder, h.config]
      decide +kernel
    have htable := h.table
    rw [Option.map_eq_some_iff] at htable
    obtain ⟨written, hlocation, hread⟩ := htable
    rw [Settings.tableFile?, hlocation, Option.bind_some, hread, hfolder] at hpath
    exact Option.some.inj hpath
  have hbefore : (tableWorld fullTable).readFile "/messages.yaml" = .ok fullTable := by
    decide +kernel
  have hafter := h.after
  cases hread : s.after.readFile "/messages.yaml" with
  | error fault =>
    rw [hread] at hafter
    cases hafter
  | ok text =>
    rw [hread] at hafter
    rw [hbefore, ← Option.some.inj hafter]

/-- A service with a pool is asked for a batch twice; the table is edited in between. -/
theorem reply_of_secondBatch :
    ∃ (s : Started "/cache") (t : Service),
      History s [⟨tableWorld fullTable, namedBatch⟩] t ∧
        (s.isParallel = true ∧ namedBatch.isFilledBatch = true ∧ s.HasPlainTable ∧
          s.IsUnchangedIn (tableWorld fullTable)) ∧
        (t.ask "/cache" ⟨tableWorld poorTable, namedBatch⟩).1 =
          findings s.service.checker tableDay namedBatch := by
  obtain ⟨s, h⟩ := exists_isTabled
  have ht : History s [⟨tableWorld fullTable, namedBatch⟩] _ :=
    (History.start s).ask ⟨tableWorld fullTable, namedBatch⟩
  refine ⟨s, _, ht, ⟨h.isParallel, rfl, h.hasPlainTable, h.isUnchangedIn⟩, ?_⟩
  obtain ⟨first, hfirst, -, hreply⟩ :=
    (reply_of_history ht ⟨tableWorld poorTable, namedBatch⟩).2 h.isParallel rfl
  cases hfirst
  exact hreply h.hasPlainTable h.isUnchangedIn

end FieldRules.Service
