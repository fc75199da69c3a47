import FieldRules.Service.Checker

/-!
# Services

A service checks records with what it has loaded, and loads it anew when it is told to. If its
settings ask for a pool, batches go to a worker, which loads the settings for itself before its
first record and works on copies.
-/

namespace FieldRules

/-- A pool: the number of its workers, if it is fixed, and whether they have been made ready. -/
structure Pool where
  workers : Value
  isReady : Bool
  deriving Repr

/-- A service: the file of its settings, what it checks with, the worker, and the pool if there is
    one. Model of `ValidationService`. -/
structure Service where
  config : Option String
  checker : Checker
  worker : Option Checker
  pool : Option Pool

/-- What is done with a service; what was done before a fault stays done. -/
abbrev ServiceM (m : Type → Type) := ExceptT Service.Fault (StateT Service m)

namespace Service

variable {m : Type → Type} [Monad m]

/-- The pool that settings ask for, if they ask for one. It may be that none can be made with so
    many workers. Model of `_create_pool`. -/
def openPool (host : Host m) (settings : Settings) : ExceptT Fault m (Option Pool) := do
  if !settings.isParallel then return none
  match ← (host.makePool settings.workers : ExceptT Fault m _) with
  | .ok () => return some ⟨settings.workers, false⟩
  | .error detail => throw (.pool detail)

/-- Starts a service. Model of `ValidationService.__init__`. -/
def start (host : Host m) (config : Option String) : ExceptT Fault m Service := do
  let checker ← (Checker.load host config).adapt .settings
  let pool ← openPool host checker.settings
  return ⟨config, checker, none, pool⟩

/-- Does something with the settings of a host. -/
def withSettings {α : Type} (action : ExceptT Settings.Fault m α) : ServiceM m α :=
  ExceptT.mk do return (← (action.run : StateT Service m _)).mapError .settings

/-- Makes the worker ready, with settings from a file of its own. Model of `_init_worker`. -/
def readyWorker (host : Host m) (config : Option String) : ServiceM m Unit := do
  let worker ← withSettings (Checker.load host config)
  modify fun s => { s with worker := some worker }

/-- Closes the pool. Model of `ValidationService.close`. -/
def close : ServiceM m Unit := modify fun s => { s with pool := none }

/-- Loads everything anew: the pool is closed and the copies of remote documents are taken away
    first, and the new pool is made last. Rules that were registered are gone then. Model of
    `reload_config`. -/
def reload (host : Host m) : ServiceM m Unit := do
  close
  withSettings (Settings.dropCopies host)
  let s : Service ← get
  let checker ← withSettings (Checker.load host s.config)
  set { s with checker }
  let pool ← ExceptT.mk (openPool host checker.settings).run
  modify fun s => { s with pool }

/-- How long ago the settings were loaded, in seconds. Model of `get_config_age`. -/
def age (host : Host m) : ServiceM m Binary64 := do
  let s : Service ← get
  return (← (host.now : StateT Service m _)).sub s.checker.settings.loadedAt

/-- Registers a rule or a transform, in what the service checks with. -/
def changeRegistry (change : Registry → Except FieldRules.Fault Registry) : ServiceM m Unit := do
  let s : Service ← get
  let registry ← (change s.checker.registry).mapError Fault.rule
  set { s with checker := { s.checker with registry } }

/-- The worker, if it has been made ready. -/
def workerOf (s : Service) : Except Fault Checker :=
  match s.worker with
  | some worker => .ok worker
  | none => .error .noWorker

/-- The pool made ready: with its first record, its worker loads the settings. -/
def readyPool (host : Host m) : ServiceM m Unit := do
  let s : Service ← get
  match s.pool with
  | some pool =>
    if !pool.isReady then
      set { s with pool := some { pool with isReady := true } }
      readyWorker host s.config
  | none => return ()

/-- Checks a batch of records, on the day that it is: the sessions in which its own records were
    checked, and what is found out. The pool works on copies, so that there are no sessions then.
    Model of `batch_validate`. -/
def batch (host : Host m) (records : List Value) (rules : Entries Value) (names : Value) :
    ServiceM m (List Session × Except Fault (List BatchEntry)) := do
  let today : Calendar.Today ← (host.today : StateT Service m _)
  let s : Service ← get
  if s.pool.isNone then return s.checker.validateEach today rules names records
  if records.isEmpty then return ([], .ok [])
  readyPool host
  let s : Service ← get
  let worker ← s.workerOf
  return ([], (worker.validateEach today rules names records).2)

end Service

end FieldRules
