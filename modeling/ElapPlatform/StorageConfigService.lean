import ElapPlatform.ConfigurationIntegers
import ElapPlatform.InteractionInterpretation
import ElapPlatform.ServiceApplicationModel
import ElapPlatform.ThreadManagerModel

/-!
# The storage configuration service

`storage_config_service`: its callbacks over its configuration and its thread manager, and
`ServiceApplication::run` with these callbacks.  The thread that runs the application is
none of the manager's own, so `joinAll` joins and never detaches.
-/

namespace ElapPlatform.Service

open Interaction Interaction.Program Threading

/-! ## What the service asks -/

inductive StorageConfigCall where
  /-- What `run` asks, apart from the callbacks. -/
  | application (call : ServiceCall)
  | getenv (name : String)
  | openConfig (path : String)
  | loadFromFile (path : String)
  | getInt (key : String) (defaultValue : ℤ)
  | closeConfig
  | startThread (name : Bytes)
  | requestStop
  /-- `joinAll` swaps the registry into a local list. -/
  | takeRegistry
  | join (thread : ThreadId)
  | joinAllReturns (taken : List ManagedThread)

abbrev StorageConfigCall.Reply : StorageConfigCall → Type
  | .application call => call.Reply
  | .getenv _ => Option String
  | .openConfig _ => Bool
  | .loadFromFile _ => Bool
  | .getInt _ _ => ℤ
  | .closeConfig => Unit
  | .startThread _ => Except Thrown Bool
  | .requestStop => Unit
  | .takeRegistry => List ManagedThread
  | .join _ => Unit
  | .joinAllReturns _ => Unit

abbrev StorageConfigProgram (α : Type) := Program StorageConfigCall StorageConfigCall.Reply α

section Calls

def getenv (name : String) : StorageConfigProgram (Option String) :=
  .ask (StorageConfigCall.getenv name) .done

def openConfig (path : String) : StorageConfigProgram Bool :=
  .ask (StorageConfigCall.openConfig path) .done

def loadFromFile (path : String) : StorageConfigProgram Bool :=
  .ask (StorageConfigCall.loadFromFile path) .done

def getInt (key : String) (defaultValue : ℤ) : StorageConfigProgram ℤ :=
  .ask (StorageConfigCall.getInt key defaultValue) .done

def closeConfig : StorageConfigProgram Unit := .ask StorageConfigCall.closeConfig .done

def startThread (name : Bytes) : StorageConfigProgram (Except Thrown Bool) :=
  .ask (StorageConfigCall.startThread name) .done

def requestStop : StorageConfigProgram Unit := .ask StorageConfigCall.requestStop .done

def takeRegistry : StorageConfigProgram (List ManagedThread) :=
  .ask StorageConfigCall.takeRegistry .done

def join (thread : ThreadId) : StorageConfigProgram Unit :=
  .ask (StorageConfigCall.join thread) .done

def joinAllReturns (taken : List ManagedThread) : StorageConfigProgram Unit :=
  .ask (StorageConfigCall.joinAllReturns taken) .done

end Calls

/-! ## The callbacks -/

structure StorageConfigService where
  workerCount : ℤ
  heartbeatMs : ℤ
  deriving DecidableEq, Repr

/-- `"heartbeat_" + std::to_string(i)` -/
def workerName (i : ℕ) : Bytes := "heartbeat_".toList.map Char.toUInt8 ++ Storage.decimal i

/-- The loop of `start`, with the rounds that are left. -/
def startWorkers (i : ℕ) : ℕ → StorageConfigProgram (Except Thrown Bool)
  | 0 => return .ok true
  | left + 1 => do
    match ← startThread (workerName i) with
    | .error thrown => return .error thrown
    | .ok false => return .ok false
    | .ok true => startWorkers (i + 1) left

def joinAll : StorageConfigProgram Unit := ThreadManager.joinAll takeRegistry join joinAllReturns

namespace StorageConfigService

/-- As it is constructed. -/
def initial : StorageConfigService := ⟨1, 1000⟩

/-- `loadFromFile`, whose failure is only logged. -/
def loadSeed : Option String → StorageConfigProgram Unit
  | none => return ()
  | some seed => do
    let _ ← loadFromFile seed

/-- `initialize` -/
def initializeConfig (service : StorageConfigService) :
    StorageConfigProgram (Bool × StorageConfigService) := do
  let dbPath := (← getenv "ELAP_STORAGE_CONFIG_DB").getD "/tmp/elap_storage_config.db"
  if !(← openConfig dbPath) then return (false, service)
  loadSeed (← getenv "ELAP_STORAGE_CONFIG_SEED")
  let workerCount ← getInt "worker.count" 1
  let heartbeatMs ← getInt "heartbeat.interval_ms" 1000
  return (true, ⟨workerCount, heartbeatMs⟩)

def start (service : StorageConfigService) : StorageConfigProgram (Except Thrown Bool) :=
  startWorkers 0 service.workerCount.toNat

def stop : StorageConfigProgram Unit := requestStop

def deinitialize : StorageConfigProgram Unit := do
  joinAll
  closeConfig

/-- The service answers the callbacks and leaves the rest to the application. -/
def serve (service : StorageConfigService) :
    (call : ServiceCall) → StorageConfigProgram (call.Reply × StorageConfigService)
  | .initializeService => do
    let (initialized, service) ← service.initializeConfig
    return (.ok initialized, service)
  | .startService => do return (← service.start, service)
  | .stopService => do
    stop
    return (.ok (), service)
  | .deinitializeService => do
    deinitialize
    return (.ok (), service)
  | call => .ask (.application call) fun reply => .done (reply, service)

end StorageConfigService

/-- `app.run(service, argc, argv)` -/
def runStorageConfigService (argv : List String) (wakeUps : ℕ) :
    StorageConfigProgram (RunResult × StorageConfigService) :=
  (run "storage_config_service" argv wakeUps).interpret StorageConfigService.serve .initial

/-! ## What surrounds it -/

/-- The manager of the service, and how often it was asked for a thread. -/
structure Surroundings where
  manager : ManagerState
  attempts : ℕ

/-- The thread that runs the application. -/
def applicationThread : Caller := .external 0

/-- A worker leaves its loop when it sees its stop flag. -/
inductive WorkerStep : ManagerState → ManagerState → Prop
  | leaves {manager next : ManagerState} {thread : ThreadId}
      (hstop : manager.stopRequested thread = true)
      (hexits : ManagerStep manager (.exits thread) next) : WorkerStep manager next

/-- How the caller of `ThreadManager::startThread` sees its result. -/
def ReportsStart : StartResult → Except Thrown Bool → Prop
  | .refused, outcome => outcome = .ok false
  | .threw, outcome => ∃ thrown, outcome = .error thrown
  | .started, outcome => outcome = .ok true

/-- The configuration holds the worker count, and the first `created` threads that the
service asks for are created, but no other. -/
def Surroundings.Answer (workerCount : ℤ) (created : ℕ) (before : Surroundings) :
    (call : StorageConfigCall) → call.Reply → Surroundings → Prop
  | .getInt key _, value, after => (key = "worker.count" → value = workerCount) ∧ after = before
  | .startThread name, outcome, after => ∃ hasWorker spawned,
      ManagerStep before.manager (.startThread applicationThread name hasWorker spawned)
        after.manager ∧
      ReportsStart (before.manager.startThread name hasWorker spawned).1 outcome ∧
      (outcome = .ok true ↔ before.attempts < created) ∧ after.attempts = before.attempts + 1
  | .requestStop, _, after =>
      ManagerStep before.manager (.requestStop applicationThread) after.manager ∧
        after.attempts = before.attempts
  | .takeRegistry, taken, after =>
      ManagerStep before.manager (.joinAll applicationThread) after.manager ∧
        taken = before.manager.registry ∧ after.attempts = before.attempts
  | .join thread, _, after =>
      ManagerStep before.manager (.joins applicationThread thread) after.manager ∧
        after.attempts = before.attempts
  | .joinAllReturns taken, _, after =>
      ManagerStep before.manager (.joinAllReturns applicationThread taken) after.manager ∧
        after.attempts = before.attempts
  | _, _, after => after = before

/-- Before each answer any workers may leave. -/
def Surroundings.Answers (workerCount : ℤ) (created : ℕ) (before : Surroundings)
    (call : StorageConfigCall) (reply : call.Reply) (after : Surroundings) : Prop :=
  ∃ manager, Relation.ReflTransGen WorkerStep before.manager manager ∧
    Surroundings.Answer workerCount created ⟨manager, before.attempts⟩ call reply after

def initialSurroundings : Surroundings := ⟨initialManager, 0⟩

end ElapPlatform.Service
