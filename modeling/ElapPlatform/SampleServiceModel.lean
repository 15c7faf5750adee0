import ElapPlatform.InteractionInterpretation
import ElapPlatform.ServiceApplicationLog
import ElapPlatform.StorageConfigService

/-!
# The sample service

`sample_service` from `main` to its end: the callbacks, the destructor of its thread
manager, and the workers, each of which runs the function that `startThread` hands to
`std::thread`.
-/

namespace ElapPlatform.Service.Sample

open Config Interaction Interaction.Program Logging Threading

/-! ## What the service asks -/

inductive SampleCall where
  /-- What `run` asks, apart from the callbacks. -/
  | application (call : ServiceCall)
  | pathExists (path : String)
  | openFile (path : String)
  | setMinimumLevel (level : LogLevel)
  | log (level : LogLevel) (message : String)
  | startThread (name : Bytes)
  | requestStop
  /-- `joinAll` swaps the registry into a local list. -/
  | takeRegistry
  | join (thread : ThreadId)
  | joinAllReturns (taken : List ManagedThread)

abbrev SampleCall.Reply : SampleCall → Type
  | .application call => call.Reply
  | .pathExists _ => Except Thrown Bool
  | .openFile _ => Option FileStream
  | .setMinimumLevel _ => Unit
  | .log _ _ => Unit
  | .startThread _ => Except Thrown Bool
  | .requestStop => Unit
  | .takeRegistry => List ManagedThread
  | .join _ => Unit
  | .joinAllReturns _ => Unit

abbrev SampleProgram (α : Type) := Program SampleCall SampleCall.Reply α

def ask (call : SampleCall) : SampleProgram call.Reply := .ask call .done

/-! ## The callbacks -/

structure SampleService where
  configPath : String
  configuration : KeyValueConfiguration
  workerCount : ℤ
  heartbeatMs : ℤ

/-- The loop of `start`, with the rounds that are left. -/
def startHeartbeats (index : ℕ) : ℕ → SampleProgram (Except Thrown Bool)
  | 0 => return .ok true
  | left + 1 => do
    match ← ask (.startThread (workerName index)) with
    | .error thrown => return .error thrown
    | .ok false => return .ok false
    | .ok true => startHeartbeats (index + 1) left

/-- The wait of `joinAll` for one thread. -/
def join (thread : ThreadId) : SampleProgram Unit := ask (.join thread)

def joinAll : SampleProgram Unit :=
  ThreadManager.joinAll (ask .takeRegistry) join fun threads => ask (.joinAllReturns threads)

/-- What `stop` and the destructor of the manager both do. -/
def stopWorkers : SampleProgram Unit := do
  ask .requestStop
  joinAll

namespace SampleService

/-- As it is constructed. -/
def initial (configPath : String) : SampleService := ⟨configPath, ⟨fun _ => none⟩, 1, 1000⟩

def reportConfiguration (loaded : ObjectAnswer KeyValueConfiguration) : SampleProgram Unit := do
  match loaded.error with
  | some error => ask (.log .warning (Logged.configError (some error)))
  | none =>
    match parseLogLevel (some (loaded.object.getString (literal "log.level") (literal "info"))) with
    | some level =>
      ask (.setMinimumLevel level)
      ask (.log .info "configuration loaded")
    | none => ask (.log .info "configuration loaded")

def atLeast (least value : ℤ) : ℤ := if value < least then least else value

/-- The values that `initialize` takes from the configuration. -/
def configured (service : SampleService) (configuration : KeyValueConfiguration) :
    SampleService where
  configPath := service.configPath
  configuration := configuration
  workerCount := atLeast 1 (configuration.getInt (literal "worker.count") 1)
  heartbeatMs := atLeast 100 (configuration.getInt (literal "heartbeat.interval_ms") 1000)

/-- `initialize` -/
def initializeService (service : SampleService) : SampleProgram (Bool × SampleService) := do
  let file ← ask (.openFile service.configPath)
  let loaded := service.configuration.loadFromFile service.configPath file
  reportConfiguration loaded
  return (true, service.configured loaded.object)

def start (service : SampleService) : SampleProgram (Except Thrown Bool) :=
  startHeartbeats 0 service.workerCount.toNat

def stop : SampleProgram Unit := do
  ask (.log .info "requesting worker shutdown")
  stopWorkers

def deinitialize : SampleProgram Unit := ask (.log .info "deinitialized")

/-- The service answers the callbacks and leaves the rest to the application. -/
def serve (service : SampleService) :
    (call : ServiceCall) → SampleProgram (call.Reply × SampleService)
  | .initializeService => do
    let (initialized, service) ← service.initializeService
    return (.ok initialized, service)
  | .startService => do return (← service.start, service)
  | .stopService => do
    stop
    return (.ok (), service)
  | .deinitializeService => do
    deinitialize
    return (.ok (), service)
  | call => .ask (.application call) fun reply => .done (reply, service)

end SampleService

/-- Where a worker is: in front of its first line, of a look at its stop flag, of a
heartbeat, of its last line, or behind it. -/
inductive WorkerPhase where
  | entering
  | checking
  | beating
  | leaving
  | finished
  deriving DecidableEq, Repr

/-- The lines of the service, and those of its workers.  A heartbeat goes with what its
worker's stop flag was. -/
inductive SampleEvent where
  | service (level : LogLevel) (message : String)
  | threadStarted (thread : ThreadId)
  | heartbeat (thread : ThreadId) (stopRequested : Bool)
  | threadStopped (thread : ThreadId)
  deriving DecidableEq, Repr

structure WorkerSystem where
  manager : ManagerState
  phase : ThreadId → WorkerPhase
  events : List SampleEvent

namespace WorkerSystem

def initial : WorkerSystem := ⟨initialManager, fun _ => .entering, []⟩

def logs (system : WorkerSystem) (thread : ThreadId) (phase : WorkerPhase)
    (event : SampleEvent) : WorkerSystem where
  manager := system.manager
  phase := Function.update system.phase thread phase
  events := system.events ++ [event]

def moves (system : WorkerSystem) (thread : ThreadId) (phase : WorkerPhase) : WorkerSystem where
  manager := system.manager
  phase := Function.update system.phase thread phase
  events := system.events

/-- One step of a worker.  Its sleep lasts from a heartbeat to the next look at the flag. -/
inductive WorkerMove (system : WorkerSystem) (thread : ThreadId) : WorkerSystem → Prop
  | enters (hphase : system.phase thread = .entering) (hstarted : thread < system.manager.started) :
      WorkerMove system thread (system.logs thread .checking (.threadStarted thread))
  | goesOn (hphase : system.phase thread = .checking)
      (hflag : system.manager.stopRequested thread = false) :
      WorkerMove system thread (system.moves thread .beating)
  | beats (hphase : system.phase thread = .beating) :
      WorkerMove system thread
        (system.logs thread .checking (.heartbeat thread (system.manager.stopRequested thread)))
  | stops (hphase : system.phase thread = .checking)
      (hflag : system.manager.stopRequested thread = true) :
      WorkerMove system thread (system.moves thread .leaving)
  | ends (hphase : system.phase thread = .leaving) :
      WorkerMove system thread (system.logs thread .finished (.threadStopped thread))
  | exits {manager : ManagerState} (hphase : system.phase thread = .finished)
      (hexits : ManagerStep system.manager (.exits thread) manager) :
      WorkerMove system thread { system with manager := manager }

def Moves (system next : WorkerSystem) : Prop := ∃ thread, WorkerMove system thread next

/-- A call of the manager, or a line of the service. -/
def Answer (before : WorkerSystem) : (call : SampleCall) → call.Reply → WorkerSystem → Prop
  | .log level message, _, after =>
      after = { before with events := before.events ++ [.service level message] }
  | .startThread name, outcome, after => ∃ manager spawned,
      ManagerStep before.manager (.startThread applicationThread name true spawned) manager ∧
        ReportsStart (before.manager.startThread name true spawned).1 outcome ∧
          after = { before with manager := manager }
  | .requestStop, _, after => ∃ manager,
      ManagerStep before.manager (.requestStop applicationThread) manager ∧
        after = { before with manager := manager }
  | .takeRegistry, taken, after => taken = before.manager.registry ∧ ∃ manager,
      ManagerStep before.manager (.joinAll applicationThread) manager ∧
        after = { before with manager := manager }
  | .join thread, _, after => ∃ manager,
      ManagerStep before.manager (.joins applicationThread thread) manager ∧
        after = { before with manager := manager }
  | .joinAllReturns taken, _, after => ∃ manager,
      ManagerStep before.manager (.joinAllReturns applicationThread taken) manager ∧
        after = { before with manager := manager }
  | _, _, after => after = before

/-- Before each answer the workers make any moves. -/
def Answers (before : WorkerSystem) (call : SampleCall) (reply : call.Reply)
    (after : WorkerSystem) : Prop :=
  ∃ middle, Relation.ReflTransGen Moves before middle ∧ middle.Answer call reply after

end WorkerSystem

end ElapPlatform.Service.Sample
