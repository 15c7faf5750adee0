import ElapPlatform.ConfigurationBackends

/-!
# The service application

`ServiceApplication::run` with everything it asks of its surroundings: the files of
its configuration, the signal handlers, the four callbacks of the service and the
shutdown flag.  The two `catch` clauses of a callback differ in their log line only.
-/

namespace ElapPlatform.Service

open Config Interaction Interaction.Program

inductive ServiceState where
  | created
  | initializing
  | initialized
  | starting
  | running
  | stopping
  | stopped
  | failed
  deriving DecidableEq, Repr

/-- A `std::exception`, or anything else that is thrown. -/
inductive Thrown where
  | exception (what : String)
  | unknown
  deriving DecidableEq, Repr

inductive Signal where
  | SIGINT
  | SIGTERM
  deriving DecidableEq, Repr

inductive ServiceCall where
  | clearShutdownRequest
  /-- `std::filesystem::exists`, which throws if it cannot tell. -/
  | pathExists (path : String)
  | openFile (path : String)
  | sigaction (signal : Signal)
  | setState (state : ServiceState)
  | initializeService
  | startService
  | stopService
  | deinitializeService
  | shutdownRequested
  /-- `shutdownCv_.wait_for` without a predicate; the reply says whether it timed out. -/
  | waitFor
  deriving DecidableEq, Repr

abbrev ServiceCall.Reply : ServiceCall → Type
  | .clearShutdownRequest => Unit
  | .pathExists _ => Except Thrown Bool
  | .openFile _ => Option FileStream
  | .sigaction _ => Bool
  | .setState _ => Unit
  | .initializeService => Except Thrown Bool
  | .startService => Except Thrown Bool
  | .stopService => Except Thrown Unit
  | .deinitializeService => Except Thrown Unit
  | .shutdownRequested => Bool
  | .waitFor => Bool

abbrev ServiceProgram (α : Type) := Program ServiceCall ServiceCall.Reply α

section Calls

def clearShutdownRequest : ServiceProgram Unit := .ask ServiceCall.clearShutdownRequest .done

def pathExists (path : String) : ServiceProgram (Except Thrown Bool) :=
  .ask (ServiceCall.pathExists path) .done

def openFile (path : String) : ServiceProgram (Option FileStream) :=
  .ask (ServiceCall.openFile path) .done

def sigaction (signal : Signal) : ServiceProgram Bool := .ask (ServiceCall.sigaction signal) .done

def setState (state : ServiceState) : ServiceProgram Unit :=
  .ask (ServiceCall.setState state) .done

def initializeService : ServiceProgram (Except Thrown Bool) :=
  .ask ServiceCall.initializeService .done

def startService : ServiceProgram (Except Thrown Bool) := .ask ServiceCall.startService .done

def stopService : ServiceProgram (Except Thrown Unit) := .ask ServiceCall.stopService .done

def deinitializeService : ServiceProgram (Except Thrown Unit) :=
  .ask ServiceCall.deinitializeService .done

def shutdownRequested : ServiceProgram Bool := .ask ServiceCall.shutdownRequested .done

def waitFor : ServiceProgram Bool := .ask ServiceCall.waitFor .done

end Calls

/-! ## Configuration and signals -/

structure ConfigSelection where
  path : String
  explicitPath : Bool
  deriving DecidableEq, Repr

/-- The loop over the arguments behind the name of the program. -/
def explicitConfigPath : List String → Option String
  | "--config" :: path :: _ => some path
  | _ :: arguments => explicitConfigPath arguments
  | [] => none

def selectConfigPath (argv : List String) (serviceName : String) :
    ServiceProgram (Except Thrown ConfigSelection) := do
  match explicitConfigPath argv.tail with
  | some path => return .ok ⟨path, true⟩
  | none =>
    let localPath := "./config/" ++ serviceName ++ ".conf"
    match ← pathExists localPath with
    | .error thrown => return .error thrown
    | .ok true => return .ok ⟨localPath, false⟩
    | .ok false => return .ok ⟨"/etc/elap/" ++ serviceName ++ ".conf", false⟩

/-- `SignalHandler::install` -/
def install : ServiceProgram Bool := do
  if !(← sigaction .SIGINT) then return false
  sigaction .SIGTERM

/-! ## Waiting for a shutdown request -/

/-- `wait_for` with a predicate.  It is done after a request or at its timeout, and
`none` says that it has used up the wake-ups. -/
def waitForRequest : ℕ → ServiceProgram (Option ℕ)
  | 0 => do
      if ← shutdownRequested then return some 0
      return none
  | wakeUps + 1 => do
      if ← shutdownRequested then return some (wakeUps + 1)
      if ← waitFor then
        let _ ← shutdownRequested
        return some wakeUps
      else waitForRequest wakeUps

/-- The loop after it. -/
def waitUntilRequested : ℕ → ServiceProgram Bool
  | 0 => shutdownRequested
  | wakeUps + 1 => do
      if ← shutdownRequested then return true
      let _ ← waitFor
      waitUntilRequested wakeUps

def awaitShutdown (wakeUps : ℕ) : ServiceProgram Bool := do
  match ← waitForRequest wakeUps with
  | none => return false
  | some wakeUps => waitUntilRequested wakeUps

/-! ## `run` -/

/-- `run` returns a code, is left by an exception, or has not returned after the
wake-ups that it was given. -/
inductive RunResult where
  | returned (code : ℕ)
  | escaped (thrown : Thrown)
  | stillWaiting
  deriving DecidableEq, Repr

def failWith (code : ℕ) : ServiceProgram RunResult := do
  setState .failed
  return .returned code

/-- The exits that clean up first; what the cleanup throws is logged. -/
def cleanUpAndFail (code : ℕ) : ServiceProgram RunResult := do
  let _ ← deinitializeService
  failWith code

def runStopping : ServiceProgram RunResult := do
  setState .stopping
  match ← stopService with
  | .error _ => cleanUpAndFail 6
  | .ok () =>
    match ← deinitializeService with
    | .error _ => failWith 7
    | .ok () =>
      setState .stopped
      return .returned 0

def runStarting (wakeUps : ℕ) : ServiceProgram RunResult := do
  setState .initialized
  setState .starting
  match ← startService with
  | .error _ => cleanUpAndFail 5
  | .ok false => cleanUpAndFail 5
  | .ok true =>
    setState .running
    if ← awaitShutdown wakeUps then runStopping
    else return .stillWaiting

def runInitializing (wakeUps : ℕ) : ServiceProgram RunResult := do
  setState .initializing
  match ← initializeService with
  | .error _ => failWith 4
  | .ok false => cleanUpAndFail 4
  | .ok true => runStarting wakeUps

/-- `run` behind the choice of the configuration file. -/
def runSelected (configSelection : ConfigSelection) (wakeUps : ℕ) :
    ServiceProgram RunResult := do
  let file ← openFile configSelection.path
  let loaded := KeyValueConfiguration.loadFromFile ⟨fun _ => none⟩ configSelection.path file
  if loaded.error.isSome && configSelection.explicitPath then failWith 2
  else if !(← install) then failWith 3
  else runInitializing wakeUps

def run (serviceName : String) (argv : List String) (wakeUps : ℕ) :
    ServiceProgram RunResult := do
  clearShutdownRequest
  match ← selectConfigPath argv serviceName with
  | .error thrown => return .escaped thrown
  | .ok configSelection => runSelected configSelection wakeUps

end ElapPlatform.Service
