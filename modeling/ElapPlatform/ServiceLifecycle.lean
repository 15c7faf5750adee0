import ElapPlatform.InteractionTranscript
import ElapPlatform.ServiceApplicationModel
import ElapPlatform.TransitionRun

/-!
# The lifecycle protocol of a service

A trace interleaves the exchanges of `run` with shutdown requests, which may come
between any two of them.  The service answers as it likes; the flag does not.
-/

namespace ElapPlatform.Service

open Interaction Transition

abbrev ServiceExchange := Exchange ServiceCall ServiceCall.Reply

inductive TraceEntry where
  | request
  | answered (exchange : ServiceExchange)

abbrev Trace := List TraceEntry

def TraceEntry.exchange : TraceEntry → Option ServiceExchange
  | .request => none
  | .answered exchange => some exchange

def exchanges (trace : Trace) : List ServiceExchange := trace.filterMap TraceEntry.exchange

/-- The flag of the signal handler and the state of the application. -/
structure Application where
  requested : Bool
  state : ServiceState
  deriving DecidableEq, Repr

namespace Application

def after (application : Application) : TraceEntry → Application
  | .request => { application with requested := true }
  | .answered ⟨.clearShutdownRequest, _⟩ => { application with requested := false }
  | .answered ⟨.setState state, _⟩ => { application with state := state }
  | .answered _ => application

def afterTrace (application : Application) (trace : Trace) : Application :=
  trace.foldl after application

def Allows (application : Application) : TraceEntry → Prop
  | .answered ⟨.shutdownRequested, requested⟩ => requested = application.requested
  | _ => True

/-- Every check of the flag is answered with the flag. -/
def Produces (application : Application) (trace : Trace) : Prop :=
  Justified (fun before entry => (application.afterTrace before).Allows entry) trace

end Application

/-! ## Successive calls of `run` -/

structure RunLabel where
  serviceName : String
  argv : List String
  wakeUps : ℕ
  trace : Trace
  result : RunResult

/-- Requests that come before `run` clears the flag are at the head of its trace. -/
inductive ServiceStep : Application → RunLabel → Application → Prop
  | runs {application : Application} {label : RunLabel}
      (htranscript : Transcript (run label.serviceName label.argv label.wakeUps)
        (exchanges label.trace) label.result)
      (hproduces : application.Produces label.trace) :
      ServiceStep application label (application.afterTrace label.trace)

/-! ## The protocol -/

inductive Callback where
  | initialized (outcome : Except Thrown Bool)
  | started (outcome : Except Thrown Bool)
  | stopped (outcome : Except Thrown Unit)
  | deinitialized (outcome : Except Thrown Unit)

namespace Callback

def isInitialized : Callback → Bool
  | .initialized _ => true
  | _ => false

def isStopped : Callback → Bool
  | .stopped _ => true
  | _ => false

def isDeinitialized : Callback → Bool
  | .deinitialized _ => true
  | _ => false

end Callback

def callbackOf : ServiceExchange → Option Callback
  | ⟨.initializeService, outcome⟩ => some (.initialized outcome)
  | ⟨.startService, outcome⟩ => some (.started outcome)
  | ⟨.stopService, outcome⟩ => some (.stopped outcome)
  | ⟨.deinitializeService, outcome⟩ => some (.deinitialized outcome)
  | _ => none

def stateOf : ServiceExchange → Option ServiceState
  | ⟨.setState state, _⟩ => some state
  | _ => none

def callbacks (exchanges : List ServiceExchange) : List Callback := exchanges.filterMap callbackOf

def states (exchanges : List ServiceExchange) : List ServiceState := exchanges.filterMap stateOf

def RunResult.Finished (result : RunResult) : Prop := result ≠ .stillWaiting

/-- Each of the four callbacks ran and succeeded. -/
def AllSucceeded (ran : List Callback) : Prop :=
  .initialized (.ok true) ∈ ran ∧ .started (.ok true) ∈ ran ∧ .stopped (.ok ()) ∈ ran ∧
    .deinitialized (.ok ()) ∈ ran

/-- What the service sees of a run. -/
structure CallbacksKept (result : RunResult) (ran : List Callback) : Prop where
  initializedAtMostOnce : ran.countP Callback.isInitialized ≤ 1
  startedAfterInitialize : ∀ before outcome after, ran = before ++ .started outcome :: after →
    .initialized (.ok true) ∈ before
  stoppedAfterStart : ∀ before outcome after, ran = before ++ .stopped outcome :: after →
    .started (.ok true) ∈ before
  stoppedOnce : result.Finished → .started (.ok true) ∈ ran → ran.countP Callback.isStopped = 1
  deinitializedLast : ∀ before outcome after, ran = before ++ .deinitialized outcome :: after →
    after = [] ∧ ∃ succeeded, .initialized (.ok succeeded) ∈ before
  deinitializedOnce : result.Finished → ∀ succeeded, .initialized (.ok succeeded) ∈ ran →
    ran.countP Callback.isDeinitialized = 1
  contained : ∀ thrown, result = .escaped thrown → ran = []
  zero_iff : result = .returned 0 ↔ AllSucceeded ran

def documentedPath : List ServiceState :=
  [.initializing, .initialized, .starting, .running, .stopping, .stopped]

/-- The path may be left for `Failed` before its end. -/
def FollowsPath (visited : List ServiceState) : Prop :=
  visited <+: documentedPath ∨
    ∃ passed, passed <+: documentedPath ∧ passed ≠ documentedPath ∧ visited = passed ++ [.failed]

structure FinalState (result : RunResult) (state : ServiceState) : Prop where
  stopped_iff : state = .stopped ↔ result = .returned 0
  failed : result ≠ .returned 0 → state = .failed

def TraceEntry.clears : TraceEntry := .answered ⟨.clearShutdownRequest, ()⟩

def TraceEntry.checks (requested : Bool) : TraceEntry := .answered ⟨.shutdownRequested, requested⟩

/-- The flag is honoured: no stop without a request since it was cleared, and no request
since then is missed.  Every later check sees it, at most the wait that was just about to
begin still begins, and nothing is asked after it by a run that waits on. -/
structure RequestsKept (result : RunResult) (trace : Trace) : Prop where
  stopRequested : ∀ before outcome after,
    trace = before ++ .answered ⟨.stopService, outcome⟩ :: after →
      ∃ cleared middle checked, before = cleared ++ .request :: middle ++
        .checks true :: checked ∧ .clears ∈ cleared
  notLost : ∀ before after, trace = before ++ .request :: after → .clears ∈ before →
    (∀ requested, .checks requested ∈ after → requested = true) ∧
      (∀ timedOut, ⟨.waitFor, timedOut⟩ ∉ (exchanges after).tail) ∧
        (result = .stillWaiting → exchanges after = [])

def isWait : ServiceExchange → Bool
  | ⟨.waitFor, _⟩ => true
  | _ => false

structure LifecycleKept (label : RunLabel) (final : Application) : Prop where
  callbacks : CallbacksKept label.result (callbacks (exchanges label.trace))
  path : FollowsPath (states (exchanges label.trace))
  finalState : label.result.Finished → FinalState label.result final.state
  requests : RequestsKept label.result label.trace
  /-- A run waits on only until it has used its wake-ups. -/
  waits : label.result = .stillWaiting → (exchanges label.trace).countP isWait = label.wakeUps

end ElapPlatform.Service
