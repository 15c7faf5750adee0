import ElapPlatform.InteractionProgram
import ElapPlatform.PlatformBasics
import ElapPlatform.TransitionRun

/-!
# The thread manager and its callers

Each section that holds the mutex is one step.  `joinAll` is several: it swaps
the registry into a local list, and then joins or detaches one thread of that
list at a time without the mutex.  Threads are numbered in the order in which
they are started.
-/

namespace ElapPlatform.Threading

open Transition

abbrev ThreadId := ℕ

/-- A thread that calls the manager: one of its workers, or any other. -/
inductive Caller where
  | external (number : ℕ)
  | managed (thread : ThreadId)
  deriving DecidableEq, Repr

/-- An entry of `threads_`.  Its stop flag and its `std::thread`, which is
joinable from the start, are made together and go by one number. -/
structure ManagedThread where
  name : Bytes
  thread : ThreadId
  deriving DecidableEq, Repr

/-- A `joinAll` that has swapped the registry: what it took, and what is left. -/
structure JoinCall where
  caller : Caller
  taken : List ManagedThread
  pending : List ManagedThread
  deriving DecidableEq, Repr

structure ManagerState where
  registry : List ManagedThread
  stopRequested : ThreadId → Bool
  started : ℕ
  exited : List ThreadId
  joins : List JoinCall
  joined : List ThreadId
  detached : List ThreadId

def initialManager : ManagerState := ⟨[], fun _ => false, 0, [], [], [], []⟩

inductive StartResult where
  | refused
  | threw
  | started
  deriving DecidableEq, Repr

namespace ManagerState

/-- `spawned` says whether the constructor of `std::thread` succeeds. -/
def startThread (state : ManagerState) (name : Bytes) (hasWorker spawned : Bool) :
    StartResult × ManagerState :=
  if !hasWorker then (.refused, state)
  else if state.registry.any (·.name = name) then (.refused, state)
  else if !spawned then (.threw, state)
  else
    (.started, { state with
      registry := state.registry ++ [⟨name, state.started⟩]
      started := state.started + 1 })

def requestStop (state : ManagerState) : ManagerState :=
  { state with
    stopRequested := fun thread =>
      state.stopRequested thread || state.registry.any (·.thread = thread) }

/-- The first half of `joinAll`. -/
def takeRegistry (state : ManagerState) (caller : Caller) : ManagerState :=
  { state with
    registry := []
    joins := state.joins ++ [⟨caller, state.registry, state.registry⟩] }

def Running (state : ManagerState) : Caller → Prop
  | .external _ => True
  | .managed thread => thread < state.started ∧ thread ∉ state.exited

instance (state : ManagerState) (caller : Caller) : Decidable (state.Running caller) :=
  match caller with
  | .external _ => inferInstanceAs (Decidable True)
  | .managed thread =>
      inferInstanceAs (Decidable (thread < state.started ∧ thread ∉ state.exited))

/-- A caller is running and not inside a `joinAll` of its own. -/
def CanCall (state : ManagerState) (caller : Caller) : Prop :=
  state.Running caller ∧ ∀ call ∈ state.joins, call.caller ≠ caller

instance (state : ManagerState) (caller : Caller) : Decidable (state.CanCall caller) :=
  inferInstanceAs
    (Decidable (state.Running caller ∧ ∀ call ∈ state.joins, call.caller ≠ caller))

end ManagerState

inductive ManagerLabel where
  | startThread (caller : Caller) (name : Bytes) (hasWorker spawned : Bool)
  | requestStop (caller : Caller)
  | joinAll (caller : Caller)
  | joins (caller : Caller) (thread : ThreadId)
  | detaches (caller : Caller) (thread : ThreadId)
  | joinAllReturns (caller : Caller) (taken : List ManagedThread)
  | exits (thread : ThreadId)
  deriving DecidableEq, Repr

inductive ManagerStep : ManagerState → ManagerLabel → ManagerState → Prop
  | startThread {state : ManagerState} {caller : Caller} {name : Bytes}
      {hasWorker spawned : Bool} (hcaller : state.CanCall caller) :
      ManagerStep state (.startThread caller name hasWorker spawned)
        (state.startThread name hasWorker spawned).2
  | requestStop {state : ManagerState} {caller : Caller} (hcaller : state.CanCall caller) :
      ManagerStep state (.requestStop caller) state.requestStop
  | joinAll {state : ManagerState} {caller : Caller} (hcaller : state.CanCall caller) :
      ManagerStep state (.joinAll caller) (state.takeRegistry caller)
  | joins {state : ManagerState} {caller : Caller} {before after : List JoinCall}
      {taken pending : List ManagedThread} {managed : ManagedThread}
      (hjoins : state.joins = before ++ ⟨caller, taken, managed :: pending⟩ :: after)
      (hother : caller ≠ .managed managed.thread)
      (hexited : managed.thread ∈ state.exited) :
      ManagerStep state (.joins caller managed.thread)
        { state with
          joins := before ++ ⟨caller, taken, pending⟩ :: after
          joined := state.joined ++ [managed.thread] }
  | detaches {state : ManagerState} {before after : List JoinCall}
      {taken pending : List ManagedThread} {managed : ManagedThread}
      (hjoins : state.joins =
        before ++ ⟨.managed managed.thread, taken, managed :: pending⟩ :: after) :
      ManagerStep state (.detaches (.managed managed.thread) managed.thread)
        { state with
          joins := before ++ ⟨.managed managed.thread, taken, pending⟩ :: after
          detached := state.detached ++ [managed.thread] }
  | joinAllReturns {state : ManagerState} {caller : Caller} {before after : List JoinCall}
      {taken : List ManagedThread}
      (hjoins : state.joins = before ++ ⟨caller, taken, []⟩ :: after) :
      ManagerStep state (.joinAllReturns caller taken)
        { state with joins := before ++ after }
  | exits {state : ManagerState} {thread : ThreadId} (hstarted : thread < state.started)
      (hrunning : thread ∉ state.exited)
      (hfree : ∀ call ∈ state.joins, call.caller ≠ .managed thread) :
      ManagerStep state (.exits thread)
        { state with exited := state.exited ++ [thread] }

abbrev ManagerHistory := History ManagerState ManagerLabel

/-- A start leaves the manager alone or adds one entry under a new name. -/
theorem startThread_cases (state : ManagerState) (name : Bytes) (hasWorker spawned : Bool) :
    (state.startThread name hasWorker spawned).2 = state ∨
      (hasWorker = true ∧ spawned = true ∧ ∀ managed ∈ state.registry, managed.name ≠ name) ∧
        (state.startThread name hasWorker spawned).2 =
          { state with
            registry := state.registry ++ [⟨name, state.started⟩]
            started := state.started + 1 } := by
  unfold ManagerState.startThread
  cases hasWorker with
  | false => exact .inl rfl
  | true =>
      by_cases hname : state.registry.any (·.name = name)
      · simp [hname]
      · cases spawned with
        | false => simp [hname]
        | true =>
            right
            have hfresh : ∀ managed ∈ state.registry, managed.name ≠ name := by
              intro managed hmem hsame
              exact hname (List.any_eq_true.mpr ⟨managed, hmem, decide_eq_true hsame⟩)
            refine ⟨⟨rfl, rfl, hfresh⟩, ?_⟩
            simp [hname]

section StartFrame

variable (state : ManagerState) (name : Bytes) (hasWorker spawned : Bool)

@[simp] theorem startThread_stopRequested :
    (state.startThread name hasWorker spawned).2.stopRequested = state.stopRequested := by
  rcases startThread_cases state name hasWorker spawned with hnext | ⟨_, hnext⟩ <;> rw [hnext]

@[simp] theorem startThread_exited :
    (state.startThread name hasWorker spawned).2.exited = state.exited := by
  rcases startThread_cases state name hasWorker spawned with hnext | ⟨_, hnext⟩ <;> rw [hnext]

@[simp] theorem startThread_joins :
    (state.startThread name hasWorker spawned).2.joins = state.joins := by
  rcases startThread_cases state name hasWorker spawned with hnext | ⟨_, hnext⟩ <;> rw [hnext]

@[simp] theorem startThread_joined :
    (state.startThread name hasWorker spawned).2.joined = state.joined := by
  rcases startThread_cases state name hasWorker spawned with hnext | ⟨_, hnext⟩ <;> rw [hnext]

@[simp] theorem startThread_detached :
    (state.startThread name hasWorker spawned).2.detached = state.detached := by
  rcases startThread_cases state name hasWorker spawned with hnext | ⟨_, hnext⟩ <;> rw [hnext]

end StartFrame

/-! ## `joinAll` as a program -/

namespace ThreadManager

open Interaction

variable {Question : Type} {Reply : Question → Type}

/-- The loop over the threads that were taken, on a thread that is none of them. -/
def joinThreads (join : ThreadId → Program Question Reply Unit) :
    List ManagedThread → Program Question Reply Unit
  | [] => return ()
  | managed :: rest => do
    join managed.thread
    joinThreads join rest

/-- `joinAll`, over what a program asks for its parts. -/
def joinAll (takeRegistry : Program Question Reply (List ManagedThread))
    (join : ThreadId → Program Question Reply Unit)
    (joinAllReturns : List ManagedThread → Program Question Reply Unit) :
    Program Question Reply Unit := do
  let threads ← takeRegistry
  joinThreads join threads
  joinAllReturns threads

end ThreadManager

end ElapPlatform.Threading
