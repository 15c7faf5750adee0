import ElapPlatform.ThreadManagerModel

/-!
# No managed thread is lost or joined twice

Every started thread is at every moment in the registry, in the local list of
one `joinAll`, joined, or detached, and in one of these places only.
-/

namespace ElapPlatform.Threading

open Transition

def pendingThreads (joins : List JoinCall) : List ThreadId :=
  joins.flatMap fun call => call.pending.map ManagedThread.thread

/-- The threads in the four places, in a row. -/
def ManagerState.places (state : ManagerState) : List ThreadId :=
  state.registry.map ManagedThread.thread ++ pendingThreads state.joins ++
    state.joined ++ state.detached

@[simp] theorem pendingThreads_append (before after : List JoinCall) :
    pendingThreads (before ++ after) = pendingThreads before ++ pendingThreads after := by
  unfold pendingThreads
  rw [List.flatMap_append]

@[simp] theorem pendingThreads_cons (call : JoinCall) (joins : List JoinCall) :
    pendingThreads (call :: joins) =
      call.pending.map ManagedThread.thread ++ pendingThreads joins := by
  unfold pendingThreads
  rw [List.flatMap_cons]

@[simp] theorem pendingThreads_nil : pendingThreads [] = [] := rfl

structure ManagerInvariant (history : ManagerHistory) (state : ManagerState) : Prop where
  places : state.places.Perm (List.range state.started)
  names : (state.registry.map ManagedThread.name).Nodup
  joinedExited : ∀ thread ∈ state.joined, thread ∈ state.exited
  exitedStarted : ∀ thread ∈ state.exited, thread < state.started
  takenBy : ∀ call ∈ state.joins, ∃ before, (before, .joinAll call.caller) ∈ history
  detachedBy : ∀ thread ∈ state.detached,
    ∃ before, (before, .joinAll (.managed thread)) ∈ history
  taken : ∀ call ∈ state.joins, ∀ managed ∈ call.taken,
    managed ∈ call.pending ∨ call.caller = .managed managed.thread ∨
      managed.thread ∈ state.exited

theorem initial_managerInvariant : ManagerInvariant [] initialManager := by
  constructor <;> simp [initialManager, ManagerState.places]

/-- The places of a step: a new thread arrives in the registry, and a known one
moves on. -/
theorem ManagerStep.places {state next : ManagerState} {label : ManagerLabel}
    (hstep : ManagerStep state label next)
    (hplaces : state.places.Perm (List.range state.started)) :
    next.places.Perm (List.range next.started) := by
  rw [List.perm_iff_count] at hplaces ⊢
  intro thread
  have hcount := hplaces thread
  unfold ManagerState.places at hcount ⊢
  cases hstep with
  | @startThread caller name hasWorker spawned hcaller =>
      rcases startThread_cases state name hasWorker spawned with hsame | ⟨_, hnew⟩
      · rw [hsame]
        exact hcount
      · rw [hnew]
        simp only [List.map_append, List.map_cons, List.map_nil, List.count_append,
          List.range_succ] at hcount ⊢
        omega
  | requestStop => exact hcount
  | joinAll =>
      simp only [ManagerState.takeRegistry, pendingThreads_append, pendingThreads_cons,
        pendingThreads_nil, List.map_nil, List.count_append, List.count_nil] at hcount ⊢
      omega
  | joins hjoins =>
      rw [hjoins] at hcount
      simp only [pendingThreads_append, pendingThreads_cons, List.map_cons, List.count_append,
        List.count_cons, List.count_nil] at hcount ⊢
      omega
  | detaches hjoins =>
      rw [hjoins] at hcount
      simp only [pendingThreads_append, pendingThreads_cons, List.map_cons, List.count_append,
        List.count_cons, List.count_nil] at hcount ⊢
      omega
  | joinAllReturns hjoins =>
      rw [hjoins] at hcount
      simp only [pendingThreads_append, pendingThreads_cons, List.map_nil, List.nil_append]
        at hcount ⊢
      exact hcount
  | exits => exact hcount

/-! ## What a step does to each field -/

section Step

variable {state next : ManagerState} {label : ManagerLabel}

theorem ManagerStep.names (hstep : ManagerStep state label next)
    (hnames : (state.registry.map ManagedThread.name).Nodup) :
    (next.registry.map ManagedThread.name).Nodup := by
  cases hstep with
  | @startThread caller name hasWorker spawned hcaller =>
      rcases startThread_cases state name hasWorker spawned with
        hsame | ⟨⟨_, _, hfresh⟩, hnew⟩
      · rw [hsame]
        exact hnames
      · rw [hnew]
        simp only [List.map_append, List.map_cons, List.map_nil]
        rw [← List.concat_eq_append]
        apply List.Nodup.concat _ hnames
        intro hmem
        obtain ⟨managed, hmanaged, hname⟩ := List.mem_map.mp hmem
        exact hfresh managed hmanaged hname
  | joinAll => exact List.nodup_nil
  | _ => exact hnames

theorem ManagerStep.exited_mono (hstep : ManagerStep state label next) {thread : ThreadId}
    (hexited : thread ∈ state.exited) : thread ∈ next.exited := by
  cases hstep with
  | startThread =>
      rw [startThread_exited]
      exact hexited
  | exits => exact List.mem_append_left _ hexited
  | _ => exact hexited

theorem ManagerStep.started_mono (hstep : ManagerStep state label next) :
    state.started ≤ next.started := by
  cases hstep with
  | @startThread caller name hasWorker spawned hcaller =>
      rcases startThread_cases state name hasWorker spawned with hsame | ⟨_, hnew⟩
      · rw [hsame]
      · rw [hnew]
        exact Nat.le_succ _
  | _ => exact Nat.le_refl _

theorem ManagerStep.exited_cases (hstep : ManagerStep state label next) {thread : ThreadId}
    (hexited : thread ∈ next.exited) : thread ∈ state.exited ∨ thread < state.started := by
  cases hstep with
  | startThread =>
      rw [startThread_exited] at hexited
      exact .inl hexited
  | exits hstarted =>
      rw [List.mem_append, List.mem_singleton] at hexited
      rcases hexited with hexited | rfl
      · exact .inl hexited
      · exact .inr hstarted
  | _ => exact .inl hexited

/-- A thread is joined only after it has exited. -/
theorem ManagerStep.joined_cases (hstep : ManagerStep state label next) {thread : ThreadId}
    (hjoined : thread ∈ next.joined) : thread ∈ state.joined ∨ thread ∈ state.exited := by
  cases hstep with
  | startThread =>
      rw [startThread_joined] at hjoined
      exact .inl hjoined
  | joins hjoins hother hexited =>
      rw [List.mem_append, List.mem_singleton] at hjoined
      rcases hjoined with hjoined | rfl
      · exact .inl hjoined
      · exact .inr hexited
  | _ => exact .inl hjoined

/-- A thread is detached only by a `joinAll` that it makes itself. -/
theorem ManagerStep.detached_cases (hstep : ManagerStep state label next) {thread : ThreadId}
    (hdetached : thread ∈ next.detached) :
    thread ∈ state.detached ∨ ∃ call ∈ state.joins, call.caller = .managed thread := by
  cases hstep with
  | startThread =>
      rw [startThread_detached] at hdetached
      exact .inl hdetached
  | @detaches before after taken pending managed hjoins =>
      rw [List.mem_append, List.mem_singleton] at hdetached
      rcases hdetached with hdetached | rfl
      · exact .inl hdetached
      · right
        refine ⟨⟨.managed managed.thread, taken, managed :: pending⟩, ?_, rfl⟩
        rw [hjoins]
        exact List.mem_append_right _ List.mem_cons_self
  | _ => exact .inl hdetached

/-- The call was in progress, and has handled its threads: joined those that have exited, or
detached the one it runs on. -/
def ManagerState.Continues (state : ManagerState) (old call : JoinCall) : Prop :=
  old.caller = call.caller ∧ old.taken = call.taken ∧
    ∀ managed ∈ old.pending, managed ∈ call.pending ∨
      call.caller = .managed managed.thread ∨ managed.thread ∈ state.exited

theorem ManagerState.continues_refl (state : ManagerState) (call : JoinCall) :
    state.Continues call call :=
  ⟨rfl, rfl, fun _ hpending => .inl hpending⟩

theorem ManagerState.continues_of_handled {caller : Caller} {before after : List JoinCall}
    {taken pending : List ManagedThread} {managed : ManagedThread}
    (hjoins : state.joins = before ++ ⟨caller, taken, managed :: pending⟩ :: after)
    (hhandled : caller = .managed managed.thread ∨ managed.thread ∈ state.exited)
    {call : JoinCall} (hcall : call ∈ before ++ ⟨caller, taken, pending⟩ :: after) :
    ∃ old ∈ state.joins, state.Continues old call := by
  rw [hjoins]
  rw [List.mem_append, List.mem_cons] at hcall
  rcases hcall with hcall | rfl | hcall
  · exact ⟨call, List.mem_append_left _ hcall, state.continues_refl call⟩
  · refine ⟨⟨caller, taken, managed :: pending⟩, List.mem_append_right _ List.mem_cons_self, rfl,
      rfl, fun other hmem => ?_⟩
    rcases List.mem_cons.mp hmem with rfl | hpending
    · exact .inr hhandled
    · exact .inl hpending
  · exact ⟨call, List.mem_append_right _ (List.mem_cons_of_mem _ hcall),
      state.continues_refl call⟩

/-- A call in progress has just begun, or it was in progress and has handled at
most one thread of its list. -/
theorem ManagerStep.joins_cases (hstep : ManagerStep state label next) {call : JoinCall}
    (hcall : call ∈ next.joins) :
    (label = .joinAll call.caller ∧ call.pending = call.taken) ∨
      ∃ old ∈ state.joins, state.Continues old call := by
  have hunchanged : call ∈ state.joins → ∃ old ∈ state.joins, state.Continues old call :=
    fun hmem => ⟨call, hmem, state.continues_refl call⟩
  cases hstep with
  | startThread =>
      rw [startThread_joins] at hcall
      exact .inr (hunchanged hcall)
  | requestStop => exact .inr (hunchanged hcall)
  | joinAll =>
      unfold ManagerState.takeRegistry at hcall
      rw [List.mem_append, List.mem_singleton] at hcall
      rcases hcall with hcall | rfl
      · exact .inr (hunchanged hcall)
      · exact .inl ⟨rfl, rfl⟩
  | joins hjoins _ hexited =>
      exact .inr (ManagerState.continues_of_handled hjoins (.inr hexited) hcall)
  | detaches hjoins => exact .inr (ManagerState.continues_of_handled hjoins (.inl rfl) hcall)
  | joinAllReturns hjoins =>
      right
      refine hunchanged ?_
      rw [hjoins]
      rw [List.mem_append] at hcall
      rcases hcall with hcall | hcall
      · exact List.mem_append_left _ hcall
      · exact List.mem_append_right _ (List.mem_cons_of_mem _ hcall)
  | exits => exact .inr (hunchanged hcall)

end Step

/-! ## The invariant along a run -/

theorem ManagerInvariant.step {history : ManagerHistory} {state next : ManagerState}
    {label : ManagerLabel} (hinvariant : ManagerInvariant history state)
    (hstep : ManagerStep state label next) :
    ManagerInvariant (history ++ [(state, label)]) next := by
  have hkeep : ∀ {entry}, entry ∈ history → entry ∈ history ++ [(state, label)] :=
    fun hmem => List.mem_append_left _ hmem
  constructor
  · exact hstep.places hinvariant.places
  · exact hstep.names hinvariant.names
  · intro thread hjoined
    rcases hstep.joined_cases hjoined with hold | hexited
    · exact hstep.exited_mono (hinvariant.joinedExited thread hold)
    · exact hstep.exited_mono hexited
  · intro thread hexited
    rcases hstep.exited_cases hexited with hold | hstarted
    · exact Nat.lt_of_lt_of_le (hinvariant.exitedStarted thread hold) hstep.started_mono
    · exact Nat.lt_of_lt_of_le hstarted hstep.started_mono
  · intro call hcall
    rcases hstep.joins_cases hcall with ⟨rfl, _⟩ | ⟨old, hold, hcaller, _⟩
    · exact ⟨state, List.mem_append_right _ (List.mem_singleton_self _)⟩
    · obtain ⟨before, hmem⟩ := hinvariant.takenBy old hold
      exact ⟨before, hkeep (hcaller ▸ hmem)⟩
  · intro thread hdetached
    rcases hstep.detached_cases hdetached with hold | ⟨call, hcall, hcaller⟩
    · obtain ⟨before, hmem⟩ := hinvariant.detachedBy thread hold
      exact ⟨before, hkeep hmem⟩
    · obtain ⟨before, hmem⟩ := hinvariant.takenBy call hcall
      exact ⟨before, hkeep (hcaller ▸ hmem)⟩
  · intro call hcall managed hmanaged
    rcases hstep.joins_cases hcall with ⟨_, hpending⟩ | ⟨old, hold, hcaller, htaken, hleft⟩
    · exact .inl (hpending ▸ hmanaged)
    · rw [← htaken] at hmanaged
      rcases hinvariant.taken old hold managed hmanaged with hpending | hown | hexited
      · rcases hleft managed hpending with hstill | hown | hexited
        · exact .inl hstill
        · exact .inr (.inl hown)
        · exact .inr (.inr (hstep.exited_mono hexited))
      · exact .inr (.inl (hcaller ▸ hown))
      · exact .inr (.inr (hstep.exited_mono hexited))

theorem run_managerInvariant {history : ManagerHistory} {state : ManagerState}
    (hrun : Run ManagerStep initialManager history state) : ManagerInvariant history state :=
  hrun.invariant ManagerInvariant initial_managerInvariant
    fun _ hinvariant hstep => hinvariant.step hstep

/-- Where every started thread is, and what a returned `joinAll` leaves. -/
structure ThreadsAccountedFor (history : ManagerHistory) (state : ManagerState) : Prop where
  places : (state.registry.map ManagedThread.thread ++
      (state.joins.flatMap fun call => call.pending.map ManagedThread.thread) ++
      state.joined ++ state.detached).Perm (List.range state.started)
  names : (state.registry.map ManagedThread.name).Nodup
  detached : ∀ thread ∈ state.detached,
    ∃ before, (before, .joinAll (.managed thread)) ∈ history
  returned : ∀ before caller taken, (before, .joinAllReturns caller taken) ∈ history →
    ∀ managed ∈ taken, caller ≠ .managed managed.thread → managed.thread ∈ before.exited

theorem run_threadsAccountedFor {history : ManagerHistory} {state : ManagerState}
    (hrun : Run ManagerStep initialManager history state) :
    ThreadsAccountedFor history state := by
  have hinvariant := run_managerInvariant hrun
  constructor
  · exact hinvariant.places
  · exact hinvariant.names
  · exact hinvariant.detachedBy
  · intro before caller taken hmem managed hmanaged hother
    obtain ⟨earlier, next, hearlier, hstep, _⟩ := hrun.step_of_mem hmem
    cases hstep with
    | joinAllReturns hjoins =>
        have hcall : (⟨caller, taken, []⟩ : JoinCall) ∈ before.joins := by
          rw [hjoins]
          exact List.mem_append_right _ List.mem_cons_self
        rcases (run_managerInvariant hearlier).taken _ hcall managed hmanaged with
          hpending | hown | hexited
        · cases hpending
        · exact absurd hown hother
        · exact hexited

def workerA : ManagedThread := ⟨[97], 0⟩
def workerB : ManagedThread := ⟨[98], 1⟩

/-- Worker 0 joins its own manager while the name it was started under is used
again. -/
theorem self_join_run :
    ∃ history state, Run ManagerStep initialManager history state ∧
      state.registry = [⟨[97], 2⟩] ∧ state.joined = [1] ∧ state.detached = [0] ∧
      (history.map Prod.snd).getLast? =
        some (.joinAllReturns (.managed 0) [workerA, workerB]) := by
  have hstart : Run ManagerStep initialManager [] _ := .start
  have hfirst := hstart.andThen (.startThread (.external 0) [97] true true)
    (.startThread (by decide))
  have hsecond := hfirst.andThen (.startThread (.external 0) [98] true true)
    (.startThread (by decide))
  have hjoinAll := hsecond.andThen (.joinAll (.managed 0)) (.joinAll (by decide))
  have hagain := hjoinAll.andThen (.startThread (.external 0) [97] true true)
    (.startThread (by decide))
  have hdetached := hagain.snoc
    (@ManagerStep.detaches _ [] [] [workerA, workerB] [workerB] workerA rfl)
  have hexited := hdetached.andThen (.exits 1) (.exits (by decide) (by decide) (by decide))
  have hjoined := hexited.snoc
    (@ManagerStep.joins _ (.managed 0) [] [] [workerA, workerB] [] workerB rfl
      (by decide) (by decide))
  have hreturned := hjoined.snoc
    (@ManagerStep.joinAllReturns _ (.managed 0) [] [] [workerA, workerB] rfl)
  exact ⟨_, _, hreturned, by decide, by decide, by decide, by decide⟩

theorem self_join_accountedFor :
    ∃ history state, state.registry = [⟨[97], 2⟩] ∧ state.joined = [1] ∧
      state.detached = [0] ∧ ThreadsAccountedFor history state := by
  obtain ⟨history, state, hrun, hregistry, hjoined, hdetached, _⟩ := self_join_run
  exact ⟨history, state, hregistry, hjoined, hdetached, run_threadsAccountedFor hrun⟩

end ElapPlatform.Threading
