import ElapPlatform.ThreadManagerConservation

/-!
# Which threads a stop request reaches

`requestStop` sets the flags of the threads in the registry.  A thread that
`joinAll` has taken out of the registry keeps the flag it had.
-/

namespace ElapPlatform.Threading

open Transition

/-- The threads that some `joinAll` took and has not joined. -/
def ManagerState.takenThreads (state : ManagerState) : List ThreadId :=
  pendingThreads state.joins ++ state.detached

/-- Every thread that a `joinAll` took has exited, or its stop flag was set
before. -/
def ManagerState.TakenThreadsStopped (state : ManagerState) : Prop :=
  ∀ thread ∈ state.takenThreads, thread ∉ state.exited → state.stopRequested thread = true

instance (state : ManagerState) : Decidable state.TakenThreadsStopped :=
  inferInstanceAs (Decidable (∀ thread ∈ state.takenThreads,
    thread ∉ state.exited → state.stopRequested thread = true))

theorem ManagerStep.stopRequested_mono {state next : ManagerState} {label : ManagerLabel}
    (hstep : ManagerStep state label next) {thread : ThreadId}
    (hstop : state.stopRequested thread = true) : next.stopRequested thread = true := by
  cases hstep with
  | startThread =>
      rw [startThread_stopRequested]
      exact hstop
  | requestStop =>
      unfold ManagerState.requestStop
      simp [hstop]
  | _ => exact hstop

/-- A running thread that was stopped or has exited stays so along a run. -/
theorem run_stopped {start final : ManagerState} {history : ManagerHistory}
    (hrun : Run ManagerStep start history final) {thread : ThreadId}
    (hstart : thread ∉ start.exited → start.stopRequested thread = true) :
    thread ∉ final.exited → final.stopRequested thread = true :=
  hrun.invariant
    (fun _ state => thread ∉ state.exited → state.stopRequested thread = true)
    hstart fun _ hheld hstep hrunning =>
      hstep.stopRequested_mono (hheld (mt hstep.exited_mono hrunning))

theorem requestStop_stopRequested {state : ManagerState} {thread : ThreadId} :
    state.requestStop.stopRequested thread = true ↔
      state.stopRequested thread = true ∨
        thread ∈ state.registry.map ManagedThread.thread := by
  unfold ManagerState.requestStop
  rw [Bool.or_eq_true, List.any_eq_true, List.mem_map]
  simp

section Places

variable {history : ManagerHistory} {state : ManagerState}

theorem ManagerInvariant.place_cases (hinvariant : ManagerInvariant history state)
    {thread : ThreadId} (hstarted : thread < state.started) :
    thread ∈ state.registry.map ManagedThread.thread ∨ thread ∈ state.takenThreads ∨
      thread ∈ state.joined := by
  have hplace : thread ∈ state.places :=
    hinvariant.places.mem_iff.mpr (List.mem_range.mpr hstarted)
  unfold ManagerState.places at hplace
  unfold ManagerState.takenThreads
  simp only [List.mem_append] at hplace ⊢
  tauto

theorem ManagerInvariant.taken_started (hinvariant : ManagerInvariant history state)
    {thread : ThreadId} (htaken : thread ∈ state.takenThreads) : thread < state.started := by
  rw [← List.mem_range, ← hinvariant.places.mem_iff]
  unfold ManagerState.takenThreads at htaken
  unfold ManagerState.places
  simp only [List.mem_append] at htaken ⊢
  tauto

theorem ManagerInvariant.not_registered_of_taken (hinvariant : ManagerInvariant history state)
    {thread : ThreadId} (htaken : thread ∈ state.takenThreads) :
    thread ∉ state.registry.map ManagedThread.thread := by
  have hnodup : state.places.Nodup := hinvariant.places.nodup_iff.mpr List.nodup_range
  unfold ManagerState.places at hnodup
  unfold ManagerState.takenThreads at htaken
  intro hregistered
  rw [List.append_assoc, List.append_assoc, List.nodup_append] at hnodup
  refine hnodup.2.2 thread hregistered thread ?_ rfl
  simp only [List.mem_append] at htaken ⊢
  tauto

end Places

/-- A stop request reaches every thread started before it, then and ever after,
exactly if the threads taken by earlier `joinAll` calls need no stop request. -/
theorem stop_request_reaches_iff {history : ManagerHistory} {state next : ManagerState}
    {caller : Caller} (hrun : Run ManagerStep initialManager history state)
    (hstep : ManagerStep state (.requestStop caller) next) :
    (∀ {later final}, Run ManagerStep next later final →
      ∀ thread < state.started, thread ∉ final.exited →
        final.stopRequested thread = true) ↔ state.TakenThreadsStopped := by
  have hinvariant := run_managerInvariant hrun
  cases hstep
  constructor
  · intro hreaches thread htaken hrunning
    have hstop := hreaches .start thread (hinvariant.taken_started htaken) hrunning
    rcases requestStop_stopRequested.mp hstop with hbefore | hregistered
    · exact hbefore
    · exact absurd hregistered (hinvariant.not_registered_of_taken htaken)
  · intro htaken later final hlater thread hstarted
    refine run_stopped hlater fun hrunning => ?_
    rw [requestStop_stopRequested]
    rcases hinvariant.place_cases hstarted with hregistered | hout | hjoined
    · exact .inr hregistered
    · exact .inl (htaken thread hout hrunning)
    · exact absurd (hinvariant.joinedExited thread hjoined) hrunning

/-- A repeated stop request while `joinAll` waits for a thread already told to stop. -/
theorem repeated_stop_request_reaches :
    ∃ history state, Run ManagerStep initialManager history state ∧
      (history.map Prod.snd).getLast? = some (.joinAll (.external 0)) ∧
      ∀ {later final}, Run ManagerStep state.requestStop later final →
        ∀ thread < state.started, thread ∉ final.exited →
          final.stopRequested thread = true := by
  have hstart : Run ManagerStep initialManager [] _ := .start
  have hworker := hstart.andThen (.startThread (.external 0) [97] true true)
    (.startThread (by decide))
  have hstopped := hworker.andThen (.requestStop (.external 0)) (.requestStop (by decide))
  have hwaiting := hstopped.andThen (.joinAll (.external 0)) (.joinAll (by decide))
  exact ⟨_, _, hwaiting, rfl,
    (stop_request_reaches_iff hwaiting (@ManagerStep.requestStop _ (.external 1) (by decide))).mpr
      (by decide)⟩

/-- `joinAll` before `requestStop`: the worker it waits for is never told to stop. -/
theorem stop_request_misses_taken_thread :
    ∃ history state next, Run ManagerStep initialManager history state ∧
      ManagerStep state (.requestStop (.external 1)) next ∧
      0 < state.started ∧ 0 ∉ next.exited ∧ next.stopRequested 0 = false := by
  have hstart : Run ManagerStep initialManager [] _ := .start
  have hworker := hstart.andThen (.startThread (.external 0) [97] true true)
    (.startThread (by decide))
  have hwaiting := hworker.andThen (.joinAll (.external 0)) (.joinAll (by decide))
  exact ⟨_, _, _, hwaiting, .requestStop (by decide), by decide, by decide, by decide⟩

end ElapPlatform.Threading
