import ElapPlatform.ThreadManagerConservation

/-!
# Destruction of a thread manager

The destructor calls `requestStop` and then `joinAll` on a thread that the
manager did not start.  Meanwhile the workers run, start further threads on the
same manager, and exit.
-/

namespace ElapPlatform.Threading

open Transition

inductive DestructorPhase where
  | begun
  | stopped
  | joining
  | finished
  deriving DecidableEq, Repr

structure DestructionState where
  phase : DestructorPhase
  manager : ManagerState

inductive DestructionLabel where
  | requestStop
  | joinAll
  | joins (thread : ThreadId)
  | finishes
  | startThread (worker : ThreadId) (name : Bytes) (hasWorker spawned : Bool)
  | exits (thread : ThreadId)
  deriving DecidableEq, Repr

inductive DestructionStep (owner : ℕ) :
    DestructionState → DestructionLabel → DestructionState → Prop
  | requestStop {manager : ManagerState} :
      DestructionStep owner ⟨.begun, manager⟩ .requestStop ⟨.stopped, manager.requestStop⟩
  | joinAll {manager : ManagerState} :
      DestructionStep owner ⟨.stopped, manager⟩ .joinAll
        ⟨.joining, manager.takeRegistry (.external owner)⟩
  | joins {manager next : ManagerState} {thread : ThreadId}
      (hstep : ManagerStep manager (.joins (.external owner) thread) next) :
      DestructionStep owner ⟨.joining, manager⟩ (.joins thread) ⟨.joining, next⟩
  | finishes {manager next : ManagerState} {taken : List ManagedThread}
      (hstep : ManagerStep manager (.joinAllReturns (.external owner) taken) next) :
      DestructionStep owner ⟨.joining, manager⟩ .finishes ⟨.finished, next⟩
  | startThread {phase : DestructorPhase} {manager next : ManagerState} {worker : ThreadId}
      {name : Bytes} {hasWorker spawned : Bool} (hphase : phase ≠ .finished)
      (hstep : ManagerStep manager
        (.startThread (.managed worker) name hasWorker spawned) next) :
      DestructionStep owner ⟨phase, manager⟩ (.startThread worker name hasWorker spawned)
        ⟨phase, next⟩
  | exits {phase : DestructorPhase} {manager next : ManagerState} {thread : ThreadId}
      (hphase : phase ≠ .finished) (hstep : ManagerStep manager (.exits thread) next) :
      DestructionStep owner ⟨phase, manager⟩ (.exits thread) ⟨phase, next⟩

abbrev DestructionHistory := History DestructionState DestructionLabel

/-- No worker starts a thread once the destructor has swapped the registry. -/
def NoLateStart (history : DestructionHistory) : Prop :=
  ∀ entry ∈ history, entry.1.phase = .joining →
    ∀ worker name, entry.2 ≠ .startThread worker name true true

theorem noLateStart_snoc {history : DestructionHistory} {state : DestructionState}
    {label : DestructionLabel} :
    NoLateStart (history ++ [(state, label)]) ↔
      NoLateStart history ∧
        (state.phase = .joining → ∀ worker name, label ≠ .startThread worker name true true) := by
  unfold NoLateStart
  constructor
  · intro hall
    constructor
    · intro entry hmem
      exact hall entry (List.mem_append_left _ hmem)
    · exact hall (state, label) (List.mem_append_right _ (List.mem_singleton_self _))
  · rintro ⟨hearlier, hlast⟩ entry hmem
    rw [List.mem_append, List.mem_singleton] at hmem
    rcases hmem with hmem | rfl
    · exact hearlier entry hmem
    · exact hlast

theorem noLateStart_snoc_of_ne {history : DestructionHistory} {state : DestructionState}
    (label : DestructionLabel)
    (hlabel : ∀ worker name, label ≠ .startThread worker name true true) :
    NoLateStart (history ++ [(state, label)]) ↔ NoLateStart history := by
  rw [noLateStart_snoc]
  exact and_iff_left fun _ => hlabel

theorem singleton_eq_middle {α : Type} {only middle : α} {before after : List α}
    (hsame : [only] = before ++ middle :: after) :
    before = [] ∧ only = middle ∧ after = [] := by
  cases before with
  | nil =>
      cases hsame
      exact ⟨rfl, rfl, rfl⟩
  | cons first rest =>
      have hlength := congrArg List.length hsame
      simp at hlength

/-- What a start by a worker makes of the registry. -/
theorem startThread_registry_ne_nil {state : ManagerState} {name : Bytes} :
    (state.startThread name true true).2.registry ≠ [] := by
  unfold ManagerState.startThread
  by_cases hname : state.registry.any (·.name = name)
  · rw [if_neg (by decide), if_pos hname]
    intro hempty
    rw [hempty] at hname
    cases hname
  · rw [if_neg (by decide), if_neg hname, if_neg (by decide)]
    exact List.append_ne_nil_of_right_ne_nil _ (List.cons_ne_nil _ _)

def JoinsInPhase (owner : ℕ) (phase : DestructorPhase) (joins : List JoinCall) : Prop :=
  match phase with
  | .joining => ∃ taken pending, joins = [⟨.external owner, taken, pending⟩]
  | _ => joins = []

structure DestructionInvariant (owner : ℕ) (history : DestructionHistory)
    (state : DestructionState) : Prop where
  managed : ∃ managerHistory, Run ManagerStep initialManager managerHistory state.manager
  detached : state.manager.detached = []
  joins : JoinsInPhase owner state.phase state.manager.joins
  early : state.phase = .begun ∨ state.phase = .stopped → NoLateStart history
  late : state.phase = .joining ∨ state.phase = .finished →
    (state.manager.registry = [] ↔ NoLateStart history)

theorem canCall_of_idle {manager : ManagerState} (hidle : manager.joins = []) (owner : ℕ) :
    manager.CanCall (.external owner) := by
  constructor
  · trivial
  · rw [hidle]
    intro call hmem
    cases hmem

theorem initial_destructionInvariant {managerHistory : ManagerHistory} {manager : ManagerState}
    (hrun : Run ManagerStep initialManager managerHistory manager)
    (hidle : manager.joins = []) (hdetached : manager.detached = []) (owner : ℕ) :
    DestructionInvariant owner [] ⟨.begun, manager⟩ := by
  constructor
  · exact ⟨managerHistory, hrun⟩
  · exact hdetached
  · exact hidle
  · intro _ entry hmem
    cases hmem
  · intro hphase
    rcases hphase with hphase | hphase <;> cases hphase

section Step

variable {owner : ℕ} {history : DestructionHistory} {state next : DestructionState}
  {label : DestructionLabel}

/-- The registry is empty after a start exactly if it was, and nothing was started. -/
theorem startThread_registry_eq_nil {manager : ManagerState} {name : Bytes}
    {hasWorker spawned : Bool} :
    (manager.startThread name hasWorker spawned).2.registry = [] ↔
      manager.registry = [] ∧ ¬ (hasWorker = true ∧ spawned = true) := by
  by_cases hboth : hasWorker = true ∧ spawned = true
  · obtain ⟨rfl, rfl⟩ := hboth
    simp [startThread_registry_ne_nil]
  · rcases startThread_cases manager name hasWorker spawned with hsame | ⟨⟨hworker, hspawned, _⟩, _⟩
    · rw [hsame]
      simp [hboth]
    · exact absurd ⟨hworker, hspawned⟩ hboth

/-- Steps that start nothing: the phases go on, and the registry stays once it is swapped. -/
theorem DestructionInvariant.quiet (hinvariant : DestructionInvariant owner history state)
    {managerLabel : ManagerLabel}
    (hstep : ManagerStep state.manager managerLabel next.manager)
    (hlabel : ∀ worker name, label ≠ .startThread worker name true true)
    (hdetached : next.manager.detached = state.manager.detached)
    (hjoins : JoinsInPhase owner next.phase next.manager.joins)
    (hearly : next.phase = .begun ∨ next.phase = .stopped →
      state.phase = .begun ∨ state.phase = .stopped)
    (hlate : next.phase = .joining ∨ next.phase = .finished →
      (state.phase = .joining ∨ state.phase = .finished) ∧
        next.manager.registry = state.manager.registry) :
    DestructionInvariant owner (history ++ [(state, label)]) next := by
  obtain ⟨managerHistory, hrun⟩ := hinvariant.managed
  refine ⟨⟨_, hrun.snoc hstep⟩, hdetached.trans hinvariant.detached, hjoins, fun hphase => ?_,
    fun hphase => ?_⟩
  · rw [noLateStart_snoc_of_ne label hlabel]
    exact hinvariant.early (hearly hphase)
  · obtain ⟨hbefore, hregistry⟩ := hlate hphase
    rw [noLateStart_snoc_of_ne label hlabel, hregistry]
    exact hinvariant.late hbefore

/-- The swap empties the registry, and no start has been late so far. -/
theorem DestructionInvariant.joinAll {manager : ManagerState}
    (hinvariant : DestructionInvariant owner history ⟨.stopped, manager⟩) :
    DestructionInvariant owner (history ++ [(⟨.stopped, manager⟩, .joinAll)])
      ⟨.joining, manager.takeRegistry (.external owner)⟩ := by
  obtain ⟨managerHistory, hrun⟩ := hinvariant.managed
  have hidle : manager.joins = [] := hinvariant.joins
  refine ⟨⟨_, hrun.snoc (.joinAll (canCall_of_idle hidle owner))⟩, hinvariant.detached, ?_,
    fun hphase => ?_, fun _ => ?_⟩
  · refine ⟨manager.registry, manager.registry, ?_⟩
    unfold ManagerState.takeRegistry
    rw [hidle, List.nil_append]
  · rcases hphase with hphase | hphase <;> cases hphase
  · have hnone : NoLateStart (history ++ [(⟨.stopped, manager⟩, .joinAll)]) := by
      rw [noLateStart_snoc]
      exact ⟨hinvariant.early (.inr rfl), fun hphase => nomatch hphase⟩
    exact iff_of_true rfl hnone

/-- A start leaves something in the registry, and is a late one while the destructor joins. -/
theorem DestructionInvariant.startThread {phase : DestructorPhase} {manager : ManagerState}
    {worker : ThreadId} {name : Bytes} {hasWorker spawned : Bool}
    (hinvariant : DestructionInvariant owner history ⟨phase, manager⟩) (hphase : phase ≠ .finished)
    (hcaller : manager.CanCall (.managed worker)) :
    DestructionInvariant owner
      (history ++ [(⟨phase, manager⟩, .startThread worker name hasWorker spawned)])
      ⟨phase, (manager.startThread name hasWorker spawned).2⟩ := by
  obtain ⟨managerHistory, hrun⟩ := hinvariant.managed
  refine ⟨⟨_, hrun.snoc (.startThread hcaller)⟩, ?_, ?_, fun hbefore => ?_, fun hafter => ?_⟩
  · rw [startThread_detached]
    exact hinvariant.detached
  · rw [startThread_joins]
    exact hinvariant.joins
  · rw [noLateStart_snoc]
    refine ⟨hinvariant.early hbefore, fun hjoining => ?_⟩
    rw [hjoining] at hbefore
    rcases hbefore with hbefore | hbefore <;> cases hbefore
  · have hjoining : phase = .joining := hafter.resolve_right hphase
    rw [startThread_registry_eq_nil, noLateStart_snoc, hinvariant.late hafter]
    apply and_congr_right
    intro _
    constructor
    · intro hnot _ worker' name' hsame
      cases hsame
      exact hnot ⟨rfl, rfl⟩
    · rintro hnone ⟨rfl, rfl⟩
      exact hnone hjoining worker name rfl

theorem DestructionInvariant.step (hinvariant : DestructionInvariant owner history state)
    (hstep : DestructionStep owner state label next) :
    DestructionInvariant owner (history ++ [(state, label)]) next := by
  cases hstep with
  | requestStop =>
      exact hinvariant.quiet (.requestStop (canCall_of_idle hinvariant.joins owner))
        (fun _ _ => nofun) rfl hinvariant.joins (fun _ => .inl rfl) nofun
  | joinAll => exact hinvariant.joinAll
  | @joins manager next thread hjoin =>
      obtain ⟨taken, pending, hone⟩ := hinvariant.joins
      dsimp only at hone
      have hmanager := hjoin
      cases hjoin with
      | joins hmiddle =>
          rw [hone] at hmiddle
          obtain ⟨rfl, _, rfl⟩ := singleton_eq_middle hmiddle
          exact hinvariant.quiet hmanager (fun _ _ => nofun) rfl ⟨_, _, rfl⟩ nofun
            (fun _ => ⟨.inl rfl, rfl⟩)
  | @finishes manager next taken hreturn =>
      obtain ⟨taken', pending, hone⟩ := hinvariant.joins
      dsimp only at hone
      have hmanager := hreturn
      cases hreturn with
      | joinAllReturns hmiddle =>
          rw [hone] at hmiddle
          obtain ⟨rfl, _, rfl⟩ := singleton_eq_middle hmiddle
          exact hinvariant.quiet hmanager (fun _ _ => nofun) rfl rfl nofun
            (fun _ => ⟨.inl rfl, rfl⟩)
  | startThread hphase hstart =>
      cases hstart with
      | startThread hcaller => exact hinvariant.startThread hphase hcaller
  | exits hphase hexit =>
      have hmanager := hexit
      cases hexit with
      | exits =>
          exact hinvariant.quiet hmanager (fun _ _ => nofun) rfl hinvariant.joins id
            (fun hafter => ⟨hafter, rfl⟩)

end Step

/-- A manager that no thread is inside of: no `joinAll` is in progress, and no
worker has detached itself with a `joinAll` of its own. -/
structure Destructible (manager : ManagerState) : Prop where
  reachable : ∃ history, Run ManagerStep initialManager history manager
  idle : manager.joins = []
  attached : manager.detached = []

def AllGone (manager : ManagerState) : Prop :=
  manager.registry = [] ∧ ∀ thread < manager.started, thread ∈ manager.exited

theorem run_destructionInvariant {owner : ℕ} {manager : ManagerState}
    (hmanager : Destructible manager) {history : DestructionHistory} {state : DestructionState}
    (hrun : Run (DestructionStep owner) ⟨.begun, manager⟩ history state) :
    DestructionInvariant owner history state := by
  obtain ⟨⟨managerHistory, hreachable⟩, hidle, hattached⟩ := hmanager
  exact hrun.invariant (DestructionInvariant owner)
    (initial_destructionInvariant hreachable hidle hattached owner)
    fun _ hinvariant hstep => hinvariant.step hstep

/-- When the destructor has finished, every thread is gone exactly if none was
started after the swap of the registry. -/
theorem destruction_leaves_no_thread_iff {owner : ℕ} {manager : ManagerState}
    (hmanager : Destructible manager) {history : DestructionHistory} {state : DestructionState}
    (hrun : Run (DestructionStep owner) ⟨.begun, manager⟩ history state)
    (hfinished : state.phase = .finished) :
    AllGone state.manager ↔ NoLateStart history := by
  obtain ⟨⟨managerHistory, hreachable⟩, hdetached, hjoins, _, hlate⟩ :=
    run_destructionInvariant hmanager hrun
  have hinvariant := run_managerInvariant hreachable
  rw [← hlate (.inr hfinished)]
  constructor
  · intro hgone
    exact hgone.1
  · intro hempty
    refine ⟨hempty, fun thread hstarted => ?_⟩
    have hplace := hinvariant.places.mem_iff.mpr (List.mem_range.mpr hstarted)
    rw [hfinished] at hjoins
    have hidle : state.manager.joins = [] := hjoins
    unfold ManagerState.places at hplace
    rw [hempty, hidle, hdetached] at hplace
    simp only [List.map_nil, pendingThreads_nil, List.append_nil, List.nil_append] at hplace
    exact hinvariant.joinedExited thread hplace

/-- A worker that starts another one while the destructor waits for it. -/
def lateStartHistory : List DestructionLabel :=
  [.requestStop, .joinAll, .startThread 0 [98] true true, .exits 0, .joins 0, .finishes]

theorem managerWithWorker :
    Destructible (initialManager.startThread [97] true true).2 := by
  have hstart : Run ManagerStep initialManager [] _ := .start
  have hworker := hstart.andThen (.startThread (.external 0) [97] true true)
    (.startThread (by decide))
  exact ⟨⟨_, hworker⟩, rfl, rfl⟩

theorem late_start_survives_destructor :
    ∃ history state,
      Run (DestructionStep 0) ⟨.begun, (initialManager.startThread [97] true true).2⟩
        history state ∧
      history.map Prod.snd = lateStartHistory ∧ state.phase = .finished ∧
      state.manager.registry = [⟨[98], 1⟩] ∧ 1 < state.manager.started ∧
      1 ∉ state.manager.exited := by
  have hstart : Run (DestructionStep 0)
      ⟨.begun, (initialManager.startThread [97] true true).2⟩ [] _ := .start
  have hstop := hstart.snoc .requestStop
  have hswap := hstop.snoc .joinAll
  have hlate := hswap.andThen (.startThread 0 [98] true true)
    (.startThread (by decide) (.startThread (by decide)))
  have hexit := hlate.andThen (.exits 0)
    (.exits (by decide) (.exits (by decide) (by decide) (by decide)))
  have hjoin := hexit.andThen (.joins 0)
    (.joins (@ManagerStep.joins _ (.external 0) [] [] [⟨[97], 0⟩] [] ⟨[97], 0⟩ rfl
      (by decide) (by decide)))
  have hfinish := hjoin.andThen .finishes
    (.finishes (@ManagerStep.joinAllReturns _ (.external 0) [] [] [⟨[97], 0⟩] rfl))
  exact ⟨_, _, hfinish, rfl, rfl, rfl, by decide, by decide⟩

/-- A worker that starts another one before the swap and none after it. -/
theorem early_start_gone :
    ∃ history state,
      Run (DestructionStep 0) ⟨.begun, (initialManager.startThread [97] true true).2⟩
        history state ∧
      state.manager.started = 2 ∧ AllGone state.manager := by
  have hstart : Run (DestructionStep 0)
      ⟨.begun, (initialManager.startThread [97] true true).2⟩ [] _ := .start
  have hstop := hstart.snoc .requestStop
  have hearly := hstop.andThen (.startThread 0 [98] true true)
    (.startThread (by decide) (.startThread (by decide)))
  have hswap := hearly.snoc .joinAll
  have hexit := hswap.andThen (.exits 0)
    (.exits (by decide) (.exits (by decide) (by decide) (by decide)))
  have hexit' := hexit.andThen (.exits 1)
    (.exits (by decide) (.exits (by decide) (by decide) (by decide)))
  have hjoin := hexit'.andThen (.joins 0)
    (.joins (@ManagerStep.joins _ (.external 0) [] [] [⟨[97], 0⟩, ⟨[98], 1⟩] [⟨[98], 1⟩]
      ⟨[97], 0⟩ rfl (by decide) (by decide)))
  have hjoin' := hjoin.andThen (.joins 1)
    (.joins (@ManagerStep.joins _ (.external 0) [] [] [⟨[97], 0⟩, ⟨[98], 1⟩] [] ⟨[98], 1⟩ rfl
      (by decide) (by decide)))
  have hfinish := hjoin'.andThen .finishes
    (.finishes (@ManagerStep.joinAllReturns _ (.external 0) [] []
      [⟨[97], 0⟩, ⟨[98], 1⟩] rfl))
  refine ⟨_, _, hfinish, rfl, ?_⟩
  refine (destruction_leaves_no_thread_iff managerWithWorker hfinish rfl).mpr ?_
  simp [NoLateStart]

end ElapPlatform.Threading
