import ElapPlatform.StorageConfigService

/-!
# Starts that fail after some workers

`run` answers a failed start with `deinitialize` alone, which joins the workers without a
stop request.  The workers that were created run until their flags are set, so `joinAll`
waits for them.
-/

namespace ElapPlatform.Service

open Interaction Interaction.Program Threading
open StorageConfigService (serve)

variable {workerCount : ℤ} {created : ℕ} {before after : Surroundings}

/-! ## Workers that leave -/

section Workers

variable {manager next : ManagerState}

theorem WorkerStep.registry_eq (hstep : WorkerStep manager next) :
    next.registry = manager.registry := by
  cases hstep with
  | leaves hstop hexits =>
      cases hexits
      rfl

/-- A worker that was not told to stop has not left. -/
theorem WorkerStep.running (hstep : WorkerStep manager next) {thread : ThreadId}
    (hrunning : manager.stopRequested thread = false ∧ thread ∉ manager.exited) :
    next.stopRequested thread = false ∧ thread ∉ next.exited := by
  obtain ⟨hflag, hpresent⟩ := hrunning
  cases hstep with
  | @leaves left hstop hexits =>
      cases hexits
      refine ⟨hflag, ?_⟩
      have hother : thread ≠ left := by
        rintro rfl
        simp [hflag] at hstop
      simp [hpresent, hother]

theorem workers_keep (Holds : ManagerState → Prop)
    (hworkers : Relation.ReflTransGen WorkerStep manager next) (hstart : Holds manager)
    (hstep : ∀ {manager next}, WorkerStep manager next → Holds manager → Holds next) :
    Holds next := by
  induction hworkers with
  | refl => exact hstart
  | tail hearlier hlast ih => exact hstep hlast ih

end Workers

/-- A join of a running worker whose flag is not set does not return. -/
theorem join_unanswered {thread : ThreadId}
    (hflag : before.manager.stopRequested thread = false)
    (hpresent : thread ∉ before.manager.exited) (reply : Unit) :
    ¬ Surroundings.Answers workerCount created before (.join thread) reply after := by
  rintro ⟨manager, hworkers, hjoins, -⟩
  have hrunning := workers_keep
    (fun manager => manager.stopRequested thread = false ∧ thread ∉ manager.exited) hworkers
    ⟨hflag, hpresent⟩ fun hstep => hstep.running
  generalize hnext : after.manager = next at hjoins
  cases hjoins with
  | joins hjoins hother hexited => exact hrunning.2 hexited

/-! ## No worker at all -/

theorem startThread_of_not_started {manager : ManagerState} {name : Bytes}
    {hasWorker spawned : Bool}
    (hrefused : (manager.startThread name hasWorker spawned).1 ≠ .started) :
    (manager.startThread name hasWorker spawned).2 = manager := by
  unfold ManagerState.startThread at hrefused ⊢
  split
  · rfl
  · split
    · rfl
    · split
      · rfl
      · simp_all

theorem startThread_next {manager next : ManagerState} {caller : Caller} {name : Bytes}
    {hasWorker spawned : Bool}
    (hstep : ManagerStep manager (.startThread caller name hasWorker spawned) next) :
    next = (manager.startThread name hasWorker spawned).2 := by
  cases hstep
  rfl

theorem registry_nil_of_not_start {manager next : ManagerState} {label : ManagerLabel}
    (hstep : ManagerStep manager label next)
    (hother : ∀ caller name hasWorker spawned, label ≠ .startThread caller name hasWorker spawned)
    (hempty : manager.registry = []) : next.registry = [] := by
  cases hstep with
  | startThread => exact absurd rfl (hother _ _ _ _)
  | joinAll => rfl
  | _ => exact hempty

/-- Where no thread can be created, the registry stays empty. -/
theorem Surroundings.Answers.registry_nil {call : StorageConfigCall} {reply : call.Reply}
    (hanswer : Surroundings.Answers workerCount 0 before call reply after)
    (hempty : before.manager.registry = []) : after.manager.registry = [] := by
  obtain ⟨manager, hworkers, hanswer⟩ := hanswer
  have hregistry : manager.registry = [] :=
    workers_keep (fun manager => manager.registry = []) hworkers hempty
      fun hstep hnone => hstep.registry_eq.trans hnone
  cases call with
  | startThread name =>
      obtain ⟨hasWorker, spawned, hstep, hreports, hcreated, -⟩ := hanswer
      have hfailed : reply ≠ .ok true := by simp [hcreated]
      rw [startThread_next hstep, startThread_of_not_started]
      · exact hregistry
      · intro hstarted
        rw [hstarted] at hreports
        exact hfailed hreports
  | requestStop => exact registry_nil_of_not_start hanswer.1 (by simp) hregistry
  | takeRegistry => exact registry_nil_of_not_start hanswer.1 (by simp) hregistry
  | join thread => exact registry_nil_of_not_start hanswer.1 (by simp) hregistry
  | joinAllReturns taken => exact registry_nil_of_not_start hanswer.1 (by simp) hregistry
  | getInt key defaultValue => exact hanswer.2 ▸ hregistry
  | _ => exact (show after = _ from hanswer) ▸ hregistry

/-! ## Joins -/

section Joins

variable {service : StorageConfigService} {call : ServiceCall}
  {state final : Surroundings} {thread : ThreadId}

/-- No thread is waited for. -/
def StorageConfigCall.WaitsForNone (call : StorageConfigCall) : Prop :=
  ∀ thread, call ≠ .join thread

theorem startWorkers_waitsForNone (i left : ℕ) :
    (startWorkers i left).AsksOnly StorageConfigCall.WaitsForNone := by
  induction left generalizing i with
  | zero => exact asksOnly_done
  | succ left ih =>
      refine ⟨fun thread => by simp, fun outcome => ?_⟩
      rcases outcome with thrown | started
      · exact asksOnly_done
      · cases started with
        | false => exact asksOnly_done
        | true => exact ih (i + 1)

theorem initializeConfig_waitsForNone :
    service.initializeConfig.AsksOnly StorageConfigCall.WaitsForNone := by
  have hseed : ∀ seed : Option String,
      (StorageConfigService.loadSeed seed).AsksOnly StorageConfigCall.WaitsForNone := by
    intro seed
    cases seed <;>
      simp [StorageConfigService.loadSeed, loadFromFile, StorageConfigCall.WaitsForNone]
  refine ⟨fun thread => by simp, fun dbEnv => ⟨fun thread => by simp, fun opened => ?_⟩⟩
  cases opened with
  | false => exact asksOnly_done
  | true =>
      refine ⟨fun thread => by simp, fun seedEnv => (hseed seedEnv).bind fun _ => ?_⟩
      simp [getInt, StorageConfigCall.WaitsForNone]

/-- Only `deinitialize` waits for a thread. -/
theorem serve_waitsForNone (hother : call ≠ .deinitializeService) :
    (serve service call).AsksOnly StorageConfigCall.WaitsForNone := by
  cases call with
  | initializeService =>
      exact initializeConfig_waitsForNone.bind fun _ => asksOnly_done
  | startService => exact (startWorkers_waitsForNone 0 _).bind fun _ => asksOnly_done
  | deinitializeService => exact absurd rfl hother
  | _ => simp [serve, StorageConfigService.stop, requestStop, StorageConfigCall.WaitsForNone]

/-- Without a worker in the registry `deinitialize` waits for nobody. -/
theorem deinitialize_waits_for_registry
    (hreaches : Reaches (Surroundings.Answers workerCount created) (serve service call) state
      (.join thread) final) : state.manager.registry ≠ [] := by
  intro hempty
  by_cases hdeinitialize : call = .deinitializeService
  · subst hdeinitialize
    rcases reaches_ask_iff.mp hreaches with ⟨hsame, -⟩ | ⟨taken, middle, hanswer, hrest⟩
    · cases hsame
    · obtain ⟨manager, hworkers, -, htaken, -⟩ := hanswer
      have hnone : taken = [] :=
        htaken.trans (workers_keep (fun manager => manager.registry = []) hworkers hempty
          fun hstep hstill => hstep.registry_eq.trans hstill)
      subst hnone
      exact hrest.asked_permitted StorageConfigCall.WaitsForNone
        ⟨fun thread => by simp, fun _ => ⟨fun thread => by simp, fun _ => trivial⟩⟩ thread rfl
  · exact hreaches.asked_permitted _ (serve_waitsForNone hdeinitialize) thread rfl

end Joins

/-- Where the first worker cannot be created, nothing is waited for. -/
theorem first_start_failed {argv : List String} {wakeUps : ℕ} {thread : ThreadId}
    {final : Surroundings} :
    ¬ Reaches (Surroundings.Answers workerCount 0) (runStorageConfigService argv wakeUps)
      initialSurroundings (.join thread) final := by
  intro hreaches
  obtain ⟨call, service, middle, hcall, hjoin⟩ := reaches_interpret_iff.mp hreaches
  have hempty : middle.manager.registry = [] :=
    hcall.invariant
      (fun situation : StorageConfigService × Surroundings => situation.2.manager.registry = []) rfl
      fun hhandled hnone =>
        Runs.invariant hhandled (fun state => state.manager.registry = []) hnone
          fun hanswer hstill => hanswer.registry_nil hstill
  exact deinitialize_waits_for_registry hjoin hempty

/-! ## Workers that were created -/

theorem workerName_injective {i j : ℕ} (hsame : workerName i = workerName j) : i = j := by
  have hdecimal : Storage.decimal i = Storage.decimal j := List.append_cancel_left hsame
  rw [Config.decimal_of_nonneg (by omega), Config.decimal_of_nonneg (by omega)] at hdecimal
  have hvalue := congrArg StreamExtraction.decimalValue hdecimal
  simpa [Config.decimalValue_digitBytes] using hvalue

/-- The manager after so many workers, none of which was told to stop. -/
def withWorkers (count : ℕ) : ManagerState :=
  { initialManager with
    registry := (List.range count).map fun i => ⟨workerName i, i⟩
    started := count }

theorem startThread_withWorkers (count : ℕ) (spawned : Bool) :
    (withWorkers count).startThread (workerName count) true spawned =
      if spawned then (.started, withWorkers (count + 1)) else (.threw, withWorkers count) := by
  have hfresh : (withWorkers count).registry.any (·.name = workerName count) = false := by
    rw [List.any_eq_false]
    intro managed hmem hsame
    obtain ⟨i, hi, rfl⟩ := List.mem_map.mp hmem
    have hindex : i = count := workerName_injective (of_decide_eq_true hsame)
    exact absurd (List.mem_range.mp hi) (by omega)
  unfold ManagerState.startThread
  rw [hfresh]
  cases spawned with
  | false => rfl
  | true => simp [withWorkers, List.range_succ]

theorem withWorkers_canCall (count : ℕ) : (withWorkers count).CanCall applicationThread :=
  ⟨trivial, by simp [withWorkers, initialManager]⟩

theorem withWorkers_step (count : ℕ) (spawned : Bool) :
    ManagerStep (withWorkers count) (.startThread applicationThread (workerName count) true spawned)
      (if spawned then withWorkers (count + 1) else withWorkers count) := by
  have hstep : ManagerStep (withWorkers count)
      (.startThread applicationThread (workerName count) true spawned)
      ((withWorkers count).startThread (workerName count) true spawned).2 :=
    .startThread (withWorkers_canCall count)
  rw [startThread_withWorkers] at hstep
  cases spawned <;> exact hstep

theorem worker_created {i : ℕ} (hcreated : i < created) :
    Surroundings.Answers workerCount created ⟨withWorkers i, i⟩ (.startThread (workerName i))
      (.ok true) ⟨withWorkers (i + 1), i + 1⟩ := by
  refine ⟨withWorkers i, .refl, true, true, withWorkers_step i true, ?_, ?_, rfl⟩
  · rw [startThread_withWorkers]
    rfl
  · simp [hcreated]

theorem worker_throws :
    Surroundings.Answers workerCount created ⟨withWorkers created, created⟩
      (.startThread (workerName created)) (.error .unknown) ⟨withWorkers created, created + 1⟩ := by
  refine ⟨withWorkers created, .refl, true, false, withWorkers_step created false, ?_, ?_, rfl⟩
  · rw [startThread_withWorkers]
    exact ⟨.unknown, rfl⟩
  · simp

/-- The workers that can be created are created, and the next one throws. -/
theorem startWorkers_throws {i left : ℕ} (hcreated : i ≤ created) (hfails : created < i + left) :
    Runs (Surroundings.Answers workerCount created) (startWorkers i left) ⟨withWorkers i, i⟩
      (.error .unknown) ⟨withWorkers created, created + 1⟩ := by
  induction left generalizing i with
  | zero => omega
  | succ left ih =>
      by_cases hlast : i = created
      · subst hlast
        exact .answered (.error .unknown) worker_throws (.done _ _)
      · exact .answered (.ok true) (worker_created (by omega)) (ih (by omega) (by omega))

/-! ## The run to the cleanup -/

section Cleanup

variable {service : StorageConfigService} {state : Surroundings}

/-- The service as `run` sees it. -/
abbrev ServedAnswers (workerCount : ℤ) (created : ℕ) :=
  Handled serve (Surroundings.Answers workerCount created)

theorem application_answered {call : ServiceCall} (reply : call.Reply)
    (happlication : serve service call =
      .ask (.application call) fun reply => .done (reply, service)) :
    ServedAnswers workerCount created (service, state) call reply (service, state) := by
  unfold ServedAnswers Handled
  rw [happlication]
  exact .answered reply ⟨state.manager, .refl, rfl⟩ (.done _ _)

theorem initialize_answered :
    ServedAnswers workerCount created (service, state) .initializeService (.ok true)
      (⟨workerCount, 1000⟩, state) := by
  refine .answered (none : Option String) ⟨state.manager, .refl, rfl⟩ ?_
  refine .answered true ⟨state.manager, .refl, rfl⟩ ?_
  refine .answered (none : Option String) ⟨state.manager, .refl, rfl⟩ ?_
  refine .answered workerCount ⟨state.manager, .refl, fun _ => rfl, rfl⟩ ?_
  refine .answered (1000 : ℤ) ⟨state.manager, .refl, by simp, rfl⟩ ?_
  exact .done _ _

theorem start_answered (hfails : created < service.workerCount.toNat) :
    ServedAnswers workerCount created (service, initialSurroundings) .startService
      (.error .unknown) (service, ⟨withWorkers created, created + 1⟩) :=
  runs_bind_iff.mpr ⟨_, _, startWorkers_throws (Nat.zero_le created) (by simpa using hfails),
    .done _ _⟩

theorem selects_path (argv : List String) (name : String) :
    ∃ selection, Runs (ServedAnswers workerCount created) (selectConfigPath argv name)
      (service, state) (.ok selection) (service, state) := by
  unfold selectConfigPath
  cases explicitConfigPath argv.tail with
  | some path => exact ⟨_, .done _ _⟩
  | none => exact ⟨_, .answered (.ok true) (application_answered _ rfl) (.done _ _)⟩

/-- A run in which the start throws. -/
theorem leads_to_cleanup (argv : List String) (wakeUps : ℕ)
    (hfails : (created : ℤ) < workerCount) :
    Leads (ServedAnswers workerCount created) (run "storage_config_service" argv wakeUps)
      (.initial, initialSurroundings) (cleanUpAndFail 5)
      (⟨workerCount, 1000⟩, ⟨withWorkers created, created + 1⟩) := by
  obtain ⟨selection, hselect⟩ :=
    @selects_path workerCount created .initial initialSurroundings argv "storage_config_service"
  refine .answered () (application_answered _ rfl) ?_
  change Leads _ (selectConfigPath argv "storage_config_service" >>= _) _ _ _
  refine .bind hselect ?_
  refine .answered (some ⟨[], .endOfFile⟩) (application_answered _ rfl) ?_
  refine .answered true (application_answered _ rfl) ?_
  refine .answered true (application_answered _ rfl) ?_
  refine .answered () (application_answered _ rfl) ?_
  refine .answered (.ok true) initialize_answered ?_
  refine .answered () (application_answered _ rfl) ?_
  refine .answered () (application_answered _ rfl) ?_
  refine .answered (.error .unknown) (start_answered (by simpa using hfails)) ?_
  exact .here _ _

/-- `deinitialize` comes to wait for the first worker, which was not told to stop. -/
theorem cleanup_waits (hcreated : 0 < created) :
    Reaches (Surroundings.Answers workerCount created) (serve service .deinitializeService)
      ⟨withWorkers created, created + 1⟩ (.join 0)
      ⟨(withWorkers created).takeRegistry applicationThread, created + 1⟩ := by
  obtain ⟨more, rfl⟩ := Nat.exists_eq_succ_of_ne_zero hcreated.ne'
  have hregistry : (withWorkers (more + 1)).registry =
      ⟨workerName 0, 0⟩ :: (List.range more).map fun i => ⟨workerName (i + 1), i + 1⟩ := by
    simp [withWorkers, List.range_succ_eq_map]
  have htaken : Surroundings.Answers workerCount (more + 1) ⟨withWorkers (more + 1), more + 2⟩
      .takeRegistry (withWorkers (more + 1)).registry
      ⟨(withWorkers (more + 1)).takeRegistry applicationThread, more + 2⟩ :=
    ⟨withWorkers (more + 1), .refl, .joinAll (withWorkers_canCall _), rfl, rfl⟩
  refine .answered _ htaken ?_
  rw [hregistry]
  exact .now _ _ _

/-- Without a worker `deinitialize` returns. -/
theorem cleanup_returns :
    ∃ after, ServedAnswers workerCount created (service, ⟨withWorkers 0, 1⟩)
      .deinitializeService (.ok ()) (service, after) := by
  have htaken : Surroundings.Answers workerCount created ⟨withWorkers 0, 1⟩ .takeRegistry []
      ⟨(withWorkers 0).takeRegistry applicationThread, 1⟩ :=
    ⟨withWorkers 0, .refl, .joinAll (withWorkers_canCall 0), rfl, rfl⟩
  have hreturns : Surroundings.Answers workerCount created
      ⟨(withWorkers 0).takeRegistry applicationThread, 1⟩ (.joinAllReturns []) ()
      ⟨withWorkers 0, 1⟩ :=
    ⟨_, .refl, @ManagerStep.joinAllReturns _ applicationThread [] [] [] rfl, rfl⟩
  refine ⟨⟨withWorkers 0, 1⟩, .answered [] htaken ?_⟩
  refine .answered () hreturns ?_
  exact .answered () ⟨withWorkers 0, .refl, rfl⟩ (.done _ _)

end Cleanup

/-- A service that could create some of its workers waits for the first of them for ever. -/
theorem partial_start_hangs {n k : ℕ} (hfails : k < n) (hcreated : 0 < k) (argv : List String)
    (wakeUps : ℕ) :
    ∃ state, Reaches (Surroundings.Answers n k) (runStorageConfigService argv wakeUps)
        initialSurroundings (.join 0) state ∧
      state.manager.stopRequested 0 = false ∧
      ∀ reply after, ¬ Surroundings.Answers n k state (.join 0) reply after := by
  have hcleanup : Reaches (ServedAnswers n k) (run "storage_config_service" argv wakeUps)
      (.initial, initialSurroundings) .deinitializeService
      (⟨n, 1000⟩, ⟨withWorkers k, k + 1⟩) :=
    (leads_to_cleanup argv wakeUps (by exact_mod_cast hfails)).reaches (.now _ _ _)
  refine ⟨_, reaches_interpret_iff.mpr ⟨_, _, _, hcleanup, cleanup_waits hcreated⟩, rfl, ?_⟩
  intro reply after
  exact join_unanswered rfl (by simp [withWorkers, initialManager, ManagerState.takeRegistry]) reply

/-- A service that could create none of its workers cleans up and returns. -/
theorem first_start_failed_returns {n : ℕ} (hfails : 0 < n) (argv : List String) (wakeUps : ℕ) :
    ∃ service final, Runs (Surroundings.Answers n 0) (runStorageConfigService argv wakeUps)
      initialSurroundings (.returned 5, service) final := by
  obtain ⟨after, hcleanup⟩ := @cleanup_returns n 0 ⟨n, 1000⟩
  refine ⟨⟨n, 1000⟩, after, runs_interpret_iff.mpr ?_⟩
  refine (leads_to_cleanup argv wakeUps (by exact_mod_cast hfails)).runs ?_
  refine .answered (.ok ()) hcleanup ?_
  exact .answered () (application_answered _ rfl) (.done _ _)

/-- After a failed start every thread that is waited for was told to stop, exactly where no
worker had been created. -/
theorem failed_start_waits_for_stopped_iff (n k : ℕ) (hfails : k < n) (argv : List String)
    (wakeUps : ℕ) :
    (∀ thread state, Reaches (Surroundings.Answers n k) (runStorageConfigService argv wakeUps)
      initialSurroundings (.join thread) state → state.manager.stopRequested thread = true) ↔
      k = 0 := by
  constructor
  · intro hstopped
    by_contra hcreated
    obtain ⟨state, hreaches, hflag, -⟩ :=
      partial_start_hangs hfails (Nat.pos_of_ne_zero hcreated) argv wakeUps
    simp [hstopped 0 state hreaches] at hflag
  · rintro rfl thread state hreaches
    exact absurd hreaches first_start_failed

theorem second_of_two_workers_fails :
    (∀ thread state, Reaches (Surroundings.Answers 2 1)
      (runStorageConfigService ["storage_config_service"] 0) initialSurroundings (.join thread)
        state → state.manager.stopRequested thread = true) ↔ 1 = 0 :=
  failed_start_waits_for_stopped_iff 2 1 (by decide) ["storage_config_service"] 0

/-- Two workers, of which the second cannot be created. -/
theorem waits_for_unstopped_worker :
    ∃ state, Reaches (Surroundings.Answers 2 1)
        (runStorageConfigService ["storage_config_service"] 0) initialSurroundings (.join 0) state ∧
      state.manager.stopRequested 0 = false ∧
      ∀ reply after, ¬ Surroundings.Answers 2 1 state (.join 0) reply after :=
  partial_start_hangs (by decide) (by decide) _ _

end ElapPlatform.Service
