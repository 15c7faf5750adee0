import ElapPlatform.SampleServiceModel
import ElapPlatform.ServiceRunTranscripts
import ElapPlatform.StorageConfigServiceStart
import ElapPlatform.ThreadManagerStopRequests

/-!
# Heartbeats of the sample service

Its workers all end before `main` does, whichever of them could be created, and each logs at
most one heartbeat once it was told to stop.
-/

namespace ElapPlatform.Service.Sample

open Interaction Interaction.Program Threading Transition
open SampleService (serve)

/-! ## What a worker has logged -/

def SampleEvent.worker : SampleEvent → Option ThreadId
  | .service _ _ => none
  | .threadStarted thread => some thread
  | .heartbeat thread _ => some thread
  | .threadStopped thread => some thread

def IsHeartbeat (event : SampleEvent) : Prop :=
  ∃ thread stopping, event = .heartbeat thread stopping

/-- Heartbeats between the first line of a worker and its last. -/
inductive Story (thread : ThreadId) : WorkerPhase → List SampleEvent → Prop
  | entering : Story thread .entering []
  | running (phase : WorkerPhase) (beats : List SampleEvent)
      (hphase : phase = .checking ∨ phase = .beating ∨ phase = .leaving)
      (hbeats : ∀ event ∈ beats, IsHeartbeat event) :
      Story thread phase (.threadStarted thread :: beats)
  | finished (beats : List SampleEvent) (hbeats : ∀ event ∈ beats, IsHeartbeat event) :
      Story thread .finished (.threadStarted thread :: beats ++ [.threadStopped thread])

theorem Story.beats {thread : ThreadId} {phase : WorkerPhase} {lines : List SampleEvent}
    (hstory : Story thread phase lines) (hentered : phase ≠ .entering)
    (hunfinished : phase ≠ .finished) :
    ∃ beats, lines = .threadStarted thread :: beats ∧ ∀ event ∈ beats, IsHeartbeat event := by
  cases hstory with
  | entering => exact absurd rfl hentered
  | running phase beats hrunning hbeats => exact ⟨beats, rfl, hbeats⟩
  | finished beats hbeats => exact absurd rfl hunfinished

namespace WorkerSystem

def linesOf (system : WorkerSystem) (thread : ThreadId) : List SampleEvent :=
  system.events.filter fun event => event.worker = some thread

/-- The heartbeats that a worker has logged although its flag was set. -/
def lateBeats (system : WorkerSystem) (thread : ThreadId) : ℕ :=
  system.events.count (.heartbeat thread true)

structure WorkerSound (system : WorkerSystem) (thread : ThreadId) : Prop where
  story : Story thread (system.phase thread) (system.linesOf thread)
  late : system.lateBeats thread ≤ 1
  unflagged : system.manager.stopRequested thread = false ∨ system.phase thread = .beating →
    system.lateBeats thread = 0
  left : system.phase thread = .leaving ∨ system.phase thread = .finished →
    system.manager.stopRequested thread = true
  exited : thread ∈ system.manager.exited → system.phase thread = .finished
  unstarted : system.manager.started ≤ thread → system.phase thread = .entering

/-- Only the application calls the manager. -/
structure Sound (system : WorkerSystem) : Prop where
  reached : ∃ history, Run ManagerStep initialManager history system.manager
  attached : system.manager.detached = []
  callers : ∀ call ∈ system.manager.joins, call.caller = applicationThread
  workers : ∀ thread, system.WorkerSound thread

section Frame

variable {system next : WorkerSystem} {thread other : ThreadId} {phase : WorkerPhase}
  {event : SampleEvent}

@[simp] theorem logs_manager : (system.logs thread phase event).manager = system.manager := rfl

@[simp] theorem moves_manager : (system.moves thread phase).manager = system.manager := rfl

@[simp] theorem logs_phase_self : (system.logs thread phase event).phase thread = phase :=
  Function.update_self _ _ _

@[simp] theorem moves_phase_self : (system.moves thread phase).phase thread = phase :=
  Function.update_self _ _ _

theorem logs_phase_other (hother : other ≠ thread) :
    (system.logs thread phase event).phase other = system.phase other :=
  Function.update_of_ne hother _ _

theorem moves_phase_other (hother : other ≠ thread) :
    (system.moves thread phase).phase other = system.phase other :=
  Function.update_of_ne hother _ _

@[simp] theorem moves_linesOf : (system.moves thread phase).linesOf other = system.linesOf other :=
  rfl

@[simp] theorem moves_lateBeats :
    (system.moves thread phase).lateBeats other = system.lateBeats other := rfl

theorem logs_linesOf_self (hworker : event.worker = some thread) :
    (system.logs thread phase event).linesOf thread = system.linesOf thread ++ [event] := by
  simp [linesOf, logs, hworker]

theorem logs_linesOf_other (hworker : event.worker = some thread) (hother : other ≠ thread) :
    (system.logs thread phase event).linesOf other = system.linesOf other := by
  simp [linesOf, logs, hworker, Ne.symm hother]

theorem logs_lateBeats (hsilent : event ≠ .heartbeat other true) :
    (system.logs thread phase event).lateBeats other = system.lateBeats other := by
  simp [lateBeats, logs, hsilent]

end Frame

/-! ## Moves of the workers -/

section Moves

variable {system next : WorkerSystem} {thread other : ThreadId}

theorem WorkerSound.kept (hsound : system.WorkerSound other)
    (hphase : next.phase other = system.phase other)
    (hlines : next.linesOf other = system.linesOf other)
    (hlate : next.lateBeats other = system.lateBeats other)
    (hflag : system.manager.stopRequested other = true →
      next.manager.stopRequested other = true)
    (hexited : other ∈ next.manager.exited → other ∈ system.manager.exited)
    (hstarted : system.manager.started ≤ next.manager.started) : next.WorkerSound other where
  story := by
    rw [hphase, hlines]
    exact hsound.story
  late := by
    rw [hlate]
    exact hsound.late
  unflagged hunflagged := by
    rw [hlate]
    refine hsound.unflagged ?_
    rw [hphase] at hunflagged
    refine hunflagged.imp_left fun hnext => ?_
    exact Bool.eq_false_iff.mpr fun hset => absurd (hflag hset) (Bool.eq_false_iff.mp hnext)
  left hleft := hflag (hsound.left (hphase ▸ hleft))
  exited hmem := hphase.trans (hsound.exited (hexited hmem))
  unstarted hthread := hphase.trans (hsound.unstarted (hstarted.trans hthread))

theorem WorkerSound.present (hsound : system.WorkerSound thread)
    (hphase : system.phase thread ≠ .finished) : thread ∉ system.manager.exited :=
  fun hexited => hphase (hsound.exited hexited)

theorem WorkerSound.hasStarted (hsound : system.WorkerSound thread)
    (hphase : system.phase thread ≠ .entering) : ¬ system.manager.started ≤ thread :=
  fun hunstarted => hphase (hsound.unstarted hunstarted)

theorem enters_sound (hsound : system.WorkerSound thread)
    (hphase : system.phase thread = .entering) (hstarted : thread < system.manager.started) :
    (system.logs thread .checking (.threadStarted thread)).WorkerSound thread where
  story := by
    have hstory := hsound.story
    rw [hphase] at hstory
    generalize hlines : system.linesOf thread = lines at hstory
    cases hstory with
    | entering =>
        rw [logs_phase_self, logs_linesOf_self rfl, hlines]
        exact .running .checking [] (.inl rfl) (by simp)
    | running phase beats hrunning => simp at hrunning
  late := by
    rw [logs_lateBeats (by simp)]
    exact hsound.late
  unflagged hunflagged := by
    rw [logs_lateBeats (by simp)]
    rw [logs_phase_self] at hunflagged
    exact hsound.unflagged (.inl (hunflagged.resolve_right (by simp)))
  left hleft := by simp at hleft
  exited hexited := absurd hexited (hsound.present (by simp [hphase]))
  unstarted hunstarted := absurd hstarted (Nat.not_lt.mpr hunstarted)

theorem goesOn_sound (hsound : system.WorkerSound thread)
    (hphase : system.phase thread = .checking)
    (hflag : system.manager.stopRequested thread = false) :
    (system.moves thread .beating).WorkerSound thread where
  story := by
    obtain ⟨beats, hlines, hbeats⟩ := hsound.story.beats (by simp [hphase]) (by simp [hphase])
    rw [moves_phase_self, moves_linesOf, hlines]
    exact .running .beating beats (.inr (.inl rfl)) hbeats
  late := hsound.late
  unflagged _ := hsound.unflagged (.inl hflag)
  left hleft := by simp at hleft
  exited hexited := absurd hexited (hsound.present (by simp [hphase]))
  unstarted hunstarted := absurd hunstarted (hsound.hasStarted (by simp [hphase]))

/-- The one heartbeat after a stop request is that of a look at the flag before it. -/
theorem beats_sound (hsound : system.WorkerSound thread)
    (hphase : system.phase thread = .beating) :
    (system.logs thread .checking
      (.heartbeat thread (system.manager.stopRequested thread))).WorkerSound thread where
  story := by
    obtain ⟨beats, hlines, hbeats⟩ := hsound.story.beats (by simp [hphase]) (by simp [hphase])
    rw [logs_phase_self, logs_linesOf_self rfl, hlines, List.cons_append]
    refine .running .checking _ (.inl rfl) fun event hmem => ?_
    rcases List.mem_append.mp hmem with hmem | hmem
    · exact hbeats event hmem
    · rw [List.mem_singleton.mp hmem]
      exact ⟨thread, _, rfl⟩
  late := by
    have hnone := hsound.unflagged (.inr hphase)
    unfold lateBeats at hnone ⊢
    rw [logs, List.count_append, hnone, Nat.zero_add]
    exact (List.count_le_length).trans (le_refl 1)
  unflagged hunflagged := by
    rw [logs_phase_self] at hunflagged
    have hflag : system.manager.stopRequested thread = false :=
      hunflagged.resolve_right (by simp)
    rw [logs_lateBeats (by simp [hflag])]
    exact hsound.unflagged (.inr hphase)
  left hleft := by simp at hleft
  exited hexited := absurd hexited (hsound.present (by simp [hphase]))
  unstarted hunstarted := absurd hunstarted (hsound.hasStarted (by simp [hphase]))

theorem stops_sound (hsound : system.WorkerSound thread)
    (hphase : system.phase thread = .checking)
    (hflag : system.manager.stopRequested thread = true) :
    (system.moves thread .leaving).WorkerSound thread where
  story := by
    obtain ⟨beats, hlines, hbeats⟩ := hsound.story.beats (by simp [hphase]) (by simp [hphase])
    rw [moves_phase_self, moves_linesOf, hlines]
    exact .running .leaving beats (.inr (.inr rfl)) hbeats
  late := hsound.late
  unflagged hunflagged := by simp [hflag] at hunflagged
  left _ := hflag
  exited hexited := absurd hexited (hsound.present (by simp [hphase]))
  unstarted hunstarted := absurd hunstarted (hsound.hasStarted (by simp [hphase]))

theorem ends_sound (hsound : system.WorkerSound thread)
    (hphase : system.phase thread = .leaving) :
    (system.logs thread .finished (.threadStopped thread)).WorkerSound thread where
  story := by
    obtain ⟨beats, hlines, hbeats⟩ := hsound.story.beats (by simp [hphase]) (by simp [hphase])
    rw [logs_phase_self, logs_linesOf_self rfl, hlines]
    exact .finished beats hbeats
  late := by
    rw [logs_lateBeats (by simp)]
    exact hsound.late
  unflagged hunflagged := by
    have hflag := hsound.left (.inl hphase)
    simp [hflag] at hunflagged
  left _ := hsound.left (.inl hphase)
  exited _ := logs_phase_self
  unstarted hunstarted := absurd hunstarted (hsound.hasStarted (by simp [hphase]))

theorem exits_sound {manager : ManagerState} (hsound : system.WorkerSound thread)
    (hphase : system.phase thread = .finished)
    (hexits : ManagerStep system.manager (.exits thread) manager) :
    ({ system with manager := manager } : WorkerSystem).WorkerSound thread where
  story := hsound.story
  late := hsound.late
  unflagged hunflagged := by
    have hflag := hexits.stopRequested_mono (hsound.left (.inr hphase))
    simp [hflag, hphase] at hunflagged
  left _ := hexits.stopRequested_mono (hsound.left (.inr hphase))
  exited _ := hphase
  unstarted hunstarted :=
    absurd (hexits.started_mono.trans hunstarted) (hsound.hasStarted (by simp [hphase]))

theorem WorkerMove.sound_self (hmove : system.WorkerMove thread next)
    (hsound : system.WorkerSound thread) : next.WorkerSound thread := by
  cases hmove with
  | enters hphase hstarted => exact enters_sound hsound hphase hstarted
  | goesOn hphase hflag => exact goesOn_sound hsound hphase hflag
  | beats hphase => exact beats_sound hsound hphase
  | stops hphase hflag => exact stops_sound hsound hphase hflag
  | ends hphase => exact ends_sound hsound hphase
  | exits hphase hexits => exact exits_sound hsound hphase hexits

theorem WorkerMove.sound_other (hmove : system.WorkerMove thread next) (hother : other ≠ thread)
    (hsound : system.WorkerSound other) : next.WorkerSound other := by
  have hlogs : ∀ phase event, event.worker = some thread →
      (system.logs thread phase event).WorkerSound other := by
    intro phase event hworker
    have hsilent : event ≠ .heartbeat other true := by
      rintro rfl
      exact hother (Option.some.inj hworker)
    exact hsound.kept (logs_phase_other hother) (logs_linesOf_other hworker hother)
      (logs_lateBeats hsilent) id id le_rfl
  have hmoves : ∀ phase, (system.moves thread phase).WorkerSound other :=
    fun phase => hsound.kept (moves_phase_other hother) rfl rfl id id le_rfl
  cases hmove with
  | enters => exact hlogs _ _ rfl
  | goesOn => exact hmoves _
  | beats => exact hlogs _ _ rfl
  | stops => exact hmoves _
  | ends => exact hlogs _ _ rfl
  | exits hphase hexits =>
      refine hsound.kept rfl rfl rfl hexits.stopRequested_mono (fun hmem => ?_)
        hexits.started_mono
      cases hexits with
      | exits hstarted hrunning hfree =>
          exact (List.mem_append.mp hmem).resolve_right fun hlast =>
            hother (List.mem_singleton.mp hlast)

theorem WorkerMove.manager_cases (hmove : system.WorkerMove thread next) :
    next.manager = system.manager ∨ ManagerStep system.manager (.exits thread) next.manager := by
  cases hmove with
  | exits hphase hexits => exact .inr hexits
  | _ => exact .inl rfl

theorem Sound.manages (hsound : system.Sound) {manager : ManagerState} {label : ManagerLabel}
    (hstep : ManagerStep system.manager label manager)
    (hdetached : manager.detached = system.manager.detached)
    (hjoins : ∀ call ∈ manager.joins, call.caller = applicationThread) :
    (∃ history, Run ManagerStep initialManager history manager) ∧ manager.detached = [] ∧
      ∀ call ∈ manager.joins, call.caller = applicationThread := by
  obtain ⟨history, hrun⟩ := hsound.reached
  exact ⟨⟨_, hrun.snoc hstep⟩, hdetached.trans hsound.attached, hjoins⟩

theorem WorkerMove.sound (hmove : system.WorkerMove thread next) (hsound : system.Sound) :
    next.Sound := by
  have hworkers : ∀ other, next.WorkerSound other := by
    intro other
    by_cases hother : other = thread
    · subst hother
      exact hmove.sound_self (hsound.workers other)
    · exact hmove.sound_other hother (hsound.workers other)
  rcases hmove.manager_cases with hsame | hexits
  · exact ⟨hsame ▸ hsound.reached, hsame ▸ hsound.attached, hsame ▸ hsound.callers, hworkers⟩
  · have hframe : next.manager.detached = system.manager.detached ∧
        next.manager.joins = system.manager.joins := by
      generalize next.manager = manager at hexits
      cases hexits
      exact ⟨rfl, rfl⟩
    obtain ⟨hreached, hattached, hcallers⟩ :=
      hsound.manages hexits hframe.1 (hframe.2 ▸ hsound.callers)
    exact ⟨hreached, hattached, hcallers, hworkers⟩

/-- What the workers leave to the callers of the manager. -/
structure Unmanaged (system next : WorkerSystem) : Prop where
  registry : next.manager.registry = system.manager.registry
  joins : next.manager.joins = system.manager.joins
  started : next.manager.started = system.manager.started
  flags : next.manager.stopRequested = system.manager.stopRequested

theorem WorkerMove.unmanaged (hmove : system.WorkerMove thread next) : system.Unmanaged next := by
  cases hmove with
  | exits hphase hexits =>
      cases hexits
      exact ⟨rfl, rfl, rfl, rfl⟩
  | _ => exact ⟨rfl, rfl, rfl, rfl⟩

theorem moves_sound (hmoves : Relation.ReflTransGen Moves system next) (hsound : system.Sound) :
    next.Sound ∧ system.Unmanaged next := by
  induction hmoves with
  | refl => exact ⟨hsound, rfl, rfl, rfl, rfl⟩
  | tail hearlier hlast ih =>
      obtain ⟨thread, hmove⟩ := hlast
      have hframe := hmove.unmanaged
      exact ⟨hmove.sound ih.1, hframe.registry.trans ih.2.registry,
        hframe.joins.trans ih.2.joins, hframe.started.trans ih.2.started,
        hframe.flags.trans ih.2.flags⟩

/-- The workers can move on to where this one has come to its end. -/
def CanExit (system : WorkerSystem) (thread : ThreadId) : Prop :=
  ∃ next, Relation.ReflTransGen Moves system next ∧ thread ∈ next.manager.exited

theorem WorkerMove.canExit (hmove : system.WorkerMove thread next) (hnext : next.CanExit thread) :
    system.CanExit thread := by
  obtain ⟨last, hmoves, hexited⟩ := hnext
  exact ⟨last, .head ⟨thread, hmove⟩ hmoves, hexited⟩

theorem Sound.canExit_of_finished (hsound : system.Sound)
    (hstarted : thread < system.manager.started) (hphase : system.phase thread = .finished) :
    system.CanExit thread := by
  by_cases hexited : thread ∈ system.manager.exited
  · exact ⟨system, .refl, hexited⟩
  -- only the application joins, so no join of its own holds the worker back
  have hfree : ∀ call ∈ system.manager.joins, call.caller ≠ .managed thread := by
    intro call hcall
    rw [hsound.callers call hcall, applicationThread]
    simp
  exact ⟨_, .single ⟨thread, .exits hphase (.exits hstarted hexited hfree)⟩,
    List.mem_append_right _ List.mem_cons_self⟩

theorem Sound.canExit_of_leaving (hsound : system.Sound)
    (hstarted : thread < system.manager.started) (hphase : system.phase thread = .leaving) :
    system.CanExit thread := by
  have hmove : system.WorkerMove thread _ := .ends hphase
  exact hmove.canExit ((hmove.sound hsound).canExit_of_finished hstarted logs_phase_self)

theorem Sound.canExit_of_checking (hsound : system.Sound)
    (hstarted : thread < system.manager.started)
    (hflag : system.manager.stopRequested thread = true)
    (hphase : system.phase thread = .checking) : system.CanExit thread := by
  have hmove : system.WorkerMove thread _ := .stops hphase hflag
  exact hmove.canExit ((hmove.sound hsound).canExit_of_leaving hstarted moves_phase_self)

/-- From wherever it is, a worker that was told to stop can come to its end. -/
theorem worker_can_exit (hsound : system.Sound) (hstarted : thread < system.manager.started)
    (hflag : system.manager.stopRequested thread = true) :
    ∃ next, Relation.ReflTransGen Moves system next ∧ thread ∈ next.manager.exited := by
  cases hphase : system.phase thread with
  | entering =>
      have hmove : system.WorkerMove thread _ := .enters hphase hstarted
      exact hmove.canExit
        ((hmove.sound hsound).canExit_of_checking hstarted hflag logs_phase_self)
  | checking => exact hsound.canExit_of_checking hstarted hflag hphase
  | beating =>
      have hmove : system.WorkerMove thread _ := .beats hphase
      exact hmove.canExit
        ((hmove.sound hsound).canExit_of_checking hstarted hflag logs_phase_self)
  | leaving => exact hsound.canExit_of_leaving hstarted hphase
  | finished => exact hsound.canExit_of_finished hstarted hphase

end Moves

/-! ## Calls of the application -/

section Calls

variable {system next : WorkerSystem} {manager : ManagerState} {label : ManagerLabel}
  {call : SampleCall}

theorem exited_of_not_exits {before after : ManagerState} (hstep : ManagerStep before label after)
    (hlabel : ∀ thread, label ≠ .exits thread) : after.exited = before.exited := by
  cases hstep with
  | startThread => exact startThread_exited _ _ _ _
  | exits => exact absurd rfl (hlabel _)
  | _ => rfl

theorem Sound.managed (hsound : system.Sound) (hstep : ManagerStep system.manager label manager)
    (hjoinAll : ∀ caller, label = .joinAll caller → caller = applicationThread)
    (hlabel : ∀ thread, label ≠ .exits thread) :
    ({ system with manager := manager } : WorkerSystem).Sound where
  reached := by
    obtain ⟨history, hrun⟩ := hsound.reached
    exact ⟨_, hrun.snoc hstep⟩
  attached := by
    refine List.eq_nil_iff_forall_not_mem.mpr fun thread hmem => ?_
    rcases hstep.detached_cases hmem with hold | ⟨call, hcall, hcaller⟩
    · rw [hsound.attached] at hold
      cases hold
    · rw [hsound.callers call hcall] at hcaller
      cases hcaller
  callers call hcall := by
    rcases hstep.joins_cases hcall with ⟨hbegun, -⟩ | ⟨old, hold, hcaller, -⟩
    · exact hjoinAll _ hbegun
    · exact hcaller.symm.trans (hsound.callers old hold)
  workers thread :=
    (hsound.workers thread).kept rfl rfl rfl hstep.stopRequested_mono
      (fun hexited => exited_of_not_exits hstep hlabel ▸ hexited) hstep.started_mono

theorem Sound.answer {reply : call.Reply} (hsound : system.Sound)
    (hanswer : system.Answer call reply next) : next.Sound := by
  cases call with
  | log level message =>
      obtain rfl := hanswer
      refine ⟨hsound.reached, hsound.attached, hsound.callers, fun thread => ?_⟩
      refine (hsound.workers thread).kept rfl ?_ ?_ id id le_rfl
      · simp [linesOf, SampleEvent.worker]
      · simp [lateBeats]
  | startThread name =>
      obtain ⟨manager, spawned, hstep, -, rfl⟩ := hanswer
      exact hsound.managed hstep (by simp) (by simp)
  | requestStop =>
      obtain ⟨manager, hstep, rfl⟩ := hanswer
      exact hsound.managed hstep (by simp) (by simp)
  | takeRegistry =>
      obtain ⟨-, manager, hstep, rfl⟩ := hanswer
      exact hsound.managed hstep (by simp) (by simp)
  | join thread =>
      obtain ⟨manager, hstep, rfl⟩ := hanswer
      exact hsound.managed hstep (by simp) (by simp)
  | joinAllReturns taken =>
      obtain ⟨manager, hstep, rfl⟩ := hanswer
      exact hsound.managed hstep (by simp) (by simp)
  | _ =>
      have hsame : next = system := hanswer
      exact hsame ▸ hsound

theorem Sound.answers {reply : call.Reply} (hsound : system.Sound)
    (hanswers : system.Answers call reply next) : next.Sound := by
  obtain ⟨middle, hmoves, hanswer⟩ := hanswers
  exact (moves_sound hmoves hsound).1.answer hanswer

end Calls

/-! ## Stopping the workers -/

section Stopping

variable {system next : WorkerSystem} {taken pending : List ManagedThread} {thread : ThreadId}

/-- The application has this `joinAll` in progress, and no other. -/
structure Joining (system : WorkerSystem) (taken pending : List ManagedThread) : Prop where
  sound : system.Sound
  joins : system.manager.joins = [⟨applicationThread, taken, pending⟩]
  registry : system.manager.registry = []

/-- No call is in progress. -/
structure Ready (system : WorkerSystem) : Prop where
  sound : system.Sound
  joins : system.manager.joins = []

theorem singleton_split {call only : JoinCall} {before after : List JoinCall}
    (hsplit : [only] = before ++ call :: after) : before = [] ∧ call = only ∧ after = [] := by
  cases before with
  | nil =>
      obtain ⟨rfl, rfl⟩ := List.cons.inj hsplit
      exact ⟨rfl, rfl, rfl⟩
  | cons first before => simp at hsplit

theorem Joining.returns {reply : Unit} (hjoining : system.Joining taken [])
    (hanswers : system.Answers (.joinAllReturns taken) reply next) :
    next.Ready ∧ next.manager.registry = [] ∧
      next.manager.started = system.manager.started := by
  have hnext := hjoining.sound.answers hanswers
  obtain ⟨middle, hmoves, manager, hstep, rfl⟩ := hanswers
  obtain ⟨-, hframe⟩ := moves_sound hmoves hjoining.sound
  have hjoins : middle.manager.joins = [⟨applicationThread, taken, []⟩] :=
    hframe.joins.trans hjoining.joins
  cases hstep with
  | joinAllReturns hsplit =>
      rw [hjoins] at hsplit
      obtain ⟨rfl, -, rfl⟩ := singleton_split hsplit
      exact ⟨⟨hnext, rfl⟩, hframe.registry.trans hjoining.registry, hframe.started⟩

theorem Ready.requests {reply : Unit} (hready : system.Ready)
    (hanswers : system.Answers .requestStop reply next) :
    next.Ready ∧ next.manager.started = system.manager.started ∧
      ∀ managed ∈ next.manager.registry, next.manager.stopRequested managed.thread = true := by
  have hnext := hready.sound.answers hanswers
  obtain ⟨middle, hmoves, manager, hstep, rfl⟩ := hanswers
  obtain ⟨-, hframe⟩ := moves_sound hmoves hready.sound
  cases hstep with
  | requestStop hcaller =>
      refine ⟨⟨hnext, hframe.joins.trans hready.joins⟩, hframe.started, fun managed hmem => ?_⟩
      exact requestStop_stopRequested.mpr (.inr (List.mem_map_of_mem hmem))

theorem Joining.started {managed : ManagedThread}
    (hjoining : system.Joining taken (managed :: pending)) :
    managed.thread < system.manager.started := by
  obtain ⟨history, hrun⟩ := hjoining.sound.reached
  have hplaces := (run_managerInvariant hrun).places
  have hpending : managed.thread ∈ system.manager.places := by
    simp [ManagerState.places, hjoining.joins]
  exact List.mem_range.mp (hplaces.mem_iff.mp hpending)

/-- The application waits for a thread that was told to stop. -/
structure AwaitsStopped (system : WorkerSystem) (thread : ThreadId) : Prop where
  flagged : system.manager.stopRequested thread = true
  joining : ∃ taken managed pending,
    system.Joining taken (managed :: pending) ∧ managed.thread = thread

/-- Such a wait can end. -/
theorem AwaitsStopped.returns (hawaits : system.AwaitsStopped thread) :
    ∃ next, system.Answers (.join thread) () next := by
  obtain ⟨taken, managed, pending, hjoining, rfl⟩ := hawaits.joining
  obtain ⟨middle, hmoves, hexited⟩ :=
    worker_can_exit hjoining.sound hjoining.started hawaits.flagged
  obtain ⟨-, hframe⟩ := moves_sound hmoves hjoining.sound
  have hjoins : middle.manager.joins =
      [] ++ ⟨applicationThread, taken, managed :: pending⟩ :: [] :=
    hframe.joins.trans hjoining.joins
  exact ⟨_, middle, hmoves, _, .joins hjoins (by simp [applicationThread]) hexited, rfl⟩

end Stopping

end WorkerSystem

/-! ## The callbacks -/

section Callbacks

open WorkerSystem

variable {system next : WorkerSystem} {service service' : SampleService}

/-- What a callback leaves of the service and of the count of its workers. -/
def Keeps : (call : ServiceCall) → call.Reply → SampleService → ℕ → SampleService → ℕ → Prop
  | .initializeService, _, service, started, service', started' =>
      (∃ configuration, service' = service.configured configuration) ∧ started' = started
  | .startService, outcome, service, started, service', started' =>
      service' = service ∧ (outcome = .ok true → started' = started + service.workerCount.toNat)
  | _, _, service, started, service', started' => service' = service ∧ started' = started

end Callbacks

/-! ## `run` over the service -/

section Runs

open WorkerSystem

variable {before after : SampleService × WorkerSystem} {exchanges : List ServiceExchange}
  {result : RunResult} {argv : List String} {wakeUps : ℕ}

/-- Neither the service nor its count of workers changes. -/
def Settled (exchange : ServiceExchange) : Prop :=
  exchange.1 ≠ .initializeService ∧ exchange.1 ≠ .startService

variable {service service' : SampleService}
  {notes notes' : List (Exchange SampleCall SampleCall.Reply)}
  {noted noting : SampleService × List (Exchange SampleCall SampleCall.Reply)}

end Runs

/-! ## From the start of `main` to its end -/

section Main

open WorkerSystem

variable {system next : WorkerSystem} {service : SampleService} {thread : ThreadId}
  {argv : List String} {wakeUps : ℕ}

/-- Every worker has ended between its first line and its last, and was joined. -/
structure WorkersEnded (system : WorkerSystem) : Prop where
  joined : system.manager.joined.Perm (List.range system.manager.started)
  exited : ∀ thread < system.manager.started, thread ∈ system.manager.exited
  lines : ∀ thread < system.manager.started, ∃ beats,
    system.linesOf thread = .threadStarted thread :: beats ++ [.threadStopped thread] ∧
      ∀ event ∈ beats, IsHeartbeat event
  late : ∀ thread, system.lateBeats thread ≤ 1

theorem WorkerSystem.Ready.ended (hready : system.Ready)
    (hregistry : system.manager.registry = []) : WorkersEnded system := by
  obtain ⟨history, hrun⟩ := hready.sound.reached
  have hinvariant := run_managerInvariant hrun
  have hjoined : system.manager.joined.Perm (List.range system.manager.started) := by
    have hplaces := hinvariant.places
    simpa [ManagerState.places, pendingThreads, hregistry, hready.joins, hready.sound.attached]
      using hplaces
  have hexited : ∀ thread < system.manager.started, thread ∈ system.manager.exited :=
    fun thread hstarted => hinvariant.joinedExited thread
      (hjoined.mem_iff.mpr (List.mem_range.mpr hstarted))
  refine ⟨hjoined, hexited, fun thread hstarted => ?_, fun thread =>
    (hready.sound.workers thread).late⟩
  have hworker := hready.sound.workers thread
  have hstory := hworker.story
  rw [hworker.exited (hexited thread hstarted)] at hstory
  generalize system.linesOf thread = lines at hstory
  cases hstory with
  | running phase beats hphase => simp at hphase
  | finished beats hbeats => exact ⟨beats, rfl, hbeats⟩

end Main

end ElapPlatform.Service.Sample
