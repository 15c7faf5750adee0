import ElapPlatform.ServiceRunTranscripts

/-!
# Every exit of `run` keeps the lifecycle

The protocol is read off the ending of a transcript; what it says of requests
follows from the flag, which nothing clears after the first exchange.
-/

namespace ElapPlatform.Service

open Interaction Transition

/-! ## Callbacks and states of an ending -/

def Silent (exchange : ServiceExchange) : Prop :=
  callbackOf exchange = none ∧ stateOf exchange = none

@[simp] theorem callbacks_nil : callbacks [] = [] := rfl

@[simp] theorem states_nil : states [] = [] := rfl

@[simp] theorem callbacks_cons (exchange : ServiceExchange) (exchanges : List ServiceExchange) :
    callbacks (exchange :: exchanges) =
      (callbackOf exchange).toList ++ callbacks exchanges := by
  unfold callbacks
  cases hcallback : callbackOf exchange <;> simp [hcallback]

@[simp] theorem callbacks_append (earlier later : List ServiceExchange) :
    callbacks (earlier ++ later) = callbacks earlier ++ callbacks later :=
  List.filterMap_append

@[simp] theorem states_cons (exchange : ServiceExchange) (exchanges : List ServiceExchange) :
    states (exchange :: exchanges) = (stateOf exchange).toList ++ states exchanges := by
  unfold states
  cases hstate : stateOf exchange <;> simp [hstate]

@[simp] theorem states_append (earlier later : List ServiceExchange) :
    states (earlier ++ later) = states earlier ++ states later :=
  List.filterMap_append

section Silence

variable {exchanges : List ServiceExchange} {wakeUps : ℕ} {requested : Bool}

theorem callbacks_of_silent (hsilent : ∀ exchange ∈ exchanges, Silent exchange) :
    callbacks exchanges = [] :=
  List.filterMap_eq_nil_iff.mpr fun exchange hmem => (hsilent exchange hmem).1

theorem states_of_silent (hsilent : ∀ exchange ∈ exchanges, Silent exchange) :
    states exchanges = [] :=
  List.filterMap_eq_nil_iff.mpr fun exchange hmem => (hsilent exchange hmem).2

theorem Prepares.silent {exchange : ServiceExchange} (hprepares : Prepares exchange) :
    Silent exchange := by
  obtain ⟨call, reply⟩ := exchange
  cases call <;> first | exact ⟨rfl, rfl⟩ | exact hprepares.elim

theorem Waits.silent (hwaits : Waits wakeUps exchanges requested) :
    ∀ exchange ∈ exchanges, Silent exchange := by
  rintro ⟨call, reply⟩ hmem
  obtain rfl | rfl := hwaits.only _ hmem <;> exact ⟨rfl, rfl⟩

end Silence

/-- What an ending shows of itself to the service and in the state. -/
inductive Visible : List Callback → List ServiceState → RunResult → Prop
  | escaped (thrown : Thrown) : Visible [] [] (.escaped thrown)
  | refused (code : ℕ) (hcode : code ≠ 0) : Visible [] [.failed] (.returned code)
  | initializeThrew (thrown : Thrown) :
      Visible [.initialized (.error thrown)] [.initializing, .failed] (.returned 4)
  | initializeFailed (cleanup : Except Thrown Unit) :
      Visible [.initialized (.ok false), .deinitialized cleanup] [.initializing, .failed]
        (.returned 4)
  | startFailed (outcome : Except Thrown Bool) (cleanup : Except Thrown Unit)
      (houtcome : outcome ≠ .ok true) :
      Visible [.initialized (.ok true), .started outcome, .deinitialized cleanup]
        [.initializing, .initialized, .starting, .failed] (.returned 5)
  | waiting :
      Visible [.initialized (.ok true), .started (.ok true)]
        [.initializing, .initialized, .starting, .running] .stillWaiting
  | stopThrew (thrown : Thrown) (cleanup : Except Thrown Unit) :
      Visible [.initialized (.ok true), .started (.ok true), .stopped (.error thrown),
          .deinitialized cleanup]
        [.initializing, .initialized, .starting, .running, .stopping, .failed] (.returned 6)
  | deinitializeThrew (thrown : Thrown) :
      Visible [.initialized (.ok true), .started (.ok true), .stopped (.ok ()),
          .deinitialized (.error thrown)]
        [.initializing, .initialized, .starting, .running, .stopping, .failed] (.returned 7)
  | stopped :
      Visible [.initialized (.ok true), .started (.ok true), .stopped (.ok ()),
          .deinitialized (.ok ())]
        [.initializing, .initialized, .starting, .running, .stopping, .stopped] (.returned 0)

@[simp] theorem launching_callbacks (outcome : Except Thrown Bool) :
    callbacks (launching outcome) = [.initialized (.ok true), .started outcome] := rfl

@[simp] theorem launching_states (outcome : Except Thrown Bool) :
    states (launching outcome) = [.initializing, .initialized, .starting] := rfl

theorem Ending.visible {exchanges : List ServiceExchange} {result : RunResult} {wakeUps : ℕ}
    (hending : Ending wakeUps exchanges result) :
    Visible (callbacks exchanges) (states exchanges) result := by
  cases hending with
  | escaped thrown => exact .escaped thrown
  | refused code hcode => exact .refused code hcode
  | initializeThrew thrown => exact .initializeThrew thrown
  | initializeFailed cleanup => exact .initializeFailed cleanup
  | startFailed outcome cleanup houtcome => exact .startFailed outcome cleanup houtcome
  | waiting waits hwaits =>
      have hcallbacks := callbacks_of_silent hwaits.silent
      have hstates := states_of_silent hwaits.silent
      simpa [hcallbacks, hstates, callbackOf, stateOf, entered] using Visible.waiting
  | stopThrew waits thrown cleanup hwaits =>
      have hcallbacks := callbacks_of_silent hwaits.silent
      have hstates := states_of_silent hwaits.silent
      simpa [hcallbacks, hstates, callbackOf, stateOf, entered]
        using Visible.stopThrew thrown cleanup
  | deinitializeThrew waits thrown hwaits =>
      have hcallbacks := callbacks_of_silent hwaits.silent
      have hstates := states_of_silent hwaits.silent
      simpa [hcallbacks, hstates, callbackOf, stateOf, entered]
        using Visible.deinitializeThrew thrown
  | stopped waits hwaits =>
      have hcallbacks := callbacks_of_silent hwaits.silent
      have hstates := states_of_silent hwaits.silent
      simpa [hcallbacks, hstates, callbackOf, stateOf, entered] using Visible.stopped

/-! ## The protocol of an ending -/

/-- What must have happened before a callback. -/
def Permitted (before : List Callback) (callback : Callback) : Prop :=
  (∀ outcome, .deinitialized outcome ∉ before) ∧
    match callback with
    | .initialized _ => before = []
    | .started _ => .initialized (.ok true) ∈ before
    | .stopped _ => .started (.ok true) ∈ before
    | .deinitialized _ => ∃ succeeded, .initialized (.ok succeeded) ∈ before

namespace Visible

variable {ran : List Callback} {visited : List ServiceState} {result : RunResult}

theorem permitted (hvisible : Visible ran visited result) : Justified Permitted ran := by
  cases hvisible <;> simp [Justified.cons_iff, Justified.nil, Permitted]

theorem callbacksKept (hvisible : Visible ran visited result) : CallbacksKept result ran where
  initializedAtMostOnce := by
    cases hvisible <;> simp [List.countP_cons, Callback.isInitialized]
  startedAfterInitialize before outcome after hsplit :=
    (hvisible.permitted before _ after hsplit).2
  stoppedAfterStart before outcome after hsplit :=
    (hvisible.permitted before _ after hsplit).2
  stoppedOnce hfinished hstarted := by
    cases hvisible <;> simp_all [List.countP_cons, Callback.isStopped, RunResult.Finished]
  deinitializedLast before outcome after hsplit := by
    refine ⟨?_, (hvisible.permitted before _ after hsplit).2⟩
    cases after with
    | nil => rfl
    | cons next rest =>
        have hnext := hvisible.permitted (before ++ [.deinitialized outcome]) next rest
          (by rw [hsplit, List.append_assoc]; rfl)
        exact absurd (List.mem_append_right _ (List.mem_singleton_self _)) (hnext.1 outcome)
  deinitializedOnce hfinished succeeded hinitialized := by
    cases hvisible <;> simp_all [List.countP_cons, Callback.isDeinitialized, RunResult.Finished]
  contained thrown hescaped := by
    cases hvisible <;> simp_all
  zero_iff := by
    cases hvisible <;> simp_all [AllSucceeded, eq_comm]

theorem followsPath (hvisible : Visible ran visited result) : FollowsPath visited := by
  cases hvisible with
  | escaped thrown => exact .inl (List.nil_prefix)
  | refused code hcode => exact .inr ⟨[], by decide, by decide, rfl⟩
  | initializeThrew thrown => exact .inr ⟨[.initializing], by decide, by decide, rfl⟩
  | initializeFailed cleanup => exact .inr ⟨[.initializing], by decide, by decide, rfl⟩
  | startFailed outcome cleanup houtcome =>
      exact .inr ⟨[.initializing, .initialized, .starting], by decide, by decide, rfl⟩
  | waiting => exact .inl (by decide)
  | stopThrew thrown cleanup =>
      exact .inr ⟨[.initializing, .initialized, .starting, .running, .stopping],
        by decide, by decide, rfl⟩
  | deinitializeThrew thrown =>
      exact .inr ⟨[.initializing, .initialized, .starting, .running, .stopping],
        by decide, by decide, rfl⟩
  | stopped => exact .inl (by decide)

/-- A run that returns ends in the last state it visited. -/
theorem finalState (hvisible : Visible ran visited result) (hfinished : result.Finished)
    (hreturns : ∀ thrown, result ≠ .escaped thrown) (state : ServiceState) :
    FinalState result (visited.getLastD state) := by
  cases hvisible <;> constructor <;> simp_all [RunResult.Finished]

end Visible

/-! ## Waiting and stopping -/

/-- What must have been asked before an exchange. -/
def Grounded (before : List ServiceExchange) (exchange : ServiceExchange) : Prop :=
  (exchange.1 = .waitFor → ∃ earlier, before = earlier ++ [checked false]) ∧
    (exchange.1 = .stopService → checked true ∈ before)

theorem grounded_append {earlier later : List ServiceExchange}
    (hearlier : Justified Grounded earlier) (hlater : Justified Grounded later) :
    Justified Grounded (earlier ++ later) := by
  refine hearlier.append (hlater.mono fun before exchange hgrounded => ⟨fun hwait => ?_, ?_⟩)
  · obtain ⟨first, rfl⟩ := hgrounded.1 hwait
    exact ⟨earlier ++ first, (List.append_assoc ..).symm⟩
  · exact fun hstop => List.mem_append_right _ (hgrounded.2 hstop)

theorem grounded_of_quiet {exchanges : List ServiceExchange}
    (hquiet : ∀ exchange ∈ exchanges, exchange.1 ≠ .waitFor ∧ exchange.1 ≠ .stopService) :
    Justified Grounded exchanges := by
  rintro before exchange after rfl
  have hexchange := hquiet exchange (List.mem_append_right _ List.mem_cons_self)
  exact ⟨fun hwait => absurd hwait hexchange.1, fun hstop => absurd hstop hexchange.2⟩

section Grounds

variable {exchanges waits : List ServiceExchange} {wakeUps : ℕ} {result : RunResult}

theorem Waits.grounded {requested : Bool} (hwaits : Waits wakeUps waits requested) :
    Justified Grounded waits := by
  rintro before exchange after hsplit
  refine ⟨hwaits.afterCheck before exchange after hsplit, fun hstop => ?_⟩
  have hmem : exchange ∈ waits := by
    rw [hsplit]
    exact List.mem_append_right _ List.mem_cons_self
  obtain hcheck | hwait := hwaits.only exchange hmem
  · rw [hcheck] at hstop
    cases hstop
  · rw [hwait] at hstop
    cases hstop

theorem launching_grounded (outcome : Except Thrown Bool) :
    Justified Grounded (launching outcome ++ [entered .running]) :=
  grounded_of_quiet (by simp [launching, entered])

/-- What follows a wait that has found a request. -/
theorem stopping_grounded (hwaits : Waits wakeUps waits true) {outcome : Except Thrown Unit}
    {last : List ServiceExchange}
    (hlast : ∀ exchange ∈ last, exchange.1 ≠ .waitFor ∧ exchange.1 ≠ .stopService) :
    Justified Grounded (launching (.ok true) ++ entered .running :: waits ++
      entered .stopping :: ⟨.stopService, outcome⟩ :: last) := by
  have hfound : Justified Grounded (waits ++
      [entered .stopping, ⟨.stopService, outcome⟩]) := by
    obtain ⟨earlier, hearlier⟩ := hwaits.ends
    refine hwaits.grounded.append (Justified.cons_iff.mpr
      ⟨⟨(fun h => nomatch h), fun h => nomatch h⟩,
        Justified.cons_iff.mpr ⟨⟨(fun h => nomatch h), fun _ => ?_⟩, .nil⟩⟩)
    simp [hearlier]
  have hall := grounded_append (launching_grounded (.ok true))
    (grounded_append hfound (grounded_of_quiet hlast))
  simpa using hall

theorem Ending.grounded (hending : Ending wakeUps exchanges result) :
    Justified Grounded exchanges := by
  cases hending with
  | escaped thrown => exact .nil
  | refused code hcode => exact grounded_of_quiet (by simp [entered])
  | initializeThrew thrown => exact grounded_of_quiet (by simp [entered])
  | initializeFailed cleanup => exact grounded_of_quiet (by simp [entered])
  | startFailed outcome cleanup houtcome =>
      exact grounded_of_quiet (by simp [launching, entered])
  | waiting waits hwaits =>
      have hall := grounded_append (launching_grounded (.ok true)) hwaits.grounded
      simpa using hall
  | stopThrew waits thrown cleanup hwaits => exact stopping_grounded hwaits (by simp [entered])
  | deinitializeThrew waits thrown hwaits => exact stopping_grounded hwaits (by simp [entered])
  | stopped waits hwaits => exact stopping_grounded hwaits (by simp [entered])

theorem Ending.not_clear (hending : Ending wakeUps exchanges result) :
    ∀ exchange ∈ exchanges, exchange.1 ≠ .clearShutdownRequest := by
  intro exchange hmem hclear
  have hserves := hending.serves exchange hmem
  simp only [Serves, hclear] at hserves

theorem Ending.still_waiting (hending : Ending wakeUps exchanges .stillWaiting) :
    (∃ earlier, exchanges = earlier ++ [checked false]) ∧
      exchanges.countP isWait = wakeUps := by
  cases hending with
  | waiting waits hwaits =>
      obtain ⟨earlier, hearlier⟩ := hwaits.ends
      constructor
      · exact ⟨launching (.ok true) ++ entered .running :: earlier, by simp [hearlier]⟩
      · rw [List.countP_append, List.countP_cons_of_neg (by simp [isWait, entered]),
          hwaits.count rfl]
        simp [launching, entered, isWait]

end Grounds

/-! ## The flag along a trace -/

@[simp] theorem exchanges_nil : exchanges [] = [] := rfl

@[simp] theorem exchanges_request (trace : Trace) :
    exchanges (.request :: trace) = exchanges trace := rfl

@[simp] theorem exchanges_answered (exchange : ServiceExchange) (trace : Trace) :
    exchanges (.answered exchange :: trace) = exchange :: exchanges trace := rfl

@[simp] theorem exchanges_append (earlier later : Trace) :
    exchanges (earlier ++ later) = exchanges earlier ++ exchanges later :=
  List.filterMap_append

theorem mem_exchanges_iff {trace : Trace} {exchange : ServiceExchange} :
    exchange ∈ exchanges trace ↔ .answered exchange ∈ trace := by
  unfold exchanges
  rw [List.mem_filterMap]
  constructor
  · rintro ⟨entry, hmem, hexchange⟩
    cases entry with
    | request => cases hexchange
    | answered other =>
        cases hexchange
        exact hmem
  · exact fun hmem => ⟨_, hmem, rfl⟩

namespace Application

theorem afterTrace_append (application : Application) (earlier later : Trace) :
    application.afterTrace (earlier ++ later) =
      (application.afterTrace earlier).afterTrace later :=
  List.foldl_append

/-- Without a clear, a request is remembered. -/
theorem requested_afterTrace {trace : Trace} (hclear : .clears ∉ trace)
    (application : Application) :
    (application.afterTrace trace).requested = true ↔
      application.requested = true ∨ .request ∈ trace := by
  induction trace generalizing application with
  | nil => simp [afterTrace]
  | cons entry rest ih =>
      rw [List.mem_cons, not_or] at hclear
      have hrest : (application.afterTrace (entry :: rest)) =
          (application.after entry).afterTrace rest := rfl
      rw [hrest, ih hclear.2]
      rcases entry with _ | ⟨call, reply⟩
      · simp [after]
      · cases call <;> simp_all [after, TraceEntry.clears]

theorem state_afterTrace (application : Application) (trace : Trace) :
    (application.afterTrace trace).state =
      (states (exchanges trace)).getLastD application.state := by
  induction trace generalizing application with
  | nil => rfl
  | cons entry rest ih =>
      have hrest : (application.afterTrace (entry :: rest)) =
          (application.after entry).afterTrace rest := rfl
      rw [hrest, ih]
      rcases entry with _ | ⟨call, reply⟩
      · simp [after]
      · cases call <;> simp [after, stateOf, List.getLast?_cons]

end Application

/-! ## The requests of a run -/

section Requests

variable {label : RunLabel} {application : Application}
  {preparation ending : List ServiceExchange}

theorem RunParts.grounded (hparts : RunParts label.wakeUps (exchanges label.trace) preparation
    ending label.result) : Justified Grounded (exchanges label.trace) := by
  have hquiet : ∀ exchange ∈ ⟨.clearShutdownRequest, ()⟩ :: preparation,
      exchange.1 ≠ .waitFor ∧ exchange.1 ≠ .stopService := by
    rintro ⟨call, reply⟩ hmem
    rcases List.mem_cons.mp hmem with hclear | hprepares
    · cases hclear
      simp
    · have hcall := hparts.prepares _ hprepares
      cases call <;> simp_all [Prepares]
  rw [hparts.parts, ← List.cons_append]
  exact grounded_append (grounded_of_quiet hquiet) hparts.ending.grounded

/-- The flag is cleared by the first exchange and by no other. -/
theorem RunParts.only_clear (hparts : RunParts label.wakeUps (exchanges label.trace) preparation
    ending label.result) {before after : Trace}
    (hsplit : label.trace = before ++ after) (hcleared : .clears ∈ before) :
    .clears ∉ after := by
  intro hagain
  have htail : ∀ exchange ∈ preparation ++ ending, exchange.1 ≠ .clearShutdownRequest := by
    intro exchange hmem hclear
    rcases List.mem_append.mp hmem with hprepares | hending
    · have hexchange := hparts.prepares exchange hprepares
      rw [Prepares, hclear] at hexchange
      exact hexchange
    · exact hparts.ending.not_clear exchange hending hclear
  have hexchanges := hparts.parts
  rw [hsplit, exchanges_append] at hexchanges
  have hearlier := mem_exchanges_iff.mpr hcleared
  cases hbefore : exchanges before with
  | nil => simp [hbefore] at hearlier
  | cons first rest =>
      rw [hbefore, List.cons_append, List.cons.injEq] at hexchanges
      have hlater := mem_exchanges_iff.mpr hagain
      exact htail _ (hexchanges.2 ▸ List.mem_append_right _ hlater) rfl

theorem checks_after_request (hproduces : application.Produces label.trace)
    (hparts : RunParts label.wakeUps (exchanges label.trace) preparation ending label.result)
    {before after : Trace} (hsplit : label.trace = before ++ .request :: after)
    (hcleared : .clears ∈ before) {requested : Bool} (hcheck : .checks requested ∈ after) :
    requested = true := by
  obtain ⟨middle, last, rfl⟩ := List.append_of_mem hcheck
  have hallowed := hproduces (before ++ .request :: middle) (.checks requested) last (by
    rw [hsplit, List.append_assoc]
    rfl)
  have hclear : .clears ∉ TraceEntry.request :: middle := by
    have hnone := hparts.only_clear hsplit hcleared
    simp_all
  have hflag := (Application.requested_afterTrace hclear (application.afterTrace before)).mpr
    (.inr List.mem_cons_self)
  rw [← Application.afterTrace_append] at hflag
  exact hallowed.trans hflag

/-- A request since the clear leaves at most one wait, and a run that waits on has not
looked since. -/
theorem waits_after_request (hproduces : application.Produces label.trace)
    (hparts : RunParts label.wakeUps (exchanges label.trace) preparation ending label.result)
    {before after : Trace} (hsplit : label.trace = before ++ .request :: after)
    (hcleared : .clears ∈ before) :
    (∀ timedOut, ⟨.waitFor, timedOut⟩ ∉ (exchanges after).tail) ∧
      (label.result = .stillWaiting → exchanges after = []) := by
  have hexchanges : exchanges label.trace = exchanges before ++ exchanges after := by
    rw [hsplit, exchanges_append, exchanges_request]
  have hnever : checked false ∉ exchanges after := fun hmem =>
    nomatch checks_after_request hproduces hparts hsplit hcleared (mem_exchanges_iff.mp hmem)
  -- A list that ends with a vain check, behind the request, would have to have it there.
  have hvain : ∀ {first : ServiceExchange} {rest earlier : List ServiceExchange},
      exchanges before ++ first :: rest = earlier ++ [checked false] →
      checked false ∈ first :: rest := by
    intro first rest earlier hends
    have hlast := congrArg List.getLast? hends
    rw [List.getLast?_append_of_ne_nil _ (List.cons_ne_nil _ _),
      List.getLast?_append_of_ne_nil _ (List.cons_ne_nil _ _)] at hlast
    exact List.mem_of_getLast? hlast
  constructor
  · intro timedOut hwait
    obtain ⟨middle, last, htail⟩ := List.append_of_mem hwait
    cases hafter : exchanges after with
    | nil => simp [hafter] at hwait
    | cons first rest =>
        rw [hafter, List.tail_cons] at htail
        rw [hafter, htail, ← List.cons_append, ← List.append_assoc] at hexchanges
        obtain ⟨earlier, hearlier⟩ := (hparts.grounded _ _ _ hexchanges).1 rfl
        refine hnever ?_
        rw [hafter, htail, ← List.cons_append]
        exact List.mem_append_left _ (hvain hearlier)
  · intro hwaiting
    have hending := hparts.ending
    rw [hwaiting] at hending
    obtain ⟨earlier, hearlier⟩ := hending.still_waiting.1
    cases hafter : exchanges after with
    | nil => rfl
    | cons first rest =>
        have hends := hexchanges.symm.trans hparts.parts
        rw [hafter, hearlier, ← List.append_assoc, ← List.cons_append] at hends
        exact absurd (hafter ▸ hvain hends) hnever

theorem stop_requested (hproduces : application.Produces label.trace)
    (hparts : RunParts label.wakeUps (exchanges label.trace) preparation ending label.result)
    {before after : Trace} {outcome : Except Thrown Unit}
    (hsplit : label.trace = before ++ .answered ⟨.stopService, outcome⟩ :: after) :
    ∃ cleared middle last, before = cleared ++ .request :: middle ++ .checks true :: last ∧
      .clears ∈ cleared := by
  have hexchanges : exchanges label.trace =
      exchanges before ++ ⟨.stopService, outcome⟩ :: exchanges after := by
    rw [hsplit, exchanges_append, exchanges_answered]
  have hfound := (hparts.grounded _ _ _ hexchanges).2 rfl
  obtain ⟨waiting, last, rfl⟩ := List.append_of_mem (mem_exchanges_iff.mp hfound)
  have hcheck : label.trace =
      waiting ++ .checks true :: (last ++ .answered ⟨.stopService, outcome⟩ :: after) := by
    rw [hsplit, List.append_assoc]
    rfl
  have hflag : true = (application.afterTrace waiting).requested :=
    hproduces waiting (.checks true) _ hcheck
  -- The first exchange of all is the clear, so it stands before the check.
  have hcleared : .clears ∈ waiting := by
    have hfirst := hparts.parts
    rw [hcheck, exchanges_append] at hfirst
    cases hwaiting : exchanges waiting with
    | nil =>
        rw [hwaiting, List.nil_append, TraceEntry.checks, exchanges_answered,
          List.cons.injEq] at hfirst
        nomatch hfirst.1
    | cons first rest =>
        rw [hwaiting, List.cons_append, List.cons.injEq] at hfirst
        exact mem_exchanges_iff.mp (by rw [hwaiting, hfirst.1]; exact List.mem_cons_self)
  obtain ⟨raised, pending, rfl⟩ := List.append_of_mem hcleared
  have hclear : .clears ∉ pending := by
    have hcleared : label.trace = (raised ++ [.clears]) ++ (pending ++ .checks true ::
        (last ++ .answered ⟨.stopService, outcome⟩ :: after)) := by
      simpa using hcheck
    have hnone := hparts.only_clear hcleared (List.mem_append_right _ (List.mem_singleton_self _))
    simp_all
  have hraised : ((application.afterTrace (raised ++ [.clears])).afterTrace pending).requested =
      true := by
    rw [← Application.afterTrace_append, List.append_assoc]
    exact hflag.symm
  have hlow : (application.afterTrace (raised ++ [.clears])).requested = false := by
    rw [Application.afterTrace_append]
    rfl
  rw [Application.requested_afterTrace hclear, hlow] at hraised
  obtain ⟨early, late, rfl⟩ := List.append_of_mem (hraised.resolve_left Bool.false_ne_true)
  refine ⟨raised ++ .clears :: early, late, last, ?_, ?_⟩
  · simp [TraceEntry.checks, checked]
  · exact List.mem_append_right _ List.mem_cons_self

end Requests

/-! ## Successive runs -/

/-- `std::filesystem::exists` tells whether the local configuration is there. -/
def RunLabel.ConfigPathDecided (label : RunLabel) : Prop :=
  ∀ path thrown, .answered ⟨.pathExists path, .error thrown⟩ ∉ label.trace

section Steps

variable {label : RunLabel} {application next : Application}
  {preparation ending : List ServiceExchange}

theorem RunParts.returns (hparts : RunParts label.wakeUps (exchanges label.trace) preparation
    ending label.result) (hdecided : label.ConfigPathDecided) (thrown : Thrown) :
    label.result ≠ .escaped thrown := by
  intro hescaped
  obtain ⟨path, hmem⟩ := hparts.escapes thrown hescaped
  refine hdecided path thrown (mem_exchanges_iff.mp ?_)
  rw [hparts.parts]
  exact List.mem_cons_of_mem _ (List.mem_append_left _ hmem)

theorem RunParts.visible (hparts : RunParts label.wakeUps (exchanges label.trace) preparation
    ending label.result) :
    Visible (callbacks (exchanges label.trace)) (states (exchanges label.trace))
      label.result := by
  have hsilent : ∀ exchange ∈ preparation, Silent exchange := fun exchange hmem =>
    (hparts.prepares exchange hmem).silent
  rw [hparts.parts]
  simpa [callbacks_of_silent hsilent, states_of_silent hsilent, callbackOf, stateOf]
    using hparts.ending.visible

theorem RunParts.waits (hparts : RunParts label.wakeUps (exchanges label.trace) preparation
    ending label.result) (hwaiting : label.result = .stillWaiting) :
    (exchanges label.trace).countP isWait = label.wakeUps := by
  have hending := hparts.ending
  rw [hwaiting] at hending
  have hpreparing : preparation.countP isWait = 0 := by
    refine List.countP_eq_zero.mpr fun exchange hmem hwait => ?_
    obtain ⟨call, reply⟩ := exchange
    have hprepares := hparts.prepares _ hmem
    cases call <;> simp_all [Prepares, isWait]
  rw [hparts.parts, List.countP_cons_of_neg (by simp [isWait]), List.countP_append, hpreparing,
    hending.still_waiting.2, Nat.zero_add]

theorem lifecycleKept_of_step (hstep : ServiceStep application label next)
    (hdecided : label.ConfigPathDecided) : LifecycleKept label next := by
  cases hstep with
  | runs htranscript hproduces =>
      obtain ⟨preparation, ending, hparts⟩ := run_transcript htranscript
      refine ⟨hparts.visible.callbacksKept, hparts.visible.followsPath, fun hfinished => ?_,
        ⟨fun before outcome after hsplit => stop_requested hproduces hparts hsplit, ?_⟩,
        hparts.waits⟩
      · rw [Application.state_afterTrace]
        exact hparts.visible.finalState hfinished (hparts.returns hdecided) application.state
      · exact fun before after hsplit hcleared =>
          ⟨fun requested => checks_after_request hproduces hparts hsplit hcleared,
            waits_after_request hproduces hparts hsplit hcleared⟩

end Steps

theorem lifecycle_kept {start final : Application} {history : History Application RunLabel}
    (hrun : Run ServiceStep start history final)
    (hdecided : ∀ entry ∈ history, entry.2.ConfigPathDecided) :
    ∀ entry ∈ history, LifecycleKept entry.2 (entry.1.afterTrace entry.2.trace) := by
  rintro ⟨application, label⟩ hmem
  obtain ⟨before, next, _, hstep, _, _⟩ := hrun.step_of_mem hmem
  have hkept := lifecycleKept_of_step hstep (hdecided _ hmem)
  cases hstep
  exact hkept

/-- The request comes while the service starts. -/
def promptRun : RunLabel where
  serviceName := "svc"
  argv := ["svc"]
  wakeUps := 0
  trace := [.clears, .answered ⟨.pathExists ("./config/" ++ "svc" ++ ".conf"), .ok false⟩,
    .answered ⟨.openFile ("/etc/elap/" ++ "svc" ++ ".conf"), none⟩,
    .answered ⟨.sigaction .SIGINT, true⟩, .answered ⟨.sigaction .SIGTERM, true⟩,
    .answered (entered .initializing), .answered ⟨.initializeService, .ok true⟩,
    .answered (entered .initialized), .answered (entered .starting), .request,
    .answered ⟨.startService, .ok true⟩, .answered (entered .running), .checks true,
    .checks true, .answered (entered .stopping), .answered ⟨.stopService, .ok ()⟩,
    .answered ⟨.deinitializeService, .ok ()⟩, .answered (entered .stopped)]
  result := .returned 0

theorem promptRun_step (application : Application) :
    ServiceStep application promptRun ⟨true, .stopped⟩ := by
  have htranscript : Transcript (run promptRun.serviceName promptRun.argv promptRun.wakeUps)
      (exchanges promptRun.trace) promptRun.result := by
    repeat refine .ask _ ?_
    exact .done _
  have hproduces : application.Produces promptRun.trace := by
    simp [Application.Produces, promptRun, Justified.cons_iff, Justified.nil, Application.Allows,
      Application.afterTrace, Application.after, entered, TraceEntry.clears, TraceEntry.checks]
  exact ServiceStep.runs htranscript hproduces

theorem promptRuns_kept :
    LifecycleKept promptRun ((⟨false, .created⟩ : Application).afterTrace promptRun.trace) ∧
      LifecycleKept promptRun ((⟨true, .stopped⟩ : Application).afterTrace promptRun.trace) := by
  have hdecided : promptRun.ConfigPathDecided := by
    intro path thrown
    simp [promptRun, entered, TraceEntry.clears, TraceEntry.checks]
  have hfirst := Run.start.andThen promptRun (promptRun_step ⟨false, .created⟩)
  have hkept := lifecycle_kept (hfirst.andThen promptRun (promptRun_step _)) ?_
  · exact ⟨hkept _ (.head _), hkept _ (.tail _ (.head _))⟩
  intro entry hmem
  rcases List.mem_cons.mp hmem with rfl | hmem
  · exact hdecided
  · rw [List.mem_singleton.mp hmem]
    exact hdecided

/-- The directory of the local configuration cannot be searched. -/
def unreadableRun : RunLabel where
  serviceName := "svc"
  argv := ["svc"]
  wakeUps := 0
  trace := [.clears, .answered ⟨.pathExists ("./config/" ++ "svc" ++ ".conf"),
    .error (.exception "cannot get file status")⟩]
  result := .escaped (.exception "cannot get file status")

/-- The exception passes through `run`, which had ended in `Stopped` the time before. -/
theorem undecided_path_leaves_stopped :
    ¬ ∀ history final, Run ServiceStep ⟨false, .created⟩ history final →
      ∀ entry ∈ history, LifecycleKept entry.2 (entry.1.afterTrace entry.2.trace) := by
  intro hall
  have hstep : ServiceStep ⟨true, .stopped⟩ unreadableRun ⟨false, .stopped⟩ := by
    have htranscript : Transcript (run unreadableRun.serviceName unreadableRun.argv
        unreadableRun.wakeUps) (exchanges unreadableRun.trace) unreadableRun.result := by
      repeat refine .ask _ ?_
      exact .done _
    have hproduces : Application.Produces ⟨true, .stopped⟩ unreadableRun.trace := by
      simp [Application.Produces, unreadableRun, Justified.cons_iff, Justified.nil,
        Application.Allows, TraceEntry.clears]
    exact ServiceStep.runs htranscript hproduces
  have hkept := hall _ _ ((Run.start.andThen promptRun (promptRun_step _)).andThen unreadableRun
    hstep) (⟨true, .stopped⟩, unreadableRun) (List.mem_append_right _ (List.mem_singleton_self _))
  have hfinished : unreadableRun.result.Finished := fun hresult => nomatch hresult
  nomatch (hkept.finalState hfinished).stopped_iff.mp rfl

end ElapPlatform.Service
