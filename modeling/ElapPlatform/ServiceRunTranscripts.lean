import ElapPlatform.ServiceLifecycle

/-!
# What `run` asks

A transcript of `run` clears the flag, prepares, and continues with one of nine
endings.
-/

namespace ElapPlatform.Service

open Config Interaction Interaction.Program Transition

/-! ## The shape of a transcript -/

def entered (state : ServiceState) : ServiceExchange := ⟨.setState state, ()⟩

def checked (requested : Bool) : ServiceExchange := ⟨.shutdownRequested, requested⟩

/-- Nothing but checks and waits, every wait right behind a check that found nothing.
Only a lack of wake-ups ends it without a request. -/
structure Waits (wakeUps : ℕ) (exchanges : List ServiceExchange) (requested : Bool) : Prop where
  ends : ∃ earlier, exchanges = earlier ++ [checked requested]
  only : ∀ exchange ∈ exchanges, exchange.1 = .shutdownRequested ∨ exchange.1 = .waitFor
  afterCheck : Justified (fun before exchange => exchange.1 = .waitFor →
    ∃ earlier, before = earlier ++ [checked false]) exchanges
  count : requested = false → exchanges.countP isWait = wakeUps

def launching (outcome : Except Thrown Bool) : List ServiceExchange :=
  [entered .initializing, ⟨.initializeService, .ok true⟩, entered .initialized,
    entered .starting, ⟨.startService, outcome⟩]

inductive Ending (wakeUps : ℕ) : List ServiceExchange → RunResult → Prop
  | escaped (thrown : Thrown) : Ending wakeUps [] (.escaped thrown)
  | refused (code : ℕ) (hcode : code ≠ 0) :
      Ending wakeUps [entered .failed] (.returned code)
  | initializeThrew (thrown : Thrown) :
      Ending wakeUps [entered .initializing, ⟨.initializeService, .error thrown⟩,
        entered .failed] (.returned 4)
  | initializeFailed (cleanup : Except Thrown Unit) :
      Ending wakeUps [entered .initializing, ⟨.initializeService, .ok false⟩,
        ⟨.deinitializeService, cleanup⟩, entered .failed] (.returned 4)
  | startFailed (outcome : Except Thrown Bool) (cleanup : Except Thrown Unit)
      (houtcome : outcome ≠ .ok true) :
      Ending wakeUps (launching outcome ++
        [⟨.deinitializeService, cleanup⟩, entered .failed]) (.returned 5)
  | waiting (waits : List ServiceExchange) (hwaits : Waits wakeUps waits false) :
      Ending wakeUps (launching (.ok true) ++ entered .running :: waits) .stillWaiting
  | stopThrew (waits : List ServiceExchange) (thrown : Thrown) (cleanup : Except Thrown Unit)
      (hwaits : Waits wakeUps waits true) :
      Ending wakeUps (launching (.ok true) ++ entered .running :: waits ++
        [entered .stopping, ⟨.stopService, .error thrown⟩, ⟨.deinitializeService, cleanup⟩,
          entered .failed]) (.returned 6)
  | deinitializeThrew (waits : List ServiceExchange) (thrown : Thrown)
      (hwaits : Waits wakeUps waits true) :
      Ending wakeUps (launching (.ok true) ++ entered .running :: waits ++
        [entered .stopping, ⟨.stopService, .ok ()⟩, ⟨.deinitializeService, .error thrown⟩,
          entered .failed]) (.returned 7)
  | stopped (waits : List ServiceExchange) (hwaits : Waits wakeUps waits true) :
      Ending wakeUps (launching (.ok true) ++ entered .running :: waits ++
        [entered .stopping, ⟨.stopService, .ok ()⟩, ⟨.deinitializeService, .ok ()⟩,
          entered .stopped]) (.returned 0)

/-- What is asked before the service is called. -/
def Prepares (exchange : ServiceExchange) : Prop :=
  match exchange.1 with
  | .pathExists _ => True
  | .openFile _ => True
  | .sigaction _ => True
  | _ => False

/-- What is asked once the preparation is over. -/
def Serves (exchange : ServiceExchange) : Prop :=
  match exchange.1 with
  | .clearShutdownRequest => False
  | .pathExists _ => False
  | .openFile _ => False
  | .sigaction _ => False
  | _ => True

section Transcripts

variable {exchanges : List ServiceExchange} {result : RunResult} {wakeUps : ℕ}

theorem Waits.serves {requested : Bool} (hwaits : Waits wakeUps exchanges requested) :
    ∀ exchange ∈ exchanges, Serves exchange := by
  intro exchange hmem
  rcases hwaits.only exchange hmem with hcheck | hwait
  · simp only [Serves, hcheck]
  · simp only [Serves, hwait]

theorem Ending.serves (hending : Ending wakeUps exchanges result) :
    ∀ exchange ∈ exchanges, Serves exchange := by
  cases hending with
  | escaped thrown => simp
  | refused code hcode => simp [Serves, entered]
  | initializeThrew thrown => simp [Serves, entered]
  | initializeFailed cleanup => simp [Serves, entered]
  | startFailed outcome cleanup houtcome => simp [Serves, launching, entered]
  | waiting waits hwaits =>
      simpa [Serves, launching, entered, or_imp, forall_and] using hwaits.serves
  | stopThrew waits thrown cleanup hwaits =>
      simpa [Serves, launching, entered, or_imp, forall_and] using hwaits.serves
  | deinitializeThrew waits thrown hwaits =>
      simpa [Serves, launching, entered, or_imp, forall_and] using hwaits.serves
  | stopped waits hwaits =>
      simpa [Serves, launching, entered, or_imp, forall_and] using hwaits.serves

theorem failWith_transcript {code : ℕ} (htranscript : Transcript (failWith code) exchanges result) :
    exchanges = [entered .failed] ∧ result = .returned code := by
  simp only [failWith, setState, ask_bind, done_bind, pure_eq_done, transcript_ask_iff,
    transcript_done_iff] at htranscript
  obtain ⟨_, _, rfl, rfl, rfl⟩ := htranscript
  exact ⟨rfl, rfl⟩

theorem cleanUpAndFail_transcript {code : ℕ}
    (htranscript : Transcript (cleanUpAndFail code) exchanges result) :
    ∃ cleanup, exchanges = [⟨.deinitializeService, cleanup⟩, entered .failed] ∧
      result = .returned code := by
  simp only [cleanUpAndFail, deinitializeService, ask_bind, done_bind,
    transcript_ask_iff] at htranscript
  obtain ⟨cleanup, rest, rfl, hfail⟩ := htranscript
  obtain ⟨rfl, rfl⟩ := failWith_transcript hfail
  exact ⟨cleanup, rfl, rfl⟩

/-! ### The wait -/

theorem waits_of_check {requested : Bool} (hcount : requested = false → wakeUps = 0) :
    Waits wakeUps [checked requested] requested where
  ends := ⟨[], rfl⟩
  only := fun exchange hmem => .inl (by rw [List.mem_singleton.mp hmem]; rfl)
  afterCheck := Justified.cons_iff.mpr ⟨(fun hcall => nomatch hcall), .nil⟩
  count := fun hrequested => (hcount hrequested).symm

/-- A check that finds nothing, a wait, and the rest of the waiting. -/
theorem Waits.after {requested : Bool} (hwaits : Waits wakeUps exchanges requested)
    (timedOut : Bool) :
    Waits (wakeUps + 1) (checked false :: ⟨.waitFor, timedOut⟩ :: exchanges) requested where
  ends := by
    obtain ⟨earlier, rfl⟩ := hwaits.ends
    exact ⟨checked false :: ⟨.waitFor, timedOut⟩ :: earlier, rfl⟩
  only := by
    intro exchange hmem
    rcases List.mem_cons.mp hmem with rfl | hmem
    · exact .inl rfl
    rcases List.mem_cons.mp hmem with rfl | hmem
    · exact .inr rfl
    · exact hwaits.only exchange hmem
  afterCheck := by
    refine Justified.cons_iff.mpr ⟨(fun hcall => nomatch hcall),
      Justified.cons_iff.mpr ⟨fun _ => ⟨[], rfl⟩, ?_⟩⟩
    refine hwaits.afterCheck.mono fun before exchange hbefore hwait => ?_
    obtain ⟨earlier, rfl⟩ := hbefore hwait
    exact ⟨checked false :: ⟨.waitFor, timedOut⟩ :: earlier, rfl⟩
  count := by
    intro hrequested
    rw [List.countP_cons_of_neg (by simp [isWait, checked]), List.countP_cons_of_pos rfl,
      hwaits.count hrequested]

/-- A check whose answer is not used. -/
theorem Waits.afterUnused {requested : Bool} (hwaits : Waits wakeUps exchanges requested)
    (unused : Bool) : Waits wakeUps (checked unused :: exchanges) requested where
  ends := by
    obtain ⟨earlier, rfl⟩ := hwaits.ends
    exact ⟨checked unused :: earlier, rfl⟩
  only := by
    intro exchange hmem
    rcases List.mem_cons.mp hmem with rfl | hmem
    · exact .inl rfl
    · exact hwaits.only exchange hmem
  afterCheck := by
    refine Justified.cons_iff.mpr ⟨(fun hcall => nomatch hcall), ?_⟩
    refine hwaits.afterCheck.mono fun before exchange hbefore hwait => ?_
    obtain ⟨earlier, rfl⟩ := hbefore hwait
    exact ⟨checked unused :: earlier, rfl⟩
  count := by
    intro hrequested
    rw [List.countP_cons_of_neg (by simp [isWait, checked]), hwaits.count hrequested]

theorem waitUntilRequested_transcript {requested : Bool}
    (htranscript : Transcript (waitUntilRequested wakeUps) exchanges requested) :
    Waits wakeUps exchanges requested := by
  induction wakeUps generalizing exchanges with
  | zero =>
      simp only [waitUntilRequested, shutdownRequested, transcript_ask_iff,
        transcript_done_iff] at htranscript
      obtain ⟨_, _, rfl, rfl, rfl⟩ := htranscript
      exact waits_of_check fun _ => rfl
  | succ wakeUps ih =>
      simp only [waitUntilRequested, shutdownRequested, ask_bind, done_bind,
        transcript_ask_iff] at htranscript
      obtain ⟨reply, rest, rfl, hrest⟩ := htranscript
      cases reply with
      | true =>
          simp only [if_true, pure_eq_done, transcript_done_iff] at hrest
          obtain ⟨rfl, rfl⟩ := hrest
          exact waits_of_check fun hrequested => by cases hrequested
      | false =>
          simp only [Bool.false_eq_true, if_false, waitFor, ask_bind, done_bind,
            transcript_ask_iff] at hrest
          obtain ⟨timedOut, later, rfl, hlater⟩ := hrest
          exact (ih hlater).after timedOut

theorem awaitShutdown_transcript {requested : Bool}
    (htranscript : Transcript (awaitShutdown wakeUps) exchanges requested) :
    Waits wakeUps exchanges requested := by
  induction wakeUps generalizing exchanges with
  | zero =>
      simp only [awaitShutdown, waitForRequest, shutdownRequested, ask_bind, done_bind,
        transcript_ask_iff] at htranscript
      obtain ⟨reply, rest, rfl, hrest⟩ := htranscript
      cases reply with
      | true => exact (waitUntilRequested_transcript hrest).afterUnused true
      | false =>
          obtain ⟨rfl, rfl⟩ := transcript_done_iff.mp hrest
          exact waits_of_check fun _ => rfl
  | succ wakeUps ih =>
      simp only [awaitShutdown, waitForRequest, shutdownRequested, ask_bind, done_bind,
        transcript_ask_iff] at htranscript
      obtain ⟨reply, rest, rfl, hrest⟩ := htranscript
      cases reply with
      | true => exact (waitUntilRequested_transcript hrest).afterUnused true
      | false =>
          simp only [Bool.false_eq_true, if_false, waitFor, ask_bind, done_bind,
            transcript_ask_iff] at hrest
          obtain ⟨timedOut, rest, rfl, hrest⟩ := hrest
          cases timedOut with
          | true =>
              obtain ⟨unused, later, rfl, hlater⟩ := transcript_ask_iff.mp hrest
              exact ((waitUntilRequested_transcript hlater).afterUnused unused).after true
          | false => exact (ih hrest).after false

/-! ### The phases -/

theorem runStopping_transcript (htranscript : Transcript runStopping exchanges result)
    {waits : List ServiceExchange} (hwaits : Waits wakeUps waits true) :
    Ending wakeUps (launching (.ok true) ++ entered .running :: waits ++ exchanges) result := by
  simp only [runStopping, setState, stopService, ask_bind, done_bind,
    transcript_ask_iff] at htranscript
  obtain ⟨_, _, rfl, outcome, rest, rfl, hrest⟩ := htranscript
  cases outcome with
  | error thrown =>
      obtain ⟨cleanup, rfl, rfl⟩ := cleanUpAndFail_transcript hrest
      exact .stopThrew waits thrown cleanup hwaits
  | ok =>
      obtain ⟨cleanup, last, rfl, hlast⟩ := transcript_ask_iff.mp hrest
      cases cleanup with
      | error thrown =>
          obtain ⟨rfl, rfl⟩ := failWith_transcript hlast
          exact .deinitializeThrew waits thrown hwaits
      | ok =>
          obtain ⟨_, _, rfl, hdone⟩ := transcript_ask_iff.mp hlast
          obtain ⟨rfl, rfl⟩ := transcript_done_iff.mp hdone
          exact .stopped waits hwaits

theorem runStarting_transcript (htranscript : Transcript (runStarting wakeUps) exchanges result) :
    Ending wakeUps (entered .initializing :: ⟨.initializeService, .ok true⟩ :: exchanges)
      result := by
  simp only [runStarting, setState, startService, ask_bind, done_bind,
    transcript_ask_iff] at htranscript
  obtain ⟨_, _, rfl, _, _, rfl, outcome, rest, rfl, hrest⟩ := htranscript
  cases outcome with
  | error thrown =>
      obtain ⟨cleanup, rfl, rfl⟩ := cleanUpAndFail_transcript hrest
      exact .startFailed (.error thrown) cleanup (by simp)
  | ok started =>
      cases started with
      | false =>
          obtain ⟨cleanup, rfl, rfl⟩ := cleanUpAndFail_transcript hrest
          exact .startFailed (.ok false) cleanup (by simp)
      | true =>
          obtain ⟨_, later, rfl, hlater⟩ := transcript_ask_iff.mp hrest
          obtain ⟨waits, last, requested, rfl, hawait, hlast⟩ := transcript_bind_iff.mp hlater
          have hwaits := awaitShutdown_transcript hawait
          cases requested with
          | true => exact runStopping_transcript hlast hwaits
          | false =>
              obtain ⟨rfl, rfl⟩ := transcript_done_iff.mp hlast
              rw [List.append_nil]
              exact .waiting waits hwaits

theorem runInitializing_transcript
    (htranscript : Transcript (runInitializing wakeUps) exchanges result) :
    Ending wakeUps exchanges result := by
  simp only [runInitializing, setState, initializeService, ask_bind, done_bind,
    transcript_ask_iff] at htranscript
  obtain ⟨_, _, rfl, outcome, rest, rfl, hrest⟩ := htranscript
  cases outcome with
  | error thrown =>
      obtain ⟨rfl, rfl⟩ := failWith_transcript hrest
      exact .initializeThrew thrown
  | ok succeeded =>
      cases succeeded with
      | false =>
          obtain ⟨cleanup, rfl, rfl⟩ := cleanUpAndFail_transcript hrest
          exact .initializeFailed cleanup
      | true => exact runStarting_transcript hrest

/-! ### The preparation -/

theorem selectConfigPath_transcript {argv : List String} {serviceName : String}
    {selection : Except Thrown ConfigSelection}
    (htranscript : Transcript (selectConfigPath argv serviceName) exchanges selection) :
    (∀ exchange ∈ exchanges, Prepares exchange) ∧
      ∀ thrown, selection = .error thrown →
        ∃ path, ⟨.pathExists path, .error thrown⟩ ∈ exchanges := by
  unfold selectConfigPath at htranscript
  cases hexplicit : explicitConfigPath argv.tail with
  | some path =>
      simp only [hexplicit, pure_eq_done, transcript_done_iff] at htranscript
      obtain ⟨rfl, rfl⟩ := htranscript
      simp
  | none =>
      simp only [hexplicit, pathExists, ask_bind, done_bind, transcript_ask_iff] at htranscript
      obtain ⟨reply, rest, rfl, hrest⟩ := htranscript
      rcases reply with thrown | found
      · obtain ⟨rfl, rfl⟩ := transcript_done_iff.mp hrest
        simp [Prepares]
      · cases found <;>
        · obtain ⟨rfl, rfl⟩ := transcript_done_iff.mp hrest
          simp [Prepares]

theorem install_transcript {installed : Bool}
    (htranscript : Transcript install exchanges installed) :
    ∀ exchange ∈ exchanges, Prepares exchange := by
  simp only [install, sigaction, ask_bind, done_bind, transcript_ask_iff] at htranscript
  obtain ⟨reply, rest, rfl, hrest⟩ := htranscript
  cases reply with
  | false =>
      obtain ⟨rfl, rfl⟩ := transcript_done_iff.mp hrest
      simp [Prepares]
  | true =>
      obtain ⟨second, last, rfl, hlast⟩ := transcript_ask_iff.mp hrest
      obtain ⟨rfl, rfl⟩ := transcript_done_iff.mp hlast
      simp [Prepares]

theorem Ending.nil_of_escaped {thrown : Thrown}
    (hending : Ending wakeUps exchanges (.escaped thrown)) : exchanges = [] := by
  cases hending
  rfl

/-- The three parts of a transcript of `run`. -/
structure RunParts (wakeUps : ℕ) (exchanges preparation ending : List ServiceExchange)
    (result : RunResult) : Prop where
  parts : exchanges = ⟨.clearShutdownRequest, ()⟩ :: (preparation ++ ending)
  prepares : ∀ exchange ∈ preparation, Prepares exchange
  ending : Ending wakeUps ending result
  escapes : ∀ thrown, result = .escaped thrown →
    ∃ path, ⟨.pathExists path, .error thrown⟩ ∈ preparation

theorem run_transcript {serviceName : String} {argv : List String}
    (htranscript : Transcript (run serviceName argv wakeUps) exchanges result) :
    ∃ preparation ending, RunParts wakeUps exchanges preparation ending result := by
  simp only [run, runSelected, clearShutdownRequest, openFile, ask_bind, done_bind,
    transcript_ask_iff] at htranscript
  obtain ⟨_, _, rfl, hrun⟩ := htranscript
  obtain ⟨selecting, later, selection, rfl, hselect, hlater⟩ := transcript_bind_iff.mp hrun
  obtain ⟨hselecting, hthrown⟩ := selectConfigPath_transcript hselect
  cases selection with
  | error thrown =>
      obtain ⟨rfl, rfl⟩ := transcript_done_iff.mp hlater
      refine ⟨selecting, [], rfl, hselecting, .escaped thrown, fun other hother => ?_⟩
      cases hother
      exact hthrown thrown rfl
  | ok selection =>
      obtain ⟨file, rest, rfl, hrest⟩ := transcript_ask_iff.mp hlater
      have hopening : ∀ exchange ∈ selecting ++ [⟨.openFile selection.path, file⟩],
          Prepares exchange := by
        intro exchange hmem
        rcases List.mem_append.mp hmem with hmem | hmem
        · exact hselecting exchange hmem
        · rw [List.mem_singleton.mp hmem]
          trivial
      split at hrest
      · obtain ⟨rfl, rfl⟩ := failWith_transcript hrest
        refine ⟨selecting ++ [⟨.openFile selection.path, file⟩], [entered .failed], ?_, hopening,
          .refused 2 (by decide), fun thrown hthrown => by cases hthrown⟩
        rw [List.append_assoc]
        rfl
      · obtain ⟨installing, ending, installed, rfl, hinstall, hending⟩ :=
          transcript_bind_iff.mp hrest
        have hprepares : ∀ exchange ∈
            (selecting ++ [⟨.openFile selection.path, file⟩]) ++ installing,
            Prepares exchange := by
          intro exchange hmem
          rcases List.mem_append.mp hmem with hmem | hmem
          · exact hopening exchange hmem
          · exact install_transcript hinstall exchange hmem
        have hkept : Ending wakeUps ending result ∧ ending ≠ [] := by
          cases installed with
          | false =>
              obtain ⟨rfl, rfl⟩ := failWith_transcript hending
              exact ⟨.refused 3 (by decide), List.cons_ne_nil _ _⟩
          | true =>
              refine ⟨runInitializing_transcript hending, ?_⟩
              obtain ⟨_, _, rfl, _⟩ := transcript_ask_iff.mp hending
              exact List.cons_ne_nil _ _
        refine ⟨_, ending, by simp, hprepares, hkept.1, fun thrown hescaped => ?_⟩
        subst hescaped
        exact absurd hkept.1.nil_of_escaped hkept.2

end Transcripts

end ElapPlatform.Service
