import ElapPlatform.DeviceLifecycle
import ElapPlatform.InteractionRecording

/-!
# The calls that a manager makes

Every device reports the calls of its `open` and of its `close`.  The manager runs
the same code over them.
-/

namespace ElapPlatform.Device

open Interaction Interaction.Program Transition

/-- A call of the device with that number; `open` returns nothing when it throws. -/
inductive MethodCall where
  | opens (index : ℕ) (returned : Option Bool)
  | closes (index : ℕ)
  deriving DecidableEq, Repr

def OpenResult.returned : OpenResult → Option Bool
  | .opened => some true
  | .failed _ => some false
  | .thrown _ => none

def OpenAnswer.map {Device Device' : Type} (f : Device → Device') (answer : OpenAnswer Device) :
    OpenAnswer Device' :=
  ⟨answer.result, f answer.device⟩

namespace DeviceKind

variable {Question : Type} {Reply : Question → Type} (kind : DeviceKind Question Reply)

/-- The devices of a kind, each with its number, reporting their calls. -/
abbrev recorded : DeviceKind (Question ⊕ MethodCall) (RecordedReply MethodCall Reply) where
  Object := ℕ × kind.Object
  name device := kind.name device.2
  «open» device := do
    let answer ← (kind.open device.2).silent
    report (.opens device.1 answer.result.returned)
    return ⟨answer.result, (device.1, answer.device)⟩
  close device := do
    let after ← (kind.close device.2).silent
    report (.closes device.1)
    return (device.1, after)
  state device := kind.state device.2

def numbered (devices : List kind.Object) : List kind.recorded.Object :=
  (List.range devices.length).zip devices

section Forgetting

variable {kind}

theorem forget_open (device : kind.recorded.Object) :
    (kind.recorded.open device).forget (OpenAnswer.map Prod.snd) = kind.open device.2 := by
  have hsilent : (kind.recorded.open device).forget (OpenAnswer.map Prod.snd) =
      kind.open device.2 >>= fun answer => .done answer :=
    forget_silent_bind fun _ => rfl
  exact hsilent.trans (bind_done _)

theorem forget_close (device : kind.recorded.Object) :
    (kind.recorded.close device).forget Prod.snd = kind.close device.2 := by
  have hsilent : (kind.recorded.close device).forget Prod.snd =
      kind.close device.2 >>= fun after => .done after :=
    forget_silent_bind fun _ => rfl
  exact hsilent.trans (bind_done _)

theorem forget_closeAll (devices : List kind.recorded.Object) :
    (kind.recorded.closeAll devices).forget (List.map Prod.snd) =
      kind.closeAll (devices.map Prod.snd) := by
  induction devices with
  | nil => rfl
  | cons device rest ih =>
      rw [closeAll, List.map_cons, closeAll, ← forget_close device, ← ih]
      refine forget_bind fun closed => ?_
      exact forget_bind fun others => rfl

theorem forget_rollBack (opened : List kind.recorded.Object) :
    (kind.recorded.rollBack opened).forget (List.map Prod.snd) =
      kind.rollBack (opened.map Prod.snd) := by
  rw [rollBack, rollBack, ← List.map_reverse, ← forget_closeAll]
  refine forget_bind fun closed => ?_
  rw [pure_eq_done, forget_done, List.map_reverse]
  rfl

theorem forget_openRest (opened rest : List kind.recorded.Object) :
    (kind.recorded.openRest opened rest).forget (OpenAnswer.map (List.map Prod.snd)) =
      kind.openRest (opened.map Prod.snd) (rest.map Prod.snd) := by
  induction rest generalizing opened with
  | nil => rfl
  | cons device rest ih =>
      rw [openRest, List.map_cons, openRest, ← forget_open device]
      refine forget_bind fun answer => ?_
      obtain ⟨result, after⟩ := answer
      cases result with
      | opened =>
          have hrest := ih (opened ++ [after])
          rw [List.map_append] at hrest
          exact hrest
      | failed error =>
          dsimp only [OpenAnswer.map]
          rw [← forget_rollBack]
          refine forget_bind fun closed => ?_
          rw [pure_eq_done, forget_done, OpenAnswer.map, List.map_append]
          rfl
      | thrown errno =>
          dsimp only [OpenAnswer.map]
          rw [pure_eq_done, forget_done, OpenAnswer.map, List.map_append]
          rfl

/-- Without the reports, the manager's calls on recorded devices are those on the
devices. -/
theorem forget_openAll (devices : List kind.recorded.Object) :
    (kind.recorded.openAll devices).forget (OpenAnswer.map (List.map Prod.snd)) =
      kind.openAll (devices.map Prod.snd) :=
  forget_openRest [] devices

end Forgetting

/-! ## What the devices report -/

/-- The calls of `openAll` on devices with these numbers. -/
inductive OpenTrace (indices : List ℕ) : List MethodCall → OpenResult → Prop
  | opened : OpenTrace indices (indices.map (.opens · (some true))) .opened
  | failed {before after : List ℕ} {index : ℕ} {error : ErrorText}
      (hindices : indices = before ++ index :: after) :
      OpenTrace indices (before.map (.opens · (some true)) ++ .opens index (some false) ::
        before.reverse.map .closes) (.failed error)
  | thrown {before after : List ℕ} {index : ℕ} {errno : Errno}
      (hindices : indices = before ++ index :: after) :
      OpenTrace indices (before.map (.opens · (some true)) ++ [.opens index none])
        (.thrown errno)

section Reports

variable {kind} {exchanges : List (RecordedExchange MethodCall Reply)}

theorem open_reported {device : kind.recorded.Object}
    {answer : OpenAnswer kind.recorded.Object}
    (htranscript : Transcript (kind.recorded.open device) exchanges answer) :
    reported exchanges = [.opens device.1 answer.result.returned] ∧
      answer.device.1 = device.1 := by
  obtain ⟨first, _, result, rfl, hopen, hrest⟩ := transcript_bind_iff.mp htranscript
  obtain ⟨second, _, _, rfl, hreport, hdone⟩ := transcript_bind_iff.mp hrest
  obtain ⟨rfl, rfl⟩ := transcript_done_iff.mp hdone
  rw [transcript_report_iff.mp hreport]
  simp [hopen.reported_silent]

theorem close_reported {device after : kind.recorded.Object}
    (htranscript : Transcript (kind.recorded.close device) exchanges after) :
    reported exchanges = [.closes device.1] ∧ after.1 = device.1 := by
  obtain ⟨first, _, closed, rfl, hclose, hrest⟩ := transcript_bind_iff.mp htranscript
  obtain ⟨second, _, _, rfl, hreport, hdone⟩ := transcript_bind_iff.mp hrest
  obtain ⟨rfl, rfl⟩ := transcript_done_iff.mp hdone
  rw [transcript_report_iff.mp hreport]
  simp [hclose.reported_silent]

theorem closeAll_reported {devices after : List kind.recorded.Object}
    (htranscript : Transcript (kind.recorded.closeAll devices) exchanges after) :
    reported exchanges = (devices.map Prod.fst).map .closes ∧
      after.map Prod.fst = devices.map Prod.fst := by
  induction devices generalizing exchanges after with
  | nil =>
      obtain ⟨rfl, rfl⟩ := transcript_done_iff.mp htranscript
      exact ⟨rfl, rfl⟩
  | cons device rest ih =>
      rw [closeAll] at htranscript
      obtain ⟨first, _, closed, rfl, hclose, hrest⟩ := transcript_bind_iff.mp htranscript
      obtain ⟨second, _, others, rfl, hothers, hdone⟩ := transcript_bind_iff.mp hrest
      obtain ⟨rfl, rfl⟩ := transcript_done_iff.mp hdone
      obtain ⟨hfirst, hclosed⟩ := close_reported hclose
      obtain ⟨hsecond, hafter⟩ := ih hothers
      simp [hfirst, hsecond, hclosed, hafter]

theorem rollBack_reported {opened after : List kind.recorded.Object}
    (htranscript : Transcript (kind.recorded.rollBack opened) exchanges after) :
    reported exchanges = (opened.map Prod.fst).reverse.map .closes ∧
      after.map Prod.fst = opened.map Prod.fst := by
  rw [rollBack] at htranscript
  obtain ⟨first, _, closed, rfl, hclose, hdone⟩ := transcript_bind_iff.mp htranscript
  obtain ⟨rfl, rfl⟩ := transcript_done_iff.mp hdone
  obtain ⟨hfirst, hclosed⟩ := closeAll_reported hclose
  simp [hfirst, hclosed]

/-- The reports so far, from the devices that are open already, come first. -/
theorem openRest_reported {opened rest : List kind.recorded.Object}
    {answer : OpenAnswer (List kind.recorded.Object)}
    (htranscript : Transcript (kind.recorded.openRest opened rest) exchanges answer) :
    OpenTrace ((opened ++ rest).map Prod.fst)
        ((opened.map Prod.fst).map (.opens · (some true)) ++ reported exchanges)
        answer.result ∧
      answer.device.map Prod.fst = (opened ++ rest).map Prod.fst := by
  induction rest generalizing opened exchanges with
  | nil =>
      obtain ⟨rfl, rfl⟩ := transcript_done_iff.mp htranscript
      rw [reported_nil, List.append_nil, List.append_nil]
      exact ⟨.opened, rfl⟩
  | cons device rest ih =>
      rw [openRest] at htranscript
      obtain ⟨first, last, ⟨result, after⟩, rfl, hopen, hrest⟩ :=
        transcript_bind_iff.mp htranscript
      obtain ⟨hfirst, hsame⟩ := open_reported hopen
      have hafter : after.1 = device.1 := hsame
      have hindices : (opened ++ device :: rest).map Prod.fst =
          opened.map Prod.fst ++ device.1 :: rest.map Prod.fst := by
        simp
      rw [reported_append, hfirst]
      cases result with
      | opened =>
          have hnext := ih hrest
          simp only [List.map_append, List.map_cons, List.map_nil, hafter, List.append_assoc,
            List.cons_append, List.nil_append] at hnext
          simpa [OpenResult.returned] using hnext
      | failed error =>
          obtain ⟨second, _, closed, rfl, hclose, hdone⟩ := transcript_bind_iff.mp hrest
          obtain ⟨rfl, rfl⟩ := transcript_done_iff.mp hdone
          obtain ⟨hsecond, hclosed⟩ := rollBack_reported hclose
          rw [List.append_nil, hsecond]
          refine ⟨.failed hindices, ?_⟩
          rw [List.map_append, List.map_cons, hclosed, hindices, ← hafter]
      | thrown errno =>
          obtain ⟨rfl, rfl⟩ := transcript_done_iff.mp hrest
          rw [reported_nil]
          refine ⟨.thrown hindices, ?_⟩
          rw [List.map_append, List.map_cons, hindices, ← hafter]

theorem openAll_reported {devices : List kind.recorded.Object}
    {answer : OpenAnswer (List kind.recorded.Object)}
    (htranscript : Transcript (kind.recorded.openAll devices) exchanges answer) :
    OpenTrace (devices.map Prod.fst) (reported exchanges) answer.result ∧
      answer.device.map Prod.fst = devices.map Prod.fst :=
  openRest_reported htranscript

@[simp] theorem numbered_fst (devices : List kind.Object) :
    (kind.numbered devices).map Prod.fst = List.range devices.length :=
  List.map_fst_zip (by simp)

@[simp] theorem numbered_snd (devices : List kind.Object) :
    (kind.numbered devices).map Prod.snd = devices :=
  List.map_snd_zip (by simp)

end Reports

end DeviceKind

theorem before_of_range_eq {count index : ℕ} {before after : List ℕ}
    (hindices : List.range count = before ++ index :: after) :
    index < count ∧ before = List.range index := by
  have hlength : before.length < count := by
    have hcount := congrArg List.length hindices
    simp only [List.length_range, List.length_append, List.length_cons] at hcount
    omega
  have hindex : index = before.length := by
    have hget := congrArg (·[before.length]?) hindices
    simpa [hlength, eq_comm] using hget
  have htake := congrArg (List.take before.length) hindices
  rw [List.take_range, min_eq_left hlength.le, List.take_left, ← hindex] at htake
  exact ⟨hindex ▸ hlength, htake.symm⟩

/-! ## Closing again -/

/-- The device that was opened is closed afterwards. -/
def ClosesAgain (trace : List MethodCall) (index : ℕ) : Prop :=
  ∃ before after, trace = before ++ .opens index (some true) :: after ∧ .closes index ∈ after

/-- Unless everything was opened, what was opened is closed again. -/
def RollsBack (trace : List MethodCall) (result : OpenResult) : Prop :=
  result ≠ .opened → ∀ index, .opens index (some true) ∈ trace → ClosesAgain trace index

theorem closesAgain_of_failed {before : List ℕ} {index failing : ℕ} (hmem : index ∈ before) :
    ClosesAgain (before.map (.opens · (some true)) ++ .opens failing (some false) ::
      before.reverse.map .closes) index := by
  obtain ⟨earlier, later, rfl⟩ := List.append_of_mem hmem
  refine ⟨earlier.map (.opens · (some true)),
    later.map (.opens · (some true)) ++ .opens failing (some false) ::
      (earlier ++ index :: later).reverse.map .closes, ?_, ?_⟩
  · rw [List.map_append, List.map_cons, List.append_assoc, List.cons_append]
  · simp

theorem OpenTrace.rollsBack_iff {count : ℕ} {trace : List MethodCall} {result : OpenResult}
    (htrace : DeviceKind.OpenTrace (List.range count) trace result) :
    RollsBack trace result ↔ ∀ index, .opens index none ∈ trace → index = 0 := by
  cases htrace with
  | opened => exact iff_of_true (fun hnot => absurd rfl hnot) (by simp)
  | @failed before after failing error hindices =>
      refine iff_of_true (fun _ index hmem => ?_) (by simp)
      have hbefore : index ∈ before := by simpa using hmem
      exact closesAgain_of_failed hbefore
  | @thrown before after failing errno hindices =>
      obtain ⟨_, rfl⟩ := before_of_range_eq hindices
      constructor
      · intro hrolls index hmem
        have hindex : index = failing := by simpa using hmem
        by_contra hlater
        have hopened : MethodCall.opens 0 (some true) ∈
            (List.range failing).map (.opens · (some true)) ++ [.opens failing none] := by
          simp
          omega
        obtain ⟨_, rest, hsplit, hcloses⟩ := hrolls (by simp) 0 hopened
        have hmem' : MethodCall.closes 0 ∈
            (List.range failing).map (.opens · (some true)) ++ [.opens failing none] := by
          rw [hsplit]
          exact List.mem_append_right _ (List.mem_cons_of_mem _ hcloses)
        simp at hmem'
      · intro hfirst _ index hmem
        have hzero : failing = 0 := hfirst failing (by simp)
        subst hzero
        simp at hmem

section Opening

variable {Question : Type} {Reply : Question → Type} {kind : DeviceKind Question Reply}
  {devices : List kind.Object}

/-- `openAll` closes what it opened whenever it does not return `true`, exactly when no
device behind the first one leaves `open` by an exception. -/
theorem openAll_rolls_back_iff {exchanges : List (RecordedExchange MethodCall Reply)}
    {answer : OpenAnswer (List kind.recorded.Object)}
    (htranscript : Transcript (kind.recorded.openAll (kind.numbered devices)) exchanges answer) :
    RollsBack (reported exchanges) answer.result ↔
      ∀ index, .opens index none ∈ reported exchanges → index = 0 := by
  have hreported := (DeviceKind.openAll_reported htranscript).1
  rw [DeviceKind.numbered_fst] at hreported
  exact OpenTrace.rollsBack_iff hreported

theorem failed_pin_transcript :
    ∃ exchanges answer, Transcript (platformDevices.recorded.openAll
        (platformDevices.numbered [.fileDevice sensor, .gpioPin led])) exchanges answer ∧
      reported exchanges = [.opens 0 (some true), .opens 1 (some false), .closes 0] := by
  apply Exists.intro
  apply Exists.intro
  apply And.intro
  · apply Transcript.ask (.ok 3)
    apply Transcript.ask ()
    apply Transcript.ask (.ok true)
    apply Transcript.ask false
    apply Transcript.ask ()
    apply Transcript.ask (.ok ())
    apply Transcript.ask ()
    exact .done _
  · rfl

/-- The direction of the pin cannot be written, and the sensor is closed again. -/
theorem failed_pin_rolls_back :
    ∃ exchanges answer, Transcript (platformDevices.recorded.openAll
        (platformDevices.numbered [.fileDevice sensor, .gpioPin led])) exchanges answer ∧
      reported exchanges = [.opens 0 (some true), .opens 1 (some false), .closes 0] ∧
      RollsBack (reported exchanges) answer.result := by
  obtain ⟨exchanges, answer, htranscript, hreported⟩ := failed_pin_transcript
  refine ⟨exchanges, answer, htranscript, hreported,
    (openAll_rolls_back_iff htranscript).mpr ?_⟩
  simp [hreported]

theorem thrown_pin_transcript :
    ∃ exchanges answer, Transcript (platformDevices.recorded.openAll
        (platformDevices.numbered [.fileDevice sensor, .gpioPin led])) exchanges answer ∧
      reported exchanges = [.opens 0 (some true), .opens 1 none] ∧
      answer.result = .thrown 13 ∧
      answer.device.map Prod.snd =
        [.fileDevice { sensor with fd := some 3, state := .open }, .gpioPin led] := by
  apply Exists.intro
  apply Exists.intro
  apply And.intro
  · apply Transcript.ask (.ok 3)
    apply Transcript.ask ()
    -- `std::filesystem::exists` throws the error.
    apply Transcript.ask (.error 13)
    apply Transcript.ask ()
    exact .done _
  · exact ⟨rfl, rfl, rfl⟩

/-- The sensor stays open when the path of the pin cannot be looked up. -/
theorem thrown_pin_leaves_sensor_open :
    ∃ exchanges answer, Transcript (platformDevices.recorded.openAll
        (platformDevices.numbered [.fileDevice sensor, .gpioPin led])) exchanges answer ∧
      answer.result = .thrown 13 ∧
      answer.device.map Prod.snd =
        [.fileDevice { sensor with fd := some 3, state := .open }, .gpioPin led] ∧
      ¬ RollsBack (reported exchanges) answer.result := by
  obtain ⟨exchanges, answer, htranscript, hreported, hresult, hafter⟩ := thrown_pin_transcript
  refine ⟨exchanges, answer, htranscript, hresult, hafter, fun hrolls => ?_⟩
  rw [hreported, hresult] at hrolls
  obtain ⟨before, after, hsplit, hcloses⟩ := hrolls (by simp) 0 (by simp)
  have hmem : MethodCall.closes 0 ∈ [MethodCall.opens 0 (some true), .opens 1 none] := by
    rw [hsplit]
    exact List.mem_append_right _ (List.mem_cons_of_mem _ hcloses)
  simp at hmem

end Opening

/-! ## Sequences of calls -/

inductive DevicesCall where
  | openAll
  | closeAll
  deriving DecidableEq, Repr

/-- A call of the manager with the calls it made, and what `openAll` returned. -/
inductive RecordedCall where
  | openAll (trace : List MethodCall) (returned : Option Bool)
  | closeAll (trace : List MethodCall)
  deriving DecidableEq, Repr

def RecordedCall.call : RecordedCall → DevicesCall
  | .openAll _ _ => .openAll
  | .closeAll _ => .closeAll

/-- `openAll` stops at the first device that returns `false`, and closes those in front
of it, last to first. -/
def RecordedCall.Exact (count : ℕ) : RecordedCall → Prop
  | .openAll trace returned =>
      returned = some true ∧ trace = (List.range count).map (.opens · (some true)) ∨
        ∃ failing < count, returned = some false ∧
          trace = (List.range failing).map (.opens · (some true)) ++
            .opens failing (some false) :: (List.range failing).reverse.map .closes
  | .closeAll trace => trace = (List.range count).map .closes

namespace DeviceKind

variable {Question : Type} {Reply : Question → Type}

/-- No `open` throws. -/
def Returns (kind : DeviceKind Question Reply) : Prop :=
  ∀ device, (kind.open device).Ensures fun answer => ∀ errno, answer.result ≠ .thrown errno

inductive RecordedStep (kind : DeviceKind Question Reply) :
    List kind.recorded.Object → RecordedCall → List kind.recorded.Object → Prop
  | openAll {devices : List kind.recorded.Object}
      {exchanges : List (RecordedExchange MethodCall Reply)}
      {answer : OpenAnswer (List kind.recorded.Object)}
      (htranscript : Transcript (kind.recorded.openAll devices) exchanges answer) :
      RecordedStep kind devices (.openAll (reported exchanges) answer.result.returned)
        answer.device
  | closeAll {devices after : List kind.recorded.Object}
      {exchanges : List (RecordedExchange MethodCall Reply)}
      (htranscript : Transcript (kind.recorded.closeAll devices) exchanges after) :
      RecordedStep kind devices (.closeAll (reported exchanges)) after

section Runs

variable {kind : DeviceKind Question Reply}

theorem RecordedStep.indices {devices after : List kind.recorded.Object} {call : RecordedCall}
    (hstep : kind.RecordedStep devices call after) :
    after.map Prod.fst = devices.map Prod.fst := by
  cases hstep with
  | openAll htranscript => exact (openAll_reported htranscript).2
  | closeAll htranscript => exact (closeAll_reported htranscript).2

theorem OpensAll.returns (hreturns : kind.Returns) {devices : List kind.Object}
    {answer : OpenAnswer (List kind.Object)} (hopens : kind.OpensAll devices answer)
    (errno : Errno) : answer.result ≠ .thrown errno := by
  cases hopens with
  | opened hopened => simp
  | failed hopened hfailed hclosed => simp
  | @thrown before opened rest device after errno' hopened hthrown =>
      obtain ⟨exchanges, htranscript⟩ := hthrown
      exact absurd rfl (htranscript.ensured (hreturns device) errno')

/-- The transcripts of `openAll` are those on the recorded devices, without the reports. -/
theorem openAll_transcript_iff {devices : List kind.Object}
    {questions : List (Exchange Question Reply)} {answer : OpenAnswer (List kind.Object)} :
    Transcript (kind.openAll devices) questions answer ↔
      ∃ exchanges result, Transcript (kind.recorded.openAll (kind.numbered devices))
          exchanges result ∧
        asked exchanges = questions ∧ result.map (List.map Prod.snd) = answer := by
  have hforget := forget_openAll (kind.numbered devices)
  rw [numbered_snd] at hforget
  rw [← hforget]
  constructor
  · exact Transcript.recorded
  · rintro ⟨exchanges, result, htranscript, rfl, rfl⟩
    exact htranscript.forget _

theorem openAll_returns (hreturns : kind.Returns) {devices : List kind.recorded.Object}
    {exchanges : List (RecordedExchange MethodCall Reply)}
    {answer : OpenAnswer (List kind.recorded.Object)}
    (htranscript : Transcript (kind.recorded.openAll devices) exchanges answer) (errno : Errno) :
    answer.result ≠ .thrown errno := by
  have hforgotten := htranscript.forget (OpenAnswer.map (List.map Prod.snd))
  rw [forget_openAll] at hforgotten
  exact (openAll_transcript hforgotten).returns hreturns errno

theorem OpenTrace.exact {count : ℕ} {trace : List MethodCall} {result : OpenResult}
    (htrace : OpenTrace (List.range count) trace result)
    (hreturned : ∀ errno, result ≠ .thrown errno) :
    (RecordedCall.openAll trace result.returned).Exact count := by
  cases htrace with
  | opened => exact .inl ⟨rfl, rfl⟩
  | failed hindices =>
      obtain ⟨hcount, rfl⟩ := before_of_range_eq hindices
      exact .inr ⟨_, hcount, rfl, rfl⟩
  | thrown hindices => exact absurd rfl (hreturned _)

theorem RecordedStep.exact (hreturns : kind.Returns) {devices after : List kind.recorded.Object}
    {call : RecordedCall} {count : ℕ} (hstep : kind.RecordedStep devices call after)
    (hindices : devices.map Prod.fst = List.range count) : call.Exact count := by
  cases hstep with
  | openAll htranscript =>
      have htrace := (openAll_reported htranscript).1
      rw [hindices] at htrace
      exact htrace.exact (openAll_returns hreturns htranscript)
  | closeAll htranscript =>
      have htrace := (closeAll_reported htranscript).1
      rw [hindices] at htrace
      exact htrace

theorem run_indices {devices : List kind.Object} {history} {final : List kind.recorded.Object}
    (hrun : Run kind.RecordedStep (kind.numbered devices) history final) :
    final.map Prod.fst = List.range devices.length :=
  hrun.invariant (fun _ final => final.map Prod.fst = List.range devices.length)
    (numbered_fst devices) fun _ hindices hstep => hstep.indices.trans hindices

instance [∀ question, Nonempty (Reply question)] (question : Question ⊕ MethodCall) :
    Nonempty (RecordedReply MethodCall Reply question) :=
  match question with
  | .inl question => inferInstanceAs (Nonempty (Reply question))
  | .inr _ => ⟨()⟩

/-- Every sequence of calls has a run. -/
theorem exists_run [∀ question, Nonempty (Reply question)] (devices : List kind.recorded.Object)
    (calls : List DevicesCall) :
    ∃ history final, Run kind.RecordedStep devices history final ∧
      history.map (fun entry => entry.2.call) = calls := by
  induction calls using List.reverseRecOn with
  | nil => exact ⟨[], devices, .start, rfl⟩
  | append_singleton earlier call ih =>
      obtain ⟨history, final, hrun, rfl⟩ := ih
      cases call with
      | openAll =>
          obtain ⟨exchanges, answer, htranscript⟩ :=
            exists_transcript (kind.recorded.openAll final)
          exact ⟨_, _, hrun.snoc (.openAll htranscript), by rw [List.map_append]; rfl⟩
      | closeAll =>
          obtain ⟨exchanges, after, htranscript⟩ :=
            exists_transcript (kind.recorded.closeAll final)
          exact ⟨_, _, hrun.snoc (.closeAll htranscript), by rw [List.map_append]; rfl⟩

end Runs

end DeviceKind

/-- Every call of `openAll` and `closeAll`, in any sequence of them, makes exactly the
calls that it should. -/
theorem manager_calls_are_exact {Question : Type} {Reply : Question → Type}
    {kind : DeviceKind Question Reply} (hreturns : kind.Returns) {devices : List kind.Object}
    {history} {final : List kind.recorded.Object}
    (hrun : Run kind.RecordedStep (kind.numbered devices) history final) :
    ∀ entry ∈ history, entry.2.Exact devices.length := by
  rintro ⟨state, call⟩ hmem
  obtain ⟨before, next, hbefore, hstep, _, _⟩ := hrun.step_of_mem hmem
  exact hstep.exact hreturns (DeviceKind.run_indices hbefore)

/-- A device that opens as its script says, and without end when it is over. -/
def scriptedDevices : DeviceKind Empty Empty.elim where
  Object := List Bool
  name _ := ""
  «open» script := return ⟨if script.headD true then .opened else .failed (.message "stuck"),
    script.tail⟩
  close script := return script
  state _ := .closed

theorem scriptedDevices_returns : scriptedDevices.Returns := by
  intro script errno
  dsimp only
  split <;> simp

theorem scripted_openAll {devices after : List scriptedDevices.recorded.Object}
    {trace : List MethodCall} {returned : Option Bool}
    (hopens : ∃ exchanges answer,
      Transcript (scriptedDevices.recorded.openAll devices) exchanges answer ∧
        reported exchanges = trace ∧ answer.result.returned = returned ∧
        answer.device = after) :
    scriptedDevices.RecordedStep devices (.openAll trace returned) after := by
  obtain ⟨exchanges, answer, htranscript, rfl, rfl, rfl⟩ := hopens
  exact .openAll htranscript

theorem scripted_closeAll {devices after : List scriptedDevices.recorded.Object}
    {trace : List MethodCall}
    (hcloses : ∃ exchanges,
      Transcript (scriptedDevices.recorded.closeAll devices) exchanges after ∧
        reported exchanges = trace) :
    scriptedDevices.RecordedStep devices (.closeAll trace) after := by
  obtain ⟨exchanges, htranscript, rfl⟩ := hcloses
  exact .closeAll htranscript

/-- The second device opens at the second time only. -/
theorem scripted_calls_are_exact :
    ∃ history final, Run scriptedDevices.RecordedStep
        (scriptedDevices.numbered [[], [false]]) history final ∧
      history.map Prod.snd =
        [.openAll [.opens 0 (some true), .opens 1 (some false), .closes 0] (some false),
          .openAll [.opens 0 (some true), .opens 1 (some true)] (some true),
          .closeAll [.closes 0, .closes 1]] ∧
      ∀ entry ∈ history, entry.2.Exact 2 := by
  have hstart : Run scriptedDevices.RecordedStep (scriptedDevices.numbered [[], [false]]) []
      [(0, []), (1, [false])] := .start
  have hfirst := hstart.andThen
    (.openAll [.opens 0 (some true), .opens 1 (some false), .closes 0] (some false))
    (scripted_openAll ⟨_, _, .ask () (.ask () (.ask () (.done _))), rfl, rfl, rfl⟩)
  have hsecond := hfirst.andThen
    (.openAll [.opens 0 (some true), .opens 1 (some true)] (some true))
    (scripted_openAll ⟨_, _, .ask () (.ask () (.done _)), rfl, rfl, rfl⟩)
  have hlast := hsecond.andThen (.closeAll [.closes 0, .closes 1])
    (scripted_closeAll ⟨_, .ask () (.ask () (.done _)), rfl⟩)
  exact ⟨_, _, hlast, rfl, manager_calls_are_exact scriptedDevices_returns hlast⟩

end ElapPlatform.Device
