import ElapPlatform.DeviceManagerModel
import ElapPlatform.TransitionRun

/-!
# The states of the devices

A closed pin reports `Closed`.  A closed file device reports `Closed` unless its last
`open` failed: `close` leaves that state alone.
-/

namespace ElapPlatform.Device

open Interaction Interaction.Program Transition

/-- What `state()` is after `open`. -/
def OpenResult.Leaves (result : OpenResult) (state : DeviceState) : Prop :=
  match result with
  | .opened => state = .open
  | .failed _ => state = .failed
  | .thrown _ => True

abbrev DeviceExchange := Exchange DeviceCall DeviceCall.Reply

/-! ## File devices -/

namespace FileDevice

variable {device after : FileDevice} {exchanges : List DeviceExchange}

theorem closeFd_transcript (htranscript : Transcript device.closeFd exchanges after) :
    after = { device with fd := none } := by
  unfold closeFd at htranscript
  split at htranscript
  · obtain ⟨first, _, reply, rfl, _, hdone⟩ := transcript_bind_iff.mp htranscript
    exact (transcript_done_iff.mp hdone).2
  · rename_i hfd
    obtain ⟨_, rfl⟩ := transcript_done_iff.mp htranscript
    rw [← hfd]

theorem close_transcript (htranscript : Transcript device.close exchanges after) :
    after = { device with
      fd := none
      state := if device.state = .failed then .failed else .closed } := by
  unfold close at htranscript
  obtain ⟨first, _, detached, rfl, hclose, hrest⟩ := transcript_bind_iff.mp htranscript
  cases closeFd_transcript hclose
  by_cases hfailed : device.state = .failed
  · simp only [hfailed, ne_eq, not_true_eq_false, if_false] at hrest
    rw [(transcript_done_iff.mp hrest).2, if_pos hfailed]
  · simp only [ne_eq, hfailed, not_false_eq_true, if_true] at hrest
    rw [(transcript_done_iff.mp hrest).2, if_neg hfailed]

theorem open_state {answer : OpenAnswer FileDevice}
    (htranscript : Transcript device.open exchanges answer) :
    answer.result.Leaves answer.device.state := by
  unfold FileDevice.open at htranscript
  obtain ⟨first, _, closed, rfl, _, hrest⟩ := transcript_bind_iff.mp htranscript
  obtain ⟨second, _, reply, rfl, _, hdone⟩ := transcript_bind_iff.mp hrest
  cases reply with
  | error errno =>
      obtain ⟨_, rfl⟩ := transcript_done_iff.mp hdone
      rfl
  | ok fd =>
      obtain ⟨_, rfl⟩ := transcript_done_iff.mp hdone
      rfl

end FileDevice

/-! ## GPIO pins -/

namespace GpioPin

variable {device : GpioPin} {exchanges : List DeviceExchange} {answer : OpenAnswer GpioPin}

theorem close_state {after : GpioPin} (htranscript : Transcript device.close exchanges after) :
    after.state = .closed := by
  unfold close at htranscript
  obtain ⟨first, _, unexported, rfl, _, hdone⟩ := transcript_bind_iff.mp htranscript
  obtain ⟨_, rfl⟩ := transcript_done_iff.mp hdone
  rfl

theorem openDirection_state (htranscript : Transcript device.openDirection exchanges answer) :
    answer.result.Leaves answer.device.state := by
  unfold openDirection at htranscript
  obtain ⟨first, _, written, rfl, _, hrest⟩ := transcript_bind_iff.mp htranscript
  cases written with
  | none =>
      obtain ⟨_, rfl⟩ := transcript_done_iff.mp hrest
      rfl
  | some error =>
      obtain ⟨second, _, unexported, rfl, _, hdone⟩ := transcript_bind_iff.mp hrest
      obtain ⟨_, rfl⟩ := transcript_done_iff.mp hdone
      rfl

theorem openExport_state (htranscript : Transcript device.openExport exchanges answer) :
    answer.result.Leaves answer.device.state := by
  unfold openExport at htranscript
  obtain ⟨first, _, written, rfl, _, hrest⟩ := transcript_bind_iff.mp htranscript
  cases written with
  | some error =>
      obtain ⟨_, rfl⟩ := transcript_done_iff.mp hrest
      rfl
  | none =>
      obtain ⟨second, _, found, rfl, _, hfound⟩ := transcript_bind_iff.mp hrest
      rcases found with errno | _ | _
      · obtain ⟨_, rfl⟩ := transcript_done_iff.mp hfound
        trivial
      · obtain ⟨third, _, unexported, rfl, _, hdone⟩ := transcript_bind_iff.mp hfound
        obtain ⟨_, rfl⟩ := transcript_done_iff.mp hdone
        rfl
      · exact openDirection_state hfound

theorem open_state (htranscript : Transcript device.open exchanges answer) :
    answer.result.Leaves answer.device.state := by
  unfold GpioPin.open at htranscript
  split at htranscript
  · obtain ⟨_, rfl⟩ := transcript_done_iff.mp htranscript
    rfl
  · obtain ⟨first, _, found, rfl, _, hrest⟩ := transcript_bind_iff.mp htranscript
    rcases found with errno | _ | _
    · obtain ⟨_, rfl⟩ := transcript_done_iff.mp hrest
      trivial
    · exact openExport_state hrest
    · exact openDirection_state hrest

end GpioPin

/-! ## Devices of both classes -/

inductive PlatformDevice where
  | fileDevice (device : FileDevice)
  | gpioPin (device : GpioPin)
  deriving DecidableEq, Repr

namespace PlatformDevice

def name : PlatformDevice → String
  | .fileDevice device => cName device.name
  | .gpioPin device => cName device.name

def state : PlatformDevice → DeviceState
  | .fileDevice device => device.state
  | .gpioPin device => device.state

def «open» : PlatformDevice → DeviceProgram (OpenAnswer PlatformDevice)
  | .fileDevice device => do
      let answer ← device.open
      return ⟨answer.result, .fileDevice answer.device⟩
  | .gpioPin device => do
      let answer ← device.open
      return ⟨answer.result, .gpioPin answer.device⟩

def close : PlatformDevice → DeviceProgram PlatformDevice
  | .fileDevice device => do return .fileDevice (← device.close)
  | .gpioPin device => do return .gpioPin (← device.close)

/-- A file device in the state `Failed`. -/
def FailedFile : PlatformDevice → Prop
  | .fileDevice device => device.state = .failed
  | .gpioPin _ => False

end PlatformDevice

abbrev platformDevices : DeviceKind DeviceCall DeviceCall.Reply where
  Object := PlatformDevice
  name := PlatformDevice.name
  «open» := PlatformDevice.open
  close := PlatformDevice.close
  state := PlatformDevice.state

section States

variable {device after : PlatformDevice} {devices next : List PlatformDevice}
  {result : OpenResult}

theorem open_leaves (hopens : platformDevices.Opens device result after) :
    result.Leaves after.state := by
  obtain ⟨exchanges, htranscript⟩ := hopens
  cases device with
  | fileDevice device =>
      obtain ⟨first, _, answer, rfl, hopen, hdone⟩ := transcript_bind_iff.mp htranscript
      cases (transcript_done_iff.mp hdone).2
      exact FileDevice.open_state hopen
  | gpioPin device =>
      obtain ⟨first, _, answer, rfl, hopen, hdone⟩ := transcript_bind_iff.mp htranscript
      cases (transcript_done_iff.mp hdone).2
      exact GpioPin.open_state hopen

theorem close_closed_iff (hcloses : platformDevices.Closes device after) :
    after.state = .closed ↔ ¬ device.FailedFile := by
  obtain ⟨exchanges, htranscript⟩ := hcloses
  cases device with
  | fileDevice device =>
      obtain ⟨first, _, closed, rfl, hclose, hdone⟩ := transcript_bind_iff.mp htranscript
      cases (transcript_done_iff.mp hdone).2
      cases FileDevice.close_transcript hclose
      by_cases hfailed : device.state = .failed <;>
        simp [PlatformDevice.state, PlatformDevice.FailedFile, hfailed]
  | gpioPin device =>
      obtain ⟨first, _, closed, rfl, hclose, hdone⟩ := transcript_bind_iff.mp htranscript
      cases (transcript_done_iff.mp hdone).2
      have hclosed := GpioPin.close_state hclose
      exact iff_of_true hclosed not_false

theorem closeAll_closed_iff (hcloses : List.Forall₂ platformDevices.Closes devices next) :
    (∀ device ∈ next, PlatformDevice.state device = .closed) ↔
      ∀ device ∈ devices, ¬ PlatformDevice.FailedFile device := by
  induction hcloses with
  | nil => simp
  | cons hclose _ ih =>
      rw [List.forall_mem_cons, List.forall_mem_cons, ih, close_closed_iff hclose]

/-! ### Rolling back -/

/-- `close` comes after a successful `open`, so it reports `Closed` for both classes. -/
theorem rolledBack_closed {before opened closed : List PlatformDevice}
    (hopened : List.Forall₂ (platformDevices.Opens · .opened ·) before opened)
    (hclosed : List.Forall₂ platformDevices.Closes opened closed) :
    ∀ device ∈ closed, PlatformDevice.state device = .closed := by
  rw [closeAll_closed_iff hclosed]
  clear hclosed
  induction hopened with
  | nil => simp
  | @cons device after _ _ hopen _ ih =>
      rw [List.forall_mem_cons]
      refine ⟨fun hfailed => ?_, ih⟩
      have hstate : PlatformDevice.state after = .open := open_leaves hopen
      cases after with
      | fileDevice after => cases hstate.symm.trans hfailed
      | gpioPin after => exact hfailed

end States

/-! ## Runs of a manager -/

inductive ManagerCall where
  | open (index : ℕ)
  | close (index : ℕ)
  | openAll (result : OpenResult)
  | closeAll
  deriving DecidableEq, Repr

inductive ManagerStep : List PlatformDevice → ManagerCall → List PlatformDevice → Prop
  | opens {devices : List PlatformDevice} {index : ℕ} {device after : PlatformDevice}
      {result : OpenResult} (hdevice : devices[index]? = some device)
      (hopens : platformDevices.Opens device result after) :
      ManagerStep devices (.open index) (devices.set index after)
  | closes {devices : List PlatformDevice} {index : ℕ} {device after : PlatformDevice}
      (hdevice : devices[index]? = some device)
      (hcloses : platformDevices.Closes device after) :
      ManagerStep devices (.close index) (devices.set index after)
  | opensAll {devices after : List PlatformDevice} {result : OpenResult}
      {exchanges : List DeviceExchange}
      (htranscript : Transcript (platformDevices.openAll devices) exchanges ⟨result, after⟩) :
      ManagerStep devices (.openAll result) after
  | closesAll {devices after : List PlatformDevice} {exchanges : List DeviceExchange}
      (htranscript : Transcript (platformDevices.closeAll devices) exchanges after) :
      ManagerStep devices .closeAll after

/-- What was closed reports `Closed`.  Before it returns `false`, `openAll` has closed
the devices in front of the one that failed. -/
def ReportsClosed (call : ManagerCall) (after : List PlatformDevice) : Prop :=
  match call with
  | .open _ => True
  | .close index => ∀ device ∈ after[index]?, device.state = .closed
  | .openAll (.failed _) =>
      ∀ device ∈ after.takeWhile fun device => device.state ≠ .failed, device.state = .closed
  | .openAll _ => True
  | .closeAll => ∀ device ∈ after, device.state = .closed

abbrev ReportingStep (devices : List PlatformDevice) (call : ManagerCall)
    (next : List PlatformDevice) : Prop :=
  ManagerStep devices call next ∧ ReportsClosed call next

/-- No file device is closed that failed to open. -/
def SparesFailed (devices : List PlatformDevice) (call : ManagerCall) : Prop :=
  match call with
  | .close index => ∀ device ∈ devices[index]?, ¬ device.FailedFile
  | .closeAll => ∀ device ∈ devices, ¬ device.FailedFile
  | _ => True

abbrev ManagerHistory := History (List PlatformDevice) ManagerCall

section Manager

variable {devices next : List PlatformDevice} {call : ManagerCall}

theorem openAll_reportsClosed {devices : List platformDevices.Object}
    {answer : OpenAnswer (List platformDevices.Object)}
    (hopens : platformDevices.OpensAll devices answer) :
    ReportsClosed (.openAll answer.result) answer.device := by
  cases hopens with
  | opened => trivial
  | thrown => trivial
  | @failed before opened closed rest device after error hopened hfailed hclosed =>
      have hstates := rolledBack_closed hopened hclosed
      have hstate : PlatformDevice.state after = .failed := open_leaves hfailed
      have hrunning : ∀ device ∈ closed, decide (PlatformDevice.state device ≠ .failed) := by
        intro device hmem
        simp [hstates device hmem]
      intro device hmem
      rw [List.takeWhile_append_of_pos hrunning, List.takeWhile_cons_of_neg (by simp [hstate]),
        List.append_nil] at hmem
      exact hstates device hmem

theorem ManagerStep.reportsClosed_iff (hstep : ManagerStep devices call next) :
    ReportsClosed call next ↔ SparesFailed devices call := by
  cases hstep with
  | opens => exact Iff.rfl
  | @closes index device after hdevice hcloses =>
      have hlt : index < devices.length := (List.getElem?_eq_some_iff.mp hdevice).1
      unfold ReportsClosed SparesFailed
      simp only [List.getElem?_set_self hlt, hdevice, Option.mem_some_iff, forall_eq']
      exact close_closed_iff hcloses
  | opensAll htranscript =>
      have hreports := openAll_reportsClosed (DeviceKind.openAll_transcript htranscript)
      exact iff_of_true hreports trivial
  | closesAll htranscript =>
      exact closeAll_closed_iff (DeviceKind.closeAll_transcript htranscript)

/-- In a run of a manager everything that is closed reports `Closed` if and only if no
file device is closed after its `open` failed. -/
theorem closed_devices_report_closed_iff {start : List PlatformDevice}
    {history : ManagerHistory} (hrun : Run ManagerStep start history devices) :
    Run ReportingStep start history devices ↔
      ∀ entry ∈ history, SparesFailed entry.1 entry.2 :=
  hrun.keeps_iff (fun _ => ReportsClosed) SparesFailed ManagerStep.reportsClosed_iff

end Manager

def sensor : FileDevice := .new "sensor" "/dev/sensor" 2

def led : GpioPin := .new "led" 17 .out "/sys/class/gpio"

theorem opened_devices_step :
    ManagerStep [.fileDevice sensor, .gpioPin led] (.openAll .opened)
      [.fileDevice { sensor with fd := some 3, state := .open },
        .gpioPin { led with state := .open }] := by
  apply ManagerStep.opensAll
  apply Transcript.ask (.ok 3)
  -- The path of the pin is there, and the stream of its direction takes the text.
  apply Transcript.ask (.ok true)
  apply Transcript.ask true
  apply Transcript.ask true
  apply Transcript.ask true
  exact .done _

theorem opened_devices_report_closed :
    ∃ history devices, Run ManagerStep [.fileDevice sensor, .gpioPin led] history devices ∧
      history.map Prod.snd = [.openAll .opened, .closeAll] ∧
      Run ReportingStep [.fileDevice sensor, .gpioPin led] history devices := by
  have hstart : Run ManagerStep [.fileDevice sensor, .gpioPin led] [] _ := .start
  have hopen := hstart.andThen (.openAll .opened) opened_devices_step
  have hclose := hopen.andThen .closeAll (.closesAll (.ask (.ok ()) (.done _)))
  refine ⟨_, _, hclose, rfl, (closed_devices_report_closed_iff hclose).mpr ?_⟩
  intro entry hmem
  simp only [List.nil_append, List.cons_append, List.mem_cons, List.not_mem_nil, or_false]
    at hmem
  rcases hmem with rfl | rfl
  · trivial
  · simp [SparesFailed, PlatformDevice.FailedFile]

theorem sensor_open_fails :
    platformDevices.Opens (.fileDevice sensor)
      (.failed (systemError ("open " ++ sensor.path) ENOENT))
      (.fileDevice { sensor with state := .failed }) := by
  apply Exists.intro
  apply Transcript.ask (.error ENOENT)
  exact .done _

/-- The file of the device cannot be opened, and `close()` leaves it `Failed`. -/
theorem failed_file_stays_failed :
    ∃ history, Run ManagerStep [.fileDevice sensor] history
        [.fileDevice { sensor with state := .failed }] ∧
      history.map Prod.snd = [.open 0, .close 0] ∧
      ([.fileDevice { sensor with state := .failed }], .close 0) ∈ history := by
  have hstart : Run ManagerStep [.fileDevice sensor] [] _ := .start
  have hopen := hstart.andThen (.open 0) (.opens rfl sensor_open_fails)
  have hclose := hopen.andThen (.close 0) (.closes rfl ⟨_, .done _⟩)
  exact ⟨_, hclose, rfl, .tail _ (.head _)⟩

theorem not_all_closed_devices_report_closed :
    ¬ ∀ {start devices : List PlatformDevice} {history : ManagerHistory},
      Run ManagerStep start history devices → Run ReportingStep start history devices := by
  intro hreporting
  obtain ⟨history, hrun, _, hmem⟩ := failed_file_stays_failed
  have hspares := Run.clear_of_keeps (fun _ => ReportsClosed) SparesFailed
    (fun hstep => ManagerStep.reportsClosed_iff hstep |>.mp) (hreporting hrun) _ hmem
  exact hspares _ rfl rfl

end ElapPlatform.Device
