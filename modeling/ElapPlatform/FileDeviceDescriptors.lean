import ElapPlatform.DeviceLifecycle
import ElapPlatform.GrantLedger

/-!
# Descriptors of file devices

Any number of file devices are constructed, moved, opened, closed and destroyed in any
order.  A device is `Open` as long as it holds a descriptor, and nobody else holds it.
-/

namespace ElapPlatform.Device

open Interaction Interaction.Program Transition
open Ipc (Descriptor)

/-! ## The special members -/

namespace FileDevice

/-- What is left of a device that was moved from, with unspecified strings. -/
def moved (other : FileDevice) (name path : String) : FileDevice :=
  { other with name := name, path := path, fd := none, state := .closed }

def moveConstruct (other : FileDevice) (name path : String) : FileDevice × FileDevice :=
  (⟨other.name, other.path, other.flags, other.fd, other.state⟩, other.moved name path)

/-- `operator=` between two different devices. -/
def moveAssign (device other : FileDevice) (name path : String) :
    DeviceProgram (FileDevice × FileDevice) := do
  let device ← device.close
  return ({ device with
    name := other.name
    path := other.path
    flags := other.flags
    fd := other.fd
    state := other.state }, other.moved name path)

/-- A device reports `Open` iff it holds a descriptor. -/
def Coupled (device : FileDevice) : Prop := device.state = .open ↔ device.fd.isSome

end FileDevice

/-! ## What the system calls settle -/

abbrev DescriptorLedger := GrantLedger Descriptor

/-- A descriptor is new when it is granted, and gone after `::close`. -/
def DeviceCall.Settles (ledger : DescriptorLedger) :
    (call : DeviceCall) → call.Reply → DescriptorLedger → Prop
  | .openFile _ _, .ok fd, next => fd ∉ ledger.out ∧ next = ledger.grant fd
  | .closeFile fd, _, next => next = ledger.giveBack fd
  | _, _, next => next = ledger

namespace FileDevice

variable {device other after : FileDevice} {ledger next : DescriptorLedger}

theorem closeFd_settles (hrun : Runs DeviceCall.Settles device.closeFd ledger after next) :
    after = { device with fd := none } ∧ next = ledger.release device.fd := by
  unfold closeFd at hrun
  split at hrun
  · rename_i fd hfd
    obtain ⟨reply, middle, hclose, hdone⟩ := runs_bind_iff.mp hrun
    obtain ⟨rfl, rfl⟩ := runs_done_iff.mp hdone
    rw [hfd, GrantLedger.release_some]
    exact ⟨rfl, runs_perform_iff.mp hclose⟩
  · rename_i hfd
    obtain ⟨rfl, rfl⟩ := runs_done_iff.mp hrun
    rw [hfd, GrantLedger.release_none]
    exact ⟨by rw [← hfd], rfl⟩

theorem close_settles (hrun : Runs DeviceCall.Settles device.close ledger after next) :
    after.fd = none ∧ after.state ≠ .open ∧ next = ledger.release device.fd := by
  unfold close at hrun
  obtain ⟨_, middle, hclose, hrest⟩ := runs_bind_iff.mp hrun
  obtain ⟨rfl, hmiddle⟩ := closeFd_settles hclose
  by_cases hfailed : device.state = .failed
  · simp only [hfailed, ne_eq, not_true_eq_false, if_false] at hrest
    obtain ⟨rfl, rfl⟩ := runs_done_iff.mp hrest
    exact ⟨rfl, by simp, hmiddle⟩
  · simp only [ne_eq, hfailed, not_false_eq_true, if_true] at hrest
    obtain ⟨rfl, rfl⟩ := runs_done_iff.mp hrest
    exact ⟨rfl, by simp, hmiddle⟩

/-- What `open` does after it has closed the device. -/
inductive Reopened (ledger : DescriptorLedger) : FileDevice → DescriptorLedger → Prop
  | refused {after : FileDevice} (hfd : after.fd = none) (hstate : after.state = .failed) :
      Reopened ledger after ledger
  | granted {after : FileDevice} {fd : Descriptor} (hfree : fd ∉ ledger.out)
      (hfd : after.fd = some fd) (hstate : after.state = .open) :
      Reopened ledger after (ledger.grant fd)

theorem open_settles {answer : OpenAnswer FileDevice}
    (hrun : Runs DeviceCall.Settles device.open ledger answer next) :
    Reopened (ledger.release device.fd) answer.device next := by
  unfold FileDevice.open at hrun
  obtain ⟨closed, middle, hclose, hrest⟩ := runs_bind_iff.mp hrun
  obtain ⟨_, _, hmiddle⟩ := close_settles hclose
  obtain ⟨reply, last, hopen, hdone⟩ := runs_bind_iff.mp hrest
  have hsettles := runs_perform_iff.mp hopen
  rw [← hmiddle]
  cases reply with
  | error errno =>
      obtain ⟨rfl, rfl⟩ := runs_done_iff.mp hdone
      cases hsettles
      exact .refused rfl rfl
  | ok fd =>
      obtain ⟨rfl, rfl⟩ := runs_done_iff.mp hdone
      obtain ⟨hfree, rfl⟩ := hsettles
      exact .granted hfree rfl rfl

theorem moveAssign_settles {name path : String} {pair : FileDevice × FileDevice}
    (hrun : Runs DeviceCall.Settles (device.moveAssign other name path) ledger pair next) :
    pair = other.moveConstruct name path ∧ next = ledger.release device.fd := by
  unfold moveAssign at hrun
  obtain ⟨closed, middle, hclose, hdone⟩ := runs_bind_iff.mp hrun
  obtain ⟨rfl, rfl⟩ := runs_done_iff.mp hdone
  exact ⟨rfl, (close_settles hclose).2.2⟩

end FileDevice

/-! ## Devices that come and go -/

inductive FileAction where
  | constructs (name path : String) (flags : ℤ)
  | moveConstructs (source : ℕ)
  | moveAssigns (source : ℕ)
  | opens (returned : Bool)
  | closes
  | destroys
  deriving DecidableEq, Repr

/-- `none` where no device lives. -/
structure FileSystem where
  ledger : DescriptorLedger
  devices : ℕ → Option FileDevice

def initialFileSystem : FileSystem := ⟨.empty, fun _ => none⟩

/-- The device with the label's number is called. -/
inductive FileStep : FileSystem → ℕ × FileAction → FileSystem → Prop
  | constructs {ledger : DescriptorLedger} {devices : ℕ → Option FileDevice} {index : ℕ}
      {name path : String} {flags : ℤ} (hfree : devices index = none) :
      FileStep ⟨ledger, devices⟩ (index, .constructs name path flags)
        ⟨ledger, Function.update devices index (some (.new name path flags))⟩
  | moveConstructs {ledger : DescriptorLedger} {devices : ℕ → Option FileDevice}
      {index source : ℕ} {other : FileDevice} {name path : String}
      (hfree : devices index = none) (hsource : devices source = some other) :
      FileStep ⟨ledger, devices⟩ (index, .moveConstructs source)
        ⟨ledger, Function.update
          (Function.update devices source (some (other.moveConstruct name path).2))
          index (some (other.moveConstruct name path).1)⟩
  | moveAssigns {ledger next : DescriptorLedger} {devices : ℕ → Option FileDevice}
      {index source : ℕ} {device other : FileDevice} {pair : FileDevice × FileDevice}
      {name path : String} (hne : source ≠ index) (hdevice : devices index = some device)
      (hsource : devices source = some other)
      (hrun : Runs DeviceCall.Settles (device.moveAssign other name path) ledger pair next) :
      FileStep ⟨ledger, devices⟩ (index, .moveAssigns source)
        ⟨next, Function.update (Function.update devices source (some pair.2))
          index (some pair.1)⟩
  | selfAssigns {system : FileSystem} {index : ℕ} {device : FileDevice}
      (hdevice : system.devices index = some device) :
      FileStep system (index, .moveAssigns index) system
  | opens {ledger next : DescriptorLedger} {devices : ℕ → Option FileDevice} {index : ℕ}
      {device : FileDevice} {answer : OpenAnswer FileDevice}
      (hdevice : devices index = some device)
      (hrun : Runs DeviceCall.Settles device.open ledger answer next) :
      FileStep ⟨ledger, devices⟩ (index, .opens (answer.result = .opened))
        ⟨next, Function.update devices index (some answer.device)⟩
  | closes {ledger next : DescriptorLedger} {devices : ℕ → Option FileDevice} {index : ℕ}
      {device after : FileDevice} (hdevice : devices index = some device)
      (hrun : Runs DeviceCall.Settles device.close ledger after next) :
      FileStep ⟨ledger, devices⟩ (index, .closes)
        ⟨next, Function.update devices index (some after)⟩
  | destroys {ledger next : DescriptorLedger} {devices : ℕ → Option FileDevice} {index : ℕ}
      {device after : FileDevice} (hdevice : devices index = some device)
      (hrun : Runs DeviceCall.Settles device.close ledger after next) :
      FileStep ⟨ledger, devices⟩ (index, .destroys)
        ⟨next, Function.update devices index none⟩

abbrev FileHistory := History FileSystem (ℕ × FileAction)

/-! ## The invariant -/

def heldFd (device : Option FileDevice) : Option Descriptor := device.bind FileDevice.fd

def FileSystem.held (system : FileSystem) (index : ℕ) : Option Descriptor :=
  heldFd (system.devices index)

def AllCoupled (devices : ℕ → Option FileDevice) : Prop :=
  ∀ index device, devices index = some device → device.Coupled

structure FileSystem.Invariant (system : FileSystem) : Prop where
  coupled : AllCoupled system.devices
  balanced : system.ledger.Balanced system.held

section Steps

variable {ledger next : DescriptorLedger} {devices : ℕ → Option FileDevice} {index source : ℕ}

theorem held_update (device : Option FileDevice) :
    (⟨ledger, Function.update devices index device⟩ : FileSystem).held =
      Function.update (⟨ledger, devices⟩ : FileSystem).held index (heldFd device) :=
  Function.comp_update heldFd devices index device

theorem held_of_live {device : FileDevice} (hdevice : devices index = some device) :
    (⟨ledger, devices⟩ : FileSystem).held index = device.fd :=
  congrArg heldFd hdevice

theorem held_of_none (hfree : devices index = none) :
    (⟨ledger, devices⟩ : FileSystem).held index = none :=
  congrArg heldFd hfree

/-- A device that holds nothing takes over what another one holds. -/
theorem held_moved {other : FileDevice} {name path : String}
    (hsource : devices source = some other) :
    (⟨next, Function.update
        (Function.update devices source (some (other.moveConstruct name path).2))
        index (some (other.moveConstruct name path).1)⟩ : FileSystem).held =
      Function.update (Function.update (⟨ledger, devices⟩ : FileSystem).held source none) index
        ((⟨ledger, devices⟩ : FileSystem).held source) := by
  rw [held_update, held_update, held_of_live hsource]
  rfl

theorem AllCoupled.update {device : Option FileDevice} (hcoupled : AllCoupled devices)
    (hnew : ∀ after, device = some after → after.Coupled) :
    AllCoupled (Function.update devices index device) := by
  intro other after hafter
  rcases PartialMap.of_update_eq hafter with ⟨_, hfound⟩ | ⟨_, hold⟩
  · exact hnew after hfound
  · exact hcoupled other after hold

theorem AllCoupled.moved {other : FileDevice} {name path : String}
    (hcoupled : AllCoupled devices) (hsource : devices source = some other) :
    AllCoupled (Function.update
      (Function.update devices source (some (other.moveConstruct name path).2))
      index (some (other.moveConstruct name path).1)) := by
  refine (hcoupled.update ?_).update ?_
  · rintro _ ⟨⟩
    simp [FileDevice.Coupled, FileDevice.moveConstruct, FileDevice.moved]
  · rintro _ ⟨⟩
    exact hcoupled source other hsource

/-- A device that has closed its descriptor holds nothing. -/
theorem balanced_closed {device : FileDevice}
    (hbalanced : ledger.Balanced (⟨ledger, devices⟩ : FileSystem).held)
    (hdevice : devices index = some device) :
    (ledger.release device.fd).Balanced
      (Function.update (⟨ledger, devices⟩ : FileSystem).held index none) := by
  have hreleased := hbalanced.release index
  rwa [held_of_live hdevice] at hreleased

theorem FileDevice.Reopened.balanced {after : FileDevice}
    (hreopened : Reopened ledger after next) {held : ℕ → Option Descriptor}
    (hbalanced : ledger.Balanced held) (hidle : held index = none) :
    next.Balanced (Function.update held index after.fd) := by
  cases hreopened with
  | refused hfd hstate =>
      rw [hfd, ← hidle, Function.update_eq_self]
      exact hbalanced
  | granted hfree hfd hstate =>
      rw [hfd]
      exact hbalanced.grant hfree hidle

theorem FileDevice.Reopened.coupled {after : FileDevice}
    (hreopened : Reopened ledger after next) : after.Coupled := by
  cases hreopened with
  | refused hfd hstate => simp [Coupled, hfd, hstate]
  | granted hfree hfd hstate => simp [Coupled, hfd, hstate]

end Steps

theorem FileStep.invariant {system next : FileSystem} {label : ℕ × FileAction}
    (hstep : FileStep system label next) (hinvariant : system.Invariant) : next.Invariant := by
  obtain ⟨hcoupled, hbalanced⟩ := hinvariant
  cases hstep with
  | @constructs ledger devices index name path flags hfree =>
      refine ⟨hcoupled.update ?_, ?_⟩
      · rintro _ ⟨⟩
        simp [FileDevice.Coupled, FileDevice.new]
      · have hidle : (⟨ledger, devices⟩ : FileSystem).held index = none := held_of_none hfree
        have hnone : heldFd (some (.new name path flags)) = none := rfl
        rw [held_update, hnone, ← hidle, Function.update_eq_self]
        exact hbalanced
  | @moveConstructs ledger devices index source other name path hfree hsource =>
      refine ⟨hcoupled.moved hsource, ?_⟩
      rw [held_moved hsource]
      exact hbalanced.transfer (held_of_none hfree) source
  | @moveAssigns ledger last devices index source device other pair name path hne hdevice
      hsource hrun =>
      obtain ⟨rfl, rfl⟩ := FileDevice.moveAssign_settles hrun
      refine ⟨hcoupled.moved hsource, ?_⟩
      rw [held_moved hsource]
      have hmoved := (balanced_closed hbalanced hdevice).transfer (Function.update_self ..) source
      rwa [Function.update_of_ne hne, Function.update_comm hne, Function.update_idem,
        Function.update_comm hne.symm] at hmoved
  | selfAssigns => exact ⟨hcoupled, hbalanced⟩
  | @opens ledger last devices index device answer hdevice hrun =>
      have hreopened := FileDevice.open_settles hrun
      refine ⟨hcoupled.update ?_, ?_⟩
      · rintro _ ⟨⟩
        exact hreopened.coupled
      · have hopened := hreopened.balanced (balanced_closed hbalanced hdevice)
          (Function.update_self ..)
        rw [held_update]
        rwa [Function.update_idem] at hopened
  | @closes ledger last devices index device after hdevice hrun =>
      obtain ⟨hfd, hstate, rfl⟩ := FileDevice.close_settles hrun
      refine ⟨hcoupled.update ?_, ?_⟩
      · rintro _ ⟨⟩
        simp [FileDevice.Coupled, hfd, hstate]
      · have hnone : heldFd (some after) = none := hfd
        rw [held_update, hnone]
        exact balanced_closed hbalanced hdevice
  | @destroys ledger last devices index device after hdevice hrun =>
      obtain ⟨_, _, rfl⟩ := FileDevice.close_settles hrun
      refine ⟨hcoupled.update (fun _ hnone => by cases hnone), ?_⟩
      rw [held_update]
      exact balanced_closed hbalanced hdevice

theorem run_fileInvariant {history : FileHistory} {system : FileSystem}
    (hrun : Run FileStep initialFileSystem history system) : system.Invariant := by
  refine hrun.invariant (fun _ system => system.Invariant) ?_
    fun _ hinvariant hstep => hstep.invariant hinvariant
  exact ⟨fun _ _ hlive => (by cases hlive), .empty⟩

/-! ## Linear descriptors -/

structure FileSystem.Linear (system : FileSystem) : Prop where
  open_iff : ∀ {index device}, system.devices index = some device →
    (device.state = .open ↔ device.fd.isSome)
  unique : ∀ {index other : ℕ} {device device' : FileDevice} {fd : Descriptor},
    system.devices index = some device → system.devices other = some device' →
      device.fd = some fd → device'.fd = some fd → other = index
  held : ∀ fd, (system.ledger.serials fd).isSome ↔
    ∃ index device, system.devices index = some device ∧ device.fd = some fd
  misuses : system.ledger.misuses = 0
  returned_once : (∀ index, system.devices index = none) →
    system.ledger.returned.Perm (List.range system.ledger.granted)

/-- In every reachable state a device is `Open` iff it holds a descriptor, and no other
live device holds it.  When no device is left, every descriptor that `::open` returned has
been closed exactly once. -/
theorem file_descriptors_are_linear {history : FileHistory} {system : FileSystem}
    (hrun : Run FileStep initialFileSystem history system) : system.Linear := by
  obtain ⟨hcoupled, hbalanced⟩ := run_fileInvariant hrun
  constructor
  case open_iff => exact fun hlive => hcoupled _ _ hlive
  case unique =>
    intro index other device device' fd hdevice hdevice' hfd hfd'
    exact hbalanced.exclusive.unique ((held_of_live hdevice).trans hfd)
      ((held_of_live hdevice').trans hfd')
  case held =>
    intro fd
    rw [show (system.ledger.serials fd).isSome ↔ fd ∈ system.ledger.out from Iff.rfl,
      hbalanced.exclusive.held_iff]
    refine exists_congr fun index => ?_
    simp [FileSystem.held, heldFd, Option.bind_eq_some_iff]
  case misuses => exact hbalanced.misuses
  case returned_once =>
    exact fun hgone => hbalanced.returned_perm fun index => held_of_none (hgone index)

theorem sensor_opens :
    Runs DeviceCall.Settles sensor.open .empty
      ⟨.opened, { sensor with fd := some 3, state := .open }⟩ (GrantLedger.empty.grant 3) :=
  .answered (.ok 3) ⟨by simp [GrantLedger.out, GrantLedger.empty], rfl⟩ (.done _ _)

/-- The open sensor moves to another device and back again. -/
theorem moved_sensor_run :
    ∃ history system, Run FileStep initialFileSystem history system ∧
      history.map Prod.snd = [(0, .constructs "sensor" "/dev/sensor" 2), (0, .opens true),
        (1, .moveConstructs 0), (1, .moveAssigns 1), (0, .moveAssigns 1), (1, .closes),
        (0, .destroys), (1, .destroys)] ∧
      (∀ index, system.devices index = none) ∧ system.ledger.granted = 1 := by
  have hstart : Run FileStep initialFileSystem [] _ := .start
  have hnew := hstart.andThen (0, .constructs "sensor" "/dev/sensor" 2) (.constructs rfl)
  have hopen := hnew.andThen (0, .opens true) (.opens rfl sensor_opens)
  have hmoved := hopen.andThen (1, .moveConstructs 0)
    (@FileStep.moveConstructs _ _ _ _ _ "" "" rfl rfl)
  have hself := hmoved.andThen (1, .moveAssigns 1) (.selfAssigns rfl)
  have hback := hself.andThen (0, .moveAssigns 1)
    (@FileStep.moveAssigns _ _ _ _ _ _ _ _ "" "" (by decide) rfl rfl (.done _ _))
  have hclosed := hback.andThen (1, .closes) (.closes rfl (.done _ _))
  have hgone := hclosed.andThen (0, .destroys)
    (.destroys rfl (.answered (.ok ()) rfl (.done _ _)))
  have hlast := hgone.andThen (1, .destroys) (.destroys rfl (.done _ _))
  refine ⟨_, _, hlast, rfl, fun index => ?_, rfl⟩
  by_cases hfirst : index = 1
  · rw [hfirst]
    rfl
  · by_cases hsecond : index = 0
    · rw [hsecond]
      rfl
    · simp [hfirst, hsecond]

theorem moved_sensor_is_linear :
    ∃ history system, Run FileStep initialFileSystem history system ∧
      history.map Prod.snd = [(0, .constructs "sensor" "/dev/sensor" 2), (0, .opens true),
        (1, .moveConstructs 0), (1, .moveAssigns 1), (0, .moveAssigns 1), (1, .closes),
        (0, .destroys), (1, .destroys)] ∧
      system.Linear ∧ system.ledger.returned.Perm [0] := by
  obtain ⟨history, system, hrun, hlabels, hgone, hgranted⟩ := moved_sensor_run
  have hlinear := file_descriptors_are_linear hrun
  have hreturned := hlinear.returned_once hgone
  rw [hgranted] at hreturned
  exact ⟨history, system, hrun, hlabels, hlinear, hreturned⟩

end ElapPlatform.Device
