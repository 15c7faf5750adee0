import ElapPlatform.InteractionTranscript
import ElapPlatform.PlatformBasics
import ElapPlatform.SystemNamespace

/-!
# Devices

`open`, `close` and `state` of `FileDevice` and `GpioPin` as programs over the system
calls and the file streams they use.  Any of them may fail.
-/

namespace ElapPlatform.Device

open Interaction Interaction.Program
open Ipc (Descriptor)

inductive DeviceState where
  | closed
  | open
  | failed
  deriving DecidableEq, Repr

inductive DeviceCall where
  | openFile (path : String) (flags : ℤ)
  | closeFile (descriptor : Descriptor)
  /-- `std::filesystem::exists`, which throws the error if it cannot tell. -/
  | pathExists (path : String)
  | sleepFor (milliseconds : ℕ)
  /-- Whether the clock is still before the deadline. -/
  | beforeDeadline
  /-- The constructor of a `std::ofstream`. -/
  | streamOpen (path : String)
  | streamInsert (path text : String)
  /-- The destructor of a `std::ofstream`, which reports nothing. -/
  | streamClose (path text : String)
  deriving DecidableEq, Repr

abbrev DeviceCall.Reply : DeviceCall → Type
  | .openFile _ _ => SystemResult Descriptor
  | .closeFile _ => SystemResult Unit
  | .pathExists _ => SystemResult Bool
  | .sleepFor _ => Unit
  | .beforeDeadline => Bool
  | .streamOpen _ => Bool
  | .streamInsert _ _ => Bool
  | .streamClose _ _ => Bool

abbrev DeviceProgram (α : Type) := Program DeviceCall DeviceCall.Reply α

section Calls

def openFile (path : String) (flags : ℤ) : DeviceProgram (SystemResult Descriptor) :=
  .ask (DeviceCall.openFile path flags) .done

def closeFile (descriptor : Descriptor) : DeviceProgram (SystemResult Unit) :=
  .ask (DeviceCall.closeFile descriptor) .done

def pathExists (path : String) : DeviceProgram (SystemResult Bool) :=
  .ask (DeviceCall.pathExists path) .done

def sleepFor (milliseconds : ℕ) : DeviceProgram Unit :=
  .ask (DeviceCall.sleepFor milliseconds) .done

def beforeDeadline : DeviceProgram Bool := .ask DeviceCall.beforeDeadline .done

def streamOpen (path : String) : DeviceProgram Bool := .ask (DeviceCall.streamOpen path) .done

def streamInsert (path text : String) : DeviceProgram Bool :=
  .ask (DeviceCall.streamInsert path text) .done

def streamClose (path text : String) : DeviceProgram Bool :=
  .ask (DeviceCall.streamClose path text) .done

end Calls

/-- How `open` ends: `true`, `false` with an error, or a `filesystem_error`. -/
inductive OpenResult where
  | opened
  | failed (error : ErrorText)
  | thrown (errno : Errno)
  deriving DecidableEq, Repr

structure OpenAnswer (Device : Type) where
  result : OpenResult
  device : Device
  deriving DecidableEq, Repr

/-- The characters in front of the first NUL. -/
def cName (name : String) : String :=
  String.ofList (name.toList.takeWhile fun character => character.val ≠ 0)

/-! ## File devices -/

structure FileDevice where
  name : String
  path : String
  flags : ℤ
  fd : Option Descriptor
  state : DeviceState
  deriving DecidableEq, Repr

namespace FileDevice

def new (name path : String) (flags : ℤ) : FileDevice := ⟨name, path, flags, none, .closed⟩

def closeFd (device : FileDevice) : DeviceProgram FileDevice := do
  match device.fd with
  | some fd =>
      let _ ← closeFile fd
      return { device with fd := none }
  | none => return device

def close (device : FileDevice) : DeviceProgram FileDevice := do
  let device ← device.closeFd
  if device.state ≠ .failed then
    return { device with state := .closed }
  return device

def «open» (device : FileDevice) : DeviceProgram (OpenAnswer FileDevice) := do
  let device ← device.close
  match ← openFile device.path device.flags with
  | .error errno =>
      return ⟨.failed (systemError ("open " ++ device.path) errno),
        { device with fd := none, state := .failed }⟩
  | .ok fd => return ⟨.opened, { device with fd := some fd, state := .open }⟩

end FileDevice

/-! ## GPIO pins -/

inductive GpioDirection where
  | in
  | out
  deriving DecidableEq, Repr

def toSysfsDirection : GpioDirection → String
  | .out => "out"
  | .in => "in"

structure GpioPin where
  name : String
  pin : ℤ
  direction : GpioDirection
  gpioRoot : String
  state : DeviceState
  exportedByThisInstance : Bool
  deriving DecidableEq, Repr

/-- What is left to do of the loop, which sleeps in every round. -/
def waitRounds (path : String) : ℕ → DeviceProgram (SystemResult Bool)
  | 0 => pathExists path
  | rounds + 1 => do
      match ← pathExists path with
      | .error errno => return .error errno
      | .ok true => return .ok true
      | .ok false =>
        sleepFor 5
        if ← beforeDeadline then waitRounds path rounds else pathExists path

/-- The deadline of 250 ms has passed after 50 rounds of at least 5 ms. -/
def waitForPath (path : String) : DeviceProgram (SystemResult Bool) := waitRounds path 50

/-- `stream << value` into a new stream; what the stream fails to deliver when it is
destroyed goes unnoticed. -/
def writeStream (path value : String) (notOpened notWritten : ErrorText) :
    DeviceProgram (Option ErrorText) := do
  if !(← streamOpen path) then return some notOpened
  let inserted ← streamInsert path value
  let _ ← streamClose path value
  return if inserted then none else some notWritten

namespace GpioPin

def new (name : String) (pin : ℤ) (direction : GpioDirection) (gpioRoot : String) : GpioPin :=
  ⟨name, pin, direction, gpioRoot, .closed, false⟩

def pinPath (device : GpioPin) : String := device.gpioRoot ++ "/gpio" ++ toString device.pin

def writeControlFile (device : GpioPin) (fileName value : String) :
    DeviceProgram (Option ErrorText) :=
  writeStream (device.gpioRoot ++ "/" ++ fileName) value
    (.message ("failed to open gpio " ++ fileName ++ " file"))
    (.message ("failed to write gpio " ++ fileName ++ " file"))

def writePinFile (device : GpioPin) (fileName value : String) :
    DeviceProgram (Option ErrorText) :=
  writeStream (device.pinPath ++ "/" ++ fileName) value
    (.message ("failed to open gpio pin " ++ fileName ++ " file"))
    (.message ("failed to write gpio pin " ++ fileName ++ " file"))

/-- `writeControlFile("unexport", ...)`, whose result nobody looks at. -/
def unexport (device : GpioPin) : DeviceProgram GpioPin := do
  let _ ← device.writeControlFile "unexport" (toString device.pin)
  return { device with exportedByThisInstance := false }

def unexportOwn (device : GpioPin) : DeviceProgram GpioPin := do
  if device.exportedByThisInstance then device.unexport else return device

def close (device : GpioPin) : DeviceProgram GpioPin := do
  let device ← device.unexportOwn
  return { device with state := .closed }

/-- The end of `open`, once the path is there. -/
def openDirection (device : GpioPin) : DeviceProgram (OpenAnswer GpioPin) := do
  match ← device.writePinFile "direction" (toSysfsDirection device.direction) with
  | some error =>
      let device ← device.unexportOwn
      return ⟨.failed error, { device with state := .failed }⟩
  | none => return ⟨.opened, { device with state := .open }⟩

def openExport (device : GpioPin) : DeviceProgram (OpenAnswer GpioPin) := do
  match ← device.writeControlFile "export" (toString device.pin) with
  | some error => return ⟨.failed error, { device with state := .failed }⟩
  | none =>
    let device := { device with exportedByThisInstance := true }
    match ← waitForPath device.pinPath with
    | .error errno => return ⟨.thrown errno, device⟩
    | .ok true => device.openDirection
    | .ok false =>
      let device ← device.unexport
      return ⟨.failed (.message "gpio export failed: pin path did not appear"),
        { device with state := .failed }⟩

def «open» (device : GpioPin) : DeviceProgram (OpenAnswer GpioPin) := do
  if device.pin < 0 then
    return ⟨.failed (.message "gpio pin must be non-negative"), { device with state := .failed }⟩
  match ← pathExists device.pinPath with
  | .error errno => return ⟨.thrown errno, device⟩
  | .ok true => device.openDirection
  | .ok false => device.openExport

/-- `true` is returned where there is no error. -/
def writeValue (device : GpioPin) (high : Bool) : DeviceProgram (Option ErrorText) := do
  if device.state ≠ .open then return some (.message "gpio write failed: pin is not open")
  if device.direction ≠ .out then
    return some (.message "gpio write failed: pin direction is input")
  device.writePinFile "value" (if high then "1" else "0")

end GpioPin

end ElapPlatform.Device
