import ElapPlatform.DeviceLifecycle
import ElapPlatform.InteractionPostcondition

/-!
# Exported pins

A sysfs root with the exports of its pins.  The kernel refuses to export a pin twice,
and the directory of an exported pin may take its time to appear.
-/

namespace ElapPlatform.Device

open Interaction Interaction.Program Transition

/-- `maker` is the instance that wrote the export, or nothing for an earlier one. -/
structure PinExport where
  maker : Option ℕ
  visible : Bool
  deriving DecidableEq, Repr

/-- An export that was torn down, and by whom. -/
structure Removal where
  path : String
  maker : Option ℕ
  caller : ℕ
  deriving DecidableEq, Repr

/-- The exports under the paths of their pins. -/
structure Sysfs where
  exports : String → Option PinExport
  removed : List Removal

namespace Sysfs

def insert (sysfs : Sysfs) (path : String) (entry : PinExport) : Sysfs :=
  { sysfs with exports := Function.update sysfs.exports path (some entry) }

@[simp] theorem insert_exports_self (sysfs : Sysfs) (path : String) (entry : PinExport) :
    (sysfs.insert path entry).exports path = some entry :=
  Function.update_self ..

def remove (sysfs : Sysfs) (path : String) (entry : PinExport) (caller : ℕ) : Sysfs where
  exports := Function.update sysfs.exports path none
  removed := sysfs.removed ++ [⟨path, entry.maker, caller⟩]

/-- The path exists once the export is visible, which it may become at any time. -/
def Shows (sysfs : Sysfs) (path : String) (next : Sysfs) : Prop :=
  ∃ entry, sysfs.exports path = some entry ∧ next = sysfs.insert path { entry with visible := true }

def Hides (sysfs : Sysfs) (path : String) : Prop :=
  ∀ entry, sysfs.exports path = some entry → entry.visible = false

/-- What a write to `export` may come to. -/
def Exports (sysfs : Sysfs) (path : String) (caller : ℕ) (next : Sysfs) : Prop :=
  next = sysfs ∨ sysfs.exports path = none ∧
    ∃ visible, next = sysfs.insert path ⟨some caller, visible⟩

def Unexports (sysfs : Sysfs) (path : String) (caller : ℕ) (next : Sysfs) : Prop :=
  next = sysfs ∨ ∃ entry, sysfs.exports path = some entry ∧ next = sysfs.remove path entry caller

end Sysfs

def exportFile (root : String) : String := root ++ "/" ++ "export"

def unexportFile (root : String) : String := root ++ "/" ++ "unexport"

/-- What the calls of one instance find, and what they do.  Streams open and deliver as
they like; the delivered text is the number of the pin. -/
def DeviceCall.AnswersSysfs (root : String) (caller : ℕ) (sysfs : Sysfs) :
    (call : DeviceCall) → call.Reply → Sysfs → Prop
  | .pathExists path, .ok true, next => sysfs.Shows path next
  | .pathExists path, .ok false, next => sysfs.Hides path ∧ next = sysfs
  | .pathExists _, .error _, _ => False
  | .streamClose path text, true, next =>
      if path = exportFile root then
        sysfs.exports (root ++ "/gpio" ++ text) = none ∧
          ∃ visible, next = sysfs.insert (root ++ "/gpio" ++ text) ⟨some caller, visible⟩
      else if path = unexportFile root then
        ∃ entry, sysfs.exports (root ++ "/gpio" ++ text) = some entry ∧
          next = sysfs.remove (root ++ "/gpio" ++ text) entry caller
      else next = sysfs
  | _, _, next => next = sysfs

theorem exportFile_ne_unexportFile (root : String) : exportFile root ≠ unexportFile root := by
  intro hsame
  have hlists := congrArg String.toList hsame
  simp [exportFile, unexportFile] at hlists

namespace GpioPin

variable {device after : GpioPin} {caller : ℕ} {sysfs next : Sysfs}
  {exchanges : List DeviceExchange}

def directionFile (device : GpioPin) : String := device.pinPath ++ "/" ++ "direction"

theorem directionFile_ne_exportFile (device : GpioPin) :
    device.directionFile ≠ exportFile device.gpioRoot := by
  intro hsame
  have hlists := congrArg String.toList hsame
  simp [directionFile, pinPath, exportFile] at hlists

theorem directionFile_ne_unexportFile (device : GpioPin) :
    device.directionFile ≠ unexportFile device.gpioRoot := by
  intro hsame
  have hlists := congrArg String.toList hsame
  simp [directionFile, pinPath, unexportFile] at hlists

/-! ## What the parts of `open` and `close` come to -/

theorem writeStream_runs {root path value : String} {notOpened notWritten : ErrorText}
    {error : Option ErrorText}
    (hrun : Runs (DeviceCall.AnswersSysfs root caller)
      (writeStream path value notOpened notWritten) sysfs error next) :
    next = sysfs ∨
      DeviceCall.AnswersSysfs root caller sysfs (.streamClose path value) true next := by
  simp only [writeStream, streamOpen, ask_bind, done_bind, runs_ask_iff] at hrun
  obtain ⟨opened, middle, hmiddle, hopened⟩ := hrun
  obtain rfl : middle = sysfs := hmiddle
  cases opened with
  | false => exact .inl (runs_done_iff.mp hopened).2
  | true =>
      obtain ⟨inserted, last, hlast, hinserted⟩ := runs_ask_iff.mp hopened
      obtain rfl : last = middle := hlast
      obtain ⟨delivered, final, hanswer, hdone⟩ := runs_ask_iff.mp hinserted
      rw [(runs_done_iff.mp hdone).2]
      cases delivered with
      | false => exact .inl hanswer
      | true => exact .inr hanswer

/-! A delivered text takes effect by the file it was written to. -/

theorem answersSysfs_export_iff {root text : String} :
    DeviceCall.AnswersSysfs root caller sysfs (.streamClose (exportFile root) text) true next ↔
      sysfs.exports (root ++ "/gpio" ++ text) = none ∧
        ∃ visible, next = sysfs.insert (root ++ "/gpio" ++ text) ⟨some caller, visible⟩ := by
  simp [DeviceCall.AnswersSysfs]

theorem answersSysfs_unexport_iff {root text : String} :
    DeviceCall.AnswersSysfs root caller sysfs (.streamClose (unexportFile root) text) true next ↔
      ∃ entry, sysfs.exports (root ++ "/gpio" ++ text) = some entry ∧
        next = sysfs.remove (root ++ "/gpio" ++ text) entry caller := by
  simp [DeviceCall.AnswersSysfs, (exportFile_ne_unexportFile root).symm]

theorem answersSysfs_other_iff {root path text : String} (hexport : path ≠ exportFile root)
    (hunexport : path ≠ unexportFile root) :
    DeviceCall.AnswersSysfs root caller sysfs (.streamClose path text) true next ↔
      next = sysfs := by
  simp [DeviceCall.AnswersSysfs, hexport, hunexport]

theorem writeDirection_runs {value : String} {error : Option ErrorText}
    (hrun : Runs (DeviceCall.AnswersSysfs device.gpioRoot caller)
      (device.writePinFile "direction" value) sysfs error next) : next = sysfs := by
  rcases writeStream_runs hrun with hsame | hanswer
  · exact hsame
  · exact (answersSysfs_other_iff device.directionFile_ne_exportFile
      device.directionFile_ne_unexportFile).mp hanswer

theorem writeExport_runs {error : Option ErrorText}
    (hrun : Runs (DeviceCall.AnswersSysfs device.gpioRoot caller)
      (device.writeControlFile "export" (toString device.pin)) sysfs error next) :
    sysfs.Exports device.pinPath caller next := by
  rcases writeStream_runs hrun with hsame | hanswer
  · exact .inl hsame
  · exact .inr (answersSysfs_export_iff.mp hanswer)

theorem unexport_runs
    (hrun : Runs (DeviceCall.AnswersSysfs device.gpioRoot caller) device.unexport sysfs after
      next) :
    after = { device with exportedByThisInstance := false } ∧
      sysfs.Unexports device.pinPath caller next := by
  unfold unexport at hrun
  obtain ⟨error, middle, hwrite, hdone⟩ := runs_bind_iff.mp hrun
  obtain ⟨rfl, rfl⟩ := runs_done_iff.mp hdone
  refine ⟨rfl, ?_⟩
  rcases writeStream_runs hwrite with hsame | hanswer
  · exact .inl hsame
  · exact .inr (answersSysfs_unexport_iff.mp hanswer)

/-- An instance that is marked writes `unexport`, and another one writes nothing. -/
inductive GivesUp (caller : ℕ) (device : GpioPin) (sysfs : Sysfs) : Sysfs → Prop
  | unmarked (hmark : device.exportedByThisInstance = false) : GivesUp caller device sysfs sysfs
  | marked {next : Sysfs} (hmark : device.exportedByThisInstance = true)
      (hunexports : sysfs.Unexports device.pinPath caller next) :
      GivesUp caller device sysfs next

theorem unexportOwn_runs
    (hrun : Runs (DeviceCall.AnswersSysfs device.gpioRoot caller) device.unexportOwn sysfs after
      next) :
    after = { device with exportedByThisInstance := false } ∧ device.GivesUp caller sysfs next := by
  unfold unexportOwn at hrun
  split at hrun
  · rename_i hmark
    obtain ⟨hafter, hunexports⟩ := unexport_runs hrun
    exact ⟨hafter, .marked hmark hunexports⟩
  · rename_i hmark
    rw [Bool.not_eq_true] at hmark
    obtain ⟨rfl, rfl⟩ := runs_done_iff.mp hrun
    exact ⟨by rw [← hmark], .unmarked hmark⟩

theorem close_runs
    (hrun : Runs (DeviceCall.AnswersSysfs device.gpioRoot caller) device.close sysfs after next) :
    after = { device with exportedByThisInstance := false, state := .closed } ∧
      device.GivesUp caller sysfs next := by
  unfold close at hrun
  obtain ⟨closed, middle, hunexport, hdone⟩ := runs_bind_iff.mp hrun
  obtain ⟨rfl, hgives⟩ := unexportOwn_runs hunexport
  obtain ⟨rfl, rfl⟩ := runs_done_iff.mp hdone
  exact ⟨rfl, hgives⟩

/-- What a lookup of the path finds. -/
inductive Finds (sysfs : Sysfs) (path : String) : SystemResult Bool → Sysfs → Prop
  | shown {next : Sysfs} (hshows : sysfs.Shows path next) : Finds sysfs path (.ok true) next
  | hidden (hhides : sysfs.Hides path) : Finds sysfs path (.ok false) sysfs

theorem pathExists_runs {root path : String} {found : SystemResult Bool}
    (hrun : Runs (DeviceCall.AnswersSysfs root caller) (pathExists path) sysfs found next) :
    Finds sysfs path found next := by
  have hanswer := runs_perform_iff.mp hrun
  match found with
  | .ok true => exact .shown hanswer
  | .ok false =>
      obtain ⟨hhides, rfl⟩ := hanswer
      exact .hidden hhides

theorem waitRounds_runs {root path : String} {rounds : ℕ} {found : SystemResult Bool}
    (hrun : Runs (DeviceCall.AnswersSysfs root caller) (waitRounds path rounds) sysfs found next) :
    Finds sysfs path found next := by
  induction rounds generalizing sysfs with
  | zero => exact pathExists_runs hrun
  | succ rounds ih =>
      unfold waitRounds at hrun
      obtain ⟨reply, middle, hexists, hrest⟩ := runs_bind_iff.mp hrun
      cases pathExists_runs hexists with
      | shown hshows =>
          obtain ⟨rfl, rfl⟩ := runs_done_iff.mp hrest
          exact .shown hshows
      | hidden hhides =>
          obtain ⟨_, slept, hsleep, hrest⟩ := runs_bind_iff.mp hrest
          have hslept : slept = sysfs := runs_perform_iff.mp hsleep
          obtain ⟨before, last, hclock, hrest⟩ := runs_bind_iff.mp hrest
          have hlast : last = slept := runs_perform_iff.mp hclock
          rw [hlast, hslept] at hrest
          cases before with
          | true => exact ih hrest
          | false => exact pathExists_runs hrest

/-- The end of `open`, from the direction on. -/
inductive Directed (caller : ℕ) (device : GpioPin) (sysfs : Sysfs) :
    OpenAnswer GpioPin → Sysfs → Prop
  | opened : Directed caller device sysfs ⟨.opened, { device with state := .open }⟩ sysfs
  | failed {error : ErrorText} {next : Sysfs} (hgives : device.GivesUp caller sysfs next) :
      Directed caller device sysfs ⟨.failed error,
        { device with exportedByThisInstance := false, state := .failed }⟩ next

theorem openDirection_runs {answer : OpenAnswer GpioPin}
    (hrun : Runs (DeviceCall.AnswersSysfs device.gpioRoot caller) device.openDirection sysfs answer
      next) : device.Directed caller sysfs answer next := by
  unfold openDirection at hrun
  obtain ⟨error, middle, hwrite, hrest⟩ := runs_bind_iff.mp hrun
  obtain rfl : middle = sysfs := writeDirection_runs hwrite
  cases error with
  | none =>
      obtain ⟨rfl, rfl⟩ := runs_done_iff.mp hrest
      exact .opened
  | some error =>
      obtain ⟨closed, last, hunexport, hdone⟩ := runs_bind_iff.mp hrest
      obtain ⟨rfl, hgives⟩ := unexportOwn_runs hunexport
      obtain ⟨rfl, rfl⟩ := runs_done_iff.mp hdone
      exact .failed hgives

def marked (device : GpioPin) : GpioPin := { device with exportedByThisInstance := true }

/-- The first question of `open` finds no directory for the pin. -/
def FindsNothing (device : GpioPin) (exchanges : List DeviceExchange) : Prop :=
  exchanges.head? = some ⟨.pathExists device.pinPath, .ok false⟩

/-- What becomes of the pin after a write to `export`. -/
inductive ExportEffect (caller : ℕ) (device : GpioPin) (sysfs : Sysfs) :
    OpenAnswer GpioPin → Sysfs → Prop
  | notWritten {next : Sysfs} {error : ErrorText}
      (hexports : sysfs.Exports device.pinPath caller next) :
      ExportEffect caller device sysfs ⟨.failed error, { device with state := .failed }⟩ next
  | appeared {first second next : Sysfs} {answer : OpenAnswer GpioPin}
      (hexports : sysfs.Exports device.pinPath caller first)
      (hshows : first.Shows device.pinPath second)
      (hdirected : device.marked.Directed caller second answer next) :
      ExportEffect caller device sysfs answer next
  | late {first next : Sysfs} {error : ErrorText}
      (hexports : sysfs.Exports device.pinPath caller first)
      (hunexports : first.Unexports device.pinPath caller next) :
      ExportEffect caller device sysfs ⟨.failed error,
        { device with exportedByThisInstance := false, state := .failed }⟩ next

theorem openExport_runs {answer : OpenAnswer GpioPin}
    (hrun : Runs (DeviceCall.AnswersSysfs device.gpioRoot caller) device.openExport sysfs answer
      next) : device.ExportEffect caller sysfs answer next := by
  unfold openExport at hrun
  obtain ⟨error, first, hwrite, hrest⟩ := runs_bind_iff.mp hrun
  have hexports := writeExport_runs hwrite
  cases error with
  | some error =>
      obtain ⟨rfl, rfl⟩ := runs_done_iff.mp hrest
      exact .notWritten hexports
  | none =>
      obtain ⟨found, second, hwait, hrest⟩ := runs_bind_iff.mp hrest
      cases waitRounds_runs hwait with
      | shown hshows =>
          have hdirected : device.marked.Directed caller second answer next :=
            openDirection_runs hrest
          exact .appeared hexports hshows hdirected
      | hidden _ =>
          obtain ⟨closed, last, hunexport, hdone⟩ := runs_bind_iff.mp hrest
          obtain ⟨rfl, hunexports⟩ := @unexport_runs device.marked _ _ _ _ hunexport
          obtain ⟨rfl, rfl⟩ := runs_done_iff.mp hdone
          exact .late hexports hunexports

/-- What `open` comes to. -/
inductive OpenEffect (caller : ℕ) (device : GpioPin) (sysfs : Sysfs)
    (exchanges : List DeviceExchange) : OpenAnswer GpioPin → Sysfs → Prop
  | negative {error : ErrorText} (hpin : device.pin < 0) :
      OpenEffect caller device sysfs exchanges
        ⟨.failed error, { device with state := .failed }⟩ sysfs
  | shown {middle next : Sysfs} {answer : OpenAnswer GpioPin} (hpin : 0 ≤ device.pin)
      (hshows : sysfs.Shows device.pinPath middle)
      (hdirected : device.Directed caller middle answer next) :
      OpenEffect caller device sysfs exchanges answer next
  | exported {next : Sysfs} {answer : OpenAnswer GpioPin} (hpin : 0 ≤ device.pin)
      (hfinds : device.FindsNothing exchanges) (hhides : sysfs.Hides device.pinPath)
      (heffect : device.ExportEffect caller sysfs answer next) :
      OpenEffect caller device sysfs exchanges answer next

theorem open_effect {answer : OpenAnswer GpioPin}
    (htranscript : Transcript device.open exchanges answer)
    (hanswered : Answered (DeviceCall.AnswersSysfs device.gpioRoot caller) sysfs exchanges next) :
    device.OpenEffect caller sysfs exchanges answer next := by
  unfold GpioPin.open at htranscript
  by_cases hpin : device.pin < 0
  · rw [if_pos hpin] at htranscript
    obtain ⟨rfl, rfl⟩ := transcript_done_iff.mp htranscript
    rw [answered_nil_iff.mp hanswered]
    exact .negative hpin
  rw [if_neg hpin] at htranscript
  rw [not_lt] at hpin
  obtain ⟨looking, rest, found, rfl, hlooking, hrest⟩ := transcript_bind_iff.mp htranscript
  obtain rfl := transcript_perform_iff.mp hlooking
  obtain ⟨middle, hfound, hlater⟩ := answered_cons_iff.mp hanswered
  match found with
  | .ok true => exact .shown hpin hfound (openDirection_runs (hrest.runs hlater))
  | .ok false =>
      obtain ⟨hhides, rfl⟩ := hfound
      exact .exported hpin rfl hhides (openExport_runs (hrest.runs hlater))

end GpioPin

end ElapPlatform.Device
