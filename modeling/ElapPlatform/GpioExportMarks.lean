import ElapPlatform.DeviceDelivery
import ElapPlatform.GpioSysfsExports
import ElapPlatform.InteractionRecording

/-!
# The mark of an exporter

`open` and `close` once more, reporting every assignment to `exportedByThisInstance`.
So the mark is known at every point of a call, and not only at its end.
-/

namespace ElapPlatform.Device

open Interaction Interaction.Program

abbrev MarkedProgram (α : Type) := RecordedProgram Bool DeviceCall.Reply α

abbrev MarkedExchange := RecordedExchange Bool DeviceCall.Reply

namespace GpioPin

def setMark (device : GpioPin) (mark : Bool) : MarkedProgram GpioPin := do
  report mark
  return { device with exportedByThisInstance := mark }

def recordedUnexport (device : GpioPin) : MarkedProgram GpioPin := do
  let _ ← (device.writeControlFile "unexport" (toString device.pin)).silent
  device.setMark false

def recordedUnexportOwn (device : GpioPin) : MarkedProgram GpioPin := do
  if device.exportedByThisInstance then device.recordedUnexport else return device

def recordedClose (device : GpioPin) : MarkedProgram GpioPin := do
  let device ← device.recordedUnexportOwn
  return { device with state := .closed }

def recordedOpenDirection (device : GpioPin) : MarkedProgram (OpenAnswer GpioPin) := do
  match ← (device.writePinFile "direction" (toSysfsDirection device.direction)).silent with
  | some error =>
      let device ← device.recordedUnexportOwn
      return ⟨.failed error, { device with state := .failed }⟩
  | none => return ⟨.opened, { device with state := .open }⟩

def recordedOpenExport (device : GpioPin) : MarkedProgram (OpenAnswer GpioPin) := do
  match ← (device.writeControlFile "export" (toString device.pin)).silent with
  | some error => return ⟨.failed error, { device with state := .failed }⟩
  | none =>
    let device ← device.setMark true
    match ← (waitForPath device.pinPath).silent with
    | .error errno => return ⟨.thrown errno, device⟩
    | .ok true => device.recordedOpenDirection
    | .ok false =>
      let device ← device.recordedUnexport
      return ⟨.failed (.message "gpio export failed: pin path did not appear"),
        { device with state := .failed }⟩

def recordedOpen (device : GpioPin) : MarkedProgram (OpenAnswer GpioPin) := do
  if device.pin < 0 then
    return ⟨.failed (.message "gpio pin must be non-negative"), { device with state := .failed }⟩
  match ← (pathExists device.pinPath).silent with
  | .error errno => return ⟨.thrown errno, device⟩
  | .ok true => device.recordedOpenDirection
  | .ok false => device.recordedOpenExport

/-! ## Without the reports -/

section Forgetting

variable (device : GpioPin)

theorem forget_unexport : device.recordedUnexport.forget id = device.unexport :=
  forget_silent_bind fun _ => rfl

theorem forget_unexportOwn : device.recordedUnexportOwn.forget id = device.unexportOwn := by
  unfold recordedUnexportOwn unexportOwn
  cases device.exportedByThisInstance with
  | true => exact device.forget_unexport
  | false => rfl

theorem forget_close : device.recordedClose.forget id = device.close := by
  unfold close
  rw [← device.forget_unexportOwn]
  exact forget_bind fun _ => rfl

theorem forget_openDirection : device.recordedOpenDirection.forget id = device.openDirection := by
  refine forget_silent_bind fun written => ?_
  cases written with
  | some error =>
      rw [← device.forget_unexportOwn]
      exact forget_bind fun _ => rfl
  | none => rfl

theorem forget_openExport : device.recordedOpenExport.forget id = device.openExport := by
  refine forget_silent_bind fun written => ?_
  cases written with
  | some error => rfl
  | none =>
      refine forget_silent_bind fun found => ?_
      rcases found with errno | _ | _
      · rfl
      · change _ = device.marked.unexport >>= _
        rw [← device.marked.forget_unexport]
        exact forget_bind fun _ => rfl
      · exact device.marked.forget_openDirection

/-- Without its reports, the recorded `open` is `open`. -/
theorem forget_open : device.recordedOpen.forget id = device.open := by
  unfold recordedOpen GpioPin.open
  by_cases hpin : device.pin < 0
  · rw [if_pos hpin, if_pos hpin]
    rfl
  rw [if_neg hpin, if_neg hpin]
  refine forget_silent_bind fun found => ?_
  rcases found with errno | _ | _
  · rfl
  · exact device.forget_openExport
  · exact device.forget_openDirection

variable {device} {exchanges : List MarkedExchange}

theorem open_of_recorded {answer : OpenAnswer GpioPin}
    (htranscript : Transcript device.recordedOpen exchanges answer) :
    Transcript device.open (asked exchanges) answer := by
  rw [← device.forget_open]
  exact htranscript.forget id

theorem close_of_recorded {after : GpioPin}
    (htranscript : Transcript device.recordedClose exchanges after) :
    Transcript device.close (asked exchanges) after := by
  rw [← device.forget_close]
  exact htranscript.forget id

end Forgetting

end GpioPin

/-! ## The mark along a call -/

/-- The mark after these exchanges: the last one that was assigned. -/
def markAfter (mark : Bool) (exchanges : List MarkedExchange) : Bool :=
  (reported exchanges).getLastD mark

def DeviceCall.OnStream (path : String) : DeviceCall → Prop
  | .streamOpen other => other = path
  | .streamInsert other _ => other = path
  | .streamClose other _ => other = path
  | _ => False

def WritesUnexport (root : String) (exchange : MarkedExchange) : Prop :=
  ∃ call : DeviceCall, exchange.1 = .inl call ∧ call.OnStream (unexportFile root)

/-- What is written to `unexport` is written by an instance with the mark. -/
def UnexportsMarked (root : String) (mark : Bool) (exchanges : List MarkedExchange) : Prop :=
  Justified (fun before exchange => WritesUnexport root exchange → markAfter mark before = true)
    exchanges

section Marks

variable {root : String} {mark middle after : Bool} {first last exchanges : List MarkedExchange}

theorem markAfter_append :
    markAfter mark (first ++ last) = markAfter (markAfter mark first) last := by
  unfold markAfter
  rw [reported_append]
  cases reported last using List.reverseRecOn with
  | nil => simp
  | append_singleton marks latest => simp [← List.append_assoc]

theorem markAfter_of_silent (hsilent : reported exchanges = []) :
    markAfter mark exchanges = mark := by
  rw [markAfter, hsilent, List.getLastD_nil]

/-- An instance becomes marked by an assignment only. -/
theorem mem_reported_of_markAfter (hmark : markAfter false exchanges = true) :
    true ∈ reported exchanges := by
  unfold markAfter at hmark
  cases hmarks : reported exchanges using List.reverseRecOn with
  | nil => simp [hmarks] at hmark
  | append_singleton marks latest =>
      rw [hmarks, List.getLastD_concat] at hmark
      simp [hmark]

theorem UnexportsMarked.append (hfirst : UnexportsMarked root mark first)
    (hlast : UnexportsMarked root (markAfter mark first) last) :
    UnexportsMarked root mark (first ++ last) := by
  refine Justified.append hfirst (Justified.mono hlast fun before exchange hmarked hwrites => ?_)
  rw [markAfter_append]
  exact hmarked hwrites

theorem UnexportsMarked.of_elsewhere
    (helsewhere : ∀ exchange ∈ exchanges, ¬ WritesUnexport root exchange) :
    UnexportsMarked root mark exchanges :=
  Justified.of_forall fun _ exchange hmem hwrites =>
    absurd hwrites (helsewhere exchange hmem)

theorem UnexportsMarked.of_silent (hsilent : reported exchanges = []) :
    UnexportsMarked root true exchanges := by
  rintro before exchange after rfl _
  refine markAfter_of_silent ?_
  rw [reported_append] at hsilent
  exact (List.append_eq_nil_iff.mp hsilent).1

/-- A part of a call takes the mark from one value to another. -/
structure MarkTrace (root : String) (mark : Bool) (exchanges : List MarkedExchange)
    (after : Bool) : Prop where
  ends : markAfter mark exchanges = after
  writes : UnexportsMarked root mark exchanges

namespace MarkTrace

theorem nil : MarkTrace root mark [] mark := ⟨rfl, Justified.nil⟩

theorem append (hfirst : MarkTrace root mark first middle)
    (hlast : MarkTrace root middle last after) : MarkTrace root mark (first ++ last) after := by
  obtain rfl := hfirst.ends
  refine ⟨?_, hfirst.writes.append hlast.writes⟩
  rw [markAfter_append, hlast.ends]

theorem report (mark latest : Bool) : MarkTrace root mark [⟨.inr latest, ()⟩] latest := by
  refine ⟨rfl, .of_elsewhere fun exchange hmem hwrites => ?_⟩
  obtain rfl := List.mem_singleton.mp hmem
  obtain ⟨call, hcall, _⟩ := hwrites
  cases hcall

end MarkTrace

end Marks

/-! ## The parts of a call -/

section Parts

variable {root path value : String} {mark : Bool} {notOpened notWritten : ErrorText}

theorem writeStream_onStream {exchanges : List DeviceExchange} {error : Option ErrorText}
    (htranscript : Transcript (writeStream path value notOpened notWritten) exchanges error) :
    ∀ exchange ∈ exchanges, exchange.1.OnStream path := by
  simp only [writeStream, streamOpen, ask_bind, done_bind, transcript_ask_iff] at htranscript
  obtain ⟨opened, _, rfl, hopened⟩ := htranscript
  cases opened with
  | false =>
      obtain ⟨rfl, _⟩ := transcript_done_iff.mp hopened
      simp [DeviceCall.OnStream]
  | true =>
      obtain ⟨inserted, _, rfl, hinserted⟩ := transcript_ask_iff.mp hopened
      obtain ⟨delivered, _, rfl, hdone⟩ := transcript_ask_iff.mp hinserted
      obtain ⟨rfl, _⟩ := transcript_done_iff.mp hdone
      simp [DeviceCall.OnStream]

/-- A part that reports nothing and does not touch `unexport`. -/
theorem MarkTrace.of_silent {α : Type} {program : DeviceProgram α} {value : α}
    {exchanges : List MarkedExchange}
    (htranscript : Transcript (program.silent : MarkedProgram α) exchanges value)
    (helsewhere : ∀ exchange ∈ asked exchanges, ¬ exchange.1.OnStream (unexportFile root)) :
    MarkTrace root mark exchanges mark := by
  refine ⟨markAfter_of_silent htranscript.reported_silent, .of_elsewhere ?_⟩
  rintro ⟨question, reply⟩ hmem ⟨call, rfl, hcall⟩
  exact helsewhere ⟨call, reply⟩ (mem_asked_iff.mpr hmem) hcall

theorem writeStream_trace {exchanges : List MarkedExchange} {error : Option ErrorText}
    (hpath : path ≠ unexportFile root)
    (htranscript : Transcript
      ((writeStream path value notOpened notWritten).silent : MarkedProgram _) exchanges error) :
    MarkTrace root mark exchanges mark := by
  refine .of_silent htranscript fun exchange hmem hcall => ?_
  have hstream := writeStream_onStream htranscript.of_silent exchange hmem
  obtain ⟨call, reply⟩ := exchange
  cases call <;> simp_all [DeviceCall.OnStream]

end Parts

namespace GpioPin

variable {device after : GpioPin} {answer : OpenAnswer GpioPin} {exchanges : List MarkedExchange}

theorem setMark_trace {root : String} {mark latest : Bool}
    (htranscript : Transcript (device.setMark latest) exchanges after) :
    after = { device with exportedByThisInstance := latest } ∧ reported exchanges = [latest] ∧
      MarkTrace root mark exchanges latest := by
  unfold setMark at htranscript
  obtain ⟨first, _, _, rfl, hreport, hdone⟩ := transcript_bind_iff.mp htranscript
  obtain rfl := transcript_report_iff.mp hreport
  obtain ⟨rfl, rfl⟩ := transcript_done_iff.mp hdone
  exact ⟨rfl, rfl, .report mark latest⟩

theorem recordedUnexport_trace
    (htranscript : Transcript device.recordedUnexport exchanges after) :
    after = { device with exportedByThisInstance := false } ∧ true ∉ reported exchanges ∧
      MarkTrace device.gpioRoot true exchanges false := by
  unfold recordedUnexport at htranscript
  obtain ⟨writing, marking, _, rfl, hwriting, hmarking⟩ := transcript_bind_iff.mp htranscript
  obtain ⟨rfl, hreported, htrace⟩ := @setMark_trace _ _ _ device.gpioRoot true _ hmarking
  have hsilent := hwriting.reported_silent
  have hwrites : MarkTrace device.gpioRoot true writing true :=
    ⟨markAfter_of_silent hsilent, .of_silent hsilent⟩
  refine ⟨rfl, ?_, hwrites.append htrace⟩
  simp [hsilent, hreported]

theorem recordedUnexportOwn_trace
    (htranscript : Transcript device.recordedUnexportOwn exchanges after) :
    after = { device with exportedByThisInstance := false } ∧ true ∉ reported exchanges ∧
      MarkTrace device.gpioRoot device.exportedByThisInstance exchanges false := by
  unfold recordedUnexportOwn at htranscript
  split at htranscript
  · rename_i hmark
    rw [hmark]
    exact recordedUnexport_trace htranscript
  · rename_i hmark
    rw [Bool.not_eq_true] at hmark
    obtain ⟨rfl, rfl⟩ := transcript_done_iff.mp htranscript
    rw [hmark]
    exact ⟨by rw [← hmark], by simp, .nil⟩

theorem recordedClose_trace (htranscript : Transcript device.recordedClose exchanges after) :
    after = { device with exportedByThisInstance := false, state := .closed } ∧
      true ∉ reported exchanges ∧
      MarkTrace device.gpioRoot device.exportedByThisInstance exchanges false := by
  unfold recordedClose at htranscript
  obtain ⟨first, _, closed, rfl, hunexport, hdone⟩ := transcript_bind_iff.mp htranscript
  obtain ⟨rfl, rfl⟩ := transcript_done_iff.mp hdone
  obtain ⟨rfl, htrace⟩ := recordedUnexportOwn_trace hunexport
  rw [List.append_nil]
  exact ⟨rfl, htrace⟩

theorem recordedOpenDirection_trace
    (htranscript : Transcript device.recordedOpenDirection exchanges answer) :
    true ∉ reported exchanges ∧ MarkTrace device.gpioRoot device.exportedByThisInstance exchanges
      answer.device.exportedByThisInstance := by
  unfold recordedOpenDirection at htranscript
  obtain ⟨writing, rest, written, rfl, hwriting, hrest⟩ := transcript_bind_iff.mp htranscript
  have hsilent := hwriting.reported_silent
  have hwrites : MarkTrace device.gpioRoot device.exportedByThisInstance writing
      device.exportedByThisInstance :=
    writeStream_trace device.directionFile_ne_unexportFile hwriting
  cases written with
  | none =>
      obtain ⟨rfl, rfl⟩ := transcript_done_iff.mp hrest
      rw [List.append_nil]
      exact ⟨by simp [hsilent], hwrites⟩
  | some error =>
      obtain ⟨last, _, closed, rfl, hunexport, hdone⟩ := transcript_bind_iff.mp hrest
      obtain ⟨rfl, rfl⟩ := transcript_done_iff.mp hdone
      obtain ⟨rfl, hreported, htrace⟩ := recordedUnexportOwn_trace hunexport
      rw [List.append_nil]
      exact ⟨by simp [hsilent, hreported], hwrites.append htrace⟩

theorem waitForPath_trace {root path : String} {mark : Bool} {found : SystemResult Bool}
    (htranscript : Transcript ((waitForPath path).silent : MarkedProgram _) exchanges found) :
    MarkTrace root mark exchanges mark := by
  refine .of_silent htranscript fun exchange hmem hcall => ?_
  have hwatches := (waitRounds_transcript htranscript.of_silent).1 exchange hmem
  obtain ⟨call, reply⟩ := exchange
  cases call <;> first | exact hcall | exact hwatches

theorem recordedOpenExport_trace
    (htranscript : Transcript device.recordedOpenExport exchanges answer) :
    MarkTrace device.gpioRoot device.exportedByThisInstance exchanges
      answer.device.exportedByThisInstance := by
  unfold recordedOpenExport at htranscript
  obtain ⟨writing, rest, written, rfl, hwriting, hrest⟩ := transcript_bind_iff.mp htranscript
  have hwrites : MarkTrace device.gpioRoot device.exportedByThisInstance writing
      device.exportedByThisInstance :=
    writeStream_trace (exportFile_ne_unexportFile device.gpioRoot) hwriting
  refine hwrites.append ?_
  cases written with
  | some error =>
      obtain ⟨rfl, rfl⟩ := transcript_done_iff.mp hrest
      exact .nil
  | none =>
      obtain ⟨marking, rest, _, rfl, hmarking, hrest⟩ := transcript_bind_iff.mp hrest
      obtain ⟨rfl, _, hmarks⟩ := @setMark_trace _ _ _ device.gpioRoot
        device.exportedByThisInstance _ hmarking
      obtain ⟨waiting, rest, found, rfl, hwaiting, hrest⟩ := transcript_bind_iff.mp hrest
      refine hmarks.append ((waitForPath_trace hwaiting).append ?_)
      rcases found with errno | _ | _
      · obtain ⟨rfl, rfl⟩ := transcript_done_iff.mp hrest
        exact .nil
      · obtain ⟨last, _, closed, rfl, hunexport, hdone⟩ := transcript_bind_iff.mp hrest
        obtain ⟨rfl, rfl⟩ := transcript_done_iff.mp hdone
        obtain ⟨rfl, _, htrace⟩ := recordedUnexport_trace hunexport
        rw [List.append_nil]
        exact htrace
      · exact (recordedOpenDirection_trace hrest).2

/-- An `open` that marks its instance has not found the directory at first. -/
theorem recordedOpen_trace (htranscript : Transcript device.recordedOpen exchanges answer) :
    (true ∈ reported exchanges → device.FindsNothing (asked exchanges)) ∧
      MarkTrace device.gpioRoot device.exportedByThisInstance exchanges
        answer.device.exportedByThisInstance := by
  unfold recordedOpen at htranscript
  split at htranscript
  · obtain ⟨rfl, rfl⟩ := transcript_done_iff.mp htranscript
    exact ⟨by simp, .nil⟩
  obtain ⟨looking, rest, found, rfl, hlooking, hrest⟩ := transcript_bind_iff.mp htranscript
  obtain rfl : looking = [⟨.inl (.pathExists device.pinPath), found⟩] :=
    transcript_perform_iff.mp hlooking
  have hlooks : MarkTrace device.gpioRoot device.exportedByThisInstance
      [⟨.inl (.pathExists device.pinPath), found⟩] device.exportedByThisInstance :=
    .of_silent hlooking (by simp [asked, DeviceCall.OnStream])
  rcases found with errno | _ | _
  · obtain ⟨rfl, rfl⟩ := transcript_done_iff.mp hrest
    exact ⟨by simp, hlooks.append .nil⟩
  · exact ⟨fun _ => rfl, hlooks.append (recordedOpenExport_trace hrest)⟩
  · obtain ⟨hreported, htrace⟩ := recordedOpenDirection_trace hrest
    exact ⟨by simp [hreported], hlooks.append htrace⟩

end GpioPin

end ElapPlatform.Device
