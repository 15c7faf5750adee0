import ElapPlatform.DeviceImplementations

/-!
# The device manager

`openAll` opens the devices in the order of their registration.  The first one that
fails has the opened ones closed again, last to first; an exception has not.
-/

namespace ElapPlatform.Device

open Interaction Interaction.Program

/-- An `IDevice`. -/
structure DeviceKind (Question : Type) (Reply : Question → Type) where
  Object : Type
  name : Object → String
  «open» : Object → Program Question Reply (OpenAnswer Object)
  close : Object → Program Question Reply Object
  state : Object → DeviceState

namespace DeviceKind

variable {Question : Type} {Reply : Question → Type}

section Manager

variable (kind : DeviceKind Question Reply)

def find (devices : List kind.Object) (name : String) : Option kind.Object :=
  devices.find? fun device => kind.name device = name

def add (devices : List kind.Object) (device : Option kind.Object) :
    ObjectAnswer (List kind.Object) :=
  match device with
  | none => ⟨some (.message "device is null"), devices⟩
  | some device =>
      if (kind.find devices (kind.name device)).isSome then
        ⟨some (.message ("device already registered: " ++ kind.name device)), devices⟩
      else ⟨none, devices ++ [device]⟩

def closeAll : List kind.Object → Program Question Reply (List kind.Object)
  | [] => return []
  | device :: rest => do
      let device ← kind.close device
      let rest ← closeAll rest
      return device :: rest

/-- The loop over `openedDevices` from its end. -/
def rollBack (opened : List kind.Object) : Program Question Reply (List kind.Object) := do
  let closed ← kind.closeAll opened.reverse
  return closed.reverse

/-- The rest of the loop of `openAll`, behind the devices it opened. -/
def openRest (opened : List kind.Object) :
    List kind.Object → Program Question Reply (OpenAnswer (List kind.Object))
  | [] => return ⟨.opened, opened⟩
  | device :: rest => do
      let answer ← kind.open device
      match answer.result with
      | .opened => openRest (opened ++ [answer.device]) rest
      | .failed error =>
          let closed ← kind.rollBack opened
          return ⟨.failed error, closed ++ answer.device :: rest⟩
      | .thrown errno => return ⟨.thrown errno, opened ++ answer.device :: rest⟩

def openAll (devices : List kind.Object) :
    Program Question Reply (OpenAnswer (List kind.Object)) :=
  kind.openRest [] devices

end Manager

/-- No two devices of a manager have one name. -/
theorem add_names_nodup {kind : DeviceKind Question Reply} {devices : List kind.Object}
    (hnames : (devices.map kind.name).Nodup) (device : Option kind.Object) :
    ((kind.add devices device).object.map kind.name).Nodup := by
  cases device with
  | none => exact hnames
  | some device =>
      unfold add
      dsimp only
      split
      · exact hnames
      · rename_i hfree
        have hfresh : kind.name device ∉ devices.map kind.name := by
          simpa [find] using hfree
        have hconcat := hnames.concat hfresh
        rw [List.concat_eq_append] at hconcat
        rw [List.map_append]
        exact hconcat

/-! ## What the calls do to the devices -/

def Opens (kind : DeviceKind Question Reply) (device : kind.Object) (result : OpenResult)
    (after : kind.Object) : Prop :=
  ∃ exchanges, Transcript (kind.open device) exchanges ⟨result, after⟩

def Closes (kind : DeviceKind Question Reply) (device after : kind.Object) : Prop :=
  ∃ exchanges, Transcript (kind.close device) exchanges after

inductive OpensAll (kind : DeviceKind Question Reply) :
    List kind.Object → OpenAnswer (List kind.Object) → Prop
  | opened {devices after : List kind.Object}
      (hopened : List.Forall₂ (kind.Opens · .opened ·) devices after) :
      OpensAll kind devices ⟨.opened, after⟩
  | failed {before opened closed rest : List kind.Object} {device after : kind.Object}
      {error : ErrorText} (hopened : List.Forall₂ (kind.Opens · .opened ·) before opened)
      (hfailed : kind.Opens device (.failed error) after)
      (hclosed : List.Forall₂ kind.Closes opened closed) :
      OpensAll kind (before ++ device :: rest) ⟨.failed error, closed ++ after :: rest⟩
  | thrown {before opened rest : List kind.Object} {device after : kind.Object} {errno : Errno}
      (hopened : List.Forall₂ (kind.Opens · .opened ·) before opened)
      (hthrown : kind.Opens device (.thrown errno) after) :
      OpensAll kind (before ++ device :: rest) ⟨.thrown errno, opened ++ after :: rest⟩

section Transcripts

variable {kind : DeviceKind Question Reply} {exchanges : List (Exchange Question Reply)}

theorem closeAll_transcript {devices after : List kind.Object}
    (htranscript : Transcript (kind.closeAll devices) exchanges after) :
    List.Forall₂ kind.Closes devices after := by
  induction devices generalizing exchanges after with
  | nil =>
      obtain ⟨_, rfl⟩ := transcript_done_iff.mp htranscript
      exact .nil
  | cons device rest ih =>
      unfold closeAll at htranscript
      obtain ⟨first, _, closed, rfl, hclose, hrest⟩ := transcript_bind_iff.mp htranscript
      obtain ⟨second, _, others, rfl, hothers, hdone⟩ := transcript_bind_iff.mp hrest
      obtain ⟨_, rfl⟩ := transcript_done_iff.mp hdone
      exact .cons ⟨first, hclose⟩ (ih hothers)

theorem rollBack_transcript {opened after : List kind.Object}
    (htranscript : Transcript (kind.rollBack opened) exchanges after) :
    List.Forall₂ kind.Closes opened after := by
  unfold rollBack at htranscript
  obtain ⟨first, _, closed, rfl, hclose, hdone⟩ := transcript_bind_iff.mp htranscript
  obtain ⟨_, rfl⟩ := transcript_done_iff.mp hdone
  have hreversed := List.rel_reverse (closeAll_transcript hclose)
  rwa [List.reverse_reverse] at hreversed

theorem openRest_transcript {before opened rest : List kind.Object}
    {answer : OpenAnswer (List kind.Object)}
    (hopened : List.Forall₂ (kind.Opens · .opened ·) before opened)
    (htranscript : Transcript (kind.openRest opened rest) exchanges answer) :
    kind.OpensAll (before ++ rest) answer := by
  induction rest generalizing before opened exchanges with
  | nil =>
      obtain ⟨_, rfl⟩ := transcript_done_iff.mp htranscript
      rw [List.append_nil]
      exact .opened hopened
  | cons device rest ih =>
      unfold openRest at htranscript
      obtain ⟨first, last, ⟨result, after⟩, rfl, hopen, hrest⟩ :=
        transcript_bind_iff.mp htranscript
      cases result with
      | opened =>
          have hnext : List.Forall₂ (kind.Opens · .opened ·) (before ++ [device])
              (opened ++ [after]) :=
            List.rel_append hopened (.cons ⟨first, hopen⟩ .nil)
          rw [List.append_cons]
          exact ih hnext hrest
      | failed error =>
          obtain ⟨second, _, closed, rfl, hclose, hdone⟩ := transcript_bind_iff.mp hrest
          obtain ⟨_, rfl⟩ := transcript_done_iff.mp hdone
          exact .failed hopened ⟨first, hopen⟩ (rollBack_transcript hclose)
      | thrown errno =>
          obtain ⟨_, rfl⟩ := transcript_done_iff.mp hrest
          exact .thrown hopened ⟨first, hopen⟩

theorem openAll_transcript {devices : List kind.Object} {answer : OpenAnswer (List kind.Object)}
    (htranscript : Transcript (kind.openAll devices) exchanges answer) :
    kind.OpensAll devices answer :=
  openRest_transcript .nil htranscript

end Transcripts

end DeviceKind

end ElapPlatform.Device
