import ElapPlatform.DeviceImplementations

/-!
# Writes to a file device

`FileDevice::write` repeats `::write` until the buffer is used up.  A call of the kernel
names the part of the buffer it is given.
-/

namespace ElapPlatform.Device

open Interaction Interaction.Program
open Ipc (Descriptor)

/-! ## The loop -/

inductive WriteCall where
  /-- `count` bytes of the buffer, from `offset` on. -/
  | write (descriptor : Descriptor) (offset count : ℕ)
  deriving DecidableEq, Repr

abbrev WriteCall.Reply : WriteCall → Type
  | .write _ _ _ => SystemResult ℕ

abbrev WriteProgram (α : Type) := Program WriteCall WriteCall.Reply α

abbrev WriteExchange := Exchange WriteCall WriteCall.Reply

/-- `write` returns `true` or `false`, or is still in its loop. -/
inductive WriteOutcome where
  | written
  | failed (error : ErrorText)
  | running
  deriving DecidableEq, Repr

def writeBytes (descriptor : Descriptor) (offset count : ℕ) : WriteProgram (SystemResult ℕ) :=
  .ask (WriteCall.write descriptor offset count) .done

namespace FileDevice

def writeLoop (fd : Descriptor) (size : ℕ) : ℕ → ℕ → WriteProgram WriteOutcome
  | 0, written => return if written < size then .running else .written
  | passes + 1, written => do
      if written < size then
        match ← writeBytes fd written (size - written) with
        | .error errno =>
            if errno = EINTR then writeLoop fd size passes written
            else return .failed (systemError "write" errno)
        | .ok 0 => return .failed (.message "write failed: no bytes written")
        | .ok (count + 1) => writeLoop fd size passes (written + (count + 1))
      else return .written

/-- `passes` bounds the calls of the kernel. -/
def write (device : FileDevice) (data : Bytes) (passes : ℕ) : WriteProgram WriteOutcome :=
  match device.fd with
  | none => return .failed (.message "write failed: device is not open")
  | some fd => writeLoop fd data.length passes 0

end FileDevice

/-! ## What the kernel accepts -/

/-- The kernel accepts no more than it is given. -/
def WithinCount : WriteExchange → Prop
  | ⟨.write _ _ count, .ok accepted⟩ => accepted ≤ count
  | ⟨.write _ _ _, .error _⟩ => True

/-- The part of the buffer that one call delivers. -/
def deliveredBy (data : Bytes) : WriteExchange → Bytes
  | ⟨.write _ offset _, .ok accepted⟩ => (data.drop offset).take accepted
  | ⟨.write _ _ _, .error _⟩ => []

def delivered (data : Bytes) (exchanges : List WriteExchange) : Bytes :=
  exchanges.flatMap (deliveredBy data)

/-- What calls that begin behind `written` bytes deliver. -/
structure Delivery (data : Bytes) (written : ℕ) (exchanges : List WriteExchange)
    (outcome : WriteOutcome) : Prop where
  whole : outcome = .written → delivered data exchanges = data.drop written
  part : outcome ≠ .written → delivered data exchanges <+: data.drop written ∧
    delivered data exchanges ≠ data.drop written
  offsets : ∀ before descriptor offset count reply after,
    exchanges = before ++ ⟨.write descriptor offset count, reply⟩ :: after →
      offset = written + (delivered data before).length ∧ 0 < count ∧
        offset + count = data.length

section Loop

variable {data : Bytes} {written passes : ℕ} {fd : Descriptor} {outcome : WriteOutcome}
  {exchanges rest : List WriteExchange}

@[simp] theorem delivered_nil : delivered data [] = [] := rfl

@[simp] theorem delivered_cons {exchange : WriteExchange} :
    delivered data (exchange :: exchanges) =
      deliveredBy data exchange ++ delivered data exchanges := by
  simp [delivered]

theorem writeLoop_of_done (hdone : data.length ≤ written) :
    FileDevice.writeLoop fd data.length passes written = .done .written := by
  have hnot : ¬ written < data.length := by omega
  cases passes with
  | zero => simp [FileDevice.writeLoop, hnot]
  | succ passes => simp [FileDevice.writeLoop, hnot]

/-- One pass through the loop. -/
theorem writeLoop_succ (hleft : written < data.length) :
    FileDevice.writeLoop fd data.length (passes + 1) written =
      .ask (WriteCall.write fd written (data.length - written)) fun reply =>
        match reply with
        | .error errno =>
            if errno = EINTR then FileDevice.writeLoop fd data.length passes written
            else .done (.failed (systemError "write" errno))
        | .ok 0 => .done (.failed (.message "write failed: no bytes written"))
        | .ok (count + 1) =>
            FileDevice.writeLoop fd data.length passes (written + (count + 1)) := by
  rw [FileDevice.writeLoop, if_pos hleft]
  refine congrArg (Program.ask _) (funext fun reply => ?_)
  rcases reply with errno | _ | count
  · rfl
  · rfl
  · rfl

namespace Delivery

theorem nothing (hdone : data.length ≤ written) : Delivery data written [] .written := by
  constructor
  · intro _
    simp [List.drop_eq_nil_of_le hdone]
  · intro hnot
    exact absurd rfl hnot
  · intro before descriptor offset count reply after hsplit
    simp at hsplit

theorem stopped (hleft : written < data.length) (hnot : outcome ≠ .written) :
    Delivery data written [] outcome := by
  have hrest : data.drop written ≠ [] := by simpa using hleft
  constructor
  · intro hdone
    exact absurd hdone hnot
  · intro _
    exact ⟨List.nil_prefix, hrest.symm⟩
  · intro before descriptor offset count reply after hsplit
    simp at hsplit

/-- A call in front of the others. -/
theorem cons {reply : SystemResult ℕ} {next : ℕ} (hleft : written < data.length)
    (hsplit : deliveredBy data ⟨.write fd written (data.length - written), reply⟩ ++
      data.drop next = data.drop written)
    (hnext : next = written +
      (deliveredBy data ⟨.write fd written (data.length - written), reply⟩).length)
    (hrest : Delivery data next rest outcome) :
    Delivery data written
      (⟨.write fd written (data.length - written), reply⟩ :: rest) outcome := by
  constructor
  · intro hdone
    rw [delivered_cons, hrest.whole hdone, hsplit]
  · intro hnot
    obtain ⟨hpart, hstrict⟩ := hrest.part hnot
    rw [delivered_cons, ← hsplit]
    refine ⟨(List.prefix_append_right_inj _).mpr hpart, ?_⟩
    intro hsame
    exact hstrict (List.append_cancel_left hsame)
  · intro before descriptor offset count reply' after hexchanges
    cases before with
    | nil =>
        cases hexchanges
        simp
        omega
    | cons first before =>
        obtain ⟨rfl, htail⟩ := List.cons.inj hexchanges
        obtain ⟨hoffset, hpositive, hend⟩ := hrest.offsets _ _ _ _ _ _ htail
        refine ⟨?_, hpositive, hend⟩
        rw [hoffset, hnext, delivered_cons, List.length_append, Nat.add_assoc]

theorem refused {errno : Errno} (hleft : written < data.length)
    (hrest : Delivery data written rest outcome) :
    Delivery data written
      (⟨.write fd written (data.length - written), .error errno⟩ :: rest) outcome :=
  hrest.cons hleft rfl rfl

theorem accepted {count : ℕ} (hleft : written < data.length)
    (hcount : count ≤ data.length - written)
    (hrest : Delivery data (written + count) rest outcome) :
    Delivery data written
      (⟨.write fd written (data.length - written), .ok count⟩ :: rest) outcome := by
  refine hrest.cons hleft ?_ ?_
  · rw [← List.drop_drop]
    exact List.take_append_drop count _
  · simp [deliveredBy, hcount]

end Delivery

theorem writeLoop_delivers {passes written : ℕ} {exchanges : List WriteExchange}
    (htranscript : Transcript (FileDevice.writeLoop fd data.length passes written)
      exchanges outcome)
    (hwithin : ∀ exchange ∈ exchanges, WithinCount exchange) :
    Delivery data written exchanges outcome := by
  induction passes generalizing written exchanges with
  | zero =>
      by_cases hleft : written < data.length
      · simp only [FileDevice.writeLoop, hleft, if_true] at htranscript
        obtain ⟨rfl, rfl⟩ := transcript_done_iff.mp htranscript
        exact .stopped hleft (by simp)
      · rw [writeLoop_of_done (by omega)] at htranscript
        obtain ⟨rfl, rfl⟩ := transcript_done_iff.mp htranscript
        exact .nothing (by omega)
  | succ passes ih =>
      by_cases hleft : written < data.length
      · rw [writeLoop_succ hleft, transcript_ask_iff] at htranscript
        obtain ⟨reply, rest, rfl, hrest⟩ := htranscript
        have hlater : ∀ exchange ∈ rest, WithinCount exchange :=
          fun exchange hmem => hwithin exchange (List.mem_cons_of_mem _ hmem)
        rcases reply with errno | _ | count
        · dsimp only at hrest
          split at hrest
          · exact (ih hrest hlater).refused hleft
          · obtain ⟨rfl, rfl⟩ := transcript_done_iff.mp hrest
            exact (Delivery.stopped hleft (by simp)).refused hleft
        · obtain ⟨rfl, rfl⟩ := transcript_done_iff.mp hrest
          exact (Delivery.stopped hleft (by simp)).accepted hleft (Nat.zero_le _)
        · have hcount : count + 1 ≤ data.length - written :=
            hwithin _ List.mem_cons_self
          exact (ih hrest hlater).accepted hleft hcount
      · rw [writeLoop_of_done (by omega)] at htranscript
        obtain ⟨rfl, rfl⟩ := transcript_done_iff.mp htranscript
        exact .nothing (by omega)

/-! ## Passes -/

def interrupted : WriteExchange → Bool
  | ⟨.write _ _ _, .error errno⟩ => errno == EINTR
  | ⟨.write _ _ _, .ok _⟩ => false

/-- Every pass of a call that has not returned was interrupted or delivered something. -/
theorem writeLoop_running {passes written : ℕ} {exchanges : List WriteExchange}
    (htranscript : Transcript (FileDevice.writeLoop fd data.length passes written)
      exchanges .running)
    (hwithin : ∀ exchange ∈ exchanges, WithinCount exchange) :
    passes ≤ exchanges.countP interrupted + (delivered data exchanges).length := by
  induction passes generalizing written exchanges with
  | zero => exact Nat.zero_le _
  | succ passes ih =>
      by_cases hleft : written < data.length
      · rw [writeLoop_succ hleft, transcript_ask_iff] at htranscript
        obtain ⟨reply, rest, rfl, hrest⟩ := htranscript
        have hlater : ∀ exchange ∈ rest, WithinCount exchange :=
          fun exchange hmem => hwithin exchange (List.mem_cons_of_mem _ hmem)
        rcases reply with errno | _ | count
        · dsimp only at hrest
          split at hrest
          · rename_i hinterrupt
            have hpasses := ih hrest hlater
            simp only [List.countP_cons, interrupted, hinterrupt, delivered_cons, deliveredBy]
            simp only [List.nil_append, beq_self_eq_true, if_true]
            omega
          · obtain ⟨_, hrunning⟩ := transcript_done_iff.mp hrest
            cases hrunning
        · obtain ⟨_, hrunning⟩ := transcript_done_iff.mp hrest
          cases hrunning
        · have hpasses := ih hrest hlater
          have hcount : count + 1 ≤ data.length - written := hwithin _ List.mem_cons_self
          simp only [List.countP_cons, interrupted, delivered_cons, deliveredBy,
            List.length_append, List.length_take, List.length_drop]
          omega
      · rw [writeLoop_of_done (by omega)] at htranscript
        obtain ⟨_, hrunning⟩ := transcript_done_iff.mp htranscript
        cases hrunning

end Loop

/-! ## `write` -/

/-- The kernel has each byte at most once, all of them when `write` is true, and not all of
them when an open device's `write` is false. -/
theorem write_delivers_once {device : FileDevice} {data : Bytes} {passes : ℕ}
    {exchanges : List WriteExchange} {outcome : WriteOutcome}
    (htranscript : Transcript (device.write data passes) exchanges outcome)
    (hwithin : ∀ exchange ∈ exchanges, WithinCount exchange) :
    (∀ before descriptor offset count reply after,
      exchanges = before ++ ⟨.write descriptor offset count, reply⟩ :: after →
        offset = (delivered data before).length ∧ offset + count ≤ data.length) ∧
    (outcome = .written → delivered data exchanges = data) ∧
    (∀ error, outcome = .failed error → device.fd ≠ none →
      delivered data exchanges <+: data ∧ delivered data exchanges ≠ data) ∧
    (device.fd = none →
      outcome = .failed (.message "write failed: device is not open") ∧ exchanges = []) := by
  cases hfd : device.fd with
  | none =>
      simp only [FileDevice.write, hfd] at htranscript
      obtain ⟨rfl, rfl⟩ := transcript_done_iff.mp htranscript
      simp
  | some fd =>
      simp only [FileDevice.write, hfd] at htranscript
      have hdelivery := writeLoop_delivers htranscript hwithin
      refine ⟨?_, ?_, ?_, ?_⟩
      · intro before descriptor offset count reply after hsplit
        obtain ⟨hoffset, _, hend⟩ := hdelivery.offsets _ _ _ _ _ _ hsplit
        exact ⟨by rw [hoffset, Nat.zero_add], hend.le⟩
      · exact hdelivery.whole
      · rintro error rfl _
        exact hdelivery.part (by simp)
      · intro hclosed
        cases hclosed

/-- A call has returned once its passes outnumber the bytes and the interruptions. -/
theorem write_returns {device : FileDevice} {data : Bytes} {passes : ℕ}
    {exchanges : List WriteExchange}
    (htranscript : Transcript (device.write data passes) exchanges .running)
    (hwithin : ∀ exchange ∈ exchanges, WithinCount exchange) :
    passes ≤ exchanges.countP interrupted + data.length := by
  cases hfd : device.fd with
  | none =>
      simp only [FileDevice.write, hfd] at htranscript
      obtain ⟨_, hrunning⟩ := transcript_done_iff.mp htranscript
      cases hrunning
  | some fd =>
      simp only [FileDevice.write, hfd] at htranscript
      have hpasses := writeLoop_running htranscript hwithin
      have hpart := (writeLoop_delivers htranscript hwithin).part (by simp)
      have hlength := hpart.1.length_le
      rw [List.drop_zero] at hlength
      omega

/-- Three bytes in two parts, with an interruption between them. -/
theorem interrupted_write_delivers :
    delivered [97, 98, 99] [⟨.write 3 0 3, .ok 1⟩, ⟨.write 3 1 2, .error EINTR⟩,
      ⟨.write 3 1 2, .ok 2⟩] = [97, 98, 99] := by
  have htranscript : Transcript (FileDevice.write ⟨"d", "/d", 0, some 3, .open⟩ [97, 98, 99] 3)
      [⟨.write 3 0 3, .ok 1⟩, ⟨.write 3 1 2, .error EINTR⟩, ⟨.write 3 1 2, .ok 2⟩] .written :=
    .ask _ (.ask _ (.ask _ (.done _)))
  exact (write_delivers_once htranscript (by simp [WithinCount])).2.1 rfl

/-- An empty buffer is written to no device, and `write` returns `false`. -/
theorem closed_write_not_strict :
    Transcript (FileDevice.write ⟨"d", "/d", 0, none, .closed⟩ [] 0) []
        (.failed (.message "write failed: device is not open")) ∧
      ¬ (delivered [] [] <+: [] ∧ delivered [] [] ≠ []) :=
  ⟨.done _, by simp⟩

end ElapPlatform.Device
