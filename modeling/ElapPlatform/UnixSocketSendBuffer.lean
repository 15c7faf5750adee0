import ElapPlatform.UnixSocketStreamCalls
import Mathlib.Logic.Relation

/-!
# Timed sends and the room in the send buffer

`accept` and `connect` return blocking descriptors, and neither loop of `writeAll`
passes `MSG_DONTWAIT`: `::send` returns only when everything it was asked to send is
queued.  `POLLOUT` says that some space is free, not how much.

How a kernel accounts for queued bytes is its own affair (an AF_UNIX socket is charged
for the buffers the bytes are put into, not for the bytes), so the buffer is a parameter.
-/

namespace ElapPlatform.Ipc

open Interaction

/-- The send buffer of a connected stream socket, as one kernel keeps it. -/
structure SendKernel (Buffer : Type) where
  /-- How many bytes a `::send` could queue at once. -/
  room : Buffer → ℕ
  /-- `poll` may report `POLLOUT`. -/
  Writable : Buffer → Prop
  /-- So many more bytes are queued, and the peer may have read some. -/
  Queues : ℕ → Buffer → Buffer → Prop
  room_pos : ∀ buffer, Writable buffer → 0 < room buffer

namespace SendKernel

variable {Buffer : Type} (kernel : SendKernel Buffer)

/-- The peer goes on reading at any time; nobody else writes to the socket. -/
def Reads : Buffer → Buffer → Prop := Relation.ReflTransGen (kernel.Queues 0)

/-- `POLLOUT` has been reported on the way, and nothing was queued. -/
def ReportsRoom (before after : Buffer) : Prop :=
  ∃ reported, kernel.Reads before reported ∧ kernel.Writable reported ∧
    kernel.Reads reported after

def answers (before : Buffer) (call : StreamCall) (reply : call.Reply)
    (after : Buffer) : Prop :=
  match call, reply with
  | .now, _ => kernel.Reads before after
  | .poll event _, answer =>
      kernel.Reads before after ∧
        ∀ revents, answer = .events revents → event = .pollout → revents.pollout = true →
          kernel.ReportsRoom before after
  | .send _, .error _ => kernel.Reads before after
  | .send bytes, .ok count => count = bytes.length ∧ kernel.Queues count before after
  | .recv _, _ => kernel.Reads before after
  | .accept, _ => kernel.Reads before after
  | .close _, _ => kernel.Reads before after

/-- Four bytes fit whenever `POLLOUT` was reported, and behind them the message does. -/
structure Admits (buffer : Buffer) (message : Bytes) : Prop where
  header : ∀ later, kernel.ReportsRoom buffer later → 4 ≤ kernel.room later
  message : ∀ later sent last, kernel.ReportsRoom buffer later → kernel.Queues 4 later sent →
    kernel.ReportsRoom sent last → message.length ≤ kernel.room last

end SendKernel

/-- What a call asks of `::send` fits into the buffer at that moment. -/
def SendsFit {Buffer α : Type} (kernel : SendKernel Buffer) (program : StreamProgram α)
    (buffer : Buffer) : Prop :=
  ∀ bytes later, Reaches kernel.answers program buffer (.send bytes) later →
    bytes.length ≤ kernel.room later

variable {Buffer : Type} {kernel : SendKernel Buffer} {before after later : Buffer}

theorem SendKernel.ReportsRoom.of_reads (hreads : kernel.Reads before after)
    (hreports : kernel.ReportsRoom after later) : kernel.ReportsRoom before later := by
  obtain ⟨reported, hbefore, hwritable, hafter⟩ := hreports
  exact ⟨reported, hreads.trans hbefore, hwritable, hafter⟩

section Waiting

variable {event : PollEvent} {deadline : ℤ} {operation : String} {polls : ℕ}

theorem waitForDescriptor_not_send {bytes : Bytes} :
    ¬ Reaches kernel.answers (Calls.waitForDescriptor event deadline operation polls)
      before (.send bytes) after := by
  induction polls generalizing before with
  | zero => exact not_reaches_done _
  | succ polls ih =>
      rw [Calls.waitForDescriptor_succ, reaches_ask_iff]
      rintro (⟨hnow, _⟩ | ⟨now, middle, _, hreaches⟩)
      · cases hnow
      · rcases reaches_ask_iff.mp hreaches with ⟨hpoll, _⟩ | ⟨answer, last, _, hrest⟩
        · cases hpoll
        · revert hrest
          cases Calls.waitVerdict event operation answer with
          | some outcome => exact not_reaches_done _
          | none => exact ih

/-- Waiting queues nothing, and a descriptor is ready to write when `POLLOUT` was reported. -/
theorem waitForDescriptor_reads {outcome : WaitOutcome}
    (hrun : Runs kernel.answers (Calls.waitForDescriptor event deadline operation polls)
      before outcome after) :
    kernel.Reads before after ∧
      (event = .pollout → outcome = .ready → kernel.ReportsRoom before after) := by
  induction polls generalizing before with
  | zero =>
      obtain ⟨rfl, rfl⟩ := runs_done_iff.mp hrun
      exact ⟨.refl, fun _ hready => by cases hready⟩
  | succ polls ih =>
      rw [Calls.waitForDescriptor_succ] at hrun
      obtain ⟨now, middle, hnow, hrun⟩ := runs_ask_iff.mp hrun
      obtain ⟨answer, last, hpoll, hrest⟩ := runs_ask_iff.mp hrun
      obtain ⟨hreads, hpollout⟩ := hpoll
      cases hverdict : Calls.waitVerdict event operation answer with
      | none =>
          rw [hverdict] at hrest
          obtain ⟨hlater, hready⟩ := ih hrest
          refine ⟨(hnow.trans hreads).trans hlater, fun hevent houtcome => ?_⟩
          exact (hready hevent houtcome).of_reads (hnow.trans hreads)
      | some verdict =>
          rw [hverdict] at hrest
          obtain ⟨rfl, rfl⟩ := runs_done_iff.mp hrest
          refine ⟨hnow.trans hreads, ?_⟩
          rintro rfl rfl
          obtain ⟨revents, rfl, hhas⟩ := Calls.waitVerdict_ready_iff.mp hverdict
          exact (hpollout revents rfl rfl hhas).of_reads hnow

end Waiting

/-! ## What a timed send asks for -/

section Passes

variable {retried : List Errno} {bytes : Bytes} {reply : SystemResult ℕ}

theorem sendPass_moved {count : ℕ}
    (hanswer : kernel.answers before (.send bytes) reply after)
    (hpass : Calls.sendPass retried reply = .moved count) :
    count = bytes.length ∧ kernel.Queues count before after := by
  rcases reply with errno | (_ | given)
  · simp only [Calls.sendPass] at hpass
    split_ifs at hpass
  · cases hpass
  · cases hpass
    exact hanswer

theorem sendPass_again (hanswer : kernel.answers before (.send bytes) reply after)
    (hpass : Calls.sendPass retried reply = .again) : kernel.Reads before after := by
  rcases reply with errno | (_ | given)
  · exact hanswer
  · cases hpass
  · cases hpass

end Passes

section Loop

variable {deadline : ℤ} {polls passes : ℕ} {bytes : Bytes}

/-- Every `::send` of the loop asks for all of the bytes: a shorter request would
need a send that took a part, and a blocking socket takes everything or nothing. -/
theorem writeAllTimed_asks_all {asked : Bytes}
    (hreaches : Reaches kernel.answers (Calls.writeAllTimed deadline polls passes bytes)
      before (.send asked) after) :
    asked = bytes ∧ kernel.ReportsRoom before after := by
  induction passes generalizing before with
  | zero => cases bytes <;> exact absurd hreaches (not_reaches_done _)
  | succ passes ih =>
      cases bytes with
      | nil => exact absurd hreaches (not_reaches_done _)
      | cons byte bytes =>
          rw [Calls.writeAllTimed_succ] at hreaches
          rcases reaches_bind_iff.mp hreaches with hwait | ⟨waited, ready, hwait, hrest⟩
          · exact absurd hwait waitForDescriptor_not_send
          obtain ⟨hreads, hroom⟩ := waitForDescriptor_reads hwait
          cases waited with
          | waiting => exact absurd hrest (not_reaches_done _)
          | failed error => exact absurd hrest (not_reaches_done _)
          | ready =>
              rcases reaches_ask_iff.mp hrest with ⟨hsend, rfl⟩ | ⟨reply, sent, hanswer, hlater⟩
              · cases hsend
                exact ⟨rfl, hroom rfl rfl⟩
              · cases hpass : Calls.sendPass Calls.timedRetried reply with
                | failed error =>
                    rw [hpass] at hlater
                    exact absurd hlater (not_reaches_done _)
                | again =>
                    rw [hpass] at hlater
                    obtain ⟨hasked, hreports⟩ := ih hlater
                    exact ⟨hasked, hreports.of_reads (hreads.trans (sendPass_again hanswer hpass))⟩
                | moved count =>
                    obtain ⟨rfl, _⟩ := sendPass_moved hanswer hpass
                    rw [hpass] at hlater
                    simp only [List.drop_length, Calls.writeAllTimed_nil] at hlater
                    exact absurd hlater (not_reaches_done _)

/-- A loop that wrote its bytes queued them in one send, after `POLLOUT` was reported. -/
theorem writeAllTimed_complete_queues (hbytes : bytes ≠ [])
    (hrun : Runs kernel.answers (Calls.writeAllTimed deadline polls passes bytes)
      before .complete after) :
    ∃ ready, kernel.ReportsRoom before ready ∧ kernel.Queues bytes.length ready after := by
  induction passes generalizing before with
  | zero =>
      cases bytes with
      | nil => contradiction
      | cons byte bytes => cases (runs_done_iff.mp hrun).1
  | succ passes ih =>
      cases bytes with
      | nil => contradiction
      | cons byte bytes =>
          rw [Calls.writeAllTimed_succ] at hrun
          obtain ⟨waited, ready, hwait, hrest⟩ := runs_bind_iff.mp hrun
          obtain ⟨hreads, hroom⟩ := waitForDescriptor_reads hwait
          cases waited with
          | waiting => cases (runs_done_iff.mp hrest).1
          | failed error => cases (runs_done_iff.mp hrest).1
          | ready =>
              obtain ⟨reply, sent, hanswer, hlater⟩ := runs_ask_iff.mp hrest
              cases hpass : Calls.sendPass Calls.timedRetried reply with
              | failed error =>
                  rw [hpass] at hlater
                  cases (runs_done_iff.mp hlater).1
              | again =>
                  rw [hpass] at hlater
                  obtain ⟨last, hreports, hqueues⟩ := ih hlater
                  have hagain := sendPass_again hanswer hpass
                  exact ⟨last, hreports.of_reads (hreads.trans hagain), hqueues⟩
              | moved count =>
                  obtain ⟨rfl, hqueues⟩ := sendPass_moved hanswer hpass
                  rw [hpass] at hlater
                  simp only [List.drop_length, Calls.writeAllTimed_nil] at hlater
                  obtain ⟨_, rfl⟩ := runs_done_iff.mp hlater
                  exact ⟨ready, hroom rfl rfl, hqueues⟩

end Loop

/-! ## Runs that send -/

section Sending

variable {deadline : ℤ} {bytes : Bytes}

theorem waitForDescriptor_can_be_ready {operation : String}
    (hreports : kernel.ReportsRoom before after) :
    Runs kernel.answers (Calls.waitForDescriptor .pollout deadline operation 1)
      before .ready after := by
  obtain ⟨reported, hbefore, _, hafter⟩ := id hreports
  rw [Calls.waitForDescriptor_succ]
  refine .answered (0 : ℤ) (show kernel.Reads before before from .refl) ?_
  refine .answered (PollAnswer.events ⟨false, true, false, false, false⟩)
    ⟨hbefore.trans hafter, fun _ _ _ _ => hreports⟩ ?_
  exact .done _ _

theorem writeAllTimed_can_ask (hbytes : bytes ≠ [])
    (hreports : kernel.ReportsRoom before after) :
    Reaches kernel.answers (Calls.writeAllTimed deadline 1 1 bytes)
      before (.send bytes) after := by
  cases bytes with
  | nil => contradiction
  | cons byte bytes =>
      rw [Calls.writeAllTimed_succ]
      exact reaches_bind_iff.mpr
        (.inr ⟨.ready, after, waitForDescriptor_can_be_ready hreports, .now _ _ _⟩)

theorem writeAllTimed_can_complete (hbytes : bytes ≠ [])
    (hreports : kernel.ReportsRoom before later)
    (hqueues : kernel.Queues bytes.length later after) :
    Runs kernel.answers (Calls.writeAllTimed deadline 1 1 bytes) before .complete after := by
  cases bytes with
  | nil => contradiction
  | cons byte bytes =>
      rw [Calls.writeAllTimed_succ]
      refine runs_bind_iff.mpr ⟨.ready, later, waitForDescriptor_can_be_ready hreports, ?_⟩
      refine .answered (Except.ok (bytes.length + 1) : SystemResult ℕ) ⟨rfl, hqueues⟩ ?_
      simp only [Calls.sendPass, List.drop_succ_cons, List.drop_length, Calls.writeAllTimed_nil]
      exact .done _ _

end Sending

/-! ## When no send of a message can block -/

section Messages

variable {connection : UnixSocketConnection} {message : Bytes} {timeout : ℤ}
  {buffer : Buffer}

theorem sendMessageTimed_asks (hopen : connection.isOpen) (htimeout : 0 ≤ timeout)
    (hsize : message.length ≤ uint32Max) {polls passes : ℕ} {asked : Bytes}
    (hreaches : Reaches kernel.answers
      (Calls.sendMessageTimed connection message timeout polls passes)
      buffer (.send asked) later) :
    (asked.length = 4 ∧ kernel.ReportsRoom buffer later) ∨
      (asked = message ∧ ∃ ready sent, kernel.ReportsRoom buffer ready ∧
        kernel.Queues 4 ready sent ∧ kernel.ReportsRoom sent later) := by
  rw [Calls.sendMessageTimed_of_accepted hopen htimeout hsize] at hreaches
  rcases reaches_ask_iff.mp hreaches with ⟨hsend, _⟩ | ⟨start, middle, hnow, hrest⟩
  · cases hsend
  rcases reaches_bind_iff.mp hrest with hheader | ⟨outcome, last, hheader, hpayload⟩
  · obtain ⟨rfl, hreports⟩ := writeAllTimed_asks_all hheader
    exact .inl ⟨htonl_length _, hreports.of_reads hnow⟩
  · cases outcome with
    | complete =>
        obtain ⟨ready, hready, hqueues⟩ := writeAllTimed_complete_queues (by simp [htonl]) hheader
        rw [htonl_length] at hqueues
        obtain ⟨rfl, hreports⟩ := writeAllTimed_asks_all hpayload
        exact .inr ⟨rfl, ready, last, hready.of_reads hnow, hqueues, hreports⟩
    | failed error => exact absurd hpayload (not_reaches_done _)
    | waiting => exact absurd hpayload (not_reaches_done _)

/-- The header is sent as soon as `POLLOUT` is reported. -/
theorem header_can_be_asked (hopen : connection.isOpen) (htimeout : 0 ≤ timeout)
    (hsize : message.length ≤ uint32Max) (hreports : kernel.ReportsRoom buffer later) :
    Reaches kernel.answers (Calls.sendMessageTimed connection message timeout 1 1)
      buffer (.send (htonl message.length)) later := by
  rw [Calls.sendMessageTimed_of_accepted hopen htimeout hsize]
  refine .answered (0 : ℤ) (show kernel.Reads buffer buffer from .refl) ?_
  exact reaches_bind_iff.mpr (.inl (writeAllTimed_can_ask (by simp [htonl]) hreports))

/-- So is the message after it. -/
theorem message_can_be_asked (hopen : connection.isOpen) (htimeout : 0 ≤ timeout)
    (hsize : message.length ≤ uint32Max) (hmessage : message ≠ [])
    {sent last : Buffer} (hheader : kernel.ReportsRoom buffer later)
    (hqueues : kernel.Queues 4 later sent) (hreports : kernel.ReportsRoom sent last) :
    Reaches kernel.answers (Calls.sendMessageTimed connection message timeout 1 1)
      buffer (.send message) last := by
  rw [Calls.sendMessageTimed_of_accepted hopen htimeout hsize]
  refine .answered (0 : ℤ) (show kernel.Reads buffer buffer from .refl) ?_
  refine reaches_bind_iff.mpr (.inr ⟨.complete, sent, ?_, writeAllTimed_can_ask hmessage hreports⟩)
  exact writeAllTimed_can_complete (by simp [htonl]) hheader (by rwa [htonl_length])

/-- When the sends of one pass fit, the buffer admits header and message. -/
theorem admits_of_sendsFit (hopen : connection.isOpen) (htimeout : 0 ≤ timeout)
    (hsize : message.length ≤ uint32Max)
    (hfits : SendsFit kernel (Calls.sendMessageTimed connection message timeout 1 1) buffer) :
    kernel.Admits buffer message where
  header later hreports := by
    have hasked := hfits _ later (header_can_be_asked hopen htimeout hsize hreports)
    rwa [htonl_length] at hasked
  message later sent last hreports hqueues hlast := by
    by_cases hmessage : message = []
    · simp [hmessage]
    · exact hfits message last
        (message_can_be_asked hopen htimeout hsize hmessage hreports hqueues hlast)

theorem timed_sends_fit_iff (hopen : connection.isOpen) (htimeout : 0 ≤ timeout) :
    (∀ polls passes, SendsFit kernel
        (Calls.sendMessageTimed connection message timeout polls passes) buffer) ↔
      message.length > uint32Max ∨ kernel.Admits buffer message := by
  rcases Nat.lt_or_ge uint32Max message.length with hlarge | hsize
  · refine iff_of_true (fun polls passes asked later hreaches => ?_) (.inl hlarge)
    rw [Calls.sendMessageTimed_of_too_large hopen htimeout hlarge] at hreaches
    exact absurd hreaches (not_reaches_done _)
  constructor
  · intro hfits
    exact .inr (admits_of_sendsFit hopen htimeout hsize (hfits 1 1))
  · rintro (hlarge | hadmits) polls passes asked later hreaches
    · omega
    · rcases sendMessageTimed_asks hopen htimeout hsize hreaches with
        ⟨hlength, hreports⟩ | ⟨rfl, ready, sent, hready, hqueues, hreports⟩
      · rw [hlength]
        exact hadmits.header later hreports
      · exact hadmits.message ready sent later hready hqueues hreports

end Messages

/-! ## A buffer that charges for every send -/

/-- A send of `count` bytes takes `count` and a fixed `overhead` out of `limit`; what the
peer has read is given back.  A buffer is what is charged to it. -/
def SendKernel.charging (limit overhead : ℕ) : SendKernel ℕ where
  room charged := limit - (charged + overhead)
  Writable charged := charged + overhead < limit
  Queues count before after := after ≤ before + if count = 0 then 0 else count + overhead
  room_pos _ hwritable := Nat.sub_pos_of_lt hwritable

section Charging

variable {limit overhead charged read : ℕ}

theorem SendKernel.charging_reads_le
    (hreads : (SendKernel.charging limit overhead).Reads charged read) : read ≤ charged := by
  induction hreads with
  | refl => exact le_rfl
  | tail _ hread ih => exact le_trans hread ih

theorem SendKernel.charging_reportsRoom_le
    (hreports : (SendKernel.charging limit overhead).ReportsRoom charged read) :
    read ≤ charged := by
  obtain ⟨reported, hbefore, _, hafter⟩ := hreports
  exact le_trans (charging_reads_le hafter) (charging_reads_le hbefore)

/-- Header and message are admitted when both fit with what each of them is charged. -/
theorem SendKernel.charging_admits {message : Bytes}
    (hroom : charged + (4 + overhead) + (message.length + overhead) ≤ limit) :
    (SendKernel.charging limit overhead).Admits charged message where
  header later hreports := by
    have hlater : later ≤ charged := charging_reportsRoom_le hreports
    change 4 ≤ limit - (later + overhead)
    omega
  message later sent last hreports hqueues hlast := by
    have hlater : later ≤ charged := charging_reportsRoom_le hreports
    have hsent : sent ≤ later + (4 + overhead) := hqueues
    have hend : last ≤ sent := charging_reportsRoom_le hlast
    change message.length ≤ limit - (last + overhead)
    omega

end Charging

theorem short_message_fits :
    SendsFit (.charging 212992 768) (Calls.sendMessageTimed ⟨4⟩ [104, 105] 1000 8 8) 0 :=
  (timed_sends_fit_iff (by decide) (by decide)).mpr
    (.inr (SendKernel.charging_admits (by decide))) 8 8

/-- The header fits; for the message the kernel waits for a peer that need not read. -/
theorem long_message_asks_too_much :
    ¬ ∀ (Buffer : Type) (kernel : SendKernel Buffer) (connection : UnixSocketConnection)
        (message : Bytes) (timeout : ℤ) (buffer : Buffer) (polls passes : ℕ),
      connection.isOpen → 0 ≤ timeout →
      SendsFit kernel (Calls.sendMessageTimed connection message timeout polls passes) buffer := by
  intro hfits
  have hlength : (List.replicate 300000 (0 : UInt8)).length = 300000 := List.length_replicate
  have hfit := hfits ℕ (.charging 212992 768) ⟨4⟩ (List.replicate 300000 0) 1000 0 1 1
    (by decide) (by decide)
  have hadmits := admits_of_sendsFit (by decide) (by decide) (by rw [hlength]; decide) hfit
  have hempty : (SendKernel.charging 212992 768).ReportsRoom 0 0 :=
    ⟨0, .refl, show 0 + 768 < 212992 by decide, .refl⟩
  have hheader : (SendKernel.charging 212992 768).ReportsRoom 772 772 :=
    ⟨772, .refl, show 772 + 768 < 212992 by decide, .refl⟩
  have hqueues : (SendKernel.charging 212992 768).Queues 4 0 772 := by
    change 772 ≤ 0 + if 4 = 0 then 0 else 4 + 768
    decide
  have hroom := hadmits.message _ _ _ hempty hqueues hheader
  rw [hlength] at hroom
  exact absurd hroom (by decide)

end ElapPlatform.Ipc
