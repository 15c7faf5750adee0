import ElapPlatform.UnixSocketStreamCalls

/-!
# Decoding frames of an untrusted peer

The peer decides what the stream holds, how it ends and how `::recv` cuts it into
pieces; signals may interrupt any call.
-/

namespace ElapPlatform.Ipc

open Interaction

/-- What is left of a stream: its bytes, then its end or an error.  The last field counts
the calls that a signal has interrupted. -/
structure PeerStream where
  bytes : Bytes
  ending : Option Errno
  ending_ne : ending ≠ some EINTR
  interruptions : ℕ

/-- `::recv` hands over a part of what is left, or says how the stream ends. -/
def PeerStream.answers (before : PeerStream) (call : StreamCall) (reply : call.Reply)
    (after : PeerStream) : Prop :=
  after.ending = before.ending ∧
    match call, reply with
    | .recv size, .ok chunk =>
        before.bytes = chunk ++ after.bytes ∧ chunk.length ≤ size ∧
          after.interruptions = before.interruptions ∧
          (chunk = [] → before.bytes = [] ∧ before.ending = none)
    | .recv _, .error errno =>
        after.bytes = before.bytes ∧
          ((errno = EINTR ∧ after.interruptions = before.interruptions + 1) ∨
            (before.bytes = [] ∧ before.ending = some errno ∧
              after.interruptions = before.interruptions))
    | _, _ => False

section Passes

variable {size : ℕ} {reply : SystemResult Bytes} {before after : PeerStream}

theorem recvPass_again (hanswer : before.answers (.recv size) reply after)
    (hpass : Calls.recvPass [EINTR] reply = .again) :
    after.bytes = before.bytes ∧ after.interruptions = before.interruptions + 1 := by
  obtain ⟨_, hanswer⟩ := hanswer
  rcases reply with errno | (_ | ⟨byte, bytes⟩)
  · obtain ⟨hbytes, ⟨rfl, hcount⟩ | ⟨_, hending, _⟩⟩ := hanswer
    · exact ⟨hbytes, hcount⟩
    · simp only [Calls.recvPass, List.mem_singleton] at hpass
      split_ifs at hpass with heintr
      rw [heintr] at hending
      exact absurd hending before.ending_ne
  · cases hpass
  · cases hpass

theorem recvPass_failed {error : ErrorText} (hanswer : before.answers (.recv size) reply after)
    (hpass : Calls.recvPass [EINTR] reply = .failed error) :
    before.bytes = [] ∧ after.bytes = [] ∧ after.interruptions = before.interruptions := by
  obtain ⟨_, hanswer⟩ := hanswer
  rcases reply with errno | (_ | ⟨byte, bytes⟩)
  · obtain ⟨hbytes, ⟨rfl, _⟩ | ⟨hempty, _, hcount⟩⟩ := hanswer
    · cases hpass
    · exact ⟨hempty, hbytes.trans hempty, hcount⟩
  · obtain ⟨hbytes, _, hcount, hend⟩ := hanswer
    have hempty := (hend rfl).1
    exact ⟨hempty, hbytes.symm.trans hempty, hcount⟩
  · cases hpass

theorem recvPass_moved {chunk : Bytes} (hanswer : before.answers (.recv size) reply after)
    (hpass : Calls.recvPass [EINTR] reply = .moved chunk) :
    before.bytes = chunk ++ after.bytes ∧ 0 < chunk.length ∧ chunk.length ≤ size ∧
      after.interruptions = before.interruptions := by
  obtain ⟨_, hanswer⟩ := hanswer
  rcases reply with errno | (_ | ⟨byte, bytes⟩)
  · simp only [Calls.recvPass] at hpass
    split_ifs at hpass
  · cases hpass
  · cases hpass
    obtain ⟨hbytes, hsize, hcount, _⟩ := hanswer
    exact ⟨hbytes, Nat.succ_pos _, hsize, hcount⟩

end Passes

/-- What one call of `readAll` comes to, however it ends: the buffer gains what the stream
loses, only the end of the stream makes it fail, and only signals use up its passes. -/
structure ReadsStream (size passes : ℕ) (before : PeerStream) (result : Calls.ReadResult)
    (after : PeerStream) : Prop where
  stream : before.bytes = result.data ++ after.bytes
  length_le : result.data.length ≤ size
  complete_iff : result.outcome = .complete ↔ result.data.length = size
  failed : ∀ error, result.outcome = .failed error → after.bytes = []
  interruptions_le : before.interruptions ≤ after.interruptions
  waiting : result.outcome = .waiting →
    passes + before.interruptions ≤ result.data.length + after.interruptions

section ReadSteps

variable {size passes : ℕ} {before middle after : PeerStream} {result rest : Calls.ReadResult}
  {reply : SystemResult Bytes}

/-- A signal uses up a pass and leaves the stream alone. -/
theorem ReadsStream.again (hanswer : before.answers (.recv size) reply middle)
    (hpass : Calls.recvPass [EINTR] reply = .again)
    (htail : ReadsStream size passes middle result after) :
    ReadsStream size (passes + 1) before result after := by
  obtain ⟨hbytes, hcount⟩ := recvPass_again hanswer hpass
  have hmonotone := htail.interruptions_le
  refine ⟨?_, htail.length_le, htail.complete_iff, htail.failed, by omega, ?_⟩
  · rw [← hbytes]
    exact htail.stream
  · intro hwaiting
    have hbound := htail.waiting hwaiting
    omega

theorem ReadsStream.ended {error : ErrorText}
    (hanswer : before.answers (.recv (size + 1)) reply after)
    (hpass : Calls.recvPass [EINTR] reply = .failed error) :
    ReadsStream (size + 1) passes before ⟨.failed error, []⟩ after := by
  obtain ⟨hempty, hend, hcount⟩ := recvPass_failed hanswer hpass
  constructor <;> simp [hempty, hend, hcount]

/-- A piece of the stream goes in front of what is read behind it. -/
theorem ReadsStream.moved {chunk : Bytes} (hanswer : before.answers (.recv size) reply middle)
    (hpass : Calls.recvPass [EINTR] reply = .moved chunk)
    (htail : ReadsStream (size - chunk.length) passes middle rest after) :
    ReadsStream size (passes + 1) before ⟨rest.outcome, chunk ++ rest.data⟩ after := by
  obtain ⟨hbytes, hpositive, hchunk, hcount⟩ := recvPass_moved hanswer hpass
  have hlength := htail.length_le
  have hmonotone := htail.interruptions_le
  refine ⟨?_, ?_, ?_, htail.failed, by omega, ?_⟩
  · rw [hbytes, htail.stream, List.append_assoc]
  · rw [List.length_append]
    omega
  · rw [List.length_append, htail.complete_iff]
    omega
  · intro hwaiting
    have hbound := htail.waiting hwaiting
    rw [List.length_append]
    omega

theorem readAll_readsStream
    (hrun : Runs PeerStream.answers (Calls.readAll passes size) before result after) :
    ReadsStream size passes before result after := by
  induction passes generalizing size before result with
  | zero =>
      cases size with
      | zero =>
          obtain ⟨rfl, rfl⟩ := runs_done_iff.mp hrun
          constructor <;> simp
      | succ size =>
          obtain ⟨rfl, rfl⟩ := runs_done_iff.mp hrun
          constructor <;> simp
  | succ passes ih =>
      cases size with
      | zero =>
          obtain ⟨rfl, rfl⟩ := runs_done_iff.mp hrun
          constructor <;> simp
      | succ size =>
          rw [Calls.readAll_succ] at hrun
          obtain ⟨reply, middle, hanswer, hrest⟩ := runs_ask_iff.mp hrun
          cases hpass : Calls.recvPass [EINTR] reply with
          | again =>
              rw [hpass] at hrest
              exact .again hanswer hpass (ih hrest)
          | failed error =>
              rw [hpass] at hrest
              obtain ⟨rfl, rfl⟩ := runs_done_iff.mp hrest
              exact .ended hanswer hpass
          | moved chunk =>
              rw [hpass] at hrest
              obtain ⟨rest, last, hread, hdone⟩ := runs_bind_iff.mp hrest
              obtain ⟨rfl, rfl⟩ := runs_done_iff.mp hdone
              exact .moved hanswer hpass (ih hread)

end ReadSteps

/-! ## What a frame is -/

/-- A length of at most `maxSize`, and so many bytes behind it. -/
def HoldsFrame (maxSize : ℕ) (bytes : Bytes) : Prop :=
  4 ≤ bytes.length ∧ announcedSize bytes ≤ maxSize ∧ 4 + announcedSize bytes ≤ bytes.length

instance (maxSize : ℕ) (bytes : Bytes) : Decidable (HoldsFrame maxSize bytes) :=
  inferInstanceAs (Decidable (_ ∧ _ ∧ _))

/-- Where a call has to stop: behind the frame, or behind a header that it refuses. -/
def frameEnd (maxSize : ℕ) (bytes : Bytes) : ℕ :=
  if 4 ≤ bytes.length ∧ announcedSize bytes ≤ maxSize then 4 + announcedSize bytes else 4

structure DecodesFrame (maxSize passes : ℕ) (start : PeerStream) (result : Calls.ReceiveResult)
    (final : PeerStream) : Prop where
  accepts_iff : result.outcome ≠ .waiting →
    (result.outcome = .complete ↔ HoldsFrame maxSize start.bytes)
  accepted : result.outcome = .complete →
    result.message = (start.bytes.drop 4).take (announcedSize start.bytes) ∧
      final.bytes = start.bytes.drop (4 + announcedSize start.bytes)
  message_le : result.message.length ≤ maxSize
  consumed : ∃ consumed, start.bytes = consumed ++ final.bytes ∧
    consumed.length ≤ frameEnd maxSize start.bytes
  returns : result.outcome = .waiting →
    passes ≤ 4 + maxSize + (final.interruptions - start.interruptions)

section Headers

variable {passes maxSize : ℕ} {start middle final : PeerStream} {header payload : Calls.ReadResult}

/-- A header that was read is the front of the stream. -/
theorem ReadsStream.header_read (hheader : ReadsStream 4 passes start header middle)
    (hcomplete : header.outcome = .complete) :
    4 ≤ start.bytes.length ∧ announcedSize start.bytes = ntohl header.data ∧
      middle.bytes = start.bytes.drop 4 := by
  have hlength := hheader.complete_iff.mp hcomplete
  rw [hheader.stream, announcedSize, List.take_left' hlength, List.drop_left' hlength,
    List.length_append]
  exact ⟨by omega, rfl, rfl⟩

theorem ReadsStream.header_failed {error : ErrorText}
    (hheader : ReadsStream 4 passes start header middle)
    (hfailed : header.outcome = .failed error) : start.bytes.length < 4 := by
  have hend := hheader.failed error hfailed
  have hlength := hheader.length_le
  have hshort : header.data.length ≠ 4 := by
    intro hfull
    rw [hheader.complete_iff.mpr hfull] at hfailed
    cases hfailed
  rw [hheader.stream, hend, List.append_nil]
  omega

theorem ReadsStream.decodes_refused (hheader : ReadsStream 4 passes start header middle)
    (hcomplete : header.outcome = .complete) (hlarge : ntohl header.data > maxSize)
    {error : ErrorText} :
    DecodesFrame maxSize passes start ⟨.failed error, []⟩ middle := by
  obtain ⟨hlong, hannounced, _⟩ := hheader.header_read hcomplete
  have hfour := hheader.complete_iff.mp hcomplete
  have hend : frameEnd maxSize start.bytes = 4 :=
    if_neg (fun hsmall => by omega)
  refine ⟨fun _ => iff_of_false Outcome.noConfusion ?_, (fun hdone => by cases hdone),
    Nat.zero_le _, ⟨header.data, hheader.stream, by omega⟩, (fun hwaiting => by cases hwaiting)⟩
  rintro ⟨_, hsmall, _⟩
  omega

theorem ReadsStream.decodes_stopped (hheader : ReadsStream 4 passes start header middle)
    (hincomplete : header.outcome ≠ .complete) :
    DecodesFrame maxSize passes start ⟨header.outcome, []⟩ middle := by
  have hlength := hheader.length_le
  have hend : 4 ≤ frameEnd maxSize start.bytes := by
    unfold frameEnd
    split_ifs
    · omega
    · exact le_rfl
  refine ⟨fun hreturned => ⟨fun hdone => absurd hdone hincomplete, ?_⟩,
    fun hdone => absurd hdone hincomplete, Nat.zero_le _,
    ⟨header.data, hheader.stream, by omega⟩, ?_⟩
  · rintro ⟨hlong, _⟩
    simp only at hreturned
    cases houtcome : header.outcome with
    | complete => exact absurd houtcome hincomplete
    | waiting => exact absurd houtcome hreturned
    | failed error =>
        have hshort := hheader.header_failed houtcome
        omega
  · intro hwaiting
    have hbound := hheader.waiting hwaiting
    have hmonotone := hheader.interruptions_le
    omega

theorem ReadsStream.decodes_payload (hheader : ReadsStream 4 passes start header middle)
    (hcomplete : header.outcome = .complete) (hsmall : ntohl header.data ≤ maxSize)
    (hpayload : ReadsStream (ntohl header.data) passes middle payload final) :
    DecodesFrame maxSize passes start
      ⟨payload.outcome, Calls.overwritten (ntohl header.data) payload.data⟩ final := by
  obtain ⟨hlong, hannounced, hmiddle⟩ := hheader.header_read hcomplete
  have hfour := hheader.complete_iff.mp hcomplete
  have hlength := hpayload.length_le
  have hstream : start.bytes = (header.data ++ payload.data) ++ final.bytes := by
    rw [List.append_assoc, ← hpayload.stream, ← hheader.stream]
  have htotal := congrArg List.length hstream
  rw [List.length_append, List.length_append] at htotal
  have hend : frameEnd maxSize start.bytes = 4 + ntohl header.data := by
    rw [frameEnd, hannounced, if_pos ⟨hlong, hsmall⟩]
  refine ⟨?_, ?_, ?_, ⟨header.data ++ payload.data, hstream, ?_⟩, ?_⟩
  · intro hreturned
    rw [HoldsFrame, hannounced]
    constructor
    · intro hdone
      have hfull := hpayload.complete_iff.mp hdone
      omega
    · rintro ⟨_, _, hwhole⟩
      cases houtcome : payload.outcome with
      | complete => rfl
      | waiting => exact absurd houtcome hreturned
      | failed error =>
          -- The stream ended behind the payload, so that the buffer is full.
          have hempty := hpayload.failed error houtcome
          rw [hempty, List.length_nil] at htotal
          rw [hpayload.complete_iff.mpr (by omega)] at houtcome
          cases houtcome
  · intro hdone
    have hfull := hpayload.complete_iff.mp hdone
    rw [hannounced]
    refine ⟨?_, ?_⟩
    · rw [← hmiddle, hpayload.stream, List.take_left' hfull]
      exact Calls.overwritten_full hfull
    · rw [hstream, List.drop_left' (by rw [List.length_append]; omega)]
  · simp only
    rw [Calls.overwritten_length hlength]
    exact hsmall
  · rw [List.length_append]
    omega
  · intro hwaiting
    have hbound := hpayload.waiting hwaiting
    have hfirst := hheader.interruptions_le
    have hsecond := hpayload.interruptions_le
    omega

end Headers

/-! ## What `receiveMessage` accepts -/

/-- The kernel can answer every call of `readAll`. -/
theorem readAll_can_run (size passes : ℕ) (before : PeerStream) :
    ∃ result after, Runs PeerStream.answers (Calls.readAll passes size) before result after := by
  induction passes generalizing size before with
  | zero =>
      cases size with
      | zero => exact ⟨_, before, .done _ _⟩
      | succ size => exact ⟨_, before, .done _ _⟩
  | succ passes ih =>
      cases size with
      | zero => exact ⟨_, before, .done _ _⟩
      | succ size =>
          rw [Calls.readAll_succ]
          obtain ⟨bytes, ending, hending, interruptions⟩ := before
          cases bytes with
          | cons byte bytes =>
              obtain ⟨rest, after, hrest⟩ := ih size ⟨bytes, ending, hending, interruptions⟩
              refine ⟨_, after, .answered (Except.ok [byte] : SystemResult Bytes) ?_
                (runs_bind_iff.mpr ⟨rest, after, hrest, .done _ _⟩)⟩
              exact ⟨rfl, rfl, by simp, rfl, fun hnil => by cases hnil⟩
          | nil =>
              cases ending with
              | none =>
                  refine ⟨⟨.failed (.message "receive failed: connection closed"), []⟩,
                    ⟨[], none, hending, interruptions⟩,
                    .answered (Except.ok [] : SystemResult Bytes) ?_ (.done _ _)⟩
                  exact ⟨rfl, rfl, Nat.zero_le _, rfl, fun _ => ⟨rfl, rfl⟩⟩
              | some errno =>
                  have hnot : errno ≠ EINTR := fun heq => hending (congrArg some heq)
                  let ended : PeerStream := ⟨[], some errno, hending, interruptions⟩
                  have hanswer : ended.answers (.recv (size + 1)) (.error errno) ended :=
                    ⟨rfl, rfl, .inr ⟨rfl, rfl, rfl⟩⟩
                  refine ⟨⟨.failed (systemError "receive" errno), []⟩, ended, .ask hanswer ?_⟩
                  simp only [Calls.recvPass, List.mem_singleton, if_neg hnot]
                  exact .done _ _

section Messages

variable {connection : UnixSocketConnection} {maxSize passes : ℕ} {start : PeerStream}

theorem receiveMessage_decodes {result : Calls.ReceiveResult} {final : PeerStream}
    (hopen : connection.isOpen)
    (hrun : Runs PeerStream.answers (Calls.receiveMessage connection maxSize passes)
      start result final) :
    DecodesFrame maxSize passes start result final := by
  rw [Calls.receiveMessage_of_open hopen] at hrun
  obtain ⟨⟨outcome, data⟩, middle, hread, hrest⟩ := runs_bind_iff.mp hrun
  have hheader := readAll_readsStream hread
  cases outcome with
  | complete =>
      simp only [Calls.receivePayload] at hrest
      split_ifs at hrest with hlarge
      · obtain ⟨rfl, rfl⟩ := runs_done_iff.mp hrest
        exact hheader.decodes_refused rfl hlarge
      · obtain ⟨payload, last, hpayload, hdone⟩ := runs_bind_iff.mp hrest
        obtain ⟨rfl, rfl⟩ := runs_done_iff.mp hdone
        exact hheader.decodes_payload rfl (not_lt.mp hlarge) (readAll_readsStream hpayload)
  | failed error =>
      obtain ⟨rfl, rfl⟩ := runs_done_iff.mp hrest
      exact hheader.decodes_stopped Outcome.noConfusion
  | waiting =>
      obtain ⟨rfl, rfl⟩ := runs_done_iff.mp hrest
      exact hheader.decodes_stopped Outcome.noConfusion

theorem receiveMessage_can_run (hopen : connection.isOpen) :
    ∃ result final,
      Runs PeerStream.answers (Calls.receiveMessage connection maxSize passes)
        start result final := by
  rw [Calls.receiveMessage_of_open hopen]
  obtain ⟨⟨outcome, data⟩, middle, hheader⟩ := readAll_can_run 4 passes start
  cases outcome with
  | complete =>
      by_cases hlarge : ntohl data > maxSize
      · refine ⟨⟨.failed (.message "receive failed: message exceeds maximum size"), []⟩, middle,
          runs_bind_iff.mpr ⟨_, middle, hheader, ?_⟩⟩
        simp only [Calls.receivePayload, if_pos hlarge]
        exact .done _ _
      · obtain ⟨payload, final, hpayload⟩ := readAll_can_run (ntohl data) passes middle
        refine ⟨⟨payload.outcome, Calls.overwritten (ntohl data) payload.data⟩, final,
          runs_bind_iff.mpr ⟨_, middle, hheader, ?_⟩⟩
        simp only [Calls.receivePayload, if_neg hlarge]
        exact runs_bind_iff.mpr ⟨payload, final, hpayload, .done _ _⟩
  | failed error => exact ⟨_, _, runs_bind_iff.mpr ⟨_, middle, hheader, .done _ _⟩⟩
  | waiting => exact ⟨_, _, runs_bind_iff.mpr ⟨_, middle, hheader, .done _ _⟩⟩

theorem frames_decoded (hopen : connection.isOpen) :
    (∃ result final,
      Runs PeerStream.answers (Calls.receiveMessage connection maxSize passes)
        start result final) ∧
    ∀ result final,
      Runs PeerStream.answers (Calls.receiveMessage connection maxSize passes)
          start result final →
        DecodesFrame maxSize passes start result final :=
  ⟨receiveMessage_can_run hopen, fun _ _ hrun => receiveMessage_decodes hopen hrun⟩

end Messages

/-- A frame of two bytes, the first byte of another one, and a reset. -/
def greetingStream : PeerStream := ⟨[0, 0, 0, 2, 104, 105, 0], some 104, by decide, 0⟩

theorem greeting_decoded :
    ∃ result final,
      Runs PeerStream.answers (Calls.receiveMessage ⟨4⟩ 1024 16) greetingStream result final ∧
        DecodesFrame 1024 16 greetingStream result final := by
  have hopen : (⟨4⟩ : UnixSocketConnection).isOpen := by decide
  obtain ⟨⟨result, final, hrun⟩, hdecodes⟩ :=
    @frames_decoded ⟨4⟩ 1024 16 greetingStream hopen
  exact ⟨result, final, hrun, hdecodes result final hrun⟩

end ElapPlatform.Ipc
