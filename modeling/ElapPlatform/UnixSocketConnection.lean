import ElapPlatform.SelfDelimitingCode
import ElapPlatform.UnixSocketTransfer

/-!
# Length-prefixed messages on a connection

A message travels as its length, a `uint32_t` in network order, followed by
its bytes.  The kernel's answers to one call, the clock reading at its start
and the part of the stream it has not read yet are arguments of the model;
neither `sendMessage` nor `receiveMessage` changes the descriptor.
-/

namespace ElapPlatform.Ipc

open SelfDelimiting

/-! ## The wire format -/

def uint32Max : ℕ := 2 ^ 32 - 1

/-- The bytes of `htonl(value)` as they lie in memory. -/
def htonl (value : ℕ) : Bytes :=
  [UInt8.ofNat (value / 2 ^ 24), UInt8.ofNat (value / 2 ^ 16),
    UInt8.ofNat (value / 2 ^ 8), UInt8.ofNat value]

def ntohl (encoded : Bytes) : ℕ :=
  encoded.foldl (fun value byte => value * 256 + byte.toNat) 0

/-- The frame of a message. -/
def frame (message : Bytes) : Bytes := htonl message.length ++ message

@[simp] theorem htonl_length (value : ℕ) : (htonl value).length = 4 := rfl

@[simp] theorem frame_length (message : Bytes) :
    (frame message).length = 4 + message.length := by
  simp [frame]

theorem ntohl_htonl {value : ℕ} (hvalue : value < 2 ^ 32) :
    ntohl (htonl value) = value := by
  simp only [ntohl, htonl, List.foldl_cons, List.foldl_nil, UInt8.toNat_ofNat']
  omega

/-- Four bytes are the network order of the number they denote. -/
theorem htonl_ntohl {encoded : Bytes} (hlength : encoded.length = 4) :
    htonl (ntohl encoded) = encoded := by
  obtain ⟨b₀, b₁, b₂, b₃, rfl⟩ := List.length_eq_four.mp hlength
  have h₀ := b₀.toNat_lt
  have h₁ := b₁.toNat_lt
  have h₂ := b₂.toNat_lt
  have h₃ := b₃.toNat_lt
  simp only [ntohl, htonl, List.foldl_cons, List.foldl_nil, List.cons.injEq,
    ← UInt8.toNat_inj, UInt8.toNat_ofNat', and_true]
  refine ⟨?_, ?_, ?_, ?_⟩ <;> omega

theorem ntohl_lt {encoded : Bytes} (hlength : encoded.length = 4) :
    ntohl encoded < 2 ^ 32 := by
  obtain ⟨b₀, b₁, b₂, b₃, rfl⟩ := List.length_eq_four.mp hlength
  have h₀ := b₀.toNat_lt
  have h₁ := b₁.toNat_lt
  have h₂ := b₂.toNat_lt
  have h₃ := b₃.toNat_lt
  simp only [ntohl, List.foldl_cons, List.foldl_nil]
  omega

theorem frame_take (message rest : Bytes) :
    (frame message ++ rest).take 4 = htonl message.length := by
  simp [frame, htonl]

theorem frame_prefix_free {first second : Bytes}
    (hfirst : first.length < 2 ^ 32) (hsecond : second.length < 2 ^ 32)
    (hinitial : frame first <+: frame second) : first = second := by
  obtain ⟨rest, hrest⟩ := hinitial
  have hheader : htonl first.length = htonl second.length := by
    have htake := congrArg (List.take 4) hrest
    rw [← List.append_nil (frame second), frame_take, frame_take] at htake
    exact htake
  have hlength : first.length = second.length := by
    rw [← ntohl_htonl hfirst, hheader, ntohl_htonl hsecond]
  rw [frame, frame, hheader, List.append_assoc] at hrest
  have hbody := List.append_cancel_left hrest
  exact List.IsPrefix.eq_of_length ⟨rest, hbody⟩ hlength

/-- The frames of the messages that `sendMessage` accepts. -/
def frameCode : Code Bytes UInt8 where
  admissible message := message.length < 2 ^ 32
  encode := frame
  encode_ne_nil message := by simp [frame, htonl]
  prefix_free := frame_prefix_free

@[simp] theorem frameCode_encode (message : Bytes) :
    frameCode.encode message = frame message := rfl

/-! ## Sending and receiving one message -/

structure UnixSocketConnection where
  fd : ℤ := -1
  deriving DecidableEq, Repr

def UnixSocketConnection.isOpen (connection : UnixSocketConnection) : Bool :=
  connection.fd ≥ 0

/-- `writeAll` of the header, then of the payload. -/
def sendFrame {ρ : Type} (progress : ρ → Progress) (message : Bytes)
    (rounds : List ρ) : WriteRun ρ :=
  let header := writeAll progress (htonl message.length) rounds
  match header.outcome with
  | .complete =>
      let payload := writeAll progress message header.rest
      ⟨payload.outcome, header.accepted ++ payload.accepted, payload.rest⟩
  | _ => header

def UnixSocketConnection.sendMessage (connection : UnixSocketConnection)
    (message : Bytes) (answers : List SendAnswer) : WriteRun SendAnswer :=
  if ¬ connection.isOpen then
    ⟨.failed (.message "send failed: connection is not open"), [], answers⟩
  else if message.length > uint32Max then
    ⟨.failed (.message "send failed: message is too large"), [], answers⟩
  else sendFrame sendProgress message answers

/-- The overload with a timeout in milliseconds; `start` is its first reading
of the clock. -/
def UnixSocketConnection.sendMessageTimed (connection : UnixSocketConnection)
    (message : Bytes) (timeout start : ℤ)
    (rounds : List (TimedRound SendAnswer)) : WriteRun (TimedRound SendAnswer) :=
  if ¬ connection.isOpen then
    ⟨.failed (.message "send failed: connection is not open"), [], rounds⟩
  else if timeout < 0 then
    ⟨.failed (.message "send failed: timeout must not be negative"), [], rounds⟩
  else if message.length > uint32Max then
    ⟨.failed (.message "send failed: message is too large"), [], rounds⟩
  else sendFrame (timedSendProgress (deadlineAfter start timeout)) message rounds

structure ReceiveRun (ρ : Type) where
  outcome : Outcome
  /-- The output string when the call ends. -/
  message : Bytes
  incoming : Bytes
  rest : List ρ
  deriving DecidableEq, Repr

/-- `readAll` of the header, the size check, then `readAll` of the payload into
the resized string. -/
def receiveFrame {ρ : Type} (progress : ρ → Progress) (maxSize : ℕ)
    (incoming : Bytes) (rounds : List ρ) : ReceiveRun ρ :=
  let header := readAll progress 4 incoming rounds
  match header.outcome with
  | .complete =>
      let size := ntohl header.data
      if size > maxSize then
        ⟨.failed (.message "receive failed: message exceeds maximum size"), [],
          header.incoming, header.rest⟩
      else if size = 0 then ⟨.complete, [], header.incoming, header.rest⟩
      else
        let payload := readAll progress size header.incoming header.rest
        ⟨payload.outcome,
          payload.data ++ List.replicate (size - payload.data.length) 0,
          payload.incoming, payload.rest⟩
  | outcome => ⟨outcome, [], header.incoming, header.rest⟩

def UnixSocketConnection.receiveMessage (connection : UnixSocketConnection)
    (maxSize : ℕ) (incoming : Bytes) (answers : List RecvAnswer) :
    ReceiveRun RecvAnswer :=
  if ¬ connection.isOpen then
    ⟨.failed (.message "receive failed: connection is not open"), [], incoming, answers⟩
  else receiveFrame recvProgress maxSize incoming answers

def UnixSocketConnection.receiveMessageTimed (connection : UnixSocketConnection)
    (maxSize : ℕ) (timeout start : ℤ) (incoming : Bytes)
    (rounds : List (TimedRound RecvAnswer)) : ReceiveRun (TimedRound RecvAnswer) :=
  if ¬ connection.isOpen then
    ⟨.failed (.message "receive failed: connection is not open"), [], incoming, rounds⟩
  else if timeout < 0 then
    ⟨.failed (.message "receive failed: timeout must not be negative"), [],
      incoming, rounds⟩
  else
    receiveFrame (timedRecvProgress (deadlineAfter start timeout)) maxSize incoming rounds

/-! ## What one call comes to -/

section CallLemmas

variable {ρ : Type} {progress : ρ → Progress}

/-! ### Sending -/

theorem sendFrame_of_header_complete {message : Bytes} {rounds : List ρ}
    (hheader : (writeAll progress (htonl message.length) rounds).outcome = .complete) :
    sendFrame progress message rounds =
      let header := writeAll progress (htonl message.length) rounds
      let payload := writeAll progress message header.rest
      ⟨payload.outcome, header.accepted ++ payload.accepted, payload.rest⟩ := by
  simp only [sendFrame, hheader]

theorem sendFrame_of_header_incomplete {message : Bytes} {rounds : List ρ}
    (hheader : (writeAll progress (htonl message.length) rounds).outcome ≠ .complete) :
    sendFrame progress message rounds =
      writeAll progress (htonl message.length) rounds := by
  simp only [sendFrame]

/-- Sending a message is, for the stream, one `writeAll` of its frame. -/
theorem sendFrame_sound (progress : ρ → Progress) (message : Bytes) (rounds : List ρ) :
    (sendFrame progress message rounds).Sound (frame message) rounds := by
  have hheader := writeAll_sound progress (htonl message.length) rounds
  by_cases hcomplete :
      (writeAll progress (htonl message.length) rounds).outcome = .complete
  · rw [sendFrame_of_header_complete hcomplete]
    have hpayload := writeAll_sound progress message
      (writeAll progress (htonl message.length) rounds).rest
    have haccepted := hheader.complete_iff.mp hcomplete
    refine ⟨?_, ?_, hpayload.rest_suffix.trans hheader.rest_suffix⟩
    · simp only [haccepted, frame]
      exact (List.prefix_append_right_inj _).mpr hpayload.accepted_prefix
    · simp only [haccepted, frame, hpayload.complete_iff, List.append_cancel_left_eq]
  · rw [sendFrame_of_header_incomplete hcomplete]
    refine ⟨hheader.accepted_prefix.trans (List.prefix_append _ _), ?_,
      hheader.rest_suffix⟩
    constructor
    · intro hcontra
      contradiction
    · intro hwhole
      -- A header that stopped early cannot have carried the whole frame.
      have hshort := hheader.accepted_prefix
      rw [hwhole, frame] at hshort
      have hlength := hshort.length_le
      rw [List.length_append] at hlength
      have hempty : message = [] := List.length_eq_zero_iff.mp (by omega)
      exact hheader.complete_iff.mpr (by rw [hwhole, frame, hempty, List.append_nil])

theorem sendFrame_accepted_of_undelivered {message : Bytes} {rounds : List ρ}
    (hnone : Undelivered progress rounds) :
    (sendFrame progress message rounds).accepted = [] := by
  have haccepted : (writeAll progress (htonl message.length) rounds).accepted = [] :=
    writeAll_accepted_of_undelivered hnone
  rw [sendFrame_of_header_incomplete]
  · exact haccepted
  · intro hcomplete
    have hwhole := (writeAll_sound progress (htonl message.length) rounds).complete_iff.mp hcomplete
    rw [haccepted] at hwhole
    simp [htonl] at hwhole

theorem sendFrame_not_failed_of_uninterrupted {message : Bytes} {rounds : List ρ}
    (hnone : Uninterrupted progress rounds) (error : ErrorText) :
    (sendFrame progress message rounds).outcome ≠ .failed error := by
  by_cases hcomplete :
      (writeAll progress (htonl message.length) rounds).outcome = .complete
  · rw [sendFrame_of_header_complete hcomplete]
    have hrest := (writeAll_sound progress
      (htonl message.length) rounds).rest_suffix
    exact writeAll_not_failed_of_uninterrupted (hnone.suffix hrest) error
  · rw [sendFrame_of_header_incomplete hcomplete]
    exact writeAll_not_failed_of_uninterrupted hnone error

/-! ### Receiving -/

theorem receiveFrame_of_header_incomplete {maxSize : ℕ} {incoming : Bytes}
    {rounds : List ρ}
    (hheader : (readAll progress 4 incoming rounds).outcome ≠ .complete) :
    receiveFrame progress maxSize incoming rounds =
      let header := readAll progress 4 incoming rounds
      ⟨header.outcome, [], header.incoming, header.rest⟩ := by
  simp only [receiveFrame]

theorem receiveFrame_of_oversized {maxSize : ℕ} {incoming : Bytes} {rounds : List ρ}
    (hheader : (readAll progress 4 incoming rounds).outcome = .complete)
    (hsize : ntohl (readAll progress 4 incoming rounds).data > maxSize) :
    receiveFrame progress maxSize incoming rounds =
      let header := readAll progress 4 incoming rounds
      ⟨.failed (.message "receive failed: message exceeds maximum size"), [],
        header.incoming, header.rest⟩ := by
  simp only [receiveFrame, hheader, if_pos hsize]

/-- Within the size limit the payload is read by `readAll`; the branch for an
empty message does what `readAll` of no bytes would do. -/
theorem receiveFrame_of_header_complete {maxSize : ℕ} {incoming : Bytes}
    {rounds : List ρ}
    (hheader : (readAll progress 4 incoming rounds).outcome = .complete)
    (hsize : ntohl (readAll progress 4 incoming rounds).data ≤ maxSize) :
    receiveFrame progress maxSize incoming rounds =
      let header := readAll progress 4 incoming rounds
      let size := ntohl header.data
      let payload := readAll progress size header.incoming header.rest
      ⟨payload.outcome, payload.data ++ List.replicate (size - payload.data.length) 0,
        payload.incoming, payload.rest⟩ := by
  simp only [receiveFrame, hheader, if_neg (Nat.not_lt.mpr hsize)]
  split
  · rename_i hzero
    simp [hzero]
  · rfl

/-- What one call of `receiveFrame` comes to, however it ends: it takes bytes off
the front of the stream, and `true` means that they were one whole frame. -/
structure ReceiveRun.Sound (maxSize : ℕ) (incoming : Bytes) (rounds : List ρ)
    (run : ReceiveRun ρ) : Prop where
  incoming_suffix : run.incoming <:+ incoming
  complete_stream : run.outcome = .complete →
    incoming = frame run.message ++ run.incoming
  complete_length : run.outcome = .complete →
    run.message.length ≤ maxSize ∧ run.message.length < 2 ^ 32
  rest_suffix : run.rest <:+ rounds

theorem receiveFrame_sound (progress : ρ → Progress) (maxSize : ℕ) (incoming : Bytes)
    (rounds : List ρ) :
    (receiveFrame progress maxSize incoming rounds).Sound maxSize incoming rounds := by
  have hheader := readAll_sound progress 4 incoming rounds
  have hsuffix : (readAll progress 4 incoming rounds).incoming <:+ incoming :=
    ⟨_, hheader.stream⟩
  by_cases hcomplete : (readAll progress 4 incoming rounds).outcome = .complete
  · by_cases hsize : ntohl (readAll progress 4 incoming rounds).data ≤ maxSize
    · rw [receiveFrame_of_header_complete hcomplete hsize]
      have hpayload := readAll_sound progress
        (ntohl (readAll progress 4 incoming rounds).data)
        (readAll progress 4 incoming rounds).incoming
        (readAll progress 4 incoming rounds).rest
      have hfour := hheader.complete_iff.mp hcomplete
      refine ⟨?_, ?_, ?_, hpayload.rest_suffix.trans hheader.rest_suffix⟩
      · exact List.IsSuffix.trans ⟨_, hpayload.stream⟩ hsuffix
      · intro hdone
        have hlength := hpayload.complete_iff.mp hdone
        simp only [hlength, Nat.sub_self, List.replicate_zero, List.append_nil]
        rw [frame, hlength, htonl_ntohl hfour, List.append_assoc, hpayload.stream,
          hheader.stream]
      · intro hdone
        have hlength := hpayload.complete_iff.mp hdone
        simp only [hlength, Nat.sub_self, List.replicate_zero, List.append_nil]
        exact ⟨hsize, ntohl_lt hfour⟩
    · rw [receiveFrame_of_oversized hcomplete (Nat.lt_of_not_le hsize)]
      exact ⟨hsuffix, fun hdone => by simp at hdone, fun hdone => by simp at hdone,
        hheader.rest_suffix⟩
  · rw [receiveFrame_of_header_incomplete hcomplete]
    exact ⟨hsuffix, fun hdone => absurd hdone hcomplete,
      fun hdone => absurd hdone hcomplete, hheader.rest_suffix⟩

theorem receiveFrame_incoming_of_undelivered {maxSize : ℕ} {incoming : Bytes}
    {rounds : List ρ} (hnone : Undelivered progress rounds) :
    (receiveFrame progress maxSize incoming rounds).incoming = incoming := by
  have hdata : (readAll progress 4 incoming rounds).data = [] :=
    readAll_data_of_undelivered hnone
  have hsound := readAll_sound progress 4 incoming rounds
  rw [receiveFrame_of_header_incomplete]
  · simpa [hdata] using hsound.stream
  · intro hcomplete
    have hlength := hsound.complete_iff.mp hcomplete
    rw [hdata] at hlength
    simp at hlength

/-- The size the header at the front of the stream announces. -/
def announcedSize (incoming : Bytes) : ℕ := ntohl (incoming.take 4)

/-- A header that was read is the front of the stream. -/
theorem readAll_header_split {incoming : Bytes} {rounds : List ρ}
    (hcomplete : (readAll progress 4 incoming rounds).outcome = .complete) :
    (readAll progress 4 incoming rounds).data = incoming.take 4 ∧
      (readAll progress 4 incoming rounds).incoming = incoming.drop 4 := by
  have hsound := readAll_sound progress 4 incoming rounds
  have hlength := hsound.complete_iff.mp hcomplete
  have hsplit := hsound.stream.trans (List.take_append_drop 4 incoming).symm
  apply List.append_inj hsplit
  have htotal := congrArg List.length hsound.stream
  rw [List.length_append] at htotal
  rw [List.length_take]
  omega

/-- A call that is neither interrupted nor refused by the size check fails only
at the end of the stream. -/
theorem receiveFrame_incoming_of_failed {maxSize : ℕ} {incoming : Bytes}
    {rounds : List ρ} {error : ErrorText} (hsteady : Steady progress rounds)
    (hsize : 4 ≤ incoming.length → announcedSize incoming ≤ maxSize)
    (hfailed : (receiveFrame progress maxSize incoming rounds).outcome = .failed error) :
    (receiveFrame progress maxSize incoming rounds).incoming = [] := by
  by_cases hcomplete : (readAll progress 4 incoming rounds).outcome = .complete
  · have hsound := readAll_sound progress 4 incoming rounds
    have hlong : 4 ≤ incoming.length := by
      have hlength := hsound.complete_iff.mp hcomplete
      have htotal := congrArg List.length hsound.stream
      rw [List.length_append] at htotal
      omega
    have hfits : ntohl (readAll progress 4 incoming rounds).data ≤ maxSize := by
      rw [(readAll_header_split hcomplete).1]
      exact hsize hlong
    rw [receiveFrame_of_header_complete hcomplete hfits] at hfailed ⊢
    exact readAll_incoming_of_failed (hsteady.suffix hsound.rest_suffix) hfailed
  · rw [receiveFrame_of_header_incomplete hcomplete] at hfailed ⊢
    exact readAll_incoming_of_failed hsteady hfailed

theorem announcedSize_frame {message : Bytes} (rest : Bytes)
    (hmessage : message.length < 2 ^ 32) :
    announcedSize (frame message ++ rest) = message.length := by
  rw [announcedSize, frame_take, ntohl_htonl hmessage]

/-- With a whole frame in front, a call that is neither interrupted nor refused
by the size check does not fail. -/
theorem receiveFrame_not_failed_of_frame {maxSize : ℕ} {message rest : Bytes}
    {rounds : List ρ} (hsteady : Steady progress rounds)
    (hmessage : message.length < 2 ^ 32) (hsize : message.length ≤ maxSize)
    (error : ErrorText) :
    (receiveFrame progress maxSize (frame message ++ rest) rounds).outcome ≠
      .failed error := by
  by_cases hcomplete :
      (readAll progress 4 (frame message ++ rest) rounds).outcome = .complete
  · obtain ⟨hdata, hincoming⟩ := readAll_header_split hcomplete
    rw [frame_take] at hdata
    have hannounced : ntohl (readAll progress 4 (frame message ++ rest) rounds).data =
        message.length := by
      rw [hdata, ntohl_htonl hmessage]
    rw [receiveFrame_of_header_complete hcomplete (hannounced.trans_le hsize)]
    have hsuffix := (readAll_sound progress 4
      (frame message ++ rest) rounds).rest_suffix
    apply readAll_not_failed_of_steady (hsteady.suffix hsuffix)
    rw [hannounced, hincoming, List.length_drop, List.length_append, frame_length]
    omega
  · rw [receiveFrame_of_header_incomplete hcomplete]
    have hlong : 4 ≤ (frame message ++ rest).length := by
      rw [List.length_append, frame_length]
      omega
    exact readAll_not_failed_of_steady hsteady hlong error

/-- One delivering pass for each byte of the frame in front is enough to receive
it, and at most that many are used. -/
theorem receiveFrame_complete_of_deliveries {maxSize : ℕ} {message rest : Bytes}
    {rounds : List ρ} (hfragmented : Fragmented progress rounds)
    (hmessage : message.length < 2 ^ 32) (hsize : message.length ≤ maxSize)
    (henough : (frame message).length ≤ deliveries progress rounds) :
    let run := receiveFrame progress maxSize (frame message ++ rest) rounds
    run.outcome = .complete ∧
      deliveries progress rounds ≤
        deliveries progress run.rest + (frame message).length := by
  rw [frame_length] at henough ⊢
  have hlong : 4 ≤ (frame message ++ rest).length := by
    rw [List.length_append, frame_length]
    omega
  obtain ⟨hcomplete, hused⟩ :=
    readAll_complete_of_deliveries hfragmented hlong (by omega)
  obtain ⟨hdata, hincoming⟩ := readAll_header_split hcomplete
  rw [frame_take] at hdata
  have hannounced : ntohl (readAll progress 4 (frame message ++ rest) rounds).data =
      message.length := by
    rw [hdata, ntohl_htonl hmessage]
  rw [receiveFrame_of_header_complete hcomplete (hannounced.trans_le hsize)]
  simp only [hannounced]
  have hsuffix := (readAll_sound progress 4
    (frame message ++ rest) rounds).rest_suffix
  have hbody : message.length ≤
      (readAll progress 4 (frame message ++ rest) rounds).incoming.length := by
    rw [hincoming, List.length_drop, List.length_append, frame_length]
    omega
  obtain ⟨hpayload, hpayloadUsed⟩ :=
    readAll_complete_of_deliveries (hfragmented.suffix hsuffix) hbody (by omega)
  exact ⟨hpayload, by omega⟩

end CallLemmas

end ElapPlatform.Ipc
