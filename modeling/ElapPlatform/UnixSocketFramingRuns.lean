import ElapPlatform.UnixSocketMessageRuns

/-!
# When framing survives a failed call

A call that fails leaves the connection open.  If it had already moved a part
of a frame, the next call starts in the middle of that frame.  Both directions
are treated: as long as no call but the last is cut off inside a frame, the
delivered messages are a subsequence of the messages sent.
-/

namespace ElapPlatform.Ipc

open SelfDelimiting

/-! ## Delivered messages -/

@[simp] theorem delivered_nil : delivered [] = [] := rfl

theorem delivered_cons_of_complete {result : ReceiveResult}
    {results : List ReceiveResult} (hcomplete : result.outcome = .complete) :
    delivered (result :: results) = result.message :: delivered results := by
  simp [delivered, hcomplete]

theorem delivered_cons_of_incomplete {result : ReceiveResult}
    {results : List ReceiveResult} (hincomplete : result.outcome ≠ .complete) :
    delivered (result :: results) = delivered results := by
  simp [delivered, hincomplete]

theorem receiveCalls_cons_of_waiting {connection : UnixSocketConnection}
    {incoming : Bytes} {call : ReceiveCall} {calls : List ReceiveCall}
    (hwaiting : (call.run connection incoming).outcome = .waiting) :
    receiveCalls connection incoming (call :: calls) =
      [call.run connection incoming] := by
  simp [receiveCalls, hwaiting]

theorem receiveCalls_cons_of_returned {connection : UnixSocketConnection}
    {incoming : Bytes} {call : ReceiveCall} {calls : List ReceiveCall}
    (hreturned : (call.run connection incoming).outcome ≠ .waiting) :
    receiveCalls connection incoming (call :: calls) =
      call.run connection incoming ::
        receiveCalls connection (call.run connection incoming).incoming calls := by
  simp [receiveCalls, hreturned]

/-- A receive that returns `true` on whole frames, possibly followed by a
truncated one, delivers the first message. -/
theorem ReceiveCall.complete_on_frames {connection : UnixSocketConnection}
    {messages : List Bytes} {tail : Bytes} {call : ReceiveCall}
    (hmessages : frameCode.AllAdmissible messages)
    (htail : tail = [] ∨ frameCode.Truncated tail)
    (hcomplete : (call.run connection
      (frameCode.encodeAll messages ++ tail)).outcome = .complete) :
    ∃ remaining,
      messages = (call.run connection
          (frameCode.encodeAll messages ++ tail)).message :: remaining ∧
        (call.run connection (frameCode.encodeAll messages ++ tail)).incoming =
          frameCode.encodeAll remaining ++ tail := by
  obtain ⟨hstream, hlength⟩ := ReceiveCall.stream_of_complete hcomplete
  exact Code.encodeAll_append_eq hmessages hlength htail hstream

/-! ## Receives that are cut off -/

/-- No receive but the last stops after handing over a part of a frame. -/
def FramingKept (connection : UnixSocketConnection) :
    Bytes → List ReceiveCall → Prop
  | _, [] => True
  | incoming, call :: calls =>
      (calls ≠ [] → call.KeepsFraming incoming) ∧
        FramingKept connection (call.run connection incoming).incoming calls

instance (connection : UnixSocketConnection) (incoming : Bytes)
    (calls : List ReceiveCall) : Decidable (FramingKept connection incoming calls) := by
  induction calls generalizing incoming with
  | nil => exact isTrue trivial
  | cons call calls ih =>
      have := ih (call.run connection incoming).incoming
      exact instDecidableAnd

/-- One receive that keeps the framing leaves the stream at a frame boundary. -/
theorem ReceiveCall.incoming_of_keepsFraming {connection : UnixSocketConnection}
    {messages : List Bytes} {call : ReceiveCall} {error : ErrorText}
    (hmessages : frameCode.AllAdmissible messages)
    (hkept : call.KeepsFraming (frameCode.encodeAll messages))
    (hfailed : (call.run connection (frameCode.encodeAll messages)).outcome =
      .failed error) :
    (call.run connection (frameCode.encodeAll messages)).incoming =
      frameCode.encodeAll messages := by
  rcases hkept with hnone | ⟨hsteady, hsize⟩
  · exact ReceiveCall.incoming_of_undelivered hnone
  · rcases ReceiveCall.incoming_of_failed hsteady (fun _ => hsize) hfailed with
      hsame | ⟨hend, hnoFrame⟩
    · exact hsame
    · cases messages with
      | nil => exact hend
      | cons message remaining =>
          have hmessage := hmessages message List.mem_cons_self
          exact absurd rfl (hnoFrame message (frameCode.encodeAll remaining) hmessage)

theorem delivered_sublist_of_framingKept_frames
    {connection : UnixSocketConnection} {messages : List Bytes}
    {calls : List ReceiveCall} (hmessages : frameCode.AllAdmissible messages)
    (hkept : FramingKept connection (frameCode.encodeAll messages) calls) :
    (delivered
      (receiveCalls connection (frameCode.encodeAll messages) calls)).Sublist
      messages := by
  induction calls generalizing messages with
  | nil => simp [receiveCalls]
  | cons call calls ih =>
      obtain ⟨hcall, hcalls⟩ := hkept
      cases houtcome : (call.run connection (frameCode.encodeAll messages)).outcome with
      | waiting =>
          rw [receiveCalls_cons_of_waiting houtcome,
            delivered_cons_of_incomplete (by simp [houtcome])]
          exact List.nil_sublist messages
      | complete =>
          rw [receiveCalls_cons_of_returned (by simp [houtcome]),
            delivered_cons_of_complete houtcome]
          obtain ⟨remaining, hsplit, hincoming⟩ :=
            ReceiveCall.complete_on_frames hmessages (.inl rfl)
              ((List.append_nil (frameCode.encodeAll messages)).symm ▸ houtcome)
          rw [List.append_nil] at hsplit
          rw [List.append_nil, List.append_nil] at hincoming
          rw [hincoming] at hcalls ⊢
          have hremaining : frameCode.AllAdmissible remaining := by
            intro message hmem
            exact hmessages message (hsplit ▸ List.mem_cons_of_mem _ hmem)
          have htail := (ih hremaining hcalls).cons_cons
            (call.run connection (frameCode.encodeAll messages)).message
          rwa [← hsplit] at htail
      | failed error =>
          rw [receiveCalls_cons_of_returned (by simp [houtcome]),
            delivered_cons_of_incomplete (by simp [houtcome])]
          by_cases hlast : calls = []
          · subst calls
            simp [receiveCalls]
          · have hboundary := ReceiveCall.incoming_of_keepsFraming hmessages
              (hcall hlast) houtcome
            rw [hboundary] at hcalls ⊢
            exact ih hmessages hcalls

/-! ## Sends that are cut off -/

theorem sendCalls_cons_of_waiting {connection : UnixSocketConnection}
    {call : SendCall} {calls : List SendCall}
    (hwaiting : (call.run connection).outcome = .waiting) :
    sendCalls connection (call :: calls) = [call.run connection] := by
  simp [sendCalls, hwaiting]

theorem sendCalls_cons_of_returned {connection : UnixSocketConnection}
    {call : SendCall} {calls : List SendCall}
    (hreturned : (call.run connection).outcome ≠ .waiting) :
    sendCalls connection (call :: calls) =
      call.run connection :: sendCalls connection calls := by
  simp [sendCalls, hreturned]

theorem SendCall.admissible_of_complete {connection : UnixSocketConnection}
    {call : SendCall} (hcomplete : (call.run connection).outcome = .complete) :
    frameCode.admissible call.message := by
  obtain ⟨_, hlength, hiff⟩ := call.run_sound connection
  apply hlength
  rw [hiff.mp hcomplete]
  exact frameCode.encode_ne_nil call.message

/-- Sends that all returned `true` put their frames on the stream, whole and in
order. -/
theorem acceptedStream_of_complete {connection : UnixSocketConnection}
    {calls : List SendCall}
    (hsent : ∀ result ∈ sendCalls connection calls, result.outcome = .complete) :
    acceptedStream (sendCalls connection calls) =
        frameCode.encodeAll (calls.map SendCall.message) ∧
      frameCode.AllAdmissible (calls.map SendCall.message) := by
  induction calls with
  | nil => simp [sendCalls, acceptedStream, Code.AllAdmissible]
  | cons call calls ih =>
      have hreturned : (call.run connection).outcome ≠ .waiting := by
        intro hwaiting
        rw [sendCalls_cons_of_waiting hwaiting] at hsent
        have hcomplete := hsent (call.run connection) List.mem_cons_self
        rw [hwaiting] at hcomplete
        contradiction
      rw [sendCalls_cons_of_returned hreturned] at hsent ⊢
      have hcomplete := hsent (call.run connection) List.mem_cons_self
      obtain ⟨hstream, hadmissible⟩ :=
        ih fun result hmem => hsent result (List.mem_cons_of_mem _ hmem)
      obtain ⟨_, _, hiff⟩ := call.run_sound connection
      constructor
      · simp only [acceptedStream, List.flatMap_cons] at hstream ⊢
        rw [hstream, hiff.mp hcomplete]
        rfl
      · intro message hmem
        simp only [List.map_cons, List.mem_cons] at hmem
        rcases hmem with rfl | hmem
        · exact SendCall.admissible_of_complete hcomplete
        · exact hadmissible message hmem

/-- The messages delivered are a subsequence of the messages sent if no receive
but the last is cut off inside a frame. -/
theorem delivered_sublist_of_framingKept
    (peer receiver : UnixSocketConnection)
    (sends : List SendCall) (calls : List ReceiveCall)
    (hsent : ∀ result ∈ sendCalls peer sends, result.outcome = .complete)
    (hkept : FramingKept receiver (acceptedStream (sendCalls peer sends)) calls) :
    (delivered (receiveCalls receiver (acceptedStream (sendCalls peer sends))
      calls)).Sublist (sends.map SendCall.message) := by
  obtain ⟨hstream, hadmissible⟩ := acceptedStream_of_complete hsent
  rw [hstream] at hkept ⊢
  exact delivered_sublist_of_framingKept_frames hadmissible hkept

/-- A descriptor that `::poll` reports readable, and one that is writable. -/
def readable : PollAnswer := .events ⟨true, false, false, false, false⟩
def writable : PollAnswer := .events ⟨false, true, false, false, false⟩

/-- A deadline that passes before the first byte costs nothing. -/
theorem delivered_sublist_after_early_timeout :
    (delivered (receiveCalls ⟨3⟩
      (acceptedStream (sendCalls ⟨4⟩ [.untimed [7] [.count 4, .count 1]]))
      [.timed 8 25 0 [⟨[⟨26000000, .expired⟩], .count 0⟩],
        .untimed 8 [.count 3, .count 0]])).Sublist
      ([.untimed [7] [.count 4, .count 1]].map SendCall.message) :=
  delivered_sublist_of_framingKept ⟨4⟩ ⟨3⟩
    [.untimed [7] [.count 4, .count 1]]
    [.timed 8 25 0 [⟨[⟨26000000, .expired⟩], .count 0⟩],
      .untimed 8 [.count 3, .count 0]] (by decide) (by decide)

/-- After a frame was refused for its size, or its payload came too late, the
next receive takes the payload for a frame. -/
theorem failed_receive_loses_framing :
    let connection : UnixSocketConnection := ⟨3⟩
    let sends : List SendCall := [.untimed [0, 0, 0, 1, 65] [.count 4, .count 5]]
    let stream := acceptedStream (sendCalls ⟨4⟩ sends)
    let oversized : List ReceiveCall :=
      [.untimed 4 [.count 3], .untimed 4 [.count 3, .count 0]]
    let late : List ReceiveCall :=
      [.timed 8 25 0 [⟨[⟨0, readable⟩], .count 3⟩, ⟨[⟨26000000, .expired⟩], .count 0⟩],
        .untimed 8 [.count 3, .count 0]]
    (∀ result ∈ sendCalls ⟨4⟩ sends, result.outcome = .complete) ∧
      connection.isOpen ∧
      delivered (receiveCalls connection stream oversized) = [[65]] ∧
      delivered (receiveCalls connection stream late) = [[65]] ∧
      ¬ [[65]].Sublist (sends.map SendCall.message) := by
  decide

/-- Nothing, or the front of the frame of one of the messages. -/
def CutOff (calls : List SendCall) (tail : Bytes) : Prop :=
  tail = [] ∨ ∃ call ∈ calls, frameCode.admissible call.message ∧
    tail <+: frame call.message ∧ tail ≠ frame call.message

theorem CutOff.cons {calls : List SendCall} {tail : Bytes} (hcut : CutOff calls tail)
    (call : SendCall) : CutOff (call :: calls) tail := by
  rcases hcut with hnil | ⟨other, hmem, hother⟩
  · exact .inl hnil
  · exact .inr ⟨other, List.mem_cons_of_mem call hmem, hother⟩

/-- What a call that is not complete leaves when nothing follows it. -/
theorem SendCall.cutOff_of_incomplete {connection : UnixSocketConnection} {call : SendCall}
    {calls : List SendCall} (hincomplete : (call.run connection).outcome ≠ .complete) :
    CutOff (call :: calls) (call.run connection).accepted := by
  obtain ⟨hinitial, hlength, hiff⟩ := call.run_sound connection
  by_cases hempty : (call.run connection).accepted = []
  · exact .inl hempty
  · exact .inr ⟨call, List.mem_cons_self, hlength hempty, hinitial,
      fun hwhole => hincomplete (hiff.mpr hwhole)⟩

theorem forall_dropLast_tail {α : Type} {holds : α → Prop} {first : α} {rest : List α}
    (hall : ∀ other ∈ (first :: rest).dropLast, holds other) :
    ∀ other ∈ rest.dropLast, holds other := by
  intro other hmem
  apply hall other
  cases rest with
  | nil => contradiction
  | cons next rest => exact List.mem_cons_of_mem first hmem

theorem forall_dropLast_head {α : Type} {holds : α → Prop} {first : α} {rest : List α}
    (hall : ∀ other ∈ (first :: rest).dropLast, holds other) (hrest : rest ≠ []) :
    holds first := by
  apply hall first
  rw [List.dropLast_cons_of_ne_nil hrest]
  exact List.mem_cons_self

/-- The bytes of sends none of which but the last was cut off inside its frame:
whole frames of a subsequence of the messages, then at most a truncated one. -/
theorem acceptedStream_of_keepsFraming (connection : UnixSocketConnection)
    {calls : List SendCall} (hkept : ∀ call ∈ calls.dropLast, call.KeepsFraming) :
    ∃ messages tail,
      acceptedStream (sendCalls connection calls) =
          frameCode.encodeAll messages ++ tail ∧
        messages.Sublist (calls.map SendCall.message) ∧
        frameCode.AllAdmissible messages ∧ CutOff calls tail := by
  induction calls with
  | nil => exact ⟨[], [], rfl, List.nil_sublist _, by simp [Code.AllAdmissible], .inl rfl⟩
  | cons call calls ih =>
      obtain ⟨messages, tail, hstream, hsublist, hadmissible, htail⟩ :=
        ih (forall_dropLast_tail hkept)
      cases houtcome : (call.run connection).outcome with
      | waiting =>
          rw [sendCalls_cons_of_waiting houtcome]
          refine ⟨[], (call.run connection).accepted, ?_, List.nil_sublist _,
            by simp [Code.AllAdmissible], SendCall.cutOff_of_incomplete (by simp [houtcome])⟩
          simp [acceptedStream]
      | complete =>
          rw [sendCalls_cons_of_returned (by simp [houtcome])]
          have hmessage := SendCall.admissible_of_complete houtcome
          refine ⟨call.message :: messages, tail, ?_, hsublist.cons_cons _, ?_, htail.cons call⟩
          · simp only [acceptedStream, List.flatMap_cons] at hstream ⊢
            rw [hstream, (call.run_sound connection).2.2.mp houtcome, Code.encodeAll_cons,
              List.append_assoc]
            rfl
          · intro message hmem
            rcases List.mem_cons.mp hmem with rfl | hmem
            · exact hmessage
            · exact hadmissible message hmem
      | failed error =>
          rw [sendCalls_cons_of_returned (by simp [houtcome])]
          by_cases hnext : calls = []
          · subst calls
            refine ⟨[], (call.run connection).accepted, ?_, List.nil_sublist _,
              by simp [Code.AllAdmissible], SendCall.cutOff_of_incomplete (by simp [houtcome])⟩
            simp [acceptedStream, sendCalls]
          · have hcall : call.KeepsFraming := forall_dropLast_head hkept hnext
            have hnone := SendCall.accepted_of_failed hcall houtcome
            refine ⟨messages, tail, ?_, hsublist.cons _, hadmissible, htail.cons call⟩
            simp only [acceptedStream, List.flatMap_cons] at hstream ⊢
            rw [hstream, hnone, List.nil_append]

/-- The header of a truncated frame, when it is whole, announces the length of
the message that was cut off. -/
theorem announcedSize_of_truncated {message tail : Bytes}
    (hmessage : message.length < 2 ^ 32) (hinitial : tail <+: frame message)
    (hlong : 4 ≤ tail.length) : announcedSize tail = message.length := by
  obtain ⟨rest, hrest⟩ := hinitial
  have htake : tail.take 4 = (frame message ++ []).take 4 := by
    rw [List.append_nil, ← hrest, List.take_append_of_le_length hlong]
  rw [announcedSize, htake, frame_take, ntohl_htonl hmessage]

/-- What a receive that fails leaves of whole frames and a truncated one: all of it, or
nothing at the end of the stream. -/
theorem ReceiveCall.incoming_of_failed_on_frames
    {connection : UnixSocketConnection} {messages : List Bytes} {tail : Bytes}
    {call : ReceiveCall} {error : ErrorText} (hmessages : frameCode.AllAdmissible messages)
    (hcall : call.NotCutOff)
    (hsize : ∀ message ∈ messages, message.length ≤ call.maxSize)
    (htailSize : 4 ≤ tail.length → announcedSize tail ≤ call.maxSize)
    (hfailed : (call.run connection (frameCode.encodeAll messages ++ tail)).outcome =
      .failed error) :
    (call.run connection (frameCode.encodeAll messages ++ tail)).incoming =
        frameCode.encodeAll messages ++ tail ∨
      (call.run connection (frameCode.encodeAll messages ++ tail)).incoming = [] := by
  rcases hcall with hnone | hsteady
  · exact .inl (ReceiveCall.incoming_of_undelivered hnone)
  · have hannounced : 4 ≤ (frameCode.encodeAll messages ++ tail).length →
        announcedSize (frameCode.encodeAll messages ++ tail) ≤ call.maxSize := by
      cases messages with
      | nil => exact htailSize
      | cons message remaining =>
          intro _
          rw [Code.encodeAll_cons, List.append_assoc]
          exact (announcedSize_frame _ (hmessages message List.mem_cons_self)).trans_le
            (hsize message List.mem_cons_self)
    exact (ReceiveCall.incoming_of_failed hsteady hannounced hfailed).imp_right And.left

/-- Receives with room for every message, none of which but the last is cut off inside a
frame, deliver no more than the whole frames on the stream. -/
theorem delivered_sublist_of_whole_receives
    {connection : UnixSocketConnection} {messages : List Bytes} {tail : Bytes}
    {calls : List ReceiveCall} (hmessages : frameCode.AllAdmissible messages)
    (htail : tail = [] ∨ frameCode.Truncated tail)
    (hcalls : ∀ call ∈ calls.dropLast, call.NotCutOff)
    (hsize : ∀ call ∈ calls, ∀ message ∈ messages, message.length ≤ call.maxSize)
    (htailSize : ∀ call ∈ calls, 4 ≤ tail.length → announcedSize tail ≤ call.maxSize) :
    (delivered (receiveCalls connection
      (frameCode.encodeAll messages ++ tail) calls)).Sublist messages := by
  induction calls generalizing messages tail with
  | nil => simp [receiveCalls]
  | cons call calls ih =>
      have hlater := forall_dropLast_tail hcalls
      have hsizes := fun other hmem => hsize other (List.mem_cons_of_mem call hmem)
      have htailSizes := fun other hmem => htailSize other (List.mem_cons_of_mem call hmem)
      cases houtcome : (call.run connection
          (frameCode.encodeAll messages ++ tail)).outcome with
      | waiting =>
          rw [receiveCalls_cons_of_waiting houtcome,
            delivered_cons_of_incomplete (by simp [houtcome])]
          exact List.nil_sublist messages
      | complete =>
          rw [receiveCalls_cons_of_returned (by simp [houtcome]),
            delivered_cons_of_complete houtcome]
          obtain ⟨remaining, hsplit, hincoming⟩ :=
            ReceiveCall.complete_on_frames hmessages htail houtcome
          rw [hincoming]
          have hsubset : ∀ message ∈ remaining, message ∈ messages := by
            intro message hmem
            exact hsplit ▸ List.mem_cons_of_mem _ hmem
          have htailDelivered := ih
            (fun message hmem => hmessages message (hsubset message hmem)) htail hlater
            (fun other hmem message hin => hsizes other hmem message (hsubset message hin))
            htailSizes
          have hall := htailDelivered.cons_cons
            (call.run connection (frameCode.encodeAll messages ++ tail)).message
          rwa [← hsplit] at hall
      | failed error =>
          rw [receiveCalls_cons_of_returned (by simp [houtcome]),
            delivered_cons_of_incomplete (by simp [houtcome])]
          by_cases hlast : calls = []
          · subst calls
            simp [receiveCalls]
          rcases ReceiveCall.incoming_of_failed_on_frames hmessages
            (forall_dropLast_head hcalls hlast) (hsize call List.mem_cons_self)
            (htailSize call List.mem_cons_self) houtcome with hsame | hend
          · rw [hsame]
            exact ih hmessages htail hlater hsizes htailSizes
          · rw [hend]
            have hnothing : (delivered (receiveCalls connection
                (frameCode.encodeAll [] ++ []) calls)).Sublist [] :=
              ih (by simp [Code.AllAdmissible]) (.inl rfl) hlater (by simp) (by simp)
            exact hnothing.trans (List.nil_sublist messages)

/-- If no send but the last was cut off inside its frame, and no receive but the last inside
one that it read, a receiver with room for every message delivers only messages that were
sent, in order. -/
theorem delivered_sublist_of_sends_keepFraming
    (sender receiver : UnixSocketConnection)
    (sends : List SendCall) (calls : List ReceiveCall)
    (hkept : ∀ send ∈ sends.dropLast, send.KeepsFraming)
    (hcalls : ∀ call ∈ calls.dropLast, call.NotCutOff)
    (hsize : ∀ call ∈ calls, ∀ send ∈ sends, send.message.length ≤ call.maxSize) :
    (delivered (receiveCalls receiver (acceptedStream (sendCalls sender sends))
      calls)).Sublist (sends.map SendCall.message) := by
  obtain ⟨messages, tail, hstream, hsublist, hadmissible, htail⟩ :=
    acceptedStream_of_keepsFraming sender hkept
  rw [hstream]
  have hmessages : ∀ call ∈ calls, ∀ message ∈ messages,
      message.length ≤ call.maxSize := by
    intro call hcall message hmem
    obtain ⟨send, hsend, rfl⟩ := List.mem_map.mp (hsublist.subset hmem)
    exact hsize call hcall send hsend
  refine (delivered_sublist_of_whole_receives hadmissible ?_ hcalls hmessages ?_).trans
    hsublist
  · rcases htail with hnil | ⟨send, _, hlength, hinitial, hne⟩
    · exact .inl hnil
    · exact .inr ⟨send.message, hlength, hinitial, hne⟩
  · intro call hcall hlong
    rcases htail with hnil | ⟨send, hsend, hlength, hinitial, _⟩
    · subst tail
      simp at hlong
    · rw [announcedSize_of_truncated hlength hinitial hlong]
      exact hsize call hcall send hsend

/-- A send and a receive whose deadlines pass before the first byte cost nothing. -/
theorem delivered_sublist_after_early_send_timeout :
    (delivered (receiveCalls ⟨3⟩
      (acceptedStream (sendCalls ⟨4⟩
        [.timed [7] 25 0 [⟨[⟨26000000, .expired⟩], .count 0⟩],
          .timed [8] 25 0 [⟨[⟨0, writable⟩], .count 4⟩, ⟨[⟨0, writable⟩], .count 1⟩]]))
      [.timed 8 25 0 [⟨[⟨26000000, .expired⟩], .count 0⟩],
        .untimed 8 [.count 3, .count 0]])).Sublist
      ([.timed [7] 25 0 [⟨[⟨26000000, .expired⟩], .count 0⟩],
        .timed [8] 25 0 [⟨[⟨0, writable⟩], .count 4⟩,
          ⟨[⟨0, writable⟩], .count 1⟩]].map SendCall.message) :=
  delivered_sublist_of_sends_keepFraming ⟨4⟩ ⟨3⟩
    [.timed [7] 25 0 [⟨[⟨26000000, .expired⟩], .count 0⟩],
      .timed [8] 25 0 [⟨[⟨0, writable⟩], .count 4⟩, ⟨[⟨0, writable⟩], .count 1⟩]]
    [.timed 8 25 0 [⟨[⟨26000000, .expired⟩], .count 0⟩],
      .untimed 8 [.count 3, .count 0]] (by decide) (by decide) (by decide)

/-- After a send was cut off two bytes into its payload, the receiver fills up
the message with the frame of the next one. -/
theorem failed_send_corrupts_next_message :
    let sends : List SendCall :=
      [.timed [97, 98, 99, 100] 25 0
          [⟨[⟨0, writable⟩], .count 4⟩, ⟨[⟨0, writable⟩], .count 2⟩,
            ⟨[⟨26000000, .expired⟩], .count 0⟩],
        .timed [120, 121] 25 0
          [⟨[⟨27000000, writable⟩], .count 4⟩, ⟨[⟨27000000, writable⟩], .count 2⟩]]
    let calls : List ReceiveCall := [.untimed 1024 [.count 3, .count 3]]
    ((sendCalls ⟨4⟩ sends).map SendResult.outcome =
      [.failed (.message "send timed out"), .complete]) ∧
      UnixSocketConnection.isOpen ⟨4⟩ ∧
      delivered (receiveCalls ⟨3⟩ (acceptedStream (sendCalls ⟨4⟩ sends)) calls) =
        [[97, 98, 0, 0]] ∧
      [97, 98, 0, 0] ∉ sends.map SendCall.message := by
  decide

end ElapPlatform.Ipc
