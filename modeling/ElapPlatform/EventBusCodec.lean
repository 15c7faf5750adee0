import ElapPlatform.EventBusModel
import ElapPlatform.InteractionTranscript

/-!
# The codec of events

The encodings are the messages with a first line that is not empty.  On these the codec
is a bijection.  The decoder refuses any other message, but it fills in the event
before it looks whether the topic is empty.
-/

namespace ElapPlatform.Ipc

open Interaction

/-! ## Messages with and without a separator -/

section Codec

variable {event : Event} {topic payload encoded : Bytes}

theorem decodeEvent_of_unseparated (hnone : newline ∉ encoded) (previous : Event) :
    decodeEvent encoded previous =
      ⟨some (.message "event message is missing topic separator"), previous⟩ := by
  unfold decodeEvent
  rw [List.idxOf?_eq_none_iff.mpr hnone]

theorem decodeEvent_of_topicless (payload : Bytes) (previous : Event) :
    decodeEvent (newline :: payload) previous =
      ⟨some (.message "event topic is empty"), ⟨[], payload⟩⟩ := by
  unfold decodeEvent
  rw [List.idxOf?_cons, if_pos (by decide)]
  rfl

theorem encodeEvent_of_valid (hvalid : event.Valid) : encodeEvent event = .ok event.encoding := by
  unfold encodeEvent
  rw [if_neg (fun hempty => hvalid.1 (List.isEmpty_iff.mp hempty)), if_neg hvalid.2]
  rfl

theorem encodeEvent_eq_ok_iff :
    encodeEvent event = .ok encoded ↔ event.Valid ∧ encoded = event.encoding := by
  constructor
  · intro hencoded
    rcases encodeEvent_cases event with ⟨error, herror⟩ | ⟨hvalid, hok⟩
    · cases herror.symm.trans hencoded
    · cases hok.symm.trans hencoded
      exact ⟨hvalid, rfl⟩
  · rintro ⟨hvalid, rfl⟩
    exact encodeEvent_of_valid hvalid

/-- A message is an encoding, has no topic, or has no separator. -/
inductive MessageKind : Bytes → Prop
  | unseparated {encoded : Bytes} (hnone : newline ∉ encoded) : MessageKind encoded
  | topicless (payload : Bytes) : MessageKind (newline :: payload)
  | encoding {event : Event} (hvalid : event.Valid) : MessageKind event.encoding

theorem messageKind (encoded : Bytes) : MessageKind encoded := by
  by_cases hseparated : newline ∈ encoded
  · obtain ⟨topic, payload, rfl, hfree⟩ := List.eq_append_cons_of_mem hseparated
    cases topic with
    | nil => exact .topicless payload
    | cons byte topic =>
        exact @MessageKind.encoding ⟨byte :: topic, payload⟩ ⟨List.cons_ne_nil byte topic, hfree⟩
  · exact .unseparated hseparated

theorem decodeEvent_eq_none_iff {previous : Event} :
    decodeEvent encoded previous = ⟨none, event⟩ ↔ event.Valid ∧ encoded = event.encoding := by
  constructor
  · intro hdecoded
    cases messageKind encoded with
    | unseparated hnone =>
        rw [decodeEvent_of_unseparated hnone] at hdecoded
        cases hdecoded
    | topicless payload =>
        rw [decodeEvent_of_topicless] at hdecoded
        cases hdecoded
    | encoding hvalid =>
        rw [decodeEvent_encoding hvalid] at hdecoded
        cases hdecoded
        exact ⟨hvalid, rfl⟩
  · rintro ⟨hvalid, rfl⟩
    exact decodeEvent_encoding hvalid previous

/-- What can be encoded, what it is decoded to, and what the decoder accepts. -/
theorem event_codec_bijective (event : Event) (encoded : Bytes) (previous : Event) :
    ((∃ message, encodeEvent event = .ok message) ↔
        event.topic ≠ [] ∧ newline ∉ event.topic) ∧
      (encodeEvent event = .ok encoded ↔ decodeEvent encoded previous = ⟨none, event⟩) ∧
      ((decodeEvent encoded previous).error = none ↔
        ∃ other, encodeEvent other = .ok encoded) := by
  refine ⟨⟨?_, fun hvalid => ⟨_, encodeEvent_of_valid hvalid⟩⟩, ?_, ?_⟩
  · rintro ⟨message, hencoded⟩
    exact (encodeEvent_eq_ok_iff.mp hencoded).1
  · rw [encodeEvent_eq_ok_iff, decodeEvent_eq_none_iff]
  · constructor
    · intro haccepted
      have hdecoded : decodeEvent encoded previous =
          ⟨none, (decodeEvent encoded previous).object⟩ := by
        rw [← haccepted]
      exact ⟨_, encodeEvent_eq_ok_iff.mpr (decodeEvent_eq_none_iff.mp hdecoded)⟩
    · rintro ⟨other, hencoded⟩
      rw [decodeEvent_eq_none_iff.mpr (encodeEvent_eq_ok_iff.mp hencoded)]

end Codec

/-! ## What a failed receive writes -/

abbrev TransferExchange := Exchange TransferCall TransferCall.Reply

def replyMessage : SystemResult ReceivedMessage → Option Bytes
  | .ok received => some received.message
  | .error _ => none

def takenMessage : TransferExchange → Option Bytes
  | ⟨.mqReceive _ _, reply⟩ => replyMessage reply
  | ⟨.mqTimedreceive _ _ _, reply⟩ => replyMessage reply
  | _ => none

/-- The messages that a call has taken from the queue. -/
def takenMessages (exchanges : List TransferExchange) : List Bytes :=
  exchanges.filterMap takenMessage

/-- What a call of `receive` comes to, with the message that it has taken. -/
inductive Receives (event : Event) : List Bytes → ObjectAnswer Event → Prop
  | failed (error : ErrorText) : Receives event [] ⟨some error, event⟩
  | decoded (message : Bytes) : Receives event [message] (decodeEvent message event)

/-- A failed receive leaves the event of the caller as it was. -/
def KeepsEvent (event : Event) (answer : ObjectAnswer Event) : Prop :=
  answer.error ≠ none → answer.object = event

@[simp] theorem takenMessages_append (first last : List TransferExchange) :
    takenMessages (first ++ last) = takenMessages first ++ takenMessages last :=
  List.filterMap_append

section Receive

variable {bus : MessageQueueEventBus} {event : Event} {exchanges : List TransferExchange}
  {answer : ObjectAnswer Event}

theorem loadDeadline_takes_nothing {timeout : ℤ} {result : Except ErrorText Timespec}
    (htranscript : Transcript (loadDeadline timeout) exchanges result) :
    takenMessages exchanges = [] := by
  unfold loadDeadline at htranscript
  split at htranscript
  · obtain ⟨rfl, _⟩ := transcript_done_iff.mp htranscript
    rfl
  · obtain ⟨reply, rest, rfl, hdone⟩ := transcript_ask_iff.mp htranscript
    cases reply with
    | error errno =>
        obtain ⟨rfl, _⟩ := transcript_done_iff.mp hdone
        rfl
    | ok now =>
        obtain ⟨rfl, _⟩ := transcript_done_iff.mp hdone
        rfl

/-- A receive of the queue takes the message that it returns. -/
def ReturnsTaken (exchanges : List TransferExchange) : Except ErrorText ReceivedMessage → Prop
  | .error _ => takenMessages exchanges = []
  | .ok received => takenMessages exchanges = [received.message]

theorem receiveMessage_returnsTaken {queue : PosixMessageQueue}
    {result : Except ErrorText ReceivedMessage}
    (htranscript : Transcript queue.receiveMessage exchanges result) :
    ReturnsTaken exchanges result := by
  unfold PosixMessageQueue.receiveMessage at htranscript
  split at htranscript
  · obtain ⟨rfl, rfl⟩ := transcript_done_iff.mp htranscript
    rfl
  · obtain ⟨reply, rest, rfl, hrest⟩ := transcript_ask_iff.mp htranscript
    cases reply with
    | error errno =>
        obtain ⟨rfl, rfl⟩ := transcript_done_iff.mp hrest
        rfl
    | ok received =>
        obtain ⟨rfl, rfl⟩ := transcript_done_iff.mp hrest
        rfl

theorem receiveMessageWithin_returnsTaken {queue : PosixMessageQueue} {timeout : ℤ}
    {result : Except ErrorText ReceivedMessage}
    (htranscript : Transcript (queue.receiveMessageWithin timeout) exchanges result) :
    ReturnsTaken exchanges result := by
  unfold PosixMessageQueue.receiveMessageWithin at htranscript
  split at htranscript
  · obtain ⟨rfl, rfl⟩ := transcript_done_iff.mp htranscript
    rfl
  · obtain ⟨first, last, loaded, rfl, hload, hrest⟩ := transcript_bind_iff.mp htranscript
    have hnothing := loadDeadline_takes_nothing hload
    cases loaded with
    | error error =>
        obtain ⟨rfl, rfl⟩ := transcript_done_iff.mp hrest
        rw [List.append_nil]
        exact hnothing
    | ok deadline =>
        obtain ⟨reply, rest, rfl, hreply⟩ := transcript_ask_iff.mp hrest
        unfold ReturnsTaken
        rw [takenMessages_append, hnothing, List.nil_append]
        cases reply with
        | error errno =>
            obtain ⟨rfl, rfl⟩ := transcript_done_iff.mp hreply
            rfl
        | ok received =>
            obtain ⟨rfl, rfl⟩ := transcript_done_iff.mp hreply
            rfl

/-- What both overloads do with what the queue gave them. -/
theorem receives_of_returnsTaken {program : TransferProgram (Except ErrorText ReceivedMessage)}
    (htaken : ∀ {exchanges result}, Transcript program exchanges result →
      ReturnsTaken exchanges result)
    (htranscript : Transcript
      (program >>= fun result =>
        match result with
        | .error error => pure ⟨some error, event⟩
        | .ok received => pure (decodeEvent received.message event)) exchanges answer) :
    Receives event (takenMessages exchanges) answer := by
  obtain ⟨first, last, result, rfl, hfirst, hrest⟩ := transcript_bind_iff.mp htranscript
  have hresult := htaken hfirst
  cases result with
  | error error =>
      obtain ⟨rfl, rfl⟩ := transcript_done_iff.mp hrest
      have hnothing : takenMessages first = [] := hresult
      rw [List.append_nil, hnothing]
      exact .failed error
  | ok received =>
      obtain ⟨rfl, rfl⟩ := transcript_done_iff.mp hrest
      have hmessage : takenMessages first = [received.message] := hresult
      rw [List.append_nil, hmessage]
      exact .decoded received.message

/-- `receive`, with a timeout or without. -/
def MessageQueueEventBus.receiveCall (bus : MessageQueueEventBus) (event : Event) :
    Option ℤ → TransferProgram (ObjectAnswer Event)
  | none => bus.receive event
  | some timeout => bus.receiveWithin event timeout

theorem receiveCall_receives {timeout : Option ℤ}
    (htranscript : Transcript (bus.receiveCall event timeout) exchanges answer) :
    Receives event (takenMessages exchanges) answer := by
  cases timeout with
  | none => exact receives_of_returnsTaken receiveMessage_returnsTaken htranscript
  | some timeout => exact receives_of_returnsTaken receiveMessageWithin_returnsTaken htranscript

theorem Receives.keepsEvent_iff {messages : List Bytes}
    (hreceives : Receives event messages answer) :
    KeepsEvent event answer ↔ ∀ payload, newline :: payload ∈ messages → event = ⟨[], payload⟩ := by
  cases hreceives with
  | failed error => exact iff_of_true (fun _ => rfl) fun payload hmem => by cases hmem
  | decoded message =>
      cases messageKind message with
      | unseparated hnone =>
          rw [decodeEvent_of_unseparated hnone]
          refine iff_of_true (fun _ => rfl) fun payload hmem => ?_
          rw [← List.mem_singleton.mp hmem] at hnone
          exact absurd List.mem_cons_self hnone
      | topicless payload =>
          rw [decodeEvent_of_topicless]
          constructor
          · intro hkept other hmem
            cases List.mem_singleton.mp hmem
            exact (hkept nofun).symm
          · intro hsame _
            exact (hsame payload (List.mem_singleton_self _)).symm
      | @encoding other hvalid =>
          rw [decodeEvent_encoding hvalid]
          refine iff_of_true (fun hfailed => absurd rfl hfailed) fun payload hmem => ?_
          obtain ⟨topic, body⟩ := other
          cases topic with
          | nil => exact absurd rfl hvalid.1
          | cons byte topic =>
              obtain ⟨rfl, _⟩ := List.cons.inj (List.mem_singleton.mp hmem)
              exact absurd List.mem_cons_self hvalid.2

/-- A failed receive writes to the event if the message that it took has an empty topic. -/
theorem failed_receive_keeps_event_iff {timeout : Option ℤ}
    (htranscript : Transcript (bus.receiveCall event timeout) exchanges answer) :
    KeepsEvent event answer ↔
      ∀ payload, newline :: payload ∈ takenMessages exchanges → event = ⟨[], payload⟩ :=
  (receiveCall_receives htranscript).keepsEvent_iff

end Receive

/-! ## A message of another program -/

/-- A bus that has descriptor 3 on a queue of messages of at most 64 bytes. -/
def attachedBus : MessageQueueEventBus := ⟨⟨some 3, [47, 97], 64, false⟩⟩

def earlierEvent : Event := ⟨[116], [112]⟩

theorem receiveCall_takes (message : Bytes) :
    Transcript (attachedBus.receiveCall earlierEvent none)
      [⟨.mqReceive 3 64, (.ok ⟨message, 0⟩ : SystemResult ReceivedMessage)⟩]
      (decodeEvent message earlierEvent) :=
  .ask _ (.done _)

theorem unseparated_message_keeps_event :
    takenMessages [⟨.mqReceive 3 64, (.ok ⟨[120], 0⟩ : SystemResult ReceivedMessage)⟩] = [[120]] ∧
      KeepsEvent earlierEvent (decodeEvent [120] earlierEvent) := by
  refine ⟨rfl, (failed_receive_keeps_event_iff (receiveCall_takes [120])).mpr ?_⟩
  intro payload hmem
  cases List.mem_singleton.mp hmem

/-- The message of a newline and one byte; the event has lost its topic and its payload. -/
theorem topicless_message_writes_event :
    ¬ ∀ (bus : MessageQueueEventBus) (event : Event) timeout exchanges answer,
      Transcript (bus.receiveCall event timeout) exchanges answer → KeepsEvent event answer := by
  intro hall
  have hkept := hall _ _ _ _ _ (receiveCall_takes [10, 120])
  have hfailed : (decodeEvent [10, 120] earlierEvent).error ≠ none := by decide
  exact absurd (hkept hfailed) (by decide)

end ElapPlatform.Ipc
