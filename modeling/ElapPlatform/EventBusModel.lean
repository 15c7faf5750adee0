import ElapPlatform.PosixMessageQueueTransfer

/-!
# The event bus

`MessageQueueEventBus` sends an event as its topic, a newline and its payload.
-/

namespace ElapPlatform.Ipc

open Interaction Interaction.Program RelyGuarantee

structure Event where
  topic : Bytes
  payload : Bytes
  deriving DecidableEq, Repr

def newline : UInt8 := 10

def encodeEvent (event : Event) : Except ErrorText Bytes :=
  if event.topic.isEmpty then .error (.message "event topic is empty")
  else if newline ∈ event.topic then .error (.message "event topic must not contain newline")
  else .ok (event.topic ++ newline :: event.payload)

/-- `event` is the variable that the caller passes; without a separator it keeps its value. -/
def decodeEvent (encoded : Bytes) (event : Event) : ObjectAnswer Event :=
  match encoded.idxOf? newline with
  | none => ⟨some (.message "event message is missing topic separator"), event⟩
  | some separator =>
      let event : Event := ⟨encoded.take separator, encoded.drop (separator + 1)⟩
      if event.topic.isEmpty then ⟨some (.message "event topic is empty"), event⟩
      else ⟨none, event⟩

structure MessageQueueEventBus where
  queue : PosixMessageQueue
  deriving DecidableEq, Repr

namespace MessageQueueEventBus

def publish (bus : MessageQueueEventBus) (event : Event) : TransferProgram (Option ErrorText) :=
  match encodeEvent event with
  | .error error => return some error
  | .ok encoded => bus.queue.sendMessage encoded 0

def publishWithin (bus : MessageQueueEventBus) (event : Event) (timeout : ℤ) :
    TransferProgram (Option ErrorText) :=
  match encodeEvent event with
  | .error error => return some error
  | .ok encoded => bus.queue.sendMessageWithin encoded 0 timeout

def receive (bus : MessageQueueEventBus) (event : Event) :
    TransferProgram (ObjectAnswer Event) := do
  match ← bus.queue.receiveMessage with
  | .error error => return ⟨some error, event⟩
  | .ok received => return decodeEvent received.message event

def receiveWithin (bus : MessageQueueEventBus) (event : Event) (timeout : ℤ) :
    TransferProgram (ObjectAnswer Event) := do
  match ← bus.queue.receiveMessageWithin timeout with
  | .error error => return ⟨some error, event⟩
  | .ok received => return decodeEvent received.message event

end MessageQueueEventBus

/-! ## Calls of many buses -/

/-- A call with a timeout has one. -/
inductive BusCall where
  | publish (event : Event) (timeout : Option ℤ)
  | receive (event : Event) (timeout : Option ℤ)
  deriving DecidableEq, Repr

/-- The event of a publish is `const`, and comes back as it went in. -/
def BusCall.perform : BusCall → MessageQueueEventBus →
    TransferProgram (ObjectAnswer Event × MessageQueueEventBus)
  | .publish event none, bus => do
      let error ← bus.publish event
      return (⟨error, event⟩, bus)
  | .publish event (some timeout), bus => do
      let error ← bus.publishWithin event timeout
      return (⟨error, event⟩, bus)
  | .receive event none, bus => do
      let answer ← bus.receive event
      return (answer, bus)
  | .receive event (some timeout), bus => do
      let answer ← bus.receiveWithin event timeout
      return (answer, bus)

def eventBuses : CallClass TransferCall TransferCall.Reply :=
  ⟨MessageQueueEventBus, BusCall, ObjectAnswer Event, BusCall.perform⟩

abbrev BusSystem := CallSystem KernelQueue eventBuses

abbrev BusLabel := CallLabel eventBuses

/-- The queue is empty, and every bus has it open or has no queue at all. -/
def idleBuses (buses : ℕ → MessageQueueEventBus) (maxMessages messageSize : ℕ) : BusSystem :=
  ⟨⟨[], maxMessages, messageSize, [], []⟩, buses, fun _ => none⟩

/-! ## The codec -/

def Event.Valid (event : Event) : Prop := event.topic ≠ [] ∧ newline ∉ event.topic

def Event.encoding (event : Event) : Bytes := event.topic ++ newline :: event.payload

/-- The event that a message stands for. -/
def eventOf (message : Bytes) : Event :=
  ⟨message.takeWhile (· ≠ newline), (message.dropWhile (· ≠ newline)).tail⟩

section Codec

variable {event : Event}

theorem encodeEvent_cases (event : Event) :
    (∃ error, encodeEvent event = .error error) ∨
      event.Valid ∧ encodeEvent event = .ok event.encoding := by
  unfold encodeEvent
  by_cases hempty : event.topic.isEmpty = true
  · rw [if_pos hempty]
    exact .inl ⟨_, rfl⟩
  · rw [if_neg hempty]
    by_cases hnewline : newline ∈ event.topic
    · rw [if_pos hnewline]
      exact .inl ⟨_, rfl⟩
    · rw [if_neg hnewline]
      exact .inr ⟨⟨fun hnil => hempty (List.isEmpty_iff.mpr hnil), hnewline⟩, rfl⟩

theorem eventOf_encoding (hvalid : event.Valid) : eventOf event.encoding = event := by
  have htopic : ∀ byte ∈ event.topic, decide (byte ≠ newline) = true := by
    intro byte hmem
    exact decide_eq_true fun hsame => hvalid.2 (hsame ▸ hmem)
  unfold eventOf Event.encoding
  rw [List.takeWhile_append_of_pos htopic, List.dropWhile_append_of_pos htopic]
  simp

/-- The payload may contain the separator; the first one ends the topic. -/
theorem decodeEvent_encoding (hvalid : event.Valid) (previous : Event) :
    decodeEvent event.encoding previous = ⟨none, event⟩ := by
  have hseparator : event.encoding.idxOf? newline = some event.topic.length :=
    idxOf?_append_cons hvalid.2
  have htake : event.encoding.take event.topic.length = event.topic := List.take_left
  have hdrop : event.encoding.drop (event.topic.length + 1) = event.payload := by
    unfold Event.encoding
    rw [← List.drop_drop, List.drop_left]
    rfl
  unfold decodeEvent
  rw [hseparator]
  dsimp only
  rw [htake, hdrop, if_neg (fun hempty => hvalid.1 (List.isEmpty_iff.mp hempty))]

end Codec

end ElapPlatform.Ipc
