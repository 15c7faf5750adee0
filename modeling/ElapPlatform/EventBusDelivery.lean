import ElapPlatform.EventBusModel

/-!
# Every event is delivered once and in order

Buses send with one priority, so the queue is a line: what has been taken, followed
by what is still there, is what has been sent.
-/

namespace ElapPlatform.Ipc

open Interaction Interaction.Program RelyGuarantee RelyGuarantee.Protocol Transition

/-! ## The line of events -/

def transferredBy (index : ℕ) (transfers : List Transfer) : List Event :=
  (transfers.filter fun transfer => transfer.caller = index).map fun transfer =>
    eventOf transfer.message

theorem transferredBy_append (index : ℕ) (transfers : List Transfer) (transfer : Transfer) :
    transferredBy index (transfers ++ [transfer]) = transferredBy index transfers ++
      if transfer.caller = index then [eventOf transfer.message] else [] := by
  unfold transferredBy
  rw [List.filter_append, List.map_append]
  congr 1
  by_cases hcaller : transfer.caller = index <;> simp [hcaller]

namespace KernelQueue

structure InOrder (queue : KernelQueue) : Prop where
  line : queue.sent.map (·.message) =
    queue.taken.map (·.message) ++ queue.messages.map (·.message)
  events : ∀ transfer ∈ queue.sent, ∃ event : Event, event.Valid ∧
    transfer.message = event.encoding

/-- What one bus has published and received. -/
structure Ledgers (index : ℕ) (published received : List Event) (queue : KernelQueue) : Prop where
  sent : transferredBy index queue.sent = published
  taken : transferredBy index queue.taken = received

structure SameLedgers (index : ℕ) (queue next : KernelQueue) : Prop where
  sent : transferredBy index next.sent = transferredBy index queue.sent
  taken : transferredBy index next.taken = transferredBy index queue.taken

end KernelQueue

def busProtocol : Protocol KernelQueue TransferCall TransferCall.Reply where
  answers := TransferCall.Answers
  invariant := KernelQueue.InOrder
  rely := KernelQueue.SameLedgers

open KernelQueue

section Steps

variable {index : ℕ} {queue next : KernelQueue} {published received : List Event}

theorem ledgers_stable : busProtocol.Stable index (Ledgers index published received) := by
  intro queue next _ hledgers hsame
  exact ⟨hsame.sent.trans hledgers.sent, hsame.taken.trans hledgers.taken⟩

theorem same_guarantees (hinvariant : queue.InOrder) :
    busProtocol.Guarantees index queue queue :=
  ⟨hinvariant, fun _ _ => ⟨rfl, rfl⟩⟩

/-- A message of the lowest priority goes behind all others. -/
theorem enqueue_zero (message : Bytes) :
    queue.enqueue ⟨message, 0⟩ = queue.messages ++ [⟨message, 0⟩] := by
  have hbehind : ∀ other ∈ queue.messages, decide (0 ≤ other.priority) = true :=
    fun other _ => decide_eq_true (Nat.zero_le other.priority)
  unfold enqueue PriorityLanes.insert
  rw [List.takeWhile_eq_self_iff.mpr hbehind, List.dropWhile_eq_nil_iff.mpr hbehind]

theorem Sends.keeps {event : Event} (hvalid : event.Valid) (hinvariant : queue.InOrder)
    (hledgers : Ledgers index published received queue) {reply : SystemResult Unit}
    (hsends : queue.Sends index event.encoding 0 reply next) :
    busProtocol.Guarantees index queue next ∧
      Ledgers index (if reply.isOk then published ++ [event] else published) received next := by
  cases reply with
  | error errno =>
      have hsame : next = queue := hsends
      subst hsame
      exact ⟨same_guarantees hinvariant, hledgers⟩
  | ok =>
      obtain ⟨_, _, rfl⟩ := hsends
      refine ⟨⟨⟨?_, ?_⟩, fun other hother => ⟨?_, rfl⟩⟩, ?_, hledgers.taken⟩
      · rw [enqueue_zero, List.map_append, List.map_append, hinvariant.line,
          List.append_assoc]
        rfl
      · intro transfer hmem
        rcases List.mem_append.mp hmem with hmem | hmem
        · exact hinvariant.events transfer hmem
        · rw [List.mem_singleton.mp hmem]
          exact ⟨event, hvalid, rfl⟩
      · rw [transferredBy_append, if_neg hother.symm, List.append_nil]
      · rw [transferredBy_append, if_pos rfl, hledgers.sent, eventOf_encoding hvalid]
        rfl

/-- What a receive leaves in the ledgers. -/
def TakenBy {Failure : Type} (index : ℕ) (published received : List Event)
    (reply : Except Failure ReceivedMessage) (queue : KernelQueue) : Prop :=
  match reply with
  | .ok message => ∃ event : Event, event.Valid ∧ message.message = event.encoding ∧
      Ledgers index published (received ++ [event]) queue
  | .error _ => Ledgers index published received queue

theorem takenBy_stable {Failure : Type} {reply : Except Failure ReceivedMessage} :
    busProtocol.Stable index (TakenBy index published received reply) := by
  intro queue next hinvariant htaken hsame
  cases reply with
  | error errno => exact ledgers_stable hinvariant htaken hsame
  | ok message =>
      obtain ⟨event, hvalid, hmessage, hledgers⟩ := htaken
      exact ⟨event, hvalid, hmessage, ledgers_stable hinvariant hledgers hsame⟩

theorem Receives.keeps {size : ℕ} (hinvariant : queue.InOrder)
    (hledgers : Ledgers index published received queue) {reply : SystemResult ReceivedMessage}
    (hreceives : queue.Receives index size reply next) :
    busProtocol.Guarantees index queue next ∧ TakenBy index published received reply next := by
  cases reply with
  | error errno =>
      have hsame : next = queue := hreceives
      subst hsame
      exact ⟨same_guarantees hinvariant, hledgers⟩
  | ok message =>
      obtain ⟨_, rest, hmessages, rfl⟩ := hreceives
      have hline := hinvariant.line
      rw [hmessages, List.map_cons] at hline
      have hsent : message.message ∈ queue.sent.map (·.message) := by
        rw [hline]
        exact List.mem_append_right _ List.mem_cons_self
      obtain ⟨transfer, hmem, hmessage⟩ := List.mem_map.mp hsent
      obtain ⟨event, hvalid, hencoding⟩ := hinvariant.events transfer hmem
      have hevent : message.message = event.encoding := hmessage.symm.trans hencoding
      refine ⟨⟨⟨?_, hinvariant.events⟩, fun other hother => ⟨rfl, ?_⟩⟩,
        event, hvalid, hevent, hledgers.sent, ?_⟩
      · rw [hline, List.map_append, List.append_assoc]
        rfl
      · rw [transferredBy_append, if_neg hother.symm, List.append_nil]
      · rw [transferredBy_append, if_pos rfl, hledgers.taken, hevent, eventOf_encoding hvalid]

end Steps

/-! ## Safe calls -/

section Calls

variable {index : ℕ} {queue : KernelQueue} {published received : List Event} {event : Event}

/-- What a publish leaves in the ledgers. -/
def SentBy (index : ℕ) (published received : List Event) (event : Event)
    (error : Option ErrorText) (queue : KernelQueue) : Prop :=
  Ledgers index (if error = none then published ++ [event] else published) received queue

theorem unsent_safe {error : ErrorText} (hledgers : Ledgers index published received queue) :
    busProtocol.Safe index (SentBy index published received event) (.done (some error)) queue :=
  safe_done ledgers_stable hledgers fun _ => id

theorem mqSend_safe (hvalid : event.Valid) (hledgers : Ledgers index published received queue)
    (descriptor : Descriptor) :
    busProtocol.Safe index
      (fun reply later => Ledgers index
        (if (reply : SystemResult Unit).isOk then published ++ [event] else published)
          received later)
      (mqSend descriptor event.encoding 0) queue :=
  safe_perform ledgers_stable hledgers (fun _ => ledgers_stable)
    fun _ hinvariant hlater _ _ hanswer => Sends.keeps hvalid hinvariant hlater hanswer

theorem mqTimedsend_safe (hvalid : event.Valid)
    (hledgers : Ledgers index published received queue) (descriptor : Descriptor)
    (deadline : Timespec) :
    busProtocol.Safe index
      (fun reply later => Ledgers index
        (if (reply : SystemResult Unit).isOk then published ++ [event] else published)
          received later)
      (mqTimedsend descriptor event.encoding 0 deadline) queue :=
  safe_perform ledgers_stable hledgers (fun _ => ledgers_stable)
    fun _ hinvariant hlater _ _ hanswer => Sends.keeps hvalid hinvariant hlater hanswer

theorem mqReceive_safe (hledgers : Ledgers index published received queue)
    (descriptor : Descriptor) (size : ℕ) :
    busProtocol.Safe index (TakenBy index published received) (mqReceive descriptor size) queue :=
  safe_perform ledgers_stable hledgers (fun _ => takenBy_stable)
    fun _ hinvariant hlater _ _ hanswer => Receives.keeps hinvariant hlater hanswer

theorem mqTimedreceive_safe (hledgers : Ledgers index published received queue)
    (descriptor : Descriptor) (size : ℕ) (deadline : Timespec) :
    busProtocol.Safe index (TakenBy index published received)
      (mqTimedreceive descriptor size deadline) queue :=
  safe_perform ledgers_stable hledgers (fun _ => takenBy_stable)
    fun _ hinvariant hlater _ _ hanswer => Receives.keeps hinvariant hlater hanswer

theorem clockGettime_safe (hledgers : Ledgers index published received queue) :
    busProtocol.Safe index (fun _ later => Ledgers index published received later)
      clockGettime queue := by
  refine safe_perform ledgers_stable hledgers (fun _ => ledgers_stable) ?_
  intro later hinvariant hlater reply after hanswer
  have hsame : after = later := hanswer
  subst hsame
  exact ⟨same_guarantees hinvariant, hlater⟩

theorem loadDeadline_safe (hledgers : Ledgers index published received queue) (timeout : ℤ) :
    busProtocol.Safe index (fun _ later => Ledgers index published received later)
      (loadDeadline timeout) queue := by
  have hdone : ∀ {loaded : Except ErrorText Timespec} {state},
      Ledgers index published received state → busProtocol.Safe index
        (fun _ later => Ledgers index published received later) (.done loaded) state :=
    fun hstate => safe_done ledgers_stable hstate fun _ => id
  unfold loadDeadline
  by_cases hnegative : timeout < 0
  · rw [if_pos hnegative]
    exact hdone hledgers
  · rw [if_neg hnegative]
    refine (clockGettime_safe hledgers).bind fun reply later hlater => ?_
    cases reply with
    | error errno => exact hdone hlater
    | ok now => exact hdone hlater

theorem sendMessage_safe (hvalid : event.Valid)
    (hledgers : Ledgers index published received queue) (sender : PosixMessageQueue) :
    busProtocol.Safe index (SentBy index published received event)
      (sender.sendMessage event.encoding 0) queue := by
  unfold PosixMessageQueue.sendMessage
  cases sender.descriptor with
  | none => exact unsent_safe hledgers
  | some descriptor =>
      dsimp only
      by_cases hlong : event.encoding.length > sender.maxMessageSize
      · rw [if_pos hlong]
        exact unsent_safe hledgers
      · rw [if_neg hlong]
        refine (mqSend_safe hvalid hledgers descriptor).bind fun reply later hlater => ?_
        cases reply with
        | error errno => exact unsent_safe hlater
        | ok => exact safe_done ledgers_stable hlater fun _ => id

theorem sendMessageWithin_safe (hvalid : event.Valid)
    (hledgers : Ledgers index published received queue) (sender : PosixMessageQueue)
    (timeout : ℤ) :
    busProtocol.Safe index (SentBy index published received event)
      (sender.sendMessageWithin event.encoding 0 timeout) queue := by
  unfold PosixMessageQueue.sendMessageWithin
  cases sender.descriptor with
  | none => exact unsent_safe hledgers
  | some descriptor =>
      dsimp only
      by_cases hlong : event.encoding.length > sender.maxMessageSize
      · rw [if_pos hlong]
        exact unsent_safe hledgers
      · rw [if_neg hlong]
        refine (loadDeadline_safe hledgers timeout).bind fun loaded later hlater => ?_
        cases loaded with
        | error error => exact unsent_safe hlater
        | ok deadline =>
            refine (mqTimedsend_safe hvalid hlater descriptor deadline).bind
              fun reply last hlast => ?_
            cases reply with
            | error errno => exact unsent_safe hlast
            | ok => exact safe_done ledgers_stable hlast fun _ => id

theorem publish_safe (hledgers : Ledgers index published received queue)
    (bus : MessageQueueEventBus) :
    busProtocol.Safe index (SentBy index published received event) (bus.publish event) queue := by
  unfold MessageQueueEventBus.publish
  rcases encodeEvent_cases event with ⟨error, hrefused⟩ | ⟨hvalid, hencoded⟩
  · rw [hrefused]
    exact unsent_safe hledgers
  · rw [hencoded]
    exact sendMessage_safe hvalid hledgers bus.queue

theorem publishWithin_safe (hledgers : Ledgers index published received queue)
    (bus : MessageQueueEventBus) (timeout : ℤ) :
    busProtocol.Safe index (SentBy index published received event)
      (bus.publishWithin event timeout) queue := by
  unfold MessageQueueEventBus.publishWithin
  rcases encodeEvent_cases event with ⟨error, hrefused⟩ | ⟨hvalid, hencoded⟩
  · rw [hrefused]
    exact unsent_safe hledgers
  · rw [hencoded]
    exact sendMessageWithin_safe hvalid hledgers bus.queue timeout

theorem receiveMessage_safe (hledgers : Ledgers index published received queue)
    (receiver : PosixMessageQueue) :
    busProtocol.Safe index (TakenBy index published received) receiver.receiveMessage queue := by
  unfold PosixMessageQueue.receiveMessage
  cases receiver.descriptor with
  | none => exact safe_done ledgers_stable hledgers fun _ => id
  | some descriptor =>
      refine (mqReceive_safe hledgers descriptor receiver.maxMessageSize).bind
        fun reply later hlater => ?_
      cases reply with
      | error errno => exact safe_done ledgers_stable hlater fun _ => id
      | ok message => exact safe_done takenBy_stable hlater fun _ => id

theorem receiveMessageWithin_safe (hledgers : Ledgers index published received queue)
    (receiver : PosixMessageQueue) (timeout : ℤ) :
    busProtocol.Safe index (TakenBy index published received)
      (receiver.receiveMessageWithin timeout) queue := by
  unfold PosixMessageQueue.receiveMessageWithin
  cases receiver.descriptor with
  | none => exact safe_done ledgers_stable hledgers fun _ => id
  | some descriptor =>
      refine (loadDeadline_safe hledgers timeout).bind fun loaded later hlater => ?_
      cases loaded with
      | error error => exact safe_done ledgers_stable hlater fun _ => id
      | ok deadline =>
          refine (mqTimedreceive_safe hlater descriptor receiver.maxMessageSize deadline).bind
            fun reply last hlast => ?_
          cases reply with
          | error errno => exact safe_done ledgers_stable hlast fun _ => id
          | ok message => exact safe_done takenBy_stable hlast fun _ => id

/-- What a receive leaves in the ledgers, told from its answer. -/
def ReceivedBy (index : ℕ) (published received : List Event) (answer : ObjectAnswer Event)
    (queue : KernelQueue) : Prop :=
  Ledgers index published
    (if answer.error = none then received ++ [answer.object] else received) queue

/-- What is taken from the queue can be decoded. -/
theorem decoded_safe {previous : Event} {result : Except ErrorText ReceivedMessage} :
    TakenBy index published received result queue →
      busProtocol.Safe index (ReceivedBy index published received)
        (match result with
          | .error error => .done ⟨some error, previous⟩
          | .ok message => .done (decodeEvent message.message previous)) queue := by
  intro htaken
  cases result with
  | error error => exact safe_done ledgers_stable htaken fun _ => id
  | ok message =>
      obtain ⟨event, hvalid, hmessage, hledgers⟩ := htaken
      dsimp only
      rw [hmessage, decodeEvent_encoding hvalid]
      exact safe_done ledgers_stable hledgers fun _ => id

theorem receive_safe (hledgers : Ledgers index published received queue)
    (bus : MessageQueueEventBus) (previous : Event) :
    busProtocol.Safe index (ReceivedBy index published received) (bus.receive previous) queue :=
  (receiveMessage_safe hledgers bus.queue).bind fun _ _ htaken => decoded_safe htaken

theorem receiveWithin_safe (hledgers : Ledgers index published received queue)
    (bus : MessageQueueEventBus) (previous : Event) (timeout : ℤ) :
    busProtocol.Safe index (ReceivedBy index published received)
      (bus.receiveWithin previous timeout) queue :=
  (receiveMessageWithin_safe hledgers bus.queue timeout).bind fun _ _ htaken =>
    decoded_safe htaken

end Calls

/-! ## Runs of many buses -/

/-- The event that a call has published, and the one that it has received. -/
def BusCall.published : BusCall → ObjectAnswer Event → List Event
  | .publish event _, answer => if answer.error = none then [event] else []
  | .receive _ _, _ => []

def BusCall.received : BusCall → ObjectAnswer Event → List Event
  | .publish _ _, _ => []
  | .receive _ _, answer => if answer.error = none then [answer.object] else []

structure BusEnsures (index : ℕ) (call : BusCall) (answer : ObjectAnswer Event)
    (queue later : KernelQueue) : Prop where
  sent : transferredBy index later.sent =
    transferredBy index queue.sent ++ call.published answer
  taken : transferredBy index later.taken =
    transferredBy index queue.taken ++ call.received answer

theorem ite_append {answered : Prop} [Decidable answered] (events : List Event) (event : Event) :
    (if answered then events ++ [event] else events) =
      events ++ if answered then [event] else [] := by
  by_cases hanswered : answered <;> simp [hanswered]

theorem busCall_safe {index : ℕ} {queue : KernelQueue} (call : BusCall)
    (bus : MessageQueueEventBus) :
    busProtocol.Safe index (fun result later => BusEnsures index call result.1 queue later)
      (call.perform bus) queue := by
  have hledgers : Ledgers index (transferredBy index queue.sent)
      (transferredBy index queue.taken) queue := ⟨rfl, rfl⟩
  cases call with
  | publish event timeout =>
      have hdone : ∀ error later, SentBy index (transferredBy index queue.sent)
          (transferredBy index queue.taken) event error later → busProtocol.Safe index
            (fun result later => BusEnsures index (.publish event timeout) result.1 queue later)
            (.done ((⟨error, event⟩ : ObjectAnswer Event), bus)) later := by
        intro error later hsent
        refine safe_done ledgers_stable hsent fun last hlast => ⟨?_, ?_⟩
        · rw [hlast.sent]
          exact ite_append _ event
        · rw [hlast.taken]
          exact (List.append_nil _).symm
      cases timeout with
      | none => exact (publish_safe hledgers bus).bind hdone
      | some timeout => exact (publishWithin_safe hledgers bus timeout).bind hdone
  | receive previous timeout =>
      have hdone : ∀ answer later, ReceivedBy index (transferredBy index queue.sent)
          (transferredBy index queue.taken) answer later → busProtocol.Safe index
            (fun result later => BusEnsures index (.receive previous timeout) result.1 queue later)
            (.done (answer, bus)) later := by
        intro answer later hreceived
        refine safe_done ledgers_stable hreceived fun last hlast => ⟨?_, ?_⟩
        · rw [hlast.sent]
          exact (List.append_nil _).symm
        · rw [hlast.taken]
          exact ite_append _ answer.object
      cases timeout with
      | none => exact (receive_safe hledgers bus previous).bind hdone
      | some timeout => exact (receiveWithin_safe hledgers bus previous timeout).bind hdone

def busContract : Contract KernelQueue eventBuses where
  toProtocol := busProtocol
  idle _ _ _ := True
  ensures index call queue result later := BusEnsures index call result.1 queue later
  idle_stable := by
    intro index bus
    exact .const True
  safe := by
    intro index call bus queue _ _
    exact (busCall_safe call bus).weaken fun _ _ hensures => ⟨trivial, hensures⟩

theorem sent_records : busContract.Records (fun index queue => transferredBy index queue.sent)
    BusCall.published :=
  ⟨fun hsame => hsame.sent, fun hensures => hensures.sent⟩

theorem taken_records : busContract.Records (fun index queue => transferredBy index queue.taken)
    BusCall.received :=
  ⟨fun hsame => hsame.taken, fun hensures => hensures.taken⟩

/-- The events whose publish returned true, and those that were received, bus by bus. -/
def publishedBy (history : History BusSystem BusLabel) (index : ℕ) : List Event :=
  Contract.recordedBy BusCall.published index history

def receivedBy (history : History BusSystem BusLabel) (index : ℕ) : List Event :=
  Contract.recordedBy BusCall.received index history

/-- The events in the order of their sends, and in the order in which they are taken. -/
def KernelQueue.sentEvents (queue : KernelQueue) : List Event :=
  queue.sent.map fun transfer => eventOf transfer.message

def KernelQueue.takenEvents (queue : KernelQueue) : List Event :=
  queue.taken.map fun transfer => eventOf transfer.message

structure DeliveredInOrder (history : History BusSystem BusLabel) (system : BusSystem) :
    Prop where
  order : system.shared.takenEvents <+: system.shared.sentEvents
  published : ∀ {index}, system.active index = none →
    transferredBy index system.shared.sent = publishedBy history index
  received : ∀ {index}, system.active index = none →
    transferredBy index system.shared.taken = receivedBy history index

theorem KernelQueue.InOrder.taken_leads {queue : KernelQueue} (hinvariant : queue.InOrder) :
    queue.takenEvents <+: queue.sentEvents := by
  have hline : (queue.taken.map (·.message)) <+: queue.sent.map (·.message) :=
    hinvariant.line ▸ List.prefix_append _ _
  have hevents := hline.map eventOf
  rwa [List.map_map, List.map_map] at hevents

/-- However the calls of the buses interleave, and whatever sends and receives fail,
the events are taken in the order in which they were sent, and each bus has sent what
its publishes answered true for and taken what its receives have returned. -/
theorem events_delivered_in_order {buses : ℕ → MessageQueueEventBus}
    {maxMessages messageSize : ℕ} {history : History BusSystem BusLabel} {system : BusSystem}
    (hrun : Run (CallStep TransferCall.Answers eventBuses)
      (idleBuses buses maxMessages messageSize) history system) :
    DeliveredInOrder history system := by
  have hkept : busContract.Kept (idleBuses buses maxMessages messageSize) :=
    ⟨⟨rfl, nofun⟩, fun _ => trivial, nofun⟩
  have hsent := Contract.recorded_of_run sent_records hkept (fun _ => rfl) hrun
  have htaken := Contract.recorded_of_run taken_records hkept (fun _ => rfl) hrun
  exact ⟨hsent.kept.invariant.taken_leads, fun hidle => hsent.idle hidle,
    fun hidle => htaken.idle hidle⟩

/-- Topic `"t"`, and a payload that begins with the separator. -/
def tickEvent : Event := ⟨[116], [10, 112]⟩

def tickBus : MessageQueueEventBus := ⟨⟨some 3, [47, 113], 16, false⟩⟩

/-- Bus 0 publishes while bus 1 waits to receive. -/
theorem tick_delivered :
    ∃ history system, Run (CallStep TransferCall.Answers eventBuses)
        (idleBuses (fun _ => tickBus) 4 16) history system ∧
      receivedBy history 1 = [tickEvent] ∧ DeliveredInOrder history system := by
  have hrun : Run (CallStep TransferCall.Answers eventBuses)
      (idleBuses (fun _ => tickBus) 4 16) [] _ := .start
  have hrun := hrun.andThen (.begins 1 (BusCall.receive ⟨[], []⟩ none)) (.begins rfl)
  have hrun := hrun.andThen (.begins 0 (BusCall.publish tickEvent none)) (.begins rfl)
  have hrun := hrun.andThen (.asks 0 (TransferCall.mqSend 3 tickEvent.encoding 0) (.ok ()))
    (.asks rfl ⟨by decide, by decide, rfl⟩)
  have hrun := hrun.andThen
    (.asks 1 (TransferCall.mqReceive 3 16) (.ok ⟨tickEvent.encoding, 0⟩))
    (.asks rfl ⟨by decide, [], rfl, rfl⟩)
  have hrun := hrun.andThen
    (.returns 1 (BusCall.receive ⟨[], []⟩ none) (⟨none, tickEvent⟩ : ObjectAnswer Event))
    (.returns rfl)
  have hrun := hrun.andThen
    (.returns 0 (BusCall.publish tickEvent none) (⟨none, tickEvent⟩ : ObjectAnswer Event))
    (.returns rfl)
  exact ⟨_, _, hrun, rfl, events_delivered_in_order hrun⟩

end ElapPlatform.Ipc
