import ElapPlatform.PosixMessageQueueTransfer
import ElapPlatform.PriorityLanes

/-!
# Messages are delivered by priority

Any number of `PosixMessageQueue` objects send to one queue and receive from it, and their
calls interleave.  A journal has what the kernel has put into the queue and given out, and
for whom.
-/

namespace ElapPlatform.Ipc

open Interaction Interaction.Program PriorityLanes RelyGuarantee RelyGuarantee.Protocol Transition

/-! ## Calls with the variables of the caller -/

/-- The variables of the caller after a receive: the message is cleared at once, and the
priority is written only with a message. -/
def filledIn (previous : ReceivedMessage) :
    Except ErrorText ReceivedMessage → ObjectAnswer ReceivedMessage
  | .error error => ⟨some error, ⟨[], previous.priority⟩⟩
  | .ok received => ⟨none, received⟩

/-- A call with a timeout has one. -/
inductive QueueCall where
  | send (message : ReceivedMessage) (timeout : Option ℤ)
  | receive (previous : ReceivedMessage) (timeout : Option ℤ)
  deriving DecidableEq, Repr

/-- The message of a send is `const`, and comes back as it went in. -/
def QueueCall.perform : QueueCall → PosixMessageQueue →
    TransferProgram (ObjectAnswer ReceivedMessage × PosixMessageQueue)
  | .send message none, queue => do
      let error ← queue.sendMessage message.message message.priority
      return (⟨error, message⟩, queue)
  | .send message (some timeout), queue => do
      let error ← queue.sendMessageWithin message.message message.priority timeout
      return (⟨error, message⟩, queue)
  | .receive previous none, queue => do
      let result ← queue.receiveMessage
      return (filledIn previous result, queue)
  | .receive previous (some timeout), queue => do
      let result ← queue.receiveMessageWithin timeout
      return (filledIn previous result, queue)

def messageQueues : CallClass TransferCall TransferCall.Reply :=
  ⟨PosixMessageQueue, QueueCall, ObjectAnswer ReceivedMessage, QueueCall.perform⟩

/-- What a call that has returned has put into the queue or taken from it. -/
def QueueCall.moves : QueueCall → ObjectAnswer ReceivedMessage → List (Move ReceivedMessage)
  | .send message _, answer => if answer.error = none then [.arrives message] else []
  | .receive _ _, answer => if answer.error = none then [.leaves answer.object] else []

/-! ## The journal of the kernel -/

structure QueueEntry where
  caller : ℕ
  move : Move ReceivedMessage
  deriving DecidableEq, Repr

structure JournaledQueue where
  kernel : KernelQueue
  journal : List QueueEntry
  deriving DecidableEq, Repr

def sentMoves (message : Bytes) (priority : ℕ) : SystemResult Unit → List (Move ReceivedMessage)
  | .ok () => [.arrives ⟨message, priority⟩]
  | .error _ => []

def takenMoves : SystemResult ReceivedMessage → List (Move ReceivedMessage)
  | .ok received => [.leaves received]
  | .error _ => []

def TransferCall.moves : (call : TransferCall) → call.Reply → List (Move ReceivedMessage)
  | .clockGettime, _ => []
  | .mqSend _ message priority, reply => sentMoves message priority reply
  | .mqTimedsend _ message priority _, reply => sentMoves message priority reply
  | .mqReceive _ _, reply => takenMoves reply
  | .mqTimedreceive _ _ _, reply => takenMoves reply

def JournaledQueue.Answers (caller : ℕ) (queue : JournaledQueue) (call : TransferCall)
    (reply : call.Reply) (next : JournaledQueue) : Prop :=
  TransferCall.Answers caller queue.kernel call reply next.kernel ∧
    next.journal = queue.journal ++ (call.moves reply).map fun move => ⟨caller, move⟩

namespace JournaledQueue

def moves (queue : JournaledQueue) : List (Move ReceivedMessage) :=
  queue.journal.map QueueEntry.move

def movesOf (index : ℕ) (queue : JournaledQueue) : List (Move ReceivedMessage) :=
  (queue.journal.filter fun entry => entry.caller = index).map QueueEntry.move

/-- What waits by the journal is what the kernel has, and no more than it may have. -/
structure ByPriority (maxMessages messageSize : ℕ) (queue : JournaledQueue) : Prop where
  line : ∃ waiting, Waiting ReceivedMessage.priority queue.moves waiting ∧
    Sorts ReceivedMessage.priority queue.kernel.messages waiting
  limits : queue.kernel.maxMessages = maxMessages ∧ queue.kernel.messageSize = messageSize
  count : queue.kernel.messages.length ≤ maxMessages
  sizes : ∀ received ∈ queue.kernel.messages, received.message.length ≤ messageSize

end JournaledQueue

abbrev QueueSystem := CallSystem JournaledQueue messageQueues

abbrev QueueLabel := CallLabel messageQueues

/-- The queue is empty, and every object has it open or has no queue at all. -/
def idleQueues (queues : ℕ → PosixMessageQueue) (maxMessages messageSize : ℕ) : QueueSystem :=
  ⟨⟨⟨[], maxMessages, messageSize, [], []⟩, []⟩, queues, fun _ => none⟩

def queueProtocol (maxMessages messageSize : ℕ) :
    Protocol JournaledQueue TransferCall TransferCall.Reply where
  answers := JournaledQueue.Answers
  invariant := JournaledQueue.ByPriority maxMessages messageSize
  rely index queue next := next.movesOf index = queue.movesOf index

/-! ## One answer of the kernel -/

section Steps

variable {index maxMessages messageSize : ℕ} {queue next : JournaledQueue}

theorem movesOf_journaled {entries : List (Move ReceivedMessage)}
    (hjournal : next.journal = queue.journal ++ entries.map fun move => ⟨index, move⟩) :
    next.moves = queue.moves ++ entries ∧
      next.movesOf index = queue.movesOf index ++ entries ∧
        ∀ other ≠ index, next.movesOf other = queue.movesOf other := by
  refine ⟨?_, ?_, fun other hother => ?_⟩
  · simp [JournaledQueue.moves, hjournal, Function.comp_def]
  · simp [JournaledQueue.movesOf, hjournal, List.filter_map, Function.comp_def]
  · simp [JournaledQueue.movesOf, hjournal, List.filter_map, Function.comp_def, hother.symm]

theorem JournaledQueue.ByPriority.unmoved (hqueue : queue.ByPriority maxMessages messageSize)
    (hkernel : next.kernel = queue.kernel) (hmoves : next.moves = queue.moves) :
    next.ByPriority maxMessages messageSize := by
  obtain ⟨⟨waiting, hwaiting, hsorts⟩, hlimits, hcount, hsizes⟩ := hqueue
  rw [← hkernel] at hsorts hlimits hcount hsizes
  rw [← hmoves] at hwaiting
  exact ⟨⟨waiting, hwaiting, hsorts⟩, hlimits, hcount, hsizes⟩

theorem Sends.byPriority {message : Bytes} {priority : ℕ} {reply : SystemResult Unit}
    (hqueue : queue.ByPriority maxMessages messageSize)
    (hsends : queue.kernel.Sends index message priority reply next.kernel)
    (hmoves : next.moves = queue.moves ++ sentMoves message priority reply) :
    next.ByPriority maxMessages messageSize := by
  cases reply with
  | error errno => exact hqueue.unmoved hsends (hmoves.trans (List.append_nil _))
  | ok =>
      obtain ⟨⟨waiting, hwaiting, hsorts⟩, ⟨rfl, rfl⟩, hcount, hsizes⟩ := hqueue
      obtain ⟨hsize, hroom, hkernel⟩ := hsends
      have hline : next.kernel.messages = insert ReceivedMessage.priority ⟨message, priority⟩
          queue.kernel.messages := by
        rw [hkernel]
        rfl
      have hperm : next.kernel.messages.Perm (⟨message, priority⟩ :: queue.kernel.messages) := by
        rw [hline]
        exact insert_perm _
      refine ⟨⟨waiting ++ [⟨message, priority⟩], ?_, ?_⟩, by simp [hkernel], ?_, ?_⟩
      · rw [hmoves]
        exact .arrives _ hwaiting
      · rw [hline]
        exact hsorts.insert _
      · rw [hperm.length_eq]
        exact hroom
      · intro received hreceived
        rcases List.mem_cons.mp (hperm.mem_iff.mp hreceived) with rfl | hearlier
        · exact hsize
        · exact hsizes received hearlier

theorem Receives.byPriority {size : ℕ} {reply : SystemResult ReceivedMessage}
    (hqueue : queue.ByPriority maxMessages messageSize)
    (hreceives : queue.kernel.Receives index size reply next.kernel)
    (hmoves : next.moves = queue.moves ++ takenMoves reply) :
    next.ByPriority maxMessages messageSize := by
  cases reply with
  | error errno => exact hqueue.unmoved hreceives (hmoves.trans (List.append_nil _))
  | ok received =>
      obtain ⟨⟨waiting, hwaiting, hsorts⟩, ⟨rfl, rfl⟩, hcount, hsizes⟩ := hqueue
      obtain ⟨-, line, hline, hkernel⟩ := hreceives
      rw [hline] at hsorts hcount hsizes
      obtain ⟨rest, hnext, hrest⟩ := hsorts.next
      refine ⟨⟨rest, ?_, ?_⟩, by simp [hkernel], ?_, ?_⟩
      · rw [hmoves]
        exact .leaves hwaiting hnext
      · rw [hkernel]
        exact hrest
      · rw [hkernel]
        exact (Nat.le_succ _).trans hcount
      · rw [hkernel]
        exact fun message hmessage => hsizes message (List.mem_cons_of_mem _ hmessage)

/-- The queue stays in order, and only the caller's own entries are new. -/
theorem JournaledQueue.Answers.kept {call : TransferCall} {reply : call.Reply}
    (hqueue : queue.ByPriority maxMessages messageSize)
    (hanswer : JournaledQueue.Answers index queue call reply next) :
    (queueProtocol maxMessages messageSize).Guarantees index queue next ∧
      next.movesOf index = queue.movesOf index ++ call.moves reply := by
  obtain ⟨hkernel, hjournal⟩ := hanswer
  obtain ⟨hmoves, hown, hothers⟩ := movesOf_journaled hjournal
  refine ⟨⟨?_, hothers⟩, hown⟩
  cases call with
  | clockGettime => exact hqueue.unmoved hkernel (hmoves.trans (List.append_nil _))
  | mqSend descriptor message priority => exact Sends.byPriority hqueue hkernel hmoves
  | mqTimedsend descriptor message priority deadline =>
      exact Sends.byPriority hqueue hkernel hmoves
  | mqReceive descriptor size => exact Receives.byPriority hqueue hkernel hmoves
  | mqTimedreceive descriptor size deadline => exact Receives.byPriority hqueue hkernel hmoves

theorem journaled_answer {call : TransferCall} {reply : call.Reply} {kernel : KernelQueue}
    (hanswer : TransferCall.Answers index queue.kernel call reply kernel) :
    JournaledQueue.Answers index queue call reply
      ⟨kernel, queue.journal ++ (call.moves reply).map fun move => ⟨index, move⟩⟩ :=
  ⟨hanswer, rfl⟩

end Steps

/-! ## Safe calls -/

section Calls

variable {index maxMessages messageSize : ℕ} {queue : JournaledQueue}
  {moves : List (Move ReceivedMessage)}

/-- These are the entries of this caller. -/
def Journaled (index : ℕ) (moves : List (Move ReceivedMessage)) (queue : JournaledQueue) : Prop :=
  queue.movesOf index = moves

theorem journaled_stable :
    (queueProtocol maxMessages messageSize).Stable index (Journaled index moves) :=
  fun _ _ _ hjournaled hsame => hsame.trans hjournaled

theorem asked_safe (hjournaled : Journaled index moves queue) (call : TransferCall) :
    (queueProtocol maxMessages messageSize).Safe index
      (fun (reply : call.Reply) later => Journaled index (moves ++ call.moves reply) later)
      (.ask call .done) queue := by
  refine safe_perform journaled_stable hjournaled (fun _ => journaled_stable) ?_
  intro later hinvariant hlater reply after hanswer
  obtain ⟨hguarantees, hown⟩ := JournaledQueue.Answers.kept hinvariant hanswer
  exact ⟨hguarantees, hown.trans (congrArg (· ++ call.moves reply) hlater)⟩

theorem loadDeadline_journaled (hjournaled : Journaled index moves queue) (timeout : ℤ) :
    (queueProtocol maxMessages messageSize).Safe index (fun _ later => Journaled index moves later)
      (loadDeadline timeout) queue := by
  have hdone : ∀ {loaded : Except ErrorText Timespec} {state}, Journaled index moves state →
      (queueProtocol maxMessages messageSize).Safe index
        (fun _ later => Journaled index moves later) (.done loaded) state :=
    fun hstate => safe_done journaled_stable hstate fun _ => id
  unfold loadDeadline
  by_cases hnegative : timeout < 0
  · rw [if_pos hnegative]
    exact hdone hjournaled
  · rw [if_neg hnegative]
    refine (asked_safe hjournaled .clockGettime).bind fun reply later hlater => ?_
    have hstill : Journaled index moves later := hlater.trans (List.append_nil _)
    cases reply with
    | error errno => exact hdone hstill
    | ok now => exact hdone hstill

/-- What a send that has returned this has put into the queue. -/
def SentAs (index : ℕ) (moves : List (Move ReceivedMessage)) (message : ReceivedMessage)
    (error : Option ErrorText) (queue : JournaledQueue) : Prop :=
  Journaled index (moves ++ if error = none then [.arrives message] else []) queue

theorem unsent_journaled {message : ReceivedMessage} {error : ErrorText}
    (hjournaled : Journaled index moves queue) :
    (queueProtocol maxMessages messageSize).Safe index (SentAs index moves message)
      (.done (some error)) queue :=
  safe_done journaled_stable (hjournaled.trans (List.append_nil moves).symm) fun _ => id

theorem sendMessage_journaled (hjournaled : Journaled index moves queue)
    (sender : PosixMessageQueue) (message : ReceivedMessage) :
    (queueProtocol maxMessages messageSize).Safe index (SentAs index moves message)
      (sender.sendMessage message.message message.priority) queue := by
  unfold PosixMessageQueue.sendMessage
  cases sender.descriptor with
  | none => exact unsent_journaled hjournaled
  | some descriptor =>
      dsimp only
      by_cases hlong : message.message.length > sender.maxMessageSize
      · rw [if_pos hlong]
        exact unsent_journaled hjournaled
      · rw [if_neg hlong]
        refine (asked_safe hjournaled (.mqSend descriptor message.message message.priority)).bind
          fun reply later hlater => ?_
        cases reply with
        | error errno => exact unsent_journaled (hlater.trans (List.append_nil _))
        | ok => exact safe_done journaled_stable hlater fun _ => id

theorem sendMessageWithin_journaled (hjournaled : Journaled index moves queue)
    (sender : PosixMessageQueue) (message : ReceivedMessage) (timeout : ℤ) :
    (queueProtocol maxMessages messageSize).Safe index (SentAs index moves message)
      (sender.sendMessageWithin message.message message.priority timeout) queue := by
  unfold PosixMessageQueue.sendMessageWithin
  cases sender.descriptor with
  | none => exact unsent_journaled hjournaled
  | some descriptor =>
      dsimp only
      by_cases hlong : message.message.length > sender.maxMessageSize
      · rw [if_pos hlong]
        exact unsent_journaled hjournaled
      · rw [if_neg hlong]
        refine (loadDeadline_journaled hjournaled timeout).bind fun loaded later hlater => ?_
        cases loaded with
        | error error => exact unsent_journaled hlater
        | ok deadline =>
            refine (asked_safe hlater
              (.mqTimedsend descriptor message.message message.priority deadline)).bind
                fun reply last hlast => ?_
            cases reply with
            | error errno => exact unsent_journaled (hlast.trans (List.append_nil _))
            | ok => exact safe_done journaled_stable hlast fun _ => id

/-- What a receive that has returned this has taken from the queue. -/
def TakenAs (index : ℕ) (moves : List (Move ReceivedMessage))
    (result : Except ErrorText ReceivedMessage) (queue : JournaledQueue) : Prop :=
  Journaled index (moves ++ result.toOption.toList.map Move.leaves) queue

theorem untaken_journaled {error : ErrorText} (hjournaled : Journaled index moves queue) :
    (queueProtocol maxMessages messageSize).Safe index (TakenAs index moves)
      (.done (.error error)) queue :=
  safe_done journaled_stable (hjournaled.trans (List.append_nil moves).symm) fun _ => id

theorem receiveMessage_journaled (hjournaled : Journaled index moves queue)
    (receiver : PosixMessageQueue) :
    (queueProtocol maxMessages messageSize).Safe index (TakenAs index moves)
      receiver.receiveMessage queue := by
  unfold PosixMessageQueue.receiveMessage
  cases receiver.descriptor with
  | none => exact untaken_journaled hjournaled
  | some descriptor =>
      refine (asked_safe hjournaled (.mqReceive descriptor receiver.maxMessageSize)).bind
        fun reply later hlater => ?_
      cases reply with
      | error errno => exact untaken_journaled (hlater.trans (List.append_nil _))
      | ok received => exact safe_done journaled_stable hlater fun _ => id

theorem receiveMessageWithin_journaled (hjournaled : Journaled index moves queue)
    (receiver : PosixMessageQueue) (timeout : ℤ) :
    (queueProtocol maxMessages messageSize).Safe index (TakenAs index moves)
      (receiver.receiveMessageWithin timeout) queue := by
  unfold PosixMessageQueue.receiveMessageWithin
  cases receiver.descriptor with
  | none => exact untaken_journaled hjournaled
  | some descriptor =>
      refine (loadDeadline_journaled hjournaled timeout).bind fun loaded later hlater => ?_
      cases loaded with
      | error error => exact untaken_journaled hlater
      | ok deadline =>
          refine (asked_safe hlater
            (.mqTimedreceive descriptor receiver.maxMessageSize deadline)).bind
              fun reply last hlast => ?_
          cases reply with
          | error errno => exact untaken_journaled (hlast.trans (List.append_nil _))
          | ok received => exact safe_done journaled_stable hlast fun _ => id

theorem moves_filledIn (previous : ReceivedMessage) (timeout : Option ℤ)
    (result : Except ErrorText ReceivedMessage) :
    (QueueCall.receive previous timeout).moves (filledIn previous result) =
      result.toOption.toList.map Move.leaves := by
  cases result <;> rfl

theorem queueCall_safe (call : QueueCall) (object : PosixMessageQueue) :
    (queueProtocol maxMessages messageSize).Safe index
      (fun result later => later.movesOf index = queue.movesOf index ++ call.moves result.1)
      (call.perform object) queue := by
  have hjournaled : Journaled index (queue.movesOf index) queue := rfl
  cases call with
  | send message timeout =>
      have hreturns : ∀ error later, SentAs index (queue.movesOf index) message error later →
          (queueProtocol maxMessages messageSize).Safe index
            (fun result last => last.movesOf index =
              queue.movesOf index ++ (QueueCall.send message timeout).moves result.1)
            (.done ((⟨error, message⟩ : ObjectAnswer ReceivedMessage), object)) later :=
        fun error later hsent => safe_done journaled_stable hsent fun _ => id
      cases timeout with
      | none => exact (sendMessage_journaled hjournaled object message).bind hreturns
      | some timeout =>
          exact (sendMessageWithin_journaled hjournaled object message timeout).bind hreturns
  | receive previous timeout =>
      have hreturns : ∀ result later, TakenAs index (queue.movesOf index) result later →
          (queueProtocol maxMessages messageSize).Safe index
            (fun result last => last.movesOf index =
              queue.movesOf index ++ (QueueCall.receive previous timeout).moves result.1)
            (.done (filledIn previous result, object)) later := by
        intro result later htaken
        refine safe_done journaled_stable htaken fun last hlast => ?_
        rw [moves_filledIn]
        exact hlast
      cases timeout with
      | none => exact (receiveMessage_journaled hjournaled object).bind hreturns
      | some timeout =>
          exact (receiveMessageWithin_journaled hjournaled object timeout).bind hreturns

end Calls

/-! ## Runs of many objects -/

def queueContract (maxMessages messageSize : ℕ) : Contract JournaledQueue messageQueues where
  toProtocol := queueProtocol maxMessages messageSize
  idle _ _ _ := True
  ensures index call queue result later :=
    later.movesOf index = queue.movesOf index ++ call.moves result.1
  idle_stable := by
    intro index object
    exact .const True
  safe := by
    intro index call object queue _ _
    exact (queueCall_safe call object).weaken fun _ _ hmoves => ⟨trivial, hmoves⟩

theorem moves_recorded (maxMessages messageSize : ℕ) :
    (queueContract maxMessages messageSize).Records JournaledQueue.movesOf QueueCall.moves :=
  ⟨fun hsame => hsame, fun hmoves => hmoves⟩

/-- What the calls of one object that have returned have put into the queue and taken. -/
def movedBy (history : History QueueSystem QueueLabel) (index : ℕ) :
    List (Move ReceivedMessage) :=
  Contract.recordedBy QueueCall.moves index history

/-- The queue as its users see it, in any state of a run. -/
structure DeliversByPriority (maxMessages messageSize : ℕ)
    (history : History QueueSystem QueueLabel) (system : QueueSystem) : Prop where
  order : ∃ waiting, Waiting ReceivedMessage.priority system.shared.moves waiting ∧
    waiting.Perm system.shared.kernel.messages
  lanes : ∀ urgency,
    lane ReceivedMessage.priority urgency (departures system.shared.moves) <+:
      lane ReceivedMessage.priority urgency (arrivals system.shared.moves)
  count : system.shared.kernel.messages.length ≤ maxMessages
  sizes : ∀ received ∈ system.shared.kernel.messages, received.message.length ≤ messageSize
  calls : ∀ {index}, system.active index = none →
    system.shared.movesOf index = movedBy history index

/-- However the calls interleave, and whatever sends and receives fail: every message that is
taken is the oldest of those with the highest priority that were sent and not yet taken, the
queue stays within its limits, and each object has sent what its sends have answered true for
and taken what its receives have returned. -/
theorem messages_delivered_by_priority {queues : ℕ → PosixMessageQueue}
    {maxMessages messageSize : ℕ} {history : History QueueSystem QueueLabel}
    {system : QueueSystem}
    (hrun : Run (CallStep JournaledQueue.Answers messageQueues)
      (idleQueues queues maxMessages messageSize) history system) :
    DeliversByPriority maxMessages messageSize history system := by
  have hempty : JournaledQueue.ByPriority maxMessages messageSize
      (idleQueues queues maxMessages messageSize).shared :=
    ⟨⟨[], .nil, .nil⟩, ⟨rfl, rfl⟩, Nat.zero_le _, nofun⟩
  have hkept : (queueContract maxMessages messageSize).Kept
      (idleQueues queues maxMessages messageSize) :=
    ⟨hempty, fun _ => trivial, nofun⟩
  have hrecorded := Contract.recorded_of_run (moves_recorded maxMessages messageSize) hkept
    (fun _ => rfl) hrun
  have hqueue : JournaledQueue.ByPriority maxMessages messageSize system.shared :=
    hrecorded.kept.invariant
  obtain ⟨waiting, hwaiting, hsorts⟩ := hqueue.line
  refine ⟨⟨waiting, hwaiting, hsorts.perm.symm⟩, fun urgency => ?_, hqueue.count, hqueue.sizes,
    fun hidle => hrecorded.idle hidle⟩
  rw [hwaiting.lanes urgency]
  exact List.prefix_append _ _

def openQueue : PosixMessageQueue := ⟨some 3, [47, 113], 16, false⟩

def routineMessage : ReceivedMessage := ⟨[114], 1⟩

def alarmMessage : ReceivedMessage := ⟨[97], 7⟩

/-- Object 1 begins to receive before object 0 has sent a routine message and an alarm. -/
theorem alarm_overtakes :
    ∃ history system, Run (CallStep JournaledQueue.Answers messageQueues)
        (idleQueues (fun _ => openQueue) 4 16) history system ∧
      movedBy history 0 = [.arrives routineMessage, .arrives alarmMessage] ∧
        movedBy history 1 = [.leaves alarmMessage] ∧
          system.shared.kernel.messages = [routineMessage] ∧
            DeliversByPriority 4 16 history system := by
  have hrun : Run (CallStep JournaledQueue.Answers messageQueues)
      (idleQueues (fun _ => openQueue) 4 16) [] _ := .start
  have hrun := hrun.andThen (.begins 1 (QueueCall.receive ⟨[], 0⟩ none)) (.begins rfl)
  have hrun := hrun.andThen (.begins 0 (QueueCall.send routineMessage none)) (.begins rfl)
  have hrun := hrun.andThen (.asks 0 (TransferCall.mqSend 3 [114] 1) (.ok ()))
    (.asks rfl (journaled_answer ⟨by decide, by decide, rfl⟩))
  have hrun := hrun.andThen
    (.returns 0 (QueueCall.send routineMessage none) ⟨none, routineMessage⟩) (.returns rfl)
  have hrun := hrun.andThen (.begins 0 (QueueCall.send alarmMessage none)) (.begins rfl)
  have hrun := hrun.andThen (.asks 0 (TransferCall.mqSend 3 [97] 7) (.ok ()))
    (.asks rfl (journaled_answer ⟨by decide, by decide, rfl⟩))
  have hrun := hrun.andThen (.asks 1 (TransferCall.mqReceive 3 16) (.ok alarmMessage))
    (.asks rfl (journaled_answer ⟨by decide, [routineMessage], rfl, rfl⟩))
  have hrun := hrun.andThen
    (.returns 1 (QueueCall.receive ⟨[], 0⟩ none) ⟨none, alarmMessage⟩) (.returns rfl)
  have hrun := hrun.andThen
    (.returns 0 (QueueCall.send alarmMessage none) ⟨none, alarmMessage⟩) (.returns rfl)
  exact ⟨_, _, hrun, rfl, rfl, rfl, messages_delivered_by_priority hrun⟩

end ElapPlatform.Ipc
