import ElapPlatform.PosixMessageQueue
import ElapPlatform.PriorityLanes
import ElapPlatform.RelyGuaranteeCalls

/-!
# Messages on a POSIX queue

`sendMessage` and `receiveMessage` of `PosixMessageQueue`, each with and without a
timeout, and the queue of the kernel.  Beside the messages the kernel state keeps
what has been sent and taken, and by whom.
-/

namespace ElapPlatform.Ipc

open Interaction Interaction.Program

/-! ## System calls -/

structure Timespec where
  seconds : ℤ
  nanoseconds : ℤ
  deriving DecidableEq, Repr

inductive TransferCall where
  | clockGettime
  | mqSend (descriptor : Descriptor) (message : Bytes) (priority : ℕ)
  | mqTimedsend (descriptor : Descriptor) (message : Bytes) (priority : ℕ) (deadline : Timespec)
  | mqReceive (descriptor : Descriptor) (size : ℕ)
  | mqTimedreceive (descriptor : Descriptor) (size : ℕ) (deadline : Timespec)
  deriving DecidableEq, Repr

structure ReceivedMessage where
  message : Bytes
  priority : ℕ
  deriving DecidableEq, Repr

def TransferCall.Reply : TransferCall → Type
  | .clockGettime => SystemResult Timespec
  | .mqSend _ _ _ => SystemResult Unit
  | .mqTimedsend _ _ _ _ => SystemResult Unit
  | .mqReceive _ _ => SystemResult ReceivedMessage
  | .mqTimedreceive _ _ _ => SystemResult ReceivedMessage

abbrev TransferProgram (α : Type) := Program TransferCall TransferCall.Reply α

section Calls

def clockGettime : TransferProgram (SystemResult Timespec) :=
  .ask TransferCall.clockGettime .done

def mqSend (descriptor : Descriptor) (message : Bytes) (priority : ℕ) :
    TransferProgram (SystemResult Unit) :=
  .ask (TransferCall.mqSend descriptor message priority) .done

def mqTimedsend (descriptor : Descriptor) (message : Bytes) (priority : ℕ)
    (deadline : Timespec) : TransferProgram (SystemResult Unit) :=
  .ask (TransferCall.mqTimedsend descriptor message priority deadline) .done

def mqReceive (descriptor : Descriptor) (size : ℕ) :
    TransferProgram (SystemResult ReceivedMessage) :=
  .ask (TransferCall.mqReceive descriptor size) .done

def mqTimedreceive (descriptor : Descriptor) (size : ℕ) (deadline : Timespec) :
    TransferProgram (SystemResult ReceivedMessage) :=
  .ask (TransferCall.mqTimedreceive descriptor size deadline) .done

end Calls

/-! ## `sendMessage` and `receiveMessage` -/

def nanosecondsPerSecond : ℤ := 1000 * 1000 * 1000

/-- The time `timeout` milliseconds after `now`. -/
def queueDeadline (now : Timespec) (timeout : ℤ) : Timespec :=
  let seconds := timeout / 1000
  let milliseconds := timeout - seconds * 1000
  let nanoseconds := now.nanoseconds + milliseconds * 1000 * 1000
  if nanoseconds ≥ nanosecondsPerSecond then
    ⟨now.seconds + seconds + nanoseconds / nanosecondsPerSecond,
      nanoseconds % nanosecondsPerSecond⟩
  else ⟨now.seconds + seconds, nanoseconds⟩

def loadDeadline (timeout : ℤ) : TransferProgram (Except ErrorText Timespec) := do
  if timeout < 0 then
    return .error (.message "message queue timeout must not be negative")
  match ← clockGettime with
  | .error errno => return .error (systemError "clock_gettime" errno)
  | .ok now => return .ok (queueDeadline now timeout)

namespace PosixMessageQueue

/-- `sendMessage` without a timeout. -/
def sendMessage (queue : PosixMessageQueue) (message : Bytes) (priority : ℕ) :
    TransferProgram (Option ErrorText) := do
  match queue.descriptor with
  | none => return some (.message "mq_send failed: queue is not open")
  | some descriptor =>
    if message.length > queue.maxMessageSize then
      return some (.message "mq_send failed: message exceeds maximum size")
    match ← mqSend descriptor message priority with
    | .error errno => return some (systemError "mq_send" errno)
    | .ok () => return none

def sendMessageWithin (queue : PosixMessageQueue) (message : Bytes) (priority : ℕ)
    (timeout : ℤ) : TransferProgram (Option ErrorText) := do
  match queue.descriptor with
  | none => return some (.message "mq_timedsend failed: queue is not open")
  | some descriptor =>
    if message.length > queue.maxMessageSize then
      return some (.message "mq_timedsend failed: message exceeds maximum size")
    match ← loadDeadline timeout with
    | .error error => return some error
    | .ok deadline =>
      match ← mqTimedsend descriptor message priority deadline with
      | .error errno => return some (systemError "mq_timedsend" errno)
      | .ok () => return none

/-- `receiveMessage` without a timeout. -/
def receiveMessage (queue : PosixMessageQueue) :
    TransferProgram (Except ErrorText ReceivedMessage) := do
  match queue.descriptor with
  | none => return .error (.message "mq_receive failed: queue is not open")
  | some descriptor =>
    match ← mqReceive descriptor queue.maxMessageSize with
    | .error errno => return .error (systemError "mq_receive" errno)
    | .ok received => return .ok received

def receiveMessageWithin (queue : PosixMessageQueue) (timeout : ℤ) :
    TransferProgram (Except ErrorText ReceivedMessage) := do
  match queue.descriptor with
  | none => return .error (.message "mq_timedreceive failed: queue is not open")
  | some descriptor =>
    match ← loadDeadline timeout with
    | .error error => return .error error
    | .ok deadline =>
      match ← mqTimedreceive descriptor queue.maxMessageSize deadline with
      | .error errno => return .error (systemError "mq_timedreceive" errno)
      | .ok received => return .ok received

end PosixMessageQueue

/-! ## The queue of the kernel -/

structure Transfer where
  caller : ℕ
  message : Bytes
  deriving DecidableEq, Repr

structure KernelQueue where
  messages : List ReceivedMessage
  maxMessages : ℕ
  messageSize : ℕ
  sent : List Transfer
  taken : List Transfer
  deriving DecidableEq, Repr

namespace KernelQueue

/-- Behind every message of at least its priority. -/
def enqueue (queue : KernelQueue) (received : ReceivedMessage) : List ReceivedMessage :=
  PriorityLanes.insert ReceivedMessage.priority received queue.messages

def Sends (queue : KernelQueue) (caller : ℕ) (message : Bytes) (priority : ℕ)
    (reply : SystemResult Unit) (next : KernelQueue) : Prop :=
  match reply with
  | .ok () =>
      message.length ≤ queue.messageSize ∧ queue.messages.length < queue.maxMessages ∧
        next = { queue with
          messages := queue.enqueue ⟨message, priority⟩
          sent := queue.sent ++ [⟨caller, message⟩] }
  | .error _ => next = queue

/-- A buffer smaller than `mq_msgsize` is refused. -/
def Receives (queue : KernelQueue) (caller size : ℕ) (reply : SystemResult ReceivedMessage)
    (next : KernelQueue) : Prop :=
  match reply with
  | .ok received =>
      queue.messageSize ≤ size ∧ ∃ rest, queue.messages = received :: rest ∧
        next = { queue with
          messages := rest
          taken := queue.taken ++ [⟨caller, received.message⟩] }
  | .error _ => next = queue

end KernelQueue

/-- A send or a receive may fail at any time, and then it has no effect. -/
def TransferCall.Answers (caller : ℕ) (queue : KernelQueue) :
    (call : TransferCall) → call.Reply → KernelQueue → Prop
  | .clockGettime, _, next => next = queue
  | .mqSend _ message priority, reply, next => queue.Sends caller message priority reply next
  | .mqTimedsend _ message priority _, reply, next =>
      queue.Sends caller message priority reply next
  | .mqReceive _ size, reply, next => queue.Receives caller size reply next
  | .mqTimedreceive _ size _, reply, next => queue.Receives caller size reply next

end ElapPlatform.Ipc
