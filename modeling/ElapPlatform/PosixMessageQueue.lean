import ElapPlatform.SharedMemoryRegion

/-!
# POSIX message queues

`create`, `open`, `close` and `unlink` of `PosixMessageQueue`.  Unlike a region,
a queue whose attributes cannot be read stays open, and `create` keeps owning it.
-/

namespace ElapPlatform.Ipc

open Interaction Interaction.Program

inductive MessageQueueCall where
  /-- `mq_open` with `O_CREAT | O_EXCL | O_RDWR` -/
  | mqCreate (name : Bytes) (maxMessages maxMessageSize : ℤ)
  /-- `mq_open` with `O_RDWR` -/
  | mqOpen (name : Bytes)
  | mqGetattr (descriptor : Descriptor)
  | mqClose (descriptor : Descriptor)
  | mqUnlink (name : Bytes)
  deriving DecidableEq, Repr

def MessageQueueCall.Reply : MessageQueueCall → Type
  | .mqCreate _ _ _ => SystemResult Descriptor
  | .mqOpen _ => SystemResult Descriptor
  | .mqGetattr _ => SystemResult ℤ
  | .mqClose _ => SystemResult Unit
  | .mqUnlink _ => SystemResult Unit

abbrev QueueProgram (α : Type) := Program MessageQueueCall MessageQueueCall.Reply α

section Calls

def mqCreate (name : Bytes) (maxMessages maxMessageSize : ℤ) :
    QueueProgram (SystemResult Descriptor) :=
  .ask (MessageQueueCall.mqCreate name maxMessages maxMessageSize) .done

def mqOpen (name : Bytes) : QueueProgram (SystemResult Descriptor) :=
  .ask (MessageQueueCall.mqOpen name) .done

/-- The `mq_msgsize` of the queue. -/
def mqGetattr (descriptor : Descriptor) : QueueProgram (SystemResult ℤ) :=
  .ask (MessageQueueCall.mqGetattr descriptor) .done

def mqClose (descriptor : Descriptor) : QueueProgram (SystemResult Unit) :=
  .ask (MessageQueueCall.mqClose descriptor) .done

def mqUnlink (name : Bytes) : QueueProgram (SystemResult Unit) :=
  .ask (MessageQueueCall.mqUnlink name) .done

end Calls

structure PosixMessageQueue where
  descriptor : Option Descriptor
  name : Bytes
  maxMessageSize : ℕ
  owner : Bool
  deriving DecidableEq, Repr

def validQueueName (name : Bytes) : Option ErrorText :=
  if name.head? ≠ some slash then
    some (.message "message queue name must start with /")
  else if slash ∈ name.tail then
    some (.message "message queue name must not contain additional / characters")
  else none

/-- `static_cast<std::size_t>` of a `long` -/
def sizeOfLong (value : ℤ) : ℕ := (value % 2 ^ 64).toNat

def loadAttributes (descriptor : Descriptor) : QueueProgram (Except ErrorText ℕ) := do
  match ← mqGetattr descriptor with
  | .error errno => return .error (systemError "mq_getattr" errno)
  | .ok size => return .ok (sizeOfLong size)

namespace PosixMessageQueue

def closed : PosixMessageQueue := ⟨none, [], 0, false⟩

def closeDescriptor (queue : PosixMessageQueue) : QueueProgram Unit := do
  match queue.descriptor with
  | some descriptor =>
      let _ ← mqClose descriptor
      return ()
  | none => return ()

def unlinkOwned (queue : PosixMessageQueue) : QueueProgram Unit := do
  if queue.owner && !queue.name.isEmpty then
    let _ ← mqUnlink queue.name
    return ()
  else return ()

def close (queue : PosixMessageQueue) : QueueProgram PosixMessageQueue := do
  queue.closeDescriptor
  queue.unlinkOwned
  return closed

/-- The end of `create` and of `open`. -/
def withAttributes (queue : PosixMessageQueue) (descriptor : Descriptor) :
    QueueProgram (ObjectAnswer PosixMessageQueue) := do
  match ← loadAttributes descriptor with
  | .error error => return ⟨some error, queue⟩
  | .ok maxMessageSize => return ⟨none, { queue with maxMessageSize := maxMessageSize }⟩

def create (queue : PosixMessageQueue) (name : Bytes) (maxMessages maxMessageSize : ℤ) :
    QueueProgram (ObjectAnswer PosixMessageQueue) := do
  let queue ← queue.close
  match validQueueName name with
  | some error => return ⟨some error, queue⟩
  | none =>
    if maxMessages ≤ 0 ∨ maxMessageSize ≤ 0 then
      return ⟨some (.message "message queue sizes must be positive"), queue⟩
    match ← mqCreate name maxMessages maxMessageSize with
    | .error errno => return ⟨some (systemError "mq_open" errno), queue⟩
    | .ok descriptor =>
      withAttributes ⟨some descriptor, name, queue.maxMessageSize, true⟩ descriptor

def «open» (queue : PosixMessageQueue) (name : Bytes) :
    QueueProgram (ObjectAnswer PosixMessageQueue) := do
  let queue ← queue.close
  match validQueueName name with
  | some error => return ⟨some error, queue⟩
  | none =>
    match ← mqOpen name with
    | .error errno => return ⟨some (systemError "mq_open" errno), queue⟩
    | .ok descriptor =>
      withAttributes ⟨some descriptor, name, queue.maxMessageSize, false⟩ descriptor

def unlink (queue : PosixMessageQueue) : QueueProgram PosixMessageQueue := do
  if !queue.name.isEmpty then
    let _ ← mqUnlink queue.name
    return { queue with owner := false }
  return { queue with owner := false }

end PosixMessageQueue

/-! ## What the calls do to the names -/

/-- A descriptor is gone after `mq_close`, whatever it returns. -/
def MessageQueueCall.Answers (table : SystemNamespace) :
    (call : MessageQueueCall) → call.Reply → SystemNamespace → Prop
  | .mqCreate name _ _, reply, next => table.Creates name reply next
  | .mqOpen name, reply, next => table.Opens name reply next
  | .mqGetattr _, _, next => next = table
  | .mqClose descriptor, _, next => next = table.detach descriptor
  | .mqUnlink name, reply, next => table.Unlinks name reply next

namespace MessageQueueCall

def action : (call : MessageQueueCall) → call.Reply → NameAction
  | .mqCreate name _ _, reply => created name reply
  | .mqUnlink name, _ => .removes name
  | .mqOpen _, _ => .keeps
  | .mqGetattr _, _ => .keeps
  | .mqClose _, _ => .keeps

theorem Answers.changes {table next : SystemNamespace} {call : MessageQueueCall}
    {reply : call.Reply} (hanswer : Answers table call reply next) :
    table.Changes (call.action reply) next := by
  cases call with
  | mqCreate name maxMessages maxMessageSize => exact SystemNamespace.Creates.changes hanswer
  | mqOpen name => exact SystemNamespace.Opens.names_eq hanswer
  | mqUnlink name => exact SystemNamespace.Unlinks.changes hanswer
  | mqGetattr descriptor => exact congrArg SystemNamespace.names hanswer
  | mqClose descriptor =>
      have hdetached : next = table.detach descriptor := hanswer
      rw [hdetached]
      rfl

end MessageQueueCall

/-! ## The names that the calls remove -/

namespace PosixMessageQueue

/-- The name that `close()` removes. -/
def ownName (queue : PosixMessageQueue) : Option Bytes := ownedName queue.owner queue.name

section Generations

variable {own : Prop} {generation : Option Generation} {queue : PosixMessageQueue}

theorem closeDescriptor_keeps : KeepsGenerations MessageQueueCall.action own
    (fun _ later => later = generation) queue.closeDescriptor generation := by
  unfold closeDescriptor
  split
  · exact keepsGenerations_ask (fun _ => rfl) fun _ => rfl
  · rfl

theorem unlinkOwned_keeps (howned : queue.ownName = generation.map Generation.name) :
    KeepsGenerations MessageQueueCall.action own (fun _ later => later = none)
      queue.unlinkOwned generation := by
  unfold unlinkOwned
  unfold ownName ownedName at howned
  split
  · rename_i howner
    rw [if_pos howner] at howned
    exact keepsGenerations_remove (fun _ => rfl) (fun _ => howned.symm) fun _ => rfl
  · rename_i hnone
    rw [if_neg hnone] at howned
    exact Option.map_eq_none_iff.mp howned.symm

theorem close_keeps (howned : queue.ownName = generation.map Generation.name) :
    KeepsGenerations MessageQueueCall.action own
      (fun after later => after = .closed ∧ later = none) queue.close generation := by
  unfold close
  refine closeDescriptor_keeps.bind ?_
  rintro _ _ rfl
  refine (unlinkOwned_keeps howned).bind ?_
  rintro _ _ rfl
  exact ⟨rfl, rfl⟩

/-- The queue keeps its name when its attributes cannot be read. -/
theorem withAttributes_keeps {descriptor : Descriptor}
    (howned : queue.ownName = generation.map Generation.name) :
    KeepsGenerations MessageQueueCall.action own
      (fun answer later => answer.object.ownName = later.map Generation.name)
      (queue.withAttributes descriptor) generation := by
  unfold withAttributes loadAttributes
  refine keepsGenerations_ask (fun _ => rfl) fun reply => ?_
  cases reply with
  | error errno => exact howned
  | ok size => exact howned

theorem ne_nil_of_valid {name : Bytes} (hvalid : validQueueName name = none) : name ≠ [] := by
  rintro rfl
  cases hvalid

theorem create_keeps {name : Bytes} {maxMessages maxMessageSize : ℤ}
    (howned : queue.ownName = generation.map Generation.name) :
    KeepsGenerations MessageQueueCall.action own
      (fun answer later => answer.object.ownName = later.map Generation.name)
      (queue.create name maxMessages maxMessageSize) generation := by
  unfold create
  refine (close_keeps howned).bind ?_
  rintro _ _ ⟨rfl, rfl⟩
  cases hvalid : validQueueName name with
  | some error => rfl
  | none =>
      dsimp only
      split
      · rfl
      intro state reply
      refine ⟨fun _ => ?_, ?_⟩
      · cases reply <;> trivial
      cases reply with
      | error errno => rfl
      | ok descriptor =>
          exact withAttributes_keeps (ownedName_owner (ne_nil_of_valid hvalid))

/-- A queue that was opened owns no name. -/
theorem open_keeps {name : Bytes} (howned : queue.ownName = generation.map Generation.name) :
    KeepsGenerations MessageQueueCall.action own
      (fun answer later => answer.object.ownName = later.map Generation.name)
      (queue.open name) generation := by
  unfold PosixMessageQueue.open
  refine (close_keeps howned).bind ?_
  rintro _ _ ⟨rfl, rfl⟩
  cases validQueueName name with
  | some error => rfl
  | none =>
      refine keepsGenerations_ask (fun _ => rfl) fun opened => ?_
      cases opened with
      | error errno => rfl
      | ok descriptor => exact withAttributes_keeps rfl

/-- `unlink()` removes the name of the queue, whoever created it. -/
theorem unlink_keeps (hany : ¬ own) (howned : queue.ownName = generation.map Generation.name) :
    KeepsGenerations MessageQueueCall.action own
      (fun after later => after.ownName = later.map Generation.name)
      queue.unlink generation := by
  unfold unlink
  split
  · exact keepsGenerations_remove (fun _ => rfl) (fun hown => absurd hown hany) fun _ => rfl
  · rename_i hunnamed
    have hnone : queue.ownName = none := ownedName_unnamed hunnamed
    rw [hnone] at howned
    exact howned

end Generations

end PosixMessageQueue

end ElapPlatform.Ipc
