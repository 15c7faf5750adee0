import ElapPlatform.PosixMessageQueue

/-!
# Runs of regions and of queues

Any number of objects of one class share a namespace and call `create`, `open`,
`close` and `unlink` in any order.  The system calls of different objects, which may
be in different processes, interleave.  A destroyed object is one that was closed.
-/

namespace ElapPlatform.Ipc

open Interaction Interaction.Program RelyGuarantee Transition

/-- A class of wrapper objects, and what its calls do to names. -/
structure NamedObjectKind where
  Object : Type
  Call : Type
  Question : Type
  Reply : Question → Type
  Answers : SystemNamespace → (question : Question) → Reply question → SystemNamespace → Prop
  closed : Object
  perform : Call → Object → Program Question Reply Object
  /-- The calls of the public `unlink()`. -/
  unlinks : Call → Prop
  action : (question : Question) → Reply question → NameAction
  ownName : Object → Option Bytes
  ownName_closed : ownName closed = none
  changes : ∀ {table question reply next}, Answers table question reply next →
    table.Changes (action question reply) next
  keeps : ∀ {call object generation}, ownName object = generation.map Generation.name →
    KeepsGenerations action (¬ unlinks call)
      (fun after later => ownName after = later.map Generation.name)
      (perform call object) generation

inductive SharedMemoryRegionCall where
  | create (name : Bytes) (size : ℕ)
  | open (name : Bytes) (size : ℕ)
  | close
  | unlink
  deriving DecidableEq, Repr

namespace SharedMemoryRegionCall

def perform : SharedMemoryRegionCall → SharedMemoryRegion → RegionProgram SharedMemoryRegion
  | .create name size, region => do
      let answer ← region.create name size
      return answer.object
  | .open name size, region => do
      let answer ← region.open name size
      return answer.object
  | .close, region => region.close
  | .unlink, region => region.unlink

theorem perform_keeps {call : SharedMemoryRegionCall} {region : SharedMemoryRegion}
    {generation : Option Generation} (howned : region.ownName = generation.map Generation.name) :
    KeepsGenerations SharedMemoryCall.action (¬ call = .unlink)
      (fun after later => after.ownName = later.map Generation.name)
      (call.perform region) generation := by
  cases call with
  | create name size => exact (SharedMemoryRegion.create_keeps howned).bind fun _ _ => id
  | «open» name size => exact (SharedMemoryRegion.open_keeps howned).bind fun _ _ => id
  | close =>
      refine (SharedMemoryRegion.close_keeps howned).mono ?_
      rintro _ _ ⟨rfl, rfl⟩
      rfl
  | unlink => exact SharedMemoryRegion.unlink_keeps (fun hother => hother rfl) howned

end SharedMemoryRegionCall

def sharedMemoryRegions : NamedObjectKind where
  Object := SharedMemoryRegion
  Call := SharedMemoryRegionCall
  Question := SharedMemoryCall
  Reply := SharedMemoryCall.Reply
  Answers := SharedMemoryCall.Answers
  closed := .closed
  perform := SharedMemoryRegionCall.perform
  unlinks call := call = .unlink
  action := SharedMemoryCall.action
  ownName := SharedMemoryRegion.ownName
  ownName_closed := rfl
  changes := SharedMemoryCall.Answers.changes
  keeps := SharedMemoryRegionCall.perform_keeps

inductive PosixMessageQueueCall where
  | create (name : Bytes) (maxMessages maxMessageSize : ℤ)
  | open (name : Bytes)
  | close
  | unlink
  deriving DecidableEq, Repr

namespace PosixMessageQueueCall

def perform : PosixMessageQueueCall → PosixMessageQueue → QueueProgram PosixMessageQueue
  | .create name maxMessages maxMessageSize, queue => do
      let answer ← queue.create name maxMessages maxMessageSize
      return answer.object
  | .open name, queue => do
      let answer ← queue.open name
      return answer.object
  | .close, queue => queue.close
  | .unlink, queue => queue.unlink

theorem perform_keeps {call : PosixMessageQueueCall} {queue : PosixMessageQueue}
    {generation : Option Generation} (howned : queue.ownName = generation.map Generation.name) :
    KeepsGenerations MessageQueueCall.action (¬ call = .unlink)
      (fun after later => after.ownName = later.map Generation.name)
      (call.perform queue) generation := by
  cases call with
  | create name maxMessages maxMessageSize =>
      exact (PosixMessageQueue.create_keeps howned).bind fun _ _ => id
  | «open» name => exact (PosixMessageQueue.open_keeps howned).bind fun _ _ => id
  | close =>
      refine (PosixMessageQueue.close_keeps howned).mono ?_
      rintro _ _ ⟨rfl, rfl⟩
      rfl
  | unlink => exact PosixMessageQueue.unlink_keeps (fun hother => hother rfl) howned

end PosixMessageQueueCall

def posixMessageQueues : NamedObjectKind where
  Object := PosixMessageQueue
  Call := PosixMessageQueueCall
  Question := MessageQueueCall
  Reply := MessageQueueCall.Reply
  Answers := MessageQueueCall.Answers
  closed := .closed
  perform := PosixMessageQueueCall.perform
  unlinks call := call = .unlink
  action := MessageQueueCall.action
  ownName := PosixMessageQueue.ownName
  ownName_closed := rfl
  changes := MessageQueueCall.Answers.changes
  keeps := PosixMessageQueueCall.perform_keeps

/-! ## Runs of one class -/

section Names

variable (kind : NamedObjectKind)

def NamedObjectKind.calls : CallClass kind.Question kind.Reply where
  Object := kind.Object
  Call := kind.Call
  Value := Unit
  perform call object := do
    let after ← kind.perform call object
    return ((), after)

abbrev ObjectSystem := CallSystem OwnedNamespace kind.calls

abbrev ObjectLabel := CallLabel kind.calls

abbrev ObjectHistory := History (ObjectSystem kind) (ObjectLabel kind)

def initialObjectSystem : ObjectSystem kind :=
  ⟨emptyOwnedNamespace, fun _ => kind.closed, fun _ => none⟩

/-- The system call that one object makes. -/
def NamedObjectKind.answers (index : ℕ) (owned : OwnedNamespace) (question : kind.Question)
    (reply : kind.Reply question) (next : OwnedNamespace) : Prop :=
  kind.Answers owned.table question reply next.table ∧
    next = owned.after index (kind.action question reply) next.table

abbrev ObjectStep : ObjectSystem kind → ObjectLabel kind → ObjectSystem kind → Prop :=
  CallStep kind.answers kind.calls

variable {kind}

/-- No exclusive creation succeeds for a name that is still another object's. -/
def UnclaimedCreate (system : ObjectSystem kind) : ObjectLabel kind → Prop
  | .asks index question reply => system.shared.Unclaimed index (kind.action question reply)
  | .begins _ _ => True
  | .returns _ _ _ => True

def UnclaimedCreates (history : ObjectHistory kind) : Prop :=
  ∀ entry ∈ history, UnclaimedCreate entry.1 entry.2

variable (kind) in
def NamedObjectKind.discipline :
    Discipline OwnedNamespace (Option Generation) kind.calls where
  answers := kind.answers
  account := OwnedNamespace.generations
  enter owned generation question reply :=
    Generation.after owned.table generation (kind.action question reply)
  allows call generation question reply :=
    ¬ kind.unlinks call → (kind.action question reply).Own generation
  between object generation := kind.ownName object = generation.map Generation.name
  entered hanswer := congrArg OwnedNamespace.generations hanswer.2
  follows howned := (kind.keeps howned).bind fun _ _ => id

/-- Every name that is an object's refers to its generation, and every object and every
call in progress knows which name that is. -/
structure GenerationsKept (system : ObjectSystem kind) : Prop where
  sound : system.shared.Sound
  kept : kind.discipline.Kept system

variable {system next : ObjectSystem kind} {label : ObjectLabel kind}

theorem initialObjectSystem_kept : GenerationsKept (initialObjectSystem kind) where
  sound := OwnedNamespace.empty_sound
  kept := ⟨fun _ => kind.ownName_closed, nofun⟩

theorem GenerationsKept.step (hkept : GenerationsKept system)
    (hunclaimed : UnclaimedCreate system label) (hstep : ObjectStep kind system label next) :
    GenerationsKept next := by
  refine ⟨?_, hkept.kept.step hstep⟩
  cases hstep with
  | begins hidle => exact hkept.sound
  | returns hactive => exact hkept.sound
  | asks hactive hanswer =>
      obtain ⟨hanswer, hafter⟩ := hanswer
      dsimp only
      rw [hafter]
      exact hkept.sound.step hunclaimed (kind.changes hanswer)

theorem run_generationsKept {history : ObjectHistory kind}
    (hrun : Run (ObjectStep kind) (initialObjectSystem kind) history system)
    (hunclaimed : UnclaimedCreates history) : GenerationsKept system := by
  induction hrun with
  | start => exact initialObjectSystem_kept
  | snoc hrun hstep ih =>
      have hearlier := ih fun entry hmem => hunclaimed entry (List.mem_append_left _ hmem)
      exact hearlier.step
        (hunclaimed _ (List.mem_append_right _ (List.mem_singleton_self _))) hstep

end Names

end ElapPlatform.Ipc
