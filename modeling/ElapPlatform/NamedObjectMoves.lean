import ElapPlatform.NamedObjectRuns
import ElapPlatform.ResourceLedger
import ElapPlatform.SharedMemoryTranscripts

/-!
# Moving regions and queues

The special members of both classes, with a string that was moved from taken to be
empty, and what every call of an object settles in the ledger.
-/

namespace ElapPlatform.Ipc

open Interaction Interaction.Program Transition

/-! ## The special members -/

namespace SharedMemoryRegion

def isMapped (region : SharedMemoryRegion) : Bool := region.mapping.isSome

/-- What is left of an object that was moved from. -/
def moved (other : SharedMemoryRegion) : SharedMemoryRegion :=
  { other with fd := none, name := [], mapping := none, size := 0, owner := false }

def moveConstruct (other : SharedMemoryRegion) : SharedMemoryRegion × SharedMemoryRegion :=
  (⟨other.fd, other.name, other.mapping, other.size, other.owner⟩, other.moved)

/-- `operator=` between two different objects. -/
def moveAssign (region other : SharedMemoryRegion) :
    RegionProgram (SharedMemoryRegion × SharedMemoryRegion) := do
  let region ← region.close
  return ({ region with
    fd := other.fd
    name := other.name
    mapping := other.mapping
    size := other.size
    owner := other.owner }, other.moved)

def holding (region : SharedMemoryRegion) : Holding where
  descriptor := region.fd
  mapping := region.mapping.map fun address => (address, region.size)
  name := region.name
  owner := region.owner

end SharedMemoryRegion

namespace PosixMessageQueue

def isOpen (queue : PosixMessageQueue) : Bool := queue.descriptor.isSome

def moved (other : PosixMessageQueue) : PosixMessageQueue :=
  { other with descriptor := none, name := [], maxMessageSize := 0, owner := false }

def moveConstruct (other : PosixMessageQueue) : PosixMessageQueue × PosixMessageQueue :=
  (⟨other.descriptor, other.name, other.maxMessageSize, other.owner⟩, other.moved)

def moveAssign (queue other : PosixMessageQueue) :
    QueueProgram (PosixMessageQueue × PosixMessageQueue) := do
  let queue ← queue.close
  return ({ queue with
    descriptor := other.descriptor
    name := other.name
    maxMessageSize := other.maxMessageSize
    owner := other.owner }, other.moved)

def holding (queue : PosixMessageQueue) : Holding where
  descriptor := queue.descriptor
  mapping := none
  name := queue.name
  owner := queue.owner

end PosixMessageQueue

/-! ## What the system calls settle -/

def SharedMemoryCall.Settles (ledger : ResourceLedger) :
    (call : SharedMemoryCall) → call.Reply → ResourceLedger → Prop
  | .shmCreate _, reply, next => ledger.Makes reply next
  | .shmOpen _, reply, next => ledger.Attaches reply next
  | .ftruncate _ _, _, next => next = ledger
  | .fstat _, _, next => next = ledger
  | .mmap size _, reply, next => ledger.Mmaps size reply next
  | .munmap address size, _, next => next = ledger.munmap address size
  | .close fd, _, next => next = ledger.closeDescriptor fd
  | .shmUnlink name, _, next => next = ledger.unlink name

def MessageQueueCall.Settles (ledger : ResourceLedger) :
    (call : MessageQueueCall) → call.Reply → ResourceLedger → Prop
  | .mqCreate _ _ _, reply, next => ledger.Makes reply next
  | .mqOpen _, reply, next => ledger.Attaches reply next
  | .mqGetattr _, _, next => next = ledger
  | .mqClose descriptor, _, next => next = ledger.closeDescriptor descriptor
  | .mqUnlink name, _, next => next = ledger.unlink name

/-- What a call of an object does to the ledger and to what it holds. -/
inductive HoldingCall (ledger : ResourceLedger) (holding : Holding) :
    Bool → ResourceLedger → Holding → Prop
  | reopens {next : ResourceLedger} {after : Holding}
      (hacquires : (ledger.release holding).Acquires next after) :
      HoldingCall ledger holding true next after
  | closes : HoldingCall ledger holding false (ledger.release holding) .empty
  | unlinks : HoldingCall ledger holding false (ledger.unlinkOwned holding.name true)
      { holding with owner := false }

/-! ## Regions -/

namespace SharedMemoryRegion

section Ledgers

variable {region after : SharedMemoryRegion} {ledger next : ResourceLedger}
  {acquiring : List SharedMemoryExchange} {name : Bytes} {size : ℕ}

theorem closing_settles {unmapped detached unlinked : SystemResult Unit}
    (hanswered : Answered SharedMemoryCall.Settles ledger
      (region.closing unmapped detached unlinked) next) :
    next = ledger.release region.holding := by
  obtain ⟨fd, regionName, mapping, regionSize, owner⟩ := region
  obtain ⟨second, hfirst, hunlink⟩ := answered_append_iff.mp hanswered
  obtain ⟨first, hunmap, hclose⟩ := answered_append_iff.mp hfirst
  have hmapped : first =
      ledger.releaseMapping (mapping.map fun address => (address, regionSize)) := by
    cases mapping with
    | none => exact answered_nil_iff.mp hunmap
    | some address =>
        obtain ⟨_, rfl, hdone⟩ := answered_cons_iff.mp hunmap
        exact answered_nil_iff.mp hdone
  have hclosed : second = first.releaseDescriptor fd := by
    cases fd with
    | none => exact answered_nil_iff.mp hclose
    | some fd =>
        obtain ⟨_, rfl, hdone⟩ := answered_cons_iff.mp hclose
        exact answered_nil_iff.mp hdone
  have hunlinked : next = second.unlinkOwned regionName owner := by
    unfold ResourceLedger.unlinkOwned
    dsimp only at hunlink
    split at hunlink
    · rename_i howned
      obtain ⟨_, rfl, hdone⟩ := answered_cons_iff.mp hunlink
      rw [if_pos howned]
      exact answered_nil_iff.mp hdone
    · rename_i howned
      rw [if_neg howned]
      exact answered_nil_iff.mp hunlink
  rw [hunlinked, hclosed, hmapped]
  rfl

theorem create_settles (hcreate : CreateExchanges name size acquiring after)
    (hanswered : Answered SharedMemoryCall.Settles ledger acquiring next) :
    ledger.Acquires next after.holding := by
  cases hcreate with
  | refused =>
      rw [answered_nil_iff.mp hanswered]
      exact .refused (.refl _)
  | notCreated errno =>
      obtain ⟨_, rfl, hdone⟩ := answered_cons_iff.mp hanswered
      rw [answered_nil_iff.mp hdone]
      exact .refused (.refl _)
  | notTruncated fd errno detached unlinked =>
      obtain ⟨_, hmakes, htruncate⟩ := answered_cons_iff.mp hanswered
      obtain ⟨_, rfl, hclose⟩ := answered_cons_iff.mp htruncate
      obtain ⟨_, rfl, hunlink⟩ := answered_cons_iff.mp hclose
      obtain ⟨_, rfl, hdone⟩ := answered_cons_iff.mp hunlink
      rw [answered_nil_iff.mp hdone]
      exact .refused (ResourceLedger.Makes.closed_kept hmakes).unlink
  | notMapped fd errno detached unlinked =>
      obtain ⟨_, hmakes, htruncate⟩ := answered_cons_iff.mp hanswered
      obtain ⟨_, rfl, hmap⟩ := answered_cons_iff.mp htruncate
      obtain ⟨_, rfl, hclose⟩ := answered_cons_iff.mp hmap
      obtain ⟨_, rfl, hunlink⟩ := answered_cons_iff.mp hclose
      obtain ⟨_, rfl, hdone⟩ := answered_cons_iff.mp hunlink
      rw [answered_nil_iff.mp hdone]
      exact .refused (ResourceLedger.Makes.closed_kept hmakes).unlink
  | made fd address hpositive hlarge =>
      obtain ⟨_, ⟨hfresh, rfl⟩, htruncate⟩ := answered_cons_iff.mp hanswered
      obtain ⟨_, rfl, hmap⟩ := answered_cons_iff.mp htruncate
      obtain ⟨_, ⟨hfree, rfl⟩, hdone⟩ := answered_cons_iff.mp hmap
      rw [answered_nil_iff.mp hdone]
      refine .attached rfl hfresh rfl rfl (fun mapping hmapping => ?_)
        (fun _ => ⟨rfl, Nat.lt_succ_self _⟩) (Nat.le_succ _) rfl
      cases hmapping
      exact hfree

theorem open_settles (hopen : OpenExchanges name size acquiring after)
    (hanswered : Answered SharedMemoryCall.Settles ledger acquiring next) :
    ledger.Acquires next after.holding := by
  cases hopen with
  | refused =>
      rw [answered_nil_iff.mp hanswered]
      exact .refused (.refl _)
  | notOpened errno =>
      obtain ⟨_, rfl, hdone⟩ := answered_cons_iff.mp hanswered
      rw [answered_nil_iff.mp hdone]
      exact .refused (.refl _)
  | notLoaded fd status detached =>
      obtain ⟨_, hattaches, hstat⟩ := answered_cons_iff.mp hanswered
      obtain ⟨_, rfl, hclose⟩ := answered_cons_iff.mp hstat
      obtain ⟨_, rfl, hdone⟩ := answered_cons_iff.mp hclose
      rw [answered_nil_iff.mp hdone]
      exact .refused (ResourceLedger.Attaches.closed_kept hattaches)
  | notMapped fd backing errno detached =>
      obtain ⟨_, hattaches, hstat⟩ := answered_cons_iff.mp hanswered
      obtain ⟨_, rfl, hmap⟩ := answered_cons_iff.mp hstat
      obtain ⟨_, rfl, hclose⟩ := answered_cons_iff.mp hmap
      obtain ⟨_, rfl, hdone⟩ := answered_cons_iff.mp hclose
      rw [answered_nil_iff.mp hdone]
      exact .refused (ResourceLedger.Attaches.closed_kept hattaches)
  | attached fd backing address hpositive hbacking =>
      obtain ⟨_, ⟨hfresh, object, rfl⟩, hstat⟩ := answered_cons_iff.mp hanswered
      obtain ⟨_, rfl, hmap⟩ := answered_cons_iff.mp hstat
      obtain ⟨_, ⟨hfree, rfl⟩, hdone⟩ := answered_cons_iff.mp hmap
      rw [answered_nil_iff.mp hdone]
      refine .attached rfl hfresh rfl rfl (fun mapping hmapping => ?_)
        (fun howned => nomatch howned) (Nat.le_refl _) rfl
      cases hmapping
      exact hfree

theorem close_settles (hrun : Runs SharedMemoryCall.Settles region.close ledger after next) :
    after = .closed ∧ next = ledger.release region.holding := by
  obtain ⟨exchanges, htranscript, hanswered⟩ := hrun.transcript
  obtain ⟨rfl, unmapped, detached, unlinked, rfl⟩ := close_transcript htranscript
  exact ⟨rfl, closing_settles hanswered⟩

theorem moveAssign_settles {other moved : SharedMemoryRegion}
    (hrun : Runs SharedMemoryCall.Settles (region.moveAssign other) ledger (after, moved) next) :
    after = other ∧ moved = .closed ∧ next = ledger.release region.holding := by
  unfold moveAssign at hrun
  obtain ⟨closed, middle, hclose, hdone⟩ := runs_bind_iff.mp hrun
  obtain ⟨rfl, rfl⟩ := close_settles hclose
  obtain ⟨hpair, rfl⟩ := runs_done_iff.mp hdone
  cases hpair
  exact ⟨rfl, rfl, rfl⟩

end Ledgers

end SharedMemoryRegion

namespace SharedMemoryRegionCall

def reopens : SharedMemoryRegionCall → Bool
  | .create _ _ => true
  | .open _ _ => true
  | .close => false
  | .unlink => false

theorem perform_settles {call : SharedMemoryRegionCall} {region after : SharedMemoryRegion}
    {ledger next : ResourceLedger}
    (hrun : Runs SharedMemoryCall.Settles (call.perform region) ledger after next) :
    HoldingCall ledger region.holding call.reopens next after.holding := by
  obtain ⟨exchanges, htranscript, hanswered⟩ := hrun.transcript
  cases call with
  | create name size =>
      obtain ⟨first, _, answer, rfl, hcreate, hdone⟩ := transcript_bind_iff.mp htranscript
      obtain ⟨rfl, rfl⟩ := transcript_done_iff.mp hdone
      obtain ⟨unmapped, detached, unlinked, acquiring, rfl, hexchanges⟩ :=
        SharedMemoryRegion.create_transcript hcreate
      rw [List.append_nil] at hanswered
      obtain ⟨middle, hclosing, hacquiring⟩ := answered_append_iff.mp hanswered
      rw [SharedMemoryRegion.closing_settles hclosing] at hacquiring
      exact .reopens (SharedMemoryRegion.create_settles hexchanges hacquiring)
  | «open» name size =>
      obtain ⟨first, _, answer, rfl, hopen, hdone⟩ := transcript_bind_iff.mp htranscript
      obtain ⟨rfl, rfl⟩ := transcript_done_iff.mp hdone
      obtain ⟨unmapped, detached, unlinked, acquiring, rfl, hexchanges⟩ :=
        SharedMemoryRegion.open_transcript hopen
      rw [List.append_nil] at hanswered
      obtain ⟨middle, hclosing, hacquiring⟩ := answered_append_iff.mp hanswered
      rw [SharedMemoryRegion.closing_settles hclosing] at hacquiring
      exact .reopens (SharedMemoryRegion.open_settles hexchanges hacquiring)
  | close =>
      obtain ⟨rfl, rfl⟩ := SharedMemoryRegion.close_settles hrun
      exact .closes
  | unlink =>
      obtain ⟨rfl, unlinked, rfl⟩ := SharedMemoryRegion.unlink_transcript htranscript
      have hunlinked : next = ledger.unlinkOwned region.name true := by
        rw [ResourceLedger.unlinkOwned, Bool.true_and]
        split at hanswered
        · rename_i hnamed
          obtain ⟨_, rfl, hdone⟩ := answered_cons_iff.mp hanswered
          rw [if_pos hnamed]
          exact answered_nil_iff.mp hdone
        · rename_i hnamed
          rw [if_neg hnamed]
          exact answered_nil_iff.mp hanswered
      rw [hunlinked]
      exact .unlinks

end SharedMemoryRegionCall

/-! ## Queues -/

namespace PosixMessageQueue

section Ledgers

variable {queue after : PosixMessageQueue} {ledger next : ResourceLedger} {result : Unit}

theorem closeDescriptor_settles
    (hrun : Runs MessageQueueCall.Settles queue.closeDescriptor ledger result next) :
    next = ledger.releaseDescriptor queue.descriptor := by
  unfold closeDescriptor at hrun
  split at hrun
  · rename_i descriptor hdescriptor
    obtain ⟨_, middle, hcall, hdone⟩ := runs_bind_iff.mp hrun
    obtain ⟨_, rfl⟩ := runs_done_iff.mp hdone
    rw [hdescriptor]
    exact runs_perform_iff.mp hcall
  · rename_i hdescriptor
    rw [hdescriptor]
    exact (runs_done_iff.mp hrun).2

theorem unlinkOwned_settles
    (hrun : Runs MessageQueueCall.Settles queue.unlinkOwned ledger result next) :
    next = ledger.unlinkOwned queue.name queue.owner := by
  unfold unlinkOwned at hrun
  unfold ResourceLedger.unlinkOwned
  split at hrun
  · rename_i howned
    obtain ⟨_, middle, hcall, hdone⟩ := runs_bind_iff.mp hrun
    obtain ⟨_, rfl⟩ := runs_done_iff.mp hdone
    rw [if_pos howned]
    exact runs_perform_iff.mp hcall
  · rename_i howned
    rw [if_neg howned]
    exact (runs_done_iff.mp hrun).2

theorem close_settles (hrun : Runs MessageQueueCall.Settles queue.close ledger after next) :
    after = .closed ∧ next = ledger.release queue.holding := by
  unfold close at hrun
  obtain ⟨_, first, hclose, hrest⟩ := runs_bind_iff.mp hrun
  obtain ⟨_, second, hunlink, hdone⟩ := runs_bind_iff.mp hrest
  obtain ⟨rfl, rfl⟩ := runs_done_iff.mp hdone
  rw [unlinkOwned_settles hunlink, closeDescriptor_settles hclose]
  exact ⟨rfl, rfl⟩

theorem withAttributes_settles {descriptor : Descriptor}
    {answer : ObjectAnswer PosixMessageQueue}
    (hrun : Runs MessageQueueCall.Settles (queue.withAttributes descriptor)
      ledger answer next) :
    answer.object.holding = queue.holding ∧ next = ledger := by
  unfold withAttributes loadAttributes at hrun
  obtain ⟨loaded, middle, hload, hdone⟩ := runs_bind_iff.mp hrun
  have hsame : middle = ledger := by
    obtain ⟨reply, asked, hcall, hrest⟩ := runs_bind_iff.mp hload
    have hasked : asked = ledger := runs_perform_iff.mp hcall
    cases reply <;> exact (runs_done_iff.mp hrest).2.trans hasked
  cases loaded <;> obtain ⟨rfl, rfl⟩ := runs_done_iff.mp hdone <;> exact ⟨rfl, hsame⟩

/-- The queue keeps its descriptor when its attributes cannot be read. -/
theorem create_settles {name : Bytes} {maxMessages maxMessageSize : ℤ}
    {answer : ObjectAnswer PosixMessageQueue}
    (hrun : Runs MessageQueueCall.Settles (queue.create name maxMessages maxMessageSize)
      ledger answer next) :
    (ledger.release queue.holding).Acquires next answer.object.holding := by
  unfold create at hrun
  obtain ⟨_, middle, hclose, hrest⟩ := runs_bind_iff.mp hrun
  obtain ⟨rfl, rfl⟩ := close_settles hclose
  cases hvalid : validQueueName name with
  | some error =>
      simp only [hvalid] at hrest
      obtain ⟨rfl, rfl⟩ := runs_done_iff.mp hrest
      exact .refused (.refl _)
  | none =>
      simp only [hvalid] at hrest
      by_cases hpositive : maxMessages ≤ 0 ∨ maxMessageSize ≤ 0
      · rw [if_pos hpositive] at hrest
        obtain ⟨rfl, rfl⟩ := runs_done_iff.mp hrest
        exact .refused (.refl _)
      rw [if_neg hpositive] at hrest
      obtain ⟨reply, created, hcreate, hrest⟩ := runs_bind_iff.mp hrest
      have hmakes := runs_perform_iff.mp hcreate
      cases reply with
      | error errno =>
          obtain ⟨rfl, rfl⟩ := runs_done_iff.mp hrest
          cases hmakes
          exact .refused (.refl _)
      | ok descriptor =>
          obtain ⟨hfresh, rfl⟩ := hmakes
          obtain ⟨hholding, rfl⟩ := withAttributes_settles hrest
          rw [hholding]
          exact .attached rfl hfresh rfl rfl nofun (fun _ => ⟨rfl, Nat.lt_succ_self _⟩)
            (Nat.le_succ _) rfl

theorem open_settles {name : Bytes} {answer : ObjectAnswer PosixMessageQueue}
    (hrun : Runs MessageQueueCall.Settles (queue.open name) ledger answer next) :
    (ledger.release queue.holding).Acquires next answer.object.holding := by
  unfold PosixMessageQueue.open at hrun
  obtain ⟨_, middle, hclose, hrest⟩ := runs_bind_iff.mp hrun
  obtain ⟨rfl, rfl⟩ := close_settles hclose
  cases hvalid : validQueueName name with
  | some error =>
      simp only [hvalid] at hrest
      obtain ⟨rfl, rfl⟩ := runs_done_iff.mp hrest
      exact .refused (.refl _)
  | none =>
      simp only [hvalid] at hrest
      obtain ⟨reply, opened, hopen, hrest⟩ := runs_bind_iff.mp hrest
      have hattaches := runs_perform_iff.mp hopen
      cases reply with
      | error errno =>
          obtain ⟨rfl, rfl⟩ := runs_done_iff.mp hrest
          cases hattaches
          exact .refused (.refl _)
      | ok descriptor =>
          obtain ⟨hfresh, object, rfl⟩ := hattaches
          obtain ⟨hholding, rfl⟩ := withAttributes_settles hrest
          rw [hholding]
          exact .attached rfl hfresh rfl rfl nofun nofun (Nat.le_refl _) rfl

theorem unlink_settles (hrun : Runs MessageQueueCall.Settles queue.unlink ledger after next) :
    after = { queue with owner := false } ∧ next = ledger.unlinkOwned queue.name true := by
  unfold unlink at hrun
  rw [ResourceLedger.unlinkOwned, Bool.true_and]
  split at hrun
  · rename_i hnamed
    obtain ⟨_, middle, hcall, hdone⟩ := runs_bind_iff.mp hrun
    obtain ⟨rfl, rfl⟩ := runs_done_iff.mp hdone
    rw [if_pos hnamed]
    exact ⟨rfl, runs_perform_iff.mp hcall⟩
  · rename_i hnamed
    obtain ⟨rfl, rfl⟩ := runs_done_iff.mp hrun
    rw [if_neg hnamed]
    exact ⟨rfl, rfl⟩

theorem moveAssign_settles {other moved : PosixMessageQueue}
    (hrun : Runs MessageQueueCall.Settles (queue.moveAssign other) ledger (after, moved) next) :
    after = other ∧ moved = .closed ∧ next = ledger.release queue.holding := by
  unfold moveAssign at hrun
  obtain ⟨closed, middle, hclose, hdone⟩ := runs_bind_iff.mp hrun
  obtain ⟨rfl, rfl⟩ := close_settles hclose
  obtain ⟨hpair, rfl⟩ := runs_done_iff.mp hdone
  cases hpair
  exact ⟨rfl, rfl, rfl⟩

end Ledgers

end PosixMessageQueue

namespace PosixMessageQueueCall

def reopens : PosixMessageQueueCall → Bool
  | .create _ _ _ => true
  | .open _ => true
  | .close => false
  | .unlink => false

theorem perform_settles {call : PosixMessageQueueCall} {queue after : PosixMessageQueue}
    {ledger next : ResourceLedger}
    (hrun : Runs MessageQueueCall.Settles (call.perform queue) ledger after next) :
    HoldingCall ledger queue.holding call.reopens next after.holding := by
  cases call with
  | create name maxMessages maxMessageSize =>
      obtain ⟨answer, last, hcreate, hdone⟩ := runs_bind_iff.mp hrun
      obtain ⟨rfl, rfl⟩ := runs_done_iff.mp hdone
      exact .reopens (PosixMessageQueue.create_settles hcreate)
  | «open» name =>
      obtain ⟨answer, last, hopen, hdone⟩ := runs_bind_iff.mp hrun
      obtain ⟨rfl, rfl⟩ := runs_done_iff.mp hdone
      exact .reopens (PosixMessageQueue.open_settles hopen)
  | close =>
      obtain ⟨rfl, rfl⟩ := PosixMessageQueue.close_settles hrun
      exact .closes
  | unlink =>
      obtain ⟨rfl, rfl⟩ := PosixMessageQueue.unlink_settles hrun
      exact .unlinks

end PosixMessageQueueCall

/-! ## Both classes -/

/-- A class of wrapper objects with its special members. -/
structure MovableObjectKind extends NamedObjectKind where
  Settles : ResourceLedger → (question : Question) → Reply question → ResourceLedger → Prop
  isOpen : Object → Bool
  holding : Object → Holding
  reopens : Call → Bool
  close : Object → Program Question Reply Object
  moveConstruct : Object → Object × Object
  moveAssign : Object → Object → Program Question Reply (Object × Object)
  holding_closed : holding closed = .empty
  isOpen_of_empty : ∀ {object}, holding object = .empty → isOpen object = false
  moveConstruct_eq : ∀ {object}, moveConstruct object = (object, closed)
  close_settles : ∀ {object ledger after next}, Runs Settles (close object) ledger after next →
    next = ledger.release (holding object)
  moveAssign_settles : ∀ {object other ledger after next},
    Runs Settles (moveAssign object other) ledger after next →
      after = (other, closed) ∧ next = ledger.release (holding object)
  perform_settles : ∀ {call object ledger after next},
    Runs Settles (perform call object) ledger after next →
      HoldingCall ledger (holding object) (reopens call) next (holding after)

def movableRegions : MovableObjectKind where
  toNamedObjectKind := sharedMemoryRegions
  Settles := SharedMemoryCall.Settles
  isOpen := SharedMemoryRegion.isMapped
  holding := SharedMemoryRegion.holding
  reopens := SharedMemoryRegionCall.reopens
  close := SharedMemoryRegion.close
  moveConstruct := SharedMemoryRegion.moveConstruct
  moveAssign := SharedMemoryRegion.moveAssign
  holding_closed := rfl
  isOpen_of_empty := by
    intro region hempty
    have hmapping : region.mapping.map (fun address => (address, region.size)) = none :=
      congrArg Holding.mapping hempty
    rw [Option.map_eq_none_iff] at hmapping
    exact congrArg Option.isSome hmapping
  moveConstruct_eq := rfl
  close_settles hrun := (SharedMemoryRegion.close_settles hrun).2
  moveAssign_settles := by
    intro region other ledger after next hrun
    obtain ⟨rfl, hmoved, hnext⟩ := SharedMemoryRegion.moveAssign_settles hrun
    exact ⟨Prod.ext rfl hmoved, hnext⟩
  perform_settles := SharedMemoryRegionCall.perform_settles

def movableQueues : MovableObjectKind where
  toNamedObjectKind := posixMessageQueues
  Settles := MessageQueueCall.Settles
  isOpen := PosixMessageQueue.isOpen
  holding := PosixMessageQueue.holding
  reopens := PosixMessageQueueCall.reopens
  close := PosixMessageQueue.close
  moveConstruct := PosixMessageQueue.moveConstruct
  moveAssign := PosixMessageQueue.moveAssign
  holding_closed := rfl
  isOpen_of_empty := by
    intro queue hempty
    have hdescriptor : queue.descriptor = none := congrArg Holding.descriptor hempty
    exact congrArg Option.isSome hdescriptor
  moveConstruct_eq := rfl
  close_settles hrun := (PosixMessageQueue.close_settles hrun).2
  moveAssign_settles := by
    intro queue other ledger after next hrun
    obtain ⟨rfl, hmoved, hnext⟩ := PosixMessageQueue.moveAssign_settles hrun
    exact ⟨Prod.ext rfl hmoved, hnext⟩
  perform_settles := PosixMessageQueueCall.perform_settles

end ElapPlatform.Ipc
