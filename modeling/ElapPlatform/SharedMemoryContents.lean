import ElapPlatform.MappedMemory
import ElapPlatform.NamedObjectRuns

/-!
# The bytes of shared-memory regions

`read` and `write` of a region, over a kernel that keeps the size and the bytes of
every object and maps objects into the addresses of its processes.
-/

namespace ElapPlatform.Ipc

open Interaction Transition

structure MemoryKernel where
  table : SystemNamespace
  memory : MappedMemory ObjectId UInt8

namespace MemoryKernel

/-- A new object is empty. -/
def make (kernel : MemoryKernel) (name : Bytes) (fd : Descriptor) : MemoryKernel where
  table := kernel.table.create name fd
  memory := { kernel.memory with
    size := Function.update kernel.memory.size kernel.table.made 0
    values := Function.update kernel.memory.values kernel.table.made fun _ => 0 }

/-- An object that grows is filled up with zeros. -/
def truncate (kernel : MemoryKernel) (object : ObjectId) (size : ℕ) : MemoryKernel :=
  { kernel with memory := { kernel.memory with
    size := Function.update kernel.memory.size object size
    values := Function.update kernel.memory.values object fun position =>
      if position < min (kernel.memory.size object) size then kernel.memory.values object position
      else 0 } }

def Creates (kernel : MemoryKernel) (name : Bytes) (reply : SystemResult Descriptor)
    (next : MemoryKernel) : Prop :=
  match reply with
  | .ok fd => kernel.table.names (cString name) = none ∧ kernel.table.descriptors fd = none ∧
      next = kernel.make name fd
  | .error _ => next = kernel

def Truncates (kernel : MemoryKernel) (fd : Descriptor) (size : ℕ) (reply : SystemResult Unit)
    (next : MemoryKernel) : Prop :=
  match reply with
  | .ok () => size ≤ offTMax ∧ ∃ object, kernel.table.descriptors fd = some object ∧
      next = kernel.truncate object size
  | .error _ => next = kernel

def Stats (kernel : MemoryKernel) (fd : Descriptor) (reply : SystemResult ℤ) : Prop :=
  match reply with
  | .ok size => ∃ object, kernel.table.descriptors fd = some object ∧
      size = kernel.memory.size object
  | .error _ => True

/-- The addresses of a new mapping are free. -/
def Mmaps (kernel : MemoryKernel) (size : ℕ) (fd : Descriptor) (reply : SystemResult Address)
    (next : MemoryKernel) : Prop :=
  match reply with
  | .ok address => ∃ object, kernel.table.descriptors fd = some object ∧
      (∀ other, MappedMemory.InRange address size other →
        kernel.memory.translation other = none) ∧
      next = { kernel with memory := kernel.memory.map address size object }
  | .error _ => next = kernel

def Munmaps (kernel : MemoryKernel) (address : Address) (size : ℕ) (reply : SystemResult Unit)
    (next : MemoryKernel) : Prop :=
  match reply with
  | .ok () => next = { kernel with memory := kernel.memory.unmap address size }
  | .error _ => next = kernel

end MemoryKernel

def SharedMemoryCall.AnswersMemory (kernel : MemoryKernel) :
    (call : SharedMemoryCall) → call.Reply → MemoryKernel → Prop
  | .shmCreate name, reply, next => kernel.Creates name reply next
  | .shmOpen name, reply, next =>
      ∃ table, kernel.table.Opens name reply table ∧ next = { kernel with table := table }
  | .ftruncate fd size, reply, next => kernel.Truncates fd size reply next
  | .fstat fd, reply, next => kernel.Stats fd reply ∧ next = kernel
  | .mmap size fd, reply, next => kernel.Mmaps size fd reply next
  | .munmap address size, reply, next => kernel.Munmaps address size reply next
  | .close fd, _, next => next = { kernel with table := kernel.table.detach fd }
  | .shmUnlink name, reply, next =>
      ∃ table, kernel.table.Unlinks name reply table ∧ next = { kernel with table := table }

/-! ## `read` and `write` -/

/-- What a pointer points to. -/
abbrev Buffer := ℕ → UInt8

def inRange (offset count size : UInt64) : Bool :=
  decide (offset ≤ size) && decide (count ≤ size - offset)

namespace SharedMemoryRegion

variable (region : SharedMemoryRegion) (kernel : MemoryKernel) (offset : UInt64)

/-- `none` if an access faults. -/
def write (source : Option Buffer) (size : UInt64) : Option (ObjectAnswer MemoryKernel) :=
  match region.mapping with
  | none => some ⟨some (.message "shared memory write failed: region is not mapped"), kernel⟩
  | some address =>
    if source.isNone && decide (size > 0) then
      some ⟨some (.message "shared memory write failed: source is null"), kernel⟩
    else if !inRange offset size (UInt64.ofNat region.size) then
      some ⟨some (.message "shared memory write failed: range is out of bounds"), kernel⟩
    else
      match source with
      | none => some ⟨none, kernel⟩
      | some source =>
        (kernel.memory.copyTo (address + offset.toNat) source size.toNat).map fun memory =>
          ⟨none, { kernel with memory := memory }⟩

/-- The destination after the call; `none` if an access faults. -/
def read (destination : Option Buffer) (size : UInt64) :
    Option (ObjectAnswer (Option Buffer)) :=
  match region.mapping with
  | none =>
    some ⟨some (.message "shared memory read failed: region is not mapped"), destination⟩
  | some address =>
    if destination.isNone && decide (size > 0) then
      some ⟨some (.message "shared memory read failed: destination is null"), destination⟩
    else if !inRange offset size (UInt64.ofNat region.size) then
      some ⟨some (.message "shared memory read failed: range is out of bounds"), destination⟩
    else
      match destination with
      | none => some ⟨none, none⟩
      | some destination =>
        (kernel.memory.copyFrom (address + offset.toNat) destination size.toNat).map fun buffer =>
          ⟨none, some buffer⟩

end SharedMemoryRegion

/-! ## Runs of regions -/

structure MemorySystem where
  kernel : MemoryKernel
  regions : ℕ → SharedMemoryRegion

inductive RegionLabel where
  | manages (index : ℕ) (call : SharedMemoryRegionCall)
  | writes (index : ℕ) (offset : UInt64) (source : Option Buffer) (size : UInt64)
      (error : Option ErrorText)
  | reads (index : ℕ) (offset : UInt64) (destination : Option Buffer) (size : UInt64)
      (error : Option ErrorText)

inductive MemoryStep : MemorySystem → RegionLabel → MemorySystem → Prop
  | manages {kernel next : MemoryKernel} {regions : ℕ → SharedMemoryRegion} {index : ℕ}
      {call : SharedMemoryRegionCall} {after : SharedMemoryRegion}
      (hrun : Runs SharedMemoryCall.AnswersMemory (call.perform (regions index))
        kernel after next) :
      MemoryStep ⟨kernel, regions⟩ (.manages index call)
        ⟨next, Function.update regions index after⟩
  | writes {kernel : MemoryKernel} {regions : ℕ → SharedMemoryRegion} {index : ℕ}
      {offset size : UInt64} {source : Option Buffer} {answer : ObjectAnswer MemoryKernel}
      (hwrite : (regions index).write kernel offset source size = some answer) :
      MemoryStep ⟨kernel, regions⟩ (.writes index offset source size answer.error)
        ⟨answer.object, regions⟩
  | reads {kernel : MemoryKernel} {regions : ℕ → SharedMemoryRegion} {index : ℕ}
      {offset size : UInt64} {destination : Option Buffer}
      {answer : ObjectAnswer (Option Buffer)}
      (hread : (regions index).read kernel offset destination size = some answer) :
      MemoryStep ⟨kernel, regions⟩ (.reads index offset destination size answer.error)
        ⟨kernel, regions⟩

/-- Objects may be there already, of any size, and nothing has been written to them. -/
structure MemorySystem.Fresh (system : MemorySystem) : Prop where
  named : ∀ {name object}, system.kernel.table.names name = some object →
    object < system.kernel.table.made
  descriptors : system.kernel.table.descriptors = fun _ => none
  translation : system.kernel.memory.translation = fun _ => none
  bounded : ∀ object, system.kernel.memory.size object ≤ offTMax
  values : system.kernel.memory.values = fun _ _ => 0
  regions : system.regions = fun _ => .closed

/-! ## What was written -/

/-- The object that the region is mapped on. -/
def MemorySystem.backing (system : MemorySystem) (index : ℕ) : Option ObjectId :=
  ((system.regions index).mapping.bind system.kernel.memory.translation).map Prod.fst

def writtenBy (system : MemorySystem) (label : RegionLabel) (object : ObjectId)
    (position : ℕ) : Option UInt8 :=
  match label with
  | .writes index offset (some source) size none =>
      if system.backing index = some object ∧ offset.toNat ≤ position ∧
          position < offset.toNat + size.toNat then
        some (source (position - offset.toNat))
      else none
  | _ => none

/-- The byte that the last write through any region has left there. -/
def lastWritten (history : History MemorySystem RegionLabel) (object : ObjectId)
    (position : ℕ) : UInt8 :=
  history.foldl (fun byte entry => (writtenBy entry.1 entry.2 object position).getD byte) 0

structure WriteKept (system : MemorySystem) (index : ℕ) (object : ObjectId) (offset : UInt64)
    (source : Option Buffer) (size : UInt64) (answer : ObjectAnswer MemoryKernel) : Prop where
  succeeds_iff : answer.error = none ↔ (source = none → size = 0) ∧
    offset.toNat + size.toNat ≤ (system.regions index).size
  inside : answer.error = none →
    offset.toNat + size.toNat ≤ system.kernel.memory.size object
  written : answer.error = none → ∀ position < size.toNat,
    some (answer.object.memory.values object (offset.toNat + position)) =
      source.map fun buffer => buffer position
  kept : ∀ other position, (other = object → offset.toNat ≤ position →
      offset.toNat + size.toNat ≤ position) →
    answer.object.memory.values other position = system.kernel.memory.values other position
  frame : answer.object.table = system.kernel.table ∧
    answer.object.memory.translation = system.kernel.memory.translation ∧
      answer.object.memory.size = system.kernel.memory.size
  failed : answer.error ≠ none → answer.object = system.kernel

structure ReadKept (history : History MemorySystem RegionLabel) (system : MemorySystem)
    (index : ℕ) (object : ObjectId) (offset : UInt64) (destination : Option Buffer)
    (size : UInt64) (answer : ObjectAnswer (Option Buffer)) : Prop where
  succeeds_iff : answer.error = none ↔ (destination = none → size = 0) ∧
    offset.toNat + size.toNat ≤ (system.regions index).size
  inside : answer.error = none →
    offset.toNat + size.toNat ≤ system.kernel.memory.size object
  returned : answer.error = none → ∀ buffer, answer.object = some buffer →
    ∀ position < size.toNat, buffer position =
      lastWritten history object (offset.toNat + position)
  kept : ∀ buffer, destination = some buffer → ∃ after, answer.object = some after ∧
    ∀ position, size.toNat ≤ position → after position = buffer position
  failed : answer.error ≠ none → answer.object = destination

end ElapPlatform.Ipc
