import ElapPlatform.InteractionProgram
import ElapPlatform.SystemNamespaceOwnership

/-!
# Shared-memory regions

`create`, `open`, `close` and `unlink` of `SharedMemoryRegion` as programs over
the system calls that they make.  Any call may fail.
-/

namespace ElapPlatform.Ipc

open Interaction Interaction.Program

abbrev Address := ℕ

inductive SharedMemoryCall where
  /-- `shm_open` with `O_CREAT | O_EXCL | O_RDWR` -/
  | shmCreate (name : Bytes)
  /-- `shm_open` with `O_RDWR` -/
  | shmOpen (name : Bytes)
  | ftruncate (descriptor : Descriptor) (size : ℕ)
  | fstat (descriptor : Descriptor)
  | mmap (size : ℕ) (descriptor : Descriptor)
  | munmap (address : Address) (size : ℕ)
  | close (descriptor : Descriptor)
  | shmUnlink (name : Bytes)
  deriving DecidableEq, Repr

def SharedMemoryCall.Reply : SharedMemoryCall → Type
  | .shmCreate _ => SystemResult Descriptor
  | .shmOpen _ => SystemResult Descriptor
  | .ftruncate _ _ => SystemResult Unit
  | .fstat _ => SystemResult ℤ
  | .mmap _ _ => SystemResult Address
  | .munmap _ _ => SystemResult Unit
  | .close _ => SystemResult Unit
  | .shmUnlink _ => SystemResult Unit

abbrev RegionProgram (α : Type) := Program SharedMemoryCall SharedMemoryCall.Reply α

section Calls

def shmCreate (name : Bytes) : RegionProgram (SystemResult Descriptor) :=
  .ask (SharedMemoryCall.shmCreate name) .done

def shmOpen (name : Bytes) : RegionProgram (SystemResult Descriptor) :=
  .ask (SharedMemoryCall.shmOpen name) .done

def ftruncate (descriptor : Descriptor) (size : ℕ) : RegionProgram (SystemResult Unit) :=
  .ask (SharedMemoryCall.ftruncate descriptor size) .done

def fstat (descriptor : Descriptor) : RegionProgram (SystemResult ℤ) :=
  .ask (SharedMemoryCall.fstat descriptor) .done

def mmap (size : ℕ) (descriptor : Descriptor) : RegionProgram (SystemResult Address) :=
  .ask (SharedMemoryCall.mmap size descriptor) .done

def munmap (address : Address) (size : ℕ) : RegionProgram (SystemResult Unit) :=
  .ask (SharedMemoryCall.munmap address size) .done

def closeDescriptor (descriptor : Descriptor) : RegionProgram (SystemResult Unit) :=
  .ask (SharedMemoryCall.close descriptor) .done

def shmUnlink (name : Bytes) : RegionProgram (SystemResult Unit) :=
  .ask (SharedMemoryCall.shmUnlink name) .done

end Calls

structure SharedMemoryRegion where
  fd : Option Descriptor
  name : Bytes
  mapping : Option Address
  size : ℕ
  owner : Bool
  deriving DecidableEq, Repr

def offTMax : ℕ := 2 ^ 63 - 1

/-- `'/'` -/
def slash : UInt8 := 47

def validSharedMemoryName (name : Bytes) : Option ErrorText :=
  if name.head? ≠ some slash then
    some (.message "shared memory name must start with /")
  else if slash ∈ name.tail then
    some (.message "shared memory name must not contain additional / characters")
  else none

def loadSharedMemorySize (fd : Descriptor) : RegionProgram (Except ErrorText ℕ) := do
  match ← fstat fd with
  | .error errno => return .error (systemError "fstat" errno)
  | .ok size =>
      if size ≤ 0 then
        return .error
          (.message "shared memory open failed: backing object has invalid size")
      return .ok size.toNat

namespace SharedMemoryRegion

def closed : SharedMemoryRegion := ⟨none, [], none, 0, false⟩

def unmap (region : SharedMemoryRegion) : RegionProgram Unit := do
  match region.mapping with
  | some address =>
      let _ ← munmap address region.size
      return ()
  | none => return ()

def closeFd (region : SharedMemoryRegion) : RegionProgram Unit := do
  match region.fd with
  | some fd =>
      let _ ← closeDescriptor fd
      return ()
  | none => return ()

def unlinkOwned (region : SharedMemoryRegion) : RegionProgram Unit := do
  if region.owner && !region.name.isEmpty then
    let _ ← shmUnlink region.name
    return ()
  else return ()

def close (region : SharedMemoryRegion) : RegionProgram SharedMemoryRegion := do
  region.unmap
  region.closeFd
  region.unlinkOwned
  return closed

/-- The failure paths of `create` after `shm_open`. -/
def abandon (fd : Descriptor) (name : Bytes) : RegionProgram Unit := do
  let _ ← closeDescriptor fd
  let _ ← shmUnlink name
  return ()

def create (region : SharedMemoryRegion) (name : Bytes) (size : ℕ) :
    RegionProgram (ObjectAnswer SharedMemoryRegion) := do
  let region ← region.close
  match validSharedMemoryName name with
  | some error => return ⟨some error, region⟩
  | none =>
    if size = 0 then
      return ⟨some (.message "shared memory size must be positive"), region⟩
    if size > offTMax then
      return ⟨some (.message "shared memory size is too large"), region⟩
    match ← shmCreate name with
    | .error errno => return ⟨some (systemError "shm_open" errno), region⟩
    | .ok fd =>
      match ← ftruncate fd size with
      | .error errno =>
        abandon fd name
        return ⟨some (systemError "ftruncate" errno), region⟩
      | .ok () =>
        match ← mmap size fd with
        | .error errno =>
          abandon fd name
          return ⟨some (systemError "mmap" errno), region⟩
        | .ok mapping => return ⟨none, ⟨some fd, name, some mapping, size, true⟩⟩

def «open» (region : SharedMemoryRegion) (name : Bytes) (size : ℕ) :
    RegionProgram (ObjectAnswer SharedMemoryRegion) := do
  let region ← region.close
  match validSharedMemoryName name with
  | some error => return ⟨some error, region⟩
  | none =>
    if size = 0 then
      return ⟨some (.message "shared memory size must be positive"), region⟩
    match ← shmOpen name with
    | .error errno => return ⟨some (systemError "shm_open" errno), region⟩
    | .ok fd =>
      match ← loadSharedMemorySize fd with
      | .error error =>
        let _ ← closeDescriptor fd
        return ⟨some error, region⟩
      | .ok backingSize =>
        if size > backingSize then
          let _ ← closeDescriptor fd
          return ⟨some (.message
            "shared memory open failed: requested size exceeds backing object size"), region⟩
        match ← mmap size fd with
        | .error errno =>
          let _ ← closeDescriptor fd
          return ⟨some (systemError "mmap" errno), region⟩
        | .ok mapping => return ⟨none, ⟨some fd, name, some mapping, size, false⟩⟩

def unlink (region : SharedMemoryRegion) : RegionProgram SharedMemoryRegion := do
  if !region.name.isEmpty then
    let _ ← shmUnlink region.name
    return { region with owner := false }
  return { region with owner := false }

end SharedMemoryRegion

/-! ## What the calls do to the names -/

/-- A descriptor is gone after `::close`, whatever it returns. -/
def SharedMemoryCall.Answers (table : SystemNamespace) :
    (call : SharedMemoryCall) → call.Reply → SystemNamespace → Prop
  | .shmCreate name, reply, next => table.Creates name reply next
  | .shmOpen name, reply, next => table.Opens name reply next
  | .ftruncate _ _, _, next => next = table
  | .fstat _, _, next => next = table
  | .mmap _ _, _, next => next = table
  | .munmap _ _, _, next => next = table
  | .close descriptor, _, next => next = table.detach descriptor
  | .shmUnlink name, reply, next => table.Unlinks name reply next

namespace SharedMemoryCall

def action : (call : SharedMemoryCall) → call.Reply → NameAction
  | .shmCreate name, reply => created name reply
  | .shmUnlink name, _ => .removes name
  | .shmOpen _, _ => .keeps
  | .ftruncate _ _, _ => .keeps
  | .fstat _, _ => .keeps
  | .mmap _ _, _ => .keeps
  | .munmap _ _, _ => .keeps
  | .close _, _ => .keeps

theorem Answers.changes {table next : SystemNamespace} {call : SharedMemoryCall}
    {reply : call.Reply} (hanswer : Answers table call reply next) :
    table.Changes (call.action reply) next := by
  cases call with
  | shmCreate name => exact SystemNamespace.Creates.changes hanswer
  | shmOpen name => exact SystemNamespace.Opens.names_eq hanswer
  | shmUnlink name => exact SystemNamespace.Unlinks.changes hanswer
  | close fd =>
      have hdetached : next = table.detach fd := hanswer
      rw [hdetached]
      rfl
  | ftruncate fd size => exact congrArg SystemNamespace.names hanswer
  | fstat fd => exact congrArg SystemNamespace.names hanswer
  | mmap size fd => exact congrArg SystemNamespace.names hanswer
  | munmap address size => exact congrArg SystemNamespace.names hanswer

end SharedMemoryCall

/-! ## The names that the calls remove -/

namespace SharedMemoryRegion

/-- The name that `close()` removes. -/
def ownName (region : SharedMemoryRegion) : Option Bytes := ownedName region.owner region.name

section Generations

variable {own : Prop} {generation : Option Generation} {region : SharedMemoryRegion}

theorem unmap_keeps : KeepsGenerations SharedMemoryCall.action own
    (fun _ later => later = generation) region.unmap generation := by
  unfold unmap
  split
  · exact keepsGenerations_ask (fun _ => rfl) fun _ => rfl
  · rfl

theorem closeFd_keeps : KeepsGenerations SharedMemoryCall.action own
    (fun _ later => later = generation) region.closeFd generation := by
  unfold closeFd
  split
  · exact keepsGenerations_ask (fun _ => rfl) fun _ => rfl
  · rfl

theorem unlinkOwned_keeps (howned : region.ownName = generation.map Generation.name) :
    KeepsGenerations SharedMemoryCall.action own (fun _ later => later = none)
      region.unlinkOwned generation := by
  unfold unlinkOwned
  unfold ownName ownedName at howned
  split
  · rename_i howner
    rw [if_pos howner] at howned
    exact keepsGenerations_remove (fun _ => rfl) (fun _ => howned.symm) fun _ => rfl
  · rename_i hnone
    rw [if_neg hnone] at howned
    exact Option.map_eq_none_iff.mp howned.symm

theorem close_keeps (howned : region.ownName = generation.map Generation.name) :
    KeepsGenerations SharedMemoryCall.action own
      (fun after later => after = .closed ∧ later = none) region.close generation := by
  unfold close
  refine unmap_keeps.bind ?_
  rintro _ _ rfl
  refine closeFd_keeps.bind ?_
  rintro _ _ rfl
  refine (unlinkOwned_keeps howned).bind ?_
  rintro _ _ rfl
  exact ⟨rfl, rfl⟩

/-- The failure paths of `create` remove the name that has just been created. -/
theorem abandon_keeps {fd : Descriptor} {name : Bytes}
    (hname : generation.map Generation.name = some (cString name)) :
    KeepsGenerations SharedMemoryCall.action own (fun _ later => later = none)
      (abandon fd name) generation := by
  unfold abandon
  refine keepsGenerations_ask (fun _ => rfl) fun _ => ?_
  exact keepsGenerations_remove (fun _ => rfl) (fun _ => hname) fun _ => rfl

theorem ne_nil_of_valid {name : Bytes} (hvalid : validSharedMemoryName name = none) :
    name ≠ [] := by
  rintro rfl
  cases hvalid

theorem create_keeps {name : Bytes} {size : ℕ}
    (howned : region.ownName = generation.map Generation.name) :
    KeepsGenerations SharedMemoryCall.action own
      (fun answer later => answer.object.ownName = later.map Generation.name)
      (region.create name size) generation := by
  unfold create
  refine (close_keeps howned).bind ?_
  rintro _ _ ⟨rfl, rfl⟩
  cases hvalid : validSharedMemoryName name with
  | some error => rfl
  | none =>
      dsimp only
      split
      · rfl
      split
      · rfl
      intro state reply
      refine ⟨fun _ => ?_, ?_⟩
      · cases reply <;> trivial
      cases reply with
      | error errno => rfl
      | ok fd =>
          refine keepsGenerations_ask (fun _ => rfl) fun truncated => ?_
          cases truncated with
          | error errno =>
              refine (abandon_keeps rfl).bind ?_
              rintro _ _ rfl
              rfl
          | ok =>
              refine keepsGenerations_ask (fun _ => rfl) fun mapped => ?_
              cases mapped with
              | error errno =>
                  refine (abandon_keeps rfl).bind ?_
                  rintro _ _ rfl
                  rfl
              | ok mapping => exact ownedName_owner (ne_nil_of_valid hvalid)

theorem loadSharedMemorySize_keeps {fd : Descriptor} :
    KeepsGenerations SharedMemoryCall.action own (fun _ later => later = generation)
      (loadSharedMemorySize fd) generation := by
  unfold loadSharedMemorySize
  refine keepsGenerations_ask (fun _ => rfl) fun (reply : SystemResult ℤ) => ?_
  cases reply with
  | error errno => rfl
  | ok size =>
      change KeepsGenerations _ _ _ (if size ≤ 0 then _ else _) _
      split <;> rfl

/-- An object that was opened owns no name. -/
theorem open_keeps {name : Bytes} {size : ℕ}
    (howned : region.ownName = generation.map Generation.name) :
    KeepsGenerations SharedMemoryCall.action own
      (fun answer later => answer.object.ownName = later.map Generation.name)
      (region.open name size) generation := by
  unfold SharedMemoryRegion.open
  refine (close_keeps howned).bind ?_
  rintro _ _ ⟨rfl, rfl⟩
  cases validSharedMemoryName name with
  | some error => rfl
  | none =>
      dsimp only
      split
      · rfl
      refine keepsGenerations_ask (fun _ => rfl) fun opened => ?_
      cases opened with
      | error errno => rfl
      | ok fd =>
          refine loadSharedMemorySize_keeps.bind ?_
          rintro loaded _ rfl
          cases loaded with
          | error error => exact keepsGenerations_ask (fun _ => rfl) fun _ => rfl
          | ok backingSize =>
              dsimp only
              split
              · exact keepsGenerations_ask (fun _ => rfl) fun _ => rfl
              refine keepsGenerations_ask (fun _ => rfl) fun mapped => ?_
              cases mapped with
              | error errno => exact keepsGenerations_ask (fun _ => rfl) fun _ => rfl
              | ok mapping => rfl

/-- `unlink()` removes the name of the object, whoever created it. -/
theorem unlink_keeps (hany : ¬ own) (howned : region.ownName = generation.map Generation.name) :
    KeepsGenerations SharedMemoryCall.action own
      (fun after later => after.ownName = later.map Generation.name)
      region.unlink generation := by
  unfold unlink
  split
  · exact keepsGenerations_remove (fun _ => rfl) (fun hown => absurd hown hany) fun _ => rfl
  · rename_i hunnamed
    have hnone : region.ownName = none := ownedName_unnamed hunnamed
    rw [hnone] at howned
    exact howned

end Generations

end SharedMemoryRegion

end ElapPlatform.Ipc
