import ElapPlatform.PartialMapUpdate
import ElapPlatform.PlatformBasics

/-!
# Kernel objects and their names

Shared-memory objects and message queues live in namespaces of one kind.  A name
refers to at most one kernel object, exclusive creation fails on a name in use,
and a removed name leaves its object alive.  Objects are numbered in the order
in which they are made, descriptors through all processes.
-/

namespace ElapPlatform.Ipc

abbrev ObjectId := ℕ
abbrev Descriptor := ℕ

structure SystemNamespace where
  names : Bytes → Option ObjectId
  descriptors : Descriptor → Option ObjectId
  made : ℕ

def emptyNamespace : SystemNamespace := ⟨fun _ => none, fun _ => none, 0⟩

namespace SystemNamespace

def create (table : SystemNamespace) (name : Bytes) (descriptor : Descriptor) :
    SystemNamespace where
  names := Function.update table.names (cString name) (some table.made)
  descriptors := Function.update table.descriptors descriptor (some table.made)
  made := table.made + 1

def attach (table : SystemNamespace) (descriptor : Descriptor) (object : ObjectId) :
    SystemNamespace :=
  { table with descriptors := Function.update table.descriptors descriptor (some object) }

def detach (table : SystemNamespace) (descriptor : Descriptor) : SystemNamespace :=
  { table with descriptors := Function.update table.descriptors descriptor none }

def unbind (table : SystemNamespace) (name : Bytes) : SystemNamespace :=
  { table with names := Function.update table.names (cString name) none }

section Fields

variable (table : SystemNamespace) (name : Bytes) (descriptor : Descriptor) (object : ObjectId)

@[simp] theorem create_names : (table.create name descriptor).names =
    Function.update table.names (cString name) (some table.made) := rfl

@[simp] theorem create_descriptors : (table.create name descriptor).descriptors =
    Function.update table.descriptors descriptor (some table.made) := rfl

@[simp] theorem detach_names : (table.detach descriptor).names = table.names := rfl

theorem attach_detach (hfresh : table.descriptors descriptor = none) :
    (table.attach descriptor object).detach descriptor = table := by
  unfold attach detach
  rw [PartialMap.erase_insert hfresh]

end Fields

/-- Exclusive creation; it may also fail for reasons of its own. -/
def Creates (table : SystemNamespace) (name : Bytes) (reply : SystemResult Descriptor)
    (next : SystemNamespace) : Prop :=
  match reply with
  | .ok descriptor =>
      table.names (cString name) = none ∧ table.descriptors descriptor = none ∧
        next = table.create name descriptor
  | .error _ => next = table

def Opens (table : SystemNamespace) (name : Bytes) (reply : SystemResult Descriptor)
    (next : SystemNamespace) : Prop :=
  match reply with
  | .ok descriptor =>
      table.descriptors descriptor = none ∧
        ∃ object, table.names (cString name) = some object ∧
          next = table.attach descriptor object
  | .error _ => next = table

def Unlinks (table : SystemNamespace) (name : Bytes) (reply : SystemResult Unit)
    (next : SystemNamespace) : Prop :=
  match reply with
  | .ok () => next = table.unbind name
  | .error _ => next = table

theorem Unlinks.cases {table next : SystemNamespace} {name : Bytes} {reply : SystemResult Unit}
    (hunlinks : table.Unlinks name reply next) : next = table ∨ next = table.unbind name := by
  cases reply with
  | ok => exact .inr hunlinks
  | error => exact .inl hunlinks

end SystemNamespace

end ElapPlatform.Ipc
