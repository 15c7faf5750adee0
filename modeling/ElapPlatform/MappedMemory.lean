import Mathlib.Tactic

/-!
# Memory that is mapped from objects

An address is translated to a position of an object, several addresses possibly to
the same one.  An access outside every mapping, or behind the end of the object,
faults.
-/

structure MappedMemory (Object Value : Type) where
  translation : ℕ → Option (Object × ℕ)
  size : Object → ℕ
  values : Object → ℕ → Value

namespace MappedMemory

variable {Object Value : Type}

def load (memory : MappedMemory Object Value) (address : ℕ) : Option Value :=
  match memory.translation address with
  | none => none
  | some (object, position) =>
      if position < memory.size object then some (memory.values object position) else none

section Stores

variable [DecidableEq Object]

def setValue (values : Object → ℕ → Value) (object : Object) (position : ℕ) (value : Value) :
    Object → ℕ → Value :=
  Function.update values object (Function.update (values object) position value)

def store (memory : MappedMemory Object Value) (address : ℕ) (value : Value) :
    Option (MappedMemory Object Value) :=
  match memory.translation address with
  | none => none
  | some (object, position) =>
      if position < memory.size object then
        some { memory with values := setValue memory.values object position value }
      else none

/-- Copies into the memory, position by position. -/
def copyTo (memory : MappedMemory Object Value) (address : ℕ) (source : ℕ → Value) :
    ℕ → Option (MappedMemory Object Value)
  | 0 => some memory
  | count + 1 => (memory.copyTo address source count).bind fun copied =>
      copied.store (address + count) (source count)

def overwrite (values : Object → ℕ → Value) (object : Object) (offset count : ℕ)
    (source : ℕ → Value) : Object → ℕ → Value :=
  fun other position => if other = object ∧ offset ≤ position ∧ position < offset + count
    then source (position - offset) else values other position

end Stores

/-- Copies out of the memory into a buffer. -/
def copyFrom (memory : MappedMemory Object Value) (address : ℕ) (buffer : ℕ → Value) :
    ℕ → Option (ℕ → Value)
  | 0 => some buffer
  | count + 1 => (memory.copyFrom address buffer count).bind fun copied =>
      (memory.load (address + count)).map fun value => Function.update copied count value

/-- The object begins at the address and the mapping has the length. -/
def Maps (memory : MappedMemory Object Value) (address length : ℕ) (object : Object) : Prop :=
  ∀ position < length, memory.translation (address + position) = some (object, position)

section Copies

variable {memory : MappedMemory Object Value} {address length offset : ℕ} {object : Object}

section Stores

variable [DecidableEq Object]

theorem overwrite_zero (values : Object → ℕ → Value) (source : ℕ → Value) :
    overwrite values object offset 0 source = values := by
  funext other position
  exact if_neg (by omega)

theorem overwrite_succ (values : Object → ℕ → Value) (source : ℕ → Value) (count : ℕ) :
    setValue (overwrite values object offset count source) object (offset + count)
      (source count) = overwrite values object offset (count + 1) source := by
  funext other position
  unfold setValue overwrite
  by_cases hobject : other = object
  · subst hobject
    rw [Function.update_self]
    by_cases hlast : position = offset + count
    · subst hlast
      simp
    · rw [Function.update_of_ne hlast]
      have hrange : (offset ≤ position ∧ position < offset + (count + 1)) ↔
          offset ≤ position ∧ position < offset + count := by omega
      simp only [hrange]
  · rw [Function.update_of_ne hobject]
    simp [hobject]

theorem copyTo_maps (hmaps : memory.Maps address length object)
    (hsize : length ≤ memory.size object) (source : ℕ → Value) {count : ℕ}
    (hrange : offset + count ≤ length) :
    memory.copyTo (address + offset) source count =
      some { memory with values := overwrite memory.values object offset count source } := by
  induction count with
  | zero => rw [overwrite_zero]; rfl
  | succ count ih =>
      have hlast := hmaps (offset + count) (by omega)
      rw [copyTo, ih (by omega), Option.bind_some, store, Nat.add_assoc, hlast]
      dsimp only
      rw [if_pos (by omega), overwrite_succ]

end Stores

theorem copyFrom_maps (hmaps : memory.Maps address length object)
    (hsize : length ≤ memory.size object) (buffer : ℕ → Value) {count : ℕ}
    (hrange : offset + count ≤ length) :
    memory.copyFrom (address + offset) buffer count =
      some fun position =>
        if position < count then memory.values object (offset + position) else buffer position := by
  induction count with
  | zero => simp [copyFrom]
  | succ count ih =>
      have hlast := hmaps (offset + count) (by omega)
      rw [copyFrom, ih (by omega), Option.bind_some, load, Nat.add_assoc, hlast]
      dsimp only
      rw [if_pos (by omega), Option.map_some]
      congr 1
      funext position
      by_cases hposition : position = count
      · subst hposition
        simp
      · rw [Function.update_of_ne hposition]
        have hbound : position < count + 1 ↔ position < count := by omega
        simp only [hbound]

end Copies

/-! ## Mapping and unmapping -/

def InRange (address length other : ℕ) : Prop := address ≤ other ∧ other < address + length

instance (address length other : ℕ) : Decidable (InRange address length other) :=
  inferInstanceAs (Decidable (_ ∧ _))

def map (memory : MappedMemory Object Value) (address length : ℕ) (object : Object) :
    MappedMemory Object Value :=
  { memory with translation := fun other =>
      if InRange address length other then some (object, other - address)
      else memory.translation other }

def unmap (memory : MappedMemory Object Value) (address length : ℕ) :
    MappedMemory Object Value :=
  { memory with translation := fun other =>
      if InRange address length other then none else memory.translation other }

section Maps

variable {memory : MappedMemory Object Value} {address length : ℕ} {object : Object}

theorem map_maps : (memory.map address length object).Maps address length object := by
  intro position hposition
  have hin : InRange address length (address + position) := ⟨by omega, by omega⟩
  exact (if_pos hin).trans (by rw [Nat.add_sub_cancel_left])

/-- A mapping survives the addition of another one in free addresses. -/
theorem Maps.map {address' length' : ℕ} {object' : Object}
    (hmaps : memory.Maps address length object)
    (hfree : ∀ other, InRange address' length' other → memory.translation other = none) :
    (memory.map address' length' object').Maps address length object := by
  intro position hposition
  have hold := hmaps position hposition
  have hout : ¬ InRange address' length' (address + position) := by
    intro hin
    rw [hfree _ hin] at hold
    cases hold
  exact (if_neg hout).trans hold

theorem Maps.unmap {address' length' : ℕ} (hmaps : memory.Maps address length object)
    (hapart : ∀ position < length, ¬ InRange address' length' (address + position)) :
    (memory.unmap address' length').Maps address length object := by
  intro position hposition
  exact (if_neg (hapart position hposition)).trans (hmaps position hposition)

end Maps

end MappedMemory
