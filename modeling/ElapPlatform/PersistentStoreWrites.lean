import ElapPlatform.PersistentStoreOperations

/-!
# What a write does to the table

Every write but `putAll` is one statement, or is refused before any statement.
`putAll` makes one transaction of its statements and leaves none open.
-/

namespace ElapPlatform.Storage

open Interaction Interaction.Program

def insertPair (table : Table) (pair : Bytes × Bytes) : Table :=
  table.insert (cString pair.1) (.text (cString pair.2))

/-- The table after a write that returns `true`. -/
def Write.apply : Write → Table → Table
  | .put key value, table => insertPair table (key, value)
  | .putAll values, table => values.foldl insertPair table
  | .putBlob key data size, table => table.insert key (.blob ((data.getD []).take size))
  | .remove key, table => table.erase (cString key)
  | .clear, _ => ∅

/-- `putBlob` refuses a null pointer with a size, and what its `int` sizes cannot say. -/
def Write.Accepted : Write → Prop
  | .putBlob key data size =>
      ¬ (data = none ∧ size > 0) ∧ ¬ (key.length > intMax ∨ size > intMax)
  | .put _ _ | .putAll _ | .remove _ | .clear => True

/-- A program of one writing statement that returns whether it succeeded. -/
def IsOneStatement (change : Table → Table) (program : DatabaseProgram (Answer Bool)) : Prop :=
  ∃ (request : Request) (outcome : request.Reply → Answer Bool),
    program = .ask request (fun reply => .done (outcome reply)) ∧
      request.change = some change ∧
      ∀ reply, request.Returns reply [] →
        ((outcome reply).value = true ↔ request.Succeeded reply)

section OpenStore

variable {store : PersistentStore} (hopen : store.db.isOpen = true)
include hopen

theorem execWithArgs_isOneStatement {sql : Sql} {values : List (Option Bytes)}
    {change : Table → Table}
    (hchange : (Request.statement sql (values.map boundText)).change = some change) :
    IsOneStatement change (store.db.execWithArgs sql values) := by
  rw [execWithArgs_eq hopen]
  exact ⟨_, _, rfl, hchange, fun run hrows => execOutcome_value _ _ _ hrows⟩

theorem put_isOneStatement (key value : Bytes) :
    IsOneStatement (insertPair · (key, value)) (store.put key value) :=
  execWithArgs_isOneStatement hopen rfl

theorem remove_isOneStatement (key : Bytes) :
    IsOneStatement (Write.remove key).apply (store.remove key) :=
  execWithArgs_isOneStatement hopen rfl

theorem clear_isOneStatement : IsOneStatement Write.clear.apply store.clear := by
  unfold PersistentStore.clear
  rw [execute_eq hopen]
  exact ⟨_, _, rfl, rfl, fun reply _ => executeOutcome_value⟩

theorem putBlob_cases (key : Bytes) (data : Option Bytes) (size : ℕ) :
    ((∃ error, store.putBlob key data size = .done ⟨false, some error⟩) ∧
        ¬ (Write.putBlob key data size).Accepted) ∨
      (IsOneStatement (Write.putBlob key data size).apply (store.putBlob key data size) ∧
        (Write.putBlob key data size).Accepted) := by
  unfold PersistentStore.putBlob
  split
  · next hnull => exact .inl ⟨⟨_, rfl⟩, fun haccepted => haccepted.1 hnull⟩
  · next hdata =>
      split
      · next hlarge => exact .inl ⟨⟨_, rfl⟩, fun haccepted => haccepted.2 hlarge⟩
      · next hsizes =>
          refine .inr ⟨?_, hdata, hsizes⟩
          have hvalid : validArgumentArrays
              [⟨some key, key.length, .Text⟩, ⟨some (data.getD []), size, .Blob⟩] = none := by
            unfold validArgumentArrays
            simp
          rw [execBind_eq hopen _ hvalid]
          refine ⟨_, _, rfl, ?_, fun run hrows => execOutcome_value _ _ _ hrows⟩
          simp only [Request.change, List.map_cons, List.map_nil, boundTyped, Value.text,
            Value.blob, Int.toNat_natCast, List.take_length]
          rfl

/-- Every write but `putAll` is refused at once or is one statement. -/
theorem write_cases (write : Write) :
    (∃ values, write = .putAll values) ∨
      ((∃ error, store.write write = .done ⟨false, some error⟩) ∧ ¬ write.Accepted) ∨
      (IsOneStatement write.apply (store.write write) ∧ write.Accepted) := by
  cases write with
  | put key value => exact .inr (.inr ⟨put_isOneStatement hopen key value, trivial⟩)
  | putAll values => exact .inl ⟨values, rfl⟩
  | putBlob key data size => exact .inr (putBlob_cases hopen key data size)
  | remove key => exact .inr (.inr ⟨remove_isOneStatement hopen key, trivial⟩)
  | clear => exact .inr (.inr ⟨clear_isOneStatement hopen, trivial⟩)

end OpenStore

end ElapPlatform.Storage
