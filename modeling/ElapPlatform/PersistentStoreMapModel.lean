import ElapPlatform.InteractionTranscript
import ElapPlatform.PersistentStoreWrites

/-!
# The map that a store stands for

The abstract machine is a map from keys to byte strings.  It says what the store
is for: a write that succeeds updates the map, and a read reports it.
-/

namespace ElapPlatform.Storage

open Interaction

/-! ## The abstract map -/

abbrev StoreMap := Bytes → Option Bytes

def putPair (map : StoreMap) (pair : Bytes × Bytes) : StoreMap :=
  Function.update map pair.1 (some pair.2)

def Write.update : Write → StoreMap → StoreMap
  | .put key value, map => putPair map (key, value)
  | .putAll values, map => values.foldl putPair map
  | .putBlob key data size, map => Function.update map key (some ((data.getD []).take size))
  | .remove key, map => Function.update map key none
  | .clear, _ => fun _ => none

/-- A call that has returned, with the statements it made and what SQLite replied. -/
structure Call where
  operation : Operation
  statements : List (Exchange Request Request.Reply)
  answer : Answer operation.Value

def AllSucceed (statements : List (Exchange Request Request.Reply)) : Prop :=
  ∀ exchange ∈ statements, exchange.1.Succeeded exchange.2

/-- A write returns `true` when its statements succeed, unless it refuses its arguments. -/
structure WriteStep (map : StoreMap) (succeeds : Prop) (write : Write) (answer : Answer Bool)
    (map' : StoreMap) : Prop where
  updated : map' = if answer.value then write.update map else map
  value_iff : answer.value = true ↔ succeeds ∧ write.Accepted

/-- A read changes nothing.  Only if its statement fails it sets the error text and
reports absence. -/
structure ReadStep {α : Type} (map : StoreMap) (succeeds : Prop) (expected : α → Prop)
    (absent : α) (answer : Answer α) (map' : StoreMap) : Prop where
  unchanged : map' = map
  found : succeeds → expected answer.value
  failed : ¬ succeeds → answer.value = absent
  error_iff : answer.error = none ↔ succeeds

/-- The keys of the map, each once and in ascending byte order. -/
def IsKeyList (map : StoreMap) (keys : List Bytes) : Prop :=
  keys.Pairwise (· < ·) ∧ ∀ key, key ∈ keys ↔ (map key).isSome

def MapStep (map : StoreMap) : Call → StoreMap → Prop
  | ⟨.write write, statements, answer⟩ => WriteStep map (AllSucceed statements) write answer
  | ⟨.get key, statements, answer⟩ =>
      ReadStep map (AllSucceed statements) (· = (map key).map cString) none answer
  | ⟨.getBlob key, statements, answer⟩ =>
      ReadStep map (AllSucceed statements) (· = (map key).getD []) [] answer
  | ⟨.has key, statements, answer⟩ =>
      ReadStep map (AllSucceed statements) (· = (map key).isSome) false answer
  | ⟨.keys, statements, answer⟩ =>
      ReadStep map (AllSucceed statements) (IsKeyList map) [] answer

/-- The map that a table stands for. -/
def contents (table : Table) : StoreMap := fun key => table[key]?.map StoredValue.bytes

def KeysNulFree (table : Table) : Prop := ∀ key ∈ table, NulFree key

/-- The keys and string values of a call contain no NUL. -/
def Operation.NulFree : Operation → Prop
  | .write (.put key value) => ElapPlatform.NulFree key ∧ ElapPlatform.NulFree value
  | .write (.putAll values) =>
      ∀ pair ∈ values, ElapPlatform.NulFree pair.1 ∧ ElapPlatform.NulFree pair.2
  | .write (.putBlob key _ _) => ElapPlatform.NulFree key
  | .write (.remove key) => ElapPlatform.NulFree key
  | .write .clear => True
  | .get key => ElapPlatform.NulFree key
  | .getBlob key => ElapPlatform.NulFree key
  | .has key => ElapPlatform.NulFree key
  | .keys => True

instance (operation : Operation) : Decidable operation.NulFree :=
  match operation with
  | .write (.put key value) =>
      inferInstanceAs (Decidable (ElapPlatform.NulFree key ∧ ElapPlatform.NulFree value))
  | .write (.putAll values) =>
      inferInstanceAs (Decidable
        (∀ pair ∈ values, ElapPlatform.NulFree pair.1 ∧ ElapPlatform.NulFree pair.2))
  | .write (.putBlob key _ _) => inferInstanceAs (Decidable (ElapPlatform.NulFree key))
  | .write (.remove key) => inferInstanceAs (Decidable (ElapPlatform.NulFree key))
  | .write .clear => inferInstanceAs (Decidable True)
  | .get key => inferInstanceAs (Decidable (ElapPlatform.NulFree key))
  | .getBlob key => inferInstanceAs (Decidable (ElapPlatform.NulFree key))
  | .has key => inferInstanceAs (Decidable (ElapPlatform.NulFree key))
  | .keys => inferInstanceAs (Decidable True)

/-! ## Statements of a call -/

section Statements

variable {statements : List (Exchange Request Request.Reply)} {request : Request}
  {reply : request.Reply}

theorem allSucceed_nil : AllSucceed [] := by
  intro exchange hmem
  cases hmem

theorem allSucceed_cons_iff :
    AllSucceed (⟨request, reply⟩ :: statements) ↔
      request.Succeeded reply ∧ AllSucceed statements := by
  unfold AllSucceed
  rw [List.forall_mem_cons]

theorem allSucceed_singleton_iff :
    AllSucceed [⟨request, reply⟩] ↔ request.Succeeded reply := by
  rw [allSucceed_cons_iff]
  exact and_iff_left allSucceed_nil

end Statements

/-! ## Tables and maps -/

theorem contents_insert (table : Table) (key : Bytes) (value : StoredValue) :
    contents (table.insert key value) =
      Function.update (contents table) key (some value.bytes) := by
  funext other
  unfold contents
  rw [Std.ExtTreeMap.getElem?_insert]
  by_cases hsame : key = other
  · subst hsame
    simp
  · have hne : compare key other ≠ .eq := by
      rwa [ne_eq, Std.compare_eq_iff_eq]
    rw [if_neg hne, Function.update_of_ne (Ne.symm hsame)]

theorem contents_erase (table : Table) (key : Bytes) :
    contents (table.erase key) = Function.update (contents table) key none := by
  funext other
  unfold contents
  rw [Std.ExtTreeMap.getElem?_erase]
  by_cases hsame : key = other
  · subst hsame
    simp
  · have hne : compare key other ≠ .eq := by
      rwa [ne_eq, Std.compare_eq_iff_eq]
    rw [if_neg hne, Function.update_of_ne (Ne.symm hsame)]

theorem contents_insertPair {table : Table} {pair : Bytes × Bytes} (hkey : NulFree pair.1)
    (hvalue : NulFree pair.2) :
    contents (insertPair table pair) = putPair (contents table) pair := by
  unfold insertPair putPair
  rw [contents_insert, cString_eq_self hkey, cString_eq_self hvalue]
  rfl

theorem contents_insertPairs {table : Table} {values : List (Bytes × Bytes)}
    (hfree : ∀ pair ∈ values, NulFree pair.1 ∧ NulFree pair.2) :
    contents (values.foldl insertPair table) = values.foldl putPair (contents table) := by
  induction values generalizing table with
  | nil => rfl
  | cons pair values ih =>
      have hpair := hfree pair List.mem_cons_self
      rw [List.foldl_cons, List.foldl_cons, ← contents_insertPair hpair.1 hpair.2]
      exact ih fun other hmem => hfree other (List.mem_cons_of_mem pair hmem)

/-- On keys and values without NUL a write does to the map what its name says. -/
theorem contents_apply {write : Write} (hfree : (Operation.write write).NulFree)
    (table : Table) :
    contents (write.apply table) = write.update (contents table) := by
  cases write with
  | put key value => exact contents_insertPair hfree.1 hfree.2
  | putAll values => exact contents_insertPairs hfree
  | putBlob key data size => exact contents_insert table key _
  | remove key =>
      unfold Write.apply Write.update
      rw [contents_erase, cString_eq_self hfree]
  | clear =>
      funext key
      simp [contents, Write.apply, Write.update]

theorem KeysNulFree.insert {table : Table} (hkeys : KeysNulFree table) {key : Bytes}
    (hkey : NulFree key) (value : StoredValue) : KeysNulFree (table.insert key value) := by
  intro other hmem
  rw [Std.ExtTreeMap.mem_insert] at hmem
  rcases hmem with hsame | hmem
  · rw [Std.compare_eq_iff_eq] at hsame
    exact hsame ▸ hkey
  · exact hkeys other hmem

theorem KeysNulFree.apply {table : Table} (hkeys : KeysNulFree table) {write : Write}
    (hfree : (Operation.write write).NulFree) : KeysNulFree (write.apply table) := by
  cases write with
  | put key value => exact hkeys.insert (cString_nulFree key) _
  | putAll values =>
      change KeysNulFree (values.foldl insertPair table)
      clear hfree
      induction values generalizing table with
      | nil => exact hkeys
      | cons pair values ih => exact ih (hkeys.insert (cString_nulFree pair.1) _)
  | putBlob key data size => exact hkeys.insert hfree _
  | remove key =>
      intro other hmem
      exact hkeys other (Std.ExtTreeMap.mem_of_mem_erase hmem)
  | clear =>
      intro other hmem
      exact absurd hmem Std.ExtTreeMap.not_mem_empty

/-- A write that takes effect exactly when it returns `true` is a step of the map. -/
theorem writeStep_of_committed {write : Write} (hfree : (Operation.write write).NulFree)
    {table table' : Table} (hkeys : KeysNulFree table) {succeeds : Prop} {answer : Answer Bool}
    (hcommitted : table' = if answer.value then write.apply table else table)
    (hvalue : answer.value = true ↔ succeeds ∧ write.Accepted) :
    WriteStep (contents table) succeeds write answer (contents table') ∧ KeysNulFree table' := by
  subst hcommitted
  split
  · next htrue =>
      refine ⟨⟨?_, hvalue⟩, hkeys.apply hfree⟩
      rw [if_pos htrue]
      exact contents_apply hfree table
  · next hfalse =>
      refine ⟨⟨?_, hvalue⟩, hkeys⟩
      rw [if_neg hfalse]

end ElapPlatform.Storage
