import ElapPlatform.DatabaseStatements

/-!
# Operations of `PersistentStore`

Nine operations over the one table `kv_store`.  Keys and string values are
bound as C strings except by `putBlob`, which binds key and blob by size.
-/

namespace ElapPlatform.Storage

open Interaction Interaction.Program

structure PersistentStore where
  db : Database
  deriving DecidableEq, Repr

def intMax : ℕ := 2 ^ 31 - 1

namespace PersistentStore

def put (store : PersistentStore) (key value : Bytes) : DatabaseProgram (Answer Bool) :=
  store.db.execWithArgs .insertOrReplace [some key, some value]

/-- The loop of `putAll` and the `COMMIT` after it. -/
def putAllFrom (store : PersistentStore) :
    List (Bytes × Bytes) → DatabaseProgram (Answer Bool)
  | (key, value) :: values => do
      let written ← store.put key value
      if !written.value then
        let originalError := written.error
        let _ ← store.db.execute .rollback
        return ⟨false, originalError⟩
      store.putAllFrom values
  | [] => do
      let committed ← store.db.execute .commit
      if !committed.value then
        let originalError := committed.error
        let _ ← store.db.execute .rollback
        return ⟨false, originalError⟩
      return ⟨true, none⟩

def putAll (store : PersistentStore) (values : List (Bytes × Bytes)) :
    DatabaseProgram (Answer Bool) := do
  let began ← store.db.execute .beginImmediate
  if !began.value then
    return ⟨false, began.error⟩
  store.putAllFrom values

def putBlob (store : PersistentStore) (key : Bytes) (data : Option Bytes) (size : ℕ) :
    DatabaseProgram (Answer Bool) := do
  if data = none ∧ size > 0 then
    return ⟨false, some (.message "putBlob failed: data is null")⟩
  if key.length > intMax ∨ size > intMax then
    return ⟨false, some (.message "putBlob failed: key or blob is too large")⟩
  store.db.execBind .insertOrReplace
    [⟨some key, key.length, .Text⟩, ⟨some (data.getD []), size, .Blob⟩]

def remove (store : PersistentStore) (key : Bytes) : DatabaseProgram (Answer Bool) :=
  store.db.execWithArgs .deleteKey [some key]

def clear (store : PersistentStore) : DatabaseProgram (Answer Bool) :=
  store.db.execute .deleteAll

/-- `result` and `found`. -/
def getRow : Callback (Option Bytes × Bool) TextRow := fun state row =>
  match row.argv.head? with
  | some (some text) => ((some (cString text), true), true)
  | _ => (state, true)

def get (store : PersistentStore) (key : Bytes) :
    DatabaseProgram (Answer (Option Bytes)) := do
  let queried ← store.db.queryWithArgs .selectValue [some key] getRow (none, false)
  return ⟨if queried.ok && queried.state.2 then queried.state.1 else none, queried.error⟩

def hasRow : Callback Bool TextRow := fun _ _ => (true, true)

def has (store : PersistentStore) (key : Bytes) : DatabaseProgram (Answer Bool) := do
  let queried ← store.db.queryWithArgs .selectOne [some key] hasRow false
  return ⟨queried.ok && queried.state, queried.error⟩

def getBlobRow : Callback Bytes (List Column) := fun result columns =>
  match columns.head? with
  | some ⟨some data, size, _⟩ => (if size > 0 then data.take size else result, true)
  | _ => (result, true)

def getBlob (store : PersistentStore) (key : Bytes) : DatabaseProgram (Answer Bytes) := do
  let queried ← store.db.queryBlobWithArgs .selectValue [some key] getBlobRow []
  return ⟨if !queried.ok then [] else queried.state, queried.error⟩

def keysRow : Callback (List Bytes) TextRow := fun result row =>
  match row.argv.head? with
  | some (some text) => (result ++ [cString text], true)
  | _ => (result, true)

def keys (store : PersistentStore) : DatabaseProgram (Answer (List Bytes)) := do
  let queried ← store.db.query .selectKeys keysRow []
  return ⟨if !queried.ok then [] else queried.state, queried.error⟩

end PersistentStore

/-! ## The operations as one type -/

inductive Write where
  | put (key value : Bytes)
  | putAll (values : List (Bytes × Bytes))
  | putBlob (key : Bytes) (data : Option Bytes) (size : ℕ)
  | remove (key : Bytes)
  | clear
  deriving DecidableEq, Repr

inductive Operation where
  | write (write : Write)
  | get (key : Bytes)
  | getBlob (key : Bytes)
  | has (key : Bytes)
  | keys
  deriving DecidableEq, Repr

def Operation.Value : Operation → Type
  | .write _ => Bool
  | .get _ => Option Bytes
  | .getBlob _ => Bytes
  | .has _ => Bool
  | .keys => List Bytes

namespace PersistentStore

def write (store : PersistentStore) : Write → DatabaseProgram (Answer Bool)
  | .put key value => store.put key value
  | .putAll values => store.putAll values
  | .putBlob key data size => store.putBlob key data size
  | .remove key => store.remove key
  | .clear => store.clear

def operate (store : PersistentStore) :
    (operation : Operation) → DatabaseProgram (Answer operation.Value)
  | .write write => store.write write
  | .get key => store.get key
  | .getBlob key => store.getBlob key
  | .has key => store.has key
  | .keys => store.keys

end PersistentStore

/-! ## The statements of an open store -/

section OpenStore

variable {store : PersistentStore} (hopen : store.db.isOpen = true)
include hopen

theorem execute_eq (sql : Sql) :
    store.db.execute sql =
      .ask (Request.exec sql) fun reply => .done (executeOutcome reply) := by
  unfold Database.execute
  rw [hopen]
  rfl

theorem execWithArgs_eq (sql : Sql) (values : List (Option Bytes)) :
    store.db.execWithArgs sql values =
      .ask (Request.statement sql (values.map boundText)) fun run =>
        .done (execOutcome "exec failed: " (values.map boundText) run) := by
  unfold Database.execWithArgs
  rw [hopen]
  rfl

theorem execBind_eq (sql : Sql) {arguments : List TypedArgument}
    (hvalid : validArgumentArrays arguments = none) :
    store.db.execBind sql arguments =
      .ask (Request.statement sql (arguments.map boundTyped)) fun run =>
        .done (execOutcome "exec bind failed: " (arguments.map boundTyped) run) := by
  unfold Database.execBind
  rw [hopen, hvalid]
  rfl

theorem runQuery_eq {σ ρ : Type} (row : List String → List Value → ρ) (sql : Sql)
    (arguments : List Value) (callback : Callback σ ρ) (start : σ) :
    store.db.runQuery row sql arguments callback start =
      .ask (Request.statement sql arguments) fun run =>
        .done (queryOutcome row callback start arguments run) := by
  unfold Database.runQuery
  rw [hopen]
  rfl

theorem putAllFrom_cons_eq (key value : Bytes) (values : List (Bytes × Bytes)) :
    store.putAllFrom ((key, value) :: values) =
      .ask (Request.statement .insertOrReplace ([some key, some value].map boundText))
        fun run =>
          if (execOutcome "exec failed: " ([some key, some value].map boundText) run).value
          then store.putAllFrom values
          else .ask (Request.exec .rollback) fun _ => .done ⟨false,
            (execOutcome "exec failed: " ([some key, some value].map boundText) run).error⟩ := by
  simp only [PersistentStore.putAllFrom, PersistentStore.put, execWithArgs_eq hopen,
    execute_eq hopen, ask_bind, done_bind, pure_eq_done]
  congr 1
  funext run
  split <;> simp_all

theorem putAllFrom_nil_eq :
    store.putAllFrom [] =
      .ask (Request.exec .commit) fun reply =>
        if (executeOutcome reply).value then .done ⟨true, none⟩
        else .ask (Request.exec .rollback) fun _ =>
          .done ⟨false, (executeOutcome reply).error⟩ := by
  simp only [PersistentStore.putAllFrom, execute_eq hopen, ask_bind, done_bind, pure_eq_done]
  congr 1
  funext reply
  split <;> simp_all

theorem putAll_eq (values : List (Bytes × Bytes)) :
    store.putAll values =
      .ask (Request.exec .beginImmediate) fun reply =>
        if (executeOutcome reply).value then store.putAllFrom values
        else .done ⟨false, (executeOutcome reply).error⟩ := by
  simp only [PersistentStore.putAll, execute_eq hopen, ask_bind, done_bind, pure_eq_done]
  congr 1
  funext reply
  split <;> simp_all

end OpenStore

end ElapPlatform.Storage
