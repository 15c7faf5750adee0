import ElapPlatform.InteractionProgram
import ElapPlatform.PlatformBasics

/-!
# SQLite as the store uses it

`Database` talks to SQLite in whole statements: a text run by `sqlite3_exec`, or
a text that is prepared, bound and stepped.  The library itself is a parameter.
An `Engine` is any such library, and `Engine.Lawful` names the documented
behaviour that the store relies on.
-/

namespace ElapPlatform.Storage

open Interaction

abbrev ResultCode := ℕ

def SQLITE_OK : ResultCode := 0
def SQLITE_BUSY : ResultCode := 5
def SQLITE_ROW : ResultCode := 100
def SQLITE_DONE : ResultCode := 101

/-! ## Values and the stored table -/

inductive StoredValue where
  | text (bytes : Bytes)
  | blob (bytes : Bytes)
  deriving DecidableEq, Repr

def StoredValue.bytes : StoredValue → Bytes
  | .text bytes => bytes
  | .blob bytes => bytes

/-- A bound parameter or a result column. -/
inductive Value where
  | null
  | integer (number : ℤ)
  | stored (value : StoredValue)
  deriving DecidableEq, Repr

abbrev Value.text (bytes : Bytes) : Value := .stored (.text bytes)
abbrev Value.blob (bytes : Bytes) : Value := .stored (.blob bytes)

/-- The rows of `kv_store`, in the order of the BINARY collation of `key`. -/
abbrev Table := Std.ExtTreeMap Bytes StoredValue compare

theorem compare_byte_eq_lt_iff (left right : UInt8) :
    compare left right = .lt ↔ left < right := by
  simp only [compare, compareOfLessAndEq]
  split
  · simp_all
  · split <;> simp_all

theorem compare_bytes_eq_lt_iff (left right : Bytes) :
    compare left right = .lt ↔ left < right := by
  induction left generalizing right with
  | nil =>
      cases right with
      | nil => simp
      | cons byte' bytes' => simp [List.compare_nil_cons]
  | cons byte bytes ih =>
      cases right with
      | nil => simp [List.compare_cons_nil]
      | cons byte' bytes' =>
          rw [List.compare_cons_cons, Ordering.then_eq_lt, compare_byte_eq_lt_iff,
            Std.compare_eq_iff_eq, List.cons_lt_cons_iff, ih bytes']

/-! ## Statements -/

inductive Sql where
  /-- `INSERT OR REPLACE INTO kv_store (key, value) VALUES (?1, ?2)` -/
  | insertOrReplace
  /-- `SELECT value FROM kv_store WHERE key = ?1` -/
  | selectValue
  /-- `SELECT 1 FROM kv_store WHERE key = ?1` -/
  | selectOne
  /-- `SELECT key FROM kv_store ORDER BY key` -/
  | selectKeys
  /-- `DELETE FROM kv_store WHERE key = ?1` -/
  | deleteKey
  /-- `DELETE FROM kv_store` -/
  | deleteAll
  /-- `BEGIN IMMEDIATE TRANSACTION` -/
  | beginImmediate
  | commit
  | rollback
  deriving DecidableEq, Repr

/-- What `sqlite3_exec` returns; `errstr` is `sqlite3_errstr(rc)`. -/
structure ExecReply where
  rc : ResultCode
  errMsg : Option String
  errstr : String

structure PrepareReply where
  rc : ResultCode
  errmsg : String

/-- One use of a prepared statement: the codes of prepare and of every bind,
the rows that stepping yields, and the code after the last row. -/
structure StatementRun where
  prepareRc : ResultCode
  bindRc : ℕ → ResultCode
  columns : List String
  rows : List (List Value)
  finalRc : ResultCode
  finalRc_ne_row : finalRc ≠ SQLITE_ROW
  errmsg : String

inductive Request where
  | exec (sql : Sql)
  /-- A statement that is prepared and finalized without being stepped. -/
  | prepare (sql : Sql)
  | statement (sql : Sql) (arguments : List Value)
  deriving DecidableEq, Repr

def Request.Reply : Request → Type
  | .exec _ => ExecReply
  | .prepare _ => PrepareReply
  | .statement _ _ => StatementRun

def Request.Succeeded : (request : Request) → request.Reply → Prop
  | .exec _, reply => ExecReply.rc reply = SQLITE_OK
  | .prepare _, reply => PrepareReply.rc reply = SQLITE_OK
  | .statement _ arguments, run =>
      StatementRun.prepareRc run = SQLITE_OK ∧
        (∀ index < arguments.length, StatementRun.bindRc run index = SQLITE_OK) ∧
        StatementRun.finalRc run = SQLITE_DONE

theorem exec_succeeded_iff {sql : Sql} {reply : ExecReply} :
    (Request.exec sql).Succeeded reply ↔ reply.rc = SQLITE_OK := Iff.rfl

theorem statement_succeeded_iff {sql : Sql} {arguments : List Value} {run : StatementRun} :
    (Request.statement sql arguments).Succeeded run ↔
      run.prepareRc = SQLITE_OK ∧
        (∀ index < arguments.length, run.bindRc index = SQLITE_OK) ∧
        run.finalRc = SQLITE_DONE := Iff.rfl

/-- What a writing statement makes of the table. -/
def Request.change : Request → Option (Table → Table)
  | .exec .deleteAll => some fun _ => ∅
  | .statement .insertOrReplace [.stored (.text key), .stored value] =>
      some fun table => table.insert key value
  | .statement .deleteKey [.stored (.text key)] => some fun table => table.erase key
  | _ => none

/-- The rows that a reading statement yields. -/
def Request.selection : Request → Option (Table → List (List Value))
  | .statement .selectValue [.stored (.text key)] =>
      some fun table => (table[key]?.map fun value => [Value.stored value]).toList
  | .statement .selectOne [.stored (.text key)] =>
      some fun table => (table[key]?.map fun _ => [Value.integer 1]).toList
  | .statement .selectKeys [] =>
      some fun table => table.keys.map fun key => [Value.text key]
  | _ => none

def Request.Returns : (request : Request) → request.Reply → List (List Value) → Prop
  | .statement _ _, run, rows => StatementRun.rows run = rows
  | _, _, _ => True

theorem statement_returns_iff {sql : Sql} {arguments : List Value} {run : StatementRun}
    {rows : List (List Value)} :
    (Request.statement sql arguments).Returns run rows ↔ run.rows = rows := Iff.rfl

/-! ## The library -/

structure Engine (Connection : Type) where
  State : Type
  committed : State → Table
  view : State → Connection → Table
  inTransaction : State → Connection → Prop
  step : State → Connection → (request : Request) → request.Reply → State → Prop

/-- The documented behaviour that the store relies on. -/
structure Engine.Lawful {Connection : Type} (engine : Engine Connection) : Prop where
  /-- Outside a transaction a connection reads the committed table. -/
  view_outside : ∀ {state connection}, ¬ engine.inTransaction state connection →
    engine.view state connection = engine.committed state
  /-- A statement of one connection leaves the transactions of others alone. -/
  frame : ∀ {state connection request reply next other},
    engine.step state connection request reply next → other ≠ connection →
      (engine.inTransaction next other ↔ engine.inTransaction state other) ∧
        (engine.inTransaction state other → engine.view next other = engine.view state other)
  /-- A failed statement has no effect or rolls the transaction back. -/
  failed : ∀ {state connection request reply next},
    engine.step state connection request reply next → ¬ request.Succeeded reply →
      engine.committed next = engine.committed state ∧
        (¬ engine.inTransaction next connection ∨
          engine.inTransaction state connection ∧
            engine.view next connection = engine.view state connection)
  /-- `BEGIN IMMEDIATE` obtains the only write lock. -/
  begin_succeeded : ∀ {state connection reply next},
    engine.step state connection (.exec .beginImmediate) reply next →
    (Request.exec .beginImmediate).Succeeded reply →
      (∀ other, ¬ engine.inTransaction state other) ∧
        engine.inTransaction next connection ∧
        engine.view next connection = engine.committed state ∧
        engine.committed next = engine.committed state
  /-- A write outside a transaction commits at once, and needs the write lock. -/
  write_outside : ∀ {state connection request reply next change},
    engine.step state connection request reply next → request.Succeeded reply →
    request.change = some change → ¬ engine.inTransaction state connection →
      (∀ other, ¬ engine.inTransaction state other) ∧
        ¬ engine.inTransaction next connection ∧
        engine.committed next = change (engine.committed state)
  write_inside : ∀ {state connection request reply next change},
    engine.step state connection request reply next → request.Succeeded reply →
    request.change = some change → engine.inTransaction state connection →
      engine.inTransaction next connection ∧
        engine.view next connection = change (engine.view state connection) ∧
        engine.committed next = engine.committed state
  /-- Writing statements yield no rows. -/
  write_rows : ∀ {state connection request reply next change},
    engine.step state connection request reply next →
    request.change = some change → request.Returns reply []
  commit_succeeded : ∀ {state connection reply next},
    engine.step state connection (.exec .commit) reply next →
    (Request.exec .commit).Succeeded reply →
      engine.inTransaction state connection ∧
        engine.committed next = engine.view state connection ∧
        ¬ engine.inTransaction next connection
  /-- `ROLLBACK` ends an open transaction, and opens none. -/
  rollback_ends : ∀ {state connection reply next},
    engine.step state connection (.exec .rollback) reply next →
      engine.committed next = engine.committed state ∧
        ¬ engine.inTransaction next connection
  select_succeeded : ∀ {state connection request reply next selection},
    engine.step state connection request reply next → request.Succeeded reply →
    request.selection = some selection →
      request.Returns reply (selection (engine.view state connection)) ∧
        engine.committed next = engine.committed state ∧
        (engine.inTransaction next connection ↔ engine.inTransaction state connection) ∧
        engine.view next connection = engine.view state connection

end ElapPlatform.Storage
