import ElapPlatform.DatabaseQueryAgreement
import ElapPlatform.GrantLedger
import ElapPlatform.InteractionInterpretation

/-!
# Connections, statements and error texts of SQLite

`Database` owns a connection, a `Statement` on the stack owns a prepared statement, and a
text that `sqlite3_exec` allocates is the caller's to free.
-/

namespace ElapPlatform.Storage.Handles

open Interaction Interaction.Program

/-! ## The calls -/

abbrev ConnectionId := ℕ

/-- A statement belongs to the connection that prepared it. -/
structure StatementId where
  connection : ConnectionId
  serial : ℕ
  deriving DecidableEq, Repr

abbrev MessageId := ℕ

inductive Handle where
  | connection (connection : ConnectionId)
  | statement (statement : StatementId)
  | message (message : MessageId)
  deriving DecidableEq, Repr

/-- The calls on a prepared statement; a size of -1 reads up to the first NUL. -/
inductive StatementCall where
  | bindNull (parameter : ℕ)
  | bindText (parameter : ℕ) (text : Bytes) (size : ℤ)
  | bindBlob (parameter : ℕ) (blob : Bytes) (size : ℤ)
  | step
  | columnCount
  | columnText (column : ℕ)
  | columnBlob (column : ℕ)
  | columnBytes (column : ℕ)
  | columnName (column : ℕ)

abbrev StatementCall.Reply : StatementCall → Type
  | .bindNull _ => ResultCode
  | .bindText _ _ _ => ResultCode
  | .bindBlob _ _ _ => ResultCode
  | .step => ResultCode
  | .columnCount => ℕ
  | .columnText _ => Option Bytes
  | .columnBlob _ => Option Bytes
  | .columnBytes _ => ℕ
  | .columnName _ => String

/-- A pointer to a connection or a statement may be null. -/
inductive SqliteCall (Row : Type) where
  | openV2 (path : String)
  | close (db : Option ConnectionId)
  | closeV2 (db : Option ConnectionId)
  | busyTimeout (db : Option ConnectionId) (milliseconds : ℤ)
  | exec (db : Option ConnectionId) (sql : String)
  | free (message : MessageId)
  | prepareV2 (db : Option ConnectionId) (sql : String)
  | onStatement (stmt : Option StatementId) (call : StatementCall)
  | finalize (stmt : Option StatementId)
  | errmsg (db : Option ConnectionId)
  | errstr (rc : ResultCode)
  | lastInsertRowId (db : Option ConnectionId)
  | changes (db : Option ConnectionId)
  | callback (row : Row)

abbrev SqliteCall.Reply {Row : Type} : SqliteCall Row → Type
  | .openV2 _ => ResultCode × Option ConnectionId
  | .close _ => ResultCode
  | .closeV2 _ => ResultCode
  | .busyTimeout _ _ => ResultCode
  | .exec _ _ => ResultCode × Option (MessageId × String)
  | .free _ => Unit
  | .prepareV2 _ _ => ResultCode × Option StatementId
  | .onStatement _ call => call.Reply
  | .finalize _ => ResultCode
  | .errmsg _ => String
  | .errstr _ => String
  | .lastInsertRowId _ => ℤ
  | .changes _ => ℤ
  | .callback _ => Bool

abbrev SqliteProgram (Row α : Type) := Program (SqliteCall Row) SqliteCall.Reply α

/-! ## A statement on the stack -/

section Statements

variable {Row α : Type}

/-- The calls of a query, on the connection and the statement at hand. -/
def answerQuery (db : Option ConnectionId) (stmt : Option StatementId) :
    (call : Calls.QueryCall Row) → SqliteProgram Row (call.Reply × Option StatementId)
  | .prepare sql => .ask (SqliteCall.prepareV2 db sql) .done
  | .bindNull parameter =>
      .ask (SqliteCall.onStatement stmt (.bindNull parameter)) fun rc => .done (rc, stmt)
  | .bindText parameter text =>
      .ask (SqliteCall.onStatement stmt (.bindText parameter text (-1))) fun rc => .done (rc, stmt)
  | .step => .ask (SqliteCall.onStatement stmt .step) fun rc => .done (rc, stmt)
  | .columnCount =>
      .ask (SqliteCall.onStatement stmt .columnCount) fun count => .done (count, stmt)
  | .columnText column =>
      .ask (SqliteCall.onStatement stmt (.columnText column)) fun text => .done (text, stmt)
  | .columnBlob column =>
      .ask (SqliteCall.onStatement stmt (.columnBlob column)) fun blob => .done (blob, stmt)
  | .columnBytes column =>
      .ask (SqliteCall.onStatement stmt (.columnBytes column)) fun size => .done (size, stmt)
  | .columnName column =>
      .ask (SqliteCall.onStatement stmt (.columnName column)) fun name => .done (name, stmt)
  | .errmsg => .ask (SqliteCall.errmsg db) fun text => .done (text, stmt)
  | .callback row => .ask (SqliteCall.callback row) fun accepted => .done (accepted, stmt)

/-- `~Statement` -/
def destroyStatement : Option StatementId → SqliteProgram Row Unit
  | none => .done ()
  | some stmt => .ask (SqliteCall.finalize (some stmt)) fun _ => .done ()

/-- A `Statement` on the stack is destroyed on every way out. -/
def withStatement (db : Option ConnectionId) (program : Calls.QueryProgram Row α) :
    SqliteProgram Row α := do
  let (value, stmt) ← program.interpret (answerQuery db) none
  destroyStatement stmt
  return value

end Statements

/-! ## The class -/

structure Database where
  db : Option ConnectionId
  path : String
  deriving DecidableEq, Repr

namespace Database

def closed : Database := ⟨none, ""⟩

def isOpen (database : Database) : Bool := database.db.isSome

/-- The database as its statements see it. -/
def asStatements (database : Database) : Storage.Database := ⟨database.isOpen⟩

section Functions

variable {Row : Type}

def close (database : Database) : SqliteProgram Row Database := do
  if database.db.isSome then
    let _ ← perform (SqliteCall.closeV2 database.db)
  return closed

/-- The new database and what is left of the other, whose string is moved from. -/
def moveConstruct (other : Database) (path : String) : Database × Database :=
  (other, ⟨none, path⟩)

/-- `operator=` between two different databases. -/
def moveAssign (database other : Database) (path : String) :
    SqliteProgram Row (Database × Database) := do
  let _ ← database.close
  return other.moveConstruct path

def openFailure (path errstr : String) : ErrorText :=
  .message ("failed to open database '" ++ path ++ "': " ++ errstr)

def «open» (database : Database) (path : String) : SqliteProgram Row (ObjectAnswer Database) := do
  let closed ← database.close
  let (rc, db) ← perform (SqliteCall.openV2 path)
  if rc ≠ SQLITE_OK then
    if db.isSome then
      let _ ← perform (SqliteCall.close db)
    return ⟨some (openFailure path (← perform (SqliteCall.errstr rc))), closed⟩
  let _ ← perform (SqliteCall.busyTimeout db 1000)
  return ⟨none, ⟨db, path⟩⟩

def execute (database : Database) (sql : String) : SqliteProgram Row (Answer Bool) := do
  if database.db.isNone then return ⟨false, some notOpen⟩
  let (rc, errMsg) ← perform (SqliteCall.exec database.db sql)
  if rc ≠ SQLITE_OK then
    match errMsg with
    | some (message, text) =>
        let _ ← perform (SqliteCall.free message)
        return ⟨false, some (.message ("execute failed: " ++ text))⟩
    | none =>
        let text ← perform (SqliteCall.errstr rc)
        return ⟨false, some (.message ("execute failed: " ++ text))⟩
  return ⟨true, none⟩

def lastInsertRowId (database : Database) : SqliteProgram Row ℤ := do
  if database.db.isNone then return 0
  perform (SqliteCall.lastInsertRowId database.db)

def changes (database : Database) : SqliteProgram Row ℤ := do
  if database.db.isNone then return 0
  perform (SqliteCall.changes database.db)

end Functions

/-! ## Queries -/

def query (database : Database) (sql : String) (rounds : ℕ) :
    SqliteProgram TextRow (Option (Answer Bool)) :=
  withStatement database.db (Calls.query database.asStatements sql rounds)

def queryWithArgs (database : Database) (sql : String) (argc : ℤ)
    (values : Calls.ArgumentArray (Option Bytes)) (rounds : ℕ) :
    SqliteProgram TextRow (Option (Answer Bool)) :=
  withStatement database.db (Calls.queryWithArgs database.asStatements sql argc values rounds)

def queryBlob (database : Database) (sql : String) (rounds : ℕ) :
    SqliteProgram (List Column) (Option (Answer Bool)) :=
  withStatement database.db (Calls.queryBlob database.asStatements sql rounds)

def queryBlobWithArgs (database : Database) (sql : String) (argc : ℤ)
    (values : Calls.ArgumentArray (Option Bytes)) (rounds : ℕ) :
    SqliteProgram (List Column) (Option (Answer Bool)) :=
  withStatement database.db (Calls.queryBlobWithArgs database.asStatements sql argc values rounds)

end Database

/-! ## Statements without rows -/

section Execution

variable {Row : Type}

/-- `execWithArgs` over the calls of a query; it has no callback. -/
def execWithArgsCalls (database : Storage.Database) (sql : String) (argc : ℤ)
    (values : Calls.ArgumentArray (Option Bytes)) : Calls.QueryProgram Row (Answer Bool) := do
  if !database.isOpen then return ⟨false, some notOpen⟩
  let rc ← Calls.prepare sql
  if rc ≠ SQLITE_OK then
    return ⟨false, some (.message ("prepare failed: " ++ (← Calls.errmsg)))⟩
  match ← Calls.bindTextArgs argc values with
  | some error => return ⟨false, some error⟩
  | none =>
    let rc ← Calls.step
    if rc ≠ SQLITE_DONE ∧ rc ≠ SQLITE_ROW then
      return ⟨false, some (.message ("exec failed: " ++ (← Calls.errmsg)))⟩
    return ⟨true, none⟩

def Database.execWithArgs (database : Database) (sql : String) (argc : ℤ)
    (values : Calls.ArgumentArray (Option Bytes)) : SqliteProgram Row (Answer Bool) :=
  withStatement database.db (execWithArgsCalls database.asStatements sql argc values)

def bindTypedArg (stmt : Option StatementId) (parameter : ℕ) (size : ℤ) (type : BindType) :
    Option Bytes → SqliteProgram Row ResultCode
  | none => perform (SqliteCall.onStatement stmt (.bindNull parameter))
  | some bytes =>
      match type with
      | .Blob => perform (SqliteCall.onStatement stmt (.bindBlob parameter bytes size))
      | .Text => perform (SqliteCall.onStatement stmt (.bindText parameter bytes size))

/-- The loop of `bindTypedArgs`, with `left` arguments from the `i`-th on. -/
def bindTypedFrom (db : Option ConnectionId) (stmt : Option StatementId)
    (values : ℕ → Option Bytes) (sizes : ℕ → ℤ) (types : ℕ → BindType) :
    ℕ → ℕ → SqliteProgram Row (Option ErrorText)
  | 0, _ => return none
  | left + 1, i => do
      let rc ← bindTypedArg stmt (i + 1) (sizes i) (types i) (values i)
      if rc ≠ SQLITE_OK then
        return some (.message ("bind failed: " ++ (← perform (SqliteCall.errmsg db))))
      bindTypedFrom db stmt values sizes types left (i + 1)

def bindTypedArgs (db : Option ConnectionId) (stmt : Option StatementId) (argc : ℤ)
    (values : Calls.ArgumentArray (Option Bytes)) (sizes : Calls.ArgumentArray ℤ)
    (types : Calls.ArgumentArray BindType) : SqliteProgram Row (Option ErrorText) :=
  match Calls.validArgumentArrays argc values sizes types with
  | some error => return some error
  | none =>
      if 0 < argc ∧ (sizes.isNone ∨ types.isNone) then
        return some (.message "typed bind metadata is null")
      else
        bindTypedFrom db stmt (values.getD fun _ => none) (sizes.getD fun _ => 0)
          (types.getD fun _ => .Text) argc.toNat 0

/-- `execBind` behind its `prepare`. -/
def execPrepared (db : Option ConnectionId) (stmt : Option StatementId) (rc : ResultCode)
    (argc : ℤ) (values : Calls.ArgumentArray (Option Bytes)) (sizes : Calls.ArgumentArray ℤ)
    (types : Calls.ArgumentArray BindType) : SqliteProgram Row (Answer Bool) := do
  if rc ≠ SQLITE_OK then
    return ⟨false, some (.message ("prepare failed: " ++ (← perform (SqliteCall.errmsg db))))⟩
  match ← bindTypedArgs db stmt argc values sizes types with
  | some error => return ⟨false, some error⟩
  | none =>
    let rc ← perform (SqliteCall.onStatement stmt .step)
    if rc ≠ SQLITE_DONE ∧ rc ≠ SQLITE_ROW then
      return ⟨false, some (.message ("exec bind failed: " ++ (← perform (SqliteCall.errmsg db))))⟩
    return ⟨true, none⟩

def Database.execBind (database : Database) (sql : String) (argc : ℤ)
    (values : Calls.ArgumentArray (Option Bytes)) (sizes : Calls.ArgumentArray ℤ)
    (types : Calls.ArgumentArray BindType) : SqliteProgram Row (Answer Bool) := do
  if database.db.isNone then return ⟨false, some notOpen⟩
  let (rc, stmt) ← perform (SqliteCall.prepareV2 database.db sql)
  let answer ← execPrepared database.db stmt rc argc values sizes types
  destroyStatement stmt
  return answer

end Execution

/-! ## Opening a store -/

def createTable : String :=
  "CREATE TABLE IF NOT EXISTS kv_store (" ++ "  key   TEXT PRIMARY KEY," ++
    "  value BLOB NOT NULL" ++ ")"

/-- `PersistentStore::open` -/
def openStore {Row : Type} (database : Database) (path : String) :
    SqliteProgram Row (ObjectAnswer Database) := do
  let opened ← database.open path
  if opened.error.isSome then return opened
  let ensured ← opened.object.execute createTable
  if !ensured.value then
    return ⟨ensured.error, ← opened.object.close⟩
  return ⟨none, opened.object⟩

end ElapPlatform.Storage.Handles
