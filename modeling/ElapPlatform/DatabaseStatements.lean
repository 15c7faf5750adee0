import ElapPlatform.SqliteEngine

/-!
# Statements of `Database`

Each function runs one statement and turns the codes of SQLite into a Boolean
and an error text.  An array argument is a list, so the null arrays and the
negative counts that the source also rejects do not arise.
-/

namespace ElapPlatform.Storage

open Interaction Interaction.Program

/-- A returned value and the text written through `errorMessage`, if any. -/
structure Answer (α : Type) where
  value : α
  error : Option ErrorText
  deriving DecidableEq, Repr

abbrev DatabaseProgram (α : Type) := Program Request Request.Reply α

def sqliteExec (sql : Sql) : DatabaseProgram ExecReply :=
  .ask (Request.exec sql) .done

def prepareOnly (sql : Sql) : DatabaseProgram PrepareReply :=
  .ask (Request.prepare sql) .done

def runStatement (sql : Sql) (arguments : List Value) : DatabaseProgram StatementRun :=
  .ask (Request.statement sql arguments) .done

structure Database where
  isOpen : Bool
  deriving DecidableEq, Repr

def notOpen : ErrorText := .message "database is not open"

/-! ## Binding -/

inductive BindType where
  | Text
  | Blob
  deriving DecidableEq, Repr

/-- A pointer with the bytes that may be read there, its size and its type. -/
structure TypedArgument where
  value : Option Bytes
  size : ℤ
  type : BindType
  deriving DecidableEq, Repr

/-- `sqlite3_bind_text` with length -1, or `sqlite3_bind_null`. -/
def boundText : Option Bytes → Value
  | none => .null
  | some text => .text (cString text)

def boundTyped (argument : TypedArgument) : Value :=
  match argument.value, argument.type with
  | none, _ => .null
  | some bytes, .Blob => .blob (bytes.take argument.size.toNat)
  | some bytes, .Text => .text (bytes.take argument.size.toNat)

def validArgumentArrays (arguments : List TypedArgument) : Option ErrorText :=
  if arguments.any fun argument => argument.value.isSome && argument.size < 0 then
    some (.message "argument size must not be negative")
  else none

/-- The loop of `bindTextArgs` and `bindTypedArgs` over the codes of the binds. -/
def bindFailure (run : StatementRun) (arguments : List Value) : Option ErrorText :=
  if (List.range arguments.length).all fun index => run.bindRc index = SQLITE_OK then none
  else some (.message ("bind failed: " ++ run.errmsg))

theorem bindFailure_eq_none_iff {run : StatementRun} {arguments : List Value} :
    bindFailure run arguments = none ↔
      ∀ index < arguments.length, run.bindRc index = SQLITE_OK := by
  unfold bindFailure
  simp

/-! ## Statements without rows -/

def executeOutcome (reply : ExecReply) : Answer Bool :=
  if reply.rc ≠ SQLITE_OK then
    ⟨false, some (.message ("execute failed: " ++ reply.errMsg.getD reply.errstr))⟩
  else ⟨true, none⟩

def Database.execute (database : Database) (sql : Sql) : DatabaseProgram (Answer Bool) := do
  if !database.isOpen then
    return ⟨false, some notOpen⟩
  let reply ← sqliteExec sql
  return executeOutcome reply

/-- The code of the first `sqlite3_step`. -/
def StatementRun.firstStep (run : StatementRun) : ResultCode :=
  if run.rows.isEmpty then run.finalRc else SQLITE_ROW

def execOutcome (failure : String) (arguments : List Value) (run : StatementRun) :
    Answer Bool :=
  if run.prepareRc ≠ SQLITE_OK then
    ⟨false, some (.message ("prepare failed: " ++ run.errmsg))⟩
  else
    match bindFailure run arguments with
    | some error => ⟨false, some error⟩
    | none =>
        if run.firstStep ≠ SQLITE_DONE ∧ run.firstStep ≠ SQLITE_ROW then
          ⟨false, some (.message (failure ++ run.errmsg))⟩
        else ⟨true, none⟩

def Database.execWithArgs (database : Database) (sql : Sql) (values : List (Option Bytes)) :
    DatabaseProgram (Answer Bool) := do
  if !database.isOpen then
    return ⟨false, some notOpen⟩
  let run ← runStatement sql (values.map boundText)
  return execOutcome "exec failed: " (values.map boundText) run

def Database.execBind (database : Database) (sql : Sql) (arguments : List TypedArgument) :
    DatabaseProgram (Answer Bool) := do
  if !database.isOpen then
    return ⟨false, some notOpen⟩
  match validArgumentArrays arguments with
  | some error =>
      let prepared ← prepareOnly sql
      if prepared.rc ≠ SQLITE_OK then
        return ⟨false, some (.message ("prepare failed: " ++ prepared.errmsg))⟩
      return ⟨false, some error⟩
  | none =>
      let run ← runStatement sql (arguments.map boundTyped)
      return execOutcome "exec bind failed: " (arguments.map boundTyped) run

theorem executeOutcome_value {sql : Sql} {reply : ExecReply} :
    (executeOutcome reply).value = true ↔ (Request.exec sql).Succeeded reply := by
  rw [exec_succeeded_iff]
  unfold executeOutcome
  split <;> simp_all

theorem execOutcome_value (failure : String) (sql : Sql) (arguments : List Value)
    {run : StatementRun} (hrows : run.rows = []) :
    (execOutcome failure arguments run).value = true ↔
      (Request.statement sql arguments).Succeeded run := by
  have hfirst : run.firstStep = run.finalRc := by
    unfold StatementRun.firstStep
    rw [hrows]
    rfl
  rw [statement_succeeded_iff, ← bindFailure_eq_none_iff]
  unfold execOutcome
  rw [hfirst]
  have hfinal := run.finalRc_ne_row
  split
  · simp_all
  · split
    · simp_all
    · split <;> simp_all

/-! ## Queries -/

def decimal (number : ℤ) : Bytes := (toString number).toList.map Char.toUInt8

/-- The memory at `sqlite3_column_text`, which a NUL ends. -/
def columnText : Value → Option Bytes
  | .null => none
  | .integer number => some (decimal number)
  | .stored value => some value.bytes

def columnBytes (value : Value) : ℕ := ((columnText value).getD []).length

/-- `sqlite3_column_blob` is null for an empty blob. -/
def columnBlob (value : Value) : Option Bytes :=
  if columnBytes value = 0 then none else columnText value

structure TextRow where
  argv : List (Option Bytes)
  colName : List String
  deriving DecidableEq, Repr

structure Column where
  data : Option Bytes
  size : ℕ
  name : String
  deriving DecidableEq, Repr

def textRow (names : List String) (values : List Value) : TextRow :=
  ⟨values.map columnText, names⟩

def blobRow (names : List String) (values : List Value) : List Column :=
  values.mapIdx fun index value => ⟨columnBlob value, columnBytes value, names.getD index ""⟩

/-- A callback on a captured state; `false` ends the query. -/
abbrev Callback (σ ρ : Type) := σ → ρ → σ × Bool

def stepRows {σ ρ : Type} (callback : Callback σ ρ) : σ → List ρ → σ × Bool
  | state, [] => (state, true)
  | state, row :: rows =>
      let (next, accepted) := callback state row
      if accepted then stepRows callback next rows else (next, false)

structure QueryAnswer (σ : Type) where
  ok : Bool
  error : Option ErrorText
  state : σ
  deriving DecidableEq, Repr

/-- The loop that the four queries share. -/
def queryOutcome {σ ρ : Type} (row : List String → List Value → ρ)
    (callback : Callback σ ρ) (start : σ) (arguments : List Value) (run : StatementRun) :
    QueryAnswer σ :=
  if run.prepareRc ≠ SQLITE_OK then
    ⟨false, some (.message ("prepare query failed: " ++ run.errmsg)), start⟩
  else
    match bindFailure run arguments with
    | some error => ⟨false, some error, start⟩
    | none =>
        let (state, ok) := stepRows callback start (run.rows.map (row run.columns))
        let rc := if ok then run.finalRc else SQLITE_ROW
        if rc ≠ SQLITE_DONE ∧ rc ≠ SQLITE_ROW then
          ⟨false, some (.message ("step query failed: " ++ run.errmsg)), state⟩
        else ⟨ok, none, state⟩

def Database.runQuery {σ ρ : Type} (database : Database) (row : List String → List Value → ρ)
    (sql : Sql) (arguments : List Value) (callback : Callback σ ρ) (start : σ) :
    DatabaseProgram (QueryAnswer σ) := do
  if !database.isOpen then
    return ⟨false, some notOpen, start⟩
  let run ← runStatement sql arguments
  return queryOutcome row callback start arguments run

variable {σ : Type}

def Database.query (database : Database) (sql : Sql) (callback : Callback σ TextRow)
    (start : σ) : DatabaseProgram (QueryAnswer σ) :=
  database.runQuery textRow sql [] callback start

def Database.queryWithArgs (database : Database) (sql : Sql) (values : List (Option Bytes))
    (callback : Callback σ TextRow) (start : σ) : DatabaseProgram (QueryAnswer σ) :=
  database.runQuery textRow sql (values.map boundText) callback start

def Database.queryBlob (database : Database) (sql : Sql) (callback : Callback σ (List Column))
    (start : σ) : DatabaseProgram (QueryAnswer σ) :=
  database.runQuery blobRow sql [] callback start

def Database.queryBlobWithArgs (database : Database) (sql : Sql)
    (values : List (Option Bytes)) (callback : Callback σ (List Column)) (start : σ) :
    DatabaseProgram (QueryAnswer σ) :=
  database.runQuery blobRow sql (values.map boundText) callback start

theorem stepRows_of_accepting {ρ : Type} {callback : Callback σ ρ}
    (haccepts : ∀ state row, (callback state row).2 = true) (start : σ) (rows : List ρ) :
    stepRows callback start rows =
      (rows.foldl (fun state row => (callback state row).1) start, true) := by
  induction rows generalizing start with
  | nil => rfl
  | cons row rows ih =>
      unfold stepRows
      simp only [haccepts start row, if_true, List.foldl_cons]
      exact ih _

/-- A callback that accepts every row sees them all, and only SQLite can fail. -/
theorem queryOutcome_of_accepting {ρ : Type} (row : List String → List Value → ρ)
    {callback : Callback σ ρ} (haccepts : ∀ state row, (callback state row).2 = true)
    (start : σ) (sql : Sql) (arguments : List Value) (run : StatementRun) :
    ((Request.statement sql arguments).Succeeded run →
      queryOutcome row callback start arguments run =
        ⟨true, none, (run.rows.map (row run.columns)).foldl
          (fun state row => (callback state row).1) start⟩) ∧
    (¬ (Request.statement sql arguments).Succeeded run →
      (queryOutcome row callback start arguments run).ok = false ∧
        (queryOutcome row callback start arguments run).error ≠ none) := by
  have hfinal := run.finalRc_ne_row
  rw [statement_succeeded_iff, ← bindFailure_eq_none_iff]
  unfold queryOutcome
  rw [stepRows_of_accepting haccepts]
  split
  · simp_all
  · split
    · simp_all
    · simp_all

end ElapPlatform.Storage
