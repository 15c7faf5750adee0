import ElapPlatform.DatabaseStatements
import ElapPlatform.InteractionEvaluation

/-!
# The four query functions, call by call

`query`, `queryWithArgs`, `queryBlob` and `queryBlobWithArgs` as programs over the calls
of SQLite and of the row callback.  The statement they work on is one behaviour of a
prepared statement; how long they may step is bounded by a number of rounds.
-/

namespace ElapPlatform.Storage.Calls

open Interaction Interaction.Program

/-! ## The calls -/

/-- `Row` is what the callback is handed. -/
inductive QueryCall (Row : Type) where
  | prepare (sql : String)
  | bindNull (parameter : ℕ)
  /-- `sqlite3_bind_text` with length -1. -/
  | bindText (parameter : ℕ) (text : Bytes)
  | step
  | columnCount
  | columnText (column : ℕ)
  | columnBlob (column : ℕ)
  | columnBytes (column : ℕ)
  | columnName (column : ℕ)
  | errmsg
  | callback (row : Row)

abbrev QueryCall.Reply {Row : Type} : QueryCall Row → Type
  | .prepare _ => ResultCode
  | .bindNull _ => ResultCode
  | .bindText _ _ => ResultCode
  | .step => ResultCode
  | .columnCount => ℕ
  | .columnText _ => Option Bytes
  | .columnBlob _ => Option Bytes
  | .columnBytes _ => ℕ
  | .columnName _ => String
  | .errmsg => String
  | .callback _ => Bool

abbrev QueryProgram (Row α : Type) := Program (QueryCall Row) QueryCall.Reply α

section Calls

variable {Row : Type}

def prepare (sql : String) : QueryProgram Row ResultCode := .ask (QueryCall.prepare sql) .done

def bindNull (parameter : ℕ) : QueryProgram Row ResultCode :=
  .ask (QueryCall.bindNull parameter) .done

def bindText (parameter : ℕ) (text : Bytes) : QueryProgram Row ResultCode :=
  .ask (QueryCall.bindText parameter text) .done

def step : QueryProgram Row ResultCode := .ask QueryCall.step .done

def columnCount : QueryProgram Row ℕ := .ask QueryCall.columnCount .done

def columnText (column : ℕ) : QueryProgram Row (Option Bytes) :=
  .ask (QueryCall.columnText column) .done

def columnBlob (column : ℕ) : QueryProgram Row (Option Bytes) :=
  .ask (QueryCall.columnBlob column) .done

def columnBytes (column : ℕ) : QueryProgram Row ℕ := .ask (QueryCall.columnBytes column) .done

def columnName (column : ℕ) : QueryProgram Row String := .ask (QueryCall.columnName column) .done

def errmsg : QueryProgram Row String := .ask QueryCall.errmsg .done

def callback (row : Row) : QueryProgram Row Bool := .ask (QueryCall.callback row) .done

end Calls

/-! ## Binding -/

/-- An array is what its pointer gives access to, or null. -/
abbrev ArgumentArray (α : Type) := Option (ℕ → α)

def validArgumentArrays (argc : ℤ) (values : ArgumentArray (Option Bytes))
    (sizes : ArgumentArray ℤ) (types : ArgumentArray BindType) : Option ErrorText :=
  if argc < 0 then some (.message "argument count must not be negative")
  else if 0 < argc ∧ values.isNone then some (.message "argument values array is null")
  else
    match values, sizes, types with
    | some values, some sizes, some _ =>
        if (List.range argc.toNat).any fun i => (values i).isSome && decide (sizes i < 0) then
          some (.message "argument size must not be negative")
        else none
    | _, _, _ => none

section Binding

variable {Row : Type}

def bindTextArg (parameter : ℕ) : Option Bytes → QueryProgram Row ResultCode
  | none => bindNull parameter
  | some text => bindText parameter text

/-- The loop of `bindTextArgs`, with `left` arguments from the `i`-th on. -/
def bindFrom (values : ℕ → Option Bytes) : ℕ → ℕ → QueryProgram Row (Option ErrorText)
  | 0, _ => return none
  | left + 1, i => do
      let rc ← bindTextArg (i + 1) (values i)
      if rc ≠ SQLITE_OK then
        return some (.message ("bind failed: " ++ (← errmsg)))
      bindFrom values left (i + 1)

def bindTextArgs (argc : ℤ) (values : ArgumentArray (Option Bytes)) :
    QueryProgram Row (Option ErrorText) :=
  match validArgumentArrays argc values none none with
  | some error => return some error
  | none => bindFrom (values.getD fun _ => none) argc.toNat 0

end Binding

/-! ## Rows -/

/-- `for (int i = 0; i < argc; ++i)`, with `left` columns from the `i`-th on. -/
def columnsFrom {Row α : Type} (read : ℕ → QueryProgram Row α) :
    ℕ → ℕ → QueryProgram Row (List α)
  | 0, _ => return []
  | left + 1, i => do
      let column ← read i
      let columns ← columnsFrom read left (i + 1)
      return column :: columns

def readTextRow : QueryProgram TextRow TextRow := do
  let argc ← columnCount
  let columns ← columnsFrom (fun i => do
    let value ← columnText i
    let name ← columnName i
    return (value, name)) argc 0
  return ⟨columns.map Prod.fst, columns.map Prod.snd⟩

def readBlobRow : QueryProgram (List Column) (List Column) := do
  let colCount ← columnCount
  columnsFrom (fun i => do
    let data ← columnBlob i
    let size ← columnBytes i
    let name ← columnName i
    return ⟨data, size, name⟩) colCount 0

section Loop

variable {Row : Type}

/-- `while ((rc = sqlite3_step(...)) == SQLITE_ROW)`; the result is `rc` and `ok`, or
nothing where the rounds are used up. -/
def rowLoop (readRow : QueryProgram Row Row) : ℕ → QueryProgram Row (Option (ResultCode × Bool))
  | 0 => return none
  | rounds + 1 => do
      let rc ← step
      if rc ≠ SQLITE_ROW then return some (rc, true)
      let row ← readRow
      if !(← callback row) then return some (rc, false)
      rowLoop readRow rounds

/-- The end of each function, behind the loop. -/
def afterLoop : Option (ResultCode × Bool) → QueryProgram Row (Option (Answer Bool))
  | none => return none
  | some (rc, ok) => do
      if rc ≠ SQLITE_DONE ∧ rc ≠ SQLITE_ROW then
        return some ⟨false, some (.message ("step query failed: " ++ (← errmsg)))⟩
      return some ⟨ok, none⟩

end Loop

/-! ## The functions -/

def query (database : Database) (sql : String) (rounds : ℕ) :
    QueryProgram TextRow (Option (Answer Bool)) := do
  if !database.isOpen then return some ⟨false, some notOpen⟩
  let rc ← prepare sql
  if rc ≠ SQLITE_OK then
    return some ⟨false, some (.message ("prepare query failed: " ++ (← errmsg)))⟩
  afterLoop (← rowLoop readTextRow rounds)

def queryWithArgs (database : Database) (sql : String) (argc : ℤ)
    (values : ArgumentArray (Option Bytes)) (rounds : ℕ) :
    QueryProgram TextRow (Option (Answer Bool)) := do
  if !database.isOpen then return some ⟨false, some notOpen⟩
  let rc ← prepare sql
  if rc ≠ SQLITE_OK then
    return some ⟨false, some (.message ("prepare query failed: " ++ (← errmsg)))⟩
  match ← bindTextArgs argc values with
  | some error => return some ⟨false, some error⟩
  | none => afterLoop (← rowLoop readTextRow rounds)

def queryBlob (database : Database) (sql : String) (rounds : ℕ) :
    QueryProgram (List Column) (Option (Answer Bool)) := do
  if !database.isOpen then return some ⟨false, some notOpen⟩
  let rc ← prepare sql
  if rc ≠ SQLITE_OK then
    return some ⟨false, some (.message ("prepare query failed: " ++ (← errmsg)))⟩
  afterLoop (← rowLoop readBlobRow rounds)

def queryBlobWithArgs (database : Database) (sql : String) (argc : ℤ)
    (values : ArgumentArray (Option Bytes)) (rounds : ℕ) :
    QueryProgram (List Column) (Option (Answer Bool)) := do
  if !database.isOpen then return some ⟨false, some notOpen⟩
  let rc ← prepare sql
  if rc ≠ SQLITE_OK then
    return some ⟨false, some (.message ("prepare query failed: " ++ (← errmsg)))⟩
  match ← bindTextArgs argc values with
  | some error => return some ⟨false, some error⟩
  | none => afterLoop (← rowLoop readBlobRow rounds)

/-! ## One statement and one callback -/

/-- The rows that are still to come, the row under the statement, the state of the
callback and the rows it was called on. -/
structure QueryState (σ Row : Type) where
  pending : List (List Value)
  current : List Value
  captured : σ
  called : List Row

/-- The columns of a row are as many as the statement has names. -/
def QueryState.value {σ Row : Type} (state : QueryState σ Row) (column : ℕ) : Value :=
  state.current.getD column .null

section Handler

variable {σ Row : Type}

def stepStatement (run : StatementRun) (state : QueryState σ Row) :
    ResultCode × QueryState σ Row :=
  match state.pending with
  | [] => (run.finalRc, state)
  | row :: rows => (SQLITE_ROW, { state with pending := rows, current := row })

def callBack (respond : Callback σ Row) (state : QueryState σ Row) (row : Row) :
    Bool × QueryState σ Row :=
  ((respond state.captured row).2,
    { state with captured := (respond state.captured row).1, called := state.called ++ [row] })

/-- The parameters of SQLite count from 1. -/
def handler (run : StatementRun) (respond : Callback σ Row) (state : QueryState σ Row) :
    (call : QueryCall Row) → call.Reply × QueryState σ Row
  | .prepare _ => (run.prepareRc, state)
  | .bindNull parameter => (run.bindRc (parameter - 1), state)
  | .bindText parameter _ => (run.bindRc (parameter - 1), state)
  | .step => stepStatement run state
  | .columnCount => (run.columns.length, state)
  | .columnText column => (Storage.columnText (state.value column), state)
  | .columnBlob column => (Storage.columnBlob (state.value column), state)
  | .columnBytes column => (Storage.columnBytes (state.value column), state)
  | .columnName column => (run.columns.getD column "", state)
  | .errmsg => (run.errmsg, state)
  | .callback row => callBack respond state row

def initialState (run : StatementRun) (captured : σ) : QueryState σ Row :=
  ⟨run.rows, [], captured, []⟩

end Handler

end ElapPlatform.Storage.Calls
