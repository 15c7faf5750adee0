import ElapPlatform.DatabaseHandles
import ElapPlatform.TransitionRun

/-!
# What the functions of `Database` leave behind

A statement and an error text do not outlive the call that obtained them, and a connection
is closed once, on whatever way `open` and `PersistentStore::open` return.
-/

namespace ElapPlatform.Storage.Handles

open Interaction Interaction.Program Transition

/-! ## What the calls of SQLite settle -/

abbrev SqliteLedger := GrantLedger Handle

def OpenSettles (ledger : SqliteLedger) :
    ResultCode × Option ConnectionId → SqliteLedger → Prop
  | (rc, none), next => rc ≠ SQLITE_OK ∧ next = ledger
  | (_, some connection), next =>
      .connection connection ∉ ledger.out ∧
        (∀ serial, .statement ⟨connection, serial⟩ ∉ ledger.out) ∧
        next = ledger.grant (.connection connection)

/-- `sqlite3_close` refuses a connection that has statements. -/
def CloseSettles (ledger next : SqliteLedger) : Option ConnectionId → Prop
  | none => next = ledger
  | some connection =>
      (∃ serial, .statement ⟨connection, serial⟩ ∈ ledger.out) ∧ next = ledger ∨
        (∀ serial, .statement ⟨connection, serial⟩ ∉ ledger.out) ∧
          next = ledger.giveBack (.connection connection)

def ExecSettles (ledger next : SqliteLedger) : ResultCode × Option (MessageId × String) → Prop
  | (_, none) => next = ledger
  | (rc, some (message, _)) =>
      rc ≠ SQLITE_OK ∧ .message message ∉ ledger.out ∧ next = ledger.grant (.message message)

/-- An empty text prepares no statement, and succeeds. -/
def PrepareSettles (db : Option ConnectionId) (ledger next : SqliteLedger) :
    ResultCode × Option StatementId → Prop
  | (_, none) => next = ledger
  | (rc, some stmt) =>
      rc = SQLITE_OK ∧ db = some stmt.connection ∧ .statement stmt ∉ ledger.out ∧
        next = ledger.grant (.statement stmt)

section Settling

variable {Row : Type}

/-- Null is no connection, but SQLite answers calls on a null statement. -/
def SqliteCall.Settles (ledger : SqliteLedger) :
    (call : SqliteCall Row) → call.Reply → SqliteLedger → Prop
  | .openV2 _, reply, next => OpenSettles ledger reply next
  | .close db, _, next => CloseSettles ledger next db
  | .closeV2 db, _, next => next = ledger.release (db.map .connection)
  | .busyTimeout db _, _, next => next = ledger.use (db.map .connection)
  | .exec db _, reply, next => ExecSettles (ledger.use (db.map .connection)) next reply
  | .free message, _, next => next = ledger.giveBack (.message message)
  | .prepareV2 db _, reply, next => PrepareSettles db (ledger.use (db.map .connection)) next reply
  | .onStatement none _, _, next => next = ledger
  | .onStatement (some stmt) _, _, next => next = ledger.use (some (.statement stmt))
  | .finalize stmt, _, next => next = ledger.release (stmt.map .statement)
  | .errmsg db, _, next => next = ledger.use (db.map .connection)
  | .errstr _, _, next => next = ledger
  | .lastInsertRowId db, _, next => next = ledger.use (db.map .connection)
  | .changes db, _, next => next = ledger.use (db.map .connection)
  | .callback _, _, next => ledger.Kept next

/-- A call that grants and gives back nothing, on these pointers. -/
def SqliteCall.Uses (db : Option ConnectionId) (stmt : Option StatementId) :
    SqliteCall Row → Prop
  | .busyTimeout other _ => other = db
  | .onStatement other _ => other = stmt
  | .errmsg other => other = db
  | .errstr _ => True
  | .lastInsertRowId other => other = db
  | .changes other => other = db
  | .callback _ => True
  | _ => False

end Settling

/-! ## Calls on what is out -/

section Uses

variable {Row α : Type} {ledger middle next : SqliteLedger} {connection : ConnectionId}
  {stmt : Option StatementId}

theorem kept_of_uses {program : SqliteProgram Row α} {value : α}
    (hconnection : .connection connection ∈ ledger.out)
    (hstmt : ∀ statement ∈ stmt, .statement statement ∈ ledger.out)
    (hasks : program.AsksOnly (SqliteCall.Uses (some connection) stmt))
    (hrun : Runs SqliteCall.Settles program ledger value next) : ledger.Kept next := by
  refine hrun.invariant_of_asksOnly hasks (fun state => ledger.Kept state) (.refl _) ?_
  intro before call reply after huses hsettles hkept
  have hopen : before.use (some (.connection connection)) = before :=
    GrantLedger.use_of_out (hkept.mem_out hconnection)
  have hlast : before.Kept after := by
    cases call with
    | busyTimeout db milliseconds =>
        obtain rfl : db = some connection := huses
        obtain rfl : after = before := hsettles.trans hopen
        exact .refl _
    | onStatement other call =>
        obtain rfl : other = stmt := huses
        cases other with
        | none =>
            obtain rfl : after = before := hsettles
            exact .refl _
        | some statement =>
            have hout := hkept.mem_out (hstmt statement rfl)
            obtain rfl : after = before :=
              Eq.trans hsettles (GrantLedger.use_of_out hout)
            exact .refl _
    | errmsg db =>
        obtain rfl : db = some connection := huses
        obtain rfl : after = before := hsettles.trans hopen
        exact .refl _
    | errstr rc =>
        obtain rfl : after = before := hsettles
        exact .refl _
    | lastInsertRowId db =>
        obtain rfl : db = some connection := huses
        obtain rfl : after = before := hsettles.trans hopen
        exact .refl _
    | changes db =>
        obtain rfl : db = some connection := huses
        obtain rfl : after = before := hsettles.trans hopen
        exact .refl _
    | callback row => exact hsettles
    | _ => exact huses.elim
  exact hkept.trans hlast

theorem perform_kept (call : SqliteCall Row) {reply : call.Reply}
    (hconnection : .connection connection ∈ ledger.out)
    (huses : call.Uses (some connection) none)
    (hrun : Runs SqliteCall.Settles (perform call) ledger reply next) : ledger.Kept next := by
  have hasks : (perform call : SqliteProgram Row call.Reply).AsksOnly
      (SqliteCall.Uses (some connection) none) := ⟨huses, fun _ => trivial⟩
  exact kept_of_uses hconnection (by simp) hasks hrun

theorem destroyStatement_settles {result : Unit}
    (hrun : Runs SqliteCall.Settles (destroyStatement stmt : SqliteProgram Row Unit) middle
      result next) : next = middle.release (stmt.map .statement) := by
  cases stmt with
  | none => exact (runs_done_iff.mp hrun).2
  | some statement =>
      obtain ⟨rc, last, hfinalize, hdone⟩ := runs_ask_iff.mp hrun
      obtain ⟨-, rfl⟩ := runs_done_iff.mp hdone
      exact hfinalize

/-- A statement in scope is used and finalized. -/
theorem scope_kept {rc : ResultCode} {program : SqliteProgram Row α} {value : α}
    (hconnection : .connection connection ∈ ledger.out)
    (hprepare : PrepareSettles (some connection)
      (ledger.use (some (.connection connection))) middle (rc, stmt))
    (huses : program.AsksOnly (SqliteCall.Uses (some connection) stmt))
    (hrun : Runs SqliteCall.Settles program middle value next) :
    ledger.Kept (next.release (stmt.map .statement)) := by
  rw [GrantLedger.use_of_out hconnection] at hprepare
  cases stmt with
  | none =>
      obtain rfl : middle = ledger := hprepare
      exact kept_of_uses hconnection (by simp) huses hrun
  | some statement =>
      obtain ⟨-, -, hfree, rfl⟩ := hprepare
      have hout : (ledger.grant (.statement statement)).out =
          insert (.statement statement) ledger.out := GrantLedger.out_grant
      have hkept : (ledger.grant (.statement statement)).Kept next := by
        refine kept_of_uses (hout ▸ Set.mem_insert_of_mem _ hconnection) ?_ huses hrun
        rintro _ ⟨⟩
        exact hout ▸ Set.mem_insert _ _
      exact hkept.giveBack hfree

end Uses

/-! ## The calls of a query -/

section Queries

variable {Row α : Type}

def OnPrepared : Calls.QueryCall Row → Prop
  | .prepare _ => False
  | _ => True

theorem answerQuery_uses (db : Option ConnectionId) (stmt : Option StatementId)
    (call : Calls.QueryCall Row) (hprepared : OnPrepared call) :
    (answerQuery db stmt call).AsksOnly (SqliteCall.Uses db stmt) ∧
      (answerQuery db stmt call).Ensures fun answered => answered.2 = stmt := by
  cases call with
  | prepare sql => exact hprepared.elim
  | callback row => exact ⟨⟨trivial, fun _ => trivial⟩, fun _ => rfl⟩
  | _ => exact ⟨⟨rfl, fun _ => trivial⟩, fun _ => rfl⟩

theorem bindFrom_onPrepared (values : ℕ → Option Bytes) (left i : ℕ) :
    (Calls.bindFrom values left i : Calls.QueryProgram Row _).AsksOnly OnPrepared := by
  induction left generalizing i with
  | zero => trivial
  | succ left ih =>
      have harg : (Calls.bindTextArg (i + 1) (values i) :
          Calls.QueryProgram Row ResultCode).AsksOnly OnPrepared := by
        cases values i with
        | none => exact ⟨trivial, fun _ => trivial⟩
        | some text => exact ⟨trivial, fun _ => trivial⟩
      refine harg.bind fun rc => ?_
      split_ifs
      · exact ⟨trivial, fun _ => trivial⟩
      · exact ih (i + 1)

theorem bindTextArgs_onPrepared (argc : ℤ) (values : Calls.ArgumentArray (Option Bytes)) :
    (Calls.bindTextArgs argc values : Calls.QueryProgram Row _).AsksOnly OnPrepared := by
  unfold Calls.bindTextArgs
  split
  · trivial
  · exact bindFrom_onPrepared _ _ _

theorem columnsFrom_onPrepared {read : ℕ → Calls.QueryProgram Row α}
    (hread : ∀ column, (read column).AsksOnly OnPrepared) (left i : ℕ) :
    (Calls.columnsFrom read left i).AsksOnly OnPrepared := by
  induction left generalizing i with
  | zero => trivial
  | succ left ih => exact (hread i).bind fun _ => (ih (i + 1)).bind fun _ => trivial

theorem readTextRow_onPrepared : Calls.readTextRow.AsksOnly OnPrepared := by
  refine ⟨trivial, fun argc => (columnsFrom_onPrepared (fun column => ?_) argc 0).bind ?_⟩
  · exact ⟨trivial, fun _ => ⟨trivial, fun _ => trivial⟩⟩
  · exact fun _ => trivial

theorem readBlobRow_onPrepared : Calls.readBlobRow.AsksOnly OnPrepared := by
  refine ⟨trivial, fun colCount => columnsFrom_onPrepared (fun column => ?_) colCount 0⟩
  exact ⟨trivial, fun _ => ⟨trivial, fun _ => ⟨trivial, fun _ => trivial⟩⟩⟩

theorem rowLoop_onPrepared {readRow : Calls.QueryProgram Row Row}
    (hread : readRow.AsksOnly OnPrepared) (rounds : ℕ) :
    (Calls.rowLoop readRow rounds).AsksOnly OnPrepared := by
  induction rounds with
  | zero => trivial
  | succ rounds ih =>
      have hstep : (Calls.step : Calls.QueryProgram Row ResultCode).AsksOnly OnPrepared :=
        ⟨trivial, fun _ => trivial⟩
      have hcallback : ∀ row, (Calls.callback row : Calls.QueryProgram Row Bool).AsksOnly
          OnPrepared := fun _ => ⟨trivial, fun _ => trivial⟩
      refine hstep.bind fun rc => ?_
      split_ifs
      · trivial
      · refine hread.bind fun row => (hcallback row).bind fun accepted => ?_
        split_ifs
        · trivial
        · exact ih

theorem afterLoop_onPrepared (left : Option (ResultCode × Bool)) :
    (Calls.afterLoop left : Calls.QueryProgram Row _).AsksOnly OnPrepared := by
  cases left with
  | none => trivial
  | some last =>
      unfold Calls.afterLoop
      dsimp only
      split_ifs
      · exact ⟨trivial, fun _ => trivial⟩
      · trivial

end Queries

/-! ## The functions of an open database -/

section Functions

variable {Row α : Type} {ledger next : SqliteLedger} {database : Database} {sql : String}
  (hopen : ∀ connection ∈ database.db, .connection connection ∈ ledger.out)
include hopen

theorem withStatement_kept {rest : ResultCode → Calls.QueryProgram Row α} {closed value : α}
    (hrest : ∀ rc, (rest rc).AsksOnly OnPrepared)
    (hrun : Runs SqliteCall.Settles (withStatement database.db
      (if database.isOpen then .ask (Calls.QueryCall.prepare sql) rest else .done closed))
      ledger value next) : ledger.Kept next := by
  obtain ⟨db, path⟩ := database
  cases db with
  | none =>
      obtain ⟨-, rfl⟩ := runs_done_iff.mp hrun
      exact .refl _
  | some connection =>
      obtain ⟨⟨result, left⟩, last, hquery, hafter⟩ := runs_bind_iff.mp hrun
      obtain ⟨⟨rc, stmt⟩, middle, hprepare, hrest'⟩ := runs_ask_iff.mp hquery
      obtain ⟨huses, hstays⟩ := (hrest rc).interpret (answerQuery_uses (some connection) stmt)
      obtain rfl : left = stmt := hrest'.ensured hstays
      obtain ⟨_, final, hdestroy, hdone⟩ := runs_bind_iff.mp hafter
      obtain ⟨-, rfl⟩ := runs_done_iff.mp hdone
      rw [destroyStatement_settles hdestroy]
      exact scope_kept (hopen connection rfl) hprepare huses hrest'

theorem statementQuery_kept {bind : Calls.QueryProgram Row (Option ErrorText)}
    {readRow : Calls.QueryProgram Row Row} {rounds : ℕ} {answer : Option (Answer Bool)}
    (hbind : bind.AsksOnly OnPrepared) (hread : readRow.AsksOnly OnPrepared)
    (hrun : Runs SqliteCall.Settles (withStatement database.db
      (Calls.statementQuery database.asStatements sql bind readRow rounds)) ledger answer next) :
    ledger.Kept next := by
  obtain ⟨rest, hprogram, hrest⟩ : ∃ rest,
      Calls.statementQuery database.asStatements sql bind readRow rounds =
        (if database.isOpen then .ask (Calls.QueryCall.prepare sql) rest
        else .done (some ⟨false, some notOpen⟩)) ∧ ∀ rc, (rest rc).AsksOnly OnPrepared := by
    unfold Calls.statementQuery
    cases hisOpen : database.isOpen with
    | false =>
        exact ⟨fun _ => .done none, by simp [Database.asStatements, hisOpen], fun _ => trivial⟩
    | true =>
        simp only [Database.asStatements, hisOpen, Calls.prepare]
        refine ⟨_, rfl, fun rc => ?_⟩
        dsimp only [Program.bind]
        split_ifs
        · exact ⟨trivial, fun _ => trivial⟩
        · refine hbind.bind fun error => ?_
          cases error with
          | some error => trivial
          | none => exact (rowLoop_onPrepared hread rounds).bind afterLoop_onPrepared
  rw [hprogram] at hrun
  exact withStatement_kept hopen hrest hrun

theorem execWithArgs_kept {argc : ℤ} {values : Calls.ArgumentArray (Option Bytes)}
    {answer : Answer Bool} (hrun : Runs SqliteCall.Settles
      (database.execWithArgs sql argc values : SqliteProgram Row _) ledger answer next) :
    ledger.Kept next := by
  obtain ⟨rest, hprogram, hrest⟩ : ∃ rest,
      (execWithArgsCalls database.asStatements sql argc values : Calls.QueryProgram Row _) =
        (if database.isOpen then .ask (Calls.QueryCall.prepare sql) rest
        else .done ⟨false, some notOpen⟩) ∧ ∀ rc, (rest rc).AsksOnly OnPrepared := by
    unfold execWithArgsCalls
    cases hisOpen : database.isOpen with
    | false =>
        exact ⟨fun _ => .done ⟨false, none⟩, by simp [Database.asStatements, hisOpen],
          fun _ => trivial⟩
    | true =>
        simp only [Database.asStatements, hisOpen, Calls.prepare]
        refine ⟨_, rfl, fun rc => ?_⟩
        dsimp only [Program.bind]
        split_ifs
        · exact ⟨trivial, fun _ => trivial⟩
        · refine (bindTextArgs_onPrepared argc values).bind fun error => ?_
          cases error with
          | some error => trivial
          | none =>
              refine ⟨trivial, fun rc => ?_⟩
              dsimp only [Program.bind]
              split_ifs
              · exact ⟨trivial, fun _ => trivial⟩
              · trivial
  unfold Database.execWithArgs at hrun
  rw [hprogram] at hrun
  exact withStatement_kept hopen hrest hrun

omit hopen in
theorem bindTypedFrom_uses (db : Option ConnectionId) (stmt : Option StatementId)
    (values : ℕ → Option Bytes) (sizes : ℕ → ℤ) (types : ℕ → BindType) (left i : ℕ) :
    (bindTypedFrom db stmt values sizes types left i : SqliteProgram Row _).AsksOnly
      (SqliteCall.Uses db stmt) := by
  induction left generalizing i with
  | zero => trivial
  | succ left ih =>
      have harg : (bindTypedArg stmt (i + 1) (sizes i) (types i) (values i) :
          SqliteProgram Row ResultCode).AsksOnly (SqliteCall.Uses db stmt) := by
        unfold bindTypedArg
        cases values i with
        | none => exact ⟨rfl, fun _ => trivial⟩
        | some bytes => cases types i <;> exact ⟨rfl, fun _ => trivial⟩
      refine harg.bind fun rc => ?_
      split_ifs
      · exact ⟨rfl, fun _ => trivial⟩
      · exact ih (i + 1)

omit hopen in
theorem execPrepared_uses (db : Option ConnectionId) (stmt : Option StatementId)
    (rc : ResultCode) (argc : ℤ) (values : Calls.ArgumentArray (Option Bytes))
    (sizes : Calls.ArgumentArray ℤ) (types : Calls.ArgumentArray BindType) :
    (execPrepared db stmt rc argc values sizes types : SqliteProgram Row _).AsksOnly
      (SqliteCall.Uses db stmt) := by
  have hbind : (bindTypedArgs db stmt argc values sizes types :
      SqliteProgram Row _).AsksOnly (SqliteCall.Uses db stmt) := by
    unfold bindTypedArgs
    split
    · trivial
    · split_ifs
      · trivial
      · exact bindTypedFrom_uses _ _ _ _ _ _ _
  unfold execPrepared
  split_ifs
  · exact ⟨rfl, fun _ => trivial⟩
  · refine hbind.bind fun error => ?_
    cases error with
    | some error => trivial
    | none =>
        have hstep : (perform (SqliteCall.onStatement stmt .step) :
            SqliteProgram Row ResultCode).AsksOnly (SqliteCall.Uses db stmt) :=
          ⟨rfl, fun _ => trivial⟩
        refine hstep.bind fun rc => ?_
        split_ifs
        · exact ⟨rfl, fun _ => trivial⟩
        · trivial

theorem execBind_kept {argc : ℤ} {values : Calls.ArgumentArray (Option Bytes)}
    {sizes : Calls.ArgumentArray ℤ} {types : Calls.ArgumentArray BindType}
    {answer : Answer Bool} (hrun : Runs SqliteCall.Settles
      (database.execBind sql argc values sizes types : SqliteProgram Row _) ledger answer next) :
    ledger.Kept next := by
  obtain ⟨db, path⟩ := database
  cases db with
  | none =>
      obtain ⟨-, rfl⟩ := runs_done_iff.mp hrun
      exact .refl _
  | some connection =>
      obtain ⟨⟨rc, stmt⟩, middle, hprepare, hrest⟩ := runs_bind_iff.mp hrun
      obtain ⟨result, last, hprepared, hafter⟩ := runs_bind_iff.mp hrest
      obtain ⟨_, final, hdestroy, hdone⟩ := runs_bind_iff.mp hafter
      obtain ⟨-, rfl⟩ := runs_done_iff.mp hdone
      rw [destroyStatement_settles hdestroy]
      exact scope_kept (hopen connection rfl) (runs_perform_iff.mp hprepare)
        (execPrepared_uses _ _ _ _ _ _ _) hprepared

/-- An error text that SQLite allocated is freed. -/
theorem execute_kept {answer : Answer Bool} (hrun : Runs SqliteCall.Settles
      (database.execute sql : SqliteProgram Row _) ledger answer next) : ledger.Kept next := by
  obtain ⟨db, path⟩ := database
  cases db with
  | none =>
      obtain ⟨-, rfl⟩ := runs_done_iff.mp hrun
      exact .refl _
  | some connection =>
      obtain ⟨⟨rc, errMsg⟩, middle, hexec, hrest⟩ := runs_bind_iff.mp hrun
      have hsettles : ExecSettles (ledger.use (some (.connection connection))) middle
        (rc, errMsg) := runs_perform_iff.mp hexec
      rw [GrantLedger.use_of_out (hopen connection rfl)] at hsettles
      dsimp only at hrest
      cases errMsg with
      | none =>
          obtain rfl : middle = ledger := hsettles
          split_ifs at hrest
          · obtain ⟨text, last, herrstr, hdone⟩ := runs_bind_iff.mp hrest
            obtain rfl : last = middle := runs_perform_iff.mp herrstr
            obtain ⟨-, rfl⟩ := runs_done_iff.mp hdone
            exact .refl _
          · obtain ⟨-, rfl⟩ := runs_done_iff.mp hrest
            exact .refl _
      | some allocated =>
          obtain ⟨message, text⟩ := allocated
          obtain ⟨hfailed, hfree, rfl⟩ := hsettles
          rw [if_pos hfailed] at hrest
          obtain ⟨_, last, hgiven, hdone⟩ := runs_bind_iff.mp hrest
          obtain rfl : last = _ := runs_perform_iff.mp hgiven
          obtain ⟨-, rfl⟩ := runs_done_iff.mp hdone
          exact .giveBack hfree (.refl _)

theorem lastInsertRowId_kept {rowId : ℤ} (hrun : Runs SqliteCall.Settles
      (database.lastInsertRowId : SqliteProgram Row _) ledger rowId next) : ledger.Kept next := by
  obtain ⟨db, path⟩ := database
  cases db with
  | none =>
      obtain ⟨-, rfl⟩ := runs_done_iff.mp hrun
      exact .refl _
  | some connection =>
      exact perform_kept (.lastInsertRowId (some connection)) (hopen connection rfl) rfl hrun

theorem changes_kept {count : ℤ} (hrun : Runs SqliteCall.Settles
      (database.changes : SqliteProgram Row _) ledger count next) : ledger.Kept next := by
  obtain ⟨db, path⟩ := database
  cases db with
  | none =>
      obtain ⟨-, rfl⟩ := runs_done_iff.mp hrun
      exact .refl _
  | some connection =>
      exact perform_kept (.changes (some connection)) (hopen connection rfl) rfl hrun

end Functions

/-! ## Opening and closing -/

section Connections

variable {Row : Type} {ledger next : SqliteLedger} {database : Database} {path : String}

def Database.handle (database : Database) : Option Handle := database.db.map .connection

theorem close_settles {after : Database} (hrun : Runs SqliteCall.Settles
      (database.close : SqliteProgram Row _) ledger after next) :
    after = .closed ∧ next = ledger.release database.handle := by
  obtain ⟨db, path⟩ := database
  cases db with
  | none => exact runs_done_iff.mp hrun
  | some connection =>
      obtain ⟨rc, middle, hclose, hdone⟩ := runs_bind_iff.mp hrun
      obtain rfl : middle = _ := runs_perform_iff.mp hclose
      exact runs_done_iff.mp hdone

theorem moveAssign_settles {other : Database} {pair : Database × Database}
    (hrun : Runs SqliteCall.Settles
      (database.moveAssign other path : SqliteProgram Row _) ledger pair next) :
    pair = other.moveConstruct path ∧ next = ledger.release database.handle := by
  obtain ⟨after, middle, hclose, hdone⟩ := runs_bind_iff.mp hrun
  obtain ⟨-, rfl⟩ := close_settles hclose
  exact runs_done_iff.mp hdone

/-- The connection of a failed `sqlite3_open_v2` is closed too. -/
theorem open_settles {answer : ObjectAnswer Database} (hrun : Runs SqliteCall.Settles
      (database.open path : SqliteProgram Row _) ledger answer next) :
    (ledger.release database.handle).Acquires answer.object.handle next ∧
      (answer.error.isSome → answer.object = .closed) := by
  obtain ⟨closed, given, hclose, hrest⟩ := runs_bind_iff.mp hrun
  obtain ⟨rfl, rfl⟩ := close_settles hclose
  obtain ⟨⟨rc, db⟩, opened, hopen, hrest⟩ := runs_bind_iff.mp hrest
  have hsettles : OpenSettles (ledger.release database.handle) (rc, db) opened :=
    runs_perform_iff.mp hopen
  dsimp only at hrest
  by_cases hfailed : rc ≠ SQLITE_OK
  · rw [if_pos hfailed] at hrest
    cases db with
    | none =>
        obtain ⟨-, rfl⟩ := hsettles
        obtain ⟨text, last, herrstr, hdone⟩ := runs_bind_iff.mp hrest
        obtain rfl : last = _ := runs_perform_iff.mp herrstr
        obtain ⟨rfl, rfl⟩ := runs_done_iff.mp hdone
        exact ⟨.refused (.refl _), fun _ => rfl⟩
    | some connection =>
        obtain ⟨hfree, hnone, rfl⟩ := hsettles
        obtain ⟨_, given, hgiven, hrest⟩ := runs_bind_iff.mp hrest
        have hclosed : CloseSettles _ given (some connection) := runs_perform_iff.mp hgiven
        obtain ⟨text, last, herrstr, hdone⟩ := runs_bind_iff.mp hrest
        obtain rfl : last = given := runs_perform_iff.mp herrstr
        obtain ⟨rfl, rfl⟩ := runs_done_iff.mp hdone
        rcases hclosed with ⟨⟨serial, hout⟩, -⟩ | ⟨-, rfl⟩
        · rw [GrantLedger.out_grant] at hout
          exact absurd (hout.resolve_left (by simp)) (hnone serial)
        · exact ⟨.refused (.giveBack hfree (.refl _)), fun _ => rfl⟩
  · rw [if_neg hfailed] at hrest
    obtain rfl : rc = SQLITE_OK := not_not.mp hfailed
    cases db with
    | none => exact absurd rfl hsettles.1
    | some connection =>
        obtain ⟨hfree, -, rfl⟩ := hsettles
        obtain ⟨_, last, htimeout, hdone⟩ := runs_bind_iff.mp hrest
        obtain rfl : last = _ := runs_perform_iff.mp htimeout
        obtain ⟨rfl, rfl⟩ := runs_done_iff.mp hdone
        have hout : .connection connection ∈
            ((ledger.release database.handle).grant (.connection connection)).out := by
          rw [GrantLedger.out_grant]
          exact Set.mem_insert _ _
        rw [Option.map_some, GrantLedger.use_of_out hout]
        exact ⟨.granted hfree (.refl _), fun hsome => by simp at hsome⟩

theorem handle_out_of_acquires {acquired : Database}
    (hacquires : ledger.Acquires acquired.handle next) :
    ∀ connection ∈ acquired.db, .connection connection ∈ next.out := by
  intro connection hconnection
  have hhandle : acquired.handle = some (.connection connection) := by
    rw [Database.handle, Option.mem_def.mp hconnection, Option.map_some]
  exact (hhandle ▸ hacquires).mem_out

/-- A store whose schema is refused closes its database. -/
theorem openStore_settles {answer : ObjectAnswer Database} (hrun : Runs SqliteCall.Settles
      (openStore database path : SqliteProgram Row _) ledger answer next) :
    (ledger.release database.handle).Acquires answer.object.handle next ∧
      (answer.error.isSome → answer.object = .closed) := by
  obtain ⟨opened, middle, hopen, hrest⟩ := runs_bind_iff.mp hrun
  obtain ⟨hacquires, hclosed⟩ := open_settles hopen
  split_ifs at hrest with hfailed
  · obtain ⟨rfl, rfl⟩ := runs_done_iff.mp hrest
    exact ⟨hacquires, hclosed⟩
  · obtain ⟨ensured, last, hensure, hrest⟩ := runs_bind_iff.mp hrest
    have hopened := hacquires.kept (execute_kept (handle_out_of_acquires hacquires) hensure)
    split_ifs at hrest
    · obtain ⟨after, final, hclose, hdone⟩ := runs_bind_iff.mp hrest
      obtain ⟨rfl, rfl⟩ := close_settles hclose
      obtain ⟨rfl, rfl⟩ := runs_done_iff.mp hdone
      exact ⟨hopened.release, fun _ => rfl⟩
    · obtain ⟨rfl, rfl⟩ := runs_done_iff.mp hrest
      exact ⟨hopened, fun hsome => by simp at hsome⟩

end Connections

end ElapPlatform.Storage.Handles
