import ElapPlatform.DatabaseHandleRuns

/-!
# Linear handles of SQLite

Any number of databases are constructed, opened, used, moved, closed and destroyed in any
order, as databases or as stores.
-/

namespace ElapPlatform.Storage.Handles

open Interaction Interaction.Program Transition

/-! ## Databases in use -/

inductive DatabaseCall where
  | execute (sql : String)
  | query (sql : String)
  | queryWithArgs (sql : String) (argc : ℤ) (values : Calls.ArgumentArray (Option Bytes))
  | queryBlob (sql : String)
  | queryBlobWithArgs (sql : String) (argc : ℤ) (values : Calls.ArgumentArray (Option Bytes))
  | execWithArgs (sql : String) (argc : ℤ) (values : Calls.ArgumentArray (Option Bytes))
  | execBind (sql : String) (argc : ℤ) (values : Calls.ArgumentArray (Option Bytes))
      (sizes : Calls.ArgumentArray ℤ) (types : Calls.ArgumentArray BindType)
  | lastInsertRowId
  | changes

inductive DatabaseCall.Returns (database : Database) (ledger next : SqliteLedger) :
    DatabaseCall → Prop
  | execute {sql : String} {answer : Answer Bool} (hrun : Runs SqliteCall.Settles
      (database.execute sql : SqliteProgram Unit _) ledger answer next) :
      Returns database ledger next (.execute sql)
  | query {sql : String} {rounds : ℕ} {answer : Answer Bool} (hrun : Runs SqliteCall.Settles
      (database.query sql rounds) ledger (some answer) next) :
      Returns database ledger next (.query sql)
  | queryWithArgs {sql : String} {argc : ℤ} {values : Calls.ArgumentArray (Option Bytes)}
      {rounds : ℕ} {answer : Answer Bool} (hrun : Runs SqliteCall.Settles
        (database.queryWithArgs sql argc values rounds) ledger (some answer) next) :
      Returns database ledger next (.queryWithArgs sql argc values)
  | queryBlob {sql : String} {rounds : ℕ} {answer : Answer Bool} (hrun : Runs SqliteCall.Settles
      (database.queryBlob sql rounds) ledger (some answer) next) :
      Returns database ledger next (.queryBlob sql)
  | queryBlobWithArgs {sql : String} {argc : ℤ} {values : Calls.ArgumentArray (Option Bytes)}
      {rounds : ℕ} {answer : Answer Bool} (hrun : Runs SqliteCall.Settles
        (database.queryBlobWithArgs sql argc values rounds) ledger (some answer) next) :
      Returns database ledger next (.queryBlobWithArgs sql argc values)
  | execWithArgs {sql : String} {argc : ℤ} {values : Calls.ArgumentArray (Option Bytes)}
      {answer : Answer Bool} (hrun : Runs SqliteCall.Settles
        (database.execWithArgs sql argc values : SqliteProgram Unit _) ledger answer next) :
      Returns database ledger next (.execWithArgs sql argc values)
  | execBind {sql : String} {argc : ℤ} {values : Calls.ArgumentArray (Option Bytes)}
      {sizes : Calls.ArgumentArray ℤ} {types : Calls.ArgumentArray BindType}
      {answer : Answer Bool} (hrun : Runs SqliteCall.Settles
        (database.execBind sql argc values sizes types : SqliteProgram Unit _) ledger answer
        next) :
      Returns database ledger next (.execBind sql argc values sizes types)
  | lastInsertRowId {rowId : ℤ} (hrun : Runs SqliteCall.Settles
      (database.lastInsertRowId : SqliteProgram Unit _) ledger rowId next) :
      Returns database ledger next .lastInsertRowId
  | changes {count : ℤ} (hrun : Runs SqliteCall.Settles
      (database.changes : SqliteProgram Unit _) ledger count next) :
      Returns database ledger next .changes

theorem DatabaseCall.Returns.kept {database : Database} {ledger next : SqliteLedger}
    {call : DatabaseCall} (hreturns : call.Returns database ledger next)
    (hopen : ∀ connection ∈ database.db, .connection connection ∈ ledger.out) :
    ledger.Kept next := by
  cases hreturns with
  | execute hrun => exact execute_kept hopen hrun
  | query hrun =>
      rw [Database.query, Calls.query_eq] at hrun
      exact statementQuery_kept hopen asksOnly_done readTextRow_onPrepared hrun
  | queryWithArgs hrun =>
      rw [Database.queryWithArgs, Calls.queryWithArgs_eq] at hrun
      exact statementQuery_kept hopen (bindTextArgs_onPrepared _ _) readTextRow_onPrepared hrun
  | queryBlob hrun =>
      rw [Database.queryBlob, Calls.queryBlob_eq] at hrun
      exact statementQuery_kept hopen asksOnly_done readBlobRow_onPrepared hrun
  | queryBlobWithArgs hrun =>
      rw [Database.queryBlobWithArgs, Calls.queryBlobWithArgs_eq] at hrun
      exact statementQuery_kept hopen (bindTextArgs_onPrepared _ _) readBlobRow_onPrepared hrun
  | execWithArgs hrun => exact execWithArgs_kept hopen hrun
  | execBind hrun => exact execBind_kept hopen hrun
  | lastInsertRowId hrun => exact lastInsertRowId_kept hopen hrun
  | changes hrun => exact changes_kept hopen hrun

structure DatabaseSystem where
  databases : ℕ → Option Database
  ledger : SqliteLedger

namespace DatabaseSystem

def initial : DatabaseSystem := ⟨fun _ => none, .empty⟩

def held (system : DatabaseSystem) (index : ℕ) : Option Handle :=
  (system.databases index).bind Database.handle

def withDatabase (system : DatabaseSystem) (index : ℕ) (ledger : SqliteLedger)
    (database : Option Database) : DatabaseSystem :=
  ⟨Function.update system.databases index database, ledger⟩

end DatabaseSystem

inductive DatabaseAction where
  | constructs
  | opens (path : String)
  | opensStore (path : String)
  | calls (call : DatabaseCall)
  | moveConstructs (source : ℕ)
  | moveAssigns (source : ℕ)
  | closes
  | destroys

abbrev DatabaseHistory := History DatabaseSystem (ℕ × DatabaseAction)

inductive DatabaseStep : DatabaseSystem → ℕ × DatabaseAction → DatabaseSystem → Prop
  | constructs {system : DatabaseSystem} {index : ℕ} (hfree : system.databases index = none) :
      DatabaseStep system (index, .constructs)
        (system.withDatabase index system.ledger (some .closed))
  | opens {system : DatabaseSystem} {index : ℕ} {database : Database} {path : String}
      {answer : ObjectAnswer Database} {next : SqliteLedger}
      (hdatabase : system.databases index = some database)
      (hrun : Runs SqliteCall.Settles (database.open path : SqliteProgram Unit _) system.ledger
        answer next) :
      DatabaseStep system (index, .opens path)
        (system.withDatabase index next (some answer.object))
  | opensStore {system : DatabaseSystem} {index : ℕ} {database : Database} {path : String}
      {answer : ObjectAnswer Database} {next : SqliteLedger}
      (hdatabase : system.databases index = some database)
      (hrun : Runs SqliteCall.Settles (openStore database path : SqliteProgram Unit _)
        system.ledger answer next) :
      DatabaseStep system (index, .opensStore path)
        (system.withDatabase index next (some answer.object))
  | calls {system : DatabaseSystem} {index : ℕ} {database : Database} {call : DatabaseCall}
      {next : SqliteLedger} (hdatabase : system.databases index = some database)
      (hreturns : call.Returns database system.ledger next) :
      DatabaseStep system (index, .calls call) { system with ledger := next }
  | moveConstructs {system : DatabaseSystem} {index source : ℕ} {other : Database}
      {path : String} (hfree : system.databases index = none)
      (hsource : system.databases source = some other) :
      DatabaseStep system (index, .moveConstructs source)
        ((system.withDatabase source system.ledger (some (other.moveConstruct path).2)).withDatabase
          index system.ledger (some (other.moveConstruct path).1))
  | moveAssigns {system : DatabaseSystem} {index source : ℕ} {database other : Database}
      {path : String} {pair : Database × Database} {next : SqliteLedger} (hne : source ≠ index)
      (hdatabase : system.databases index = some database)
      (hsource : system.databases source = some other)
      (hrun : Runs SqliteCall.Settles (database.moveAssign other path : SqliteProgram Unit _)
        system.ledger pair next) :
      DatabaseStep system (index, .moveAssigns source)
        ((system.withDatabase source next (some pair.2)).withDatabase index next (some pair.1))
  | selfAssigns {system : DatabaseSystem} {index : ℕ} {database : Database}
      (hdatabase : system.databases index = some database) :
      DatabaseStep system (index, .moveAssigns index) system
  | closes {system : DatabaseSystem} {index : ℕ} {database after : Database}
      {next : SqliteLedger} (hdatabase : system.databases index = some database)
      (hrun : Runs SqliteCall.Settles (database.close : SqliteProgram Unit _) system.ledger after
        next) :
      DatabaseStep system (index, .closes) (system.withDatabase index next (some after))
  | destroys {system : DatabaseSystem} {index : ℕ} {database after : Database}
      {next : SqliteLedger} (hdatabase : system.databases index = some database)
      (hrun : Runs SqliteCall.Settles (database.close : SqliteProgram Unit _) system.ledger after
        next) :
      DatabaseStep system (index, .destroys) (system.withDatabase index next none)

/-! ## The account of the handles -/

namespace DatabaseSystem

variable {system : DatabaseSystem} {index source : ℕ} {next : SqliteLedger}
  {database other : Database}

def Balanced (system : DatabaseSystem) : Prop := system.ledger.Balanced system.held

theorem held_withDatabase (after : Option Database) :
    (system.withDatabase index next after).held =
      Function.update system.held index (after.bind Database.handle) := by
  funext holder
  by_cases hsame : holder = index
  · subst hsame
    simp [held, withDatabase]
  · simp [held, withDatabase, hsame]

theorem held_eq (hdatabase : system.databases index = some database) :
    system.held index = database.handle := by
  simp [held, hdatabase]

theorem held_connection {connection : ConnectionId}
    (hdatabase : system.databases index = some database) (hdb : database.db = some connection) :
    system.held index = some (.connection connection) := by
  rw [held_eq hdatabase, Database.handle, hdb, Option.map_some]

/-- A database has closed its connection, and may have opened another. -/
theorem Balanced.exchanges {after : Option Database} (hbalanced : system.Balanced)
    (hdatabase : system.databases index = some database)
    (hacquires : (system.ledger.release database.handle).Acquires
      (after.bind Database.handle) next) :
    (system.withDatabase index next after).Balanced := by
  have hreleased := GrantLedger.Balanced.release hbalanced index
  rw [held_eq hdatabase] at hreleased
  have hacquired := hacquires.balanced hreleased (Function.update_self ..)
  rw [Balanced, held_withDatabase]
  rwa [Function.update_idem] at hacquired

/-- A database without a connection takes over that of another one. -/
theorem Balanced.moves {path : String} (hbalanced : next.Balanced system.held)
    (hidle : system.held index = none) (hsource : system.databases source = some other) :
    ((system.withDatabase source next (some (other.moveConstruct path).2)).withDatabase index
      next (some (other.moveConstruct path).1)).Balanced := by
  have hmoved := GrantLedger.Balanced.transfer hbalanced hidle source
  rw [held_eq hsource] at hmoved
  rw [Balanced, held_withDatabase, held_withDatabase]
  exact hmoved

theorem Balanced.moveAssigns {path : String} (hbalanced : system.Balanced) (hne : source ≠ index)
    (hdatabase : system.databases index = some database)
    (hsource : system.databases source = some other)
    (hnext : next = system.ledger.release database.handle) :
    ((system.withDatabase source next (some (other.moveConstruct path).2)).withDatabase index
      next (some (other.moveConstruct path).1)).Balanced := by
  have hreleased := GrantLedger.Balanced.release hbalanced index
  rw [held_eq hdatabase, ← hnext] at hreleased
  have hmoved := hreleased.transfer (Function.update_self ..) source
  rw [Function.update_of_ne hne, held_eq hsource, Function.update_comm hne,
    Function.update_idem, Function.update_comm hne.symm] at hmoved
  rw [Balanced, held_withDatabase, held_withDatabase]
  exact hmoved

theorem Balanced.open_out (hbalanced : system.Balanced)
    (hdatabase : system.databases index = some database) :
    ∀ connection ∈ database.db, .connection connection ∈ system.ledger.out := by
  intro connection hconnection
  exact hbalanced.exclusive.mem (held_connection hdatabase hconnection)

end DatabaseSystem

theorem DatabaseStep.balanced {system after : DatabaseSystem} {label : ℕ × DatabaseAction}
    (hstep : DatabaseStep system label after) (hbalanced : system.Balanced) : after.Balanced := by
  cases hstep with
  | @constructs index hfree =>
      have hidle : system.held index = none := by simp [DatabaseSystem.held, hfree]
      have hnone : (some Database.closed).bind Database.handle = none := rfl
      rw [DatabaseSystem.Balanced, DatabaseSystem.held_withDatabase, hnone, ← hidle,
        Function.update_eq_self]
      exact hbalanced
  | opens hdatabase hrun => exact hbalanced.exchanges hdatabase (open_settles hrun).1
  | opensStore hdatabase hrun => exact hbalanced.exchanges hdatabase (openStore_settles hrun).1
  | calls hdatabase hreturns =>
      exact GrantLedger.Balanced.kept hbalanced (hreturns.kept (hbalanced.open_out hdatabase))
  | moveConstructs hfree hsource =>
      exact DatabaseSystem.Balanced.moves hbalanced (by simp [DatabaseSystem.held, hfree]) hsource
  | moveAssigns hne hdatabase hsource hrun =>
      obtain ⟨rfl, hnext⟩ := moveAssign_settles hrun
      exact hbalanced.moveAssigns hne hdatabase hsource hnext
  | selfAssigns => exact hbalanced
  | closes hdatabase hrun =>
      obtain ⟨rfl, rfl⟩ := close_settles hrun
      exact hbalanced.exchanges hdatabase (.refused (.refl _))
  | destroys hdatabase hrun =>
      obtain ⟨-, rfl⟩ := close_settles hrun
      exact hbalanced.exchanges hdatabase (.refused (.refl _))

theorem run_databasesBalanced {history : DatabaseHistory} {system : DatabaseSystem}
    (hrun : Run DatabaseStep .initial history system) : system.Balanced := by
  refine hrun.invariant (fun _ system => system.Balanced) ?_
    fun _ hbalanced hstep => hstep.balanced hbalanced
  exact GrantLedger.Balanced.empty

/-! ## Linear handles -/

structure DatabaseSystem.Linear (system : DatabaseSystem) : Prop where
  usable : ∀ {index database}, system.databases index = some database →
    ∀ connection ∈ database.db, .connection connection ∈ system.ledger.out
  unique : ∀ {index other database database' connection},
    system.databases index = some database → system.databases other = some database' →
    database.db = some connection → database'.db = some connection → other = index
  owned : ∀ handle ∈ system.ledger.out, ∃ index database connection,
    system.databases index = some database ∧ database.db = some connection ∧
      handle = .connection connection
  misuses : system.ledger.misuses = 0
  returned_once : (∀ index, ∀ database ∈ system.databases index, database.db = none) →
    system.ledger.returned.Perm (List.range system.ledger.granted)

/-- In every reachable state the handles that are out are the connections of the open
databases, each of one database.  No call was made on a null or a closed connection or on a
finalized statement, nothing was closed, finalized or freed twice, and when every database
that is left is closed everything was given back once. -/
theorem database_handles_are_linear {history : DatabaseHistory} {system : DatabaseSystem}
    (hrun : Run DatabaseStep .initial history system) : system.Linear := by
  have hbalanced := run_databasesBalanced hrun
  constructor
  case usable => exact hbalanced.open_out
  case unique =>
    intro index other database database' connection hindex hother hdb hdb'
    exact hbalanced.exclusive.unique (DatabaseSystem.held_connection hindex hdb)
      (DatabaseSystem.held_connection hother hdb')
  case owned =>
    intro handle hout
    obtain ⟨index, hheld⟩ := (hbalanced.exclusive.held_iff handle).mp hout
    obtain ⟨database, hdatabase, hhandle⟩ := Option.bind_eq_some_iff.mp hheld
    obtain ⟨connection, hconnection, rfl⟩ := Option.map_eq_some_iff.mp hhandle
    exact ⟨index, database, connection, hdatabase, hconnection, rfl⟩
  case misuses => exact hbalanced.misuses
  case returned_once =>
    intro hclosed
    refine hbalanced.returned_perm fun index => ?_
    rw [DatabaseSystem.held, Option.bind_eq_none_iff]
    intro database hdatabase
    rw [Database.handle, hclosed index database hdatabase, Option.map_none]

/-! ## A refused schema, and a statement in a moved database -/

/-- The table is refused with an allocated text, and the store is closed again. -/
theorem refused_schema :
    Runs SqliteCall.Settles (openStore .closed "kv.db" : SqliteProgram Unit _) .empty
      ⟨some (.message "execute failed: disk full"), .closed⟩
      ((((GrantLedger.empty.grant (.connection 1)).grant (.message 7)).giveBack
        (.message 7)).giveBack (.connection 1)) := by
  refine .answered (SQLITE_OK, some 1) ⟨Bool.false_ne_true, fun _ => Bool.false_ne_true, rfl⟩ ?_
  refine .answered SQLITE_OK rfl ?_
  refine .answered (13, some (7, "disk full")) ⟨by decide, Bool.false_ne_true, rfl⟩ ?_
  refine .answered () rfl ?_
  exact .answered SQLITE_OK rfl (.done _ _)

/-- One parameter is refused, and the statement is finalized. -/
theorem refused_bind {ledger : SqliteLedger} (hconnection : .connection 2 ∈ ledger.out)
    (hstatement : .statement ⟨2, 9⟩ ∉ ledger.out) :
    Runs SqliteCall.Settles
      (Database.execWithArgs ⟨some 2, "kv.db"⟩ "DELETE FROM kv_store" 1
        (some fun _ => some [107]) : SqliteProgram Unit _) ledger
      ⟨false, some (.message "bind failed: column index out of range")⟩
      ((ledger.grant (.statement ⟨2, 9⟩)).giveBack (.statement ⟨2, 9⟩)) := by
  have hused := GrantLedger.use_of_out hconnection
  have hgranted : (ledger.grant (.statement ⟨2, 9⟩)).out =
      insert (.statement ⟨2, 9⟩) ledger.out := GrantLedger.out_grant
  have hprepare : PrepareSettles (some 2) (ledger.use (some (.connection 2)))
      (ledger.grant (.statement ⟨2, 9⟩)) (SQLITE_OK, some ⟨2, 9⟩) := by
    rw [hused]
    exact ⟨rfl, rfl, hstatement, rfl⟩
  refine .answered (SQLITE_OK, some ⟨2, 9⟩) hprepare ?_
  refine .answered 25 (GrantLedger.use_of_out (hgranted ▸ Set.mem_insert _ _)).symm ?_
  refine .answered "column index out of range"
    (GrantLedger.use_of_out (hgranted ▸ Set.mem_insert_of_mem _ hconnection)).symm ?_
  exact .answered SQLITE_OK rfl (.done _ _)

theorem moved_database_run :
    ∃ history system, Run DatabaseStep .initial history system ∧
      history.map Prod.snd = [(0, .constructs), (0, .opensStore "kv.db"), (0, .opens "kv.db"),
        (1, .moveConstructs 0),
        (1, .calls (.execWithArgs "DELETE FROM kv_store" 1 (some fun _ => some [107]))),
        (1, .moveAssigns 1), (0, .destroys), (1, .destroys)] ∧
      (∀ index, system.databases index = none) ∧ system.ledger.granted = 4 := by
  have hstart : Run DatabaseStep .initial [] _ := .start
  have hconstructs := hstart.andThen (0, .constructs) (.constructs rfl)
  have hrefused := hconstructs.andThen (0, .opensStore "kv.db") (.opensStore rfl refused_schema)
  have hopens := hrefused.andThen (0, .opens "kv.db") (.opens rfl
    (.answered (SQLITE_OK, some 2) ⟨Bool.false_ne_true, fun _ => Bool.false_ne_true, rfl⟩
      (.answered SQLITE_OK rfl (.done _ _))))
  have hmoved := hopens.andThen (1, .moveConstructs 0)
    (@DatabaseStep.moveConstructs _ 1 0 _ "" rfl rfl)
  have hcalled := hmoved.andThen
    (1, .calls (.execWithArgs "DELETE FROM kv_store" 1 (some fun _ => some [107])))
    (.calls rfl (.execWithArgs (refused_bind rfl Bool.false_ne_true)))
  have hself := hcalled.andThen (1, .moveAssigns 1) (.selfAssigns rfl)
  have hfirst := hself.andThen (0, .destroys) (.destroys rfl (.done _ _))
  have hlast := hfirst.andThen (1, .destroys)
    (.destroys rfl (.answered SQLITE_OK rfl (.done _ _)))
  refine ⟨_, _, hlast, rfl, fun index => ?_, rfl⟩
  by_cases hzero : index = 0
  · rw [hzero]
    rfl
  · by_cases hone : index = 1
    · rw [hone]
      rfl
    · simp [DatabaseSystem.withDatabase, DatabaseSystem.initial, hzero, hone]

theorem moved_database_is_linear :
    ∃ history system, Run DatabaseStep .initial history system ∧ system.Linear ∧
      history.map Prod.snd = [(0, .constructs), (0, .opensStore "kv.db"), (0, .opens "kv.db"),
        (1, .moveConstructs 0),
        (1, .calls (.execWithArgs "DELETE FROM kv_store" 1 (some fun _ => some [107]))),
        (1, .moveAssigns 1), (0, .destroys), (1, .destroys)] ∧
      system.ledger.returned.Perm [0, 1, 2, 3] := by
  obtain ⟨history, system, hrun, hlabels, hnone, hgranted⟩ := moved_database_run
  have hlinear := database_handles_are_linear hrun
  have hreturned := hlinear.returned_once fun index database hdatabase => by
    rw [hnone index] at hdatabase
    cases hdatabase
  rw [hgranted] at hreturned
  exact ⟨history, system, hrun, hlinear, hlabels, hreturned⟩

end ElapPlatform.Storage.Handles
