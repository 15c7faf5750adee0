import ElapPlatform.DatabaseHandles
import ElapPlatform.ExclusiveHolders
import ElapPlatform.PersistentStoreMapRefinement

/-!
# Files under the stores

A store opens a connection to a file, and closes it or hands it on.  The statements of a call
go to the file of the connection that the store has.
-/

namespace ElapPlatform.Storage.Files

open Handles Interaction Interaction.Program Transition

/-! ## The library -/

/-- `names` leaves open which file a path is, as for a database in memory. -/
structure StoreLibrary (File : Type) where
  engine : Engine ConnectionId
  names : String → File → Prop
  opened : engine.State → ConnectionId → engine.State → Prop
  ensured : engine.State → ConnectionId → ResultCode → engine.State → Prop
  closed : engine.State → ConnectionId → engine.State → Prop

/-- Opening and closing leave what is committed, `CREATE TABLE IF NOT EXISTS` leaves the rows
of the table that exists, and a connection that is closed gives up its transaction. -/
structure StoreLibrary.Lawful {File : Type} (library : StoreLibrary File) : Prop where
  engine : library.engine.Lawful
  opened : ∀ {state connection next}, library.opened state connection next →
    library.engine.committed next = library.engine.committed state ∧
      ¬ library.engine.inTransaction next connection ∧
      ∀ other, other ≠ connection → (library.engine.inTransaction next other ↔
        library.engine.inTransaction state other)
  ensured : ∀ {state connection rc next}, library.ensured state connection rc next →
    ¬ library.engine.inTransaction state connection →
      library.engine.committed next = library.engine.committed state ∧
        ∀ other, library.engine.inTransaction next other ↔
          library.engine.inTransaction state other
  closed : ∀ {state connection next}, library.closed state connection next →
    library.engine.committed next = library.engine.committed state ∧
      ∀ other, other ≠ connection → (library.engine.inTransaction next other ↔
        library.engine.inTransaction state other)

section Disks

variable {File : Type} [DecidableEq File] (library : StoreLibrary File)

/-- The files, and the file of each connection that is open. -/
structure Disk where
  files : File → library.engine.State
  connections : ConnectionId → Option File

variable {library}

namespace Disk

def withFile (disk : Disk library) (file : File) (state : library.engine.State) :
    Disk library :=
  { disk with files := Function.update disk.files file state }

def withConnection (disk : Disk library) (connection : ConnectionId) (file : Option File) :
    Disk library :=
  { disk with connections := Function.update disk.connections connection file }

/-- A connection that could not be opened is on no file. -/
def Opens (disk : Disk library) (path : String) :
    ResultCode × Option ConnectionId → Disk library → Prop
  | (rc, none), next => rc ≠ SQLITE_OK ∧ next = disk
  | (rc, some connection), next =>
      disk.connections connection = none ∧
        if rc = SQLITE_OK then
          ∃ file state, library.names path file ∧
            library.opened (disk.files file) connection state ∧
            next = (disk.withFile file state).withConnection connection (some file)
        else next = disk

def Closes (disk : Disk library) (connection : Option ConnectionId) (next : Disk library) :
    Prop :=
  match connection.bind disk.connections with
  | none => next = disk
  | some file => ∃ open' ∈ connection, ∃ state,
      library.closed (disk.files file) open' state ∧
        next = (disk.withFile file state).withConnection open' none

def Ensures (disk : Disk library) (connection : Option ConnectionId) (rc : ResultCode)
    (next : Disk library) : Prop :=
  ∃ open' ∈ connection, ∃ file ∈ disk.connections open', ∃ state,
    library.ensured (disk.files file) open' rc state ∧ next = disk.withFile file state

/-- A statement goes to the file of its connection. -/
def Answers (connection : Option ConnectionId) (disk : Disk library) (request : Request)
    (reply : request.Reply) (next : Disk library) : Prop :=
  ∃ open' ∈ connection, ∃ file ∈ disk.connections open', ∃ state,
    library.engine.step (disk.files file) open' request reply state ∧
      next = disk.withFile file state

end Disk

/-- The calls of SQLite behind `open`, `close` and `operator=`. -/
def SqliteCall.AnswersOn {Row : Type} (disk : Disk library) :
    (call : SqliteCall Row) → call.Reply → Disk library → Prop
  | .openV2 path, reply, next => disk.Opens path reply next
  | .close db, _, next => disk.Closes db next
  | .closeV2 db, _, next => disk.Closes db next
  | .busyTimeout _ _, _, next => next = disk
  | .exec db sql, (rc, _), next => sql = createTable ∧ disk.Ensures db rc next
  | .free _, _, next => next = disk
  | .errstr _, _, next => next = disk
  | _, _, _ => False

end Disks

/-! ## Stores -/

section Systems

variable {File : Type} [DecidableEq File] (library : StoreLibrary File)

structure StoreSystem where
  stores : ℕ → Option Handles.Database
  disk : Disk library

inductive StoreAction where
  | constructs
  | opens (path : String) (error : Option ErrorText)
  | calls (call : Call)
  | moveConstructs (source : ℕ)
  | moveAssigns (source : ℕ)
  | closes
  | destroys

/-- The keys and string values of a call contain no NUL. -/
def StoreAction.NulFree : StoreAction → Prop
  | .calls call => call.operation.NulFree
  | _ => True

instance (action : StoreAction) : Decidable action.NulFree :=
  match action with
  | .calls call => inferInstanceAs (Decidable call.operation.NulFree)
  | .constructs | .opens _ _ | .moveConstructs _ | .moveAssigns _ | .closes | .destroys =>
      inferInstanceAs (Decidable True)

variable {library}

def StoreSystem.withStore (system : StoreSystem library) (index : ℕ) (disk : Disk library)
    (store : Option Handles.Database) : StoreSystem library :=
  ⟨Function.update system.stores index store, disk⟩

inductive StoreSystemStep :
    StoreSystem library → ℕ × StoreAction → StoreSystem library → Prop
  | constructs {system : StoreSystem library} {index : ℕ} (hfree : system.stores index = none) :
      StoreSystemStep system (index, .constructs)
        (system.withStore index system.disk (some .closed))
  | opens {system : StoreSystem library} {index : ℕ} {store after : Handles.Database}
      {path : String} {error : Option ErrorText} {next : Disk library}
      (hstore : system.stores index = some store)
      (hrun : Runs SqliteCall.AnswersOn (openStore store path : SqliteProgram Unit _) system.disk
        ⟨error, after⟩ next) :
      StoreSystemStep system (index, .opens path error) (system.withStore index next (some after))
  | calls {system : StoreSystem library} {index : ℕ} {store : Handles.Database} {call : Call}
      {next : Disk library} (hstore : system.stores index = some store)
      (htranscript : Transcript
        ((⟨store.asStatements⟩ : PersistentStore).operate call.operation) call.statements
        call.answer)
      (hanswered : Answered (Disk.Answers store.db) system.disk call.statements next) :
      StoreSystemStep system (index, .calls call) { system with disk := next }
  | moveConstructs {system : StoreSystem library} {index source : ℕ} {other : Handles.Database}
      {path : String} (hfree : system.stores index = none)
      (hsource : system.stores source = some other) :
      StoreSystemStep system (index, .moveConstructs source)
        ((system.withStore source system.disk (some (other.moveConstruct path).2)).withStore
          index system.disk (some (other.moveConstruct path).1))
  | moveAssigns {system : StoreSystem library} {index source : ℕ}
      {store other : Handles.Database} {path : String}
      {pair : Handles.Database × Handles.Database} {next : Disk library} (hne : source ≠ index)
      (hstore : system.stores index = some store) (hsource : system.stores source = some other)
      (hrun : Runs SqliteCall.AnswersOn (store.moveAssign other path : SqliteProgram Unit _)
        system.disk pair next) :
      StoreSystemStep system (index, .moveAssigns source)
        ((system.withStore source next (some pair.2)).withStore index next (some pair.1))
  | selfAssigns {system : StoreSystem library} {index : ℕ} {store : Handles.Database}
      (hstore : system.stores index = some store) :
      StoreSystemStep system (index, .moveAssigns index) system
  | closes {system : StoreSystem library} {index : ℕ} {store after : Handles.Database}
      {next : Disk library} (hstore : system.stores index = some store)
      (hrun : Runs SqliteCall.AnswersOn (store.close : SqliteProgram Unit _) system.disk after
        next) :
      StoreSystemStep system (index, .closes) (system.withStore index next (some after))
  | destroys {system : StoreSystem library} {index : ℕ} {store after : Handles.Database}
      {next : Disk library} (hstore : system.stores index = some store)
      (hrun : Runs SqliteCall.AnswersOn (store.close : SqliteProgram Unit _) system.disk after
        next) :
      StoreSystemStep system (index, .destroys) (system.withStore index next none)

end Systems

/-! ## Files of maps -/

/-- What a call returns where there is nothing to ask. -/
def Operation.absent : (operation : Operation) → operation.Value
  | .write _ => false
  | .get _ => none
  | .getBlob _ => []
  | .has _ => false
  | .keys => []

/-- A store without a connection asks nothing and says so. -/
structure Call.Unavailable (call : Call) : Prop where
  statements : call.statements = []
  value : call.answer.value = Operation.absent call.operation
  error : call.answer.error ≠ none

/-- A map for each file, and the file of each store that is open. -/
structure MapFiles (File : Type) where
  maps : File → StoreMap
  attached : ℕ → Option (Option File)

section Maps

variable {File : Type} [DecidableEq File] (names : String → File → Prop)

def MapFiles.attach (files : MapFiles File) (index : ℕ) (file : Option (Option File)) :
    MapFiles File :=
  { files with attached := Function.update files.attached index file }

inductive MapFilesStep : MapFiles File → ℕ × StoreAction → MapFiles File → Prop
  | constructs {files : MapFiles File} {index : ℕ} (hfree : files.attached index = none) :
      MapFilesStep files (index, .constructs) (files.attach index (some none))
  | opens {files : MapFiles File} {index : ℕ} {before : Option File} {path : String} {file : File}
      (hstore : files.attached index = some before) (hnames : names path file) :
      MapFilesStep files (index, .opens path none) (files.attach index (some (some file)))
  | refuses {files : MapFiles File} {index : ℕ} {before : Option File} {path : String}
      {error : ErrorText} (hstore : files.attached index = some before) :
      MapFilesStep files (index, .opens path (some error)) (files.attach index (some none))
  | calls {files : MapFiles File} {index : ℕ} {file : File} {call : Call} {map : StoreMap}
      (hstore : files.attached index = some (some file))
      (hcall : MapStep (files.maps file) call map) :
      MapFilesStep files (index, .calls call)
        { files with maps := Function.update files.maps file map }
  | unavailable {files : MapFiles File} {index : ℕ} {call : Call}
      (hstore : files.attached index = some none) (hcall : Call.Unavailable call) :
      MapFilesStep files (index, .calls call) files
  | moveConstructs {files : MapFiles File} {index source : ℕ} {file : Option File}
      (hfree : files.attached index = none) (hsource : files.attached source = some file) :
      MapFilesStep files (index, .moveConstructs source)
        ((files.attach source (some none)).attach index (some file))
  | moveAssigns {files : MapFiles File} {index source : ℕ} {before file : Option File}
      (hne : source ≠ index) (hstore : files.attached index = some before)
      (hsource : files.attached source = some file) :
      MapFilesStep files (index, .moveAssigns source)
        ((files.attach source (some none)).attach index (some file))
  | selfAssigns {files : MapFiles File} {index : ℕ} {before : Option File}
      (hstore : files.attached index = some before) :
      MapFilesStep files (index, .moveAssigns index) files
  | closes {files : MapFiles File} {index : ℕ} {before : Option File}
      (hstore : files.attached index = some before) :
      MapFilesStep files (index, .closes) (files.attach index (some none))
  | destroys {files : MapFiles File} {index : ℕ} {before : Option File}
      (hstore : files.attached index = some before) :
      MapFilesStep files (index, .destroys) (files.attach index none)

end Maps

end ElapPlatform.Storage.Files
