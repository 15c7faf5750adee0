import ElapPlatform.PersistentStoreFiles

/-!
# What is stored outlives the store

Stores on any number of files are opened, used, moved, closed and opened again, and each file
goes on as one map.
-/

namespace ElapPlatform.Storage.Files

open Handles Interaction Interaction.Program Transition

variable {File : Type} {library : StoreLibrary File}

/-! ## Disks -/

namespace Disk

variable {disk middle next : Disk library} {file : File} {state state' : library.engine.State}
  {connection : ConnectionId} {connections : ConnectionId → Option File} {path : String}
  {rc : ResultCode}

/-- No connection is in a transaction. -/
def Quiet (disk : Disk library) : Prop :=
  ∀ connection, ∀ file ∈ disk.connections connection,
    ¬ library.engine.inTransaction (disk.files file) connection

def maps (disk : Disk library) (file : File) : StoreMap :=
  contents (library.engine.committed (disk.files file))

/-- The tables are as before, and still nobody is in a transaction. -/
structure Rests (disk next : Disk library) : Prop where
  committed : ∀ file, library.engine.committed (next.files file) =
    library.engine.committed (disk.files file)
  quiet : next.Quiet

theorem Rests.refl (hquiet : disk.Quiet) : disk.Rests disk := ⟨fun _ => rfl, hquiet⟩

theorem Rests.trans (hfirst : disk.Rests middle) (hlast : middle.Rests next) :
    disk.Rests next :=
  ⟨fun file => (hlast.committed file).trans (hfirst.committed file), hlast.quiet⟩

theorem Rests.maps (hrests : disk.Rests next) : next.maps = disk.maps := by
  funext file
  rw [Disk.maps, Disk.maps, hrests.committed]

/-- The connections without the one that is closed. -/
def released (connections : ConnectionId → Option File) (connection : Option ConnectionId) :
    ConnectionId → Option File :=
  connection.elim connections fun open' => Function.update connections open' none

variable [DecidableEq File]

@[simp] theorem files_withFile_self : (disk.withFile file state).files file = state :=
  Function.update_self ..

theorem files_withFile_of_ne {other : File} (hne : other ≠ file) :
    (disk.withFile file state).files other = disk.files other :=
  Function.update_of_ne hne ..

omit [DecidableEq File] in
@[simp] theorem connections_withConnection_self {opened : Option File} :
    (disk.withConnection connection opened).connections connection = opened :=
  Function.update_self ..

@[simp] theorem withFile_withFile :
    (disk.withFile file state).withFile file state' = disk.withFile file state' := by
  simp [withFile]

@[simp] theorem withFile_self : disk.withFile file (disk.files file) = disk := by
  simp [withFile]

theorem committed_withFile
    (hcommitted : library.engine.committed state = library.engine.committed (disk.files file))
    (other : File) : library.engine.committed ((disk.withFile file state).files other) =
      library.engine.committed (disk.files other) := by
  by_cases hsame : other = file
  · subst hsame
    rw [files_withFile_self, hcommitted]
  · rw [files_withFile_of_ne hsame]

theorem maps_withFile : (disk.withFile file state).maps =
    Function.update disk.maps file (contents (library.engine.committed state)) := by
  funext other
  unfold maps
  by_cases hsame : other = file
  · subst hsame
    rw [files_withFile_self, Function.update_self]
  · rw [files_withFile_of_ne hsame, Function.update_of_ne hsame]

/-- The file of some connections has changed. -/
theorem quiet_of_change
    (hfile : ∀ connection, connections connection = some file →
      ¬ library.engine.inTransaction state connection)
    (hothers : ∀ connection other, other ≠ file → connections connection = some other →
      ¬ library.engine.inTransaction (disk.files other) connection) :
    ({ disk.withFile file state with connections := connections } : Disk library).Quiet := by
  intro connection other hother
  by_cases hsame : other = file
  · subst hsame
    rw [files_withFile_self]
    exact hfile connection hother
  · rw [files_withFile_of_ne hsame]
    exact hothers connection other hsame hother

/-! ## What opening and closing leave -/

variable (hlaws : library.Lawful)
include hlaws

theorem closes_rests {connection : Option ConnectionId} (hquiet : disk.Quiet)
    (hcloses : disk.Closes connection next) :
    disk.Rests next ∧ next.connections = released disk.connections connection := by
  unfold Closes at hcloses
  cases connection with
  | none =>
      obtain rfl := hcloses
      exact ⟨.refl hquiet, rfl⟩
  | some open' =>
      cases hfile : disk.connections open' with
      | none =>
          simp only [Option.bind_some, hfile] at hcloses
          obtain rfl := hcloses
          refine ⟨.refl hquiet, ?_⟩
          rw [released, Option.elim_some, ← hfile, Function.update_eq_self]
      | some file =>
          simp only [Option.bind_some, hfile] at hcloses
          obtain ⟨_, ⟨⟩, state, hclosed, rfl⟩ := hcloses
          obtain ⟨hcommitted, hothers⟩ := hlaws.closed hclosed
          refine ⟨⟨committed_withFile hcommitted, quiet_of_change ?_ ?_⟩, rfl⟩
          · intro other hother
            obtain ⟨hne, hkept⟩ := PartialMap.erase_eq_some_iff.mp hother
            exact mt (hothers other hne).mp (hquiet other file hkept)
          · intro other kept _ hother
            exact hquiet other kept (PartialMap.erase_eq_some_iff.mp hother).2

theorem opens_rests (hquiet : disk.Quiet)
    (hopens : disk.Opens path (SQLITE_OK, some connection) next) :
    disk.Rests next ∧ disk.connections connection = none ∧ ∃ file, library.names path file ∧
      next.connections = Function.update disk.connections connection (some file) := by
  obtain ⟨hfree, hopened⟩ := hopens
  rw [if_pos rfl] at hopened
  obtain ⟨file, state, hnames, hopened, rfl⟩ := hopened
  obtain ⟨hcommitted, hown, hothers⟩ := hlaws.opened hopened
  refine ⟨⟨committed_withFile hcommitted, quiet_of_change ?_ ?_⟩, hfree, file, hnames, rfl⟩
  · intro other hother
    rcases PartialMap.insert_eq_some_iff.mp hother with ⟨rfl, -⟩ | ⟨hne, hkept⟩
    · exact hown
    · exact mt (hothers other hne).mp (hquiet other file hkept)
  · intro other kept hne hother
    rcases PartialMap.insert_eq_some_iff.mp hother with ⟨-, rfl⟩ | ⟨-, hkept⟩
    · exact absurd rfl hne
    · exact hquiet other kept hkept

theorem ensures_rests {connection : Option ConnectionId} (hquiet : disk.Quiet)
    (hensures : disk.Ensures connection rc next) :
    disk.Rests next ∧ next.connections = disk.connections := by
  obtain ⟨open', -, file, hfile, state, hensured, rfl⟩ := hensures
  obtain ⟨hcommitted, hothers⟩ := hlaws.ensured hensured (hquiet open' file hfile)
  refine ⟨⟨committed_withFile hcommitted, quiet_of_change ?_ ?_⟩, rfl⟩
  · intro other hother
    exact mt (hothers other).mp (hquiet other file hother)
  · intro other kept _ hother
    exact hquiet other kept hother

end Disk

/-! ## Programs on disks -/

section Programs

variable [DecidableEq File] {disk next : Disk library} {store : Handles.Database} {path : String}
  {Row : Type}

theorem close_runs {after : Handles.Database}
    (hrun : Runs SqliteCall.AnswersOn (store.close : SqliteProgram Row _) disk after next) :
    after = .closed ∧ disk.Closes store.db next := by
  obtain ⟨db, name⟩ := store
  cases db with
  | none => exact runs_done_iff.mp hrun
  | some connection =>
      obtain ⟨rc, middle, hclose, hdone⟩ := runs_bind_iff.mp hrun
      obtain ⟨hafter, rfl⟩ := runs_done_iff.mp hdone
      exact ⟨hafter, runs_perform_iff.mp hclose⟩

theorem moveAssign_runs {other : Handles.Database} {pair : Handles.Database × Handles.Database}
    (hrun : Runs SqliteCall.AnswersOn (store.moveAssign other path : SqliteProgram Row _) disk
      pair next) :
    pair = other.moveConstruct path ∧ disk.Closes store.db next := by
  obtain ⟨after, middle, hclose, hdone⟩ := runs_bind_iff.mp hrun
  obtain ⟨hpair, rfl⟩ := runs_done_iff.mp hdone
  exact ⟨hpair, (close_runs hclose).2⟩

theorem open_runs {answer : ObjectAnswer Handles.Database}
    (hrun : Runs SqliteCall.AnswersOn (store.open path : SqliteProgram Row _) disk answer next) :
    ∃ middle, disk.Closes store.db middle ∧
      (answer.error.isSome ∧ answer.object = .closed ∧ next = middle ∨
        ∃ connection, answer = ⟨none, ⟨some connection, path⟩⟩ ∧
          middle.Opens path (SQLITE_OK, some connection) next) := by
  obtain ⟨closed, middle, hclose, hbehind⟩ := runs_bind_iff.mp hrun
  obtain ⟨rfl, hcloses⟩ := close_runs hclose
  obtain ⟨⟨rc, db⟩, opened, hopen, hrest⟩ := runs_bind_iff.mp hbehind
  have hopens : middle.Opens path (rc, db) opened := runs_perform_iff.mp hopen
  refine ⟨middle, hcloses, ?_⟩
  dsimp only at hrest
  by_cases hfailed : rc ≠ SQLITE_OK
  · rw [if_pos hfailed] at hrest
    cases db with
    | none =>
        obtain ⟨-, rfl⟩ := hopens
        obtain ⟨text, last, herrstr, hdone⟩ := runs_bind_iff.mp hrest
        obtain rfl : last = opened := runs_perform_iff.mp herrstr
        obtain ⟨rfl, rfl⟩ := runs_done_iff.mp hdone
        exact .inl ⟨rfl, rfl, rfl⟩
    | some connection =>
        obtain ⟨hfree, hopened⟩ := hopens
        rw [if_neg hfailed] at hopened
        subst hopened
        obtain ⟨_, given, hgiven, hlast⟩ := runs_bind_iff.mp hrest
        have hgone : opened.Closes (some connection) given := runs_perform_iff.mp hgiven
        simp only [Disk.Closes, Option.bind_some, hfree] at hgone
        obtain ⟨text, last, herrstr, hdone⟩ := runs_bind_iff.mp hlast
        obtain rfl : last = given := runs_perform_iff.mp herrstr
        obtain ⟨rfl, rfl⟩ := runs_done_iff.mp hdone
        exact .inl ⟨rfl, rfl, hgone⟩
  · rw [if_neg hfailed] at hrest
    obtain rfl : rc = SQLITE_OK := not_not.mp hfailed
    cases db with
    | none => exact absurd rfl hopens.1
    | some connection =>
        obtain ⟨_, last, htimeout, hdone⟩ := runs_bind_iff.mp hrest
        obtain rfl : last = opened := runs_perform_iff.mp htimeout
        obtain ⟨rfl, rfl⟩ := runs_done_iff.mp hdone
        exact .inr ⟨connection, rfl, hopens⟩

/-- A store has no connection, or has the only one on the file that it has opened. -/
def Attaches (path : String) (store : Handles.Database) (connections : ConnectionId → Option File)
    (next : Disk library) : Prop :=
  store = .closed ∧ next.connections = connections ∨
    ∃ connection file, store = ⟨some connection, path⟩ ∧ connections connection = none ∧
      library.names path file ∧
      next.connections = Function.update connections connection (some file)

theorem ensureSchema_runs {connection : ConnectionId} {answer : Answer Bool}
    (hrun : Runs SqliteCall.AnswersOn
      (Handles.Database.execute ⟨some connection, path⟩ createTable : SqliteProgram Row _) disk
      answer next) :
    (answer.value = false → answer.error.isSome) ∧
      ∃ rc, disk.Ensures (some connection) rc next := by
  obtain ⟨⟨rc, message⟩, middle, hexec, hrest⟩ := runs_bind_iff.mp hrun
  obtain ⟨-, hensures⟩ : createTable = createTable ∧ disk.Ensures (some connection) rc middle :=
    runs_perform_iff.mp hexec
  dsimp only at hrest
  by_cases hfailed : rc ≠ SQLITE_OK
  · rw [if_pos hfailed] at hrest
    cases message with
    | none =>
        obtain ⟨text, last, herrstr, hdone⟩ := runs_bind_iff.mp hrest
        obtain rfl : last = middle := runs_perform_iff.mp herrstr
        obtain ⟨rfl, rfl⟩ := runs_done_iff.mp hdone
        exact ⟨fun _ => rfl, rc, hensures⟩
    | some allocated =>
        obtain ⟨_, last, hgiven, hdone⟩ := runs_bind_iff.mp hrest
        obtain rfl : last = middle := runs_perform_iff.mp hgiven
        obtain ⟨rfl, rfl⟩ := runs_done_iff.mp hdone
        exact ⟨fun _ => rfl, rc, hensures⟩
  · rw [if_neg hfailed] at hrest
    obtain ⟨rfl, rfl⟩ := runs_done_iff.mp hrest
    exact ⟨fun hfalse => absurd hfalse Bool.noConfusion, rc, hensures⟩

theorem openStore_runs (hlaws : library.Lawful) (hquiet : disk.Quiet)
    {answer : ObjectAnswer Handles.Database}
    (hrun : Runs SqliteCall.AnswersOn (openStore store path : SqliteProgram Row _) disk answer
      next) :
    disk.Rests next ∧ (answer.error.isSome ↔ answer.object = .closed) ∧
      Attaches path answer.object (Disk.released disk.connections store.db) next := by
  obtain ⟨opened, after, hopen, hrest⟩ := runs_bind_iff.mp hrun
  obtain ⟨middle, hcloses, hopened⟩ := open_runs hopen
  obtain ⟨hrests, hconnections⟩ := Disk.closes_rests hlaws hquiet hcloses
  rw [← hconnections]
  rcases hopened with ⟨herror, hclosed, rfl⟩ | ⟨connection, rfl, hopens⟩
  · rw [if_pos herror] at hrest
    obtain ⟨rfl, rfl⟩ := runs_done_iff.mp hrest
    exact ⟨hrests, ⟨fun _ => hclosed, fun _ => herror⟩, .inl ⟨hclosed, rfl⟩⟩
  · obtain ⟨hopened, hfree, file, hnames, hattached⟩ :=
      Disk.opens_rests hlaws hrests.quiet hopens
    obtain ⟨ensured, last, hensure, hafter⟩ := runs_bind_iff.mp hrest
    obtain ⟨herror, rc, hensures⟩ := ensureSchema_runs hensure
    obtain ⟨hensured, hkept⟩ := Disk.ensures_rests hlaws hopened.quiet hensures
    have hlast := (hrests.trans hopened).trans hensured
    cases hvalue : ensured.value with
    | false =>
        rw [if_pos (by rw [hvalue]; rfl)] at hafter
        obtain ⟨closed, final, hclose, hdone⟩ := runs_bind_iff.mp hafter
        obtain ⟨rfl, hgone⟩ := close_runs hclose
        obtain ⟨rfl, rfl⟩ := runs_done_iff.mp hdone
        obtain ⟨hfinal, hreleased⟩ := Disk.closes_rests hlaws hlast.quiet hgone
        refine ⟨hlast.trans hfinal, ⟨fun _ => rfl, fun _ => herror hvalue⟩, .inl ⟨rfl, ?_⟩⟩
        rw [hreleased, hkept, hattached]
        exact PartialMap.erase_insert hfree
    | true =>
        rw [if_neg (by rw [hvalue]; decide)] at hafter
        obtain ⟨rfl, rfl⟩ := runs_done_iff.mp hafter
        have hsucceeds : (none : Option ErrorText).isSome ↔
            (⟨some connection, path⟩ : Handles.Database) = .closed := by
          simp [Handles.Database.closed]
        refine ⟨hlast, hsucceeds, .inr ⟨connection, file, rfl, hfree, hnames, ?_⟩⟩
        rw [hkept, hattached]

end Programs

/-! ## Calls -/

section Calls

variable [DecidableEq File] {disk next : Disk library} {file : File} {connection : ConnectionId}

/-- The statements of one connection stay on its file. -/
theorem answered_on_file {statements : List (Exchange Request Request.Reply)}
    (hconnection : disk.connections connection = some file)
    (hanswered : Answered (Disk.Answers (some connection)) disk statements next) :
    ∃ state, Answered (library.engine.Answers connection) (disk.files file) statements state ∧
      next = disk.withFile file state := by
  induction hanswered with
  | nil disk => exact ⟨disk.files file, .nil _, Disk.withFile_self.symm⟩
  | cons hanswer hrest ih =>
      obtain ⟨_, ⟨⟩, other, hother, state, hstep, rfl⟩ := hanswer
      obtain rfl : file = other := Option.some.inj (hconnection.symm.trans hother)
      obtain ⟨final, hfinal, rfl⟩ := ih hconnection
      rw [Disk.files_withFile_self] at hfinal
      exact ⟨final, .cons hstep hfinal, Disk.withFile_withFile⟩

omit [DecidableEq File] in
theorem others_of_answered (hlaws : library.Lawful)
    {statements : List (Exchange Request Request.Reply)} {state final : library.engine.State}
    {other : ConnectionId} (hne : other ≠ connection)
    (hanswered : Answered (library.engine.Answers connection) state statements final) :
    library.engine.inTransaction final other ↔ library.engine.inTransaction state other := by
  induction hanswered with
  | nil => exact Iff.rfl
  | cons hanswer _ ih => exact ih.trans (hlaws.engine.frame hanswer hne).1

/-- One call on a file is one step of its map. -/
theorem call_simulates (hlaws : library.Lawful) {call : Call} (hcall : call.operation.NulFree)
    (hquiet : disk.Quiet) (hkeys : ∀ file, KeysNulFree (library.engine.committed (disk.files file)))
    (hconnection : disk.connections connection = some file)
    (htranscript : Transcript ((⟨⟨true⟩⟩ : PersistentStore).operate call.operation)
      call.statements call.answer)
    (hanswered : Answered (Disk.Answers (some connection)) disk call.statements next) :
    ∃ map, MapStep (disk.maps file) call map ∧
      next.maps = Function.update disk.maps file map ∧ next.connections = disk.connections ∧
      next.Quiet ∧ ∀ file, KeysNulFree (library.engine.committed (next.files file)) := by
  obtain ⟨state, hstep, rfl⟩ := answered_on_file hconnection hanswered
  obtain ⟨hmap, hfree, hended⟩ := storeStep_simulates hlaws.engine rfl hcall (hkeys file)
    (hquiet connection file hconnection) ⟨htranscript, hstep⟩
  refine ⟨_, hmap, Disk.maps_withFile, rfl, ?_, ?_⟩
  · refine Disk.quiet_of_change ?_ ?_
    · intro other hother
      by_cases hsame : other = connection
      · exact hsame ▸ hended
      · exact mt (others_of_answered hlaws hsame hstep).mp (hquiet other file hother)
    · intro other kept _ hother
      exact hquiet other kept hother
  · intro other
    by_cases hsame : other = file
    · subst hsame
      rwa [Disk.files_withFile_self]
    · rw [Disk.files_withFile_of_ne hsame]
      exact hkeys other

theorem write_closed (write : Write) : ∃ error,
    (⟨⟨false⟩⟩ : PersistentStore).write write = .done ⟨false, some error⟩ := by
  cases write with
  | put key value => exact ⟨_, rfl⟩
  | putAll values => exact ⟨_, rfl⟩
  | putBlob key data size =>
      change ∃ error, (⟨⟨false⟩⟩ : PersistentStore).putBlob key data size = _
      unfold PersistentStore.putBlob
      split_ifs <;> exact ⟨_, rfl⟩
  | remove key => exact ⟨_, rfl⟩
  | clear => exact ⟨_, rfl⟩

/-- Without a connection nothing is asked. -/
theorem operate_closed (operation : Operation) : ∃ error,
    (⟨⟨false⟩⟩ : PersistentStore).operate operation =
      .done ⟨Operation.absent operation, some error⟩ := by
  cases operation with
  | write write => exact write_closed write
  | get key => exact ⟨_, rfl⟩
  | getBlob key => exact ⟨_, rfl⟩
  | has key => exact ⟨_, rfl⟩
  | keys => exact ⟨_, rfl⟩

end Calls

/-! ## The stores of a system -/

namespace StoreSystem

variable {system : StoreSystem library} {index source : ℕ} {next : Disk library}
  {store other : Handles.Database}

def held (system : StoreSystem library) (index : ℕ) : Option ConnectionId :=
  (system.stores index).bind Handles.Database.db

/-- The file of a store that is open. -/
def attached (system : StoreSystem library) (index : ℕ) : Option (Option File) :=
  (system.stores index).map fun store => store.db.bind system.disk.connections

def toMaps (system : StoreSystem library) : MapFiles File := ⟨system.disk.maps, system.attached⟩

/-- Every open connection belongs to one store. -/
structure Consistent (system : StoreSystem library) : Prop where
  exclusive : Exclusive {connection | system.disk.connections connection ≠ none} system.held
  quiet : system.disk.Quiet
  keys : ∀ file, KeysNulFree (library.engine.committed (system.disk.files file))

theorem attached_eq (hstore : system.stores index = some store) :
    system.attached index = some (store.db.bind system.disk.connections) := by
  rw [attached, hstore, Option.map_some]

theorem held_eq (hstore : system.stores index = some store) :
    system.held index = store.db := by
  rw [held, hstore, Option.bind_some]

theorem held_withStore (after : Option Handles.Database) :
    (system.withStore index next after).held =
      Function.update system.held index (after.bind Handles.Database.db) := by
  funext holder
  by_cases hsame : holder = index
  · subst hsame
    simp [held, withStore]
  · simp [held, withStore, hsame]

/-- The files of the other stores are what they were. -/
theorem attached_withStore (after : Option Handles.Database)
    (hothers : ∀ holder, holder ≠ index → ∀ connection ∈ system.held holder,
      next.connections connection = system.disk.connections connection) :
    (system.withStore index next after).attached =
      Function.update system.attached index
        (after.map fun store => store.db.bind next.connections) := by
  funext holder
  by_cases hsame : holder = index
  · subst hsame
    simp [attached, withStore]
  · have hstores : (system.withStore index next after).stores holder = system.stores holder :=
      Function.update_of_ne hsame ..
    rw [Function.update_of_ne hsame, attached, attached, hstores]
    cases hstore : system.stores holder with
    | none => rfl
    | some store =>
        cases hdb : store.db with
        | none => simp [hdb]
        | some connection =>
            have hheld : connection ∈ system.held holder := (held_eq hstore).trans hdb
            simp [hdb, withStore, hothers holder hsame connection hheld]

theorem Consistent.attached_of_held (hconsistent : system.Consistent)
    (hstore : system.stores index = some store) {connection : ConnectionId}
    (hdb : store.db = some connection) :
    ∃ file, system.disk.connections connection = some file :=
  Option.ne_none_iff_exists'.mp (hconsistent.exclusive.mem ((held_eq hstore).trans hdb))

theorem outstanding_insert {connections : ConnectionId → Option File} {connection : ConnectionId}
    {file : File} :
    {open' | Function.update connections connection (some file) open' ≠ none} =
      insert connection {open' | connections open' ≠ none} := by
  ext open'
  by_cases hsame : open' = connection
  · subst hsame
    simp
  · simp [hsame]

theorem outstanding_erase {connections : ConnectionId → Option File} {connection : ConnectionId} :
    {open' | Function.update connections connection none open' ≠ none} =
      {open' | connections open' ≠ none} \ {connection} := by
  ext open'
  by_cases hsame : open' = connection
  · subst hsame
    simp
  · simp [hsame]

theorem Consistent.released (hconsistent : system.Consistent)
    (hstore : system.stores index = some store) :
    Exclusive {connection | Disk.released system.disk.connections store.db connection ≠ none}
      (Function.update system.held index none) := by
  cases hdb : store.db with
  | none => exact hconsistent.exclusive.idle ((held_eq hstore).trans hdb)
  | some connection =>
      rw [Disk.released, Option.elim_some, outstanding_erase]
      exact hconsistent.exclusive.release ((held_eq hstore).trans hdb)

theorem Consistent.released_others (hconsistent : system.Consistent)
    (hstore : system.stores index = some store) {holder : ℕ} (hne : holder ≠ index)
    {connection : ConnectionId} (hheld : connection ∈ system.held holder) :
    Disk.released system.disk.connections store.db connection =
      system.disk.connections connection := by
  cases hdb : store.db with
  | none => rfl
  | some own =>
      refine Function.update_of_ne ?_ ..
      rintro rfl
      exact hne (hconsistent.exclusive.unique ((held_eq hstore).trans hdb) hheld)

theorem Consistent.keys_of_rests (hconsistent : system.Consistent)
    (hrests : system.disk.Rests next) (file : File) :
    KeysNulFree (library.engine.committed (next.files file)) := by
  rw [hrests.committed]
  exact hconsistent.keys file

/-- A store has closed its connection. -/
theorem Consistent.closes (hconsistent : system.Consistent)
    (hstore : system.stores index = some store) (hrests : system.disk.Rests next)
    (hconnections : next.connections = Disk.released system.disk.connections store.db)
    (after : Option Handles.Database) (hafter : after.bind Handles.Database.db = none) :
    (system.withStore index next after).Consistent ∧
      (system.withStore index next after).toMaps =
        system.toMaps.attach index (after.map fun _ => none) := by
  refine ⟨⟨?_, hrests.quiet, hconsistent.keys_of_rests hrests⟩, ?_⟩
  · rw [held_withStore, hafter]
    change Exclusive {connection | next.connections connection ≠ none} _
    rw [hconnections]
    exact hconsistent.released hstore
  · have hattached := attached_withStore after fun holder hne connection hheld =>
      (congrFun hconnections connection).trans (hconsistent.released_others hstore hne hheld)
    have hnone : (after.map fun store => store.db.bind next.connections) =
        after.map fun _ => none := by
      cases after with
      | none => rfl
      | some store =>
          rw [Option.bind_some] at hafter
          simp [hafter]
    rw [toMaps, hattached, hnone]
    exact congrArg (MapFiles.mk · _) hrests.maps

/-- A store has closed its connection and opened another one. -/
theorem Consistent.opens (hconsistent : system.Consistent)
    (hstore : system.stores index = some store) (hrests : system.disk.Rests next)
    {connection : ConnectionId} {file : File} {path : String}
    (hfree : Disk.released system.disk.connections store.db connection = none)
    (hconnections : next.connections = Function.update
      (Disk.released system.disk.connections store.db) connection (some file)) :
    (system.withStore index next (some ⟨some connection, path⟩)).Consistent ∧
      (system.withStore index next (some ⟨some connection, path⟩)).toMaps =
        system.toMaps.attach index (some (some file)) := by
  refine ⟨⟨?_, hrests.quiet, hconsistent.keys_of_rests hrests⟩, ?_⟩
  · rw [held_withStore]
    change Exclusive {connection | next.connections connection ≠ none} _
    rw [hconnections, outstanding_insert]
    have hunused : connection ∉ {open' |
        Disk.released system.disk.connections store.db open' ≠ none} :=
      fun houtstanding => houtstanding hfree
    have hacquired := (hconsistent.released hstore).acquire hunused (Function.update_self ..)
    rwa [Function.update_idem] at hacquired
  · have hothers : ∀ holder, holder ≠ index → ∀ other ∈ system.held holder,
        next.connections other = system.disk.connections other := by
      intro holder hne other hheld
      have hreleased := hconsistent.released_others hstore hne hheld
      have hne' : other ≠ connection := by
        rintro rfl
        rw [hfree] at hreleased
        exact hconsistent.exclusive.mem hheld hreleased.symm
      rw [hconnections, Function.update_of_ne hne', hreleased]
    rw [toMaps, attached_withStore _ hothers]
    refine congrArg₂ MapFiles.mk hrests.maps ?_
    rw [Option.map_some, Option.bind_some, hconnections, Function.update_self]
    rfl

theorem withStore_comm (hne : source ≠ index) (first last : Option Handles.Database) :
    (system.withStore source next first).withStore index next last =
      (system.withStore index next last).withStore source next first := by
  unfold withStore
  rw [Function.update_comm hne]

/-- A store without a connection takes over that of another one. -/
theorem Consistent.moves (hconsistent : system.Consistent) (hne : source ≠ index)
    (hsource : system.stores source = some other) (hrests : system.disk.Rests next)
    (hexclusive : Exclusive {connection | next.connections connection ≠ none}
      (Function.update system.held index none))
    (hothers : ∀ holder, holder ≠ index → ∀ connection ∈ system.held holder,
      next.connections connection = system.disk.connections connection) (path : String) :
    ((system.withStore source next (some (other.moveConstruct path).2)).withStore index next
        (some (other.moveConstruct path).1)).Consistent ∧
      ((system.withStore source next (some (other.moveConstruct path).2)).withStore index next
        (some (other.moveConstruct path).1)).toMaps =
        (system.toMaps.attach source (some none)).attach index
          (some (other.db.bind system.disk.connections)) := by
  refine ⟨⟨?_, hrests.quiet, hconsistent.keys_of_rests hrests⟩, ?_⟩
  · have hmoved : Exclusive {connection | next.connections connection ≠ none}
        (Function.update (Function.update (Function.update system.held index none) source none)
          index (Function.update system.held index none source)) :=
      hexclusive.transfer (Function.update_self ..)
    rw [Function.update_of_ne hne, held_eq hsource, Function.update_comm hne,
      Function.update_idem, Function.update_comm hne.symm] at hmoved
    rw [held_withStore, held_withStore]
    exact hmoved
  · have hfile : other.db.bind next.connections = other.db.bind system.disk.connections := by
      cases hdb : other.db with
      | none => rfl
      | some connection => exact hothers source hne connection ((held_eq hsource).trans hdb)
    have hmoved := attached_withStore (some (other.moveConstruct path).1) hothers
    have hleft : ((system.withStore index next (some (other.moveConstruct path).1)).withStore
        source next (some (other.moveConstruct path).2)).attached = _ :=
      attached_withStore (some (other.moveConstruct path).2) fun _ _ _ _ => rfl
    rw [withStore_comm hne, toMaps, hleft, hmoved, Function.update_comm hne.symm, Option.map_some,
      Option.map_some, Handles.Database.moveConstruct, hfile]
    exact congrArg (MapFiles.mk · _) hrests.maps

/-- What a call on a store with a connection does is done to the file of that connection. -/
theorem Consistent.calls_open [DecidableEq File] (hlaws : library.Lawful)
    (hconsistent : system.Consistent) {call : Call} {connection : ConnectionId}
    (hstore : system.stores index = some store) (hdb : store.db = some connection)
    (hfree : call.operation.NulFree)
    (htranscript : Transcript ((⟨store.asStatements⟩ : PersistentStore).operate call.operation)
      call.statements call.answer)
    (hanswered : Answered (Disk.Answers store.db) system.disk call.statements next) :
    MapFilesStep library.names system.toMaps (index, .calls call)
        (StoreSystem.mk system.stores next : StoreSystem library).toMaps ∧
      (StoreSystem.mk system.stores next : StoreSystem library).Consistent := by
  have hopen : store.asStatements = ⟨true⟩ := by
    rw [Handles.Database.asStatements, Handles.Database.isOpen, hdb]
    rfl
  obtain ⟨file, hfile⟩ := hconsistent.attached_of_held hstore hdb
  rw [hopen] at htranscript
  rw [hdb] at hanswered
  obtain ⟨map, hmap, hmaps, hconnections, hquiet, hkeys⟩ :=
    call_simulates hlaws hfree hconsistent.quiet hconsistent.keys hfile htranscript hanswered
  have hattached : system.attached index = some (some file) := by
    rw [attached_eq hstore, hdb, Option.bind_some, hfile]
  have hafter : (StoreSystem.mk system.stores next : StoreSystem library).toMaps =
      { system.toMaps with maps := Function.update system.toMaps.maps file map } := by
    refine congrArg₂ MapFiles.mk hmaps ?_
    funext holder
    rw [attached, hconnections]
    rfl
  rw [hafter]
  refine ⟨.calls hattached hmap, ?_, hquiet, hkeys⟩
  rw [hconnections]
  exact hconsistent.exclusive

theorem calls_closed [DecidableEq File] {call : Call} (hstore : system.stores index = some store)
    (hdb : store.db = none)
    (htranscript : Transcript ((⟨store.asStatements⟩ : PersistentStore).operate call.operation)
      call.statements call.answer)
    (hanswered : Answered (Disk.Answers store.db) system.disk call.statements next) :
    next = system.disk ∧
      MapFilesStep library.names system.toMaps (index, .calls call) system.toMaps := by
  have hclosed : store.asStatements = ⟨false⟩ := by
    rw [Handles.Database.asStatements, Handles.Database.isOpen, hdb]
    rfl
  obtain ⟨operation, statements, answer⟩ := call
  obtain ⟨error, hprogram⟩ := operate_closed operation
  rw [hclosed, hprogram, transcript_done_iff] at htranscript
  obtain ⟨rfl, rfl⟩ := htranscript
  have hattached : system.attached index = some none := by
    rw [attached_eq hstore, hdb, Option.bind_none]
  exact ⟨answered_nil_iff.mp hanswered,
    .unavailable hattached ⟨rfl, rfl, Option.some_ne_none _⟩⟩

theorem Consistent.constructed [DecidableEq File] (hconsistent : system.Consistent)
    (hnone : system.stores index = none) :
    MapFilesStep library.names system.toMaps (index, .constructs)
        (system.withStore index system.disk (some .closed)).toMaps ∧
      (system.withStore index system.disk (some .closed)).Consistent := by
  have hheld : system.held index = none := by rw [held, hnone, Option.bind_none]
  have hattached : system.attached index = none := by rw [attached, hnone, Option.map_none]
  have hmaps : (system.withStore index system.disk (some .closed)).toMaps =
      system.toMaps.attach index (some none) := by
    rw [toMaps, attached_withStore _ fun _ _ _ _ => rfl]
    rfl
  rw [hmaps]
  refine ⟨.constructs hattached, ?_, hconsistent.quiet, hconsistent.keys⟩
  rw [held_withStore]
  exact hconsistent.exclusive.idle hheld

/-- An `open` attaches the store to the file it has opened, or to none and says why. -/
theorem Consistent.opened [DecidableEq File] (hlaws : library.Lawful)
    (hconsistent : system.Consistent) {object : Handles.Database} {path : String}
    {error : Option ErrorText} (hstore : system.stores index = some store)
    (hrun : Runs SqliteCall.AnswersOn (openStore store path : SqliteProgram Unit _) system.disk
      ⟨error, object⟩ next) :
    MapFilesStep library.names system.toMaps (index, .opens path error)
        (system.withStore index next (some object)).toMaps ∧
      (system.withStore index next (some object)).Consistent := by
  obtain ⟨hrests, herror, hattaches⟩ := openStore_runs hlaws hconsistent.quiet hrun
  rcases hattaches with ⟨hclosed, hconnections⟩ |
    ⟨connection, file, hobject, hunused, hnames, hconnections⟩
  · obtain ⟨text, rfl⟩ := Option.isSome_iff_exists.mp (herror.mpr hclosed)
    have hobject : (some object).bind Handles.Database.db = none :=
      congrArg Handles.Database.db hclosed
    obtain ⟨hafter, hmaps⟩ := hconsistent.closes hstore hrests hconnections _ hobject
    rw [hmaps]
    exact ⟨.refuses (attached_eq hstore), hafter⟩
  · have hnone : error = none := by
      by_contra hsome
      have hclosed := herror.mp (Option.isSome_iff_ne_none.mpr hsome)
      rw [hobject] at hclosed
      cases hclosed
    obtain ⟨hafter, hmaps⟩ := hconsistent.opens hstore hrests hunused hconnections
    dsimp only at hobject ⊢
    rw [hnone, hobject, hmaps]
    exact ⟨.opens (attached_eq hstore) hnames, hafter⟩

theorem Consistent.moveConstructed [DecidableEq File] (hconsistent : system.Consistent)
    {path : String} (hnone : system.stores index = none)
    (hsource : system.stores source = some other) :
    MapFilesStep library.names system.toMaps (index, .moveConstructs source)
        ((system.withStore source system.disk (some (other.moveConstruct path).2)).withStore
          index system.disk (some (other.moveConstruct path).1)).toMaps ∧
      ((system.withStore source system.disk (some (other.moveConstruct path).2)).withStore
        index system.disk (some (other.moveConstruct path).1)).Consistent := by
  have hne : source ≠ index := by
    rintro rfl
    cases hnone.symm.trans hsource
  have hheld : system.held index = none := by rw [held, hnone, Option.bind_none]
  have hattached : system.attached index = none := by rw [attached, hnone, Option.map_none]
  obtain ⟨hafter, hmaps⟩ := hconsistent.moves hne hsource (.refl hconsistent.quiet)
    (hconsistent.exclusive.idle hheld) (fun _ _ _ _ => rfl) path
  rw [hmaps]
  exact ⟨.moveConstructs hattached (attached_eq hsource), hafter⟩

theorem Consistent.moveAssigned [DecidableEq File] (hlaws : library.Lawful)
    (hconsistent : system.Consistent) {path : String}
    {pair : Handles.Database × Handles.Database} (hne : source ≠ index)
    (hstore : system.stores index = some store) (hsource : system.stores source = some other)
    (hrun : Runs SqliteCall.AnswersOn (store.moveAssign other path : SqliteProgram Unit _)
      system.disk pair next) :
    MapFilesStep library.names system.toMaps (index, .moveAssigns source)
        ((system.withStore source next (some pair.2)).withStore index next
          (some pair.1)).toMaps ∧
      ((system.withStore source next (some pair.2)).withStore index next
        (some pair.1)).Consistent := by
  obtain ⟨rfl, hcloses⟩ := moveAssign_runs hrun
  obtain ⟨hrests, hconnections⟩ := Disk.closes_rests hlaws hconsistent.quiet hcloses
  have hexclusive := hconsistent.released hstore
  rw [← hconnections] at hexclusive
  obtain ⟨hafter, hmaps⟩ := hconsistent.moves hne hsource hrests hexclusive
    (fun holder hother connection hheld => (congrFun hconnections connection).trans
      (hconsistent.released_others hstore hother hheld)) path
  rw [hmaps]
  exact ⟨.moveAssigns hne (attached_eq hstore) (attached_eq hsource), hafter⟩

/-- One step of the stores is one step of the maps. -/
theorem Consistent.step [DecidableEq File] (hlaws : library.Lawful) {label : ℕ × StoreAction}
    {after : StoreSystem library} (hconsistent : system.Consistent) (hfree : label.2.NulFree)
    (hstep : StoreSystemStep system label after) :
    MapFilesStep library.names system.toMaps label after.toMaps ∧ after.Consistent := by
  cases hstep with
  | constructs hnone => exact hconsistent.constructed hnone
  | opens hstore hrun => exact hconsistent.opened hlaws hstore hrun
  | @calls index store call next hstore htranscript hanswered =>
      cases hdb : store.db with
      | none =>
          obtain ⟨rfl, hmaps⟩ := calls_closed hstore hdb htranscript hanswered
          exact ⟨hmaps, hconsistent⟩
      | some connection =>
          exact hconsistent.calls_open hlaws hstore hdb hfree htranscript hanswered
  | moveConstructs hnone hsource => exact hconsistent.moveConstructed hnone hsource
  | moveAssigns hne hstore hsource hrun =>
      exact hconsistent.moveAssigned hlaws hne hstore hsource hrun
  | selfAssigns hstore => exact ⟨.selfAssigns (attached_eq hstore), hconsistent⟩
  | closes hstore hrun =>
      obtain ⟨rfl, hcloses⟩ := close_runs hrun
      obtain ⟨hrests, hconnections⟩ := Disk.closes_rests hlaws hconsistent.quiet hcloses
      obtain ⟨hafter, hmaps⟩ :=
        hconsistent.closes hstore hrests hconnections (some Handles.Database.closed) rfl
      rw [hmaps]
      exact ⟨.closes (attached_eq hstore), hafter⟩
  | destroys hstore hrun =>
      obtain ⟨-, hcloses⟩ := close_runs hrun
      obtain ⟨hrests, hconnections⟩ := Disk.closes_rests hlaws hconsistent.quiet hcloses
      obtain ⟨hafter, hmaps⟩ := hconsistent.closes hstore hrests hconnections none rfl
      rw [hmaps]
      exact ⟨.destroys (attached_eq hstore), hafter⟩

theorem Consistent.initial {files : File → library.engine.State}
    (hkeys : ∀ file, KeysNulFree (library.engine.committed (files file))) :
    (StoreSystem.mk (fun _ => none) ⟨files, fun _ => none⟩ : StoreSystem library).Consistent where
  exclusive := by
    have hnone : {_connection : ConnectionId | (none : Option File) ≠ none} = ∅ := by simp
    change Exclusive {_connection : ConnectionId | (none : Option File) ≠ none} _
    rw [hnone]
    exact .empty
  quiet := by
    intro connection file hfile
    cases hfile
  keys := hkeys

end StoreSystem

/-- Over any lifetimes of any number of stores, each file is a map that only the successful
writes of the stores on it change, and every read is a read of the map of its own file.  What
was stored is found again by whoever opens the file. -/
theorem stores_refine_maps [DecidableEq File] (hlaws : library.Lawful)
    {files : File → library.engine.State} {system : StoreSystem library}
    {history : History (StoreSystem library) (ℕ × StoreAction)}
    (hrun : Run StoreSystemStep ⟨fun _ => none, ⟨files, fun _ => none⟩⟩ history system)
    (hkeys : ∀ file, KeysNulFree (library.engine.committed (files file)))
    (hcalls : ∀ entry ∈ history, entry.2.2.NulFree) :
    ∃ mapHistory,
      Run (MapFilesStep library.names)
        ⟨fun file => contents (library.engine.committed (files file)), fun _ => none⟩ mapHistory
        ⟨fun file => contents (library.engine.committed (system.disk.files file)),
          system.attached⟩ ∧
      mapHistory.map Prod.snd = history.map Prod.snd := by
  have hsimulated := hrun.simulate (MapFilesStep library.names)
    (fun system maps => maps = system.toMaps ∧ system.Consistent) (fun label => label.2.NulFree)
    (fun {system label next maps} hrelates hfree hstep => by
      obtain ⟨rfl, hconsistent⟩ := hrelates
      obtain ⟨hmaps, hnext⟩ := hconsistent.step hlaws hfree hstep
      exact ⟨_, hmaps, rfl, hnext⟩)
    ⟨rfl, .initial hkeys⟩ hcalls
  obtain ⟨mapHistory, maps, hmapRun, hsame, rfl, -⟩ := hsimulated
  exact ⟨mapHistory, hmapRun, hsame⟩

/-! ## One key, put by one store and read by another one -/

/-- Every path is a file of its own, and nothing is left over from earlier connections. -/
def journalLibrary : StoreLibrary String where
  engine := journalEngine ConnectionId
  names path file := file = path
  opened state connection next := ¬ state.inTransaction connection ∧ next = state
  ensured state _ _ next := next = state
  closed state connection next := ¬ state.inTransaction connection ∧ next = state

theorem journalLibrary_lawful : journalLibrary.Lawful where
  engine := journalEngine_lawful
  opened := by
    rintro state connection next ⟨hended, rfl⟩
    exact ⟨rfl, hended, fun _ _ => Iff.rfl⟩
  ensured := by
    rintro state connection rc next rfl -
    exact ⟨rfl, fun _ => Iff.rfl⟩
  closed := by
    rintro state connection next ⟨-, rfl⟩
    exact ⟨rfl, fun _ _ => Iff.rfl⟩

section Lifetimes

variable {disk : Disk journalLibrary} {connection : ConnectionId} {path : String}

theorem journal_opens (hfree : disk.connections connection = none)
    (hended : ¬ Journal.inTransaction (disk.files path) connection) :
    Runs SqliteCall.AnswersOn (openStore .closed path : SqliteProgram Unit _) disk
      ⟨none, ⟨some connection, path⟩⟩ (disk.withConnection connection (some path)) := by
  have hopens : disk.Opens path (SQLITE_OK, some connection)
      (disk.withConnection connection (some path)) := by
    refine ⟨hfree, ?_⟩
    rw [if_pos rfl]
    exact ⟨path, disk.files path, rfl, ⟨hended, rfl⟩, by rw [Disk.withFile_self]⟩
  have hensures : (disk.withConnection connection (some path)).Ensures (some connection) SQLITE_OK
      (disk.withConnection connection (some path)) :=
    ⟨connection, rfl, path, Disk.connections_withConnection_self, disk.files path, rfl,
      Disk.withFile_self.symm⟩
  refine .answered (SQLITE_OK, some connection) hopens ?_
  refine .answered SQLITE_OK rfl ?_
  exact .answered (SQLITE_OK, none) ⟨rfl, hensures⟩ (.done _ _)

theorem journal_puts (hconnection : disk.connections 0 = some path)
    (hfile : disk.files path = (⟨∅, none⟩ : Journal ConnectionId)) :
    Answered (Disk.Answers (some 0)) disk putCall.statements (disk.withFile path storedPair) := by
  have hstep : Journal.Step (disk.files path) 0
      (.statement .insertOrReplace [.text [107], .text [118]]) (completedRun []) storedPair := by
    have hchange : (Request.statement .insertOrReplace [.text [107], .text [118]]).change =
        some fun table => table.insert [107] (.text [118]) := rfl
    rw [hfile]
    exact .wroteOutside (completedRun_succeeded _ _ _) hchange (statement_returns_iff.mpr rfl)
  exact .cons ⟨0, rfl, path, hconnection, storedPair, hstep, rfl⟩ (.nil _)

theorem journal_gets (hconnection : disk.connections 0 = some path)
    (hfile : disk.files path = storedPair) :
    Answered (Disk.Answers (some 0)) disk getCall.statements disk := by
  have hstep : Journal.Step (disk.files path) 0 (.statement .selectValue [.text [107]])
      (completedRun [[.text [118]]]) (disk.files path) := by
    rw [hfile]
    exact .selected rfl (statement_returns_iff.mpr (by decide))
  exact .cons ⟨0, rfl, path, hconnection, disk.files path, hstep, Disk.withFile_self.symm⟩
    (.nil _)

theorem journal_closes (hconnection : disk.connections connection = some path)
    (hended : ¬ Journal.inTransaction (disk.files path) connection) :
    Runs SqliteCall.AnswersOn (Handles.Database.close ⟨some connection, path⟩ :
      SqliteProgram Unit _) disk .closed (disk.withConnection connection none) := by
  refine .answered SQLITE_OK ?_ (.done _ _)
  change disk.Closes (some connection) _
  simp only [Disk.Closes, Option.bind_some, hconnection]
  exact ⟨connection, rfl, disk.files path, ⟨hended, rfl⟩, by rw [Disk.withFile_self]⟩

end Lifetimes

/-- `put("k", "v")`, `close`, and `get("k")` by another store on the same file. -/
theorem reopened_store_finds_pair :
    ∃ mapHistory maps,
      Run (MapFilesStep journalLibrary.names) ⟨fun _ => contents ∅, fun _ => none⟩ mapHistory
        maps ∧
      mapHistory.map Prod.snd = [(0, .constructs), (0, .opens "kv.db" none), (0, .calls putCall),
        (0, .closes), (1, .constructs), (1, .opens "kv.db" none), (1, .calls getCall)] := by
  let disk : Disk journalLibrary := ⟨fun _ => ⟨∅, none⟩, fun _ => none⟩
  let opened := disk.withConnection 0 (some "kv.db")
  let written := opened.withFile "kv.db" storedPair
  let closed := written.withConnection 0 none
  have hwritten : written.files "kv.db" = storedPair := Disk.files_withFile_self
  have hended : ¬ Journal.inTransaction (written.files "kv.db") 0 := by
    rw [hwritten]
    exact Journal.not_inTransaction_mk
  let reopened := closed.withConnection 0 (some "kv.db")
  have hopened : opened.connections 0 = some "kv.db" := Disk.connections_withConnection_self
  have hclosed : closed.connections 0 = none := Disk.connections_withConnection_self
  have hreopened : reopened.connections 0 = some "kv.db" := Disk.connections_withConnection_self
  have hopen : Runs SqliteCall.AnswersOn (openStore .closed "kv.db" : SqliteProgram Unit _) disk
      ⟨none, ⟨some 0, "kv.db"⟩⟩ opened := journal_opens rfl Journal.not_inTransaction_mk
  have hstart : Run StoreSystemStep ⟨fun _ => none, disk⟩ [] _ := .start
  have hfirst := hstart.andThen (0, .constructs) (.constructs rfl)
  have hopens := hfirst.andThen (0, .opens "kv.db" none) (.opens rfl hopen)
  have hput := hopens.andThen (0, .calls putCall)
    (.calls rfl putCall_transcript (journal_puts hopened rfl))
  have hcloses := hput.andThen (0, .closes) (.closes rfl (journal_closes hopened hended))
  have hsecond := hcloses.andThen (1, .constructs) (.constructs rfl)
  have hagain := hsecond.andThen (1, .opens "kv.db" none)
    (.opens rfl (journal_opens hclosed hended))
  have hread := hagain.andThen (1, .calls getCall)
    (.calls rfl getCall_transcript (journal_gets hreopened hwritten))
  obtain ⟨mapHistory, hmapRun, hsame⟩ := stores_refine_maps journalLibrary_lawful hread
    (fun _ _ hmem => absurd hmem Std.ExtTreeMap.not_mem_empty) (by decide)
  exact ⟨mapHistory, _, hmapRun, hsame⟩

end ElapPlatform.Storage.Files
