import ElapPlatform.PersistentStoreWrites
import ElapPlatform.TransitionRun

/-!
# Interleaved writes of many stores

Every store object has its own connection and makes one call at a time.  The
statements of different connections interleave, and any statement may fail.  A
call is in one of five phases, and each statement moves it to the next one.
-/

namespace ElapPlatform.Storage

open Interaction Interaction.Program Transition

/-! ## Interleaved calls -/

/-- A call in progress and what is left of it. -/
structure ActiveCall where
  id : ℕ
  write : Write
  program : DatabaseProgram (Answer Bool)

structure StoreSystem {Connection : Type} (engine : Engine Connection) where
  database : engine.State
  active : Connection → Option ActiveCall
  started : ℕ

inductive SystemLabel (Connection : Type) where
  | begins (connection : Connection) (id : ℕ) (write : Write)
  | statement (connection : Connection) (id : ℕ) (write : Write) (request : Request)
      (reply : request.Reply)
  | returns (connection : Connection) (id : ℕ) (write : Write) (answer : Answer Bool)

section System

variable {Connection : Type} [DecidableEq Connection] (engine : Engine Connection)
  (stores : Connection → PersistentStore)

def initialSystem (start : engine.State) : StoreSystem engine :=
  ⟨start, fun _ => none, 0⟩

inductive SystemStep :
    StoreSystem engine → SystemLabel Connection → StoreSystem engine → Prop
  | begins {system : StoreSystem engine} {connection : Connection} {write : Write}
      (hidle : system.active connection = none) :
      SystemStep system (.begins connection system.started write)
        ⟨system.database,
          Function.update system.active connection
            (some ⟨system.started, write, (stores connection).write write⟩),
          system.started + 1⟩
  | statement {system : StoreSystem engine} {connection : Connection} {id : ℕ}
      {write : Write} {request : Request}
      {next : request.Reply → DatabaseProgram (Answer Bool)} {reply : request.Reply}
      {database : engine.State}
      (hactive : system.active connection = some ⟨id, write, .ask request next⟩)
      (hstep : engine.step system.database connection request reply database) :
      SystemStep system (.statement connection id write request reply)
        ⟨database,
          Function.update system.active connection (some ⟨id, write, next reply⟩),
          system.started⟩
  | returns {system : StoreSystem engine} {connection : Connection} {id : ℕ}
      {write : Write} {answer : Answer Bool}
      (hactive : system.active connection = some ⟨id, write, .done answer⟩) :
      SystemStep system (.returns connection id write answer)
        ⟨system.database, Function.update system.active connection none, system.started⟩

end System

/-! ## The commit log -/

instance (request : Request) (reply : request.Reply) : Decidable (request.Succeeded reply) :=
  match request, reply with
  | .exec _, reply => inferInstanceAs (Decidable (ExecReply.rc reply = SQLITE_OK))
  | .prepare _, reply => inferInstanceAs (Decidable (PrepareReply.rc reply = SQLITE_OK))
  | .statement _ arguments, run =>
      inferInstanceAs (Decidable (StatementRun.prepareRc run = SQLITE_OK ∧
        (∀ index < arguments.length, StatementRun.bindRc run index = SQLITE_OK) ∧
        StatementRun.finalRc run = SQLITE_DONE))

/-- A batch commits with its `COMMIT`, any other write with its one statement. -/
def Write.CommitsWith : Write → Request → Prop
  | .putAll _, request => request = .exec .commit
  | _, _ => True

instance (write : Write) (request : Request) : Decidable (write.CommitsWith request) :=
  match write with
  | .putAll _ => inferInstanceAs (Decidable (request = .exec .commit))
  | .put _ _ => inferInstanceAs (Decidable True)
  | .putBlob _ _ _ => inferInstanceAs (Decidable True)
  | .remove _ => inferInstanceAs (Decidable True)
  | .clear => inferInstanceAs (Decidable True)

abbrev LogEntry := ℕ × Write

/-- The call that a label commits. -/
def SystemLabel.committed {Connection : Type} : SystemLabel Connection → Option LogEntry
  | .statement _ id write request reply =>
      if write.CommitsWith request ∧ request.Succeeded reply then some (id, write) else none
  | _ => none

def commitLog {State Connection : Type} (history : History State (SystemLabel Connection)) :
    List LogEntry :=
  history.filterMap fun entry => entry.2.committed

def applyLog (log : List LogEntry) (table : Table) : Table :=
  log.foldl (fun table entry => entry.2.apply table) table

theorem applyLog_append (log entries : List LogEntry) (table : Table) :
    applyLog (log ++ entries) table = applyLog entries (applyLog log table) := by
  unfold applyLog
  rw [List.foldl_append]

theorem committed_of_succeeded {Connection : Type} {connection : Connection} {id : ℕ}
    {write : Write} {request : Request} {reply : request.Reply}
    (hcommits : write.CommitsWith request) (hsucceeded : request.Succeeded reply) :
    (SystemLabel.statement connection id write request reply).committed = some (id, write) :=
  if_pos ⟨hcommits, hsucceeded⟩

theorem committed_of_failed {Connection : Type} {connection : Connection} {id : ℕ}
    {write : Write} {request : Request} {reply : request.Reply}
    (hfailed : ¬ request.Succeeded reply) :
    (SystemLabel.statement connection id write request reply).committed = none :=
  if_neg fun hboth => hfailed hboth.2

theorem committed_of_inside {Connection : Type} {connection : Connection} {id : ℕ}
    {write : Write} {request : Request} {reply : request.Reply}
    (hinside : ¬ write.CommitsWith request) :
    (SystemLabel.statement connection id write request reply).committed = none :=
  if_neg fun hboth => hinside hboth.1

theorem committed_begins {Connection : Type} {connection : Connection} {id : ℕ}
    {write : Write} : (SystemLabel.begins connection id write).committed = none := rfl

theorem committed_returns {Connection : Type} {connection : Connection} {id : ℕ}
    {write : Write} {answer : Answer Bool} :
    (SystemLabel.returns connection id write answer).committed = none := rfl

theorem commitsWith_of_single {write : Write} (hsingle : ∀ values, write ≠ .putAll values)
    (request : Request) : write.CommitsWith request := by
  cases write with
  | putAll values => exact absurd rfl (hsingle values)
  | _ => trivial

theorem commitLog_snoc {State Connection : Type}
    (history : History State (SystemLabel Connection)) (state : State)
    (label : SystemLabel Connection) :
    commitLog (history ++ [(state, label)]) = commitLog history ++ label.committed.toList := by
  unfold commitLog
  rw [List.filterMap_append]
  cases hcommitted : label.committed <;> simp [hcommitted]

/-! ## Phases of a call -/

section Phases

variable {Connection : Type} (engine : Engine Connection)

def Uncommitted (log : List LogEntry) (id : ℕ) : Prop := ∀ write, (id, write) ∉ log

/-- Where a call stands, and what that says about its connection. -/
inductive CallPhase (store : PersistentStore) (database : engine.State) (log : List LogEntry)
    (connection : Connection) (id : ℕ) : Write → DatabaseProgram (Answer Bool) → Prop
  | single {write : Write} {program : DatabaseProgram (Answer Bool)}
      (hsingle : ∀ values, write ≠ .putAll values)
      (hone : IsOneStatement write.apply program)
      (houtside : ¬ engine.inTransaction database connection)
      (huncommitted : Uncommitted log id) :
      CallPhase store database log connection id write program
  | starting {values : List (Bytes × Bytes)} {program : DatabaseProgram (Answer Bool)}
      (hprogram : program = store.putAll values)
      (houtside : ¬ engine.inTransaction database connection)
      (huncommitted : Uncommitted log id) :
      CallPhase store database log connection id (.putAll values) program
  | writing {written rest : List (Bytes × Bytes)} {program : DatabaseProgram (Answer Bool)}
      (hprogram : program = store.putAllFrom rest)
      (hinside : engine.inTransaction database connection)
      (hview : engine.view database connection =
        written.foldl insertPair (engine.committed database))
      (huncommitted : Uncommitted log id) :
      CallPhase store database log connection id (.putAll (written ++ rest)) program
  | rollingBack {values : List (Bytes × Bytes)} {program : DatabaseProgram (Answer Bool)}
      {error : Option ErrorText}
      (hprogram : program = .ask (Request.exec .rollback) fun _ => .done ⟨false, error⟩)
      (huncommitted : Uncommitted log id) :
      CallPhase store database log connection id (.putAll values) program
  | returning {write : Write} {answer : Answer Bool}
      (houtside : ¬ engine.inTransaction database connection)
      (htrue : answer.value = true → (id, write) ∈ log)
      (hfalse : answer.value = false → Uncommitted log id) :
      CallPhase store database log connection id write (.done answer)

/-- What one statement of a call does to the database and the log. -/
structure StatementEffect (before after : engine.State) (connection : Connection)
    (entry : Option LogEntry) : Prop where
  committed : engine.committed after = applyLog entry.toList (engine.committed before)
  alone : entry ≠ none → ∀ other ≠ connection, ¬ engine.inTransaction before other
  opened : engine.inTransaction after connection →
    engine.inTransaction before connection ∨
      ∀ other, ¬ engine.inTransaction before other

variable {engine} (hlaws : engine.Lawful)
include hlaws

theorem failed_effect {before after : engine.State} {connection : Connection}
    {request : Request} {reply : request.Reply}
    (hstep : engine.step before connection request reply after)
    (hfailed : ¬ request.Succeeded reply) :
    StatementEffect engine before after connection none := by
  obtain ⟨hcommitted, hended⟩ := hlaws.failed hstep hfailed
  constructor
  · exact hcommitted
  · intro hentry
    exact absurd rfl hentry
  · intro hinside
    rcases hended with hended | ⟨hbefore, _⟩
    · exact absurd hinside hended
    · exact .inl hbefore

section OneCall

variable {store : PersistentStore} {before after : engine.State} {log : List LogEntry}
  {connection : Connection} {id : ℕ} {request : Request}
  {next : request.Reply → DatabaseProgram (Answer Bool)} {reply : request.Reply}

theorem outside_of_failed_statement (hstep : engine.step before connection request reply after)
    (hfailed : ¬ request.Succeeded reply)
    (houtside : ¬ engine.inTransaction before connection) :
    ¬ engine.inTransaction after connection := by
  intro hinside
  rcases hlaws.failed hstep hfailed with ⟨_, hended | ⟨hbefore, _⟩⟩
  · exact hended hinside
  · exact houtside hbefore

theorem single_statement {write : Write} (hsingle : ∀ values, write ≠ .putAll values)
    (hone : IsOneStatement write.apply (.ask request next))
    (houtside : ¬ engine.inTransaction before connection) (huncommitted : Uncommitted log id)
    (hstep : engine.step before connection request reply after) :
    StatementEffect engine before after connection
        (SystemLabel.statement connection id write request reply).committed ∧
      CallPhase engine store after
        (log ++ (SystemLabel.statement connection id write request reply).committed.toList)
        connection id write (next reply) := by
  obtain ⟨request', outcome, hprogram, hchange, houtcome⟩ := hone
  cases hprogram
  have hcommits := commitsWith_of_single hsingle request
  have hvalue := houtcome reply (hlaws.write_rows hstep hchange)
  by_cases hsucceeded : request.Succeeded reply
  · rw [committed_of_succeeded hcommits hsucceeded]
    obtain ⟨halone, hended, hcommitted⟩ :=
      hlaws.write_outside hstep hsucceeded hchange houtside
    refine ⟨⟨hcommitted, fun _ other _ => halone other, fun hinside => ?_⟩,
      .returning hended (fun _ => ?_) fun hfalse => ?_⟩
    · exact absurd hinside hended
    · exact List.mem_append_right log (List.mem_singleton_self _)
    · rw [hvalue.mpr hsucceeded] at hfalse
      cases hfalse
  · rw [committed_of_failed hsucceeded]
    have heffect := failed_effect hlaws hstep hsucceeded
    refine ⟨heffect, .returning (fun hinside => ?_) (fun htrue => ?_) fun _ => ?_⟩
    · exact outside_of_failed_statement hlaws hstep hsucceeded houtside hinside
    · exact absurd (hvalue.mp htrue) hsucceeded
    · rw [Option.toList_none, List.append_nil]
      exact huncommitted

variable {values written rest : List (Bytes × Bytes)} {error : Option ErrorText}

omit hlaws in
theorem CallPhase.refused (houtside : ¬ engine.inTransaction after connection) {write : Write}
    (huncommitted : Uncommitted log id) :
    CallPhase engine store after log connection id write (.done ⟨false, error⟩) :=
  .returning houtside (fun htrue => nomatch htrue) fun _ => huncommitted

variable (hopen : store.db.isOpen = true)
include hopen

theorem starting_statement (hprogram : .ask request next = store.putAll values)
    (houtside : ¬ engine.inTransaction before connection) (huncommitted : Uncommitted log id)
    (hstep : engine.step before connection request reply after) :
    (SystemLabel.statement connection id (.putAll values) request reply).committed = none ∧
      StatementEffect engine before after connection none ∧
      CallPhase engine store after log connection id (.putAll values) (next reply) := by
  rw [putAll_eq hopen] at hprogram
  cases hprogram
  change ExecReply at reply
  beta_reduce
  refine ⟨committed_of_inside (by simp [Write.CommitsWith]), ?_⟩
  by_cases hsucceeded : (Request.exec .beginImmediate).Succeeded reply
  · obtain ⟨halone, hinside, hview, hcommitted⟩ := hlaws.begin_succeeded hstep hsucceeded
    rw [if_pos (executeOutcome_value.mpr hsucceeded)]
    refine ⟨⟨hcommitted, fun hentry => absurd rfl hentry, fun _ => .inr halone⟩, ?_⟩
    exact @CallPhase.writing _ _ _ _ _ _ _ [] _ _ rfl hinside (hview.trans hcommitted.symm)
      huncommitted
  · rw [if_neg (mt executeOutcome_value.mp hsucceeded)]
    exact ⟨failed_effect hlaws hstep hsucceeded,
      .refused (outside_of_failed_statement hlaws hstep hsucceeded houtside) huncommitted⟩

theorem insert_statement {pair : Bytes × Bytes}
    (hprogram : .ask request next = store.putAllFrom (pair :: rest))
    (hinside : engine.inTransaction before connection)
    (hview : engine.view before connection =
      written.foldl insertPair (engine.committed before))
    (huncommitted : Uncommitted log id)
    (hstep : engine.step before connection request reply after) :
    (SystemLabel.statement connection id (.putAll (written ++ pair :: rest)) request
        reply).committed = none ∧
      StatementEffect engine before after connection none ∧
      CallPhase engine store after log connection id (.putAll (written ++ pair :: rest))
        (next reply) := by
  obtain ⟨key, value⟩ := pair
  rw [putAllFrom_cons_eq hopen] at hprogram
  cases hprogram
  change StatementRun at reply
  beta_reduce
  refine ⟨committed_of_inside (by simp [Write.CommitsWith]), ?_⟩
  have hvalue := execOutcome_value "exec failed: " .insertOrReplace
    ([some key, some value].map boundText) (hlaws.write_rows hstep rfl)
  by_cases hsucceeded : (Request.statement .insertOrReplace
      ([some key, some value].map boundText)).Succeeded reply
  · obtain ⟨hstill, hview', hcommitted⟩ := hlaws.write_inside hstep hsucceeded rfl hinside
    rw [if_pos (hvalue.mpr hsucceeded)]
    refine ⟨⟨hcommitted, fun hentry => absurd rfl hentry, fun _ => .inl hinside⟩, ?_⟩
    rw [List.append_cons]
    refine .writing rfl hstill ?_ huncommitted
    rw [hview', hview, hcommitted, List.foldl_append]
    rfl
  · rw [if_neg (mt hvalue.mp hsucceeded)]
    exact ⟨failed_effect hlaws hstep hsucceeded, .rollingBack rfl huncommitted⟩

theorem commit_statement (hprogram : .ask request next = store.putAllFrom [])
    (hexclusive : ∀ other, engine.inTransaction before other → other = connection)
    (hview : engine.view before connection =
      written.foldl insertPair (engine.committed before))
    (huncommitted : Uncommitted log id)
    (hstep : engine.step before connection request reply after) :
    StatementEffect engine before after connection
        (SystemLabel.statement connection id (.putAll written) request reply).committed ∧
      CallPhase engine store after
        (log ++ (SystemLabel.statement connection id (.putAll written) request
          reply).committed.toList)
        connection id (.putAll written) (next reply) := by
  rw [putAllFrom_nil_eq hopen] at hprogram
  cases hprogram
  change ExecReply at reply
  beta_reduce
  by_cases hsucceeded : (Request.exec .commit).Succeeded reply
  · obtain ⟨_, hcommitted, hended⟩ := hlaws.commit_succeeded hstep hsucceeded
    have hcommits : (Write.putAll written).CommitsWith (.exec .commit) := rfl
    rw [committed_of_succeeded hcommits hsucceeded,
      if_pos (executeOutcome_value.mpr hsucceeded)]
    refine ⟨⟨hcommitted.trans hview, fun _ other hne hother => ?_, fun hinside => ?_⟩, ?_⟩
    · exact hne (hexclusive other hother)
    · exact absurd hinside hended
    · exact .returning hended
        (fun _ => List.mem_append_right log (List.mem_singleton_self _))
        (fun hfalse => nomatch hfalse)
  · rw [committed_of_failed hsucceeded, if_neg (mt executeOutcome_value.mp hsucceeded),
      Option.toList_none, List.append_nil]
    exact ⟨failed_effect hlaws hstep hsucceeded, .rollingBack rfl huncommitted⟩

omit hopen in
theorem rollback_statement
    (hprogram : Program.ask request next =
      .ask (Request.exec .rollback) fun _ => .done ⟨false, error⟩)
    (huncommitted : Uncommitted log id)
    (hstep : engine.step before connection request reply after) :
    (SystemLabel.statement connection id (.putAll values) request reply).committed = none ∧
      StatementEffect engine before after connection none ∧
      CallPhase engine store after log connection id (.putAll values) (next reply) := by
  cases hprogram
  obtain ⟨hcommitted, hended⟩ := hlaws.rollback_ends hstep
  refine ⟨committed_of_inside (by simp [Write.CommitsWith]), ⟨hcommitted, ?_, ?_⟩,
    .refused hended huncommitted⟩
  · intro hentry
    exact absurd rfl hentry
  · intro hinside
    exact absurd hinside hended

end OneCall

/-- One statement of a call, in whichever phase the call stands. -/
theorem CallPhase.statement {store : PersistentStore} (hopen : store.db.isOpen = true)
    {before after : engine.State} {log : List LogEntry} {connection : Connection} {id : ℕ}
    {write : Write} {request : Request} {next : request.Reply → DatabaseProgram (Answer Bool)}
    {reply : request.Reply}
    (hexclusive : ∀ other, engine.inTransaction before connection →
      engine.inTransaction before other → other = connection)
    (hphase : CallPhase engine store before log connection id write (.ask request next))
    (hstep : engine.step before connection request reply after) :
    StatementEffect engine before after connection
        (SystemLabel.statement connection id write request reply).committed ∧
      CallPhase engine store after
        (log ++ (SystemLabel.statement connection id write request reply).committed.toList)
        connection id write (next reply) := by
  cases hphase with
  | single hsingle hone houtside huncommitted =>
      exact single_statement hlaws hsingle hone houtside huncommitted hstep
  | starting hprogram houtside huncommitted =>
      obtain ⟨hcommitted, heffect, hphase⟩ :=
        starting_statement hlaws hopen hprogram houtside huncommitted hstep
      rw [hcommitted, Option.toList_none, List.append_nil]
      exact ⟨heffect, hphase⟩
  | @writing written rest _ hprogram hinside hview huncommitted =>
      cases rest with
      | nil =>
          rw [List.append_nil]
          exact commit_statement hlaws hopen hprogram (hexclusive · hinside) hview
            huncommitted hstep
      | cons pair rest =>
          obtain ⟨hcommitted, heffect, hphase⟩ :=
            insert_statement hlaws hopen hprogram hinside hview huncommitted hstep
          rw [hcommitted, Option.toList_none, List.append_nil]
          exact ⟨heffect, hphase⟩
  | rollingBack hprogram huncommitted =>
      obtain ⟨hcommitted, heffect, hphase⟩ :=
        rollback_statement hlaws hprogram huncommitted hstep
      rw [hcommitted, Option.toList_none, List.append_nil]
      exact ⟨heffect, hphase⟩

/-! ## Calls of other connections -/

omit hlaws in
theorem Uncommitted.append {log : List LogEntry} {id : ℕ} (huncommitted : Uncommitted log id)
    {entry : Option LogEntry} (hentry : ∀ committed ∈ entry, committed.1 ≠ id) :
    Uncommitted (log ++ entry.toList) id := by
  intro write hmem
  rw [List.mem_append] at hmem
  rcases hmem with hmem | hmem
  · exact huncommitted write hmem
  · exact hentry (id, write) (Option.mem_toList.mp hmem) rfl

/-- A statement of another connection leaves a call in its phase. -/
theorem CallPhase.frame {store : PersistentStore} {before after : engine.State}
    {log : List LogEntry} {connection actor : Connection} {id : ℕ} {write : Write}
    {program : DatabaseProgram (Answer Bool)} {request : Request} {reply : request.Reply}
    {entry : Option LogEntry} (hstep : engine.step before actor request reply after)
    (hother : connection ≠ actor) (heffect : StatementEffect engine before after actor entry)
    (hentry : ∀ committed ∈ entry, committed.1 ≠ id)
    (hphase : CallPhase engine store before log connection id write program) :
    CallPhase engine store after (log ++ entry.toList) connection id write program := by
  obtain ⟨hsame, hview'⟩ := hlaws.frame hstep hother
  cases hphase with
  | single hsingle hone houtside huncommitted =>
      exact .single hsingle hone (mt hsame.mp houtside) (huncommitted.append hentry)
  | starting hprogram houtside huncommitted =>
      exact .starting hprogram (mt hsame.mp houtside) (huncommitted.append hentry)
  | writing hprogram hinside hview huncommitted =>
      have hnone : entry = none := by
        by_contra hsome
        exact heffect.alone hsome connection hother hinside
      refine .writing hprogram (hsame.mpr hinside) ?_ (huncommitted.append hentry)
      have hcommitted := heffect.committed
      rw [hnone, Option.toList_none] at hcommitted
      rw [hview' hinside, hview, hcommitted]
      rfl
  | rollingBack hprogram huncommitted =>
      exact .rollingBack hprogram (huncommitted.append hentry)
  | returning houtside htrue hfalse =>
      exact .returning (mt hsame.mp houtside)
        (fun hvalue => List.mem_append_left _ (htrue hvalue))
        (fun hvalue => (hfalse hvalue).append hentry)

omit hlaws in
theorem CallPhase.uncommitted {store : PersistentStore} {database : engine.State}
    {log : List LogEntry} {connection : Connection} {id : ℕ} {write : Write}
    {request : Request} {next : request.Reply → DatabaseProgram (Answer Bool)}
    (hphase : CallPhase engine store database log connection id write (.ask request next)) :
    Uncommitted log id := by
  cases hphase with
  | single _ _ _ huncommitted => exact huncommitted
  | starting _ _ huncommitted => exact huncommitted
  | writing _ _ _ huncommitted => exact huncommitted
  | rollingBack _ huncommitted => exact huncommitted

omit hlaws in
theorem CallPhase.returned {store : PersistentStore} (hopen : store.db.isOpen = true)
    {database : engine.State} {log : List LogEntry} {connection : Connection} {id : ℕ}
    {write : Write} {answer : Answer Bool}
    (hphase : CallPhase engine store database log connection id write (.done answer)) :
    ¬ engine.inTransaction database connection ∧
      (answer.value = true → (id, write) ∈ log) ∧
      (answer.value = false → Uncommitted log id) := by
  cases hphase with
  | single _ hone _ _ =>
      obtain ⟨request, outcome, hprogram, _⟩ := hone
      cases hprogram
  | starting hprogram _ _ =>
      rw [putAll_eq hopen] at hprogram
      cases hprogram
  | @writing written rest _ hprogram _ _ _ =>
      cases rest with
      | nil =>
          rw [putAllFrom_nil_eq hopen] at hprogram
          cases hprogram
      | cons pair rest =>
          rw [putAllFrom_cons_eq hopen] at hprogram
          cases hprogram
  | rollingBack hprogram _ => cases hprogram
  | returning houtside htrue hfalse => exact ⟨houtside, htrue, hfalse⟩

omit hlaws in
theorem CallPhase.begins {store : PersistentStore} (hopen : store.db.isOpen = true)
    {database : engine.State} {log : List LogEntry} {connection : Connection} {id : ℕ}
    (houtside : ¬ engine.inTransaction database connection)
    (huncommitted : Uncommitted log id) (write : Write) :
    CallPhase engine store database log connection id write (store.write write) := by
  by_cases hbatch : ∃ values, write = .putAll values
  · obtain ⟨values, rfl⟩ := hbatch
    exact .starting rfl houtside huncommitted
  · rcases write_cases hopen write with hvalues | ⟨⟨error, hrefused⟩, -⟩ | ⟨hone, -⟩
    · exact absurd hvalues hbatch
    · rw [hrefused]
      exact .refused houtside huncommitted
    · exact .single (fun values hvalues => hbatch ⟨values, hvalues⟩) hone houtside
        huncommitted

end Phases

end ElapPlatform.Storage
