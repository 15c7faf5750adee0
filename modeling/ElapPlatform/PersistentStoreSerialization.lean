import ElapPlatform.PartialMapUpdate
import ElapPlatform.PersistentStoreInterleaving
import ElapPlatform.SqliteJournalEngine

/-!
# Writes of many stores are serialized

The committed table is at every moment the result of the committed calls in
commit order.  A call that returns `true` is among them, a call that returns
`false` is not, and a call that returns leaves no transaction open.
-/

namespace ElapPlatform.Storage

open Interaction Interaction.Program Transition

/-! ## The invariant -/

section Invariant

variable {Connection : Type} [DecidableEq Connection] {engine : Engine Connection}
  {stores : Connection → PersistentStore}

structure StoreInvariant (stores : Connection → PersistentStore) (initial : Table)
    (history : History (StoreSystem engine) (SystemLabel Connection))
    (system : StoreSystem engine) : Prop where
  table : engine.committed system.database = applyLog (commitLog history) initial
  exclusive : ∀ {connection other}, engine.inTransaction system.database connection →
    engine.inTransaction system.database other → other = connection
  idle : ∀ {connection}, system.active connection = none →
    ¬ engine.inTransaction system.database connection
  phase : ∀ {connection call}, system.active connection = some call →
    CallPhase engine (stores connection) system.database (commitLog history) connection
      call.id call.write call.program
  once : ((commitLog history).map Prod.fst).Nodup
  returned : ∀ {state connection id write answer},
    (state, .returns connection id write answer) ∈ history →
      (answer.value = true → (id, write) ∈ commitLog history) ∧
        (answer.value = false → Uncommitted (commitLog history) id)

/-- Every call has a number of its own, and the log speaks of begun calls only. -/
structure Numbering (history : History (StoreSystem engine) (SystemLabel Connection))
    (system : StoreSystem engine) : Prop where
  active : ∀ {connection call}, system.active connection = some call →
    call.id < system.started ∧
      ∃ state, (state, .begins connection call.id call.write) ∈ history
  distinct : ∀ {connection other call call'}, system.active connection = some call →
    system.active other = some call' → call.id = call'.id → other = connection
  logged : ∀ {id write}, (id, write) ∈ commitLog history →
    id < system.started ∧ ∃ state connection, (state, .begins connection id write) ∈ history
  returned : ∀ {state connection id write answer},
    (state, .returns connection id write answer) ∈ history →
      id < system.started ∧ ∀ other call, system.active other = some call → call.id ≠ id

omit [DecidableEq Connection] in
theorem committed_id {connection : Connection} {id : ℕ} {write : Write} {request : Request}
    {reply : request.Reply} {entry : LogEntry}
    (hentry : entry ∈ (SystemLabel.statement connection id write request reply).committed) :
    entry = (id, write) := by
  by_cases hcommits : write.CommitsWith request ∧ request.Succeeded reply
  · rw [committed_of_succeeded hcommits.1 hcommits.2] at hentry
    exact (Option.some.inj hentry).symm
  · rw [SystemLabel.committed, if_neg hcommits] at hentry
    cases hentry

/-- A number that the log does not have may be added to it once. -/
theorem Uncommitted.once_append {log : List LogEntry} {id : ℕ} {write : Write}
    {committed : Option LogEntry} (huncommitted : Uncommitted log id)
    (honce : (log.map Prod.fst).Nodup) (hcommitted : ∀ entry ∈ committed, entry = (id, write)) :
    ((log ++ committed.toList).map Prod.fst).Nodup := by
  rw [List.map_append, List.nodup_append]
  refine ⟨honce, ?_, ?_⟩
  · cases committed with
    | none => exact List.nodup_nil
    | some entry => exact List.nodup_singleton _
  · intro number hlogged number' hnew hsame
    obtain ⟨entry, hentry, rfl⟩ := List.mem_map.mp hnew
    obtain ⟨logged, hmem, rfl⟩ := List.mem_map.mp hlogged
    rw [hcommitted entry (Option.mem_toList.mp hentry)] at hsame
    have hid : logged.1 = id := hsame
    exact huncommitted logged.2 (hid ▸ hmem)

omit [DecidableEq Connection] in
/-- A transaction is opened only where there is none. -/
theorem exclusive_of_opened {before after : engine.State} {connection : Connection}
    (hexclusive : ∀ {first other}, engine.inTransaction before first →
      engine.inTransaction before other → other = first)
    (hframe : ∀ {other}, other ≠ connection →
      (engine.inTransaction after other ↔ engine.inTransaction before other))
    (hopened : engine.inTransaction after connection →
      engine.inTransaction before connection ∨ ∀ other, ¬ engine.inTransaction before other)
    {first other : Connection} (hfirst : engine.inTransaction after first)
    (hother : engine.inTransaction after other) : other = first := by
  by_cases hsame : first = connection
  · by_cases hsame' : other = connection
    · rw [hsame, hsame']
    · rw [hframe hsame'] at hother
      rw [hsame] at hfirst ⊢
      rcases hopened hfirst with hbefore | hnone
      · exact hexclusive hbefore hother
      · exact absurd hother (hnone other)
  · rw [hframe hsame] at hfirst
    by_cases hsame' : other = connection
    · rw [hsame'] at hother ⊢
      rcases hopened hother with hbefore | hnone
      · exact hexclusive hfirst hbefore
      · exact absurd hfirst (hnone first)
    · rw [hframe hsame'] at hother
      exact hexclusive hfirst hother

/-- A statement changes neither the number nor the write of a call. -/
theorem update_continued {active : Connection → Option ActiveCall} {connection : Connection}
    {id : ℕ} {write : Write} {program rest : DatabaseProgram (Answer Bool)}
    (hactive : active connection = some ⟨id, write, program⟩) {other : Connection}
    {call : ActiveCall}
    (hcall : Function.update active connection (some ⟨id, write, rest⟩) other = some call) :
    ∃ old, active other = some old ∧ old.id = call.id ∧ old.write = call.write := by
  rcases PartialMap.of_update_eq hcall with ⟨rfl, hnew⟩ | ⟨_, hold⟩
  · cases hnew
    exact ⟨_, hactive, rfl, rfl⟩
  · exact ⟨call, hold, rfl, rfl⟩

omit [DecidableEq Connection] in
theorem initial_numbering (start : engine.State) :
    Numbering [] (initialSystem engine start) := by
  constructor
  · intro connection call hactive
    cases hactive
  · intro connection other call call' hactive
    cases hactive
  · intro id write hmem
    cases hmem
  · intro state connection id write answer hmem
    cases hmem

/-- A call begins with a number that no call has had before. -/
theorem Numbering.begins {history : History (StoreSystem engine) (SystemLabel Connection)}
    {system : StoreSystem engine} {connection : Connection} {write : Write}
    {program : DatabaseProgram (Answer Bool)} (hnumbering : Numbering history system) :
    Numbering (history ++ [(system, .begins connection system.started write)])
      ⟨system.database,
        Function.update system.active connection (some ⟨system.started, write, program⟩),
        system.started + 1⟩ := by
  have hkeep : ∀ {entry}, entry ∈ history →
      entry ∈ history ++ [(system, .begins connection system.started write)] :=
    fun hmem => List.mem_append_left _ hmem
  constructor
  · intro other call hactive
    rcases PartialMap.of_update_eq hactive with ⟨rfl, hnew⟩ | ⟨_, hold⟩
    · cases hnew
      exact ⟨Nat.lt_succ_self _, system, List.mem_append_right _ (List.mem_singleton_self _)⟩
    · obtain ⟨hlt, state, hmem⟩ := hnumbering.active hold
      exact ⟨Nat.lt_succ_of_lt hlt, state, hkeep hmem⟩
  · intro first other call call' hfirst hother hsame
    rcases PartialMap.of_update_eq hfirst with ⟨rfl, hnew⟩ | ⟨_, hold⟩
    · rcases PartialMap.of_update_eq hother with ⟨rfl, _⟩ | ⟨_, hold'⟩
      · rfl
      · cases hnew
        exact absurd hsame (Nat.ne_of_gt (hnumbering.active hold').1)
    · rcases PartialMap.of_update_eq hother with ⟨rfl, hnew'⟩ | ⟨_, hold'⟩
      · cases hnew'
        exact absurd hsame (Nat.ne_of_lt (hnumbering.active hold).1)
      · exact hnumbering.distinct hold hold' hsame
  · intro id write' hmem
    rw [commitLog_snoc, committed_begins, Option.toList_none, List.append_nil] at hmem
    obtain ⟨hlt, state, connection', hbegun⟩ := hnumbering.logged hmem
    exact ⟨Nat.lt_succ_of_lt hlt, state, connection', hkeep hbegun⟩
  · intro state connection' id write' answer hmem
    rw [List.mem_append, List.mem_singleton] at hmem
    rcases hmem with hmem | hmem
    · obtain ⟨hlt, hinactive⟩ := hnumbering.returned hmem
      refine ⟨Nat.lt_succ_of_lt hlt, fun other call hactive => ?_⟩
      rcases PartialMap.of_update_eq hactive with ⟨_, hnew⟩ | ⟨_, hold⟩
      · cases hnew
        exact Nat.ne_of_gt hlt
      · exact hinactive other call hold
    · cases hmem

omit [DecidableEq Connection] in
/-- What goes on with the calls there are keeps their numbers: the log may gain an entry of an
active call, and a call may return. -/
theorem Numbering.continues {history : History (StoreSystem engine) (SystemLabel Connection)}
    {system next : StoreSystem engine} {label : SystemLabel Connection}
    (hnumbering : Numbering history system) (hstarted : next.started = system.started)
    (hcontinued : ∀ {other call}, next.active other = some call →
      ∃ old, system.active other = some old ∧ old.id = call.id ∧ old.write = call.write)
    (hcommits : ∀ {id write}, (id, write) ∈ label.committed →
      ∃ connection call, system.active connection = some call ∧ call.id = id ∧
        call.write = write)
    (hreturns : ∀ {connection id write answer}, label = .returns connection id write answer →
      id < system.started ∧ ∀ other call, next.active other = some call → call.id ≠ id) :
    Numbering (history ++ [(system, label)]) next := by
  have hkeep : ∀ {entry}, entry ∈ history → entry ∈ history ++ [(system, label)] :=
    fun hmem => List.mem_append_left _ hmem
  constructor
  · intro other call hcall
    obtain ⟨old, hold, hid, hwrite⟩ := hcontinued hcall
    obtain ⟨hlt, state, hmem⟩ := hnumbering.active hold
    rw [hid, hwrite] at hmem
    rw [hstarted, ← hid]
    exact ⟨hlt, state, hid.symm ▸ hkeep hmem⟩
  · intro first other call call' hfirst hother hsame
    obtain ⟨old, hold, hid, _⟩ := hcontinued hfirst
    obtain ⟨old', hold', hid', _⟩ := hcontinued hother
    exact hnumbering.distinct hold hold' (by rw [hid, hid', hsame])
  · intro id write hmem
    rw [commitLog_snoc, List.mem_append, Option.mem_toList] at hmem
    rw [hstarted]
    rcases hmem with hmem | hmem
    · obtain ⟨hlt, state, connection, hbegun⟩ := hnumbering.logged hmem
      exact ⟨hlt, state, connection, hkeep hbegun⟩
    · obtain ⟨connection, call, hactive, rfl, rfl⟩ := hcommits hmem
      obtain ⟨hlt, state, hbegun⟩ := hnumbering.active hactive
      exact ⟨hlt, state, connection, hkeep hbegun⟩
  · intro state connection id write answer hmem
    rw [List.mem_append, List.mem_singleton] at hmem
    rw [hstarted]
    rcases hmem with hmem | hmem
    · obtain ⟨hlt, hinactive⟩ := hnumbering.returned hmem
      refine ⟨hlt, fun other call hcall => ?_⟩
      obtain ⟨old, hold, hid, _⟩ := hcontinued hcall
      exact hid ▸ hinactive other old hold
    · cases hmem
      exact hreturns rfl

theorem Numbering.step {history : History (StoreSystem engine) (SystemLabel Connection)}
    {system next : StoreSystem engine} {label : SystemLabel Connection}
    (hnumbering : Numbering history system)
    (hstep : SystemStep engine stores system label next) :
    Numbering (history ++ [(system, label)]) next := by
  cases hstep with
  | begins hidle => exact hnumbering.begins
  | @statement connection id write request rest reply database hactive hanswer =>
      refine hnumbering.continues rfl (fun hcall => update_continued hactive hcall)
        (fun hcommitted => ?_) (fun hreturns => by cases hreturns)
      cases committed_id hcommitted
      exact ⟨connection, _, hactive, rfl, rfl⟩
  | @returns connection id write answer hactive =>
      refine hnumbering.continues rfl (fun hcall => ?_) (fun hcommitted => ?_) (fun hreturns => ?_)
      · rcases PartialMap.of_update_eq hcall with ⟨_, hnew⟩ | ⟨_, hold⟩
        · cases hnew
        · exact ⟨_, hold, rfl, rfl⟩
      · rw [committed_returns] at hcommitted
        cases hcommitted
      · cases hreturns
        refine ⟨(hnumbering.active hactive).1, fun other call hcall hsame => ?_⟩
        rcases PartialMap.of_update_eq hcall with ⟨_, hnew⟩ | ⟨hne, hold⟩
        · cases hnew
        · exact hne (hnumbering.distinct hactive hold hsame.symm)

omit [DecidableEq Connection] in
theorem initial_storeInvariant {start : engine.State}
    (houtside : ∀ connection, ¬ engine.inTransaction start connection) :
    StoreInvariant stores (engine.committed start) [] (initialSystem engine start) := by
  constructor
  · rfl
  · intro connection other hinside
    exact absurd hinside (houtside connection)
  · intro connection _
    exact houtside connection
  · intro connection call hactive
    cases hactive
  · exact List.nodup_nil
  · intro state connection id write answer hmem
    cases hmem

variable {initial : Table} {history : History (StoreSystem engine) (SystemLabel Connection)}
  {system : StoreSystem engine}

omit [DecidableEq Connection] in
/-- A label that commits nothing leaves the log and the returned calls. -/
theorem StoreInvariant.returned_of_silent
    (hinvariant : StoreInvariant stores initial history system)
    {label : SystemLabel Connection} (hsilent : label.committed = none)
    (hlabel : ∀ connection id write answer, label = .returns connection id write answer →
      (answer.value = true → (id, write) ∈ commitLog history) ∧
        (answer.value = false → Uncommitted (commitLog history) id))
    {state : StoreSystem engine} {connection : Connection} {id : ℕ} {write : Write}
    {answer : Answer Bool}
    (hmem : (state, .returns connection id write answer) ∈ history ++ [(system, label)]) :
    (answer.value = true → (id, write) ∈ commitLog (history ++ [(system, label)])) ∧
      (answer.value = false → Uncommitted (commitLog (history ++ [(system, label)])) id) := by
  rw [commitLog_snoc, hsilent, Option.toList_none, List.append_nil]
  rw [List.mem_append, List.mem_singleton] at hmem
  rcases hmem with hmem | hmem
  · exact hinvariant.returned hmem
  · exact hlabel connection id write answer (congrArg Prod.snd hmem).symm

variable (hlaws : engine.Lawful) (hopen : ∀ connection, (stores connection).db.isOpen = true)
include hopen

theorem StoreInvariant.begins (hinvariant : StoreInvariant stores initial history system)
    (hnumbering : Numbering history system) {connection : Connection} {write : Write}
    (hidle : system.active connection = none) :
    StoreInvariant stores initial
      (history ++ [(system, .begins connection system.started write)])
      ⟨system.database,
        Function.update system.active connection
          (some ⟨system.started, write, (stores connection).write write⟩),
        system.started + 1⟩ := by
  have hlog : commitLog (history ++ [(system, .begins connection system.started write)]) =
      commitLog history := by
    rw [commitLog_snoc, committed_begins, Option.toList_none, List.append_nil]
  constructor
  · rw [hlog]
    exact hinvariant.table
  · exact hinvariant.exclusive
  · intro other hother
    rcases PartialMap.of_update_eq hother with ⟨_, hnew⟩ | ⟨_, hold⟩
    · cases hnew
    · exact hinvariant.idle hold
  · intro other call hcall
    rw [hlog]
    rcases PartialMap.of_update_eq hcall with ⟨rfl, hnew⟩ | ⟨_, hold⟩
    · cases hnew
      refine CallPhase.begins (hopen other) (hinvariant.idle hidle) (fun write' hmem => ?_) write
      exact absurd (hnumbering.logged hmem).1 (Nat.lt_irrefl _)
    · exact hinvariant.phase hold
  · rw [hlog]
    exact hinvariant.once
  · exact hinvariant.returned_of_silent committed_begins fun _ _ _ _ hlabel => nomatch hlabel

theorem StoreInvariant.returns (hinvariant : StoreInvariant stores initial history system)
    {connection : Connection} {id : ℕ} {write : Write} {answer : Answer Bool}
    (hactive : system.active connection = some ⟨id, write, .done answer⟩) :
    StoreInvariant stores initial
      (history ++ [(system, .returns connection id write answer)])
      ⟨system.database, Function.update system.active connection none, system.started⟩ := by
  have hlog : commitLog (history ++ [(system, .returns connection id write answer)]) =
      commitLog history := by
    rw [commitLog_snoc, committed_returns, Option.toList_none, List.append_nil]
  obtain ⟨houtside, hresult⟩ := (hinvariant.phase hactive).returned (hopen connection)
  constructor
  · rw [hlog]
    exact hinvariant.table
  · exact hinvariant.exclusive
  · intro other hother
    rcases PartialMap.of_update_eq hother with ⟨rfl, _⟩ | ⟨_, hold⟩
    · exact houtside
    · exact hinvariant.idle hold
  · intro other call hcall
    rw [hlog]
    rcases PartialMap.of_update_eq hcall with ⟨_, hnew⟩ | ⟨_, hold⟩
    · cases hnew
    · exact hinvariant.phase hold
  · rw [hlog]
    exact hinvariant.once
  · refine hinvariant.returned_of_silent committed_returns fun _ _ _ _ hlabel => ?_
    cases hlabel
    exact hresult

include hlaws

theorem StoreInvariant.statement (hinvariant : StoreInvariant stores initial history system)
    (hnumbering : Numbering history system) {connection : Connection} {id : ℕ}
    {write : Write} {request : Request}
    {next : request.Reply → DatabaseProgram (Answer Bool)} {reply : request.Reply}
    {database : engine.State}
    (hactive : system.active connection = some ⟨id, write, .ask request next⟩)
    (hstep : engine.step system.database connection request reply database) :
    StoreInvariant stores initial
      (history ++ [(system, .statement connection id write request reply)])
      ⟨database, Function.update system.active connection (some ⟨id, write, next reply⟩),
        system.started⟩ := by
  obtain ⟨heffect, hphase⟩ := (hinvariant.phase hactive).statement hlaws (hopen connection)
    (fun other hinside hother => hinvariant.exclusive hinside hother) hstep
  have huncommitted := (hinvariant.phase hactive).uncommitted
  have hframe : ∀ {other}, other ≠ connection →
      (engine.inTransaction database other ↔ engine.inTransaction system.database other) :=
    fun hother => (hlaws.frame hstep hother).1
  constructor
  · rw [commitLog_snoc, applyLog_append, ← hinvariant.table]
    exact heffect.committed
  · intro first other hfirst hother
    exact exclusive_of_opened (fun hone htwo => hinvariant.exclusive hone htwo) hframe
      heffect.opened hfirst hother
  · intro other hother
    rcases PartialMap.of_update_eq hother with ⟨_, hnew⟩ | ⟨hne, hold⟩
    · cases hnew
    · exact mt (hframe hne).mp (hinvariant.idle hold)
  · intro other call hcall
    rw [commitLog_snoc]
    rcases PartialMap.of_update_eq hcall with ⟨rfl, hnew⟩ | ⟨hne, hold⟩
    · cases hnew
      exact hphase
    · refine CallPhase.frame hlaws hstep hne heffect (fun entry hentry => ?_)
        (hinvariant.phase hold)
      rw [committed_id hentry]
      intro hsame
      exact hne (hnumbering.distinct hactive hold hsame)
  · rw [commitLog_snoc]
    exact huncommitted.once_append hinvariant.once fun _ hentry => committed_id hentry
  · intro state connection' id' write' answer hmem
    rw [List.mem_append, List.mem_singleton] at hmem
    rcases hmem with hmem | hmem
    · obtain ⟨htrue, hfalse⟩ := hinvariant.returned hmem
      rw [commitLog_snoc]
      refine ⟨fun hvalue => List.mem_append_left _ (htrue hvalue),
        fun hvalue => (hfalse hvalue).append fun entry hentry => ?_⟩
      rw [committed_id hentry]
      exact (hnumbering.returned hmem).2 connection _ hactive
    · cases hmem

theorem run_storeInvariant {start : engine.State}
    (houtside : ∀ connection, ¬ engine.inTransaction start connection)
    (hrun : Run (SystemStep engine stores) (initialSystem engine start) history system) :
    StoreInvariant stores (engine.committed start) history system ∧
      Numbering history system := by
  refine hrun.invariant
    (fun history system =>
      StoreInvariant stores (engine.committed start) history system ∧
        Numbering history system)
    ⟨initial_storeInvariant houtside, initial_numbering start⟩ ?_
  intro history system label next _ hholds hstep
  obtain ⟨hinvariant, hnumbering⟩ := hholds
  refine ⟨?_, hnumbering.step hstep⟩
  cases hstep with
  | begins hidle => exact hinvariant.begins hopen hnumbering hidle
  | statement hactive hanswer =>
      exact hinvariant.statement hlaws hopen hnumbering hactive hanswer
  | returns hactive => exact hinvariant.returns hopen hactive

end Invariant

/-! ## Serializability -/

/-- The table and the results of a run are those of the committed calls, each
made once, whole and in commit order. -/
structure Serialized {Connection : Type} (engine : Engine Connection) (initial : Table)
    (history : History (StoreSystem engine) (SystemLabel Connection))
    (system : StoreSystem engine) : Prop where
  table : engine.committed system.database = applyLog (commitLog history) initial
  once : ((commitLog history).map Prod.fst).Nodup
  begun : ∀ id write, (id, write) ∈ commitLog history →
    ∃ state connection, (state, .begins connection id write) ∈ history
  returnedTrue : ∀ state connection id write answer,
    (state, .returns connection id write answer) ∈ history → answer.value = true →
      (id, write) ∈ commitLog history
  returnedFalse : ∀ state connection id write answer,
    (state, .returns connection id write answer) ∈ history → answer.value = false →
      ∀ write', (id, write') ∉ commitLog history
  closed : ∀ state connection id write answer,
    (state, .returns connection id write answer) ∈ history →
      ¬ engine.inTransaction state.database connection

/-- However the statements of many connections interleave and fail, the writes
are atomic and take effect in commit order. -/
theorem writes_serialized {Connection : Type} [DecidableEq Connection]
    (engine : Engine Connection) (hlaws : engine.Lawful)
    (stores : Connection → PersistentStore)
    (hopen : ∀ connection, (stores connection).db.isOpen = true) {start : engine.State}
    (houtside : ∀ connection, ¬ engine.inTransaction start connection)
    {history : History (StoreSystem engine) (SystemLabel Connection)}
    {system : StoreSystem engine}
    (hrun : Run (SystemStep engine stores) (initialSystem engine start) history system) :
    Serialized engine (engine.committed start) history system := by
  obtain ⟨hinvariant, hnumbering⟩ := run_storeInvariant hlaws hopen houtside hrun
  constructor
  · exact hinvariant.table
  · exact hinvariant.once
  · intro id write hmem
    exact (hnumbering.logged hmem).2
  · intro state connection id write answer hmem hvalue
    exact (hinvariant.returned hmem).1 hvalue
  · intro state connection id write answer hmem hvalue
    exact (hinvariant.returned hmem).2 hvalue
  · intro state connection id write answer hmem
    obtain ⟨before, next, hbefore, hstep, _⟩ := hrun.step_of_mem hmem
    have hthere := (run_storeInvariant hlaws hopen houtside hbefore).1
    cases hstep with
    | returns hactive => exact ((hthere.phase hactive).returned (hopen connection)).1

def openStores : ℕ → PersistentStore := fun _ => ⟨⟨true⟩⟩

def execOk : ExecReply := ⟨SQLITE_OK, none, "not an error"⟩

/-- Connection 0 writes a batch while the `put` of connection 1 meets its lock. -/
theorem batch_against_put_run :
    ∃ history system,
      Run (SystemStep (journalEngine ℕ) openStores)
          (initialSystem (journalEngine ℕ) (Journal.mk ∅ none)) history system ∧
        commitLog history = [(0, .putAll [([107], [118])])] := by
  have hstart : Run (SystemStep (journalEngine ℕ) openStores)
      (initialSystem (journalEngine ℕ) (Journal.mk ∅ none)) [] _ := .start
  have hbatch := hstart.andThen (.begins 0 0 (.putAll [([107], [118])])) (.begins rfl)
  have hbegan := hbatch.andThen
    (.statement 0 0 (.putAll [([107], [118])]) (.exec .beginImmediate) execOk)
    (.statement rfl (.began (exec_succeeded_iff.mpr rfl)))
  have hput := hbegan.andThen (.begins 1 1 (.put [107] [119])) (.begins rfl)
  have hbusy := hput.andThen
    (.statement 1 1 (.put [107] [119])
      (.statement .insertOrReplace [.text [107], .text [119]]) busyRun)
    (.statement rfl (.refused (busyRun_not_succeeded _ _) (statement_returns_iff.mpr rfl)
      (fun hrequest => nomatch hrequest)))
  have hrefused := hbusy.andThen (.returns 1 1 (.put [107] [119]) _) (.returns rfl)
  have hinsert := hrefused.andThen
    (.statement 0 0 (.putAll [([107], [118])])
      (.statement .insertOrReplace [.text [107], .text [118]]) (completedRun []))
    (.statement rfl
      (.wroteInside (completedRun_succeeded _ _ _) rfl (statement_returns_iff.mpr rfl)))
  have hcommit := hinsert.andThen
    (.statement 0 0 (.putAll [([107], [118])]) (.exec .commit) execOk)
    (.statement rfl (.committed (exec_succeeded_iff.mpr rfl)))
  have hreturned := hcommit.andThen (.returns 0 0 (.putAll [([107], [118])]) _) (.returns rfl)
  exact ⟨_, _, hreturned, by decide⟩

theorem batch_against_put_serialized :
    ∃ history system, commitLog history = [(0, .putAll [([107], [118])])] ∧
      Serialized (journalEngine ℕ) ∅ history system := by
  obtain ⟨history, system, hrun, hlog⟩ := batch_against_put_run
  exact ⟨history, system, hlog,
    writes_serialized (journalEngine ℕ) journalEngine_lawful openStores (fun _ => rfl)
      (fun _ => Journal.not_inTransaction_mk) hrun⟩

end ElapPlatform.Storage
