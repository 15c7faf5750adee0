import ElapPlatform.PersistentStoreMapRefinement

/-!
# Calls whose statements all succeed

Such a call has one answer in every state.  The readers find their key as a C
string.
-/

namespace ElapPlatform.Storage

open Interaction Interaction.Program

section Succeeding

variable {Connection : Type} (engine : Engine Connection) (connection : Connection)

def SucceedingAnswers (state : engine.State) (request : Request) (reply : request.Reply)
    (next : engine.State) : Prop :=
  engine.Answers connection state request reply next ∧ request.Succeeded reply

variable {engine connection} {state final : engine.State}

theorem runs_of_succeeding {α : Type} {program : DatabaseProgram α} {value : α}
    (hrun : Runs (SucceedingAnswers engine connection) program state value final) :
    Runs (engine.Answers connection) program state value final := by
  induction hrun with
  | done value state => exact .done value state
  | ask hanswer _ ih => exact .ask hanswer.1 ih

variable {store : PersistentStore} (hopen : store.db.isOpen = true)
include hopen

theorem putAllFrom_succeeds (hlaws : engine.Lawful) {values : List (Bytes × Bytes)}
    {answer : Answer Bool}
    (hrun : Runs (SucceedingAnswers engine connection) (store.putAllFrom values)
      state answer final) : answer = ⟨true, none⟩ := by
  induction values generalizing state with
  | nil =>
      rw [putAllFrom_nil_eq hopen, runs_ask_iff] at hrun
      obtain ⟨reply, middle, ⟨_, hsucceeded⟩, hrest⟩ := hrun
      rw [if_pos (executeOutcome_value.mpr hsucceeded), runs_done_iff] at hrest
      exact hrest.1
  | cons pair values ih =>
      rw [putAllFrom_cons_eq hopen, runs_ask_iff] at hrun
      obtain ⟨run, middle, ⟨hstep, hsucceeded⟩, hrest⟩ := hrun
      have hrows := hlaws.write_rows hstep rfl
      rw [if_pos ((execOutcome_value _ _ _ hrows).mpr hsucceeded)] at hrest
      exact ih hrest

theorem putAll_succeeds (hlaws : engine.Lawful) {values : List (Bytes × Bytes)}
    {answer : Answer Bool}
    (hrun : Runs (SucceedingAnswers engine connection) (store.putAll values)
      state answer final) : answer = ⟨true, none⟩ := by
  rw [putAll_eq hopen, runs_ask_iff] at hrun
  obtain ⟨reply, middle, ⟨_, hsucceeded⟩, hrest⟩ := hrun
  rw [if_pos (executeOutcome_value.mpr hsucceeded)] at hrest
  exact putAllFrom_succeeds hopen hlaws hrest

theorem query_succeeds {σ ρ α : Type} {row : List String → List Value → ρ} {sql : Sql}
    {arguments : List Value} {callback : Callback σ ρ} {start : σ} {answer : Answer α}
    (result : QueryAnswer σ → α) (haccepts : ∀ state row, (callback state row).2 = true)
    (hrun : Runs (SucceedingAnswers engine connection)
      (store.db.runQuery row sql arguments callback start >>= fun queried =>
        .done ⟨result queried, queried.error⟩) state answer final) : answer.error = none := by
  rw [runQuery_eq hopen, ask_bind, runs_ask_iff] at hrun
  obtain ⟨run, middle, ⟨_, hsucceeded⟩, hdone⟩ := hrun
  rw [done_bind, runs_done_iff] at hdone
  rw [hdone.1, (queryOutcome_of_accepting row haccepts start sql arguments run).1 hsucceeded]

omit hopen in
theorem answer_of_read {α : Type} {answer : Answer α} {expected absent : α} {map map' : StoreMap}
    (hnone : answer.error = none)
    (hread : ¬ engine.inTransaction final connection ∧
      engine.committed final = engine.committed state ∧
        ReadStep map (answer.error = none) (· = expected) absent answer map') :
    answer.value = expected ∧ engine.committed final = engine.committed state ∧
      ¬ engine.inTransaction final connection :=
  ⟨hread.2.2.found hnone, hread.2.1, hread.1⟩

theorem get_succeeds (hlaws : engine.Lawful) {key : Bytes} {answer : Answer (Option Bytes)}
    (houtside : ¬ engine.inTransaction state connection)
    (hrun : Runs (SucceedingAnswers engine connection) (store.get key) state answer final) :
    answer.value = (contents (engine.committed state) (cString key)).map cString ∧
      engine.committed final = engine.committed state ∧
        ¬ engine.inTransaction final connection := by
  have hnone : answer.error = none :=
    query_succeeds hopen (fun queried : QueryAnswer (Option Bytes × Bool) =>
      if queried.ok && queried.state.2 then queried.state.1 else none) getRow_accepts hrun
  exact answer_of_read hnone (get_runs hlaws hopen houtside (runs_of_succeeding hrun))

theorem has_succeeds (hlaws : engine.Lawful) {key : Bytes} {answer : Answer Bool}
    (houtside : ¬ engine.inTransaction state connection)
    (hrun : Runs (SucceedingAnswers engine connection) (store.has key) state answer final) :
    answer.value = (contents (engine.committed state) (cString key)).isSome ∧
      engine.committed final = engine.committed state ∧
        ¬ engine.inTransaction final connection := by
  have hnone : answer.error = none :=
    query_succeeds hopen (fun queried : QueryAnswer Bool => queried.ok && queried.state)
      (fun _ _ => rfl) hrun
  exact answer_of_read hnone (has_runs hlaws hopen houtside (runs_of_succeeding hrun))

theorem getBlob_succeeds (hlaws : engine.Lawful) {key : Bytes} {answer : Answer Bytes}
    (houtside : ¬ engine.inTransaction state connection)
    (hrun : Runs (SucceedingAnswers engine connection) (store.getBlob key) state answer final) :
    answer.value = (contents (engine.committed state) (cString key)).getD [] ∧
      engine.committed final = engine.committed state ∧
        ¬ engine.inTransaction final connection := by
  have hnone : answer.error = none :=
    query_succeeds hopen (fun queried : QueryAnswer Bytes =>
      if !queried.ok then [] else queried.state) getBlobRow_accepts hrun
  exact answer_of_read hnone (getBlob_runs hlaws hopen houtside (runs_of_succeeding hrun))

theorem keys_succeeds (hlaws : engine.Lawful) {answer : Answer (List Bytes)}
    (houtside : ¬ engine.inTransaction state connection)
    (hrun : Runs (SucceedingAnswers engine connection) store.keys state answer final) :
    answer.value = (engine.committed state).keys.map cString ∧
      engine.committed final = engine.committed state ∧
        ¬ engine.inTransaction final connection := by
  have hnone : answer.error = none :=
    query_succeeds hopen (fun queried : QueryAnswer (List Bytes) =>
      if !queried.ok then [] else queried.state) keysRow_accepts hrun
  exact answer_of_read hnone (keys_runs hlaws hopen houtside (runs_of_succeeding hrun))

end Succeeding

/-! ## Succeeding statements of the journal -/

section Journal

def openStore : PersistentStore := ⟨⟨true⟩⟩

variable {sql : Sql} {arguments : List Value} {table : Table}

theorem journal_selects {selection : Table → List (List Value)} {rows : List (List Value)}
    (hselection : (Request.statement sql arguments).selection = some selection)
    (hrows : rows = selection table) :
    SucceedingAnswers (journalEngine ℕ) 0 ⟨table, none⟩ (.statement sql arguments)
      (completedRun rows) ⟨table, none⟩ :=
  ⟨.selected hselection (statement_returns_iff.mpr hrows), completedRun_succeeded _ _ _⟩

theorem journal_writes {change : Table → Table}
    (hchange : (Request.statement sql arguments).change = some change) :
    SucceedingAnswers (journalEngine ℕ) 0 ⟨table, none⟩ (.statement sql arguments)
      (completedRun []) ⟨change table, none⟩ :=
  ⟨.wroteOutside (completedRun_succeeded _ _ _) hchange (statement_returns_iff.mpr rfl),
    completedRun_succeeded _ _ _⟩

end Journal

end ElapPlatform.Storage
