import ElapPlatform.InteractionPostcondition
import ElapPlatform.PersistentStoreMapModel
import ElapPlatform.SqliteJournalEngine
import ElapPlatform.TransitionRun

/-!
# The store refines the map

One connection makes any sequence of calls, and any statement may fail.
-/

namespace ElapPlatform.Storage

open Interaction Interaction.Program Transition

/-! ## What the callbacks collect -/

theorem getRow_accepts (state : Option Bytes × Bool) (row : TextRow) :
    (PersistentStore.getRow state row).2 = true := by
  unfold PersistentStore.getRow
  split <;> rfl

theorem getBlobRow_accepts (result : Bytes) (columns : List Column) :
    (PersistentStore.getBlobRow result columns).2 = true := by
  unfold PersistentStore.getBlobRow
  split <;> rfl

theorem keysRow_accepts (result : List Bytes) (row : TextRow) :
    (PersistentStore.keysRow result row).2 = true := by
  unfold PersistentStore.keysRow
  split <;> rfl

theorem getBlobRow_of_stored (names : List String) (value : StoredValue) :
    (PersistentStore.getBlobRow [] (blobRow names [.stored value])).1 = value.bytes := by
  unfold PersistentStore.getBlobRow blobRow columnBlob columnBytes columnText
  cases hbytes : value.bytes with
  | nil => simp [hbytes]
  | cons byte bytes => simp [hbytes]

theorem keysRow_foldl (names : List String) (keys result : List Bytes) :
    ((keys.map fun key => [Value.text key]).map (textRow names)).foldl
      (fun state row => (PersistentStore.keysRow state row).1) result =
      result ++ keys.map cString := by
  induction keys generalizing result with
  | nil => simp
  | cons key keys ih =>
      rw [List.map_cons, List.map_cons, List.foldl_cons, ih, List.map_cons,
        List.append_cons]
      rfl

theorem isKeyList_keys (table : Table) : IsKeyList (contents table) table.keys := by
  constructor
  · exact Std.ExtTreeMap.ordered_keys.imp fun hlt => (compare_bytes_eq_lt_iff _ _).mp hlt
  · intro key
    unfold contents
    rw [Std.ExtTreeMap.mem_keys, Std.ExtTreeMap.mem_iff_isSome_getElem?, Option.isSome_map]

theorem keys_map_cString {table : Table} (hkeys : KeysNulFree table) :
    table.keys.map cString = table.keys := by
  apply List.map_congr_left _ |>.trans (List.map_id _)
  intro key hmem
  exact cString_eq_self (hkeys key (Std.ExtTreeMap.mem_keys.mp hmem))

theorem ReadStep.weaken {α : Type} {map map' : StoreMap} {succeeds : Prop}
    {expected expected' : α → Prop} {absent : α} {answer : Answer α}
    (hread : ReadStep map succeeds expected absent answer map')
    (hweaker : ∀ value, expected value → expected' value) :
    ReadStep map succeeds expected' absent answer map' :=
  ⟨hread.unchanged, fun hsucceeds => hweaker _ (hread.found hsucceeds), hread.failed,
    hread.error_iff⟩

theorem ReadStep.of_error_iff {α : Type} {map map' : StoreMap} {succeeds : Prop}
    {expected : α → Prop} {absent : α} {answer : Answer α}
    (hread : ReadStep map (answer.error = none) expected absent answer map')
    (herror : answer.error = none ↔ succeeds) :
    ReadStep map succeeds expected absent answer map' where
  unchanged := hread.unchanged
  found hsucceeds := hread.found (herror.mpr hsucceeds)
  failed hfailed := hread.failed (mt herror.mp hfailed)
  error_iff := herror

/-! ## The store as a transition system -/

section Calls

variable {Connection : Type} (engine : Engine Connection) (connection : Connection)

/-- The statements of one connection, with no other connection at work. -/
def Engine.Answers (state : engine.State) (request : Request) (reply : request.Reply)
    (next : engine.State) : Prop :=
  engine.step state connection request reply next

structure StoreStep (store : PersistentStore) (state : engine.State) (call : Call)
    (next : engine.State) : Prop where
  transcript : Transcript (store.operate call.operation) call.statements call.answer
  answered : Answered (engine.Answers connection) state call.statements next

variable {engine connection} (hlaws : engine.Lawful)
include hlaws

/-! ## Writes -/

theorem outside_of_failed {state next : engine.State} {request : Request}
    {reply : request.Reply} (hstep : engine.step state connection request reply next)
    (hfailed : ¬ request.Succeeded reply)
    (houtside : ¬ engine.inTransaction state connection) :
    ¬ engine.inTransaction next connection ∧
      engine.committed next = engine.committed state := by
  obtain ⟨hcommitted, hended | ⟨hinside, _⟩⟩ := hlaws.failed hstep hfailed
  · exact ⟨hended, hcommitted⟩
  · exact absurd hinside houtside

theorem oneStatement_runs {program : DatabaseProgram (Answer Bool)} {change : Table → Table}
    (hone : IsOneStatement change program) {state final : engine.State}
    {answer : Answer Bool} (houtside : ¬ engine.inTransaction state connection)
    (hrun : Runs (engine.Answers connection) program state answer final) :
    ¬ engine.inTransaction final connection ∧
      engine.committed final =
        if answer.value then change (engine.committed state) else engine.committed state := by
  obtain ⟨request, outcome, rfl, hchange, houtcome⟩ := hone
  rw [runs_ask_iff] at hrun
  obtain ⟨reply, middle, hstep, hdone⟩ := hrun
  rw [runs_done_iff] at hdone
  obtain ⟨rfl, rfl⟩ := hdone
  have hvalue := houtcome reply (hlaws.write_rows hstep hchange)
  by_cases hsucceeded : request.Succeeded reply
  · rw [hvalue.mpr hsucceeded, if_pos rfl]
    exact (hlaws.write_outside hstep hsucceeded hchange houtside).2
  · have hfalse : (outcome reply).value = false := by
      simpa using mt hvalue.mp hsucceeded
    rw [hfalse, if_neg Bool.false_ne_true]
    exact outside_of_failed hlaws hstep hsucceeded houtside

variable {store : PersistentStore} (hopen : store.db.isOpen = true)
include hopen

omit hopen in
/-- `ROLLBACK` after a failed statement of a transaction. -/
theorem rollback_runs {state failed final : engine.State} {request : Request}
    {reply : request.Reply} (hstep : engine.step state connection request reply failed)
    (hfailed : ¬ request.Succeeded reply) {error : Option ErrorText} {answer : Answer Bool}
    (hrun : Runs (engine.Answers connection)
      (.ask (Request.exec .rollback) fun _ => .done ⟨false, error⟩) failed answer final) :
    answer.value = false ∧ ¬ engine.inTransaction final connection ∧
      engine.committed final = engine.committed state := by
  rw [runs_ask_iff] at hrun
  obtain ⟨reply', middle, hrollback, hdone⟩ := hrun
  rw [runs_done_iff] at hdone
  obtain ⟨rfl, rfl⟩ := hdone
  obtain ⟨hcommitted, hended⟩ := hlaws.rollback_ends hrollback
  exact ⟨rfl, hended, hcommitted.trans (hlaws.failed hstep hfailed).1⟩

theorem putAllFrom_runs {values : List (Bytes × Bytes)} {state final : engine.State}
    {answer : Answer Bool} (hinside : engine.inTransaction state connection)
    (hrun : Runs (engine.Answers connection) (store.putAllFrom values) state answer final) :
    ¬ engine.inTransaction final connection ∧
      engine.committed final =
        if answer.value then values.foldl insertPair (engine.view state connection)
        else engine.committed state := by
  induction values generalizing state with
  | nil =>
      rw [putAllFrom_nil_eq hopen, runs_ask_iff] at hrun
      obtain ⟨reply, middle, hstep, hrest⟩ := hrun
      by_cases hsucceeded : (Request.exec .commit).Succeeded reply
      · rw [if_pos (executeOutcome_value.mpr hsucceeded), runs_done_iff] at hrest
        obtain ⟨rfl, rfl⟩ := hrest
        obtain ⟨_, hcommitted, hended⟩ := hlaws.commit_succeeded hstep hsucceeded
        exact ⟨hended, hcommitted⟩
      · rw [if_neg (mt executeOutcome_value.mp hsucceeded)] at hrest
        obtain ⟨hfalse, hended, hcommitted⟩ := rollback_runs hlaws hstep hsucceeded hrest
        rw [hfalse, if_neg Bool.false_ne_true]
        exact ⟨hended, hcommitted⟩
  | cons pair values ih =>
      obtain ⟨key, value⟩ := pair
      rw [putAllFrom_cons_eq hopen, runs_ask_iff] at hrun
      obtain ⟨run, middle, hstep, hrest⟩ := hrun
      have hvalue := execOutcome_value "exec failed: " .insertOrReplace
        ([some key, some value].map boundText) (hlaws.write_rows hstep rfl)
      by_cases hsucceeded : (Request.statement .insertOrReplace
          ([some key, some value].map boundText)).Succeeded run
      · rw [if_pos (hvalue.mpr hsucceeded)] at hrest
        obtain ⟨hstill, hview, hcommitted⟩ :=
          hlaws.write_inside hstep hsucceeded rfl hinside
        have hfinal := ih hstill hrest
        rw [hview, hcommitted] at hfinal
        exact hfinal
      · rw [if_neg (mt hvalue.mp hsucceeded)] at hrest
        obtain ⟨hfalse, hended, hcommitted⟩ := rollback_runs hlaws hstep hsucceeded hrest
        rw [hfalse, if_neg Bool.false_ne_true]
        exact ⟨hended, hcommitted⟩

theorem putAll_runs {values : List (Bytes × Bytes)} {state final : engine.State}
    {answer : Answer Bool} (houtside : ¬ engine.inTransaction state connection)
    (hrun : Runs (engine.Answers connection) (store.putAll values) state answer final) :
    ¬ engine.inTransaction final connection ∧
      engine.committed final =
        if answer.value then values.foldl insertPair (engine.committed state)
        else engine.committed state := by
  rw [putAll_eq hopen, runs_ask_iff] at hrun
  obtain ⟨reply, middle, hstep, hrest⟩ := hrun
  by_cases hsucceeded : (Request.exec .beginImmediate).Succeeded reply
  · rw [if_pos (executeOutcome_value.mpr hsucceeded)] at hrest
    obtain ⟨_, hinside, hview, hcommitted⟩ := hlaws.begin_succeeded hstep hsucceeded
    have hfinal := putAllFrom_runs hlaws hopen hinside hrest
    rw [hview, hcommitted] at hfinal
    exact hfinal
  · rw [if_neg (mt executeOutcome_value.mp hsucceeded), runs_done_iff] at hrest
    obtain ⟨rfl, rfl⟩ := hrest
    exact outside_of_failed hlaws hstep hsucceeded houtside

/-- A write that returns `true` has its whole effect, and any other write none. -/
theorem write_runs {write : Write} {state final : engine.State} {answer : Answer Bool}
    (houtside : ¬ engine.inTransaction state connection)
    (hrun : Runs (engine.Answers connection) (store.write write) state answer final) :
    ¬ engine.inTransaction final connection ∧
      engine.committed final =
        if answer.value then write.apply (engine.committed state)
        else engine.committed state := by
  rcases write_cases hopen write with ⟨values, rfl⟩ | ⟨⟨error, hrefused⟩, -⟩ | ⟨hone, -⟩
  · exact putAll_runs hlaws hopen houtside hrun
  · rw [hrefused, runs_done_iff] at hrun
    obtain ⟨rfl, rfl⟩ := hrun
    exact ⟨houtside, rfl⟩
  · exact oneStatement_runs hlaws hone houtside hrun

/-! ## Reads -/

/-- A query whose callback accepts every row returns what it made of the
selection, or fails and says so. -/
theorem runQuery_runs {σ ρ : Type} {row : List String → List Value → ρ} {sql : Sql}
    {arguments : List Value} {callback : Callback σ ρ} {start : σ}
    {selection : Table → List (List Value)}
    (haccepts : ∀ state row, (callback state row).2 = true)
    (hselection : (Request.statement sql arguments).selection = some selection)
    {state final : engine.State} {answer : QueryAnswer σ}
    (houtside : ¬ engine.inTransaction state connection)
    (hrun : Runs (engine.Answers connection)
      (store.db.runQuery row sql arguments callback start) state answer final) :
    ¬ engine.inTransaction final connection ∧
      engine.committed final = engine.committed state ∧
      ((answer.ok = true ∧ answer.error = none ∧ ∃ names,
          answer.state = ((selection (engine.committed state)).map (row names)).foldl
            (fun state row => (callback state row).1) start) ∨
        answer.ok = false ∧ answer.error ≠ none) := by
  rw [runQuery_eq hopen, runs_ask_iff] at hrun
  obtain ⟨run, middle, hstep, hdone⟩ := hrun
  rw [runs_done_iff] at hdone
  obtain ⟨rfl, rfl⟩ := hdone
  have houtcome := queryOutcome_of_accepting row haccepts start sql arguments run
  by_cases hsucceeded : (Request.statement sql arguments).Succeeded run
  · obtain ⟨hrows, hcommitted, hsame, _⟩ :=
      hlaws.select_succeeded hstep hsucceeded hselection
    rw [hlaws.view_outside houtside] at hrows
    refine ⟨mt hsame.mp houtside, hcommitted, .inl ?_⟩
    rw [houtcome.1 hsucceeded]
    refine ⟨rfl, rfl, run.columns, ?_⟩
    have hrows' : run.rows = selection (engine.committed state) := hrows
    rw [hrows']
  · obtain ⟨hended, hcommitted⟩ := outside_of_failed hlaws hstep hsucceeded houtside
    exact ⟨hended, hcommitted, .inr (houtcome.2 hsucceeded)⟩

/-- The answer of a read is computed from what its query collected. -/
theorem read_runs {σ ρ α : Type} {row : List String → List Value → ρ} {sql : Sql}
    {arguments : List Value} {callback : Callback σ ρ} {start : σ}
    {selection : Table → List (List Value)} (result : Bool → σ → α) {absent : α}
    {expected : α → Prop} {state final : engine.State} {answer : Answer α}
    (haccepts : ∀ state row, (callback state row).2 = true)
    (hselection : (Request.statement sql arguments).selection = some selection)
    (habsent : ∀ collected, result false collected = absent)
    (hexpected : ∀ names, expected (result true
      (((selection (engine.committed state)).map (row names)).foldl
        (fun state row => (callback state row).1) start)))
    (houtside : ¬ engine.inTransaction state connection)
    (hrun : Runs (engine.Answers connection)
      (store.db.runQuery row sql arguments callback start >>= fun queried =>
        .done ⟨result queried.ok queried.state, queried.error⟩) state answer final) :
    ¬ engine.inTransaction final connection ∧
      engine.committed final = engine.committed state ∧
      ReadStep (contents (engine.committed state)) (answer.error = none) expected absent answer
        (contents (engine.committed state)) := by
  rw [runs_bind_iff] at hrun
  obtain ⟨queried, middle, hquery, hdone⟩ := hrun
  rw [runs_done_iff] at hdone
  obtain ⟨rfl, rfl⟩ := hdone
  obtain ⟨hended, hcommitted, hresult⟩ :=
    runQuery_runs hlaws hopen haccepts hselection houtside hquery
  refine ⟨hended, hcommitted, rfl, ?_, ?_, Iff.rfl⟩
  · intro hnone
    rcases hresult with ⟨hok, _, names, hstate⟩ | ⟨_, herror⟩
    · rw [hok, hstate]
      exact hexpected names
    · exact absurd hnone herror
  · intro hset
    rcases hresult with ⟨_, herror, _⟩ | ⟨hok, _⟩
    · exact absurd herror hset
    · rw [hok]
      exact habsent queried.state

theorem get_runs {key : Bytes} {state final : engine.State}
    {answer : Answer (Option Bytes)} (houtside : ¬ engine.inTransaction state connection)
    (hrun : Runs (engine.Answers connection) (store.get key) state answer final) :
    ¬ engine.inTransaction final connection ∧
      engine.committed final = engine.committed state ∧
      ReadStep (contents (engine.committed state)) (answer.error = none)
        (· = (contents (engine.committed state) (cString key)).map cString) none answer
        (contents (engine.committed state)) := by
  refine read_runs hlaws hopen (fun ok (collected : Option Bytes × Bool) =>
    if ok && collected.2 then collected.1 else none) getRow_accepts rfl
    (fun _ => rfl) ?_ houtside hrun
  intro names
  unfold contents
  cases (engine.committed state)[cString key]? with
  | none => rfl
  | some value => rfl

theorem has_runs {key : Bytes} {state final : engine.State}
    {answer : Answer Bool} (houtside : ¬ engine.inTransaction state connection)
    (hrun : Runs (engine.Answers connection) (store.has key) state answer final) :
    ¬ engine.inTransaction final connection ∧
      engine.committed final = engine.committed state ∧
      ReadStep (contents (engine.committed state)) (answer.error = none)
        (· = (contents (engine.committed state) (cString key)).isSome) false answer
        (contents (engine.committed state)) := by
  refine read_runs hlaws hopen (fun ok collected => ok && collected)
    (fun _ _ => rfl) rfl (fun _ => rfl) ?_ houtside hrun
  intro names
  unfold contents
  cases (engine.committed state)[cString key]? with
  | none => rfl
  | some value => rfl

theorem getBlob_runs {key : Bytes} {state final : engine.State}
    {answer : Answer Bytes} (houtside : ¬ engine.inTransaction state connection)
    (hrun : Runs (engine.Answers connection) (store.getBlob key) state answer final) :
    ¬ engine.inTransaction final connection ∧
      engine.committed final = engine.committed state ∧
      ReadStep (contents (engine.committed state)) (answer.error = none)
        (· = (contents (engine.committed state) (cString key)).getD []) [] answer
        (contents (engine.committed state)) := by
  refine read_runs hlaws hopen (fun ok collected => if !ok then [] else collected)
    getBlobRow_accepts rfl (fun _ => rfl) ?_ houtside hrun
  intro names
  unfold contents
  cases (engine.committed state)[cString key]? with
  | none => rfl
  | some value => exact getBlobRow_of_stored names value

theorem keys_runs {state final : engine.State} {answer : Answer (List Bytes)}
    (houtside : ¬ engine.inTransaction state connection)
    (hrun : Runs (engine.Answers connection) store.keys state answer final) :
    ¬ engine.inTransaction final connection ∧
      engine.committed final = engine.committed state ∧
      ReadStep (contents (engine.committed state)) (answer.error = none)
        (· = (engine.committed state).keys.map cString) [] answer
        (contents (engine.committed state)) := by
  refine read_runs hlaws hopen (fun ok collected => if !ok then [] else collected)
    keysRow_accepts rfl (fun _ => rfl) ?_ houtside hrun
  intro names
  exact keysRow_foldl names (engine.committed state).keys []

/-! ## What the statements decide -/

omit hlaws in
/-- A read sets the error text exactly when its one statement failed. -/
theorem read_error_none_iff {σ ρ α : Type} {row : List String → List Value → ρ} {sql : Sql}
    {arguments : List Value} {callback : Callback σ ρ} {start : σ} (result : Bool → σ → α)
    {answer : Answer α} {statements : List (Exchange Request Request.Reply)}
    (haccepts : ∀ state row, (callback state row).2 = true)
    (htranscript : Transcript (store.db.runQuery row sql arguments callback start >>=
      fun queried => .done ⟨result queried.ok queried.state, queried.error⟩) statements answer) :
    answer.error = none ↔ AllSucceed statements := by
  rw [runQuery_eq hopen, ask_bind, transcript_ask_iff] at htranscript
  obtain ⟨run, rest, rfl, hdone⟩ := htranscript
  rw [done_bind, transcript_done_iff] at hdone
  obtain ⟨rfl, rfl⟩ := hdone
  rw [allSucceed_singleton_iff]
  have houtcome := queryOutcome_of_accepting row haccepts start sql arguments run
  constructor
  · intro hnone
    by_contra hfailed
    exact (houtcome.2 hfailed).2 hnone
  · intro hsucceeded
    rw [houtcome.1 hsucceeded]

section WrittenStatements

variable {state final : engine.State} {answer : Answer Bool}
  {statements : List (Exchange Request Request.Reply)}

omit hopen in
theorem oneStatement_value_iff {program : DatabaseProgram (Answer Bool)} {change : Table → Table}
    (hone : IsOneStatement change program) (htranscript : Transcript program statements answer)
    (hanswered : Answered (engine.Answers connection) state statements final) :
    answer.value = true ↔ AllSucceed statements := by
  obtain ⟨request, outcome, rfl, hchange, houtcome⟩ := hone
  obtain ⟨reply, rest, rfl, hdone⟩ := transcript_ask_iff.mp htranscript
  obtain ⟨rfl, rfl⟩ := transcript_done_iff.mp hdone
  obtain ⟨middle, hstep, _⟩ := answered_cons_iff.mp hanswered
  rw [allSucceed_singleton_iff]
  exact houtcome reply (hlaws.write_rows hstep hchange)

omit hlaws hopen in
/-- The `ROLLBACK` comes after a statement that failed. -/
theorem rolledBack_value_iff {request : Request} {reply : request.Reply}
    (hfailed : ¬ request.Succeeded reply) {error : Option ErrorText}
    {rest : List (Exchange Request Request.Reply)}
    (htranscript : Transcript (.ask (Request.exec .rollback) fun _ => .done ⟨false, error⟩)
      rest answer) :
    answer.value = true ↔ AllSucceed (⟨request, reply⟩ :: rest) := by
  obtain ⟨reply', last, rfl, hdone⟩ := transcript_ask_iff.mp htranscript
  obtain ⟨rfl, rfl⟩ := transcript_done_iff.mp hdone
  rw [allSucceed_cons_iff]
  exact iff_of_false Bool.false_ne_true fun hall => hfailed hall.1

theorem putAllFrom_value_iff {values : List (Bytes × Bytes)}
    (htranscript : Transcript (store.putAllFrom values) statements answer)
    (hanswered : Answered (engine.Answers connection) state statements final) :
    answer.value = true ↔ AllSucceed statements := by
  induction values generalizing state statements with
  | nil =>
      rw [putAllFrom_nil_eq hopen, transcript_ask_iff] at htranscript
      obtain ⟨reply, rest, rfl, hrest⟩ := htranscript
      by_cases hsucceeded : (Request.exec .commit).Succeeded reply
      · rw [if_pos (executeOutcome_value.mpr hsucceeded), transcript_done_iff] at hrest
        obtain ⟨rfl, rfl⟩ := hrest
        rw [allSucceed_singleton_iff]
        exact iff_of_true rfl hsucceeded
      · rw [if_neg (mt executeOutcome_value.mp hsucceeded)] at hrest
        exact rolledBack_value_iff hsucceeded hrest
  | cons pair values ih =>
      obtain ⟨key, value⟩ := pair
      rw [putAllFrom_cons_eq hopen, transcript_ask_iff] at htranscript
      obtain ⟨run, rest, rfl, hrest⟩ := htranscript
      obtain ⟨middle, hstep, hlater⟩ := answered_cons_iff.mp hanswered
      have hvalue := execOutcome_value "exec failed: " .insertOrReplace
        ([some key, some value].map boundText) (hlaws.write_rows hstep rfl)
      by_cases hsucceeded : (Request.statement .insertOrReplace
          ([some key, some value].map boundText)).Succeeded run
      · rw [if_pos (hvalue.mpr hsucceeded)] at hrest
        rw [allSucceed_cons_iff, ih hrest hlater]
        exact (and_iff_right hsucceeded).symm
      · rw [if_neg (mt hvalue.mp hsucceeded)] at hrest
        exact rolledBack_value_iff hsucceeded hrest

theorem putAll_value_iff {values : List (Bytes × Bytes)}
    (htranscript : Transcript (store.putAll values) statements answer)
    (hanswered : Answered (engine.Answers connection) state statements final) :
    answer.value = true ↔ AllSucceed statements := by
  rw [putAll_eq hopen, transcript_ask_iff] at htranscript
  obtain ⟨reply, rest, rfl, hrest⟩ := htranscript
  obtain ⟨middle, _, hlater⟩ := answered_cons_iff.mp hanswered
  by_cases hsucceeded : (Request.exec .beginImmediate).Succeeded reply
  · rw [if_pos (executeOutcome_value.mpr hsucceeded)] at hrest
    rw [allSucceed_cons_iff, putAllFrom_value_iff hlaws hopen hrest hlater]
    exact (and_iff_right hsucceeded).symm
  · rw [if_neg (mt executeOutcome_value.mp hsucceeded), transcript_done_iff] at hrest
    obtain ⟨rfl, rfl⟩ := hrest
    rw [allSucceed_singleton_iff]
    exact iff_of_false Bool.false_ne_true hsucceeded

/-- A write returns `true` exactly when it takes its arguments and its statements succeed. -/
theorem write_value_iff {write : Write}
    (htranscript : Transcript (store.write write) statements answer)
    (hanswered : Answered (engine.Answers connection) state statements final) :
    answer.value = true ↔ AllSucceed statements ∧ write.Accepted := by
  rcases write_cases hopen write with ⟨values, rfl⟩ | ⟨⟨error, hrefused⟩, hnot⟩ | ⟨hone, haccepted⟩
  · exact (putAll_value_iff hlaws hopen htranscript hanswered).trans (and_iff_left trivial).symm
  · rw [hrefused, transcript_done_iff] at htranscript
    obtain ⟨rfl, rfl⟩ := htranscript
    exact iff_of_false Bool.false_ne_true fun hall => hnot hall.2
  · exact (oneStatement_value_iff hlaws hone htranscript hanswered).trans
      (and_iff_left haccepted).symm

end WrittenStatements

/-! ## The refinement -/

/-- One call of the store is one step of the map. -/
theorem storeStep_simulates {state final : engine.State} {call : Call}
    (hcall : call.operation.NulFree) (hkeys : KeysNulFree (engine.committed state))
    (houtside : ¬ engine.inTransaction state connection)
    (hstep : StoreStep engine connection store state call final) :
    MapStep (contents (engine.committed state)) call (contents (engine.committed final)) ∧
      KeysNulFree (engine.committed final) ∧
      ¬ engine.inTransaction final connection := by
  obtain ⟨operation, statements, answer⟩ := call
  obtain ⟨htranscript, hanswered⟩ := hstep
  have hrun := htranscript.runs hanswered
  cases operation with
  | write write =>
      obtain ⟨hended, hcommitted⟩ := write_runs hlaws hopen houtside hrun
      obtain ⟨hmap, hfree⟩ := writeStep_of_committed hcall hkeys hcommitted
        (write_value_iff hlaws hopen htranscript hanswered)
      exact ⟨hmap, hfree, hended⟩
  | get key =>
      have herror := read_error_none_iff hopen (fun ok (collected : Option Bytes × Bool) =>
        if ok && collected.2 then collected.1 else none) getRow_accepts htranscript
      obtain ⟨hended, hcommitted, hread⟩ := get_runs hlaws hopen houtside hrun
      rw [cString_eq_self hcall] at hread
      rw [hcommitted]
      exact ⟨hread.of_error_iff herror, hkeys, hended⟩
  | getBlob key =>
      have herror := read_error_none_iff hopen (fun ok collected =>
        if !ok then [] else collected) getBlobRow_accepts htranscript
      obtain ⟨hended, hcommitted, hread⟩ := getBlob_runs hlaws hopen houtside hrun
      rw [cString_eq_self hcall] at hread
      rw [hcommitted]
      exact ⟨hread.of_error_iff herror, hkeys, hended⟩
  | has key =>
      have herror := read_error_none_iff hopen (fun ok collected => ok && collected)
        (fun _ _ => rfl) htranscript
      obtain ⟨hended, hcommitted, hread⟩ := has_runs hlaws hopen houtside hrun
      rw [cString_eq_self hcall] at hread
      rw [hcommitted]
      exact ⟨hread.of_error_iff herror, hkeys, hended⟩
  | keys =>
      have herror := read_error_none_iff hopen (fun ok collected =>
        if !ok then [] else collected) keysRow_accepts htranscript
      obtain ⟨hended, hcommitted, hread⟩ := keys_runs hlaws hopen houtside hrun
      rw [keys_map_cString hkeys] at hread
      rw [hcommitted]
      have hlisted := hread.weaken fun listed hlisted => hlisted ▸ isKeyList_keys _
      exact ⟨hlisted.of_error_iff herror, hkeys, hended⟩

end Calls

/-- Whatever statements fail, the calls of a run return what the same calls on a
map return, and the committed table stands for that map. -/
theorem store_refines_map {Connection : Type} (engine : Engine Connection)
    (hlaws : engine.Lawful) (connection : Connection) (store : PersistentStore)
    (hopen : store.db.isOpen = true) {start final : engine.State}
    {history : History engine.State Call}
    (hrun : Run (StoreStep engine connection store) start history final)
    (houtside : ¬ engine.inTransaction start connection)
    (hkeys : KeysNulFree (engine.committed start))
    (hcalls : ∀ entry ∈ history, entry.2.operation.NulFree) :
    ∃ mapHistory,
      Run MapStep (contents (engine.committed start)) mapHistory
        (contents (engine.committed final)) ∧
      mapHistory.map Prod.snd = history.map Prod.snd := by
  have hsimulated := hrun.simulate
    MapStep
    (fun state map => map = contents (engine.committed state) ∧
      KeysNulFree (engine.committed state) ∧ ¬ engine.inTransaction state connection)
    (fun call => call.operation.NulFree)
    (fun {state call next map} hrelates hcall hstep => by
      obtain ⟨rfl, hfree, hout⟩ := hrelates
      obtain ⟨hmap, hnext⟩ := storeStep_simulates hlaws hopen hcall hfree hout hstep
      exact ⟨_, hmap, rfl, hnext⟩)
    ⟨rfl, hkeys, houtside⟩ hcalls
  obtain ⟨mapHistory, map, hmapRun, hsame, rfl, _⟩ := hsimulated
  exact ⟨mapHistory, hmapRun, hsame⟩

def putCall : Call :=
  ⟨.write (.put [107] [118]),
    [⟨.statement .insertOrReplace [.text [107], .text [118]], completedRun []⟩], ⟨true, none⟩⟩

def lockedRemoveCall : Call :=
  ⟨.write (.remove [107]), [⟨.statement .deleteKey [.text [107]], busyRun⟩],
    ⟨false, some (.message "exec failed: database is locked")⟩⟩

def getCall : Call :=
  ⟨.get [107], [⟨.statement .selectValue [.text [107]], completedRun [[.text [118]]]⟩],
    ⟨some [118], none⟩⟩

theorem putCall_transcript :
    Transcript ((⟨⟨true⟩⟩ : PersistentStore).operate putCall.operation) putCall.statements
      putCall.answer :=
  transcript_ask_iff.mpr ⟨completedRun [], [], rfl, .done _⟩

theorem getCall_transcript :
    Transcript ((⟨⟨true⟩⟩ : PersistentStore).operate getCall.operation) getCall.statements
      getCall.answer :=
  transcript_ask_iff.mpr ⟨completedRun [[.text [118]]], [], rfl, .done _⟩

def storedPair : Journal ℕ := ⟨insertPair ∅ ([107], [118]), none⟩

/-- `put("k", "v")` succeeds, `remove("k")` meets a lock, and `get("k")` is `"v"`. -/
theorem put_remove_get_run :
    Run (StoreStep (journalEngine ℕ) 0 ⟨⟨true⟩⟩) ⟨∅, none⟩
      [(⟨∅, none⟩, putCall), (storedPair, lockedRemoveCall), (storedPair, getCall)]
      storedPair := by
  have hput : StoreStep (journalEngine ℕ) 0 ⟨⟨true⟩⟩ ⟨∅, none⟩ putCall storedPair := by
    refine ⟨putCall_transcript, .cons ?_ (.nil _)⟩
    have hchange : (Request.statement .insertOrReplace [.text [107], .text [118]]).change =
        some fun table => table.insert [107] (.text [118]) := rfl
    exact .wroteOutside (completedRun_succeeded _ _ _) hchange (statement_returns_iff.mpr rfl)
  have hremove :
      StoreStep (journalEngine ℕ) 0 ⟨⟨true⟩⟩ storedPair lockedRemoveCall storedPair := by
    refine ⟨transcript_ask_iff.mpr ⟨busyRun, [], rfl, .done _⟩, .cons ?_ (.nil _)⟩
    exact .refused (busyRun_not_succeeded _ _) (statement_returns_iff.mpr rfl) (by decide)
  have hget : StoreStep (journalEngine ℕ) 0 ⟨⟨true⟩⟩ storedPair getCall storedPair := by
    refine ⟨getCall_transcript, .cons ?_ (.nil _)⟩
    exact .selected rfl (statement_returns_iff.mpr (by decide))
  exact ((Run.start.snoc hput).snoc hremove).snoc hget

theorem put_remove_get_refines_map :
    ∃ mapHistory, Run MapStep (contents ∅) mapHistory (contents storedPair.committed) ∧
      mapHistory.map Prod.snd = [putCall, lockedRemoveCall, getCall] :=
  store_refines_map (journalEngine ℕ) journalEngine_lawful 0 ⟨⟨true⟩⟩ rfl
    put_remove_get_run Journal.not_inTransaction_mk
    (fun _ hmem => absurd hmem Std.ExtTreeMap.not_mem_empty)
    (by decide)

end ElapPlatform.Storage
