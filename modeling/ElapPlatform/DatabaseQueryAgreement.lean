import ElapPlatform.DatabaseQueryCalls

/-!
# The four query functions agree

Each of them calls its callback on the rows up to the first one that it rejects, and tells
an early stop from a failure of SQLite.
-/

namespace ElapPlatform.Storage.Calls

open Interaction Interaction.Program

/-! ## Rows for a callback with a state -/

section Rows

variable {σ Row : Type}

/-- The captured state once the callback was called on these rows. -/
def stateAfter (respond : Callback σ Row) (start : σ) (rows : List Row) : σ :=
  rows.foldl (fun captured row => (respond captured row).1) start

def AllAccepted (respond : Callback σ Row) (start : σ) (rows : List Row) : Prop :=
  ∀ front row rest, rows = front ++ row :: rest →
    (respond (stateAfter respond start front) row).2 = true

/-- All rows, or those up to the first that is rejected. -/
inductive CalledOn (respond : Callback σ Row) (start : σ) (rows : List Row) : List Row → Prop
  | all (haccepted : AllAccepted respond start rows) : CalledOn respond start rows rows
  | upTo {front rest : List Row} {last : Row} (hrows : rows = front ++ last :: rest)
      (hfront : AllAccepted respond start front)
      (hrejected : (respond (stateAfter respond start front) last).2 = false) :
      CalledOn respond start rows (front ++ [last])

/-- The rows that a loop with this callback gets to. -/
def calledRows (respond : Callback σ Row) : σ → List Row → List Row
  | _, [] => []
  | captured, row :: rows =>
      row :: if (respond captured row).2 then calledRows respond (respond captured row).1 rows
        else []

variable {respond : Callback σ Row} {start : σ} {row : Row} {rows : List Row}

theorem allAccepted_nil : AllAccepted respond start [] := by
  intro front row rest hsplit
  simp at hsplit

theorem allAccepted_cons_iff :
    AllAccepted respond start (row :: rows) ↔
      (respond start row).2 = true ∧ AllAccepted respond (respond start row).1 rows := by
  constructor
  · intro haccepted
    refine ⟨haccepted [] row rows rfl, ?_⟩
    rintro front other rest rfl
    exact haccepted (row :: front) other rest rfl
  · rintro ⟨hrow, hrows⟩ front other rest hsplit
    cases front with
    | nil =>
        obtain ⟨rfl, _⟩ := List.cons.inj hsplit
        exact hrow
    | cons first front =>
        obtain ⟨rfl, hrest⟩ := List.cons.inj hsplit
        exact hrows front other rest hrest

theorem stepRows_cons :
    stepRows respond start (row :: rows) =
      if (respond start row).2 then stepRows respond (respond start row).1 rows
      else ((respond start row).1, false) := rfl

theorem stepRows_accepts_iff :
    (stepRows respond start rows).2 = true ↔ AllAccepted respond start rows := by
  induction rows generalizing start with
  | nil => simp [stepRows, allAccepted_nil]
  | cons row rows ih =>
      rw [allAccepted_cons_iff, ← ih, stepRows_cons]
      by_cases haccepts : (respond start row).2 = true
      · simp [haccepts]
      · simp [haccepts]

theorem stepRows_state :
    (stepRows respond start rows).1 =
      stateAfter respond start (calledRows respond start rows) := by
  induction rows generalizing start with
  | nil => rfl
  | cons row rows ih =>
      rw [stepRows_cons, calledRows]
      by_cases haccepts : (respond start row).2 = true
      · simp [haccepts, ih, stateAfter]
      · simp [haccepts, stateAfter]

theorem CalledOn.cons {called : List Row} (haccepts : (respond start row).2 = true)
    (hcalled : CalledOn respond (respond start row).1 rows called) :
    CalledOn respond start (row :: rows) (row :: called) := by
  cases hcalled with
  | all haccepted => exact .all (allAccepted_cons_iff.mpr ⟨haccepts, haccepted⟩)
  | @upTo front rest last hrows hfront hrejected =>
      subst hrows
      have hlonger : AllAccepted respond start (row :: front) :=
        allAccepted_cons_iff.mpr ⟨haccepts, hfront⟩
      have hsplit : row :: (front ++ last :: rest) = (row :: front) ++ last :: rest := rfl
      have hupTo := CalledOn.upTo hsplit hlonger hrejected
      exact hupTo

theorem calledRows_spec (respond : Callback σ Row) (start : σ) (rows : List Row) :
    CalledOn respond start rows (calledRows respond start rows) := by
  induction rows generalizing start with
  | nil => exact .all allAccepted_nil
  | cons row rows ih =>
      rw [calledRows]
      by_cases haccepts : (respond start row).2 = true
      · rw [if_pos haccepts]
        exact (ih _).cons haccepts
      · rw [if_neg haccepts]
        have hsplit : row :: rows = [] ++ row :: rows := rfl
        have hupTo := CalledOn.upTo hsplit allAccepted_nil (Bool.eq_false_iff.mpr haccepts)
        exact hupTo

end Rows

/-! ## Reading a row -/

section Reading

variable {σ Row : Type} {run : StatementRun} {respond : Callback σ Row}
  {state : QueryState σ Row}

theorem columnsFrom_evaluate {α : Type} {read : ℕ → QueryProgram Row α} {column : ℕ → α}
    (hread : ∀ i, (read i).evaluate (handler run respond) state = (column i, state))
    (left i : ℕ) :
    (columnsFrom read left i).evaluate (handler run respond) state =
      ((List.range' i left).map column, state) := by
  induction left generalizing i with
  | zero => rfl
  | succ left ih => simp [columnsFrom, hread, ih, List.range'_succ]

end Reading

def textRowOf (names : List String) (values : List Value) : TextRow :=
  ⟨(List.range names.length).map fun i => Storage.columnText (values.getD i .null),
    (List.range names.length).map fun i => names.getD i ""⟩

def blobRowOf (names : List String) (values : List Value) : List Column :=
  (List.range names.length).map fun i =>
    ⟨Storage.columnBlob (values.getD i .null), Storage.columnBytes (values.getD i .null),
      names.getD i ""⟩

section ReadRows

variable {σ : Type} {run : StatementRun}

theorem readTextRow_evaluate {respond : Callback σ TextRow} {state : QueryState σ TextRow} :
    readTextRow.evaluate (handler run respond) state =
      (textRowOf run.columns state.current, state) := by
  have hcolumns : (columnsFrom (fun i => do
      let value ← columnText i
      let name ← columnName i
      return (value, name)) run.columns.length 0).evaluate (handler run respond) state =
      ((List.range' 0 run.columns.length).map fun i =>
        (Storage.columnText (state.value i), run.columns.getD i ""), state) :=
    columnsFrom_evaluate (fun i => rfl) run.columns.length 0
  rw [readTextRow, evaluate_bind]
  change (do
    let columns ← columnsFrom _ run.columns.length 0
    return (⟨columns.map Prod.fst, columns.map Prod.snd⟩ : TextRow) :
      QueryProgram TextRow TextRow).evaluate (handler run respond) state = _
  rw [evaluate_bind, hcolumns]
  simp [textRowOf, QueryState.value, List.range_eq_range']

theorem readBlobRow_evaluate {respond : Callback σ (List Column)}
    {state : QueryState σ (List Column)} :
    readBlobRow.evaluate (handler run respond) state =
      (blobRowOf run.columns state.current, state) := by
  rw [readBlobRow, evaluate_bind, blobRowOf, List.range_eq_range']
  exact columnsFrom_evaluate (fun i => rfl) run.columns.length 0

end ReadRows

/-! ## The loop and what follows it -/

section Loop

variable {σ Row : Type} {run : StatementRun} {respond : Callback σ Row}
  {readRow : QueryProgram Row Row} {rowOf : List Value → Row}

theorem rowLoop_succ {rounds : ℕ} :
    rowLoop readRow (rounds + 1) = .ask QueryCall.step fun rc : ResultCode =>
      if rc ≠ SQLITE_ROW then .done (some (rc, true))
      else readRow >>= fun row => .ask (QueryCall.callback row) fun accepted =>
        if !accepted then .done (some (SQLITE_ROW, false)) else rowLoop readRow rounds := by
  rw [rowLoop]
  refine congrArg (Program.ask _) (funext fun rc => ?_)
  by_cases hrow : rc = SQLITE_ROW
  · subst hrow
    rfl
  · change (if rc ≠ SQLITE_ROW then Program.done (some (rc, true)) else _) = _
    rw [if_pos hrow, if_pos hrow]

/-- The loop with the last row behind it. -/
theorem rowLoop_evaluate_nil {rounds : ℕ} {state : QueryState σ Row}
    (hpending : state.pending = []) :
    (rowLoop readRow (rounds + 1)).evaluate (handler run respond) state =
      (some (run.finalRc, true), state) := by
  have hstep : handler run respond state .step = (run.finalRc, state) := by
    simp [handler, stepStatement, hpending]
  rw [rowLoop_succ, evaluate_ask, hstep, if_pos run.finalRc_ne_row]
  rfl

theorem rowLoop_evaluate_cons
    (hread : ∀ state, readRow.evaluate (handler run respond) state = (rowOf state.current, state))
    {rounds : ℕ} {row : List Value} {rows : List (List Value)} {current : List Value}
    {captured : σ} {called : List Row} :
    (rowLoop readRow (rounds + 1)).evaluate (handler run respond)
        ⟨row :: rows, current, captured, called⟩ =
      if (respond captured (rowOf row)).2 then
        (rowLoop readRow rounds).evaluate (handler run respond)
          ⟨rows, row, (respond captured (rowOf row)).1, called ++ [rowOf row]⟩
      else (some (SQLITE_ROW, false),
        ⟨rows, row, (respond captured (rowOf row)).1, called ++ [rowOf row]⟩) := by
  have hstep : handler run respond ⟨row :: rows, current, captured, called⟩ .step =
      (SQLITE_ROW, ⟨rows, row, captured, called⟩) := rfl
  have hcallback : handler run respond ⟨rows, row, captured, called⟩ (.callback (rowOf row)) =
      ((respond captured (rowOf row)).2,
        ⟨rows, row, (respond captured (rowOf row)).1, called ++ [rowOf row]⟩) := rfl
  have hrow : ¬ SQLITE_ROW ≠ SQLITE_ROW := fun hne => hne rfl
  rw [rowLoop_succ, evaluate_ask, hstep, if_neg hrow, evaluate_bind, hread, evaluate_ask, hcallback]
  by_cases haccepts : (respond captured (rowOf row)).2 = true
  · simp [haccepts]
  · simp [haccepts]

/-- The loop ends as the rows run out or the callback says so, in what `stepRows` leaves. -/
theorem rowLoop_evaluate
    (hread : ∀ state, readRow.evaluate (handler run respond) state = (rowOf state.current, state))
    (rows : List (List Value)) {rounds : ℕ} (current : List Value) (captured : σ)
    (called : List Row) (hrounds : rows.length < rounds) :
    ∃ final, (rowLoop readRow rounds).evaluate (handler run respond)
        ⟨rows, current, captured, called⟩ =
        (some (if (stepRows respond captured (rows.map rowOf)).2 then run.finalRc
            else SQLITE_ROW, (stepRows respond captured (rows.map rowOf)).2), final) ∧
      final.captured = (stepRows respond captured (rows.map rowOf)).1 ∧
      final.called = called ++ calledRows respond captured (rows.map rowOf) := by
  induction rows generalizing rounds current captured called with
  | nil =>
      obtain ⟨rounds, rfl⟩ := Nat.exists_eq_add_of_lt hrounds
      rw [rowLoop_evaluate_nil rfl]
      exact ⟨_, rfl, rfl, by simp [calledRows]⟩
  | cons row rows ih =>
      obtain ⟨rounds, rfl⟩ : ∃ more, rounds = more + 1 :=
        Nat.exists_eq_succ_of_ne_zero (by omega)
      have hfewer : rows.length < rounds := by
        rw [List.length_cons] at hrounds
        omega
      rw [rowLoop_evaluate_cons hread, List.map_cons, stepRows_cons, calledRows]
      by_cases haccepts : (respond captured (rowOf row)).2 = true
      · obtain ⟨final, heval, hcaptured, hcalled⟩ := ih row _ _ hfewer
        simp only [haccepts, if_true]
        exact ⟨final, heval, hcaptured, by rw [hcalled]; simp⟩
      · simp only [haccepts]
        exact ⟨_, rfl, rfl, by simp⟩

theorem afterLoop_evaluate {rc : ResultCode} {ok : Bool} {state : QueryState σ Row} :
    (afterLoop (some (rc, ok))).evaluate (handler run respond) state =
      (some (if rc ≠ SQLITE_DONE ∧ rc ≠ SQLITE_ROW then
          ⟨false, some (.message ("step query failed: " ++ run.errmsg))⟩
        else ⟨ok, none⟩), state) := by
  rw [afterLoop]
  by_cases hfailed : rc ≠ SQLITE_DONE ∧ rc ≠ SQLITE_ROW
  · rw [if_pos hfailed, if_pos hfailed]
    rfl
  · rw [if_neg hfailed, if_neg hfailed]
    rfl

end Loop

/-! ## Binding -/

section Binding

variable {σ Row : Type}

/-- The arguments are there, and SQLite takes each of them. -/
def Binds (run : StatementRun) (argc : ℤ) (values : ArgumentArray (Option Bytes)) : Prop :=
  0 ≤ argc ∧ (0 < argc → values ≠ none) ∧
    ∀ index : ℕ, (index : ℤ) < argc → run.bindRc index = SQLITE_OK

theorem bindFrom_evaluate (run : StatementRun) (respond : Callback σ Row)
    (state : QueryState σ Row) (values : ℕ → Option Bytes) (left i : ℕ) :
    (bindFrom values left i).evaluate (handler run respond) state =
      (if (List.range' i left).all fun index => run.bindRc index = SQLITE_OK then none
        else some (.message ("bind failed: " ++ run.errmsg)), state) := by
  induction left generalizing i with
  | zero => rfl
  | succ left ih =>
      have hbind : (bindTextArg (i + 1) (values i) : QueryProgram Row ResultCode).evaluate
          (handler run respond) state = (run.bindRc i, state) := by
        cases values i with
        | none => rfl
        | some text => rfl
      rw [bindFrom, evaluate_bind, hbind, List.range'_succ, List.all_cons]
      by_cases hbound : run.bindRc i = SQLITE_OK
      · have hnot : ¬ run.bindRc i ≠ SQLITE_OK := fun hne => hne hbound
        dsimp only
        rw [decide_eq_true hbound, Bool.true_and, if_neg hnot, ih]
      · dsimp only
        rw [decide_eq_false hbound, Bool.false_and, if_pos hbound]
        rfl

theorem validArgumentArrays_text_iff {argc : ℤ} {values : ArgumentArray (Option Bytes)} :
    validArgumentArrays argc values none none = none ↔
      0 ≤ argc ∧ (0 < argc → values ≠ none) := by
  unfold validArgumentArrays
  by_cases hnegative : argc < 0
  · simp [hnegative]
  · cases values with
    | none => simp [hnegative]; omega
    | some values => simp [hnegative]; omega

theorem bindTextArgs_evaluate (run : StatementRun) (respond : Callback σ Row)
    (state : QueryState σ Row) (argc : ℤ) (values : ArgumentArray (Option Bytes)) :
    ∃ failure, (bindTextArgs argc values).evaluate (handler run respond) state =
        (failure, state) ∧ (failure = none ↔ Binds run argc values) := by
  unfold bindTextArgs
  cases hvalid : validArgumentArrays argc values none none with
  | some error =>
      refine ⟨some error, rfl, ?_⟩
      constructor
      · intro hnone
        cases hnone
      · rintro ⟨hnonneg, hvalues, _⟩
        rw [validArgumentArrays_text_iff.mpr ⟨hnonneg, hvalues⟩] at hvalid
        cases hvalid
  | none =>
      obtain ⟨hnonneg, hvalues⟩ := validArgumentArrays_text_iff.mp hvalid
      refine ⟨_, bindFrom_evaluate run respond state _ argc.toNat 0, ?_⟩
      have hall : (∀ index < argc.toNat, run.bindRc index = SQLITE_OK) ↔ Binds run argc values := by
        constructor
        · intro hbinds
          exact ⟨hnonneg, hvalues, fun index hbelow => hbinds index (by omega)⟩
        · rintro ⟨_, _, hbinds⟩ index hbelow
          exact hbinds index (by omega)
      rw [← hall]
      simp

theorem unbound_evaluate (run : StatementRun) (respond : Callback σ Row)
    (state : QueryState σ Row) :
    ∃ failure, (.done none : QueryProgram Row (Option ErrorText)).evaluate (handler run respond)
      state = (failure, state) ∧ (failure = none ↔ True) :=
  ⟨none, rfl, iff_of_true rfl trivial⟩

theorem bindTextArgs_zero (values : ArgumentArray (Option Bytes)) :
    (bindTextArgs 0 values : QueryProgram Row (Option ErrorText)) = .done none := by
  rw [bindTextArgs, validArgumentArrays_text_iff.mpr ⟨le_rfl, fun hpos => absurd hpos (by simp)⟩]
  rfl

end Binding


/-- What one function makes of one statement and one callback. -/
structure QueryContract {σ Row : Type} (run : StatementRun) (respond : Callback σ Row)
    (start : σ) (rows : List Row) (bound : Prop) (answer : Answer Bool)
    (final : QueryState σ Row) : Prop where
  called : run.prepareRc = SQLITE_OK → bound → CalledOn respond start rows final.called
  notCalled : run.prepareRc ≠ SQLITE_OK ∨ ¬ bound → final.called = []
  captured : final.captured = stateAfter respond start final.called
  true_iff : answer.value = true ↔ run.prepareRc = SQLITE_OK ∧ bound ∧
    AllAccepted respond start rows ∧ run.finalRc = SQLITE_DONE
  error_iff : answer.error ≠ none ↔ run.prepareRc ≠ SQLITE_OK ∨ ¬ bound ∨
    AllAccepted respond start rows ∧ run.finalRc ≠ SQLITE_DONE

section Contract

variable {σ Row : Type} {run : StatementRun} {respond : Callback σ Row} {start : σ}
  {readRow : QueryProgram Row Row} {rowOf : List Value → Row} {rounds : ℕ} {bound : Prop}

/-- A function that stops before the loop. -/
theorem QueryContract.failed {rows : List Row} {error : ErrorText}
    (hfailed : run.prepareRc ≠ SQLITE_OK ∨ ¬ bound) :
    QueryContract run respond start rows bound ⟨false, some error⟩ (initialState run start) := by
  constructor
  · intro hprepared hbound
    rcases hfailed with hprepare | hbind
    · exact absurd hprepared hprepare
    · exact absurd hbound hbind
  · intro _
    rfl
  · rfl
  · constructor
    · intro hfalse
      cases hfalse
    · rintro ⟨hprepared, hbound, _⟩
      rcases hfailed with hprepare | hbind
      · exact absurd hprepared hprepare
      · exact absurd hbound hbind
  · constructor
    · intro _
      rcases hfailed with hprepare | hbind
      · exact .inl hprepare
      · exact .inr (.inl hbind)
    · intro _ hnone
      cases hnone

/-- A function that has gone through its loop. -/
theorem QueryContract.stepped {rows : List Row} {answer : Answer Bool}
    {final : QueryState σ Row} (hprepared : run.prepareRc = SQLITE_OK) (hbound : bound)
    (hcaptured : final.captured = (stepRows respond start rows).1)
    (hcalled : final.called = calledRows respond start rows)
    (htrue : answer.value = true ↔
      AllAccepted respond start rows ∧ run.finalRc = SQLITE_DONE)
    (herror : answer.error ≠ none ↔
      AllAccepted respond start rows ∧ run.finalRc ≠ SQLITE_DONE) :
    QueryContract run respond start rows bound answer final := by
  constructor
  · intro _ _
    rw [hcalled]
    exact calledRows_spec respond start rows
  · rintro (hprepare | hbind)
    · exact absurd hprepared hprepare
    · exact absurd hbound hbind
  · rw [hcaptured, hcalled, stepRows_state]
  · simp [hprepared, hbound, htrue]
  · simp [hprepared, hbound, herror]

/-- The loop and what follows it, once the statement is prepared and bound. -/
theorem QueryContract.of_loop (hprepared : run.prepareRc = SQLITE_OK) (hbound : bound)
    (hread : ∀ state, readRow.evaluate (handler run respond) state = (rowOf state.current, state))
    (hrounds : run.rows.length < rounds) :
    ∃ answer final, (rowLoop readRow rounds >>= afterLoop).evaluate (handler run respond)
        (initialState run start) = (some answer, final) ∧
      QueryContract run respond start (run.rows.map rowOf) bound answer final := by
  obtain ⟨final, heval, hcaptured, hcalled⟩ := rowLoop_evaluate hread run.rows [] start [] hrounds
  have hfinal := run.finalRc_ne_row
  rw [evaluate_bind, initialState, heval, afterLoop_evaluate]
  refine ⟨_, final, rfl, .stepped hprepared hbound hcaptured hcalled ?_ ?_⟩
  all_goals
    rw [← stepRows_accepts_iff]
    by_cases haccepts : (stepRows respond start (run.rows.map rowOf)).2 = true
    · by_cases hdone : run.finalRc = SQLITE_DONE
      · simp [haccepts, hdone]
      · simp [haccepts, hdone, hfinal]
    · simp [haccepts]

/-! ## The functions -/

/-- The four functions bind in one of two ways and read one of two kinds of rows. -/
def statementQuery (database : Database) (sql : String)
    (bind : QueryProgram Row (Option ErrorText)) (readRow : QueryProgram Row Row) (rounds : ℕ) :
    QueryProgram Row (Option (Answer Bool)) := do
  if !database.isOpen then return some ⟨false, some notOpen⟩
  let rc ← prepare sql
  if rc ≠ SQLITE_OK then
    return some ⟨false, some (.message ("prepare query failed: " ++ (← errmsg)))⟩
  match ← bind with
  | some error => return some ⟨false, some error⟩
  | none => rowLoop readRow rounds >>= afterLoop

theorem statementQuery_contract {database : Database} (hopen : database.isOpen = true)
    (sql : String) {bind : QueryProgram Row (Option ErrorText)}
    (hbind : ∃ failure, bind.evaluate (handler run respond) (initialState run start) =
      (failure, initialState run start) ∧ (failure = none ↔ bound))
    (hread : ∀ state, readRow.evaluate (handler run respond) state = (rowOf state.current, state))
    (hrounds : run.rows.length < rounds) :
    ∃ answer final, (statementQuery database sql bind readRow rounds).evaluate
        (handler run respond) (initialState run start) = (some answer, final) ∧
      QueryContract run respond start (run.rows.map rowOf) bound answer final := by
  have hprepare : (prepare sql : QueryProgram Row ResultCode).evaluate (handler run respond)
      (initialState run start) = (run.prepareRc, initialState run start) := rfl
  have hnot : ¬ (!database.isOpen) = true := by simp [hopen]
  rw [statementQuery, if_neg hnot, evaluate_bind, hprepare]
  by_cases hprepared : run.prepareRc = SQLITE_OK
  · obtain ⟨failure, heval, hfailure⟩ := hbind
    have hok : ¬ run.prepareRc ≠ SQLITE_OK := fun hne => hne hprepared
    dsimp only
    rw [if_neg hok, evaluate_bind, heval]
    cases failure with
    | some error =>
        have hunbound : ¬ bound := fun hbound => by simpa using hfailure.mpr hbound
        exact ⟨_, _, rfl, .failed (.inr hunbound)⟩
    | none => exact QueryContract.of_loop hprepared (hfailure.mp rfl) hread hrounds
  · dsimp only
    rw [if_pos hprepared]
    exact ⟨_, _, rfl, .failed (.inl hprepared)⟩

end Contract

theorem query_eq (database : Database) (sql : String) (rounds : ℕ) :
    query database sql rounds =
      statementQuery database sql (.done none) readTextRow rounds := rfl

theorem queryWithArgs_eq (database : Database) (sql : String) (argc : ℤ)
    (values : ArgumentArray (Option Bytes)) (rounds : ℕ) :
    queryWithArgs database sql argc values rounds =
      statementQuery database sql (bindTextArgs argc values) readTextRow rounds := rfl

theorem queryBlob_eq (database : Database) (sql : String) (rounds : ℕ) :
    queryBlob database sql rounds =
      statementQuery database sql (.done none) readBlobRow rounds := rfl

theorem queryBlobWithArgs_eq (database : Database) (sql : String) (argc : ℤ)
    (values : ArgumentArray (Option Bytes)) (rounds : ℕ) :
    queryBlobWithArgs database sql argc values rounds =
      statementQuery database sql (bindTextArgs argc values) readBlobRow rounds := rfl

/-- The four functions keep one contract, and no arguments are the same as none. -/
theorem query_functions_agree {database : Database} (hopen : database.isOpen = true)
    (sql : String) (argc : ℤ) (values : ArgumentArray (Option Bytes)) (run : StatementRun)
    {rounds : ℕ} (hrounds : run.rows.length < rounds) :
    (∀ {σ : Type} (respond : Callback σ TextRow) (start : σ),
      (∃ answer final, (query database sql rounds).evaluate (handler run respond)
          (initialState run start) = (some answer, final) ∧
        QueryContract run respond start (run.rows.map (textRowOf run.columns)) True
          answer final) ∧
      ∃ answer final, (queryWithArgs database sql argc values rounds).evaluate
          (handler run respond) (initialState run start) = (some answer, final) ∧
        QueryContract run respond start (run.rows.map (textRowOf run.columns))
          (Binds run argc values) answer final) ∧
    (∀ {σ : Type} (respond : Callback σ (List Column)) (start : σ),
      (∃ answer final, (queryBlob database sql rounds).evaluate (handler run respond)
          (initialState run start) = (some answer, final) ∧
        QueryContract run respond start (run.rows.map (blobRowOf run.columns)) True
          answer final) ∧
      ∃ answer final, (queryBlobWithArgs database sql argc values rounds).evaluate
          (handler run respond) (initialState run start) = (some answer, final) ∧
        QueryContract run respond start (run.rows.map (blobRowOf run.columns))
          (Binds run argc values) answer final) ∧
    queryWithArgs database sql 0 values rounds = query database sql rounds ∧
    queryBlobWithArgs database sql 0 values rounds = queryBlob database sql rounds := by
  refine ⟨?_, ?_, ?_, ?_⟩
  · intro σ respond start
    exact ⟨statementQuery_contract hopen sql (unbound_evaluate run respond _)
        (fun _ => readTextRow_evaluate) hrounds,
      statementQuery_contract hopen sql (bindTextArgs_evaluate run respond _ argc values)
        (fun _ => readTextRow_evaluate) hrounds⟩
  · intro σ respond start
    exact ⟨statementQuery_contract hopen sql (unbound_evaluate run respond _)
        (fun _ => readBlobRow_evaluate) hrounds,
      statementQuery_contract hopen sql (bindTextArgs_evaluate run respond _ argc values)
        (fun _ => readBlobRow_evaluate) hrounds⟩
  · rw [queryWithArgs_eq, bindTextArgs_zero, query_eq]
  · rw [queryBlobWithArgs_eq, bindTextArgs_zero, queryBlob_eq]

theorem closed_queries {database : Database} (hclosed : database.isOpen = false) (sql : String)
    (argc : ℤ) (values : ArgumentArray (Option Bytes)) (rounds : ℕ) :
    query database sql rounds = .done (some ⟨false, some notOpen⟩) ∧
      queryWithArgs database sql argc values rounds = .done (some ⟨false, some notOpen⟩) ∧
      queryBlob database sql rounds = .done (some ⟨false, some notOpen⟩) ∧
      queryBlobWithArgs database sql argc values rounds =
        .done (some ⟨false, some notOpen⟩) := by
  simp [query, queryWithArgs, queryBlob, queryBlobWithArgs, hclosed]

/-! ## The statement as a whole -/

section Outcome

variable {σ Row : Type} {run : StatementRun} {start : σ} {rounds : ℕ}

/-- Every row has a value for each name. -/
def FullRows (run : StatementRun) : Prop :=
  ∀ row ∈ run.rows, row.length = run.columns.length

theorem map_range_getD {α β : Type} (f : α → β) (default : α) (values : List α) :
    ((List.range values.length).map fun i => f (values.getD i default)) = values.map f := by
  apply List.ext_getElem
  · simp
  · intro i hleft hright
    have hi : i < values.length := by simpa using hright
    simp [hi]

theorem textRowOf_eq (hfull : FullRows run) :
    run.rows.map (textRowOf run.columns) = run.rows.map (textRow run.columns) := by
  apply List.map_congr_left
  intro row hrow
  have hnames := map_range_getD (fun name : String => name) "" run.columns
  have hvalues := map_range_getD Storage.columnText .null row
  rw [hfull row hrow] at hvalues
  rw [textRowOf, hvalues, hnames, List.map_id']
  rfl

theorem blobRowOf_eq (hfull : FullRows run) :
    run.rows.map (blobRowOf run.columns) = run.rows.map (blobRow run.columns) := by
  apply List.map_congr_left
  intro row hrow
  apply List.ext_getElem
  · simp [blobRowOf, blobRow, hfull row hrow]
  · intro i hleft hright
    have hi : i < row.length := by simpa [blobRow] using hright
    simp [blobRowOf, blobRow, hi]

/-- Call by call, a function comes to what the model of whole statements says. -/
theorem statementQuery_outcome {respond : Callback σ Row} {database : Database}
    (hopen : database.isOpen = true) (sql : String)
    {bind : QueryProgram Row (Option ErrorText)} {readRow : QueryProgram Row Row}
    {rowOf : List Value → Row} {row : List String → List Value → Row} {arguments : List Value}
    (hbind : bind.evaluate (handler run respond) (initialState run start) =
      (bindFailure run arguments, initialState run start))
    (hread : ∀ state, readRow.evaluate (handler run respond) state = (rowOf state.current, state))
    (hrows : run.rows.map rowOf = run.rows.map (row run.columns))
    (hrounds : run.rows.length < rounds) :
    ∃ final, (statementQuery database sql bind readRow rounds).evaluate (handler run respond)
        (initialState run start) =
        (some ⟨(queryOutcome row respond start arguments run).ok,
          (queryOutcome row respond start arguments run).error⟩, final) ∧
      final.captured = (queryOutcome row respond start arguments run).state := by
  have hprepare : (prepare sql : QueryProgram Row ResultCode).evaluate (handler run respond)
      (initialState run start) = (run.prepareRc, initialState run start) := rfl
  have hnot : ¬ (!database.isOpen) = true := by simp [hopen]
  rw [statementQuery, if_neg hnot, evaluate_bind, hprepare, queryOutcome]
  by_cases hprepared : run.prepareRc = SQLITE_OK
  · have hok : ¬ run.prepareRc ≠ SQLITE_OK := fun hne => hne hprepared
    dsimp only
    rw [if_neg hok, if_neg hok, evaluate_bind, hbind]
    cases bindFailure run arguments with
    | some error => exact ⟨_, rfl, rfl⟩
    | none =>
        obtain ⟨final, heval, hcaptured, _⟩ :=
          rowLoop_evaluate hread run.rows [] start [] hrounds
        dsimp only
        rw [evaluate_bind, initialState, heval, afterLoop_evaluate]
        rw [hrows] at hcaptured ⊢
        generalize stepRows respond start (run.rows.map (row run.columns)) = steps at hcaptured ⊢
        obtain ⟨captured, ok⟩ := steps
        dsimp only at hcaptured ⊢
        by_cases hfailed : (if ok then run.finalRc else SQLITE_ROW) ≠ SQLITE_DONE ∧
            (if ok then run.finalRc else SQLITE_ROW) ≠ SQLITE_ROW
        · rw [if_pos hfailed, if_pos hfailed]
          exact ⟨final, rfl, hcaptured⟩
        · rw [if_neg hfailed, if_neg hfailed]
          exact ⟨final, rfl, hcaptured⟩
  · dsimp only
    rw [if_pos hprepared, if_pos hprepared]
    exact ⟨_, rfl, rfl⟩

theorem bindTextArgs_list (respond : Callback σ Row) (state : QueryState σ Row)
    (values : List (Option Bytes)) :
    (bindTextArgs values.length (some fun i => values.getD i none)).evaluate
        (handler run respond) state = (bindFailure run (values.map boundText), state) := by
  have hvalid : validArgumentArrays (values.length : ℤ) (some fun i => values.getD i none) none
      none = none := validArgumentArrays_text_iff.mpr ⟨by omega, by simp⟩
  rw [bindTextArgs, hvalid]
  dsimp only
  rw [bindFrom_evaluate, bindFailure, List.length_map, Int.toNat_natCast, List.range_eq_range']

theorem queryWithArgs_outcome {database : Database} (hopen : database.isOpen = true)
    (sql : String) (hfull : FullRows run) (respond : Callback σ TextRow)
    (values : List (Option Bytes)) (hrounds : run.rows.length < rounds) :
    ∃ final, (queryWithArgs database sql values.length (some fun i => values.getD i none)
        rounds).evaluate (handler run respond) (initialState run start) =
        (some ⟨(queryOutcome textRow respond start (values.map boundText) run).ok,
          (queryOutcome textRow respond start (values.map boundText) run).error⟩, final) ∧
      final.captured = (queryOutcome textRow respond start (values.map boundText) run).state :=
  statementQuery_outcome hopen sql (bindTextArgs_list respond _ values)
    (fun _ => readTextRow_evaluate) (textRowOf_eq hfull) hrounds

theorem queryBlobWithArgs_outcome {database : Database} (hopen : database.isOpen = true)
    (sql : String) (hfull : FullRows run) (respond : Callback σ (List Column))
    (values : List (Option Bytes)) (hrounds : run.rows.length < rounds) :
    ∃ final, (queryBlobWithArgs database sql values.length (some fun i => values.getD i none)
        rounds).evaluate (handler run respond) (initialState run start) =
        (some ⟨(queryOutcome blobRow respond start (values.map boundText) run).ok,
          (queryOutcome blobRow respond start (values.map boundText) run).error⟩, final) ∧
      final.captured = (queryOutcome blobRow respond start (values.map boundText) run).state :=
  statementQuery_outcome hopen sql (bindTextArgs_list respond _ values)
    (fun _ => readBlobRow_evaluate) (blobRowOf_eq hfull) hrounds

end Outcome

theorem sqliteDone_ne_sqliteRow : SQLITE_DONE ≠ SQLITE_ROW := by decide

/-- Three rows of one column. -/
def threeRows : StatementRun where
  prepareRc := SQLITE_OK
  bindRc _ := SQLITE_OK
  columns := ["value"]
  rows := [[.integer 1], [.integer 2], [.integer 3]]
  finalRc := SQLITE_DONE
  finalRc_ne_row := sqliteDone_ne_sqliteRow
  errmsg := ""

/-- Rejects the second row it is called on. -/
def rejectSecond (Row : Type) : Callback ℕ Row := fun count _ => (count + 1, count = 0)

theorem threeRows_stop_at_second :
    ∃ answer final, (query ⟨true⟩ "SELECT value FROM numbers" 4).evaluate
        (handler threeRows (rejectSecond TextRow)) (initialState threeRows 0) =
        (some answer, final) ∧
      QueryContract threeRows (rejectSecond TextRow) 0
        (threeRows.rows.map (textRowOf threeRows.columns)) True answer final :=
  ((query_functions_agree rfl "SELECT value FROM numbers" 0 none threeRows (by decide)).1
    (rejectSecond TextRow) 0).1

end ElapPlatform.Storage.Calls
