import ElapPlatform.SqliteEngine

/-!
# An engine with one journal

The smallest library with the documented behaviour: one committed table and at
most one open transaction, whose own table replaces the committed one.  Any
statement may fail, and a failure inside the transaction may discard it.
-/

namespace ElapPlatform.Storage

structure Journal (Connection : Type) where
  committed : Table
  writer : Option (Connection × Table)

namespace Journal

variable {Connection : Type}

def inTransaction (journal : Journal Connection) (connection : Connection) : Prop :=
  journal.writer.map Prod.fst = some connection

theorem inTransaction_mk {committed table : Table} {writer connection : Connection} :
    (Journal.mk committed (some (writer, table))).inTransaction connection ↔
      writer = connection := by
  simp [inTransaction]

theorem not_inTransaction_mk {committed : Table} {connection : Connection} :
    ¬ (Journal.mk committed none).inTransaction connection := by
  simp [inTransaction]

variable [DecidableEq Connection]

def view (journal : Journal Connection) (connection : Connection) : Table :=
  match journal.writer with
  | some (writer, table) => if writer = connection then table else journal.committed
  | none => journal.committed

inductive Step : Journal Connection → Connection →
    (request : Request) → request.Reply → Journal Connection → Prop
  | refused {journal : Journal Connection} {connection : Connection} {request : Request}
      {reply : request.Reply} (hfailed : ¬ request.Succeeded reply)
      (hrows : request.Returns reply [])
      (hrollback : request = .exec .rollback → journal.writer.map Prod.fst ≠ some connection) :
      Step journal connection request reply journal
  | discarded {connection : Connection} {request : Request} {reply : request.Reply}
      {committed table : Table} (hfailed : ¬ request.Succeeded reply)
      (hrows : request.Returns reply []) :
      Step ⟨committed, some (connection, table)⟩ connection request reply ⟨committed, none⟩
  | began {connection : Connection} {reply : ExecReply} {committed : Table}
      (hsucceeded : (Request.exec .beginImmediate).Succeeded reply) :
      Step ⟨committed, none⟩ connection (.exec .beginImmediate) reply
        ⟨committed, some (connection, committed)⟩
  | wroteOutside {connection : Connection} {request : Request} {reply : request.Reply}
      {committed : Table} {change : Table → Table} (hsucceeded : request.Succeeded reply)
      (hchange : request.change = some change) (hrows : request.Returns reply []) :
      Step ⟨committed, none⟩ connection request reply ⟨change committed, none⟩
  | wroteInside {connection : Connection} {request : Request} {reply : request.Reply}
      {committed table : Table} {change : Table → Table} (hsucceeded : request.Succeeded reply)
      (hchange : request.change = some change) (hrows : request.Returns reply []) :
      Step ⟨committed, some (connection, table)⟩ connection request reply
        ⟨committed, some (connection, change table)⟩
  | selected {journal : Journal Connection} {connection : Connection} {request : Request}
      {reply : request.Reply} {selection : Table → List (List Value)}
      (hselection : request.selection = some selection)
      (hrows : request.Returns reply (selection (journal.view connection))) :
      Step journal connection request reply journal
  | committed {connection : Connection} {reply : ExecReply} {committed table : Table}
      (hsucceeded : (Request.exec .commit).Succeeded reply) :
      Step ⟨committed, some (connection, table)⟩ connection (.exec .commit) reply
        ⟨table, none⟩
  | rolledBack {connection : Connection} {reply : ExecReply} {committed table : Table} :
      Step ⟨committed, some (connection, table)⟩ connection (.exec .rollback) reply
        ⟨committed, none⟩

end Journal

def journalEngine (Connection : Type) [DecidableEq Connection] : Engine Connection where
  State := Journal Connection
  committed := Journal.committed
  view := Journal.view
  inTransaction := Journal.inTransaction
  step := Journal.Step

/-- A statement that runs to its end, and one that meets a lock. -/
def completedRun (rows : List (List Value)) : StatementRun :=
  ⟨SQLITE_OK, fun _ => SQLITE_OK, [], rows, SQLITE_DONE, by decide, "not an error"⟩

def busyRun : StatementRun :=
  ⟨SQLITE_OK, fun _ => SQLITE_OK, [], [], SQLITE_BUSY, by decide, "database is locked"⟩

theorem completedRun_succeeded (sql : Sql) (arguments : List Value)
    (rows : List (List Value)) :
    (Request.statement sql arguments).Succeeded (completedRun rows) :=
  ⟨rfl, fun _ _ => rfl, rfl⟩

theorem busyRun_not_succeeded (sql : Sql) (arguments : List Value) :
    ¬ (Request.statement sql arguments).Succeeded busyRun := by
  intro hsucceeded
  exact absurd hsucceeded.2.2 (by decide)

theorem selection_eq_none_of_change {request : Request} {change : Table → Table}
    (hchange : request.change = some change) : request.selection = none := by
  unfold Request.change at hchange
  split at hchange <;> first | rfl | contradiction

section Lawful

variable {Connection : Type} [DecidableEq Connection]
  {journal next : Journal Connection} {connection : Connection}

open Journal

theorem journal_view_outside (houtside : ¬ journal.inTransaction connection) :
    journal.view connection = journal.committed := by
  obtain ⟨committed, writer⟩ := journal
  cases writer with
  | none => rfl
  | some writer =>
      rw [inTransaction_mk] at houtside
      exact if_neg houtside

theorem journal_frame {request : Request} {reply : request.Reply} {other : Connection}
    (hstep : Step journal connection request reply next) (hother : other ≠ connection) :
    (next.inTransaction other ↔ journal.inTransaction other) ∧
      (journal.inTransaction other → next.view other = journal.view other) := by
  cases hstep with
  | refused => exact ⟨Iff.rfl, fun _ => rfl⟩
  | discarded => simp [inTransaction, Ne.symm hother]
  | began => simp [inTransaction, Ne.symm hother]
  | wroteOutside => simp [inTransaction]
  | wroteInside => simp [inTransaction, Ne.symm hother]
  | selected => exact ⟨Iff.rfl, fun _ => rfl⟩
  | committed => simp [inTransaction, Ne.symm hother]
  | rolledBack => simp [inTransaction, Ne.symm hother]

theorem journal_failed {request : Request} {reply : request.Reply}
    (hstep : Step journal connection request reply next) (hfailed : ¬ request.Succeeded reply) :
    next.committed = journal.committed ∧
      (¬ next.inTransaction connection ∨
        journal.inTransaction connection ∧ next.view connection = journal.view connection) := by
  cases hstep with
  | refused =>
      by_cases hinside : journal.inTransaction connection
      · exact ⟨rfl, .inr ⟨hinside, rfl⟩⟩
      · exact ⟨rfl, .inl hinside⟩
  | discarded => exact ⟨rfl, .inl not_inTransaction_mk⟩
  | began hsucceeded => exact absurd hsucceeded hfailed
  | wroteOutside hsucceeded => exact absurd hsucceeded hfailed
  | wroteInside hsucceeded => exact absurd hsucceeded hfailed
  | selected =>
      by_cases hinside : journal.inTransaction connection
      · exact ⟨rfl, .inr ⟨hinside, rfl⟩⟩
      · exact ⟨rfl, .inl hinside⟩
  | committed hsucceeded => exact absurd hsucceeded hfailed
  | rolledBack => exact ⟨rfl, .inl not_inTransaction_mk⟩

theorem journal_write_outside {request : Request} {reply : request.Reply}
    {change : Table → Table} (hstep : Step journal connection request reply next)
    (hsucceeded : request.Succeeded reply) (hchange : request.change = some change)
    (houtside : ¬ journal.inTransaction connection) :
    (∀ other, ¬ journal.inTransaction other) ∧ ¬ next.inTransaction connection ∧
      next.committed = change journal.committed := by
  cases hstep with
  | refused hfailed => exact absurd hsucceeded hfailed
  | discarded hfailed => exact absurd hsucceeded hfailed
  | began => cases hchange
  | wroteOutside _ hchange' =>
      rw [hchange] at hchange'
      cases hchange'
      exact ⟨fun _ => not_inTransaction_mk, not_inTransaction_mk, rfl⟩
  | wroteInside => exact absurd (inTransaction_mk.mpr rfl) houtside
  | selected hselection =>
      rw [selection_eq_none_of_change hchange] at hselection
      cases hselection
  | committed => cases hchange
  | rolledBack => cases hchange

theorem journal_write_inside {request : Request} {reply : request.Reply}
    {change : Table → Table} (hstep : Step journal connection request reply next)
    (hsucceeded : request.Succeeded reply) (hchange : request.change = some change)
    (hinside : journal.inTransaction connection) :
    next.inTransaction connection ∧
      next.view connection = change (journal.view connection) ∧
      next.committed = journal.committed := by
  cases hstep with
  | refused hfailed => exact absurd hsucceeded hfailed
  | discarded hfailed => exact absurd hsucceeded hfailed
  | began => cases hchange
  | wroteOutside => exact absurd hinside not_inTransaction_mk
  | wroteInside _ hchange' =>
      rw [hchange] at hchange'
      cases hchange'
      exact ⟨inTransaction_mk.mpr rfl, by simp [view], rfl⟩
  | selected hselection =>
      rw [selection_eq_none_of_change hchange] at hselection
      cases hselection
  | committed => cases hchange
  | rolledBack => cases hchange

theorem journal_write_rows {request : Request} {reply : request.Reply}
    {change : Table → Table} (hstep : Step journal connection request reply next)
    (hchange : request.change = some change) : request.Returns reply [] := by
  cases hstep with
  | refused _ hrows => exact hrows
  | discarded _ hrows => exact hrows
  | began => cases hchange
  | wroteOutside _ _ hrows => exact hrows
  | wroteInside _ _ hrows => exact hrows
  | selected hselection =>
      rw [selection_eq_none_of_change hchange] at hselection
      cases hselection
  | committed => cases hchange
  | rolledBack => cases hchange

theorem journal_select {request : Request} {reply : request.Reply}
    {selection : Table → List (List Value)}
    (hstep : Step journal connection request reply next) (hsucceeded : request.Succeeded reply)
    (hselection : request.selection = some selection) :
    request.Returns reply (selection (journal.view connection)) ∧ next = journal := by
  cases hstep with
  | refused hfailed => exact absurd hsucceeded hfailed
  | discarded hfailed => exact absurd hsucceeded hfailed
  | began => cases hselection
  | wroteOutside _ hchange =>
      rw [selection_eq_none_of_change hchange] at hselection
      cases hselection
  | wroteInside _ hchange =>
      rw [selection_eq_none_of_change hchange] at hselection
      cases hselection
  | selected hselection' hrows =>
      rw [hselection] at hselection'
      cases hselection'
      exact ⟨hrows, rfl⟩
  | committed => cases hselection
  | rolledBack => cases hselection

theorem journalEngine_lawful : (journalEngine Connection).Lawful where
  view_outside := journal_view_outside
  frame := journal_frame
  failed := journal_failed
  begin_succeeded hstep hsucceeded := by
    cases hstep with
    | refused hfailed => exact absurd hsucceeded hfailed
    | discarded hfailed => exact absurd hsucceeded hfailed
    | began =>
        exact ⟨fun _ => not_inTransaction_mk, inTransaction_mk.mpr rfl, if_pos rfl, rfl⟩
    | wroteOutside _ hchange => cases hchange
    | wroteInside _ hchange => cases hchange
    | selected hselection => cases hselection
  write_outside := journal_write_outside
  write_inside := journal_write_inside
  write_rows := journal_write_rows
  commit_succeeded hstep hsucceeded := by
    cases hstep with
    | refused hfailed => exact absurd hsucceeded hfailed
    | discarded hfailed => exact absurd hsucceeded hfailed
    | wroteOutside _ hchange => cases hchange
    | wroteInside _ hchange => cases hchange
    | selected hselection => cases hselection
    | committed =>
        exact ⟨inTransaction_mk.mpr rfl, (if_pos rfl).symm, not_inTransaction_mk⟩
  rollback_ends hstep := by
    cases hstep with
    | refused _ _ hrollback => exact ⟨rfl, hrollback rfl⟩
    | discarded => exact ⟨rfl, not_inTransaction_mk⟩
    | wroteOutside _ hchange => cases hchange
    | wroteInside _ hchange => cases hchange
    | selected hselection => cases hselection
    | rolledBack => exact ⟨rfl, not_inTransaction_mk⟩
  select_succeeded hstep hsucceeded hselection := by
    obtain ⟨hrows, rfl⟩ := journal_select hstep hsucceeded hselection
    exact ⟨hrows, rfl, Iff.rfl, rfl⟩

end Lawful

end ElapPlatform.Storage
