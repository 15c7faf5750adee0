import ElapPlatform.UnixSocketServer
import ElapPlatform.UnixSocketStreamCalls

/-!
# Waiting for a client

`tryAccept` hands its timeout to `::poll` as an `int` and starts the whole wait again
after every signal, unlike `waitForDescriptor`.
-/

namespace ElapPlatform.Ipc

open Interaction Interaction.Program

/-- `UnixSocketConnection::close` -/
def UnixSocketConnection.close (connection : UnixSocketConnection) :
    StreamProgram UnixSocketConnection := do
  if connection.fd ≥ 0 then
    let _ ← Program.ask (StreamCall.close connection.fd) .done
    return ⟨-1⟩
  else return connection

/-- A returned connection, and the error text if one was set. -/
structure AcceptResult where
  connection : UnixSocketConnection
  error : Option ErrorText
  deriving DecidableEq, Repr

/-- What `tryAccept` returns, with its two output parameters. -/
structure TryAcceptResult where
  accepted : Bool
  connection : UnixSocketConnection
  error : Option ErrorText
  deriving DecidableEq, Repr

namespace UnixSocketServer

/-- The loop of `accept`; `none` is a call that has not returned after its passes. -/
def acceptClient : ℕ → StreamProgram (Option AcceptResult)
  | 0 => return none
  | passes + 1 => do
      match ← Program.ask StreamCall.accept .done with
      | .ok clientFd => return some ⟨⟨clientFd⟩, none⟩
      | .error errno =>
          if errno = EINTR then acceptClient passes
          else return some ⟨{}, some (systemError "accept" errno)⟩

def accept (server : UnixSocketServer) (passes : ℕ) : StreamProgram (Option AcceptResult) :=
  if !server.isListening then
    return some ⟨{}, some (.message "accept failed: server is not listening")⟩
  else acceptClient passes

/-- `static_cast<int>(timeout.count())` -/
def narrowedTimeout (timeout : ℤ) : ℤ := timeout.bmod (2 ^ 32)

/-- The loop of `tryAccept`. -/
def waitForClient (server : UnixSocketServer) (connection : UnixSocketConnection) (timeout : ℤ) :
    ℕ → StreamProgram (Option TryAcceptResult)
  | 0 => return none
  | passes + 1 => do
      match ← Calls.poll .pollin (narrowedTimeout timeout) with
      | .events _ =>
          match ← server.accept passes with
          | none => return none
          | some ⟨accepted, error⟩ => return some ⟨accepted.isOpen, accepted, error⟩
      | .expired => return some ⟨false, connection, none⟩
      | .failed errno =>
          if errno = EINTR then waitForClient server connection timeout passes
          else return some ⟨false, connection, some (systemError "poll" errno)⟩

def tryAccept (server : UnixSocketServer) (connection : UnixSocketConnection) (timeout : ℤ)
    (passes : ℕ) : StreamProgram (Option TryAcceptResult) := do
  let connection ← connection.close
  if !server.isListening then
    return some ⟨false, connection, some (.message "accept failed: server is not listening")⟩
  else waitForClient server connection timeout passes

/-- One wait, and what its answer leads to. -/
theorem waitForClient_succ (server : UnixSocketServer) (connection : UnixSocketConnection)
    (timeout : ℤ) (passes : ℕ) :
    server.waitForClient connection timeout (passes + 1) =
      .ask (StreamCall.poll .pollin (narrowedTimeout timeout)) fun answer =>
        match answer with
        | .events _ => server.accept passes >>= fun accepted =>
            .done (accepted.map fun result =>
              ⟨result.connection.isOpen, result.connection, result.error⟩)
        | .expired => .done (some ⟨false, connection, none⟩)
        | .failed errno =>
            if errno = EINTR then server.waitForClient connection timeout passes
            else .done (some ⟨false, connection, some (systemError "poll" errno)⟩) := by
  simp only [waitForClient, Calls.poll, ask_bind, done_bind]
  congr 1
  funext answer
  cases answer with
  | events revents =>
      dsimp only
      congr 1
      funext accepted
      cases accepted <;> rfl
  | expired => rfl
  | failed errno => rfl

end UnixSocketServer

/-! ## Waits without a client -/

/-- The time since the call began, in nanoseconds, and how long each wait will last
that a signal is still going to interrupt. -/
structure QuietWait where
  elapsed : ℤ
  pauses : List ℤ

/-- A signal can come as long as a wait with this timeout lasts; a wait with a negative
one does not end by itself. -/
def CanInterrupt (timeout pause : ℤ) : Prop :=
  0 ≤ pause ∧ (0 ≤ timeout → pause ≤ timeout * 1000000)

def quietAnswers (before : QuietWait) (call : StreamCall) (reply : call.Reply)
    (after : QuietWait) : Prop :=
  match call, reply with
  | .poll _ timeout, answer =>
      match before.pauses with
      | pause :: pauses =>
          CanInterrupt timeout pause ∧ answer = .failed EINTR ∧
            after = ⟨before.elapsed + pause, pauses⟩
      | [] =>
          0 ≤ timeout ∧ answer = .expired ∧ after = ⟨before.elapsed + timeout * 1000000, []⟩
  | .close _, _ => after = before
  | _, _ => False

/-- The report that no client came. -/
def TryAcceptResult.NoConnection (result : TryAcceptResult) : Prop :=
  result.accepted = false ∧ result.connection.isOpen = false ∧ result.error = none

/-- `tryAccept` returns, and reports that no client came after the time it was given,
up to a millisecond. -/
structure WaitsAsAsked (server : UnixSocketServer) (connection : UnixSocketConnection)
    (timeout : ℤ) (pauses : List ℤ) : Prop where
  returns : ∃ passes result final,
    Runs quietAnswers (server.tryAccept connection timeout passes) ⟨0, pauses⟩ (some result) final
  reports : ∀ passes result final,
    Runs quietAnswers (server.tryAccept connection timeout passes) ⟨0, pauses⟩
        (some result) final →
      result.NoConnection ∧ (min timeout intMax - 1) * 1000000 ≤ final.elapsed ∧
        final.elapsed ≤ (timeout + 1) * 1000000

namespace UnixSocketServer

section Quiet

variable {server : UnixSocketServer} {connection : UnixSocketConnection} {timeout : ℤ}

theorem waitForClient_quiet {passes : ℕ} {pauses : List ℤ} {elapsed : ℤ}
    {result : TryAcceptResult} {final : QuietWait}
    (hrun : Runs quietAnswers (server.waitForClient connection timeout passes)
      ⟨elapsed, pauses⟩ (some result) final) :
    0 ≤ narrowedTimeout timeout ∧ result = ⟨false, connection, none⟩ ∧
      final.elapsed = elapsed + pauses.sum + narrowedTimeout timeout * 1000000 := by
  induction passes generalizing elapsed pauses with
  | zero => cases (runs_done_iff.mp hrun).1
  | succ passes ih =>
      simp only [waitForClient, Calls.poll, Program.ask_bind, Program.done_bind] at hrun
      obtain ⟨answer, middle, hanswer, hrest⟩ := runs_ask_iff.mp hrun
      cases pauses with
      | nil =>
          obtain ⟨hpositive, rfl, rfl⟩ := hanswer
          obtain ⟨hresult, rfl⟩ := runs_done_iff.mp hrest
          cases hresult
          exact ⟨hpositive, rfl, by simp⟩
      | cons pause pauses =>
          obtain ⟨_, rfl, rfl⟩ := hanswer
          obtain ⟨hpositive, hresult, hfinal⟩ := ih hrest
          refine ⟨hpositive, hresult, ?_⟩
          rw [hfinal, List.sum_cons]
          ring

theorem waitForClient_returns (hpositive : 0 ≤ narrowedTimeout timeout) (pauses : List ℤ)
    (hpauses : ∀ pause ∈ pauses, CanInterrupt (narrowedTimeout timeout) pause) (elapsed : ℤ) :
    ∃ final, Runs quietAnswers (server.waitForClient connection timeout (pauses.length + 1))
      ⟨elapsed, pauses⟩ (some ⟨false, connection, none⟩) final := by
  induction pauses generalizing elapsed with
  | nil =>
      refine ⟨⟨elapsed + narrowedTimeout timeout * 1000000, []⟩, ?_⟩
      refine .answered PollAnswer.expired ⟨hpositive, rfl, rfl⟩ ?_
      exact .done _ _
  | cons pause pauses ih =>
      obtain ⟨final, hrest⟩ :=
        ih (fun other hmem => hpauses other (List.mem_cons_of_mem pause hmem)) (elapsed + pause)
      refine ⟨final, .answered (PollAnswer.failed EINTR) ?_ hrest⟩
      exact ⟨hpauses pause List.mem_cons_self, rfl, rfl⟩

theorem narrowedTimeout_eq (htimeout : 0 ≤ timeout) (hsmall : timeout ≤ intMax) :
    narrowedTimeout timeout = timeout := by
  unfold intMax at hsmall
  unfold narrowedTimeout Int.bmod
  norm_num
  split <;> omega

theorem close_quiet {before after : QuietWait} {closed : UnixSocketConnection}
    (hrun : Runs quietAnswers connection.close before closed after) :
    after = before ∧ closed.isOpen = false := by
  unfold UnixSocketConnection.close at hrun
  split_ifs at hrun with hopen
  · obtain ⟨reply, middle, hclosed, hdone⟩ := runs_ask_iff.mp hrun
    obtain ⟨rfl, rfl⟩ := runs_done_iff.mp hdone
    exact ⟨hclosed, rfl⟩
  · obtain ⟨rfl, rfl⟩ := runs_done_iff.mp hrun
    exact ⟨rfl, decide_eq_false hopen⟩

theorem close_returns (connection : UnixSocketConnection) (before : QuietWait) :
    ∃ closed, Runs quietAnswers connection.close before closed before := by
  unfold UnixSocketConnection.close
  split_ifs with hopen
  · refine ⟨⟨-1⟩, .answered () rfl ?_⟩
    exact .done _ _
  · exact ⟨connection, .done _ _⟩

theorem tryAccept_quiet {passes : ℕ} {pauses : List ℤ} {result : TryAcceptResult}
    {final : QuietWait} (hlistening : server.isListening)
    (hrun : Runs quietAnswers (server.tryAccept connection timeout passes) ⟨0, pauses⟩
      (some result) final) :
    0 ≤ narrowedTimeout timeout ∧ result.NoConnection ∧
      final.elapsed = pauses.sum + narrowedTimeout timeout * 1000000 := by
  unfold tryAccept at hrun
  obtain ⟨closed, middle, hclose, hwait⟩ := runs_bind_iff.mp hrun
  obtain ⟨rfl, hclosed⟩ := close_quiet hclose
  simp only [hlistening, Bool.not_true, Bool.false_eq_true, if_false] at hwait
  obtain ⟨hpositive, rfl, hfinal⟩ := waitForClient_quiet hwait
  rw [zero_add] at hfinal
  exact ⟨hpositive, ⟨rfl, hclosed, rfl⟩, hfinal⟩

theorem tryAccept_returns {pauses : List ℤ} (hlistening : server.isListening)
    (hpositive : 0 ≤ narrowedTimeout timeout)
    (hpauses : ∀ pause ∈ pauses, CanInterrupt (narrowedTimeout timeout) pause) :
    ∃ passes result final,
      Runs quietAnswers (server.tryAccept connection timeout passes) ⟨0, pauses⟩
        (some result) final := by
  obtain ⟨closed, hclose⟩ := close_returns connection ⟨0, pauses⟩
  obtain ⟨final, hwait⟩ :=
    @waitForClient_returns server closed timeout hpositive pauses hpauses 0
  refine ⟨pauses.length + 1, ⟨false, closed, none⟩, final, ?_⟩
  unfold tryAccept
  refine runs_bind_iff.mpr ⟨closed, _, hclose, ?_⟩
  simp only [hlistening, Bool.not_true, Bool.false_eq_true, if_false]
  exact hwait

theorem waits_as_asked_iff {pauses : List ℤ} (hlistening : server.isListening)
    (htimeout : 0 ≤ timeout)
    (hpauses : ∀ pause ∈ pauses, CanInterrupt (narrowedTimeout timeout) pause) :
    WaitsAsAsked server connection timeout pauses ↔
      (timeout ≤ intMax ∧ pauses.sum ≤ 1000000) ∨
        (intMax < timeout ∧ 0 ≤ narrowedTimeout timeout ∧
          (intMax - 1 - narrowedTimeout timeout) * 1000000 ≤ pauses.sum ∧
          pauses.sum ≤ (timeout + 1 - narrowedTimeout timeout) * 1000000) := by
  have hsum : 0 ≤ pauses.sum := List.sum_nonneg fun pause hmem => (hpauses pause hmem).1
  constructor
  · rintro ⟨⟨passes, result, final, hrun⟩, hreports⟩
    obtain ⟨hpositive, _, hfinal⟩ := tryAccept_quiet hlistening hrun
    obtain ⟨_, hlower, hupper⟩ := hreports passes result final hrun
    rw [hfinal] at hlower hupper
    rcases le_or_gt timeout intMax with hsmall | hlarge
    · rw [narrowedTimeout_eq htimeout hsmall] at hupper
      exact .inl ⟨hsmall, by omega⟩
    · rw [min_eq_right hlarge.le] at hlower
      exact .inr ⟨hlarge, hpositive, by omega, by omega⟩
  · intro hcondition
    have hbounds : 0 ≤ narrowedTimeout timeout ∧
        (min timeout intMax - 1) * 1000000 ≤
          pauses.sum + narrowedTimeout timeout * 1000000 ∧
        pauses.sum + narrowedTimeout timeout * 1000000 ≤ (timeout + 1) * 1000000 := by
      rcases hcondition with ⟨hsmall, hshort⟩ | ⟨hlarge, hpositive, hlower, hupper⟩
      · rw [narrowedTimeout_eq htimeout hsmall, min_eq_left hsmall]
        omega
      · rw [min_eq_right hlarge.le]
        omega
    obtain ⟨hpositive, hlower, hupper⟩ := hbounds
    refine ⟨tryAccept_returns hlistening hpositive hpauses, ?_⟩
    intro passes result final hrun
    obtain ⟨_, hresult, hfinal⟩ := tryAccept_quiet hlistening hrun
    rw [hfinal]
    exact ⟨hresult, hlower, hupper⟩

end Quiet

/-- A server that listens on `/s`. -/
def listening : UnixSocketServer := ⟨some 3, [47, 115], ⟨1, 7⟩, true⟩

theorem undisturbed_second_waits :
    WaitsAsAsked listening ⟨-1⟩ 1000 [] :=
  (waits_as_asked_iff (by decide) (by decide) (by simp)).mpr (.inl ⟨by decide, by decide⟩)

/-- A signal after 900 of 1000 milliseconds starts the whole wait again. -/
theorem interrupted_second_waits_longer :
    ¬ ∀ (server : UnixSocketServer) (connection : UnixSocketConnection) (timeout : ℤ)
        (pauses : List ℤ), server.isListening → 0 ≤ timeout → timeout < 2 ^ 63 →
      (∀ pause ∈ pauses, CanInterrupt (narrowedTimeout timeout) pause) →
        WaitsAsAsked server connection timeout pauses := by
  intro hwaits
  have hpause : CanInterrupt (narrowedTimeout 1000) 900000000 := by
    unfold CanInterrupt
    decide
  have hsecond := hwaits listening ⟨-1⟩ 1000 [900000000] (by decide) (by decide) (by decide)
    (by simpa using hpause)
  obtain ⟨passes, result, final, hrun⟩ := hsecond.returns
  obtain ⟨_, _, hupper⟩ := hsecond.reports passes result final hrun
  obtain ⟨_, _, hfinal⟩ := tryAccept_quiet (by decide) hrun
  rw [hfinal] at hupper
  exact absurd hupper (by decide)

end UnixSocketServer

end ElapPlatform.Ipc
