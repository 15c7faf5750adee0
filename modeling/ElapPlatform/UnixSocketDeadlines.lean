import ElapPlatform.UnixSocketStreamCalls

/-!
# Deadlines on the monotonic clock

The deadline is a number of nanoseconds in 64 bits, the argument of `::poll` a number
of milliseconds in 32.  The state of a run is the reading that the clock would give.
-/

namespace ElapPlatform.Ipc

open Interaction

/-- The readings of a 64-bit clock. -/
def ClockReading (reading : ℤ) : Prop := -2 ^ 63 ≤ reading ∧ reading < 2 ^ 63

/-- Time passes in every call, and `::poll` expires no earlier than it was asked to. -/
def clockAnswers (before : ℤ) (call : StreamCall) (reply : call.Reply) (after : ℤ) : Prop :=
  before ≤ after ∧
    match call, reply with
    | .now, reading => reading = before ∧ ClockReading reading
    | .poll _ timeout, answer =>
        answer = .expired → 0 ≤ timeout ∧ before + timeout * 1000000 ≤ after
    | _, _ => True

theorem clockAnswers_le {α : Type} {program : StreamProgram α} {before after : ℤ} {result : α}
    (hrun : Runs clockAnswers program before result after) : before ≤ after := by
  induction hrun with
  | done value state => exact le_rfl
  | ask hanswer hrest ih => exact hanswer.1.trans ih

/-! ## The argument of `::poll` -/

theorem deadlineAfter_eq {start timeout : ℤ} (hstart : ClockReading start)
    (htimeout : 0 ≤ timeout) (hend : start + timeout * 1000000 < 2 ^ 63) :
    deadlineAfter start timeout = start + timeout * 1000000 := by
  have hlower := hstart.1
  unfold deadlineAfter Int.bmod
  norm_num
  split <;> omega

/-- An overflow moves the deadline to an earlier time. -/
theorem deadlineAfter_le {start timeout : ℤ} (hstart : ClockReading start)
    (htimeout : 0 ≤ timeout) :
    deadlineAfter start timeout ≤ start + timeout * 1000000 ∧
      ClockReading (deadlineAfter start timeout) := by
  have hlower := hstart.1
  unfold ClockReading deadlineAfter Int.bmod
  norm_num
  split <;> omega

theorem deadlineAfter_lt {start timeout : ℤ} (hstart : ClockReading start)
    (htimeout : 0 ≤ timeout) (hshort : timeout ≤ 2 ^ 31)
    (hend : 2 ^ 63 ≤ start + timeout * 1000000) :
    deadlineAfter start timeout < start := by
  have hupper := hstart.2
  unfold deadlineAfter Int.bmod
  norm_num
  split <;> omega

/-- The milliseconds that a wait asks `::poll` for. -/
def askedTimeout (deadline now : ℤ) : ℤ := pollTimeout (remainingTime deadline now)

theorem askedTimeout_of_expired {deadline now : ℤ} (hexpired : deadline ≤ now) :
    askedTimeout deadline now = 0 := by
  rw [askedTimeout, remainingTime, if_pos hexpired]
  decide

theorem askedTimeout_of_left {deadline now : ℤ} (hleft : now < deadline)
    (hrange : deadline - now < 2 ^ 63) :
    askedTimeout deadline now = min ((deadline - now) / 1000000) intMax := by
  have hbmod : (deadline - now).bmod (2 ^ 64) = deadline - now := by
    unfold Int.bmod
    norm_num
    split <;> omega
  rw [askedTimeout, remainingTime, if_neg hleft.not_ge, hbmod,
    Int.tdiv_eq_ediv_of_nonneg (by omega), pollTimeout, intMax]
  split_ifs <;> omega

/-- An expiry of the wait that was asked for is at most a millisecond early, as long
as the first wait is not cut down to `INT_MAX` milliseconds. -/
theorem askedTimeout_reaches {start timeout now : ℤ} (htimeout : timeout ≤ 2 ^ 31)
    (hnow : start ≤ now) :
    start + (timeout - 1) * 1000000 ≤
      now + askedTimeout (start + timeout * 1000000) now * 1000000 := by
  rcases le_or_gt (start + timeout * 1000000) now with hexpired | hleft
  · rw [askedTimeout_of_expired hexpired]
    omega
  · rw [askedTimeout_of_left hleft (by omega), intMax]
    omega

/-! ## Waits and loops that time out -/

section TimedOut

variable {start timeout : ℤ} {polls passes : ℕ} {before after : ℤ}

theorem waitForDescriptor_timedOut {event : PollEvent} {operation : String}
    (htimeout : timeout ≤ 2 ^ 31) (hbefore : start ≤ before)
    (hrun : Runs clockAnswers
      (Calls.waitForDescriptor event (start + timeout * 1000000) operation polls)
      before (.failed (.message (operation ++ " timed out"))) after) :
    start + (timeout - 1) * 1000000 ≤ after := by
  induction polls generalizing before with
  | zero => cases (runs_done_iff.mp hrun).1
  | succ polls ih =>
      rw [Calls.waitForDescriptor_succ] at hrun
      obtain ⟨now, middle, hnow, hrun⟩ := runs_ask_iff.mp hrun
      obtain ⟨answer, last, hpoll, hrest⟩ := runs_ask_iff.mp hrun
      obtain ⟨hmiddle, rfl, _⟩ := hnow
      obtain ⟨hlast, hexpiry⟩ := hpoll
      cases hverdict : Calls.waitVerdict event operation answer with
      | none =>
          rw [hverdict] at hrest
          exact ih (hbefore.trans (hmiddle.trans hlast)) hrest
      | some verdict =>
          rw [hverdict] at hrest
          obtain ⟨rfl, rfl⟩ := runs_done_iff.mp hrest
          have hreached := askedTimeout_reaches htimeout hbefore
          obtain ⟨_, hexpired⟩ := hexpiry (Calls.waitVerdict_timedOut_iff.mp hverdict)
          unfold askedTimeout at hreached
          omega

theorem writeAllTimed_timedOut {bytes : Bytes} (htimeout : timeout ≤ 2 ^ 31)
    (hbefore : start ≤ before)
    (hrun : Runs clockAnswers
      (Calls.writeAllTimed (start + timeout * 1000000) polls passes bytes)
      before (.failed (.message "send timed out")) after) :
    start + (timeout - 1) * 1000000 ≤ after := by
  induction passes generalizing before bytes with
  | zero => cases bytes <;> cases (runs_done_iff.mp hrun).1
  | succ passes ih =>
      cases bytes with
      | nil => cases (runs_done_iff.mp hrun).1
      | cons byte bytes =>
          rw [Calls.writeAllTimed_succ] at hrun
          obtain ⟨waited, ready, hwait, hrest⟩ := runs_bind_iff.mp hrun
          have hready := hbefore.trans (clockAnswers_le hwait)
          cases waited with
          | waiting => cases (runs_done_iff.mp hrest).1
          | failed error =>
              obtain ⟨herror, rfl⟩ := runs_done_iff.mp hrest
              cases herror
              exact waitForDescriptor_timedOut htimeout hbefore hwait
          | ready =>
              obtain ⟨reply, sent, hanswer, hlater⟩ := runs_ask_iff.mp hrest
              have hsent := hready.trans hanswer.1
              cases hpass : Calls.sendPass Calls.timedRetried reply with
              | again =>
                  rw [hpass] at hlater
                  exact ih hsent hlater
              | moved count =>
                  rw [hpass] at hlater
                  exact ih hsent hlater
              | failed error =>
                  rw [hpass] at hlater
                  obtain ⟨herror, _⟩ := runs_done_iff.mp hlater
                  cases herror
                  exact absurd hpass Calls.sendPass_not_timedOut

theorem readAllTimed_timedOut {size : ℕ} {data : Bytes} (htimeout : timeout ≤ 2 ^ 31)
    (hbefore : start ≤ before)
    (hrun : Runs clockAnswers
      (Calls.readAllTimed (start + timeout * 1000000) polls passes size)
      before ⟨.failed (.message "receive timed out"), data⟩ after) :
    start + (timeout - 1) * 1000000 ≤ after := by
  induction passes generalizing before size data with
  | zero => cases size <;> cases (runs_done_iff.mp hrun).1
  | succ passes ih =>
      cases size with
      | zero => cases (runs_done_iff.mp hrun).1
      | succ size =>
          rw [Calls.readAllTimed_succ] at hrun
          obtain ⟨waited, ready, hwait, hrest⟩ := runs_bind_iff.mp hrun
          have hready := hbefore.trans (clockAnswers_le hwait)
          cases waited with
          | waiting => cases (runs_done_iff.mp hrest).1
          | failed error =>
              obtain ⟨herror, rfl⟩ := runs_done_iff.mp hrest
              cases herror
              exact waitForDescriptor_timedOut htimeout hbefore hwait
          | ready =>
              obtain ⟨reply, received, hanswer, hlater⟩ := runs_ask_iff.mp hrest
              have hreceived := hready.trans hanswer.1
              cases hpass : Calls.recvPass Calls.timedRetried reply with
              | again =>
                  rw [hpass] at hlater
                  exact ih hreceived hlater
              | failed error =>
                  rw [hpass] at hlater
                  obtain ⟨herror, _⟩ := runs_done_iff.mp hlater
                  cases herror
                  exact absurd hpass Calls.recvPass_not_timedOut
              | moved chunk =>
                  rw [hpass] at hlater
                  obtain ⟨⟨outcome, rest⟩, last, hread, hdone⟩ := runs_bind_iff.mp hlater
                  obtain ⟨hresult, rfl⟩ := runs_done_iff.mp hdone
                  cases hresult
                  exact ih hreceived hread

end TimedOut

/-! ## Calls that time out too early -/

section Early

variable {start now deadline : ℤ}

/-- A reading, some time later, at which the wait for the rest ends too early. -/
def earlyReading (start deadline : ℤ) : ℤ := max start (deadline - (2 ^ 63 - 1))

theorem askedTimeout_nonneg (hrange : deadline - now < 2 ^ 63) :
    0 ≤ askedTimeout deadline now := by
  rcases le_or_gt deadline now with hexpired | hleft
  · rw [askedTimeout_of_expired hexpired]
  · rw [askedTimeout_of_left hleft hrange, intMax]
    omega

theorem askedTimeout_le_intMax (hrange : deadline - now < 2 ^ 63) :
    askedTimeout deadline now ≤ intMax := by
  rcases le_or_gt deadline now with hexpired | hleft
  · rw [askedTimeout_of_expired hexpired]
    decide
  · rw [askedTimeout_of_left hleft hrange]
    exact min_le_right _ _

theorem earlyReading_early {timeout : ℤ} (hlong : 2 ^ 31 < timeout)
    (hdeadline : deadline ≤ start + timeout * 1000000) :
    earlyReading start deadline + askedTimeout deadline (earlyReading start deadline) * 1000000 <
      start + (timeout - 1) * 1000000 := by
  have hrange : deadline - earlyReading start deadline < 2 ^ 63 := by
    unfold earlyReading
    omega
  have hasked := askedTimeout_le_intMax hrange
  have hreading : earlyReading start deadline = start ∨
      earlyReading start deadline = deadline - (2 ^ 63 - 1) := max_choice _ _
  unfold intMax at hasked
  omega

theorem waitForDescriptor_can_expire {event : PollEvent} {operation : String}
    (hnow : ClockReading now) (hasked : 0 ≤ askedTimeout deadline now) :
    Runs clockAnswers (Calls.waitForDescriptor event deadline operation 1) now
      (.failed (.message (operation ++ " timed out")))
      (now + askedTimeout deadline now * 1000000) := by
  have hlater : now ≤ now + askedTimeout deadline now * 1000000 := by omega
  rw [Calls.waitForDescriptor_succ]
  refine .answered now ⟨le_rfl, rfl, hnow⟩ ?_
  refine .answered PollAnswer.expired ⟨hlater, fun _ => ⟨hasked, le_rfl⟩⟩ ?_
  exact .done _ _

end Early

/-! ## Timeouts that are honoured -/

/-- The deadline is not in the past, and a run that times out has taken the timeout,
up to a millisecond. -/
def TimeoutHonoured {α : Type} (timedOut : α → Prop) (program : ℕ → ℕ → StreamProgram α)
    (start timeout : ℤ) : Prop :=
  start ≤ deadlineAfter start timeout ∧
    ∀ polls passes result final,
      Runs clockAnswers (program polls passes) start result final → timedOut result →
        start + (timeout - 1) * 1000000 ≤ final

section Honoured

variable {α : Type} {timedOut : α → Prop} {program : ℕ → ℕ → StreamProgram α}
  {start timeout : ℤ}

theorem timeoutHonoured_iff (hstart : ClockReading start) (htimeout : 0 ≤ timeout)
    (hkept : timeout ≤ 2 ^ 31 → deadlineAfter start timeout = start + timeout * 1000000 →
      ∀ polls passes result final,
        Runs clockAnswers (program polls passes) start result final → timedOut result →
          start + (timeout - 1) * 1000000 ≤ final)
    (hearly : ∀ now, start ≤ now → ClockReading now →
      0 ≤ askedTimeout (deadlineAfter start timeout) now →
        ∃ polls passes result, timedOut result ∧
          Runs clockAnswers (program polls passes) start result
            (now + askedTimeout (deadlineAfter start timeout) now * 1000000)) :
    TimeoutHonoured timedOut program start timeout ↔
      timeout ≤ 2 ^ 31 ∧ start + timeout * 1000000 < 2 ^ 63 := by
  constructor
  · rintro ⟨hdeadline, hruns⟩
    obtain ⟨hle, hreading⟩ := deadlineAfter_le hstart htimeout
    have hshort : timeout ≤ 2 ^ 31 := by
      by_contra hlong
      rw [not_le] at hlong
      have hlate : start ≤ earlyReading start (deadlineAfter start timeout) := le_max_left _ _
      have hrange : ClockReading (earlyReading start (deadlineAfter start timeout)) := by
        unfold earlyReading ClockReading at *
        omega
      have hasked : 0 ≤ askedTimeout (deadlineAfter start timeout)
          (earlyReading start (deadlineAfter start timeout)) := by
        apply askedTimeout_nonneg
        unfold earlyReading
        omega
      obtain ⟨polls, passes, result, htimedOut, hrun⟩ := hearly _ hlate hrange hasked
      have hfinal := hruns polls passes result _ hrun htimedOut
      exact absurd hfinal (not_le.mpr (earlyReading_early hlong hle))
    refine ⟨hshort, ?_⟩
    by_contra hend
    exact absurd hdeadline (not_le.mpr (deadlineAfter_lt hstart htimeout hshort (not_lt.mp hend)))
  · rintro ⟨hshort, hend⟩
    have hdeadline := deadlineAfter_eq hstart htimeout hend
    exact ⟨by omega, hkept hshort hdeadline⟩

end Honoured

section Messages

variable {connection : UnixSocketConnection} {message : Bytes} {start timeout : ℤ}

theorem sendMessageTimed_honoured_iff (hopen : connection.isOpen) (htimeout : 0 ≤ timeout)
    (hsize : message.length ≤ uint32Max) (hstart : ClockReading start) :
    TimeoutHonoured (fun outcome => outcome = .failed (.message "send timed out"))
        (Calls.sendMessageTimed connection message timeout) start timeout ↔
      timeout ≤ 2 ^ 31 ∧ start + timeout * 1000000 < 2 ^ 63 := by
  apply timeoutHonoured_iff hstart htimeout
  · rintro hshort hdeadline polls passes _ final hrun rfl
    rw [Calls.sendMessageTimed_of_accepted hopen htimeout hsize] at hrun
    obtain ⟨reading, middle, ⟨hmiddle, rfl, _⟩, hrest⟩ := runs_ask_iff.mp hrun
    rw [hdeadline] at hrest
    obtain ⟨outcome, last, hheader, hpayload⟩ := runs_bind_iff.mp hrest
    cases outcome with
    | complete =>
        exact writeAllTimed_timedOut hshort (hmiddle.trans (clockAnswers_le hheader)) hpayload
    | failed error =>
        obtain ⟨herror, rfl⟩ := runs_done_iff.mp hpayload
        rw [← herror] at hheader
        exact writeAllTimed_timedOut hshort hmiddle hheader
    | waiting => cases (runs_done_iff.mp hpayload).1
  · intro now hlater hnow hasked
    refine ⟨1, 1, _, rfl, ?_⟩
    rw [Calls.sendMessageTimed_of_accepted hopen htimeout hsize]
    refine .answered start ⟨hlater, rfl, hstart⟩ ?_
    refine runs_bind_iff.mpr ⟨.failed (.message "send timed out"), _, ?_, .done _ _⟩
    rw [htonl, Calls.writeAllTimed_succ]
    exact runs_bind_iff.mpr ⟨_, _, waitForDescriptor_can_expire hnow hasked, .done _ _⟩

theorem receiveMessageTimed_honoured_iff {maxSize : ℕ} (hopen : connection.isOpen)
    (htimeout : 0 ≤ timeout) (hstart : ClockReading start) :
    TimeoutHonoured (fun result => result.outcome = .failed (.message "receive timed out"))
        (Calls.receiveMessageTimed connection maxSize timeout) start timeout ↔
      timeout ≤ 2 ^ 31 ∧ start + timeout * 1000000 < 2 ^ 63 := by
  apply timeoutHonoured_iff hstart htimeout
  · rintro hshort hdeadline polls passes ⟨_, buffer⟩ final hrun rfl
    rw [Calls.receiveMessageTimed_of_accepted hopen htimeout] at hrun
    obtain ⟨reading, middle, ⟨hmiddle, rfl, _⟩, hrest⟩ := runs_ask_iff.mp hrun
    rw [hdeadline] at hrest
    obtain ⟨⟨outcome, data⟩, last, hheader, hpayload⟩ := runs_bind_iff.mp hrest
    cases outcome with
    | complete =>
        simp only [Calls.receivePayload] at hpayload
        split_ifs at hpayload with hlarge
        · have hresult := (runs_done_iff.mp hpayload).1
          simp at hresult
        · obtain ⟨⟨outcome, rest⟩, received, hread, hdone⟩ := runs_bind_iff.mp hpayload
          obtain ⟨hresult, rfl⟩ := runs_done_iff.mp hdone
          cases hresult
          exact readAllTimed_timedOut hshort (hmiddle.trans (clockAnswers_le hheader)) hread
    | failed error =>
        obtain ⟨hresult, rfl⟩ := runs_done_iff.mp hpayload
        cases hresult
        exact readAllTimed_timedOut hshort hmiddle hheader
    | waiting => cases (runs_done_iff.mp hpayload).1
  · intro now hlater hnow hasked
    refine ⟨1, 1, ⟨.failed (.message "receive timed out"), []⟩, rfl, ?_⟩
    rw [Calls.receiveMessageTimed_of_accepted hopen htimeout]
    refine .answered start ⟨hlater, rfl, hstart⟩ ?_
    refine runs_bind_iff.mpr
      ⟨⟨.failed (.message "receive timed out"), []⟩, _, ?_, .done _ _⟩
    rw [Calls.readAllTimed_succ]
    exact runs_bind_iff.mpr ⟨_, _, waitForDescriptor_can_expire hnow hasked, .done _ _⟩

theorem timeouts_honoured_iff {maxSize : ℕ} (hopen : connection.isOpen) (htimeout : 0 ≤ timeout)
    (hsize : message.length ≤ uint32Max) (hstart : ClockReading start) :
    (TimeoutHonoured (fun outcome => outcome = .failed (.message "send timed out"))
        (Calls.sendMessageTimed connection message timeout) start timeout ↔
      timeout ≤ 2 ^ 31 ∧ start + timeout * 1000000 < 2 ^ 63) ∧
    (TimeoutHonoured (fun result => result.outcome = .failed (.message "receive timed out"))
        (Calls.receiveMessageTimed connection maxSize timeout) start timeout ↔
      timeout ≤ 2 ^ 31 ∧ start + timeout * 1000000 < 2 ^ 63) :=
  ⟨sendMessageTimed_honoured_iff hopen htimeout hsize hstart,
    receiveMessageTimed_honoured_iff hopen htimeout hstart⟩

end Messages

theorem one_second_honoured :
    TimeoutHonoured (fun outcome => outcome = .failed (.message "send timed out"))
      (Calls.sendMessageTimed ⟨4⟩ [104, 105] 1000) 0 1000 ∧
    TimeoutHonoured (fun result => result.outcome = .failed (.message "receive timed out"))
      (Calls.receiveMessageTimed ⟨4⟩ 1024 1000) 0 1000 := by
  obtain ⟨hsend, hreceive⟩ := @timeouts_honoured_iff ⟨4⟩ [104, 105] 0 1000 1024 (by decide)
    (by decide) (by decide) (by unfold ClockReading; decide)
  exact ⟨hsend.mpr (by decide), hreceive.mpr (by decide)⟩

/-- A timeout of thirty days is reported after 25. -/
theorem thirty_days_not_honoured :
    ¬ ∀ (connection : UnixSocketConnection) (message : Bytes) (start timeout : ℤ),
      connection.isOpen → 0 ≤ timeout → timeout < 2 ^ 63 → message.length ≤ uint32Max →
        ClockReading start →
          TimeoutHonoured (fun outcome => outcome = .failed (.message "send timed out"))
            (Calls.sendMessageTimed connection message timeout) start timeout := by
  intro hhonoured
  have hstart : ClockReading 0 := by
    unfold ClockReading
    decide
  have hmonth := hhonoured ⟨4⟩ [104, 105] 0 2592000000 (by decide) (by decide) (by decide)
    (by decide) hstart
  rw [sendMessageTimed_honoured_iff (by decide) (by decide) (by decide) hstart] at hmonth
  exact absurd hmonth.1 (by decide)

end ElapPlatform.Ipc
