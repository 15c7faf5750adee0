import ElapPlatform.UnixSocketStreamCalls

/-!
# Runs of the programs as runs on given answers

The functions of the transfer loops that take the kernel's answers as a list describe
every run of the programs: for each run there are answers with which they come to the
same outcome and move the same bytes.
-/

namespace ElapPlatform.Ipc

open Interaction

/-- Both directions of one connection: what the kernel has taken, and what the peer has
sent and the call has not read yet. -/
structure Wire where
  accepted : Bytes
  incoming : Bytes
  deriving DecidableEq, Repr

def Wire.answers (before : Wire) (call : StreamCall) (reply : call.Reply) (after : Wire) : Prop :=
  match call, reply with
  | .send bytes, .ok count =>
      after = ⟨before.accepted ++ bytes.take count, before.incoming⟩
  | .recv size, .ok chunk =>
      before = ⟨after.accepted, chunk ++ after.incoming⟩ ∧ chunk.length ≤ size ∧
        (chunk = [] → before.incoming = [])
  | _, _ => after = before

/-! ## Waits and single passes -/

section Verdicts

variable {event : PollEvent} {deadline now : ℤ} {operation : String} {answer : PollAnswer}
  {rounds : List PollRound}

theorem waitForDescriptor_of_verdict {verdict : WaitOutcome}
    (hverdict : Calls.waitVerdict event operation answer = some verdict) :
    (waitForDescriptor event deadline operation (⟨now, answer⟩ :: rounds)).outcome = verdict := by
  cases answer with
  | events revents =>
      simp only [Calls.waitVerdict] at hverdict
      simp only [waitForDescriptor]
      split_ifs at hverdict ⊢ <;> simp_all
  | expired =>
      cases hverdict
      rfl
  | failed errno =>
      simp only [Calls.waitVerdict] at hverdict
      simp only [waitForDescriptor]
      split_ifs at hverdict ⊢
      cases hverdict
      rfl

theorem waitForDescriptor_of_no_verdict
    (hverdict : Calls.waitVerdict event operation answer = none) :
    (waitForDescriptor event deadline operation (⟨now, answer⟩ :: rounds)).outcome =
      (waitForDescriptor event deadline operation rounds).outcome := by
  cases answer with
  | events revents =>
      simp only [Calls.waitVerdict] at hverdict
      simp only [waitForDescriptor]
      split_ifs at hverdict ⊢
      rfl
  | expired => cases hverdict
  | failed errno =>
      simp only [Calls.waitVerdict] at hverdict
      simp only [waitForDescriptor]
      split_ifs at hverdict ⊢
      rfl

end Verdicts

/-- With these answers the pass of a deadline overload gets as far as the wait did. -/
theorem waitForDescriptor_run {event : PollEvent} {deadline : ℤ} {operation : String}
    {polls : ℕ} {before after : Wire} {outcome : WaitOutcome}
    (hrun : Runs Wire.answers (Calls.waitForDescriptor event deadline operation polls)
      before outcome after) :
    after = before ∧
      ∃ rounds, (waitForDescriptor event deadline operation rounds).outcome = outcome := by
  induction polls generalizing before with
  | zero =>
      obtain ⟨rfl, rfl⟩ := runs_done_iff.mp hrun
      exact ⟨rfl, [], rfl⟩
  | succ polls ih =>
      rw [Calls.waitForDescriptor_succ] at hrun
      obtain ⟨now, middle, hnow, hpoll⟩ := runs_ask_iff.mp hrun
      obtain ⟨answer, last, hanswer, hrest⟩ := runs_ask_iff.mp hpoll
      obtain rfl : middle = before := hnow
      obtain rfl : last = middle := hanswer
      cases hverdict : Calls.waitVerdict event operation answer with
      | some verdict =>
          rw [hverdict] at hrest
          obtain ⟨rfl, rfl⟩ := runs_done_iff.mp hrest
          exact ⟨rfl, [⟨now, answer⟩], waitForDescriptor_of_verdict hverdict⟩
      | none =>
          rw [hverdict] at hrest
          obtain ⟨rfl, rounds, hrounds⟩ := ih hrest
          refine ⟨rfl, ⟨now, answer⟩ :: rounds, ?_⟩
          rw [waitForDescriptor_of_no_verdict hverdict]
          exact hrounds

/-! ### Transfers -/

def Calls.Pass.progress : Calls.Pass ℕ → Progress
  | .again => .again
  | .failed error => .failed error
  | .moved count => .moved count

def sendAnswer : SystemResult ℕ → SendAnswer
  | .ok count => .count count
  | .error errno => .errno errno

def recvAnswer : SystemResult Bytes → RecvAnswer
  | .ok chunk => .count (chunk.length - 1)
  | .error errno => .errno errno

/-- The two overloads differ in the errors after which they go round again. -/
def recvAnswered (retried : List Errno) : RecvAnswer → Progress
  | .errno errno => if errno ∈ retried then .again else .failed (systemError "receive" errno)
  | .count n => .moved (n + 1)

section Answered

variable {deadline : ℤ} {rounds : List PollRound}

theorem sendProgress_sendAnswer (reply : SystemResult ℕ) :
    sendProgress (sendAnswer reply) = (Calls.sendPass [EINTR] reply).progress := by
  rcases reply with errno | (_ | count)
  · simp only [sendAnswer, sendProgress, Calls.sendPass, List.mem_singleton]
    split_ifs <;> rfl
  · rfl
  · rfl

theorem timedSendProgress_of_ready
    (hready : (waitForDescriptor .pollout deadline "send" rounds).outcome = .ready)
    (reply : SystemResult ℕ) :
    timedSendProgress deadline ⟨rounds, sendAnswer reply⟩ =
      (Calls.sendPass Calls.timedRetried reply).progress := by
  simp only [timedSendProgress, hready]
  rcases reply with errno | (_ | count)
  · simp only [sendAnswer, Calls.sendPass, Calls.mem_timedRetried]
    split_ifs <;> rfl
  · rfl
  · rfl

theorem recvProgress_eq (answer : RecvAnswer) :
    recvProgress answer = recvAnswered [EINTR] answer := by
  cases answer with
  | count n => rfl
  | errno errno => simp only [recvProgress, recvAnswered, List.mem_singleton]

theorem timedRecvProgress_of_ready
    (hready : (waitForDescriptor .pollin deadline "receive" rounds).outcome = .ready)
    (answer : RecvAnswer) :
    timedRecvProgress deadline ⟨rounds, answer⟩ = recvAnswered Calls.timedRetried answer := by
  simp only [timedRecvProgress, hready]
  cases answer with
  | count n => rfl
  | errno errno => simp only [recvAnswered, Calls.mem_timedRetried]

end Answered

/-! ## Sending -/

/-- With some answers `writeAll` comes to the outcome, having moved the same bytes;
what else is in the list stays unused. -/
def WrittenAs {ρ : Type} (progress : ρ → Progress) (bytes : Bytes) (before : Wire)
    (outcome : Outcome) (after : Wire) : Prop :=
  ∃ rounds accepted, after = ⟨before.accepted ++ accepted, before.incoming⟩ ∧
    ∀ more, (outcome = .waiting → more = []) →
      writeAll progress bytes (rounds ++ more) = ⟨outcome, accepted, more⟩

theorem Wire.append_nil (wire : Wire) : wire = ⟨wire.accepted ++ [], wire.incoming⟩ := by
  rw [List.append_nil]

section WrittenAs

variable {ρ : Type} {progress : ρ → Progress} {byte : UInt8} {bytes : Bytes}
  {before after : Wire} {outcome : Outcome} {round : ρ}

theorem WrittenAs.complete : WrittenAs progress [] before .complete before :=
  ⟨[], [], before.append_nil, fun more _ => writeAll_nil more⟩

theorem WrittenAs.unanswered : WrittenAs progress (byte :: bytes) before .waiting before := by
  refine ⟨[], [], before.append_nil, fun more hmore => ?_⟩
  rw [hmore rfl]
  rfl

theorem WrittenAs.waiting (hround : progress round = .waiting) :
    WrittenAs progress (byte :: bytes) before .waiting before := by
  refine ⟨[round], [], before.append_nil, fun more hmore => ?_⟩
  simp only [List.singleton_append, writeAll, hround]

theorem WrittenAs.failed {error : ErrorText} (hround : progress round = .failed error) :
    WrittenAs progress (byte :: bytes) before (.failed error) before := by
  refine ⟨[round], [], before.append_nil, fun more hmore => ?_⟩
  simp only [List.singleton_append, writeAll, hround]

theorem WrittenAs.again (hround : progress round = .again)
    (hrest : WrittenAs progress (byte :: bytes) before outcome after) :
    WrittenAs progress (byte :: bytes) before outcome after := by
  obtain ⟨rounds, accepted, hafter, hwrite⟩ := hrest
  refine ⟨round :: rounds, accepted, hafter, fun more hmore => ?_⟩
  simp only [List.cons_append, writeAll, hround]
  exact hwrite more hmore

theorem WrittenAs.moved {count : ℕ} (hround : progress round = .moved count)
    (hrest : WrittenAs progress ((byte :: bytes).drop count)
      ⟨before.accepted ++ (byte :: bytes).take count, before.incoming⟩ outcome after) :
    WrittenAs progress (byte :: bytes) before outcome after := by
  obtain ⟨rounds, accepted, hafter, hwrite⟩ := hrest
  refine ⟨round :: rounds, (byte :: bytes).take count ++ accepted, ?_, fun more hmore => ?_⟩
  · rw [hafter, List.append_assoc]
  · simp only [List.cons_append, writeAll, hround, hwrite more hmore]

/-- A pass of the program, and the loop after it, on a round that comes to the same. -/
theorem WrittenAs.of_pass {retried : List Errno} {reply : SystemResult ℕ} {middle : Wire}
    {loop : Bytes → StreamProgram Outcome}
    (hround : progress round = (Calls.sendPass retried reply).progress)
    (hanswer : before.answers (.send (byte :: bytes)) reply middle)
    (hloop : ∀ bytes before, Runs Wire.answers (loop bytes) before outcome after →
      WrittenAs progress bytes before outcome after)
    (hrest : Runs Wire.answers
      (match Calls.sendPass retried reply with
        | .again => loop (byte :: bytes)
        | .failed error => .done (.failed error)
        | .moved count => loop ((byte :: bytes).drop count)) middle outcome after) :
    WrittenAs progress (byte :: bytes) before outcome after := by
  rcases reply with errno | (_ | count)
  · obtain rfl : middle = before := hanswer
    simp only [Calls.sendPass] at hround hrest
    split_ifs at hround hrest with hretried
    · exact (hloop _ _ hrest).again hround
    · obtain ⟨rfl, rfl⟩ := runs_done_iff.mp hrest
      exact .failed hround
  · obtain rfl : middle = before := hanswer.trans before.append_nil.symm
    obtain ⟨rfl, rfl⟩ := runs_done_iff.mp hrest
    exact .failed hround
  · obtain rfl := hanswer
    exact .moved hround (hloop _ _ hrest)

end WrittenAs

section Sending

variable {deadline : ℤ} {polls passes : ℕ} {bytes : Bytes} {before after : Wire}
  {outcome : Outcome}

theorem writeAll_run
    (hrun : Runs Wire.answers (Calls.writeAll passes bytes) before outcome after) :
    WrittenAs sendProgress bytes before outcome after := by
  induction passes generalizing bytes before with
  | zero =>
      cases bytes with
      | nil =>
          obtain ⟨rfl, rfl⟩ := runs_done_iff.mp hrun
          exact .complete
      | cons byte bytes =>
          obtain ⟨rfl, rfl⟩ := runs_done_iff.mp hrun
          exact .unanswered
  | succ passes ih =>
      cases bytes with
      | nil =>
          obtain ⟨rfl, rfl⟩ := runs_done_iff.mp hrun
          exact .complete
      | cons byte bytes =>
          rw [Calls.writeAll_succ] at hrun
          obtain ⟨reply, middle, hanswer, hrest⟩ := runs_ask_iff.mp hrun
          exact .of_pass (sendProgress_sendAnswer reply) hanswer (fun _ _ => ih) hrest

theorem writeAllTimed_run
    (hrun : Runs Wire.answers (Calls.writeAllTimed deadline polls passes bytes)
      before outcome after) :
    WrittenAs (timedSendProgress deadline) bytes before outcome after := by
  induction passes generalizing bytes before with
  | zero =>
      cases bytes with
      | nil =>
          obtain ⟨rfl, rfl⟩ := runs_done_iff.mp hrun
          exact .complete
      | cons byte bytes =>
          obtain ⟨rfl, rfl⟩ := runs_done_iff.mp hrun
          exact .unanswered
  | succ passes ih =>
      cases bytes with
      | nil =>
          obtain ⟨rfl, rfl⟩ := runs_done_iff.mp hrun
          exact .complete
      | cons byte bytes =>
          rw [Calls.writeAllTimed_succ] at hrun
          obtain ⟨waited, middle, hwait, hrest⟩ := runs_bind_iff.mp hrun
          obtain ⟨rfl, rounds, hrounds⟩ := waitForDescriptor_run hwait
          cases waited with
          | waiting =>
              obtain ⟨rfl, rfl⟩ := runs_done_iff.mp hrest
              have hround : timedSendProgress deadline ⟨rounds, .count 0⟩ = .waiting := by
                simp only [timedSendProgress, hrounds]
              exact .waiting hround
          | failed error =>
              obtain ⟨rfl, rfl⟩ := runs_done_iff.mp hrest
              have hround : timedSendProgress deadline ⟨rounds, .count 0⟩ = .failed error := by
                simp only [timedSendProgress, hrounds]
              exact .failed hround
          | ready =>
              obtain ⟨reply, last, hanswer, hlast⟩ := runs_ask_iff.mp hrest
              exact .of_pass (timedSendProgress_of_ready hrounds reply) hanswer (fun _ _ => ih)
                hlast

end Sending

/-! ## Receiving -/

/-- The same for `readAll`. -/
def ReadAs {ρ : Type} (progress : ρ → Progress) (size : ℕ) (before : Wire)
    (result : Calls.ReadResult) (after : Wire) : Prop :=
  after.accepted = before.accepted ∧
    ∃ rounds, ∀ more, (result.outcome = .waiting → more = []) →
      readAll progress size before.incoming (rounds ++ more) =
        ⟨result.outcome, result.data, after.incoming, more⟩

section ReadAs

variable {ρ : Type} {progress : ρ → Progress} {size : ℕ} {before middle after : Wire}
  {result : Calls.ReadResult} {round : ρ}

theorem ReadAs.complete : ReadAs progress 0 before ⟨.complete, []⟩ before :=
  ⟨rfl, [], fun more _ => readAll_zero before.incoming more⟩

theorem ReadAs.unanswered : ReadAs progress (size + 1) before ⟨.waiting, []⟩ before := by
  refine ⟨rfl, [], fun more hmore => ?_⟩
  rw [hmore rfl]
  rfl

theorem ReadAs.waiting (hround : progress round = .waiting) :
    ReadAs progress (size + 1) before ⟨.waiting, []⟩ before := by
  refine ⟨rfl, [round], fun more hmore => ?_⟩
  simp only [List.singleton_append, readAll, hround]

theorem ReadAs.failed {error : ErrorText} (hround : progress round = .failed error) :
    ReadAs progress (size + 1) before ⟨.failed error, []⟩ before := by
  refine ⟨rfl, [round], fun more hmore => ?_⟩
  simp only [List.singleton_append, readAll, hround]

theorem ReadAs.closed {count : ℕ} (hround : progress round = .moved count)
    (hend : before.incoming = []) :
    ReadAs progress (size + 1) before
      ⟨.failed (.message "receive failed: connection closed"), []⟩ before := by
  refine ⟨rfl, [round], fun more hmore => ?_⟩
  rw [hend]
  exact readAll_closed hround List.take_nil

theorem ReadAs.again (hround : progress round = .again)
    (hrest : ReadAs progress (size + 1) before result after) :
    ReadAs progress (size + 1) before result after := by
  obtain ⟨haccepted, rounds, hread⟩ := hrest
  refine ⟨haccepted, round :: rounds, fun more hmore => ?_⟩
  simp only [List.cons_append, readAll, hround]
  exact hread more hmore

theorem ReadAs.moved {chunk : Bytes} (hround : progress round = .moved chunk.length)
    (hbefore : before = ⟨middle.accepted, chunk ++ middle.incoming⟩) (hchunk : chunk ≠ [])
    (hsize : chunk.length ≤ size + 1)
    (hrest : ReadAs progress (size + 1 - chunk.length) middle result after) :
    ReadAs progress (size + 1) before ⟨result.outcome, chunk ++ result.data⟩ after := by
  obtain ⟨haccepted, rounds, hread⟩ := hrest
  refine ⟨by rw [haccepted, hbefore], round :: rounds, fun more hmore => ?_⟩
  have htake : before.incoming.take (min chunk.length (size + 1)) = chunk := by
    rw [hbefore, Nat.min_eq_left hsize, List.take_left]
  have hdrop : before.incoming.drop chunk.length = middle.incoming := by
    rw [hbefore, List.drop_left]
  rw [List.cons_append, readAll_moved hround (by rwa [htake])]
  simp only [htake, hdrop, hread more hmore]

theorem ReadAs.of_pass {retried : List Errno} {reply : SystemResult Bytes}
    {loop : ℕ → StreamProgram Calls.ReadResult}
    (hround : progress round = recvAnswered retried (recvAnswer reply))
    (hanswer : before.answers (.recv (size + 1)) reply middle)
    (hloop : ∀ size before result, Runs Wire.answers (loop size) before result after →
      ReadAs progress size before result after)
    (hrest : Runs Wire.answers
      (match Calls.recvPass retried reply with
        | .again => loop (size + 1)
        | .failed error => .done ⟨.failed error, []⟩
        | .moved chunk =>
            loop (size + 1 - chunk.length) >>= fun rest =>
              .done ⟨rest.outcome, chunk ++ rest.data⟩) middle result after) :
    ReadAs progress (size + 1) before result after := by
  rcases reply with errno | (_ | ⟨byte, bytes⟩)
  · obtain rfl : middle = before := hanswer
    simp only [recvAnswer, recvAnswered] at hround
    simp only [Calls.recvPass] at hrest
    split_ifs at hround hrest with hretried
    · exact (hloop _ _ _ hrest).again hround
    · obtain ⟨rfl, rfl⟩ := runs_done_iff.mp hrest
      exact .failed hround
  · obtain ⟨hbefore, _, hend⟩ := hanswer
    obtain rfl : before = middle := hbefore
    obtain ⟨rfl, rfl⟩ := runs_done_iff.mp hrest
    exact .closed hround (hend rfl)
  · obtain ⟨hbefore, hsize, _⟩ := hanswer
    obtain ⟨rest, last, hread, hdone⟩ := runs_bind_iff.mp hrest
    obtain ⟨rfl, rfl⟩ := runs_done_iff.mp hdone
    exact .moved hround hbefore (List.cons_ne_nil byte bytes) hsize (hloop _ _ _ hread)

end ReadAs

section Receiving

variable {deadline : ℤ} {polls passes size : ℕ} {before after : Wire}
  {result : Calls.ReadResult}

theorem readAll_run
    (hrun : Runs Wire.answers (Calls.readAll passes size) before result after) :
    ReadAs recvProgress size before result after := by
  induction passes generalizing size before result with
  | zero =>
      cases size with
      | zero =>
          obtain ⟨rfl, rfl⟩ := runs_done_iff.mp hrun
          exact .complete
      | succ size =>
          obtain ⟨rfl, rfl⟩ := runs_done_iff.mp hrun
          exact .unanswered
  | succ passes ih =>
      cases size with
      | zero =>
          obtain ⟨rfl, rfl⟩ := runs_done_iff.mp hrun
          exact .complete
      | succ size =>
          rw [Calls.readAll_succ] at hrun
          obtain ⟨reply, middle, hanswer, hrest⟩ := runs_ask_iff.mp hrun
          exact .of_pass (recvProgress_eq (recvAnswer reply)) hanswer (fun _ _ _ => ih) hrest

theorem readAllTimed_run
    (hrun : Runs Wire.answers (Calls.readAllTimed deadline polls passes size)
      before result after) :
    ReadAs (timedRecvProgress deadline) size before result after := by
  induction passes generalizing size before result with
  | zero =>
      cases size with
      | zero =>
          obtain ⟨rfl, rfl⟩ := runs_done_iff.mp hrun
          exact .complete
      | succ size =>
          obtain ⟨rfl, rfl⟩ := runs_done_iff.mp hrun
          exact .unanswered
  | succ passes ih =>
      cases size with
      | zero =>
          obtain ⟨rfl, rfl⟩ := runs_done_iff.mp hrun
          exact .complete
      | succ size =>
          rw [Calls.readAllTimed_succ] at hrun
          obtain ⟨waited, middle, hwait, hrest⟩ := runs_bind_iff.mp hrun
          obtain ⟨rfl, rounds, hrounds⟩ := waitForDescriptor_run hwait
          cases waited with
          | waiting =>
              obtain ⟨rfl, rfl⟩ := runs_done_iff.mp hrest
              have hround : timedRecvProgress deadline ⟨rounds, .count 0⟩ = .waiting := by
                simp only [timedRecvProgress, hrounds]
              exact .waiting hround
          | failed error =>
              obtain ⟨rfl, rfl⟩ := runs_done_iff.mp hrest
              have hround : timedRecvProgress deadline ⟨rounds, .count 0⟩ = .failed error := by
                simp only [timedRecvProgress, hrounds]
              exact .failed hround
          | ready =>
              obtain ⟨reply, last, hanswer, hlast⟩ := runs_ask_iff.mp hrest
              exact .of_pass (timedRecvProgress_of_ready hrounds (recvAnswer reply)) hanswer
                (fun _ _ _ => ih) hlast

end Receiving

/-! ## Messages -/

section Frames

variable {ρ : Type} {progress : ρ → Progress} {before after : Wire}

theorem sendFrame_run {message : Bytes} {header payload : StreamProgram Outcome}
    {outcome : Outcome}
    (hheader : ∀ {before outcome after}, Runs Wire.answers header before outcome after →
      WrittenAs progress (htonl message.length) before outcome after)
    (hpayload : ∀ {before outcome after}, Runs Wire.answers payload before outcome after →
      WrittenAs progress message before outcome after)
    (hrun : Runs Wire.answers (header >>= Calls.sendPayload payload) before outcome after) :
    ∃ rounds accepted, after = ⟨before.accepted ++ accepted, before.incoming⟩ ∧
      sendFrame progress message rounds = ⟨outcome, accepted, []⟩ := by
  obtain ⟨sent, middle, hsent, hrest⟩ := runs_bind_iff.mp hrun
  obtain ⟨rounds, accepted, rfl, hwrite⟩ := hheader hsent
  cases sent with
  | complete =>
      obtain ⟨others, later, rfl, hwrite'⟩ := hpayload hrest
      refine ⟨rounds ++ others, accepted ++ later, by rw [List.append_assoc], ?_⟩
      have hfirst := hwrite others (fun hwaiting => by cases hwaiting)
      have hsecond := hwrite' [] (fun _ => rfl)
      rw [List.append_nil] at hsecond
      simp only [sendFrame, hfirst, hsecond]
  | failed error =>
      obtain ⟨rfl, rfl⟩ := runs_done_iff.mp hrest
      refine ⟨rounds, accepted, rfl, ?_⟩
      have hfirst := hwrite [] (fun _ => rfl)
      rw [List.append_nil] at hfirst
      simp only [sendFrame, hfirst]
  | waiting =>
      obtain ⟨rfl, rfl⟩ := runs_done_iff.mp hrest
      refine ⟨rounds, accepted, rfl, ?_⟩
      have hfirst := hwrite [] (fun _ => rfl)
      rw [List.append_nil] at hfirst
      simp only [sendFrame, hfirst]

theorem receiveFrame_run {maxSize : ℕ} {header : StreamProgram Calls.ReadResult}
    {read : ℕ → StreamProgram Calls.ReadResult} {result : Calls.ReceiveResult}
    (hheader : ∀ {before result after}, Runs Wire.answers header before result after →
      ReadAs progress 4 before result after)
    (hread : ∀ {size before result after}, Runs Wire.answers (read size) before result after →
      ReadAs progress size before result after)
    (hrun : Runs Wire.answers (header >>= Calls.receivePayload maxSize read)
      before result after) :
    after.accepted = before.accepted ∧
      ∃ rounds, receiveFrame progress maxSize before.incoming rounds =
        ⟨result.outcome, result.message, after.incoming, []⟩ := by
  obtain ⟨⟨outcome, data⟩, middle, hsent, hrest⟩ := runs_bind_iff.mp hrun
  obtain ⟨haccepted, rounds, hfirst⟩ := hheader hsent
  cases outcome with
  | complete =>
      simp only [Calls.receivePayload] at hrest
      split_ifs at hrest with hlarge
      · obtain ⟨rfl, rfl⟩ := runs_done_iff.mp hrest
        have hstop := hfirst [] (fun _ => rfl)
        rw [List.append_nil] at hstop
        refine ⟨haccepted, rounds, ?_⟩
        simp only [receiveFrame, hstop, if_pos hlarge]
      · obtain ⟨payload, last, hpayload, hdone⟩ := runs_bind_iff.mp hrest
        obtain ⟨rfl, rfl⟩ := runs_done_iff.mp hdone
        obtain ⟨haccepted', others, hsecond⟩ := hread hpayload
        have hstart := hfirst others (fun hwaiting => by cases hwaiting)
        have hstop := hsecond [] (fun _ => rfl)
        rw [List.append_nil] at hstop
        refine ⟨haccepted'.trans haccepted, rounds ++ others, ?_⟩
        rw [receiveFrame_of_header_complete (by rw [hstart])
          (by rw [hstart]; exact not_lt.mp hlarge)]
        simp only [hstart, hstop, Calls.overwritten]
  | failed error =>
      obtain ⟨rfl, rfl⟩ := runs_done_iff.mp hrest
      have hstop := hfirst [] (fun _ => rfl)
      rw [List.append_nil] at hstop
      refine ⟨haccepted, rounds, ?_⟩
      simp only [receiveFrame, hstop]
  | waiting =>
      obtain ⟨rfl, rfl⟩ := runs_done_iff.mp hrest
      have hstop := hfirst [] (fun _ => rfl)
      rw [List.append_nil] at hstop
      refine ⟨haccepted, rounds, ?_⟩
      simp only [receiveFrame, hstop]

end Frames

section Calls

variable {connection : UnixSocketConnection} {message : Bytes} {timeout : ℤ}
  {maxSize polls passes : ℕ} {before after : Wire}

/-- A run of `sendMessage` is the call on some answers, with the same bytes sent. -/
theorem sendMessage_refines {outcome : Outcome}
    (hrun : Runs Wire.answers (Calls.sendMessage connection message passes)
      before outcome after) :
    ∃ answers accepted, after = ⟨before.accepted ++ accepted, before.incoming⟩ ∧
      connection.sendMessage message answers = ⟨outcome, accepted, []⟩ := by
  unfold UnixSocketConnection.sendMessage
  by_cases hopen : connection.isOpen
  · simp only [if_neg (not_not.mpr hopen)]
    rcases Nat.lt_or_ge uint32Max message.length with hlarge | hsize
    · rw [Calls.sendMessage_of_too_large hopen hlarge] at hrun
      obtain ⟨rfl, rfl⟩ := runs_done_iff.mp hrun
      exact ⟨[], [], Wire.append_nil _, if_pos hlarge⟩
    · rw [Calls.sendMessage_of_accepted hopen hsize] at hrun
      simp only [if_neg (Nat.not_lt.mpr hsize)]
      exact sendFrame_run writeAll_run writeAll_run hrun
  · rw [Calls.sendMessage, if_pos hopen] at hrun
    obtain ⟨rfl, rfl⟩ := runs_done_iff.mp hrun
    exact ⟨[], [], Wire.append_nil _, if_pos hopen⟩

theorem sendMessageTimed_refines {outcome : Outcome}
    (hrun : Runs Wire.answers (Calls.sendMessageTimed connection message timeout polls passes)
      before outcome after) :
    ∃ start rounds accepted, after = ⟨before.accepted ++ accepted, before.incoming⟩ ∧
      connection.sendMessageTimed message timeout start rounds = ⟨outcome, accepted, []⟩ := by
  unfold UnixSocketConnection.sendMessageTimed
  by_cases hopen : connection.isOpen
  · simp only [if_neg (not_not.mpr hopen)]
    rcases lt_or_ge timeout 0 with hnegative | htimeout
    · rw [Calls.sendMessageTimed, if_neg (not_not.mpr hopen), if_pos hnegative] at hrun
      obtain ⟨rfl, rfl⟩ := runs_done_iff.mp hrun
      exact ⟨0, [], [], Wire.append_nil _, if_pos hnegative⟩
    simp only [if_neg htimeout.not_gt]
    rcases Nat.lt_or_ge uint32Max message.length with hlarge | hsize
    · rw [Calls.sendMessageTimed_of_too_large hopen htimeout hlarge] at hrun
      obtain ⟨rfl, rfl⟩ := runs_done_iff.mp hrun
      exact ⟨0, [], [], Wire.append_nil _, if_pos hlarge⟩
    · rw [Calls.sendMessageTimed_of_accepted hopen htimeout hsize] at hrun
      obtain ⟨start, middle, hnow, hrest⟩ := runs_ask_iff.mp hrun
      obtain rfl : middle = before := hnow
      simp only [if_neg (Nat.not_lt.mpr hsize)]
      exact ⟨start, sendFrame_run writeAllTimed_run writeAllTimed_run hrest⟩
  · rw [Calls.sendMessageTimed, if_pos hopen] at hrun
    obtain ⟨rfl, rfl⟩ := runs_done_iff.mp hrun
    exact ⟨0, [], [], Wire.append_nil _, if_pos hopen⟩

/-- A run of `receiveMessage` is the call on some answers, with the same bytes read. -/
theorem receiveMessage_refines {result : Calls.ReceiveResult}
    (hrun : Runs Wire.answers (Calls.receiveMessage connection maxSize passes)
      before result after) :
    ∃ answers, connection.receiveMessage maxSize before.incoming answers =
      ⟨result.outcome, result.message, after.incoming, []⟩ := by
  unfold UnixSocketConnection.receiveMessage
  by_cases hopen : connection.isOpen
  · rw [Calls.receiveMessage_of_open hopen] at hrun
    obtain ⟨_, answers, hanswers⟩ := receiveFrame_run readAll_run readAll_run hrun
    exact ⟨answers, by rw [if_neg (not_not.mpr hopen), hanswers]⟩
  · rw [Calls.receiveMessage, if_pos hopen] at hrun
    obtain ⟨rfl, rfl⟩ := runs_done_iff.mp hrun
    exact ⟨[], by rw [if_pos hopen]⟩

theorem receiveMessageTimed_refines {result : Calls.ReceiveResult}
    (hrun : Runs Wire.answers
      (Calls.receiveMessageTimed connection maxSize timeout polls passes) before result after) :
    ∃ start rounds, connection.receiveMessageTimed maxSize timeout start before.incoming rounds =
      ⟨result.outcome, result.message, after.incoming, []⟩ := by
  unfold UnixSocketConnection.receiveMessageTimed
  by_cases hopen : connection.isOpen
  · rcases lt_or_ge timeout 0 with hnegative | htimeout
    · rw [Calls.receiveMessageTimed, if_neg (not_not.mpr hopen), if_pos hnegative] at hrun
      obtain ⟨rfl, rfl⟩ := runs_done_iff.mp hrun
      exact ⟨0, [], by rw [if_neg (not_not.mpr hopen), if_pos hnegative]⟩
    · rw [Calls.receiveMessageTimed_of_accepted hopen htimeout] at hrun
      obtain ⟨start, middle, hnow, hrest⟩ := runs_ask_iff.mp hrun
      obtain rfl : middle = before := hnow
      obtain ⟨_, rounds, hrounds⟩ := receiveFrame_run readAllTimed_run readAllTimed_run hrest
      exact ⟨start, rounds, by
        rw [if_neg (not_not.mpr hopen), if_neg htimeout.not_gt, hrounds]⟩
  · rw [Calls.receiveMessageTimed, if_pos hopen] at hrun
    obtain ⟨rfl, rfl⟩ := runs_done_iff.mp hrun
    exact ⟨0, [], by rw [if_pos hopen]⟩

end Calls

end ElapPlatform.Ipc
