import ElapPlatform.SampleIpcPrograms
import ElapPlatform.UnixSocketMovedBytes

/-!
# Sessions without disturbances

Every transfer moves all of its bytes at once, and no signal and no error comes.  Then the
listener answers any request up to its limit, and the client comes to its end.
-/

namespace ElapPlatform.Ipc

open Interaction Interaction.Program Transition

/-- No transfer is interrupted or fails. -/
def Unhindered (turn : Turn Party StreamCall StreamCall.Reply) : Prop :=
  ¬ SocketFailure turn.exchange ∧ interruptions [turn.exchange] = 0

def unhinderedAnswers (party : Party) (before : SocketPair) (call : StreamCall)
    (reply : call.Reply) (after : SocketPair) : Prop :=
  SocketPair.answers party before call reply after ∧ Unhindered ⟨party, ⟨call, reply⟩⟩

theorem unhindered_exchanges {history : SampleHistory} {party : Party}
    (hfine : ∀ entry ∈ history, Unhindered entry.2) :
    (∀ exchange ∈ exchangesBy party history, ¬ SocketFailure exchange) ∧
      interruptions (exchangesBy party history) = 0 := by
  have hown : ∀ exchange ∈ exchangesBy party history, Unhindered ⟨party, exchange⟩ := by
    intro exchange hmem
    obtain ⟨session, hentry⟩ := mem_exchangesBy.mp hmem
    exact hfine _ hentry
  refine ⟨fun exchange hmem => (hown exchange hmem).1, ?_⟩
  refine List.countP_eq_zero.mpr fun exchange hmem => ?_
  have hnone := (hown exchange hmem).2
  rw [interruptions, List.countP_singleton] at hnone
  simpa using hnone

namespace SocketPair

/-- The pair after its peer's bytes were read up to these. -/
def withUnread (pair : SocketPair) (party : Party) (rest : Bytes) : SocketPair :=
  { pair with inFlight := Function.update pair.inFlight party.peer rest }

def withSent (pair : SocketPair) (party : Party) (bytes : Bytes) : SocketPair :=
  { pair with inFlight := Function.update pair.inFlight party (pair.inFlight party ++ bytes) }

def withClosed (pair : SocketPair) (party : Party) : SocketPair :=
  { pair with closed := Function.update pair.closed party true }

variable {pair : SocketPair} {party : Party}

@[simp] theorem withSent_nil : pair.withSent party [] = pair := by
  simp [withSent]

@[simp] theorem withSent_withSent {first second : Bytes} :
    (pair.withSent party first).withSent party second = pair.withSent party (first ++ second) := by
  simp [withSent]

@[simp] theorem withSent_closed {bytes : Bytes} :
    (pair.withSent party bytes).closed = pair.closed := rfl

@[simp] theorem withUnread_closed {rest : Bytes} :
    (pair.withUnread party rest).closed = pair.closed := rfl

@[simp] theorem withUnread_inFlight {rest : Bytes} :
    (pair.withUnread party rest).inFlight party.peer = rest := by
  simp [withUnread]

@[simp] theorem withUnread_withUnread {first second : Bytes} :
    (pair.withUnread party first).withUnread party second = pair.withUnread party second := by
  simp [withUnread]

theorem withUnread_self {rest : Bytes} (hunread : pair.inFlight party.peer = rest) :
    pair.withUnread party rest = pair := by
  simp [withUnread, ← hunread]

end SocketPair

section Answers

variable {party : Party} {pair : SocketPair}

theorem unhindered_send {bytes : Bytes} (hopen : pair.closed party = false) :
    unhinderedAnswers party pair (.send bytes) (.ok bytes.length) (pair.withSent party bytes) := by
  refine ⟨⟨le_rfl, hopen, by simp [SocketPair.withSent]⟩, ?_, by simp [interruptions]⟩
  simp [SocketFailure]

theorem unhindered_recv {chunk rest : Bytes} (hunread : pair.inFlight party.peer = chunk ++ rest)
    (hchunk : chunk ≠ []) :
    unhinderedAnswers party pair (.recv chunk.length) (.ok chunk) (pair.withUnread party rest) := by
  refine ⟨⟨le_rfl, fun hempty => absurd hempty hchunk, rest, hunread, rfl⟩, ?_,
    by simp [interruptions]⟩
  simp [SocketFailure]

theorem unhindered_now (reading : ℤ) : unhinderedAnswers party pair .now reading pair := by
  refine ⟨rfl, ?_, by simp [interruptions]⟩
  simp [SocketFailure]

theorem unhindered_poll (event : PollEvent) (timeout : ℤ) (answer : PollAnswer) :
    unhinderedAnswers party pair (.poll event timeout) answer pair := by
  refine ⟨rfl, ?_, by simp [interruptions]⟩
  simp [SocketFailure]

theorem unhindered_accept {fd : ℤ} (hfd : 0 ≤ fd) :
    unhinderedAnswers party pair .accept (.ok fd) pair := by
  refine ⟨⟨hfd, rfl⟩, ?_, by simp [interruptions]⟩
  simp [SocketFailure]

theorem unhindered_close (fd : ℤ) :
    unhinderedAnswers party pair (.close fd) () (pair.withClosed party) := by
  refine ⟨rfl, ?_, by simp [interruptions]⟩
  simp [SocketFailure]

end Answers

/-! ## Transfers -/

section Transfers

variable {party : Party} {pair : SocketPair} {bytes chunk rest : Bytes} {deadline : ℤ}
  {polls passes : ℕ}

theorem waitForDescriptor_unhindered (event : PollEvent) (operation : String) :
    Runs (unhinderedAnswers party) (Calls.waitForDescriptor event deadline operation (polls + 1))
      pair .ready pair := by
  rw [Calls.waitForDescriptor_succ]
  refine .answered (0 : ℤ) (unhindered_now 0) ?_
  refine .answered (.events ⟨true, true, false, false, false⟩) (unhindered_poll _ _ _) ?_
  cases event <;> exact .done _ _

theorem writeAll_unhindered (hopen : pair.closed party = false) :
    Runs (unhinderedAnswers party) (Calls.writeAll (passes + 1) bytes) pair .complete
      (pair.withSent party bytes) := by
  cases bytes with
  | nil =>
      rw [SocketPair.withSent_nil]
      exact .done _ _
  | cons byte bytes =>
      rw [Calls.writeAll_succ]
      refine .answered (.ok (byte :: bytes).length) (unhindered_send hopen) ?_
      simp [Calls.sendPass]

theorem writeAllTimed_unhindered (hopen : pair.closed party = false) :
    Runs (unhinderedAnswers party) (Calls.writeAllTimed deadline (polls + 1) (passes + 1) bytes)
      pair .complete (pair.withSent party bytes) := by
  cases bytes with
  | nil =>
      rw [SocketPair.withSent_nil]
      exact .done _ _
  | cons byte bytes =>
      rw [Calls.writeAllTimed_succ]
      refine runs_bind_iff.mpr ⟨_, _, waitForDescriptor_unhindered _ _, ?_⟩
      refine .answered (.ok (byte :: bytes).length) (unhindered_send hopen) ?_
      simp [Calls.sendPass]

theorem readAll_unhindered (hunread : pair.inFlight party.peer = chunk ++ rest) :
    Runs (unhinderedAnswers party) (Calls.readAll (passes + 1) chunk.length) pair
      ⟨.complete, chunk⟩ (pair.withUnread party rest) := by
  cases chunk with
  | nil =>
      rw [List.nil_append] at hunread
      rw [SocketPair.withUnread_self hunread]
      exact .done _ _
  | cons byte bytes =>
      rw [List.length_cons, Calls.readAll_succ]
      refine .answered (.ok (byte :: bytes)) (unhindered_recv hunread (List.cons_ne_nil _ _)) ?_
      simp [Calls.recvPass]

theorem readAllTimed_unhindered (hunread : pair.inFlight party.peer = chunk ++ rest) :
    Runs (unhinderedAnswers party)
      (Calls.readAllTimed deadline (polls + 1) (passes + 1) chunk.length) pair
      ⟨.complete, chunk⟩ (pair.withUnread party rest) := by
  cases chunk with
  | nil =>
      rw [List.nil_append] at hunread
      rw [SocketPair.withUnread_self hunread]
      exact .done _ _
  | cons byte bytes =>
      rw [List.length_cons, Calls.readAllTimed_succ]
      refine runs_bind_iff.mpr ⟨_, _, waitForDescriptor_unhindered _ _, ?_⟩
      refine .answered (.ok (byte :: bytes)) (unhindered_recv hunread (List.cons_ne_nil _ _)) ?_
      simp [Calls.recvPass]

/-- The payload behind a header. -/
theorem readAll_message :
    Runs (unhinderedAnswers party) (Calls.readAll (passes + 1) chunk.length)
      (pair.withUnread party chunk) ⟨.complete, chunk⟩ (pair.withUnread party []) := by
  have hunread : (pair.withUnread party chunk).inFlight party.peer = chunk ++ [] := by simp
  simpa using readAll_unhindered hunread

theorem readAllTimed_message :
    Runs (unhinderedAnswers party)
      (Calls.readAllTimed deadline (polls + 1) (passes + 1) chunk.length)
      (pair.withUnread party chunk) ⟨.complete, chunk⟩ (pair.withUnread party []) := by
  have hunread : (pair.withUnread party chunk).inFlight party.peer = chunk ++ [] := by simp
  simpa using readAllTimed_unhindered hunread

/-! ## Messages -/

variable {connection : UnixSocketConnection} {message : Bytes} {timeout : ℤ} {maxSize : ℕ}

theorem sendMessage_unhindered (hopen : connection.isOpen) (hsize : message.length ≤ uint32Max)
    (hend : pair.closed party = false) :
    Runs (unhinderedAnswers party) (Calls.sendMessage connection message (passes + 1)) pair
      .complete (pair.withSent party (frame message)) := by
  rw [Calls.sendMessage_of_accepted hopen hsize]
  refine runs_bind_iff.mpr ⟨_, _, writeAll_unhindered hend, ?_⟩
  rw [frame, ← SocketPair.withSent_withSent]
  exact writeAll_unhindered hend

theorem sendMessageTimed_unhindered (hopen : connection.isOpen) (htimeout : 0 ≤ timeout)
    (hsize : message.length ≤ uint32Max) (hend : pair.closed party = false) :
    Runs (unhinderedAnswers party)
      (Calls.sendMessageTimed connection message timeout (polls + 1) (passes + 1)) pair
      .complete (pair.withSent party (frame message)) := by
  rw [Calls.sendMessageTimed_of_accepted hopen htimeout hsize]
  refine .answered (0 : ℤ) (unhindered_now 0) ?_
  refine runs_bind_iff.mpr ⟨_, _, writeAllTimed_unhindered hend, ?_⟩
  rw [frame, ← SocketPair.withSent_withSent]
  exact writeAllTimed_unhindered hend

theorem receivePayload_unhindered {read : ℕ → StreamProgram Calls.ReadResult}
    (hsize : message.length < 2 ^ 32)
    (hread : Runs (unhinderedAnswers party) (read message.length) (pair.withUnread party message)
      ⟨.complete, message⟩ (pair.withUnread party [])) :
    ∃ unread, Runs (unhinderedAnswers party)
      (Calls.receivePayload maxSize read ⟨.complete, htonl message.length⟩)
      (pair.withUnread party message) (receivedFrame maxSize message)
      (pair.withUnread party unread) := by
  simp only [Calls.receivePayload, ntohl_htonl hsize, receivedFrame]
  by_cases hlarge : message.length > maxSize
  · rw [if_pos hlarge, if_neg (by omega)]
    exact ⟨message, .done _ _⟩
  · rw [if_neg hlarge, if_pos (by omega)]
    refine ⟨[], runs_bind_iff.mpr ⟨_, _, hread, ?_⟩⟩
    rw [Calls.overwritten_full rfl]
    exact .done _ _

theorem receiveMessage_unhindered (hopen : connection.isOpen) (hsize : message.length < 2 ^ 32)
    (hunread : pair.inFlight party.peer = frame message) :
    ∃ unread, Runs (unhinderedAnswers party)
      (Calls.receiveMessage connection maxSize (passes + 1)) pair
      (receivedFrame maxSize message) (pair.withUnread party unread) := by
  rw [Calls.receiveMessage_of_open hopen]
  have hheader : Runs (unhinderedAnswers party) (Calls.readAll (passes + 1) 4) pair
      ⟨.complete, htonl message.length⟩ (pair.withUnread party message) :=
    readAll_unhindered hunread
  obtain ⟨unread, hpayload⟩ := receivePayload_unhindered hsize (readAll_message)
  exact ⟨unread, runs_bind_iff.mpr ⟨_, _, hheader, hpayload⟩⟩

theorem receiveMessageTimed_unhindered (hopen : connection.isOpen) (htimeout : 0 ≤ timeout)
    (hsize : message.length < 2 ^ 32) (hunread : pair.inFlight party.peer = frame message) :
    ∃ unread, Runs (unhinderedAnswers party)
      (Calls.receiveMessageTimed connection maxSize timeout (polls + 1) (passes + 1)) pair
      (receivedFrame maxSize message) (pair.withUnread party unread) := by
  rw [Calls.receiveMessageTimed_of_accepted hopen htimeout]
  have hheader : Runs (unhinderedAnswers party)
      (Calls.readAllTimed (deadlineAfter 0 timeout) (polls + 1) (passes + 1) 4) pair
      ⟨.complete, htonl message.length⟩ (pair.withUnread party message) :=
    readAllTimed_unhindered hunread
  obtain ⟨unread, hpayload⟩ := receivePayload_unhindered hsize (readAllTimed_message)
  refine ⟨unread, .answered (0 : ℤ) (unhindered_now 0) ?_⟩
  exact runs_bind_iff.mpr ⟨_, _, hheader, hpayload⟩

end Transfers

/-! ## A whole session -/

section Sessions

variable {pair : SocketPair} {party : Party} {connection : UnixSocketConnection}
  {message : Bytes} {server : UnixSocketServer} {polls passes : ℕ}

theorem closing_unhindered {Result : Type} (value : Result) (hopen : connection.isOpen) :
    Runs (unhinderedAnswers party) (closing connection value) pair value
      (pair.withClosed party) := by
  have hfd : connection.fd ≥ 0 := by simpa [UnixSocketConnection.isOpen] using hopen
  unfold closing UnixSocketConnection.close
  rw [if_pos hfd]
  exact .answered () (unhindered_close _) (.done _ _)

theorem tryAccept_unhindered (hlistening : server.isListening) (timeout : ℤ) :
    Runs (unhinderedAnswers party) (server.tryAccept {} timeout (passes + 2)) pair
      (some ⟨true, ⟨4⟩, none⟩) pair := by
  have haccept : Runs (unhinderedAnswers party) (server.accept (passes + 1)) pair
      (some ⟨⟨4⟩, none⟩) pair := by
    unfold UnixSocketServer.accept
    rw [hlistening]
    exact .answered (.ok 4) (unhindered_accept (by decide)) (.done _ _)
  unfold UnixSocketServer.tryAccept
  refine runs_bind_iff.mpr ⟨{}, pair, .done _ _, ?_⟩
  rw [hlistening, Bool.not_true, if_neg Bool.false_ne_true,
    UnixSocketServer.waitForClient_succ]
  refine .answered (.events ⟨true, true, false, false, false⟩) (unhindered_poll _ _ _) ?_
  exact runs_bind_iff.mpr ⟨_, _, haccept, .done _ _⟩

theorem listenerRound_unhindered (hlistening : server.isListening)
    (hlimit : message.length ≤ sampleMaxSize) (hclosed : pair.closed .listener = false)
    (hunread : pair.inFlight .client = frame message) :
    ∃ unread, Runs (unhinderedAnswers .listener)
      (listenerRound server (polls + 1) (passes + 2)) pair (.replied message none)
      (((pair.withUnread .listener unread).withSent .listener
        (frame (sampleReply message))).withClosed .listener) := by
  unfold sampleMaxSize at hlimit
  have hopen : (⟨4⟩ : UnixSocketConnection).isOpen := by decide
  obtain ⟨unread, hreceive⟩ := @receiveMessageTimed_unhindered .listener pair polls (passes + 1)
    ⟨4⟩ message 500 sampleMaxSize hopen (by decide) (by omega) hunread
  have hreceived : receivedFrame sampleMaxSize message = ⟨.complete, message⟩ := if_pos hlimit
  rw [hreceived] at hreceive
  have hlength := sampleReply_length message
  have hsend := @sendMessageTimed_unhindered .listener (pair.withUnread .listener unread) polls
    (passes + 1) ⟨4⟩ (sampleReply message) 500 hopen (by decide)
    (by unfold uint32Max; omega) hclosed
  refine ⟨unread, runs_bind_iff.mpr ⟨_, _, tryAccept_unhindered hlistening 100, ?_⟩⟩
  refine runs_bind_iff.mpr ⟨_, _, hreceive, ?_⟩
  exact runs_bind_iff.mpr ⟨_, _, hsend, closing_unhindered _ hopen⟩

/-- The client comes to an end behind the reply, one way or another. -/
theorem printResponse_unhindered (response : Calls.ReceiveResult) (hopen : connection.isOpen) :
    ∃ result after, Runs (unhinderedAnswers party) (printResponse connection response) pair
      result after := by
  unfold printResponse
  split
  · exact ⟨_, _, .done _ _⟩
  · exact ⟨_, _, closing_unhindered _ hopen⟩
  · exact ⟨_, _, closing_unhindered _ hopen⟩

/-- Every request that the listener accepts is answered in some session. -/
theorem exists_replied_session (hopen : connection.isOpen) (hlistening : server.isListening)
    (hlimit : message.length ≤ sampleMaxSize) (clientPasses : ℕ) :
    ∃ history session result,
      Run (TurnStep SocketPair.answers)
        (sampleSession (clientMain connection message (clientPasses + 1))
          (listenerRound server (polls + 1) (passes + 2))) history session ∧
      session.programs .listener = .done (.replied message none) ∧
      session.programs .client = .done result ∧
      ∀ entry ∈ history, Unhindered entry.2 := by
  have hlength := sampleReply_length message
  unfold sampleMaxSize at hlimit
  let start : SocketPair := ⟨fun _ => [], fun _ => false⟩
  let sent := start.withSent .client (frame message)
  have hsend : Runs (unhinderedAnswers .client)
      (Calls.sendMessage connection message (clientPasses + 1)) start .complete sent :=
    sendMessage_unhindered hopen (by unfold uint32Max; omega) rfl
  obtain ⟨unread, hround⟩ := @listenerRound_unhindered sent message server polls passes
    hlistening hlimit rfl rfl
  let replied := ((sent.withUnread .listener unread).withSent .listener
    (frame (sampleReply message))).withClosed .listener
  obtain ⟨rest, hreceive⟩ := @receiveMessage_unhindered .client replied clientPasses connection
    (sampleReply message) sampleMaxSize hopen (by omega) rfl
  obtain ⟨result, final, hprint⟩ := @printResponse_unhindered (replied.withUnread .client rest)
    .client connection (receivedFrame sampleMaxSize (sampleReply message)) hopen
  let session := sampleSession (clientMain connection message (clientPasses + 1))
    (listenerRound server (polls + 1) (passes + 2))
  have hstart : Run (TurnStep unhinderedAnswers) session [] session := .start
  obtain ⟨_, hsent⟩ := exists_run_of_runs hsend hstart rfl
  obtain ⟨_, hreplied⟩ := exists_run_of_runs hround hsent (bind_done _).symm
  obtain ⟨history, hdone⟩ := exists_run_of_runs (runs_bind_iff.mpr ⟨_, _, hreceive, hprint⟩)
    hreplied (bind_done _).symm
  obtain ⟨hrun, hfine⟩ := run_of_stronger (fun hanswer => hanswer) hdone
  exact ⟨history, _, result, hrun, rfl, rfl, hfine⟩

end Sessions

end ElapPlatform.Ipc
