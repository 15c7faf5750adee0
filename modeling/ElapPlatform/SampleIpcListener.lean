import ElapPlatform.InteractionRecording
import ElapPlatform.SampleIpcLimits

/-!
# The listener of the sample server

The whole worker of `sample_ipc_server`: round after round until its stop token is set,
with its log lines.  It serves one connection at a time.
-/

namespace ElapPlatform.Ipc

open Interaction Interaction.Program

inductive ListenerLine where
  | warning (error : ErrorText)
  /-- `"received request: " + request` -/
  | received (request : Bytes)
  deriving DecidableEq, Repr

abbrev ListenerProgram (α : Type) := RecordedProgram ListenerLine StreamCall.Reply α

section Worker

variable (polls passes : ℕ)

/-- A warning, if there is something to warn of. -/
def warnOf : Option ErrorText → ListenerProgram Unit
  | none => return ()
  | some error => report (.warning error)

end Worker

inductive HandleEvent where
  | opened (fd : ℤ)
  | closed (fd : ℤ)
  deriving DecidableEq, Repr

def handleOf : StreamExchange → Option HandleEvent
  | ⟨.accept, .ok fd⟩ => if 0 ≤ fd then some (.opened fd) else none
  | ⟨.close fd, _⟩ => some (.closed fd)
  | _ => none

/-- The descriptors of connections that come and go. -/
def handles (exchanges : List StreamExchange) : List HandleEvent := exchanges.filterMap handleOf

/-- Each connection is closed, once, before the next one is accepted. -/
inductive EachClosed : List HandleEvent → Prop
  | nil : EachClosed []
  | cons (fd : ℤ) {later : List HandleEvent} (hlater : EachClosed later) :
      EachClosed (.opened fd :: .closed fd :: later)

/-- The last connection may still be open. -/
def OneAtATime (events : List HandleEvent) : Prop :=
  EachClosed events ∨ ∃ closed fd, EachClosed closed ∧ events = closed ++ [.opened fd]

structure ListenerTurn where
  exchanges : List StreamExchange
  lines : List ListenerLine
  result : ListenerRound

/-- A connection was served from its accept to its close. -/
def ServedOne (exchanges : List StreamExchange) : Prop :=
  ∃ fd, handles exchanges = [.opened fd, .closed fd]

/-- What the client has sent is a request, and what it got begins its reply. -/
structure Answering (exchanges : List StreamExchange) (request : Bytes) : Prop where
  received : receivedBytes exchanges = frame request
  short : request.length ≤ sampleMaxSize
  sent : sentBytes exchanges <+: frame (sampleReply request)

/-- A call of the round has not returned. -/
structure Unfinished (turn : ListenerTurn) : Prop where
  opened : handles turn.exchanges = [] ∨ ∃ fd, handles turn.exchanges = [.opened fd]
  answering : turn.lines = [] ∧ sentBytes turn.exchanges = [] ∨
    ∃ request, turn.lines = [.received request] ∧ Answering turn.exchanges request

def ListenerTurn.Served (turn : ListenerTurn) : Prop :=
  match turn.result with
  | .notAccepted error => turn.lines = error.toList.map .warning ∧
      handles turn.exchanges = [] ∧ sentBytes turn.exchanges = []
  | .notReceived error => turn.lines = [.warning error] ∧ ServedOne turn.exchanges ∧
      sentBytes turn.exchanges = []
  | .replied request error => turn.lines = .received request :: error.toList.map .warning ∧
      ServedOne turn.exchanges ∧ Answering turn.exchanges request ∧
        (error = none ↔ sentBytes turn.exchanges = frame (sampleReply request))
  | .waiting => Unfinished turn

/-! ## One round -/

section Round

variable {exchanges first last : List StreamExchange} {connection : UnixSocketConnection}
  {server : UnixSocketServer} {polls passes : ℕ}

@[simp] theorem handles_append :
    handles (first ++ last) = handles first ++ handles last := List.filterMap_append

def openedBy (connection : UnixSocketConnection) : List HandleEvent :=
  if connection.isOpen then [.opened connection.fd] else []

/-- `tryAccept` reports whether it has opened a connection. -/
def Opens (exchanges : List StreamExchange) (result : Option TryAcceptResult) : Prop :=
  result.elim (handles exchanges = []) fun accepted =>
    accepted.accepted = accepted.connection.isOpen ∧
      handles exchanges = openedBy accepted.connection

theorem closing_handles {Result : Type} {value result : Result} (hopen : connection.isOpen = true)
    (htranscript : Transcript (closing connection value) exchanges result) :
    result = value ∧ Quiet exchanges ∧ handles exchanges = [.closed connection.fd] := by
  obtain ⟨hresult, hquiet, -⟩ := closing_transcript htranscript
  refine ⟨hresult, hquiet, ?_⟩
  have hfd : connection.fd ≥ 0 := by simpa [UnixSocketConnection.isOpen] using hopen
  rw [closing, UnixSocketConnection.close, if_pos hfd] at htranscript
  obtain ⟨first, _, after, rfl, hclose, hdone⟩ := transcript_bind_iff.mp htranscript
  obtain ⟨rfl, -⟩ := transcript_done_iff.mp hdone
  obtain ⟨reply, rest, rfl, hrest⟩ := transcript_ask_iff.mp hclose
  obtain ⟨rfl, -⟩ := transcript_done_iff.mp hrest
  rfl

/-- What a round has done up to its reply. -/
structure Accepted (connection : UnixSocketConnection) (request : Calls.ReceiveResult)
    (exchanges : List StreamExchange) : Prop where
  isOpen : connection.isOpen = true
  opened : handles exchanges = [.opened connection.fd]
  unsent : sentBytes exchanges = []
  received : request.outcome = .complete →
    receivedBytes exchanges = frame request.message ∧ request.message.length ≤ sampleMaxSize

theorem Accepted.closed {Result : Type} {value result : Result} {request : Calls.ReceiveResult}
    {before : List StreamExchange} {turns : List (RecordedExchange ListenerLine StreamCall.Reply)}
    (haccepted : Accepted connection request before) (hhandles : handles exchanges = [])
    (htranscript : Transcript (closing connection value).silent turns result) :
    result = value ∧ reported turns = [] ∧ ServedOne (before ++ (exchanges ++ asked turns)) ∧
      sentBytes (asked turns) = [] ∧ receivedBytes (asked turns) = [] := by
  obtain ⟨hresult, hquiet, hclosed⟩ := closing_handles haccepted.isOpen htranscript.of_silent
  refine ⟨hresult, htranscript.reported_silent, ⟨connection.fd, ?_⟩, hquiet.sent,
    hquiet.received⟩
  rw [handles_append, handles_append, haccepted.opened, hhandles, hclosed]
  rfl

/-- A request was received, and the frame of its reply handed over as far as `outcome`. -/
structure Replying (connection : UnixSocketConnection) (message : Bytes)
    (before sends : List StreamExchange) (outcome : Outcome) : Prop where
  accepted : Accepted connection ⟨.complete, message⟩ before
  handled : handles sends = []
  unreceived : receivedBytes sends = []
  sends : Sends (frame (sampleReply message)) sends outcome

section Replies

variable {message : Bytes} {before sends : List StreamExchange} {outcome : Outcome}
  {turns : List (RecordedExchange ListenerLine StreamCall.Reply)} {result : ListenerRound}

/-- The reply is what was sent, whatever closes the connection. -/
theorem Replying.answering (hreplying : Replying connection message before sends outcome)
    {closes : List StreamExchange} (hunsent : sentBytes closes = [])
    (hunreceived : receivedBytes closes = []) :
    Answering (before ++ (sends ++ closes)) message ∧
      sentBytes (before ++ (sends ++ closes)) = sentBytes sends := by
  obtain ⟨hreceived, hshort⟩ := hreplying.accepted.received rfl
  have hwhole : sentBytes (before ++ (sends ++ closes)) = sentBytes sends := by
    rw [sentBytes_append, sentBytes_append, hreplying.accepted.unsent, hunsent, List.append_nil]
    rfl
  refine ⟨⟨?_, hshort, hwhole ▸ hreplying.sends.initial⟩, hwhole⟩
  rw [receivedBytes_append, receivedBytes_append, hreplying.unreceived, hunreceived,
    List.append_nil, List.append_nil]
  exact hreceived

theorem Replying.failed {error : ErrorText}
    (hreplying : Replying connection message before sends (.failed error))
    (htranscript : Transcript (do
      warnOf (some error)
      (closing connection (.replied message (some error))).silent) turns result) :
    ListenerTurn.Served
      ⟨before ++ (sends ++ asked turns), .received message :: reported turns, result⟩ := by
  obtain ⟨warns, closes, _, rfl, hwarn, hclosing⟩ := transcript_bind_iff.mp htranscript
  obtain rfl := transcript_report_iff.mp hwarn
  obtain ⟨rfl, hsilent, hserved, hunsent, hnone⟩ :=
    hreplying.accepted.closed hreplying.handled hclosing
  obtain ⟨hanswer, hwhole⟩ := hreplying.answering hunsent hnone
  refine ⟨congrArg (_ :: _ :: ·) hsilent, hserved, hanswer, ?_⟩
  have hincomplete : sentBytes sends ≠ frame (sampleReply message) :=
    fun hsent => nomatch hreplying.sends.complete_iff.mpr hsent
  exact iff_of_false (nomatch ·) fun hsent => hincomplete (hwhole.symm.trans hsent)

theorem Replying.complete (hreplying : Replying connection message before sends .complete)
    (htranscript : Transcript (closing connection (ListenerRound.replied message none)).silent
      turns result) :
    ListenerTurn.Served
      ⟨before ++ (sends ++ asked turns), .received message :: reported turns, result⟩ := by
  obtain ⟨rfl, hsilent, hserved, hunsent, hnone⟩ :=
    hreplying.accepted.closed hreplying.handled htranscript
  obtain ⟨hanswer, hwhole⟩ := hreplying.answering hunsent hnone
  refine ⟨congrArg (_ :: ·) hsilent, hserved, hanswer, ?_⟩
  exact iff_of_true rfl (hwhole.trans (hreplying.sends.complete_iff.mp rfl))

end Replies

end Round

/-! ## The loop -/

section Loop

variable {polls passes : ℕ} {server : UnixSocketServer} {servers : List UnixSocketServer}
  {turns : List (RecordedExchange ListenerLine StreamCall.Reply)} {finished : Bool}

theorem EachClosed.append {closed later : List HandleEvent} (hclosed : EachClosed closed)
    (hlater : EachClosed later) : EachClosed (closed ++ later) := by
  induction hclosed with
  | nil => exact hlater
  | cons fd hrest ih => exact .cons fd ih

theorem OneAtATime.after {closed later : List HandleEvent} (hlater : OneAtATime later)
    (hclosed : EachClosed closed) : OneAtATime (closed ++ later) := by
  rcases hlater with hlater | ⟨ended, fd, hended, rfl⟩
  · exact .inl (hclosed.append hlater)
  · exact .inr ⟨closed ++ ended, fd, hclosed.append hended, (List.append_assoc _ _ _).symm⟩

/-- The rounds of the loop, of which only the last may not have ended. -/
structure Rounds (polls passes : ℕ) (servers : List UnixSocketServer)
    (exchanges : List StreamExchange) (lines : List ListenerLine) (finished : Bool)
    (rounds : List ListenerTurn) : Prop where
  exchanges : exchanges = rounds.flatMap ListenerTurn.exchanges
  lines : lines = rounds.flatMap ListenerTurn.lines
  served : ∀ round ∈ rounds, round.Served ∧ ∃ server ∈ servers,
    Transcript (listenerRound server polls passes) round.exchanges round.result
  count : rounds.length ≤ servers.length
  finished : finished = true →
    rounds.length = servers.length ∧ ∀ round ∈ rounds, round.result ≠ .waiting

theorem Rounds.none : Rounds polls passes [] [] [] true [] where
  exchanges := rfl
  lines := rfl
  served := by simp
  count := le_rfl
  finished := by simp

theorem Rounds.one {turn : ListenerTurn} (hserved : turn.Served)
    (hround : Transcript (listenerRound server polls passes) turn.exchanges turn.result) :
    Rounds polls passes (server :: servers) turn.exchanges turn.lines false [turn] where
  exchanges := by simp
  lines := by simp
  served := by simpa using ⟨hserved, .inl hround⟩
  count := by simp
  finished := by simp

theorem Rounds.cons {turn : ListenerTurn} {exchanges : List StreamExchange}
    {lines : List ListenerLine} {rounds : List ListenerTurn}
    (hrounds : Rounds polls passes servers exchanges lines finished rounds)
    (hserved : turn.Served) (hended : turn.result ≠ .waiting)
    (hround : Transcript (listenerRound server polls passes) turn.exchanges turn.result) :
    Rounds polls passes (server :: servers) (turn.exchanges ++ exchanges) (turn.lines ++ lines)
      finished (turn :: rounds) where
  exchanges := by rw [hrounds.exchanges, List.flatMap_cons]
  lines := by rw [hrounds.lines, List.flatMap_cons]
  served := by
    refine List.forall_mem_cons.mpr ⟨⟨hserved, server, List.mem_cons_self, hround⟩, ?_⟩
    intro round hmem
    obtain ⟨hother, found, hfound, hplain⟩ := hrounds.served round hmem
    exact ⟨hother, found, List.mem_cons_of_mem server hfound, hplain⟩
  count := Nat.succ_le_succ hrounds.count
  finished hfinished := by
    obtain ⟨hcount, hresults⟩ := hrounds.finished hfinished
    exact ⟨congrArg (· + 1) hcount, List.forall_mem_cons.mpr ⟨hended, hresults⟩⟩

end Loop

def ready : Revents := ⟨true, true, false, false, false⟩

end ElapPlatform.Ipc
