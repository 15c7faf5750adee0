import ElapPlatform.ParallelPrograms
import ElapPlatform.UnixSocketAcceptTimeout

/-!
# The sample client and the sample server

One round of the listener thread of `sample_ipc_server`, `main` of `sample_ipc_client` from
its connection on, and the two of them on one socket pair.
-/

namespace ElapPlatform.Ipc

open Interaction Interaction.Program

/-- `64 * 1024`, in both programs -/
def sampleMaxSize : ℕ := 64 * 1024

def replyPrefix : Bytes := "sample_ipc_server:".toList.map Char.toUInt8

def sampleReply (request : Bytes) : Bytes := replyPrefix ++ request

theorem sampleReply_length (request : Bytes) :
    (sampleReply request).length = request.length + 18 := by
  have hprefix : replyPrefix.length = 18 := by decide
  rw [sampleReply, List.length_append, hprefix, Nat.add_comm]

/-! ## The listener -/

/-- What a round of the loop comes to; its error texts are logged. -/
inductive ListenerRound where
  | notAccepted (error : Option ErrorText)
  | notReceived (error : ErrorText)
  | replied (request : Bytes) (error : Option ErrorText)
  /-- Some call has not returned. -/
  | waiting
  deriving DecidableEq, Repr

/-- The destructor of the connection closes it at the end of a round. -/
def closing {Result : Type} (connection : UnixSocketConnection) (result : Result) :
    StreamProgram Result := do
  let _ ← connection.close
  return result

def replyTo (connection : UnixSocketConnection) (polls passes : ℕ)
    (request : Calls.ReceiveResult) : StreamProgram ListenerRound :=
  match request.outcome with
  | .waiting => return .waiting
  | .failed error => closing connection (.notReceived error)
  | .complete => do
    match ← Calls.sendMessageTimed connection (sampleReply request.message) 500 polls passes with
    | .waiting => return .waiting
    | .failed error => closing connection (.replied request.message (some error))
    | .complete => closing connection (.replied request.message none)

def listenerRound (server : UnixSocketServer) (polls passes : ℕ) :
    StreamProgram ListenerRound := do
  match ← server.tryAccept {} 100 passes with
  | none => return .waiting
  | some ⟨false, _, error⟩ => return .notAccepted error
  | some ⟨true, connection, _⟩ =>
    let request ← Calls.receiveMessageTimed connection sampleMaxSize 500 polls passes
    replyTo connection polls passes request

/-! ## The client -/

/-- What `main` writes: the response to `std::cout` before it returns 0, or an error to
`std::cerr` before it returns 1. -/
inductive ClientResult where
  | printed (response : Bytes)
  | failed (error : ErrorText)
  | waiting
  deriving DecidableEq, Repr

def printResponse (connection : UnixSocketConnection) (response : Calls.ReceiveResult) :
    StreamProgram ClientResult :=
  match response.outcome with
  | .waiting => return .waiting
  | .failed error => closing connection (.failed error)
  | .complete => closing connection (.printed response.message)

def clientMain (connection : UnixSocketConnection) (message : Bytes) (passes : ℕ) :
    StreamProgram ClientResult := do
  match ← Calls.sendMessage connection message passes with
  | .waiting => return .waiting
  | .failed error => closing connection (.failed error)
  | .complete =>
    let response ← Calls.receiveMessage connection sampleMaxSize passes
    printResponse connection response

/-! ## The two of them -/

inductive Party where
  | client
  | listener
  deriving DecidableEq, Repr

def Party.peer : Party → Party
  | .client => .listener
  | .listener => .client

abbrev Party.Result : Party → Type
  | .client => ClientResult
  | .listener => ListenerRound

/-- What each party has sent and its peer has not read, and whether it has closed its end. -/
structure SocketPair where
  inFlight : Party → Bytes
  closed : Party → Bool

/-- The kernel takes a part of what is sent, and hands over a part of what is in flight.  The
stream ends behind the last byte of a peer that has closed its end.  Clocks, polls and errors
are arbitrary. -/
def SocketPair.answers (party : Party) (before : SocketPair) :
    (call : StreamCall) → call.Reply → SocketPair → Prop
  | .send bytes, reply, after =>
      match (reply : SystemResult ℕ) with
      | .ok count => count ≤ bytes.length ∧ before.closed party = false ∧
          after = { before with
            inFlight := Function.update before.inFlight party
              (before.inFlight party ++ bytes.take count) }
      | .error _ => after = before
  | .recv size, reply, after =>
      match (reply : SystemResult Bytes) with
      | .ok chunk => chunk.length ≤ size ∧
          (chunk = [] → before.inFlight party.peer = [] ∧ before.closed party.peer = true) ∧
          ∃ rest, before.inFlight party.peer = chunk ++ rest ∧
            after = { before with
              inFlight := Function.update before.inFlight party.peer rest }
      | .error _ => after = before
  | .accept, reply, after =>
      match (reply : SystemResult ℤ) with
      | .ok fd => 0 ≤ fd ∧ after = before
      | .error _ => after = before
  | .close _, _, after =>
      after = { before with closed := Function.update before.closed party true }
  | .now, _, after => after = before
  | .poll _ _, _, after => after = before

abbrev SampleSession := Parallel StreamCall StreamCall.Reply Party.Result SocketPair

abbrev SampleHistory := TurnHistory Party StreamCall StreamCall.Reply Party.Result SocketPair

/-- The client has connected, and the listener begins a round. -/
def sampleSession (client : StreamProgram ClientResult) (listener : StreamProgram ListenerRound) :
    SampleSession where
  state := ⟨fun _ => [], fun _ => false⟩
  programs
    | .client => client
    | .listener => listener

end ElapPlatform.Ipc
