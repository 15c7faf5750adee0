import ElapPlatform.GrantLedger
import ElapPlatform.InteractionInterpretation
import ElapPlatform.TransitionRun
import ElapPlatform.UnixSocketAcceptTimeout
import ElapPlatform.UnixSocketMovedBytes

/-!
# Descriptors of sockets

Any number of connections and servers are constructed, moved, connected, accepted, used,
closed and destroyed in any order.  `listen` holds two descriptors for a while, and gives
back what it does not keep on each of its ways out.
-/

namespace ElapPlatform.Ipc

open Interaction Interaction.Program Transition

/-! ## The special members and the client -/

namespace UnixSocketConnection

/-- The new connection, and what is left of the other. -/
def moveConstruct (other : UnixSocketConnection) : UnixSocketConnection × UnixSocketConnection :=
  (⟨other.fd⟩, ⟨-1⟩)

/-- `operator=` between two different connections. -/
def moveAssign (connection other : UnixSocketConnection) :
    StreamProgram (UnixSocketConnection × UnixSocketConnection) := do
  let _ ← connection.close
  return other.moveConstruct

def descriptor (connection : UnixSocketConnection) : Option ℤ :=
  if connection.fd ≥ 0 then some connection.fd else none

theorem descriptor_of_closed {connection : UnixSocketConnection} (hclosed : ¬ connection.fd ≥ 0) :
    connection.descriptor = none :=
  if_neg hclosed

theorem descriptor_of_open {connection : UnixSocketConnection} (hopen : connection.fd ≥ 0) :
    connection.descriptor = some connection.fd :=
  if_pos hopen

theorem isOpen_iff_descriptor {connection : UnixSocketConnection} :
    connection.isOpen = true ↔ connection.descriptor = some connection.fd := by
  unfold isOpen descriptor
  by_cases hopen : connection.fd ≥ 0
  · simp [hopen]
  · simp [hopen]

end UnixSocketConnection

def UnixSocketServer.descriptor (server : UnixSocketServer) : Option ℤ :=
  server.fd.map Int.ofNat

/-- `UnixSocketClient::connect` -/
def UnixSocketClient.connect (path : Bytes) : SocketProgram AcceptResult := do
  match fillAddress path with
  | .error error => return ⟨{}, some error⟩
  | .ok address =>
    match ← socket with
    | .error errno => return ⟨{}, some (systemError "socket" errno)⟩
    | .ok socketFd =>
      match ← Ipc.connect socketFd address with
      | .error errno =>
          let _ ← closeSocket socketFd
          return ⟨{}, some (systemError "connect" errno)⟩
      | .ok () => return ⟨⟨socketFd⟩, none⟩

/-! ## What the system calls settle -/

abbrev SocketLedger := GrantLedger ℤ

/-- A descriptor is new when the kernel returns it, and gone after `::close`. -/
def SocketCall.Settles (ledger : SocketLedger) :
    (call : SocketCall) → call.Reply → SocketLedger → Prop
  | .socket, reply, next =>
      match (reply : SystemResult SocketId) with
      | .ok fd => Int.ofNat fd ∉ ledger.out ∧ next = ledger.grant (Int.ofNat fd)
      | .error _ => next = ledger
  | .close fd, _, next => next = ledger.giveBack (Int.ofNat fd)
  | _, _, next => next = ledger

def StreamCall.Settles (ledger : SocketLedger) :
    (call : StreamCall) → call.Reply → SocketLedger → Prop
  | .accept, .ok fd, next => 0 ≤ fd ∧ fd ∉ ledger.out ∧ next = ledger.grant fd
  | .close fd, _, next => next = ledger.giveBack fd
  | _, _, next => next = ledger

section Calls

variable {ledger next : SocketLedger}

/-- A call that neither returns nor closes a descriptor. -/
def SocketCall.Unsettling : SocketCall → Prop
  | .socket => False
  | .close _ => False
  | _ => True

def StreamCall.Unsettling : StreamCall → Prop
  | .accept => False
  | .close _ => False
  | _ => True

theorem settles_nothing {α : Type} {program : SocketProgram α} {value : α}
    (hasks : program.AsksOnly SocketCall.Unsettling)
    (hrun : Runs SocketCall.Settles program ledger value next) : next = ledger := by
  refine hrun.invariant_of_asksOnly hasks (fun state => state = ledger) rfl ?_
  rintro before question reply after hquiet hanswer rfl
  cases question with
  | socket => exact hquiet.elim
  | close fd => exact hquiet.elim
  | _ => exact hanswer

theorem stream_settles_nothing {α : Type} {program : StreamProgram α} {value : α}
    (hasks : program.AsksOnly StreamCall.Unsettling)
    (hrun : Runs StreamCall.Settles program ledger value next) : next = ledger := by
  refine hrun.invariant_of_asksOnly hasks (fun state => state = ledger) rfl ?_
  rintro before question reply after hquiet hanswer rfl
  cases question with
  | accept => exact hquiet.elim
  | close fd => exact hquiet.elim
  | _ => exact hanswer

end Calls

/-! ## The socket calls of servers and clients -/

section Sockets

variable {ledger middle next : SocketLedger} {path address : Bytes}

theorem lstat_unsettling (path : Bytes) : (lstat path).AsksOnly SocketCall.Unsettling :=
  ⟨trivial, fun _ => asksOnly_done⟩

theorem unlinkOwnedSocketPath_unsettling (path : Bytes) (identity : FileIdentity) :
    (unlinkOwnedSocketPath path identity).AsksOnly SocketCall.Unsettling := by
  unfold unlinkOwnedSocketPath
  split_ifs
  · exact asksOnly_done
  · refine (lstat_unsettling path).bind fun reply => ?_
    cases reply with
    | error errno => exact asksOnly_done
    | ok status =>
        dsimp only
        split_ifs
        · exact ⟨trivial, fun _ => asksOnly_done⟩
        · exact asksOnly_done

theorem loadSocketPathIdentity_unsettling (path : Bytes) :
    (loadSocketPathIdentity path).AsksOnly SocketCall.Unsettling := by
  refine (lstat_unsettling path).bind fun reply => ?_
  cases reply with
  | error errno => exact asksOnly_done
  | ok status =>
      dsimp only
      split_ifs
      · exact asksOnly_done
      · exact asksOnly_done

/-- The socket of the probe is closed again. -/
theorem socketHasActiveListener_settles {active : Bool}
    (hrun : Runs SocketCall.Settles (socketHasActiveListener address) ledger active next) :
    ledger.Kept next := by
  obtain ⟨reply, opened, hsocket, hrest⟩ := runs_bind_iff.mp hrun
  have hsettles := runs_perform_iff.mp hsocket
  cases reply with
  | error errno =>
      obtain ⟨-, rfl⟩ := runs_done_iff.mp hrest
      obtain rfl : next = ledger := hsettles
      exact .refl _
  | ok probeFd =>
      obtain ⟨hfree, rfl⟩ := hsettles
      obtain ⟨connected, middle, hconnect, hrest⟩ := runs_bind_iff.mp hrest
      obtain rfl : middle = _ := runs_perform_iff.mp hconnect
      obtain ⟨closed, last, hclose, hdone⟩ := runs_bind_iff.mp hrest
      obtain rfl : last = _ := runs_perform_iff.mp hclose
      obtain ⟨-, rfl⟩ := runs_done_iff.mp hdone
      exact .giveBack hfree (.refl _)

theorem removeStaleSocketPath_settles {error : Option ErrorText}
    (hrun : Runs SocketCall.Settles (removeStaleSocketPath path address) ledger error next) :
    ledger.Kept next := by
  obtain ⟨reply, found, hlstat, hrest⟩ := runs_bind_iff.mp hrun
  obtain rfl : found = ledger := runs_perform_iff.mp hlstat
  cases reply with
  | error errno =>
      dsimp only at hrest
      split_ifs at hrest <;> rw [(runs_done_iff.mp hrest).2] <;> exact .refl _
  | ok status =>
      dsimp only at hrest
      split_ifs at hrest with hsocket
      · rw [(runs_done_iff.mp hrest).2]
        exact .refl _
      · obtain ⟨active, probed, hprobe, hrest⟩ := runs_bind_iff.mp hrest
        have hkept := socketHasActiveListener_settles hprobe
        split_ifs at hrest with hactive
        · rw [(runs_done_iff.mp hrest).2]
          exact hkept
        · obtain ⟨unlinked, removed, hunlink, hrest⟩ := runs_bind_iff.mp hrest
          obtain rfl : removed = probed := runs_perform_iff.mp hunlink
          have hlast : next = removed := by
            rcases unlinked with errno | done
            · dsimp only at hrest
              split_ifs at hrest <;> exact (runs_done_iff.mp hrest).2
            · exact (runs_done_iff.mp hrest).2
          exact hlast ▸ hkept

/-- A socket that was opened becomes the connection's, or is closed. -/
theorem connect_settles {answer : AcceptResult}
    (hrun : Runs SocketCall.Settles (UnixSocketClient.connect path) ledger answer next) :
    ledger.Acquires answer.connection.descriptor next := by
  unfold UnixSocketClient.connect at hrun
  cases haddress : fillAddress path with
  | error error =>
      rw [haddress] at hrun
      obtain ⟨rfl, rfl⟩ := runs_done_iff.mp hrun
      exact .refused (.refl _)
  | ok address =>
      rw [haddress] at hrun
      obtain ⟨reply, opened, hsocket, hrest⟩ := runs_bind_iff.mp hrun
      have hsettles := runs_perform_iff.mp hsocket
      cases reply with
      | error errno =>
          obtain ⟨rfl, rfl⟩ := runs_done_iff.mp hrest
          obtain rfl : next = ledger := hsettles
          exact .refused (.refl _)
      | ok socketFd =>
          obtain ⟨hfree, rfl⟩ := hsettles
          obtain ⟨connected, middle, hconnect, hrest⟩ := runs_bind_iff.mp hrest
          obtain rfl : middle = _ := runs_perform_iff.mp hconnect
          cases connected with
          | error errno =>
              obtain ⟨closed, last, hclose, hdone⟩ := runs_bind_iff.mp hrest
              obtain rfl : last = _ := runs_perform_iff.mp hclose
              obtain ⟨rfl, rfl⟩ := runs_done_iff.mp hdone
              exact .refused (.giveBack hfree (.refl _))
          | ok =>
              obtain ⟨rfl, rfl⟩ := runs_done_iff.mp hrest
              rw [UnixSocketConnection.descriptor_of_open (Int.natCast_nonneg socketFd)]
              exact .granted hfree (.refl _)

namespace UnixSocketServer

variable {server after : UnixSocketServer}

theorem closeFd_settles {result : Unit}
    (hrun : Runs SocketCall.Settles server.closeFd ledger result next) :
    next = ledger.release server.descriptor := by
  unfold closeFd at hrun
  unfold descriptor
  split at hrun
  · rename_i fd hfd
    obtain ⟨reply, middle, hclose, hdone⟩ := runs_bind_iff.mp hrun
    obtain rfl : middle = _ := runs_perform_iff.mp hclose
    obtain ⟨-, rfl⟩ := runs_done_iff.mp hdone
    rw [hfd]
    rfl
  · rename_i hfd
    obtain ⟨-, rfl⟩ := runs_done_iff.mp hrun
    rw [hfd]
    rfl

theorem close_settles (hrun : Runs SocketCall.Settles server.close ledger after next) :
    after = closed ∧ next = ledger.release server.descriptor := by
  unfold close at hrun
  obtain ⟨_, middle, hclose, hrest⟩ := runs_bind_iff.mp hrun
  rw [← closeFd_settles hclose]
  split_ifs at hrest
  · obtain ⟨_, last, hunlink, hdone⟩ := runs_bind_iff.mp hrest
    obtain ⟨rfl, rfl⟩ := runs_done_iff.mp hdone
    exact ⟨rfl, settles_nothing (unlinkOwnedSocketPath_unsettling _ _) hunlink⟩
  · exact runs_done_iff.mp hrest

/-- From `bind` on the new socket is closed on every way but the last. -/
theorem listenAt_settles {socketFd : SocketId} {backlog : ℤ}
    {answer : ObjectAnswer UnixSocketServer} (hclosed : server.descriptor = none)
    (hfree : Int.ofNat socketFd ∉ ledger.out)
    (hkept : (ledger.grant (Int.ofNat socketFd)).Kept middle)
    (hrun : Runs SocketCall.Settles (server.listenAt socketFd path address backlog) middle
      answer next) :
    ledger.Acquires answer.object.descriptor next := by
  obtain ⟨bound, last, hbind, hrest⟩ := runs_bind_iff.mp hrun
  obtain rfl : last = middle := runs_perform_iff.mp hbind
  have hgiven : ledger.Acquires server.descriptor (last.giveBack (Int.ofNat socketFd)) := by
    rw [hclosed]
    exact .refused (hkept.giveBack hfree)
  cases bound with
  | error errno =>
      obtain ⟨_, final, hclose, hdone⟩ := runs_bind_iff.mp hrest
      obtain rfl : final = _ := runs_perform_iff.mp hclose
      obtain ⟨rfl, rfl⟩ := runs_done_iff.mp hdone
      exact hgiven
  | ok =>
      obtain ⟨loaded, middle, hload, hrest⟩ := runs_bind_iff.mp hrest
      obtain rfl : middle = last :=
        settles_nothing (loadSocketPathIdentity_unsettling path) hload
      cases loaded with
      | error error =>
          obtain ⟨_, given, hclose, hrest⟩ := runs_bind_iff.mp hrest
          obtain rfl : given = _ := runs_perform_iff.mp hclose
          obtain ⟨_, final, hunlink, hdone⟩ := runs_bind_iff.mp hrest
          obtain rfl : final = _ := runs_perform_iff.mp hunlink
          obtain ⟨rfl, rfl⟩ := runs_done_iff.mp hdone
          exact hgiven
      | ok pathIdentity =>
          obtain ⟨listens, last', hlisten, hrest⟩ := runs_bind_iff.mp hrest
          obtain rfl : last' = middle := runs_perform_iff.mp hlisten
          cases listens with
          | error errno =>
              obtain ⟨_, given, hclose, hrest⟩ := runs_bind_iff.mp hrest
              obtain rfl : given = _ := runs_perform_iff.mp hclose
              obtain ⟨_, final, hunlink, hdone⟩ := runs_bind_iff.mp hrest
              obtain rfl : final = _ :=
                settles_nothing (unlinkOwnedSocketPath_unsettling _ _) hunlink
              obtain ⟨rfl, rfl⟩ := runs_done_iff.mp hdone
              exact hgiven
          | ok =>
              obtain ⟨rfl, rfl⟩ := runs_done_iff.mp hrest
              exact .granted hfree hkept

theorem listen_settles {backlog : ℤ} {answer : ObjectAnswer UnixSocketServer}
    (hrun : Runs SocketCall.Settles (server.listen path backlog) ledger answer next) :
    (ledger.release server.descriptor).Acquires answer.object.descriptor next := by
  unfold listen at hrun
  obtain ⟨after, middle, hclose, hrest⟩ := runs_bind_iff.mp hrun
  obtain ⟨rfl, rfl⟩ := close_settles hclose
  have hidle : closed.descriptor = none := rfl
  cases haddress : fillAddress path with
  | error error =>
      rw [haddress] at hrest
      obtain ⟨rfl, rfl⟩ := runs_done_iff.mp hrest
      exact .refused (.refl _)
  | ok address =>
      rw [haddress] at hrest
      obtain ⟨reply, opened, hsocket, hrest⟩ := runs_bind_iff.mp hrest
      have hsettles := runs_perform_iff.mp hsocket
      cases reply with
      | error errno =>
          obtain ⟨rfl, rfl⟩ := runs_done_iff.mp hrest
          obtain rfl : next = _ := hsettles
          exact .refused (.refl _)
      | ok socketFd =>
          obtain ⟨hfree, rfl⟩ := hsettles
          obtain ⟨removed, cleared, hremove, hrest⟩ := runs_bind_iff.mp hrest
          have hkept := removeStaleSocketPath_settles hremove
          cases removed with
          | none => exact listenAt_settles hidle hfree hkept hrest
          | some error =>
              obtain ⟨_, given, hclose, hdone⟩ := runs_bind_iff.mp hrest
              obtain rfl : given = _ := runs_perform_iff.mp hclose
              obtain ⟨rfl, rfl⟩ := runs_done_iff.mp hdone
              exact .refused (hkept.giveBack hfree)

end UnixSocketServer

end Sockets

/-! ## The stream calls of connections and servers -/

section Streams

variable {ledger next : SocketLedger} {connection closed : UnixSocketConnection}
  {server : UnixSocketServer}

theorem UnixSocketConnection.close_settles
    (hrun : Runs StreamCall.Settles connection.close ledger closed next) :
    closed.descriptor = none ∧ next = ledger.release connection.descriptor := by
  unfold UnixSocketConnection.close at hrun
  split_ifs at hrun with hopen
  · obtain ⟨reply, middle, hclose, hdone⟩ := runs_bind_iff.mp hrun
    obtain rfl : middle = _ := runs_perform_iff.mp hclose
    obtain ⟨rfl, rfl⟩ := runs_done_iff.mp hdone
    rw [UnixSocketConnection.descriptor_of_open hopen]
    exact ⟨rfl, rfl⟩
  · obtain ⟨rfl, rfl⟩ := runs_done_iff.mp hrun
    rw [UnixSocketConnection.descriptor_of_closed hopen]
    exact ⟨rfl, rfl⟩

theorem UnixSocketConnection.moveAssign_settles {other : UnixSocketConnection}
    {pair : UnixSocketConnection × UnixSocketConnection}
    (hrun : Runs StreamCall.Settles (connection.moveAssign other) ledger pair next) :
    pair = other.moveConstruct ∧ next = ledger.release connection.descriptor := by
  obtain ⟨closed, middle, hclose, hdone⟩ := runs_bind_iff.mp hrun
  obtain ⟨rfl, rfl⟩ := runs_done_iff.mp hdone
  exact ⟨rfl, (close_settles hclose).2⟩

namespace UnixSocketServer

theorem acceptClient_settles {passes : ℕ} {result : AcceptResult}
    (hrun : Runs StreamCall.Settles (acceptClient passes) ledger (some result) next) :
    ledger.Acquires result.connection.descriptor next := by
  induction passes with
  | zero => cases (runs_done_iff.mp hrun).1
  | succ passes ih =>
      obtain ⟨reply, middle, haccept, hrest⟩ := runs_bind_iff.mp hrun
      have hsettles := runs_perform_iff.mp haccept
      rcases reply with errno | clientFd
      · obtain rfl : middle = ledger := hsettles
        dsimp only at hrest
        split_ifs at hrest
        · exact ih hrest
        · obtain ⟨hresult, rfl⟩ := runs_done_iff.mp hrest
          cases hresult
          exact .refused (.refl _)
      · obtain ⟨hnonneg, hfree, rfl⟩ := hsettles
        obtain ⟨hresult, rfl⟩ := runs_done_iff.mp hrest
        cases hresult
        rw [UnixSocketConnection.descriptor_of_open hnonneg]
        exact .granted hfree (.refl _)

theorem accept_settles {passes : ℕ} {result : AcceptResult}
    (hrun : Runs StreamCall.Settles (server.accept passes) ledger (some result) next) :
    ledger.Acquires result.connection.descriptor next := by
  unfold accept at hrun
  split_ifs at hrun
  · obtain ⟨hresult, rfl⟩ := runs_done_iff.mp hrun
    cases hresult
    exact .refused (.refl _)
  · exact acceptClient_settles hrun

theorem waitForClient_settles {passes : ℕ} {timeout : ℤ} {result : TryAcceptResult}
    (hidle : connection.descriptor = none)
    (hrun : Runs StreamCall.Settles (server.waitForClient connection timeout passes) ledger
      (some result) next) :
    ledger.Acquires result.connection.descriptor next := by
  have hnothing : ledger.Acquires connection.descriptor ledger := by
    rw [hidle]
    exact .refused (.refl _)
  induction passes with
  | zero => cases (runs_done_iff.mp hrun).1
  | succ passes ih =>
      rw [waitForClient_succ] at hrun
      obtain ⟨answer, middle, hpoll, hrest⟩ := runs_ask_iff.mp hrun
      obtain rfl : middle = ledger := hpoll
      cases answer with
      | events revents =>
          obtain ⟨accepted, last, haccept, hdone⟩ := runs_bind_iff.mp hrest
          obtain ⟨hresult, rfl⟩ := runs_done_iff.mp hdone
          cases accepted with
          | none => cases hresult
          | some accepted =>
              cases hresult
              exact accept_settles haccept
      | expired =>
          obtain ⟨hresult, rfl⟩ := runs_done_iff.mp hrest
          cases hresult
          exact hnothing
      | failed errno =>
          dsimp only at hrest
          split_ifs at hrest
          · exact ih hrest
          · obtain ⟨hresult, rfl⟩ := runs_done_iff.mp hrest
            cases hresult
            exact hnothing

/-- The connection that is passed in is closed first. -/
theorem tryAccept_settles {passes : ℕ} {timeout : ℤ} {result : TryAcceptResult}
    (hrun : Runs StreamCall.Settles (server.tryAccept connection timeout passes) ledger
      (some result) next) :
    (ledger.release connection.descriptor).Acquires result.connection.descriptor next := by
  obtain ⟨closed, middle, hclose, hrest⟩ := runs_bind_iff.mp hrun
  obtain ⟨hidle, rfl⟩ := UnixSocketConnection.close_settles hclose
  split_ifs at hrest
  · obtain ⟨hresult, rfl⟩ := runs_done_iff.mp hrest
    cases hresult
    dsimp only
    rw [hidle]
    exact .refused (.refl _)
  · exact waitForClient_settles hidle hrest

end UnixSocketServer

/-- The four message functions. -/
inductive MessageCall where
  | send (message : Bytes) (passes : ℕ)
  | sendTimed (message : Bytes) (timeout : ℤ) (polls passes : ℕ)
  | receive (maxSize passes : ℕ)
  | receiveTimed (maxSize : ℕ) (timeout : ℤ) (polls passes : ℕ)
  deriving DecidableEq, Repr

def MessageCall.program (connection : UnixSocketConnection) : MessageCall → StreamProgram Unit
  | .send message passes => do
    let _ ← Calls.sendMessage connection message passes
  | .sendTimed message timeout polls passes => do
    let _ ← Calls.sendMessageTimed connection message timeout polls passes
  | .receive maxSize passes => do
    let _ ← Calls.receiveMessage connection maxSize passes
  | .receiveTimed maxSize timeout polls passes => do
    let _ ← Calls.receiveMessageTimed connection maxSize timeout polls passes

theorem MessageCall.unsettling (call : MessageCall) :
    (call.program connection).AsksOnly StreamCall.Unsettling := by
  have hnow : StreamCall.Unsettling .now := trivial
  have hpoll : ∀ event timeout, StreamCall.Unsettling (.poll event timeout) :=
    fun _ _ => trivial
  have hsend : ∀ bytes, StreamCall.Unsettling (.send bytes) := fun _ => trivial
  have hrecv : ∀ size, StreamCall.Unsettling (.recv size) := fun _ => trivial
  cases call with
  | send message passes => exact (sendMessage_asksOnly _ _ _ hsend).bind fun _ => asksOnly_done
  | receive maxSize passes =>
      exact (receiveMessage_asksOnly _ _ _ hrecv).bind fun _ => asksOnly_done
  | sendTimed message timeout polls passes =>
      refine AsksOnly.bind ?_ fun _ => asksOnly_done
      by_cases htimeout : 0 ≤ timeout
      · exact sendMessageTimed_asksOnly _ _ _ _ htimeout hnow (hpoll _) hsend
      · rw [Calls.sendMessageTimed, if_pos (not_le.mp htimeout)]
        split_ifs
        · exact asksOnly_done
        · exact asksOnly_done
  | receiveTimed maxSize timeout polls passes =>
      refine AsksOnly.bind ?_ fun _ => asksOnly_done
      by_cases htimeout : 0 ≤ timeout
      · exact receiveMessageTimed_asksOnly _ _ _ _ htimeout hnow (hpoll _) hrecv
      · rw [Calls.receiveMessageTimed, if_pos (not_le.mp htimeout)]
        split_ifs
        · exact asksOnly_done
        · exact asksOnly_done

end Streams

/-! ## Objects that come and go -/

inductive EndpointAction where
  | constructs
  | connects (path : Bytes)
  | accepts (server : ℕ)
  | moveConstructs (source : ℕ)
  | moveAssigns (source : ℕ)
  | triesToAccept (server : ℕ) (timeout : ℤ)
  | transfers (call : MessageCall)
  | closes
  | destroys
  | constructsServer
  | listens (path : Bytes) (backlog : ℤ)
  | closesServer
  | destroysServer
  deriving DecidableEq, Repr

/-- `none` where no object lives. -/
structure SocketEndpoints where
  ledger : SocketLedger
  connections : ℕ → Option UnixSocketConnection
  servers : ℕ → Option UnixSocketServer

namespace SocketEndpoints

def initial : SocketEndpoints := ⟨.empty, fun _ => none, fun _ => none⟩

def withConnection (system : SocketEndpoints) (index : ℕ) (ledger : SocketLedger)
    (connection : Option UnixSocketConnection) : SocketEndpoints :=
  { system with
    ledger := ledger
    connections := Function.update system.connections index connection }

def withServer (system : SocketEndpoints) (index : ℕ) (ledger : SocketLedger)
    (server : Option UnixSocketServer) : SocketEndpoints :=
  { system with
    ledger := ledger
    servers := Function.update system.servers index server }

/-- The connections and the servers are the holders of the descriptors. -/
def held (system : SocketEndpoints) : ℕ ⊕ ℕ → Option ℤ
  | .inl index => (system.connections index).bind UnixSocketConnection.descriptor
  | .inr index => (system.servers index).bind UnixSocketServer.descriptor

end SocketEndpoints

/-- The connection with the label's number is called, or the server. -/
inductive EndpointStep : SocketEndpoints → ℕ × EndpointAction → SocketEndpoints → Prop
  | constructs {system : SocketEndpoints} {index : ℕ} (hfree : system.connections index = none) :
      EndpointStep system (index, .constructs) (system.withConnection index system.ledger (some {}))
  | connects {system : SocketEndpoints} {index : ℕ} {path : Bytes} {answer : AcceptResult}
      {next : SocketLedger} (hfree : system.connections index = none)
      (hrun : Runs SocketCall.Settles (UnixSocketClient.connect path) system.ledger answer next) :
      EndpointStep system (index, .connects path)
        (system.withConnection index next (some answer.connection))
  | accepts {system : SocketEndpoints} {index server passes : ℕ} {listener : UnixSocketServer}
      {answer : AcceptResult} {next : SocketLedger} (hfree : system.connections index = none)
      (hserver : system.servers server = some listener)
      (hrun : Runs StreamCall.Settles (listener.accept passes) system.ledger (some answer) next) :
      EndpointStep system (index, .accepts server)
        (system.withConnection index next (some answer.connection))
  | moveConstructs {system : SocketEndpoints} {index source : ℕ} {other : UnixSocketConnection}
      (hfree : system.connections index = none) (hsource : system.connections source = some other) :
      EndpointStep system (index, .moveConstructs source)
        ((system.withConnection source system.ledger (some other.moveConstruct.2)).withConnection
          index system.ledger (some other.moveConstruct.1))
  | moveAssigns {system : SocketEndpoints} {index source : ℕ}
      {connection other : UnixSocketConnection}
      {pair : UnixSocketConnection × UnixSocketConnection} {next : SocketLedger}
      (hne : source ≠ index) (hconnection : system.connections index = some connection)
      (hsource : system.connections source = some other)
      (hrun : Runs StreamCall.Settles (connection.moveAssign other) system.ledger pair next) :
      EndpointStep system (index, .moveAssigns source)
        ((system.withConnection source next (some pair.2)).withConnection index next
          (some pair.1))
  | selfAssigns {system : SocketEndpoints} {index : ℕ} {connection : UnixSocketConnection}
      (hconnection : system.connections index = some connection) :
      EndpointStep system (index, .moveAssigns index) system
  | triesToAccept {system : SocketEndpoints} {index server passes : ℕ} {timeout : ℤ}
      {connection : UnixSocketConnection} {listener : UnixSocketServer} {answer : TryAcceptResult}
      {next : SocketLedger} (hconnection : system.connections index = some connection)
      (hserver : system.servers server = some listener)
      (hrun : Runs StreamCall.Settles (listener.tryAccept connection timeout passes)
        system.ledger (some answer) next) :
      EndpointStep system (index, .triesToAccept server timeout)
        (system.withConnection index next (some answer.connection))
  | transfers {system : SocketEndpoints} {index : ℕ} {call : MessageCall}
      {connection : UnixSocketConnection} {next : SocketLedger}
      (hconnection : system.connections index = some connection)
      (hrun : Runs StreamCall.Settles (call.program connection) system.ledger () next) :
      EndpointStep system (index, .transfers call) { system with ledger := next }
  | closes {system : SocketEndpoints} {index : ℕ} {connection closed : UnixSocketConnection}
      {next : SocketLedger} (hconnection : system.connections index = some connection)
      (hrun : Runs StreamCall.Settles connection.close system.ledger closed next) :
      EndpointStep system (index, .closes) (system.withConnection index next (some closed))
  | destroys {system : SocketEndpoints} {index : ℕ} {connection closed : UnixSocketConnection}
      {next : SocketLedger} (hconnection : system.connections index = some connection)
      (hrun : Runs StreamCall.Settles connection.close system.ledger closed next) :
      EndpointStep system (index, .destroys) (system.withConnection index next none)
  | constructsServer {system : SocketEndpoints} {index : ℕ} (hfree : system.servers index = none) :
      EndpointStep system (index, .constructsServer)
        (system.withServer index system.ledger (some .closed))
  | listens {system : SocketEndpoints} {index : ℕ} {path : Bytes} {backlog : ℤ}
      {server : UnixSocketServer} {answer : ObjectAnswer UnixSocketServer} {next : SocketLedger}
      (hserver : system.servers index = some server)
      (hrun : Runs SocketCall.Settles (server.listen path backlog) system.ledger answer next) :
      EndpointStep system (index, .listens path backlog)
        (system.withServer index next (some answer.object))
  | closesServer {system : SocketEndpoints} {index : ℕ} {server after : UnixSocketServer}
      {next : SocketLedger} (hserver : system.servers index = some server)
      (hrun : Runs SocketCall.Settles server.close system.ledger after next) :
      EndpointStep system (index, .closesServer) (system.withServer index next (some after))
  | destroysServer {system : SocketEndpoints} {index : ℕ} {server after : UnixSocketServer}
      {next : SocketLedger} (hserver : system.servers index = some server)
      (hrun : Runs SocketCall.Settles server.close system.ledger after next) :
      EndpointStep system (index, .destroysServer) (system.withServer index next none)

abbrev EndpointHistory := History SocketEndpoints (ℕ × EndpointAction)

/-! ## One holder for each descriptor -/

namespace SocketEndpoints

variable {system : SocketEndpoints} {index source : ℕ} {next : SocketLedger}

def Balanced (system : SocketEndpoints) : Prop := system.ledger.Balanced system.held

theorem held_withConnection (connection : Option UnixSocketConnection) :
    (system.withConnection index next connection).held =
      Function.update system.held (.inl index)
        (connection.bind UnixSocketConnection.descriptor) := by
  funext holder
  rcases holder with other | other
  · by_cases hsame : other = index
    · subst hsame
      simp [held, withConnection]
    · simp [held, withConnection, hsame]
  · simp [held, withConnection]

theorem held_withServer (server : Option UnixSocketServer) :
    (system.withServer index next server).held =
      Function.update system.held (.inr index) (server.bind UnixSocketServer.descriptor) := by
  funext holder
  rcases holder with other | other
  · simp [held, withServer]
  · by_cases hsame : other = index
    · subst hsame
      simp [held, withServer]
    · simp [held, withServer, hsame]

theorem held_connection {connection : UnixSocketConnection}
    (hconnection : system.connections index = some connection) :
    system.held (.inl index) = connection.descriptor := by
  simp [held, hconnection]

theorem held_server {server : UnixSocketServer} (hserver : system.servers index = some server) :
    system.held (.inr index) = server.descriptor := by
  simp [held, hserver]

/-- A connection that held nothing has made a call. -/
theorem Balanced.acquires {connection : Option UnixSocketConnection}
    (hbalanced : system.Balanced) (hidle : system.held (.inl index) = none)
    (hacquires : system.ledger.Acquires (connection.bind UnixSocketConnection.descriptor) next) :
    (system.withConnection index next connection).Balanced := by
  rw [Balanced, held_withConnection]
  exact hacquires.balanced hbalanced hidle

/-- A connection has given back its descriptor, and may have acquired another. -/
theorem Balanced.exchanges {connection : UnixSocketConnection}
    {after : Option UnixSocketConnection} (hbalanced : system.Balanced)
    (hconnection : system.connections index = some connection)
    (hacquires : (system.ledger.release connection.descriptor).Acquires
      (after.bind UnixSocketConnection.descriptor) next) :
    (system.withConnection index next after).Balanced := by
  have hreleased := GrantLedger.Balanced.release hbalanced (.inl index)
  rw [held_connection hconnection] at hreleased
  have hacquired := hacquires.balanced hreleased (Function.update_self ..)
  rw [Balanced, held_withConnection]
  rwa [Function.update_idem] at hacquired

theorem Balanced.exchangesServer {server : UnixSocketServer} {after : Option UnixSocketServer}
    (hbalanced : system.Balanced) (hserver : system.servers index = some server)
    (hacquires : (system.ledger.release server.descriptor).Acquires
      (after.bind UnixSocketServer.descriptor) next) :
    (system.withServer index next after).Balanced := by
  have hreleased := GrantLedger.Balanced.release hbalanced (.inr index)
  rw [held_server hserver] at hreleased
  have hacquired := hacquires.balanced hreleased (Function.update_self ..)
  rw [Balanced, held_withServer]
  rwa [Function.update_idem] at hacquired

/-- A connection that holds nothing takes over what another one holds. -/
theorem Balanced.moves {other : UnixSocketConnection} (hbalanced : next.Balanced system.held)
    (hidle : system.held (.inl index) = none)
    (hsource : system.connections source = some other) :
    ((system.withConnection source next (some other.moveConstruct.2)).withConnection index next
      (some other.moveConstruct.1)).Balanced := by
  have hmoved := GrantLedger.Balanced.transfer hbalanced hidle (.inl source)
  rw [Balanced, held_withConnection, held_withConnection]
  rw [held_connection hsource] at hmoved
  exact hmoved

/-- The same, once the descriptor of the first one is closed. -/
theorem Balanced.moveAssigns {connection other : UnixSocketConnection}
    (hbalanced : system.Balanced) (hne : source ≠ index)
    (hconnection : system.connections index = some connection)
    (hsource : system.connections source = some other)
    (hnext : next = system.ledger.release connection.descriptor) :
    ((system.withConnection source next (some other.moveConstruct.2)).withConnection index next
      (some other.moveConstruct.1)).Balanced := by
  have hholders : (Sum.inl source : ℕ ⊕ ℕ) ≠ .inl index := by simpa using hne
  have hreleased := GrantLedger.Balanced.release hbalanced (.inl index)
  rw [held_connection hconnection, ← hnext] at hreleased
  have hmoved := hreleased.transfer (Function.update_self ..) (.inl source)
  rw [Function.update_of_ne hholders, held_connection hsource, Function.update_comm hholders,
    Function.update_idem, Function.update_comm hholders.symm] at hmoved
  rw [Balanced, held_withConnection, held_withConnection]
  exact hmoved

end SocketEndpoints

theorem EndpointStep.balanced {system after : SocketEndpoints} {label : ℕ × EndpointAction}
    (hstep : EndpointStep system label after) (hbalanced : system.Balanced) : after.Balanced := by
  cases hstep with
  | constructs hfree =>
      exact hbalanced.acquires (by simp [SocketEndpoints.held, hfree]) (.refused (.refl _))
  | connects hfree hrun =>
      exact hbalanced.acquires (by simp [SocketEndpoints.held, hfree]) (connect_settles hrun)
  | accepts hfree hserver hrun =>
      exact hbalanced.acquires (by simp [SocketEndpoints.held, hfree])
        (UnixSocketServer.accept_settles hrun)
  | moveConstructs hfree hsource =>
      exact SocketEndpoints.Balanced.moves hbalanced (by simp [SocketEndpoints.held, hfree]) hsource
  | @moveAssigns index source connection other pair next hne hconnection hsource hrun =>
      obtain ⟨rfl, hnext⟩ := UnixSocketConnection.moveAssign_settles hrun
      exact hbalanced.moveAssigns hne hconnection hsource hnext
  | selfAssigns => exact hbalanced
  | triesToAccept hconnection hserver hrun =>
      exact hbalanced.exchanges hconnection (UnixSocketServer.tryAccept_settles hrun)
  | @transfers index call connection next hconnection hrun =>
      obtain rfl : next = system.ledger := stream_settles_nothing call.unsettling hrun
      exact hbalanced
  | closes hconnection hrun =>
      obtain ⟨hidle, rfl⟩ := UnixSocketConnection.close_settles hrun
      refine hbalanced.exchanges hconnection ?_
      rw [Option.bind_some, hidle]
      exact .refused (.refl _)
  | destroys hconnection hrun =>
      obtain ⟨-, rfl⟩ := UnixSocketConnection.close_settles hrun
      exact hbalanced.exchanges hconnection (.refused (.refl _))
  | @constructsServer index hfree =>
      have hidle : system.held (.inr index) = none := by simp [SocketEndpoints.held, hfree]
      have hnone : (some UnixSocketServer.closed).bind UnixSocketServer.descriptor = none := rfl
      rw [SocketEndpoints.Balanced, SocketEndpoints.held_withServer, hnone, ← hidle,
        Function.update_eq_self]
      exact hbalanced
  | listens hserver hrun =>
      exact hbalanced.exchangesServer hserver (UnixSocketServer.listen_settles hrun)
  | closesServer hserver hrun =>
      obtain ⟨rfl, rfl⟩ := UnixSocketServer.close_settles hrun
      exact hbalanced.exchangesServer hserver (.refused (.refl _))
  | destroysServer hserver hrun =>
      obtain ⟨-, rfl⟩ := UnixSocketServer.close_settles hrun
      exact hbalanced.exchangesServer hserver (.refused (.refl _))

theorem run_socketsBalanced {history : EndpointHistory} {system : SocketEndpoints}
    (hrun : Run EndpointStep .initial history system) : system.Balanced := by
  refine hrun.invariant (fun _ system => system.Balanced) ?_
    fun _ hbalanced hstep => hstep.balanced hbalanced
  have hnone : SocketEndpoints.initial.held = fun _ => none := by
    funext holder
    rcases holder with index | index <;> rfl
  rw [SocketEndpoints.Balanced, hnone]
  exact .empty

/-! ## Linear descriptors -/

structure SocketEndpoints.Linear (system : SocketEndpoints) : Prop where
  open_iff : ∀ {index connection}, system.connections index = some connection →
    (connection.isOpen = true ↔ connection.fd ∈ system.ledger.out)
  listening_iff : ∀ {index server}, system.servers index = some server →
    (server.isListening = true ↔ ∃ fd, server.fd = some fd ∧ Int.ofNat fd ∈ system.ledger.out)
  unique : ∀ {holder other : ℕ ⊕ ℕ} {fd : ℤ}, system.held holder = some fd →
    system.held other = some fd → other = holder
  held_iff : ∀ fd, fd ∈ system.ledger.out ↔ ∃ holder, system.held holder = some fd
  misuses : system.ledger.misuses = 0
  returned_once : (∀ index, system.connections index = none) →
    (∀ index, system.servers index = none) →
      system.ledger.returned.Perm (List.range system.ledger.granted)

theorem SocketEndpoints.nonneg_of_held {system : SocketEndpoints} {holder : ℕ ⊕ ℕ} {fd : ℤ}
    (hheld : system.held holder = some fd) : 0 ≤ fd := by
  rcases holder with index | index
  · obtain ⟨connection, -, hdescriptor⟩ := Option.bind_eq_some_iff.mp hheld
    unfold UnixSocketConnection.descriptor at hdescriptor
    split_ifs at hdescriptor with hopen
    exact Option.some.inj hdescriptor ▸ hopen
  · obtain ⟨server, -, hdescriptor⟩ := Option.bind_eq_some_iff.mp hheld
    obtain ⟨number, -, rfl⟩ := Option.map_eq_some_iff.mp hdescriptor
    exact Int.natCast_nonneg number

/-- In every reachable state an object is open exactly if it holds a descriptor that was not
closed, and no other object holds it.  When no object is left, every descriptor that `socket`
or `accept` returned was closed exactly once, on whatever way `listen`, `connect`, `accept`
and `tryAccept` returned. -/
theorem socket_descriptors_are_linear {history : EndpointHistory} {system : SocketEndpoints}
    (hrun : Run EndpointStep .initial history system) : system.Linear := by
  have hbalanced := run_socketsBalanced hrun
  constructor
  case open_iff =>
    intro index connection hconnection
    rw [UnixSocketConnection.isOpen_iff_descriptor, hbalanced.exclusive.held_iff]
    constructor
    · intro hdescriptor
      exact ⟨.inl index, (SocketEndpoints.held_connection hconnection).trans hdescriptor⟩
    · rintro ⟨holder, hheld⟩
      exact UnixSocketConnection.descriptor_of_open (SocketEndpoints.nonneg_of_held hheld)
  case listening_iff =>
    intro index server hserver
    constructor
    · intro hlistening
      obtain ⟨fd, hfd⟩ := Option.isSome_iff_exists.mp hlistening
      refine ⟨fd, hfd, (hbalanced.exclusive.held_iff _).mpr ⟨.inr index, ?_⟩⟩
      rw [SocketEndpoints.held_server hserver, UnixSocketServer.descriptor, hfd]
      rfl
    · rintro ⟨fd, hfd, -⟩
      rw [UnixSocketServer.isListening, hfd]
      rfl
  case unique => exact fun hheld hother => hbalanced.exclusive.unique hheld hother
  case held_iff => exact hbalanced.exclusive.held_iff
  case misuses => exact hbalanced.misuses
  case returned_once =>
    intro hconnections hservers
    refine hbalanced.returned_perm fun holder => ?_
    rcases holder with index | index
    · simp [SocketEndpoints.held, hconnections index]
    · simp [SocketEndpoints.held, hservers index]

/-- A server finds a dead socket at its path, and closes the socket of its probe. -/
theorem listen_over_dead_socket :
    Runs SocketCall.Settles (UnixSocketServer.closed.listen [47, 115] 8) .empty
      ⟨none, ⟨some 3, [47, 115], ⟨1, 9⟩, true⟩⟩
      (((GrantLedger.empty.grant 3).grant 4).giveBack 4) := by
  refine .answered (.ok 3) ⟨by simp [GrantLedger.out, GrantLedger.empty], rfl⟩ ?_
  refine .answered (.ok ⟨true, ⟨1, 7⟩⟩) rfl ?_
  refine .answered (.ok 4)
    ⟨by simp [GrantLedger.out, GrantLedger.empty, GrantLedger.grant], rfl⟩ ?_
  refine .answered (.error ECONNREFUSED) rfl ?_
  refine .answered (.ok ()) rfl ?_
  refine .answered (.ok ()) rfl ?_
  refine .answered (.ok ()) rfl ?_
  refine .answered (.ok ⟨true, ⟨1, 9⟩⟩) rfl ?_
  exact .answered (.ok ()) rfl (.done _ _)

/-- The server serves a client that meets a signal, and everything is destroyed. -/
theorem served_client_run :
    ∃ history system, Run EndpointStep .initial history system ∧
      history.map Prod.snd = [(0, .constructsServer), (0, .listens [47, 115] 8),
        (0, .connects [47, 115]), (1, .accepts 0), (2, .moveConstructs 1), (2, .moveAssigns 2),
        (0, .moveAssigns 2), (0, .destroys), (1, .destroys), (2, .destroys),
        (0, .destroysServer)] ∧
      (∀ index, system.connections index = none) ∧ (∀ index, system.servers index = none) ∧
      system.ledger.granted = 4 := by
  have hstart : Run EndpointStep .initial [] _ := .start
  have hserver := hstart.andThen (0, .constructsServer) (.constructsServer rfl)
  have hlistens := hserver.andThen (0, .listens [47, 115] 8) (.listens rfl listen_over_dead_socket)
  have hconnects := hlistens.andThen (0, .connects [47, 115]) (.connects rfl
    (.answered (.ok 5) ⟨by
      simp [SocketEndpoints.withServer, GrantLedger.out, GrantLedger.empty, GrantLedger.grant,
        GrantLedger.giveBack], rfl⟩ (.answered (.ok ()) rfl (.done _ _))))
  have haccepts := hconnects.andThen (1, .accepts 0)
    (@EndpointStep.accepts _ 1 0 2 _ _ _ rfl rfl
      (.answered (.error EINTR) rfl (.answered (.ok 6) ⟨by decide, by
        simp [SocketEndpoints.withServer, SocketEndpoints.withConnection, GrantLedger.out,
          GrantLedger.empty, GrantLedger.grant, GrantLedger.giveBack], rfl⟩ (.done _ _))))
  have hmoved := haccepts.andThen (2, .moveConstructs 1) (.moveConstructs rfl rfl)
  have hself := hmoved.andThen (2, .moveAssigns 2) (.selfAssigns rfl)
  have hassigned := hself.andThen (0, .moveAssigns 2)
    (.moveAssigns (by decide) rfl rfl (.answered () rfl (.done _ _)))
  have hfirst := hassigned.andThen (0, .destroys)
    (.destroys rfl (.answered () rfl (.done _ _)))
  have hsecond := hfirst.andThen (1, .destroys) (.destroys rfl (.done _ _))
  have hthird := hsecond.andThen (2, .destroys) (.destroys rfl (.done _ _))
  have hlast := hthird.andThen (0, .destroysServer) (.destroysServer rfl
    (.answered (.ok ()) rfl (.answered (.ok ⟨true, ⟨1, 9⟩⟩) rfl (.answered (.ok ()) rfl
      (.done _ _)))))
  refine ⟨_, _, hlast, rfl, fun index => ?_, fun index => ?_, rfl⟩
  · by_cases hzero : index = 0
    · rw [hzero]
      rfl
    · by_cases hone : index = 1
      · rw [hone]
        rfl
      · by_cases htwo : index = 2
        · rw [htwo]
          rfl
        · simp [SocketEndpoints.withServer, SocketEndpoints.withConnection,
            SocketEndpoints.initial, hzero, hone, htwo]
  · simp [SocketEndpoints.withServer, SocketEndpoints.withConnection, SocketEndpoints.initial]

theorem served_client_is_linear :
    ∃ history system, Run EndpointStep .initial history system ∧ system.Linear ∧
      history.map Prod.snd = [(0, .constructsServer), (0, .listens [47, 115] 8),
        (0, .connects [47, 115]), (1, .accepts 0), (2, .moveConstructs 1), (2, .moveAssigns 2),
        (0, .moveAssigns 2), (0, .destroys), (1, .destroys), (2, .destroys),
        (0, .destroysServer)] ∧
      system.ledger.returned.Perm [0, 1, 2, 3] := by
  obtain ⟨history, system, hrun, hlabels, hconnections, hservers, hgranted⟩ := served_client_run
  have hlinear := socket_descriptors_are_linear hrun
  have hreturned := hlinear.returned_once hconnections hservers
  rw [hgranted] at hreturned
  exact ⟨history, system, hrun, hlinear, hlabels, hreturned⟩

end ElapPlatform.Ipc
