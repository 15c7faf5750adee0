import ElapPlatform.RelyGuaranteeCalls
import ElapPlatform.UnixSocketServer

/-!
# Servers whose system calls interleave

Any number of servers listen and close at once, and between two system calls of
one of them the others take their turns.  What a call has still to compare or to
remove is recorded beside the kernel, and so is the server of each socket.
-/

namespace ElapPlatform.Ipc

open Interaction Interaction.Program RelyGuarantee

/-! ## System calls of one server among others -/

/-- A call that has closed its socket and has still to find the file, or one that
has made up its mind to remove whatever is at the path. -/
inductive Watch where
  | released (path : Bytes) (identity : FileIdentity)
  | decided (path : Bytes)
  deriving DecidableEq, Repr

structure SharedSockets where
  kernel : SocketKernel
  owners : SocketId → Option ℕ
  watches : ℕ → Option Watch

def watchAfterProbe (address : Bytes) (watch : Option Watch) :
    SystemResult Unit → Option Watch
  | .ok () => watch
  | .error _ => some (.decided address)

/-- The inode check of a call that has closed its socket. -/
def watchAfterLook (path : Bytes) : Option Watch → SystemResult FileStatus → Option Watch
  | some (.released watched identity), .ok status =>
      if path = watched ∧ status = ⟨true, identity⟩ then some (.decided watched) else none
  | _, _ => none

def watchAfterClose (watch : Option Watch) : Option OpenSocket → Option Watch
  | some ⟨some (path, identity), _⟩ => some (.released path identity)
  | _ => watch

def watchAfter (kernel : SocketKernel) (watch : Option Watch) :
    (call : SocketCall) → call.Reply → Option Watch
  | .connect _ address, reply => watchAfterProbe address watch reply
  | .close fd, _ => watchAfterClose watch (kernel.sockets fd)
  | .lstat path, reply => watchAfterLook (cString path) watch reply
  | .unlink _, _ => none
  | .bind _ _, _ => none
  | .socket, _ => watch
  | .listen _ _, _ => watch

def ownersAfter (owners : SocketId → Option ℕ) (index : ℕ) :
    (call : SocketCall) → call.Reply → SocketId → Option ℕ
  | .socket, reply =>
      match (reply : SystemResult SocketId) with
      | .ok fd => Function.update owners fd (some index)
      | .error _ => owners
  | _, _ => owners

/-- Unlike `SocketCall.Answers`, a probe may fail although somebody listens. -/
def SocketCall.MayAnswer (kernel : SocketKernel) :
    (call : SocketCall) → call.Reply → SocketKernel → Prop
  | .connect _ address, reply, next =>
      next = kernel ∧ ((reply : SystemResult Unit) = .ok () → kernel.HasListener address)
  | call, reply, next => SocketCall.Answers kernel call reply next

structure SharedSockets.Answers (index : ℕ) (shared : SharedSockets) (call : SocketCall)
    (reply : call.Reply) (next : SharedSockets) : Prop where
  kernel : SocketCall.MayAnswer shared.kernel call reply next.kernel
  owners : next.owners = ownersAfter shared.owners index call reply
  watches : next.watches = Function.update shared.watches index
    (watchAfter shared.kernel (shared.watches index) call reply)

inductive ServerCall where
  | listen (path : Bytes) (backlog : ℤ)
  | close
  deriving DecidableEq, Repr

def ServerCall.perform : ServerCall → UnixSocketServer →
    SocketProgram (Option ErrorText × UnixSocketServer)
  | .listen path backlog, server => do
      let answer ← server.listen path backlog
      return (answer.error, answer.object)
  | .close, server => do
      let after ← server.close
      return (none, after)

def socketServers : CallClass SocketCall SocketCall.Reply :=
  ⟨UnixSocketServer, ServerCall, Option ErrorText, ServerCall.perform⟩

abbrev ServerSystem := CallSystem SharedSockets socketServers

abbrev ServerLabel := CallLabel socketServers

/-- No server is open yet, and the directories are in any state. -/
def idleServers (kernel : SocketKernel) : ServerSystem :=
  ⟨⟨kernel, fun _ => none, fun _ => none⟩, fun _ => .closed, fun _ => none⟩

/-! ## Calls that do not disturb each other -/

/-- The call that watches would take the new file for the one it is to remove. -/
def Watch.Mistakes (path : Bytes) (next : SocketKernel) : Watch → Prop
  | .decided watched => watched = path
  | .released watched identity =>
      watched = path ∧ ∃ fd, next.entries path = some (.socket identity fd)

/-- No probe is refused by a socket that is still open, and no file is bound that
another call is about to remove. -/
def Undisturbed (index : ℕ) (shared : SharedSockets) (next : SocketKernel) :
    (call : SocketCall) → call.Reply → Prop
  | .connect _ address, reply =>
      (reply : SystemResult Unit) ≠ .ok () → ∀ identity fd,
        shared.kernel.entries address = some (.socket identity fd) →
          shared.kernel.sockets fd = none
  | .bind _ address, reply =>
      (reply : SystemResult Unit) = .ok () → ∀ other, other ≠ index →
        ∀ watch ∈ shared.watches other, ¬ watch.Mistakes address next
  | _, _ => True

/-- What others leave to a server: its sockets, their files, and the files that it
is about to remove. -/
structure SharedSockets.Leaves (index : ℕ) (shared next : SharedSockets) : Prop where
  owners : ∀ {fd}, shared.owners fd = some index → next.owners fd = some index
  sockets : ∀ {fd}, shared.owners fd = some index →
    next.kernel.sockets fd = shared.kernel.sockets fd
  files : ∀ {fd path identity listening}, shared.owners fd = some index →
    shared.kernel.sockets fd = some ⟨some (path, identity), listening⟩ →
      shared.kernel.entries path = some (.socket identity fd) →
        next.kernel.entries path = some (.socket identity fd)
  watches : next.watches index = shared.watches index
  decided : ∀ {path identity fd}, shared.watches index = some (.decided path) →
    next.kernel.entries path = some (.socket identity fd) →
      shared.kernel.entries path = some (.socket identity fd)
  released : ∀ {path identity fd}, shared.watches index = some (.released path identity) →
    next.kernel.entries path = some (.socket identity fd) →
      shared.kernel.entries path = some (.socket identity fd)
  closed : ∀ {fd}, fd < shared.kernel.opened → shared.kernel.sockets fd = none →
    next.kernel.sockets fd = none
  searchable : ∀ {path}, shared.kernel.searchable path = true →
    next.kernel.searchable path = true

structure SharedSockets.Sound (shared : SharedSockets) : Prop where
  numbered : shared.kernel.Numbered
  made : ∀ {path identity fd}, shared.kernel.entries path = some (.socket identity fd) →
    fd < shared.kernel.opened
  owned : ∀ {fd index}, shared.owners fd = some index → fd < shared.kernel.opened

namespace SharedSockets

def watching (shared : SharedSockets) (index : ℕ) (watch : Option Watch) : SharedSockets :=
  { shared with watches := Function.update shared.watches index watch }

def atKernel (shared : SharedSockets) (kernel : SocketKernel) : SharedSockets :=
  { shared with kernel := kernel }

def opens (shared : SharedSockets) (index : ℕ) : SharedSockets where
  kernel := shared.kernel.openSocket
  owners := Function.update shared.owners shared.kernel.opened (some index)
  watches := shared.watches

section Inversion

variable {index : ℕ} {shared next : SharedSockets} {path : Bytes} {fd : SocketId}

theorem watching_self : shared.watching index (shared.watches index) = shared := by
  unfold watching
  rw [Function.update_eq_self]

theorem Answers.eq {call : SocketCall} {reply : call.Reply}
    (hanswer : shared.Answers index call reply next)
    (howners : ownersAfter shared.owners index call reply = shared.owners) :
    next = (shared.atKernel next.kernel).watching index
      (watchAfter shared.kernel (shared.watches index) call reply) := by
  obtain ⟨_, hsame, hwatches⟩ := hanswer
  obtain ⟨kernel, owners, watches⟩ := next
  dsimp only at hsame hwatches
  rw [hsame, hwatches, howners]
  rfl

theorem Answers.socket {reply : SystemResult SocketId}
    (hanswer : shared.Answers index .socket reply next) :
    (∃ errno, reply = .error errno) ∧ next = shared ∨
      reply = .ok shared.kernel.opened ∧ next = shared.opens index := by
  cases reply with
  | error errno =>
      refine .inl ⟨⟨errno, rfl⟩, ?_⟩
      have hkernel : next.kernel = shared.kernel := hanswer.kernel
      rw [hanswer.eq rfl, hkernel]
      exact watching_self
  | ok fd =>
      obtain ⟨⟨rfl, hkernel⟩, howners, hwatches⟩ := hanswer
      refine .inr ⟨rfl, ?_⟩
      obtain ⟨kernel, owners, watches⟩ := next
      dsimp only at hkernel howners hwatches
      rw [hkernel, howners, hwatches]
      exact congrArg _ (Function.update_eq_self ..)

theorem Answers.lstat {reply : SystemResult FileStatus}
    (hanswer : shared.Answers index (.lstat path) reply next) :
    next = shared.watching index
        (watchAfterLook (cString path) (shared.watches index) reply) ∧
      shared.kernel.Looks (cString path) reply := by
  obtain ⟨hsame, hlooks⟩ := hanswer.kernel
  refine ⟨?_, hlooks⟩
  rw [hanswer.eq rfl, hsame]
  rfl

theorem Answers.connect {reply : SystemResult Unit}
    (hanswer : shared.Answers index (.connect fd path) reply next) :
    next = shared.watching index (watchAfterProbe path (shared.watches index) reply) := by
  rw [hanswer.eq rfl, hanswer.kernel.1]
  rfl

theorem Answers.close {reply : SystemResult Unit}
    (hanswer : shared.Answers index (.close fd) reply next) :
    next = (shared.atKernel (shared.kernel.closeSocket fd)).watching index
      (watchAfterClose (shared.watches index) (shared.kernel.sockets fd)) := by
  have hkernel : next.kernel = shared.kernel.closeSocket fd := hanswer.kernel
  rw [hanswer.eq rfl, hkernel]
  rfl

theorem Answers.bind {reply : SystemResult Unit}
    (hanswer : shared.Answers index (.bind fd path) reply next) :
    next = (shared.atKernel next.kernel).watching index none ∧
      shared.kernel.Binds fd path reply next.kernel :=
  ⟨hanswer.eq rfl, hanswer.kernel⟩

theorem Answers.listen {backlog : ℤ} {reply : SystemResult Unit}
    (hanswer : shared.Answers index (.listen fd backlog) reply next) :
    next = shared.atKernel next.kernel ∧ shared.kernel.Listens fd reply next.kernel := by
  refine ⟨?_, hanswer.kernel⟩
  rw [hanswer.eq rfl]
  exact watching_self

theorem Answers.unlink {reply : SystemResult Unit}
    (hanswer : shared.Answers index (.unlink path) reply next) :
    next = (shared.atKernel next.kernel).watching index none ∧
      (next.kernel = shared.kernel ∨
        next.kernel = shared.kernel.removeEntry (cString path)) := by
  refine ⟨hanswer.eq rfl, ?_⟩
  have hkernel : shared.kernel.Unlinks (cString path) reply next.kernel := hanswer.kernel
  cases reply with
  | error => exact .inl hkernel.1
  | ok => exact .inr hkernel

end Inversion

end SharedSockets

end ElapPlatform.Ipc
