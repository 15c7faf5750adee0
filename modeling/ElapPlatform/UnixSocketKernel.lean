import ElapPlatform.InteractionProgram
import ElapPlatform.PartialMapUpdate
import ElapPlatform.PlatformBasics

/-!
# Stream sockets and the directory entries they are bound to

The system calls of `UnixSocketServer`, and what they do to the directories and
the open sockets of all processes.  Sockets are numbered in the order in which
they are opened.
-/

namespace ElapPlatform.Ipc

open Interaction Interaction.Program

abbrev SocketId := ℕ

/-- `st_dev` and `st_ino` -/
structure FileIdentity where
  device : ℕ
  inode : ℕ
  deriving DecidableEq, Repr

structure FileStatus where
  isSocket : Bool
  identity : FileIdentity
  deriving DecidableEq, Repr

/-- A socket file remembers the socket whose `bind` made it. -/
inductive DirectoryEntry where
  | socket (identity : FileIdentity) (binder : SocketId)
  | other (identity : FileIdentity)
  deriving DecidableEq, Repr

def DirectoryEntry.status : DirectoryEntry → FileStatus
  | .socket identity _ => ⟨true, identity⟩
  | .other identity => ⟨false, identity⟩

structure OpenSocket where
  bound : Option (Bytes × FileIdentity)
  listening : Bool
  deriving DecidableEq, Repr

/-- `searchable` and `removable` are the permissions of the calling process. -/
structure SocketKernel where
  entries : Bytes → Option DirectoryEntry
  sockets : SocketId → Option OpenSocket
  opened : ℕ
  searchable : Bytes → Bool
  removable : Bytes → Bool

namespace SocketKernel

def openSocket (kernel : SocketKernel) : SocketKernel :=
  { kernel with
    sockets := Function.update kernel.sockets kernel.opened (some ⟨none, false⟩)
    opened := kernel.opened + 1 }

def closeSocket (kernel : SocketKernel) (fd : SocketId) : SocketKernel :=
  { kernel with sockets := Function.update kernel.sockets fd none }

def startListening (kernel : SocketKernel) (fd : SocketId) (socket : OpenSocket) :
    SocketKernel :=
  { kernel with
    sockets := Function.update kernel.sockets fd (some { socket with listening := true }) }

def removeEntry (kernel : SocketKernel) (path : Bytes) : SocketKernel :=
  { kernel with entries := Function.update kernel.entries path none }

/-- A process may look at the file that it has just made, and remove it. -/
def bindSocket (kernel : SocketKernel) (fd : SocketId) (path : Bytes)
    (identity : FileIdentity) : SocketKernel where
  entries := Function.update kernel.entries path (some (.socket identity fd))
  sockets := Function.update kernel.sockets fd (some ⟨some (path, identity), false⟩)
  opened := kernel.opened
  searchable := Function.update kernel.searchable path true
  removable := Function.update kernel.removable path true

/-- A live stream listener owns the path. -/
def HasListener (kernel : SocketKernel) (path : Bytes) : Prop :=
  ∃ identity fd socket, kernel.entries path = some (.socket identity fd) ∧
    kernel.sockets fd = some socket ∧ socket.listening = true

/-- No listening socket holds the inode, so a new file may get it. -/
def Fresh (kernel : SocketKernel) (identity : FileIdentity) : Prop :=
  ∀ fd socket path, kernel.sockets fd = some socket → socket.listening = true →
    socket.bound ≠ some (path, identity)

section Fresh

variable {kernel : SocketKernel} {identity : FileIdentity}

theorem Fresh.openSocket (hfresh : kernel.Fresh identity) :
    kernel.openSocket.Fresh identity := by
  intro fd socket path hsocket hlistens
  rcases PartialMap.insert_eq_some_iff.mp hsocket with ⟨_, rfl⟩ | ⟨_, hold⟩
  · cases hlistens
  · exact hfresh fd socket path hold hlistens

theorem Fresh.closeSocket (hfresh : kernel.Fresh identity) (fd : SocketId) :
    (kernel.closeSocket fd).Fresh identity := by
  intro other socket path hsocket
  exact hfresh other socket path (PartialMap.erase_eq_some_iff.mp hsocket).2

theorem Fresh.startListening (hfresh : kernel.Fresh identity) (fd : SocketId)
    (socket : OpenSocket) (hother : ∀ path, socket.bound ≠ some (path, identity)) :
    (kernel.startListening fd socket).Fresh identity := by
  intro other socket' path hsocket hlistens
  rcases PartialMap.insert_eq_some_iff.mp hsocket with ⟨_, rfl⟩ | ⟨_, hold⟩
  · exact hother path
  · exact hfresh other socket' path hold hlistens

/-- `bind` alone does not make a socket listen. -/
theorem Fresh.bindSocket (hfresh : kernel.Fresh identity) (fd : SocketId) (path : Bytes)
    (bound : FileIdentity) : (kernel.bindSocket fd path bound).Fresh identity := by
  intro other socket path' hsocket hlistens
  rcases PartialMap.insert_eq_some_iff.mp hsocket with ⟨_, rfl⟩ | ⟨_, hold⟩
  · cases hlistens
  · exact hfresh other socket path' hold hlistens

end Fresh

end SocketKernel

/-! ## System calls -/

/-- Addresses are the `sun_path` of a `sockaddr_un`. -/
inductive SocketCall where
  | socket
  | lstat (path : Bytes)
  | connect (fd : SocketId) (address : Bytes)
  | bind (fd : SocketId) (address : Bytes)
  | listen (fd : SocketId) (backlog : ℤ)
  | unlink (path : Bytes)
  | close (fd : SocketId)
  deriving DecidableEq, Repr

def SocketCall.Reply : SocketCall → Type
  | .socket => SystemResult SocketId
  | .lstat _ => SystemResult FileStatus
  | .connect _ _ => SystemResult Unit
  | .bind _ _ => SystemResult Unit
  | .listen _ _ => SystemResult Unit
  | .unlink _ => SystemResult Unit
  | .close _ => SystemResult Unit

abbrev SocketProgram (α : Type) := Program SocketCall SocketCall.Reply α

section Calls

def socket : SocketProgram (SystemResult SocketId) :=
  .ask SocketCall.socket .done

def lstat (path : Bytes) : SocketProgram (SystemResult FileStatus) :=
  .ask (SocketCall.lstat path) .done

def connect (fd : SocketId) (address : Bytes) : SocketProgram (SystemResult Unit) :=
  .ask (SocketCall.connect fd address) .done

def bind (fd : SocketId) (address : Bytes) : SocketProgram (SystemResult Unit) :=
  .ask (SocketCall.bind fd address) .done

def listen (fd : SocketId) (backlog : ℤ) : SocketProgram (SystemResult Unit) :=
  .ask (SocketCall.listen fd backlog) .done

def unlink (path : Bytes) : SocketProgram (SystemResult Unit) :=
  .ask (SocketCall.unlink path) .done

def closeSocket (fd : SocketId) : SocketProgram (SystemResult Unit) :=
  .ask (SocketCall.close fd) .done

end Calls

namespace SocketKernel

def Opens (kernel : SocketKernel) (reply : SystemResult SocketId) (next : SocketKernel) :
    Prop :=
  match reply with
  | .ok fd => fd = kernel.opened ∧ next = kernel.openSocket
  | .error _ => next = kernel

/-- `lstat` finds every entry that it may search for. -/
def Looks (kernel : SocketKernel) (path : Bytes) (reply : SystemResult FileStatus) : Prop :=
  match reply with
  | .ok status => ∃ entry, kernel.entries path = some entry ∧ status = entry.status
  | .error errno =>
      kernel.entries path = none ∨ kernel.searchable path = false ∧ errno ≠ ENOENT

/-- A path of no bytes is an address outside the directories. -/
def Binds (kernel : SocketKernel) (fd : SocketId) (address : Bytes)
    (reply : SystemResult Unit) (next : SocketKernel) : Prop :=
  match reply with
  | .ok () =>
      address = [] ∧ next = kernel ∨
        address ≠ [] ∧ kernel.entries address = none ∧
          ∃ identity, kernel.Fresh identity ∧ next = kernel.bindSocket fd address identity
  | .error _ => next = kernel

def Listens (kernel : SocketKernel) (fd : SocketId) (reply : SystemResult Unit)
    (next : SocketKernel) : Prop :=
  match reply with
  | .ok () => ∃ socket, kernel.sockets fd = some socket ∧ next = kernel.startListening fd socket
  | .error _ => next = kernel

/-- `unlink` removes every entry that it may remove. -/
def Unlinks (kernel : SocketKernel) (path : Bytes) (reply : SystemResult Unit)
    (next : SocketKernel) : Prop :=
  match reply with
  | .ok () => next = kernel.removeEntry path
  | .error errno =>
      next = kernel ∧
        (kernel.entries path = none ∨ kernel.removable path = false ∧ errno ≠ ENOENT)

end SocketKernel

/-- The probe succeeds exactly when a live stream listener owns the path. -/
def SocketCall.Answers (kernel : SocketKernel) :
    (call : SocketCall) → call.Reply → SocketKernel → Prop
  | .socket, reply, next => kernel.Opens reply next
  | .lstat path, reply, next => next = kernel ∧ kernel.Looks (cString path) reply
  | .connect _ address, reply, next =>
      next = kernel ∧ ((reply : SystemResult Unit) = .ok () ↔ kernel.HasListener address)
  | .bind fd address, reply, next => kernel.Binds fd address reply next
  | .listen fd _, reply, next => kernel.Listens fd reply next
  | .unlink path, reply, next => kernel.Unlinks (cString path) reply next
  | .close fd, _, next => next = kernel.closeSocket fd

section Runs

variable {kernel next : SocketKernel}

theorem socket_runs_iff {reply : SystemResult SocketId} :
    Runs SocketCall.Answers socket kernel reply next ↔ kernel.Opens reply next :=
  runs_perform_iff

theorem lstat_runs_iff {path : Bytes} {reply : SystemResult FileStatus} :
    Runs SocketCall.Answers (lstat path) kernel reply next ↔
      next = kernel ∧ kernel.Looks (cString path) reply :=
  runs_perform_iff

theorem connect_runs_iff {fd : SocketId} {address : Bytes} {reply : SystemResult Unit} :
    Runs SocketCall.Answers (connect fd address) kernel reply next ↔
      next = kernel ∧ (reply = .ok () ↔ kernel.HasListener address) :=
  runs_perform_iff

theorem bind_runs_iff {fd : SocketId} {address : Bytes} {reply : SystemResult Unit} :
    Runs SocketCall.Answers (bind fd address) kernel reply next ↔
      kernel.Binds fd address reply next :=
  runs_perform_iff

theorem listen_runs_iff {fd : SocketId} {backlog : ℤ} {reply : SystemResult Unit} :
    Runs SocketCall.Answers (listen fd backlog) kernel reply next ↔
      kernel.Listens fd reply next :=
  runs_perform_iff

theorem unlink_runs_iff {path : Bytes} {reply : SystemResult Unit} :
    Runs SocketCall.Answers (unlink path) kernel reply next ↔
      kernel.Unlinks (cString path) reply next :=
  runs_perform_iff

theorem closeSocket_runs_iff {fd : SocketId} {reply : SystemResult Unit} :
    Runs SocketCall.Answers (closeSocket fd) kernel reply next ↔
      next = kernel.closeSocket fd :=
  runs_perform_iff

end Runs

end ElapPlatform.Ipc
