import ElapPlatform.UnixSocketKernel

/-!
# Servers on a socket path

`listen` and `close` of `UnixSocketServer` as programs over their system calls,
and what each of them does to the directories and the open sockets when no other
call comes in between.
-/

namespace ElapPlatform.Ipc

open Interaction Interaction.Program

structure UnixSocketServer where
  fd : Option SocketId
  path : Bytes
  pathIdentity : FileIdentity
  ownsPath : Bool
  deriving DecidableEq, Repr

/-- `sizeof(sockaddr_un::sun_path)` -/
def sunPathSize : ℕ := 108

def fillAddress (path : Bytes) : Except ErrorText Bytes :=
  if path.isEmpty then
    .error (.message "unix socket path is empty")
  else if path.length ≥ sunPathSize then
    .error (.message "unix socket path is too long")
  else .ok (cString path)

def socketHasActiveListener (address : Bytes) : SocketProgram Bool := do
  match ← socket with
  | .error _ => return true
  | .ok probeFd =>
      let reply ← connect probeFd address
      let _ ← closeSocket probeFd
      return reply.isOk

def removeStaleSocketPath (path address : Bytes) : SocketProgram (Option ErrorText) := do
  match ← lstat path with
  | .error errno =>
      if errno = ENOENT then
        return none
      return some (systemError "lstat" errno)
  | .ok pathStatus =>
      if !pathStatus.isSocket then
        return some (.message "bind failed: path exists and is not a unix socket")
      if ← socketHasActiveListener address then
        return some (.message "bind failed: unix socket path already has an active listener")
      match ← unlink path with
      | .error errno =>
          if errno ≠ ENOENT then
            return some (systemError "unlink" errno)
          return none
      | .ok () => return none

def loadSocketPathIdentity (path : Bytes) : SocketProgram (Except ErrorText FileIdentity) := do
  match ← lstat path with
  | .error errno => return .error (systemError "lstat" errno)
  | .ok pathStatus =>
      if !pathStatus.isSocket then
        return .error (.message "bind failed: bound path is not a unix socket")
      return .ok pathStatus.identity

def unlinkOwnedSocketPath (path : Bytes) (identity : FileIdentity) : SocketProgram Unit := do
  if path.isEmpty then
    return ()
  match ← lstat path with
  | .error _ => return ()
  | .ok pathStatus =>
      if pathStatus.isSocket && pathStatus.identity = identity then
        let _ ← unlink path
        return ()
      return ()

namespace UnixSocketServer

def closed : UnixSocketServer := ⟨none, [], ⟨0, 0⟩, false⟩

def isListening (server : UnixSocketServer) : Bool := server.fd.isSome

def closeFd (server : UnixSocketServer) : SocketProgram Unit := do
  match server.fd with
  | some fd =>
      let _ ← closeSocket fd
      return ()
  | none => return ()

def close (server : UnixSocketServer) : SocketProgram UnixSocketServer := do
  server.closeFd
  if server.ownsPath then
    unlinkOwnedSocketPath server.path server.pathIdentity
  return closed

/-- `listen` from the `bind` of its socket on. -/
def listenAt (server : UnixSocketServer) (socketFd : SocketId) (path address : Bytes)
    (backlog : ℤ) : SocketProgram (ObjectAnswer UnixSocketServer) := do
  match ← bind socketFd address with
  | .error errno =>
      let _ ← closeSocket socketFd
      return ⟨some (systemError "bind" errno), server⟩
  | .ok () =>
    match ← loadSocketPathIdentity path with
    | .error error =>
        let _ ← closeSocket socketFd
        let _ ← unlink path
        return ⟨some error, server⟩
    | .ok pathIdentity =>
      match ← Ipc.listen socketFd backlog with
      | .error errno =>
          let _ ← closeSocket socketFd
          unlinkOwnedSocketPath path pathIdentity
          return ⟨some (systemError "listen" errno), server⟩
      | .ok () => return ⟨none, ⟨some socketFd, path, pathIdentity, true⟩⟩

def listen (server : UnixSocketServer) (path : Bytes) (backlog : ℤ) :
    SocketProgram (ObjectAnswer UnixSocketServer) := do
  let server ← server.close
  match fillAddress path with
  | .error error => return ⟨some error, server⟩
  | .ok address =>
    match ← socket with
    | .error errno => return ⟨some (systemError "socket" errno), server⟩
    | .ok socketFd =>
      match ← removeStaleSocketPath path address with
      | some error =>
          let _ ← closeSocket socketFd
          return ⟨some error, server⟩
      | none => server.listenAt socketFd path address backlog

end UnixSocketServer

/-! ## What the helpers do -/

/-- Open sockets have numbers, and files have names. -/
structure SocketKernel.Numbered (kernel : SocketKernel) : Prop where
  opened : ∀ {fd socket}, kernel.sockets fd = some socket → fd < kernel.opened
  named : kernel.entries [] = none

/-- At most the entry at the path is gone, and that was a socket without a listener. -/
structure OnlyCleared (kernel : SocketKernel) (path : Bytes) (next : SocketKernel) : Prop where
  entries : next.entries = kernel.entries ∨
    ∃ identity fd, kernel.entries path = some (.socket identity fd) ∧
      ¬ kernel.HasListener path ∧ next.entries = Function.update kernel.entries path none
  sockets : next.sockets = kernel.sockets
  opened : kernel.opened ≤ next.opened

theorem OnlyCleared.refl (kernel : SocketKernel) (path : Bytes) :
    OnlyCleared kernel path kernel :=
  ⟨.inl rfl, rfl, Nat.le_refl _⟩

section Helpers

variable {kernel next : SocketKernel}

theorem SocketKernel.Numbered.unused (hnumbered : kernel.Numbered) :
    kernel.sockets kernel.opened = none := by
  by_contra hused
  obtain ⟨socket, hsocket⟩ := Option.ne_none_iff_exists'.mp hused
  exact Nat.lt_irrefl _ (hnumbered.opened hsocket)

/-- A socket that does not listen yet makes no difference to a probe. -/
theorem hasListener_openSocket_iff (hnumbered : kernel.Numbered) {path : Bytes} :
    kernel.openSocket.HasListener path ↔ kernel.HasListener path := by
  have hsame : ∀ fd socket, socket.listening = true →
      (kernel.openSocket.sockets fd = some socket ↔ kernel.sockets fd = some socket) := by
    intro fd socket hlistening
    unfold SocketKernel.openSocket
    by_cases hnew : fd = kernel.opened
    · subst hnew
      simp only [Function.update_self, hnumbered.unused]
      constructor
      · intro hsocket
        cases hsocket
        cases hlistening
      · intro hsocket
        cases hsocket
    · simp only [Function.update_of_ne hnew]
  constructor
  · rintro ⟨identity, fd, socket, hentry, hsocket, hlistening⟩
    exact ⟨identity, fd, socket, hentry, (hsame fd socket hlistening).mp hsocket, hlistening⟩
  · rintro ⟨identity, fd, socket, hentry, hsocket, hlistening⟩
    exact ⟨identity, fd, socket, hentry, (hsame fd socket hlistening).mpr hsocket, hlistening⟩

theorem openSocket_closeSocket (hnumbered : kernel.Numbered) :
    (kernel.openSocket.closeSocket kernel.opened).sockets = kernel.sockets := by
  unfold SocketKernel.closeSocket SocketKernel.openSocket
  exact PartialMap.erase_insert hnumbered.unused

theorem socketHasActiveListener_runs {address : Bytes} {active : Bool}
    (hnumbered : kernel.Numbered)
    (hrun : Runs SocketCall.Answers (socketHasActiveListener address) kernel active next) :
    (active = false → ¬ kernel.HasListener address) ∧ next.entries = kernel.entries ∧
      next.sockets = kernel.sockets ∧ kernel.opened ≤ next.opened := by
  unfold socketHasActiveListener at hrun
  rw [runs_bind_iff] at hrun
  obtain ⟨reply, asked, hsocket, hrest⟩ := hrun
  rw [socket_runs_iff] at hsocket
  cases reply with
  | error errno =>
      cases hsocket
      obtain ⟨rfl, rfl⟩ := runs_done_iff.mp hrest
      exact ⟨nofun, rfl, rfl, Nat.le_refl _⟩
  | ok probeFd =>
      obtain ⟨rfl, rfl⟩ := hsocket
      rw [runs_bind_iff] at hrest
      obtain ⟨connected, _, hconnect, hrest⟩ := hrest
      rw [connect_runs_iff, hasListener_openSocket_iff hnumbered] at hconnect
      obtain ⟨rfl, hlistener⟩ := hconnect
      rw [runs_bind_iff] at hrest
      obtain ⟨_, _, hclose, hdone⟩ := hrest
      rw [closeSocket_runs_iff] at hclose
      obtain ⟨rfl, rfl⟩ := runs_done_iff.mp hdone
      subst hclose
      refine ⟨?_, rfl, openSocket_closeSocket hnumbered, Nat.le_succ _⟩
      intro hfailed hlistens
      rw [hlistener.mpr hlistens] at hfailed
      cases hfailed

theorem removeStaleSocketPath_runs {path : Bytes} {error : Option ErrorText}
    (hnumbered : kernel.Numbered)
    (hrun : Runs SocketCall.Answers (removeStaleSocketPath path (cString path))
      kernel error next) :
    OnlyCleared kernel (cString path) next := by
  unfold removeStaleSocketPath at hrun
  rw [runs_bind_iff] at hrun
  obtain ⟨reply, _, hlstat, hrest⟩ := hrun
  rw [lstat_runs_iff] at hlstat
  obtain ⟨rfl, hlooks⟩ := hlstat
  cases reply with
  | error errno =>
      dsimp only at hrest
      by_cases habsent : errno = ENOENT
      · rw [if_pos habsent] at hrest
        rw [(runs_done_iff.mp hrest).2]
        exact .refl _ _
      · rw [if_neg habsent] at hrest
        rw [(runs_done_iff.mp hrest).2]
        exact .refl _ _
  | ok status =>
      obtain ⟨entry, hentry, rfl⟩ := hlooks
      cases entry with
      | other identity =>
          rw [(runs_done_iff.mp hrest).2]
          exact .refl _ _
      | socket identity fd =>
          dsimp only [DirectoryEntry.status] at hrest
          rw [if_neg (by decide), runs_bind_iff] at hrest
          obtain ⟨active, probed, hprobe, hrest⟩ := hrest
          obtain ⟨hdead, hentries, hsockets, hopened⟩ :=
            socketHasActiveListener_runs hnumbered hprobe
          cases active with
          | true =>
              rw [(runs_done_iff.mp hrest).2]
              exact ⟨.inl hentries, hsockets, hopened⟩
          | false =>
              rw [if_neg Bool.false_ne_true, runs_bind_iff] at hrest
              obtain ⟨unlinked, removed, hunlink, hrest⟩ := hrest
              rw [unlink_runs_iff] at hunlink
              cases unlinked with
              | error errno =>
                  have hlast : next = removed := by
                    dsimp only at hrest
                    split at hrest <;> exact (runs_done_iff.mp hrest).2
                  rw [hlast, hunlink.1]
                  exact ⟨.inl hentries, hsockets, hopened⟩
              | ok =>
                  rw [(runs_done_iff.mp hrest).2, show removed = _ from hunlink]
                  refine ⟨.inr ⟨identity, fd, hentry, hdead rfl, ?_⟩, hsockets, hopened⟩
                  unfold SocketKernel.removeEntry
                  rw [hentries]

theorem loadSocketPathIdentity_absent {path : Bytes} {loaded : Except ErrorText FileIdentity}
    (habsent : kernel.entries (cString path) = none)
    (hrun : Runs SocketCall.Answers (loadSocketPathIdentity path) kernel loaded next) :
    (∃ error, loaded = .error error) ∧ next = kernel := by
  unfold loadSocketPathIdentity at hrun
  rw [runs_bind_iff] at hrun
  obtain ⟨reply, _, hlstat, hrest⟩ := hrun
  rw [lstat_runs_iff] at hlstat
  obtain ⟨rfl, hlooks⟩ := hlstat
  cases reply with
  | ok status =>
      obtain ⟨entry, hentry, _⟩ := hlooks
      rw [habsent] at hentry
      cases hentry
  | error errno =>
      obtain ⟨rfl, rfl⟩ := runs_done_iff.mp hrest
      exact ⟨⟨_, rfl⟩, rfl⟩

theorem loadSocketPathIdentity_found {path : Bytes} {identity : FileIdentity} {fd : SocketId}
    {loaded : Except ErrorText FileIdentity}
    (hentry : kernel.entries (cString path) = some (.socket identity fd))
    (hsearchable : kernel.searchable (cString path) = true)
    (hrun : Runs SocketCall.Answers (loadSocketPathIdentity path) kernel loaded next) :
    loaded = .ok identity ∧ next = kernel := by
  unfold loadSocketPathIdentity at hrun
  rw [runs_bind_iff] at hrun
  obtain ⟨reply, _, hlstat, hrest⟩ := hrun
  rw [lstat_runs_iff] at hlstat
  obtain ⟨rfl, hlooks⟩ := hlstat
  cases reply with
  | error errno =>
      rcases hlooks with habsent | ⟨hdenied, _⟩
      · rw [hentry] at habsent
        cases habsent
      · rw [hsearchable] at hdenied
        cases hdenied
  | ok status =>
      obtain ⟨entry, hfound, rfl⟩ := hlooks
      cases hentry.symm.trans hfound
      exact runs_done_iff.mp hrest

theorem unlinkOwnedSocketPath_runs {path : Bytes} {identity : FileIdentity} {result : Unit}
    (hrun : Runs SocketCall.Answers (unlinkOwnedSocketPath path identity)
      kernel result next) :
    next = kernel ∨ ∃ fd, kernel.entries (cString path) = some (.socket identity fd) ∧
      next = kernel.removeEntry (cString path) := by
  unfold unlinkOwnedSocketPath at hrun
  by_cases hempty : path.isEmpty = true
  · rw [if_pos hempty] at hrun
    exact .inl (runs_done_iff.mp hrun).2
  · rw [if_neg hempty, runs_bind_iff] at hrun
    obtain ⟨reply, _, hlstat, hrest⟩ := hrun
    rw [lstat_runs_iff] at hlstat
    obtain ⟨rfl, hlooks⟩ := hlstat
    cases reply with
    | error errno => exact .inl (runs_done_iff.mp hrest).2
    | ok status =>
        obtain ⟨entry, hentry, rfl⟩ := hlooks
        dsimp only at hrest
        by_cases hown : (entry.status.isSocket && entry.status.identity = identity) = true
        · rw [if_pos hown, runs_bind_iff] at hrest
          obtain ⟨unlinked, removed, hunlink, hdone⟩ := hrest
          rw [unlink_runs_iff] at hunlink
          rw [(runs_done_iff.mp hdone).2]
          cases unlinked with
          | error errno => exact .inl hunlink.1
          | ok =>
              cases entry with
              | other => cases hown
              | socket found fd =>
                  have hsame : found = identity :=
                    of_decide_eq_true ((Bool.true_and _).symm.trans hown)
                  subst hsame
                  exact .inr ⟨fd, hentry, hunlink⟩
        · rw [if_neg hown] at hrest
          exact .inl (runs_done_iff.mp hrest).2

/-- The server removes the file it has just bound. -/
theorem unlinkOwnedSocketPath_removes {path : Bytes} {identity : FileIdentity}
    {fd : SocketId} {result : Unit}
    (hentry : kernel.entries (cString path) = some (.socket identity fd))
    (hsearchable : kernel.searchable (cString path) = true)
    (hremovable : kernel.removable (cString path) = true) (hnamed : cString path ≠ [])
    (hrun : Runs SocketCall.Answers (unlinkOwnedSocketPath path identity)
      kernel result next) :
    next = kernel.removeEntry (cString path) := by
  have hnonempty : ¬ path.isEmpty = true := by
    intro hempty
    rw [List.isEmpty_iff.mp hempty] at hnamed
    exact hnamed rfl
  unfold unlinkOwnedSocketPath at hrun
  rw [if_neg hnonempty, runs_bind_iff] at hrun
  obtain ⟨reply, _, hlstat, hrest⟩ := hrun
  rw [lstat_runs_iff] at hlstat
  obtain ⟨rfl, hlooks⟩ := hlstat
  cases reply with
  | error errno =>
      rcases hlooks with habsent | ⟨hdenied, _⟩
      · rw [hentry] at habsent
        cases habsent
      · rw [hsearchable] at hdenied
        cases hdenied
  | ok status =>
      obtain ⟨entry, hfound, rfl⟩ := hlooks
      cases hentry.symm.trans hfound
      dsimp only [DirectoryEntry.status] at hrest
      rw [if_pos (by simp), runs_bind_iff] at hrest
      obtain ⟨unlinked, removed, hunlink, hdone⟩ := hrest
      rw [unlink_runs_iff] at hunlink
      rw [(runs_done_iff.mp hdone).2]
      cases unlinked with
      | ok => exact hunlink
      | error errno =>
          rcases hunlink.2 with habsent | ⟨hdenied, _⟩
          · rw [hentry] at habsent
            cases habsent
          · rw [hremovable] at hdenied
            cases hdenied

theorem openSocket_numbered (hnumbered : kernel.Numbered) : kernel.openSocket.Numbered where
  opened := by
    intro fd socket hsocket
    rcases PartialMap.insert_eq_some_iff.mp hsocket with ⟨rfl, _⟩ | ⟨_, hold⟩
    · exact Nat.lt_succ_self _
    · exact Nat.lt_succ_of_lt (hnumbered.opened hold)
  named := hnumbered.named

theorem closeSocket_numbered (hnumbered : kernel.Numbered) {fd : SocketId} :
    (kernel.closeSocket fd).Numbered where
  opened hsocket := hnumbered.opened (PartialMap.erase_eq_some_iff.mp hsocket).2
  named := hnumbered.named

theorem OnlyCleared.numbered {path : Bytes} (hcleared : OnlyCleared kernel path next)
    (hnumbered : kernel.Numbered) : next.Numbered where
  opened := by
    intro fd socket hsocket
    rw [hcleared.sockets] at hsocket
    exact Nat.lt_of_lt_of_le (hnumbered.opened hsocket) hcleared.opened
  named := by
    rcases hcleared.entries with hsame | ⟨identity, fd, hentry, _, hgone⟩
    · rw [hsame]
      exact hnumbered.named
    · rw [hgone]
      exact PartialMap.erase_eq_none hnumbered.named

/-- Opening a socket first and closing it at last changes nothing. -/
theorem OnlyCleared.of_openSocket {path : Bytes} {cleared : SocketKernel}
    (hcleared : OnlyCleared kernel.openSocket path cleared) (hnumbered : kernel.Numbered)
    (hentries : next.entries = cleared.entries) (hsockets : next.sockets = kernel.sockets)
    (hopened : next.opened = cleared.opened) : OnlyCleared kernel path next where
  entries := by
    rw [hentries]
    rcases hcleared.entries with hsame | ⟨identity, fd, hentry, hdead, hgone⟩
    · exact .inl hsame
    · rw [hasListener_openSocket_iff hnumbered] at hdead
      exact .inr ⟨identity, fd, hentry, hdead, hgone⟩
  sockets := hsockets
  opened := by
    rw [hopened]
    exact (Nat.le_succ _).trans hcleared.opened

/-- The socket that `listen` opened is the only one that it has to close. -/
theorem OnlyCleared.closed_sockets {path : Bytes} {cleared : SocketKernel}
    (hcleared : OnlyCleared kernel.openSocket path cleared) (hnumbered : kernel.Numbered) :
    Function.update cleared.sockets kernel.opened none = kernel.sockets := by
  rw [hcleared.sockets]
  exact openSocket_closeSocket hnumbered

end Helpers

/-! ## What the members do -/

/-- The socket is closed, and the entry with the recorded inode may be gone. -/
structure PathReleased (kernel : SocketKernel) (server : UnixSocketServer)
    (next : SocketKernel) : Prop where
  entries : next.entries = kernel.entries ∨
    server.ownsPath = true ∧ ∃ fd,
      kernel.entries (cString server.path) = some (.socket server.pathIdentity fd) ∧
        next.entries = Function.update kernel.entries (cString server.path) none
  sockets : next.sockets =
    match server.fd with
    | some fd => Function.update kernel.sockets fd none
    | none => kernel.sockets
  opened : next.opened = kernel.opened

theorem PathReleased.sockets_sub {kernel next : SocketKernel} {server : UnixSocketServer}
    (hreleased : PathReleased kernel server next) {fd : SocketId} {socket : OpenSocket}
    (hsocket : next.sockets fd = some socket) :
    server.fd ≠ some fd ∧ kernel.sockets fd = some socket := by
  rw [hreleased.sockets] at hsocket
  cases hheld : server.fd with
  | none =>
      rw [hheld] at hsocket
      exact ⟨nofun, hsocket⟩
  | some held =>
      rw [hheld] at hsocket
      obtain ⟨hne, hold⟩ := PartialMap.erase_eq_some_iff.mp hsocket
      exact ⟨fun hsame => hne (Option.some.inj hsame).symm, hold⟩

theorem PathReleased.sockets_other {kernel next : SocketKernel} {server : UnixSocketServer}
    (hreleased : PathReleased kernel server next) {fd : SocketId}
    (hother : server.fd ≠ some fd) : next.sockets fd = kernel.sockets fd := by
  rw [hreleased.sockets]
  cases hheld : server.fd with
  | none => rfl
  | some held =>
      have hne : fd ≠ held := by
        rintro rfl
        exact hother hheld
      exact Function.update_of_ne hne ..

theorem PathReleased.entries_sub {kernel next : SocketKernel} {server : UnixSocketServer}
    (hreleased : PathReleased kernel server next) {path : Bytes} {entry : DirectoryEntry}
    (hentry : next.entries path = some entry) : kernel.entries path = some entry := by
  rcases hreleased.entries with hsame | ⟨_, fd, _, hgone⟩
  · rwa [hsame] at hentry
  · rw [hgone] at hentry
    exact (PartialMap.erase_eq_some_iff.mp hentry).2

theorem PathReleased.numbered {kernel next : SocketKernel} {server : UnixSocketServer}
    (hreleased : PathReleased kernel server next) (hnumbered : kernel.Numbered) :
    next.Numbered where
  opened := by
    intro fd socket hsocket
    rw [hreleased.opened]
    exact hnumbered.opened (hreleased.sockets_sub hsocket).2
  named := by
    cases hentry : next.entries [] with
    | none => rfl
    | some entry =>
        have hbefore := hreleased.entries_sub hentry
        rw [hnumbered.named] at hbefore
        cases hbefore

/-- The end of `listen`: either nothing is left of its socket, or the server
listens on a file of its own. -/
inductive Listened (kernel : SocketKernel) (path : Bytes) :
    ObjectAnswer UnixSocketServer → SocketKernel → Prop
  | failed {error : ErrorText} {next : SocketKernel}
      (hcleared : OnlyCleared kernel (cString path) next) :
      Listened kernel path ⟨some error, .closed⟩ next
  | listening {fd : SocketId} {identity : FileIdentity} {cleared next : SocketKernel}
      (hcleared : OnlyCleared kernel (cString path) cleared)
      (hfree : cleared.entries (cString path) = none)
      (hfresh : kernel.Fresh identity) (hnamed : cString path ≠ [])
      (hnew : kernel.opened ≤ fd) (hnumber : fd < cleared.opened)
      (hopened : next.opened = cleared.opened)
      (hentries : next.entries =
        Function.update cleared.entries (cString path) (some (.socket identity fd)))
      (hsockets : next.sockets =
        Function.update kernel.sockets fd (some ⟨some (cString path, identity), true⟩)) :
      Listened kernel path ⟨none, ⟨some fd, path, identity, true⟩⟩ next

namespace UnixSocketServer

variable {kernel next : SocketKernel} {server : UnixSocketServer}

theorem closeFd_runs {result : Unit}
    (hrun : Runs SocketCall.Answers server.closeFd kernel result next) :
    next = match server.fd with
      | some fd => kernel.closeSocket fd
      | none => kernel := by
  unfold closeFd at hrun
  split at hrun
  · rw [runs_bind_iff] at hrun
    obtain ⟨_, middle, hcall, hdone⟩ := hrun
    rw [closeSocket_runs_iff] at hcall
    exact (runs_done_iff.mp hdone).2.trans hcall
  · exact (runs_done_iff.mp hrun).2

theorem close_runs {after : UnixSocketServer}
    (hrun : Runs SocketCall.Answers server.close kernel after next) :
    after = .closed ∧ PathReleased kernel server next := by
  unfold close at hrun
  rw [runs_bind_iff] at hrun
  obtain ⟨_, detached, hclose, hrest⟩ := hrun
  have hdetached := closeFd_runs hclose
  have hentries : detached.entries = kernel.entries := by
    rw [hdetached]
    split <;> rfl
  have hopened : detached.opened = kernel.opened := by
    rw [hdetached]
    split <;> rfl
  have hsockets : detached.sockets = match server.fd with
      | some fd => Function.update kernel.sockets fd none
      | none => kernel.sockets := by
    rw [hdetached]
    split <;> rfl
  by_cases howns : server.ownsPath = true
  · rw [if_pos howns, runs_bind_iff] at hrest
    obtain ⟨_, last, hunlink, hdone⟩ := hrest
    obtain ⟨rfl, rfl⟩ := runs_done_iff.mp hdone
    refine ⟨rfl, ?_⟩
    rcases unlinkOwnedSocketPath_runs hunlink with rfl | ⟨fd, hentry, rfl⟩
    · exact ⟨.inl hentries, hsockets, hopened⟩
    · rw [hentries] at hentry
      refine ⟨.inr ⟨howns, fd, hentry, ?_⟩, hsockets, hopened⟩
      unfold SocketKernel.removeEntry
      rw [hentries]
  · rw [if_neg howns] at hrest
    obtain ⟨rfl, rfl⟩ := runs_done_iff.mp hrest
    exact ⟨rfl, .inl hentries, hsockets, hopened⟩

/-- The socket is closed again, and no file has come or gone. -/
structure SocketGivenUp (kernel : SocketKernel) (fd : SocketId) (next : SocketKernel) : Prop where
  opened : next.opened = kernel.opened
  entries : next.entries = kernel.entries
  sockets : next.sockets = Function.update kernel.sockets fd none

theorem closeSocket_givenUp (kernel : SocketKernel) (fd : SocketId) :
    SocketGivenUp kernel fd (kernel.closeSocket fd) :=
  ⟨rfl, rfl, rfl⟩

section GivingUp

variable {fd : SocketId} {path : Bytes} {answer result : ObjectAnswer UnixSocketServer}

/-- A file that is not there cannot be removed. -/
theorem giveUp_unnamed_runs (hunnamed : kernel.entries (cString path) = none)
    (hrun : Runs SocketCall.Answers
      (do
        let _ ← closeSocket fd
        let _ ← unlink path
        return answer)
      kernel result next) :
    result = answer ∧ SocketGivenUp kernel fd next := by
  rw [runs_bind_iff] at hrun
  obtain ⟨_, _, hclose, hrest⟩ := hrun
  rw [closeSocket_runs_iff] at hclose
  subst hclose
  rw [runs_bind_iff] at hrest
  obtain ⟨reply, removed, hunlink, hdone⟩ := hrest
  rw [unlink_runs_iff] at hunlink
  obtain ⟨rfl, rfl⟩ := runs_done_iff.mp hdone
  cases reply with
  | error errno =>
      rw [hunlink.1]
      exact ⟨rfl, closeSocket_givenUp kernel fd⟩
  | ok =>
      cases hunlink
      exact ⟨rfl, rfl, PartialMap.erase_absent hunnamed, rfl⟩

/-- The file that `bind` has made can be looked up, and removed. -/
theorem bindSocket_entry (fd : SocketId) (identity : FileIdentity) :
    (kernel.bindSocket fd (cString path) identity).entries (cString path) =
      some (.socket identity fd) :=
  Function.update_self ..

theorem bindSocket_searchable (fd : SocketId) (identity : FileIdentity) :
    (kernel.bindSocket fd (cString path) identity).searchable (cString path) = true :=
  Function.update_self ..

theorem bindSocket_removable (fd : SocketId) (identity : FileIdentity) :
    (kernel.bindSocket fd (cString path) identity).removable (cString path) = true :=
  Function.update_self ..

theorem giveUp_bound_runs {identity : FileIdentity} (hnamed : cString path ≠ [])
    (hfree : kernel.entries (cString path) = none)
    (hrun : Runs SocketCall.Answers
      (do
        let _ ← closeSocket fd
        unlinkOwnedSocketPath path identity
        return answer)
      (kernel.bindSocket fd (cString path) identity) result next) :
    result = answer ∧ SocketGivenUp kernel fd next := by
  rw [runs_bind_iff] at hrun
  obtain ⟨_, closed, hclose, hrest⟩ := hrun
  rw [closeSocket_runs_iff] at hclose
  rw [runs_bind_iff] at hrest
  obtain ⟨_, removed, hunlink, hdone⟩ := hrest
  obtain ⟨rfl, rfl⟩ := runs_done_iff.mp hdone
  subst hclose
  obtain rfl : next = ((kernel.bindSocket fd (cString path) identity).closeSocket
      fd).removeEntry (cString path) :=
    unlinkOwnedSocketPath_removes (bindSocket_entry fd identity)
      (bindSocket_searchable fd identity) (bindSocket_removable fd identity) hnamed hunlink
  exact ⟨rfl, rfl, PartialMap.erase_insert hfree, Function.update_idem ..⟩

end GivingUp

/-- What `listenAt` comes to. -/
inductive ListenAtEffect (kernel : SocketKernel) (server : UnixSocketServer) (fd : SocketId)
    (path : Bytes) : ObjectAnswer UnixSocketServer → SocketKernel → Prop
  | failed {error : ErrorText} {next : SocketKernel} (hclosed : SocketGivenUp kernel fd next) :
      ListenAtEffect kernel server fd path ⟨some error, server⟩ next
  | serving {identity : FileIdentity} {next : SocketKernel} (hnamed : cString path ≠ [])
      (hfree : kernel.entries (cString path) = none) (hfresh : kernel.Fresh identity)
      (hopened : next.opened = kernel.opened)
      (hentries : next.entries =
        Function.update kernel.entries (cString path) (some (.socket identity fd)))
      (hsockets : next.sockets =
        Function.update kernel.sockets fd (some ⟨some (cString path, identity), true⟩)) :
      ListenAtEffect kernel server fd path ⟨none, ⟨some fd, path, identity, true⟩⟩ next

theorem listenAt_runs {fd : SocketId} {path : Bytes} {backlog : ℤ}
    {answer : ObjectAnswer UnixSocketServer} (hnumbered : kernel.Numbered)
    (hrun : Runs SocketCall.Answers (server.listenAt fd path (cString path) backlog)
      kernel answer next) : ListenAtEffect kernel server fd path answer next := by
  unfold listenAt at hrun
  rw [runs_bind_iff] at hrun
  obtain ⟨reply, bound, hbind, hrest⟩ := hrun
  rw [bind_runs_iff] at hbind
  cases reply with
  | error errno =>
      cases hbind
      rw [runs_bind_iff] at hrest
      obtain ⟨_, _, hclose, hdone⟩ := hrest
      rw [closeSocket_runs_iff] at hclose
      obtain ⟨rfl, rfl⟩ := runs_done_iff.mp hdone
      subst hclose
      exact .failed (closeSocket_givenUp _ fd)
  | ok =>
      rw [runs_bind_iff] at hrest
      obtain ⟨loaded, _, hload, hrest⟩ := hrest
      rcases hbind with ⟨habstract, rfl⟩ | ⟨hnamed, hfree, identity, hfresh, rfl⟩
      · -- an address outside the directories has no file that `lstat` could find
        have hunnamed : bound.entries (cString path) = none := by
          rw [habstract]
          exact hnumbered.named
        obtain ⟨⟨error, rfl⟩, hmiddle⟩ := loadSocketPathIdentity_absent hunnamed hload
        rw [hmiddle] at hrest
        obtain ⟨rfl, hclosed⟩ := giveUp_unnamed_runs hunnamed hrest
        exact .failed hclosed
      · obtain ⟨rfl, rfl⟩ := loadSocketPathIdentity_found (bindSocket_entry fd identity)
          (bindSocket_searchable fd identity) hload
        rw [runs_bind_iff] at hrest
        obtain ⟨reply, listened, hlisten, hrest⟩ := hrest
        rw [listen_runs_iff] at hlisten
        cases reply with
        | error errno =>
            cases hlisten
            obtain ⟨rfl, hclosed⟩ := giveUp_bound_runs hnamed hfree hrest
            exact .failed hclosed
        | ok =>
            obtain ⟨bound, hbound, rfl⟩ := hlisten
            cases (Function.update_self ..).symm.trans hbound
            obtain ⟨rfl, rfl⟩ := runs_done_iff.mp hrest
            exact .serving hnamed hfree hfresh rfl rfl (Function.update_idem ..)

theorem listen_runs {path : Bytes} {backlog : ℤ} {answer : ObjectAnswer UnixSocketServer}
    (hnumbered : kernel.Numbered)
    (hrun : Runs SocketCall.Answers (server.listen path backlog) kernel answer next) :
    ∃ middle, PathReleased kernel server middle ∧ Listened middle path answer next := by
  unfold listen at hrun
  rw [runs_bind_iff] at hrun
  obtain ⟨_, middle, hclose, hrest⟩ := hrun
  obtain ⟨rfl, hreleased⟩ := close_runs hclose
  have hmiddle := hreleased.numbered hnumbered
  refine ⟨middle, hreleased, ?_⟩
  unfold fillAddress at hrest
  by_cases hempty : path.isEmpty = true
  · rw [if_pos hempty] at hrest
    obtain ⟨rfl, rfl⟩ := runs_done_iff.mp hrest
    exact .failed (.refl _ _)
  rw [if_neg hempty] at hrest
  by_cases hlong : path.length ≥ sunPathSize
  · rw [if_pos hlong] at hrest
    obtain ⟨rfl, rfl⟩ := runs_done_iff.mp hrest
    exact .failed (.refl _ _)
  rw [if_neg hlong, runs_bind_iff] at hrest
  obtain ⟨reply, asked, hsocket, hrest⟩ := hrest
  rw [socket_runs_iff] at hsocket
  cases reply with
  | error errno =>
      cases hsocket
      obtain ⟨rfl, rfl⟩ := runs_done_iff.mp hrest
      exact .failed (.refl _ _)
  | ok socketFd =>
      obtain ⟨rfl, rfl⟩ := hsocket
      rw [runs_bind_iff] at hrest
      obtain ⟨stale, cleared, hstale, hrest⟩ := hrest
      have hcleared := removeStaleSocketPath_runs (openSocket_numbered hmiddle) hstale
      cases stale with
      | some error =>
          rw [runs_bind_iff] at hrest
          obtain ⟨_, _, hclose, hdone⟩ := hrest
          rw [closeSocket_runs_iff] at hclose
          obtain ⟨rfl, rfl⟩ := runs_done_iff.mp hdone
          subst hclose
          exact .failed (hcleared.of_openSocket hmiddle rfl
            (hcleared.closed_sockets hmiddle) rfl)
      | none =>
          have hlast := hcleared.numbered (openSocket_numbered hmiddle)
          cases listenAt_runs hlast hrest with
          | failed hclosed =>
              exact .failed (hcleared.of_openSocket hmiddle hclosed.entries
                (hclosed.sockets.trans (hcleared.closed_sockets hmiddle)) hclosed.opened)
          | serving hnamed hfree hfresh hopened hentries hsockets =>
              have hused : ∀ {fd socket}, middle.sockets fd = some socket →
                  cleared.sockets fd = some socket := by
                intro fd socket hsocket
                rw [hcleared.sockets]
                exact (Function.update_of_ne (Nat.ne_of_lt (hmiddle.opened hsocket)) ..).trans
                  hsocket
              refine @Listened.listening middle path _ _
                { cleared with sockets := middle.sockets } next
                (hcleared.of_openSocket hmiddle rfl rfl rfl) hfree ?_ hnamed (Nat.le_refl _)
                hcleared.opened hopened hentries ?_
              · intro fd socket file hsocket
                exact hfresh fd socket file (hused hsocket)
              · rw [hsockets, hcleared.sockets]
                exact Function.update_idem ..

end UnixSocketServer

end ElapPlatform.Ipc
