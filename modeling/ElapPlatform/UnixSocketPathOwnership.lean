import ElapPlatform.UnixSocketServerRuns

/-!
# Who may remove a socket path

In every run, `listen` and `close` remove socket files only, never the path of
another listener, and leave the path to the server that listens on it.
-/

namespace ElapPlatform.Ipc

open Interaction Transition

/-- The server listens at the socket that the path names. -/
def SocketSystem.ListensAt (system : SocketSystem) (index : ℕ) (path : Bytes) : Prop :=
  ∃ fd identity entry, (system.servers index).fd = some fd ∧
    system.kernel.sockets fd = some ⟨some (path, identity), true⟩ ∧
      system.kernel.entries path = some entry ∧ entry.status = ⟨true, identity⟩

def KeepsOtherFiles (before after : SocketKernel) : Prop :=
  ∀ path identity, before.entries path = some (.other identity) →
    after.entries path = some (.other identity)

/-- The file of every listening socket but the server's own is still there. -/
def KeepsListeners (before after : SocketKernel) (server : UnixSocketServer) : Prop :=
  ∀ path identity fd socket, before.entries path = some (.socket identity fd) →
    before.sockets fd = some socket → socket.listening = true → server.fd ≠ some fd →
      after.entries path = some (.socket identity fd)

def NamesOwnSocket (after : SocketSystem) (index : ℕ) (path : Bytes) : Prop :=
  ∃ fd identity, after.servers index = ⟨some fd, path, identity, true⟩ ∧
    after.kernel.sockets fd = some ⟨some (cString path, identity), true⟩ ∧
      after.kernel.entries (cString path) = some (.socket identity fd)

/-- The server does not listen, and no socket that was opened in the call is open
or has left its file. -/
structure LeavesNothing (before after : SocketSystem) (index : ℕ) : Prop where
  idle : (after.servers index).isListening = false
  files : ∀ path identity fd, after.kernel.entries path = some (.socket identity fd) →
    fd < before.kernel.opened
  sockets : ∀ fd socket, after.kernel.sockets fd = some socket → fd < before.kernel.opened

section Release

variable {kernel next : SocketKernel} {servers : ℕ → UnixSocketServer} {index : ℕ}

theorem SocketInvariant.fd_of_ownsPath (hinvariant : SocketInvariant kernel servers)
    (howns : (servers index).ownsPath = true) : ∃ fd, (servers index).fd = some fd := by
  cases hfd : (servers index).fd with
  | none =>
      rw [hinvariant.idle hfd] at howns
      cases howns
  | some fd => exact ⟨fd, rfl⟩

/-- The inode check of `close` finds the server's own socket file. -/
theorem PathReleased.removed_own (hinvariant : SocketInvariant kernel servers)
    (hreleased : PathReleased kernel (servers index) next) {path : Bytes}
    {entry : DirectoryEntry} (hentry : kernel.entries path = some entry)
    (hgone : next.entries path ≠ some entry) :
    ∃ identity fd, entry = .socket identity fd ∧ (servers index).fd = some fd := by
  rcases hreleased.entries with hsame | ⟨howns, binder, hbinder, hcleared⟩
  · rw [hsame] at hgone
    exact absurd hentry hgone
  · by_cases hpath : path = cString (servers index).path
    · subst hpath
      cases hbinder.symm.trans hentry
      obtain ⟨fd, hfd⟩ := hinvariant.fd_of_ownsPath howns
      have hown := hinvariant.named hfd hentry
      exact ⟨_, _, rfl, hown ▸ hfd⟩
    · rw [hcleared, Function.update_of_ne hpath] at hgone
      exact absurd hentry hgone

theorem PathReleased.keepsOtherFiles (hinvariant : SocketInvariant kernel servers)
    (hreleased : PathReleased kernel (servers index) next) : KeepsOtherFiles kernel next := by
  intro path identity hentry
  by_contra hgone
  obtain ⟨_, _, hsocket, _⟩ := hreleased.removed_own hinvariant hentry hgone
  cases hsocket

theorem PathReleased.keepsListeners (hinvariant : SocketInvariant kernel servers)
    (hreleased : PathReleased kernel (servers index) next) :
    KeepsListeners kernel next (servers index) := by
  intro path identity fd socket hentry _ _ hother
  by_contra hgone
  obtain ⟨_, _, hsocket, hown⟩ := hreleased.removed_own hinvariant hentry hgone
  cases hsocket
  exact hother hown

end Release

section Listen

variable {kernel next : SocketKernel} {path : Bytes} {answer : ObjectAnswer UnixSocketServer}

/-- Stale eviction finds a socket file whose socket does not listen. -/
theorem OnlyCleared.removed_dead {path' : Bytes} (hcleared : OnlyCleared kernel path next)
    {entry : DirectoryEntry} (hentry : kernel.entries path' = some entry)
    (hgone : next.entries path' ≠ some entry) :
    ∃ identity fd, entry = .socket identity fd ∧
      ∀ socket, kernel.sockets fd = some socket → socket.listening = false := by
  rcases hcleared.entries with hsame | ⟨identity, fd, hstale, hdead, hremoved⟩
  · rw [hsame] at hgone
    exact absurd hentry hgone
  · by_cases hpath : path' = path
    · subst hpath
      cases hstale.symm.trans hentry
      refine ⟨identity, fd, rfl, fun socket hsocket => ?_⟩
      by_contra hlistens
      exact hdead ⟨identity, fd, socket, hstale, hsocket, by simpa using hlistens⟩
    · rw [hremoved, Function.update_of_ne hpath] at hgone
      exact absurd hentry hgone

/-- What `listen` finds at a path it keeps, or it was a dead socket file. -/
theorem Listened.removed_dead (hlistened : Listened kernel path answer next) {path' : Bytes}
    {entry : DirectoryEntry} (hentry : kernel.entries path' = some entry)
    (hgone : next.entries path' ≠ some entry) :
    ∃ identity fd, entry = .socket identity fd ∧
      ∀ socket, kernel.sockets fd = some socket → socket.listening = false := by
  cases hlistened with
  | failed hcleared => exact hcleared.removed_dead hentry hgone
  | listening hcleared hfree hfresh hnamed hnew hnumber hopened hentries =>
      apply hcleared.removed_dead hentry
      intro hkept
      by_cases hpath : path' = cString path
      · subst hpath
        rw [hfree] at hkept
        cases hkept
      · rw [hentries, Function.update_of_ne hpath] at hgone
        exact hgone hkept

end Listen

/-! ## Steps -/

section Steps

variable {system next : SocketSystem} {label : SocketLabel} {index : ℕ}

theorem SocketStep.keepsOtherFiles (hstep : SocketStep system label next)
    (hinvariant : system.Invariant) (hcalled : label.calledServer = some index) :
    KeepsOtherFiles system.kernel next.kernel := by
  cases hstep with
  | listens hrun =>
      obtain ⟨middle, hreleased, hlistened⟩ :=
        UnixSocketServer.listen_runs hinvariant.numbered hrun
      intro path identity hentry
      have hmiddle := hreleased.keepsOtherFiles hinvariant path identity hentry
      by_contra hgone
      obtain ⟨_, _, hsocket, _⟩ := hlistened.removed_dead hmiddle hgone
      cases hsocket
  | closes hrun =>
      exact (UnixSocketServer.close_runs hrun).2.keepsOtherFiles hinvariant
  | crashes => cases hcalled
  | others => cases hcalled

theorem SocketStep.keepsListeners (hstep : SocketStep system label next)
    (hinvariant : system.Invariant) (hcalled : label.calledServer = some index) :
    KeepsListeners system.kernel next.kernel (system.servers index) := by
  cases hstep with
  | listens hrun =>
      cases hcalled
      obtain ⟨middle, hreleased, hlistened⟩ :=
        UnixSocketServer.listen_runs hinvariant.numbered hrun
      intro path identity fd socket hentry hsocket hlistens hother
      have hmiddle := hreleased.keepsListeners hinvariant path identity fd socket hentry
        hsocket hlistens hother
      by_contra hgone
      obtain ⟨_, _, hsame, hdead⟩ := hlistened.removed_dead hmiddle hgone
      cases hsame
      rw [hdead socket ((hreleased.sockets_other hother).trans hsocket)] at hlistens
      cases hlistens
  | closes hrun =>
      cases hcalled
      exact (UnixSocketServer.close_runs hrun).2.keepsListeners hinvariant
  | crashes => cases hcalled
  | others => cases hcalled

/-- What a `listen` step made of its server and of the kernel. -/
theorem SocketStep.listened {path : Bytes} {backlog : ℤ} {error : Option ErrorText}
    (hstep : SocketStep system (.listens index path backlog error) next)
    (hinvariant : system.Invariant) :
    ∃ middle object, PathReleased system.kernel (system.servers index) middle ∧
      Listened middle path ⟨error, object⟩ next.kernel ∧ next.servers index = object := by
  generalize hlabel : SocketLabel.listens index path backlog error = label at hstep
  cases hstep with
  | @listens kernel after servers index' path' backlog' answer hrun =>
      cases hlabel
      obtain ⟨middle, hreleased, hlistened⟩ :=
        UnixSocketServer.listen_runs hinvariant.numbered hrun
      exact ⟨middle, answer.object, hreleased, hlistened, Function.update_self ..⟩
  | closes => cases hlabel
  | crashes => cases hlabel
  | others => cases hlabel

theorem SocketStep.namesOwnSocket {path : Bytes} {backlog : ℤ}
    (hstep : SocketStep system (.listens index path backlog none) next)
    (hinvariant : system.Invariant) : NamesOwnSocket next index path := by
  obtain ⟨middle, object, _, hlistened, hserver⟩ := hstep.listened hinvariant
  cases hlistened with
  | @listening fd identity cleared _ hcleared hfree hfresh hnamed hnew hnumber hopened
      hentries hsockets =>
      refine ⟨fd, identity, hserver, ?_, ?_⟩
      · rw [hsockets]
        exact Function.update_self ..
      · rw [hentries]
        exact Function.update_self ..

theorem SocketStep.leavesNothing {path : Bytes} {backlog : ℤ} {error : ErrorText}
    (hstep : SocketStep system (.listens index path backlog (some error)) next)
    (hinvariant : system.Invariant) : LeavesNothing system next index := by
  obtain ⟨middle, object, hreleased, hlistened, hserver⟩ := hstep.listened hinvariant
  cases hlistened with
  | failed hcleared =>
      constructor
      · rw [hserver]
        rfl
      · intro path' identity fd hentry
        exact hinvariant.made (hreleased.entries_sub (hcleared.entries_sub hentry))
      · intro fd socket hsocket
        rw [hcleared.sockets] at hsocket
        exact hinvariant.numbered.opened (hreleased.sockets_sub hsocket).2

end Steps

/-! ## Runs -/

theorem SocketSystem.Invariant.listensAt_unique {system : SocketSystem}
    (hinvariant : system.Invariant) {path : Bytes} {index other : ℕ}
    (hindex : system.ListensAt index path) (hother : system.ListensAt other path) :
    other = index := by
  obtain ⟨fd, identity, entry, hfd, hsocket, hentry, hstatus⟩ := hindex
  obtain ⟨fd', identity', entry', hfd', hsocket', hentry', hstatus'⟩ := hother
  cases hentry.symm.trans hentry'
  cases hstatus.symm.trans hstatus'
  exact hinvariant.distinct hfd hfd' ((hinvariant.pathIdentity_eq hfd' hsocket').trans
    (hinvariant.pathIdentity_eq hfd hsocket).symm)

/-- What holds in a state, and of every call that a server makes there. -/
structure PathsOwned (system : SocketSystem) : Prop where
  oneListener : ∀ {path index other}, system.ListensAt index path →
    system.ListensAt other path → other = index
  otherFiles : ∀ {label next index}, SocketStep system label next →
    label.calledServer = some index → KeepsOtherFiles system.kernel next.kernel
  listeners : ∀ {label next index}, SocketStep system label next →
    label.calledServer = some index →
      KeepsListeners system.kernel next.kernel (system.servers index)
  succeeded : ∀ {index path backlog next},
    SocketStep system (.listens index path backlog none) next → NamesOwnSocket next index path
  failed : ∀ {index path backlog error next},
    SocketStep system (.listens index path backlog (some error)) next →
      LeavesNothing system next index

/-- However servers listen, close and crash, and whatever others do to the paths,
every call respects the owners of the paths. -/
theorem socket_paths_owned {history : History SocketSystem SocketLabel}
    {system : SocketSystem} (hrun : Run SocketStep initialSocketSystem history system) :
    PathsOwned system := by
  have hinvariant := run_socketInvariant hrun
  constructor
  · exact hinvariant.listensAt_unique
  · exact fun hstep hcalled => hstep.keepsOtherFiles hinvariant hcalled
  · exact fun hstep hcalled => hstep.keepsListeners hinvariant hcalled
  · exact fun hstep => hstep.namesOwnSocket hinvariant
  · exact fun hstep => hstep.leavesNothing hinvariant

theorem SocketStep.answered {kernel next : SocketKernel} {servers : ℕ → UnixSocketServer}
    {index : ℕ} {path : Bytes} {backlog : ℤ} {error : Option ErrorText}
    {object : UnixSocketServer}
    (hrun : Runs SocketCall.Answers ((servers index).listen path backlog)
      kernel ⟨error, object⟩ next) :
    SocketStep ⟨kernel, servers⟩ (.listens index path backlog error)
      ⟨next, Function.update servers index object⟩ :=
  .listens hrun

/-- `"/s"` -/
def sharedPath : Bytes := [47, 115]

def firstInode : FileIdentity := ⟨1, 10⟩

def secondInode : FileIdentity := ⟨1, 11⟩

/-- Server 1 is refused while server 0 listens, and takes the path over after
server 0 has crashed. -/
theorem crashed_server_run :
    ∃ history system, Run SocketStep initialSocketSystem history system ∧
      history.map Prod.snd =
        [.listens 0 sharedPath 8 none,
          .listens 1 sharedPath 8 (some (.message
            "bind failed: unix socket path already has an active listener")),
          .crashes 0, .listens 1 sharedPath 8 none] ∧
      system.ListensAt 1 sharedPath := by
  have hstart : Run SocketStep initialSocketSystem [] _ := .start
  have hempty : ∀ identity, emptySocketKernel.Fresh identity := fun _ _ _ _ => nofun
  have hfirst := hstart.andThen (.listens 0 sharedPath 8 none)
    (.answered (.answered (.ok 0) ⟨rfl, rfl⟩ (.answered (.error ENOENT) ⟨rfl, .inl rfl⟩
      (.answered (.ok ()) (.inr ⟨nofun, rfl, firstInode, (hempty _).openSocket, rfl⟩)
        (.answered (.ok ⟨true, firstInode⟩) ⟨rfl, _, rfl, rfl⟩
          (.answered (.ok ()) ⟨_, rfl, rfl⟩ (.done _ _)))))))
  have hrefused := hfirst.andThen (.listens 1 sharedPath 8 (some (.message
      "bind failed: unix socket path already has an active listener")))
    (.answered (.answered (.ok 1) ⟨rfl, rfl⟩
      (.answered (.ok ⟨true, firstInode⟩) ⟨rfl, _, rfl, rfl⟩
        (.answered (.ok 2) ⟨rfl, rfl⟩
          (.answered (.ok ()) ⟨rfl, fun _ => ⟨_, _, _, rfl, rfl, rfl⟩, fun _ => rfl⟩
            (.answered (.ok ()) rfl (.answered (.ok ()) rfl (.done _ _))))))))
  have hcrashed := hrefused.andThen (.crashes 0) (.crashes rfl)
  have hlistening := ((hempty secondInode).openSocket.bindSocket 0 sharedPath
    firstInode).startListening 0 ⟨some (sharedPath, firstInode), false⟩ (by rintro path ⟨⟩)
  have hfresh := (((hlistening.openSocket.openSocket.closeSocket 2).closeSocket
    1).closeSocket 0).openSocket.openSocket.closeSocket 4
  have hagain := hcrashed.andThen (.listens 1 sharedPath 8 none)
    (.answered (.answered (.ok 3) ⟨rfl, rfl⟩
      (.answered (.ok ⟨true, firstInode⟩) ⟨rfl, _, rfl, rfl⟩
        (.answered (.ok 4) ⟨rfl, rfl⟩
          (.answered (.error ECONNREFUSED) ⟨rfl, nofun, fun hlistener => by
              obtain ⟨_, _, _, hentry, hsocket, _⟩ := hlistener
              cases hentry
              cases hsocket⟩
            (.answered (.ok ()) rfl (.answered (.ok ()) rfl
              (.answered (.ok ()) (.inr ⟨nofun, rfl, secondInode, hfresh, rfl⟩)
                (.answered (.ok ⟨true, secondInode⟩) ⟨rfl, _, rfl, rfl⟩
                  (.answered (.ok ()) ⟨_, rfl, rfl⟩ (.done _ _)))))))))))
  exact ⟨_, _, hagain, rfl, 3, secondInode, _, rfl, rfl, rfl, rfl⟩

theorem crashed_server_paths_owned :
    ∃ history system, Run SocketStep initialSocketSystem history system ∧
      system.ListensAt 1 sharedPath ∧ PathsOwned system := by
  obtain ⟨history, system, hrun, _, hlistens⟩ := crashed_server_run
  exact ⟨history, system, hrun, hlistens, socket_paths_owned hrun⟩

end ElapPlatform.Ipc
