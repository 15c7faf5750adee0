import ElapPlatform.TransitionRun
import ElapPlatform.UnixSocketServer

/-!
# Any number of servers and everybody else

A system of servers that listen, close and crash while other processes make and
remove files and sockets.  Each call of a server is one step.
-/

namespace ElapPlatform.Ipc

open Interaction Transition

structure SocketSystem where
  kernel : SocketKernel
  servers : ℕ → UnixSocketServer

def emptySocketKernel : SocketKernel :=
  ⟨fun _ => none, fun _ => none, 0, fun _ => true, fun _ => true⟩

def initialSocketSystem : SocketSystem := ⟨emptySocketKernel, fun _ => .closed⟩

/-- What processes without a server do. -/
inductive OthersStep (servers : ℕ → UnixSocketServer) (kernel : SocketKernel) :
    SocketKernel → Prop
  | createsFile {path : Bytes} {identity : FileIdentity} (hnamed : path ≠ [])
      (hfree : kernel.entries path = none) (hfresh : kernel.Fresh identity) :
      OthersStep servers kernel { kernel with
        entries := Function.update kernel.entries path (some (.other identity)) }
  | bindsSocket {path : Bytes} {identity : FileIdentity} (hnamed : path ≠ [])
      (hfree : kernel.entries path = none) (hfresh : kernel.Fresh identity) :
      OthersStep servers kernel (kernel.openSocket.bindSocket kernel.opened path identity)
  | listens {fd : SocketId} {socket : OpenSocket}
      (hforeign : ∀ index, (servers index).fd ≠ some fd)
      (hsocket : kernel.sockets fd = some socket) :
      OthersStep servers kernel (kernel.startListening fd socket)
  | closes {fd : SocketId} (hforeign : ∀ index, (servers index).fd ≠ some fd) :
      OthersStep servers kernel (kernel.closeSocket fd)
  | removes {path : Bytes} : OthersStep servers kernel (kernel.removeEntry path)
  | permits {searchable removable : Bytes → Bool} :
      OthersStep servers kernel
        { kernel with searchable := searchable, removable := removable }

inductive SocketLabel where
  | listens (index : ℕ) (path : Bytes) (backlog : ℤ) (error : Option ErrorText)
  | closes (index : ℕ)
  | crashes (index : ℕ)
  | others
  deriving DecidableEq, Repr

/-- The server whose `listen` or `close` the step is. -/
def SocketLabel.calledServer : SocketLabel → Option ℕ
  | .listens index _ _ _ => some index
  | .closes index => some index
  | .crashes _ => none
  | .others => none

/-- Destruction is `close`; a crash closes the socket and leaves the path. -/
inductive SocketStep : SocketSystem → SocketLabel → SocketSystem → Prop
  | listens {kernel next : SocketKernel} {servers : ℕ → UnixSocketServer} {index : ℕ}
      {path : Bytes} {backlog : ℤ} {answer : ObjectAnswer UnixSocketServer}
      (hrun : Runs SocketCall.Answers ((servers index).listen path backlog)
        kernel answer next) :
      SocketStep ⟨kernel, servers⟩ (.listens index path backlog answer.error)
        ⟨next, Function.update servers index answer.object⟩
  | closes {kernel next : SocketKernel} {servers : ℕ → UnixSocketServer} {index : ℕ}
      {after : UnixSocketServer}
      (hrun : Runs SocketCall.Answers (servers index).close kernel after next) :
      SocketStep ⟨kernel, servers⟩ (.closes index)
        ⟨next, Function.update servers index after⟩
  | crashes {kernel : SocketKernel} {servers : ℕ → UnixSocketServer} {index : ℕ}
      {fd : SocketId} (hfd : (servers index).fd = some fd) :
      SocketStep ⟨kernel, servers⟩ (.crashes index)
        ⟨kernel.closeSocket fd, Function.update servers index .closed⟩
  | others {kernel next : SocketKernel} {servers : ℕ → UnixSocketServer}
      (hothers : OthersStep servers kernel next) :
      SocketStep ⟨kernel, servers⟩ .others ⟨next, servers⟩

/-! ## The invariant -/

structure SocketInvariant (kernel : SocketKernel) (servers : ℕ → UnixSocketServer) :
    Prop where
  numbered : kernel.Numbered
  made : ∀ {path identity fd}, kernel.entries path = some (.socket identity fd) →
    fd < kernel.opened
  serving : ∀ {index fd}, (servers index).fd = some fd →
    (servers index).ownsPath = true ∧ kernel.sockets fd =
      some ⟨some (cString (servers index).path, (servers index).pathIdentity), true⟩
  idle : ∀ {index}, (servers index).fd = none → (servers index).ownsPath = false
  distinct : ∀ {index other fd fd'}, (servers index).fd = some fd →
    (servers other).fd = some fd' →
      (servers other).pathIdentity = (servers index).pathIdentity → other = index
  named : ∀ {index fd binder}, (servers index).fd = some fd →
    kernel.entries (cString (servers index).path) =
      some (.socket (servers index).pathIdentity binder) → binder = fd

theorem initial_socketInvariant :
    SocketInvariant emptySocketKernel fun _ => .closed := by
  constructor
  · exact ⟨nofun, rfl⟩
  · nofun
  · nofun
  · intro index _
    rfl
  · nofun
  · nofun

section Invariant

variable {kernel next : SocketKernel} {servers servers' : ℕ → UnixSocketServer} {index : ℕ}

theorem SocketInvariant.pathIdentity_eq (hinvariant : SocketInvariant kernel servers)
    {fd : SocketId} {path : Bytes} {identity : FileIdentity} {listening : Bool}
    (hfd : (servers index).fd = some fd)
    (hsocket : kernel.sockets fd = some ⟨some (path, identity), listening⟩) :
    (servers index).pathIdentity = identity := by
  have hsame := Option.some.inj ((hinvariant.serving hfd).2.symm.trans hsocket)
  injection hsame with hbound
  exact congrArg Prod.snd (Option.some.inj hbound)

/-- Two servers do not share a socket. -/
theorem SocketInvariant.separate (hinvariant : SocketInvariant kernel servers) {other : ℕ}
    {fd : SocketId} (hfd : (servers index).fd = some fd)
    (hother : (servers other).fd = some fd) : other = index :=
  hinvariant.distinct hfd hother
    (hinvariant.pathIdentity_eq hother (hinvariant.serving hfd).2)

/-- A new file does not get the inode of a server that listens. -/
theorem SocketInvariant.fresh_ne (hinvariant : SocketInvariant kernel servers)
    {identity : FileIdentity} (hfresh : kernel.Fresh identity) {fd : SocketId}
    (hfd : (servers index).fd = some fd) : (servers index).pathIdentity ≠ identity := by
  rintro rfl
  exact hfresh fd _ _ (hinvariant.serving hfd).2 rfl rfl

/-- Socket files and sockets may go, and servers may close. -/
theorem SocketInvariant.restrict (hinvariant : SocketInvariant kernel servers)
    (hentries : ∀ {path identity fd}, next.entries path = some (.socket identity fd) →
      kernel.entries path = some (.socket identity fd))
    (hnumbered : next.Numbered) (hopened : kernel.opened ≤ next.opened)
    (hservers : ∀ index, servers' index = .closed ∨ servers' index = servers index ∧
      ∀ fd, (servers index).fd = some fd → next.sockets fd = kernel.sockets fd) :
    SocketInvariant next servers' := by
  have hheld : ∀ {index fd}, (servers' index).fd = some fd →
      servers' index = servers index ∧ next.sockets fd = kernel.sockets fd := by
    intro index fd hfd
    rcases hservers index with hclosed | ⟨hsame, hkept⟩
    · rw [hclosed] at hfd
      cases hfd
    · rw [hsame] at hfd
      exact ⟨hsame, hkept fd hfd⟩
  constructor
  · exact hnumbered
  · intro path identity fd hentry
    exact Nat.lt_of_lt_of_le (hinvariant.made (hentries hentry)) hopened
  · intro index fd hfd
    obtain ⟨hsame, hkept⟩ := hheld hfd
    rw [hsame] at hfd ⊢
    rw [hkept]
    exact hinvariant.serving hfd
  · intro index hfd
    rcases hservers index with hclosed | ⟨hsame, _⟩
    · rw [hclosed]
      rfl
    · rw [hsame] at hfd ⊢
      exact hinvariant.idle hfd
  · intro index other fd fd' hfd hother hidentity
    have hsame := (hheld hfd).1
    have hsame' := (hheld hother).1
    rw [hsame] at hfd hidentity
    rw [hsame'] at hother hidentity
    exact hinvariant.distinct hfd hother hidentity
  · intro index fd binder hfd hentry
    have hsame := (hheld hfd).1
    rw [hsame] at hfd hentry
    exact hinvariant.named hfd (hentries hentry)

/-- A socket that no server holds is bound to a new file. -/
theorem SocketInvariant.bind (hinvariant : SocketInvariant kernel servers) {path : Bytes}
    {identity : FileIdentity} {fd : SocketId} {listening : Bool} (hnamed : path ≠ [])
    (hfresh : kernel.Fresh identity) (hunused : kernel.sockets fd = none)
    (hnumber : fd < next.opened) (hopened : kernel.opened ≤ next.opened)
    (hentries : next.entries =
      Function.update kernel.entries path (some (.socket identity fd)))
    (hsockets : next.sockets =
      Function.update kernel.sockets fd (some ⟨some (path, identity), listening⟩)) :
    SocketInvariant next servers := by
  have hentryCases : ∀ {path' identity' binder},
      next.entries path' = some (.socket identity' binder) →
        identity' = identity ∧ binder = fd ∨
          kernel.entries path' = some (.socket identity' binder) := by
    intro path' identity' binder hentry
    rw [hentries] at hentry
    rcases PartialMap.insert_eq_some_iff.mp hentry with ⟨_, hsame⟩ | ⟨_, hold⟩
    · cases hsame
      exact .inl ⟨rfl, rfl⟩
    · exact .inr hold
  constructor
  · constructor
    · intro other socket hsocket
      rw [hsockets] at hsocket
      rcases PartialMap.insert_eq_some_iff.mp hsocket with ⟨rfl, _⟩ | ⟨_, hold⟩
      · exact hnumber
      · exact Nat.lt_of_lt_of_le (hinvariant.numbered.opened hold) hopened
    · rw [hentries, Function.update_of_ne hnamed.symm]
      exact hinvariant.numbered.named
  · intro path' identity' binder hentry
    rcases hentryCases hentry with ⟨_, rfl⟩ | hold
    · exact hnumber
    · exact Nat.lt_of_lt_of_le (hinvariant.made hold) hopened
  · intro index held hheld
    obtain ⟨howns, hsocket⟩ := hinvariant.serving hheld
    have hne : held ≠ fd := by
      rintro rfl
      rw [hunused] at hsocket
      cases hsocket
    rw [hsockets, Function.update_of_ne hne]
    exact ⟨howns, hsocket⟩
  · exact hinvariant.idle
  · exact hinvariant.distinct
  · intro index held binder hheld hentry
    rcases hentryCases hentry with ⟨hreused, _⟩ | hold
    · exact absurd hreused (hinvariant.fresh_ne hfresh hheld)
    · exact hinvariant.named hheld hold

/-- A server takes over a listening socket whose inode no other server has. -/
theorem SocketInvariant.serve (hinvariant : SocketInvariant kernel servers) {fd : SocketId}
    {path : Bytes} {identity : FileIdentity}
    (hsocket : kernel.sockets fd = some ⟨some (cString path, identity), true⟩)
    (hentry : kernel.entries (cString path) = some (.socket identity fd))
    (hother : ∀ {other held}, (servers other).fd = some held →
      (servers other).pathIdentity ≠ identity) :
    SocketInvariant kernel
      (Function.update servers index ⟨some fd, path, identity, true⟩) := by
  have hcases := PartialMap.update_cases servers index ⟨some fd, path, identity, true⟩
  constructor
  · exact hinvariant.numbered
  · exact hinvariant.made
  · intro other held hheld
    rcases hcases other with ⟨_, hnew⟩ | ⟨_, hold⟩
    · rw [hnew] at hheld ⊢
      cases hheld
      exact ⟨rfl, hsocket⟩
    · rw [hold] at hheld ⊢
      exact hinvariant.serving hheld
  · intro other hidle
    rcases hcases other with ⟨_, hnew⟩ | ⟨_, hold⟩
    · rw [hnew] at hidle
      cases hidle
    · rw [hold] at hidle ⊢
      exact hinvariant.idle hidle
  · intro first second held held' hfirst hsecond hidentity
    rcases hcases first with ⟨rfl, hnew⟩ | ⟨_, hold⟩
    · rcases hcases second with ⟨hsame, _⟩ | ⟨_, hold'⟩
      · exact hsame
      · rw [hnew, hold'] at hidentity
        rw [hold'] at hsecond
        exact absurd hidentity (hother hsecond)
    · rw [hold] at hfirst hidentity
      rcases hcases second with ⟨rfl, hnew⟩ | ⟨_, hold'⟩
      · rw [hnew] at hidentity
        exact absurd hidentity.symm (hother hfirst)
      · rw [hold'] at hsecond hidentity
        exact hinvariant.distinct hfirst hsecond hidentity
  · intro other held binder hheld hfound
    rcases hcases other with ⟨_, hnew⟩ | ⟨_, hold⟩
    · rw [hnew] at hheld hfound
      cases hheld
      cases hentry.symm.trans hfound
      rfl
    · rw [hold] at hheld hfound
      exact hinvariant.named hheld hfound

theorem PathReleased.invariant (hinvariant : SocketInvariant kernel servers)
    (hreleased : PathReleased kernel (servers index) next) :
    SocketInvariant next (Function.update servers index .closed) := by
  apply hinvariant.restrict hreleased.entries_sub
    (hreleased.numbered hinvariant.numbered) hreleased.opened.ge
  intro other
  rcases PartialMap.update_cases servers index .closed other with ⟨_, hnew⟩ | ⟨hne, hold⟩
  · exact .inl hnew
  · refine .inr ⟨hold, fun fd hfd => ?_⟩
    exact hreleased.sockets_other fun hown => hne (hinvariant.separate hown hfd)

theorem OnlyCleared.entries_sub {path path' : Bytes} (hcleared : OnlyCleared kernel path next)
    {entry : DirectoryEntry} (hentry : next.entries path' = some entry) :
    kernel.entries path' = some entry := by
  rcases hcleared.entries with hsame | ⟨identity, fd, _, _, hgone⟩
  · rwa [hsame] at hentry
  · rw [hgone] at hentry
    exact (PartialMap.erase_eq_some_iff.mp hentry).2

theorem OnlyCleared.invariant {path : Bytes} (hinvariant : SocketInvariant kernel servers)
    (hcleared : OnlyCleared kernel path next) : SocketInvariant next servers := by
  apply hinvariant.restrict hcleared.entries_sub
    (hcleared.numbered hinvariant.numbered) hcleared.opened
  intro other
  exact .inr ⟨rfl, fun fd _ => by rw [hcleared.sockets]⟩

theorem Listened.invariant {path : Bytes} {answer : ObjectAnswer UnixSocketServer}
    (hinvariant : SocketInvariant kernel servers) (hclosed : servers index = .closed)
    (hlistened : Listened kernel path answer next) :
    SocketInvariant next (Function.update servers index answer.object) := by
  cases hlistened with
  | failed hcleared =>
      rw [← hclosed, Function.update_eq_self]
      exact hcleared.invariant hinvariant
  | @listening fd identity cleared _ hcleared hfree hfresh hnamed hnew hnumber hopened
      hentries hsockets =>
      have hunused : kernel.sockets fd = none := by
        by_contra hused
        obtain ⟨socket, hsocket⟩ := Option.ne_none_iff_exists'.mp hused
        exact absurd (hinvariant.numbered.opened hsocket) (Nat.not_lt_of_le hnew)
      have hbound : SocketInvariant next servers := by
        apply (hcleared.invariant hinvariant).bind hnamed ?_ ?_ (hopened ▸ hnumber)
          hopened.ge hentries
        · rw [hcleared.sockets]
          exact hsockets
        · intro other socket file hsocket
          rw [hcleared.sockets] at hsocket
          exact hfresh other socket file hsocket
        · rw [hcleared.sockets]
          exact hunused
      apply hbound.serve
      · rw [hsockets]
        exact Function.update_self ..
      · rw [hentries]
        exact Function.update_self ..
      · exact fun hheld => hinvariant.fresh_ne hfresh hheld

theorem OthersStep.invariant (hinvariant : SocketInvariant kernel servers)
    (hothers : OthersStep servers kernel next) : SocketInvariant next servers := by
  have hnumbered := hinvariant.numbered
  cases hothers with
  | @createsFile path identity hnamed hfree hfresh =>
      refine hinvariant.restrict ?_ ⟨hnumbered.opened, ?_⟩ (Nat.le_refl _)
        fun other => .inr ⟨rfl, fun _ _ => rfl⟩
      · intro path' identity' fd hentry
        rcases PartialMap.insert_eq_some_iff.mp hentry with ⟨_, hother⟩ | ⟨_, hold⟩
        · cases hother
        · exact hold
      · exact (Function.update_of_ne hnamed.symm ..).trans hnumbered.named
  | @bindsSocket path identity hnamed hfree hfresh =>
      exact hinvariant.bind hnamed hfresh hnumbered.unused (Nat.lt_succ_self _)
        (Nat.le_succ _) rfl (Function.update_idem ..)
  | @listens fd socket hforeign hsocket =>
      refine hinvariant.restrict id ⟨?_, hnumbered.named⟩ (Nat.le_refl _) ?_
      · intro other socket' hsocket'
        rcases PartialMap.insert_eq_some_iff.mp hsocket' with ⟨rfl, _⟩ | ⟨_, hold⟩
        · exact hnumbered.opened hsocket
        · exact hnumbered.opened hold
      · intro other
        refine .inr ⟨rfl, fun held hheld => Function.update_of_ne ?_ ..⟩
        rintro rfl
        exact hforeign other hheld
  | @closes fd hforeign =>
      refine hinvariant.restrict id (closeSocket_numbered hnumbered) (Nat.le_refl _) ?_
      intro other
      refine .inr ⟨rfl, fun held hheld => Function.update_of_ne ?_ ..⟩
      rintro rfl
      exact hforeign other hheld
  | @removes path =>
      refine hinvariant.restrict ?_ ⟨hnumbered.opened, ?_⟩ (Nat.le_refl _)
        fun other => .inr ⟨rfl, fun _ _ => rfl⟩
      · intro path' identity fd hentry
        exact (PartialMap.erase_eq_some_iff.mp hentry).2
      · exact PartialMap.erase_eq_none hnumbered.named
  | permits =>
      exact hinvariant.restrict id ⟨hnumbered.opened, hnumbered.named⟩ (Nat.le_refl _)
        fun other => .inr ⟨rfl, fun _ _ => rfl⟩

theorem crash_invariant (hinvariant : SocketInvariant kernel servers) {fd : SocketId}
    (hfd : (servers index).fd = some fd) :
    SocketInvariant (kernel.closeSocket fd) (Function.update servers index .closed) := by
  refine hinvariant.restrict id (closeSocket_numbered hinvariant.numbered) (Nat.le_refl _) ?_
  intro other
  rcases PartialMap.update_cases servers index .closed other with ⟨_, hnew⟩ | ⟨hne, hold⟩
  · exact .inl hnew
  · refine .inr ⟨hold, fun held hheld => ?_⟩
    apply Function.update_of_ne
    rintro rfl
    exact hne (hinvariant.separate hfd hheld)

end Invariant

def SocketSystem.Invariant (system : SocketSystem) : Prop :=
  SocketInvariant system.kernel system.servers

theorem SocketStep.invariant {system next : SocketSystem} {label : SocketLabel}
    (hstep : SocketStep system label next) (hinvariant : system.Invariant) :
    next.Invariant := by
  cases hstep with
  | listens hrun =>
      obtain ⟨middle, hreleased, hlistened⟩ :=
        UnixSocketServer.listen_runs hinvariant.numbered hrun
      have hlast := hlistened.invariant (hreleased.invariant hinvariant)
        (Function.update_self ..)
      rwa [Function.update_idem] at hlast
  | closes hrun =>
      obtain ⟨rfl, hreleased⟩ := UnixSocketServer.close_runs hrun
      exact hreleased.invariant hinvariant
  | crashes hfd => exact crash_invariant hinvariant hfd
  | others hothers => exact hothers.invariant hinvariant

theorem run_socketInvariant {history : History SocketSystem SocketLabel}
    {system : SocketSystem} (hrun : Run SocketStep initialSocketSystem history system) :
    system.Invariant :=
  hrun.invariant (fun _ system => system.Invariant) initial_socketInvariant
    fun _ hinvariant hstep => hstep.invariant hinvariant

end ElapPlatform.Ipc
