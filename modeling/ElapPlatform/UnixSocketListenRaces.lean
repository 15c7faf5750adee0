import ElapPlatform.UnixSocketPathOwnership
import ElapPlatform.UnixSocketSafeCalls

/-!
# Concurrent listens on one path

Calls that do not disturb each other leave every listening server its path.  A
socket that is bound and does not listen yet is refused by the probe, and the call
that was refused then removes the file of a server that has started to listen.
-/

namespace ElapPlatform.Ipc

open Transition RelyGuarantee

/-! ## Runs of undisturbed calls -/

/-- A turn that takes away nothing another call relies on. -/
def ServerLabel.Undisturbed (system next : ServerSystem) : ServerLabel → Prop
  | .asks index question reply =>
      Ipc.Undisturbed index system.shared next.shared.kernel question reply
  | _ => True

def ServerSystem.server (system : ServerSystem) (index : ℕ) : UnixSocketServer :=
  system.objects index

abbrev ServerStep : ServerSystem → ServerLabel → ServerSystem → Prop :=
  CallStep SharedSockets.Answers socketServers

def UndisturbedStep (system : ServerSystem) (label : ServerLabel) (next : ServerSystem) : Prop :=
  ServerStep system label next ∧ ServerLabel.Undisturbed system next label

/-- The last call of the server was a `listen` at the path, and it returned true. -/
def Serves (history : History ServerSystem ServerLabel) (index : ℕ) (path : Bytes) : Prop :=
  ∃ before after state backlog,
    history = before ++ (state, .returns index (ServerCall.listen path backlog) none) :: after ∧
      ∀ entry ∈ after, entry.2.caller ≠ index

section Runs

variable {history : History ServerSystem ServerLabel} {system next : ServerSystem}
  {label : ServerLabel} {index other : ℕ} {path path' : Bytes}

theorem Serves.last (hserves : Serves (history ++ [(system, label)]) index path) :
    (∃ backlog, label = .returns index (ServerCall.listen path backlog) none) ∨
      Serves history index path ∧ label.caller ≠ index := by
  obtain ⟨before, after, state, backlog, hsplit, hafter⟩ := hserves
  induction after using List.reverseRecOn with
  | nil =>
      have hlast := (List.append_inj' hsplit rfl).2
      cases hlast
      exact .inl ⟨backlog, rfl⟩
  | append_singleton after entry _ =>
      rw [← List.cons_append, ← List.append_assoc] at hsplit
      obtain ⟨hbefore, hlast⟩ := List.append_inj' hsplit rfl
      cases hlast
      refine .inr ⟨⟨before, after, state, backlog, hbefore, fun entry hmem => ?_⟩, ?_⟩
      · exact hafter entry (List.mem_append_left _ hmem)
      · exact hafter _ (List.mem_append_right _ (List.mem_singleton_self _))

theorem Serves.returned {backlog : ℤ} :
    Serves (history ++ [(system, .returns index (ServerCall.listen path backlog) none)])
      index path :=
  ⟨history, [], system, backlog, rfl, nofun⟩

theorem Serves.snoc (hserves : Serves history index path) (hother : label.caller ≠ index) :
    Serves (history ++ [(system, label)]) index path := by
  obtain ⟨before, after, state, backlog, rfl, hafter⟩ := hserves
  refine ⟨before, after ++ [(system, label)], state, backlog, by simp, fun entry hmem => ?_⟩
  rcases List.mem_append.mp hmem with hmem | hmem
  · exact hafter entry hmem
  · rw [List.mem_singleton.mp hmem]
    exact hother

theorem caller_ne_of_idle {question : SocketCall} {reply : question.Reply}
    (hstep : ServerStep system (.asks other question reply) next)
    (hidle : system.active index = none) : other ≠ index := by
  rintro rfl
  cases hstep with
  | asks hactive _ => cases hidle.symm.trans hactive

/-- The promise of `listenProtocol` is what makes a turn undisturbed. -/
theorem UndisturbedStep.contract (hstep : UndisturbedStep system label next) :
    CallStep listenContract.answers socketServers system label next := by
  obtain ⟨hstep, hundisturbed⟩ := hstep
  cases hstep with
  | begins hidle => exact .begins hidle
  | asks hactive hanswer => exact .asks hactive ⟨hanswer, hundisturbed⟩
  | returns hactive => exact .returns hactive

/-- What the calls so far have made of the servers. -/
structure ServersKept (history : History ServerSystem ServerLabel) (system : ServerSystem) :
    Prop where
  kept : listenContract.Kept system
  serves : ∀ {index path}, Serves history index path → system.active index = none ∧
    (ServerSystem.server system index).isListening = true ∧
      (ServerSystem.server system index).path = path

theorem ServersKept.step (hservers : ServersKept history system)
    (hstep : UndisturbedStep system label next) :
    ServersKept (history ++ [(system, label)]) next := by
  refine ⟨hservers.kept.step hstep.contract, fun {index path} hserves => ?_⟩
  cases hstep.1 with
  | begins hidle =>
      rcases hserves.last with ⟨_, hlabel⟩ | ⟨hbefore, hother⟩
      · cases hlabel
      obtain ⟨hnone, hobject⟩ := hservers.serves hbefore
      exact ⟨(Function.update_of_ne hother.symm ..).trans hnone, hobject⟩
  | asks hactive hanswer =>
      rcases hserves.last with ⟨_, hlabel⟩ | ⟨hbefore, hother⟩
      · cases hlabel
      obtain ⟨hnone, hobject⟩ := hservers.serves hbefore
      exact ⟨(Function.update_of_ne hother.symm ..).trans hnone, hobject⟩
  | @returns turn call _ value object hactive =>
      rcases hserves.last with ⟨_, hlabel⟩ | ⟨hbefore, hother⟩
      · cases hlabel
        obtain ⟨_, hopens⟩ := hservers.kept.ensured hactive
        have hobject : ServerSystem.server ⟨system.shared,
            Function.update system.objects index object,
            Function.update system.active index none⟩ index = object :=
          Function.update_self ..
        rw [hobject]
        exact ⟨Function.update_self .., hopens rfl⟩
      · have hobject : ServerSystem.server ⟨system.shared,
            Function.update system.objects turn object,
            Function.update system.active turn none⟩ index = ServerSystem.server system index :=
          Function.update_of_ne hother.symm ..
        obtain ⟨hnone, hbefore⟩ := hservers.serves hbefore
        rw [hobject]
        exact ⟨(Function.update_of_ne hother.symm ..).trans hnone, hbefore⟩

theorem idleServers_kept {kernel : SocketKernel}
    (hsound : (idleServers kernel).shared.Sound) : ServersKept [] (idleServers kernel) := by
  refine ⟨⟨hsound, fun _ => rfl, nofun⟩, ?_⟩
  rintro index path ⟨before, after, state, backlog, hnil, _⟩
  exact absurd hnil.symm (List.append_ne_nil_of_right_ne_nil _ (List.cons_ne_nil _ _))

theorem run_serversKept {kernel : SocketKernel} (hsound : (idleServers kernel).shared.Sound)
    (hrun : Run UndisturbedStep (idleServers kernel) history system) :
    ServersKept history system :=
  hrun.invariant ServersKept (idleServers_kept hsound) fun _ hservers hstep => hservers.step hstep

/-- A server that serves a path has its own socket file there. -/
theorem ServersKept.bound (hservers : ServersKept history system)
    (hserves : Serves history index path) :
    ∃ fd identity, Bound index fd (cString path) identity true system.shared := by
  obtain ⟨hidle, hlistening, rfl⟩ := hservers.serves hserves
  have hserving : Serving index (ServerSystem.server system index) system.shared :=
    hservers.kept.idle hidle
  obtain ⟨fd, hfd⟩ := Option.isSome_iff_exists.mp hlistening
  unfold Serving at hserving
  rw [hfd] at hserving
  exact ⟨fd, _, hserving.2⟩

end Runs

/-! ## The paths of the servers -/

structure PathsExclusive (history : History ServerSystem ServerLabel) (system : ServerSystem) :
    Prop where
  named : ∀ {index path}, Serves history index path → ∃ fd identity,
    system.shared.owners fd = some index ∧
      system.shared.kernel.entries (cString path) = some (.socket identity fd)
  kept : ∀ {index path other file reply next}, Serves history index path →
    ServerStep system (.asks other (SocketCall.unlink file) reply) next →
      next.shared.kernel.entries (cString path) = system.shared.kernel.entries (cString path)
  alone : ∀ {index path other path'}, Serves history index path → Serves history other path' →
    cString path' = cString path → other = index

/-- However the system calls of the servers interleave, undisturbed calls leave
every server that listens its path. -/
theorem undisturbed_listens_exclusive {kernel : SocketKernel}
    (hsound : (idleServers kernel).shared.Sound) {history : History ServerSystem ServerLabel}
    {system : ServerSystem} (hrun : Run UndisturbedStep (idleServers kernel) history system) :
    PathsExclusive history system := by
  have hservers := run_serversKept hsound hrun
  constructor
  · intro index path hserves
    obtain ⟨fd, identity, hbound⟩ := hservers.bound hserves
    exact ⟨fd, identity, hbound.owner, hbound.file⟩
  · intro index path other file reply next hserves hstep
    have hnext : ServersKept (history ++ [(system, .asks other (SocketCall.unlink file) reply)])
        next := hservers.step ⟨hstep, trivial⟩
    have hother : other ≠ index := caller_ne_of_idle hstep (hservers.serves hserves).1
    have hstill : Serves (history ++ [(system, .asks other (SocketCall.unlink file) reply)])
        index path := hserves.snoc hother
    obtain ⟨fd, identity, hbound⟩ := hnext.bound hstill
    have hfile := hbound.file
    cases hstep with
    | asks hactive hanswer =>
        obtain ⟨_, hsame | hremoved⟩ := hanswer.unlink
        · exact congrArg (·.entries (cString path)) hsame
        · dsimp only at hfile ⊢
          rw [hremoved] at hfile ⊢
          exact (PartialMap.erase_eq_some_iff.mp hfile).2 ▸ hfile
  · intro index path other path' hserves hserves' hsame
    obtain ⟨fd, identity, hbound⟩ := hservers.bound hserves
    obtain ⟨fd', identity', hbound'⟩ := hservers.bound hserves'
    have hentry := hbound'.file
    rw [hsame, hbound.file] at hentry
    cases hentry
    exact Option.some.inj (hbound'.owner.symm.trans hbound.owner)

theorem ServerStep.asked {system : ServerSystem} {index : ℕ} {call : ServerCall}
    {begun : SharedSockets} {question : SocketCall}
    {rest : question.Reply → SocketProgram (Option ErrorText × UnixSocketServer)}
    {reply : question.Reply} (kernel : SocketKernel)
    (hactive : system.active index = some ⟨call, begun, .ask question rest⟩)
    (hanswer : SocketCall.MayAnswer system.shared.kernel question reply kernel) :
    ServerStep system (.asks index question reply)
      ⟨⟨kernel, ownersAfter system.shared.owners index question reply,
          Function.update system.shared.watches index
            (watchAfter system.shared.kernel (system.shared.watches index) question reply)⟩,
        system.objects, Function.update system.active index (some ⟨call, begun, rest reply⟩)⟩ :=
  .asks hactive ⟨hanswer, rfl, rfl⟩

/-- Two servers meet: one of them has bound its socket when the other tries to. -/
theorem undisturbed_listens_meet : ∃ history system,
    Run UndisturbedStep (idleServers emptySocketKernel) history system ∧
      Serves history 0 sharedPath ∧ PathsExclusive history system := by
  have hempty : ∀ identity, emptySocketKernel.Fresh identity := fun _ _ _ _ => nofun
  have hrun : Run UndisturbedStep (idleServers emptySocketKernel) [] _ := .start
  have hrun := hrun.andThen (.begins 0 (ServerCall.listen sharedPath 8)) ⟨.begins rfl, trivial⟩
  have hrun := hrun.andThen (.asks 0 SocketCall.socket (.ok 0)) ⟨.asked _ rfl ⟨rfl, rfl⟩, trivial⟩
  have hrun := hrun.andThen (.begins 1 (ServerCall.listen sharedPath 8)) ⟨.begins rfl, trivial⟩
  have hrun := hrun.andThen (.asks 1 SocketCall.socket (.ok 1)) ⟨.asked _ rfl ⟨rfl, rfl⟩, trivial⟩
  have hrun := hrun.andThen (.asks 0 (SocketCall.lstat sharedPath) (.error ENOENT))
    ⟨.asked _ rfl ⟨rfl, .inl rfl⟩, trivial⟩
  have hrun := hrun.andThen (.asks 1 (SocketCall.lstat sharedPath) (.error ENOENT))
    ⟨.asked _ rfl ⟨rfl, .inl rfl⟩, trivial⟩
  have hrun := hrun.andThen (.asks 0 (SocketCall.bind 0 sharedPath) (.ok ()))
    ⟨.asked _ rfl (.inr ⟨nofun, rfl, firstInode, (hempty _).openSocket.openSocket, rfl⟩),
      fun _ other hother watch hwatch => by
        by_cases hone : other = 1
        · subst hone
          cases hwatch
        · simp [Function.update, hother, hone, idleServers] at hwatch⟩
  have hrun := hrun.andThen (.asks 1 (SocketCall.bind 1 sharedPath) (.error 98))
    ⟨.asked _ rfl rfl, nofun⟩
  have hrun := hrun.andThen (.asks 1 (SocketCall.close 1) (.ok ())) ⟨.asked _ rfl rfl, trivial⟩
  have hrun := hrun.andThen (.asks 0 (SocketCall.lstat sharedPath) (.ok ⟨true, firstInode⟩))
    ⟨.asked _ rfl ⟨rfl, _, rfl, rfl⟩, trivial⟩
  have hrun := hrun.andThen (.asks 0 (SocketCall.listen 0 8) (.ok ()))
    ⟨.asked _ rfl ⟨_, rfl, rfl⟩, trivial⟩
  have hrun := hrun.andThen (.returns 0 (ServerCall.listen sharedPath 8) none)
    ⟨.returns rfl, trivial⟩
  have hsound : (idleServers emptySocketKernel).shared.Sound :=
    ⟨initial_socketInvariant.numbered, initial_socketInvariant.made, nofun⟩
  exact ⟨_, _, hrun, .returned, undisturbed_listens_exclusive hsound hrun⟩

/-! ## A refused probe of a server about to listen -/

/-- Server 1 probes between the `bind` and the `listen` of server 0, and removes the
file after server 0 has returned. -/
theorem both_servers_listen : ∃ history system,
    Run ServerStep (idleServers emptySocketKernel) history system ∧
      Serves history 0 sharedPath ∧ Serves history 1 sharedPath := by
  have hempty : ∀ identity, emptySocketKernel.Fresh identity := fun _ _ _ _ => nofun
  have hrun : Run ServerStep (idleServers emptySocketKernel) [] _ := .start
  -- server 0 binds its socket
  have hrun := hrun.andThen (.begins 0 (ServerCall.listen sharedPath 8)) (.begins rfl)
  have hrun := hrun.andThen (.asks 0 SocketCall.socket (.ok 0)) (.asked _ rfl ⟨rfl, rfl⟩)
  have hrun := hrun.andThen (.asks 0 (SocketCall.lstat sharedPath) (.error ENOENT))
    (.asked _ rfl ⟨rfl, .inl rfl⟩)
  have hrun := hrun.andThen (.asks 0 (SocketCall.bind 0 sharedPath) (.ok ()))
    (.asked _ rfl (.inr ⟨nofun, rfl, firstInode, (hempty _).openSocket, rfl⟩))
  -- server 1 finds the file, and its probe is refused
  have hrun := hrun.andThen (.begins 1 (ServerCall.listen sharedPath 8)) (.begins rfl)
  have hrun := hrun.andThen (.asks 1 SocketCall.socket (.ok 1)) (.asked _ rfl ⟨rfl, rfl⟩)
  have hrun := hrun.andThen (.asks 1 (SocketCall.lstat sharedPath) (.ok ⟨true, firstInode⟩))
    (.asked _ rfl ⟨rfl, _, rfl, rfl⟩)
  have hrun := hrun.andThen (.asks 1 SocketCall.socket (.ok 2)) (.asked _ rfl ⟨rfl, rfl⟩)
  have hrun := hrun.andThen (.asks 1 (SocketCall.connect 2 sharedPath) (.error ECONNREFUSED))
    (.asked _ rfl ⟨rfl, nofun⟩)
  have hrun := hrun.andThen (.asks 1 (SocketCall.close 2) (.ok ())) (.asked _ rfl rfl)
  -- server 0 listens and returns
  have hrun := hrun.andThen (.asks 0 (SocketCall.lstat sharedPath) (.ok ⟨true, firstInode⟩))
    (.asked _ rfl ⟨rfl, _, rfl, rfl⟩)
  have hrun := hrun.andThen (.asks 0 (SocketCall.listen 0 8) (.ok ()))
    (.asked _ rfl ⟨_, rfl, rfl⟩)
  have hrun := hrun.andThen (.returns 0 (ServerCall.listen sharedPath 8) none) (.returns rfl)
  -- server 1 removes the file of server 0 and takes the path
  have hrun := hrun.andThen (.asks 1 (SocketCall.unlink sharedPath) (.ok ())) (.asked _ rfl rfl)
  have hprobed := ((((hempty secondInode).openSocket.bindSocket 0 sharedPath
    firstInode).openSocket.openSocket).closeSocket 2)
  have hfresh := hprobed.startListening 0 ⟨some (sharedPath, firstInode), false⟩
    (by rintro path ⟨⟩)
  have hrun := hrun.andThen (.asks 1 (SocketCall.bind 1 sharedPath) (.ok ()))
    (.asked _ rfl (.inr ⟨nofun, rfl, secondInode, hfresh, rfl⟩))
  have hrun := hrun.andThen (.asks 1 (SocketCall.lstat sharedPath) (.ok ⟨true, secondInode⟩))
    (.asked _ rfl ⟨rfl, _, rfl, rfl⟩)
  have hrun := hrun.andThen (.asks 1 (SocketCall.listen 1 8) (.ok ()))
    (.asked _ rfl ⟨_, rfl, rfl⟩)
  have hrun := hrun.andThen (.returns 1 (ServerCall.listen sharedPath 8) none) (.returns rfl)
  refine ⟨_, _, hrun, ?_, .returned⟩
  refine .snoc (.snoc (.snoc (.snoc (.snoc .returned ?_) ?_) ?_) ?_) ?_
  all_goals exact Nat.one_ne_zero

end ElapPlatform.Ipc
