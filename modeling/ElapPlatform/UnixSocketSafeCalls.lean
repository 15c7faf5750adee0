import ElapPlatform.UnixSocketListenContract

/-!
# Every call of a server keeps the protocol
-/

namespace ElapPlatform.Ipc

open Interaction Interaction.Program RelyGuarantee RelyGuarantee.Protocol SharedSockets

section Calls

variable {index : ℕ} {shared : SharedSockets}

theorem watching_guarantees (hsound : shared.Sound) (watch : Option Watch) :
    listenProtocol.Guarantees index shared (shared.watching index watch) :=
  ⟨hsound.watching watch, fun _ hother => Leaves.refl.watching hother watch⟩

/-! ## Single system calls -/

theorem socket_safe {fds : List SocketId} (hholds : Holds index fds shared) :
    listenProtocol.Safe index
      (fun reply later => Holds index fds later ∧
        ∀ fd ∈ (reply : SystemResult SocketId).toOption,
          fd ∉ fds ∧ Holds index (fd :: fds) later)
      socket shared := by
  refine safe_perform holds_stable hholds ?_ ?_
  · intro reply
    refine holds_stable.and ?_
    rintro state next hsound hall hleaves fd hmem
    exact ⟨(hall fd hmem).1, holds_stable hsound (hall fd hmem).2 hleaves⟩
  · rintro later hsound hheld reply after ⟨hanswer, _⟩
    rcases hanswer.socket with ⟨⟨errno, rfl⟩, rfl⟩ | ⟨rfl, rfl⟩
    · exact ⟨⟨hsound, fun _ _ => .refl⟩, hheld, nofun⟩
    · have hstill : Holds index fds (later.opens index) := by
        intro fd hmem
        obtain ⟨howner, hsocket⟩ := hheld fd hmem
        have hne := Nat.ne_of_lt (hsound.owned howner)
        exact ⟨(Function.update_of_ne hne ..).trans howner,
          (Function.update_of_ne hne ..).trans hsocket⟩
      refine ⟨⟨hsound.opens, fun _ _ => .opens hsound⟩, hstill, ?_⟩
      rintro fd ⟨⟩
      refine ⟨fun hmem => ?_, ?_⟩
      · exact absurd (hsound.owned (hheld _ hmem).1) (Nat.lt_irrefl _)
      · intro fd hmem
        rcases List.mem_cons.mp hmem with rfl | hold
        · exact ⟨Function.update_self .., Function.update_self ..⟩
        · exact hstill fd hold

/-- An unbound socket is closed; a frame that speaks of files is kept. -/
theorem closeUnbound_safe {fd : SocketId} {fds : List SocketId} {frame : SharedSockets → Prop}
    (hholds : Holds index (fd :: fds) shared) (hnew : fd ∉ fds)
    (hframe : frame shared) (hstable : listenProtocol.Stable index frame)
    (hkeep : ∀ {state : SharedSockets}, frame state →
      frame (state.atKernel (state.kernel.closeSocket fd))) :
    listenProtocol.Safe index (fun _ later => Holds index fds later ∧ frame later)
      (closeSocket fd) shared := by
  refine safe_perform (holds_stable.and hstable) ⟨hholds, hframe⟩
    (fun _ => holds_stable.and hstable) ?_
  rintro later hsound ⟨hheld, hlater⟩ reply after ⟨hanswer, _⟩
  obtain ⟨howner, hsocket⟩ := hheld fd (List.mem_cons_self ..)
  have hafter := hanswer.close
  rw [hsocket] at hafter
  have hsame : after = later.atKernel (later.kernel.closeSocket fd) := hafter.trans watching_self
  subst hsame
  refine ⟨⟨hsound.closes fd, fun _ hother => .closes howner hother⟩, ?_, hkeep hlater⟩
  intro fd' hmem
  obtain ⟨howner', hsocket'⟩ := hheld fd' (List.mem_cons_of_mem _ hmem)
  have hne : fd' ≠ fd := by
    rintro rfl
    exact hnew hmem
  exact ⟨howner', (Function.update_of_ne hne ..).trans hsocket'⟩

/-- From here on the server has no open socket at its file. -/
theorem closeBound_safe {fd : SocketId} {path : Bytes} {identity : FileIdentity}
    {listening : Bool} (hbound : Bound index fd path identity listening shared) :
    listenProtocol.Safe index (fun _ later => FileReleased index path identity later)
      (closeSocket fd) shared := by
  refine safe_perform bound_stable hbound (fun _ => released_stable) ?_
  rintro later hsound hlater reply after ⟨hanswer, _⟩
  have hafter := hanswer.close
  rw [hlater.socket] at hafter
  subst hafter
  refine ⟨⟨(hsound.closes fd).watching _,
    fun _ hother => (Leaves.closes hlater.owner hother).watching hother _⟩,
    Function.update_self .., ?_⟩
  intro fd' hentry
  cases hlater.file.symm.trans hentry
  exact Function.update_self ..

/-- A file without an open socket goes. -/
theorem unlinkDecided_safe {path : Bytes} {fds : List SocketId}
    (hdecided : RemovalDecided index (cString path) shared) (hholds : Holds index fds shared) :
    listenProtocol.Safe index (fun _ later => Holds index fds later) (unlink path) shared := by
  refine safe_perform (decided_stable.and holds_stable) ⟨hdecided, hholds⟩
    (fun _ => holds_stable) ?_
  rintro later hsound ⟨hlater, hheld⟩ reply after ⟨hanswer, _⟩
  obtain ⟨hafter, hkernel | hkernel⟩ := hanswer.unlink
  · rw [hkernel] at hafter
    subst hafter
    exact ⟨watching_guarantees hsound none, hheld⟩
  · rw [hkernel] at hafter
    subst hafter
    exact ⟨⟨(hsound.removes _).watching none,
      fun _ hother => (Leaves.removes hlater.dead).watching hother none⟩, hheld⟩

/-- Nothing has the empty name. -/
theorem unlinkUnnamed_safe {path : Bytes} (hunnamed : cString path = []) :
    listenProtocol.Safe index (fun _ _ => True) (unlink path) shared := by
  refine safe_perform (.const True) trivial (fun _ => .const True) ?_
  rintro later hsound _ reply after ⟨hanswer, _⟩
  refine ⟨?_, trivial⟩
  obtain ⟨hafter, hkernel | hkernel⟩ := hanswer.unlink
  · rw [hkernel] at hafter
    subst hafter
    exact watching_guarantees hsound none
  · rw [hkernel] at hafter
    subst hafter
    refine ⟨(hsound.removes _).watching none,
      fun _ hother => (Leaves.removes fun hentry => ?_).watching hother none⟩
    rw [hunnamed, hsound.numbered.named] at hentry
    cases hentry

/-- The file that `lstat` finds is the one that the call remembers, or the call
leaves it alone. -/
theorem lookReleased_safe {path : Bytes} {identity : FileIdentity}
    (hreleased : FileReleased index (cString path) identity shared) :
    listenProtocol.Safe index
      (fun reply later => (reply : SystemResult FileStatus) = .ok ⟨true, identity⟩ →
        RemovalDecided index (cString path) later)
      (lstat path) shared := by
  refine safe_perform released_stable hreleased ?_ ?_
  · intro reply state next hsound hdecided hleaves hmatches
    exact decided_stable hsound (hdecided hmatches) hleaves
  · rintro later hsound hlater reply after ⟨hanswer, _⟩
    obtain ⟨rfl, hlooks⟩ := hanswer.lstat
    refine ⟨watching_guarantees hsound _, ?_⟩
    rintro rfl
    have hwatch : watchAfterLook (cString path) (later.watches index)
        (.ok ⟨true, identity⟩) = some (.decided (cString path)) := by
      rw [hlater.watch]
      exact if_pos ⟨rfl, rfl⟩
    refine ⟨?_, ?_⟩
    · rw [hwatch]
      exact Function.update_self ..
    · intro identity' fd hentry
      obtain ⟨entry, hfound, hstatus⟩ := hlooks
      cases hentry.symm.trans hfound
      have hsame : identity = identity' := congrArg FileStatus.identity hstatus
      exact hlater.dead (hsame ▸ hentry)

theorem lookHolding_safe {path : Bytes} {fds : List SocketId} (hholds : Holds index fds shared) :
    listenProtocol.Safe index (fun _ later => Holds index fds later) (lstat path) shared := by
  refine safe_perform holds_stable hholds (fun _ => holds_stable) ?_
  rintro later hsound hheld reply after ⟨hanswer, _⟩
  obtain ⟨rfl, _⟩ := hanswer.lstat
  exact ⟨watching_guarantees hsound _, hheld⟩

/-- A server finds the file that it has bound. -/
theorem lookBound_safe {fd : SocketId} {path : Bytes} {identity : FileIdentity}
    {listening : Bool} (hbound : Bound index fd (cString path) identity listening shared) :
    listenProtocol.Safe index
      (fun reply later => (reply : SystemResult FileStatus) = .ok ⟨true, identity⟩ ∧
        Bound index fd (cString path) identity listening later)
      (lstat path) shared := by
  refine safe_perform bound_stable hbound (fun _ => (Stable.const _).and bound_stable) ?_
  rintro later hsound hlater reply after ⟨hanswer, _⟩
  obtain ⟨rfl, hlooks⟩ := hanswer.lstat
  refine ⟨watching_guarantees hsound _, ?_, hlater.owner, hlater.socket, hlater.file,
    hlater.searchable⟩
  cases reply with
  | error errno =>
      rcases hlooks with habsent | ⟨hdenied, _⟩
      · rw [hlater.file] at habsent
        cases habsent
      · rw [hlater.searchable] at hdenied
        cases hdenied
  | ok status =>
      obtain ⟨entry, hentry, rfl⟩ := hlooks
      cases hlater.file.symm.trans hentry
      rfl

theorem lookUnnamed_safe {fd : SocketId} {path : Bytes} (hunnamed : cString path = [])
    (hholds : Holds index [fd] shared) :
    listenProtocol.Safe index
      (fun reply later => (∃ errno, (reply : SystemResult FileStatus) = .error errno) ∧
        Holds index [fd] later)
      (lstat path) shared := by
  refine safe_perform holds_stable hholds (fun _ => (Stable.const _).and holds_stable) ?_
  rintro later hsound hlater reply after ⟨hanswer, _⟩
  obtain ⟨rfl, hlooks⟩ := hanswer.lstat
  refine ⟨watching_guarantees hsound _, ?_, hlater⟩
  cases reply with
  | error errno => exact ⟨errno, rfl⟩
  | ok status =>
      obtain ⟨entry, hentry, _⟩ := hlooks
      rw [hunnamed, hsound.numbered.named] at hentry
      cases hentry

theorem connect_safe {fd : SocketId} {address : Bytes} {fds : List SocketId}
    (hholds : Holds index fds shared) :
    listenProtocol.Safe index
      (fun reply later => Holds index fds later ∧
        ((reply : SystemResult Unit).isOk = false → RemovalDecided index address later))
      (connect fd address) shared := by
  refine safe_perform holds_stable hholds ?_ ?_
  · intro reply
    refine holds_stable.and ?_
    intro state next hsound hdecided hleaves hfailed
    exact decided_stable hsound (hdecided hfailed) hleaves
  · rintro later hsound hheld reply after ⟨hanswer, hundisturbed⟩
    have hafter := hanswer.connect
    subst hafter
    exact ⟨watching_guarantees hsound _, hheld,
      fun hfailed => decided_of_refused hfailed hundisturbed⟩

/-- An unbound socket, or one that has made the file at the path. -/
def BoundAt (index : ℕ) (fd : SocketId) (path : Bytes) (reply : SystemResult Unit)
    (shared : SharedSockets) : Prop :=
  match reply with
  | .error _ => Holds index [fd] shared
  | .ok () => path = [] ∧ Holds index [fd] shared ∨
      ∃ identity, Bound index fd path identity false shared

theorem boundAt_stable {fd : SocketId} {path : Bytes} {reply : SystemResult Unit} :
    listenProtocol.Stable index (BoundAt index fd path reply) := by
  intro state next hsound hstate hleaves
  cases reply with
  | error errno => exact holds_stable hsound hstate hleaves
  | ok =>
      rcases hstate with ⟨hunnamed, hheld⟩ | ⟨identity, hbound⟩
      · exact .inl ⟨hunnamed, holds_stable hsound hheld hleaves⟩
      · exact .inr ⟨identity, bound_stable hsound hbound hleaves⟩

theorem bind_safe {fd : SocketId} {address : Bytes} (hholds : Holds index [fd] shared) :
    listenProtocol.Safe index (BoundAt index fd address) (bind fd address) shared := by
  refine safe_perform holds_stable hholds (fun _ => boundAt_stable) ?_
  rintro later hsound hheld reply after ⟨hanswer, hundisturbed⟩
  obtain ⟨hafter, hbinds⟩ := hanswer.bind
  obtain ⟨howner, hsocket⟩ := hheld fd (List.mem_singleton_self fd)
  cases reply with
  | error errno =>
      have hsame : after.kernel = later.kernel := hbinds
      rw [hsame] at hafter
      subst hafter
      exact ⟨watching_guarantees hsound none, hheld⟩
  | ok =>
      rcases hbinds with ⟨hunnamed, hsame⟩ | ⟨hnamed, hfree, identity, _, hkernel⟩
      · rw [hsame] at hafter
        subst hafter
        exact ⟨watching_guarantees hsound none, .inl ⟨hunnamed, hheld⟩⟩
      · have hothers := hundisturbed rfl
        rw [hkernel] at hafter hothers
        subst hafter
        refine ⟨⟨(hsound.binds (hsound.owned howner) hnamed identity).watching none, ?_⟩,
          .inr ⟨identity, howner, Function.update_self .., Function.update_self ..,
            Function.update_self ..⟩⟩
        intro other hother
        exact (Leaves.binds howner hother hsocket hfree (hothers other hother)).watching
          hother none

theorem listen_safe {fd : SocketId} {path : Bytes} {identity : FileIdentity} {backlog : ℤ}
    (hbound : Bound index fd path identity false shared) :
    listenProtocol.Safe index
      (fun reply later => Bound index fd path identity (reply : SystemResult Unit).isOk later)
      (listen fd backlog) shared := by
  refine safe_perform bound_stable hbound (fun _ => bound_stable) ?_
  rintro later hsound hlater reply after ⟨hanswer, _⟩
  obtain ⟨hafter, hlistens⟩ := hanswer.listen
  cases reply with
  | error errno =>
      have hsame : after.kernel = later.kernel := hlistens
      rw [hsame] at hafter
      subst hafter
      exact ⟨⟨hsound, fun _ _ => .refl⟩, hlater⟩
  | ok =>
      obtain ⟨socket, hsocket, hkernel⟩ := hlistens
      rw [hkernel] at hafter
      subst hafter
      cases hlater.socket.symm.trans hsocket
      exact ⟨⟨hsound.listens hsocket, fun _ hother => .listens hlater.owner hother hsocket⟩,
        hlater.owner, Function.update_self .., hlater.file, hlater.searchable⟩

/-! ## The helpers and members of the server -/

theorem safe_nothing {value : Unit} :
    listenProtocol.Safe index (fun _ _ => True) (.done value) shared :=
  safe_done (.const True) trivial fun _ => id

theorem unlinkOwnedSocketPath_safe {path : Bytes} {identity : FileIdentity}
    (hreleased : FileReleased index (cString path) identity shared) :
    listenProtocol.Safe index (fun _ _ => True) (unlinkOwnedSocketPath path identity) shared := by
  unfold unlinkOwnedSocketPath
  by_cases hempty : path.isEmpty = true
  · rw [if_pos hempty]
    exact safe_nothing
  · rw [if_neg hempty]
    refine (lookReleased_safe hreleased).bind fun reply later hlooked => ?_
    cases reply with
    | error errno => exact safe_nothing
    | ok status =>
        dsimp only
        by_cases hown : (status.isSocket && status.identity = identity) = true
        · rw [if_pos hown]
          have hmatches : status = ⟨true, identity⟩ := by
            obtain ⟨isSocket, found⟩ := status
            simpa using hown
          have hdecided := hlooked (congrArg Except.ok hmatches)
          refine (@unlinkDecided_safe index later path [] hdecided nofun).bind fun _ _ _ => ?_
          exact safe_nothing
        · rw [if_neg hown]
          exact safe_nothing

theorem socketHasActiveListener_safe {address : Bytes} {fds : List SocketId}
    (hholds : Holds index fds shared) :
    listenProtocol.Safe index
      (fun active later =>
        Holds index fds later ∧ (active = false → RemovalDecided index address later))
      (socketHasActiveListener address) shared := by
  unfold socketHasActiveListener
  refine (socket_safe hholds).bind fun reply later hopened => ?_
  cases reply with
  | error errno =>
      exact safe_done holds_stable hopened.1 fun _ hheld => ⟨hheld, nofun⟩
  | ok probeFd =>
      obtain ⟨hnew, hheld⟩ := hopened.2 probeFd rfl
      refine (connect_safe hheld).bind fun connected probed hprobed => ?_
      have hstable : listenProtocol.Stable index fun state =>
          connected.isOk = false → RemovalDecided index address state := by
        intro state next hsound hdecided hleaves hfailed
        exact decided_stable hsound (hdecided hfailed) hleaves
      refine (closeUnbound_safe hprobed.1 hnew hprobed.2 hstable ?_).bind
        fun _ closed hclosed => ?_
      · intro state hdecided hfailed
        refine ⟨(hdecided hfailed).watch, fun {identity fd} hentry => ?_⟩
        by_cases hsame : fd = probeFd
        · subst hsame
          exact Function.update_self ..
        · exact (Function.update_of_ne hsame ..).trans ((hdecided hfailed).dead hentry)
      · exact safe_done (holds_stable.and hstable) hclosed fun _ => id

theorem removeStaleSocketPath_safe {path : Bytes} {fds : List SocketId}
    (hholds : Holds index fds shared) :
    listenProtocol.Safe index (fun _ later => Holds index fds later)
      (removeStaleSocketPath path (cString path)) shared := by
  have hdone : ∀ {error : Option ErrorText} {state}, Holds index fds state →
      listenProtocol.Safe index (fun _ later => Holds index fds later) (.done error) state :=
    fun hstate => safe_done holds_stable hstate fun _ => id
  unfold removeStaleSocketPath
  refine (lookHolding_safe hholds).bind fun reply later hlater => ?_
  cases reply with
  | error errno =>
      dsimp only
      split
      · exact hdone hlater
      · exact hdone hlater
  | ok status =>
      dsimp only
      split
      · exact hdone hlater
      · refine (socketHasActiveListener_safe hlater).bind fun active probed hprobed => ?_
        cases active with
        | true => exact hdone hprobed.1
        | false =>
            refine (unlinkDecided_safe (hprobed.2 rfl) hprobed.1).bind fun unlinked last hlast => ?_
            cases unlinked with
            | error errno =>
                dsimp only
                split
                · exact hdone hlast
                · exact hdone hlast
            | ok => exact hdone hlast

theorem loadSocketPathIdentity_bound {fd : SocketId} {path : Bytes} {identity : FileIdentity}
    (hbound : Bound index fd (cString path) identity false shared) :
    listenProtocol.Safe index
      (fun loaded later => loaded = .ok identity ∧
        Bound index fd (cString path) identity false later)
      (loadSocketPathIdentity path) shared := by
  unfold loadSocketPathIdentity
  refine (lookBound_safe hbound).bind fun reply later hlooked => ?_
  obtain ⟨rfl, hlater⟩ := hlooked
  exact safe_done bound_stable hlater fun _ hlast => ⟨rfl, hlast⟩

theorem loadSocketPathIdentity_unnamed {fd : SocketId} {path : Bytes}
    (hunnamed : cString path = []) (hholds : Holds index [fd] shared) :
    listenProtocol.Safe index
      (fun loaded later => (∃ error, loaded = .error error) ∧ Holds index [fd] later)
      (loadSocketPathIdentity path) shared := by
  unfold loadSocketPathIdentity
  refine (lookUnnamed_safe hunnamed hholds).bind fun reply later hlooked => ?_
  obtain ⟨⟨errno, rfl⟩, hlater⟩ := hlooked
  exact safe_done holds_stable hlater fun _ hlast => ⟨⟨_, rfl⟩, hlast⟩

namespace UnixSocketServer

/-- A `listen` that returns true has made its server listen at the path. -/
def OpensAt (path : Bytes) (answer : ObjectAnswer UnixSocketServer) : Prop :=
  answer.error = none → answer.object.isListening = true ∧ answer.object.path = path

theorem serving_closed : Serving index closed shared := rfl

theorem safe_opened {path : Bytes} {answer : ObjectAnswer UnixSocketServer}
    (hserving : Serving index answer.object shared) (hopens : OpensAt path answer) :
    listenProtocol.Safe index
      (fun answer later => Serving index answer.object later ∧ OpensAt path answer)
      (.done answer) shared :=
  safe_done serving_stable hserving fun _ hlast => ⟨hlast, hopens⟩

theorem safe_refused {path : Bytes} {error : ErrorText} :
    listenProtocol.Safe index
      (fun answer later => Serving index answer.object later ∧ OpensAt path answer)
      (.done ⟨some error, closed⟩) shared :=
  safe_opened serving_closed nofun

theorem close_safe {server : UnixSocketServer} (hserving : Serving index server shared) :
    listenProtocol.Safe index (fun after _ => after = closed) server.close shared := by
  have hclosed : ∀ {state}, listenProtocol.Safe index (fun after _ => after = closed)
      (.done closed) state :=
    safe_done (.const True) trivial fun _ _ => rfl
  obtain ⟨fd, path, identity, owns⟩ := server
  unfold close closeFd
  unfold Serving at hserving
  cases fd with
  | none =>
      have howns : owns = false := hserving
      subst howns
      exact hclosed
  | some fd =>
      obtain ⟨howns, hbound⟩ := hserving
      have howns : owns = true := howns
      subst howns
      have hrelease : listenProtocol.Safe index
          (fun _ later => FileReleased index (cString path) identity later)
          (do let _ ← closeSocket fd; return ()) shared :=
        (closeBound_safe hbound).bind fun _ later hreleased =>
          safe_done released_stable hreleased fun _ => id
      refine hrelease.bind fun _ later hreleased => ?_
      dsimp only
      rw [if_pos rfl]
      exact (unlinkOwnedSocketPath_safe hreleased).bind fun _ _ _ => hclosed

theorem listenAt_safe {fd : SocketId} {path : Bytes} {backlog : ℤ}
    (hholds : Holds index [fd] shared) :
    listenProtocol.Safe index
      (fun answer later => Serving index answer.object later ∧ OpensAt path answer)
      (closed.listenAt fd path (cString path) backlog) shared := by
  have hclose : ∀ {state}, Holds index [fd] state →
      listenProtocol.Safe index (fun _ later => Holds index [] later ∧ True)
        (closeSocket fd) state :=
    fun hstate => closeUnbound_safe hstate List.not_mem_nil trivial (.const True) fun _ => trivial
  unfold listenAt
  refine (bind_safe hholds).bind fun reply bound hbound => ?_
  cases reply with
  | error errno => exact (hclose hbound).bind fun _ _ _ => safe_refused
  | ok =>
      rcases hbound with ⟨hunnamed, hheld⟩ | ⟨identity, hbound⟩
      · -- an address outside the directories has no file that `lstat` could find
        refine (loadSocketPathIdentity_unnamed hunnamed hheld).bind fun loaded later hloaded => ?_
        obtain ⟨⟨error, rfl⟩, hlater⟩ := hloaded
        refine (hclose hlater).bind fun _ last _ => ?_
        exact (unlinkUnnamed_safe hunnamed).bind fun _ _ _ => safe_refused
      · refine (loadSocketPathIdentity_bound hbound).bind fun loaded later hloaded => ?_
        obtain ⟨rfl, hlater⟩ := hloaded
        refine (listen_safe hlater).bind fun reply listened hlistened => ?_
        cases reply with
        | error errno =>
            refine (closeBound_safe hlistened).bind fun _ last hreleased => ?_
            exact (unlinkOwnedSocketPath_safe hreleased).bind fun _ _ _ => safe_refused
        | ok => exact safe_opened ⟨rfl, hlistened⟩ fun _ => ⟨rfl, rfl⟩

theorem listen_call_safe {server : UnixSocketServer} {path : Bytes} {backlog : ℤ}
    (hserving : Serving index server shared) :
    listenProtocol.Safe index
      (fun answer later => Serving index answer.object later ∧ OpensAt path answer)
      (server.listen path backlog) shared := by
  unfold UnixSocketServer.listen
  refine (close_safe hserving).bind fun server later hclosed => ?_
  subst hclosed
  unfold fillAddress
  by_cases hempty : path.isEmpty = true
  · rw [if_pos hempty]
    exact safe_refused
  rw [if_neg hempty]
  by_cases hlong : path.length ≥ sunPathSize
  · rw [if_pos hlong]
    exact safe_refused
  rw [if_neg hlong]
  refine (@socket_safe index later [] nofun).bind fun reply opened hopened => ?_
  cases reply with
  | error errno => exact safe_refused
  | ok socketFd =>
      obtain ⟨_, hheld⟩ := hopened.2 socketFd rfl
      refine (removeStaleSocketPath_safe hheld).bind fun stale cleared hcleared => ?_
      cases stale with
      | some error =>
          exact (closeUnbound_safe hcleared List.not_mem_nil trivial (.const True)
            fun _ => trivial).bind fun _ _ _ => safe_refused
      | none => exact listenAt_safe hcleared

end UnixSocketServer

end Calls

/-- Every call of a server, beside any other calls that it does not disturb. -/
def listenContract : Contract SharedSockets socketServers where
  toProtocol := listenProtocol
  idle := Serving
  ensures _ call _ result _ :=
    match call with
    | .listen path _ => UnixSocketServer.OpensAt path ⟨result.1, result.2⟩
    | .close => True
  idle_stable := by
    intro index server
    exact serving_stable
  safe := by
    intro index call server shared _ hserving
    cases call with
    | listen path backlog =>
        refine (UnixSocketServer.listen_call_safe hserving).bind fun answer later hlater => ?_
        exact safe_done serving_stable hlater.1 fun _ hlast => ⟨hlast, hlater.2⟩
    | close =>
        refine (UnixSocketServer.close_safe hserving).bind fun after later hclosed => ?_
        subst hclosed
        exact safe_done serving_stable UnixSocketServer.serving_closed fun _ hlast =>
          ⟨hlast, trivial⟩

end ElapPlatform.Ipc
