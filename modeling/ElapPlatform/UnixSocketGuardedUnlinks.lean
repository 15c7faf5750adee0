import ElapPlatform.UnixSocketInterleaving
import ElapPlatform.UnixSocketTranscripts

/-!
# The look before an unlink

Whoever removes a socket path has looked at it.  Other processes may replace the entry
between any two system calls; what counts here is what the call had been told.
-/

namespace ElapPlatform.Ipc

open Interaction Interaction.Program

def LooksAt (exchange : SocketExchange) : Prop := ∃ path, exchange.1 = .lstat path

def BindsPath (exchange : SocketExchange) : Prop := ∃ fd address, exchange.1 = .bind fd address

def Unlinks (exchange : SocketExchange) : Prop := ∃ path, exchange.1 = .unlink path

/-- The latest `lstat` was one of the path, and it reported the status. -/
def LatestLook (before : List SocketExchange) (path : Bytes) (status : FileStatus) : Prop :=
  ∃ earlier later, before = earlier ++ lstatReplied path (.ok status) :: later ∧
    ∀ exchange ∈ later, ¬ LooksAt exchange

/-- The server has recorded the identity of its own socket when it closes, and learns
it anew behind a successful `bind`. -/
structure GuardedBy (server : UnixSocketServer) (before : List SocketExchange) (path : Bytes)
    (status : FileStatus) : Prop where
  look : LatestLook before path status
  socket : status.isSocket = true
  closing : (∀ exchange ∈ before, exchange.1 ≠ .socket) → status.identity = server.pathIdentity
  cleaning : ∀ earlier fd address after,
    before = earlier ++ bindReplied fd address (.ok ()) :: after →
      ∃ recorded later, after = lstatReplied path (.ok recorded) :: later ∧
        recorded.isSocket = true ∧ status.identity = recorded.identity

def Guarded (server : UnixSocketServer) (before : List SocketExchange)
    (exchange : SocketExchange) : Prop :=
  ∀ path reply, exchange = unlinkReplied path reply → ∃ status, GuardedBy server before path status

/-- Behind a successful `bind`, the path does not look like a socket. -/
def Unidentified (exchanges : List SocketExchange) : Prop :=
  ∃ before fd address path look after,
    exchanges = before ++ bindReplied fd address (.ok ()) :: lstatReplied path look :: after ∧
      ∀ status, look = .ok status → status.isSocket = false

section Guards

variable {server : UnixSocketServer} {path address : Bytes} {backlog : ℤ}
  {before exchanges closing evicting : List SocketExchange}

theorem guarded_of_not_unlinks {exchange : SocketExchange} (hother : ¬ Unlinks exchange) :
    Guarded server before exchange := by
  rintro path reply rfl
  exact absurd ⟨path, rfl⟩ hother

theorem guards_of_no_unlink {prior : List SocketExchange}
    (hexchanges : ∀ exchange ∈ exchanges, ¬ Unlinks exchange) :
    Justified (fun before => Guarded server (prior ++ before)) exchanges :=
  .of_forall fun _ exchange hmem => guarded_of_not_unlinks (hexchanges exchange hmem)

theorem guards_concat {prior last : List SocketExchange} {reply : SystemResult Unit}
    {status : FileStatus} (hlast : ∀ exchange ∈ last, ¬ Unlinks exchange)
    (hguarded : GuardedBy server (prior ++ last) path status) :
    Justified (fun before => Guarded server (prior ++ before))
      (last ++ [unlinkReplied path reply]) := by
  refine Justified.concat_iff.mpr ⟨guards_of_no_unlink hlast, ?_⟩
  intro unlinked other hexchange
  cases hexchange
  exact ⟨status, hguarded⟩

/-- Nothing is to be cleaned up before the server binds its socket. -/
theorem guardedBy_of_unbound {status : FileStatus} (hlook : LatestLook before path status)
    (hsocket : status.isSocket = true)
    (hclosing : (∀ exchange ∈ before, exchange.1 ≠ .socket) →
      status.identity = server.pathIdentity)
    (hunbound : ∀ exchange ∈ before, ¬ BindsPath exchange) :
    GuardedBy server before path status where
  look := hlook
  socket := hsocket
  closing := hclosing
  cleaning := by
    rintro earlier fd address after rfl
    exact absurd ⟨fd, address, rfl⟩
      (hunbound (bindReplied fd address (.ok ())) (List.mem_append_right _ List.mem_cons_self))

/-! ## Releasing and evicting -/

theorem Releases.unbound {identity : FileIdentity}
    (hreleases : Releases path identity exchanges) :
    ∀ exchange ∈ exchanges, ¬ BindsPath exchange := by
  intro exchange hmem
  rcases hreleases.calls exchange hmem with hcall | hcall <;> simp [BindsPath, hcall]

/-- `close` neither opens nor binds a socket. -/
theorem Closes.quiet (hcloses : Closes server closing) :
    ∀ exchange ∈ closing, exchange.1 ≠ .socket ∧ ¬ BindsPath exchange := by
  obtain ⟨descriptor, released, hdescriptor, hreleased⟩ := hcloses
  intro exchange hmem
  rcases List.mem_append.mp hmem with hmem | hmem
  · rcases hdescriptor with ⟨_, rfl⟩ | ⟨fd, reply, _, rfl⟩
    · cases hmem
    · cases List.mem_singleton.mp hmem
      simp [BindsPath]
  · rcases hreleased with ⟨_, rfl⟩ | ⟨_, hreleases⟩
    · cases hmem
    · refine ⟨?_, hreleases.unbound exchange hmem⟩
      rcases hreleases.calls exchange hmem with hcall | hcall <;> simp [hcall]

theorem Evicts.quiet {error : Option ErrorText} (hevicts : Evicts path address evicting error) :
    ∀ exchange ∈ evicting, ¬ BindsPath exchange := by
  cases hevicts <;> simp [BindsPath]

/-- A release unlinks what it has just looked at. -/
theorem Releases.guarded {identity : FileIdentity} {prior : List SocketExchange}
    (hreleases : Releases path identity exchanges)
    (hown : ∀ status : FileStatus, status.isSocket = true → status.identity = identity →
      GuardedBy server (prior ++ [lstatReplied path (.ok status)]) path status) :
    Justified (fun before => Guarded server (prior ++ before)) exchanges := by
  cases hreleases with
  | unnamed hpath => exact .nil
  | unknown hpath errno => exact guards_of_no_unlink (by simp [Unlinks])
  | other hpath status hother => exact guards_of_no_unlink (by simp [Unlinks])
  | own hpath status hsocket hidentity reply =>
      have hlook : ∀ exchange ∈ [lstatReplied path (.ok status)], ¬ Unlinks exchange := by
        simp [Unlinks]
      exact guards_concat hlook (hown status hsocket hidentity)

/-- `close` removes what has the recorded identity. -/
theorem Closes.guarded (hcloses : Closes server closing) :
    Justified (Guarded server) closing := by
  have hquiet := hcloses.quiet
  obtain ⟨descriptor, released, hdescriptor, hreleased⟩ := hcloses
  have hsilent : ∀ exchange ∈ descriptor, ¬ Unlinks exchange := by
    rcases hdescriptor with ⟨_, rfl⟩ | ⟨fd, reply, _, rfl⟩ <;> simp [Unlinks]
  refine Justified.append (.of_forall fun _ exchange hmem =>
    guarded_of_not_unlinks (hsilent exchange hmem)) ?_
  rcases hreleased with ⟨_, rfl⟩ | ⟨_, hreleases⟩
  · exact .nil
  refine hreleases.guarded fun status hsocket hidentity =>
    guardedBy_of_unbound ⟨descriptor, [], rfl, by simp⟩ hsocket (fun _ => hidentity)
      fun exchange hmem => ?_
  rcases List.mem_append.mp hmem with hmem | hmem
  · exact (hquiet exchange (List.mem_append_left _ hmem)).2
  · cases List.mem_singleton.mp hmem
    simp [BindsPath]

/-- An eviction comes before the server's own socket is bound. -/
theorem Evicts.guarded {error : Option ErrorText} {prior : List SocketExchange}
    {opened : SystemResult SocketId} (hevicts : Evicts path address evicting error)
    (hopened : socketReplied opened ∈ prior) (hunbound : ∀ exchange ∈ prior, ¬ BindsPath exchange) :
    Justified (fun before => Guarded server (prior ++ before)) evicting := by
  cases hevicts with
  | evicted status hstatus fd errno closed reply error =>
      have hsilent : ∀ exchange ∈ [lstatReplied path (.ok status), socketReplied (.ok fd),
          connectReplied fd address (.error errno), closeReplied fd closed],
          ¬ Unlinks exchange ∧ ¬ BindsPath exchange := by
        simp [Unlinks, BindsPath]
      refine guards_concat (fun exchange hmem => (hsilent exchange hmem).1)
        (guardedBy_of_unbound ⟨prior, _, rfl, by simp [LooksAt]⟩ hstatus ?_ ?_)
      · intro hnone
        exact absurd rfl (hnone _ (List.mem_append_left _ hopened))
      · intro exchange hmem
        rcases List.mem_append.mp hmem with hmem | hmem
        · exact hunbound exchange hmem
        · exact (hsilent exchange hmem).2
  | _ => exact guards_of_no_unlink (by simp [Unlinks])

/-! ## Behind the `bind` -/

theorem unidentified_append {prior : List SocketExchange}
    (hunbound : ∀ exchange ∈ prior, ¬ BindsPath exchange) :
    Unidentified (prior ++ exchanges) ↔ Unidentified exchanges := by
  constructor
  · rintro ⟨before, fd, address, path, look, after, hsplit, hlook⟩
    rcases List.append_eq_append_iff.mp hsplit with ⟨middle, rfl, hrest⟩ | ⟨middle, rfl, hrest⟩
    · exact ⟨middle, fd, address, path, look, after, hrest, hlook⟩
    · cases middle with
      | nil => exact ⟨[], fd, address, path, look, after, hrest.symm, hlook⟩
      | cons first middle =>
          obtain ⟨rfl, _⟩ := List.cons.inj hrest
          exact absurd ⟨fd, address, rfl⟩
            (hunbound _ (List.mem_append_right before List.mem_cons_self))
  · rintro ⟨before, fd, address, path, look, after, rfl, hlook⟩
    exact ⟨prior ++ before, fd, address, path, look, after, by rw [List.append_assoc], hlook⟩

/-- The one `bind` decides. -/
theorem unidentified_cons_iff {fd : SocketId} {reply : SystemResult Unit}
    {rest : List SocketExchange} (hunbound : ∀ exchange ∈ rest, ¬ BindsPath exchange) :
    Unidentified (bindReplied fd address reply :: rest) ↔
      reply = .ok () ∧ ∃ path look after, rest = lstatReplied path look :: after ∧
        ∀ status, look = .ok status → status.isSocket = false := by
  constructor
  · rintro ⟨before, other, bound, path, look, after, hsplit, hlook⟩
    obtain ⟨rfl, hbind, rfl⟩ := split_unique (List.forall_mem_nil _) hunbound ⟨other, bound, rfl⟩
      hsplit
    cases hbind
    exact ⟨rfl, path, look, after, rfl, hlook⟩
  · rintro ⟨rfl, path, look, after, rfl, hlook⟩
    exact ⟨[], fd, address, path, look, after, rfl, hlook⟩

/-- A look that finds a socket identifies it. -/
theorem identified_of_socket {fd : SocketId} {reply : SystemResult Unit} {status : FileStatus}
    {rest : List SocketExchange} (hstatus : status.isSocket = true)
    (hunbound : ∀ exchange ∈ rest, ¬ BindsPath exchange) :
    ¬ Unidentified (bindReplied fd address reply :: lstatReplied path (.ok status) :: rest) := by
  have hlook : ¬ BindsPath (lstatReplied path (.ok status)) := by simp [BindsPath]
  rw [unidentified_cons_iff (List.forall_mem_cons.mpr ⟨hlook, hunbound⟩)]
  rintro ⟨_, looked, look, after, hrest, hnone⟩
  cases hrest
  rw [hnone status rfl] at hstatus
  cases hstatus

/-- Behind a refused `listen`, the path is removed if it still names the socket that the
look behind the `bind` had found. -/
theorem Releases.guarded_of_bound {fd : SocketId} {status : FileStatus} {reply : SystemResult Unit}
    {prior between : List SocketExchange} {opened : SystemResult SocketId}
    (hreleases : Releases path status.identity exchanges) (hstatus : status.isSocket = true)
    (hopened : socketReplied opened ∈ prior) (hunbound : ∀ exchange ∈ prior, ¬ BindsPath exchange)
    (hbetween : ∀ exchange ∈ between, ¬ Unlinks exchange ∧ ¬ BindsPath exchange) :
    Justified (fun before => Guarded server (prior ++ before))
      (bindReplied fd address reply :: lstatReplied path (.ok status) :: between ++ exchanges) := by
  have hsilent : ∀ exchange ∈ bindReplied fd address reply :: lstatReplied path (.ok status) ::
      between, ¬ Unlinks exchange := by
    simpa [Unlinks] using fun exchange hmem => (hbetween exchange hmem).1
  refine Justified.append (guards_of_no_unlink hsilent) ?_
  simp only [← List.append_assoc]
  refine hreleases.guarded fun found hsocket hidentity =>
    ⟨⟨_, [], rfl, List.forall_mem_nil _⟩, hsocket, fun hnone => ?_, ?_⟩
  · exact absurd rfl (hnone _ (List.mem_append_left _ (List.mem_append_left _ hopened)))
  · intro earlier other bound after hsplit
    have hlater : ∀ exchange ∈ lstatReplied path (.ok status) :: (between ++
        [lstatReplied path (.ok found)]), ¬ BindsPath exchange := by
      intro exchange hmem
      rcases List.mem_cons.mp hmem with rfl | hmem
      · simp [BindsPath]
      rcases List.mem_append.mp hmem with hmem | hmem
      · exact (hbetween exchange hmem).2
      · cases List.mem_singleton.mp hmem
        simp [BindsPath]
    rw [List.append_assoc, List.cons_append, List.cons_append] at hsplit
    obtain ⟨_, _, rfl⟩ := split_unique hunbound hlater ⟨other, bound, rfl⟩ hsplit
    exact ⟨status, _, rfl, hstatus, hidentity⟩

theorem ListensAt.guarded_iff {fd : SocketId} {prior : List SocketExchange}
    {opened : SystemResult SocketId} (hlistens : ListensAt fd path address backlog exchanges)
    (hopened : socketReplied opened ∈ prior) (hunbound : ∀ exchange ∈ prior, ¬ BindsPath exchange) :
    Justified (fun before => Guarded server (prior ++ before)) exchanges ↔
      ¬ Unidentified exchanges := by
  cases hlistens with
  | unbound errno closed =>
      rw [unidentified_cons_iff (by simp [BindsPath])]
      refine iff_of_true (guards_of_no_unlink (by simp [Unlinks])) fun hbound => ?_
      cases hbound.1
  | unidentified look hlook closed reply =>
      rw [unidentified_cons_iff (by simp [BindsPath])]
      refine iff_of_false (fun hguards => ?_) fun hidentified => hidentified
        ⟨rfl, path, look, _, rfl, hlook⟩
      have hunlink := hguards [bindReplied fd address (.ok ()), lstatReplied path look,
        closeReplied fd closed] (unlinkReplied path reply) [] rfl
      obtain ⟨status, hguarded⟩ := hunlink path reply rfl
      obtain ⟨recorded, later, hafter, hsocket, _⟩ := hguarded.cleaning prior fd address _ rfl
      cases hafter
      rw [hlook recorded rfl] at hsocket
      cases hsocket
  | refused status hstatus errno closed released hreleased =>
      have hbetween : ∀ exchange ∈ [listenReplied fd backlog (.error errno),
          closeReplied fd closed], ¬ Unlinks exchange ∧ ¬ BindsPath exchange := by
        simp [Unlinks, BindsPath]
      have hlater : ∀ exchange ∈ [listenReplied fd backlog (.error errno),
          closeReplied fd closed] ++ released, ¬ BindsPath exchange := by
        intro exchange hmem
        rcases List.mem_append.mp hmem with hmem | hmem
        · exact (hbetween exchange hmem).2
        · exact hreleased.unbound exchange hmem
      exact iff_of_true (hreleased.guarded_of_bound hstatus hopened hunbound hbetween)
        (identified_of_socket hstatus hlater)
  | listening status hstatus =>
      exact iff_of_true (guards_of_no_unlink (by simp [Unlinks]))
        (identified_of_socket hstatus (by simp [BindsPath]))

/-! ## Whole calls -/

/-- What `listen` does before it binds, and all of `close`, is guarded. -/
theorem opening_guarded {error : Option ErrorText} (fd : SocketId)
    (hcloses : Closes server closing) (hevicts : Evicts path (cString path) evicting error) :
    Justified (Guarded server) (closing ++ socketReplied (.ok fd) :: evicting) ∧
      ∀ exchange ∈ closing ++ socketReplied (.ok fd) :: evicting, ¬ BindsPath exchange := by
  have hprior : ∀ exchange ∈ closing ++ [socketReplied (.ok fd)], ¬ BindsPath exchange := by
    intro exchange hmem
    rcases List.mem_append.mp hmem with hmem | hmem
    · exact (hcloses.quiet exchange hmem).2
    · cases List.mem_singleton.mp hmem
      simp [BindsPath]
  have hopened : Justified (Guarded server) (closing ++ [socketReplied (.ok fd)]) :=
    Justified.append_iff.mpr ⟨hcloses.guarded, guards_of_no_unlink (by simp [Unlinks])⟩
  have hsplit : closing ++ socketReplied (.ok fd) :: evicting =
      closing ++ [socketReplied (.ok fd)] ++ evicting := by
    rw [List.append_assoc, List.singleton_append]
  rw [hsplit]
  refine ⟨Justified.append_iff.mpr ⟨hopened, hevicts.guarded
    (List.mem_append_right _ List.mem_cons_self) hprior⟩, fun exchange hmem => ?_⟩
  rcases List.mem_append.mp hmem with hmem | hmem
  · exact hprior exchange hmem
  · exact hevicts.quiet exchange hmem

theorem not_unidentified_of_unbound (hunbound : ∀ exchange ∈ exchanges, ¬ BindsPath exchange) :
    ¬ Unidentified exchanges := by
  rintro ⟨before, fd, address, path, look, after, rfl, _⟩
  exact hunbound (bindReplied fd address (.ok ()))
    (List.mem_append_right before List.mem_cons_self) ⟨fd, address, rfl⟩

theorem listen_guarded_iff (hcloses : Closes server closing)
    (hlistens : ListensAfterClose path backlog exchanges) :
    Justified (Guarded server) (closing ++ exchanges) ↔ ¬ Unidentified (closing ++ exchanges) := by
  have hclosing := fun exchange hmem => (hcloses.quiet exchange hmem).2
  cases hlistens with
  | unaddressed error herror =>
      rw [List.append_nil]
      exact iff_of_true hcloses.guarded (not_unidentified_of_unbound hclosing)
  | unopened errno =>
      rw [unidentified_append hclosing]
      exact iff_of_true (Justified.append_iff.mpr ⟨hcloses.guarded,
        guards_of_no_unlink (by simp [Unlinks])⟩)
        (not_unidentified_of_unbound (by simp [BindsPath]))
  | blocked fd evicting error closed hevicting =>
      obtain ⟨hguarded, hunbound⟩ := opening_guarded fd hcloses hevicting
      rw [← List.append_assoc, unidentified_append hunbound]
      exact iff_of_true (Justified.append_iff.mpr ⟨hguarded,
        guards_of_no_unlink (by simp [Unlinks])⟩)
        (not_unidentified_of_unbound (by simp [BindsPath]))
  | cleared fd evicting listening hevicting hlistening =>
      obtain ⟨hguarded, hunbound⟩ := opening_guarded fd hcloses hevicting
      rw [← List.append_assoc, unidentified_append hunbound, Justified.append_iff,
        and_iff_right hguarded]
      exact hlistening.guarded_iff (List.mem_append_right closing List.mem_cons_self) hunbound

/-- Every `unlink` of a call is guarded, unless the path does not look like a socket right
behind a successful `bind`: there `listen` removes whatever the path names by then. -/
theorem unlinks_guarded_iff {call : ServerCall} {answer : Option ErrorText × UnixSocketServer}
    (htranscript : Transcript (call.perform server) exchanges answer) :
    Justified (Guarded server) exchanges ↔ ¬ Unidentified exchanges := by
  cases call with
  | listen path backlog =>
      obtain ⟨listening, _, result, rfl, hlisten, hdone⟩ := transcript_bind_iff.mp htranscript
      obtain ⟨rfl, _⟩ := transcript_done_iff.mp hdone
      obtain ⟨closing, rest, rfl, hcloses, hlistens⟩ := UnixSocketServer.listen_transcript hlisten
      rw [List.append_nil]
      exact listen_guarded_iff hcloses hlistens
  | close =>
      obtain ⟨closing, _, after, rfl, hclose, hdone⟩ := transcript_bind_iff.mp htranscript
      obtain ⟨rfl, _⟩ := transcript_done_iff.mp hdone
      have hcloses := UnixSocketServer.close_transcript hclose
      rw [List.append_nil]
      exact iff_of_true hcloses.guarded
        (not_unidentified_of_unbound fun exchange hmem => (hcloses.quiet exchange hmem).2)

end Guards

/-! ## A replaced path -/

/-- `/s` -/
def shortPath : Bytes := [47, 115]

/-- `listen` up to its `bind`: a stale socket is evicted. -/
def evictedPath : List SocketExchange :=
  [socketReplied (.ok 3), lstatReplied shortPath (.ok ⟨true, ⟨1, 2⟩⟩), socketReplied (.ok 4),
    connectReplied 4 shortPath (.error ECONNREFUSED), closeReplied 4 (.ok ()),
    unlinkReplied shortPath (.ok ())]

theorem bound_path_guarded :
    Justified (Guarded .closed) (evictedPath ++ bindReplied 3 shortPath (.ok ()) ::
      [lstatReplied shortPath (.ok ⟨true, ⟨1, 5⟩⟩), listenReplied 3 4 (.ok ())]) := by
  have htranscript : Transcript ((ServerCall.listen shortPath 4).perform .closed)
      (evictedPath ++ bindReplied 3 shortPath (.ok ()) ::
        [lstatReplied shortPath (.ok ⟨true, ⟨1, 5⟩⟩), listenReplied 3 4 (.ok ())])
      (none, ⟨some 3, shortPath, ⟨1, 5⟩, true⟩) := by
    repeat refine .ask _ ?_
    exact .done _
  refine (unlinks_guarded_iff htranscript).mpr ?_
  rw [unidentified_append (by simp [evictedPath, BindsPath]),
    unidentified_cons_iff (by simp [BindsPath])]
  rintro ⟨_, path, look, after, hrest, hlook⟩
  cases hrest
  cases hlook _ rfl

/-- Another process has put a file at the path; `listen` removes it. -/
theorem replaced_path_unguarded :
    ¬ ∀ (server : UnixSocketServer) (call : ServerCall) exchanges answer,
      Transcript (call.perform server) exchanges answer → Justified (Guarded server) exchanges := by
  intro hall
  have htranscript : Transcript ((ServerCall.listen shortPath 4).perform .closed)
      (evictedPath ++ bindReplied 3 shortPath (.ok ()) ::
        [lstatReplied shortPath (.ok ⟨false, ⟨1, 6⟩⟩), closeReplied 3 (.ok ()),
          unlinkReplied shortPath (.ok ())])
      (some (.message "bind failed: bound path is not a unix socket"), .closed) := by
    repeat refine .ask _ ?_
    exact .done _
  have hunlink := hall _ _ _ _ htranscript (evictedPath ++ bindReplied 3 shortPath (.ok ()) ::
    [lstatReplied shortPath (.ok ⟨false, ⟨1, 6⟩⟩), closeReplied 3 (.ok ())]) _ [] rfl
  obtain ⟨status, hguarded⟩ := hunlink shortPath (.ok ()) rfl
  obtain ⟨recorded, later, hafter, hsocket, _⟩ := hguarded.cleaning evictedPath 3 shortPath _ rfl
  cases hafter
  cases hsocket

end ElapPlatform.Ipc
