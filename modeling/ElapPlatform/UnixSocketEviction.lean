import ElapPlatform.PartialMapUpdate
import ElapPlatform.UnixSocketTranscripts

/-!
# Eviction of stale sockets

Directories with entries of every kind and sockets of every type.  A probe of a live
socket may fail for more reasons than that nobody listens, and `listen` takes every
failure for that one.
-/

namespace ElapPlatform.Ipc

open Interaction Interaction.Program

def EACCES : Errno := 13
def EPROTOTYPE : Errno := 91

/-! ## Directories and sockets -/

inductive SocketType where
  | stream
  | seqpacket
  | datagram
  deriving DecidableEq, Repr

/-- A socket file remembers the socket whose `bind` made it. -/
inductive EntryKind where
  | regular
  | directory
  | symlink
  | socket (binder : SocketId)
  deriving DecidableEq, Repr

/-- `writable` is the permission of the calling process. -/
structure PathEntry where
  identity : FileIdentity
  kind : EntryKind
  writable : Bool
  deriving DecidableEq, Repr

def PathEntry.status (entry : PathEntry) : FileStatus where
  isSocket := match entry.kind with
    | .socket _ => true
    | _ => false
  identity := entry.identity

structure TypedSocket where
  type : SocketType
  listening : Bool
  deriving DecidableEq, Repr

/-- The open sockets of all processes, and what the paths name. -/
structure SocketHost where
  entries : Bytes → Option PathEntry
  sockets : SocketId → Option TypedSocket
  searchable : Bytes → Bool
  removable : Bytes → Bool
  named : entries [] = none

namespace SocketHost

/-- The path names a socket that some process has open. -/
structure Live (host : SocketHost) (path : Bytes) (entry : PathEntry) (binder : SocketId) :
    Prop where
  found : host.entries path = some entry
  kind : entry.kind = .socket binder
  isOpen : host.sockets binder ≠ none

/-- A process can connect to the path. -/
def Accepts (host : SocketHost) (path : Bytes) : Prop :=
  ∃ entry binder, host.entries path = some entry ∧ entry.kind = .socket binder ∧
    entry.writable = true ∧ host.sockets binder = some ⟨.stream, true⟩

def setSocket (host : SocketHost) (fd : SocketId) (socket : Option TypedSocket) : SocketHost :=
  { host with sockets := Function.update host.sockets fd socket }

@[simp] theorem setSocket_sockets (host : SocketHost) (fd : SocketId)
    (socket : Option TypedSocket) :
    (host.setSocket fd socket).sockets = Function.update host.sockets fd socket := rfl

def removeEntry (host : SocketHost) (path : Bytes) : SocketHost :=
  { host with
    entries := Function.update host.entries path none
    named := by
      by_cases hpath : [] = path
      · rw [← hpath, Function.update_self]
      · rw [Function.update_of_ne hpath, host.named] }

/-- A process may look at the file that it has just made, and remove it. -/
def bindSocket (host : SocketHost) (fd : SocketId) (path : Bytes) (hpath : path ≠ [])
    (identity : FileIdentity) : SocketHost where
  entries := Function.update host.entries path (some ⟨identity, .socket fd, true⟩)
  sockets := host.sockets
  searchable := Function.update host.searchable path true
  removable := Function.update host.removable path true
  named := by rw [Function.update_of_ne hpath.symm, host.named]

/-- A new socket has a number that no open socket and no socket file has. -/
def Opens (host : SocketHost) (reply : SystemResult SocketId) (next : SocketHost) : Prop :=
  match reply with
  | .ok fd =>
      host.sockets fd = none ∧
        (∀ path entry, host.entries path = some entry → entry.kind ≠ .socket fd) ∧
        next = host.setSocket fd (some ⟨.stream, false⟩)
  | .error _ => next = host

def Looks (host : SocketHost) (path : Bytes) (reply : SystemResult FileStatus) : Prop :=
  match reply with
  | .ok status => host.searchable path = true ∧
      ∃ entry, host.entries path = some entry ∧ status = entry.status
  | .error errno =>
      host.entries path = none ∨ host.searchable path = false ∧ errno ≠ ENOENT

/-- What `connect` on a stream socket says about an entry that is not a link.  Any other
error is possible in every state. -/
def Connects (host : SocketHost) (path : Bytes) (reply : SystemResult Unit) : Prop :=
  match reply with
  | .ok () => host.Accepts path ∨ ∃ entry, host.entries path = some entry ∧ entry.kind = .symlink
  | .error errno =>
      (∃ entry, host.entries path = some entry ∧ entry.kind = .symlink) ∨
        (errno = ENOENT → host.entries path = none) ∧
        (errno = ECONNREFUSED → ¬ host.Accepts path) ∧
        (errno = EPROTOTYPE → ∃ entry binder socket, host.entries path = some entry ∧
          entry.kind = .socket binder ∧ host.sockets binder = some socket ∧
            socket.type ≠ .stream) ∧
        (errno = EACCES → host.searchable path = false ∨
          ∃ entry, host.entries path = some entry ∧ entry.writable = false) ∧
        (errno = EINTR → host.Accepts path)

def Binds (host : SocketHost) (fd : SocketId) (address : Bytes) (reply : SystemResult Unit)
    (next : SocketHost) : Prop :=
  match reply with
  | .ok () =>
      address = [] ∧ next = host ∨
        ∃ haddress : address ≠ [], host.entries address = none ∧
          ∃ identity, next = host.bindSocket fd address haddress identity
  | .error _ => next = host

def Listens (host : SocketHost) (fd : SocketId) (reply : SystemResult Unit)
    (next : SocketHost) : Prop :=
  match reply with
  | .ok () => ∃ socket, host.sockets fd = some socket ∧
      next = host.setSocket fd (some { socket with listening := true })
  | .error _ => next = host

def Unlinks (host : SocketHost) (path : Bytes) (reply : SystemResult Unit)
    (next : SocketHost) : Prop :=
  match reply with
  | .ok () => host.entries path ≠ none ∧ host.removable path = true ∧ next = host.removeEntry path
  | .error _ => next = host ∧ (host.entries path = none ∨ host.removable path = false)

end SocketHost

/-- Nobody else interferes between two calls. -/
def SocketCall.Happens (host : SocketHost) :
    (call : SocketCall) → call.Reply → SocketHost → Prop
  | .socket, reply, next => host.Opens reply next
  | .lstat path, reply, next => next = host ∧ host.Looks (cString path) reply
  | .connect _ address, reply, next => next = host ∧ host.Connects address reply
  | .bind fd address, reply, next => host.Binds fd address reply next
  | .listen fd _, reply, next => host.Listens fd reply next
  | .unlink path, reply, next => host.Unlinks (cString path) reply next
  | .close fd, _, next => next = host.setSocket fd none

/-! ## The two mistakes -/

/-- What other processes have open keeps its name. -/
def LiveKept (server : UnixSocketServer) (host final : SocketHost) : Prop :=
  ∀ path entry binder, host.Live path entry binder → server.fd ≠ some binder →
    final.entries path = some entry

/-- The probe of a live socket fails, and the caller may remove the path. -/
def Misled (server : UnixSocketServer) (host : SocketHost) (exchanges : List SocketExchange)
    (path : Bytes) : Prop :=
  ∃ fd errno entry binder, connectReplied fd path (.error errno) ∈ exchanges ∧
    host.Live path entry binder ∧ server.fd ≠ some binder ∧ host.removable path = true

/-- The inode that the server has recorded for its own path is there, but it belongs to a
socket of another process by now. -/
def Reused (server : UnixSocketServer) (host : SocketHost) (path : Bytes) : Prop :=
  server.ownsPath = true ∧ server.path ≠ [] ∧ path = cString server.path ∧
    ∃ entry binder, host.Live path entry binder ∧ server.fd ≠ some binder ∧
      entry.identity = server.pathIdentity ∧ host.searchable path = true ∧
      host.removable path = true

/-! ## Descriptors of the call -/

/-- The descriptor that a call changes. -/
def descriptorOf : SocketExchange → Option SocketId
  | ⟨.close fd, _⟩ => some fd
  | ⟨.bind fd _, _⟩ => some fd
  | ⟨.listen fd _, _⟩ => some fd
  | _ => none

/-- Only the server's descriptor changes, or one that was opened before. -/
def OwnDescriptor (server : UnixSocketServer) (before : List SocketExchange)
    (exchange : SocketExchange) : Prop :=
  ∀ fd, descriptorOf exchange = some fd → server.fd = some fd ∨ socketReplied (.ok fd) ∈ before

section Descriptors

variable {server : UnixSocketServer} {path address : Bytes} {backlog : ℤ}
  {exchanges closing evicting prior : List SocketExchange}

theorem descriptors_of_none (hnone : ∀ exchange ∈ exchanges, descriptorOf exchange = none) :
    Justified (fun before => OwnDescriptor server (prior ++ before)) exchanges := by
  refine .of_forall fun before exchange hmem fd hfd => ?_
  rw [hnone exchange hmem] at hfd
  cases hfd

theorem descriptors_of_opened (fd : SocketId) (hopened : socketReplied (.ok fd) ∈ prior)
    (hown : ∀ exchange ∈ exchanges,
      descriptorOf exchange = none ∨ descriptorOf exchange = some fd) :
    Justified (fun before => OwnDescriptor server (prior ++ before)) exchanges := by
  refine .of_forall fun before exchange hmem other hother => .inr ?_
  rcases hown exchange hmem with hnone | hfd
  · rw [hnone] at hother
    cases hother
  · rw [hfd] at hother
    cases hother
    exact List.mem_append_left before hopened

theorem Releases.descriptors {identity : FileIdentity}
    (hreleases : Releases path identity exchanges) :
    ∀ exchange ∈ exchanges, descriptorOf exchange = none := by
  cases hreleases <;> simp [descriptorOf]

theorem Closes.descriptors (hcloses : Closes server closing) :
    Justified (OwnDescriptor server) closing := by
  obtain ⟨descriptor, released, hdescriptor, hreleased⟩ := hcloses
  refine Justified.append_iff.mpr ⟨?_, descriptors_of_none ?_⟩
  · rcases hdescriptor with ⟨_, rfl⟩ | ⟨fd, reply, hfd, rfl⟩
    · exact .nil
    · refine .of_forall fun before exchange hmem other hother => .inl ?_
      cases List.mem_singleton.mp hmem
      cases hother
      exact hfd
  · rcases hreleased with ⟨_, rfl⟩ | ⟨_, hreleases⟩
    · exact List.forall_mem_nil _
    · exact hreleases.descriptors

theorem Evicts.descriptors {error : Option ErrorText}
    (hevicts : Evicts path address evicting error) :
    Justified (fun before => OwnDescriptor server (prior ++ before)) evicting := by
  have hprobe : ∀ {fd : SocketId} {status : FileStatus} {rest : List SocketExchange},
      (∀ exchange ∈ rest, descriptorOf exchange = none ∨ descriptorOf exchange = some fd) →
        Justified (fun before => OwnDescriptor server (prior ++ before))
          ([lstatReplied path (.ok status), socketReplied (.ok fd)] ++ rest) := by
    intro fd status rest hrest
    refine Justified.append_iff.mpr ⟨descriptors_of_none (by simp [descriptorOf]), ?_⟩
    simp only [← List.append_assoc]
    exact descriptors_of_opened fd (by simp) hrest
  cases hevicts with
  | active status hstatus fd closed => exact hprobe (by simp [descriptorOf])
  | evicted status hstatus fd errno closed reply error => exact hprobe (by simp [descriptorOf])
  | _ => exact descriptors_of_none (by simp [descriptorOf])

theorem ListensAt.descriptors {fd : SocketId}
    (hlistens : ListensAt fd path address backlog exchanges)
    (hopened : socketReplied (.ok fd) ∈ prior) :
    Justified (fun before => OwnDescriptor server (prior ++ before)) exchanges := by
  apply descriptors_of_opened fd hopened
  cases hlistens with
  | refused status hstatus errno closed released hreleased =>
      simpa [descriptorOf] using fun exchange hmem =>
        Or.inl (hreleased.descriptors exchange hmem)
  | _ => simp [descriptorOf]

theorem listen_descriptors (hcloses : Closes server closing)
    (hlistens : ListensAfterClose path backlog exchanges) :
    Justified (OwnDescriptor server) (closing ++ exchanges) := by
  refine Justified.append_iff.mpr ⟨hcloses.descriptors, ?_⟩
  have hopening : ∀ {fd : SocketId} {rest : List SocketExchange},
      Justified (fun before => OwnDescriptor server (closing ++ [socketReplied (.ok fd)] ++ before))
        rest →
      Justified (fun before => OwnDescriptor server (closing ++ before))
        ([socketReplied (.ok fd)] ++ rest) := by
    intro fd rest hrest
    refine Justified.append_iff.mpr ⟨descriptors_of_none (by simp [descriptorOf]), ?_⟩
    simpa only [List.append_assoc] using hrest
  cases hlistens with
  | unaddressed error herror => exact .nil
  | unopened errno => exact descriptors_of_none (by simp [descriptorOf])
  | blocked fd evicting error closed hevicting =>
      refine hopening (Justified.append_iff.mpr ⟨hevicting.descriptors, ?_⟩)
      simp only [← List.append_assoc]
      exact descriptors_of_opened fd (by simp) (by simp [descriptorOf])
  | cleared fd evicting listening hevicting hlistening =>
      refine hopening (Justified.append_iff.mpr ⟨hevicting.descriptors, ?_⟩)
      simp only [← List.append_assoc]
      exact hlistening.descriptors (by simp)

end Descriptors

/-! ## One socket of another process along a call -/

section Foreign

variable {server : UnixSocketServer} {host next final : SocketHost} {call : SocketCall}
  {reply : call.Reply} {exchanges : List SocketExchange} {path : Bytes} {entry : PathEntry}
  {binder : SocketId}

theorem happens_isOpen (hhappens : SocketCall.Happens host call reply next)
    (hforeign : descriptorOf ⟨call, reply⟩ ≠ some binder) (hopen : host.sockets binder ≠ none) :
    next.sockets binder ≠ none := by
  have hchanged : ∀ {fd : SocketId} {socket : Option TypedSocket}, fd ≠ binder →
      (host.setSocket fd socket).sockets binder ≠ none := by
    intro fd socket hfd
    rw [SocketHost.setSocket_sockets, Function.update_of_ne hfd.symm]
    exact hopen
  cases call with
  | socket =>
      cases reply with
      | error errno =>
          obtain rfl := hhappens
          exact hopen
      | ok fd =>
          obtain ⟨hunused, _, rfl⟩ := hhappens
          exact hchanged fun heq => hopen (heq ▸ hunused)
  | lstat looked =>
      obtain ⟨rfl, _⟩ := hhappens
      exact hopen
  | connect fd address =>
      obtain ⟨rfl, _⟩ := hhappens
      exact hopen
  | bind fd address =>
      cases reply with
      | error errno =>
          obtain rfl := hhappens
          exact hopen
      | ok =>
          obtain ⟨_, rfl⟩ | ⟨haddress, _, identity, rfl⟩ := hhappens
          · exact hopen
          · exact hopen
  | listen fd backlog =>
      cases reply with
      | error errno =>
          obtain rfl := hhappens
          exact hopen
      | ok =>
          obtain ⟨socket, _, rfl⟩ := hhappens
          exact hchanged fun heq => hforeign (congrArg some heq)
  | unlink removed =>
      cases reply with
      | error errno =>
          obtain ⟨rfl, _⟩ := hhappens
          exact hopen
      | ok =>
          obtain ⟨_, _, rfl⟩ := hhappens
          exact hopen
  | close fd =>
      obtain rfl := hhappens
      exact hchanged fun heq => hforeign (congrArg some heq)

/-- A socket that is open elsewhere stays open, and no call of the server is about it. -/
theorem answered_foreign (prior : List SocketExchange)
    (hanswered : Answered SocketCall.Happens host exchanges final)
    (hown : Justified (fun before => OwnDescriptor server (prior ++ before)) exchanges)
    (hprior : socketReplied (.ok binder) ∉ prior) (hserver : server.fd ≠ some binder)
    (hopen : host.sockets binder ≠ none) :
    ∀ exchange ∈ exchanges, descriptorOf exchange ≠ some binder := by
  induction hanswered generalizing prior with
  | nil state => exact List.forall_mem_nil _
  | @cons state middle last call reply rest hhappens hrest ih =>
      obtain ⟨hfirst, hlater⟩ := Justified.cons_iff.mp hown
      rw [List.append_nil] at hfirst
      have hforeign : descriptorOf ⟨call, reply⟩ ≠ some binder := by
        intro hdescriptor
        rcases hfirst binder hdescriptor with hfd | hmem
        · exact hserver hfd
        · exact hprior hmem
      have hunopened : socketReplied (.ok binder) ∉ prior ++ [⟨call, reply⟩] := by
        intro hmem
        rcases List.mem_append.mp hmem with hmem | hmem
        · exact hprior hmem
        · cases List.mem_singleton.mp hmem
          exact hopen hhappens.1
      refine List.forall_mem_cons.mpr ⟨hforeign, ih _ ?_ hunopened
        (happens_isOpen hhappens hforeign hopen)⟩
      simpa only [List.append_assoc, List.singleton_append] using hlater

/-- An `unlink` of the path that succeeds. -/
def Removes (path : Bytes) (exchange : SocketExchange) : Prop :=
  ∃ named, cString named = path ∧ exchange = unlinkReplied named (.ok ())

theorem not_removes {exchange : SocketExchange} (hcall : ∀ named, exchange.1 ≠ .unlink named)
    (path : Bytes) : ¬ Removes path exchange := by
  rintro ⟨named, _, rfl⟩
  exact hcall named rfl

/-- All that a call can do to the directories. -/
inductive NamesAfter (host next : SocketHost) : SocketExchange → Prop
  | same (exchange : SocketExchange) (hentries : next.entries = host.entries)
      (hsearchable : next.searchable = host.searchable)
      (hremovable : next.removable = host.removable)
      (hkept : ∀ path, ¬ Removes path exchange) : NamesAfter host next exchange
  | removed (named : Bytes) (hfound : host.entries (cString named) ≠ none)
      (hremovable : host.removable (cString named) = true)
      (hsame : next.removable = host.removable)
      (hentries : next.entries = Function.update host.entries (cString named) none) :
      NamesAfter host next (unlinkReplied named (.ok ()))
  | bound (fd : SocketId) (address : Bytes) (identity : FileIdentity)
      (hfree : host.entries address = none)
      (hentries : next.entries =
        Function.update host.entries address (some ⟨identity, .socket fd, true⟩)) :
      NamesAfter host next (bindReplied fd address (.ok ()))

theorem happens_names (hhappens : SocketCall.Happens host call reply next) :
    NamesAfter host next ⟨call, reply⟩ := by
  cases call with
  | socket =>
      cases reply with
      | error errno =>
          obtain rfl := hhappens
          exact .same _ rfl rfl rfl (not_removes (by simp))
      | ok fd =>
          obtain ⟨_, _, rfl⟩ := hhappens
          exact .same _ rfl rfl rfl (not_removes (by simp))
  | lstat looked =>
      obtain ⟨rfl, _⟩ := hhappens
      exact .same _ rfl rfl rfl (not_removes (by simp))
  | connect fd address =>
      obtain ⟨rfl, _⟩ := hhappens
      exact .same _ rfl rfl rfl (not_removes (by simp))
  | bind fd address =>
      cases reply with
      | error errno =>
          obtain rfl := hhappens
          exact .same _ rfl rfl rfl (not_removes (by simp))
      | ok =>
          obtain ⟨_, rfl⟩ | ⟨haddress, hfree, identity, rfl⟩ := hhappens
          · exact .same _ rfl rfl rfl (not_removes (by simp))
          · exact .bound fd address identity hfree rfl
  | listen fd backlog =>
      cases reply with
      | error errno =>
          obtain rfl := hhappens
          exact .same _ rfl rfl rfl (not_removes (by simp))
      | ok =>
          obtain ⟨socket, _, rfl⟩ := hhappens
          exact .same _ rfl rfl rfl (not_removes (by simp))
  | unlink removed =>
      cases reply with
      | error errno =>
          obtain ⟨rfl, _⟩ := hhappens
          refine .same _ rfl rfl rfl ?_
          rintro path ⟨named, _, hcall⟩
          cases hcall
      | ok =>
          obtain ⟨hfound, hremovable, rfl⟩ := hhappens
          exact .removed removed hfound hremovable rfl rfl
  | close fd =>
      obtain rfl := hhappens
      exact .same _ rfl rfl rfl (not_removes (by simp))

theorem happens_keeps (hhappens : SocketCall.Happens host call reply next)
    (hfound : host.entries path = some entry) (hkept : ¬ Removes path ⟨call, reply⟩) :
    next.entries path = some entry := by
  cases happens_names hhappens with
  | same _ hentries hsearchable hremovable hother =>
      rw [hentries]
      exact hfound
  | removed named _ hremovable _ hentries =>
      have hother : path ≠ cString named := fun heq => hkept ⟨named, heq.symm, rfl⟩
      rw [hentries, Function.update_of_ne hother]
      exact hfound
  | bound fd address identity hfree hentries =>
      have hother : path ≠ address := by
        rintro rfl
        rw [hfree] at hfound
        cases hfound
      rw [hentries, Function.update_of_ne hother]
      exact hfound

/-- The path does not name the socket. -/
def Gone (host : SocketHost) (path : Bytes) (binder : SocketId) : Prop :=
  ∀ entry, host.entries path = some entry → entry.kind ≠ .socket binder

/-- Only a `bind` of the socket itself would give it the name back. -/
theorem happens_gone (hhappens : SocketCall.Happens host call reply next)
    (hforeign : descriptorOf ⟨call, reply⟩ ≠ some binder) (hgone : Gone host path binder) :
    Gone next path binder := by
  intro entry hentry
  cases happens_names hhappens with
  | same _ hentries hsearchable hremovable hother =>
      rw [hentries] at hentry
      exact hgone entry hentry
  | removed named _ hremovable _ hentries =>
      rw [hentries] at hentry
      exact hgone entry (PartialMap.erase_eq_some_iff.mp hentry).2
  | bound fd address identity hfree hentries =>
      rw [hentries] at hentry
      rcases PartialMap.insert_eq_some_iff.mp hentry with ⟨_, rfl⟩ | ⟨_, hold⟩
      · intro hkind
        cases hkind
        exact hforeign rfl
      · exact hgone entry hold

theorem removed_gone (hhappens : SocketCall.Happens host call reply next)
    (hremoves : Removes path ⟨call, reply⟩) : Gone next path binder := by
  intro entry hentry
  cases happens_names hhappens with
  | same _ hentries hsearchable hremovable hother => exact absurd hremoves (hother path)
  | removed named _ hremovable _ hentries =>
      obtain ⟨other, rfl, hcall⟩ := hremoves
      cases hcall
      rw [hentries, Function.update_self] at hentry
      cases hentry
  | bound fd address identity hfree hentries =>
      obtain ⟨other, _, hcall⟩ := hremoves
      cases hcall

theorem answered_gone (hanswered : Answered SocketCall.Happens host exchanges final)
    (hforeign : ∀ exchange ∈ exchanges, descriptorOf exchange ≠ some binder)
    (hgone : Gone host path binder) : Gone final path binder := by
  induction hanswered with
  | nil state => exact hgone
  | cons hhappens hrest ih =>
      obtain ⟨hfirst, hlater⟩ := List.forall_mem_cons.mp hforeign
      exact ih hlater (happens_gone hhappens hfirst hgone)

/-- The entry is there in the end unless it was removed. -/
theorem answered_kept_iff (hanswered : Answered SocketCall.Happens host exchanges final)
    (hforeign : ∀ exchange ∈ exchanges, descriptorOf exchange ≠ some binder)
    (hfound : host.entries path = some entry) (hkind : entry.kind = .socket binder) :
    final.entries path = some entry ↔ ∀ exchange ∈ exchanges, ¬ Removes path exchange := by
  induction hanswered with
  | nil state => exact iff_of_true hfound (List.forall_mem_nil _)
  | @cons state middle last call reply rest hhappens hrest ih =>
      obtain ⟨hfirst, hlater⟩ := List.forall_mem_cons.mp hforeign
      by_cases hremoves : Removes path ⟨call, reply⟩
      · refine iff_of_false (fun hend => ?_) fun hkept =>
          hkept _ List.mem_cons_self hremoves
        exact answered_gone hrest hlater (removed_gone hhappens hremoves) entry hend hkind
      · rw [ih hlater (happens_keeps hhappens hfound hremoves), List.forall_mem_cons,
          and_iff_right hremoves]

end Foreign

/-! ## What a call removes -/

section Removals

variable {server : UnixSocketServer} {host middle next final : SocketHost}
  {exchanges closing evicting listening : List SocketExchange} {path named : Bytes} {backlog : ℤ}
  {entry : PathEntry} {binder : SocketId}

/-- Neither names nor permissions change. -/
def SameNames (host next : SocketHost) : Prop :=
  next.entries = host.entries ∧ next.searchable = host.searchable ∧
    next.removable = host.removable

def Renames (exchange : SocketExchange) : Prop :=
  (∃ named, exchange.1 = .unlink named) ∨ ∃ fd address, exchange.1 = .bind fd address

theorem answered_sameNames (hanswered : Answered SocketCall.Happens host exchanges next)
    (hquiet : ∀ exchange ∈ exchanges, ¬ Renames exchange) : SameNames host next := by
  induction hanswered with
  | nil state => exact ⟨rfl, rfl, rfl⟩
  | cons hhappens hrest ih =>
      obtain ⟨hfirst, hlater⟩ := List.forall_mem_cons.mp hquiet
      obtain ⟨hentries, hsearchable, hremovable⟩ := ih hlater
      cases happens_names hhappens with
      | same _ hentries' hsearchable' hremovable' hkept =>
          exact ⟨hentries.trans hentries', hsearchable.trans hsearchable',
            hremovable.trans hremovable'⟩
      | removed named _ _ _ _ => exact absurd (.inl ⟨named, rfl⟩) hfirst
      | bound fd address identity _ _ => exact absurd (.inr ⟨fd, address, rfl⟩) hfirst

theorem answered_removable (hanswered : Answered SocketCall.Happens host exchanges next)
    (hunbound : ∀ exchange ∈ exchanges, ∀ fd address, exchange.1 ≠ .bind fd address) :
    next.removable = host.removable := by
  induction hanswered with
  | nil state => rfl
  | cons hhappens hrest ih =>
      obtain ⟨hfirst, hlater⟩ := List.forall_mem_cons.mp hunbound
      rw [ih hlater]
      cases happens_names hhappens with
      | same _ _ _ hremovable _ => exact hremovable
      | removed named _ _ hsame _ => exact hsame
      | bound fd address identity _ _ => exact absurd rfl (hfirst fd address)

theorem status_of_socket (hkind : entry.kind = .socket binder) :
    entry.status = ⟨true, entry.identity⟩ := by
  rw [PathEntry.status, hkind]

/-- The look at a reused inode finds what the server takes for its own socket. -/
theorem Reused.looked {reply : SystemResult FileStatus} (hreused : Reused server host path)
    (hnames : SameNames host middle)
    (hhappens : SocketCall.Happens middle (.lstat server.path) reply next) :
    ∃ status, reply = .ok status ∧ status.isSocket = true ∧
      status.identity = server.pathIdentity := by
  obtain ⟨hentries, hsearchable, _⟩ := hnames
  obtain ⟨_, _, rfl, entry, binder, hlive, _, hidentity, hsearch, _⟩ := hreused
  obtain ⟨_, hlooks⟩ := hhappens
  cases reply with
  | error errno =>
      rcases hlooks with hnone | ⟨hhidden, _⟩
      · rw [hentries, hlive.found] at hnone
        cases hnone
      · rw [hsearchable, hsearch] at hhidden
        cases hhidden
  | ok status =>
      obtain ⟨_, seen, hseen, rfl⟩ := hlooks
      rw [hentries, hlive.found] at hseen
      cases hseen
      rw [status_of_socket hlive.kind]
      exact ⟨_, rfl, rfl, hidentity⟩

/-- Nothing keeps the server from removing a reused inode. -/
theorem Reused.unlinked {reply : SystemResult Unit} (hreused : Reused server host path)
    (hnames : SameNames host middle)
    (hhappens : SocketCall.Happens middle (.unlink server.path) reply next) :
    reply = .ok () := by
  obtain ⟨hentries, _, hremovable⟩ := hnames
  obtain ⟨_, _, rfl, entry, binder, hlive, _, _, _, hremove⟩ := hreused
  cases reply with
  | ok => rfl
  | error errno =>
      obtain ⟨_, hnone | hkept⟩ := hhappens
      · rw [hentries, hlive.found] at hnone
        cases hnone
      · rw [hremovable, hremove] at hkept
        cases hkept

theorem look_not_removes (reply : SystemResult FileStatus) :
    ¬ ∃ exchange ∈ [lstatReplied named reply], Removes path exchange := by
  rintro ⟨exchange, hmem, hremoves⟩
  cases List.mem_singleton.mp hmem
  exact not_removes (fun other hcall => by cases hcall) path hremoves

theorem releases_removes_iff (hreleases : Releases server.path server.pathIdentity exchanges)
    (howns : server.ownsPath = true) (hnames : SameNames host middle)
    (hanswered : Answered SocketCall.Happens middle exchanges next)
    (hlive : host.Live path entry binder) (hserver : server.fd ≠ some binder) :
    (∃ exchange ∈ exchanges, Removes path exchange) ↔ Reused server host path := by
  cases hreleases with
  | unnamed hpath => exact iff_of_false (by simp) fun hreused => hreused.2.1 hpath
  | unknown hpath errno =>
      obtain ⟨_, hlook, _⟩ := answered_cons_iff.mp hanswered
      refine iff_of_false (look_not_removes _) fun hreused => ?_
      obtain ⟨status, hreply, _⟩ := hreused.looked hnames hlook
      cases hreply
  | other hpath status hother =>
      obtain ⟨_, hlook, _⟩ := answered_cons_iff.mp hanswered
      refine iff_of_false (look_not_removes _) fun hreused => ?_
      obtain ⟨_, hreply, hsocket, hidentity⟩ := hreused.looked hnames hlook
      cases hreply
      simp [hsocket, hidentity] at hother
  | own hpath status hsocket hidentity reply =>
      obtain ⟨_, hlook, hrest⟩ := answered_cons_iff.mp hanswered
      obtain ⟨rfl, hsearch, seen, hseen, rfl⟩ := hlook
      obtain ⟨_, hunlink, _⟩ := answered_cons_iff.mp hrest
      obtain ⟨hentries, hsearchable, hremovable⟩ := hnames
      constructor
      · rintro ⟨exchange, hmem, removed, rfl, rfl⟩
        rcases List.mem_cons.mp hmem with hlooked | hunlinked
        · cases hlooked
        cases List.mem_singleton.mp hunlinked
        rw [hentries, hlive.found] at hseen
        cases hseen
        rw [hsearchable] at hsearch
        obtain ⟨_, hremove, _⟩ := hunlink
        rw [hremovable] at hremove
        exact ⟨howns, hpath, rfl, entry, binder, hlive, hserver, hidentity, hsearch, hremove⟩
      · intro hreused
        cases hreused.unlinked ⟨hentries, hsearchable, hremovable⟩ hunlink
        exact ⟨_, List.mem_cons_of_mem _ List.mem_cons_self, server.path, hreused.2.2.1.symm, rfl⟩

theorem closes_removes_iff (hcloses : Closes server closing)
    (hanswered : Answered SocketCall.Happens host closing next)
    (hlive : host.Live path entry binder) (hserver : server.fd ≠ some binder) :
    (∃ exchange ∈ closing, Removes path exchange) ↔ Reused server host path := by
  obtain ⟨descriptor, released, hdescriptor, hreleased⟩ := hcloses
  obtain ⟨middle, hclosed, hreleasing⟩ := answered_append_iff.mp hanswered
  have hquiet : ∀ exchange ∈ descriptor, ¬ Renames exchange := by
    rcases hdescriptor with ⟨_, rfl⟩ | ⟨fd, reply, _, rfl⟩ <;> simp [Renames]
  have hremoved : (∃ exchange ∈ descriptor ++ released, Removes path exchange) ↔
      ∃ exchange ∈ released, Removes path exchange := by
    constructor
    · rintro ⟨exchange, hmem, hremoves⟩
      rcases List.mem_append.mp hmem with hmem | hmem
      · obtain ⟨named, _, rfl⟩ := hremoves
        exact absurd (.inl ⟨named, rfl⟩) (hquiet _ hmem)
      · exact ⟨exchange, hmem, hremoves⟩
    · rintro ⟨exchange, hmem, hremoves⟩
      exact ⟨exchange, List.mem_append_right descriptor hmem, hremoves⟩
  rw [hremoved]
  rcases hreleased with ⟨howns, rfl⟩ | ⟨howns, hreleases⟩
  · refine iff_of_false (by simp) fun hreused => ?_
    rw [hreused.1] at howns
    cases howns
  · exact releases_removes_iff hreleases howns (answered_sameNames hclosed hquiet) hreleasing
      hlive hserver

/-- Where nothing is unlinked and no probe fails, there is nothing to compare. -/
theorem removes_iff_of_quiet (hunlink : ∀ exchange ∈ exchanges, ∀ named, exchange.1 ≠ .unlink named)
    (hprobe : ∀ fd errno, connectReplied fd path (.error errno) ∉ exchanges) :
    (∃ exchange ∈ exchanges, Removes path exchange) ↔
      ∃ fd errno, connectReplied fd path (.error errno) ∈ exchanges ∧
        host.removable path = true := by
  refine iff_of_false ?_ ?_
  · rintro ⟨exchange, hmem, named, _, rfl⟩
    exact hunlink _ hmem named rfl
  · rintro ⟨fd, errno, hmem, _⟩
    exact hprobe fd errno hmem

theorem not_mem_of_calls (hcalls : ∀ exchange ∈ exchanges, ∀ fd address,
    exchange.1 ≠ .connect fd address) (fd : SocketId) (errno : Errno) :
    connectReplied fd path (.error errno) ∉ exchanges :=
  fun hmem => hcalls _ hmem fd path rfl

/-- An eviction follows on a probe that failed. -/
theorem evicts_removes_iff {error : Option ErrorText}
    (hevicts : Evicts named (cString named) evicting error)
    (hanswered : Answered SocketCall.Happens host evicting next)
    (hfound : host.entries path = some entry) :
    (∃ exchange ∈ evicting, Removes path exchange) ↔
      ∃ fd errno, connectReplied fd path (.error errno) ∈ evicting ∧
        host.removable path = true := by
  cases hevicts with
  | evicted status hstatus fd errno closed reply error =>
      obtain ⟨middle, hprobing, hrest⟩ := answered_append_iff.mp (show Answered _ _
        ([lstatReplied named (.ok status), socketReplied (.ok fd),
          connectReplied fd (cString named) (.error errno), closeReplied fd closed] ++
            [unlinkReplied named reply]) _ from hanswered)
      obtain ⟨hentries, _, hremovable⟩ := answered_sameNames hprobing (by simp [Renames])
      obtain ⟨_, hunlinks, _⟩ := answered_cons_iff.mp hrest
      constructor
      · rintro ⟨exchange, hmem, removed, rfl, rfl⟩
        simp only [List.mem_cons, List.not_mem_nil, or_false] at hmem
        rcases hmem with hmem | hmem | hmem | hmem | hmem <;> cases hmem
        obtain ⟨_, hremove, _⟩ := hunlinks
        rw [hremovable] at hremove
        exact ⟨fd, errno, by simp, hremove⟩
      · rintro ⟨probe, failed, hmem, hremove⟩
        simp only [List.mem_cons, List.not_mem_nil, or_false] at hmem
        rcases hmem with hmem | hmem | hmem | hmem | hmem <;> cases hmem
        cases reply with
        | ok => exact ⟨unlinkReplied named (.ok ()), by simp, named, rfl, rfl⟩
        | error errno =>
            obtain ⟨_, hnone | hkept⟩ := hunlinks
            · rw [hentries, hfound] at hnone
              cases hnone
            · rw [hremovable, hremove] at hkept
              cases hkept
  | active status hstatus fd closed =>
      refine removes_iff_of_quiet (by simp) fun probe errno hmem => ?_
      simp only [List.mem_cons, List.not_mem_nil, or_false] at hmem
      rcases hmem with hmem | hmem | hmem | hmem <;> cases hmem
  | _ => exact removes_iff_of_quiet (by simp) (not_mem_of_calls (by simp))

/-- Behind a `bind` that succeeds the path is the server's own. -/
theorem bind_elsewhere {fd : SocketId} {address : Bytes}
    (hhappens : SocketCall.Happens host (.bind fd address) (.ok ()) next)
    (hfound : host.entries path = some entry) : address ≠ path := by
  rintro rfl
  obtain ⟨rfl, _⟩ | ⟨_, hfree, _⟩ := hhappens
  · rw [host.named] at hfound
    cases hfound
  · rw [hfree] at hfound
    cases hfound

/-- Behind the eviction nothing is probed, and only the path itself is removed. -/
theorem ListensAt.calls {fd : SocketId} {address : Bytes}
    (hlistens : ListensAt fd named address backlog listening) :
    ∀ exchange ∈ listening, (∀ probe target, exchange.1 ≠ .connect probe target) ∧
      ∀ removed, exchange.1 = .unlink removed → removed = named := by
  cases hlistens with
  | refused status hstatus errno closed released hreleased =>
      intro exchange hmem
      simp only [List.mem_cons] at hmem
      rcases hmem with rfl | rfl | rfl | rfl | hmem
      · simp
      · simp
      · simp
      · simp
      · rcases hreleased.calls exchange hmem with hlook | hunlink
        · simp [hlook]
        · simp [hunlink]
  | _ => simp

theorem listensAt_not_removes {fd : SocketId}
    (hlistens : ListensAt fd named (cString named) backlog listening)
    (hanswered : Answered SocketCall.Happens host listening next)
    (hfound : host.entries path = some entry) :
    ∀ exchange ∈ listening, ¬ Removes path exchange := by
  rintro exchange hmem ⟨removed, hpath, rfl⟩
  obtain rfl := (hlistens.calls _ hmem).2 removed rfl
  cases hlistens with
  | unbound errno closed =>
      simp only [List.mem_cons, List.not_mem_nil, or_false] at hmem
      rcases hmem with hmem | hmem <;> cases hmem
  | unidentified look hlook closed reply =>
      obtain ⟨_, hbind, _⟩ := answered_cons_iff.mp hanswered
      exact bind_elsewhere hbind hfound hpath
  | refused status hstatus errno closed released hreleased =>
      obtain ⟨_, hbind, _⟩ := answered_cons_iff.mp hanswered
      exact bind_elsewhere hbind hfound hpath
  | listening status hstatus =>
      obtain ⟨_, hbind, _⟩ := answered_cons_iff.mp hanswered
      exact bind_elsewhere hbind hfound hpath

theorem Closes.calls (hcloses : Closes server closing) :
    ∀ exchange ∈ closing, (∀ fd address, exchange.1 ≠ .connect fd address) ∧
      ∀ fd address, exchange.1 ≠ .bind fd address := by
  obtain ⟨descriptor, released, hdescriptor, hreleased⟩ := hcloses
  intro exchange hmem
  rcases List.mem_append.mp hmem with hmem | hmem
  · rcases hdescriptor with ⟨_, rfl⟩ | ⟨fd, reply, _, rfl⟩
    · cases hmem
    · cases List.mem_singleton.mp hmem
      simp
  · rcases hreleased with ⟨_, rfl⟩ | ⟨_, hreleases⟩
    · cases hmem
    · rcases hreleases.calls exchange hmem with hcall | hcall <;> simp [hcall]

/-- What follows on the eviction neither probes nor removes the path. -/
theorem opening_removes_iff {fd : SocketId} {last : List SocketExchange}
    {error : Option ErrorText}
    (hevicts : Evicts named (cString named) evicting error)
    (hanswered : Answered SocketCall.Happens host (socketReplied (.ok fd) :: evicting ++ last)
      final)
    (hforeign : ∀ exchange ∈ evicting, descriptorOf exchange ≠ some binder)
    (hfound : host.entries path = some entry) (hkind : entry.kind = .socket binder)
    (hcalls : ∀ exchange ∈ last, ∀ probe target, exchange.1 ≠ .connect probe target)
    (hlast : ∀ middle, middle.entries path = some entry →
      Answered SocketCall.Happens middle last final → ∀ exchange ∈ last, ¬ Removes path exchange) :
    (∃ exchange ∈ socketReplied (.ok fd) :: evicting ++ last, Removes path exchange) ↔
      ∃ probe errno, connectReplied probe path (.error errno) ∈
          socketReplied (.ok fd) :: evicting ++ last ∧ host.removable path = true := by
  obtain ⟨middle, hopening, hlater⟩ := answered_append_iff.mp hanswered
  obtain ⟨opened, hsocket, hevicting⟩ := answered_cons_iff.mp hopening
  obtain ⟨hentries, _, hremovable⟩ := answered_sameNames (.cons hsocket (.nil opened))
    (by simp [Renames])
  rw [← hentries] at hfound
  have hevicted := evicts_removes_iff hevicts hevicting hfound
  constructor
  · rintro ⟨exchange, hmem, hremoves⟩
    have hin : ∃ exchange ∈ evicting, Removes path exchange := by
      by_contra hnone
      have hkept : ∀ exchange ∈ evicting, ¬ Removes path exchange :=
        fun exchange hmem hremoves => hnone ⟨exchange, hmem, hremoves⟩
      have hstays := (answered_kept_iff hevicting hforeign hfound hkind).mpr hkept
      rcases List.mem_append.mp hmem with hmem | hmem
      · rcases List.mem_cons.mp hmem with rfl | hmem
        · exact not_removes (by simp) path hremoves
        · exact hkept exchange hmem hremoves
      · exact hlast middle hstays hlater exchange hmem hremoves
    obtain ⟨probe, errno, hmem, hremove⟩ := hevicted.mp hin
    rw [hremovable] at hremove
    exact ⟨probe, errno, List.mem_append_left last (List.mem_cons_of_mem _ hmem), hremove⟩
  · rintro ⟨probe, errno, hmem, hremove⟩
    rw [← hremovable] at hremove
    rcases List.mem_append.mp hmem with hmem | hmem
    · rcases List.mem_cons.mp hmem with hopen | hmem
      · cases hopen
      · obtain ⟨exchange, hmem, hremoves⟩ := hevicted.mpr ⟨probe, errno, hmem, hremove⟩
        exact ⟨exchange, List.mem_append_left last (List.mem_cons_of_mem _ hmem), hremoves⟩
    · exact absurd rfl (hcalls _ hmem probe path)

/-- Behind `close`, the path goes if a probe of it fails. -/
theorem listensAfterClose_removes_iff (hlistens : ListensAfterClose named backlog exchanges)
    (hanswered : Answered SocketCall.Happens host exchanges final)
    (hforeign : ∀ exchange ∈ exchanges, descriptorOf exchange ≠ some binder)
    (hfound : host.entries path = some entry) (hkind : entry.kind = .socket binder) :
    (∃ exchange ∈ exchanges, Removes path exchange) ↔
      ∃ fd errno, connectReplied fd path (.error errno) ∈ exchanges ∧
        host.removable path = true := by
  cases hlistens with
  | unaddressed error herror => exact removes_iff_of_quiet (by simp) (by simp)
  | unopened errno => exact removes_iff_of_quiet (by simp) (not_mem_of_calls (by simp))
  | blocked fd evicting error closed hevicting =>
      refine opening_removes_iff hevicting hanswered (fun exchange hmem => hforeign exchange ?_)
        hfound hkind (by simp) fun middle _ _ exchange hmem => ?_
      · exact List.mem_append_left _ (List.mem_cons_of_mem _ hmem)
      · cases List.mem_singleton.mp hmem
        exact not_removes (by simp) path
  | cleared fd evicting listening hevicting hlistening =>
      have hprobes := fun exchange hmem => (hlistening.calls exchange hmem).1
      refine opening_removes_iff hevicting hanswered (fun exchange hmem => hforeign exchange ?_)
        hfound hkind hprobes fun middle hstays hlater => ?_
      · exact List.mem_append_left _ (List.mem_cons_of_mem _ hmem)
      · exact listensAt_not_removes hlistening hlater hstays

/-- What another process has open is removed for one of two reasons. -/
theorem listen_removes_iff (hcloses : Closes server closing)
    (hlistens : ListensAfterClose named backlog exchanges)
    (hanswered : Answered SocketCall.Happens host (closing ++ exchanges) final)
    (hlive : host.Live path entry binder) (hserver : server.fd ≠ some binder) :
    (∃ exchange ∈ closing ++ exchanges, Removes path exchange) ↔
      Reused server host path ∨ Misled server host (closing ++ exchanges) path := by
  have hforeign := answered_foreign [] hanswered (listen_descriptors hcloses hlistens) (by simp)
    hserver hlive.isOpen
  obtain ⟨middle, hclosing, hlistening⟩ := answered_append_iff.mp hanswered
  have hreleased := closes_removes_iff hcloses hclosing hlive hserver
  by_cases hreused : Reused server host path
  · obtain ⟨exchange, hmem, hremoves⟩ := hreleased.mpr hreused
    exact iff_of_true ⟨exchange, List.mem_append_left _ hmem, hremoves⟩ (.inl hreused)
  have hkept : ∀ exchange ∈ closing, ¬ Removes path exchange :=
    fun exchange hmem hremoves => hreused (hreleased.mp ⟨exchange, hmem, hremoves⟩)
  have hstays := (answered_kept_iff hclosing (fun exchange hmem => hforeign exchange
    (List.mem_append_left _ hmem)) hlive.found hlive.kind).mpr hkept
  have hremovable := answered_removable hclosing fun exchange hmem =>
    (hcloses.calls exchange hmem).2
  have hevicted := listensAfterClose_removes_iff hlistens hlistening (fun exchange hmem =>
    hforeign exchange (List.mem_append_right _ hmem)) hstays hlive.kind
  rw [hremovable] at hevicted
  constructor
  · rintro ⟨exchange, hmem, hremoves⟩
    rcases List.mem_append.mp hmem with hmem | hmem
    · exact absurd hremoves (hkept exchange hmem)
    · obtain ⟨fd, errno, hprobe, hremove⟩ := hevicted.mp ⟨exchange, hmem, hremoves⟩
      exact .inr ⟨fd, errno, entry, binder, List.mem_append_right _ hprobe, hlive, hserver, hremove⟩
  · rintro (hreuse | ⟨fd, errno, _, _, hprobe, _, _, hremove⟩)
    · exact absurd hreuse hreused
    rcases List.mem_append.mp hprobe with hprobe | hprobe
    · exact absurd rfl ((hcloses.calls _ hprobe).1 fd path)
    · obtain ⟨exchange, hmem, hremoves⟩ := hevicted.mpr ⟨fd, errno, hprobe, hremove⟩
      exact ⟨exchange, List.mem_append_right _ hmem, hremoves⟩

/-- `listen` leaves every live socket of another process its name unless a probe of one
fails, or the server's own path carries one under the recorded inode. -/
theorem live_sockets_kept_iff {answer : ObjectAnswer UnixSocketServer}
    (htranscript : Transcript (server.listen named backlog) exchanges answer)
    (hanswered : Answered SocketCall.Happens host exchanges final) :
    LiveKept server host final ↔
      ∀ path, ¬ Misled server host exchanges path ∧ ¬ Reused server host path := by
  obtain ⟨closing, rest, rfl, hcloses, hlistens⟩ := UnixSocketServer.listen_transcript htranscript
  have hkept : ∀ path entry binder, host.Live path entry binder → server.fd ≠ some binder →
      (final.entries path = some entry ↔
        ¬ Misled server host (closing ++ rest) path ∧ ¬ Reused server host path) := by
    intro path entry binder hlive hserver
    have hforeign := answered_foreign [] hanswered (listen_descriptors hcloses hlistens) (by simp)
      hserver hlive.isOpen
    have hremoves := listen_removes_iff hcloses hlistens hanswered hlive hserver
    rw [answered_kept_iff hanswered hforeign hlive.found hlive.kind, ← not_or, or_comm, ← hremoves]
    simp only [not_exists, not_and]
  constructor
  · intro hlive path
    constructor
    · intro hmisled
      obtain ⟨_, _, entry, binder, _, hfound, hserver, _⟩ := id hmisled
      exact ((hkept path entry binder hfound hserver).mp
        (hlive path entry binder hfound hserver)).1 hmisled
    · intro hreused
      obtain ⟨_, _, _, entry, binder, hfound, hserver, _⟩ := id hreused
      exact ((hkept path entry binder hfound hserver).mp
        (hlive path entry binder hfound hserver)).2 hreused
  · intro hnone path entry binder hlive hserver
    exact (hkept path entry binder hlive hserver).mpr (hnone path)

end Removals

/-! ## A datagram socket -/

/-- `/s` is a socket that another process has open. -/
def occupiedHost (type : SocketType) : SocketHost where
  entries := fun path => if path = [47, 115] then some ⟨⟨1, 2⟩, .socket 7, true⟩ else none
  sockets := fun fd => if fd = 7 then some ⟨type, true⟩ else none
  searchable := fun _ => true
  removable := fun _ => true
  named := rfl

theorem occupiedHost_live (type : SocketType) :
    (occupiedHost type).Live [47, 115] ⟨⟨1, 2⟩, .socket 7, true⟩ 7 where
  found := rfl
  kind := rfl
  isOpen := by simp [occupiedHost]

/-- What the server asks up to the reply to its probe. -/
def probed (reply : SystemResult Unit) : List SocketExchange :=
  [socketReplied (.ok 8), lstatReplied [47, 115] (.ok ⟨true, ⟨1, 2⟩⟩), socketReplied (.ok 9),
    connectReplied 9 [47, 115] reply, closeReplied 9 (.ok ())]

/-- The two sockets of the server are open while it probes. -/
def probingHost (type : SocketType) : SocketHost :=
  ((occupiedHost type).setSocket 8 (some ⟨.stream, false⟩)).setSocket 9 (some ⟨.stream, false⟩)

theorem probed_answered {type : SocketType} {reply : SystemResult Unit}
    (hreply : (probingHost type).Connects [47, 115] reply) :
    Answered SocketCall.Happens (occupiedHost type) (probed reply)
      ((probingHost type).setSocket 9 none) := by
  have hunused : ∀ (fd : SocketId) (path : Bytes) (entry : PathEntry), fd ≠ 7 →
      (occupiedHost type).entries path = some entry → entry.kind ≠ .socket fd := by
    intro fd path entry hfd hentry
    simp only [occupiedHost] at hentry
    split at hentry
    · cases hentry
      simpa using hfd.symm
    · cases hentry
  refine .cons ⟨rfl, fun path entry hentry => hunused 8 path entry (by decide) hentry, rfl⟩ ?_
  refine .cons ⟨rfl, rfl, _, rfl, rfl⟩ ?_
  refine .cons ⟨rfl, fun path entry hentry => hunused 9 path entry (by decide) hentry, rfl⟩ ?_
  exact .cons ⟨rfl, hreply⟩ (.cons rfl (.nil _))

/-- A listener that accepts the probe keeps its path. -/
theorem listener_kept :
    LiveKept .closed (occupiedHost .stream)
      (((probingHost .stream).setSocket 9 none).setSocket 8 none) := by
  have htranscript : Transcript (UnixSocketServer.closed.listen [47, 115] 4)
      (probed (.ok ()) ++ [closeReplied 8 (.ok ())])
      ⟨some (.message "bind failed: unix socket path already has an active listener"),
        .closed⟩ := by
    repeat refine .ask _ ?_
    exact .done _
  have hprobed : Answered SocketCall.Happens (occupiedHost .stream) (probed (.ok ()))
      ((probingHost .stream).setSocket 9 none) :=
    probed_answered (.inl ⟨_, 7, rfl, rfl, rfl, rfl⟩)
  have hanswered : Answered SocketCall.Happens (occupiedHost .stream)
      (probed (.ok ()) ++ [closeReplied 8 (.ok ())])
      (((probingHost .stream).setSocket 9 none).setSocket 8 none) :=
    answered_append_iff.mpr ⟨_, hprobed, .cons rfl (.nil _)⟩
  refine (live_sockets_kept_iff htranscript hanswered).mpr fun path => ⟨?_, ?_⟩
  · rintro ⟨fd, errno, entry, binder, hmem, _⟩
    simp only [probed, List.mem_append, List.mem_cons, List.not_mem_nil, or_false] at hmem
    rcases hmem with (hmem | hmem | hmem | hmem | hmem) | hmem <;> cases hmem
  · rintro ⟨howns, _⟩
    cases howns

/-- The probe of a datagram socket fails with `EPROTOTYPE`, and `listen` takes the path. -/
theorem datagram_socket_evicted :
    ¬ ∀ server named backlog host exchanges answer final,
      Transcript (UnixSocketServer.listen server named backlog) exchanges answer →
        Answered SocketCall.Happens host exchanges final → LiveKept server host final := by
  intro hall
  have htranscript : Transcript (UnixSocketServer.closed.listen [47, 115] 4)
      (probed (.error EPROTOTYPE) ++ [unlinkReplied [47, 115] (.ok ()),
        bindReplied 8 [47, 115] (.ok ()), lstatReplied [47, 115] (.ok ⟨true, ⟨1, 3⟩⟩),
        listenReplied 8 4 (.ok ())])
      ⟨none, ⟨some 8, [47, 115], ⟨1, 3⟩, true⟩⟩ := by
    repeat refine .ask _ ?_
    exact .done _
  have hprobed : Answered SocketCall.Happens (occupiedHost .datagram)
      (probed (.error EPROTOTYPE)) ((probingHost .datagram).setSocket 9 none) :=
    probed_answered (.inr ⟨fun herrno => absurd herrno (by decide),
      fun herrno => absurd herrno (by decide),
      fun _ => ⟨_, 7, ⟨.datagram, true⟩, rfl, rfl, rfl, by decide⟩,
      fun herrno => absurd herrno (by decide), fun herrno => absurd herrno (by decide)⟩)
  have hanswered : Answered SocketCall.Happens (occupiedHost .datagram)
      (probed (.error EPROTOTYPE) ++ [unlinkReplied [47, 115] (.ok ()),
        bindReplied 8 [47, 115] (.ok ()), lstatReplied [47, 115] (.ok ⟨true, ⟨1, 3⟩⟩),
        listenReplied 8 4 (.ok ())])
      (((((probingHost .datagram).setSocket 9 none).removeEntry [47, 115]).bindSocket 8 [47, 115]
        (by decide) ⟨1, 3⟩).setSocket 8 (some ⟨.stream, true⟩)) := by
    refine answered_append_iff.mpr ⟨_, hprobed, ?_⟩
    refine .cons ⟨Option.some_ne_none _, rfl, rfl⟩ ?_
    refine .cons (.inr ⟨by decide, rfl, ⟨1, 3⟩, rfl⟩) ?_
    refine .cons ⟨rfl, rfl, _, rfl, rfl⟩ ?_
    exact .cons ⟨⟨.stream, false⟩, rfl, rfl⟩ (.nil _)
  have hkept := hall _ _ _ _ _ _ _ htranscript hanswered _ _ _ (occupiedHost_live .datagram)
    (by simp [UnixSocketServer.closed])
  have hreplaced : some (PathEntry.mk ⟨1, 3⟩ (.socket 8) true) =
      some ⟨⟨1, 2⟩, .socket 7, true⟩ := hkept
  cases hreplaced

end ElapPlatform.Ipc
