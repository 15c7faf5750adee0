import ElapPlatform.UnixSocketInterleaving

/-!
# What a listening server may rely on

As long as calls do not disturb each other, nobody removes the file of a socket
that is still open.  Each call keeps this promise to the others: it removes a file
only after its socket was closed.
-/

namespace ElapPlatform.Ipc

open Interaction Interaction.Program RelyGuarantee

/-! ## One system call and the other servers -/

namespace SharedSockets

section Others

variable {index other : ℕ} {shared next : SharedSockets} {fd : SocketId} {path : Bytes}

theorem Leaves.refl : shared.Leaves index shared where
  owners := id
  sockets _ := rfl
  files _ _ := id
  watches := rfl
  decided _ := id
  released _ := id
  closed _ := id
  searchable := id

theorem Leaves.watching (hleaves : shared.Leaves other next) (hother : other ≠ index)
    (watch : Option Watch) : shared.Leaves other (next.watching index watch) where
  owners := hleaves.owners
  sockets := hleaves.sockets
  files := hleaves.files
  watches := (Function.update_of_ne hother ..).trans hleaves.watches
  decided := hleaves.decided
  released := hleaves.released
  closed := hleaves.closed
  searchable := hleaves.searchable

theorem Leaves.opens (hsound : shared.Sound) : shared.Leaves other (shared.opens index) := by
  have hold : ∀ {fd}, fd < shared.kernel.opened →
      (shared.opens index).kernel.sockets fd = shared.kernel.sockets fd :=
    fun hlt => Function.update_of_ne (Nat.ne_of_lt hlt) ..
  constructor
  · intro fd howned
    exact (Function.update_of_ne (Nat.ne_of_lt (hsound.owned howned)) ..).trans howned
  · exact fun howned => hold (hsound.owned howned)
  · exact fun _ _ hentry => hentry
  · rfl
  · exact fun _ hentry => hentry
  · exact fun _ hentry => hentry
  · exact fun hlt hclosed => (hold hlt).trans hclosed
  · exact id

/-- A socket is replaced, and no other server has it. -/
theorem Leaves.atSocket (howned : shared.owners fd = some index) (hother : other ≠ index)
    {kernel : SocketKernel} (hentries : kernel.entries = shared.kernel.entries)
    (hsearchable : kernel.searchable = shared.kernel.searchable)
    (hclosed : shared.kernel.sockets fd = none → kernel.sockets fd = none)
    (hsockets : ∀ fd', fd' ≠ fd → kernel.sockets fd' = shared.kernel.sockets fd') :
    shared.Leaves other (shared.atKernel kernel) := by
  have hforeign : ∀ {fd'}, shared.owners fd' = some other → fd' ≠ fd := by
    rintro fd' hfd' rfl
    exact hother (Option.some.inj (hfd'.symm.trans howned))
  constructor
  · exact id
  · exact fun hfd' => hsockets _ (hforeign hfd')
  · intro fd' path identity listening _ _ hentry
    rwa [← hentries] at hentry
  · rfl
  · intro path identity fd' _ hentry
    exact hentries ▸ hentry
  · intro path identity fd' _ hentry
    exact hentries ▸ hentry
  · intro fd' _ hnone
    by_cases hsame : fd' = fd
    · subst hsame
      exact hclosed hnone
    · exact (hsockets fd' hsame).trans hnone
  · intro path hpath
    exact hsearchable ▸ hpath

theorem Leaves.closes (howned : shared.owners fd = some index) (hother : other ≠ index) :
    shared.Leaves other (shared.atKernel (shared.kernel.closeSocket fd)) :=
  .atSocket howned hother rfl rfl (fun _ => Function.update_self ..)
    fun _ hne => Function.update_of_ne hne ..

theorem Leaves.listens (howned : shared.owners fd = some index) (hother : other ≠ index)
    {socket : OpenSocket} (hsocket : shared.kernel.sockets fd = some socket) :
    shared.Leaves other (shared.atKernel (shared.kernel.startListening fd socket)) :=
  .atSocket howned hother rfl rfl (fun hnone => nomatch hnone.symm.trans hsocket)
    fun _ hne => Function.update_of_ne hne ..

/-- A new file is nothing that an undisturbed call could mistake for an old one. -/
theorem Leaves.binds (howned : shared.owners fd = some index) (hother : other ≠ index)
    {socket : OpenSocket} (hsocket : shared.kernel.sockets fd = some socket)
    {identity : FileIdentity} (hfree : shared.kernel.entries path = none)
    (hundisturbed : ∀ watch ∈ shared.watches other,
      ¬ watch.Mistakes path (shared.kernel.bindSocket fd path identity)) :
    shared.Leaves other (shared.atKernel (shared.kernel.bindSocket fd path identity)) := by
  have hforeign : ∀ {fd'}, fd' ≠ fd →
      (shared.kernel.bindSocket fd path identity).sockets fd' = shared.kernel.sockets fd' :=
    fun hne => Function.update_of_ne hne ..
  have hnotOwned : ∀ {fd'}, shared.owners fd' = some other → fd' ≠ fd := by
    rintro fd' hfd' rfl
    exact hother (Option.some.inj (hfd'.symm.trans howned))
  have hnew : (shared.kernel.bindSocket fd path identity).entries path =
      some (.socket identity fd) := Function.update_self ..
  have hentry : ∀ {path' entry},
      (shared.kernel.bindSocket fd path identity).entries path' = some entry →
        path' = path ∨ shared.kernel.entries path' = some entry := by
    intro path' entry hentry
    rcases PartialMap.insert_eq_some_iff.mp hentry with ⟨hsame, _⟩ | ⟨_, hold⟩
    · exact .inl hsame
    · exact .inr hold
  constructor
  · exact id
  · exact fun hfd' => hforeign (hnotOwned hfd')
  · intro fd' path' identity' listening _ _ hold
    have hne : path' ≠ path := by
      rintro rfl
      rw [hfree] at hold
      cases hold
    exact (Function.update_of_ne hne ..).trans hold
  · rfl
  · intro path' identity' fd' hwatch hfound
    rcases hentry hfound with rfl | hold
    · exact absurd rfl (hundisturbed _ hwatch)
    · exact hold
  · intro path' identity' fd' hwatch hfound
    rcases hentry hfound with rfl | hold
    · exact absurd ⟨rfl, fd', hfound⟩ (hundisturbed _ hwatch)
    · exact hold
  · intro fd' _ hnone
    have hne : fd' ≠ fd := by
      rintro rfl
      rw [hsocket] at hnone
      cases hnone
    exact (hforeign hne).trans hnone
  · intro path' hpath
    by_cases hsame : path' = path
    · subst hsame
      exact Function.update_self ..
    · exact (Function.update_of_ne hsame ..).trans hpath

/-- A file without an open socket is removed. -/
theorem Leaves.removes
    (hdead : ∀ {identity fd}, shared.kernel.entries path = some (.socket identity fd) →
      shared.kernel.sockets fd = none) :
    shared.Leaves other (shared.atKernel (shared.kernel.removeEntry path)) := by
  have hentry : ∀ {path' entry}, (shared.kernel.removeEntry path).entries path' = some entry →
      shared.kernel.entries path' = some entry :=
    fun hentry => (PartialMap.erase_eq_some_iff.mp hentry).2
  constructor
  · exact id
  · exact fun _ => rfl
  · intro fd path' identity listening _ hsocket hfile
    have hne : path' ≠ path := by
      rintro rfl
      rw [hdead hfile] at hsocket
      cases hsocket
    exact (Function.update_of_ne hne ..).trans hfile
  · rfl
  · exact fun _ => hentry
  · exact fun _ => hentry
  · exact fun _ => id
  · exact id

end Others

/-! ## What holds of every state -/

section Sound

variable {index : ℕ} {shared next : SharedSockets}

theorem Sound.watching (hsound : shared.Sound) (watch : Option Watch) :
    (shared.watching index watch).Sound :=
  ⟨hsound.numbered, hsound.made, hsound.owned⟩

theorem Sound.opens (hsound : shared.Sound) : (shared.opens index).Sound where
  numbered := openSocket_numbered hsound.numbered
  made hentry := Nat.lt_succ_of_lt (hsound.made hentry)
  owned := by
    intro fd other howned
    rcases PartialMap.insert_eq_some_iff.mp howned with ⟨rfl, _⟩ | ⟨_, hold⟩
    · exact Nat.lt_succ_self _
    · exact Nat.lt_succ_of_lt (hsound.owned hold)

theorem Sound.closes (hsound : shared.Sound) (fd : SocketId) :
    (shared.atKernel (shared.kernel.closeSocket fd)).Sound :=
  ⟨closeSocket_numbered hsound.numbered, hsound.made, hsound.owned⟩

theorem Sound.binds (hsound : shared.Sound) {fd : SocketId} {path : Bytes}
    (hfd : fd < shared.kernel.opened) (hnamed : path ≠ []) (identity : FileIdentity) :
    (shared.atKernel (shared.kernel.bindSocket fd path identity)).Sound := by
  constructor
  · constructor
    · intro fd' socket hsocket
      rcases PartialMap.insert_eq_some_iff.mp hsocket with ⟨rfl, _⟩ | ⟨_, hold⟩
      · exact hfd
      · exact hsound.numbered.opened hold
    · exact (Function.update_of_ne hnamed.symm ..).trans hsound.numbered.named
  · intro path' identity' fd' hentry
    rcases PartialMap.insert_eq_some_iff.mp hentry with ⟨_, hnew⟩ | ⟨_, hold⟩
    · cases hnew
      exact hfd
    · exact hsound.made hold
  · exact hsound.owned

theorem Sound.listens (hsound : shared.Sound) {fd : SocketId} {socket : OpenSocket}
    (hsocket : shared.kernel.sockets fd = some socket) :
    (shared.atKernel (shared.kernel.startListening fd socket)).Sound := by
  refine ⟨⟨?_, hsound.numbered.named⟩, hsound.made, hsound.owned⟩
  intro fd' socket' hfound
  rcases PartialMap.insert_eq_some_iff.mp hfound with ⟨rfl, _⟩ | ⟨_, hold⟩
  · exact hsound.numbered.opened hsocket
  · exact hsound.numbered.opened hold

theorem Sound.removes (hsound : shared.Sound) (path : Bytes) :
    (shared.atKernel (shared.kernel.removeEntry path)).Sound where
  numbered := ⟨hsound.numbered.opened, PartialMap.erase_eq_none hsound.numbered.named⟩
  made hentry := hsound.made (PartialMap.erase_eq_some_iff.mp hentry).2
  owned := hsound.owned

end Sound

end SharedSockets

/-! ## The protocol and its assertions -/

def listenProtocol : Protocol SharedSockets SocketCall SocketCall.Reply where
  answers index shared call reply next :=
    shared.Answers index call reply next ∧ Undisturbed index shared next.kernel call reply
  invariant := SharedSockets.Sound
  rely := SharedSockets.Leaves

section Assertions

variable (index : ℕ)

/-- The server has opened these sockets and done nothing with them yet. -/
def Holds (fds : List SocketId) (shared : SharedSockets) : Prop :=
  ∀ fd ∈ fds, shared.owners fd = some index ∧
    shared.kernel.sockets fd = some ⟨none, false⟩

structure Bound (fd : SocketId) (path : Bytes) (identity : FileIdentity) (listening : Bool)
    (shared : SharedSockets) : Prop where
  owner : shared.owners fd = some index
  socket : shared.kernel.sockets fd = some ⟨some (path, identity), listening⟩
  file : shared.kernel.entries path = some (.socket identity fd)
  searchable : shared.kernel.searchable path = true

structure FileReleased (path : Bytes) (identity : FileIdentity) (shared : SharedSockets) :
    Prop where
  watch : shared.watches index = some (.released path identity)
  dead : ∀ {fd}, shared.kernel.entries path = some (.socket identity fd) →
    shared.kernel.sockets fd = none

structure RemovalDecided (path : Bytes) (shared : SharedSockets) : Prop where
  watch : shared.watches index = some (.decided path)
  dead : ∀ {identity fd}, shared.kernel.entries path = some (.socket identity fd) →
    shared.kernel.sockets fd = none

/-- A server between two calls. -/
def Serving (server : UnixSocketServer) (shared : SharedSockets) : Prop :=
  match server.fd with
  | some fd => server.ownsPath = true ∧
      Bound index fd (cString server.path) server.pathIdentity true shared
  | none => server.ownsPath = false

variable {index}

theorem holds_stable {fds : List SocketId} :
    listenProtocol.Stable index (Holds index fds) := by
  intro state next _ hholds hleaves fd hmem
  obtain ⟨howner, hsocket⟩ := hholds fd hmem
  exact ⟨hleaves.owners howner, (hleaves.sockets howner).trans hsocket⟩

theorem bound_stable {fd : SocketId} {path : Bytes} {identity : FileIdentity}
    {listening : Bool} :
    listenProtocol.Stable index (Bound index fd path identity listening) := by
  intro state next _ hbound hleaves
  exact ⟨hleaves.owners hbound.owner, (hleaves.sockets hbound.owner).trans hbound.socket,
    hleaves.files hbound.owner hbound.socket hbound.file,
    hleaves.searchable hbound.searchable⟩

theorem released_stable {path : Bytes} {identity : FileIdentity} :
    listenProtocol.Stable index (FileReleased index path identity) := by
  intro state next hsound hreleased hleaves
  refine ⟨hleaves.watches.trans hreleased.watch, fun hentry => ?_⟩
  have hold := hleaves.released hreleased.watch hentry
  exact hleaves.closed (hsound.made hold) (hreleased.dead hold)

theorem decided_stable {path : Bytes} :
    listenProtocol.Stable index (RemovalDecided index path) := by
  intro state next hsound hdecided hleaves
  refine ⟨hleaves.watches.trans hdecided.watch, fun hentry => ?_⟩
  have hold := hleaves.decided hdecided.watch hentry
  exact hleaves.closed (hsound.made hold) (hdecided.dead hold)

theorem serving_stable {server : UnixSocketServer} :
    listenProtocol.Stable index (Serving index server) := by
  intro state next hsound hserving hleaves
  unfold Serving at hserving ⊢
  cases hfd : server.fd with
  | none =>
      rw [hfd] at hserving
      exact hserving
  | some fd =>
      rw [hfd] at hserving
      exact ⟨hserving.1, bound_stable hsound hserving.2 hleaves⟩

/-- A failing probe that disturbs nobody found no open socket. -/
theorem decided_of_refused {shared : SharedSockets} {path : Bytes} {fd : SocketId}
    {reply : SystemResult Unit} (hfailed : reply.isOk = false)
    (hundisturbed : Undisturbed index shared shared.kernel (.connect fd path) reply) :
    RemovalDecided index path
      (shared.watching index (watchAfterProbe path (shared.watches index) reply)) := by
  cases reply with
  | ok => cases hfailed
  | error errno =>
      exact ⟨Function.update_self .., fun hentry => hundisturbed nofun _ _ hentry⟩

end Assertions

end ElapPlatform.Ipc
