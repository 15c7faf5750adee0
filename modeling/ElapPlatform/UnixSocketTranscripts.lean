import ElapPlatform.InteractionTranscript
import ElapPlatform.UnixSocketServer

/-!
# What a socket server asks

The system calls of `listen` and `close` with their replies, one form for each way
through the code.  No reply is excluded: another process may have changed the
directory between any two of them.
-/

namespace ElapPlatform.Ipc

open Interaction Interaction.Program

abbrev SocketExchange := Exchange SocketCall SocketCall.Reply

section Exchanges

abbrev socketReplied (reply : SystemResult SocketId) : SocketExchange := ⟨.socket, reply⟩

abbrev lstatReplied (path : Bytes) (reply : SystemResult FileStatus) : SocketExchange :=
  ⟨.lstat path, reply⟩

abbrev connectReplied (fd : SocketId) (address : Bytes) (reply : SystemResult Unit) :
    SocketExchange :=
  ⟨.connect fd address, reply⟩

abbrev bindReplied (fd : SocketId) (address : Bytes) (reply : SystemResult Unit) :
    SocketExchange :=
  ⟨.bind fd address, reply⟩

abbrev listenReplied (fd : SocketId) (backlog : ℤ) (reply : SystemResult Unit) :
    SocketExchange :=
  ⟨.listen fd backlog, reply⟩

abbrev unlinkReplied (path : Bytes) (reply : SystemResult Unit) : SocketExchange :=
  ⟨.unlink path, reply⟩

abbrev closeReplied (fd : SocketId) (reply : SystemResult Unit) : SocketExchange :=
  ⟨.close fd, reply⟩

end Exchanges

/-! ## The helpers -/

/-- `unlinkOwnedSocketPath` -/
inductive Releases (path : Bytes) (identity : FileIdentity) : List SocketExchange → Prop
  | unnamed (hpath : path = []) : Releases path identity []
  | unknown (hpath : path ≠ []) (errno : Errno) :
      Releases path identity [lstatReplied path (.error errno)]
  | other (hpath : path ≠ []) (status : FileStatus)
      (hother : (status.isSocket && status.identity = identity) = false) :
      Releases path identity [lstatReplied path (.ok status)]
  | own (hpath : path ≠ []) (status : FileStatus) (hsocket : status.isSocket = true)
      (hidentity : status.identity = identity) (reply : SystemResult Unit) :
      Releases path identity [lstatReplied path (.ok status), unlinkReplied path reply]

/-- `removeStaleSocketPath` -/
inductive Evicts (path address : Bytes) : List SocketExchange → Option ErrorText → Prop
  | absent : Evicts path address [lstatReplied path (.error ENOENT)] none
  | unknown (errno : Errno) (herrno : errno ≠ ENOENT) :
      Evicts path address [lstatReplied path (.error errno)] (some (systemError "lstat" errno))
  | notSocket (status : FileStatus) (hstatus : status.isSocket = false) :
      Evicts path address [lstatReplied path (.ok status)]
        (some (.message "bind failed: path exists and is not a unix socket"))
  | unprobed (status : FileStatus) (hstatus : status.isSocket = true) (errno : Errno) :
      Evicts path address [lstatReplied path (.ok status), socketReplied (.error errno)]
        (some (.message "bind failed: unix socket path already has an active listener"))
  | active (status : FileStatus) (hstatus : status.isSocket = true) (fd : SocketId)
      (closed : SystemResult Unit) :
      Evicts path address [lstatReplied path (.ok status), socketReplied (.ok fd),
        connectReplied fd address (.ok ()), closeReplied fd closed]
        (some (.message "bind failed: unix socket path already has an active listener"))
  | evicted (status : FileStatus) (hstatus : status.isSocket = true) (fd : SocketId)
      (errno : Errno) (closed reply : SystemResult Unit) (error : Option ErrorText) :
      Evicts path address [lstatReplied path (.ok status), socketReplied (.ok fd),
        connectReplied fd address (.error errno), closeReplied fd closed,
        unlinkReplied path reply] error

/-- `listen` from the `bind` of its socket on. -/
inductive ListensAt (fd : SocketId) (path address : Bytes) (backlog : ℤ) :
    List SocketExchange → Prop
  | unbound (errno : Errno) (closed : SystemResult Unit) :
      ListensAt fd path address backlog
        [bindReplied fd address (.error errno), closeReplied fd closed]
  | unidentified (look : SystemResult FileStatus)
      (hlook : ∀ status, look = .ok status → status.isSocket = false)
      (closed reply : SystemResult Unit) :
      ListensAt fd path address backlog [bindReplied fd address (.ok ()),
        lstatReplied path look, closeReplied fd closed, unlinkReplied path reply]
  | refused (status : FileStatus) (hstatus : status.isSocket = true) (errno : Errno)
      (closed : SystemResult Unit) (released : List SocketExchange)
      (hreleased : Releases path status.identity released) :
      ListensAt fd path address backlog (bindReplied fd address (.ok ()) ::
        lstatReplied path (.ok status) :: listenReplied fd backlog (.error errno) ::
          closeReplied fd closed :: released)
  | listening (status : FileStatus) (hstatus : status.isSocket = true) :
      ListensAt fd path address backlog [bindReplied fd address (.ok ()),
        lstatReplied path (.ok status), listenReplied fd backlog (.ok ())]

/-- `close`: the descriptor first, then the path. -/
inductive Closes (server : UnixSocketServer) : List SocketExchange → Prop
  | closes (closing released : List SocketExchange)
      (hclosing : (server.fd = none ∧ closing = []) ∨
        ∃ fd reply, server.fd = some fd ∧ closing = [closeReplied fd reply])
      (hreleased : (server.ownsPath = false ∧ released = []) ∨
        (server.ownsPath = true ∧ Releases server.path server.pathIdentity released)) :
      Closes server (closing ++ released)

/-- `listen` behind its `close`. -/
inductive ListensAfterClose (path : Bytes) (backlog : ℤ) : List SocketExchange → Prop
  | unaddressed (error : ErrorText) (herror : fillAddress path = .error error) :
      ListensAfterClose path backlog []
  | unopened (errno : Errno) : ListensAfterClose path backlog [socketReplied (.error errno)]
  | blocked (fd : SocketId) (evicting : List SocketExchange) (error : ErrorText)
      (closed : SystemResult Unit) (hevicting : Evicts path (cString path) evicting (some error)) :
      ListensAfterClose path backlog
        (socketReplied (.ok fd) :: evicting ++ [closeReplied fd closed])
  | cleared (fd : SocketId) (evicting listening : List SocketExchange)
      (hevicting : Evicts path (cString path) evicting none)
      (hlistening : ListensAt fd path (cString path) backlog listening) :
      ListensAfterClose path backlog (socketReplied (.ok fd) :: evicting ++ listening)

section Transcripts

variable {exchanges : List SocketExchange}

theorem Releases.calls {path : Bytes} {identity : FileIdentity}
    (hreleases : Releases path identity exchanges) :
    ∀ exchange ∈ exchanges, exchange.1 = .lstat path ∨ exchange.1 = .unlink path := by
  cases hreleases <;> simp

theorem unlinkOwnedSocketPath_transcript {path : Bytes} {identity : FileIdentity} {result : Unit}
    (htranscript : Transcript (unlinkOwnedSocketPath path identity) exchanges result) :
    Releases path identity exchanges := by
  unfold unlinkOwnedSocketPath at htranscript
  split at htranscript
  next hempty =>
    obtain ⟨rfl, _⟩ := transcript_done_iff.mp htranscript
    exact .unnamed (List.isEmpty_iff.mp hempty)
  next hnonempty =>
    have hpath : path ≠ [] := fun hnil => hnonempty (List.isEmpty_iff.mpr hnil)
    obtain ⟨looking, rest, reply, rfl, hlook, hrest⟩ := transcript_bind_iff.mp htranscript
    obtain rfl := transcript_perform_iff.mp hlook
    cases reply with
    | error errno =>
        obtain ⟨rfl, _⟩ := transcript_done_iff.mp hrest
        exact .unknown hpath errno
    | ok status =>
        dsimp only at hrest
        split at hrest
        next hown =>
          rw [Bool.and_eq_true, decide_eq_true_eq] at hown
          obtain ⟨unlinking, _, reply, rfl, hunlink, hdone⟩ := transcript_bind_iff.mp hrest
          obtain rfl := transcript_perform_iff.mp hunlink
          obtain ⟨rfl, _⟩ := transcript_done_iff.mp hdone
          exact .own hpath status hown.1 hown.2 reply
        next hother =>
          obtain ⟨rfl, _⟩ := transcript_done_iff.mp hrest
          exact .other hpath status (Bool.eq_false_iff.mpr hother)

theorem removeStaleSocketPath_transcript {path address : Bytes} {error : Option ErrorText}
    (htranscript : Transcript (removeStaleSocketPath path address) exchanges error) :
    Evicts path address exchanges error := by
  unfold removeStaleSocketPath at htranscript
  obtain ⟨looking, rest, look, rfl, hlook, hrest⟩ := transcript_bind_iff.mp htranscript
  obtain rfl := transcript_perform_iff.mp hlook
  cases look with
  | error errno =>
      dsimp only at hrest
      split at hrest
      next habsent =>
        obtain ⟨rfl, rfl⟩ := transcript_done_iff.mp hrest
        subst habsent
        exact .absent
      next hunknown =>
        obtain ⟨rfl, rfl⟩ := transcript_done_iff.mp hrest
        exact .unknown errno hunknown
  | ok status =>
      dsimp only at hrest
      split at hrest
      next hother =>
        obtain ⟨rfl, rfl⟩ := transcript_done_iff.mp hrest
        exact .notSocket status (by simpa using hother)
      next hsocket =>
        have hstatus : status.isSocket = true := by simpa using hsocket
        obtain ⟨probing, rest, active, rfl, hprobe, hrest⟩ := transcript_bind_iff.mp hrest
        unfold socketHasActiveListener at hprobe
        obtain ⟨asking, probed, opened, rfl, hasking, hprobed⟩ := transcript_bind_iff.mp hprobe
        obtain rfl := transcript_perform_iff.mp hasking
        cases opened with
        | error errno =>
            obtain ⟨rfl, rfl⟩ := transcript_done_iff.mp hprobed
            obtain ⟨rfl, rfl⟩ := transcript_done_iff.mp hrest
            exact .unprobed status hstatus errno
        | ok fd =>
            obtain ⟨connecting, _, connected, rfl, hconnect, hclosing⟩ :=
              transcript_bind_iff.mp hprobed
            obtain rfl := transcript_perform_iff.mp hconnect
            obtain ⟨closing, _, closed, rfl, hclose, hdone⟩ := transcript_bind_iff.mp hclosing
            obtain rfl := transcript_perform_iff.mp hclose
            obtain ⟨rfl, rfl⟩ := transcript_done_iff.mp hdone
            cases connected with
            | ok =>
                obtain ⟨rfl, rfl⟩ := transcript_done_iff.mp hrest
                exact .active status hstatus fd closed
            | error errno =>
                obtain ⟨unlinking, last, reply, rfl, hunlink, hlast⟩ :=
                  transcript_bind_iff.mp hrest
                obtain rfl := transcript_perform_iff.mp hunlink
                have hnil : last = [] := by
                  cases reply with
                  | ok => exact (transcript_done_iff.mp hlast).1
                  | error errno =>
                      dsimp only at hlast
                      split at hlast <;> exact (transcript_done_iff.mp hlast).1
                subst hnil
                exact .evicted status hstatus fd errno closed reply error

theorem loadSocketPathIdentity_transcript {path : Bytes}
    {loaded : Except ErrorText FileIdentity}
    (htranscript : Transcript (loadSocketPathIdentity path) exchanges loaded) :
    ∃ look, exchanges = [lstatReplied path look] ∧
      ((∃ status, look = .ok status ∧ status.isSocket = true ∧ loaded = .ok status.identity) ∨
        ((∀ status, look = .ok status → status.isSocket = false) ∧
          ∃ error, loaded = .error error)) := by
  unfold loadSocketPathIdentity at htranscript
  obtain ⟨looking, rest, look, rfl, hlook, hrest⟩ := transcript_bind_iff.mp htranscript
  obtain rfl := transcript_perform_iff.mp hlook
  cases look with
  | error errno =>
      obtain ⟨rfl, rfl⟩ := transcript_done_iff.mp hrest
      exact ⟨_, rfl, .inr ⟨(fun status hstatus => by cases hstatus), _, rfl⟩⟩
  | ok status =>
      dsimp only at hrest
      split at hrest
      next hother =>
        obtain ⟨rfl, rfl⟩ := transcript_done_iff.mp hrest
        refine ⟨_, rfl, .inr ⟨fun found hfound => ?_, _, rfl⟩⟩
        cases hfound
        simpa using hother
      next hsocket =>
        obtain ⟨rfl, rfl⟩ := transcript_done_iff.mp hrest
        exact ⟨_, rfl, .inl ⟨status, rfl, by simpa using hsocket, rfl⟩⟩

namespace UnixSocketServer

variable {server : UnixSocketServer}

theorem close_transcript {after : UnixSocketServer}
    (htranscript : Transcript server.close exchanges after) : Closes server exchanges := by
  unfold UnixSocketServer.close at htranscript
  obtain ⟨closing, rest, _, rfl, hclosing, hrest⟩ := transcript_bind_iff.mp htranscript
  have hdescriptor : (server.fd = none ∧ closing = []) ∨
      ∃ fd reply, server.fd = some fd ∧ closing = [closeReplied fd reply] := by
    unfold closeFd at hclosing
    split at hclosing
    next fd hfd =>
      obtain ⟨asking, _, reply, rfl, hclose, hdone⟩ := transcript_bind_iff.mp hclosing
      obtain rfl := transcript_perform_iff.mp hclose
      obtain ⟨rfl, _⟩ := transcript_done_iff.mp hdone
      exact .inr ⟨fd, reply, hfd, rfl⟩
    next hfd =>
      obtain ⟨rfl, _⟩ := transcript_done_iff.mp hclosing
      exact .inl ⟨hfd, rfl⟩
  refine .closes closing rest hdescriptor ?_
  split at hrest
  next howns =>
    obtain ⟨releasing, _, _, rfl, hrelease, hdone⟩ := transcript_bind_iff.mp hrest
    obtain ⟨rfl, _⟩ := transcript_done_iff.mp hdone
    rw [List.append_nil]
    exact .inr ⟨howns, unlinkOwnedSocketPath_transcript hrelease⟩
  next howns =>
    obtain ⟨rfl, _⟩ := transcript_done_iff.mp hrest
    exact .inl ⟨Bool.eq_false_iff.mpr howns, rfl⟩

theorem listenAt_transcript {fd : SocketId} {path address : Bytes} {backlog : ℤ}
    {answer : ObjectAnswer UnixSocketServer}
    (htranscript : Transcript (server.listenAt fd path address backlog) exchanges answer) :
    ListensAt fd path address backlog exchanges := by
  unfold listenAt at htranscript
  obtain ⟨binding, rest, bound, rfl, hbind, hrest⟩ := transcript_bind_iff.mp htranscript
  obtain rfl := transcript_perform_iff.mp hbind
  cases bound with
  | error errno =>
      obtain ⟨closing, _, closed, rfl, hclose, hdone⟩ := transcript_bind_iff.mp hrest
      obtain rfl := transcript_perform_iff.mp hclose
      obtain ⟨rfl, _⟩ := transcript_done_iff.mp hdone
      exact .unbound errno closed
  | ok =>
      obtain ⟨loading, rest, loaded, rfl, hload, hloaded⟩ := transcript_bind_iff.mp hrest
      obtain ⟨look, rfl, ⟨status, rfl, hstatus, rfl⟩ | ⟨hlook, error, rfl⟩⟩ :=
        loadSocketPathIdentity_transcript hload
      · obtain ⟨listening, rest, listened, rfl, hlisten, hlast⟩ := transcript_bind_iff.mp hloaded
        obtain rfl := transcript_perform_iff.mp hlisten
        cases listened with
        | error errno =>
            obtain ⟨closing, rest, closed, rfl, hclose, hended⟩ := transcript_bind_iff.mp hlast
            obtain rfl := transcript_perform_iff.mp hclose
            obtain ⟨releasing, _, _, rfl, hrelease, hdone⟩ := transcript_bind_iff.mp hended
            obtain ⟨rfl, _⟩ := transcript_done_iff.mp hdone
            rw [List.append_nil]
            exact .refused status hstatus errno closed releasing
              (unlinkOwnedSocketPath_transcript hrelease)
        | ok =>
            obtain ⟨rfl, _⟩ := transcript_done_iff.mp hlast
            exact .listening status hstatus
      · obtain ⟨closing, rest, closed, rfl, hclose, hended⟩ := transcript_bind_iff.mp hloaded
        obtain rfl := transcript_perform_iff.mp hclose
        obtain ⟨unlinking, _, reply, rfl, hunlink, hdone⟩ := transcript_bind_iff.mp hended
        obtain rfl := transcript_perform_iff.mp hunlink
        obtain ⟨rfl, _⟩ := transcript_done_iff.mp hdone
        exact .unidentified look hlook closed reply

theorem listen_transcript {path : Bytes} {backlog : ℤ} {answer : ObjectAnswer UnixSocketServer}
    (htranscript : Transcript (server.listen path backlog) exchanges answer) :
    ∃ closing rest, exchanges = closing ++ rest ∧ Closes server closing ∧
      ListensAfterClose path backlog rest := by
  unfold UnixSocketServer.listen at htranscript
  obtain ⟨closing, rest, after, rfl, hclose, hrest⟩ := transcript_bind_iff.mp htranscript
  refine ⟨closing, rest, rfl, close_transcript hclose, ?_⟩
  cases haddress : fillAddress path with
  | error error =>
      rw [haddress] at hrest
      obtain ⟨rfl, _⟩ := transcript_done_iff.mp hrest
      exact .unaddressed error haddress
  | ok address =>
      have hpath : address = cString path := by
        unfold fillAddress at haddress
        split at haddress
        · cases haddress
        split at haddress
        · cases haddress
        · exact (Except.ok.inj haddress).symm
      rw [haddress] at hrest
      subst hpath
      obtain ⟨opening, rest, opened, rfl, hopen, hopened⟩ := transcript_bind_iff.mp hrest
      obtain rfl := transcript_perform_iff.mp hopen
      cases opened with
      | error errno =>
          obtain ⟨rfl, _⟩ := transcript_done_iff.mp hopened
          exact .unopened errno
      | ok fd =>
          obtain ⟨evicting, rest, error, rfl, hevict, hlast⟩ := transcript_bind_iff.mp hopened
          have hevicts := removeStaleSocketPath_transcript hevict
          cases error with
          | some error =>
              obtain ⟨closing, _, closed, rfl, hclose, hdone⟩ := transcript_bind_iff.mp hlast
              obtain rfl := transcript_perform_iff.mp hclose
              obtain ⟨rfl, _⟩ := transcript_done_iff.mp hdone
              exact .blocked fd evicting error closed hevicts
          | none => exact .cleared fd evicting rest hevicts (listenAt_transcript hlast)

end UnixSocketServer

end Transcripts

end ElapPlatform.Ipc
