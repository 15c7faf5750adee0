import ElapPlatform.UnixSocketStreamCalls

/-!
# What a failed receive leaves behind

The output string is resized before the payload is read.  When the stream breaks off
inside the payload, the string keeps that size and the bytes that had come.
-/

namespace ElapPlatform.Ipc

open Interaction

/-! ## Bytes that came -/

/-- The bytes that the answers to `::recv` have brought. -/
def receivedBytes : List StreamExchange → Bytes
  | [] => []
  | ⟨.recv _, .ok chunk⟩ :: rest => chunk ++ receivedBytes rest
  | _ :: rest => receivedBytes rest

/-- `::recv` stores no more bytes than it is asked for. -/
def FitsBuffers (exchanges : List StreamExchange) : Prop :=
  ∀ size chunk, (⟨.recv size, .ok chunk⟩ : StreamExchange) ∈ exchanges → chunk.length ≤ size

section Lists

variable {first last exchanges : List StreamExchange}

@[simp] theorem receivedBytes_append :
    receivedBytes (first ++ last) = receivedBytes first ++ receivedBytes last := by
  induction first using receivedBytes.induct with
  | case1 => rfl
  | case2 size chunk rest ih => simp [receivedBytes, ih]
  | case3 exchange rest hother ih =>
      rw [List.cons_append, receivedBytes, receivedBytes, ih]
      · exact hother
      · exact hother

theorem FitsBuffers.split (hfits : FitsBuffers (first ++ last)) :
    FitsBuffers first ∧ FitsBuffers last :=
  ⟨fun size chunk hmem => hfits size chunk (List.mem_append_left last hmem),
    fun size chunk hmem => hfits size chunk (List.mem_append_right first hmem)⟩

end Lists

/-- The wait for a descriptor brings no bytes. -/
theorem waitForDescriptor_brings_nothing {event : PollEvent} {deadline : ℤ} {operation : String}
    {polls : ℕ} {exchanges : List StreamExchange} {outcome : WaitOutcome}
    (htranscript : Transcript (Calls.waitForDescriptor event deadline operation polls)
      exchanges outcome) :
    receivedBytes exchanges = [] := by
  induction polls generalizing exchanges with
  | zero =>
      obtain ⟨rfl, _⟩ := transcript_done_iff.mp htranscript
      rfl
  | succ polls ih =>
      rw [Calls.waitForDescriptor_succ] at htranscript
      obtain ⟨now, _, rfl, hpoll⟩ := transcript_ask_iff.mp htranscript
      obtain ⟨answer, rest, rfl, hrest⟩ := transcript_ask_iff.mp hpoll
      cases hverdict : Calls.waitVerdict event operation answer with
      | some verdict =>
          rw [hverdict] at hrest
          obtain ⟨rfl, _⟩ := transcript_done_iff.mp hrest
          rfl
      | none =>
          rw [hverdict] at hrest
          exact @ih rest hrest

/-! ## Filling the buffer -/

/-- A loop stores the bytes that come, and is complete when they are as many as it wants. -/
structure Collects (size : ℕ) (exchanges : List StreamExchange) (result : Calls.ReadResult) :
    Prop where
  data : result.data = receivedBytes exchanges
  length_le : result.data.length ≤ size
  complete_iff : result.outcome = .complete ↔ result.data.length = size

section Loops

variable {size passes polls : ℕ} {deadline : ℤ} {exchanges waited : List StreamExchange}
  {result rest : Calls.ReadResult}

theorem Collects.nothing (hbytes : receivedBytes exchanges = []) :
    Collects 0 exchanges ⟨.complete, []⟩ := by
  refine ⟨hbytes.symm, le_rfl, ?_⟩
  simp

theorem Collects.stopped {outcome : Outcome} (hbytes : receivedBytes exchanges = [])
    (hincomplete : outcome ≠ .complete) : Collects (size + 1) exchanges ⟨outcome, []⟩ := by
  refine ⟨hbytes.symm, Nat.zero_le _, ?_⟩
  exact iff_of_false hincomplete (Nat.succ_ne_zero size).symm

theorem Collects.later (hbytes : receivedBytes waited = [])
    (hrest : Collects size exchanges result) : Collects size (waited ++ exchanges) result := by
  refine ⟨?_, hrest.length_le, hrest.complete_iff⟩
  rw [receivedBytes_append, hbytes, List.nil_append]
  exact hrest.data

theorem Collects.moved {chunk : Bytes} (hbytes : receivedBytes waited = chunk)
    (hfits : chunk.length ≤ size) (hrest : Collects (size - chunk.length) exchanges rest) :
    Collects size (waited ++ exchanges) ⟨rest.outcome, chunk ++ rest.data⟩ := by
  have hlength := hrest.length_le
  refine ⟨?_, ?_, ?_⟩
  · rw [receivedBytes_append, hbytes, ← hrest.data]
  · rw [List.length_append]
    omega
  · rw [List.length_append, hrest.complete_iff]
    omega

/-- What a pass brings. -/
theorem recvPass_brings {retried : List Errno} {reply : SystemResult Bytes} :
    receivedBytes [⟨.recv size, reply⟩] =
      match Calls.recvPass retried reply with
      | .moved chunk => chunk
      | _ => [] := by
  rcases reply with errno | (_ | ⟨byte, bytes⟩)
  · simp only [Calls.recvPass]
    split_ifs <;> rfl
  · rfl
  · simp [receivedBytes, Calls.recvPass]

theorem recvPass_moved_eq {retried : List Errno} {reply : SystemResult Bytes} {chunk : Bytes}
    (hpass : Calls.recvPass retried reply = .moved chunk) : reply = .ok chunk := by
  rcases reply with errno | (_ | ⟨byte, bytes⟩)
  · simp only [Calls.recvPass] at hpass
    split_ifs at hpass
  · cases hpass
  · cases hpass
    rfl

/-- One `::recv`, and the rest of the loop. -/
theorem Collects.pass {retried : List Errno} {read : ℕ → StreamProgram Calls.ReadResult}
    (hread : ∀ size exchanges result, FitsBuffers exchanges →
      Transcript (read size) exchanges result → Collects size exchanges result)
    (hfits : FitsBuffers exchanges)
    (htranscript : Transcript
      (.ask (StreamCall.recv (size + 1)) fun reply =>
        match Calls.recvPass retried reply with
        | .again => read (size + 1)
        | .failed error => .done ⟨.failed error, []⟩
        | .moved chunk =>
            read (size + 1 - chunk.length) >>= fun rest =>
              .done ⟨rest.outcome, chunk ++ rest.data⟩) exchanges result) :
    Collects (size + 1) exchanges result := by
  obtain ⟨reply, later, rfl, hrest⟩ := transcript_ask_iff.mp htranscript
  rw [← List.singleton_append] at hfits ⊢
  have hbrings := @recvPass_brings (size + 1) retried reply
  cases hpass : Calls.recvPass retried reply with
  | again =>
      rw [hpass] at hrest hbrings
      exact .later hbrings (hread _ _ _ hfits.split.2 hrest)
  | failed error =>
      rw [hpass] at hrest hbrings
      obtain ⟨rfl, rfl⟩ := transcript_done_iff.mp hrest
      exact .stopped hbrings Outcome.noConfusion
  | moved chunk =>
      rw [hpass] at hrest hbrings
      obtain ⟨first, last, rest, rfl, hfirst, hdone⟩ := transcript_bind_iff.mp hrest
      obtain ⟨rfl, rfl⟩ := transcript_done_iff.mp hdone
      rw [List.append_nil] at hfits ⊢
      have hchunk : chunk.length ≤ size + 1 :=
        hfits _ _ (by rw [recvPass_moved_eq hpass]; exact List.mem_cons_self)
      exact .moved hbrings hchunk (hread _ _ _ hfits.split.2 hfirst)

theorem readAll_collects (hfits : FitsBuffers exchanges)
    (htranscript : Transcript (Calls.readAll passes size) exchanges result) :
    Collects size exchanges result := by
  induction passes generalizing size exchanges result with
  | zero =>
      cases size with
      | zero =>
          obtain ⟨rfl, rfl⟩ := transcript_done_iff.mp htranscript
          exact .nothing rfl
      | succ size =>
          obtain ⟨rfl, rfl⟩ := transcript_done_iff.mp htranscript
          exact .stopped rfl Outcome.noConfusion
  | succ passes ih =>
      cases size with
      | zero =>
          obtain ⟨rfl, rfl⟩ := transcript_done_iff.mp htranscript
          exact .nothing rfl
      | succ size =>
          rw [Calls.readAll_succ] at htranscript
          exact .pass (fun _ _ _ hfits hread => ih hfits hread) hfits htranscript

theorem readAllTimed_collects (hfits : FitsBuffers exchanges)
    (htranscript : Transcript (Calls.readAllTimed deadline polls passes size) exchanges result) :
    Collects size exchanges result := by
  induction passes generalizing size exchanges result with
  | zero =>
      cases size with
      | zero =>
          obtain ⟨rfl, rfl⟩ := transcript_done_iff.mp htranscript
          exact .nothing rfl
      | succ size =>
          obtain ⟨rfl, rfl⟩ := transcript_done_iff.mp htranscript
          exact .stopped rfl Outcome.noConfusion
  | succ passes ih =>
      cases size with
      | zero =>
          obtain ⟨rfl, rfl⟩ := transcript_done_iff.mp htranscript
          exact .nothing rfl
      | succ size =>
          rw [Calls.readAllTimed_succ] at htranscript
          obtain ⟨waited, later, outcome, rfl, hwait, hrest⟩ :=
            transcript_bind_iff.mp htranscript
          have hnothing := waitForDescriptor_brings_nothing hwait
          cases outcome with
          | waiting =>
              obtain ⟨rfl, rfl⟩ := transcript_done_iff.mp hrest
              rw [List.append_nil]
              exact .stopped hnothing Outcome.noConfusion
          | failed error =>
              obtain ⟨rfl, rfl⟩ := transcript_done_iff.mp hrest
              rw [List.append_nil]
              exact .stopped hnothing Outcome.noConfusion
          | ready =>
              exact .later hnothing
                (.pass (fun _ _ _ hfits hread => ih hfits hread) hfits.split.2 hrest)

end Loops

/-! ## The output string -/

/-- The stream breaks off behind the header of a message that the receiver accepts. -/
def BreaksOff (maxSize : ℕ) (bytes : Bytes) : Prop :=
  4 ≤ bytes.length ∧ 0 < announcedSize bytes ∧ announcedSize bytes ≤ maxSize ∧
    bytes.length < 4 + announcedSize bytes

instance (maxSize : ℕ) (bytes : Bytes) : Decidable (BreaksOff maxSize bytes) :=
  inferInstanceAs (Decidable (_ ∧ _ ∧ _ ∧ _))

/-- A failed receive leaves the output string empty. -/
def EmptyOnFailure (result : Calls.ReceiveResult) : Prop :=
  result.outcome ≠ .complete → result.message = []

/-- One of the two overloads. -/
inductive ReceiveOverload where
  | untimed
  | timed (timeout : ℤ) (polls : ℕ)
  deriving DecidableEq, Repr

def ReceiveOverload.receive (connection : UnixSocketConnection) (maxSize passes : ℕ) :
    ReceiveOverload → StreamProgram Calls.ReceiveResult
  | .untimed => Calls.receiveMessage connection maxSize passes
  | .timed timeout polls => Calls.receiveMessageTimed connection maxSize timeout polls passes

/-- `std::string::clear` -/
def clear (message : Bytes) : Bytes := message.take 0

/-- On the string of the caller `message.clear()` comes first, in both overloads.  The rest
leaves the cleared string alone or makes it longer. -/
def ReceiveOverload.perform (connection : UnixSocketConnection) (message : Bytes)
    (maxSize passes : ℕ) (overload : ReceiveOverload) : StreamProgram Calls.ReceiveResult := do
  let cleared := clear message
  let result ← overload.receive connection maxSize passes
  return ⟨result.outcome, cleared ++ result.message⟩

section Output

variable {connection : UnixSocketConnection} {message : Bytes} {maxSize passes : ℕ}
  {exchanges first last : List StreamExchange} {result : Calls.ReceiveResult}

theorem perform_eq_receive (overload : ReceiveOverload) :
    overload.perform connection message maxSize passes =
      overload.receive connection maxSize passes := by
  have hreturns : (fun result : Calls.ReceiveResult =>
      (Program.done ⟨result.outcome, clear message ++ result.message⟩ :
        StreamProgram Calls.ReceiveResult)) = .done := by
    funext result
    rw [clear, List.take_zero, List.nil_append]
  change (overload.receive connection maxSize passes >>= fun result =>
    (Program.done ⟨result.outcome, clear message ++ result.message⟩ :
      StreamProgram Calls.ReceiveResult)) = _
  rw [hreturns, Program.bind_done]

theorem emptyOnFailure_of_refused {error : ErrorText} :
    EmptyOnFailure ⟨.failed error, []⟩ ↔ ¬ BreaksOff maxSize [] := by
  refine iff_of_true (fun _ => rfl) ?_
  rintro ⟨hlong, _⟩
  cases hlong

theorem Collects.announced {header : Calls.ReadResult} (hheader : Collects 4 first header)
    (hcomplete : header.outcome = .complete) :
    (receivedBytes first).length = 4 ∧
      announcedSize (receivedBytes (first ++ last)) = ntohl header.data := by
  have hlength := hheader.complete_iff.mp hcomplete
  rw [hheader.data] at hlength ⊢
  refine ⟨hlength, ?_⟩
  rw [announcedSize, receivedBytes_append, List.take_left' hlength]

/-- A header that is not read whole leaves the string as it was cleared. -/
theorem Collects.header_emptyOnFailure {header : Calls.ReadResult}
    (hheader : Collects 4 exchanges header) (hincomplete : header.outcome ≠ .complete) :
    EmptyOnFailure ⟨header.outcome, []⟩ ↔ ¬ BreaksOff maxSize (receivedBytes exchanges) := by
  refine iff_of_true (fun _ => rfl) ?_
  rintro ⟨hlong, _⟩
  have hlength := hheader.length_le
  have hfull : header.data.length ≠ 4 := mt hheader.complete_iff.mpr hincomplete
  rw [← hheader.data] at hlong
  omega

/-- The string has the announced size before the payload is read. -/
theorem Collects.payload_emptyOnFailure {header payload : Calls.ReadResult}
    (hheader : Collects 4 first header) (hcomplete : header.outcome = .complete)
    (hsize : ntohl header.data ≤ maxSize)
    (hpayload : Collects (ntohl header.data) last payload)
    (hreturned : payload.outcome ≠ .waiting) :
    EmptyOnFailure ⟨payload.outcome, Calls.overwritten (ntohl header.data) payload.data⟩ ↔
      ¬ BreaksOff maxSize (receivedBytes (first ++ last)) := by
  obtain ⟨hfour, hannounced⟩ := @Collects.announced first last header hheader hcomplete
  have hlength : (receivedBytes (first ++ last)).length = 4 + payload.data.length := by
    rw [receivedBytes_append, List.length_append, hfour, hpayload.data]
  have hstored := Calls.overwritten_length hpayload.length_le
  unfold BreaksOff
  rw [hannounced, hlength]
  cases houtcome : payload.outcome with
  | waiting => exact absurd houtcome hreturned
  | complete =>
      have hfull := hpayload.complete_iff.mp houtcome
      refine iff_of_true (fun hfailed => absurd rfl hfailed) ?_
      omega
  | failed error =>
      have hpartial : payload.data.length ≠ ntohl header.data := by
        intro hfull
        rw [hpayload.complete_iff.mpr hfull] at houtcome
        cases houtcome
      have hle := hpayload.length_le
      refine iff_of_false (fun hempty => ?_) ?_
      · have hnil : Calls.overwritten (ntohl header.data) payload.data = [] :=
          hempty Outcome.noConfusion
        rw [hnil, List.length_nil] at hstored
        omega
      · omega

/-- What the header and the payload come to. -/
theorem receivePayload_emptyOnFailure_iff {header : Calls.ReadResult}
    {read : ℕ → StreamProgram Calls.ReadResult} (hheader : Collects 4 first header)
    (hread : ∀ size exchanges result, FitsBuffers exchanges →
      Transcript (read size) exchanges result → Collects size exchanges result)
    (hfits : FitsBuffers last)
    (htranscript : Transcript (Calls.receivePayload maxSize read header) last result)
    (hreturned : result.outcome ≠ .waiting) :
    EmptyOnFailure result ↔ ¬ BreaksOff maxSize (receivedBytes (first ++ last)) := by
  unfold Calls.receivePayload at htranscript
  cases houtcome : header.outcome with
  | complete =>
      simp only [houtcome] at htranscript
      split_ifs at htranscript with hlarge
      · obtain ⟨rfl, rfl⟩ := transcript_done_iff.mp htranscript
        refine iff_of_true (fun _ => rfl) ?_
        rintro ⟨_, _, hsmall, _⟩
        rw [(hheader.announced houtcome).2] at hsmall
        omega
      · obtain ⟨middle, _, payload, rfl, hpayload, hdone⟩ := transcript_bind_iff.mp htranscript
        obtain ⟨rfl, rfl⟩ := transcript_done_iff.mp hdone
        rw [List.append_nil] at hfits ⊢
        exact hheader.payload_emptyOnFailure houtcome (not_lt.mp hlarge)
          (hread _ _ _ hfits hpayload) hreturned
  | failed error =>
      simp only [houtcome] at htranscript
      obtain ⟨rfl, rfl⟩ := transcript_done_iff.mp htranscript
      rw [List.append_nil, ← houtcome]
      exact hheader.header_emptyOnFailure (by simp [houtcome])
  | waiting =>
      simp only [houtcome] at htranscript
      obtain ⟨rfl, rfl⟩ := transcript_done_iff.mp htranscript
      exact absurd rfl hreturned

theorem receiveMessage_emptyOnFailure_iff (hfits : FitsBuffers exchanges)
    (htranscript : Transcript (Calls.receiveMessage connection maxSize passes) exchanges result)
    (hreturned : result.outcome ≠ .waiting) :
    EmptyOnFailure result ↔ ¬ BreaksOff maxSize (receivedBytes exchanges) := by
  by_cases hopen : connection.isOpen
  · rw [Calls.receiveMessage_of_open hopen] at htranscript
    obtain ⟨first, last, header, rfl, hheader, hrest⟩ := transcript_bind_iff.mp htranscript
    obtain ⟨hfirst, hlast⟩ := hfits.split
    exact receivePayload_emptyOnFailure_iff (readAll_collects hfirst hheader)
      (fun _ _ _ hfits hread => readAll_collects hfits hread) hlast hrest hreturned
  · rw [Calls.receiveMessage, if_pos hopen] at htranscript
    obtain ⟨rfl, rfl⟩ := transcript_done_iff.mp htranscript
    exact emptyOnFailure_of_refused

theorem receiveMessageTimed_emptyOnFailure_iff {timeout : ℤ} {polls : ℕ}
    (hfits : FitsBuffers exchanges)
    (htranscript : Transcript
      (Calls.receiveMessageTimed connection maxSize timeout polls passes) exchanges result)
    (hreturned : result.outcome ≠ .waiting) :
    EmptyOnFailure result ↔ ¬ BreaksOff maxSize (receivedBytes exchanges) := by
  by_cases hopen : connection.isOpen
  · by_cases htimeout : timeout < 0
    · rw [Calls.receiveMessageTimed, if_neg (not_not.mpr hopen), if_pos htimeout] at htranscript
      obtain ⟨rfl, rfl⟩ := transcript_done_iff.mp htranscript
      exact emptyOnFailure_of_refused
    · rw [Calls.receiveMessageTimed_of_accepted hopen (not_lt.mp htimeout)] at htranscript
      obtain ⟨start, later, rfl, hcall⟩ := transcript_ask_iff.mp htranscript
      obtain ⟨first, last, header, rfl, hheader, hrest⟩ := transcript_bind_iff.mp hcall
      rw [← List.singleton_append] at hfits
      obtain ⟨hfirst, hlast⟩ := hfits.split.2.split
      exact receivePayload_emptyOnFailure_iff (readAllTimed_collects hfirst hheader)
        (fun _ _ _ hfits hread => readAllTimed_collects hfits hread) hlast hrest hreturned
  · rw [Calls.receiveMessageTimed, if_pos hopen] at htranscript
    obtain ⟨rfl, rfl⟩ := transcript_done_iff.mp htranscript
    exact emptyOnFailure_of_refused

/-- A call that returned kept its promise if the bytes that came do not end inside an
accepted payload. -/
theorem failed_receive_leaves_nothing_iff {overload : ReceiveOverload}
    (hfits : FitsBuffers exchanges)
    (htranscript : Transcript (overload.perform connection message maxSize passes)
      exchanges result)
    (hreturned : result.outcome ≠ .waiting) :
    EmptyOnFailure result ↔ ¬ BreaksOff maxSize (receivedBytes exchanges) := by
  rw [perform_eq_receive] at htranscript
  cases overload with
  | untimed => exact receiveMessage_emptyOnFailure_iff hfits htranscript hreturned
  | timed timeout polls =>
      exact receiveMessageTimed_emptyOnFailure_iff hfits htranscript hreturned

end Output

/-! ## A payload that breaks off -/

/-- The peer announces three bytes, sends some of them and closes. -/
def brokenOff : List StreamExchange :=
  [⟨.recv 4, .ok [0, 0, 0, 3]⟩, ⟨.recv 3, .ok [104]⟩, ⟨.recv 2, .ok []⟩]

theorem brokenOff_transcript :
    Transcript (ReceiveOverload.untimed.perform ⟨4⟩ [] 16 4) brokenOff
      ⟨.failed (.message "receive failed: connection closed"), [104, 0, 0]⟩ := by
  have hheader : Transcript (Calls.readAll 4 4)
      [⟨.recv 4, .ok [0, 0, 0, 3]⟩] ⟨.complete, [0, 0, 0, 3]⟩ := .ask _ (.done _)
  have hpayload : Transcript (Calls.readAll 4 3)
      [⟨.recv 3, .ok [104]⟩, ⟨.recv 2, .ok []⟩]
      ⟨.failed (.message "receive failed: connection closed"), [104]⟩ :=
    .ask _ (.ask _ (.done _))
  rw [perform_eq_receive, ReceiveOverload.receive, Calls.receiveMessage_of_open (by decide)]
  refine transcript_bind_iff.mpr ⟨_, _, _, rfl, hheader, ?_⟩
  have hsize : ntohl [0, 0, 0, 3] = 3 := by decide
  simp only [Calls.receivePayload, hsize, gt_iff_lt, Nat.reduceLT, if_false]
  exact transcript_bind_iff.mpr ⟨_, [], _, rfl, hpayload, .done _⟩

/-- The peer closes inside the header. -/
def brokenHeader : List StreamExchange := [⟨.recv 4, .ok [0, 0]⟩, ⟨.recv 2, .ok []⟩]

theorem brokenHeader_transcript :
    Transcript (ReceiveOverload.untimed.perform ⟨4⟩ [120] 16 4) brokenHeader
      ⟨.failed (.message "receive failed: connection closed"), []⟩ := by
  have hheader : Transcript (Calls.readAll 4 4) brokenHeader
      ⟨.failed (.message "receive failed: connection closed"), [0, 0]⟩ :=
    .ask _ (.ask _ (.done _))
  rw [perform_eq_receive, ReceiveOverload.receive, Calls.receiveMessage_of_open (by decide)]
  exact transcript_bind_iff.mpr ⟨_, [], _, (List.append_nil _).symm, hheader, .done _⟩

theorem fitsBuffers_cons_iff {size : ℕ} {chunk : Bytes} {rest : List StreamExchange} :
    FitsBuffers (⟨.recv size, .ok chunk⟩ :: rest) ↔ chunk.length ≤ size ∧ FitsBuffers rest := by
  constructor
  · intro hfits
    exact ⟨hfits size chunk List.mem_cons_self,
      fun size' chunk' hmem => hfits size' chunk' (List.mem_cons_of_mem _ hmem)⟩
  · rintro ⟨hchunk, hrest⟩ size' chunk' hmem
    rcases List.mem_cons.mp hmem with hfirst | hmem
    · cases hfirst
      exact hchunk
    · exact hrest size' chunk' hmem

theorem fitsBuffers_nil : FitsBuffers [] := by
  intro size chunk hmem
  cases hmem

theorem brokenHeader_leaves_nothing :
    EmptyOnFailure ⟨.failed (.message "receive failed: connection closed"), []⟩ ∧
      receivedBytes brokenHeader = [0, 0] := by
  have hfits : FitsBuffers brokenHeader :=
    fitsBuffers_cons_iff.mpr ⟨by decide, fitsBuffers_cons_iff.mpr ⟨by decide, fitsBuffers_nil⟩⟩
  refine ⟨(failed_receive_leaves_nothing_iff hfits brokenHeader_transcript
    Outcome.noConfusion).mpr ?_, rfl⟩
  decide

/-- The string has three bytes, of which the peer has sent the first. -/
theorem brokenOff_leaves_bytes :
    ¬ ∀ (overload : ReceiveOverload) (connection : UnixSocketConnection) (message : Bytes)
        (maxSize passes : ℕ) exchanges result,
      Transcript (overload.perform connection message maxSize passes) exchanges result →
        FitsBuffers exchanges → result.outcome ≠ .waiting → EmptyOnFailure result := by
  intro hall
  have hfits : FitsBuffers brokenOff :=
    fitsBuffers_cons_iff.mpr ⟨by decide, fitsBuffers_cons_iff.mpr ⟨by decide,
      fitsBuffers_cons_iff.mpr ⟨by decide, fitsBuffers_nil⟩⟩⟩
  have hempty := hall _ _ _ _ _ _ _ brokenOff_transcript hfits Outcome.noConfusion
    Outcome.noConfusion
  cases hempty

end ElapPlatform.Ipc
