import ElapPlatform.InteractionInterpretation
import ElapPlatform.UnixSocketPartialMessages

/-!
# The bytes that a call moves

What a transfer loop hands to the kernel or takes from it, and what makes a loop without a
deadline stop early.
-/

namespace ElapPlatform.Ipc

open Interaction Interaction.Program

/-! ## Bytes that went -/

/-- The bytes that the kernel has taken in its answers to `::send`. -/
def sentBytes : List StreamExchange → Bytes
  | [] => []
  | ⟨.send bytes, .ok count⟩ :: rest => bytes.take count ++ sentBytes rest
  | _ :: rest => sentBytes rest

/-- The calls that a signal has interrupted. -/
def interruptions (exchanges : List StreamExchange) : ℕ :=
  exchanges.countP fun exchange =>
    match exchange with
    | ⟨.recv _, .error errno⟩ => errno = EINTR
    | _ => false

def StreamCall.IsSend (call : StreamCall) : Prop := ∃ bytes, call = .send bytes

def StreamCall.IsRecv (call : StreamCall) : Prop := ∃ size, call = .recv size

/-- A transfer fails at the level of the socket. -/
def SocketFailure (exchange : StreamExchange) : Prop :=
  ∃ errno, errno ≠ EINTR ∧
    ((∃ bytes, exchange = ⟨.send bytes, .error errno⟩) ∨
      ∃ size, exchange = ⟨.recv size, .error errno⟩)

/-- `::recv` finds the end of the stream. -/
def EndOfStream (exchange : StreamExchange) : Prop := ∃ size, exchange = ⟨.recv size, .ok []⟩

section Lists

variable {first last exchanges : List StreamExchange}

@[simp] theorem sentBytes_append :
    sentBytes (first ++ last) = sentBytes first ++ sentBytes last := by
  induction first using sentBytes.induct with
  | case1 => rfl
  | case2 bytes count rest ih => simp [sentBytes, ih]
  | case3 exchange rest hother ih =>
      rw [List.cons_append, sentBytes, sentBytes, ih]
      · exact hother
      · exact hother

@[simp] theorem interruptions_append :
    interruptions (first ++ last) = interruptions first + interruptions last :=
  List.countP_append

theorem sentBytes_eq_nil (hnone : ∀ exchange ∈ exchanges, ¬ exchange.1.IsSend) :
    sentBytes exchanges = [] := by
  induction exchanges using sentBytes.induct with
  | case1 => rfl
  | case2 bytes count rest ih => exact absurd ⟨bytes, rfl⟩ (hnone _ List.mem_cons_self)
  | case3 exchange rest hother ih =>
      rw [sentBytes]
      · exact ih fun later hmem => hnone later (List.mem_cons_of_mem _ hmem)
      · exact hother

theorem receivedBytes_eq_nil (hnone : ∀ exchange ∈ exchanges, ¬ exchange.1.IsRecv) :
    receivedBytes exchanges = [] := by
  induction exchanges using receivedBytes.induct with
  | case1 => rfl
  | case2 size chunk rest ih => exact absurd ⟨size, rfl⟩ (hnone _ List.mem_cons_self)
  | case3 exchange rest hother ih =>
      rw [receivedBytes]
      · exact ih fun later hmem => hnone later (List.mem_cons_of_mem _ hmem)
      · exact hother

end Lists

/-! ## What the loops ask -/

section Questions

variable {permitted : StreamCall → Prop}

theorem waitForDescriptor_asksOnly (event : PollEvent) (deadline : ℤ) (operation : String)
    (polls : ℕ) (hnow : permitted .now) (hpoll : ∀ timeout, permitted (.poll event timeout)) :
    (Calls.waitForDescriptor event deadline operation polls).AsksOnly permitted := by
  induction polls with
  | zero => exact asksOnly_done
  | succ polls ih =>
      rw [Calls.waitForDescriptor_succ]
      refine ⟨hnow, fun now => ⟨hpoll _, fun answer => ?_⟩⟩
      dsimp only
      cases Calls.waitVerdict event operation answer with
      | some outcome => exact asksOnly_done
      | none => exact ih

/-- One `::send` with what comes behind it. -/
theorem sendPass_asksOnly {retried : List Errno} {bytes : Bytes} {again : StreamProgram Outcome}
    {moved : ℕ → StreamProgram Outcome} (hsend : permitted (.send bytes))
    (hagain : again.AsksOnly permitted) (hmoved : ∀ count, (moved count).AsksOnly permitted) :
    (Program.ask (StreamCall.send bytes) fun reply =>
      match Calls.sendPass retried reply with
      | .again => again
      | .failed error => .done (.failed error)
      | .moved count => moved count).AsksOnly permitted := by
  refine ⟨hsend, fun reply => ?_⟩
  dsimp only
  cases Calls.sendPass retried reply with
  | again => exact hagain
  | failed error => exact asksOnly_done
  | moved count => exact hmoved count

theorem recvPass_asksOnly {retried : List Errno} {size : ℕ}
    {again : StreamProgram Calls.ReadResult} {moved : Bytes → StreamProgram Calls.ReadResult}
    (hrecv : permitted (.recv size)) (hagain : again.AsksOnly permitted)
    (hmoved : ∀ chunk, (moved chunk).AsksOnly permitted) :
    (Program.ask (StreamCall.recv size) fun reply =>
      match Calls.recvPass retried reply with
      | .again => again
      | .failed error => .done ⟨.failed error, []⟩
      | .moved chunk => moved chunk).AsksOnly permitted := by
  refine ⟨hrecv, fun reply => ?_⟩
  dsimp only
  cases Calls.recvPass retried reply with
  | again => exact hagain
  | failed error => exact asksOnly_done
  | moved chunk => exact hmoved chunk

theorem writeAll_asksOnly (passes : ℕ) (bytes : Bytes)
    (hsend : ∀ bytes, permitted (.send bytes)) :
    (Calls.writeAll passes bytes).AsksOnly permitted := by
  induction passes generalizing bytes with
  | zero => cases bytes <;> exact asksOnly_done
  | succ passes ih =>
      cases bytes with
      | nil => exact asksOnly_done
      | cons byte bytes =>
          rw [Calls.writeAll_succ]
          exact sendPass_asksOnly (hsend _) (ih _) fun count => ih _

theorem writeAllTimed_asksOnly (deadline : ℤ) (polls passes : ℕ) (bytes : Bytes)
    (hnow : permitted .now) (hpoll : ∀ timeout, permitted (.poll .pollout timeout))
    (hsend : ∀ bytes, permitted (.send bytes)) :
    (Calls.writeAllTimed deadline polls passes bytes).AsksOnly permitted := by
  induction passes generalizing bytes with
  | zero => cases bytes <;> exact asksOnly_done
  | succ passes ih =>
      cases bytes with
      | nil => exact asksOnly_done
      | cons byte bytes =>
          rw [Calls.writeAllTimed_succ]
          refine (waitForDescriptor_asksOnly _ _ _ polls hnow hpoll).bind fun waited => ?_
          cases waited with
          | waiting => exact asksOnly_done
          | failed error => exact asksOnly_done
          | ready => exact sendPass_asksOnly (hsend _) (ih _) fun count => ih _

theorem readAll_asksOnly (passes size : ℕ) (hrecv : ∀ size, permitted (.recv size)) :
    (Calls.readAll passes size).AsksOnly permitted := by
  induction passes generalizing size with
  | zero => cases size <;> exact asksOnly_done
  | succ passes ih =>
      cases size with
      | zero => exact asksOnly_done
      | succ size =>
          rw [Calls.readAll_succ]
          exact recvPass_asksOnly (hrecv _) (ih _) fun chunk => (ih _).bind fun _ => asksOnly_done

theorem readAllTimed_asksOnly (deadline : ℤ) (polls passes size : ℕ) (hnow : permitted .now)
    (hpoll : ∀ timeout, permitted (.poll .pollin timeout))
    (hrecv : ∀ size, permitted (.recv size)) :
    (Calls.readAllTimed deadline polls passes size).AsksOnly permitted := by
  induction passes generalizing size with
  | zero => cases size <;> exact asksOnly_done
  | succ passes ih =>
      cases size with
      | zero => exact asksOnly_done
      | succ size =>
          rw [Calls.readAllTimed_succ]
          refine (waitForDescriptor_asksOnly _ _ _ polls hnow hpoll).bind fun waited => ?_
          cases waited with
          | waiting => exact asksOnly_done
          | failed error => exact asksOnly_done
          | ready =>
              exact recvPass_asksOnly (hrecv _) (ih _) fun chunk =>
                (ih _).bind fun _ => asksOnly_done

/-- A message function asks what its loops ask. -/
theorem sendPayload_asksOnly {send : StreamProgram Outcome} (hsend : send.AsksOnly permitted)
    (outcome : Outcome) : (Calls.sendPayload send outcome).AsksOnly permitted := by
  cases outcome with
  | complete => exact hsend
  | failed error => exact asksOnly_done
  | waiting => exact asksOnly_done

theorem receivePayload_asksOnly {maxSize : ℕ} {read : ℕ → StreamProgram Calls.ReadResult}
    (hread : ∀ size, (read size).AsksOnly permitted) (header : Calls.ReadResult) :
    (Calls.receivePayload maxSize read header).AsksOnly permitted := by
  unfold Calls.receivePayload
  split
  · split_ifs
    · exact asksOnly_done
    · exact (hread _).bind fun _ => asksOnly_done
  · exact asksOnly_done

variable (connection : UnixSocketConnection) (message : Bytes) (maxSize polls passes : ℕ)
  {timeout : ℤ}

theorem sendMessage_asksOnly (hsend : ∀ bytes, permitted (.send bytes)) :
    (Calls.sendMessage connection message passes).AsksOnly permitted := by
  rcases Calls.sendMessage_cases connection message le_rfl 0 passes with
    ⟨error, -, hrefused⟩ | ⟨-, haccepted⟩
  · rw [hrefused]
    exact asksOnly_done
  · rw [haccepted]
    exact (writeAll_asksOnly _ _ hsend).bind
      (sendPayload_asksOnly (writeAll_asksOnly _ _ hsend))

theorem sendMessageTimed_asksOnly (htimeout : 0 ≤ timeout) (hnow : permitted .now)
    (hpoll : ∀ timeout, permitted (.poll .pollout timeout))
    (hsend : ∀ bytes, permitted (.send bytes)) :
    (Calls.sendMessageTimed connection message timeout polls passes).AsksOnly permitted := by
  rcases Calls.sendMessage_cases connection message htimeout polls passes with
    ⟨error, hrefused, -⟩ | ⟨haccepted, -⟩
  · rw [hrefused]
    exact asksOnly_done
  · rw [haccepted]
    exact ⟨hnow, fun start => (writeAllTimed_asksOnly _ _ _ _ hnow hpoll hsend).bind
      (sendPayload_asksOnly (writeAllTimed_asksOnly _ _ _ _ hnow hpoll hsend))⟩

theorem receiveMessage_asksOnly (hrecv : ∀ size, permitted (.recv size)) :
    (Calls.receiveMessage connection maxSize passes).AsksOnly permitted := by
  rcases Calls.receiveMessage_cases connection maxSize le_rfl 0 passes with
    ⟨error, -, hrefused⟩ | ⟨-, haccepted⟩
  · rw [hrefused]
    exact asksOnly_done
  · rw [haccepted]
    exact (readAll_asksOnly _ _ hrecv).bind
      (receivePayload_asksOnly fun _ => readAll_asksOnly _ _ hrecv)

theorem receiveMessageTimed_asksOnly (htimeout : 0 ≤ timeout) (hnow : permitted .now)
    (hpoll : ∀ timeout, permitted (.poll .pollin timeout))
    (hrecv : ∀ size, permitted (.recv size)) :
    (Calls.receiveMessageTimed connection maxSize timeout polls passes).AsksOnly permitted := by
  rcases Calls.receiveMessage_cases connection maxSize htimeout polls passes with
    ⟨error, hrefused, -⟩ | ⟨haccepted, -⟩
  · rw [hrefused]
    exact asksOnly_done
  · rw [haccepted]
    exact ⟨hnow, fun start => (readAllTimed_asksOnly _ _ _ _ hnow hpoll hrecv).bind
      (receivePayload_asksOnly fun _ => readAllTimed_asksOnly _ _ _ _ hnow hpoll hrecv)⟩

end Questions

/-! ## A message that is sent -/

/-- The kernel takes the bytes from the front, and all of them exactly if the loop is
complete. -/
structure Sends (bytes : Bytes) (exchanges : List StreamExchange) (outcome : Outcome) : Prop where
  initial : sentBytes exchanges <+: bytes
  complete_iff : outcome = .complete ↔ sentBytes exchanges = bytes

section Sending

variable {bytes : Bytes} {exchanges waited first last : List StreamExchange} {outcome : Outcome}
  {passes polls : ℕ} {deadline : ℤ}

theorem Sends.nothing (hnone : sentBytes exchanges = []) : Sends [] exchanges .complete := by
  constructor <;> simp [hnone]

theorem Sends.stopped (hnone : sentBytes exchanges = []) (hbytes : bytes ≠ [])
    (hincomplete : outcome ≠ .complete) : Sends bytes exchanges outcome := by
  constructor
  · simp [hnone]
  · rw [hnone]
    exact iff_of_false hincomplete (Ne.symm hbytes)

theorem Sends.moved {count : ℕ} (hmoved : sentBytes waited = bytes.take count)
    (hrest : Sends (bytes.drop count) exchanges outcome) :
    Sends bytes (waited ++ exchanges) outcome := by
  have hbytes := bytes.take_append_drop count
  constructor
  · obtain ⟨rest, hrest⟩ := hrest.initial
    exact ⟨rest, by rw [sentBytes_append, hmoved, List.append_assoc, hrest, hbytes]⟩
  · rw [hrest.complete_iff, sentBytes_append, hmoved]
    constructor
    · intro hall
      rw [hall, hbytes]
    · intro hall
      exact List.append_cancel_left (hall.trans hbytes.symm)

theorem Sends.later (hnone : sentBytes waited = []) (hrest : Sends bytes exchanges outcome) :
    Sends bytes (waited ++ exchanges) outcome := by
  have hmoved : sentBytes waited = bytes.take 0 := hnone
  exact .moved hmoved hrest

/-- What a pass sends. -/
theorem sendPass_takes {retried : List Errno} {reply : SystemResult ℕ} :
    sentBytes [⟨.send bytes, reply⟩] =
      match Calls.sendPass retried reply with
      | .moved count => bytes.take count
      | _ => [] := by
  rcases reply with errno | (_ | count)
  · simp only [Calls.sendPass]
    split_ifs <;> rfl
  · simp [sentBytes, Calls.sendPass]
  · simp [sentBytes, Calls.sendPass]

/-- One `::send`, and the rest of the loop. -/
theorem Sends.pass {retried : List Errno} {write : Bytes → StreamProgram Outcome}
    (hwrite : ∀ bytes exchanges outcome, Transcript (write bytes) exchanges outcome →
      Sends bytes exchanges outcome) (hbytes : bytes ≠ [])
    (htranscript : Transcript
      (.ask (StreamCall.send bytes) fun reply =>
        match Calls.sendPass retried reply with
        | .again => write bytes
        | .failed error => .done (.failed error)
        | .moved count => write (bytes.drop count)) exchanges outcome) :
    Sends bytes exchanges outcome := by
  obtain ⟨reply, later, rfl, hrest⟩ := transcript_ask_iff.mp htranscript
  rw [← List.singleton_append]
  have htakes := @sendPass_takes bytes retried reply
  cases hpass : Calls.sendPass retried reply with
  | again =>
      rw [hpass] at hrest htakes
      exact .later htakes (hwrite _ _ _ hrest)
  | failed error =>
      rw [hpass] at hrest htakes
      obtain ⟨rfl, rfl⟩ := transcript_done_iff.mp hrest
      exact .stopped htakes hbytes Outcome.noConfusion
  | moved count =>
      rw [hpass] at hrest htakes
      exact .moved htakes (hwrite _ _ _ hrest)

theorem writeAll_sends (htranscript : Transcript (Calls.writeAll passes bytes) exchanges outcome) :
    Sends bytes exchanges outcome := by
  induction passes generalizing bytes exchanges outcome with
  | zero =>
      cases bytes with
      | nil =>
          obtain ⟨rfl, rfl⟩ := transcript_done_iff.mp htranscript
          exact .nothing rfl
      | cons byte bytes =>
          obtain ⟨rfl, rfl⟩ := transcript_done_iff.mp htranscript
          exact .stopped rfl (List.cons_ne_nil _ _) Outcome.noConfusion
  | succ passes ih =>
      cases bytes with
      | nil =>
          obtain ⟨rfl, rfl⟩ := transcript_done_iff.mp htranscript
          exact .nothing rfl
      | cons byte bytes =>
          rw [Calls.writeAll_succ] at htranscript
          exact .pass (fun _ _ _ hwrite => ih hwrite) (List.cons_ne_nil _ _) htranscript

theorem writeAllTimed_sends
    (htranscript : Transcript (Calls.writeAllTimed deadline polls passes bytes) exchanges outcome) :
    Sends bytes exchanges outcome := by
  induction passes generalizing bytes exchanges outcome with
  | zero =>
      cases bytes with
      | nil =>
          obtain ⟨rfl, rfl⟩ := transcript_done_iff.mp htranscript
          exact .nothing rfl
      | cons byte bytes =>
          obtain ⟨rfl, rfl⟩ := transcript_done_iff.mp htranscript
          exact .stopped rfl (List.cons_ne_nil _ _) Outcome.noConfusion
  | succ passes ih =>
      cases bytes with
      | nil =>
          obtain ⟨rfl, rfl⟩ := transcript_done_iff.mp htranscript
          exact .nothing rfl
      | cons byte bytes =>
          rw [Calls.writeAllTimed_succ] at htranscript
          obtain ⟨waiting, last, waited, rfl, hwait, hrest⟩ := transcript_bind_iff.mp htranscript
          have hnone : sentBytes waiting = [] := by
            refine sentBytes_eq_nil (hwait.asked_permitted (fun call => ¬ call.IsSend) ?_)
            refine waitForDescriptor_asksOnly _ _ _ _ ?_ fun timeout => ?_
            · simp [StreamCall.IsSend]
            · simp [StreamCall.IsSend]
          cases waited with
          | waiting =>
              obtain ⟨rfl, rfl⟩ := transcript_done_iff.mp hrest
              rw [List.append_nil]
              exact .stopped hnone (List.cons_ne_nil _ _) Outcome.noConfusion
          | failed error =>
              obtain ⟨rfl, rfl⟩ := transcript_done_iff.mp hrest
              rw [List.append_nil]
              exact .stopped hnone (List.cons_ne_nil _ _) Outcome.noConfusion
          | ready =>
              exact .later hnone
                (.pass (fun _ _ _ hwrite => ih hwrite) (List.cons_ne_nil _ _) hrest)

/-- A loop that stops early sends no more of a longer text. -/
theorem Sends.append (hsends : Sends bytes exchanges outcome) (hincomplete : outcome ≠ .complete)
    (more : Bytes) : Sends (bytes ++ more) exchanges outcome := by
  refine ⟨hsends.initial.trans (List.prefix_append _ _), iff_of_false hincomplete ?_⟩
  intro hall
  have hlonger : bytes ++ more <+: bytes := hall ▸ hsends.initial
  have hnothing : more = [] := by
    have hlength := hlonger.length_le
    rw [List.length_append] at hlength
    exact List.length_eq_zero_iff.mp (by omega)
  rw [hnothing, List.append_nil] at hall
  exact hincomplete (hsends.complete_iff.mpr hall)

/-- The header and the payload are one frame. -/
theorem Sends.frame {message : Bytes} {header : Outcome} {send : StreamProgram Outcome}
    (hheader : Sends (htonl message.length) first header)
    (hsend : ∀ exchanges outcome, Transcript send exchanges outcome →
      Sends message exchanges outcome)
    (htranscript : Transcript (Calls.sendPayload send header) last outcome) :
    Sends (Ipc.frame message) (first ++ last) outcome := by
  cases header with
  | complete =>
      have hfirst : sentBytes first = (Ipc.frame message).take 4 := by
        rw [hheader.complete_iff.mp rfl, ← List.append_nil (Ipc.frame message), frame_take]
      exact .moved hfirst (hsend _ _ htranscript)
  | failed error =>
      obtain ⟨rfl, rfl⟩ := transcript_done_iff.mp htranscript
      rw [List.append_nil]
      exact hheader.append Outcome.noConfusion message
  | waiting =>
      obtain ⟨rfl, rfl⟩ := transcript_done_iff.mp htranscript
      rw [List.append_nil]
      exact hheader.append Outcome.noConfusion message

theorem Sends.refused {message : Bytes} {error : ErrorText} :
    Sends (Ipc.frame message) [] (.failed error) :=
  .stopped rfl (by simp [Ipc.frame, htonl]) Outcome.noConfusion

variable {connection : UnixSocketConnection} {message : Bytes} {timeout : ℤ}

theorem sendMessage_sends
    (htranscript : Transcript (Calls.sendMessage connection message passes) exchanges outcome) :
    Sends (frame message) exchanges outcome := by
  rcases Calls.sendMessage_cases connection message le_rfl 0 passes with
    ⟨error, -, hrefused⟩ | ⟨-, haccepted⟩
  · rw [hrefused] at htranscript
    obtain ⟨rfl, rfl⟩ := transcript_done_iff.mp htranscript
    exact .refused
  · rw [haccepted] at htranscript
    obtain ⟨first, last, header, rfl, hheader, hrest⟩ := transcript_bind_iff.mp htranscript
    exact .frame (writeAll_sends hheader) (fun _ _ hsend => writeAll_sends hsend) hrest

theorem sendMessageTimed_sends (htimeout : 0 ≤ timeout)
    (htranscript : Transcript (Calls.sendMessageTimed connection message timeout polls passes)
      exchanges outcome) : Sends (frame message) exchanges outcome := by
  rcases Calls.sendMessage_cases connection message htimeout polls passes with
    ⟨error, hrefused, -⟩ | ⟨haccepted, -⟩
  · rw [hrefused] at htranscript
    obtain ⟨rfl, rfl⟩ := transcript_done_iff.mp htranscript
    exact .refused
  · rw [haccepted] at htranscript
    obtain ⟨start, later, rfl, hcall⟩ := transcript_ask_iff.mp htranscript
    obtain ⟨first, last, header, rfl, hheader, hrest⟩ := transcript_bind_iff.mp hcall
    rw [← List.singleton_append]
    exact .later rfl (.frame (writeAllTimed_sends hheader)
      (fun _ _ hsend => writeAllTimed_sends hsend) hrest)

end Sending

/-! ## A message that is received -/

section Receiving

variable {exchanges first last : List StreamExchange} {maxSize passes polls : ℕ} {timeout : ℤ}
  {connection : UnixSocketConnection} {result : Calls.ReceiveResult}

/-- A call that is complete has read one frame. -/
theorem receivePayload_frame {header : Calls.ReadResult}
    {read : ℕ → StreamProgram Calls.ReadResult} (hheader : Collects 4 first header)
    (hread : ∀ size exchanges result, FitsBuffers exchanges →
      Transcript (read size) exchanges result → Collects size exchanges result)
    (hfits : FitsBuffers last)
    (htranscript : Transcript (Calls.receivePayload maxSize read header) last result)
    (hcomplete : result.outcome = .complete) :
    receivedBytes (first ++ last) = frame result.message ∧ result.message.length ≤ maxSize := by
  unfold Calls.receivePayload at htranscript
  cases houtcome : header.outcome with
  | complete =>
      simp only [houtcome] at htranscript
      split_ifs at htranscript with hlarge
      · obtain ⟨rfl, rfl⟩ := transcript_done_iff.mp htranscript
        cases hcomplete
      · obtain ⟨middle, _, payload, rfl, hpayload, hdone⟩ := transcript_bind_iff.mp htranscript
        obtain ⟨rfl, rfl⟩ := transcript_done_iff.mp hdone
        rw [List.append_nil] at hfits ⊢
        have hcollected := hread _ _ _ hfits hpayload
        have hfull := hcollected.complete_iff.mp hcomplete
        have hfour := hheader.complete_iff.mp houtcome
        simp only [Calls.overwritten_full hfull]
        refine ⟨?_, by omega⟩
        rw [receivedBytes_append, ← hheader.data, ← hcollected.data, frame, hfull,
          htonl_ntohl hfour]
  | failed error =>
      simp only [houtcome] at htranscript
      obtain ⟨rfl, rfl⟩ := transcript_done_iff.mp htranscript
      cases hcomplete
  | waiting =>
      simp only [houtcome] at htranscript
      obtain ⟨rfl, rfl⟩ := transcript_done_iff.mp htranscript
      cases hcomplete

theorem receiveMessageTimed_frame (htimeout : 0 ≤ timeout) (hfits : FitsBuffers exchanges)
    (htranscript : Transcript
      (Calls.receiveMessageTimed connection maxSize timeout polls passes) exchanges result)
    (hcomplete : result.outcome = .complete) :
    receivedBytes exchanges = frame result.message ∧ result.message.length ≤ maxSize := by
  rcases Calls.receiveMessage_cases connection maxSize htimeout polls passes with
    ⟨error, hrefused, -⟩ | ⟨haccepted, -⟩
  · rw [hrefused] at htranscript
    obtain ⟨rfl, rfl⟩ := transcript_done_iff.mp htranscript
    cases hcomplete
  · rw [haccepted] at htranscript
    obtain ⟨start, later, rfl, hcall⟩ := transcript_ask_iff.mp htranscript
    obtain ⟨first, last, header, rfl, hheader, hrest⟩ := transcript_bind_iff.mp hcall
    rw [← List.singleton_append] at hfits
    obtain ⟨hfirst, hlast⟩ := hfits.split.2.split
    exact receivePayload_frame (readAllTimed_collects hfirst hheader)
      (fun _ _ _ hfits hread => readAllTimed_collects hfits hread) hlast hrest hcomplete

/-- Without a deadline a loop fails at an error or at the end of the stream, and only
signals use up its passes. -/
structure Halts (passes : ℕ) (exchanges : List StreamExchange) (result : Calls.ReadResult) :
    Prop where
  failed : ∀ error, result.outcome = .failed error →
    ∃ exchange ∈ exchanges, SocketFailure exchange ∨ EndOfStream exchange
  waiting : result.outcome = .waiting → passes ≤ result.data.length + interruptions exchanges

theorem recvPass_again_eq {reply : SystemResult Bytes}
    (hpass : Calls.recvPass [EINTR] reply = .again) : reply = .error EINTR := by
  rcases reply with errno | (_ | ⟨byte, bytes⟩)
  · simp only [Calls.recvPass, List.mem_singleton] at hpass
    split_ifs at hpass with heintr
    rw [heintr]
  · cases hpass
  · cases hpass

theorem recvPass_failed_cases {size : ℕ} {reply : SystemResult Bytes} {error : ErrorText}
    (hpass : Calls.recvPass [EINTR] reply = .failed error) :
    SocketFailure ⟨.recv size, reply⟩ ∨ EndOfStream ⟨.recv size, reply⟩ := by
  rcases reply with errno | (_ | ⟨byte, bytes⟩)
  · simp only [Calls.recvPass, List.mem_singleton] at hpass
    split_ifs at hpass with heintr
    exact .inl ⟨errno, heintr, .inr ⟨size, rfl⟩⟩
  · exact .inr ⟨size, rfl⟩
  · cases hpass

theorem recvPass_moved_pos {reply : SystemResult Bytes} {chunk : Bytes}
    (hpass : Calls.recvPass [EINTR] reply = .moved chunk) : 0 < chunk.length := by
  rcases reply with errno | (_ | ⟨byte, bytes⟩)
  · simp only [Calls.recvPass] at hpass
    split_ifs at hpass
  · cases hpass
  · cases hpass
    exact Nat.succ_pos _

theorem Halts.again {size : ℕ} {result : Calls.ReadResult} (hrest : Halts passes exchanges result) :
    Halts (passes + 1) (⟨.recv size, .error EINTR⟩ :: exchanges) result := by
  constructor
  · intro error hfailed
    obtain ⟨exchange, hmem, hwhy⟩ := hrest.failed error hfailed
    exact ⟨exchange, List.mem_cons_of_mem _ hmem, hwhy⟩
  · intro hwaiting
    have hbound := hrest.waiting hwaiting
    have hcount : interruptions (⟨.recv size, .error EINTR⟩ :: exchanges) =
        interruptions exchanges + 1 := by
      simp [interruptions]
    omega

theorem Halts.moved {size : ℕ} {reply : SystemResult Bytes} {chunk : Bytes}
    {rest : Calls.ReadResult} (hpositive : 0 < chunk.length) (hrest : Halts passes exchanges rest) :
    Halts (passes + 1) (⟨.recv size, reply⟩ :: exchanges) ⟨rest.outcome, chunk ++ rest.data⟩ := by
  constructor
  · intro error hfailed
    obtain ⟨exchange, hmem, hwhy⟩ := hrest.failed error hfailed
    exact ⟨exchange, List.mem_cons_of_mem _ hmem, hwhy⟩
  · intro hwaiting
    have hbound := hrest.waiting hwaiting
    rw [← List.singleton_append, interruptions_append, List.length_append]
    omega

theorem readAll_halts {size : ℕ} {result : Calls.ReadResult}
    (htranscript : Transcript (Calls.readAll passes size) exchanges result) :
    Halts passes exchanges result := by
  induction passes generalizing size exchanges result with
  | zero =>
      refine ⟨?_, fun _ => Nat.zero_le _⟩
      cases size with
      | zero =>
          obtain ⟨rfl, rfl⟩ := transcript_done_iff.mp htranscript
          simp
      | succ size =>
          obtain ⟨rfl, rfl⟩ := transcript_done_iff.mp htranscript
          simp
  | succ passes ih =>
      cases size with
      | zero =>
          obtain ⟨rfl, rfl⟩ := transcript_done_iff.mp htranscript
          constructor <;> simp
      | succ size =>
          rw [Calls.readAll_succ] at htranscript
          obtain ⟨reply, later, rfl, hrest⟩ := transcript_ask_iff.mp htranscript
          cases hpass : Calls.recvPass [EINTR] reply with
          | again =>
              rw [hpass] at hrest
              obtain rfl := recvPass_again_eq hpass
              exact .again (ih hrest)
          | failed error =>
              rw [hpass] at hrest
              obtain ⟨rfl, rfl⟩ := transcript_done_iff.mp hrest
              refine ⟨fun _ _ => ⟨_, List.mem_cons_self, recvPass_failed_cases hpass⟩, ?_⟩
              simp
          | moved chunk =>
              rw [hpass] at hrest
              obtain ⟨first, last, rest, rfl, hfirst, hdone⟩ := transcript_bind_iff.mp hrest
              obtain ⟨rfl, rfl⟩ := transcript_done_iff.mp hdone
              rw [List.append_nil]
              exact .moved (recvPass_moved_pos hpass) (ih hfirst)

/-- A loop is complete if the bytes it wants come before the end of the stream, no error
comes, and it has a pass for each of them and for each signal. -/
theorem Halts.complete {size : ℕ} {result : Calls.ReadResult}
    (hhalts : Halts passes exchanges result) (hcollects : Collects size exchanges result)
    (hsocket : ∀ exchange ∈ exchanges, ¬ SocketFailure exchange)
    (hend : (∃ exchange ∈ exchanges, EndOfStream exchange) →
      size ≤ (receivedBytes exchanges).length)
    (hpasses : interruptions exchanges + size ≤ passes) : result.outcome = .complete := by
  have hlength := hcollects.length_le
  cases houtcome : result.outcome with
  | complete => rfl
  | failed error =>
      obtain ⟨exchange, hmem, hfailure | hended⟩ := hhalts.failed error houtcome
      · exact absurd hfailure (hsocket exchange hmem)
      · have hall := hend ⟨exchange, hmem, hended⟩
        rw [← hcollects.data] at hall
        rw [← houtcome, hcollects.complete_iff]
        omega
  | waiting =>
      have hbound := hhalts.waiting houtcome
      rw [← houtcome, hcollects.complete_iff]
      omega

theorem receivePayload_of_incomplete {header : Calls.ReadResult}
    {read : ℕ → StreamProgram Calls.ReadResult} (hincomplete : header.outcome ≠ .complete)
    (htranscript : Transcript (Calls.receivePayload maxSize read header) exchanges result) :
    exchanges = [] := by
  unfold Calls.receivePayload at htranscript
  split at htranscript
  next hcomplete => exact absurd hcomplete hincomplete
  next => exact (transcript_done_iff.mp htranscript).1

/-- What an untimed receive makes of a frame. -/
def receivedFrame (maxSize : ℕ) (message : Bytes) : Calls.ReceiveResult :=
  if message.length ≤ maxSize then ⟨.complete, message⟩
  else ⟨.failed (.message "receive failed: message exceeds maximum size"), []⟩

theorem receiveMessage_of_frame {message : Bytes} (hopen : connection.isOpen)
    (hsize : message.length < 2 ^ 32) (hfits : FitsBuffers exchanges)
    (hstream : receivedBytes exchanges <+: frame message)
    (hend : (∃ exchange ∈ exchanges, EndOfStream exchange) →
      receivedBytes exchanges = frame message)
    (hsocket : ∀ exchange ∈ exchanges, ¬ SocketFailure exchange)
    (hpasses : interruptions exchanges + max 4 maxSize ≤ passes)
    (htranscript : Transcript (Calls.receiveMessage connection maxSize passes) exchanges result) :
    result = receivedFrame maxSize message := by
  rw [Calls.receiveMessage_of_open hopen] at htranscript
  obtain ⟨first, last, header, rfl, hheader, hrest⟩ := transcript_bind_iff.mp htranscript
  obtain ⟨hfirst, hlast⟩ := hfits.split
  rw [interruptions_append] at hpasses
  rw [receivedBytes_append] at hstream hend
  have hcollects := readAll_collects hfirst hheader
  have hcomplete : header.outcome = .complete := by
    by_contra hincomplete
    obtain rfl := receivePayload_of_incomplete hincomplete hrest
    refine hincomplete ((readAll_halts hheader).complete hcollects
      (fun exchange hmem => hsocket exchange (List.mem_append_left _ hmem)) ?_ (by omega))
    rintro ⟨exchange, hmem, hended⟩
    have hall := congrArg List.length
      (hend ⟨exchange, List.mem_append_left _ hmem, hended⟩)
    simp [receivedBytes] at hall
    omega
  have hfour := hcollects.complete_iff.mp hcomplete
  have hdata : header.data = htonl message.length := by
    obtain ⟨rest, hrest⟩ := hstream
    have htake := congrArg (List.take 4) hrest
    rw [← hcollects.data, List.append_assoc, List.take_left' hfour,
      ← List.append_nil (frame message), frame_take] at htake
    exact htake
  simp only [Calls.receivePayload, hcomplete, hdata, ntohl_htonl hsize] at hrest
  unfold receivedFrame
  split_ifs at hrest with hlarge
  · obtain ⟨rfl, rfl⟩ := transcript_done_iff.mp hrest
    rw [if_neg (by omega)]
  · obtain ⟨middle, _, payload, rfl, hpayload, hdone⟩ := transcript_bind_iff.mp hrest
    obtain ⟨rfl, rfl⟩ := transcript_done_iff.mp hdone
    rw [List.append_nil] at hlast hsocket hpasses hstream hend
    have hcollected := readAll_collects hlast hpayload
    rw [← hcollects.data, hdata, frame, List.prefix_append_right_inj] at hstream
    rw [← hcollects.data, hdata, frame, List.append_cancel_left_eq] at hend
    have hpayloadComplete : payload.outcome = .complete := by
      refine (readAll_halts hpayload).complete hcollected
        (fun exchange hmem => hsocket exchange (List.mem_append_right _ hmem)) ?_ (by omega)
      rintro ⟨exchange, hmem, hended⟩
      exact (congrArg List.length
        (hend ⟨exchange, List.mem_append_right _ hmem, hended⟩)).ge
    have hfull := hcollected.complete_iff.mp hpayloadComplete
    have hall : payload.data = message := by
      rw [hcollected.data] at hfull ⊢
      exact hstream.eq_of_length hfull
    rw [if_pos (by omega), hpayloadComplete, Calls.overwritten_full hfull, hall]

end Receiving

end ElapPlatform.Ipc
