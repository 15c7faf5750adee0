import ElapPlatform.UnixSocketConnection

/-!
# Runs of sends and receives on one connection

A connection carries a queue of messages.  The runs below make many calls on
the two ends of one stream, and the results relate what the receiving end
returns to what the sending end was given: the stream stays a sequence of whole
frames as long as every call either moves a whole frame or none of its bytes.
-/

namespace ElapPlatform.Ipc

open SelfDelimiting

/-! ## One call of either overload -/

inductive SendCall where
  | untimed (message : Bytes) (answers : List SendAnswer)
  | timed (message : Bytes) (timeout start : ℤ)
      (rounds : List (TimedRound SendAnswer))
  deriving DecidableEq, Repr

structure SendResult where
  outcome : Outcome
  accepted : Bytes
  deriving DecidableEq, Repr

def SendCall.message : SendCall → Bytes
  | .untimed message _ => message
  | .timed message _ _ _ => message

def SendCall.run (connection : UnixSocketConnection) : SendCall → SendResult
  | .untimed message answers =>
      let run := connection.sendMessage message answers
      ⟨run.outcome, run.accepted⟩
  | .timed message timeout start rounds =>
      let run := connection.sendMessageTimed message timeout start rounds
      ⟨run.outcome, run.accepted⟩

inductive ReceiveCall where
  | untimed (maxSize : ℕ) (answers : List RecvAnswer)
  | timed (maxSize : ℕ) (timeout start : ℤ)
      (rounds : List (TimedRound RecvAnswer))
  deriving DecidableEq, Repr

structure ReceiveResult where
  outcome : Outcome
  message : Bytes
  incoming : Bytes
  deriving DecidableEq, Repr

def ReceiveCall.maxSize : ReceiveCall → ℕ
  | .untimed maxSize _ => maxSize
  | .timed maxSize _ _ _ => maxSize

def ReceiveCall.run (connection : UnixSocketConnection) (incoming : Bytes) :
    ReceiveCall → ReceiveResult
  | .untimed maxSize answers =>
      let run := connection.receiveMessage maxSize incoming answers
      ⟨run.outcome, run.message, run.incoming⟩
  | .timed maxSize timeout start rounds =>
      let run := connection.receiveMessageTimed maxSize timeout start incoming rounds
      ⟨run.outcome, run.message, run.incoming⟩

/-! ## Runs -/

/-- Calls made one after the other; a call that has not returned is the last. -/
def sendCalls (connection : UnixSocketConnection) : List SendCall → List SendResult
  | [] => []
  | call :: calls =>
      let result := call.run connection
      if result.outcome = .waiting then [result]
      else result :: sendCalls connection calls

def acceptedStream (results : List SendResult) : Bytes :=
  results.flatMap SendResult.accepted

def receiveCalls (connection : UnixSocketConnection) :
    Bytes → List ReceiveCall → List ReceiveResult
  | _, [] => []
  | incoming, call :: calls =>
      let result := call.run connection incoming
      if result.outcome = .waiting then [result]
      else result :: receiveCalls connection result.incoming calls

/-- The messages returned by the calls that returned `true`. -/
def delivered (results : List ReceiveResult) : List Bytes :=
  (results.filter fun result => result.outcome = .complete).map ReceiveResult.message

/-! ## What one call does to the stream -/

/-- The answers to a send move none of the frame's bytes, or never make the
call return `false`. -/
def SendCall.KeepsFraming : SendCall → Prop
  | .untimed _ answers =>
      Undelivered sendProgress answers ∨ Uninterrupted sendProgress answers
  | .timed _ timeout start rounds =>
      Undelivered (timedSendProgress (deadlineAfter start timeout)) rounds ∨
        Uninterrupted (timedSendProgress (deadlineAfter start timeout)) rounds

def ReceiveCall.Undelivered : ReceiveCall → Prop
  | .untimed _ answers => Ipc.Undelivered recvProgress answers
  | .timed _ timeout start rounds =>
      Ipc.Undelivered (timedRecvProgress (deadlineAfter start timeout)) rounds

def ReceiveCall.Uninterrupted : ReceiveCall → Prop
  | .untimed _ answers => Ipc.Uninterrupted recvProgress answers
  | .timed _ timeout start rounds =>
      Ipc.Uninterrupted (timedRecvProgress (deadlineAfter start timeout)) rounds

/-- The answers to a receive hand over no byte, or are no failures. -/
def ReceiveCall.NotCutOff (call : ReceiveCall) : Prop :=
  call.Undelivered ∨ call.Uninterrupted

/-- The answers to a receive hand over no byte, or never make the call return
`false` while the announced message fits. -/
def ReceiveCall.KeepsFraming (incoming : Bytes) (call : ReceiveCall) : Prop :=
  call.Undelivered ∨ call.Uninterrupted ∧ announcedSize incoming ≤ call.maxSize

/-- A send is refused before its first byte, or it is one `sendFrame`. -/
theorem SendCall.run_cases (connection : UnixSocketConnection) (call : SendCall) :
    (∃ error, call.run connection = ⟨.failed error, []⟩) ∨
      call.message.length < 2 ^ 32 ∧
        ∃ (ρ : Type) (progress : ρ → Progress) (rounds : List ρ),
          (call.KeepsFraming →
            Undelivered progress rounds ∨ Uninterrupted progress rounds) ∧
          call.run connection =
            ⟨(sendFrame progress call.message rounds).outcome,
              (sendFrame progress call.message rounds).accepted⟩ := by
  cases call with
  | untimed message answers =>
      simp only [SendCall.run, SendCall.message, UnixSocketConnection.sendMessage]
      split
      · exact .inl ⟨_, rfl⟩
      · split
        · exact .inl ⟨_, rfl⟩
        · rename_i hfits
          simp only [uint32Max] at hfits
          exact .inr ⟨by omega, _, sendProgress, answers, id, rfl⟩
  | timed message timeout start rounds =>
      simp only [SendCall.run, SendCall.message, UnixSocketConnection.sendMessageTimed]
      split
      · exact .inl ⟨_, rfl⟩
      · split
        · exact .inl ⟨_, rfl⟩
        · split
          · exact .inl ⟨_, rfl⟩
          · rename_i hfits
            simp only [uint32Max] at hfits
            exact .inr ⟨by omega, _, timedSendProgress (deadlineAfter start timeout),
              rounds, id, rfl⟩

/-- A receive is refused before its first byte, or it is one `receiveFrame`. -/
theorem ReceiveCall.run_cases (connection : UnixSocketConnection) (incoming : Bytes)
    (call : ReceiveCall) :
    (∃ error, call.run connection incoming = ⟨.failed error, [], incoming⟩) ∨
      ∃ (ρ : Type) (progress : ρ → Progress) (rounds : List ρ),
        (call.Undelivered → Ipc.Undelivered progress rounds) ∧
        (call.Uninterrupted → Steady progress rounds) ∧
        call.run connection incoming =
          ⟨(receiveFrame progress call.maxSize incoming rounds).outcome,
            (receiveFrame progress call.maxSize incoming rounds).message,
            (receiveFrame progress call.maxSize incoming rounds).incoming⟩ := by
  cases call with
  | untimed maxSize answers =>
      simp only [ReceiveCall.run, UnixSocketConnection.receiveMessage]
      split
      · exact .inl ⟨_, rfl⟩
      · refine .inr ⟨_, recvProgress, answers, id, fun hnone => ⟨hnone, ?_⟩, rfl⟩
        intro _ _ _ hmoved
        exact recvProgress_positive hmoved
  | timed maxSize timeout start rounds =>
      simp only [ReceiveCall.run, UnixSocketConnection.receiveMessageTimed]
      split
      · exact .inl ⟨_, rfl⟩
      · split
        · exact .inl ⟨_, rfl⟩
        · refine .inr ⟨_, timedRecvProgress (deadlineAfter start timeout), rounds,
            id, fun hnone => ⟨hnone, ?_⟩, rfl⟩
          intro _ _ _ hmoved
          exact timedRecvProgress_positive hmoved

instance (call : SendCall) : Decidable call.KeepsFraming := by
  cases call <;> exact instDecidableOr

instance (call : ReceiveCall) : Decidable call.Undelivered := by
  cases call <;> exact List.decidableBAll _ _

instance (call : ReceiveCall) : Decidable call.Uninterrupted := by
  cases call <;> exact List.decidableBAll _ _

instance (call : ReceiveCall) : Decidable call.NotCutOff :=
  inferInstanceAs (Decidable (call.Undelivered ∨ call.Uninterrupted))

instance (incoming : Bytes) (call : ReceiveCall) :
    Decidable (call.KeepsFraming incoming) :=
  inferInstanceAs (Decidable
    (call.Undelivered ∨ call.Uninterrupted ∧ announcedSize incoming ≤ call.maxSize))

theorem SendCall.run_sound (connection : UnixSocketConnection) (call : SendCall) :
    (call.run connection).accepted <+: frame call.message ∧
      ((call.run connection).accepted ≠ [] → call.message.length < 2 ^ 32) ∧
      ((call.run connection).outcome = .complete ↔
        (call.run connection).accepted = frame call.message) := by
  rcases call.run_cases connection with
    ⟨error, hrun⟩ | ⟨hlength, ρ, progress, rounds, _, hrun⟩
  · rw [hrun]
    simp [frame, htonl]
  · rw [hrun]
    have hsound := sendFrame_sound progress call.message rounds
    exact ⟨hsound.accepted_prefix, fun _ => hlength, hsound.complete_iff⟩

/-- A send that keeps the framing and returns `false` left nothing behind. -/
theorem SendCall.accepted_of_failed {connection : UnixSocketConnection}
    {call : SendCall} {error : ErrorText} (hkept : call.KeepsFraming)
    (hfailed : (call.run connection).outcome = .failed error) :
    (call.run connection).accepted = [] := by
  rcases call.run_cases connection with
    ⟨other, hrun⟩ | ⟨_, ρ, progress, rounds, hrounds, hrun⟩
  · rw [hrun]
  · rw [hrun] at hfailed ⊢
    rcases hrounds hkept with hnone | hsteady
    · exact sendFrame_accepted_of_undelivered hnone
    · exact absurd hfailed (sendFrame_not_failed_of_uninterrupted hsteady error)

theorem ReceiveCall.incoming_suffix (connection : UnixSocketConnection)
    (incoming : Bytes) (call : ReceiveCall) :
    (call.run connection incoming).incoming <:+ incoming := by
  rcases call.run_cases connection incoming with
    ⟨error, hrun⟩ | ⟨ρ, progress, rounds, _, _, hrun⟩
  · rw [hrun]
  · rw [hrun]
    exact (receiveFrame_sound _ call.maxSize incoming rounds).incoming_suffix

/-- A receive that returns `true` took one frame off the front of the stream. -/
theorem ReceiveCall.stream_of_complete {connection : UnixSocketConnection}
    {incoming : Bytes} {call : ReceiveCall}
    (hcomplete : (call.run connection incoming).outcome = .complete) :
    incoming = frame (call.run connection incoming).message ++
        (call.run connection incoming).incoming ∧
      (call.run connection incoming).message.length < 2 ^ 32 := by
  rcases call.run_cases connection incoming with
    ⟨error, hrun⟩ | ⟨ρ, progress, rounds, _, _, hrun⟩
  · rw [hrun] at hcomplete
    contradiction
  · rw [hrun] at hcomplete ⊢
    have hsound := receiveFrame_sound progress call.maxSize incoming rounds
    exact ⟨hsound.complete_stream hcomplete, (hsound.complete_length hcomplete).2⟩

theorem ReceiveCall.incoming_of_undelivered {connection : UnixSocketConnection}
    {incoming : Bytes} {call : ReceiveCall} (hnone : call.Undelivered) :
    (call.run connection incoming).incoming = incoming := by
  rcases call.run_cases connection incoming with
    ⟨error, hrun⟩ | ⟨ρ, progress, rounds, hrounds, _, hrun⟩
  · rw [hrun]
  · rw [hrun]
    exact receiveFrame_incoming_of_undelivered (hrounds hnone)

/-- An uninterrupted receive that fails was refused at once, or found the stream
at its end before a whole frame. -/
theorem ReceiveCall.incoming_of_failed {connection : UnixSocketConnection}
    {incoming : Bytes} {call : ReceiveCall} {error : ErrorText}
    (hsteady : call.Uninterrupted)
    (hsize : 4 ≤ incoming.length → announcedSize incoming ≤ call.maxSize)
    (hfailed : (call.run connection incoming).outcome = .failed error) :
    (call.run connection incoming).incoming = incoming ∨
      (call.run connection incoming).incoming = [] ∧
        ∀ message rest, message.length < 2 ^ 32 →
          incoming ≠ frame message ++ rest := by
  rcases call.run_cases connection incoming with
    ⟨other, hrun⟩ | ⟨ρ, progress, rounds, _, hrounds, hrun⟩
  · exact .inl (by rw [hrun])
  · rw [hrun] at hfailed ⊢
    refine .inr ⟨receiveFrame_incoming_of_failed (hrounds hsteady) hsize hfailed, ?_⟩
    rintro message rest hmessage rfl
    have hlong : 4 ≤ (frame message ++ rest).length := by
      rw [List.length_append, frame_length]
      omega
    have hfits := hsize hlong
    rw [announcedSize_frame rest hmessage] at hfits
    exact receiveFrame_not_failed_of_frame (hrounds hsteady) hmessage hfits error hfailed

end ElapPlatform.Ipc
