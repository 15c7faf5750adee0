import ElapPlatform.UnixSocketConnection

/-!
# Messages survive any fragmentation

Sender and receiver each make their calls against one sequence of kernel
answers.  Whatever the short counts and interruptions, the receiver's calls
return the sender's messages one by one, and every call stops exactly at the
end of its frame.
-/

namespace ElapPlatform.Ipc

open SelfDelimiting

/-- Calls of `sendMessage`, one for each message, up to the first that does not
return `true`; each goes on with the answers the one before left over. -/
def sendMessages (connection : UnixSocketConnection) :
    List Bytes → List SendAnswer → List (WriteRun SendAnswer)
  | [], _ => []
  | message :: messages, answers =>
      let run := connection.sendMessage message answers
      if run.outcome = .complete then
        run :: sendMessages connection messages run.rest
      else [run]

/-- Calls of `receiveMessage` up to the first that does not return `true`. -/
def receiveMessages (connection : UnixSocketConnection) (maxSize : ℕ) :
    ℕ → Bytes → List RecvAnswer → List (ReceiveRun RecvAnswer)
  | 0, _, _ => []
  | count + 1, incoming, answers =>
      let run := connection.receiveMessage maxSize incoming answers
      if run.outcome = .complete then
        run :: receiveMessages connection maxSize count run.incoming run.rest
      else [run]

/-- The kernel answers with short counts and with `EINTR` only. -/
def ShortCountsOrInterrupts (answers : List RecvAnswer) : Prop :=
  ∀ answer ∈ answers, ∀ errno, answer = .errno errno → errno = EINTR

theorem ShortCountsOrInterrupts.fragmented {answers : List RecvAnswer}
    (hanswers : ShortCountsOrInterrupts answers) :
    Fragmented recvProgress answers := by
  intro answer hmem
  cases answer with
  | count n => exact .inr ⟨n, rfl⟩
  | errno errno =>
      have heintr := hanswers (.errno errno) hmem errno rfl
      exact .inl (by simp [recvProgress, heintr])

theorem UnixSocketConnection.sendMessage_accepted
    {connection : UnixSocketConnection} {message : Bytes} {answers : List SendAnswer}
    (hcomplete : (connection.sendMessage message answers).outcome = .complete) :
    (connection.sendMessage message answers).accepted = frame message := by
  unfold UnixSocketConnection.sendMessage at hcomplete ⊢
  split at hcomplete
  · contradiction
  · split at hcomplete
    · contradiction
    · rename_i hopen hfits
      rw [if_neg hopen, if_neg hfits]
      exact (sendFrame_sound _ message answers).complete_iff.mp hcomplete

/-- Sends that all returned `true` put exactly their frames on the stream. -/
theorem sendMessages_accepted {connection : UnixSocketConnection}
    {messages : List Bytes} {answers : List SendAnswer}
    (hsent : ∀ run ∈ sendMessages connection messages answers,
      run.outcome = .complete) :
    (sendMessages connection messages answers).flatMap WriteRun.accepted =
      frameCode.encodeAll messages := by
  induction messages generalizing answers with
  | nil => rfl
  | cons message messages ih =>
      have hcomplete : (connection.sendMessage message answers).outcome = .complete := by
        by_contra hincomplete
        simp only [sendMessages, if_neg hincomplete, List.mem_singleton,
          forall_eq] at hsent
        contradiction
      simp only [sendMessages, if_pos hcomplete, List.mem_cons, forall_eq_or_imp,
        List.flatMap_cons, Code.encodeAll_cons] at hsent ⊢
      rw [UnixSocketConnection.sendMessage_accepted hcomplete, ih hsent.2]
      rfl

/-- What `receiveMessage` does with a frame in front of it. -/
theorem UnixSocketConnection.receiveMessage_on_frame
    {connection : UnixSocketConnection} {maxSize : ℕ} {message : Bytes} (rest : Bytes)
    {answers : List RecvAnswer} (hopen : connection.isOpen)
    (hlength : message.length < 2 ^ 32) (hsize : message.length ≤ maxSize)
    (hfragmented : Fragmented recvProgress answers) :
    let run := connection.receiveMessage maxSize (frame message ++ rest) answers
    (run.outcome = .waiting ∨
      run.outcome = .complete ∧ run.message = message ∧ run.incoming = rest) ∧
      Fragmented recvProgress run.rest ∧
      ((frame message).length ≤ deliveries recvProgress answers →
        run.outcome = .complete ∧
          deliveries recvProgress answers ≤
            deliveries recvProgress run.rest + (frame message).length) := by
  have hnotClosed : ¬ ¬ connection.isOpen = true := not_not.mpr hopen
  simp only [UnixSocketConnection.receiveMessage, if_neg hnotClosed]
  have hsound := receiveFrame_sound recvProgress maxSize
    (frame message ++ rest) answers
  refine ⟨?_, hfragmented.suffix hsound.rest_suffix, fun henough =>
    receiveFrame_complete_of_deliveries hfragmented hlength hsize henough⟩
  cases houtcome : (receiveFrame recvProgress maxSize
      (frame message ++ rest) answers).outcome with
  | waiting => exact .inl rfl
  | failed error =>
      exact absurd houtcome (receiveFrame_not_failed_of_frame hfragmented.steady
        hlength hsize error)
  | complete =>
      have hstream := hsound.complete_stream houtcome
      have hreceived := (hsound.complete_length houtcome).2
      obtain ⟨hsame, hrest⟩ := frameCode.encode_append_inj hlength hreceived hstream
      exact .inr ⟨rfl, hsame.symm, hrest.symm⟩

/-- Each returned call took the next frame, and one answer with a count for each byte of
the first `k` frames makes the first `k` calls return. -/
structure TakesFrames (messages : List Bytes) (brought : ℕ)
    (runs : List (ReceiveRun RecvAnswer)) : Prop where
  inOrder : ∀ k run, runs[k]? = some run → run.outcome = .waiting ∨
    run.outcome = .complete ∧ messages[k]? = some run.message ∧
      run.incoming = frameCode.encodeAll (messages.drop (k + 1))
  returns : ∀ k < messages.length,
    (frameCode.encodeAll (messages.take (k + 1))).length ≤ brought →
      ∃ run, runs[k]? = some run ∧ run.outcome = .complete

namespace TakesFrames

variable {message : Bytes} {messages : List Bytes} {brought later : ℕ}
  {run : ReceiveRun RecvAnswer} {runs : List (ReceiveRun RecvAnswer)}

theorem first_le (message : Bytes) (messages : List Bytes) (k : ℕ) :
    (frame message).length ≤
      (frameCode.encodeAll ((message :: messages).take (k + 1))).length := by
  rw [List.take_succ_cons, Code.encodeAll_cons, List.length_append]
  exact Nat.le_add_right _ _

/-- The first call is still waiting, so its frame has not been brought. -/
theorem waiting (hwaiting : run.outcome = .waiting)
    (hshort : ¬ (frame message).length ≤ brought) :
    TakesFrames (message :: messages) brought [run] := by
  constructor
  · intro k other hother
    cases k with
    | zero =>
        simp only [List.getElem?_cons_zero, Option.some.injEq] at hother
        exact .inl (hother ▸ hwaiting)
    | succ k => simp at hother
  · intro k _ hdeliveries
    exact absurd ((first_le message messages k).trans hdeliveries) hshort

theorem cons (hcomplete : run.outcome = .complete) (hmessage : run.message = message)
    (hincoming : run.incoming = frameCode.encodeAll messages)
    (hlater : (frame message).length ≤ brought → brought ≤ later + (frame message).length)
    (hruns : TakesFrames messages later runs) :
    TakesFrames (message :: messages) brought (run :: runs) := by
  constructor
  · intro k other hother
    cases k with
    | zero =>
        simp only [List.getElem?_cons_zero, Option.some.injEq] at hother
        subst other
        exact .inr ⟨hcomplete, by simp [hmessage], by simpa using hincoming⟩
    | succ k => simpa using hruns.inOrder k other (by simpa using hother)
  · intro k hk hdeliveries
    cases k with
    | zero => exact ⟨run, by simp, hcomplete⟩
    | succ k =>
        have hused := hlater ((first_le message messages (k + 1)).trans hdeliveries)
        rw [List.take_succ_cons, Code.encodeAll_cons, List.length_append,
          frameCode_encode] at hdeliveries
        simpa using hruns.returns k (by simpa using hk) (by omega)

end TakesFrames

theorem receiveMessages_on_frames {connection : UnixSocketConnection}
    {maxSize : ℕ} {messages : List Bytes} {answers : List RecvAnswer}
    (hopen : connection.isOpen)
    (hmessages : ∀ message ∈ messages,
      message.length < 2 ^ 32 ∧ message.length ≤ maxSize)
    (hfragmented : Fragmented recvProgress answers) :
    TakesFrames messages (deliveries recvProgress answers)
      (receiveMessages connection maxSize messages.length (frameCode.encodeAll messages)
        answers) := by
  induction messages generalizing answers with
  | nil => exact ⟨by simp [receiveMessages], by simp⟩
  | cons message messages ih =>
      obtain ⟨hlength, hsize⟩ := hmessages message List.mem_cons_self
      have hremaining := fun other hmem =>
        hmessages other (List.mem_cons_of_mem message hmem)
      have hcall := UnixSocketConnection.receiveMessage_on_frame
        (frameCode.encodeAll messages) hopen hlength hsize hfragmented
      simp only [List.length_cons, Code.encodeAll_cons, frameCode_encode, receiveMessages]
      generalize connection.receiveMessage maxSize
        (frame message ++ frameCode.encodeAll messages) answers = run at hcall ⊢
      obtain ⟨hresult, hrest, henough⟩ := hcall
      rcases hresult with hwaiting | ⟨hcomplete, hmessage, hincoming⟩
      · rw [if_neg (by simp [hwaiting])]
        refine .waiting hwaiting fun hbrought => ?_
        have hcontra := (henough hbrought).1
        rw [hwaiting] at hcontra
        contradiction
      · rw [if_pos hcomplete, hincoming]
        exact .cons hcomplete hmessage hincoming (fun hbrought => (henough hbrought).2)
          (ih hremaining hrest)

/-- Messages within the receiver's limit come back one by one, whatever the
kernel does to the transfers: the `k`-th call that returns has taken the `k`-th
message and exactly the first `k` frames, and it does return once the kernel
has delivered as often as those frames have bytes. -/
theorem receiveMessages_of_sendMessages
    (sender receiver : UnixSocketConnection) (maxSize : ℕ) (messages : List Bytes)
    (sendAnswers : List SendAnswer) (recvAnswers : List RecvAnswer)
    (hopen : receiver.isOpen)
    (hmessages : ∀ message ∈ messages,
      message.length < 2 ^ 32 ∧ message.length ≤ maxSize)
    (hsent : ∀ run ∈ sendMessages sender messages sendAnswers,
      run.outcome = .complete)
    (hanswers : ShortCountsOrInterrupts recvAnswers) :
    let stream := (sendMessages sender messages sendAnswers).flatMap WriteRun.accepted
    let runs := receiveMessages receiver maxSize messages.length stream recvAnswers
    (∀ k run, runs[k]? = some run → run.outcome = .waiting ∨
      run.outcome = .complete ∧ messages[k]? = some run.message ∧
        stream = ((messages.take (k + 1)).flatMap frame) ++ run.incoming) ∧
      ∀ k < messages.length,
        ((messages.take (k + 1)).flatMap frame).length ≤
            deliveries recvProgress recvAnswers →
          ∃ run, runs[k]? = some run ∧ run.outcome = .complete := by
  intro stream runs
  have hstream : stream = frameCode.encodeAll messages := sendMessages_accepted hsent
  obtain ⟨hinOrder, hreturns⟩ :=
    receiveMessages_on_frames hopen hmessages hanswers.fragmented
  rw [← hstream] at hinOrder hreturns
  refine ⟨fun k run hrun => ?_, hreturns⟩
  rcases hinOrder k run hrun with hwaiting | ⟨hcomplete, hmessage, hincoming⟩
  · exact .inl hwaiting
  · refine .inr ⟨hcomplete, hmessage, ?_⟩
    calc
      stream = frameCode.encodeAll (messages.take (k + 1) ++ messages.drop (k + 1)) := by
        rw [List.take_append_drop, hstream]
      _ = (messages.take (k + 1)).flatMap frame ++ run.incoming := by
        rw [Code.encodeAll_append, hincoming]
        rfl

/-- Two messages, the first of them empty, split inside the length fields. -/
theorem receiveMessages_of_split_sends :
    let stream := (sendMessages ⟨4⟩ [[], [7, 8]]
      [.count 3, .errno EINTR, .count 1, .count 2, .count 9, .count 9]).flatMap
        WriteRun.accepted
    let runs := receiveMessages ⟨3⟩ 2 2 stream
      [.count 1, .errno EINTR, .count 0, .count 0, .count 2, .count 0, .count 0,
        .count 0, .count 0, .count 0]
    (∀ k run, runs[k]? = some run → run.outcome = .waiting ∨
      run.outcome = .complete ∧ [[], [7, 8]][k]? = some run.message ∧
        stream = (([[], [7, 8]].take (k + 1)).flatMap frame) ++ run.incoming) ∧
      ∀ k < 2,
        (([[], [7, 8]].take (k + 1)).flatMap frame).length ≤
            deliveries recvProgress
              [.count 1, .errno EINTR, .count 0, .count 0, .count 2, .count 0, .count 0,
                .count 0, .count 0, .count 0] →
          ∃ run, runs[k]? = some run ∧ run.outcome = .complete :=
  receiveMessages_of_sendMessages ⟨4⟩ ⟨3⟩ 2 [[], [7, 8]]
    [.count 3, .errno EINTR, .count 1, .count 2, .count 9, .count 9]
    [.count 1, .errno EINTR, .count 0, .count 0, .count 2, .count 0, .count 0,
      .count 0, .count 0, .count 0]
    (by decide) (by decide) (by decide)
    (by intro answer hmem errno herrno; subst herrno; simpa using hmem)

end ElapPlatform.Ipc
