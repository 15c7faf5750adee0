import ElapPlatform.InteractionPostcondition
import ElapPlatform.SampleIpcRuns

/-!
# The size limits of the sample programs

Both programs receive up to 64 KiB, and the reply is longer than its request.  A request
that the listener answers comes back to the client exactly if the reply is still within the
limit.
-/

namespace ElapPlatform.Ipc

open Interaction Interaction.Program Transition

/-! ## The two streams -/

def StreamCall.IsClose (call : StreamCall) : Prop := ∃ fd, call = .close fd

/-- What one answer moves. -/
structure SocketPair.Moves (party : Party) (before : SocketPair) (exchange : StreamExchange)
    (after : SocketPair) : Prop where
  sent : after.inFlight party = before.inFlight party ++ sentBytes [exchange]
  received : before.inFlight party.peer = receivedBytes [exchange] ++ after.inFlight party.peer
  closed : ∀ other, before.closed other = true → after.closed other = true
  closes : exchange.1.IsClose → after.closed party = true
  silent : before.closed party = true → sentBytes [exchange] = []
  ended : EndOfStream exchange →
    before.inFlight party.peer = [] ∧ before.closed party.peer = true
  fits : FitsBuffers [exchange]

section Moves

variable {party : Party} {before after : SocketPair} {exchange : StreamExchange}

@[simp] theorem Party.peer_peer (party : Party) : party.peer.peer = party := by
  cases party <;> rfl

theorem Party.peer_ne (party : Party) : party.peer ≠ party := by
  cases party <;> simp [Party.peer]

theorem Party.eq_or_eq_peer (party other : Party) : other = party ∨ other = party.peer := by
  cases party <;> cases other <;> simp [Party.peer]

/-- No byte is moved. -/
theorem SocketPair.Moves.still (hsent : sentBytes [exchange] = [])
    (hreceived : receivedBytes [exchange] = []) (hnoEnd : ¬ EndOfStream exchange)
    (hfits : FitsBuffers [exchange]) (hflight : after.inFlight = before.inFlight)
    (hclosed : ∀ other, before.closed other = true → after.closed other = true)
    (hcloses : exchange.1.IsClose → after.closed party = true) :
    SocketPair.Moves party before exchange after := by
  refine ⟨?_, ?_, hclosed, hcloses, fun _ => hsent, fun hend => absurd hend hnoEnd, hfits⟩
  · rw [hsent, hflight, List.append_nil]
  · rw [hreceived, hflight, List.nil_append]

theorem SocketPair.Moves.unchanged (hsent : sentBytes [exchange] = [])
    (hreceived : receivedBytes [exchange] = []) (hnoEnd : ¬ EndOfStream exchange)
    (hfits : FitsBuffers [exchange]) (hnotClose : ¬ exchange.1.IsClose) :
    SocketPair.Moves party before exchange before :=
  .still hsent hreceived hnoEnd hfits rfl (fun _ hclosed => hclosed)
    (fun hclose => absurd hclose hnotClose)

theorem SocketPair.answers_moves {call : StreamCall} {reply : call.Reply}
    (hanswer : before.answers party call reply after) :
    SocketPair.Moves party before ⟨call, reply⟩ after := by
  cases call with
  | now =>
      obtain rfl : after = before := hanswer
      exact .unchanged rfl rfl (by simp [EndOfStream]) (by simp [FitsBuffers])
        (by simp [StreamCall.IsClose])
  | poll event timeout =>
      obtain rfl : after = before := hanswer
      exact .unchanged rfl rfl (by simp [EndOfStream]) (by simp [FitsBuffers])
        (by simp [StreamCall.IsClose])
  | close fd =>
      obtain rfl : after = _ := hanswer
      refine .still rfl rfl (by simp [EndOfStream]) (by simp [FitsBuffers]) rfl ?_ ?_
      · intro other hclosed
        by_cases hown : other = party
        · simp [hown]
        · simp [hown, hclosed]
      · simp
  | accept =>
      have hsame : after = before := by
        rcases reply with errno | fd
        · exact hanswer
        · exact hanswer.2
      subst hsame
      exact .unchanged rfl rfl (by simp [EndOfStream]) (by simp [FitsBuffers])
        (by simp [StreamCall.IsClose])
  | send bytes =>
      rcases reply with errno | count
      · obtain rfl : after = before := hanswer
        exact .unchanged rfl rfl (by simp [EndOfStream]) (by simp [FitsBuffers])
          (by simp [StreamCall.IsClose])
      · obtain ⟨hcount, hopen, rfl⟩ := hanswer
        refine ⟨?_, ?_, fun _ => id, ?_, ?_, ?_, ?_⟩
        · simp [sentBytes]
        · simp [receivedBytes, Party.peer_ne]
        · simp [StreamCall.IsClose]
        · simp [hopen]
        · simp [EndOfStream]
        · simp [FitsBuffers]
  | recv size =>
      rcases reply with errno | chunk
      · obtain rfl : after = before := hanswer
        exact .unchanged rfl rfl (by simp [EndOfStream]) (by simp [FitsBuffers])
          (by simp [StreamCall.IsClose])
      · obtain ⟨hfits, hend, rest, hchunk, rfl⟩ := hanswer
        refine ⟨?_, ?_, fun _ => id, ?_, fun _ => rfl, ?_, ?_⟩
        · simp [sentBytes, (Party.peer_ne party).symm]
        · simp [receivedBytes, hchunk]
        · simp [StreamCall.IsClose]
        · rintro ⟨size', hsame⟩
          cases hsame
          exact hend rfl
        · intro size' chunk' hmem
          cases List.mem_singleton.mp hmem
          exact hfits

end Moves

/-- What a party has sent is what its peer has read and what is in flight, and its peer does
not see the end of the stream before that. -/
structure Flows (sender : Party) (history : SampleHistory) (pair : SocketPair) : Prop where
  bytes : sentBytes (exchangesBy sender history) =
    receivedBytes (exchangesBy sender.peer history) ++ pair.inFlight sender
  ended : (∃ exchange ∈ exchangesBy sender.peer history, EndOfStream exchange) →
    pair.inFlight sender = [] ∧ pair.closed sender = true
  closes : (∃ exchange ∈ exchangesBy sender history, exchange.1.IsClose) →
    pair.closed sender = true
  fits : FitsBuffers (exchangesBy sender.peer history)

section Flow

variable {sender : Party} {history : SampleHistory} {session : SampleSession}
  {before after : SocketPair} {exchange : StreamExchange}

theorem Flows.sends (hflows : Flows sender history before)
    (hmoves : SocketPair.Moves sender before exchange after) :
    Flows sender (history ++ [(session, ⟨sender, exchange⟩)]) after := by
  have hother : exchangesBy sender.peer (history ++ [(session, ⟨sender, exchange⟩)]) =
      exchangesBy sender.peer history := exchangesBy_snoc_other (Party.peer_ne sender).symm
  constructor
  · rw [hother, exchangesBy_snoc_own, sentBytes_append, hflows.bytes, List.append_assoc,
      hmoves.sent]
  · rw [hother]
    intro hended
    obtain ⟨hempty, hclosed⟩ := hflows.ended hended
    refine ⟨?_, hmoves.closed sender hclosed⟩
    rw [hmoves.sent, hempty, hmoves.silent hclosed, List.append_nil]
  · rw [exchangesBy_snoc_own]
    rintro ⟨other, hmem, hclose⟩
    rcases List.mem_append.mp hmem with hearlier | hlast
    · exact hmoves.closed sender (hflows.closes ⟨other, hearlier, hclose⟩)
    · exact hmoves.closes (List.mem_singleton.mp hlast ▸ hclose)
  · rw [hother]
    exact hflows.fits

theorem Flows.receives (hflows : Flows sender history before)
    (hmoves : SocketPair.Moves sender.peer before exchange after) :
    Flows sender (history ++ [(session, ⟨sender.peer, exchange⟩)]) after := by
  have hother : exchangesBy sender (history ++ [(session, ⟨sender.peer, exchange⟩)]) =
      exchangesBy sender history := exchangesBy_snoc_other (Party.peer_ne sender)
  have hreceived := hmoves.received
  have hend := hmoves.ended
  rw [Party.peer_peer] at hreceived hend
  constructor
  · rw [hother, exchangesBy_snoc_own, receivedBytes_append, hflows.bytes, List.append_assoc,
      hreceived]
  · rw [exchangesBy_snoc_own]
    rintro ⟨other, hmem, hended⟩
    have hbefore : before.inFlight sender = [] ∧ before.closed sender = true := by
      rcases List.mem_append.mp hmem with hearlier | hlast
      · exact hflows.ended ⟨other, hearlier, hended⟩
      · exact hend (List.mem_singleton.mp hlast ▸ hended)
    rw [hbefore.1] at hreceived
    exact ⟨(List.append_eq_nil_iff.mp hreceived.symm).2, hmoves.closed sender hbefore.2⟩
  · rw [hother]
    exact fun hclose => hmoves.closed sender (hflows.closes hclose)
  · rw [exchangesBy_snoc_own]
    intro size chunk hmem
    rcases List.mem_append.mp hmem with hearlier | hlast
    · exact hflows.fits size chunk hearlier
    · exact hmoves.fits size chunk hlast

theorem run_flows {client : StreamProgram ClientResult} {listener : StreamProgram ListenerRound}
    (hrun : Run (TurnStep SocketPair.answers) (sampleSession client listener) history session)
    (sender : Party) : Flows sender history session.state := by
  refine hrun.invariant (fun history session => Flows sender history session.state) ?_ ?_
  · constructor <;> simp [sentBytes, receivedBytes, sampleSession, FitsBuffers]
  · intro history session turn next _ hflows hstep
    cases hstep with
    | @asks mover question rest reply state hprogram hanswer =>
        have hmoves := SocketPair.answers_moves hanswer
        rcases Party.eq_or_eq_peer sender mover with rfl | rfl
        · exact hflows.sends hmoves
        · exact hflows.receives hmoves

end Flow

/-! ## What the programs move -/

def StreamCall.IsTransfer (call : StreamCall) : Prop := call.IsSend ∨ call.IsRecv

def Quiet (exchanges : List StreamExchange) : Prop :=
  ∀ exchange ∈ exchanges, ¬ exchange.1.IsTransfer

section Programs

variable {exchanges : List StreamExchange} {connection : UnixSocketConnection}

theorem Quiet.sent (hquiet : Quiet exchanges) : sentBytes exchanges = [] :=
  sentBytes_eq_nil fun exchange hmem hsend => hquiet exchange hmem (.inl hsend)

theorem Quiet.received (hquiet : Quiet exchanges) : receivedBytes exchanges = [] :=
  receivedBytes_eq_nil fun exchange hmem hrecv => hquiet exchange hmem (.inr hrecv)

theorem close_asksOnly {permitted : StreamCall → Prop} (hclose : ∀ fd, permitted (.close fd)) :
    connection.close.AsksOnly permitted := by
  unfold UnixSocketConnection.close
  split_ifs
  · exact ⟨hclose _, fun _ => asksOnly_done⟩
  · exact asksOnly_done

theorem not_isTransfer_close (fd : ℤ) : ¬ (StreamCall.close fd).IsTransfer := by
  simp [StreamCall.IsTransfer, StreamCall.IsSend, StreamCall.IsRecv]

theorem not_isTransfer_poll (event : PollEvent) (timeout : ℤ) :
    ¬ (StreamCall.poll event timeout).IsTransfer := by
  simp [StreamCall.IsTransfer, StreamCall.IsSend, StreamCall.IsRecv]

theorem not_isTransfer_accept : ¬ StreamCall.accept.IsTransfer := by
  simp [StreamCall.IsTransfer, StreamCall.IsSend, StreamCall.IsRecv]

theorem closing_transcript {Result : Type} {value result : Result}
    (htranscript : Transcript (closing connection value) exchanges result) :
    result = value ∧ Quiet exchanges ∧
      (connection.isOpen = true → ∃ exchange ∈ exchanges, exchange.1.IsClose) := by
  obtain ⟨first, _, after, rfl, hclose, hdone⟩ := transcript_bind_iff.mp htranscript
  obtain ⟨rfl, rfl⟩ := transcript_done_iff.mp hdone
  rw [List.append_nil]
  refine ⟨rfl, hclose.asked_permitted (fun call => ¬ call.IsTransfer)
    (close_asksOnly not_isTransfer_close), fun hopen => ?_⟩
  have hfd : connection.fd ≥ 0 := by simpa [UnixSocketConnection.isOpen] using hopen
  rw [UnixSocketConnection.close, if_pos hfd] at hclose
  obtain ⟨reply, rest, rfl, -⟩ := transcript_ask_iff.mp hclose
  exact ⟨_, List.mem_cons_self, connection.fd, rfl⟩

variable {server : UnixSocketServer} {passes polls : ℕ}

theorem accept_asksOnly {permitted : StreamCall → Prop} (haccept : permitted .accept) :
    (server.accept passes).AsksOnly permitted := by
  unfold UnixSocketServer.accept
  split_ifs
  · exact asksOnly_done
  · induction passes with
    | zero => exact asksOnly_done
    | succ passes ih =>
        refine ⟨haccept, fun reply => ?_⟩
        rcases reply with errno | fd
        · change (if errno = EINTR then UnixSocketServer.acceptClient passes
            else _).AsksOnly permitted
          split_ifs
          · exact ih
          · exact asksOnly_done
        · exact asksOnly_done

theorem waitForClient_asksOnly {permitted : StreamCall → Prop} (haccept : permitted .accept)
    (hpoll : ∀ event timeout, permitted (.poll event timeout)) (timeout : ℤ) :
    (server.waitForClient connection timeout passes).AsksOnly permitted := by
  induction passes with
  | zero => exact asksOnly_done
  | succ passes ih =>
      rw [UnixSocketServer.waitForClient_succ]
      refine ⟨hpoll _ _, fun answer => ?_⟩
      cases answer with
      | events revents => exact (accept_asksOnly haccept).bind fun _ => asksOnly_done
      | expired => exact asksOnly_done
      | failed errno =>
          dsimp only
          split_ifs
          · exact ih
          · exact asksOnly_done

theorem tryAccept_asksOnly {permitted : StreamCall → Prop} (haccept : permitted .accept)
    (hpoll : ∀ event timeout, permitted (.poll event timeout))
    (hclose : ∀ fd, permitted (.close fd)) (timeout : ℤ) :
    (server.tryAccept connection timeout passes).AsksOnly permitted := by
  unfold UnixSocketServer.tryAccept
  refine (close_asksOnly hclose).bind fun closed => ?_
  split_ifs
  · exact asksOnly_done
  · exact waitForClient_asksOnly haccept hpoll timeout

/-- A connection is returned open, or not at all. -/
def ReturnsOpen (result : Option TryAcceptResult) : Prop :=
  ∀ accepted, result = some accepted → accepted.accepted = true →
    accepted.connection.isOpen = true

theorem tryAccept_ensures (timeout : ℤ) :
    (server.tryAccept connection timeout passes).Ensures ReturnsOpen := by
  have hrefused : ∀ (closed : UnixSocketConnection) (error : Option ErrorText),
      ReturnsOpen (some ⟨false, closed, error⟩) := by
    simp [ReturnsOpen]
  have hwait : ∀ closed : UnixSocketConnection,
      (server.waitForClient closed timeout passes).Ensures ReturnsOpen := by
    intro closed
    induction passes with
    | zero => simp [UnixSocketServer.waitForClient, ReturnsOpen]
    | succ passes ih =>
        rw [UnixSocketServer.waitForClient_succ]
        intro answer
        cases answer with
        | events revents =>
            refine ensures_bind_iff.mpr (.of_forall (fun accepted => ?_) _)
            cases accepted <;> simp [ReturnsOpen]
        | expired => exact hrefused closed none
        | failed errno =>
            dsimp only
            split_ifs
            · exact ih
            · exact hrefused closed _
  unfold UnixSocketServer.tryAccept
  refine ensures_bind_iff.mpr (.of_forall (fun closed => ?_) _)
  split_ifs
  · exact hrefused closed _
  · exact hwait closed

/-- A reply behind which the round went on to its end. -/
theorem replyTo_transcript {request : Bytes} {received : Calls.ReceiveResult}
    (htranscript : Transcript (replyTo connection polls passes received) exchanges
      (.replied request none)) :
    received.outcome = .complete ∧ received.message = request ∧
      receivedBytes exchanges = [] ∧ sentBytes exchanges = frame (sampleReply request) ∧
      (connection.isOpen = true → ∃ exchange ∈ exchanges, exchange.1.IsClose) := by
  obtain ⟨outcome, message⟩ := received
  cases outcome with
  | waiting => cases (transcript_done_iff.mp htranscript).2
  | failed error => cases (closing_transcript htranscript).1
  | complete =>
      obtain ⟨sends, closes, sent, rfl, hsend, hclosing⟩ := transcript_bind_iff.mp htranscript
      cases sent with
      | waiting => cases (transcript_done_iff.mp hclosing).2
      | failed error => cases (closing_transcript hclosing).1
      | complete =>
          obtain ⟨hresult, hquiet, hclose⟩ := closing_transcript hclosing
          cases hresult
          have hsends := sendMessageTimed_sends (by decide) hsend
          have hnone : receivedBytes sends = [] := by
            refine receivedBytes_eq_nil (hsend.asked_permitted (fun call => ¬ call.IsRecv) ?_)
            refine sendMessageTimed_asksOnly _ _ _ _ (by decide) ?_ (fun _ => ?_) fun _ => ?_
            all_goals simp [StreamCall.IsRecv]
          refine ⟨rfl, rfl, ?_, ?_, fun hopen => ?_⟩
          · rw [receivedBytes_append, hnone, hquiet.received, List.append_nil]
          · rw [sentBytes_append, hsends.complete_iff.mp rfl, hquiet.sent, List.append_nil]
          · obtain ⟨exchange, hmem, hcloses⟩ := hclose hopen
            exact ⟨exchange, List.mem_append_right _ hmem, hcloses⟩

theorem listenerRound_transcript {request : Bytes} (hfits : FitsBuffers exchanges)
    (htranscript : Transcript (listenerRound server polls passes) exchanges
      (.replied request none)) :
    receivedBytes exchanges = frame request ∧ request.length ≤ sampleMaxSize ∧
      sentBytes exchanges = frame (sampleReply request) ∧
      ∃ exchange ∈ exchanges, exchange.1.IsClose := by
  obtain ⟨accepts, rest, result, rfl, haccept, hrest⟩ := transcript_bind_iff.mp htranscript
  have hquiet : Quiet accepts := by
    refine haccept.asked_permitted (fun call => ¬ call.IsTransfer) ?_
    exact tryAccept_asksOnly not_isTransfer_accept not_isTransfer_poll not_isTransfer_close 100
  have hreturned : ReturnsOpen result := haccept.ensured (tryAccept_ensures 100)
  rcases result with _ | ⟨accepted, connection, error⟩
  · cases (transcript_done_iff.mp hrest).2
  · cases accepted with
    | false => cases (transcript_done_iff.mp hrest).2
    | true =>
        have hopen : connection.isOpen = true := hreturned _ rfl rfl
        obtain ⟨receives, replies, received, rfl, hreceive, hreply⟩ :=
          transcript_bind_iff.mp hrest
        obtain ⟨hcomplete, rfl, hnone, hsent, hclose⟩ := replyTo_transcript hreply
        obtain ⟨hreceived, hlength⟩ := receiveMessageTimed_frame (by decide)
          hfits.split.2.split.1 hreceive hcomplete
        have hsilent : sentBytes receives = [] := by
          refine sentBytes_eq_nil (hreceive.asked_permitted (fun call => ¬ call.IsSend) ?_)
          refine receiveMessageTimed_asksOnly _ _ _ _ (by decide) ?_ (fun _ => ?_) fun _ => ?_
          all_goals simp [StreamCall.IsSend]
        obtain ⟨exchange, hmem, hcloses⟩ := hclose hopen
        refine ⟨?_, hlength, ?_, exchange, ?_, hcloses⟩
        · simp [hquiet.received, hreceived, hnone]
        · simp [hquiet.sent, hsilent, hsent]
        · simp [hmem]

theorem printResponse_transcript {response : Calls.ReceiveResult} {result : ClientResult}
    (htranscript : Transcript (printResponse connection response) exchanges result) :
    Quiet exchanges ∧ result = match response.outcome with
      | .complete => .printed response.message
      | .failed error => .failed error
      | .waiting => .waiting := by
  obtain ⟨outcome, message⟩ := response
  cases outcome with
  | waiting =>
      obtain ⟨rfl, rfl⟩ := transcript_done_iff.mp htranscript
      exact ⟨by simp [Quiet], rfl⟩
  | failed error =>
      obtain ⟨rfl, hquiet, -⟩ := closing_transcript htranscript
      exact ⟨hquiet, rfl⟩
  | complete =>
      obtain ⟨rfl, hquiet, -⟩ := closing_transcript htranscript
      exact ⟨hquiet, rfl⟩

/-- A client that sent all of its message went on to receive. -/
theorem clientMain_transcript {message : Bytes} {result : ClientResult}
    (hsize : sentBytes exchanges = frame message)
    (htranscript : Transcript (clientMain connection message passes) exchanges result) :
    ∃ sends receives prints response, exchanges = sends ++ (receives ++ prints) ∧
      receivedBytes sends = [] ∧ Quiet prints ∧
      Transcript (Calls.receiveMessage connection sampleMaxSize passes) receives response ∧
      result = match response.outcome with
        | .complete => .printed response.message
        | .failed error => .failed error
        | .waiting => .waiting := by
  obtain ⟨sends, rest, sent, rfl, hsend, hrest⟩ := transcript_bind_iff.mp htranscript
  have hsends := sendMessage_sends hsend
  have hstopped : Quiet rest → sent = .complete := by
    intro hquiet
    rw [sentBytes_append, hquiet.sent, List.append_nil] at hsize
    exact hsends.complete_iff.mpr hsize
  cases sent with
  | waiting =>
      obtain ⟨rfl, -⟩ := transcript_done_iff.mp hrest
      cases hstopped (by simp [Quiet])
  | failed error => cases hstopped (closing_transcript hrest).2.1
  | complete =>
      obtain ⟨receives, prints, response, rfl, hreceive, hprint⟩ := transcript_bind_iff.mp hrest
      obtain ⟨hquiet, hresult⟩ := printResponse_transcript hprint
      have hnone : receivedBytes sends = [] := by
        refine receivedBytes_eq_nil (hsend.asked_permitted (fun call => ¬ call.IsRecv) ?_)
        refine sendMessage_asksOnly _ _ _ fun _ => ?_
        simp [StreamCall.IsRecv]
      exact ⟨sends, receives, prints, response, rfl, hnone, hquiet, hreceive, hresult⟩

theorem closing_asksOnly {permitted : StreamCall → Prop} {Result : Type} {value : Result}
    (hclose : ∀ fd, permitted (.close fd)) : (closing connection value).AsksOnly permitted :=
  (close_asksOnly hclose).bind fun _ => asksOnly_done

/-- The client sends nothing but its message, and no message that is too large. -/
theorem clientMain_sends {message : Bytes} {result : ClientResult}
    (htranscript : Transcript (clientMain connection message passes) exchanges result) :
    sentBytes exchanges <+: frame message ∧
      (sentBytes exchanges ≠ [] → message.length < 2 ^ 32) := by
  obtain ⟨sends, rest, sent, rfl, hsend, hrest⟩ := transcript_bind_iff.mp htranscript
  have hsilent : sentBytes rest = [] := by
    have hclose : ∀ fd, ¬ (StreamCall.close fd).IsSend := by simp [StreamCall.IsSend]
    have hrecv : ∀ size, ¬ (StreamCall.recv size).IsSend := by simp [StreamCall.IsSend]
    refine sentBytes_eq_nil (hrest.asked_permitted (fun call => ¬ call.IsSend) ?_)
    cases sent with
    | waiting => exact asksOnly_done
    | failed error => exact closing_asksOnly hclose
    | complete =>
        refine (receiveMessage_asksOnly _ _ _ hrecv).bind fun response => ?_
        unfold printResponse
        split
        · exact asksOnly_done
        · exact closing_asksOnly hclose
        · exact closing_asksOnly hclose
  rw [sentBytes_append, hsilent, List.append_nil]
  refine ⟨(sendMessage_sends hsend).initial, fun hsome => ?_⟩
  by_contra hlarge
  refine hsome ?_
  have hrefused : ∃ error, Calls.sendMessage connection message passes = .done (.failed error) := by
    by_cases hopen : connection.isOpen
    · exact ⟨_, Calls.sendMessage_of_too_large hopen (by unfold uint32Max; omega) passes⟩
    · refine ⟨.message "send failed: connection is not open", ?_⟩
      rw [Calls.sendMessage, if_pos hopen]
      rfl
  obtain ⟨error, hrefused⟩ := hrefused
  rw [hrefused] at hsend
  obtain ⟨rfl, -⟩ := transcript_done_iff.mp hsend
  rfl

end Programs

/-! ## The limit -/

section Sessions

variable {connection : UnixSocketConnection} {message request : Bytes} {server : UnixSocketServer}
  {clientPasses polls passes : ℕ} {history : SampleHistory} {session : SampleSession}
  {result : ClientResult}

/-- The client's end of an answered session. -/
theorem replied_session (hopen : connection.isOpen)
    (hrun : Run (TurnStep SocketPair.answers)
      (sampleSession (clientMain connection message clientPasses)
        (listenerRound server polls passes)) history session)
    (hreplied : session.programs .listener = .done (.replied request none))
    (hclient : session.programs .client = .done result)
    (hsocket : ∀ exchange ∈ exchangesBy .client history, ¬ SocketFailure exchange)
    (hpasses : interruptions (exchangesBy .client history) + sampleMaxSize ≤ clientPasses) :
    request = message ∧
      result = if request.length + 18 ≤ 65536 then .printed (sampleReply request)
        else .failed (.message "receive failed: message exceeds maximum size") := by
  have htoListener := run_flows hrun .client
  have htoClient := run_flows hrun .listener
  obtain ⟨hreceived, hlimit, hsent, -⟩ :=
    listenerRound_transcript htoListener.fits (transcript_of_done hrun hreplied)
  have hclientMain := transcript_of_done hrun hclient
  obtain ⟨hinitial, hsmall⟩ := clientMain_sends hclientMain
  have htaken : frame request <+: sentBytes (exchangesBy .client history) := by
    rw [htoListener.bytes]
    exact ⟨_, congrArg (· ++ session.state.inFlight .client) hreceived.symm⟩
  have hmessage : message.length < 2 ^ 32 := by
    refine hsmall fun hnothing => ?_
    rw [hnothing, List.prefix_nil] at htaken
    simpa using congrArg List.length htaken
  unfold sampleMaxSize at hlimit
  obtain rfl : request = message :=
    frame_prefix_free (by omega) hmessage (htaken.trans hinitial)
  have hall : sentBytes (exchangesBy .client history) = frame request :=
    hinitial.eq_of_length_le htaken.length_le
  obtain ⟨sends, receives, prints, response, hexchanges, hnone, hquiet, hreceive, hresult⟩ :=
    clientMain_transcript hall hclientMain
  have hstream : frame (sampleReply request) =
      receivedBytes receives ++ session.state.inFlight .listener := by
    have hflow : frame (sampleReply request) =
        receivedBytes (exchangesBy .client history) ++ session.state.inFlight .listener :=
      hsent.symm.trans htoClient.bytes
    rw [hflow, hexchanges]
    simp [hnone, hquiet.received]
  have hmem : ∀ exchange ∈ receives, exchange ∈ exchangesBy .client history := by
    intro exchange hmem
    rw [hexchanges]
    simp [hmem]
  have hfits : FitsBuffers receives := fun size chunk hchunk =>
    htoClient.fits size chunk (hmem _ hchunk)
  have hlength := sampleReply_length request
  have hresponse : response = receivedFrame sampleMaxSize (sampleReply request) := by
    refine receiveMessage_of_frame hopen (by omega) hfits ⟨_, hstream.symm⟩ ?_
      (fun exchange hchunk => hsocket exchange (hmem exchange hchunk)) ?_ hreceive
    · rintro ⟨exchange, hchunk, hended⟩
      obtain ⟨hempty, -⟩ := htoClient.ended ⟨exchange, hmem exchange hchunk, hended⟩
      rw [hstream, hempty, List.append_nil]
    · rw [hexchanges] at hpasses
      simp only [interruptions_append, sampleMaxSize] at hpasses ⊢
      omega
  refine ⟨rfl, ?_⟩
  rw [hresult, hresponse, receivedFrame, hlength, sampleMaxSize]
  split_ifs <;> rfl

/-- The client gets the reply exactly if the request is 18 bytes below its limit. -/
theorem client_prints_reply_iff (hopen : connection.isOpen)
    (hrun : Run (TurnStep SocketPair.answers)
      (sampleSession (clientMain connection message clientPasses)
        (listenerRound server polls passes)) history session)
    (hreplied : session.programs .listener = .done (.replied request none))
    (hclient : session.programs .client = .done result)
    (hsocket : ∀ exchange ∈ exchangesBy .client history, ¬ SocketFailure exchange)
    (hpasses : interruptions (exchangesBy .client history) + sampleMaxSize ≤ clientPasses) :
    request = message ∧
      (result = .printed (sampleReply request) ↔ request.length + 18 ≤ 65536) := by
  obtain ⟨hsame, hresult⟩ :=
    replied_session hopen hrun hreplied hclient hsocket hpasses
  refine ⟨hsame, ?_⟩
  rw [hresult]
  split_ifs with hsmall
  · exact iff_of_true rfl hsmall
  · exact iff_of_false (by simp) hsmall

/-- A request of two bytes. -/
theorem two_bytes_come_back :
    ∃ history session result,
      Run (TurnStep SocketPair.answers)
        (sampleSession (clientMain ⟨3⟩ [104, 105] 65537)
          (listenerRound UnixSocketServer.listening 1 2)) history session ∧
      session.programs .client = .done result ∧
      ([104, 105] : Bytes) = [104, 105] ∧
      (result = .printed (sampleReply [104, 105]) ↔ 2 + 18 ≤ 65536) := by
  obtain ⟨history, session, result, hrun, hreplied, hclient, hfine⟩ :=
    @exists_replied_session ⟨3⟩ [104, 105] UnixSocketServer.listening 0 0 (by decide) (by decide)
      (by decide) 65536
  obtain ⟨hsocket, hquiet⟩ := @unhindered_exchanges history .client hfine
  have hprints := client_prints_reply_iff (by decide) hrun hreplied hclient hsocket
    (by rw [hquiet]; decide)
  exact ⟨history, session, result, hrun, hclient, hprints⟩

/-- A request as long as both limits. -/
def longestRequest : Bytes := List.replicate sampleMaxSize 97

theorem longestRequest_length : longestRequest.length = sampleMaxSize := List.length_replicate

/-- The listener takes it and sends its reply, and the client refuses the reply. -/
theorem longest_request_refused :
    ∃ history session,
      Run (TurnStep SocketPair.answers)
        (sampleSession (clientMain ⟨3⟩ longestRequest 65537)
          (listenerRound UnixSocketServer.listening 1 2)) history session ∧
      session.programs .listener = .done (.replied longestRequest none) ∧
      (∀ exchange ∈ exchangesBy .client history, ¬ SocketFailure exchange) ∧
      session.programs .client =
        .done (.failed (.message "receive failed: message exceeds maximum size")) := by
  obtain ⟨history, session, result, hrun, hreplied, hclient, hfine⟩ :=
    @exists_replied_session ⟨3⟩ longestRequest UnixSocketServer.listening 0 0 (by decide)
      (by decide) longestRequest_length.le 65536
  obtain ⟨hsocket, hquiet⟩ := @unhindered_exchanges history .client hfine
  obtain ⟨-, hresult⟩ := replied_session (by decide) hrun hreplied hclient hsocket
    (by rw [hquiet]; decide)
  rw [longestRequest_length, if_neg (by decide)] at hresult
  exact ⟨history, session, hrun, hreplied, hsocket, hclient.trans (congrArg _ hresult)⟩

/-- A client that waits for the reply can read some of it. -/
theorem client_can_read
    (hrun : Run (TurnStep SocketPair.answers)
      (sampleSession (clientMain connection message clientPasses)
        (listenerRound server polls passes)) history session)
    (hreplied : session.programs .listener = .done (.replied request none)) {size : ℕ}
    (hsize : 0 < size) :
    ∃ (chunk : Bytes) (after : SocketPair),
      SocketPair.answers .client session.state (.recv size) (.ok chunk) after := by
  have htoListener := run_flows hrun .client
  have htoClient := run_flows hrun .listener
  obtain ⟨-, -, -, hclose⟩ :=
    listenerRound_transcript htoListener.fits (transcript_of_done hrun hreplied)
  have hclosed := htoClient.closes hclose
  let waiting := session.state.inFlight .listener
  refine ⟨waiting.take size, _, by simp, ?_, waiting.drop size,
    (waiting.take_append_drop size).symm, rfl⟩
  intro hnothing
  refine ⟨?_, hclosed⟩
  rcases List.take_eq_nil_iff.mp hnothing with hzero | hempty
  · omega
  · exact hempty

end Sessions

end ElapPlatform.Ipc
