import ElapPlatform.UnixSocketStreamCalls

/-!
# Timed and untimed transfers

Each loop and each message function exists twice.  Where the waits of the timed copy
find the descriptor ready, both copies move the same bytes and return the same.
-/

namespace ElapPlatform.Ipc

open Interaction

variable {α β : Type}

def isTransfer (exchange : StreamExchange) : Bool :=
  match exchange.1 with
  | .send _ => true
  | .recv _ => true
  | _ => false

/-- The byte transfers of a call, with what came of them. -/
def transfers (exchanges : List StreamExchange) : List StreamExchange :=
  exchanges.filter isTransfer

@[simp] theorem transfers_nil : transfers [] = [] := rfl

@[simp] theorem transfers_append (first last : List StreamExchange) :
    transfers (first ++ last) = transfers first ++ transfers last :=
  List.filter_append first last

/-- The descriptor is ready, or the wait for it goes on. -/
def PromptAnswer (event : PollEvent) (answer : PollAnswer) : Prop :=
  answer = .failed EINTR ∨
    ∃ revents, answer = .events revents ∧
      (revents.has event = true ∨ revents.unusable = false)

/-- No wait expires or fails, and no transfer finds that it would have to wait. -/
def SmoothExchange : StreamExchange → Prop
  | ⟨.poll event _, answer⟩ => PromptAnswer event answer
  | ⟨.send _, reply⟩ => reply ≠ .error EAGAIN
  | ⟨.recv _, reply⟩ => reply ≠ .error EAGAIN
  | _ => True

def Smooth (exchanges : List StreamExchange) : Prop :=
  ∀ exchange ∈ exchanges, SmoothExchange exchange

section Lists

variable {exchange : StreamExchange} {exchanges first last : List StreamExchange}

theorem smooth_nil : Smooth [] := by
  intro exchange hmem
  cases hmem

theorem smooth_cons_iff :
    Smooth (exchange :: exchanges) ↔ SmoothExchange exchange ∧ Smooth exchanges :=
  List.forall_mem_cons

theorem smooth_append_iff : Smooth (first ++ last) ↔ Smooth first ∧ Smooth last :=
  List.forall_mem_append

theorem Smooth.split (hsmooth : Smooth (first ++ last)) : Smooth first ∧ Smooth last :=
  smooth_append_iff.mp hsmooth

theorem smooth_singleton_iff : Smooth [exchange] ↔ SmoothExchange exchange := by
  rw [smooth_cons_iff, and_iff_left smooth_nil]

theorem smooth_piecewise : Piecewise Smooth transfers :=
  ⟨Smooth.split, transfers_nil, transfers_append⟩

end Lists

/-! ## Messages whose parts are projected -/

section Frames

variable {admits : List StreamExchange → Prop}
  {project : List StreamExchange → List StreamExchange}

theorem sendPayload_projects {header header' payload payload' : StreamProgram Outcome}
    (hpieces : Piecewise admits project)
    (hheader : Projects admits project (fun outcome => outcome ≠ .waiting) header header')
    (hpayload : Projects admits project (fun outcome => outcome ≠ .waiting) payload payload') :
    Projects admits project (fun outcome => outcome ≠ .waiting)
      (header >>= Calls.sendPayload payload) (header' >>= Calls.sendPayload payload') := by
  apply Projects.bind hpieces hheader
  · intro outcome _
    cases outcome with
    | complete => exact hpayload
    | failed error => exact Projects.done hpieces _
    | waiting => exact Projects.done hpieces _
  · intro outcome hwaiting exchanges result hdone hreturned
    rw [not_not] at hwaiting
    rw [hwaiting] at hdone
    exact hreturned (transcript_done_iff.mp hdone).2

/-- Reading goes on with what is left of the buffer. -/
theorem readRest_projects {rest rest' : StreamProgram Calls.ReadResult}
    {finish : Calls.ReadResult → α} {outcome : α → Outcome}
    (hpieces : Piecewise admits project)
    (houtcome : ∀ result, outcome (finish result) = result.outcome)
    (hrest : Projects admits project (fun result => result.outcome ≠ .waiting) rest rest') :
    Projects admits project (fun result => outcome result ≠ .waiting)
      (rest >>= fun result => .done (finish result))
      (rest' >>= fun result => .done (finish result)) := by
  apply Projects.bind hpieces hrest
  · intro result _
    exact Projects.done hpieces _
  · intro value hwaiting exchanges result hdone hreturned
    obtain ⟨_, rfl⟩ := transcript_done_iff.mp hdone
    rw [houtcome] at hreturned
    exact hwaiting hreturned

theorem receivePayload_projects {header header' : StreamProgram Calls.ReadResult}
    {read read' : ℕ → StreamProgram Calls.ReadResult} (hpieces : Piecewise admits project)
    (hheader : Projects admits project (fun result => result.outcome ≠ .waiting) header header')
    (hread : ∀ size, Projects admits project (fun result => result.outcome ≠ .waiting)
      (read size) (read' size)) (maxSize : ℕ) :
    Projects admits project (fun result => result.outcome ≠ .waiting)
      (header >>= Calls.receivePayload maxSize read)
      (header' >>= Calls.receivePayload maxSize read') := by
  apply Projects.bind hpieces hheader
  · rintro ⟨outcome, data⟩ _
    cases outcome with
    | complete =>
        simp only [Calls.receivePayload]
        split_ifs with hlarge
        · exact Projects.done hpieces _
        · exact readRest_projects hpieces (fun _ => rfl) (hread (ntohl data))
    | failed error => exact Projects.done hpieces _
    | waiting => exact Projects.done hpieces _
  · rintro ⟨outcome, data⟩ hwaiting exchanges result hdone hreturned
    rw [not_not] at hwaiting
    subst hwaiting
    obtain ⟨_, rfl⟩ := transcript_done_iff.mp hdone
    exact hreturned rfl

end Frames

/-! ## One pass of both copies -/

/-- The timed program, where all goes smoothly, moves the same bytes as the other one. -/
abbrev SmoothlyLike {α : Type} (returned : α → Prop) (timed untimed : StreamProgram α) : Prop :=
  Projects Smooth transfers returned timed untimed

section Passes

theorem sendPass_timed {bytes : Bytes} {reply : SystemResult ℕ}
    (hsmooth : SmoothExchange ⟨.send bytes, reply⟩) :
    Calls.sendPass Calls.timedRetried reply = Calls.sendPass [EINTR] reply := by
  rcases reply with errno | (_ | count)
  · have hnot : errno ≠ EAGAIN := by
      rintro rfl
      exact hsmooth rfl
    simp [Calls.sendPass, Calls.timedRetried, EWOULDBLOCK, hnot]
  · rfl
  · rfl

theorem recvPass_timed {size : ℕ} {reply : SystemResult Bytes}
    (hsmooth : SmoothExchange ⟨.recv size, reply⟩) :
    Calls.recvPass Calls.timedRetried reply = Calls.recvPass [EINTR] reply := by
  rcases reply with errno | (_ | ⟨byte, bytes⟩)
  · have hnot : errno ≠ EAGAIN := by
      rintro rfl
      exact hsmooth rfl
    simp [Calls.recvPass, Calls.timedRetried, EWOULDBLOCK, hnot]
  · rfl
  · rfl

theorem waitVerdict_of_prompt {event : PollEvent} {operation : String} {answer : PollAnswer}
    (hprompt : PromptAnswer event answer) :
    Calls.waitVerdict event operation answer = none ∨
      Calls.waitVerdict event operation answer = some .ready := by
  rcases hprompt with rfl | ⟨revents, rfl, hhas | husable⟩
  · exact .inl rfl
  · exact .inr (Calls.waitVerdict_ready_iff.mpr ⟨revents, rfl, hhas⟩)
  · simp only [Calls.waitVerdict, husable]
    split_ifs <;> simp_all

/-- A smooth wait moves no bytes and ends with a ready descriptor. -/
theorem waitForDescriptor_smoothly (event : PollEvent) (deadline : ℤ) (operation : String)
    (polls : ℕ) :
    SmoothlyLike (fun outcome => outcome ≠ .waiting)
      (Calls.waitForDescriptor event deadline operation polls) (.done .ready) := by
  induction polls with
  | zero => exact Projects.of_not_counts (by simp)
  | succ polls ih =>
      rw [Calls.waitForDescriptor_succ]
      apply Projects.hidden smooth_piecewise (fun _ => rfl)
      intro now _
      apply Projects.hidden smooth_piecewise (fun _ => rfl)
      intro answer hsmooth
      rcases waitVerdict_of_prompt (smooth_singleton_iff.mp hsmooth) with hverdict | hverdict
      · rw [hverdict]
        exact ih
      · rw [hverdict]
        exact Projects.done smooth_piecewise _

theorem SmoothlyLike.after_wait {returned : α → Prop} {untimed : StreamProgram α}
    {rest : WaitOutcome → StreamProgram α} {event : PollEvent} {deadline : ℤ}
    {operation : String} {polls : ℕ}
    (hready : SmoothlyLike returned (rest .ready) untimed)
    (hwaiting : ∀ exchanges result, Transcript (rest .waiting) exchanges result →
      ¬ returned result) :
    SmoothlyLike returned
      (Calls.waitForDescriptor event deadline operation polls >>= rest) untimed := by
  intro exchanges result htranscript hsmooth hreturned
  obtain ⟨first, last, waited, rfl, hwait, hlast⟩ := transcript_bind_iff.mp htranscript
  obtain ⟨hfirst, hsmooth⟩ := hsmooth.split
  by_cases hwaited : waited = .waiting
  · rw [hwaited] at hlast
    exact absurd hreturned (hwaiting last result hlast)
  · have hdone := waitForDescriptor_smoothly event deadline operation polls
      first waited hwait hfirst hwaited
    obtain ⟨hmoved, rfl⟩ := transcript_done_iff.mp hdone
    rw [transfers_append, hmoved, List.nil_append]
    exact hready last result hlast hsmooth hreturned

end Passes

/-! ## Smooth timed calls -/

section Timed

variable (deadline : ℤ) (polls passes : ℕ)

theorem writeAllTimed_smoothly (bytes : Bytes) :
    SmoothlyLike (fun outcome => outcome ≠ .waiting)
      (Calls.writeAllTimed deadline polls passes bytes) (Calls.writeAll passes bytes) := by
  induction passes generalizing bytes with
  | zero => cases bytes <;> exact Projects.done smooth_piecewise _
  | succ passes ih =>
      cases bytes with
      | nil => exact Projects.done smooth_piecewise _
      | cons byte bytes =>
          rw [Calls.writeAllTimed_succ, Calls.writeAll_succ]
          apply SmoothlyLike.after_wait
          · apply Projects.ask smooth_piecewise (fun _ => rfl)
            intro reply hsmooth
            rw [sendPass_timed (smooth_singleton_iff.mp hsmooth)]
            cases Calls.sendPass [EINTR] reply with
            | again => exact ih (byte :: bytes)
            | failed error => exact Projects.done smooth_piecewise _
            | moved count => exact ih ((byte :: bytes).drop count)
          · intro exchanges outcome hwaiting hreturned
            exact hreturned (transcript_done_iff.mp hwaiting).2

theorem readAllTimed_smoothly (size : ℕ) :
    SmoothlyLike (fun result => result.outcome ≠ .waiting)
      (Calls.readAllTimed deadline polls passes size) (Calls.readAll passes size) := by
  induction passes generalizing size with
  | zero => cases size <;> exact Projects.done smooth_piecewise _
  | succ passes ih =>
      cases size with
      | zero => exact Projects.done smooth_piecewise _
      | succ size =>
          rw [Calls.readAllTimed_succ, Calls.readAll_succ]
          apply SmoothlyLike.after_wait
          · apply Projects.ask smooth_piecewise (fun _ => rfl)
            intro reply hsmooth
            rw [recvPass_timed (smooth_singleton_iff.mp hsmooth)]
            cases Calls.recvPass [EINTR] reply with
            | again => exact ih (size + 1)
            | failed error => exact Projects.done smooth_piecewise _
            | moved chunk =>
                exact readRest_projects smooth_piecewise (fun _ => rfl)
                  (ih (size + 1 - chunk.length))
          · intro exchanges result hwaiting hreturned
            obtain ⟨_, rfl⟩ := transcript_done_iff.mp hwaiting
            exact hreturned rfl

variable (connection : UnixSocketConnection) {timeout : ℤ}

theorem sendMessageTimed_smoothly (message : Bytes) (htimeout : 0 ≤ timeout) :
    SmoothlyLike (fun outcome => outcome ≠ .waiting)
      (Calls.sendMessageTimed connection message timeout polls passes)
      (Calls.sendMessage connection message passes) := by
  rcases Calls.sendMessage_cases connection message htimeout polls passes with
    ⟨error, htimed, huntimed⟩ | ⟨htimed, huntimed⟩
  · rw [htimed, huntimed]
    exact Projects.done smooth_piecewise _
  · rw [htimed, huntimed]
    apply Projects.hidden smooth_piecewise (fun _ => rfl)
    intro start _
    exact sendPayload_projects smooth_piecewise
      (writeAllTimed_smoothly (deadlineAfter start timeout) polls passes (htonl message.length))
      (writeAllTimed_smoothly (deadlineAfter start timeout) polls passes message)

theorem receiveMessageTimed_smoothly (maxSize : ℕ) (htimeout : 0 ≤ timeout) :
    SmoothlyLike (fun result => result.outcome ≠ .waiting)
      (Calls.receiveMessageTimed connection maxSize timeout polls passes)
      (Calls.receiveMessage connection maxSize passes) := by
  rcases Calls.receiveMessage_cases connection maxSize htimeout polls passes with
    ⟨error, htimed, huntimed⟩ | ⟨htimed, huntimed⟩
  · rw [htimed, huntimed]
    exact Projects.done smooth_piecewise _
  · rw [htimed, huntimed]
    apply Projects.hidden smooth_piecewise (fun _ => rfl)
    intro start _
    exact receivePayload_projects smooth_piecewise
      (readAllTimed_smoothly (deadlineAfter start timeout) polls passes 4)
      (readAllTimed_smoothly (deadlineAfter start timeout) polls passes) maxSize

end Timed

/-! ## Timed calls for untimed ones -/

/-- Every smooth way of the untimed program is what a smooth way of the timed one moves. -/
def CanBeTimed {α : Type} (timed untimed : StreamProgram α) : Prop :=
  ∀ exchanges result, Transcript untimed exchanges result → Smooth exchanges →
    ∃ waited, Transcript timed waited result ∧ Smooth waited ∧ transfers waited = exchanges

def readyEvents : PollEvent → Revents
  | .pollin => ⟨true, false, false, false, false⟩
  | .pollout => ⟨false, true, false, false, false⟩

section CanBeTimed

theorem CanBeTimed.done (value : α) : CanBeTimed (.done value) (.done value) := by
  intro exchanges result htranscript hsmooth
  obtain ⟨rfl, rfl⟩ := transcript_done_iff.mp htranscript
  exact ⟨[], htranscript, hsmooth, rfl⟩

theorem CanBeTimed.bind {timed untimed : StreamProgram α} {rest rest' : α → StreamProgram β}
    (hfirst : CanBeTimed timed untimed)
    (hrest : ∀ value, CanBeTimed (rest value) (rest' value)) :
    CanBeTimed (timed >>= rest) (untimed >>= rest') := by
  intro exchanges result htranscript hsmooth
  obtain ⟨first, last, middle, rfl, huntimed, hlast⟩ := transcript_bind_iff.mp htranscript
  obtain ⟨hsmoothFirst, hsmoothLast⟩ := hsmooth.split
  obtain ⟨waited, htimed, hwaited, rfl⟩ := hfirst first middle huntimed hsmoothFirst
  obtain ⟨later, htimed', hlater, rfl⟩ := hrest middle last result hlast hsmoothLast
  exact ⟨waited ++ later, transcript_bind_iff.mpr ⟨_, _, middle, rfl, htimed, htimed'⟩,
    smooth_append_iff.mpr ⟨hwaited, hlater⟩, transfers_append waited later⟩

theorem CanBeTimed.ask {call : StreamCall} {next next' : call.Reply → StreamProgram α}
    (htransfer : ∀ reply, isTransfer ⟨call, reply⟩ = true)
    (hnext : ∀ reply, SmoothExchange ⟨call, reply⟩ → CanBeTimed (next reply) (next' reply)) :
    CanBeTimed (.ask call next) (.ask call next') := by
  intro exchanges result htranscript hsmooth
  obtain ⟨reply, rest, rfl, hrest⟩ := transcript_ask_iff.mp htranscript
  obtain ⟨hexchange, hsmooth⟩ := smooth_cons_iff.mp hsmooth
  obtain ⟨waited, htimed, hwaited, rfl⟩ := hnext reply hexchange rest result hrest hsmooth
  refine ⟨⟨call, reply⟩ :: waited, .ask reply htimed,
    smooth_cons_iff.mpr ⟨hexchange, hwaited⟩, ?_⟩
  rw [transfers, List.filter_cons_of_pos (htransfer reply), transfers]

/-- A wait that finds the descriptor ready before its deadline. -/
def readyWait (event : PollEvent) (deadline : ℤ) : List StreamExchange :=
  [⟨.now, deadline - 1⟩,
    ⟨.poll event (pollTimeout (remainingTime deadline (deadline - 1))),
      .events (readyEvents event)⟩]

theorem readyEvents_has (event : PollEvent) : (readyEvents event).has event = true := by
  cases event <;> rfl

theorem readyWait_transcript (event : PollEvent) (deadline : ℤ) (operation : String) :
    Transcript (Calls.waitForDescriptor event deadline operation 1)
      (readyWait event deadline) .ready := by
  have hverdict : Calls.waitVerdict event operation (.events (readyEvents event)) =
      some .ready :=
    Calls.waitVerdict_ready_iff.mpr ⟨_, rfl, readyEvents_has event⟩
  rw [Calls.waitForDescriptor_succ]
  refine transcript_ask_iff.mpr ⟨deadline - 1, _, rfl, ?_⟩
  refine transcript_ask_iff.mpr ⟨.events (readyEvents event), [], rfl, ?_⟩
  simp only [hverdict]
  exact .done _

theorem readyWait_smooth (event : PollEvent) (deadline : ℤ) : Smooth (readyWait event deadline) :=
  smooth_cons_iff.mpr ⟨trivial, smooth_cons_iff.mpr
    ⟨.inr ⟨_, rfl, .inl (readyEvents_has event)⟩, smooth_nil⟩⟩

theorem CanBeTimed.after_wait {untimed : StreamProgram α} {rest : WaitOutcome → StreamProgram α}
    {event : PollEvent} {deadline : ℤ} {operation : String}
    (hready : CanBeTimed (rest .ready) untimed) :
    CanBeTimed (Calls.waitForDescriptor event deadline operation 1 >>= rest) untimed := by
  intro exchanges result htranscript hsmooth
  obtain ⟨waited, htimed, hwaited, htransfers⟩ := hready exchanges result htranscript hsmooth
  exact ⟨readyWait event deadline ++ waited,
    transcript_bind_iff.mpr
      ⟨_, _, .ready, rfl, readyWait_transcript event deadline operation, htimed⟩,
    smooth_append_iff.mpr ⟨readyWait_smooth event deadline, hwaited⟩, htransfers⟩

theorem CanBeTimed.clock {untimed : StreamProgram α} {next : ℤ → StreamProgram α}
    (hnext : ∀ start, CanBeTimed (next start) untimed) :
    CanBeTimed (.ask StreamCall.now next) untimed := by
  intro exchanges result htranscript hsmooth
  obtain ⟨waited, htimed, hwaited, htransfers⟩ :=
    hnext 0 exchanges result htranscript hsmooth
  exact ⟨⟨StreamCall.now, (0 : ℤ)⟩ :: waited,
    transcript_ask_iff.mpr ⟨(0 : ℤ), waited, rfl, htimed⟩,
    smooth_cons_iff.mpr ⟨trivial, hwaited⟩, htransfers⟩

end CanBeTimed

section Untimed

variable (deadline : ℤ) (passes : ℕ)

theorem writeAll_canBeTimed (bytes : Bytes) :
    CanBeTimed (Calls.writeAllTimed deadline 1 passes bytes) (Calls.writeAll passes bytes) := by
  induction passes generalizing bytes with
  | zero => cases bytes <;> exact CanBeTimed.done _
  | succ passes ih =>
      cases bytes with
      | nil => exact CanBeTimed.done _
      | cons byte bytes =>
          rw [Calls.writeAllTimed_succ, Calls.writeAll_succ]
          apply CanBeTimed.after_wait
          apply CanBeTimed.ask (fun _ => rfl)
          intro reply hsmooth
          rw [sendPass_timed hsmooth]
          cases Calls.sendPass [EINTR] reply with
          | again => exact ih (byte :: bytes)
          | failed error => exact CanBeTimed.done _
          | moved count => exact ih ((byte :: bytes).drop count)

theorem readAll_canBeTimed (size : ℕ) :
    CanBeTimed (Calls.readAllTimed deadline 1 passes size) (Calls.readAll passes size) := by
  induction passes generalizing size with
  | zero => cases size <;> exact CanBeTimed.done _
  | succ passes ih =>
      cases size with
      | zero => exact CanBeTimed.done _
      | succ size =>
          rw [Calls.readAllTimed_succ, Calls.readAll_succ]
          apply CanBeTimed.after_wait
          apply CanBeTimed.ask (fun _ => rfl)
          intro reply hsmooth
          rw [recvPass_timed hsmooth]
          cases Calls.recvPass [EINTR] reply with
          | again => exact ih (size + 1)
          | failed error => exact CanBeTimed.done _
          | moved chunk =>
              exact (ih (size + 1 - chunk.length)).bind fun rest => CanBeTimed.done _

theorem sendMessage_canBeTimed {timeout : ℤ} (connection : UnixSocketConnection)
    (message : Bytes) (htimeout : 0 ≤ timeout) :
    CanBeTimed (Calls.sendMessageTimed connection message timeout 1 passes)
      (Calls.sendMessage connection message passes) := by
  rcases Calls.sendMessage_cases connection message htimeout 1 passes with
    ⟨error, htimed, huntimed⟩ | ⟨htimed, huntimed⟩
  · rw [htimed, huntimed]
    exact CanBeTimed.done _
  · rw [htimed, huntimed]
    apply CanBeTimed.clock
    intro start
    apply (writeAll_canBeTimed (deadlineAfter start timeout) passes (htonl message.length)).bind
    intro outcome
    cases outcome with
    | complete => exact writeAll_canBeTimed (deadlineAfter start timeout) passes message
    | failed error => exact CanBeTimed.done _
    | waiting => exact CanBeTimed.done _

theorem receiveMessage_canBeTimed {timeout : ℤ} (connection : UnixSocketConnection)
    (maxSize : ℕ) (htimeout : 0 ≤ timeout) :
    CanBeTimed (Calls.receiveMessageTimed connection maxSize timeout 1 passes)
      (Calls.receiveMessage connection maxSize passes) := by
  rcases Calls.receiveMessage_cases connection maxSize htimeout 1 passes with
    ⟨error, htimed, huntimed⟩ | ⟨htimed, huntimed⟩
  · rw [htimed, huntimed]
    exact CanBeTimed.done _
  · rw [htimed, huntimed]
    apply CanBeTimed.clock
    intro start
    apply (readAll_canBeTimed (deadlineAfter start timeout) passes 4).bind
    rintro ⟨outcome, data⟩
    cases outcome with
    | complete =>
        simp only [Calls.receivePayload]
        split_ifs with hlarge
        · exact CanBeTimed.done _
        · exact (readAll_canBeTimed (deadlineAfter start timeout) passes (ntohl data)).bind
            fun payload => CanBeTimed.done _
    | failed error => exact CanBeTimed.done _
    | waiting => exact CanBeTimed.done _

end Untimed

/-! ## More passes -/

/-- A call that returned would have returned the same with more passes. -/
abbrev Extends {α : Type} (returned : α → Prop) (program extended : StreamProgram α) : Prop :=
  Projects (fun _ => True) id returned program extended

section MorePasses

variable {passes more : ℕ}

theorem writeAll_extends (hmore : passes ≤ more) (bytes : Bytes) :
    Extends (fun outcome => outcome ≠ .waiting)
      (Calls.writeAll passes bytes) (Calls.writeAll more bytes) := by
  induction passes generalizing bytes more with
  | zero =>
      cases bytes with
      | nil =>
          rw [Calls.writeAll_nil, Calls.writeAll_nil]
          exact Projects.done Piecewise.keepsAll _
      | cons byte bytes => exact Projects.of_not_counts (by simp)
  | succ passes ih =>
      obtain ⟨more, rfl⟩ := Nat.exists_eq_add_of_le' (Nat.one_le_of_lt hmore)
      have htail := Nat.le_of_succ_le_succ hmore
      cases bytes with
      | nil => exact Projects.done Piecewise.keepsAll _
      | cons byte bytes =>
          rw [Calls.writeAll_succ, Calls.writeAll_succ]
          apply Projects.ask Piecewise.keepsAll (fun _ => rfl)
          intro reply _
          cases Calls.sendPass [EINTR] reply with
          | again => exact ih htail (byte :: bytes)
          | failed error => exact Projects.done Piecewise.keepsAll _
          | moved count => exact ih htail ((byte :: bytes).drop count)

theorem readAll_extends (hmore : passes ≤ more) (size : ℕ) :
    Extends (fun result => result.outcome ≠ .waiting)
      (Calls.readAll passes size) (Calls.readAll more size) := by
  induction passes generalizing size more with
  | zero =>
      cases size with
      | zero =>
          rw [Calls.readAll_zero, Calls.readAll_zero]
          exact Projects.done Piecewise.keepsAll _
      | succ size => exact Projects.of_not_counts (by simp)
  | succ passes ih =>
      obtain ⟨more, rfl⟩ := Nat.exists_eq_add_of_le' (Nat.one_le_of_lt hmore)
      have htail := Nat.le_of_succ_le_succ hmore
      cases size with
      | zero => exact Projects.done Piecewise.keepsAll _
      | succ size =>
          rw [Calls.readAll_succ, Calls.readAll_succ]
          apply Projects.ask Piecewise.keepsAll (fun _ => rfl)
          intro reply _
          cases Calls.recvPass [EINTR] reply with
          | again => exact ih htail (size + 1)
          | failed error => exact Projects.done Piecewise.keepsAll _
          | moved chunk =>
              exact readRest_projects Piecewise.keepsAll (fun _ => rfl)
                (ih htail (size + 1 - chunk.length))

variable (connection : UnixSocketConnection)

theorem sendMessage_extends (hmore : passes ≤ more) (message : Bytes) :
    Extends (fun outcome => outcome ≠ .waiting)
      (Calls.sendMessage connection message passes)
      (Calls.sendMessage connection message more) := by
  by_cases hopen : connection.isOpen
  · rcases Nat.lt_or_ge uint32Max message.length with hlarge | hsize
    · rw [Calls.sendMessage_of_too_large hopen hlarge, Calls.sendMessage_of_too_large hopen hlarge]
      exact Projects.done Piecewise.keepsAll _
    · rw [Calls.sendMessage_of_accepted hopen hsize, Calls.sendMessage_of_accepted hopen hsize]
      exact sendPayload_projects Piecewise.keepsAll
        (writeAll_extends hmore (htonl message.length)) (writeAll_extends hmore message)
  · rw [Calls.sendMessage, Calls.sendMessage, if_pos hopen, if_pos hopen]
    exact Projects.done Piecewise.keepsAll _

theorem receiveMessage_extends (hmore : passes ≤ more) (maxSize : ℕ) :
    Extends (fun result => result.outcome ≠ .waiting)
      (Calls.receiveMessage connection maxSize passes)
      (Calls.receiveMessage connection maxSize more) := by
  by_cases hopen : connection.isOpen
  · rw [Calls.receiveMessage_of_open hopen, Calls.receiveMessage_of_open hopen]
    exact receivePayload_projects Piecewise.keepsAll
      (readAll_extends hmore 4) (readAll_extends hmore) maxSize
  · rw [Calls.receiveMessage, Calls.receiveMessage, if_pos hopen, if_pos hopen]
    exact Projects.done Piecewise.keepsAll _

end MorePasses

/-! ## Agreement -/

/-- Smooth runs of the timed copy and runs of the other one that are given the same
results move the same bytes and return the same. -/
structure Agree {α : Type} (returned : α → Prop) (timed : ℕ → ℕ → StreamProgram α)
    (untimed : ℕ → StreamProgram α) : Prop where
  untimed_of_timed : ∀ polls passes, SmoothlyLike returned (timed polls passes) (untimed passes)
  timed_of_untimed : ∀ passes, CanBeTimed (timed 1 passes) (untimed passes)
  same : ∀ script polls passes more exchanges result other result',
    Transcript (timed polls passes) exchanges result → Smooth exchanges → returned result →
    Scripted script (transfers exchanges) →
    Transcript (untimed more) other result' → returned result' → Scripted script other →
      other = transfers exchanges ∧ result' = result

theorem Agree.of_extends {returned : α → Prop} {timed : ℕ → ℕ → StreamProgram α}
    {untimed : ℕ → StreamProgram α}
    (hsmoothly : ∀ polls passes, SmoothlyLike returned (timed polls passes) (untimed passes))
    (htimed : ∀ passes, CanBeTimed (timed 1 passes) (untimed passes))
    (hextends : ∀ {passes more}, passes ≤ more → Extends returned (untimed passes) (untimed more)) :
    Agree returned timed untimed := by
  refine ⟨hsmoothly, htimed, ?_⟩
  intro script polls passes more exchanges result other result' htranscript hsmooth hreturned
    hscript hother hreturned' hotherScript
  have huntimed := hsmoothly polls passes exchanges result htranscript hsmooth hreturned
  have hlong := hextends (le_max_left passes more) _ _ huntimed trivial hreturned
  have hlong' := hextends (le_max_right passes more) _ _ hother trivial hreturned'
  exact hlong.unique hlong' hscript hotherScript

theorem timed_calls_agree {timeout : ℤ} (connection : UnixSocketConnection) (message : Bytes)
    (maxSize : ℕ) (htimeout : 0 ≤ timeout) :
    Agree (fun outcome => outcome ≠ .waiting)
        (Calls.sendMessageTimed connection message timeout)
        (Calls.sendMessage connection message) ∧
      Agree (fun result => result.outcome ≠ .waiting)
        (Calls.receiveMessageTimed connection maxSize timeout)
        (Calls.receiveMessage connection maxSize) := by
  constructor
  · apply Agree.of_extends
    · intro polls passes
      exact sendMessageTimed_smoothly polls passes connection message htimeout
    · intro passes
      exact sendMessage_canBeTimed passes connection message htimeout
    · intro passes more hmore
      exact sendMessage_extends connection hmore message
  · apply Agree.of_extends
    · intro polls passes
      exact receiveMessageTimed_smoothly polls passes connection maxSize htimeout
    · intro passes
      exact receiveMessage_canBeTimed passes connection maxSize htimeout
    · intro passes more hmore
      exact receiveMessage_extends connection hmore maxSize

theorem hundred_milliseconds_agree :
    Agree (fun outcome => outcome ≠ .waiting)
        (Calls.sendMessageTimed ⟨4⟩ [104, 105] 100) (Calls.sendMessage ⟨4⟩ [104, 105]) ∧
      Agree (fun result => result.outcome ≠ .waiting)
        (Calls.receiveMessageTimed ⟨4⟩ 1024 100) (Calls.receiveMessage ⟨4⟩ 1024) :=
  timed_calls_agree ⟨4⟩ [104, 105] 1024 (by decide)

end ElapPlatform.Ipc
