import ElapPlatform.InteractionTranscript
import ElapPlatform.UnixSocketConnection

/-!
# The system calls of a transfer

`waitForDescriptor`, the four transfer loops and the four message functions as
programs over the clock readings and system calls they make.  A loop gets the
number of passes it may make; a call that has used them up has not returned.
-/

namespace ElapPlatform.Ipc

open Interaction Interaction.Program

inductive StreamCall where
  /-- `steady_clock::now`, in nanoseconds -/
  | now
  | poll (event : PollEvent) (timeout : ℤ)
  | send (bytes : Bytes)
  | recv (size : ℕ)
  | accept
  | close (fd : ℤ)
  deriving DecidableEq, Repr

abbrev StreamCall.Reply : StreamCall → Type
  | .now => ℤ
  | .poll _ _ => PollAnswer
  | .send _ => SystemResult ℕ
  | .recv _ => SystemResult Bytes
  | .accept => SystemResult ℤ
  | .close _ => Unit

abbrev StreamProgram (α : Type) := Program StreamCall StreamCall.Reply α

abbrev StreamExchange := Exchange StreamCall StreamCall.Reply

namespace Calls

section Calls

def now : StreamProgram ℤ := .ask StreamCall.now .done

def poll (event : PollEvent) (timeout : ℤ) : StreamProgram PollAnswer :=
  .ask (StreamCall.poll event timeout) .done

def send (bytes : Bytes) : StreamProgram (SystemResult ℕ) := .ask (StreamCall.send bytes) .done

def recv (size : ℕ) : StreamProgram (SystemResult Bytes) := .ask (StreamCall.recv size) .done

end Calls

def waitForDescriptor (event : PollEvent) (deadline : ℤ) (operation : String) :
    ℕ → StreamProgram WaitOutcome
  | 0 => return .waiting
  | passes + 1 => do
      let now ← now
      match ← poll event (pollTimeout (remainingTime deadline now)) with
      | .events revents =>
          if revents.has event then return .ready
          else if revents.unusable then
            return .failed (.message (operation ++ " failed: descriptor is not usable"))
          else waitForDescriptor event deadline operation passes
      | .expired => return .failed (.message (operation ++ " timed out"))
      | .failed errno =>
          if errno ≠ EINTR then return .failed (systemError "poll" errno)
          else waitForDescriptor event deadline operation passes

/-! ## The transfer loops -/

def writeAll : ℕ → Bytes → StreamProgram Outcome
  | _, [] => return .complete
  | 0, _ :: _ => return .waiting
  | passes + 1, byte :: bytes => do
      match ← send (byte :: bytes) with
      | .error errno =>
          if errno = EINTR then writeAll passes (byte :: bytes)
          else return .failed (systemError "send" errno)
      | .ok 0 => return .failed (.message "send failed: connection closed")
      | .ok (count + 1) => writeAll passes ((byte :: bytes).drop (count + 1))

/-- The overload with a deadline; each of its waits may make `polls` passes. -/
def writeAllTimed (deadline : ℤ) (polls : ℕ) : ℕ → Bytes → StreamProgram Outcome
  | _, [] => return .complete
  | 0, _ :: _ => return .waiting
  | passes + 1, byte :: bytes => do
      match ← waitForDescriptor .pollout deadline "send" polls with
      | .waiting => return .waiting
      | .failed error => return .failed error
      | .ready =>
          match ← send (byte :: bytes) with
          | .error errno =>
              if errno = EINTR ∨ errno = EAGAIN ∨ errno = EWOULDBLOCK then
                writeAllTimed deadline polls passes (byte :: bytes)
              else return .failed (systemError "send" errno)
          | .ok 0 => return .failed (.message "send failed: connection closed")
          | .ok (count + 1) =>
              writeAllTimed deadline polls passes ((byte :: bytes).drop (count + 1))

/-- What a call of `readAll` comes to, and the bytes it has stored. -/
structure ReadResult where
  outcome : Outcome
  data : Bytes
  deriving DecidableEq, Repr

def readAll : ℕ → ℕ → StreamProgram ReadResult
  | _, 0 => return ⟨.complete, []⟩
  | 0, _ + 1 => return ⟨.waiting, []⟩
  | passes + 1, size + 1 => do
      match ← recv (size + 1) with
      | .error errno =>
          if errno = EINTR then readAll passes (size + 1)
          else return ⟨.failed (systemError "receive" errno), []⟩
      | .ok [] => return ⟨.failed (.message "receive failed: connection closed"), []⟩
      | .ok (byte :: bytes) =>
          let rest ← readAll passes (size - bytes.length)
          return ⟨rest.outcome, byte :: bytes ++ rest.data⟩

/-- The overload with a deadline. -/
def readAllTimed (deadline : ℤ) (polls : ℕ) : ℕ → ℕ → StreamProgram ReadResult
  | _, 0 => return ⟨.complete, []⟩
  | 0, _ + 1 => return ⟨.waiting, []⟩
  | passes + 1, size + 1 => do
      match ← waitForDescriptor .pollin deadline "receive" polls with
      | .waiting => return ⟨.waiting, []⟩
      | .failed error => return ⟨.failed error, []⟩
      | .ready =>
          match ← recv (size + 1) with
          | .error errno =>
              if errno = EINTR ∨ errno = EAGAIN ∨ errno = EWOULDBLOCK then
                readAllTimed deadline polls passes (size + 1)
              else return ⟨.failed (systemError "receive" errno), []⟩
          | .ok [] => return ⟨.failed (.message "receive failed: connection closed"), []⟩
          | .ok (byte :: bytes) =>
              let rest ← readAllTimed deadline polls passes (size - bytes.length)
              return ⟨rest.outcome, byte :: bytes ++ rest.data⟩

/-! ## The message functions -/

def sendMessage (connection : UnixSocketConnection) (message : Bytes) (passes : ℕ) :
    StreamProgram Outcome :=
  if ¬ connection.isOpen then
    return .failed (.message "send failed: connection is not open")
  else if message.length > uint32Max then
    return .failed (.message "send failed: message is too large")
  else do
    match ← writeAll passes (htonl message.length) with
    | .complete => writeAll passes message
    | outcome => return outcome

def sendMessageTimed (connection : UnixSocketConnection) (message : Bytes) (timeout : ℤ)
    (polls passes : ℕ) : StreamProgram Outcome :=
  if ¬ connection.isOpen then
    return .failed (.message "send failed: connection is not open")
  else if timeout < 0 then
    return .failed (.message "send failed: timeout must not be negative")
  else if message.length > uint32Max then
    return .failed (.message "send failed: message is too large")
  else do
    let deadline := deadlineAfter (← now) timeout
    match ← writeAllTimed deadline polls passes (htonl message.length) with
    | .complete => writeAllTimed deadline polls passes message
    | outcome => return outcome

/-- What a call of `receiveMessage` comes to, and the output string at that time. -/
structure ReceiveResult where
  outcome : Outcome
  message : Bytes
  deriving DecidableEq, Repr

/-- The output string after `resize(size)`, with the front of it overwritten. -/
def overwritten (size : ℕ) (data : Bytes) : Bytes :=
  data ++ List.replicate (size - data.length) 0

theorem overwritten_length {size : ℕ} {data : Bytes} (hlength : data.length ≤ size) :
    (overwritten size data).length = size := by
  rw [overwritten, List.length_append, List.length_replicate]
  omega

theorem overwritten_full {size : ℕ} {data : Bytes} (hlength : data.length = size) :
    overwritten size data = data := by
  rw [overwritten, hlength, Nat.sub_self, List.replicate_zero, List.append_nil]

def receiveMessage (connection : UnixSocketConnection) (maxSize passes : ℕ) :
    StreamProgram ReceiveResult :=
  if ¬ connection.isOpen then
    return ⟨.failed (.message "receive failed: connection is not open"), []⟩
  else do
    let header ← readAll passes 4
    match header.outcome with
    | .complete =>
        let size := ntohl header.data
        if size > maxSize then
          return ⟨.failed (.message "receive failed: message exceeds maximum size"), []⟩
        else if size = 0 then return ⟨.complete, []⟩
        else
          let payload ← readAll passes size
          return ⟨payload.outcome, overwritten size payload.data⟩
    | outcome => return ⟨outcome, []⟩

def receiveMessageTimed (connection : UnixSocketConnection) (maxSize : ℕ) (timeout : ℤ)
    (polls passes : ℕ) : StreamProgram ReceiveResult :=
  if ¬ connection.isOpen then
    return ⟨.failed (.message "receive failed: connection is not open"), []⟩
  else if timeout < 0 then
    return ⟨.failed (.message "receive failed: timeout must not be negative"), []⟩
  else do
    let deadline := deadlineAfter (← now) timeout
    let header ← readAllTimed deadline polls passes 4
    match header.outcome with
    | .complete =>
        let size := ntohl header.data
        if size > maxSize then
          return ⟨.failed (.message "receive failed: message exceeds maximum size"), []⟩
        else if size = 0 then return ⟨.complete, []⟩
        else
          let payload ← readAllTimed deadline polls passes size
          return ⟨payload.outcome, overwritten size payload.data⟩
    | outcome => return ⟨outcome, []⟩

/-! ## One pass through a loop -/

/-- What the answer to a `::poll` comes to; `none` goes round again. -/
def waitVerdict (event : PollEvent) (operation : String) : PollAnswer → Option WaitOutcome
  | .events revents =>
      if revents.has event then some .ready
      else if revents.unusable then
        some (.failed (.message (operation ++ " failed: descriptor is not usable")))
      else none
  | .expired => some (.failed (.message (operation ++ " timed out")))
  | .failed errno => if errno ≠ EINTR then some (.failed (systemError "poll" errno)) else none

theorem waitVerdict_ready_iff {event : PollEvent} {operation : String} {answer : PollAnswer} :
    waitVerdict event operation answer = some .ready ↔
      ∃ revents, answer = .events revents ∧ revents.has event = true := by
  cases answer with
  | events revents =>
      simp only [waitVerdict]
      split_ifs <;> simp_all
  | expired => simp [waitVerdict]
  | failed errno =>
      simp only [waitVerdict]
      split_ifs <;> simp

theorem waitVerdict_timedOut_iff {event : PollEvent} {operation : String} {answer : PollAnswer} :
    waitVerdict event operation answer =
        some (.failed (.message (operation ++ " timed out"))) ↔
      answer = .expired := by
  cases answer with
  | events revents =>
      simp only [waitVerdict]
      split_ifs <;> simp [String.append_right_inj]
  | expired => simp [waitVerdict]
  | failed errno =>
      simp only [waitVerdict]
      split_ifs <;> simp [systemError]

inductive Pass (α : Type) where
  | again
  | failed (error : ErrorText)
  | moved (amount : α)
  deriving DecidableEq, Repr

def sendPass (retried : List Errno) : SystemResult ℕ → Pass ℕ
  | .error errno => if errno ∈ retried then .again else .failed (systemError "send" errno)
  | .ok 0 => .failed (.message "send failed: connection closed")
  | .ok (count + 1) => .moved (count + 1)

def recvPass (retried : List Errno) : SystemResult Bytes → Pass Bytes
  | .error errno => if errno ∈ retried then .again else .failed (systemError "receive" errno)
  | .ok [] => .failed (.message "receive failed: connection closed")
  | .ok (byte :: bytes) => .moved (byte :: bytes)

/-- The errors after which a deadline overload goes round again. -/
def timedRetried : List Errno := [EINTR, EAGAIN, EWOULDBLOCK]

theorem mem_timedRetried {errno : Errno} :
    errno ∈ timedRetried ↔ errno = EINTR ∨ errno = EAGAIN ∨ errno = EWOULDBLOCK := by
  simp [timedRetried]

theorem sendPass_not_timedOut {retried : List Errno} {reply : SystemResult ℕ} :
    sendPass retried reply ≠ .failed (.message "send timed out") := by
  rcases reply with errno | (_ | count)
  · simp only [sendPass]
    split_ifs <;> simp [systemError]
  · simp [sendPass]
  · simp [sendPass]

theorem recvPass_not_timedOut {retried : List Errno} {reply : SystemResult Bytes} :
    recvPass retried reply ≠ .failed (.message "receive timed out") := by
  rcases reply with errno | (_ | ⟨byte, bytes⟩)
  · simp only [recvPass]
    split_ifs <;> simp [systemError]
  · simp [recvPass]
  · simp [recvPass]

theorem waitForDescriptor_succ (event : PollEvent) (deadline : ℤ) (operation : String)
    (passes : ℕ) :
    waitForDescriptor event deadline operation (passes + 1) =
      .ask StreamCall.now fun now =>
        .ask (StreamCall.poll event (pollTimeout (remainingTime deadline now))) fun answer =>
          match waitVerdict event operation answer with
          | some outcome => .done outcome
          | none => waitForDescriptor event deadline operation passes := by
  simp only [waitForDescriptor, now, poll, ask_bind, done_bind]
  congr 1
  funext now
  congr 1
  funext answer
  cases answer with
  | events revents =>
      simp only [waitVerdict]
      split_ifs <;> rfl
  | expired => rfl
  | failed errno =>
      simp only [waitVerdict]
      split_ifs <;> rfl

@[simp] theorem writeAll_nil (passes : ℕ) : writeAll passes [] = .done .complete := by
  cases passes <;> rfl

theorem writeAll_succ (passes : ℕ) (byte : UInt8) (bytes : Bytes) :
    writeAll (passes + 1) (byte :: bytes) =
      .ask (StreamCall.send (byte :: bytes)) fun reply =>
        match sendPass [EINTR] reply with
        | .again => writeAll passes (byte :: bytes)
        | .failed error => .done (.failed error)
        | .moved count => writeAll passes ((byte :: bytes).drop count) := by
  simp only [writeAll, send, ask_bind, done_bind]
  congr 1
  funext reply
  rcases reply with errno | (_ | count)
  · simp only [sendPass, List.mem_singleton]
    split_ifs <;> rfl
  · rfl
  · rfl

@[simp] theorem writeAllTimed_nil (deadline : ℤ) (polls passes : ℕ) :
    writeAllTimed deadline polls passes [] = .done .complete := by
  cases passes <;> rfl

theorem writeAllTimed_succ (deadline : ℤ) (polls passes : ℕ) (byte : UInt8) (bytes : Bytes) :
    writeAllTimed deadline polls (passes + 1) (byte :: bytes) =
      (waitForDescriptor .pollout deadline "send" polls >>= fun waited =>
        match waited with
        | .waiting => .done .waiting
        | .failed error => .done (.failed error)
        | .ready =>
            .ask (StreamCall.send (byte :: bytes)) fun reply =>
              match sendPass timedRetried reply with
              | .again => writeAllTimed deadline polls passes (byte :: bytes)
              | .failed error => .done (.failed error)
              | .moved count =>
                  writeAllTimed deadline polls passes ((byte :: bytes).drop count)) := by
  simp only [writeAllTimed]
  congr 1
  funext waited
  cases waited with
  | waiting => rfl
  | failed error => rfl
  | ready =>
      simp only [send, ask_bind, done_bind]
      congr 1
      funext reply
      rcases reply with errno | (_ | count)
      · simp only [sendPass, mem_timedRetried]
        split_ifs <;> rfl
      · rfl
      · rfl

@[simp] theorem readAll_zero (passes : ℕ) : readAll passes 0 = .done ⟨.complete, []⟩ := by
  cases passes <;> rfl

theorem readAll_succ (passes size : ℕ) :
    readAll (passes + 1) (size + 1) =
      .ask (StreamCall.recv (size + 1)) fun reply =>
        match recvPass [EINTR] reply with
        | .again => readAll passes (size + 1)
        | .failed error => .done ⟨.failed error, []⟩
        | .moved chunk =>
            readAll passes (size + 1 - chunk.length) >>= fun rest =>
              .done ⟨rest.outcome, chunk ++ rest.data⟩ := by
  simp only [readAll, recv, ask_bind, done_bind]
  congr 1
  funext reply
  rcases reply with errno | (_ | ⟨byte, bytes⟩)
  · simp only [recvPass, List.mem_singleton]
    split_ifs <;> rfl
  · rfl
  · simp only [recvPass, List.length_cons, Nat.add_sub_add_right]
    rfl

@[simp] theorem readAllTimed_zero (deadline : ℤ) (polls passes : ℕ) :
    readAllTimed deadline polls passes 0 = .done ⟨.complete, []⟩ := by
  cases passes <;> rfl

theorem readAllTimed_succ (deadline : ℤ) (polls passes size : ℕ) :
    readAllTimed deadline polls (passes + 1) (size + 1) =
      (waitForDescriptor .pollin deadline "receive" polls >>= fun waited =>
        match waited with
        | .waiting => .done ⟨.waiting, []⟩
        | .failed error => .done ⟨.failed error, []⟩
        | .ready =>
            .ask (StreamCall.recv (size + 1)) fun reply =>
              match recvPass timedRetried reply with
              | .again => readAllTimed deadline polls passes (size + 1)
              | .failed error => .done ⟨.failed error, []⟩
              | .moved chunk =>
                  readAllTimed deadline polls passes (size + 1 - chunk.length) >>= fun rest =>
                    .done ⟨rest.outcome, chunk ++ rest.data⟩) := by
  simp only [readAllTimed]
  congr 1
  funext waited
  cases waited with
  | waiting => rfl
  | failed error => rfl
  | ready =>
      simp only [recv, ask_bind, done_bind]
      congr 1
      funext reply
      rcases reply with errno | (_ | ⟨byte, bytes⟩)
      · simp only [recvPass, mem_timedRetried]
        split_ifs <;> rfl
      · rfl
      · simp only [recvPass, List.length_cons, Nat.add_sub_add_right]
        rfl

/-! ## Calls that are not refused at once -/

/-- What both receiving overloads do with the header; for an empty message they do
what reading no bytes would do. -/
def receivePayload (maxSize : ℕ) (read : ℕ → StreamProgram ReadResult) (header : ReadResult) :
    StreamProgram ReceiveResult :=
  match header.outcome with
  | .complete =>
      if ntohl header.data > maxSize then
        .done ⟨.failed (.message "receive failed: message exceeds maximum size"), []⟩
      else
        read (ntohl header.data) >>= fun payload =>
          .done ⟨payload.outcome, overwritten (ntohl header.data) payload.data⟩
  | outcome => .done ⟨outcome, []⟩

/-- What both sending overloads do after the header. -/
def sendPayload (send : StreamProgram Outcome) (outcome : Outcome) : StreamProgram Outcome :=
  match outcome with
  | .complete => send
  | outcome => .done outcome

section Accepted

variable {connection : UnixSocketConnection} {message : Bytes} {timeout : ℤ}

theorem receiveMessage_of_open (hopen : connection.isOpen) (maxSize passes : ℕ) :
    receiveMessage connection maxSize passes =
      (readAll passes 4 >>= receivePayload maxSize (readAll passes)) := by
  simp only [receiveMessage, hopen, not_true_eq_false, if_false]
  congr 1
  funext header
  obtain ⟨outcome, data⟩ := header
  cases outcome with
  | complete =>
      simp only [receivePayload]
      split_ifs with hsize hzero
      · rfl
      · rw [hzero, readAll_zero]
        rfl
      · rfl
  | failed error => rfl
  | waiting => rfl

theorem receiveMessageTimed_of_accepted (hopen : connection.isOpen) (htimeout : 0 ≤ timeout)
    (maxSize polls passes : ℕ) :
    receiveMessageTimed connection maxSize timeout polls passes =
      .ask StreamCall.now fun start =>
        readAllTimed (deadlineAfter start timeout) polls passes 4 >>=
          receivePayload maxSize (readAllTimed (deadlineAfter start timeout) polls passes) := by
  simp only [receiveMessageTimed, hopen, not_true_eq_false, if_false, if_neg htimeout.not_gt, now,
    ask_bind, done_bind]
  congr 1
  funext start
  congr 1
  funext header
  obtain ⟨outcome, data⟩ := header
  cases outcome with
  | complete =>
      simp only [receivePayload]
      split_ifs with hsize hzero
      · rfl
      · rw [hzero, readAllTimed_zero]
        rfl
      · rfl
  | failed error => rfl
  | waiting => rfl

theorem sendMessage_of_accepted (hopen : connection.isOpen)
    (hsize : message.length ≤ uint32Max) (passes : ℕ) :
    sendMessage connection message passes =
      (writeAll passes (htonl message.length) >>= sendPayload (writeAll passes message)) := by
  simp only [sendMessage, hopen, not_true_eq_false, if_false, if_neg (Nat.not_lt.mpr hsize)]
  rfl

theorem sendMessageTimed_of_accepted (hopen : connection.isOpen) (htimeout : 0 ≤ timeout)
    (hsize : message.length ≤ uint32Max) (polls passes : ℕ) :
    sendMessageTimed connection message timeout polls passes =
      .ask StreamCall.now fun start =>
        writeAllTimed (deadlineAfter start timeout) polls passes (htonl message.length) >>=
          sendPayload (writeAllTimed (deadlineAfter start timeout) polls passes message) := by
  simp only [sendMessageTimed, hopen, not_true_eq_false, if_false, if_neg htimeout.not_gt,
    if_neg (Nat.not_lt.mpr hsize)]
  rfl

theorem sendMessage_of_too_large (hopen : connection.isOpen)
    (hsize : message.length > uint32Max) (passes : ℕ) :
    sendMessage connection message passes =
      .done (.failed (.message "send failed: message is too large")) := by
  simp only [sendMessage, hopen, not_true_eq_false, if_false, if_pos hsize]
  rfl

theorem sendMessageTimed_of_too_large (hopen : connection.isOpen) (htimeout : 0 ≤ timeout)
    (hsize : message.length > uint32Max) (polls passes : ℕ) :
    sendMessageTimed connection message timeout polls passes =
      .done (.failed (.message "send failed: message is too large")) := by
  simp only [sendMessageTimed, hopen, not_true_eq_false, if_false, if_neg htimeout.not_gt,
    if_pos hsize]
  rfl

/-- Both sending overloads refuse a call with the same text, or both send. -/
theorem sendMessage_cases (connection : UnixSocketConnection) (message : Bytes)
    (htimeout : 0 ≤ timeout) (polls passes : ℕ) :
    (∃ error, sendMessageTimed connection message timeout polls passes = .done (.failed error) ∧
        sendMessage connection message passes = .done (.failed error)) ∨
      ((sendMessageTimed connection message timeout polls passes =
          .ask StreamCall.now fun start =>
            writeAllTimed (deadlineAfter start timeout) polls passes (htonl message.length) >>=
              sendPayload (writeAllTimed (deadlineAfter start timeout) polls passes message)) ∧
        sendMessage connection message passes =
          (writeAll passes (htonl message.length) >>= sendPayload (writeAll passes message))) := by
  by_cases hopen : connection.isOpen
  · rcases Nat.lt_or_ge uint32Max message.length with hlarge | hsize
    · exact .inl ⟨_, sendMessageTimed_of_too_large hopen htimeout hlarge polls passes,
        sendMessage_of_too_large hopen hlarge passes⟩
    · exact .inr ⟨sendMessageTimed_of_accepted hopen htimeout hsize polls passes,
        sendMessage_of_accepted hopen hsize passes⟩
  · refine .inl ⟨.message "send failed: connection is not open", ?_, ?_⟩
    · rw [sendMessageTimed, if_pos hopen]
      rfl
    · rw [sendMessage, if_pos hopen]
      rfl

theorem receiveMessage_cases (connection : UnixSocketConnection) (maxSize : ℕ)
    (htimeout : 0 ≤ timeout) (polls passes : ℕ) :
    (∃ error,
      receiveMessageTimed connection maxSize timeout polls passes = .done ⟨.failed error, []⟩ ∧
        receiveMessage connection maxSize passes = .done ⟨.failed error, []⟩) ∨
      ((receiveMessageTimed connection maxSize timeout polls passes =
          .ask StreamCall.now fun start =>
            readAllTimed (deadlineAfter start timeout) polls passes 4 >>=
              receivePayload maxSize
                (readAllTimed (deadlineAfter start timeout) polls passes)) ∧
        receiveMessage connection maxSize passes =
          (readAll passes 4 >>= receivePayload maxSize (readAll passes))) := by
  by_cases hopen : connection.isOpen
  · exact .inr ⟨receiveMessageTimed_of_accepted hopen htimeout maxSize polls passes,
      receiveMessage_of_open hopen maxSize passes⟩
  · refine .inl ⟨.message "receive failed: connection is not open", ?_, ?_⟩
    · rw [receiveMessageTimed, if_pos hopen]
      rfl
    · rw [receiveMessage, if_pos hopen]
      rfl

end Accepted

end Calls

end ElapPlatform.Ipc
