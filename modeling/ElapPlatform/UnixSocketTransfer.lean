import ElapPlatform.PlatformBasics
import Mathlib.Tactic

/-!
# Moving bytes over a stream socket

`writeAll` and `readAll` repeat `::send` and `::recv` until a whole buffer is
transferred.  The kernel's answers to one call are a list, one entry for each
pass through the loop; a call whose list is used up is still inside a system
call.  The deadline overloads wait for the descriptor before every transfer,
so one of their passes carries the answers to its `::poll` calls as well.
-/

namespace ElapPlatform.Ipc

/-! ## Waiting for a descriptor -/

inductive PollEvent where
  | pollin
  | pollout
  deriving DecidableEq, Repr

structure Revents where
  pollin : Bool
  pollout : Bool
  pollerr : Bool
  pollhup : Bool
  pollnval : Bool
  deriving DecidableEq, Repr

def Revents.has (revents : Revents) : PollEvent → Bool
  | .pollin => revents.pollin
  | .pollout => revents.pollout

def Revents.unusable (revents : Revents) : Bool :=
  revents.pollerr || revents.pollhup || revents.pollnval

inductive PollAnswer where
  | events (revents : Revents)
  | expired
  | failed (errno : Errno)
  deriving DecidableEq, Repr

/-- One pass through the loop of `waitForDescriptor`: the clock reading, in
nanoseconds, and what `::poll` then answers. -/
structure PollRound where
  now : ℤ
  answer : PollAnswer
  deriving DecidableEq, Repr

def intMax : ℤ := 2 ^ 31 - 1

def pollTimeout (timeout : ℤ) : ℤ :=
  if timeout > intMax then intMax
  else if timeout < 0 then -1
  else timeout

/-- Milliseconds left until the deadline; the difference is a 64-bit number of
nanoseconds, and `duration_cast` truncates. -/
def remainingTime (deadline now : ℤ) : ℤ :=
  if now ≥ deadline then 0 else ((deadline - now).bmod (2 ^ 64)).tdiv 1000000

/-- `steady_clock::now() + timeout` in the 64-bit nanosecond clock. -/
def deadlineAfter (start timeout : ℤ) : ℤ :=
  (start + timeout * 1000000).bmod (2 ^ 64)

inductive WaitOutcome where
  | ready
  | failed (error : ErrorText)
  | waiting
  deriving DecidableEq, Repr

structure WaitRun where
  outcome : WaitOutcome
  /-- The timeout argument of each `::poll` call, in order. -/
  timeouts : List ℤ
  deriving DecidableEq, Repr

def waitForDescriptor (event : PollEvent) (deadline : ℤ) (operation : String) :
    List PollRound → WaitRun
  | [] => ⟨.waiting, []⟩
  | round :: rounds =>
      let timeout := pollTimeout (remainingTime deadline round.now)
      let again := waitForDescriptor event deadline operation rounds
      match round.answer with
      | .events revents =>
          if revents.has event then ⟨.ready, [timeout]⟩
          else if revents.unusable then
            ⟨.failed (.message (operation ++ " failed: descriptor is not usable")),
              [timeout]⟩
          else ⟨again.outcome, timeout :: again.timeouts⟩
      | .expired => ⟨.failed (.message (operation ++ " timed out")), [timeout]⟩
      | .failed errno =>
          if errno ≠ EINTR then ⟨.failed (systemError "poll" errno), [timeout]⟩
          else ⟨again.outcome, timeout :: again.timeouts⟩

/-! ## One pass through a transfer loop -/

/-- What one pass through a transfer loop comes to: the kernel moved bytes, the
loop goes round again, the loop returns `false`, or the pass has not ended. -/
inductive Progress where
  | moved (count : ℕ)
  | again
  | failed (error : ErrorText)
  | waiting
  deriving DecidableEq, Repr

def Progress.moves : Progress → Bool
  | .moved _ => true
  | _ => false

def Progress.fails : Progress → Bool
  | .failed _ => true
  | _ => false

/-- `count n` offers room for `n` bytes; `::send` takes at most what it was
asked to take. -/
inductive SendAnswer where
  | count (n : ℕ)
  | errno (errno : Errno)
  deriving DecidableEq, Repr

/-- `count n` hands over at most `n + 1` bytes, and none only when the stream
is at its end. -/
inductive RecvAnswer where
  | count (n : ℕ)
  | errno (errno : Errno)
  deriving DecidableEq, Repr

def sendProgress : SendAnswer → Progress
  | .errno errno =>
      if errno = EINTR then .again else .failed (systemError "send" errno)
  | .count 0 => .failed (.message "send failed: connection closed")
  | .count (n + 1) => .moved (n + 1)

def recvProgress : RecvAnswer → Progress
  | .errno errno =>
      if errno = EINTR then .again else .failed (systemError "receive" errno)
  | .count n => .moved (n + 1)

/-- One pass of a deadline overload: the waits, then the transfer. -/
structure TimedRound (α : Type) where
  polls : List PollRound
  answer : α
  deriving DecidableEq, Repr

def timedSendProgress (deadline : ℤ) (round : TimedRound SendAnswer) : Progress :=
  match (waitForDescriptor .pollout deadline "send" round.polls).outcome with
  | .waiting => .waiting
  | .failed error => .failed error
  | .ready =>
      match round.answer with
      | .errno errno =>
          if errno = EINTR ∨ errno = EAGAIN ∨ errno = EWOULDBLOCK then .again
          else .failed (systemError "send" errno)
      | .count 0 => .failed (.message "send failed: connection closed")
      | .count (n + 1) => .moved (n + 1)

def timedRecvProgress (deadline : ℤ) (round : TimedRound RecvAnswer) : Progress :=
  match (waitForDescriptor .pollin deadline "receive" round.polls).outcome with
  | .waiting => .waiting
  | .failed error => .failed error
  | .ready =>
      match round.answer with
      | .errno errno =>
          if errno = EINTR ∨ errno = EAGAIN ∨ errno = EWOULDBLOCK then .again
          else .failed (systemError "receive" errno)
      | .count n => .moved (n + 1)

/-! ## The transfer loops -/

/-- How far a call has come: it returned `true`, it returned `false` with an
error text, or it is still inside a system call. -/
inductive Outcome where
  | complete
  | failed (error : ErrorText)
  | waiting
  deriving DecidableEq, Repr

structure WriteRun (ρ : Type) where
  outcome : Outcome
  /-- The bytes the kernel took, in order. -/
  accepted : Bytes
  rest : List ρ
  deriving DecidableEq, Repr

structure ReadRun (ρ : Type) where
  outcome : Outcome
  /-- The bytes stored in the buffer so far. -/
  data : Bytes
  /-- The part of the stream not yet handed over. -/
  incoming : Bytes
  rest : List ρ
  deriving DecidableEq, Repr

/-- The loop of both overloads of `writeAll`, on the bytes still to be sent. -/
def writeAll {ρ : Type} (progress : ρ → Progress) :
    Bytes → List ρ → WriteRun ρ
  | [], rounds => ⟨.complete, [], rounds⟩
  | _ :: _, [] => ⟨.waiting, [], []⟩
  | byte :: bytes, round :: rounds =>
      match progress round with
      | .waiting => ⟨.waiting, [], rounds⟩
      | .failed error => ⟨.failed error, [], rounds⟩
      | .again => writeAll progress (byte :: bytes) rounds
      | .moved count =>
          let run := writeAll progress ((byte :: bytes).drop count) rounds
          ⟨run.outcome, (byte :: bytes).take count ++ run.accepted, run.rest⟩

/-- The loop of both overloads of `readAll`, on the number of bytes still to be
read and the bytes the peer's side of the stream still holds. -/
def readAll {ρ : Type} (progress : ρ → Progress) :
    ℕ → Bytes → List ρ → ReadRun ρ
  | 0, incoming, rounds => ⟨.complete, [], incoming, rounds⟩
  | _ + 1, incoming, [] => ⟨.waiting, [], incoming, []⟩
  | size + 1, incoming, round :: rounds =>
      match progress round with
      | .waiting => ⟨.waiting, [], incoming, rounds⟩
      | .failed error => ⟨.failed error, [], incoming, rounds⟩
      | .again => readAll progress (size + 1) incoming rounds
      | .moved count =>
          let chunk := incoming.take (min count (size + 1))
          if chunk = [] then
            ⟨.failed (.message "receive failed: connection closed"), [], incoming, rounds⟩
          else
            let run := readAll progress (size + 1 - chunk.length)
              (incoming.drop chunk.length) rounds
            ⟨run.outcome, chunk ++ run.data, run.incoming, run.rest⟩

section TransferLemmas

variable {ρ : Type} {progress : ρ → Progress}

/-- No pass moves a byte. -/
def Undelivered (progress : ρ → Progress) (rounds : List ρ) : Prop :=
  ∀ round ∈ rounds, (progress round).moves = false

/-- No pass makes the loop return `false`. -/
def Uninterrupted (progress : ρ → Progress) (rounds : List ρ) : Prop :=
  ∀ round ∈ rounds, (progress round).fails = false

instance (rounds : List ρ) : Decidable (Undelivered progress rounds) :=
  inferInstanceAs (Decidable (∀ round ∈ rounds, (progress round).moves = false))

instance (rounds : List ρ) : Decidable (Uninterrupted progress rounds) :=
  inferInstanceAs (Decidable (∀ round ∈ rounds, (progress round).fails = false))

theorem Undelivered.not_moved {round : ρ} {rounds : List ρ} {count : ℕ}
    (hnone : Undelivered progress (round :: rounds)) :
    progress round ≠ .moved count := by
  intro hmoved
  have hround := hnone round List.mem_cons_self
  simp [hmoved, Progress.moves] at hround

theorem Uninterrupted.not_failed {round : ρ} {rounds : List ρ} {error : ErrorText}
    (hnone : Uninterrupted progress (round :: rounds)) :
    progress round ≠ .failed error := by
  intro hfailed
  have hround := hnone round List.mem_cons_self
  simp [hfailed, Progress.fails] at hround

/-- The answers of a call that is never cut off: no pass makes it return
`false`, and a pass that moves bytes moves at least one. -/
structure Steady (progress : ρ → Progress) (rounds : List ρ) : Prop where
  uninterrupted : Uninterrupted progress rounds
  positive : ∀ round ∈ rounds, ∀ count, progress round = .moved count → 0 < count

theorem Undelivered.tail {round : ρ} {rounds : List ρ}
    (hnone : Undelivered progress (round :: rounds)) :
    Undelivered progress rounds :=
  fun other hmem => hnone other (List.mem_cons_of_mem round hmem)

theorem Uninterrupted.tail {round : ρ} {rounds : List ρ}
    (hnone : Uninterrupted progress (round :: rounds)) :
    Uninterrupted progress rounds :=
  fun other hmem => hnone other (List.mem_cons_of_mem round hmem)

theorem Steady.tail {round : ρ} {rounds : List ρ}
    (hsteady : Steady progress (round :: rounds)) : Steady progress rounds :=
  ⟨hsteady.uninterrupted.tail, fun other hmem =>
    hsteady.positive other (List.mem_cons_of_mem round hmem)⟩

theorem Uninterrupted.suffix {rounds rest : List ρ}
    (hnone : Uninterrupted progress rounds) (hsuffix : rest <:+ rounds) :
    Uninterrupted progress rest :=
  fun other hmem => hnone other (hsuffix.subset hmem)

/-! ### Sending -/

@[simp] theorem writeAll_nil (rounds : List ρ) :
    writeAll progress [] rounds = ⟨.complete, [], rounds⟩ := by
  cases rounds <;> rfl

/-- What one call of `writeAll` comes to, however it ends. -/
structure WriteRun.Sound (bytes : Bytes) (rounds : List ρ) (run : WriteRun ρ) : Prop where
  accepted_prefix : run.accepted <+: bytes
  complete_iff : run.outcome = .complete ↔ run.accepted = bytes
  rest_suffix : run.rest <:+ rounds

theorem writeAll_sound (progress : ρ → Progress) (bytes : Bytes) (rounds : List ρ) :
    (writeAll progress bytes rounds).Sound bytes rounds := by
  induction rounds generalizing bytes with
  | nil => cases bytes <;> constructor <;> simp [writeAll]
  | cons round rounds ih =>
      cases bytes with
      | nil => constructor <;> simp
      | cons byte bytes =>
          have hskip := List.suffix_cons round rounds
          simp only [writeAll]
          cases progress round with
          | waiting => constructor <;> simp
          | failed error => constructor <;> simp
          | again =>
              have htail := ih (byte :: bytes)
              exact ⟨htail.accepted_prefix, htail.complete_iff,
                htail.rest_suffix.trans hskip⟩
          | moved count =>
              have htail := ih ((byte :: bytes).drop count)
              have hsplit := List.take_append_drop count (byte :: bytes)
              refine ⟨?_, ?_, htail.rest_suffix.trans hskip⟩
              · have hjoin := (List.prefix_append_right_inj
                  ((byte :: bytes).take count)).mpr htail.accepted_prefix
                rwa [hsplit] at hjoin
              · simp only
                rw [htail.complete_iff]
                constructor
                · intro hrun
                  rw [hrun, hsplit]
                · intro hrun
                  exact List.append_cancel_left (hrun.trans hsplit.symm)

theorem writeAll_accepted_of_undelivered
    {bytes : Bytes} {rounds : List ρ} (hnone : Undelivered progress rounds) :
    (writeAll progress bytes rounds).accepted = [] := by
  induction rounds generalizing bytes with
  | nil => cases bytes <;> rfl
  | cons round rounds ih =>
      cases bytes with
      | nil => rfl
      | cons byte bytes =>
          simp only [writeAll]
          cases hround : progress round with
          | waiting => rfl
          | failed error => rfl
          | again => exact ih hnone.tail
          | moved count => exact absurd hround hnone.not_moved

theorem writeAll_not_failed_of_uninterrupted
    {bytes : Bytes} {rounds : List ρ} (hnone : Uninterrupted progress rounds)
    (error : ErrorText) :
    (writeAll progress bytes rounds).outcome ≠ .failed error := by
  induction rounds generalizing bytes with
  | nil => cases bytes <;> simp [writeAll]
  | cons round rounds ih =>
      cases bytes with
      | nil => simp
      | cons byte bytes =>
          simp only [writeAll]
          cases hround : progress round with
          | waiting => simp
          | failed other => exact absurd hround hnone.not_failed
          | again => exact ih hnone.tail
          | moved count => exact ih hnone.tail

/-! ### Receiving -/

@[simp] theorem readAll_zero (incoming : Bytes) (rounds : List ρ) :
    readAll progress 0 incoming rounds = ⟨.complete, [], incoming, rounds⟩ := by
  cases rounds <;> rfl

/-- The pass of `readAll` that takes a non-empty chunk. -/
theorem readAll_moved {size count : ℕ} {incoming : Bytes} {round : ρ}
    {rounds : List ρ} (hround : progress round = .moved count)
    (hchunk : incoming.take (min count (size + 1)) ≠ []) :
    readAll progress (size + 1) incoming (round :: rounds) =
      let chunk := incoming.take (min count (size + 1))
      let run := readAll progress (size + 1 - chunk.length)
        (incoming.drop chunk.length) rounds
      ⟨run.outcome, chunk ++ run.data, run.incoming, run.rest⟩ := by
  simp only [readAll, hround]
  rw [if_neg hchunk]

/-- The pass of `readAll` that finds the stream at its end. -/
theorem readAll_closed {size count : ℕ} {incoming : Bytes} {round : ρ}
    {rounds : List ρ} (hround : progress round = .moved count)
    (hchunk : incoming.take (min count (size + 1)) = []) :
    readAll progress (size + 1) incoming (round :: rounds) =
      ⟨.failed (.message "receive failed: connection closed"), [], incoming, rounds⟩ := by
  simp only [readAll, hround]
  rw [if_pos hchunk]

theorem take_append_drop_take_length (bytes : Bytes) (count : ℕ) :
    bytes.take count ++ bytes.drop (bytes.take count).length = bytes := by
  rw [List.length_take]
  rcases Nat.le_total count bytes.length with hle | hle
  · rw [Nat.min_eq_left hle, List.take_append_drop]
  · rw [Nat.min_eq_right hle, List.drop_length, List.append_nil,
      List.take_of_length_le hle]

/-- What one call of `readAll` comes to, however it ends: what the buffer gained
is what the stream lost, and `true` means that the buffer is full. -/
structure ReadRun.Sound (size : ℕ) (incoming : Bytes) (rounds : List ρ)
    (run : ReadRun ρ) : Prop where
  stream : run.data ++ run.incoming = incoming
  length_le : run.data.length ≤ size
  complete_iff : run.outcome = .complete ↔ run.data.length = size
  rest_suffix : run.rest <:+ rounds

theorem readAll_sound (progress : ρ → Progress) (size : ℕ) (incoming : Bytes) (rounds : List ρ) :
    (readAll progress size incoming rounds).Sound size incoming rounds := by
  induction rounds generalizing size incoming with
  | nil => cases size <;> constructor <;> simp [readAll]
  | cons round rounds ih =>
      cases size with
      | zero => constructor <;> simp
      | succ size =>
          have hskip := List.suffix_cons round rounds
          cases hround : progress round with
          | waiting => constructor <;> simp [readAll, hround]
          | failed error => constructor <;> simp [readAll, hround]
          | again =>
              have htail := ih (size + 1) incoming
              simp only [readAll, hround]
              exact ⟨htail.stream, htail.length_le, htail.complete_iff,
                htail.rest_suffix.trans hskip⟩
          | moved count =>
              by_cases hchunk : incoming.take (min count (size + 1)) = []
              · rw [readAll_closed hround hchunk]
                constructor <;> simp
              · rw [readAll_moved hround hchunk]
                have htail := ih
                  (size + 1 - (incoming.take (min count (size + 1))).length)
                  (incoming.drop (incoming.take (min count (size + 1))).length)
                have hfit : (incoming.take (min count (size + 1))).length ≤ size + 1 := by
                  rw [List.length_take]
                  omega
                have hlength := htail.length_le
                refine ⟨?_, ?_, ?_, htail.rest_suffix.trans hskip⟩
                · simp only [List.append_assoc]
                  rw [htail.stream]
                  exact take_append_drop_take_length incoming (min count (size + 1))
                · simp only [List.length_append]
                  omega
                · simp only [List.length_append]
                  rw [htail.complete_iff]
                  omega

theorem Steady.suffix {rounds rest : List ρ} (hsteady : Steady progress rounds)
    (hsuffix : rest <:+ rounds) : Steady progress rest :=
  ⟨hsteady.uninterrupted.suffix hsuffix, fun other hmem =>
    hsteady.positive other (hsuffix.subset hmem)⟩

/-- Every pass goes round again or moves at least one byte. -/
def Fragmented (progress : ρ → Progress) (rounds : List ρ) : Prop :=
  ∀ round ∈ rounds,
    progress round = .again ∨ ∃ count, progress round = .moved (count + 1)

/-- The number of passes that do not merely go round again. -/
def deliveries (progress : ρ → Progress) (rounds : List ρ) : ℕ :=
  rounds.countP fun round => progress round ≠ .again

theorem Fragmented.tail {round : ρ} {rounds : List ρ}
    (hfragmented : Fragmented progress (round :: rounds)) :
    Fragmented progress rounds :=
  fun other hmem => hfragmented other (List.mem_cons_of_mem round hmem)

theorem Fragmented.suffix {rounds rest : List ρ}
    (hfragmented : Fragmented progress rounds) (hsuffix : rest <:+ rounds) :
    Fragmented progress rest :=
  fun other hmem => hfragmented other (hsuffix.subset hmem)

theorem Fragmented.steady {rounds : List ρ}
    (hfragmented : Fragmented progress rounds) : Steady progress rounds := by
  constructor
  · intro round hmem
    rcases hfragmented round hmem with hagain | ⟨count, hmoved⟩
    · simp [hagain, Progress.fails]
    · simp [hmoved, Progress.fails]
  · intro round hmem count hmoved
    rcases hfragmented round hmem with hagain | ⟨other, hother⟩
    · simp [hagain] at hmoved
    · rw [hother] at hmoved
      simp only [Progress.moved.injEq] at hmoved
      omega

theorem readAll_data_of_undelivered
    {size : ℕ} {incoming : Bytes} {rounds : List ρ}
    (hnone : Undelivered progress rounds) :
    (readAll progress size incoming rounds).data = [] := by
  induction rounds generalizing size with
  | nil => cases size <;> rfl
  | cons round rounds ih =>
      cases size with
      | zero => rfl
      | succ size =>
          cases hround : progress round with
          | waiting => simp [readAll, hround]
          | failed error => simp [readAll, hround]
          | again =>
              simp only [readAll, hround]
              exact ih hnone.tail
          | moved count => exact absurd hround hnone.not_moved

/-- Without an interruption the loop returns `false` only at the end of the
stream. -/
theorem readAll_incoming_of_failed
    {size : ℕ} {incoming : Bytes} {rounds : List ρ} {error : ErrorText}
    (hsteady : Steady progress rounds)
    (hfailed : (readAll progress size incoming rounds).outcome = .failed error) :
    (readAll progress size incoming rounds).incoming = [] := by
  induction rounds generalizing size incoming with
  | nil => cases size <;> simp [readAll] at hfailed
  | cons round rounds ih =>
      cases size with
      | zero => simp at hfailed
      | succ size =>
          cases hround : progress round with
          | waiting => simp [readAll, hround] at hfailed
          | failed other =>
              exact absurd hround hsteady.uninterrupted.not_failed
          | again =>
              simp only [readAll, hround] at hfailed ⊢
              exact ih hsteady.tail hfailed
          | moved count =>
              have hpositive := hsteady.positive round List.mem_cons_self count hround
              by_cases hchunk : incoming.take (min count (size + 1)) = []
              · rw [readAll_closed hround hchunk]
                rcases List.take_eq_nil_iff.mp hchunk with hzero | hempty
                · omega
                · exact hempty
              · rw [readAll_moved hround hchunk] at hfailed ⊢
                exact ih hsteady.tail hfailed

theorem readAll_not_failed_of_steady
    {size : ℕ} {incoming : Bytes} {rounds : List ρ}
    (hsteady : Steady progress rounds) (hsize : size ≤ incoming.length)
    (error : ErrorText) :
    (readAll progress size incoming rounds).outcome ≠ .failed error := by
  intro hfailed
  have hsound := readAll_sound progress size incoming rounds
  have hend := readAll_incoming_of_failed hsteady hfailed
  have hdata := hsound.stream
  rw [hend, List.append_nil] at hdata
  have hfull : (readAll progress size incoming rounds).data.length = size := by
    have hbound := hsound.length_le
    rw [hdata] at hbound ⊢
    omega
  rw [hsound.complete_iff.mpr hfull] at hfailed
  contradiction

/-- One delivering pass for each byte is enough to fill the buffer, and at most
that many are used. -/
theorem readAll_complete_of_deliveries
    {size : ℕ} {incoming : Bytes} {rounds : List ρ}
    (hfragmented : Fragmented progress rounds) (hsize : size ≤ incoming.length)
    (henough : size ≤ deliveries progress rounds) :
    (readAll progress size incoming rounds).outcome = .complete ∧
      deliveries progress rounds ≤
        deliveries progress (readAll progress size incoming rounds).rest + size := by
  induction rounds generalizing size incoming with
  | nil =>
      have hzero : size = 0 := by simpa [deliveries] using henough
      subst size
      simp
  | cons round rounds ih =>
      cases size with
      | zero => simp
      | succ size =>
          rcases hfragmented round List.mem_cons_self with hagain | ⟨count, hmoved⟩
          · have hcount : deliveries progress (round :: rounds) =
                deliveries progress rounds := by
              simp [deliveries, hagain]
            rw [hcount] at henough ⊢
            simp only [readAll, hagain]
            exact ih hfragmented.tail hsize henough
          · have hcount : deliveries progress (round :: rounds) =
                deliveries progress rounds + 1 := by
              simp [deliveries, hmoved]
            rw [hcount] at henough ⊢
            have hlength : (incoming.take (min (count + 1) (size + 1))).length =
                min (count + 1) (size + 1) := by
              rw [List.length_take]
              omega
            have hchunk : incoming.take (min (count + 1) (size + 1)) ≠ [] := by
              intro hempty
              rw [hempty, List.length_nil] at hlength
              omega
            rw [readAll_moved hmoved hchunk]
            simp only [hlength]
            have hdrop : size + 1 - min (count + 1) (size + 1) ≤
                (incoming.drop (min (count + 1) (size + 1))).length := by
              rw [List.length_drop]
              omega
            obtain ⟨hcomplete, hused⟩ := ih hfragmented.tail hdrop (by omega)
            exact ⟨hcomplete, by omega⟩

end TransferLemmas

/-! ### The passes of the receiving overloads -/

theorem recvProgress_positive {answer : RecvAnswer} {count : ℕ}
    (hmoved : recvProgress answer = .moved count) : 0 < count := by
  cases answer with
  | count n =>
      simp only [recvProgress, Progress.moved.injEq] at hmoved
      omega
  | errno errno =>
      simp only [recvProgress] at hmoved
      split at hmoved <;> contradiction

theorem timedRecvProgress_positive {deadline : ℤ} {round : TimedRound RecvAnswer}
    {count : ℕ} (hmoved : timedRecvProgress deadline round = .moved count) :
    0 < count := by
  unfold timedRecvProgress at hmoved
  split at hmoved
  · contradiction
  · contradiction
  · split at hmoved
    · split at hmoved <;> contradiction
    · simp only [Progress.moved.injEq] at hmoved
      omega

end ElapPlatform.Ipc
