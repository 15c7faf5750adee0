import ElapPlatform.CheckedArithmetic
import ElapPlatform.PosixMessageQueueTransfer
import ElapPlatform.InteractionTranscript

/-!
# Deadlines of message queue transfers

`loadDeadline` of `PosixMessageQueue` in the integer types of the code: a 64-bit
count of milliseconds, a 64-bit `time_t`, and a `long` of either width.
-/

namespace ElapPlatform.Ipc.FixedWidth

open CheckedArithmetic Interaction Interaction.Program

/-! ## The code -/

inductive LongWidth where
  | bits32
  | bits64
  deriving DecidableEq, Repr

def LongWidth.bits : LongWidth → ℕ
  | .bits32 => 32
  | .bits64 => 64

variable {long : LongWidth}

theorem inRange_long {value : ℤ} (hlow : -2 ^ 31 ≤ value) (hhigh : value < 2 ^ 31) :
    InRange long.bits value := by
  cases long with
  | bits32 =>
      simp only [LongWidth.bits, InRange]
      omega
  | bits64 =>
      simp only [LongWidth.bits, InRange]
      omega

/-- `1000L` -/
def thousand (long : LongWidth) : Signed long.bits :=
  ⟨1000, inRange_long (by norm_num) (by norm_num)⟩

def nanosecondsPerSecond (long : LongWidth) : Signed long.bits :=
  ⟨1000 * 1000 * 1000, inRange_long (by norm_num) (by norm_num)⟩

/-- Seconds in a millisecond count. -/
def millisecondsPerSecond : Signed 64 :=
  ⟨1000, by decide⟩

structure Timespec (long : LongWidth) where
  seconds : Signed 64
  nanoseconds : Signed long.bits
  deriving DecidableEq

/-- What `loadDeadline` makes of the clock reading; nothing where an operation
overflows. -/
def advance (now : Timespec long) (timeout : Signed 64) : Option (Timespec long) := do
  let seconds ← timeout.div millisecondsPerSecond
  let milliseconds ← timeout.sub (← seconds.mul millisecondsPerSecond)
  let tvSec ← now.seconds.add seconds
  let scaled ← (← (← milliseconds.convert long.bits).mul (thousand long)).mul (thousand long)
  let tvNsec ← now.nanoseconds.add scaled
  if tvNsec.value ≥ (nanosecondsPerSecond long).value then
    let carried ← tvNsec.div (nanosecondsPerSecond long)
    let tvSec ← tvSec.add (← carried.convert 64)
    let tvNsec ← tvNsec.mod (nanosecondsPerSecond long)
    return ⟨tvSec, tvNsec⟩
  return ⟨tvSec, tvNsec⟩

inductive ClockCall where
  | clockGettime
  deriving DecidableEq, Repr

def ClockCall.Reply (long : LongWidth) : ClockCall → Type
  | .clockGettime => SystemResult (Timespec long)

abbrev ClockProgram (long : LongWidth) (α : Type) := Program ClockCall (ClockCall.Reply long) α

def clockGettime (long : LongWidth) : ClockProgram long (SystemResult (Timespec long)) :=
  .ask ClockCall.clockGettime .done

/-- The outer `none` is an overflow. -/
def loadDeadline (long : LongWidth) (timeout : Signed 64) :
    ClockProgram long (Option (Except ErrorText (Timespec long))) := do
  if timeout.value < 0 then
    return some (.error (.message "message queue timeout must not be negative"))
  match ← clockGettime long with
  | .error errno => return some (.error (systemError "clock_gettime" errno))
  | .ok now =>
    match advance now timeout with
    | none => return none
    | some deadline => return some (.ok deadline)

/-! ## The sum -/

def Timespec.exact (time : Timespec long) : Ipc.Timespec :=
  ⟨time.seconds.value, time.nanoseconds.value⟩

/-- All of a time in nanoseconds. -/
def Timespec.total (time : Timespec long) : ℤ :=
  time.seconds.value * 10 ^ 9 + time.nanoseconds.value

/-- The nanoseconds of a time are less than a second. -/
def Timespec.Normal (time : Timespec long) : Prop :=
  0 ≤ time.nanoseconds.value ∧ time.nanoseconds.value < 10 ^ 9

theorem millisecondsPerSecond_value : millisecondsPerSecond.value = 1000 := rfl

theorem thousand_value (long : LongWidth) : (thousand long).value = 1000 := rfl

theorem nanosecondsPerSecond_value (long : LongWidth) :
    (nanosecondsPerSecond long).value = 10 ^ 9 := by
  simp [nanosecondsPerSecond]

theorem exists_split {timeout : Signed 64} (htimeout : 0 ≤ timeout.value) :
    ∃ seconds whole milliseconds, timeout.div millisecondsPerSecond = some seconds ∧
      seconds.mul millisecondsPerSecond = some whole ∧
      timeout.sub whole = some milliseconds ∧ 0 ≤ milliseconds.value ∧
      milliseconds.value < 1000 ∧
      timeout.value = seconds.value * 1000 + milliseconds.value := by
  obtain ⟨_, hlargest⟩ := timeout.inRange
  obtain ⟨seconds, hdiv, hquotient⟩ :=
    timeout.exists_div millisecondsPerSecond_value htimeout (by norm_num)
  obtain ⟨whole, hmul, hwhole⟩ :=
    seconds.exists_mul millisecondsPerSecond_value (by simp only [InRange]; omega)
  obtain ⟨milliseconds, hsub, hrest⟩ := timeout.exists_sub whole
    (by simp only [InRange]; omega)
  exact ⟨seconds, whole, milliseconds, hdiv, hmul, hsub, by omega, by omega, by omega⟩

theorem exists_scaled (long : LongWidth) {milliseconds : Signed 64}
    (hnonneg : 0 ≤ milliseconds.value)
    (hbelow : milliseconds.value < 1000) :
    ∃ narrow microseconds nanoseconds, milliseconds.convert long.bits = some narrow ∧
      narrow.mul (thousand long) = some microseconds ∧
      microseconds.mul (thousand long) = some nanoseconds ∧
      nanoseconds.value = milliseconds.value * 10 ^ 6 := by
  obtain ⟨narrow, hnarrow, hsame⟩ :=
    milliseconds.exists_convert long.bits (inRange_long (by omega) (by omega))
  obtain ⟨microseconds, hmicro, hmicros⟩ :=
    narrow.exists_mul (thousand_value long) (inRange_long (by omega) (by omega))
  obtain ⟨nanoseconds, hnano, hnanos⟩ :=
    microseconds.exists_mul (thousand_value long) (inRange_long (by omega) (by omega))
  exact ⟨narrow, microseconds, nanoseconds, hnarrow, hmicro, hnano, by omega⟩

/-- The carry is one second. -/
theorem exists_carried (tvSec : Signed 64) (tvNsec : Signed long.bits)
    (hsec : 0 ≤ tvSec.value) (hroom : tvSec.value < 2 ^ 63 - 1)
    (hfull : 10 ^ 9 ≤ tvNsec.value) (hless : tvNsec.value < 2 * 10 ^ 9) :
    ∃ carried widened carriedSec restNsec,
      tvNsec.div (nanosecondsPerSecond long) = some carried ∧
      carried.convert 64 = some widened ∧ tvSec.add widened = some carriedSec ∧
      tvNsec.mod (nanosecondsPerSecond long) = some restNsec ∧
      carriedSec.value = tvSec.value + 1 ∧ restNsec.value = tvNsec.value - 10 ^ 9 := by
  obtain ⟨carried, hcarried, hquotient⟩ :=
    tvNsec.exists_div (nanosecondsPerSecond_value long) (by omega) (by norm_num)
  obtain ⟨restNsec, hrest, hremainder⟩ :=
    tvNsec.exists_mod (nanosecondsPerSecond_value long) (by omega) (by norm_num)
  have hone : carried.value = 1 := by omega
  obtain ⟨widened, hwidened, hsame⟩ := carried.exists_convert 64
    (by simp only [InRange]; omega)
  obtain ⟨carriedSec, hadd, hsum⟩ := tvSec.exists_add widened
    (by simp only [InRange]; omega)
  exact ⟨carried, widened, carriedSec, restNsec, hcarried, hwidened, hadd, hrest,
    by omega, by omega⟩

/-- Neither the largest timeout nor the carry overflows. -/
theorem advance_total {now : Timespec long} {timeout : Signed 64} (hnow : now.Normal)
    (hseconds : 0 ≤ now.seconds.value) (hbound : now.seconds.value ≤ 2 ^ 62)
    (htimeout : 0 ≤ timeout.value) :
    ∃ deadline, advance now timeout = some deadline ∧ deadline.Normal ∧
      deadline.total = now.total + timeout.value * 10 ^ 6 := by
  obtain ⟨hnsec, hnsecBelow⟩ := hnow
  obtain ⟨_, hlargest⟩ := timeout.inRange
  obtain ⟨seconds, whole, milliseconds, hdiv, hmul, hsub, hmilli, hmilliBelow, hsplit⟩ :=
    exists_split htimeout
  obtain ⟨tvSec, hadd, hsum⟩ := now.seconds.exists_add seconds
    (by simp only [InRange]; omega)
  obtain ⟨narrow, microseconds, nanoseconds, hnarrow, hmicro, hnano, hscaled⟩ :=
    exists_scaled long hmilli hmilliBelow
  obtain ⟨tvNsec, hload, hloaded⟩ :=
    now.nanoseconds.exists_add nanoseconds (inRange_long (by omega) (by omega))
  have hlimit := nanosecondsPerSecond_value long
  simp only [advance, hdiv, hmul, hsub, hadd, hnarrow, hmicro, hnano, hload,
    Option.bind_eq_bind, Option.bind_some]
  by_cases hcarry : tvNsec.value ≥ (nanosecondsPerSecond long).value
  · obtain ⟨carried, widened, carriedSec, restNsec, hcarried, hwidened, hsecs, hmod, hone, hless⟩ :=
      exists_carried tvSec tvNsec (by omega) (by omega) (by omega) (by omega)
    refine ⟨⟨carriedSec, restNsec⟩, ?_, ?_, ?_⟩
    · rw [if_pos hcarry]
      simp [hcarried, hwidened, hsecs, hmod]
    · simp only [Timespec.Normal]
      omega
    · simp only [Timespec.total]
      omega
  · refine ⟨⟨tvSec, tvNsec⟩, ?_, ?_, ?_⟩
    · rw [if_neg hcarry]
      rfl
    · simp only [Timespec.Normal]
      omega
    · simp only [Timespec.total]
      omega

/-! ## The calls -/

theorem loadDeadline_negative {timeout : Signed 64} (hnegative : timeout.value < 0) :
    loadDeadline long timeout =
      .done (some (.error (.message "message queue timeout must not be negative"))) := by
  simp [loadDeadline, hnegative]

theorem loadDeadline_nonneg {timeout : Signed 64} (hnonneg : 0 ≤ timeout.value) :
    loadDeadline long timeout = .ask ClockCall.clockGettime fun reply =>
      .done (match reply with
        | .error errno => some (.error (systemError "clock_gettime" errno))
        | .ok now => (advance now timeout).map .ok) := by
  have hnot : ¬ timeout.value < 0 := by omega
  simp only [loadDeadline, hnot, if_false, clockGettime]
  refine congrArg _ (funext fun reply => ?_)
  cases reply with
  | error errno => rfl
  | ok now =>
      cases hadvance : advance now timeout with
      | none => simp [hadvance]
      | some deadline => simp [hadvance]

/-! ## Main results -/

/-- The fixed-width result is that of the unbounded integers. -/
theorem advance_exact {now deadline : Timespec long} {timeout : Signed 64}
    (hnonneg : 0 ≤ timeout.value) (hdeadline : advance now timeout = some deadline) :
    deadline.exact = queueDeadline now.exact timeout.value := by
  obtain ⟨seconds, whole, milliseconds, hdiv, hmul, hsub, _, _, hsplit⟩ := exists_split hnonneg
  simp only [advance, hdiv, hmul, hsub, Option.bind_eq_bind, Option.bind_some,
    Option.bind_eq_some_iff] at hdeadline
  obtain ⟨tvSec, hadd, narrow, hnarrow, micro, hmicro, nano, hnano, tvNsec, hload, hrest⟩ :=
    hdeadline
  have hsum := Signed.value_of_add hadd
  have hscale := Signed.value_of_mul hnano
  rw [Signed.value_of_mul hmicro, thousand_value, Signed.value_of_convert hnarrow] at hscale
  have hloaded := Signed.value_of_add hload
  have hquotient : seconds.value = timeout.value / 1000 := by omega
  have hnsec : tvNsec.value = now.nanoseconds.value +
      (timeout.value - timeout.value / 1000 * 1000) * 1000 * 1000 := by
    rw [hloaded, hscale]
    omega
  have hlimit : (nanosecondsPerSecond long).value = Ipc.nanosecondsPerSecond := rfl
  have hsec : tvSec.value = now.seconds.value + timeout.value / 1000 := by omega
  rw [hlimit] at hrest
  simp only [queueDeadline, Timespec.exact, ← hnsec, ← hsec]
  split at hrest
  · rename_i hcarry
    obtain ⟨carried, hcarried, hrest⟩ := Option.bind_eq_some_iff.mp hrest
    obtain ⟨widened, hwidened, hrest⟩ := Option.bind_eq_some_iff.mp hrest
    obtain ⟨carriedSec, hcarriedSec, hrest⟩ := Option.bind_eq_some_iff.mp hrest
    obtain ⟨restNsec, hrestNsec, hrest⟩ := Option.bind_eq_some_iff.mp hrest
    cases hrest
    have hpositive : 0 ≤ tvNsec.value := le_trans (by decide) hcarry
    have hseconds := Signed.value_of_add hcarriedSec
    have hnanoseconds := Signed.value_of_mod hrestNsec
    rw [Signed.value_of_convert hwidened, Signed.value_of_div hcarried,
      Int.tdiv_eq_ediv_of_nonneg hpositive] at hseconds
    rw [Int.tmod_eq_emod_of_nonneg hpositive] at hnanoseconds
    rw [if_pos hcarry, hseconds, hnanoseconds, hlimit]
  · rename_i hcarry
    cases hrest
    rw [if_neg hcarry]

/-- The reading as the unbounded model receives it. -/
def exactExchange (exchange : Exchange ClockCall (ClockCall.Reply long)) :
    Exchange TransferCall TransferCall.Reply :=
  match exchange with
  | ⟨.clockGettime, reply⟩ => ⟨.clockGettime, Except.map Timespec.exact reply⟩

theorem loadDeadline_refines {timeout : Signed 64}
    {exchanges : List (Exchange ClockCall (ClockCall.Reply long))}
    {result : Except ErrorText (Timespec long)}
    (htranscript : Transcript (loadDeadline long timeout) exchanges (some result)) :
    Transcript (Ipc.loadDeadline timeout.value) (exchanges.map exactExchange)
      (result.map Timespec.exact) := by
  by_cases hnegative : timeout.value < 0
  · rw [loadDeadline_negative hnegative, transcript_done_iff, Option.some.injEq] at htranscript
    obtain ⟨rfl, rfl⟩ := htranscript
    simp [Ipc.loadDeadline, hnegative, Except.map]
  · have hnonneg : 0 ≤ timeout.value := by omega
    rw [loadDeadline_nonneg hnonneg, transcript_ask_iff] at htranscript
    obtain ⟨reply, rest, rfl, hrest⟩ := htranscript
    obtain ⟨rfl, hresult⟩ := transcript_done_iff.mp hrest
    simp only [Ipc.loadDeadline, hnegative, if_false, Ipc.clockGettime, List.map_cons,
      List.map_nil, exactExchange]
    refine transcript_bind_iff.mpr
      ⟨_, [], Except.map Timespec.exact reply, rfl, transcript_perform_iff.mpr rfl, ?_⟩
    cases reply with
    | error errno =>
        cases hresult
        simp [Except.map]
    | ok now =>
        obtain ⟨deadline, hdeadline, hok⟩ := Option.map_eq_some_iff.mp hresult.symm
        subst hok
        simp [Except.map, advance_exact hnonneg hdeadline]

/-- A negative timeout is refused without the clock; every other one gives the
deadline that is `timeout` milliseconds after the reading, to the nanosecond. -/
theorem loadDeadline_exact (long : LongWidth) (timeout : Signed 64) :
    (timeout.value < 0 → ∀ exchanges result,
      Transcript (loadDeadline long timeout) exchanges result ↔
        exchanges = [] ∧ result =
          some (.error (.message "message queue timeout must not be negative"))) ∧
    (0 ≤ timeout.value → ∀ now : Timespec long, now.Normal →
      0 ≤ now.seconds.value → now.seconds.value ≤ 2 ^ 62 →
      ∃ deadline : Timespec long,
        (∀ rest result,
          Transcript (loadDeadline long timeout) (⟨.clockGettime, .ok now⟩ :: rest) result ↔
            rest = [] ∧ result = some (.ok deadline)) ∧
        0 ≤ deadline.nanoseconds.value ∧ deadline.nanoseconds.value < 10 ^ 9 ∧
        deadline.seconds.value * 10 ^ 9 + deadline.nanoseconds.value =
          now.seconds.value * 10 ^ 9 + now.nanoseconds.value + timeout.value * 10 ^ 6) := by
  constructor
  · intro hnegative exchanges result
    rw [loadDeadline_negative hnegative, transcript_done_iff]
  · intro hnonneg now hnow hseconds hbound
    obtain ⟨deadline, hdeadline, ⟨hnsec, hbelow⟩, htotal⟩ :=
      advance_total hnow hseconds hbound hnonneg
    refine ⟨deadline, ?_, hnsec, hbelow, htotal⟩
    intro rest result
    rw [loadDeadline_nonneg hnonneg, transcript_ask_iff]
    constructor
    · rintro ⟨reply, rest', hsplit, hdone⟩
      obtain ⟨hhead, rfl⟩ := List.cons.inj hsplit
      cases hhead
      simpa [hdeadline] using hdone
    · rintro ⟨rfl, rfl⟩
      exact ⟨.ok now, [], rfl, by simp [hdeadline]⟩

/-- The largest timeout after a reading that carries, with a `long` of 32 bits. -/
theorem loadDeadline_exact_largest :
    (∃ deadline : Timespec .bits32,
      Transcript (loadDeadline .bits32 ⟨2 ^ 63 - 1, by decide⟩)
        [⟨.clockGettime, .ok ⟨⟨2 ^ 62, by decide⟩, ⟨999999999, by decide⟩⟩⟩]
        (some (.ok deadline)) ∧
      deadline.seconds.value = 2 ^ 62 + 9223372036854776 ∧
      deadline.nanoseconds.value = 806999999) ∧
    ∀ exchanges result,
      Transcript (loadDeadline .bits32 ⟨-1, by decide⟩) exchanges result → exchanges = [] := by
  constructor
  · obtain ⟨deadline, hresult, hnonneg, hbelow, htotal⟩ :=
      (loadDeadline_exact .bits32 ⟨2 ^ 63 - 1, by decide⟩).2 (by decide)
        ⟨⟨2 ^ 62, by decide⟩, ⟨999999999, by decide⟩⟩ ⟨by decide, by decide⟩ (by decide)
        (by decide)
    simp only at htotal
    exact ⟨deadline, (hresult [] _).mpr ⟨rfl, rfl⟩, by omega, by omega⟩
  · intro exchanges result htranscript
    exact (((loadDeadline_exact .bits32 ⟨-1, by decide⟩).1 (by decide) exchanges result).mp
      htranscript).1

end ElapPlatform.Ipc.FixedWidth
