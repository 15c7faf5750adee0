import ElapPlatform.PlatformBasics
import ElapPlatform.StreamExtraction

/-!
# Parsing what the kernel reports

`parseCpuStatLine` and `parseMemInfo` of `HealthMonitor`.  Both read words and numbers
from a stream, which knows nothing of lines.
-/

namespace ElapPlatform.Health

open StreamExtraction

/-- The number of values of a `std::uint64_t` -/
def uint64Values : ℕ := 2 ^ 64

/-! ## CPU samples -/

structure CpuSample where
  user : ℕ
  nice : ℕ
  system : ℕ
  idle : ℕ
  iowait : ℕ
  irq : ℕ
  softirq : ℕ
  steal : ℕ
  deriving DecidableEq, Repr

namespace CpuSample

def fields (sample : CpuSample) : List ℕ :=
  [sample.user, sample.nice, sample.system, sample.idle, sample.iowait, sample.irq,
    sample.softirq, sample.steal]

def total (sample : CpuSample) : ℕ :=
  (sample.user + sample.nice + sample.system + sample.idle + sample.iowait + sample.irq +
    sample.softirq + sample.steal) % uint64Values

def idleTotal (sample : CpuSample) : ℕ := (sample.idle + sample.iowait) % uint64Values

end CpuSample

/-- `"cpu"` -/
def cpuLabel : Bytes := [99, 112, 117]

/-- A failed extraction fails all those behind it. -/
def parseCpuStatLine (line : Bytes) : Option CpuSample := do
  let (label, stream) ← extractWord line
  let (user, stream) ← extractUnsigned uint64Values stream
  let (nice, stream) ← extractUnsigned uint64Values stream
  let (system, stream) ← extractUnsigned uint64Values stream
  let (idle, stream) ← extractUnsigned uint64Values stream
  let (iowait, stream) ← extractUnsigned uint64Values stream
  let (irq, stream) ← extractUnsigned uint64Values stream
  let (softirq, stream) ← extractUnsigned uint64Values stream
  let (steal, _) ← extractUnsigned uint64Values stream
  if label ≠ cpuLabel then none
  else return ⟨user, nice, system, idle, iowait, irq, softirq, steal⟩

/-! ## Memory -/

structure MemoryInfo where
  totalKb : ℕ
  availableKb : ℕ
  deriving DecidableEq, Repr

/-- The variables of the loop of `parseMemInfo` -/
structure MemInfoScan where
  info : MemoryInfo
  foundTotal : Bool
  foundAvailable : Bool
  deriving DecidableEq, Repr

/-- `"MemTotal:"` -/
def memTotalKey : Bytes := [77, 101, 109, 84, 111, 116, 97, 108, 58]

/-- `"MemAvailable:"` -/
def memAvailableKey : Bytes :=
  [77, 101, 109, 65, 118, 97, 105, 108, 97, 98, 108, 101, 58]

def MemInfoScan.record (scan : MemInfoScan) (key : Bytes) (value : ℕ) : MemInfoScan :=
  if key = memTotalKey then
    { scan with info := { scan.info with totalKb := value }, foundTotal := true }
  else if key = memAvailableKey then
    { scan with info := { scan.info with availableKb := value }, foundAvailable := true }
  else scan

/-- `stream >> key >> value >> unit` -/
def extractEntry (stream : Bytes) : Option ((Bytes × ℕ) × Bytes) := do
  let (key, stream) ← extractWord stream
  let (value, stream) ← extractUnsigned uint64Values stream
  let (_, stream) ← extractWord stream
  return ((key, value), stream)

/-- Every round but the last takes something from the stream. -/
def scanEntries : ℕ → Bytes → MemInfoScan → MemInfoScan
  | 0, _, scan => scan
  | rounds + 1, stream, scan =>
      match extractEntry stream with
      | none => scan
      | some ((key, value), stream) => scanEntries rounds stream (scan.record key value)

def parseMemInfo (text : Bytes) : Option MemoryInfo :=
  let scan := scanEntries text.length text ⟨⟨0, 0⟩, false, false⟩
  if !scan.foundTotal || !scan.foundAvailable || scan.info.totalKb = 0 then none
  else some scan.info

section Rounds

variable {stream rest : Bytes} {key : Bytes} {value rounds rounds' : ℕ} {scan : MemInfoScan}

theorem extractEntry_eq_some_iff :
    extractEntry stream = some ((key, value), rest) ↔
      ∃ first second unit, extractWord stream = some (key, first) ∧
        extractUnsigned uint64Values first = some (value, second) ∧
          extractWord second = some (unit, rest) := by
  simp only [extractEntry, Option.bind_eq_bind, Option.bind_eq_some_iff, Option.pure_def,
    Option.some.injEq, Prod.exists, Prod.mk.injEq]
  constructor
  · rintro ⟨_, first, hkey, _, second, hvalue, unit, _, hunit, ⟨rfl, rfl⟩, rfl⟩
    exact ⟨first, second, unit, hkey, hvalue, hunit⟩
  · rintro ⟨first, second, unit, hkey, hvalue, hunit⟩
    exact ⟨key, first, hkey, value, second, hvalue, unit, rest, hunit, ⟨rfl, rfl⟩, rfl⟩

theorem extractEntry_length (hentry : extractEntry stream = some ((key, value), rest)) :
    rest.length < stream.length := by
  obtain ⟨first, second, unit, hkey, hvalue, hunit⟩ := extractEntry_eq_some_iff.mp hentry
  obtain ⟨gap, rfl, _, hword, _⟩ := extractWord_eq_some_iff.mp hkey
  obtain ⟨numeral, _, rfl, _, _⟩ := extractUnsigned_eq_some_iff.mp hvalue
  obtain ⟨gap', rfl, _, _, _⟩ := extractWord_eq_some_iff.mp hunit
  have hnonempty := List.length_pos_iff.mpr hword.nonempty
  simp only [List.length_append]
  omega

/-- The number of rounds does not matter as long as there is one for every byte. -/
theorem scanEntries_congr (hrounds : stream.length ≤ rounds)
    (hrounds' : stream.length ≤ rounds') :
    scanEntries rounds stream scan = scanEntries rounds' stream scan := by
  induction rounds generalizing stream scan rounds' with
  | zero =>
      obtain rfl : stream = [] := List.length_eq_zero_iff.mp (Nat.le_zero.mp hrounds)
      cases rounds' <;> rfl
  | succ rounds ih =>
      cases rounds' with
      | zero =>
          obtain rfl : stream = [] := List.length_eq_zero_iff.mp (Nat.le_zero.mp hrounds')
          rfl
      | succ rounds' =>
          unfold scanEntries
          cases hentry : extractEntry stream with
          | none => rfl
          | some entry =>
              obtain ⟨⟨key, value⟩, rest⟩ := entry
              have hshorter := extractEntry_length hentry
              exact ih (by omega) (by omega)

end Rounds

/-- The loop, with a round for every byte. -/
def scanAll (stream : Bytes) (scan : MemInfoScan) : MemInfoScan :=
  scanEntries stream.length stream scan

section Scan

variable {stream rest : Bytes} {key : Bytes} {value : ℕ} {scan : MemInfoScan}

theorem scanAll_of_none (hentry : extractEntry stream = none) : scanAll stream scan = scan := by
  unfold scanAll
  cases stream with
  | nil => rfl
  | cons byte stream =>
      rw [List.length_cons, scanEntries]
      simp [hentry]

theorem scanAll_of_some (hentry : extractEntry stream = some ((key, value), rest)) :
    scanAll stream scan = scanAll rest (scan.record key value) := by
  have hshorter := extractEntry_length hentry
  unfold scanAll
  rw [@scanEntries_congr stream stream.length (stream.length + 1) scan le_rfl (Nat.le_succ _),
    scanEntries]
  simp only [hentry]
  exact scanEntries_congr (by omega) le_rfl

end Scan

end ElapPlatform.Health
