import ElapPlatform.CivilCalendar
import ElapPlatform.ConfigurationIntegers

/-!
# Timestamps of the log

`utcTimestamp` prints an instant in fields of fixed width, from the year down to the
millisecond, so that timestamps sort as the clock does.
-/

namespace ElapPlatform.Logging

open CivilCalendar Config
open StreamExtraction (isDigit decimalValue)

/-! ## Printing -/

/-- `std::setfill('0') << std::setw(width)` -/
def zeroFilled (width number : ℕ) : Bytes :=
  List.replicate (width - (digitBytes number).length) 48 ++ digitBytes number

structure Tm where
  date : Date
  hour : ℕ
  minute : ℕ
  second : ℕ
  deriving DecidableEq, Repr

/-- Seconds since the beginning of 1970. -/
def gmtime (time : ℕ) : Tm :=
  ⟨dateFrom 1970 (time / 86400), time % 86400 / 3600, time % 3600 / 60, time % 60⟩

/-- `"%Y-%m-%dT%H:%M:%S"` -/
def putTime (tm : Tm) : Bytes :=
  digitBytes tm.date.year ++ [45] ++ zeroFilled 2 tm.date.month ++ [45] ++
    zeroFilled 2 tm.date.day ++ [84] ++ zeroFilled 2 tm.hour ++ [58] ++
    zeroFilled 2 tm.minute ++ [58] ++ zeroFilled 2 tm.second

/-- An instant is a number of nanoseconds since the beginning of 1970. -/
abbrev Instant := ℕ

def utcTimestamp (now : Instant) : Bytes :=
  putTime (gmtime (now / 1000000000)) ++ [46] ++ zeroFilled 3 (now / 1000000 % 1000) ++ [90]

/-! ## Fields of fixed width -/

/-- The fields of a text, each with its width and the byte that follows it. -/
def fieldBytes : List (ℕ × UInt8) → List ℕ → Bytes
  | (width, separator) :: layout, value :: values =>
      zeroFilled width value ++ [separator] ++ fieldBytes layout values
  | _, _ => []

/-- As many values as fields, each of at most the digits that its field has. -/
def Fit (layout : List (ℕ × UInt8)) (values : List ℕ) : Prop :=
  List.Forall₂ (fun field value => 0 < field.1 ∧ value < 10 ^ field.1) layout values

section Digits

variable {digits digits' : Bytes}

theorem decimalValue_foldl (digits : Bytes) (start : ℕ) :
    digits.foldl (fun value digit => 10 * value + (digit.toNat - 48)) start =
      start * 10 ^ digits.length + decimalValue digits := by
  unfold decimalValue
  induction digits generalizing start with
  | nil => simp
  | cons digit digits ih =>
      rw [List.foldl_cons, List.foldl_cons, ih, ih (10 * 0 + _), List.length_cons, pow_succ]
      ring

theorem decimalValue_cons (digit : UInt8) (digits : Bytes) :
    decimalValue (digit :: digits) =
      (digit.toNat - 48) * 10 ^ digits.length + decimalValue digits := by
  unfold decimalValue
  rw [List.foldl_cons, decimalValue_foldl, decimalValue]
  simp

theorem isDigit_bounds {digit : UInt8} (hdigit : isDigit digit = true) :
    48 ≤ digit.toNat ∧ digit.toNat ≤ 57 := by
  simp only [isDigit, Bool.and_eq_true, decide_eq_true_eq, UInt8.le_iff_toNat_le] at hdigit
  exact hdigit

theorem decimalValue_lt (hdigits : ∀ digit ∈ digits, isDigit digit = true) :
    decimalValue digits < 10 ^ digits.length := by
  induction digits with
  | nil => decide
  | cons digit digits ih =>
      have hrest := ih fun other hmem => hdigits other (List.mem_cons_of_mem _ hmem)
      have hdigit := isDigit_bounds (hdigits digit List.mem_cons_self)
      have hnine : (digit.toNat - 48) * 10 ^ digits.length ≤ 9 * 10 ^ digits.length :=
        Nat.mul_le_mul_right _ (by omega)
      rw [decimalValue_cons, List.length_cons, pow_succ]
      omega

/-- Digits of one length sort as the numbers that they denote. -/
theorem digits_lt_of_value_lt (hlength : digits.length = digits'.length)
    (hdigits : ∀ digit ∈ digits, isDigit digit = true)
    (hdigits' : ∀ digit ∈ digits', isDigit digit = true)
    (hlt : decimalValue digits < decimalValue digits') : digits < digits' := by
  induction digits generalizing digits' with
  | nil =>
      obtain rfl : digits' = [] := List.length_eq_zero_iff.mp hlength.symm
      exact absurd hlt (lt_irrefl _)
  | cons digit digits ih =>
      cases digits' with
      | nil => cases hlength
      | cons digit' digits' =>
          have hlengths : digits.length = digits'.length := by simpa using hlength
          have hrest := fun other hmem => hdigits other (List.mem_cons_of_mem _ hmem)
          have hrest' := fun other hmem => hdigits' other (List.mem_cons_of_mem _ hmem)
          have hdigit := isDigit_bounds (hdigits digit List.mem_cons_self)
          have hdigit' := isDigit_bounds (hdigits' digit' List.mem_cons_self)
          rw [decimalValue_cons, decimalValue_cons, ← hlengths] at hlt
          rw [List.cons_lt_cons_iff]
          rcases Nat.lt_trichotomy digit.toNat digit'.toNat with hfirst | hfirst | hfirst
          · exact .inl (UInt8.lt_iff_toNat_lt.mpr hfirst)
          · rw [hfirst] at hlt
            exact .inr ⟨UInt8.toNat_inj.mp hfirst,
              ih hlengths hrest hrest' (Nat.lt_of_add_lt_add_left hlt)⟩
          · have hbound := decimalValue_lt hrest'
            have hlarger : (digit'.toNat - 48 + 1) * 10 ^ digits.length ≤
                (digit.toNat - 48) * 10 ^ digits.length := Nat.mul_le_mul_right _ (by omega)
            rw [← hlengths] at hbound
            rw [Nat.add_mul] at hlarger
            omega

end Digits

section Fields

variable {width number number' : ℕ} {layout : List (ℕ × UInt8)} {values values' : List ℕ}

theorem digitBytes_length_le (hwidth : 0 < width) (hnumber : number < 10 ^ width) :
    (digitBytes number).length ≤ width := by
  rw [digitBytes, List.length_map]
  exact (Nat.length_toDigits_le_iff (by decide) hwidth).mpr hnumber

theorem zeroFilled_length (hwidth : 0 < width) (hnumber : number < 10 ^ width) :
    (zeroFilled width number).length = width := by
  have hlength := digitBytes_length_le hwidth hnumber
  rw [zeroFilled, List.length_append, List.length_replicate]
  omega

theorem zeroFilled_digits (width number : ℕ) :
    ∀ digit ∈ zeroFilled width number, isDigit digit = true := by
  intro digit hmem
  rcases List.mem_append.mp hmem with hzero | hdigit
  · rw [List.eq_of_mem_replicate hzero]
    decide
  · exact digitBytes_decimal digit hdigit

theorem decimalValue_zeroFilled (width number : ℕ) :
    decimalValue (zeroFilled width number) = number := by
  have hzeros : ∀ count, decimalValue (List.replicate count 48 ++ digitBytes number) = number := by
    intro count
    induction count with
    | zero => exact decimalValue_digitBytes
    | succ count ih =>
        rw [List.replicate_succ, List.cons_append, decimalValue_cons, ih]
        simp
  exact hzeros _

theorem zeroFilled_lt (hwidth : 0 < width) (hnumber : number < 10 ^ width)
    (hnumber' : number' < 10 ^ width) (hlt : number < number') :
    zeroFilled width number < zeroFilled width number' := by
  apply digits_lt_of_value_lt _ (zeroFilled_digits _ _) (zeroFilled_digits _ _)
  · rwa [decimalValue_zeroFilled, decimalValue_zeroFilled]
  · rw [zeroFilled_length hwidth hnumber, zeroFilled_length hwidth hnumber']

theorem append_lt_append {first first' last last' : Bytes} (hlength : first.length = first'.length)
    (hlt : first < first') : first ++ last < first' ++ last' := by
  induction first generalizing first' with
  | nil =>
      obtain rfl : first' = [] := List.length_eq_zero_iff.mp hlength.symm
      cases hlt
  | cons byte first ih =>
      cases first' with
      | nil => cases hlength
      | cons byte' first' =>
          rw [List.cons_append, List.cons_append, List.cons_lt_cons_iff]
          rcases List.cons_lt_cons_iff.mp hlt with hbyte | ⟨hbyte, hrest⟩
          · exact .inl hbyte
          · exact .inr ⟨hbyte, ih (by simpa using hlength) hrest⟩

/-- Fields of fixed width sort as the list of their values. -/
theorem fieldBytes_lt (hfit : Fit layout values) (hfit' : Fit layout values')
    (hlt : values < values') : fieldBytes layout values < fieldBytes layout values' := by
  induction hfit generalizing values' with
  | nil =>
      cases hfit'
      cases hlt
  | @cons field value layout values hfield hrest ih =>
      cases hfit' with
      | @cons _ value' _ values' hfield' hrest' =>
          rw [fieldBytes, fieldBytes]
          rcases List.cons_lt_cons_iff.mp hlt with hvalue | ⟨rfl, hvalues⟩
          · refine append_lt_append ?_ (append_lt_append ?_ ?_)
            · simp [zeroFilled_length hfield.1 hfield.2, zeroFilled_length hfield'.1 hfield'.2]
            · rw [zeroFilled_length hfield.1 hfield.2, zeroFilled_length hfield'.1 hfield'.2]
            · exact zeroFilled_lt hfield.1 hfield.2 hfield'.2 hvalue
          · exact List.append_left_lt (ih hrest' hvalues)

theorem fieldBytes_length (hfit : Fit layout values) :
    (fieldBytes layout values).length = (layout.map fun field => field.1 + 1).sum := by
  induction hfit with
  | nil => rfl
  | cons hfield hrest ih =>
      rw [fieldBytes, List.length_append, List.length_append, ih,
        zeroFilled_length hfield.1 hfield.2]
      rfl

end Fields

/-! ## The fields of a timestamp -/

def timestampLayout : List (ℕ × UInt8) :=
  [(4, 45), (2, 45), (2, 84), (2, 58), (2, 58), (2, 46), (3, 90)]

def timestampValues (now : Instant) : List ℕ :=
  let tm := gmtime (now / 1000000000)
  [tm.date.year, tm.date.month, tm.date.day, tm.hour, tm.minute, tm.second,
    now / 1000000 % 1000]

section Timestamps

variable {now first last : ℕ}

/-- Later years are printed with more digits. -/
def WithinYears (now : Instant) : Prop := (gmtime (now / 1000000000)).date.year < 10000

theorem year_le (now : Instant) : 1970 ≤ (gmtime (now / 1000000000)).date.year :=
  (locate_located yearLength_pos 1970 (now / 1000000000 / 86400)).start_le

theorem timestampValues_fit (hyears : WithinYears now) :
    Fit timestampLayout (timestampValues now) := by
  have hvalid := dateFrom_valid 1970 (now / 1000000000 / 86400)
  have hmonth : (gmtime (now / 1000000000)).date.month ≤ 12 := hvalid.month_le
  have hday : (gmtime (now / 1000000000)).date.day ≤ 31 :=
    hvalid.day_le.trans (monthLength_le _ _)
  unfold timestampLayout timestampValues
  refine .cons ⟨by decide, hyears⟩ (.cons ⟨by decide, ?_⟩ (.cons ⟨by decide, ?_⟩
    (.cons ⟨by decide, ?_⟩ (.cons ⟨by decide, ?_⟩ (.cons ⟨by decide, ?_⟩
      (.cons ⟨by decide, ?_⟩ .nil))))))
  all_goals simp only [gmtime] at *
  all_goals omega

theorem digitBytes_year (now : ℕ) :
    digitBytes (gmtime (now / 1000000000)).date.year =
      zeroFilled 4 (gmtime (now / 1000000000)).date.year := by
  have hyear := year_le now
  have hfour : ¬ (digitBytes (gmtime (now / 1000000000)).date.year).length ≤ 3 := by
    rw [digitBytes, List.length_map, Nat.length_toDigits_le_iff (by decide) (by decide)]
    omega
  rw [zeroFilled, Nat.sub_eq_zero_of_le (Nat.lt_of_not_le hfour)]
  rfl

theorem utcTimestamp_eq_fieldBytes (now : Instant) :
    utcTimestamp now = fieldBytes timestampLayout (timestampValues now) := by
  unfold utcTimestamp putTime
  rw [digitBytes_year]
  simp [fieldBytes, timestampLayout, timestampValues]

/-- Within one day the hour, the minute and the second go up from the left. -/
theorem timeOfDay_lt {time time' : ℕ} (hday : time / 86400 = time' / 86400) (hlt : time < time') :
    (gmtime time).hour < (gmtime time').hour ∨
      (gmtime time).hour = (gmtime time').hour ∧
        ((gmtime time).minute < (gmtime time').minute ∨
          (gmtime time).minute = (gmtime time').minute ∧
            (gmtime time).second < (gmtime time').second) := by
  simp only [gmtime]
  omega

theorem timestampValues_lt (hlt : first / 1000000 < last / 1000000) :
    timestampValues first < timestampValues last := by
  have hseconds : ∀ now : ℕ, now / 1000000000 = now / 1000000 / 1000 := fun now =>
    (Nat.div_div_eq_div_mul now 1000000 1000).symm
  have hfirst := hseconds first
  have hlast := hseconds last
  simp only [timestampValues, List.cons_lt_cons_iff]
  rcases Nat.lt_trichotomy (first / 1000000000) (last / 1000000000) with hsecond | hsecond | hsecond
  · have hdays : first / 1000000000 / 86400 ≤ last / 1000000000 / 86400 :=
      Nat.div_le_div_right hsecond.le
    rcases Nat.lt_or_eq_of_le hdays with hday | hday
    · rcases @dateFrom_lt 1970 _ _ hday with hyear | ⟨hyear, hmonth | ⟨hmonth, hdate⟩⟩
      · exact .inl hyear
      · exact .inr ⟨hyear, .inl hmonth⟩
      · exact .inr ⟨hyear, .inr ⟨hmonth, .inl hdate⟩⟩
    · have hdate : (gmtime (first / 1000000000)).date = (gmtime (last / 1000000000)).date :=
        congrArg (dateFrom 1970) hday
      rw [hdate]
      refine .inr ⟨rfl, .inr ⟨rfl, .inr ⟨rfl, ?_⟩⟩⟩
      rcases timeOfDay_lt hday hsecond with hhour | ⟨hhour, hminute | ⟨hminute, hlast⟩⟩
      · exact .inl hhour
      · exact .inr ⟨hhour, .inl hminute⟩
      · exact .inr ⟨hhour, .inr ⟨hminute, .inl hlast⟩⟩
  · rw [hsecond]
    refine .inr ⟨rfl, .inr ⟨rfl, .inr ⟨rfl, .inr ⟨rfl, .inr ⟨rfl, .inr ⟨rfl, .inl ?_⟩⟩⟩⟩⟩⟩
    omega
  · exact absurd hsecond (by omega)

theorem WithinYears.earlier (hyears : WithinYears last) (hle : first ≤ last) :
    WithinYears first := by
  refine lt_of_le_of_lt (dateFrom_year_le ?_) hyears
  exact Nat.div_le_div_right (Nat.div_le_div_right hle)

/-- Timestamps of the years to 9999 have 24 bytes and sort as the clock does, to the
millisecond. -/
theorem timestamps_sort (hyears : WithinYears last) (hlt : first / 1000000 < last / 1000000) :
    (utcTimestamp first).length = 24 ∧ (utcTimestamp last).length = 24 ∧
      utcTimestamp first < utcTimestamp last := by
  have hfirst : WithinYears first := hyears.earlier (by
    by_contra hlater
    exact absurd (Nat.div_le_div_right (Nat.le_of_not_le hlater)) (Nat.not_le_of_lt hlt))
  have hfit := timestampValues_fit hfirst
  have hfit' := timestampValues_fit hyears
  rw [utcTimestamp_eq_fieldBytes, utcTimestamp_eq_fieldBytes]
  exact ⟨fieldBytes_length hfit, fieldBytes_length hfit',
    fieldBytes_lt hfit hfit' (timestampValues_lt hlt)⟩

/-- The first millisecond of the epoch and a leap day. -/
theorem leap_day_sorts_last :
    (utcTimestamp (1000000 : ℕ)).length = 24 ∧
      (utcTimestamp (1709164800123000000 : ℕ)).length = 24 ∧
      utcTimestamp (1000000 : ℕ) < utcTimestamp (1709164800123000000 : ℕ) :=
  timestamps_sort (by show _ < 10000; decide) (by decide)

end Timestamps

end ElapPlatform.Logging
