import Mathlib.Tactic

/-!
# Dates of the civil calendar

A count of days is split into whole years and the days that are left, and these into
months.  Later days have later dates.
-/

namespace CivilCalendar

/-! ## Units of varying length -/

section Units

variable (length : ℕ → ℕ)

def locateFrom : ℕ → ℕ → ℕ → ℕ × ℕ
  | 0, start, count => (start, count)
  | fuel + 1, start, count =>
      if count < length start then (start, count)
      else locateFrom fuel (start + 1) (count - length start)

/-- The unit that a count from the beginning of `start` falls into, and the rest in it. -/
def locate (start count : ℕ) : ℕ × ℕ := locateFrom length count start count

/-- `count` is `rest` behind the beginning of `unit`. -/
structure Located (start count unit rest : ℕ) : Prop where
  start_le : start ≤ unit
  rest_lt : rest < length unit
  count_eq : count = ∑ earlier ∈ Finset.Ico start unit, length earlier + rest

variable {length} (hlength : ∀ unit, 0 < length unit)
include hlength

theorem locateFrom_located {fuel start count : ℕ} (hfuel : count ≤ fuel) :
    Located length start count (locateFrom length fuel start count).1
      (locateFrom length fuel start count).2 := by
  induction fuel generalizing start count with
  | zero =>
      obtain rfl : count = 0 := Nat.le_zero.mp hfuel
      exact ⟨le_rfl, hlength start, by simp [locateFrom]⟩
  | succ fuel ih =>
      rw [locateFrom]
      split_ifs with hwithin
      · exact ⟨le_rfl, hwithin, by simp⟩
      · have hrest : count - length start ≤ fuel := by
          have hpositive := hlength start
          omega
        obtain ⟨hstart, hlt, hcount⟩ := @ih (start + 1) _ hrest
        refine ⟨Nat.le_of_succ_le hstart, hlt, ?_⟩
        rw [Finset.sum_eq_sum_Ico_succ_bot (Nat.lt_of_succ_le hstart)]
        omega

theorem locate_located (start count : ℕ) :
    Located length start count (locate length start count).1 (locate length start count).2 :=
  locateFrom_located hlength le_rfl

omit hlength in
/-- Of two counts the larger one is in a later unit, or later in the same. -/
theorem Located.lt {start first last unit unit' rest rest' : ℕ}
    (hfirst : Located length start first unit rest)
    (hlast : Located length start last unit' rest') (hlt : first < last) :
    unit < unit' ∨ unit = unit' ∧ rest < rest' := by
  rcases Nat.lt_trichotomy unit unit' with hunit | rfl | hunit
  · exact .inl hunit
  · have hfirstEq := hfirst.count_eq
    have hlastEq := hlast.count_eq
    exact .inr ⟨rfl, by omega⟩
  · have hsum : ∑ earlier ∈ Finset.Ico start (unit' + 1), length earlier ≤
        ∑ earlier ∈ Finset.Ico start unit, length earlier :=
      Finset.sum_le_sum_of_subset (Finset.Ico_subset_Ico_right hunit)
    rw [Finset.sum_Ico_succ_top hlast.start_le] at hsum
    have hfirstEq := hfirst.count_eq
    have hlastEq := hlast.count_eq
    have hrest := hlast.rest_lt
    omega

end Units

/-! ## Years and months -/

def isLeap (year : ℕ) : Bool := year % 4 = 0 ∧ (year % 100 ≠ 0 ∨ year % 400 = 0)

def yearLength (year : ℕ) : ℕ := if isLeap year then 366 else 365

/-- The months are counted from 1. -/
def monthLength (leap : Bool) (month : ℕ) : ℕ :=
  if month = 2 then if leap then 29 else 28
  else if month = 4 ∨ month = 6 ∨ month = 9 ∨ month = 11 then 30
  else 31

theorem yearLength_pos (year : ℕ) : 0 < yearLength year := by
  unfold yearLength
  split_ifs <;> decide

theorem monthLength_pos (leap : Bool) (month : ℕ) : 0 < monthLength leap month := by
  unfold monthLength
  split_ifs <;> decide

theorem monthLength_le (leap : Bool) (month : ℕ) : monthLength leap month ≤ 31 := by
  unfold monthLength
  split_ifs <;> decide

theorem sum_monthLength (year : ℕ) :
    ∑ month ∈ Finset.Ico 1 13, monthLength (isLeap year) month = yearLength year := by
  unfold yearLength
  cases isLeap year <;> rfl

structure Date where
  year : ℕ
  month : ℕ
  day : ℕ
  deriving DecidableEq, Repr

/-- The date so many days after the first day of a year. -/
def dateFrom (start days : ℕ) : Date :=
  let (year, dayOfYear) := locate yearLength start days
  let (month, dayOfMonth) := locate (monthLength (isLeap year)) 1 dayOfYear
  ⟨year, month, dayOfMonth + 1⟩

structure Date.Valid (date : Date) : Prop where
  one_le_month : 1 ≤ date.month
  month_le : date.month ≤ 12
  one_le_day : 1 ≤ date.day
  day_le : date.day ≤ monthLength (isLeap date.year) date.month

section Dates

variable {start first last : ℕ}

theorem dateFrom_valid (start days : ℕ) : (dateFrom start days).Valid := by
  have hyear := locate_located yearLength_pos start days
  have hmonth := locate_located (monthLength_pos (isLeap (locate yearLength start days).1)) 1
    (locate yearLength start days).2
  refine ⟨hmonth.start_le, ?_, Nat.le_add_left 1 _, hmonth.rest_lt⟩
  by_contra hlate
  have hmonths : Finset.Ico 1 13 ⊆ Finset.Ico 1 (dateFrom start days).month :=
    Finset.Ico_subset_Ico_right (Nat.lt_of_not_le hlate)
  have hsum : ∑ month ∈ Finset.Ico 1 13, monthLength (isLeap (locate yearLength start days).1) month
      ≤ ∑ month ∈ Finset.Ico 1 (dateFrom start days).month,
        monthLength (isLeap (locate yearLength start days).1) month :=
    Finset.sum_le_sum_of_subset hmonths
  have hcount := hmonth.count_eq
  have hrest := hyear.rest_lt
  rw [sum_monthLength] at hsum
  have hdate : (dateFrom start days).month =
      (locate (monthLength (isLeap (locate yearLength start days).1)) 1
        (locate yearLength start days).2).1 := rfl
  rw [hdate] at hsum
  omega

/-- A later day is in a later year, a later month of the same year, or later in the month. -/
theorem dateFrom_lt (hlt : first < last) :
    (dateFrom start first).year < (dateFrom start last).year ∨
      (dateFrom start first).year = (dateFrom start last).year ∧
        ((dateFrom start first).month < (dateFrom start last).month ∨
          (dateFrom start first).month = (dateFrom start last).month ∧
            (dateFrom start first).day < (dateFrom start last).day) := by
  have hyears := (locate_located yearLength_pos start first).lt
    (locate_located yearLength_pos start last) hlt
  rcases hyears with hyear | ⟨hyear, hday⟩
  · exact .inl hyear
  · refine .inr ⟨hyear, ?_⟩
    have hlength := monthLength_pos (isLeap (locate yearLength start first).1)
    have hmonths := (locate_located hlength 1 (locate yearLength start first).2).lt
      (locate_located hlength 1 (locate yearLength start last).2) hday
    have hlast : (dateFrom start last).month =
        (locate (monthLength (isLeap (locate yearLength start first).1)) 1
          (locate yearLength start last).2).1 := by
      rw [hyear]
      rfl
    have hlastDay : (dateFrom start last).day =
        (locate (monthLength (isLeap (locate yearLength start first).1)) 1
          (locate yearLength start last).2).2 + 1 := by
      rw [hyear]
      rfl
    rw [hlast, hlastDay]
    rcases hmonths with hmonth | ⟨hmonth, hrest⟩
    · exact .inl hmonth
    · exact .inr ⟨hmonth, Nat.succ_lt_succ hrest⟩

theorem dateFrom_year_le (hle : first ≤ last) :
    (dateFrom start first).year ≤ (dateFrom start last).year := by
  rcases Nat.lt_or_eq_of_le hle with hlt | rfl
  · rcases @dateFrom_lt start _ _ hlt with hyear | ⟨hyear, -⟩
    · exact hyear.le
    · exact hyear.le
  · exact le_rfl

end Dates

example : dateFrom 1970 19782 = ⟨2024, 2, 29⟩ := by decide

end CivilCalendar
