import Mathlib.Tactic

/-!
# Signed integers of a fixed width

Arithmetic that has no result where the exact one leaves the range of the type.
-/

namespace CheckedArithmetic

def InRange (width : ℕ) (value : ℤ) : Prop :=
  -2 ^ width ≤ 2 * value ∧ 2 * value < 2 ^ width

instance (width : ℕ) (value : ℤ) : Decidable (InRange width value) :=
  inferInstanceAs (Decidable (_ ∧ _))

structure Signed (width : ℕ) where
  value : ℤ
  inRange : InRange width value
  deriving DecidableEq

variable {width : ℕ}

theorem Signed.ext {left right : Signed width} (hvalue : left.value = right.value) :
    left = right := by
  cases left
  cases right
  simpa using hvalue

def represent (width : ℕ) (value : ℤ) : Option (Signed width) :=
  if h : InRange width value then some ⟨value, h⟩ else none

theorem represent_eq_some_iff {value : ℤ} {result : Signed width} :
    represent width value = some result ↔ result.value = value := by
  unfold represent
  split
  · rename_i hrange
    rw [Option.some.injEq]
    constructor
    · rintro rfl
      rfl
    · intro hvalue
      exact Signed.ext hvalue.symm
  · rename_i hrange
    constructor
    · intro hnone
      exact absurd hnone (by simp)
    · rintro rfl
      exact absurd result.inRange hrange

theorem exists_represent {value : ℤ} (hrange : InRange width value) :
    ∃ result, represent width value = some result ∧ result.value = value :=
  ⟨⟨value, hrange⟩, represent_eq_some_iff.mpr rfl, rfl⟩

namespace Signed

/-! ## Operations -/

def add (left right : Signed width) : Option (Signed width) :=
  represent width (left.value + right.value)

def sub (left right : Signed width) : Option (Signed width) :=
  represent width (left.value - right.value)

def mul (left right : Signed width) : Option (Signed width) :=
  represent width (left.value * right.value)

/-- Rounds towards zero. -/
def div (left right : Signed width) : Option (Signed width) :=
  if right.value = 0 then none else represent width (left.value.tdiv right.value)

/-- Has a result where the quotient has one. -/
def mod (left right : Signed width) : Option (Signed width) :=
  (left.div right).bind fun _ => represent width (left.value.tmod right.value)

/-- A conversion that would change the value has no result. -/
def convert (target : ℕ) (number : Signed width) : Option (Signed target) :=
  represent target number.value

/-! ## Results -/

variable {left right result : Signed width}

theorem value_of_add (hresult : left.add right = some result) :
    result.value = left.value + right.value :=
  represent_eq_some_iff.mp hresult

theorem value_of_mul (hresult : left.mul right = some result) :
    result.value = left.value * right.value :=
  represent_eq_some_iff.mp hresult

theorem value_of_convert {target : ℕ} {number : Signed width} {result : Signed target}
    (hresult : number.convert target = some result) : result.value = number.value :=
  represent_eq_some_iff.mp hresult

theorem value_of_div (hresult : left.div right = some result) :
    result.value = left.value.tdiv right.value := by
  unfold div at hresult
  split at hresult
  · cases hresult
  · exact represent_eq_some_iff.mp hresult

theorem value_of_mod (hresult : left.mod right = some result) :
    result.value = left.value.tmod right.value := by
  obtain ⟨quotient, _, hrepresent⟩ := Option.bind_eq_some_iff.mp hresult
  exact represent_eq_some_iff.mp hrepresent

theorem exists_add (left right : Signed width)
    (hrange : InRange width (left.value + right.value)) :
    ∃ result, left.add right = some result ∧ result.value = left.value + right.value :=
  exists_represent hrange

theorem exists_sub (left right : Signed width)
    (hrange : InRange width (left.value - right.value)) :
    ∃ result, left.sub right = some result ∧ result.value = left.value - right.value :=
  exists_represent hrange

theorem exists_mul (left : Signed width) {right : Signed width} {factor : ℤ}
    (hfactor : right.value = factor) (hrange : InRange width (left.value * factor)) :
    ∃ result, left.mul right = some result ∧ result.value = left.value * factor := by
  subst hfactor
  exact exists_represent hrange

theorem exists_convert (target : ℕ) (number : Signed width)
    (hrange : InRange target number.value) :
    ∃ result, number.convert target = some result ∧ result.value = number.value :=
  exists_represent hrange

/-- A quotient of non-negative numbers is not above the dividend. -/
theorem exists_div (left : Signed width) {right : Signed width} {divisor : ℤ}
    (hdivisor : right.value = divisor) (hleft : 0 ≤ left.value) (hpos : 0 < divisor) :
    ∃ result, left.div right = some result ∧ result.value = left.value / divisor := by
  have hbound : left.value / divisor ≤ left.value := Int.ediv_le_self _ hleft
  have hnonneg : 0 ≤ left.value / divisor := Int.ediv_nonneg hleft hpos.le
  have hrange : InRange width (left.value / divisor) := by
    obtain ⟨_, hhigh⟩ := left.inRange
    have hpower : (0 : ℤ) < 2 ^ width := by positivity
    constructor <;> linarith
  obtain ⟨result, hresult, hvalue⟩ := exists_represent hrange
  refine ⟨result, ?_, hvalue⟩
  rw [div, hdivisor, if_neg hpos.ne', Int.tdiv_eq_ediv_of_nonneg hleft, hresult]

theorem exists_mod (left : Signed width) {right : Signed width} {divisor : ℤ}
    (hdivisor : right.value = divisor) (hleft : 0 ≤ left.value) (hpos : 0 < divisor) :
    ∃ result, left.mod right = some result ∧ result.value = left.value % divisor := by
  obtain ⟨quotient, hquotient, _⟩ := exists_div left hdivisor hleft hpos
  have hnonneg : 0 ≤ left.value % divisor := Int.emod_nonneg _ hpos.ne'
  have hbelow : left.value % divisor < divisor := Int.emod_lt_of_pos _ hpos
  have hrange : InRange width (left.value % divisor) := by
    obtain ⟨_, hhigh⟩ := right.inRange
    have hpower : (0 : ℤ) < 2 ^ width := by positivity
    constructor <;> linarith
  obtain ⟨result, hresult, hvalue⟩ := exists_represent hrange
  refine ⟨result, ?_, hvalue⟩
  rw [mod, hquotient, Option.bind_some, hdivisor, Int.tmod_eq_emod_of_nonneg hleft, hresult]

end Signed

end CheckedArithmetic
