import Mathlib.Data.Set.Insert
import Mathlib.Logic.Function.Basic

/-!
# Partial maps, updated at one key
-/

namespace PartialMap

/-! ## What is read after an update -/

section Entries

variable {Key Value : Type} [DecidableEq Key]

theorem update_cases (map : Key → Value) (key : Key) (value : Value) (key' : Key) :
    key' = key ∧ Function.update map key value key' = value ∨
      key' ≠ key ∧ Function.update map key value key' = map key' := by
  by_cases hsame : key' = key
  · subst hsame
    exact .inl ⟨rfl, Function.update_self ..⟩
  · exact .inr ⟨hsame, Function.update_of_ne hsame ..⟩

theorem of_update_eq {map : Key → Value} {key key' : Key} {value found : Value}
    (hfound : Function.update map key value key' = found) :
    key' = key ∧ value = found ∨ key' ≠ key ∧ map key' = found := by
  rcases update_cases map key value key' with ⟨hsame, hnew⟩ | ⟨hne, hold⟩
  · exact .inl ⟨hsame, hnew.symm.trans hfound⟩
  · exact .inr ⟨hne, hold.symm.trans hfound⟩

end Entries

/-! ## Insertion and removal -/

variable {Key Value : Type} [DecidableEq Key] {map : Key → Option Value} {key key' : Key}
  {value value' : Value}

theorem erase_eq_some_iff :
    Function.update map key none key' = some value ↔ key' ≠ key ∧ map key' = some value := by
  by_cases hsame : key' = key
  · subst hsame
    simp
  · simp [hsame]

theorem insert_eq_some_iff :
    Function.update map key (some value) key' = some value' ↔
      key' = key ∧ value = value' ∨ key' ≠ key ∧ map key' = some value' := by
  by_cases hsame : key' = key
  · subst hsame
    simp
  · simp [hsame]

theorem erase_absent (habsent : map key = none) : Function.update map key none = map := by
  rw [← habsent, Function.update_eq_self]

theorem erase_insert (habsent : map key = none) :
    Function.update (Function.update map key (some value)) key none = map := by
  rw [Function.update_idem, erase_absent habsent]

theorem erase_eq_none (habsent : map key' = none) : Function.update map key none key' = none := by
  by_cases hsame : key' = key
  · subst hsame
    simp
  · simp [hsame, habsent]

/-! ## Domain and graph -/

theorem domain_erase :
    {key' | (Function.update map key none key').isSome} = {key' | (map key').isSome} \ {key} := by
  ext key'
  by_cases hsame : key' = key <;> simp [hsame]

theorem domain_insert :
    {key' | (Function.update map key (some value) key').isSome} =
      insert key {key' | (map key').isSome} := by
  ext key'
  by_cases hsame : key' = key <;> simp [hsame]

theorem graph_erase (hvalue : map key = some value) :
    {entry : Key × Value | Function.update map key none entry.1 = some entry.2} =
      {entry | map entry.1 = some entry.2} \ {(key, value)} := by
  ext ⟨key', value'⟩
  by_cases hsame : key' = key
  · subst hsame
    simp [hvalue, eq_comm]
  · simp [hsame]

theorem graph_insert (habsent : map key = none) :
    {entry : Key × Value | Function.update map key (some value) entry.1 = some entry.2} =
      insert (key, value) {entry | map entry.1 = some entry.2} := by
  ext ⟨key', value'⟩
  by_cases hsame : key' = key
  · subst hsame
    simp [habsent, eq_comm]
  · simp [hsame]

end PartialMap
