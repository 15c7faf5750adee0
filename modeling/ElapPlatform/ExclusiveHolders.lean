import Mathlib.Tactic
import ElapPlatform.PartialMapUpdate

/-!
# Keys with one holder each

Every outstanding key has exactly one holder.  Whoever gives back the key it holds, and
takes only keys that are not outstanding, gives every key back exactly once.
-/

variable {Key Holder : Type}

structure Exclusive (outstanding : Set Key) (held : Holder → Option Key) : Prop where
  held_iff : ∀ key, key ∈ outstanding ↔ ∃ holder, held holder = some key
  unique : ∀ {key holder other}, held holder = some key → held other = some key →
    other = holder

namespace Exclusive

variable {outstanding : Set Key} {held : Holder → Option Key} {holder source : Holder} {key : Key}

theorem empty : Exclusive (∅ : Set Key) fun _ : Holder => none where
  held_iff key := by simp
  unique hholder := by cases hholder

theorem eq_empty (hexclusive : Exclusive outstanding held) (hnone : ∀ holder, held holder = none) :
    outstanding = ∅ := by
  ext key
  rw [hexclusive.held_iff]
  simp [hnone]

theorem mem (hexclusive : Exclusive outstanding held) (hheld : held holder = some key) :
    key ∈ outstanding :=
  (hexclusive.held_iff key).mpr ⟨holder, hheld⟩

theorem relabel (hexclusive : Exclusive outstanding held) (permutation : Equiv.Perm Holder) :
    Exclusive outstanding (held ∘ permutation) where
  held_iff key := (hexclusive.held_iff key).trans permutation.surjective.exists
  unique hfirst hsecond := permutation.injective (hexclusive.unique hfirst hsecond)

variable [DecidableEq Holder]

theorem release (hexclusive : Exclusive outstanding held) (hheld : held holder = some key) :
    Exclusive (outstanding \ {key}) (Function.update held holder none) where
  held_iff other := by
    rw [Set.mem_sdiff, Set.mem_singleton_iff, hexclusive.held_iff]
    simp only [PartialMap.erase_eq_some_iff]
    constructor
    · rintro ⟨⟨owner, howner⟩, hother⟩
      have hne : owner ≠ holder := by
        rintro rfl
        exact hother (Option.some.inj (howner.symm.trans hheld))
      exact ⟨owner, hne, howner⟩
    · rintro ⟨owner, hne, howner⟩
      refine ⟨⟨owner, howner⟩, ?_⟩
      rintro rfl
      exact hne (hexclusive.unique hheld howner)
  unique := by
    intro other first second hfirst hsecond
    rw [PartialMap.erase_eq_some_iff] at hfirst hsecond
    exact hexclusive.unique hfirst.2 hsecond.2

theorem idle (hexclusive : Exclusive outstanding held) (hidle : held holder = none) :
    Exclusive outstanding (Function.update held holder none) := by
  rw [← hidle, Function.update_eq_self]
  exact hexclusive

theorem acquire (hexclusive : Exclusive outstanding held) (hfree : key ∉ outstanding)
    (hidle : held holder = none) :
    Exclusive (insert key outstanding) (Function.update held holder (some key)) where
  held_iff other := by
    rw [Set.mem_insert_iff, hexclusive.held_iff]
    simp only [PartialMap.insert_eq_some_iff]
    constructor
    · rintro (rfl | ⟨owner, howner⟩)
      · exact ⟨holder, .inl ⟨rfl, rfl⟩⟩
      · have hne : owner ≠ holder := by
          rintro rfl
          rw [hidle] at howner
          cases howner
        exact ⟨owner, .inr ⟨hne, howner⟩⟩
    · rintro ⟨owner, ⟨-, rfl⟩ | ⟨-, howner⟩⟩
      · exact .inl rfl
      · exact .inr ⟨owner, howner⟩
  unique := by
    have hfresh : ∀ {owner : Holder}, held owner ≠ some key := fun howner =>
      hfree (hexclusive.mem howner)
    intro other first second hfirst hsecond
    rw [PartialMap.insert_eq_some_iff] at hfirst hsecond
    rcases hfirst with ⟨hfirst, rfl⟩ | ⟨-, hfirst⟩
    · rcases hsecond with ⟨hsecond, -⟩ | ⟨-, hsecond⟩
      · rw [hfirst, hsecond]
      · exact absurd hsecond hfresh
    · rcases hsecond with ⟨-, rfl⟩ | ⟨-, hsecond⟩
      · exact absurd hfirst hfresh
      · exact hexclusive.unique hfirst hsecond

/-- Giving a key to somebody who holds none. -/
theorem transfer (hexclusive : Exclusive outstanding held) (hidle : held holder = none) :
    Exclusive outstanding
      (Function.update (Function.update held source none) holder (held source)) := by
  rw [← hidle, ← Equiv.comp_swap_eq_update]
  exact hexclusive.relabel (Equiv.swap holder source)

end Exclusive
