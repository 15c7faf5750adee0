import ElapPlatform.ExclusiveHolders
import ElapPlatform.PartialMapUpdate

/-!
# A ledger of grants

Every grant of a key has a serial number of its own, so that a key may be granted
again.  Whoever gives back a key that is not out misuses the ledger.
-/

structure GrantLedger (Key : Type) where
  serials : Key → Option ℕ
  granted : ℕ
  returned : List ℕ
  misuses : ℕ

namespace GrantLedger

variable {Key : Type}

def empty : GrantLedger Key := ⟨fun _ => none, 0, [], 0⟩

def out (ledger : GrantLedger Key) : Set Key := {key | (ledger.serials key).isSome}

/-- What is used must be out, and a null pointer is not. -/
def use (ledger : GrantLedger Key) (pointer : Option Key) : GrantLedger Key :=
  match pointer.bind ledger.serials with
  | some _ => ledger
  | none => { ledger with misuses := ledger.misuses + 1 }

theorem use_of_out {ledger : GrantLedger Key} {key : Key} (hout : key ∈ ledger.out) :
    ledger.use (some key) = ledger := by
  obtain ⟨serial, hserial⟩ := Option.isSome_iff_exists.mp hout
  simp [use, hserial]

section Operations

variable [DecidableEq Key]

def grant (ledger : GrantLedger Key) (key : Key) : GrantLedger Key :=
  { ledger with
    serials := Function.update ledger.serials key (some ledger.granted)
    granted := ledger.granted + 1 }

def giveBack (ledger : GrantLedger Key) (key : Key) : GrantLedger Key :=
  match ledger.serials key with
  | some serial =>
      { ledger with
        serials := Function.update ledger.serials key none
        returned := ledger.returned ++ [serial] }
  | none => { ledger with misuses := ledger.misuses + 1 }

theorem out_grant {ledger : GrantLedger Key} {key : Key} :
    (ledger.grant key).out = insert key ledger.out :=
  PartialMap.domain_insert

theorem giveBack_of_out {ledger : GrantLedger Key} {key : Key} {serial : ℕ}
    (hout : ledger.serials key = some serial) :
    ledger.giveBack key =
      { ledger with
        serials := Function.update ledger.serials key none
        returned := ledger.returned ++ [serial] } := by
  rw [giveBack, hout]

/-- A holder gives back what it holds. -/
def release (ledger : GrantLedger Key) (held : Option Key) : GrantLedger Key :=
  held.elim ledger ledger.giveBack

@[simp] theorem release_none (ledger : GrantLedger Key) : ledger.release none = ledger := rfl

@[simp] theorem release_some (ledger : GrantLedger Key) (key : Key) :
    ledger.release (some key) = ledger.giveBack key := rfl

end Operations

/-- Every serial is either out or returned, and only once. -/
structure Accounted (ledger : GrantLedger Key) : Prop where
  nodup : ledger.returned.Nodup
  returned_lt : ∀ {serial}, serial ∈ ledger.returned → serial < ledger.granted
  out_lt : ∀ {key serial}, ledger.serials key = some serial → serial < ledger.granted
  out_fresh : ∀ {key serial}, ledger.serials key = some serial → serial ∉ ledger.returned
  out_unique : ∀ {key other serial}, ledger.serials key = some serial →
    ledger.serials other = some serial → other = key
  covered : ∀ {serial}, serial < ledger.granted →
    serial ∈ ledger.returned ∨ ∃ key, ledger.serials key = some serial

namespace Accounted

variable {ledger : GrantLedger Key}

theorem empty : (empty : GrantLedger Key).Accounted where
  nodup := .nil
  returned_lt hmem := by cases hmem
  out_lt hout := by cases hout
  out_fresh hout := by cases hout
  out_unique hout := by cases hout
  covered hlt := by cases hlt

theorem returned_perm (haccounted : ledger.Accounted) (hnone : ledger.out = ∅) :
    ledger.returned.Perm (List.range ledger.granted) := by
  rw [List.perm_ext_iff_of_nodup haccounted.nodup List.nodup_range]
  intro serial
  rw [List.mem_range]
  constructor
  · exact haccounted.returned_lt
  · intro hlt
    rcases haccounted.covered hlt with hreturned | ⟨key, hout⟩
    · exact hreturned
    · have hmem : key ∈ ledger.out := by simp [out, hout]
      rw [hnone] at hmem
      exact hmem.elim

variable [DecidableEq Key] {key : Key}

theorem grant (haccounted : ledger.Accounted) (hfree : key ∉ ledger.out) :
    (ledger.grant key).Accounted where
  nodup := haccounted.nodup
  returned_lt hmem := Nat.lt_succ_of_lt (haccounted.returned_lt hmem)
  out_lt := by
    intro key' serial hout
    rcases PartialMap.insert_eq_some_iff.mp hout with ⟨_, rfl⟩ | ⟨_, hold⟩
    · exact Nat.lt_succ_self _
    · exact Nat.lt_succ_of_lt (haccounted.out_lt hold)
  out_fresh := by
    intro key' serial hout
    rcases PartialMap.insert_eq_some_iff.mp hout with ⟨_, rfl⟩ | ⟨_, hold⟩
    · exact fun hmem => lt_irrefl _ (haccounted.returned_lt hmem)
    · exact haccounted.out_fresh hold
  out_unique := by
    intro first second serial hfirst hsecond
    rcases PartialMap.insert_eq_some_iff.mp hfirst with ⟨rfl, rfl⟩ | ⟨_, hold⟩ <;>
      rcases PartialMap.insert_eq_some_iff.mp hsecond with ⟨rfl, hserial⟩ | ⟨_, hold'⟩
    · rfl
    · exact absurd (haccounted.out_lt hold') (lt_irrefl _)
    · subst hserial
      exact absurd (haccounted.out_lt hold) (lt_irrefl _)
    · exact haccounted.out_unique hold hold'
  covered := by
    intro serial hlt
    rcases Nat.lt_succ_iff_lt_or_eq.mp hlt with hold | rfl
    · rcases haccounted.covered hold with hreturned | ⟨other, hout⟩
      · exact .inl hreturned
      · have hother : other ≠ key := by
          rintro rfl
          exact hfree (by simp [out, hout])
        exact .inr ⟨other, PartialMap.insert_eq_some_iff.mpr (.inr ⟨hother, hout⟩)⟩
    · exact .inr ⟨key, PartialMap.insert_eq_some_iff.mpr (.inl ⟨rfl, rfl⟩)⟩

theorem giveBack (haccounted : ledger.Accounted) {serial : ℕ}
    (hout : ledger.serials key = some serial) : (ledger.giveBack key).Accounted := by
  rw [giveBack_of_out hout]
  constructor
  case nodup =>
    exact List.nodup_append.mpr ⟨haccounted.nodup, List.nodup_singleton serial, by
      rintro other hmem _ hlast rfl
      exact haccounted.out_fresh hout (List.mem_singleton.mp hlast ▸ hmem)⟩
  case returned_lt =>
    intro other hmem
    rcases List.mem_append.mp hmem with hold | hnew
    · exact haccounted.returned_lt hold
    · cases List.mem_singleton.mp hnew
      exact haccounted.out_lt hout
  case out_lt => exact fun hkept => haccounted.out_lt (PartialMap.erase_eq_some_iff.mp hkept).2
  case out_fresh =>
    intro key' other hkept hmem
    obtain ⟨hne, hold⟩ := PartialMap.erase_eq_some_iff.mp hkept
    rcases List.mem_append.mp hmem with hreturned | hnew
    · exact haccounted.out_fresh hold hreturned
    · cases List.mem_singleton.mp hnew
      exact hne (haccounted.out_unique hout hold)
  case out_unique =>
    exact fun hfirst hsecond => haccounted.out_unique (PartialMap.erase_eq_some_iff.mp hfirst).2
      (PartialMap.erase_eq_some_iff.mp hsecond).2
  case covered =>
    intro other hlt
    rcases haccounted.covered hlt with hreturned | ⟨key', hold⟩
    · exact .inl (List.mem_append_left _ hreturned)
    · by_cases hsame : key' = key
      · subst hsame
        rw [hout, Option.some.injEq] at hold
        exact .inl (List.mem_append_right _ (by simp [hold]))
      · exact .inr ⟨key', PartialMap.erase_eq_some_iff.mpr ⟨hsame, hold⟩⟩

end Accounted

/-- Whatever was granted in between has been given back. -/
structure Kept (ledger next : GrantLedger Key) : Prop where
  serials : next.serials = ledger.serials
  misuses : next.misuses = ledger.misuses
  accounted : ledger.Accounted → next.Accounted

namespace Kept

variable {ledger middle next : GrantLedger Key}

theorem refl (ledger : GrantLedger Key) : ledger.Kept ledger := ⟨rfl, rfl, id⟩

theorem trans (hfirst : ledger.Kept middle) (hlast : middle.Kept next) : ledger.Kept next where
  serials := hlast.serials.trans hfirst.serials
  misuses := hlast.misuses.trans hfirst.misuses
  accounted := hlast.accounted ∘ hfirst.accounted

theorem out_eq (hkept : ledger.Kept next) : next.out = ledger.out := by
  rw [out, out, hkept.serials]

theorem mem_out {key : Key} (hkept : ledger.Kept next) (hout : key ∈ ledger.out) :
    key ∈ next.out :=
  hkept.out_eq ▸ hout

variable [DecidableEq Key] {key : Key}

/-- A key that is granted is given back at last. -/
theorem giveBack (hfree : key ∉ ledger.out) (hkept : (ledger.grant key).Kept next) :
    ledger.Kept (next.giveBack key) := by
  have hout : next.serials key = some ledger.granted := by
    rw [hkept.serials]
    exact Function.update_self ..
  have hnone : ledger.serials key = none := by
    simpa [out] using hfree
  refine ⟨?_, ?_, fun haccounted => ?_⟩
  · rw [giveBack_of_out hout, hkept.serials]
    exact PartialMap.erase_insert hnone
  · rw [giveBack_of_out hout]
    exact hkept.misuses
  · exact (hkept.accounted (haccounted.grant hfree)).giveBack hout

end Kept

/-! ## Ledgers with one holder for each key -/

/-- Nothing was misused, and every key that is out has one holder. -/
structure Balanced {Holder : Type} (ledger : GrantLedger Key) (held : Holder → Option Key) :
    Prop where
  accounted : ledger.Accounted
  exclusive : Exclusive ledger.out held
  misuses : ledger.misuses = 0

namespace Balanced

variable {Holder : Type} {ledger : GrantLedger Key} {held : Holder → Option Key}

theorem empty : (GrantLedger.empty : GrantLedger Key).Balanced fun _ : Holder => none where
  accounted := .empty
  exclusive := by
    have hempty : (GrantLedger.empty : GrantLedger Key).out = ∅ := by
      ext key
      simp [out, GrantLedger.empty]
    rw [hempty]
    exact .empty
  misuses := rfl

theorem returned_perm (hbalanced : ledger.Balanced held) (hnone : ∀ holder, held holder = none) :
    ledger.returned.Perm (List.range ledger.granted) :=
  hbalanced.accounted.returned_perm (hbalanced.exclusive.eq_empty hnone)

theorem kept {next : GrantLedger Key} (hbalanced : ledger.Balanced held)
    (hkept : ledger.Kept next) : next.Balanced held where
  accounted := hkept.accounted hbalanced.accounted
  exclusive := by
    rw [hkept.out_eq]
    exact hbalanced.exclusive
  misuses := hkept.misuses.trans hbalanced.misuses

variable [DecidableEq Holder] {holder : Holder} {key : Key}

theorem transfer (hbalanced : ledger.Balanced held) (hidle : held holder = none)
    (source : Holder) :
    ledger.Balanced
      (Function.update (Function.update held source none) holder (held source)) :=
  ⟨hbalanced.accounted, hbalanced.exclusive.transfer hidle, hbalanced.misuses⟩

variable [DecidableEq Key]

theorem grant (hbalanced : ledger.Balanced held) (hfree : key ∉ ledger.out)
    (hidle : held holder = none) :
    (ledger.grant key).Balanced (Function.update held holder (some key)) where
  accounted := hbalanced.accounted.grant hfree
  exclusive := by
    rw [out_grant]
    exact hbalanced.exclusive.acquire hfree hidle
  misuses := hbalanced.misuses

theorem release (hbalanced : ledger.Balanced held) (holder : Holder) :
    (ledger.release (held holder)).Balanced (Function.update held holder none) := by
  cases hheld : held holder with
  | none =>
      rw [release_none, ← hheld, Function.update_eq_self]
      exact hbalanced
  | some key =>
      have hmem : (ledger.serials key).isSome := hbalanced.exclusive.mem hheld
      obtain ⟨serial, hserial⟩ := Option.isSome_iff_exists.mp hmem
      refine ⟨hbalanced.accounted.giveBack hserial, ?_, ?_⟩
      · have hout : (ledger.giveBack key).out = ledger.out \ {key} := by
          rw [giveBack_of_out hserial]
          exact PartialMap.domain_erase
        rw [release_some, hout]
        exact hbalanced.exclusive.release hheld
      · rw [release_some, giveBack_of_out hserial]
        exact hbalanced.misuses

end Balanced

/-! ## Calls that acquire a key or none -/

variable [DecidableEq Key]

/-- What a call comes to that is to acquire one key, whatever it grants on the way. -/
inductive Acquires (ledger : GrantLedger Key) : Option Key → GrantLedger Key → Prop
  | refused {next : GrantLedger Key} (hkept : ledger.Kept next) : Acquires ledger none next
  | granted {key : Key} {next : GrantLedger Key} (hfree : key ∉ ledger.out)
      (hkept : (ledger.grant key).Kept next) : Acquires ledger (some key) next

section Acquiring

variable {ledger middle next : GrantLedger Key} {acquired : Option Key}

theorem Acquires.mem_out {key : Key} (hacquires : ledger.Acquires (some key) next) :
    key ∈ next.out := by
  cases hacquires with
  | granted hfree hkept =>
      rw [hkept.out_eq, out_grant]
      exact Set.mem_insert _ _

theorem Acquires.kept (hacquires : ledger.Acquires acquired middle)
    (hkept : middle.Kept next) : ledger.Acquires acquired next := by
  cases hacquires with
  | refused hbefore => exact .refused (hbefore.trans hkept)
  | granted hfree hbefore => exact .granted hfree (hbefore.trans hkept)

/-- What was acquired is given back after all. -/
theorem Acquires.release (hacquires : ledger.Acquires acquired middle) :
    ledger.Acquires none (middle.release acquired) := by
  cases hacquires with
  | refused hkept => exact .refused hkept
  | granted hfree hkept => exact .refused (hkept.giveBack hfree)

end Acquiring

theorem Acquires.balanced {Holder : Type} [DecidableEq Holder] {ledger next : GrantLedger Key}
    {held : Holder → Option Key} {holder : Holder} {acquired : Option Key}
    (hacquires : ledger.Acquires acquired next) (hbalanced : ledger.Balanced held)
    (hidle : held holder = none) :
    next.Balanced (Function.update held holder acquired) := by
  cases hacquires with
  | refused hkept =>
      rw [← hidle, Function.update_eq_self]
      exact hbalanced.kept hkept
  | granted hfree hkept => exact (hbalanced.grant hfree hidle).kept hkept

end GrantLedger
