import ElapPlatform.ExclusiveHolders
import ElapPlatform.SharedMemoryRegion

/-!
# A ledger of descriptors and mappings

The ledger counts every `close` of a descriptor that is not open and every `munmap`
that does not match a mapping.  A call that fails counts like one that succeeds.
-/

namespace ElapPlatform.Ipc

structure ResourceLedger where
  descriptors : Descriptor → Option ObjectId
  mappings : Address → Option ℕ
  made : ℕ
  misuses : ℕ
  unlinked : List Bytes

namespace ResourceLedger

def closeDescriptor (ledger : ResourceLedger) (fd : Descriptor) : ResourceLedger :=
  if (ledger.descriptors fd).isSome then
    { ledger with descriptors := Function.update ledger.descriptors fd none }
  else { ledger with misuses := ledger.misuses + 1 }

def munmap (ledger : ResourceLedger) (address : Address) (length : ℕ) : ResourceLedger :=
  if ledger.mappings address = some length then
    { ledger with mappings := Function.update ledger.mappings address none }
  else { ledger with misuses := ledger.misuses + 1 }

def unlink (ledger : ResourceLedger) (name : Bytes) : ResourceLedger :=
  { ledger with unlinked := ledger.unlinked ++ [name] }

def attach (ledger : ResourceLedger) (fd : Descriptor) (object : ObjectId) : ResourceLedger :=
  { ledger with descriptors := Function.update ledger.descriptors fd (some object) }

/-- A new kernel object with its first descriptor. -/
def Makes (ledger : ResourceLedger) (reply : SystemResult Descriptor) (next : ResourceLedger) :
    Prop :=
  match reply with
  | .ok fd => ledger.descriptors fd = none ∧
      next = { ledger.attach fd ledger.made with made := ledger.made + 1 }
  | .error _ => next = ledger

def Attaches (ledger : ResourceLedger) (reply : SystemResult Descriptor)
    (next : ResourceLedger) : Prop :=
  match reply with
  | .ok fd => ledger.descriptors fd = none ∧ ∃ object, next = ledger.attach fd object
  | .error _ => next = ledger

def Mmaps (ledger : ResourceLedger) (length : ℕ) (reply : SystemResult Address)
    (next : ResourceLedger) : Prop :=
  match reply with
  | .ok address => ledger.mappings address = none ∧
      next = { ledger with mappings := Function.update ledger.mappings address (some length) }
  | .error _ => next = ledger

def openDescriptors (ledger : ResourceLedger) : Set Descriptor :=
  {fd | (ledger.descriptors fd).isSome}

def openMappings (ledger : ResourceLedger) : Set (Address × ℕ) :=
  {mapping | ledger.mappings mapping.1 = some mapping.2}

end ResourceLedger

/-- What an object has to give back. -/
structure Holding where
  descriptor : Option Descriptor
  mapping : Option (Address × ℕ)
  name : Bytes
  owner : Bool
  deriving DecidableEq, Repr

def Holding.empty : Holding := ⟨none, none, [], false⟩

namespace ResourceLedger

def releaseMapping (ledger : ResourceLedger) (mapping : Option (Address × ℕ)) :
    ResourceLedger :=
  match mapping with
  | some (address, length) => ledger.munmap address length
  | none => ledger

def releaseDescriptor (ledger : ResourceLedger) (fd : Option Descriptor) : ResourceLedger :=
  match fd with
  | some fd => ledger.closeDescriptor fd
  | none => ledger

def unlinkOwned (ledger : ResourceLedger) (name : Bytes) (owner : Bool) : ResourceLedger :=
  if owner && !name.isEmpty then ledger.unlink name else ledger

/-- `close()` -/
def release (ledger : ResourceLedger) (holding : Holding) : ResourceLedger :=
  ((ledger.releaseMapping holding.mapping).releaseDescriptor holding.descriptor).unlinkOwned
    holding.name holding.owner

section Fields

variable (ledger : ResourceLedger) (mapping : Option (Address × ℕ)) (fd : Option Descriptor)
  (name : Bytes) (owner : Bool)

@[simp] theorem releaseMapping_descriptors :
    (ledger.releaseMapping mapping).descriptors = ledger.descriptors := by
  unfold releaseMapping munmap
  repeat' split
  all_goals rfl

@[simp] theorem releaseMapping_made : (ledger.releaseMapping mapping).made = ledger.made := by
  unfold releaseMapping munmap
  repeat' split
  all_goals rfl

@[simp] theorem releaseDescriptor_mappings :
    (ledger.releaseDescriptor fd).mappings = ledger.mappings := by
  unfold releaseDescriptor closeDescriptor
  repeat' split
  all_goals rfl

@[simp] theorem releaseDescriptor_made : (ledger.releaseDescriptor fd).made = ledger.made := by
  unfold releaseDescriptor closeDescriptor
  repeat' split
  all_goals rfl

theorem unlinkOwned_eq : ∃ unlinked, ledger.unlinkOwned name owner =
    { ledger with unlinked := unlinked } := by
  unfold unlinkOwned
  split
  · exact ⟨_, rfl⟩
  · exact ⟨ledger.unlinked, rfl⟩

end Fields

/-- A call that acquires nothing in the end. -/
structure Kept (ledger next : ResourceLedger) : Prop where
  descriptors : next.descriptors = ledger.descriptors
  mappings : next.mappings = ledger.mappings
  made : ledger.made ≤ next.made
  misuses : next.misuses = ledger.misuses

theorem Kept.refl (ledger : ResourceLedger) : ledger.Kept ledger :=
  ⟨rfl, rfl, Nat.le_refl _, rfl⟩

theorem Kept.unlink {ledger next : ResourceLedger} (hkept : ledger.Kept next) {name : Bytes} :
    ledger.Kept (next.unlink name) :=
  ⟨hkept.descriptors, hkept.mappings, hkept.made, hkept.misuses⟩

/-- A descriptor that is closed again at once. -/
theorem closed_kept {ledger attached : ResourceLedger} {fd : Descriptor} {object : ObjectId}
    (hfresh : ledger.descriptors fd = none)
    (hdescriptors : attached.descriptors = Function.update ledger.descriptors fd (some object))
    (hmappings : attached.mappings = ledger.mappings) (hmade : ledger.made ≤ attached.made)
    (hmisuses : attached.misuses = ledger.misuses) :
    ledger.Kept (attached.closeDescriptor fd) := by
  have hopen : (attached.descriptors fd).isSome := by
    rw [hdescriptors, Function.update_self]
    rfl
  rw [closeDescriptor, if_pos hopen]
  refine ⟨?_, hmappings, hmade, hmisuses⟩
  rw [hdescriptors, PartialMap.erase_insert hfresh]

theorem Makes.closed_kept {ledger next : ResourceLedger} {fd : Descriptor}
    (hmakes : ledger.Makes (.ok fd) next) : ledger.Kept (next.closeDescriptor fd) := by
  obtain ⟨hfresh, rfl⟩ := hmakes
  exact ResourceLedger.closed_kept hfresh rfl rfl (Nat.le_succ _) rfl

theorem Attaches.closed_kept {ledger next : ResourceLedger} {fd : Descriptor}
    (hattaches : ledger.Attaches (.ok fd) next) : ledger.Kept (next.closeDescriptor fd) := by
  obtain ⟨hfresh, object, rfl⟩ := hattaches
  exact ResourceLedger.closed_kept hfresh rfl rfl (Nat.le_refl _) rfl

/-- What `create` and `open` acquire after their `close()`. -/
inductive Acquires (ledger : ResourceLedger) : ResourceLedger → Holding → Prop
  | refused {next : ResourceLedger} (hkept : ledger.Kept next) : Acquires ledger next .empty
  | attached {next : ResourceLedger} {holding : Holding} {fd : Descriptor} {object : ObjectId}
      (hdescriptor : holding.descriptor = some fd) (hfresh : ledger.descriptors fd = none)
      (hdescriptors : next.descriptors = Function.update ledger.descriptors fd (some object))
      (hmappings : next.mappings = match holding.mapping with
        | some (address, length) => Function.update ledger.mappings address (some length)
        | none => ledger.mappings)
      (hfree : ∀ mapping, holding.mapping = some mapping → ledger.mappings mapping.1 = none)
      (howner : holding.owner = true → object = ledger.made ∧ object < next.made)
      (hmade : ledger.made ≤ next.made) (hmisuses : next.misuses = ledger.misuses) :
      Acquires ledger next holding

end ResourceLedger

/-! ## Holders of the outstanding resources -/

/-- The kernel object behind the descriptor. -/
def Holding.behind (holding : Holding) (ledger : ResourceLedger) : Option ObjectId :=
  holding.descriptor.bind ledger.descriptors

structure LedgerInvariant (ledger : ResourceLedger) (holdings : ℕ → Holding) : Prop where
  misuses : ledger.misuses = 0
  descriptors : Exclusive ledger.openDescriptors fun index => (holdings index).descriptor
  mappings : Exclusive ledger.openMappings fun index => (holdings index).mapping
  owned : ∀ {index}, (holdings index).owner = true →
    ∃ object, (holdings index).behind ledger = some object ∧ object < ledger.made
  distinct : ∀ {index other object}, (holdings index).owner = true →
    (holdings other).owner = true → (holdings index).behind ledger = some object →
      (holdings other).behind ledger = some object → other = index

section Invariant

variable {ledger next : ResourceLedger} {holdings : ℕ → Holding} {index : ℕ}

theorem initial_ledgerInvariant {ledger : ResourceLedger}
    (hdescriptors : ledger.descriptors = fun _ => none)
    (hmappings : ledger.mappings = fun _ => none) (hmisuses : ledger.misuses = 0) :
    LedgerInvariant ledger fun _ => .empty where
  misuses := hmisuses
  descriptors := by
    have hopen : ledger.openDescriptors = ∅ := by
      simp [ResourceLedger.openDescriptors, hdescriptors]
    rw [hopen]
    exact .empty
  mappings := by
    have hopen : ledger.openMappings = ∅ := by simp [ResourceLedger.openMappings, hmappings]
    rw [hopen]
    exact .empty
  owned := nofun
  distinct := nofun

theorem field_update {α : Type} (field : Holding → α) (holdings : ℕ → Holding) (index : ℕ)
    (holding : Holding) :
    (fun other => field (Function.update holdings index holding other)) =
      Function.update (fun other => field (holdings other)) index (field holding) :=
  Function.comp_update field holdings index holding

/-- Every owner was one before, over the same kernel object. -/
theorem LedgerInvariant.of_owners (hinvariant : LedgerInvariant ledger holdings)
    {holdings' : ℕ → Holding} (hmisuses : next.misuses = 0)
    (hdescriptors : Exclusive next.openDescriptors fun index => (holdings' index).descriptor)
    (hmappings : Exclusive next.openMappings fun index => (holdings' index).mapping)
    (hmade : ledger.made ≤ next.made)
    (howners : ∀ {index}, (holdings' index).owner = true → (holdings index).owner = true ∧
      (holdings' index).behind next = (holdings index).behind ledger) :
    LedgerInvariant next holdings' := by
  refine ⟨hmisuses, hdescriptors, hmappings, fun howned => ?_,
    fun hfirst hsecond hbehind₁ hbehind₂ => ?_⟩
  · obtain ⟨howned, hsame⟩ := howners howned
    obtain ⟨object, hobject, hlt⟩ := hinvariant.owned howned
    exact ⟨object, hsame.trans hobject, Nat.lt_of_lt_of_le hlt hmade⟩
  · obtain ⟨hfirst, hsame₁⟩ := howners hfirst
    obtain ⟨hsecond, hsame₂⟩ := howners hsecond
    exact hinvariant.distinct hfirst hsecond (hsame₁.symm.trans hbehind₁)
      (hsame₂.symm.trans hbehind₂)

/-! ### Giving back -/

theorem LedgerInvariant.releaseMapping (hinvariant : LedgerInvariant ledger holdings)
    (index : ℕ) :
    (ledger.releaseMapping (holdings index).mapping).misuses = 0 ∧
      Exclusive (ledger.releaseMapping (holdings index).mapping).openMappings
        (Function.update (fun other => (holdings other).mapping) index none) := by
  have hmappings := hinvariant.mappings
  cases hmapping : (holdings index).mapping with
  | none =>
      exact ⟨hinvariant.misuses, hmappings.idle hmapping⟩
  | some mapping =>
      obtain ⟨address, length⟩ := mapping
      have hopen : ledger.mappings address = some length := hmappings.mem hmapping
      have hreleased := hmappings.release hmapping
      unfold ResourceLedger.releaseMapping ResourceLedger.munmap
      dsimp only
      rw [if_pos hopen]
      refine ⟨hinvariant.misuses, ?_⟩
      rw [ResourceLedger.openMappings, PartialMap.graph_erase hopen]
      exact hreleased

theorem releaseDescriptor_invariant (index : ℕ) (hmisuses : ledger.misuses = 0)
    (hdescriptors : Exclusive ledger.openDescriptors fun other => (holdings other).descriptor) :
    (ledger.releaseDescriptor (holdings index).descriptor).misuses = 0 ∧
      Exclusive (ledger.releaseDescriptor (holdings index).descriptor).openDescriptors
        (Function.update (fun other => (holdings other).descriptor) index none) ∧
      ∀ other ≠ index,
        (holdings other).behind (ledger.releaseDescriptor (holdings index).descriptor) =
          (holdings other).behind ledger := by
  cases hdescriptor : (holdings index).descriptor with
  | none =>
      exact ⟨hmisuses, hdescriptors.idle hdescriptor, fun _ _ => rfl⟩
  | some fd =>
      have hopen : (ledger.descriptors fd).isSome := hdescriptors.mem hdescriptor
      have hreleased := hdescriptors.release hdescriptor
      unfold ResourceLedger.releaseDescriptor ResourceLedger.closeDescriptor
      dsimp only
      rw [if_pos hopen]
      refine ⟨hmisuses, ?_, fun other hother => ?_⟩
      · rw [ResourceLedger.openDescriptors, PartialMap.domain_erase]
        exact hreleased
      · unfold Holding.behind
        cases hheld : (holdings other).descriptor with
        | none => rfl
        | some held =>
            have hne : held ≠ fd := by
              rintro rfl
              exact hother (hdescriptors.unique hdescriptor hheld)
            simp [hne]

theorem LedgerInvariant.release (hinvariant : LedgerInvariant ledger holdings) (index : ℕ) :
    LedgerInvariant (ledger.release (holdings index))
      (Function.update holdings index .empty) := by
  obtain ⟨hunmapped, hmappings⟩ := hinvariant.releaseMapping index
  have hheld : Exclusive (ledger.releaseMapping (holdings index).mapping).openDescriptors
      fun other => (holdings other).descriptor := by
    simpa [ResourceLedger.openDescriptors] using hinvariant.descriptors
  obtain ⟨hmisuses, hdescriptors, hbehind⟩ := releaseDescriptor_invariant index hunmapped hheld
  obtain ⟨unlinked, hunlinked⟩ := ResourceLedger.unlinkOwned_eq
    ((ledger.releaseMapping (holdings index).mapping).releaseDescriptor
      (holdings index).descriptor) (holdings index).name (holdings index).owner
  rw [ResourceLedger.release, hunlinked]
  refine hinvariant.of_owners hmisuses ?_ ?_ ?_ ?_
  · rw [field_update Holding.descriptor]
    exact hdescriptors
  · rw [field_update Holding.mapping]
    simpa [ResourceLedger.openMappings, Holding.empty] using hmappings
  · simp
  · intro other howned
    have hother : other ≠ index := by
      rintro rfl
      rw [Function.update_self] at howned
      cases howned
    rw [Function.update_of_ne hother] at howned ⊢
    refine ⟨howned, (hbehind other hother).trans ?_⟩
    rw [Holding.behind, ResourceLedger.releaseMapping_descriptors, Holding.behind]

/-! ### Moving -/

theorem LedgerInvariant.relabel (hinvariant : LedgerInvariant ledger holdings)
    (permutation : Equiv.Perm ℕ) : LedgerInvariant ledger (holdings ∘ permutation) where
  misuses := hinvariant.misuses
  descriptors := hinvariant.descriptors.relabel permutation
  mappings := hinvariant.mappings.relabel permutation
  owned howned := hinvariant.owned howned
  distinct hfirst hsecond hbehind₁ hbehind₂ :=
    permutation.injective (hinvariant.distinct hfirst hsecond hbehind₁ hbehind₂)

theorem LedgerInvariant.transfer (hinvariant : LedgerInvariant ledger holdings) {index : ℕ}
    (hidle : holdings index = .empty) (source : ℕ) :
    LedgerInvariant ledger
      (Function.update (Function.update holdings source .empty) index (holdings source)) := by
  rw [← hidle, ← Equiv.comp_swap_eq_update]
  exact hinvariant.relabel (Equiv.swap index source)

/-! ### Acquiring and disowning -/

theorem LedgerInvariant.kept (hinvariant : LedgerInvariant ledger holdings)
    (hkept : ledger.Kept next) : LedgerInvariant next holdings := by
  obtain ⟨hdescriptors, hmappings, hmade, hmisuses⟩ := hkept
  refine hinvariant.of_owners (hmisuses.trans hinvariant.misuses) ?_ ?_ hmade
    fun howned => ⟨howned, ?_⟩
  · rw [ResourceLedger.openDescriptors, hdescriptors]
    exact hinvariant.descriptors
  · rw [ResourceLedger.openMappings, hmappings]
    exact hinvariant.mappings
  · rw [Holding.behind, hdescriptors, Holding.behind]

/-- A new descriptor leaves the kernel objects behind the others alone. -/
theorem LedgerInvariant.behind_attach (hinvariant : LedgerInvariant ledger holdings)
    {fd : Descriptor} {object : ObjectId} (hfresh : ledger.descriptors fd = none)
    (hdescriptors : next.descriptors = Function.update ledger.descriptors fd (some object))
    (other : ℕ) : (holdings other).behind next = (holdings other).behind ledger := by
  unfold Holding.behind
  cases hheld : (holdings other).descriptor with
  | none => rfl
  | some held =>
      have hopen : (ledger.descriptors held).isSome := hinvariant.descriptors.mem hheld
      have hne : held ≠ fd := by
        rintro rfl
        rw [hfresh] at hopen
        cases hopen
      simp [hdescriptors, hne]

theorem LedgerInvariant.acquire_descriptor (hinvariant : LedgerInvariant ledger holdings)
    (hidle : holdings index = .empty) {fd : Descriptor} {object : ObjectId}
    (hfresh : ledger.descriptors fd = none)
    (hdescriptors : next.descriptors = Function.update ledger.descriptors fd (some object)) :
    Exclusive next.openDescriptors
      (Function.update (fun other => (holdings other).descriptor) index (some fd)) := by
  have hnew : fd ∉ ledger.openDescriptors := by simp [ResourceLedger.openDescriptors, hfresh]
  have hnone : (holdings index).descriptor = none := by rw [hidle]; rfl
  rw [ResourceLedger.openDescriptors, hdescriptors, PartialMap.domain_insert]
  exact hinvariant.descriptors.acquire hnew hnone

theorem LedgerInvariant.acquire_mapping (hinvariant : LedgerInvariant ledger holdings)
    (hidle : holdings index = .empty) {mapping : Option (Address × ℕ)}
    (hmappings : next.mappings = match mapping with
      | some (address, length) => Function.update ledger.mappings address (some length)
      | none => ledger.mappings)
    (hfree : ∀ entry, mapping = some entry → ledger.mappings entry.1 = none) :
    Exclusive next.openMappings
      (Function.update (fun other => (holdings other).mapping) index mapping) := by
  have hnone : (holdings index).mapping = none := by rw [hidle]; rfl
  cases mapping with
  | none =>
      rw [ResourceLedger.openMappings, hmappings]
      exact hinvariant.mappings.idle hnone
  | some entry =>
      obtain ⟨address, length⟩ := entry
      have hunmapped : ledger.mappings address = none := hfree _ rfl
      have hnew : (address, length) ∉ ledger.openMappings := by
        simp [ResourceLedger.openMappings, hunmapped]
      rw [ResourceLedger.openMappings, hmappings, PartialMap.graph_insert hunmapped]
      exact hinvariant.mappings.acquire hnew hnone

theorem LedgerInvariant.acquire (hinvariant : LedgerInvariant ledger holdings)
    (hidle : holdings index = .empty) {holding : Holding}
    (hacquires : ledger.Acquires next holding) :
    LedgerInvariant next (Function.update holdings index holding) := by
  cases hacquires with
  | refused hkept =>
      rw [← hidle, Function.update_eq_self]
      exact hinvariant.kept hkept
  | @attached _ fd object hdescriptor hfresh hdescriptors hmappings hfree howner hmade
      hmisuses =>
      have hothers : ∀ {other}, other ≠ index →
          (Function.update holdings index holding other).behind next =
            (holdings other).behind ledger := by
        intro other hother
        rw [Function.update_of_ne hother]
        exact hinvariant.behind_attach hfresh hdescriptors other
      have hown : (Function.update holdings index holding index).behind next = some object := by
        rw [Function.update_self, Holding.behind, hdescriptor, hdescriptors]
        exact Function.update_self ..
      have howned : ∀ {other}, other ≠ index →
          (Function.update holdings index holding other).owner = true →
            (holdings other).owner = true := by
        intro other hother howned
        rwa [Function.update_of_ne hother] at howned
      refine ⟨hmisuses.trans hinvariant.misuses, ?_, ?_, ?_, ?_⟩
      · rw [field_update Holding.descriptor, hdescriptor]
        exact hinvariant.acquire_descriptor hidle hfresh hdescriptors
      · rw [field_update Holding.mapping]
        exact hinvariant.acquire_mapping hidle hmappings hfree
      · intro other howner'
        by_cases hother : other = index
        · subst hother
          rw [Function.update_self] at howner'
          exact ⟨object, hown, (howner howner').2⟩
        · obtain ⟨behind, hbehind, hlt⟩ := hinvariant.owned (howned hother howner')
          exact ⟨behind, (hothers hother).trans hbehind, Nat.lt_of_lt_of_le hlt hmade⟩
      · have hapart : ∀ {other}, other ≠ index → holding.owner = true →
            (Function.update holdings index holding other).owner = true →
              (Function.update holdings index holding other).behind next ≠ some object := by
          intro other hother hnewOwner howner' hbehind
          obtain ⟨old, hold, hlt⟩ := hinvariant.owned (howned hother howner')
          rw [hothers hother, hold, (howner hnewOwner).1] at hbehind
          cases hbehind
          exact Nat.lt_irrefl _ hlt
        intro first second shared hfirst hsecond hbehind₁ hbehind₂
        by_cases hone : first = index <;> by_cases htwo : second = index
        · rw [hone, htwo]
        · subst hone
          rw [Function.update_self] at hfirst
          cases hown.symm.trans hbehind₁
          exact absurd hbehind₂ (hapart htwo hfirst hsecond)
        · subst htwo
          rw [Function.update_self] at hsecond
          cases hown.symm.trans hbehind₂
          exact absurd hbehind₁ (hapart hone hsecond hfirst)
        · exact hinvariant.distinct (howned hone hfirst) (howned htwo hsecond)
            ((hothers hone).symm.trans hbehind₁) ((hothers htwo).symm.trans hbehind₂)

theorem LedgerInvariant.disown (hinvariant : LedgerInvariant ledger holdings) (index : ℕ)
    (unlinked : List Bytes) :
    LedgerInvariant { ledger with unlinked := unlinked }
      (Function.update holdings index { holdings index with owner := false }) := by
  refine hinvariant.of_owners hinvariant.misuses ?_ ?_ (Nat.le_refl _) ?_
  · rw [field_update Holding.descriptor, Function.update_eq_self]
    exact hinvariant.descriptors
  · rw [field_update Holding.mapping, Function.update_eq_self]
    exact hinvariant.mappings
  · intro other howned
    have hother : other ≠ index := by
      rintro rfl
      rw [Function.update_self] at howned
      cases howned
    rw [Function.update_of_ne hother] at howned ⊢
    exact ⟨howned, rfl⟩

end Invariant

end ElapPlatform.Ipc
