import ElapPlatform.SharedMemoryContents
import ElapPlatform.SharedMemoryTranscripts

/-!
# A region is a bounded array of bytes

The mapping of a region stays within its object, whose size no later call changes, so
the bounds check of `read` and `write` keeps every access inside.
-/

namespace ElapPlatform.Ipc

open Interaction Transition MappedMemory

/-! ## What the calls do to the memory -/

namespace MemoryKernel

structure WellFormed (kernel : MemoryKernel) : Prop where
  named : ∀ {name object}, kernel.table.names name = some object → object < kernel.table.made
  attached : ∀ {fd object}, kernel.table.descriptors fd = some object →
    object < kernel.table.made
  bounded : ∀ object, kernel.memory.size object ≤ offTMax
  blank : ∀ object, kernel.table.made ≤ object → kernel.memory.values object = fun _ => 0

/-- Old objects keep their sizes, all objects their bytes. -/
structure Grown (kernel next : MemoryKernel) : Prop where
  made : kernel.table.made ≤ next.table.made
  size : ∀ object < kernel.table.made, next.memory.size object = kernel.memory.size object
  values : next.memory.values = kernel.memory.values

variable {kernel middle next : MemoryKernel}

theorem Grown.trans (hfirst : kernel.Grown middle) (hsecond : middle.Grown next) :
    kernel.Grown next where
  made := hfirst.made.trans hsecond.made
  size object hobject := (hsecond.size object (Nat.lt_of_lt_of_le hobject hfirst.made)).trans
    (hfirst.size object hobject)
  values := hsecond.values.trans hfirst.values

/-- A call that leaves the memory alone. -/
structure Settled (kernel next : MemoryKernel) : Prop where
  wellFormed : next.WellFormed
  made : next.table.made = kernel.table.made
  memory : next.memory = kernel.memory

theorem Settled.trans (hfirst : kernel.Settled middle) (hsecond : middle.Settled next) :
    kernel.Settled next :=
  ⟨hsecond.wellFormed, hsecond.made.trans hfirst.made, hsecond.memory.trans hfirst.memory⟩

theorem Settled.grown (hsettled : kernel.Settled next) : kernel.Grown next where
  made := hsettled.made.ge
  size _ _ := by rw [hsettled.memory]
  values := by rw [hsettled.memory]

theorem settled_refl (hkernel : kernel.WellFormed) : kernel.Settled kernel :=
  ⟨hkernel, rfl, rfl⟩

theorem detach_settled (hkernel : kernel.WellFormed) (fd : Descriptor) :
    kernel.Settled { kernel with table := kernel.table.detach fd } := by
  refine ⟨⟨hkernel.named, fun hattached => ?_, hkernel.bounded, hkernel.blank⟩, rfl, rfl⟩
  exact hkernel.attached (PartialMap.erase_eq_some_iff.mp hattached).2

theorem unlinks_settled (hkernel : kernel.WellFormed) {name : Bytes}
    {reply : SystemResult Unit} {table : SystemNamespace}
    (hunlinks : kernel.table.Unlinks name reply table) :
    kernel.Settled { kernel with table := table } := by
  rcases hunlinks.cases with rfl | rfl
  · exact settled_refl hkernel
  · refine ⟨⟨fun hnamed => ?_, hkernel.attached, hkernel.bounded, hkernel.blank⟩, rfl, rfl⟩
    exact hkernel.named (PartialMap.erase_eq_some_iff.mp hnamed).2

theorem opens_settled (hkernel : kernel.WellFormed) {name : Bytes}
    {reply : SystemResult Descriptor} {table : SystemNamespace}
    (hopens : kernel.table.Opens name reply table) :
    kernel.Settled { kernel with table := table } := by
  cases reply with
  | error errno =>
      have hsame : table = kernel.table := hopens
      subst hsame
      exact settled_refl hkernel
  | ok fd =>
      obtain ⟨hfresh, object, hnamed, rfl⟩ := hopens
      refine ⟨⟨hkernel.named, fun hattached => ?_, hkernel.bounded, hkernel.blank⟩, rfl, rfl⟩
      rcases PartialMap.insert_eq_some_iff.mp hattached with ⟨_, rfl⟩ | ⟨_, hold⟩
      · exact hkernel.named hnamed
      · exact hkernel.attached hold

theorem make_wellFormed (hkernel : kernel.WellFormed) (name : Bytes) (fd : Descriptor) :
    (kernel.make name fd).WellFormed ∧ kernel.Grown (kernel.make name fd) := by
  refine ⟨⟨fun hnamed => ?_, fun hattached => ?_, fun object => ?_, fun object hobject => ?_⟩,
    ⟨Nat.le_succ _, fun object hobject => ?_, ?_⟩⟩
  · rcases PartialMap.insert_eq_some_iff.mp hnamed with ⟨_, rfl⟩ | ⟨_, hold⟩
    · exact Nat.lt_succ_self _
    · exact (hkernel.named hold).trans (Nat.lt_succ_self _)
  · rcases PartialMap.insert_eq_some_iff.mp hattached with ⟨_, rfl⟩ | ⟨_, hold⟩
    · exact Nat.lt_succ_self _
    · exact (hkernel.attached hold).trans (Nat.lt_succ_self _)
  · by_cases hsame : object = kernel.table.made
    · subst hsame
      simp [make]
    · simpa [make, hsame] using hkernel.bounded object
  · have hsucc : kernel.table.made + 1 ≤ object := hobject
    have hother : object ≠ kernel.table.made := by omega
    simpa [make, hother] using hkernel.blank object (by omega)
  · have hother : object ≠ kernel.table.made := by omega
    simp [make, hother]
  · have hblank := hkernel.blank kernel.table.made (Nat.le_refl _)
    change Function.update kernel.memory.values kernel.table.made (fun _ => 0) = _
    rw [← hblank, Function.update_eq_self]

/-- A blank object stays blank. -/
theorem truncate_wellFormed (hkernel : kernel.WellFormed) {object : ObjectId} {size : ℕ}
    (hobject : object < kernel.table.made) (hsize : size ≤ offTMax)
    (hblank : kernel.memory.values object = fun _ => 0) :
    (kernel.truncate object size).WellFormed ∧
      (kernel.truncate object size).memory.values = kernel.memory.values := by
  have hvalues : (kernel.truncate object size).memory.values = kernel.memory.values := by
    change Function.update kernel.memory.values object _ = _
    rw [hblank]
    simp only [ite_self]
    rw [← hblank, Function.update_eq_self]
  refine ⟨⟨hkernel.named, hkernel.attached, fun other => ?_, fun other hother => ?_⟩, hvalues⟩
  · by_cases hsame : other = object
    · subst hsame
      simpa [truncate] using hsize
    · simpa [truncate, hsame] using hkernel.bounded other
  · rw [hvalues]
    exact hkernel.blank other hother

end MemoryKernel

/-! ## Closing and acquiring -/

namespace SharedMemoryRegion

/-- `close()` takes at most the own mapping away. -/
inductive Unmapped (region : SharedMemoryRegion) (kernel next : MemoryKernel) : Prop
  | kept (hsettled : kernel.Settled next)
  | unmapped {address : Address} (hmapping : region.mapping = some address)
      (hsettled : MemoryKernel.Settled
        { kernel with memory := kernel.memory.unmap address region.size } next)

/-- A region is closed, or mapped into addresses that were free. -/
inductive Acquired (kernel : MemoryKernel) : MemoryKernel → SharedMemoryRegion → Prop
  | closed {next : MemoryKernel} (hnext : next.WellFormed) (hgrown : kernel.Grown next)
      (htranslation : next.memory.translation = kernel.memory.translation) :
      Acquired kernel next .closed
  | mapped (region : SharedMemoryRegion) {grown : MemoryKernel} {address : Address}
      {object : ObjectId} (hnext : grown.WellFormed) (hgrown : kernel.Grown grown)
      (htranslation : grown.memory.translation = kernel.memory.translation)
      (hmapping : region.mapping = some address) (hpositive : region.size ≠ 0)
      (hobject : object < grown.table.made) (hsize : region.size ≤ grown.memory.size object)
      (hfree : ∀ other, InRange address region.size other →
        kernel.memory.translation other = none) :
      Acquired kernel ⟨grown.table, grown.memory.map address region.size object⟩ region

section Calls

variable {region after : SharedMemoryRegion} {kernel next : MemoryKernel}
  {acquiring : List SharedMemoryExchange} {name : Bytes} {size : ℕ}

theorem close_answered (hkernel : kernel.WellFormed) {fd : Descriptor}
    {detached : SystemResult Unit}
    (hanswered : Answered SharedMemoryCall.AnswersMemory kernel [⟨.close fd, detached⟩] next) :
    kernel.Settled next := by
  obtain ⟨_, rfl, hdone⟩ := answered_cons_iff.mp hanswered
  rw [answered_nil_iff.mp hdone]
  exact MemoryKernel.detach_settled hkernel fd

theorem closeFd_answered (hkernel : kernel.WellFormed) {fd : Option Descriptor}
    {detached : SystemResult Unit}
    (hanswered : Answered SharedMemoryCall.AnswersMemory kernel
      (fd.toList.map fun fd => ⟨.close fd, detached⟩) next) : kernel.Settled next := by
  cases fd with
  | none =>
      rw [answered_nil_iff.mp hanswered]
      exact MemoryKernel.settled_refl hkernel
  | some fd => exact close_answered hkernel hanswered

theorem unlink_answered (hkernel : kernel.WellFormed) (owned : Bool)
    {unlinked : SystemResult Unit}
    (hanswered : Answered SharedMemoryCall.AnswersMemory kernel
      (if owned then [⟨.shmUnlink name, unlinked⟩] else []) next) : kernel.Settled next := by
  cases owned with
  | false =>
      rw [answered_nil_iff.mp hanswered]
      exact MemoryKernel.settled_refl hkernel
  | true =>
      obtain ⟨_, ⟨table, hunlinks, rfl⟩, hdone⟩ := answered_cons_iff.mp hanswered
      rw [answered_nil_iff.mp hdone]
      exact MemoryKernel.unlinks_settled hkernel hunlinks

theorem closing_answered (hkernel : kernel.WellFormed)
    {unmapped detached unlinked : SystemResult Unit}
    (hanswered : Answered SharedMemoryCall.AnswersMemory kernel
      (region.closing unmapped detached unlinked) next) : region.Unmapped kernel next := by
  obtain ⟨second, hfirst, hunlink⟩ := answered_append_iff.mp hanswered
  obtain ⟨first, hunmap, hclose⟩ := answered_append_iff.mp hfirst
  have hrest : first.WellFormed → first.Settled next := fun hfirst =>
    have hsecond := closeFd_answered hfirst hclose
    hsecond.trans (unlink_answered hsecond.wellFormed _ hunlink)
  cases hmapping : region.mapping with
  | none =>
      rw [hmapping] at hunmap
      rw [answered_nil_iff.mp hunmap] at hrest
      exact .kept (hrest hkernel)
  | some address =>
      rw [hmapping] at hunmap
      obtain ⟨_, hanswer, hdone⟩ := answered_cons_iff.mp hunmap
      rw [answered_nil_iff.mp hdone] at hrest
      cases unmapped with
      | error errno =>
          cases hanswer
          exact .kept (hrest hkernel)
      | ok =>
          cases hanswer
          exact .unmapped hmapping
            (hrest ⟨hkernel.named, hkernel.attached, hkernel.bounded, hkernel.blank⟩)

/-- What `create` has done when it comes to the mapping. -/
theorem create_grown (hkernel : kernel.WellFormed) (name : Bytes) (fd : Descriptor)
    (hlarge : size ≤ offTMax) :
    ((kernel.make name fd).truncate kernel.table.made size).WellFormed ∧
      kernel.Grown ((kernel.make name fd).truncate kernel.table.made size) := by
  obtain ⟨hmade, hgrown⟩ := MemoryKernel.make_wellFormed hkernel name fd
  have hblank : (kernel.make name fd).memory.values kernel.table.made = fun _ => 0 := by
    simp [MemoryKernel.make]
  obtain ⟨htruncated, hvalues⟩ :=
    MemoryKernel.truncate_wellFormed hmade (Nat.lt_succ_self _) hlarge hblank
  refine ⟨htruncated, hgrown.made, fun object hobject => ?_, hvalues.trans hgrown.values⟩
  have hother : object ≠ kernel.table.made := by omega
  have hsize := hgrown.size object hobject
  simpa [MemoryKernel.truncate, hother] using hsize

theorem abandon_answered (hkernel : kernel.WellFormed) {fd : Descriptor}
    {detached unlinked : SystemResult Unit}
    (hanswered : Answered SharedMemoryCall.AnswersMemory kernel
      [⟨.close fd, detached⟩, ⟨.shmUnlink name, unlinked⟩] next) : kernel.Settled next := by
  obtain ⟨_, rfl, hrest⟩ := answered_cons_iff.mp hanswered
  have hclosed := MemoryKernel.detach_settled hkernel fd
  exact hclosed.trans (unlink_answered hclosed.wellFormed true hrest)

theorem make_attached {fd : Descriptor} {object : ObjectId}
    (hattached : (kernel.make name fd).table.descriptors fd = some object) :
    object = kernel.table.made := by
  rw [MemoryKernel.make, SystemNamespace.create_descriptors, Function.update_self] at hattached
  exact (Option.some.inj hattached).symm

theorem create_answered (hkernel : kernel.WellFormed)
    (hcreate : CreateExchanges name size acquiring after)
    (hanswered : Answered SharedMemoryCall.AnswersMemory kernel acquiring next) :
    Acquired kernel next after := by
  cases hcreate with
  | refused =>
      rw [answered_nil_iff.mp hanswered]
      exact .closed hkernel (MemoryKernel.settled_refl hkernel).grown rfl
  | notCreated errno =>
      obtain ⟨_, rfl, hdone⟩ := answered_cons_iff.mp hanswered
      rw [answered_nil_iff.mp hdone]
      exact .closed hkernel (MemoryKernel.settled_refl hkernel).grown rfl
  | notTruncated fd errno detached unlinked =>
      obtain ⟨_, ⟨_, _, rfl⟩, hrest⟩ := answered_cons_iff.mp hanswered
      obtain ⟨_, rfl, hrest⟩ := answered_cons_iff.mp hrest
      obtain ⟨hmade, hgrown⟩ := MemoryKernel.make_wellFormed hkernel name fd
      have habandoned := abandon_answered hmade hrest
      exact .closed habandoned.wellFormed (hgrown.trans habandoned.grown)
        (by rw [habandoned.memory]; rfl)
  | notMapped fd errno detached unlinked =>
      obtain ⟨_, ⟨_, _, rfl⟩, hrest⟩ := answered_cons_iff.mp hanswered
      obtain ⟨_, ⟨hlarge, object, hattached, rfl⟩, hrest⟩ := answered_cons_iff.mp hrest
      obtain ⟨_, rfl, hrest⟩ := answered_cons_iff.mp hrest
      rw [make_attached hattached] at hrest
      obtain ⟨htruncated, hgrown⟩ := create_grown hkernel name fd hlarge
      have habandoned := abandon_answered htruncated hrest
      exact .closed habandoned.wellFormed (hgrown.trans habandoned.grown)
        (by rw [habandoned.memory]; rfl)
  | made fd address hpositive hlarge =>
      obtain ⟨_, ⟨_, _, rfl⟩, hrest⟩ := answered_cons_iff.mp hanswered
      obtain ⟨_, ⟨_, object, hattached, rfl⟩, hrest⟩ := answered_cons_iff.mp hrest
      obtain ⟨_, ⟨other, hother, hfree, rfl⟩, hdone⟩ := answered_cons_iff.mp hrest
      rw [answered_nil_iff.mp hdone]
      have hobject := make_attached hattached
      subst hobject
      have hsame : other = kernel.table.made := Option.some.inj (hother.symm.trans hattached)
      subst hsame
      obtain ⟨htruncated, hgrown⟩ := create_grown hkernel name fd hlarge
      refine .mapped ⟨some fd, name, some address, size, true⟩ htruncated hgrown rfl rfl
        hpositive (Nat.lt_succ_self _) ?_ ?_
      · simp [MemoryKernel.truncate]
      · exact hfree

theorem open_answered (hkernel : kernel.WellFormed)
    (hopen : OpenExchanges name size acquiring after)
    (hanswered : Answered SharedMemoryCall.AnswersMemory kernel acquiring next) :
    Acquired kernel next after := by
  cases hopen with
  | refused =>
      rw [answered_nil_iff.mp hanswered]
      exact .closed hkernel (MemoryKernel.settled_refl hkernel).grown rfl
  | notOpened errno =>
      obtain ⟨_, ⟨table, hopens, rfl⟩, hdone⟩ := answered_cons_iff.mp hanswered
      rw [answered_nil_iff.mp hdone]
      have hopened := MemoryKernel.opens_settled hkernel hopens
      exact .closed hopened.wellFormed hopened.grown rfl
  | notLoaded fd status detached =>
      obtain ⟨_, ⟨table, hopens, rfl⟩, hstat⟩ := answered_cons_iff.mp hanswered
      obtain ⟨_, ⟨_, rfl⟩, hclose⟩ := answered_cons_iff.mp hstat
      have hopened := MemoryKernel.opens_settled hkernel hopens
      have hclosed := hopened.trans (close_answered hopened.wellFormed hclose)
      exact .closed hclosed.wellFormed hclosed.grown (by rw [hclosed.memory])
  | notMapped fd backing errno detached =>
      obtain ⟨_, ⟨table, hopens, rfl⟩, hstat⟩ := answered_cons_iff.mp hanswered
      obtain ⟨_, ⟨_, rfl⟩, hmap⟩ := answered_cons_iff.mp hstat
      obtain ⟨_, rfl, hclose⟩ := answered_cons_iff.mp hmap
      have hopened := MemoryKernel.opens_settled hkernel hopens
      have hclosed := hopened.trans (close_answered hopened.wellFormed hclose)
      exact .closed hclosed.wellFormed hclosed.grown (by rw [hclosed.memory])
  | attached fd backing address hpositive hbacking =>
      obtain ⟨_, ⟨table, hopens, rfl⟩, hstat⟩ := answered_cons_iff.mp hanswered
      obtain ⟨_, ⟨⟨object, hattached, hsize⟩, rfl⟩, hmap⟩ := answered_cons_iff.mp hstat
      obtain ⟨_, ⟨other, hother, hfree, rfl⟩, hdone⟩ := answered_cons_iff.mp hmap
      rw [answered_nil_iff.mp hdone]
      have hopened := MemoryKernel.opens_settled hkernel hopens
      have hsame : other = object := Option.some.inj (hother.symm.trans hattached)
      subst hsame
      refine .mapped ⟨some fd, name, some address, size, false⟩ hopened.wellFormed
        hopened.grown rfl rfl hpositive (hopened.wellFormed.attached hattached) ?_ hfree
      exact Int.ofNat_le.mp (hbacking.trans_eq hsize)

end Calls

/-- The mapping lies in its object. -/
structure Backed (region : SharedMemoryRegion) (kernel : MemoryKernel) (address : Address)
    (object : ObjectId) : Prop where
  positive : region.size ≠ 0
  made : object < kernel.table.made
  maps : kernel.memory.Maps address region.size object
  fits : region.size ≤ kernel.memory.size object

def Own (region : SharedMemoryRegion) (other : Address) : Prop :=
  ∃ address, region.mapping = some address ∧ InRange address region.size other

/-- What a call of a region does to the memory of all. -/
structure Managed (region : SharedMemoryRegion) (kernel next : MemoryKernel)
    (after : SharedMemoryRegion) : Prop where
  wellFormed : next.WellFormed
  grown : kernel.Grown next
  kept : ∀ {address length object}, kernel.memory.Maps address length object →
    (∀ position < length, ¬ region.Own (address + position)) →
      next.memory.Maps address length object
  own : ∀ {address}, after.mapping = some address →
    (region.mapping = some address ∧ after.size = region.size ∧ next.memory = kernel.memory) ∨
      (∃ object, after.Backed next address object) ∧ ∀ other, InRange address after.size other →
        kernel.memory.translation other = none ∨ region.Own other

section Managing

variable {region after : SharedMemoryRegion} {kernel middle next : MemoryKernel}

theorem Unmapped.wellFormed (hunmapped : region.Unmapped kernel middle) : middle.WellFormed := by
  cases hunmapped with
  | kept hsettled => exact hsettled.wellFormed
  | unmapped hmapping hsettled => exact hsettled.wellFormed

theorem Unmapped.grown (hunmapped : region.Unmapped kernel middle) : kernel.Grown middle := by
  cases hunmapped with
  | kept hsettled => exact hsettled.grown
  | unmapped hmapping hsettled =>
      exact ⟨hsettled.grown.made, hsettled.grown.size, hsettled.grown.values⟩

theorem Unmapped.maps (hunmapped : region.Unmapped kernel middle) {address length : ℕ}
    {object : ObjectId} (hmaps : kernel.memory.Maps address length object)
    (hapart : ∀ position < length, ¬ region.Own (address + position)) :
    middle.memory.Maps address length object := by
  cases hunmapped with
  | kept hsettled =>
      rw [hsettled.memory]
      exact hmaps
  | unmapped hmapping hsettled =>
      rw [hsettled.memory]
      apply hmaps.unmap
      intro position hposition hin
      exact hapart position hposition ⟨_, hmapping, hin⟩

theorem Unmapped.free (hunmapped : region.Unmapped kernel middle) {other : Address}
    (hfree : middle.memory.translation other = none) :
    kernel.memory.translation other = none ∨ region.Own other := by
  cases hunmapped with
  | kept hsettled =>
      rw [hsettled.memory] at hfree
      exact .inl hfree
  | @unmapped address hmapping hsettled =>
      rw [hsettled.memory] at hfree
      by_cases hin : InRange address region.size other
      · exact .inr ⟨address, hmapping, hin⟩
      · exact .inl ((if_neg hin).symm.trans hfree)

theorem Acquired.managed (hunmapped : region.Unmapped kernel middle)
    (hacquired : Acquired middle next after) : region.Managed kernel next after := by
  cases hacquired with
  | closed hnext hgrown htranslation =>
      refine ⟨hnext, hunmapped.grown.trans hgrown, fun hmaps hapart => ?_, nofun⟩
      unfold Maps
      rw [htranslation]
      exact hunmapped.maps hmaps hapart
  | mapped _ hnext hgrown htranslation hmapping hpositive hobject hsize hfree =>
      refine ⟨⟨hnext.named, hnext.attached, hnext.bounded, hnext.blank⟩,
        hunmapped.grown.trans ⟨hgrown.made, hgrown.size, hgrown.values⟩,
        fun hmaps hapart => ?_, fun hown => .inr ?_⟩
      · apply Maps.map
        · unfold Maps
          rw [htranslation]
          exact hunmapped.maps hmaps hapart
        · rw [htranslation]
          exact hfree
      · cases hmapping.symm.trans hown
        refine ⟨⟨_, hpositive, hobject, map_maps, hsize⟩, fun other hin => ?_⟩
        exact hunmapped.free (hfree other hin)

theorem perform_managed (hkernel : kernel.WellFormed) {call : SharedMemoryRegionCall}
    (hrun : Runs SharedMemoryCall.AnswersMemory (call.perform region) kernel after next) :
    region.Managed kernel next after := by
  obtain ⟨exchanges, htranscript, hanswered⟩ := hrun.transcript
  cases call with
  | create name size =>
      obtain ⟨first, _, answer, rfl, hcreate, hdone⟩ := transcript_bind_iff.mp htranscript
      obtain ⟨rfl, rfl⟩ := transcript_done_iff.mp hdone
      obtain ⟨unmapped, detached, unlinked, acquiring, rfl, hexchanges⟩ :=
        create_transcript hcreate
      rw [List.append_nil] at hanswered
      obtain ⟨middle, hclosing, hacquiring⟩ := answered_append_iff.mp hanswered
      have hunmapped := closing_answered hkernel hclosing
      exact (create_answered hunmapped.wellFormed hexchanges hacquiring).managed hunmapped
  | «open» name size =>
      obtain ⟨first, _, answer, rfl, hopen, hdone⟩ := transcript_bind_iff.mp htranscript
      obtain ⟨rfl, rfl⟩ := transcript_done_iff.mp hdone
      obtain ⟨unmapped, detached, unlinked, acquiring, rfl, hexchanges⟩ := open_transcript hopen
      rw [List.append_nil] at hanswered
      obtain ⟨middle, hclosing, hacquiring⟩ := answered_append_iff.mp hanswered
      have hunmapped := closing_answered hkernel hclosing
      exact (open_answered hunmapped.wellFormed hexchanges hacquiring).managed hunmapped
  | close =>
      obtain ⟨rfl, unmapped, detached, unlinked, rfl⟩ := close_transcript htranscript
      have hunmapped := closing_answered hkernel hanswered
      exact (Acquired.closed hunmapped.wellFormed
        (MemoryKernel.settled_refl hunmapped.wellFormed).grown rfl).managed hunmapped
  | unlink =>
      obtain ⟨rfl, unlinked, rfl⟩ := unlink_transcript htranscript
      have hsettled := unlink_answered hkernel _ hanswered
      refine ⟨hsettled.wellFormed, hsettled.grown, fun hmaps _ => ?_,
        fun hown => .inl ⟨hown, rfl, hsettled.memory⟩⟩
      rw [hsettled.memory]
      exact hmaps

end Managing

end SharedMemoryRegion

/-! ## The invariant of a run -/

structure MemoryInvariant (history : History MemorySystem RegionLabel)
    (system : MemorySystem) : Prop where
  wellFormed : system.kernel.WellFormed
  backed : ∀ {index address}, (system.regions index).mapping = some address →
    ∃ object, (system.regions index).Backed system.kernel address object
  apart : ∀ {index other address}, (system.regions other).mapping = some address →
    other ≠ index → ∀ position < (system.regions other).size,
      ¬ (system.regions index).Own (address + position)
  contents : ∀ object position,
    system.kernel.memory.values object position = lastWritten history object position

theorem MemorySystem.Fresh.invariant {system : MemorySystem} (hfresh : system.Fresh) :
    MemoryInvariant [] system where
  wellFormed := by
    refine ⟨hfresh.named, fun hattached => ?_, hfresh.bounded, fun object _ => ?_⟩
    · rw [hfresh.descriptors] at hattached
      cases hattached
    · rw [hfresh.values]
  backed hmapping := by
    rw [hfresh.regions] at hmapping
    cases hmapping
  apart hmapping := by
    rw [hfresh.regions] at hmapping
    cases hmapping
  contents object position := by
    rw [hfresh.values]
    rfl

theorem lastWritten_snoc (history : History MemorySystem RegionLabel) (system : MemorySystem)
    (label : RegionLabel) (object : ObjectId) (position : ℕ) :
    lastWritten (history ++ [(system, label)]) object position =
      (writtenBy system label object position).getD (lastWritten history object position) := by
  unfold lastWritten
  rw [List.foldl_append]
  rfl

theorem SharedMemoryRegion.Backed.kept {region after : SharedMemoryRegion}
    {kernel next : MemoryKernel} {other : SharedMemoryRegion} {address : Address}
    {object : ObjectId} (hmanaged : region.Managed kernel next after)
    (hbacked : other.Backed kernel address object)
    (hapart : ∀ position < other.size, ¬ region.Own (address + position)) :
    other.Backed next address object where
  positive := hbacked.positive
  made := Nat.lt_of_lt_of_le hbacked.made hmanaged.grown.made
  maps := hmanaged.kept hbacked.maps hapart
  fits := by
    rw [hmanaged.grown.size object hbacked.made]
    exact hbacked.fits

/-- Two regions never own one address. -/
theorem MemoryInvariant.own_unique {history : History MemorySystem RegionLabel}
    {system : MemorySystem} (hinvariant : MemoryInvariant history system) {index other : ℕ}
    {address : Address} (hother : other ≠ index) (howned : (system.regions other).Own address) :
    ¬ (system.regions index).Own address := by
  obtain ⟨start, hmapping, hin⟩ := howned
  have hposition : address = start + (address - start) := (Nat.add_sub_cancel' hin.1).symm
  rw [hposition]
  exact hinvariant.apart hmapping hother (address - start)
    (Nat.sub_lt_left_of_lt_add hin.1 hin.2)

theorem MemoryInvariant.own_translated {history : History MemorySystem RegionLabel}
    {system : MemorySystem} (hinvariant : MemoryInvariant history system) {index : ℕ}
    {address : Address} (howned : (system.regions index).Own address) :
    system.kernel.memory.translation address ≠ none := by
  obtain ⟨start, hmapping, hin⟩ := howned
  obtain ⟨object, hbacked⟩ := hinvariant.backed hmapping
  have htranslation := hbacked.maps (address - start)
    (Nat.sub_lt_left_of_lt_add hin.1 hin.2)
  rw [Nat.add_sub_cancel' hin.1] at htranslation
  rw [htranslation]
  exact Option.some_ne_none _

theorem SharedMemoryRegion.own_of_mapping {region : SharedMemoryRegion} {address : Address}
    (hmapping : region.mapping = some address) {position : ℕ} (hposition : position < region.size) :
    region.Own (address + position) :=
  ⟨address, hmapping, by unfold InRange; omega⟩

/-- The addresses of a new mapping were free, or those of the old one. -/
theorem SharedMemoryRegion.Managed.own_before {region after : SharedMemoryRegion}
    {kernel next : MemoryKernel} (hmanaged : region.Managed kernel next after)
    {address : Address} (howned : after.Own address) :
    kernel.memory.translation address = none ∨ region.Own address := by
  obtain ⟨start, hmapping, hin⟩ := howned
  rcases hmanaged.own hmapping with ⟨hold, hsize, _⟩ | ⟨_, hfree⟩
  · rw [hsize] at hin
    exact .inr ⟨start, hold, hin⟩
  · exact hfree address hin

theorem MemoryInvariant.manages {history : History MemorySystem RegionLabel}
    {kernel next : MemoryKernel} {regions : ℕ → SharedMemoryRegion} {index : ℕ}
    {call : SharedMemoryRegionCall} {after : SharedMemoryRegion}
    (hinvariant : MemoryInvariant history ⟨kernel, regions⟩)
    (hmanaged : (regions index).Managed kernel next after) :
    MemoryInvariant (history ++ [(⟨kernel, regions⟩, .manages index call)])
      ⟨next, Function.update regions index after⟩ where
  wellFormed := hmanaged.wellFormed
  backed := by
    intro other address hmapping
    by_cases hother : other = index
    · subst hother
      simp only [Function.update_self] at hmapping ⊢
      rcases hmanaged.own hmapping with ⟨hold, hsize, hmemory⟩ | ⟨hbacked, _⟩
      · obtain ⟨object, hbacked⟩ := hinvariant.backed hold
        refine ⟨object, ?_, ?_, ?_, ?_⟩
        · rw [hsize]
          exact hbacked.positive
        · exact Nat.lt_of_lt_of_le hbacked.made hmanaged.grown.made
        · rw [hsize, hmemory]
          exact hbacked.maps
        · rw [hsize, hmemory]
          exact hbacked.fits
      · exact hbacked
    · simp only [Function.update_of_ne hother] at hmapping ⊢
      obtain ⟨object, hbacked⟩ := hinvariant.backed hmapping
      exact ⟨object, hbacked.kept hmanaged (hinvariant.apart hmapping hother)⟩
  apart := by
    intro own other address hmapping hother position hposition howned
    have howner := SharedMemoryRegion.own_of_mapping hmapping hposition
    by_cases hown : own = index
    · subst hown
      simp only [Function.update_self, Function.update_of_ne hother] at howned howner
      rcases hmanaged.own_before howned with hfree | hold
      · exact hinvariant.own_translated howner hfree
      · exact hinvariant.own_unique hother howner hold
    · simp only [Function.update_of_ne hown] at howned
      by_cases hchanged : other = index
      · subst hchanged
        simp only [Function.update_self] at howner
        rcases hmanaged.own_before howner with hfree | hold
        · exact hinvariant.own_translated howned hfree
        · exact hinvariant.own_unique hother hold howned
      · simp only [Function.update_of_ne hchanged] at howner
        exact hinvariant.own_unique hother howner howned
  contents object position := by
    rw [lastWritten_snoc]
    change next.memory.values object position = _
    rw [hmanaged.grown.values]
    exact hinvariant.contents object position

/-! ## The bounds check and the accesses -/

/-- No sum is computed, so none wraps around. -/
theorem inRange_iff {offset count size : UInt64} :
    inRange offset count size = true ↔ offset.toNat + count.toNat ≤ size.toNat := by
  unfold inRange
  rw [Bool.and_eq_true, decide_eq_true_eq, decide_eq_true_eq, UInt64.le_iff_toNat_le,
    UInt64.le_iff_toNat_le]
  constructor
  · rintro ⟨hoffset, hcount⟩
    rw [UInt64.toNat_sub_of_le _ _ (UInt64.le_iff_toNat_le.mpr hoffset)] at hcount
    omega
  · intro hsum
    have hoffset : offset.toNat ≤ size.toNat := by omega
    refine ⟨hoffset, ?_⟩
    rw [UInt64.toNat_sub_of_le _ _ (UInt64.le_iff_toNat_le.mpr hoffset)]
    omega

section Accesses

variable {history : History MemorySystem RegionLabel} {system : MemorySystem} {index : ℕ}
  {address : Address} {object : ObjectId} {offset size : UInt64}

theorem inRange_region_iff (hkernel : system.kernel.WellFormed)
    (hbacked : (system.regions index).Backed system.kernel address object) :
    inRange offset size (UInt64.ofNat (system.regions index).size) = true ↔
      offset.toNat + size.toNat ≤ (system.regions index).size := by
  have hbound := hbacked.fits.trans (hkernel.bounded object)
  unfold offTMax at hbound
  rw [inRange_iff, UInt64.toNat_ofNat_of_lt' (by unfold UInt64.size; omega)]

theorem write_refused {source : Option Buffer} (error : ErrorText)
    (hrefused : ¬ ((source = none → size = 0) ∧
      offset.toNat + size.toNat ≤ (system.regions index).size)) :
    WriteKept system index object offset source size ⟨some error, system.kernel⟩ where
  succeeds_iff := ⟨nofun, fun hsucceeds => absurd hsucceeds hrefused⟩
  inside := nofun
  written := nofun
  kept _ _ _ := rfl
  frame := ⟨rfl, rfl, rfl⟩
  failed _ := rfl

/-- The pointer is null although there are bytes to be copied. -/
theorem null_iff {pointer : Option Buffer} :
    (pointer.isNone && decide (size > 0)) = true ↔ ¬ (pointer = none → size = 0) := by
  rw [Bool.and_eq_true, Option.isNone_iff_eq_none, decide_eq_true_eq, Classical.not_imp,
    gt_iff_lt, UInt64.pos_iff_ne_zero]

theorem write_kept (hkernel : system.kernel.WellFormed)
    (hmapping : (system.regions index).mapping = some address)
    (hbacked : (system.regions index).Backed system.kernel address object)
    (offset : UInt64) (source : Option Buffer) (size : UInt64) :
    ∃ answer, (system.regions index).write system.kernel offset source size = some answer ∧
      WriteKept system index object offset source size answer := by
  unfold SharedMemoryRegion.write
  rw [hmapping]
  dsimp only
  by_cases hnull : (source.isNone && decide (size > 0)) = true
  · rw [if_pos hnull]
    exact ⟨_, rfl, write_refused _ fun hsucceeds => null_iff.mp hnull hsucceeds.1⟩
  rw [if_neg hnull]
  by_cases hrange : inRange offset size (UInt64.ofNat (system.regions index).size) = true
  · have hpointer := not_not.mp (mt null_iff.mpr hnull)
    have hfits := (inRange_region_iff hkernel hbacked).mp hrange
    rw [hrange, Bool.not_true, if_neg Bool.false_ne_true]
    cases source with
    | none =>
        have hempty : size.toNat = 0 := by
          rw [hpointer rfl]
          rfl
        refine ⟨_, rfl, ⟨fun _ => ⟨hpointer, hfits⟩, fun _ => rfl⟩,
          fun _ => hfits.trans hbacked.fits, fun _ position hposition => by omega,
          fun _ _ _ => rfl, ⟨rfl, rfl, rfl⟩, fun herror => absurd rfl herror⟩
    | some buffer =>
        dsimp only
        rw [copyTo_maps hbacked.maps hbacked.fits buffer hfits, Option.map_some]
        refine ⟨_, rfl, ⟨fun _ => ⟨hpointer, hfits⟩, fun _ => rfl⟩,
          fun _ => hfits.trans hbacked.fits, fun _ position hposition => ?_,
          fun other position hout => ?_, ⟨rfl, rfl, rfl⟩, fun herror => absurd rfl herror⟩
        · simp [overwrite, hposition]
        · unfold overwrite
          dsimp only
          rw [if_neg]
          rintro ⟨hobject, hlow, hhigh⟩
          have := hout hobject hlow
          omega
  · have hout := mt (inRange_region_iff hkernel hbacked).mpr hrange
    rw [Bool.not_eq_true] at hrange
    rw [hrange, Bool.not_false, if_pos rfl]
    exact ⟨_, rfl, write_refused _ fun hsucceeds => hout hsucceeds.2⟩

theorem read_refused {destination : Option Buffer} (error : ErrorText)
    (hrefused : ¬ ((destination = none → size = 0) ∧
      offset.toNat + size.toNat ≤ (system.regions index).size)) :
    ReadKept history system index object offset destination size ⟨some error, destination⟩ where
  succeeds_iff := ⟨nofun, fun hsucceeds => absurd hsucceeds hrefused⟩
  inside := nofun
  returned := nofun
  kept buffer hbuffer := ⟨buffer, hbuffer, fun _ _ => rfl⟩
  failed _ := rfl

theorem read_kept (hinvariant : MemoryInvariant history system)
    (hmapping : (system.regions index).mapping = some address)
    (hbacked : (system.regions index).Backed system.kernel address object)
    (destination : Option Buffer) :
    ∃ answer, (system.regions index).read system.kernel offset destination size = some answer ∧
      ReadKept history system index object offset destination size answer := by
  have hkernel := hinvariant.wellFormed
  unfold SharedMemoryRegion.read
  rw [hmapping]
  dsimp only
  by_cases hnull : (destination.isNone && decide (size > 0)) = true
  · rw [if_pos hnull]
    exact ⟨_, rfl, read_refused _ fun hsucceeds => null_iff.mp hnull hsucceeds.1⟩
  rw [if_neg hnull]
  by_cases hrange : inRange offset size (UInt64.ofNat (system.regions index).size) = true
  · have hpointer := not_not.mp (mt null_iff.mpr hnull)
    have hfits := (inRange_region_iff hkernel hbacked).mp hrange
    rw [hrange, Bool.not_true, if_neg Bool.false_ne_true]
    cases destination with
    | none =>
        exact ⟨_, rfl, ⟨fun _ => ⟨hpointer, hfits⟩, fun _ => rfl⟩,
          fun _ => hfits.trans hbacked.fits, (fun _ buffer hbuffer => nomatch hbuffer),
          (fun buffer hbuffer => nomatch hbuffer), fun herror => absurd rfl herror⟩
    | some buffer =>
        dsimp only
        rw [copyFrom_maps hbacked.maps hbacked.fits buffer hfits, Option.map_some]
        refine ⟨_, rfl, ⟨fun _ => ⟨hpointer, hfits⟩, fun _ => rfl⟩,
          fun _ => hfits.trans hbacked.fits, fun _ after hafter position hposition => ?_,
          fun old hold => ⟨_, rfl, fun position hposition => ?_⟩, fun herror => absurd rfl herror⟩
        · cases hafter
          exact (if_pos hposition).trans (hinvariant.contents object _)
        · cases hold
          exact if_neg (Nat.not_lt_of_le hposition)
  · have hout := mt (inRange_region_iff hkernel hbacked).mpr hrange
    rw [Bool.not_eq_true] at hrange
    rw [hrange, Bool.not_false, if_pos rfl]
    exact ⟨_, rfl, read_refused _ fun hsucceeds => hout hsucceeds.2⟩

theorem backing_of_backed (hmapping : (system.regions index).mapping = some address)
    (hbacked : (system.regions index).Backed system.kernel address object) :
    system.backing index = some object := by
  have hfirst := hbacked.maps 0 (Nat.pos_of_ne_zero hbacked.positive)
  unfold MemorySystem.backing
  rw [hmapping, Option.bind_some, ← Nat.add_zero address, hfirst]
  rfl

/-- A write leaves what its label records. -/
theorem write_recorded (hinvariant : MemoryInvariant history system) {source : Option Buffer}
    {answer : ObjectAnswer MemoryKernel}
    (hwrite : (system.regions index).write system.kernel offset source size = some answer)
    (other : ObjectId) (position : ℕ) :
    answer.object.memory.values other position =
      (writtenBy system (.writes index offset source size answer.error) other position).getD
        (system.kernel.memory.values other position) := by
  cases hmapping : (system.regions index).mapping with
  | none =>
      unfold SharedMemoryRegion.write at hwrite
      rw [hmapping] at hwrite
      cases hwrite
      cases source <;> rfl
  | some address =>
      obtain ⟨object, hbacked⟩ := hinvariant.backed hmapping
      obtain ⟨answer', hanswer, hkept⟩ :=
        write_kept hinvariant.wellFormed hmapping hbacked offset source size
      cases hwrite.symm.trans hanswer
      cases herror : answer.error with
      | some error =>
          rw [hkept.failed (by rw [herror]; exact Option.some_ne_none _)]
          cases source <;> rfl
      | none =>
          cases source with
          | none =>
              have hempty : size.toNat = 0 := by
                rw [(hkept.succeeds_iff.mp herror).1 rfl]
                rfl
              exact hkept.kept other position fun _ hlow => by omega
          | some buffer =>
              simp only [writtenBy, backing_of_backed hmapping hbacked]
              split
              · rename_i hin
                obtain ⟨hobject, hlow, hhigh⟩ := hin
                cases hobject
                have hwritten := hkept.written herror (position - offset.toNat) (by omega)
                rw [Nat.add_sub_cancel' hlow] at hwritten
                exact Option.some.inj hwritten
              · rename_i hout
                refine hkept.kept other position fun hobject hlow => ?_
                by_contra hhigh
                exact hout ⟨by rw [hobject], hlow, by omega⟩

/-- A write changes bytes only, and none of an object that is not there yet. -/
theorem write_frame (hinvariant : MemoryInvariant history system) {source : Option Buffer}
    {answer : ObjectAnswer MemoryKernel}
    (hwrite : (system.regions index).write system.kernel offset source size = some answer) :
    answer.object.table = system.kernel.table ∧
      answer.object.memory.translation = system.kernel.memory.translation ∧
        answer.object.memory.size = system.kernel.memory.size ∧
          ∀ object, answer.object.table.made ≤ object →
            answer.object.memory.values object = fun _ => 0 := by
  have hblank := hinvariant.wellFormed.blank
  cases hmapping : (system.regions index).mapping with
  | none =>
      unfold SharedMemoryRegion.write at hwrite
      rw [hmapping] at hwrite
      cases hwrite
      exact ⟨rfl, rfl, rfl, hblank⟩
  | some address =>
      obtain ⟨object, hbacked⟩ := hinvariant.backed hmapping
      obtain ⟨answer', hanswer, hkept⟩ :=
        write_kept hinvariant.wellFormed hmapping hbacked offset source size
      cases hwrite.symm.trans hanswer
      obtain ⟨htable, htranslation, hsize⟩ := hkept.frame
      refine ⟨htable, htranslation, hsize, fun other hother => ?_⟩
      rw [htable] at hother
      rw [← hblank other hother]
      funext position
      refine hkept.kept other position fun hobject _ => ?_
      subst hobject
      exact absurd hbacked.made (Nat.not_lt_of_le hother)

theorem MemoryInvariant.step {next : MemorySystem} {label : RegionLabel}
    (hinvariant : MemoryInvariant history system) (hstep : MemoryStep system label next) :
    MemoryInvariant (history ++ [(system, label)]) next := by
  cases hstep with
  | manages hrun =>
      exact hinvariant.manages (SharedMemoryRegion.perform_managed hinvariant.wellFormed hrun)
  | @writes kernel regions index offset size source answer hwrite =>
      obtain ⟨htable, htranslation, hsize, hblank⟩ := write_frame hinvariant hwrite
      refine ⟨⟨?_, ?_, ?_, hblank⟩, fun hmapping => ?_, hinvariant.apart,
        fun object position => ?_⟩
      · rw [htable]
        exact hinvariant.wellFormed.named
      · rw [htable]
        exact hinvariant.wellFormed.attached
      · rw [hsize]
        exact hinvariant.wellFormed.bounded
      · obtain ⟨object, hbacked⟩ := hinvariant.backed hmapping
        refine ⟨object, hbacked.positive, ?_, ?_, ?_⟩
        · rw [htable]
          exact hbacked.made
        · unfold Maps
          rw [htranslation]
          exact hbacked.maps
        · rw [hsize]
          exact hbacked.fits
      · rw [lastWritten_snoc, ← hinvariant.contents object position]
        exact write_recorded hinvariant hwrite object position
  | reads hread =>
      refine ⟨hinvariant.wellFormed, hinvariant.backed, hinvariant.apart,
        fun object position => ?_⟩
      rw [lastWritten_snoc]
      exact hinvariant.contents object position

end Accesses

/-! ## Every run -/

theorem run_memoryInvariant {start system : MemorySystem}
    {history : History MemorySystem RegionLabel} (hstart : start.Fresh)
    (hrun : Run MemoryStep start history system) : MemoryInvariant history system :=
  hrun.invariant MemoryInvariant hstart.invariant fun _ hinvariant hstep =>
    hinvariant.step hstep

/-- What `write` and `read` of a mapped region do in a state. -/
structure BoundedArray (history : History MemorySystem RegionLabel) (system : MemorySystem)
    (index : ℕ) (object : ObjectId) : Prop where
  backing : system.backing index = some object
  fits : (system.regions index).size ≤ system.kernel.memory.size object
  writes : ∀ offset source size, ∃ answer,
    (system.regions index).write system.kernel offset source size = some answer ∧
      WriteKept system index object offset source size answer
  reads : ∀ offset destination size, ∃ answer,
    (system.regions index).read system.kernel offset destination size = some answer ∧
      ReadKept history system index object offset destination size answer

theorem regions_are_bounded_arrays {start system : MemorySystem}
    {history : History MemorySystem RegionLabel} (hstart : start.Fresh)
    (hrun : Run MemoryStep start history system) (index : ℕ)
    (hmapped : (system.regions index).mapping ≠ none) :
    ∃ object, BoundedArray history system index object := by
  have hinvariant := run_memoryInvariant hstart hrun
  obtain ⟨address, hmapping⟩ := Option.ne_none_iff_exists'.mp hmapped
  obtain ⟨object, hbacked⟩ := hinvariant.backed hmapping
  exact ⟨object, backing_of_backed hmapping hbacked, hbacked.fits,
    fun offset source size =>
      write_kept hinvariant.wellFormed hmapping hbacked offset source size,
    fun offset destination size => read_kept hinvariant hmapping hbacked destination⟩

/-- `"/a"` -/
def arrayName : Bytes := [47, 97]

def emptyMemorySystem : MemorySystem where
  kernel := ⟨emptyNamespace, ⟨fun _ => none, fun _ => 0, fun _ _ => 0⟩⟩
  regions := fun _ => .closed

theorem emptyMemorySystem_fresh : emptyMemorySystem.Fresh := by
  refine ⟨fun hnamed => ?_, rfl, rfl, fun object => Nat.zero_le _, rfl, rfl⟩
  cases hnamed

/-- Region 0 creates eight bytes, region 1 maps four of them, and region 0 writes the
third and the fourth. -/
theorem mapped_twice :
    ∃ object history system, BoundedArray history system 1 object ∧
      (system.regions 1).size = 4 ∧ lastWritten history object 3 = 7 := by
  have hstart : Run MemoryStep emptyMemorySystem [] emptyMemorySystem := .start
  have hcreate := hstart.andThen (.manages 0 (.create arrayName 8))
    (.manages (.answered (.ok 0) ⟨rfl, rfl, rfl⟩ (.answered (.ok ()) ⟨by decide, 0, rfl, rfl⟩
      (.answered (.ok 4096) ⟨0, rfl, fun _ _ => rfl, rfl⟩ (.done _ _)))))
  have hopen := hcreate.andThen (.manages 1 (.open arrayName 4))
    (.manages (.answered (.ok 1) ⟨_, ⟨rfl, 0, rfl, rfl⟩, rfl⟩ (.answered (.ok 8)
      ⟨⟨0, rfl, rfl⟩, rfl⟩
      (.answered (.ok 8192) ⟨0, rfl, fun _ hin => if_neg fun hother => by
        have hlow := hin.1
        have hhigh := hother.2
        omega, rfl⟩ (.done _ _)))))
  have hwrite := hopen.andThen (.writes 0 2 (some fun _ => 7) 2 none)
    (@MemoryStep.writes _ _ _ _ _ _ ⟨none, _⟩ rfl)
  obtain ⟨object, harray⟩ := regions_are_bounded_arrays emptyMemorySystem_fresh hwrite 1 nofun
  have hbacking : some 0 = some object := harray.backing
  cases hbacking
  exact ⟨0, _, _, harray, rfl, rfl⟩

end ElapPlatform.Ipc
