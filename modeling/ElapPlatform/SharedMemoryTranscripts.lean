import ElapPlatform.InteractionTranscript
import ElapPlatform.SharedMemoryRegion

/-!
# What the calls of a region ask

`close` gives back what the region holds; `create` and `open` then acquire
a descriptor and a mapping, or return what they had acquired.
-/

namespace ElapPlatform.Ipc

open Interaction Interaction.Program

abbrev SharedMemoryExchange := Exchange SharedMemoryCall SharedMemoryCall.Reply

namespace SharedMemoryRegion

/-- The exchanges of `close()` for the replies to its three calls. -/
def closing (region : SharedMemoryRegion) (unmapped detached unlinked : SystemResult Unit) :
    List SharedMemoryExchange :=
  (region.mapping.toList.map fun address => ⟨.munmap address region.size, unmapped⟩) ++
    (region.fd.toList.map fun fd => ⟨.close fd, detached⟩) ++
      if region.owner && !region.name.isEmpty then [⟨.shmUnlink region.name, unlinked⟩] else []

inductive CreateExchanges (name : Bytes) (size : ℕ) :
    List SharedMemoryExchange → SharedMemoryRegion → Prop
  | refused : CreateExchanges name size [] .closed
  | notCreated (errno : Errno) :
      CreateExchanges name size [⟨.shmCreate name, .error errno⟩] .closed
  | notTruncated (fd : Descriptor) (errno : Errno) (detached unlinked : SystemResult Unit) :
      CreateExchanges name size [⟨.shmCreate name, .ok fd⟩, ⟨.ftruncate fd size, .error errno⟩,
        ⟨.close fd, detached⟩, ⟨.shmUnlink name, unlinked⟩] .closed
  | notMapped (fd : Descriptor) (errno : Errno) (detached unlinked : SystemResult Unit) :
      CreateExchanges name size [⟨.shmCreate name, .ok fd⟩, ⟨.ftruncate fd size, .ok ()⟩,
        ⟨.mmap size fd, .error errno⟩, ⟨.close fd, detached⟩, ⟨.shmUnlink name, unlinked⟩] .closed
  | made (fd : Descriptor) (address : Address) (hpositive : size ≠ 0) (hlarge : size ≤ offTMax) :
      CreateExchanges name size [⟨.shmCreate name, .ok fd⟩, ⟨.ftruncate fd size, .ok ()⟩,
        ⟨.mmap size fd, .ok address⟩] ⟨some fd, name, some address, size, true⟩

inductive OpenExchanges (name : Bytes) (size : ℕ) :
    List SharedMemoryExchange → SharedMemoryRegion → Prop
  | refused : OpenExchanges name size [] .closed
  | notOpened (errno : Errno) :
      OpenExchanges name size [⟨.shmOpen name, .error errno⟩] .closed
  | notLoaded (fd : Descriptor) (status : SystemResult ℤ) (detached : SystemResult Unit) :
      OpenExchanges name size [⟨.shmOpen name, .ok fd⟩, ⟨.fstat fd, status⟩,
        ⟨.close fd, detached⟩] .closed
  | notMapped (fd : Descriptor) (backing : ℤ) (errno : Errno) (detached : SystemResult Unit) :
      OpenExchanges name size [⟨.shmOpen name, .ok fd⟩, ⟨.fstat fd, .ok backing⟩,
        ⟨.mmap size fd, .error errno⟩, ⟨.close fd, detached⟩] .closed
  | attached (fd : Descriptor) (backing : ℤ) (address : Address) (hpositive : size ≠ 0)
      (hbacking : (size : ℤ) ≤ backing) :
      OpenExchanges name size [⟨.shmOpen name, .ok fd⟩, ⟨.fstat fd, .ok backing⟩,
        ⟨.mmap size fd, .ok address⟩] ⟨some fd, name, some address, size, false⟩

section Transcripts

variable {region : SharedMemoryRegion} {exchanges : List SharedMemoryExchange}

theorem unmap_transcript {result : Unit} (htranscript : Transcript region.unmap exchanges result) :
    ∃ unmapped, exchanges =
      region.mapping.toList.map fun address => ⟨.munmap address region.size, unmapped⟩ := by
  unfold unmap at htranscript
  split at htranscript
  · rename_i address hmapping
    obtain ⟨first, last, reply, rfl, hcall, hdone⟩ := transcript_bind_iff.mp htranscript
    obtain ⟨rfl, _⟩ := transcript_done_iff.mp hdone
    exact ⟨reply, by rw [transcript_perform_iff.mp hcall, hmapping]; rfl⟩
  · rename_i hmapping
    obtain ⟨rfl, _⟩ := transcript_done_iff.mp htranscript
    exact ⟨.ok (), by rw [hmapping]; rfl⟩

theorem closeFd_transcript {result : Unit}
    (htranscript : Transcript region.closeFd exchanges result) :
    ∃ detached, exchanges = region.fd.toList.map fun fd => ⟨.close fd, detached⟩ := by
  unfold closeFd at htranscript
  split at htranscript
  · rename_i fd hfd
    obtain ⟨first, last, reply, rfl, hcall, hdone⟩ := transcript_bind_iff.mp htranscript
    obtain ⟨rfl, _⟩ := transcript_done_iff.mp hdone
    exact ⟨reply, by rw [transcript_perform_iff.mp hcall, hfd]; rfl⟩
  · rename_i hfd
    obtain ⟨rfl, _⟩ := transcript_done_iff.mp htranscript
    exact ⟨.ok (), by rw [hfd]; rfl⟩

theorem unlinkOwned_transcript {result : Unit}
    (htranscript : Transcript region.unlinkOwned exchanges result) :
    ∃ unlinked, exchanges = if region.owner && !region.name.isEmpty
      then [⟨.shmUnlink region.name, unlinked⟩] else [] := by
  unfold unlinkOwned at htranscript
  split at htranscript
  · rename_i howned
    obtain ⟨first, last, reply, rfl, hcall, hdone⟩ := transcript_bind_iff.mp htranscript
    obtain ⟨rfl, _⟩ := transcript_done_iff.mp hdone
    exact ⟨reply, by rw [transcript_perform_iff.mp hcall, if_pos howned]; rfl⟩
  · rename_i howned
    obtain ⟨rfl, _⟩ := transcript_done_iff.mp htranscript
    exact ⟨.ok (), by rw [if_neg howned]⟩

theorem close_transcript {after : SharedMemoryRegion}
    (htranscript : Transcript region.close exchanges after) :
    after = .closed ∧ ∃ unmapped detached unlinked,
      exchanges = region.closing unmapped detached unlinked := by
  unfold close at htranscript
  obtain ⟨first, _, _, rfl, hunmap, hrest⟩ := transcript_bind_iff.mp htranscript
  obtain ⟨second, _, _, rfl, hclose, hrest⟩ := transcript_bind_iff.mp hrest
  obtain ⟨third, _, _, rfl, hunlink, hdone⟩ := transcript_bind_iff.mp hrest
  obtain ⟨rfl, rfl⟩ := transcript_done_iff.mp hdone
  obtain ⟨unmapped, rfl⟩ := unmap_transcript hunmap
  obtain ⟨detached, rfl⟩ := closeFd_transcript hclose
  obtain ⟨unlinked, rfl⟩ := unlinkOwned_transcript hunlink
  refine ⟨rfl, unmapped, detached, unlinked, ?_⟩
  unfold closing
  rw [List.append_nil, List.append_assoc]

theorem abandon_transcript {fd : Descriptor} {name : Bytes} {result : Unit}
    (htranscript : Transcript (abandon fd name) exchanges result) :
    ∃ detached unlinked, exchanges = [⟨.close fd, detached⟩, ⟨.shmUnlink name, unlinked⟩] := by
  unfold abandon at htranscript
  obtain ⟨first, _, detached, rfl, hclose, hrest⟩ := transcript_bind_iff.mp htranscript
  obtain ⟨second, _, unlinked, rfl, hunlink, hdone⟩ := transcript_bind_iff.mp hrest
  obtain ⟨rfl, _⟩ := transcript_done_iff.mp hdone
  rw [transcript_perform_iff.mp hclose, transcript_perform_iff.mp hunlink]
  exact ⟨detached, unlinked, rfl⟩

theorem create_transcript {name : Bytes} {size : ℕ} {answer : ObjectAnswer SharedMemoryRegion}
    (htranscript : Transcript (region.create name size) exchanges answer) :
    ∃ unmapped detached unlinked acquiring,
      exchanges = region.closing unmapped detached unlinked ++ acquiring ∧
        CreateExchanges name size acquiring answer.object := by
  unfold create at htranscript
  obtain ⟨closing, acquiring, _, rfl, hclose, hrest⟩ := transcript_bind_iff.mp htranscript
  obtain ⟨rfl, unmapped, detached, unlinked, rfl⟩ := close_transcript hclose
  refine ⟨unmapped, detached, unlinked, acquiring, rfl, ?_⟩
  cases hvalid : validSharedMemoryName name with
  | some error =>
      simp only [hvalid] at hrest
      obtain ⟨rfl, rfl⟩ := transcript_done_iff.mp hrest
      exact .refused
  | none =>
      simp only [hvalid] at hrest
      by_cases hpositive : size = 0
      · rw [if_pos hpositive] at hrest
        obtain ⟨rfl, rfl⟩ := transcript_done_iff.mp hrest
        exact .refused
      rw [if_neg hpositive] at hrest
      by_cases hlarge : size > offTMax
      · rw [if_pos hlarge] at hrest
        obtain ⟨rfl, rfl⟩ := transcript_done_iff.mp hrest
        exact .refused
      rw [if_neg hlarge] at hrest
      obtain ⟨first, _, created, rfl, hcreate, hrest⟩ := transcript_bind_iff.mp hrest
      rw [transcript_perform_iff.mp hcreate]
      cases created with
      | error errno =>
          obtain ⟨rfl, rfl⟩ := transcript_done_iff.mp hrest
          exact .notCreated errno
      | ok fd =>
          obtain ⟨second, _, truncated, rfl, htruncate, hrest⟩ := transcript_bind_iff.mp hrest
          rw [transcript_perform_iff.mp htruncate]
          cases truncated with
          | error errno =>
              obtain ⟨third, _, _, rfl, habandon, hdone⟩ := transcript_bind_iff.mp hrest
              obtain ⟨rfl, rfl⟩ := transcript_done_iff.mp hdone
              obtain ⟨detached, unlinked, rfl⟩ := abandon_transcript habandon
              exact .notTruncated fd errno detached unlinked
          | ok =>
              obtain ⟨third, _, mapped, rfl, hmap, hrest⟩ := transcript_bind_iff.mp hrest
              rw [transcript_perform_iff.mp hmap]
              cases mapped with
              | error errno =>
                  obtain ⟨fourth, _, _, rfl, habandon, hdone⟩ := transcript_bind_iff.mp hrest
                  obtain ⟨rfl, rfl⟩ := transcript_done_iff.mp hdone
                  obtain ⟨detached, unlinked, rfl⟩ := abandon_transcript habandon
                  exact .notMapped fd errno detached unlinked
              | ok address =>
                  obtain ⟨rfl, rfl⟩ := transcript_done_iff.mp hrest
                  exact .made fd address hpositive (Nat.le_of_not_lt hlarge)

theorem loadSharedMemorySize_transcript {fd : Descriptor} {loaded : Except ErrorText ℕ}
    (htranscript : Transcript (loadSharedMemorySize fd) exchanges loaded) :
    ∃ status, exchanges = [⟨.fstat fd, status⟩] ∧
      ∀ backing, loaded = .ok backing → status = .ok (backing : ℤ) := by
  unfold loadSharedMemorySize at htranscript
  obtain ⟨first, _, status, rfl, hstat, hrest⟩ := transcript_bind_iff.mp htranscript
  rw [transcript_perform_iff.mp hstat]
  cases status with
  | error errno =>
      obtain ⟨rfl, rfl⟩ := transcript_done_iff.mp hrest
      exact ⟨_, rfl, fun backing hloaded => nomatch hloaded⟩
  | ok size =>
      dsimp only at hrest
      by_cases hpositive : size ≤ 0
      · rw [if_pos hpositive] at hrest
        obtain ⟨rfl, rfl⟩ := transcript_done_iff.mp hrest
        exact ⟨_, rfl, fun backing hloaded => nomatch hloaded⟩
      · rw [if_neg hpositive] at hrest
        obtain ⟨rfl, rfl⟩ := transcript_done_iff.mp hrest
        refine ⟨_, rfl, fun backing hloaded => ?_⟩
        cases hloaded
        rw [Int.toNat_of_nonneg (by omega)]

theorem open_transcript {name : Bytes} {size : ℕ} {answer : ObjectAnswer SharedMemoryRegion}
    (htranscript : Transcript (region.open name size) exchanges answer) :
    ∃ unmapped detached unlinked acquiring,
      exchanges = region.closing unmapped detached unlinked ++ acquiring ∧
        OpenExchanges name size acquiring answer.object := by
  unfold SharedMemoryRegion.open at htranscript
  obtain ⟨closing, acquiring, _, rfl, hclose, hrest⟩ := transcript_bind_iff.mp htranscript
  obtain ⟨rfl, unmapped, detached, unlinked, rfl⟩ := close_transcript hclose
  refine ⟨unmapped, detached, unlinked, acquiring, rfl, ?_⟩
  cases hvalid : validSharedMemoryName name with
  | some error =>
      simp only [hvalid] at hrest
      obtain ⟨rfl, rfl⟩ := transcript_done_iff.mp hrest
      exact .refused
  | none =>
      simp only [hvalid] at hrest
      by_cases hpositive : size = 0
      · rw [if_pos hpositive] at hrest
        obtain ⟨rfl, rfl⟩ := transcript_done_iff.mp hrest
        exact .refused
      rw [if_neg hpositive] at hrest
      obtain ⟨first, _, opened, rfl, hopen, hrest⟩ := transcript_bind_iff.mp hrest
      rw [transcript_perform_iff.mp hopen]
      cases opened with
      | error errno =>
          obtain ⟨rfl, rfl⟩ := transcript_done_iff.mp hrest
          exact .notOpened errno
      | ok fd =>
          obtain ⟨second, _, loaded, rfl, hload, hrest⟩ := transcript_bind_iff.mp hrest
          obtain ⟨status, rfl, hstatus⟩ := loadSharedMemorySize_transcript hload
          cases loaded with
          | error error =>
              obtain ⟨third, _, detached, rfl, hclose, hdone⟩ := transcript_bind_iff.mp hrest
              obtain ⟨rfl, rfl⟩ := transcript_done_iff.mp hdone
              rw [transcript_perform_iff.mp hclose]
              exact .notLoaded fd status detached
          | ok backing =>
              rw [hstatus backing rfl]
              dsimp only at hrest
              by_cases hlarge : size > backing
              · rw [if_pos hlarge] at hrest
                obtain ⟨third, _, detached, rfl, hclose, hdone⟩ := transcript_bind_iff.mp hrest
                obtain ⟨rfl, rfl⟩ := transcript_done_iff.mp hdone
                rw [transcript_perform_iff.mp hclose]
                exact .notLoaded fd _ detached
              rw [if_neg hlarge] at hrest
              obtain ⟨third, _, mapped, rfl, hmap, hrest⟩ := transcript_bind_iff.mp hrest
              rw [transcript_perform_iff.mp hmap]
              cases mapped with
              | error errno =>
                  obtain ⟨fourth, _, detached, rfl, hclose, hdone⟩ :=
                    transcript_bind_iff.mp hrest
                  obtain ⟨rfl, rfl⟩ := transcript_done_iff.mp hdone
                  rw [transcript_perform_iff.mp hclose]
                  exact .notMapped fd _ errno detached
              | ok address =>
                  obtain ⟨rfl, rfl⟩ := transcript_done_iff.mp hrest
                  exact .attached fd _ address hpositive (by omega)

theorem unlink_transcript {after : SharedMemoryRegion}
    (htranscript : Transcript region.unlink exchanges after) :
    after = { region with owner := false } ∧
      ∃ unlinked, exchanges = if !region.name.isEmpty
        then [⟨.shmUnlink region.name, unlinked⟩] else [] := by
  unfold unlink at htranscript
  cases hname : region.name.isEmpty with
  | true =>
      simp only [hname, Bool.not_true, Bool.false_eq_true, if_false] at htranscript
      obtain ⟨rfl, rfl⟩ := transcript_done_iff.mp htranscript
      exact ⟨rfl, .ok (), rfl⟩
  | false =>
      simp only [hname, Bool.not_false, if_true] at htranscript
      obtain ⟨first, _, unlinked, rfl, hunlink, hdone⟩ := transcript_bind_iff.mp htranscript
      obtain ⟨rfl, rfl⟩ := transcript_done_iff.mp hdone
      rw [transcript_perform_iff.mp hunlink]
      exact ⟨rfl, unlinked, rfl⟩

end Transcripts

end SharedMemoryRegion

end ElapPlatform.Ipc
