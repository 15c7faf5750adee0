import ElapPlatform.InteractionPostcondition
import ElapPlatform.NamedObjectMoves
import ElapPlatform.NamedObjectOwnership

/-!
# What a failed acquisition leaves behind

`create` and `open` of both classes, on a kernel that removes a name when it is
asked to.  A region gives back what it had acquired; a queue whose attributes
cannot be read does not.
-/

namespace ElapPlatform.Ipc

open Interaction Interaction.Program

/-! ## Namespaces that grow no further -/

namespace SystemNamespace

/-- Nothing is named or open that was not so before. -/
structure Within (next table : SystemNamespace) : Prop where
  names : ∀ {name object}, next.names name = some object → table.names name = some object
  descriptors : ∀ {descriptor object}, next.descriptors descriptor = some object →
    table.descriptors descriptor = some object

variable {table next last : SystemNamespace}

namespace Within

theorem refl (table : SystemNamespace) : table.Within table :=
  ⟨id, id⟩

theorem trans (hlast : last.Within next) (hnext : next.Within table) : last.Within table :=
  ⟨fun hnamed => hnext.names (hlast.names hnamed),
    fun hopen => hnext.descriptors (hlast.descriptors hopen)⟩

theorem detach (table : SystemNamespace) (descriptor : Descriptor) :
    (table.detach descriptor).Within table :=
  ⟨id, fun hopen => (PartialMap.erase_eq_some_iff.mp hopen).2⟩

theorem unbind (table : SystemNamespace) (name : Bytes) : (table.unbind name).Within table :=
  ⟨fun hnamed => (PartialMap.erase_eq_some_iff.mp hnamed).2, id⟩

/-- A new object that loses its descriptor and its name leaves no trace. -/
theorem undone {name : Bytes} {descriptor : Descriptor} :
    (((table.create name descriptor).detach descriptor).unbind name).Within table where
  names := by
    intro name' object hnamed
    obtain ⟨hother, hkept⟩ := PartialMap.erase_eq_some_iff.mp hnamed
    rw [detach_names, create_names, Function.update_of_ne hother] at hkept
    exact hkept
  descriptors := by
    intro descriptor' object hopen
    obtain ⟨hother, hkept⟩ := PartialMap.erase_eq_some_iff.mp hopen
    rw [create_descriptors, Function.update_of_ne hother] at hkept
    exact hkept

end Within

/-- The removal of a name fails only where there is no such name. -/
def Removes (table : SystemNamespace) (name : Bytes) : SystemResult Unit → Prop
  | .ok () => True
  | .error _ => table.names (cString name) = none

theorem Unlinks.within {name : Bytes} {reply : SystemResult Unit}
    (hunlinks : table.Unlinks name reply next) : next.Within table := by
  rcases hunlinks.cases with rfl | rfl
  · exact .refl next
  · exact .unbind table name

/-- A name that is removed is gone, whatever the reply. -/
theorem Unlinks.eq_unbind {name : Bytes} {reply : SystemResult Unit}
    (hunlinks : table.Unlinks name reply next) (hremoves : table.Removes name reply) :
    next = table.unbind name := by
  cases reply with
  | ok => exact hunlinks
  | error errno =>
      have hfree : table.names (cString name) = none := hremoves
      have hsame : next = table := hunlinks
      rw [hsame, SystemNamespace.unbind, PartialMap.erase_absent hfree]

end SystemNamespace

/-- Calls that each take something away, or nothing. -/
theorem within_of_answered {Question : Type} {Reply : Question → Type}
    {answers : SystemNamespace → (question : Question) → Reply question → SystemNamespace → Prop}
    {exchanges : List (Exchange Question Reply)} {table next : SystemNamespace}
    (hanswered : Answered answers table exchanges next)
    (hshrinks : ∀ exchange ∈ exchanges, ∀ before after,
      answers before exchange.1 exchange.2 after → after.Within before) : next.Within table :=
  hanswered.related (.refl ·) (fun hfirst hsecond => hsecond.trans hfirst) hshrinks

/-! ## Regions -/

/-- What an object of either class reports of itself, and whether it still holds
a descriptor. -/
structure Reported where
  acquired : Bool
  descriptor : Option Descriptor
  name : Bytes
  size : ℕ
  owner : Bool
  deriving DecidableEq, Repr

def Reported.closed : Reported := ⟨false, none, [], 0, false⟩

namespace SharedMemoryCall

def RemovesNames (table : SystemNamespace) : (call : SharedMemoryCall) → call.Reply → Prop
  | .shmUnlink name, reply => table.Removes name reply
  | _, _ => True

def AnswersRemoving (table : SystemNamespace) (call : SharedMemoryCall) (reply : call.Reply)
    (next : SystemNamespace) : Prop :=
  call.Answers table reply next ∧ call.RemovesNames table reply

end SharedMemoryCall

namespace SharedMemoryRegion

def reported (region : SharedMemoryRegion) : Reported :=
  ⟨region.isMapped, region.fd, region.name, region.size, region.owner⟩

section Acquisition

variable {region : SharedMemoryRegion} {name : Bytes} {size : ℕ}
  {answer : ObjectAnswer SharedMemoryRegion} {exchanges : List SharedMemoryExchange}
  {table next : SystemNamespace} {unmapped detached unlinked : SystemResult Unit}

theorem closing_within
    (hanswered : Answered SharedMemoryCall.AnswersRemoving table
      (region.closing unmapped detached unlinked) next) : next.Within table := by
  refine within_of_answered hanswered fun exchange hmem => ?_
  unfold closing at hmem
  rw [List.mem_append, List.mem_append, List.mem_map, List.mem_map] at hmem
  rintro before after ⟨hanswer, _⟩
  rcases hmem with (⟨address, _, rfl⟩ | ⟨fd, _, rfl⟩) | hunlink
  · rw [show after = before from hanswer]
    exact .refl before
  · rw [show after = before.detach fd from hanswer]
    exact .detach before fd
  · split at hunlink
    · cases List.mem_singleton.mp hunlink
      exact SystemNamespace.Unlinks.within hanswer
    · cases hunlink

/-- A descriptor and a name are given up again. -/
theorem abandoned_within {fd : Descriptor} (hcreated : next = table.create name fd)
    {last : SystemNamespace}
    (hanswered : Answered SharedMemoryCall.AnswersRemoving next
      [⟨.close fd, detached⟩, ⟨.shmUnlink name, unlinked⟩] last) : last.Within table := by
  obtain ⟨middle, hdetach, hrest⟩ := answered_cons_iff.mp hanswered
  obtain ⟨final, ⟨hunlinks, hremoves⟩, hdone⟩ := answered_cons_iff.mp hrest
  have hmiddle : middle = next.detach fd := hdetach.1
  rw [answered_nil_iff.mp hdone, SystemNamespace.Unlinks.eq_unbind hunlinks hremoves, hmiddle,
    hcreated]
  exact .undone

theorem close_ensures (region : SharedMemoryRegion) :
    region.close.Ensures fun after => after = .closed := by
  unfold close
  refine ensures_bind_iff.mpr (.of_forall (fun _ => ?_) _)
  refine ensures_bind_iff.mpr (.of_forall (fun _ => ?_) _)
  exact ensures_bind_iff.mpr (.of_forall (fun _ => rfl) _)

theorem create_ensures (region : SharedMemoryRegion) (name : Bytes) (size : ℕ) :
    (region.create name size).Ensures fun answer =>
      answer.error = none ∨ answer.object = .closed := by
  unfold create
  refine ensures_bind_iff.mpr ((close_ensures region).mono ?_)
  rintro _ rfl
  cases validSharedMemoryName name with
  | some error => exact .inr rfl
  | none =>
      dsimp only
      split
      · exact .inr rfl
      split
      · exact .inr rfl
      refine ensures_perform_bind_iff.mpr fun created => ?_
      cases created with
      | error errno => exact .inr rfl
      | ok fd =>
          refine ensures_perform_bind_iff.mpr fun truncated => ?_
          cases truncated with
          | error errno => exact ensures_bind_iff.mpr (.of_forall (fun _ => .inr rfl) _)
          | ok =>
              refine ensures_perform_bind_iff.mpr fun mapped => ?_
              cases mapped with
              | error errno => exact ensures_bind_iff.mpr (.of_forall (fun _ => .inr rfl) _)
              | ok address => exact .inl rfl

theorem open_ensures (region : SharedMemoryRegion) (name : Bytes) (size : ℕ) :
    (region.open name size).Ensures fun answer =>
      answer.error = none ∨ answer.object = .closed := by
  unfold SharedMemoryRegion.open
  refine ensures_bind_iff.mpr ((close_ensures region).mono ?_)
  rintro _ rfl
  cases validSharedMemoryName name with
  | some error => exact .inr rfl
  | none =>
      dsimp only
      split
      · exact .inr rfl
      refine ensures_perform_bind_iff.mpr fun opened => ?_
      cases opened with
      | error errno => exact .inr rfl
      | ok fd =>
          refine ensures_bind_iff.mpr (.of_forall (fun loaded => ?_) _)
          cases loaded with
          | error error => exact ensures_perform_bind_iff.mpr fun _ => .inr rfl
          | ok backing =>
              dsimp only
              split
              · exact ensures_perform_bind_iff.mpr fun _ => .inr rfl
              refine ensures_perform_bind_iff.mpr fun mapped => ?_
              cases mapped with
              | error errno => exact ensures_perform_bind_iff.mpr fun _ => .inr rfl
              | ok address => exact .inl rfl

theorem CreateExchanges.within (hcreate : CreateExchanges name size exchanges .closed)
    (hanswered : Answered SharedMemoryCall.AnswersRemoving table exchanges next) :
    next.Within table := by
  cases hcreate with
  | refused =>
      rw [answered_nil_iff.mp hanswered]
      exact .refl table
  | notCreated errno =>
      obtain ⟨first, hfirst, hdone⟩ := answered_cons_iff.mp hanswered
      rw [answered_nil_iff.mp hdone, show first = table from hfirst.1]
      exact .refl table
  | notTruncated fd errno detached unlinked =>
      obtain ⟨first, hfirst, hrest⟩ := answered_cons_iff.mp hanswered
      obtain ⟨second, hsecond, hrest⟩ := answered_cons_iff.mp hrest
      rw [show second = first from hsecond.1] at hrest
      exact abandoned_within hfirst.1.2.2 hrest
  | notMapped fd errno detached unlinked =>
      obtain ⟨first, hfirst, hrest⟩ := answered_cons_iff.mp hanswered
      obtain ⟨second, hsecond, hrest⟩ := answered_cons_iff.mp hrest
      obtain ⟨third, hthird, hrest⟩ := answered_cons_iff.mp hrest
      rw [show third = second from hthird.1, show second = first from hsecond.1] at hrest
      exact abandoned_within hfirst.1.2.2 hrest

/-- A descriptor on an existing object is given up again. -/
theorem detached_within {fd : Descriptor} (hopened : table.Opens name (.ok fd) next)
    {last : SystemNamespace}
    (hanswered : Answered SharedMemoryCall.AnswersRemoving next [⟨.close fd, detached⟩] last) :
    last.Within table := by
  obtain ⟨hfresh, object, _, rfl⟩ := hopened
  obtain ⟨final, hdetach, hdone⟩ := answered_cons_iff.mp hanswered
  rw [answered_nil_iff.mp hdone, show final = _ from hdetach.1,
    SystemNamespace.attach_detach _ _ _ hfresh]
  exact .refl table

theorem OpenExchanges.within (hopen : OpenExchanges name size exchanges .closed)
    (hanswered : Answered SharedMemoryCall.AnswersRemoving table exchanges next) :
    next.Within table := by
  cases hopen with
  | refused =>
      rw [answered_nil_iff.mp hanswered]
      exact .refl table
  | notOpened errno =>
      obtain ⟨first, hfirst, hdone⟩ := answered_cons_iff.mp hanswered
      rw [answered_nil_iff.mp hdone, show first = table from hfirst.1]
      exact .refl table
  | notLoaded fd status detached =>
      obtain ⟨first, hfirst, hrest⟩ := answered_cons_iff.mp hanswered
      obtain ⟨second, hsecond, hrest⟩ := answered_cons_iff.mp hrest
      rw [show second = first from hsecond.1] at hrest
      exact detached_within hfirst.1 hrest
  | notMapped fd backing errno detached =>
      obtain ⟨first, hfirst, hrest⟩ := answered_cons_iff.mp hanswered
      obtain ⟨second, hsecond, hrest⟩ := answered_cons_iff.mp hrest
      obtain ⟨third, hthird, hrest⟩ := answered_cons_iff.mp hrest
      rw [show third = second from hthird.1, show second = first from hsecond.1] at hrest
      exact detached_within hfirst.1 hrest

theorem create_failed
    (htranscript : Transcript (region.create name size) exchanges answer)
    (hanswered : Answered SharedMemoryCall.AnswersRemoving table exchanges next)
    (hfailed : answer.error ≠ none) :
    answer.object.reported = .closed ∧ next.Within table := by
  have hclosed : answer.object = .closed :=
    (htranscript.ensured (create_ensures region name size)).resolve_left hfailed
  obtain ⟨unmapped, detached, unlinked, acquiring, rfl, hcreate⟩ := create_transcript htranscript
  obtain ⟨middle, hclosing, hacquiring⟩ := answered_append_iff.mp hanswered
  rw [hclosed] at hcreate ⊢
  exact ⟨rfl, (hcreate.within hacquiring).trans (closing_within hclosing)⟩

theorem open_failed
    (htranscript : Transcript (region.open name size) exchanges answer)
    (hanswered : Answered SharedMemoryCall.AnswersRemoving table exchanges next)
    (hfailed : answer.error ≠ none) :
    answer.object.reported = .closed ∧ next.Within table := by
  have hclosed : answer.object = .closed :=
    (htranscript.ensured (open_ensures region name size)).resolve_left hfailed
  obtain ⟨unmapped, detached, unlinked, acquiring, rfl, hopen⟩ := open_transcript htranscript
  obtain ⟨middle, hclosing, hacquiring⟩ := answered_append_iff.mp hanswered
  rw [hclosed] at hopen ⊢
  exact ⟨rfl, (hopen.within hacquiring).trans (closing_within hclosing)⟩

end Acquisition

end SharedMemoryRegion

/-! ## Queues -/

abbrev MessageQueueExchange := Exchange MessageQueueCall MessageQueueCall.Reply

namespace MessageQueueCall

def RemovesNames (table : SystemNamespace) : (call : MessageQueueCall) → call.Reply → Prop
  | .mqUnlink name, reply => table.Removes name reply
  | _, _ => True

def AnswersRemoving (table : SystemNamespace) (call : MessageQueueCall) (reply : call.Reply)
    (next : SystemNamespace) : Prop :=
  call.Answers table reply next ∧ call.RemovesNames table reply

/-- An `mq_getattr` that failed. -/
def Unread : MessageQueueExchange → Prop
  | ⟨.mqGetattr _, .error _⟩ => True
  | _ => False

end MessageQueueCall

namespace PosixMessageQueue

def reported (queue : PosixMessageQueue) : Reported :=
  ⟨queue.isOpen, queue.descriptor, queue.name, queue.maxMessageSize, queue.owner⟩

/-- The exchanges of `close()` for the replies to its two calls. -/
def closing (queue : PosixMessageQueue) (closed unlinked : SystemResult Unit) :
    List MessageQueueExchange :=
  (queue.descriptor.toList.map fun descriptor => ⟨.mqClose descriptor, closed⟩) ++
    if queue.owner && !queue.name.isEmpty then [⟨.mqUnlink queue.name, unlinked⟩] else []

/-- What `create` and `open` exchange after `close()`; they differ in their `mq_open`. -/
inductive AcquireExchanges (asked : SystemResult Descriptor → MessageQueueExchange)
    (name : Bytes) (owner : Bool) :
    List MessageQueueExchange → ObjectAnswer PosixMessageQueue → Prop
  | refused (error : ErrorText) :
      AcquireExchanges asked name owner [] ⟨some error, .closed⟩
  | notOpened (errno : Errno) (error : ErrorText) :
      AcquireExchanges asked name owner [asked (.error errno)] ⟨some error, .closed⟩
  | unread (descriptor : Descriptor) (errno : Errno) (error : ErrorText) :
      AcquireExchanges asked name owner
        [asked (.ok descriptor), ⟨.mqGetattr descriptor, .error errno⟩]
        ⟨some error, ⟨some descriptor, name, 0, owner⟩⟩
  | acquired (descriptor : Descriptor) (size : ℤ) :
      AcquireExchanges asked name owner
        [asked (.ok descriptor), ⟨.mqGetattr descriptor, .ok size⟩]
        ⟨none, ⟨some descriptor, name, sizeOfLong size, owner⟩⟩

section Acquisition

variable {queue : PosixMessageQueue} {name : Bytes} {owner : Bool}
  {answer : ObjectAnswer PosixMessageQueue} {exchanges : List MessageQueueExchange}
  {asked : SystemResult Descriptor → MessageQueueExchange} {table next : SystemNamespace}

theorem closeDescriptor_transcript {result : Unit}
    (htranscript : Transcript queue.closeDescriptor exchanges result) :
    ∃ closed, exchanges =
      queue.descriptor.toList.map fun descriptor => ⟨.mqClose descriptor, closed⟩ := by
  unfold closeDescriptor at htranscript
  split at htranscript
  · rename_i descriptor hdescriptor
    obtain ⟨first, last, closed, rfl, hcall, hdone⟩ := transcript_bind_iff.mp htranscript
    obtain ⟨rfl, _⟩ := transcript_done_iff.mp hdone
    exact ⟨closed, by rw [transcript_perform_iff.mp hcall, hdescriptor]; rfl⟩
  · rename_i hdescriptor
    obtain ⟨rfl, _⟩ := transcript_done_iff.mp htranscript
    exact ⟨.ok (), by rw [hdescriptor]; rfl⟩

theorem unlinkOwned_transcript {result : Unit}
    (htranscript : Transcript queue.unlinkOwned exchanges result) :
    ∃ unlinked, exchanges = if queue.owner && !queue.name.isEmpty
      then [⟨.mqUnlink queue.name, unlinked⟩] else [] := by
  unfold unlinkOwned at htranscript
  split at htranscript
  · rename_i howned
    obtain ⟨first, last, unlinked, rfl, hcall, hdone⟩ := transcript_bind_iff.mp htranscript
    obtain ⟨rfl, _⟩ := transcript_done_iff.mp hdone
    exact ⟨unlinked, by rw [transcript_perform_iff.mp hcall, if_pos howned]; rfl⟩
  · rename_i howned
    obtain ⟨rfl, _⟩ := transcript_done_iff.mp htranscript
    exact ⟨.ok (), by rw [if_neg howned]⟩

theorem close_transcript {after : PosixMessageQueue}
    (htranscript : Transcript queue.close exchanges after) :
    after = .closed ∧ ∃ closed unlinked, exchanges = queue.closing closed unlinked := by
  unfold close at htranscript
  obtain ⟨first, _, _, rfl, hclose, hrest⟩ := transcript_bind_iff.mp htranscript
  obtain ⟨second, _, _, rfl, hunlink, hdone⟩ := transcript_bind_iff.mp hrest
  obtain ⟨rfl, rfl⟩ := transcript_done_iff.mp hdone
  obtain ⟨closed, rfl⟩ := closeDescriptor_transcript hclose
  obtain ⟨unlinked, rfl⟩ := unlinkOwned_transcript hunlink
  exact ⟨rfl, closed, unlinked, by rw [List.append_nil]; rfl⟩

theorem withAttributes_transcript {descriptor : Descriptor}
    (htranscript : Transcript
      (withAttributes ⟨some descriptor, name, 0, owner⟩ descriptor) exchanges answer) :
    AcquireExchanges asked name owner (asked (.ok descriptor) :: exchanges) answer := by
  unfold withAttributes loadAttributes at htranscript
  obtain ⟨first, _, loaded, rfl, hload, hdone⟩ := transcript_bind_iff.mp htranscript
  obtain ⟨_, _, reply, rfl, hcall, hloaded⟩ := transcript_bind_iff.mp hload
  rw [transcript_perform_iff.mp hcall]
  cases reply with
  | error errno =>
      obtain ⟨rfl, rfl⟩ := transcript_done_iff.mp hloaded
      obtain ⟨rfl, rfl⟩ := transcript_done_iff.mp hdone
      exact .unread descriptor errno _
  | ok size =>
      obtain ⟨rfl, rfl⟩ := transcript_done_iff.mp hloaded
      obtain ⟨rfl, rfl⟩ := transcript_done_iff.mp hdone
      exact .acquired descriptor size

theorem create_transcript {maxMessages maxMessageSize : ℤ}
    (htranscript : Transcript (queue.create name maxMessages maxMessageSize) exchanges answer) :
    ∃ closed unlinked acquiring, exchanges = queue.closing closed unlinked ++ acquiring ∧
      AcquireExchanges (fun reply => ⟨.mqCreate name maxMessages maxMessageSize, reply⟩)
        name true acquiring answer := by
  unfold create at htranscript
  obtain ⟨_, acquiring, _, rfl, hclose, hrest⟩ := transcript_bind_iff.mp htranscript
  obtain ⟨rfl, closed, unlinked, rfl⟩ := close_transcript hclose
  refine ⟨closed, unlinked, acquiring, rfl, ?_⟩
  cases hvalid : validQueueName name with
  | some error =>
      simp only [hvalid] at hrest
      obtain ⟨rfl, rfl⟩ := transcript_done_iff.mp hrest
      exact .refused error
  | none =>
      simp only [hvalid] at hrest
      by_cases hpositive : maxMessages ≤ 0 ∨ maxMessageSize ≤ 0
      · rw [if_pos hpositive] at hrest
        obtain ⟨rfl, rfl⟩ := transcript_done_iff.mp hrest
        exact .refused _
      rw [if_neg hpositive] at hrest
      obtain ⟨_, last, reply, rfl, hcall, hrest⟩ := transcript_bind_iff.mp hrest
      rw [transcript_perform_iff.mp hcall]
      cases reply with
      | error errno =>
          obtain ⟨rfl, rfl⟩ := transcript_done_iff.mp hrest
          exact .notOpened errno _
      | ok descriptor => exact withAttributes_transcript hrest

theorem open_transcript
    (htranscript : Transcript (queue.open name) exchanges answer) :
    ∃ closed unlinked acquiring, exchanges = queue.closing closed unlinked ++ acquiring ∧
      AcquireExchanges (fun reply => ⟨.mqOpen name, reply⟩) name false acquiring answer := by
  unfold PosixMessageQueue.open at htranscript
  obtain ⟨_, acquiring, _, rfl, hclose, hrest⟩ := transcript_bind_iff.mp htranscript
  obtain ⟨rfl, closed, unlinked, rfl⟩ := close_transcript hclose
  refine ⟨closed, unlinked, acquiring, rfl, ?_⟩
  cases hvalid : validQueueName name with
  | some error =>
      simp only [hvalid] at hrest
      obtain ⟨rfl, rfl⟩ := transcript_done_iff.mp hrest
      exact .refused error
  | none =>
      simp only [hvalid] at hrest
      obtain ⟨_, last, reply, rfl, hcall, hrest⟩ := transcript_bind_iff.mp hrest
      rw [transcript_perform_iff.mp hcall]
      cases reply with
      | error errno =>
          obtain ⟨rfl, rfl⟩ := transcript_done_iff.mp hrest
          exact .notOpened errno _
      | ok descriptor => exact withAttributes_transcript hrest

theorem closing_within {closed unlinked : SystemResult Unit}
    (hanswered : Answered MessageQueueCall.AnswersRemoving table
      (queue.closing closed unlinked) next) : next.Within table := by
  refine within_of_answered hanswered fun exchange hmem => ?_
  unfold closing at hmem
  rw [List.mem_append, List.mem_map] at hmem
  rintro before after ⟨hanswer, _⟩
  rcases hmem with ⟨descriptor, _, rfl⟩ | hunlink
  · rw [show after = before.detach descriptor from hanswer]
    exact .detach before descriptor
  · split at hunlink
    · cases List.mem_singleton.mp hunlink
      exact SystemNamespace.Unlinks.within hanswer
    · cases hunlink

theorem not_unread_of_closing {closed unlinked : SystemResult Unit} :
    ∀ exchange ∈ queue.closing closed unlinked, ¬ MessageQueueCall.Unread exchange := by
  intro exchange hmem
  unfold closing at hmem
  rw [List.mem_append, List.mem_map] at hmem
  rcases hmem with ⟨descriptor, _, rfl⟩ | hunlink
  · exact id
  · split at hunlink
    · cases List.mem_singleton.mp hunlink
      exact id
    · cases hunlink

/-- An `mq_open` that fails changes no name. -/
def Refusable (asked : SystemResult Descriptor → MessageQueueExchange) : Prop :=
  ∀ errno before after,
    (asked (.error errno)).1.AnswersRemoving before (asked (.error errno)).2 after → after = before

theorem AcquireExchanges.failed (hacquires : AcquireExchanges asked name owner exchanges answer)
    (hrefusable : Refusable asked)
    (hanswered : Answered MessageQueueCall.AnswersRemoving table exchanges next)
    (hread : ∀ exchange ∈ exchanges, ¬ MessageQueueCall.Unread exchange)
    (hfailed : answer.error ≠ none) :
    answer.object.reported = .closed ∧ next.Within table := by
  cases hacquires with
  | refused error =>
      rw [answered_nil_iff.mp hanswered]
      exact ⟨rfl, .refl table⟩
  | notOpened errno error =>
      obtain ⟨first, hfirst, hdone⟩ := answered_cons_iff.mp hanswered
      rw [answered_nil_iff.mp hdone, hrefusable errno table first hfirst]
      exact ⟨rfl, .refl table⟩
  | unread descriptor errno error =>
      exact absurd trivial (hread ⟨.mqGetattr descriptor, .error errno⟩ (by simp))
  | acquired descriptor size => exact absurd rfl hfailed

/-- A queue whose attributes were not read stays open. -/
theorem AcquireExchanges.unread_open
    (hacquires : AcquireExchanges asked name owner exchanges answer)
    (hasked : ∀ reply, ¬ MessageQueueCall.Unread (asked reply))
    {exchange : MessageQueueExchange} (hmem : exchange ∈ exchanges)
    (hunread : MessageQueueCall.Unread exchange) :
    answer.error ≠ none ∧ answer.object.reported ≠ .closed := by
  cases hacquires with
  | refused error => simp at hmem
  | notOpened errno error =>
      rw [List.mem_singleton] at hmem
      exact absurd (hmem ▸ hunread) (hasked _)
  | unread descriptor errno error => simp [reported, Reported.closed]
  | acquired descriptor size =>
      rw [List.mem_cons, List.mem_singleton] at hmem
      rcases hmem with rfl | rfl
      · exact absurd hunread (hasked _)
      · exact hunread.elim

/-- `close()` only takes things away and reads no attributes. -/
theorem failed_acquisition_iff {closed unlinked : SystemResult Unit}
    (hacquires : AcquireExchanges asked name owner exchanges answer)
    (hasked : ∀ reply, ¬ MessageQueueCall.Unread (asked reply)) (hrefusable : Refusable asked)
    (hanswered : Answered MessageQueueCall.AnswersRemoving table
      (queue.closing closed unlinked ++ exchanges) next) :
    (answer.error ≠ none → answer.object.reported = .closed ∧ next.Within table) ↔
      ∀ exchange ∈ queue.closing closed unlinked ++ exchanges,
        ¬ MessageQueueCall.Unread exchange := by
  obtain ⟨middle, hclosing, hacquiring⟩ := answered_append_iff.mp hanswered
  constructor
  · intro hclean exchange hmem hunread
    rcases List.mem_append.mp hmem with hbefore | hacquired
    · exact not_unread_of_closing exchange hbefore hunread
    · obtain ⟨hfailed, hopen⟩ := hacquires.unread_open hasked hacquired hunread
      exact hopen (hclean hfailed).1
  · intro hread hfailed
    have hrest := hacquires.failed hrefusable hacquiring
      (fun exchange hmem => hread exchange (List.mem_append_right _ hmem)) hfailed
    exact ⟨hrest.1, hrest.2.trans (closing_within hclosing)⟩

end Acquisition

end PosixMessageQueue

/-! ## Both classes -/

/-- The calls of a class that acquire a kernel object. -/
structure AcquiringKind where
  Object : Type
  Call : Type
  Question : Type
  Reply : Question → Type
  Answers : SystemNamespace → (question : Question) → Reply question → SystemNamespace → Prop
  Unread : Exchange Question Reply → Prop
  acquire : Call → Object → Program Question Reply (ObjectAnswer Object)
  reported : Object → Reported

inductive RegionAcquisition where
  | create (name : Bytes) (size : ℕ)
  | open (name : Bytes) (size : ℕ)
  deriving DecidableEq, Repr

inductive QueueAcquisition where
  | create (name : Bytes) (maxMessages maxMessageSize : ℤ)
  | open (name : Bytes)
  deriving DecidableEq, Repr

def acquiringRegions : AcquiringKind where
  Object := SharedMemoryRegion
  Call := RegionAcquisition
  Question := SharedMemoryCall
  Reply := SharedMemoryCall.Reply
  Answers := SharedMemoryCall.AnswersRemoving
  Unread _ := False
  acquire
    | .create name size, region => region.create name size
    | .open name size, region => region.open name size
  reported := SharedMemoryRegion.reported

def acquiringQueues : AcquiringKind where
  Object := PosixMessageQueue
  Call := QueueAcquisition
  Question := MessageQueueCall
  Reply := MessageQueueCall.Reply
  Answers := MessageQueueCall.AnswersRemoving
  Unread := MessageQueueCall.Unread
  acquire
    | .create name maxMessages maxMessageSize, queue =>
        queue.create name maxMessages maxMessageSize
    | .open name, queue => queue.open name
  reported := PosixMessageQueue.reported

def NamedIpcClass.acquiring : NamedIpcClass → AcquiringKind
  | .sharedMemoryRegion => acquiringRegions
  | .posixMessageQueue => acquiringQueues

/-- A failed `create` or `open` leaves the object closed, and nothing open or named
that was not so before, exactly when it read the attributes of what it had opened. -/
theorem failed_acquisition_leaves_closed_iff (ipcClass : NamedIpcClass)
    {call : ipcClass.acquiring.Call} {object : ipcClass.acquiring.Object}
    {exchanges : List (Exchange ipcClass.acquiring.Question ipcClass.acquiring.Reply)}
    {answer : ObjectAnswer ipcClass.acquiring.Object} {table next : SystemNamespace}
    (htranscript : Transcript (ipcClass.acquiring.acquire call object) exchanges answer)
    (hanswered : Answered ipcClass.acquiring.Answers table exchanges next) :
    (answer.error ≠ none →
        ipcClass.acquiring.reported answer.object = .closed ∧ next.Within table) ↔
      ∀ exchange ∈ exchanges, ¬ ipcClass.acquiring.Unread exchange := by
  cases ipcClass with
  | sharedMemoryRegion =>
      refine iff_of_true (fun hfailed => ?_) fun _ _ => id
      cases call with
      | create name size =>
          exact SharedMemoryRegion.create_failed htranscript hanswered hfailed
      | «open» name size =>
          exact SharedMemoryRegion.open_failed htranscript hanswered hfailed
  | posixMessageQueue =>
      cases call with
      | create name maxMessages maxMessageSize =>
          obtain ⟨closed, unlinked, acquiring, rfl, hacquires⟩ :=
            PosixMessageQueue.create_transcript htranscript
          exact PosixMessageQueue.failed_acquisition_iff hacquires (fun _ => id)
            (fun _ _ _ hrefused => hrefused.1) hanswered
      | «open» name =>
          obtain ⟨closed, unlinked, acquiring, rfl, hacquires⟩ :=
            PosixMessageQueue.open_transcript htranscript
          exact PosixMessageQueue.failed_acquisition_iff hacquires (fun _ => id)
            (fun _ _ _ hrefused => hrefused.1) hanswered

/-- A region whose object cannot be sized: descriptor 3 and the name are given back. -/
def untruncatedExchanges : List SharedMemoryExchange :=
  [⟨.shmCreate sharedName, .ok 3⟩, ⟨.ftruncate 3 16, .error 28⟩, ⟨.close 3, .ok ()⟩,
    ⟨.shmUnlink sharedName, .ok ()⟩]

theorem untruncatedRegion_leaves_closed :
    ∃ answer next, Transcript (acquiringRegions.acquire (.create sharedName 16) .closed)
        untruncatedExchanges answer ∧
      Answered acquiringRegions.Answers emptyNamespace untruncatedExchanges next ∧
      answer.error = some (systemError "ftruncate" 28) ∧
      answer.object.reported = .closed ∧ next.Within emptyNamespace := by
  have htranscript : Transcript (acquiringRegions.acquire (.create sharedName 16) .closed)
      untruncatedExchanges ⟨some (systemError "ftruncate" 28), .closed⟩ :=
    .ask _ (.ask _ (.ask _ (.ask _ (.done _))))
  have hanswered : Answered acquiringRegions.Answers emptyNamespace untruncatedExchanges
      (((emptyNamespace.create sharedName 3).detach 3).unbind sharedName) :=
    .cons ⟨⟨rfl, rfl, rfl⟩, trivial⟩ (.cons ⟨rfl, trivial⟩ (.cons ⟨rfl, trivial⟩
      (.cons ⟨rfl, trivial⟩ (.nil _))))
  have hclean := (failed_acquisition_leaves_closed_iff .sharedMemoryRegion htranscript
    hanswered).mpr (fun _ _ => id) (by simp)
  exact ⟨_, _, htranscript, hanswered, rfl, hclean⟩

/-- A queue whose attributes cannot be read. -/
def unreadExchanges : List MessageQueueExchange :=
  [⟨.mqCreate sharedName 10 64, .ok 3⟩, ⟨.mqGetattr 3, .error 9⟩]

/-- `create` fails, but the queue is open, owned and in the namespace. -/
theorem unreadQueue_stays_open :
    ∃ answer next, Transcript (acquiringQueues.acquire (.create sharedName 10 64) .closed)
        unreadExchanges answer ∧
      Answered acquiringQueues.Answers emptyNamespace unreadExchanges next ∧
      answer.error = some (systemError "mq_getattr" 9) ∧
      answer.object.reported = ⟨true, some 3, sharedName, 0, true⟩ ∧
      ¬ next.Within emptyNamespace ∧
      ¬ (answer.error ≠ none →
        answer.object.reported = .closed ∧ next.Within emptyNamespace) := by
  have hnamed : (emptyNamespace.create sharedName 3).names sharedName = some 0 := rfl
  have hleft : ¬ (emptyNamespace.create sharedName 3).Within emptyNamespace := by
    intro hwithin
    cases hwithin.names hnamed
  refine ⟨⟨some (systemError "mq_getattr" 9), ⟨some 3, sharedName, 0, true⟩⟩, _,
    .ask _ (.ask _ (.done _)),
    .cons ⟨⟨rfl, rfl, rfl⟩, trivial⟩ (.cons ⟨rfl, trivial⟩ (.nil _)), rfl, rfl, hleft, ?_⟩
  exact fun hclean => hleft (hclean (by simp)).2

end ElapPlatform.Ipc
