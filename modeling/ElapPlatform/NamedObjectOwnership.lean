import ElapPlatform.NamedObjectRuns

/-!
# Which names the calls of an object remove

`close()` unlinks the name that the object created, and never looks at what the
name refers to by then.
-/

namespace ElapPlatform.Ipc

open Interaction RelyGuarantee Transition

/-! ## What an object has created -/

section Creations

variable {kind : NamedObjectKind} {history : ObjectHistory kind}
  {system next : ObjectSystem kind} {label : ObjectLabel kind} {index : ℕ}
  {generation : Generation}

/-- The last exclusive creation by the object, which has not asked to remove a name since. -/
def MadeBy (history : ObjectHistory kind) (index : ℕ) (generation : Generation) : Prop :=
  ∃ before state question reply after name,
    history = before ++ (state, .asks index question reply) :: after ∧
      kind.action question reply = .makes name ∧
      generation = ⟨cString name, state.shared.table.made⟩ ∧
      ∀ entry ∈ after, ∀ question reply, entry.2 = .asks index question reply →
        kind.action question reply = .keeps

theorem MadeBy.made {question : kind.Question} {reply : kind.Reply question} {name : Bytes}
    (haction : kind.action question reply = .makes name) :
    MadeBy (history ++ [(system, .asks index question reply)]) index
      ⟨cString name, system.shared.table.made⟩ :=
  ⟨history, system, question, reply, [], name, rfl, haction, rfl, nofun⟩

theorem MadeBy.snoc (hmade : MadeBy history index generation)
    (hkeeps : ∀ question reply, label = .asks index question reply →
      kind.action question reply = .keeps) :
    MadeBy (history ++ [(system, label)]) index generation := by
  obtain ⟨before, state, question, reply, after, name, rfl, haction, hgeneration, hafter⟩ := hmade
  refine ⟨before, state, question, reply, after ++ [(system, label)], name, by simp, haction,
    hgeneration, fun entry hmem => ?_⟩
  rcases List.mem_append.mp hmem with hmem | hmem
  · exact hafter entry hmem
  · rw [List.mem_singleton.mp hmem]
    exact hkeeps

theorem MadeBy.last (hmade : MadeBy (history ++ [(system, label)]) index generation) :
    (∃ question reply name, label = .asks index question reply ∧
        kind.action question reply = .makes name ∧
        generation = ⟨cString name, system.shared.table.made⟩) ∨
      MadeBy history index generation ∧
        ∀ question reply, label = .asks index question reply →
          kind.action question reply = .keeps := by
  obtain ⟨before, state, question, reply, after, name, hsplit, haction, hgeneration, hafter⟩ :=
    hmade
  induction after using List.reverseRecOn with
  | nil =>
      have hlast := (List.append_inj' hsplit rfl).2
      cases hlast
      exact .inl ⟨question, reply, name, rfl, haction, hgeneration⟩
  | append_singleton after entry _ =>
      rw [← List.cons_append, ← List.append_assoc] at hsplit
      obtain ⟨hbefore, hlast⟩ := List.append_inj' hsplit rfl
      cases hlast
      refine .inr ⟨⟨before, state, question, reply, after, name, hbefore, haction, hgeneration,
        fun entry hmem => ?_⟩, ?_⟩
      · exact hafter entry (List.mem_append_left _ hmem)
      · exact hafter _ (List.mem_append_right _ (List.mem_singleton_self _))

theorem madeBy_snoc_iff
    (hkeeps : ∀ question reply, label = .asks index question reply →
      kind.action question reply = .keeps) :
    MadeBy (history ++ [(system, label)]) index generation ↔ MadeBy history index generation := by
  refine ⟨fun hmade => ?_, fun hmade => hmade.snoc hkeeps⟩
  rcases hmade.last with ⟨question, reply, name, hlabel, haction, _⟩ | ⟨hearlier, _⟩
  · cases (hkeeps question reply hlabel).symm.trans haction
  · exact hearlier

theorem madeBy_asks_iff {question : kind.Question} {reply : kind.Reply question}
    {previous : Option Generation}
    (hprevious : previous = some generation ↔ MadeBy history index generation) :
    MadeBy (history ++ [(system, .asks index question reply)]) index generation ↔
      Generation.after system.shared.table previous (kind.action question reply) =
        some generation := by
  cases haction : kind.action question reply with
  | keeps =>
      refine (madeBy_snoc_iff fun asked answered hlabel => ?_).trans hprevious.symm
      cases hlabel
      exact haction
  | removes name =>
      refine iff_of_false (fun hmade => ?_) nofun
      rcases hmade.last with ⟨_, _, _, hlabel, hmakes, _⟩ | ⟨_, hkeeps⟩
      · cases hlabel
        cases haction.symm.trans hmakes
      · cases haction.symm.trans (hkeeps _ _ rfl)
  | makes name =>
      constructor
      · intro hmade
        rcases hmade.last with ⟨_, _, _, hlabel, hmakes, rfl⟩ | ⟨_, hkeeps⟩
        · cases hlabel
          cases haction.symm.trans hmakes
          rfl
        · cases haction.symm.trans (hkeeps _ _ rfl)
      · intro hnew
        cases hnew
        exact .made haction

/-- The generation of an object is what it has made last. -/
theorem generation_iff_madeBy
    (hrun : Run (ObjectStep kind) (initialObjectSystem kind) history system) :
    system.shared.generations index = some generation ↔ MadeBy history index generation := by
  induction hrun with
  | start =>
      refine iff_of_false nofun ?_
      rintro ⟨before, state, question, reply, after, name, hsplit, _⟩
      exact absurd hsplit.symm
        (List.append_ne_nil_of_right_ne_nil _ (List.cons_ne_nil _ _))
  | snoc hrun hstep ih =>
      cases hstep with
      | begins hidle =>
          refine ih.trans (madeBy_snoc_iff ?_).symm
          exact nofun
      | returns hactive =>
          refine ih.trans (madeBy_snoc_iff ?_).symm
          exact nofun
      | @asks caller _ _ _ _ _ _ hactive hanswer =>
          dsimp only
          rw [hanswer.2]
          dsimp only [OwnedNamespace.after]
          by_cases hcaller : index = caller
          · subst hcaller
            rw [Function.update_self]
            exact (madeBy_asks_iff ih).symm
          · rw [Function.update_of_ne hcaller]
            refine ih.trans (madeBy_snoc_iff fun asked answered hlabel => ?_).symm
            cases hlabel
            exact absurd rfl hcaller

end Creations

/-! ## The names that go away -/

inductive NamedIpcClass where
  | sharedMemoryRegion
  | posixMessageQueue
  deriving DecidableEq, Repr

def NamedIpcClass.kind : NamedIpcClass → NamedObjectKind
  | .sharedMemoryRegion => sharedMemoryRegions
  | .posixMessageQueue => posixMessageQueues

/-- Every name that goes away referred to the object that the caller's own creation has
made. -/
def RemovesOwnOnly {kind : NamedObjectKind} (history : ObjectHistory kind) (index : ℕ)
    (before after : SystemNamespace) : Prop :=
  ∀ name object, before.names name = some object → after.names name ≠ some object →
    MadeBy history index ⟨name, object⟩

/-- The step is not one of a public `unlink()`. -/
def NotUnlinking {kind : NamedObjectKind} (system : ObjectSystem kind) (label : ObjectLabel kind) :
    Prop :=
  ∀ activity, system.active label.caller = some activity → ¬ kind.unlinks activity.call

theorem GenerationsKept.removesOwnOnly {kind : NamedObjectKind} {history : ObjectHistory kind}
    {system next : ObjectSystem kind} {label : ObjectLabel kind}
    (hkept : GenerationsKept system)
    (hrun : Run (ObjectStep kind) (initialObjectSystem kind) history system)
    (hstep : ObjectStep kind system label next) (hcloses : NotUnlinking system label) :
    RemovesOwnOnly history label.caller system.shared.table next.shared.table := by
  intro name object hnamed hgone
  cases hstep with
  | begins hidle => exact absurd hnamed hgone
  | returns hactive => exact absurd hnamed hgone
  | asks hactive hanswer =>
      obtain ⟨activity, hcalling, hallowed⟩ := hkept.kept.allowed (.asks hactive hanswer)
      have hown := hallowed (hcloses activity hcalling)
      have hremoved := hkept.sound.removed hown (kind.changes hanswer.1) hnamed hgone
      exact (generation_iff_madeBy hrun).mp hremoved

/-- However the system calls interleave: as long as nobody creates a name while it is
still another object's, a call that closes an object removes a name only if it refers
to the kernel object that this object created. -/
theorem named_object_removes_own_generation (ipcClass : NamedIpcClass)
    {history : ObjectHistory ipcClass.kind} {system next : ObjectSystem ipcClass.kind}
    {label : ObjectLabel ipcClass.kind}
    (hrun : Run (ObjectStep ipcClass.kind) (initialObjectSystem ipcClass.kind) history system)
    (hunclaimed : UnclaimedCreates history)
    (hstep : ObjectStep ipcClass.kind system label next) (hcloses : NotUnlinking system label) :
    RemovesOwnOnly history label.caller system.shared.table next.shared.table :=
  (run_generationsKept hrun hunclaimed).removesOwnOnly hrun hstep hcloses

theorem ObjectStep.asked {kind : NamedObjectKind} {system : ObjectSystem kind} {index : ℕ}
    {call : kind.Call} {begun : OwnedNamespace} {question : kind.Question}
    {rest : kind.Reply question → Program kind.Question kind.Reply (Unit × kind.Object)}
    {reply : kind.Reply question} (table : SystemNamespace)
    (hactive : system.active index = some ⟨call, begun, .ask question rest⟩)
    (hanswer : kind.Answers system.shared.table question reply table) :
    ObjectStep kind system (.asks index question reply)
      ⟨system.shared.after index (kind.action question reply) table, system.objects,
        Function.update system.active index (some ⟨call, begun, rest reply⟩)⟩ :=
  .asks hactive ⟨hanswer, rfl⟩

/-- A run whose creations are all of names that are nobody else's. -/
structure UnclaimedRun (kind : NamedObjectKind) (history : ObjectHistory kind)
    (system : ObjectSystem kind) : Prop where
  run : Run (ObjectStep kind) (initialObjectSystem kind) history system
  unclaimed : UnclaimedCreates history

namespace UnclaimedRun

variable {kind : NamedObjectKind} {history : ObjectHistory kind} {system next : ObjectSystem kind}

theorem start : UnclaimedRun kind [] (initialObjectSystem kind) := ⟨.start, nofun⟩

theorem andThen (hrun : UnclaimedRun kind history system) (label : ObjectLabel kind)
    (hstep : ObjectStep kind system label next) (hlast : UnclaimedCreate system label) :
    UnclaimedRun kind (history ++ [(system, label)]) next := by
  refine ⟨hrun.run.andThen label hstep, fun entry hmem => ?_⟩
  rcases List.mem_append.mp hmem with hold | hnew
  · exact hrun.unclaimed entry hold
  · rw [List.mem_singleton.mp hnew]
    exact hlast

end UnclaimedRun

/-- `"/a"` -/
def sharedName : Bytes := [47, 97]

/-- Queue 1 opens the name while queue 0 is still creating it, and creates it again
before the `unlink()` of queue 0 has returned. -/
theorem unlinked_queue_run :
    ∃ history system next, Run (ObjectStep posixMessageQueues)
        (initialObjectSystem posixMessageQueues) history system ∧
      UnclaimedCreates history ∧
      ObjectStep posixMessageQueues system (.asks 1 (MessageQueueCall.mqUnlink sharedName) (.ok ()))
        next ∧
      NotUnlinking system (.asks 1 (MessageQueueCall.mqUnlink sharedName) (.ok ())) ∧
      system.shared.table.names sharedName = some 1 ∧
      next.shared.table.names sharedName = none := by
  have hrun : UnclaimedRun posixMessageQueues [] _ := .start
  have hrun := hrun.andThen (.begins 0 (PosixMessageQueueCall.create sharedName 10 64))
    (.begins rfl) trivial
  have hrun := hrun.andThen (.asks 0 (MessageQueueCall.mqCreate sharedName 10 64) (.ok 0))
    (.asked _ rfl ⟨rfl, rfl, rfl⟩)
    (by
      intro other _ generation hgeneration
      cases hgeneration)
  have hrun := hrun.andThen (.begins 1 (PosixMessageQueueCall.open sharedName))
    (.begins rfl) trivial
  have hrun := hrun.andThen (.asks 1 (MessageQueueCall.mqOpen sharedName) (.ok 1))
    (.asked _ rfl ⟨rfl, 0, rfl, rfl⟩) trivial
  have hrun := hrun.andThen (.asks 0 (MessageQueueCall.mqGetattr 0) (.ok 64))
    (.asked _ rfl rfl) trivial
  have hrun := hrun.andThen (.returns 0 (PosixMessageQueueCall.create sharedName 10 64) ())
    (.returns rfl) trivial
  have hrun := hrun.andThen (.asks 1 (MessageQueueCall.mqGetattr 1) (.ok 64))
    (.asked _ rfl rfl) trivial
  have hrun := hrun.andThen (.returns 1 (PosixMessageQueueCall.open sharedName) ())
    (.returns rfl) trivial
  have hrun := hrun.andThen (.begins 0 PosixMessageQueueCall.unlink) (.begins rfl) trivial
  have hrun := hrun.andThen (.asks 0 (MessageQueueCall.mqUnlink sharedName) (.ok ()))
    (.asked _ rfl rfl) trivial
  have hrun := hrun.andThen (.begins 1 (PosixMessageQueueCall.create sharedName 10 64))
    (.begins rfl) trivial
  have hrun := hrun.andThen (.asks 1 (MessageQueueCall.mqClose 1) (.ok ()))
    (.asked _ rfl rfl) trivial
  have hrun := hrun.andThen (.asks 1 (MessageQueueCall.mqCreate sharedName 10 64) (.ok 2))
    (.asked _ rfl ⟨rfl, rfl, rfl⟩)
    (by
      intro other hother generation hgeneration
      rcases other with _ | _ | other
      · cases hgeneration
      · exact absurd rfl hother
      · cases hgeneration)
  have hrun := hrun.andThen (.returns 0 PosixMessageQueueCall.unlink ()) (.returns rfl) trivial
  have hrun := hrun.andThen (.asks 1 (MessageQueueCall.mqGetattr 2) (.ok 64))
    (.asked _ rfl rfl) trivial
  have hrun := hrun.andThen (.returns 1 (PosixMessageQueueCall.create sharedName 10 64) ())
    (.returns rfl) trivial
  have hrun := hrun.andThen (.begins 1 PosixMessageQueueCall.close) (.begins rfl) trivial
  have hrun := hrun.andThen (.asks 1 (MessageQueueCall.mqClose 2) (.ok ()))
    (.asked _ rfl rfl) trivial
  refine ⟨_, _, _, hrun.run, hrun.unclaimed, .asked _ rfl rfl, ?_, rfl, rfl⟩
  intro activity hactivity
  cases hactivity
  exact nofun

theorem unlinked_queue_removes_own_generation :
    ∃ history system next, Run (ObjectStep posixMessageQueues)
        (initialObjectSystem posixMessageQueues) history system ∧
      ObjectStep posixMessageQueues system (.asks 1 (MessageQueueCall.mqUnlink sharedName) (.ok ()))
        next ∧
      system.shared.table.names sharedName = some 1 ∧
      next.shared.table.names sharedName = none ∧
      RemovesOwnOnly history 1 system.shared.table next.shared.table := by
  obtain ⟨history, system, next, hrun, hunclaimed, hremove, hcloses, hbefore, hafter⟩ :=
    unlinked_queue_run
  exact ⟨history, system, next, hrun, hremove, hbefore, hafter,
    named_object_removes_own_generation .posixMessageQueue hrun hunclaimed hremove hcloses⟩

/-! ## A name that was unlinked by somebody else and created again -/

/-- Queue 0 is created, queue 1 opens the name and unlinks it, and queue 2 creates it
again before queue 0 closes. -/
theorem recreated_queue_run :
    ∃ history system next, Run (ObjectStep posixMessageQueues)
        (initialObjectSystem posixMessageQueues) history system ∧
      ObjectStep posixMessageQueues system (.asks 0 (MessageQueueCall.mqUnlink sharedName) (.ok ()))
        next ∧
      NotUnlinking system (.asks 0 (MessageQueueCall.mqUnlink sharedName) (.ok ())) ∧
      system.shared.table.names sharedName = some 1 ∧
      next.shared.table.names sharedName = none ∧
      system.shared.generations 0 = some ⟨sharedName, 0⟩ := by
  have hrun : Run (ObjectStep posixMessageQueues)
      (initialObjectSystem posixMessageQueues) [] _ := .start
  have hrun := hrun.andThen (.begins 0 (PosixMessageQueueCall.create sharedName 10 64))
    (.begins rfl)
  have hrun := hrun.andThen (.asks 0 (MessageQueueCall.mqCreate sharedName 10 64) (.ok 0))
    (.asked _ rfl ⟨rfl, rfl, rfl⟩)
  have hrun := hrun.andThen (.asks 0 (MessageQueueCall.mqGetattr 0) (.ok 64)) (.asked _ rfl rfl)
  have hrun := hrun.andThen (.returns 0 (PosixMessageQueueCall.create sharedName 10 64) ())
    (.returns rfl)
  have hrun := hrun.andThen (.begins 1 (PosixMessageQueueCall.open sharedName)) (.begins rfl)
  have hrun := hrun.andThen (.asks 1 (MessageQueueCall.mqOpen sharedName) (.ok 1))
    (.asked _ rfl ⟨rfl, 0, rfl, rfl⟩)
  have hrun := hrun.andThen (.asks 1 (MessageQueueCall.mqGetattr 1) (.ok 64)) (.asked _ rfl rfl)
  have hrun := hrun.andThen (.returns 1 (PosixMessageQueueCall.open sharedName) ()) (.returns rfl)
  have hrun := hrun.andThen (.begins 1 PosixMessageQueueCall.unlink) (.begins rfl)
  have hrun := hrun.andThen (.asks 1 (MessageQueueCall.mqUnlink sharedName) (.ok ()))
    (.asked _ rfl rfl)
  have hrun := hrun.andThen (.returns 1 PosixMessageQueueCall.unlink ()) (.returns rfl)
  have hrun := hrun.andThen (.begins 2 (PosixMessageQueueCall.create sharedName 10 64))
    (.begins rfl)
  have hrun := hrun.andThen (.asks 2 (MessageQueueCall.mqCreate sharedName 10 64) (.ok 2))
    (.asked _ rfl ⟨rfl, rfl, rfl⟩)
  have hrun := hrun.andThen (.asks 2 (MessageQueueCall.mqGetattr 2) (.ok 64)) (.asked _ rfl rfl)
  have hrun := hrun.andThen (.returns 2 (PosixMessageQueueCall.create sharedName 10 64) ())
    (.returns rfl)
  have hrun := hrun.andThen (.begins 0 PosixMessageQueueCall.close) (.begins rfl)
  have hrun := hrun.andThen (.asks 0 (MessageQueueCall.mqClose 0) (.ok ())) (.asked _ rfl rfl)
  refine ⟨_, _, _, hrun, .asked _ rfl rfl, ?_, rfl, rfl, rfl⟩
  intro activity hactivity
  cases hactivity
  exact nofun

/-- The same calls on regions. -/
theorem recreated_region_run :
    ∃ history system next, Run (ObjectStep sharedMemoryRegions)
        (initialObjectSystem sharedMemoryRegions) history system ∧
      ObjectStep sharedMemoryRegions system
        (.asks 0 (SharedMemoryCall.shmUnlink sharedName) (.ok ())) next ∧
      NotUnlinking system (.asks 0 (SharedMemoryCall.shmUnlink sharedName) (.ok ())) ∧
      system.shared.table.names sharedName = some 1 ∧
      next.shared.table.names sharedName = none ∧
      system.shared.generations 0 = some ⟨sharedName, 0⟩ := by
  have hrun : Run (ObjectStep sharedMemoryRegions)
      (initialObjectSystem sharedMemoryRegions) [] _ := .start
  have hrun := hrun.andThen (.begins 0 (SharedMemoryRegionCall.create sharedName 64))
    (.begins rfl)
  have hrun := hrun.andThen (.asks 0 (SharedMemoryCall.shmCreate sharedName) (.ok 0))
    (.asked _ rfl ⟨rfl, rfl, rfl⟩)
  have hrun := hrun.andThen (.asks 0 (SharedMemoryCall.ftruncate 0 64) (.ok ()))
    (.asked _ rfl rfl)
  have hrun := hrun.andThen (.asks 0 (SharedMemoryCall.mmap 64 0) (.ok 4096)) (.asked _ rfl rfl)
  have hrun := hrun.andThen (.returns 0 (SharedMemoryRegionCall.create sharedName 64) ())
    (.returns rfl)
  have hrun := hrun.andThen (.begins 1 (SharedMemoryRegionCall.open sharedName 64)) (.begins rfl)
  have hrun := hrun.andThen (.asks 1 (SharedMemoryCall.shmOpen sharedName) (.ok 1))
    (.asked _ rfl ⟨rfl, 0, rfl, rfl⟩)
  have hrun := hrun.andThen (.asks 1 (SharedMemoryCall.fstat 1) (.ok 64)) (.asked _ rfl rfl)
  have hrun := hrun.andThen (.asks 1 (SharedMemoryCall.mmap 64 1) (.ok 8192)) (.asked _ rfl rfl)
  have hrun := hrun.andThen (.returns 1 (SharedMemoryRegionCall.open sharedName 64) ())
    (.returns rfl)
  have hrun := hrun.andThen (.begins 1 SharedMemoryRegionCall.unlink) (.begins rfl)
  have hrun := hrun.andThen (.asks 1 (SharedMemoryCall.shmUnlink sharedName) (.ok ()))
    (.asked _ rfl rfl)
  have hrun := hrun.andThen (.returns 1 SharedMemoryRegionCall.unlink ()) (.returns rfl)
  have hrun := hrun.andThen (.begins 2 (SharedMemoryRegionCall.create sharedName 64))
    (.begins rfl)
  have hrun := hrun.andThen (.asks 2 (SharedMemoryCall.shmCreate sharedName) (.ok 2))
    (.asked _ rfl ⟨rfl, rfl, rfl⟩)
  have hrun := hrun.andThen (.asks 2 (SharedMemoryCall.ftruncate 2 64) (.ok ()))
    (.asked _ rfl rfl)
  have hrun := hrun.andThen (.asks 2 (SharedMemoryCall.mmap 64 2) (.ok 12288)) (.asked _ rfl rfl)
  have hrun := hrun.andThen (.returns 2 (SharedMemoryRegionCall.create sharedName 64) ())
    (.returns rfl)
  have hrun := hrun.andThen (.begins 0 SharedMemoryRegionCall.close) (.begins rfl)
  have hrun := hrun.andThen (.asks 0 (SharedMemoryCall.munmap 4096 64) (.ok ()))
    (.asked _ rfl rfl)
  have hrun := hrun.andThen (.asks 0 (SharedMemoryCall.close 0) (.ok ())) (.asked _ rfl rfl)
  refine ⟨_, _, _, hrun, .asked _ rfl rfl, ?_, rfl, rfl, rfl⟩
  intro activity hactivity
  cases hactivity
  exact nofun

/-- In every run, a call that closes an object removes its own generation only. -/
def RemovesOwnGeneration (kind : NamedObjectKind) : Prop :=
  ∀ {history : ObjectHistory kind} {system next : ObjectSystem kind} {label : ObjectLabel kind},
    Run (ObjectStep kind) (initialObjectSystem kind) history system →
      ObjectStep kind system label next → NotUnlinking system label →
        RemovesOwnOnly history label.caller system.shared.table next.shared.table

/-- The close of object 0 removes a name that refers to another object than its own. -/
theorem not_removesOwnGeneration {kind : NamedObjectKind} {question : kind.Question}
    {reply : kind.Reply question} {history : ObjectHistory kind}
    {system next : ObjectSystem kind}
    (hrun : Run (ObjectStep kind) (initialObjectSystem kind) history system)
    (hremove : ObjectStep kind system (.asks 0 question reply) next)
    (hcloses : NotUnlinking system (.asks 0 question reply))
    (hbefore : system.shared.table.names sharedName = some 1)
    (hafter : next.shared.table.names sharedName = none)
    (hown : system.shared.generations 0 = some ⟨sharedName, 0⟩) :
    ¬ RemovesOwnGeneration kind := by
  intro hremoves
  have hgone : next.shared.table.names sharedName ≠ some 1 := by
    rw [hafter]
    exact nofun
  have hmade : MadeBy history 0 ⟨sharedName, 1⟩ :=
    hremoves hrun hremove hcloses sharedName 1 hbefore hgone
  cases hown.symm.trans ((generation_iff_madeBy hrun).mpr hmade)

theorem recreated_names_removed :
    ¬ RemovesOwnGeneration sharedMemoryRegions ∧
      ¬ RemovesOwnGeneration posixMessageQueues := by
  constructor
  · obtain ⟨history, system, next, hrun, hremove, hcloses, hbefore, hafter, hown⟩ :=
      recreated_region_run
    exact not_removesOwnGeneration hrun hremove hcloses hbefore hafter hown
  · obtain ⟨history, system, next, hrun, hremove, hcloses, hbefore, hafter, hown⟩ :=
      recreated_queue_run
    exact not_removesOwnGeneration hrun hremove hcloses hbefore hafter hown

end ElapPlatform.Ipc
