import ElapPlatform.NamedObjectMoves
import ElapPlatform.NamedObjectOwnership

/-!
# Descriptors and mappings are linear

Objects of one class are constructed, moved, called and destroyed in any order.  What
is open is what the live objects hold, each resource with one holder.
-/

namespace ElapPlatform.Ipc

open Interaction Transition

inductive ObjectAction (Call : Type) where
  | constructs
  | moveConstructs (source : ℕ)
  | moveAssigns (source : ℕ)
  | calls (call : Call)
  | destroys

/-- `none` where no object lives. -/
structure MovableSystem (kind : MovableObjectKind) where
  ledger : ResourceLedger
  objects : ℕ → Option kind.Object

def ResourceLedger.empty : ResourceLedger := ⟨fun _ => none, fun _ => none, 0, 0, []⟩

def initialMovableSystem (kind : MovableObjectKind) : MovableSystem kind :=
  ⟨.empty, fun _ => none⟩

section Steps

variable {kind : MovableObjectKind}

inductive MovableStep (kind : MovableObjectKind) :
    MovableSystem kind → ℕ × ObjectAction kind.Call → MovableSystem kind → Prop
  | constructs {ledger : ResourceLedger} {objects : ℕ → Option kind.Object} {index : ℕ}
      (hfree : objects index = none) :
      MovableStep kind ⟨ledger, objects⟩ (index, .constructs)
        ⟨ledger, Function.update objects index (some kind.closed)⟩
  | moveConstructs {ledger : ResourceLedger} {objects : ℕ → Option kind.Object}
      {index source : ℕ} {other : kind.Object} (hfree : objects index = none)
      (hsource : objects source = some other) :
      MovableStep kind ⟨ledger, objects⟩ (index, .moveConstructs source)
        ⟨ledger, Function.update
          (Function.update objects source (some (kind.moveConstruct other).2))
          index (some (kind.moveConstruct other).1)⟩
  | moveAssigns {ledger next : ResourceLedger} {objects : ℕ → Option kind.Object}
      {index source : ℕ} {object other : kind.Object} {after : kind.Object × kind.Object}
      (hne : source ≠ index) (hobject : objects index = some object)
      (hsource : objects source = some other)
      (hrun : Runs kind.Settles (kind.moveAssign object other) ledger after next) :
      MovableStep kind ⟨ledger, objects⟩ (index, .moveAssigns source)
        ⟨next, Function.update (Function.update objects source (some after.2))
          index (some after.1)⟩
  | selfAssigns {system : MovableSystem kind} {index : ℕ} {object : kind.Object}
      (hobject : system.objects index = some object) :
      MovableStep kind system (index, .moveAssigns index) system
  | calls {ledger next : ResourceLedger} {objects : ℕ → Option kind.Object} {index : ℕ}
      {object after : kind.Object} {call : kind.Call} (hobject : objects index = some object)
      (hrun : Runs kind.Settles (kind.perform call object) ledger after next) :
      MovableStep kind ⟨ledger, objects⟩ (index, .calls call)
        ⟨next, Function.update objects index (some after)⟩
  | destroys {ledger next : ResourceLedger} {objects : ℕ → Option kind.Object} {index : ℕ}
      {object after : kind.Object} (hobject : objects index = some object)
      (hrun : Runs kind.Settles (kind.close object) ledger after next) :
      MovableStep kind ⟨ledger, objects⟩ (index, .destroys)
        ⟨next, Function.update objects index none⟩

abbrev MovableHistory (kind : MovableObjectKind) :=
  History (MovableSystem kind) (ℕ × ObjectAction kind.Call)

/-! ## One holder for each resource -/

def liveHolding (kind : MovableObjectKind) (object : Option kind.Object) : Holding :=
  object.elim .empty kind.holding

def MovableSystem.holdings (system : MovableSystem kind) (index : ℕ) : Holding :=
  liveHolding kind (system.objects index)

section Holdings

variable {ledger next : ResourceLedger} {objects : ℕ → Option kind.Object} {index source : ℕ}

theorem holdings_update (object : Option kind.Object) :
    (⟨ledger, Function.update objects index object⟩ : MovableSystem kind).holdings =
      Function.update (⟨ledger, objects⟩ : MovableSystem kind).holdings index
        (liveHolding kind object) :=
  Function.comp_update (liveHolding kind) objects index object

theorem holdings_of_live {object : kind.Object} (hobject : objects index = some object) :
    (⟨ledger, objects⟩ : MovableSystem kind).holdings index = kind.holding object :=
  congrArg (liveHolding kind) hobject

theorem holdings_of_none (hfree : objects index = none) :
    (⟨ledger, objects⟩ : MovableSystem kind).holdings index = .empty :=
  congrArg (liveHolding kind) hfree

theorem holdings_moved {other : kind.Object} (hsource : objects source = some other) :
    (⟨next, Function.update (Function.update objects source (some kind.closed))
        index (some other)⟩ : MovableSystem kind).holdings =
      Function.update (Function.update (⟨ledger, objects⟩ : MovableSystem kind).holdings
        source .empty) index ((⟨ledger, objects⟩ : MovableSystem kind).holdings source) := by
  have hempty : liveHolding kind (some kind.closed) = .empty := kind.holding_closed
  rw [holdings_update, holdings_update, hempty, holdings_of_live hsource]
  rfl

end Holdings

theorem MovableStep.ledgerInvariant {system next : MovableSystem kind}
    {label : ℕ × ObjectAction kind.Call} (hstep : MovableStep kind system label next)
    (hinvariant : LedgerInvariant system.ledger system.holdings) :
    LedgerInvariant next.ledger next.holdings := by
  cases hstep with
  | @constructs ledger objects index hfree =>
      have hidle : (⟨ledger, objects⟩ : MovableSystem kind).holdings index = .empty :=
        holdings_of_none hfree
      have hempty : liveHolding kind (some kind.closed) = .empty := kind.holding_closed
      rw [holdings_update, hempty, ← hidle, Function.update_eq_self]
      exact hinvariant
  | @moveConstructs ledger objects index source other hfree hsource =>
      rw [kind.moveConstruct_eq, holdings_moved hsource]
      exact hinvariant.transfer (holdings_of_none hfree) source
  | @moveAssigns ledger last objects index source object other after hne hobject hsource hrun =>
      obtain ⟨rfl, rfl⟩ := kind.moveAssign_settles hrun
      rw [holdings_moved hsource]
      have hreleased := hinvariant.release index
      rw [holdings_of_live hobject] at hreleased
      have hmoved := hreleased.transfer (Function.update_self ..) source
      rwa [Function.update_of_ne hne, Function.update_comm hne, Function.update_idem,
        Function.update_comm hne.symm] at hmoved
  | selfAssigns => exact hinvariant
  | @calls ledger last objects index object after call hobject hrun =>
      rw [holdings_update]
      have hholding : (⟨ledger, objects⟩ : MovableSystem kind).holdings index =
          kind.holding object := holdings_of_live hobject
      have hcall := kind.perform_settles hrun
      rw [← hholding] at hcall
      generalize hreopens : kind.reopens call = reopens at hcall
      generalize hafter : kind.holding after = held at hcall
      have hlive : liveHolding kind (some after) = held := hafter
      rw [hlive]
      cases hcall with
      | reopens hacquires =>
          have hreleased := hinvariant.release index
          have hacquired := hreleased.acquire (Function.update_self ..) hacquires
          rwa [Function.update_idem] at hacquired
      | closes => exact hinvariant.release index
      | unlinks =>
          obtain ⟨unlinked, hunlinked⟩ := ledger.unlinkOwned_eq
            ((⟨ledger, objects⟩ : MovableSystem kind).holdings index).name true
          rw [hunlinked]
          exact hinvariant.disown index unlinked
  | @destroys ledger last objects index object after hobject hrun =>
      have hreleased := hinvariant.release index
      rw [holdings_of_live hobject] at hreleased
      rw [holdings_update, kind.close_settles hrun]
      exact hreleased

theorem run_ledgerInvariant {history : MovableHistory kind} {system : MovableSystem kind}
    (hrun : Run (MovableStep kind) (initialMovableSystem kind) history system) :
    LedgerInvariant system.ledger system.holdings := by
  refine hrun.invariant (fun _ system => LedgerInvariant system.ledger system.holdings) ?_
    fun _ hinvariant hstep => hstep.ledgerInvariant hinvariant
  exact initial_ledgerInvariant rfl rfl rfl

/-! ## Objects that were moved from -/

/-- A move from the object to another one. -/
def MovesFrom {Call : Type} (source : ℕ) : ℕ × ObjectAction Call → Prop
  | (_, .moveConstructs other) => other = source
  | (index, .moveAssigns other) => other = source ∧ index ≠ source
  | _ => False

namespace MovableObjectKind

/-- `create` or `open` -/
def Reopens (kind : MovableObjectKind) : ObjectAction kind.Call → Prop
  | .calls call => kind.reopens call = true
  | _ => False

def Renews (kind : MovableObjectKind) (source : ℕ) (label : ℕ × ObjectAction kind.Call) :
    Prop :=
  label.1 = source ∧ (kind.Reopens label.2 ∨ label.2 = .destroys)

/-- Another object may also be moved to it. -/
def Refills (kind : MovableObjectKind) (source : ℕ) (label : ℕ × ObjectAction kind.Call) :
    Prop :=
  kind.Renews source label ∨ ∃ other, other ≠ source ∧ label = (source, .moveAssigns other)

end MovableObjectKind

/-- The object was moved from, and nothing in `ends` happened since. -/
def MovedFrom (ends : ℕ × ObjectAction kind.Call → Prop) (source : ℕ)
    (history : MovableHistory kind) : Prop :=
  ∃ before entry after, history = before ++ entry :: after ∧ MovesFrom source entry.2 ∧
    ∀ later ∈ after, ¬ ends later.2

theorem MovedFrom.of_snoc {ends : ℕ × ObjectAction kind.Call → Prop} {source : ℕ}
    {history : MovableHistory kind}
    {last : MovableSystem kind × (ℕ × ObjectAction kind.Call)}
    (hmoved : MovedFrom ends source (history ++ [last])) :
    MovesFrom source last.2 ∨ MovedFrom ends source history ∧ ¬ ends last.2 := by
  obtain ⟨before, entry, after, hsplit, hmoves, hkept⟩ := hmoved
  rcases List.eq_nil_or_concat after with rfl | ⟨rest, final, rfl⟩
  · obtain ⟨_, hlast⟩ := List.append_inj' hsplit rfl
    cases hlast
    exact .inl hmoves
  · rw [List.concat_eq_append, ← List.cons_append, ← List.append_assoc] at hsplit
    obtain ⟨hhistory, hlast⟩ := List.append_inj' hsplit rfl
    cases hlast
    exact .inr ⟨⟨before, entry, rest, hhistory, hmoves,
      fun later hlater => hkept later (by simp [hlater])⟩, hkept last (by simp)⟩

theorem MovedFrom.of_labels {ends : ℕ × ObjectAction kind.Call → Prop} {source : ℕ}
    {history : MovableHistory kind} {before after : List (ℕ × ObjectAction kind.Call)}
    {label : ℕ × ObjectAction kind.Call}
    (hlabels : history.map Prod.snd = before ++ label :: after)
    (hmoves : MovesFrom source label) (hkept : ∀ later ∈ after, ¬ ends later) :
    MovedFrom ends source history := by
  obtain ⟨first, second, hhistory, _, hsecond⟩ := List.map_eq_append_iff.mp hlabels
  obtain ⟨entry, rest, hentry, rfl, rfl⟩ := List.map_eq_cons_iff.mp hsecond
  exact ⟨first, entry, rest, hhistory.trans (congrArg _ hentry), hmoves,
    fun later hlater => hkept later.2 (List.mem_map_of_mem hlater)⟩

/-- A live object that holds nothing. -/
def MovableSystem.Empty (system : MovableSystem kind) (index : ℕ) : Prop :=
  ∃ object, system.objects index = some object ∧ kind.holding object = .empty

theorem ne_of_live {Object : Type} {objects : ℕ → Option Object} {index source : ℕ}
    {object : Object} (hfree : objects index = none) (hlive : objects source = some object) :
    source ≠ index := by
  rintro rfl
  rw [hfree] at hlive
  cases hlive

theorem MovableStep.moved_empty {system next : MovableSystem kind}
    {label : ℕ × ObjectAction kind.Call} {source : ℕ}
    (hstep : MovableStep kind system label next) (hmoves : MovesFrom source label) :
    next.Empty source := by
  cases hstep with
  | constructs => cases hmoves
  | @moveConstructs ledger objects index other object hfree hsource =>
      cases hmoves
      have hne := ne_of_live hfree hsource
      refine ⟨kind.closed, ?_, kind.holding_closed⟩
      dsimp only
      rw [Function.update_of_ne hne, Function.update_self, kind.moveConstruct_eq]
  | @moveAssigns ledger last objects index other object moved after hne hobject hsource hrun =>
      obtain ⟨rfl, _⟩ := hmoves
      obtain ⟨rfl, _⟩ := kind.moveAssign_settles hrun
      refine ⟨kind.closed, ?_, kind.holding_closed⟩
      dsimp only
      rw [Function.update_of_ne hne, Function.update_self]
  | selfAssigns hobject => exact absurd hmoves.1 hmoves.2
  | calls => cases hmoves
  | destroys => cases hmoves

/-- Only `create` and `open` change what an empty object holds. -/
theorem HoldingCall.of_empty {ledger next : ResourceLedger} {after : Holding}
    (hcall : HoldingCall ledger .empty false next after) : next = ledger ∧ after = .empty := by
  cases hcall with
  | closes => exact ⟨rfl, rfl⟩
  | unlinks => exact ⟨rfl, rfl⟩

theorem MovableStep.stays_empty {system next : MovableSystem kind}
    {label : ℕ × ObjectAction kind.Call} {source : ℕ}
    (hstep : MovableStep kind system label next) (hempty : system.Empty source)
    (hkept : ¬ kind.Refills source label) : next.Empty source := by
  by_cases hmoves : MovesFrom source label
  · exact hstep.moved_empty hmoves
  obtain ⟨object, hobject, hholding⟩ := hempty
  cases hstep with
  | @constructs ledger objects index hfree =>
      have hne := ne_of_live hfree hobject
      exact ⟨object, (Function.update_of_ne hne ..).trans hobject, hholding⟩
  | @moveConstructs ledger objects index other moved hfree hsource =>
      have hne := ne_of_live hfree hobject
      have hother : source ≠ other := fun hsame => hmoves hsame.symm
      refine ⟨object, ?_, hholding⟩
      dsimp only
      rw [Function.update_of_ne hne, Function.update_of_ne hother]
      exact hobject
  | @moveAssigns ledger last objects index other target moved after hne htarget hsource hrun =>
      have hindex : source ≠ index := by
        rintro rfl
        exact hkept (.inr ⟨other, hne, rfl⟩)
      have hother : source ≠ other := fun hsame => hmoves ⟨hsame.symm, hindex.symm⟩
      refine ⟨object, ?_, hholding⟩
      dsimp only
      rw [Function.update_of_ne hindex, Function.update_of_ne hother]
      exact hobject
  | selfAssigns => exact ⟨object, hobject, hholding⟩
  | @calls ledger last objects index target after call htarget hrun =>
      by_cases hindex : source = index
      · subst hindex
        cases hobject.symm.trans htarget
        have hcall := kind.perform_settles hrun
        have hcloses : kind.reopens call = false := by
          cases hreopens : kind.reopens call with
          | true => exact absurd (.inl ⟨rfl, .inl hreopens⟩) hkept
          | false => rfl
        rw [hholding, hcloses] at hcall
        exact ⟨after, Function.update_self .., hcall.of_empty.2⟩
      · exact ⟨object, (Function.update_of_ne hindex ..).trans hobject, hholding⟩
  | @destroys ledger last objects index target after htarget hrun =>
      have hindex : source ≠ index := by
        rintro rfl
        exact hkept (.inl ⟨rfl, .inr rfl⟩)
      exact ⟨object, (Function.update_of_ne hindex ..).trans hobject, hholding⟩

theorem run_moved_empty {history : MovableHistory kind} {system : MovableSystem kind}
    (hrun : Run (MovableStep kind) (initialMovableSystem kind) history system) {source : ℕ}
    (hmoved : MovedFrom (kind.Refills source) source history) : system.Empty source := by
  revert hmoved
  refine hrun.invariant
    (fun history system => MovedFrom (kind.Refills source) source history →
      system.Empty source) ?_ ?_
  · rintro ⟨before, entry, after, hsplit, _⟩
    cases before <;> cases hsplit
  · intro history system label next _ hinvariant hstep hmoved
    rcases hmoved.of_snoc with hmoves | ⟨hearlier, hkept⟩
    · exact hstep.moved_empty hmoves
    · exact hstep.stays_empty (hinvariant hearlier) hkept

/-! ## Linear resources -/

/-- Without misuses, no descriptor was closed twice, and no mapping was unmapped twice
or with another length. -/
structure MovableSystem.Linear (system : MovableSystem kind) : Prop where
  descriptors : ∀ {index other fd}, (system.holdings index).descriptor = some fd →
    (system.holdings other).descriptor = some fd → other = index
  mappings : ∀ {index other address length length'},
    (system.holdings index).mapping = some (address, length) →
      (system.holdings other).mapping = some (address, length') → other = index
  owners : ∀ {index other object}, (system.holdings index).owner = true →
    (system.holdings other).owner = true →
      (system.holdings index).behind system.ledger = some object →
        (system.holdings other).behind system.ledger = some object → other = index
  owned : ∀ {index}, (system.holdings index).owner = true →
    ((system.holdings index).behind system.ledger).isSome
  misuses : system.ledger.misuses = 0
  returned : (∀ index, system.objects index = none) →
    system.ledger.descriptors = (fun _ => none) ∧ system.ledger.mappings = fun _ => none

/-- Until `create` or `open` is called on it, the object asks for no system call. -/
structure MovableSystem.Inert (system : MovableSystem kind) (index : ℕ) : Prop where
  closed : ∃ object, system.objects index = some object ∧ kind.isOpen object = false
  quiet : ∀ {action next}, MovableStep kind system (index, action) next →
    ¬ kind.Reopens action → next.ledger = system.ledger

theorem LedgerInvariant.linear {system : MovableSystem kind}
    (hinvariant : LedgerInvariant system.ledger system.holdings) : system.Linear where
  descriptors := hinvariant.descriptors.unique
  mappings := by
    intro index other address length length' hindex hother
    have hmapped : system.ledger.mappings address = some length := hinvariant.mappings.mem hindex
    have hmapped' : system.ledger.mappings address = some length' :=
      hinvariant.mappings.mem hother
    cases hmapped.symm.trans hmapped'
    exact hinvariant.mappings.unique hindex hother
  owners := hinvariant.distinct
  owned howner := by
    obtain ⟨object, hobject, _⟩ := hinvariant.owned howner
    rw [hobject]
    rfl
  misuses := hinvariant.misuses
  returned hdestroyed := by
    have hidle : ∀ index, system.holdings index = .empty := fun index =>
      congrArg (liveHolding kind) (hdestroyed index)
    have hclosed := hinvariant.descriptors.eq_empty fun index => by rw [hidle index]; rfl
    have hunmapped := hinvariant.mappings.eq_empty fun index => by rw [hidle index]; rfl
    constructor
    · funext fd
      have hfd : fd ∉ system.ledger.openDescriptors := by simp [hclosed]
      exact Option.not_isSome_iff_eq_none.mp hfd
    · funext address
      cases hmapping : system.ledger.mappings address with
      | none => rfl
      | some length =>
          have hmem : (address, length) ∈ system.ledger.openMappings := hmapping
          rw [hunmapped] at hmem
          exact hmem.elim

theorem MovableStep.quiet {system next : MovableSystem kind} {index : ℕ}
    {action : ObjectAction kind.Call} (hstep : MovableStep kind system (index, action) next)
    (hempty : system.Empty index) (hreopens : ¬ kind.Reopens action) :
    next.ledger = system.ledger := by
  obtain ⟨object, hobject, hholding⟩ := hempty
  cases hstep with
  | constructs => rfl
  | moveConstructs => rfl
  | moveAssigns hne htarget hsource hrun =>
      cases hobject.symm.trans htarget
      obtain ⟨_, rfl⟩ := kind.moveAssign_settles hrun
      rw [hholding]
      rfl
  | selfAssigns => rfl
  | @calls _ _ _ _ _ _ call htarget hrun =>
      cases hobject.symm.trans htarget
      have hcall := kind.perform_settles hrun
      have hcloses : kind.reopens call = false := Bool.eq_false_iff.mpr hreopens
      rw [hholding, hcloses] at hcall
      exact hcall.of_empty.1
  | destroys htarget hrun =>
      cases hobject.symm.trans htarget
      rw [kind.close_settles hrun, hholding]
      rfl

theorem MovableSystem.Empty.inert {system : MovableSystem kind} {index : ℕ}
    (hempty : system.Empty index) : system.Inert index where
  closed := by
    obtain ⟨object, hobject, hholding⟩ := hempty
    exact ⟨object, hobject, kind.isOpen_of_empty hholding⟩
  quiet hstep hreopens := hstep.quiet hempty hreopens

end Steps

def NamedIpcClass.movable : NamedIpcClass → MovableObjectKind
  | .sharedMemoryRegion => movableRegions
  | .posixMessageQueue => movableQueues

/-- In every run the resources are linear.  An object that was moved from is inert
until it is created or opened again, or another object is moved to it. -/
theorem named_objects_are_linear (ipcClass : NamedIpcClass)
    {history : MovableHistory ipcClass.movable} {system : MovableSystem ipcClass.movable}
    (hrun : Run (MovableStep ipcClass.movable) (initialMovableSystem ipcClass.movable)
      history system) :
    system.Linear ∧ ∀ {source}, MovedFrom (ipcClass.movable.Refills source) source history →
      system.Inert source :=
  ⟨(run_ledgerInvariant hrun).linear, fun hmoved => (run_moved_empty hrun hmoved).inert⟩

/-- `"/b"` -/
def otherName : Bytes := [47, 98]

/-- A region is created and moved away, and a second region is moved to its place. -/
theorem assigned_region_run :
    ∃ history system, Run (MovableStep movableRegions) (initialMovableSystem movableRegions)
        history system ∧
      history.map Prod.snd = [(0, .constructs), (0, .calls (.create sharedName 64)),
        (1, .moveConstructs 0), (2, .constructs), (2, .calls (.create otherName 64)),
        (0, .moveAssigns 2)] ∧
      system.objects 0 = some ⟨some 1, otherName, some 8192, 64, true⟩ ∧
      system.objects 2 = some .closed := by
  have hstart : Run (MovableStep movableRegions) (initialMovableSystem movableRegions) [] _ :=
    .start
  have hfirst := hstart.andThen (0, .constructs) (.constructs rfl)
  have hcreate := hfirst.andThen (0, .calls (.create sharedName 64))
    (.calls rfl (.answered (.ok 0) ⟨rfl, rfl⟩
      (.answered (.ok ()) rfl (.answered (.ok 4096) ⟨rfl, rfl⟩ (.done _ _)))))
  have hmove := hcreate.andThen (1, .moveConstructs 0) (.moveConstructs rfl rfl)
  have hsecond := hmove.andThen (2, .constructs) (.constructs rfl)
  have hother := hsecond.andThen (2, .calls (.create otherName 64))
    (.calls rfl (.answered (.ok 1) ⟨rfl, rfl⟩
      (.answered (.ok ()) rfl (.answered (.ok 8192) ⟨rfl, rfl⟩ (.done _ _)))))
  have hassign := hother.andThen (0, .moveAssigns 2)
    (.moveAssigns (by decide) rfl rfl (.done _ _))
  exact ⟨_, _, hassign, rfl, rfl, rfl⟩

theorem assigned_region_is_linear :
    ∃ history system, Run (MovableStep movableRegions) (initialMovableSystem movableRegions)
        history system ∧
      system.objects 0 = some ⟨some 1, otherName, some 8192, 64, true⟩ ∧
      system.Linear ∧ system.Inert 2 := by
  obtain ⟨history, system, hrun, hlabels, hassigned, _⟩ := assigned_region_run
  obtain ⟨hlinear, hinert⟩ := named_objects_are_linear .sharedMemoryRegion hrun
  have hsplit : history.map Prod.snd = [_, _, _, _, _] ++ (0, .moveAssigns 2) :: [] := hlabels
  exact ⟨history, system, hrun, hassigned, hlinear,
    hinert (.of_labels hsplit ⟨rfl, by decide⟩ nofun)⟩

/-- An object that was moved from may be mapped again without `create` or `open`. -/
theorem moved_region_mapped_again :
    ¬ ∀ {history : MovableHistory movableRegions} {system : MovableSystem movableRegions}
        {source : ℕ},
      Run (MovableStep movableRegions) (initialMovableSystem movableRegions) history system →
        MovedFrom (movableRegions.Renews source) source history → system.Inert source := by
  intro hinert
  obtain ⟨history, system, hrun, hlabels, hassigned, _⟩ := assigned_region_run
  have hmoved : MovedFrom (movableRegions.Renews 0) 0 history := by
    have hsplit : history.map Prod.snd = [_, _] ++ (1, .moveConstructs 0) :: [_, _, _] := hlabels
    refine .of_labels hsplit rfl ?_
    intro later hlater hrenews
    simp only [List.mem_cons, List.not_mem_nil, or_false] at hlater
    rcases hlater with rfl | rfl | rfl
    · cases hrenews.1
    · cases hrenews.1
    · rcases hrenews.2 with hreopens | hdestroys
      · exact hreopens
      · cases hdestroys
  obtain ⟨object, hobject, hclosed⟩ := (hinert hrun hmoved).closed
  cases hobject.symm.trans hassigned
  cases hclosed

end ElapPlatform.Ipc
