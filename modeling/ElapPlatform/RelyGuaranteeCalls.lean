import ElapPlatform.InteractionProgram
import ElapPlatform.PartialMapUpdate
import ElapPlatform.TransitionRun

/-!
# Concurrent calls of many objects

Every object makes one call at a time, and the questions of different calls
interleave over one shared state.  A protocol says what a caller may rely on
while others take their turns; a call that is safe under the protocol may be
run beside any other safe calls.
-/

namespace RelyGuarantee

open Interaction Interaction.Program Transition

variable {Question : Type} {Reply : Question → Type} {State α β : Type}

/-- `rely` holds for one caller of every answer that another caller gets. -/
structure Protocol (State Question : Type) (Reply : Question → Type) where
  answers : ℕ → State → (question : Question) → Reply question → State → Prop
  invariant : State → Prop
  rely : ℕ → State → State → Prop

namespace Protocol

variable (protocol : Protocol State Question Reply) (index : ℕ)

structure Guarantees (state next : State) : Prop where
  invariant : protocol.invariant next
  others : ∀ other, other ≠ index → protocol.rely other state next

/-- What other callers can make of the state between two turns of this one. -/
def Later : State → State → Prop :=
  Relation.ReflTransGen fun state next => protocol.invariant state ∧
    protocol.rely index state next

def Stable (assertion : State → Prop) : Prop :=
  ∀ ⦃state next⦄, protocol.invariant state → assertion state →
    protocol.rely index state next → assertion next

/-- Whenever the program takes its turns, it keeps its promise to the others, and
the last assertion holds once it is done. -/
def Safe (post : α → State → Prop) : Program Question Reply α → State → Prop
  | .done value, state => ∀ later, protocol.Later index state later → post value later
  | .ask question next, state => ∀ later, protocol.Later index state later →
      protocol.invariant later → ∀ reply after,
        protocol.answers index later question reply after →
          protocol.Guarantees index later after ∧ Safe post (next reply) after

variable {protocol index} {post : α → State → Prop} {assertion : State → Prop} {state next : State}

theorem Stable.later (hstable : protocol.Stable index assertion) (hstate : assertion state)
    (hlater : protocol.Later index state next) : assertion next := by
  induction hlater with
  | refl => exact hstate
  | tail _ hstep ih => exact hstable hstep.1 ih hstep.2

theorem Stable.and {other : State → Prop} (hfirst : protocol.Stable index assertion)
    (hsecond : protocol.Stable index other) :
    protocol.Stable index fun state => assertion state ∧ other state := by
  rintro state next hinvariant ⟨hstate, hother⟩ hrely
  exact ⟨hfirst hinvariant hstate hrely, hsecond hinvariant hother hrely⟩

theorem Stable.const (fact : Prop) : protocol.Stable index fun _ => fact := by
  intro state next _ hfact _
  exact hfact

theorem safe_done {value : α} (hstable : protocol.Stable index assertion)
    (hstate : assertion state) (hpost : ∀ later, assertion later → post value later) :
    protocol.Safe index post (.done value) state := by
  intro later hlater
  exact hpost later (hstable.later hstate hlater)

theorem safe_ask {question : Question} {next : Reply question → Program Question Reply α}
    (hstable : protocol.Stable index assertion) (hstate : assertion state)
    (hstep : ∀ later, protocol.invariant later → assertion later → ∀ reply after,
      protocol.answers index later question reply after →
        protocol.Guarantees index later after ∧ protocol.Safe index post (next reply) after) :
    protocol.Safe index post (.ask question next) state := by
  intro later hlater hinvariant reply after hanswer
  exact hstep later hinvariant (hstable.later hstate hlater) reply after hanswer

theorem safe_perform {question : Question} {post : Reply question → State → Prop}
    (hstable : protocol.Stable index assertion) (hstate : assertion state)
    (hpost : ∀ reply, protocol.Stable index (post reply))
    (hstep : ∀ later, protocol.invariant later → assertion later → ∀ reply after,
      protocol.answers index later question reply after →
        protocol.Guarantees index later after ∧ post reply after) :
    protocol.Safe index post (.ask question .done) state := by
  refine safe_ask hstable hstate fun later hinvariant hlater reply after hanswer => ?_
  obtain ⟨hguarantees, hafter⟩ := hstep later hinvariant hlater reply after hanswer
  exact ⟨hguarantees, safe_done (hpost reply) hafter fun _ => id⟩

/-- A program stays safe while others take their turns. -/
theorem Safe.later {program : Program Question Reply α}
    (hsafe : protocol.Safe index post program state)
    (hinvariant : protocol.invariant state) (hrely : protocol.rely index state next) :
    protocol.Safe index post program next := by
  have hstart : protocol.Later index state next := .single ⟨hinvariant, hrely⟩
  cases program with
  | done value => exact fun later hlater => hsafe later (hstart.trans hlater)
  | ask question rest => exact fun later hlater => hsafe later (hstart.trans hlater)

theorem Safe.weaken {program : Program Question Reply α} {post' : α → State → Prop}
    (hsafe : protocol.Safe index post program state)
    (hpost : ∀ value later, post value later → post' value later) :
    protocol.Safe index post' program state := by
  induction program generalizing state with
  | done value => exact fun later hlater => hpost value later (hsafe later hlater)
  | ask question rest ih =>
      intro later hlater hinvariant reply after hanswer
      obtain ⟨hguarantee, hrest⟩ := hsafe later hlater hinvariant reply after hanswer
      exact ⟨hguarantee, ih reply hrest⟩

theorem Safe.bind {program : Program Question Reply α} {rest : α → Program Question Reply β}
    {post' : β → State → Prop} (hsafe : protocol.Safe index post program state)
    (hrest : ∀ value later, post value later → protocol.Safe index post' (rest value) later) :
    protocol.Safe index post' (program >>= rest) state := by
  induction program generalizing state with
  | done value => exact hrest value state (hsafe state .refl)
  | ask question next ih =>
      intro later hlater hinvariant reply after hanswer
      obtain ⟨hguarantee, hnext⟩ := hsafe later hlater hinvariant reply after hanswer
      exact ⟨hguarantee, ih reply hnext⟩

end Protocol

/-! ## Objects and their calls -/

structure CallClass (Question : Type) (Reply : Question → Type) where
  Object : Type
  Call : Type
  Value : Type
  perform : Call → Object → Program Question Reply (Value × Object)

/-- A call in progress, the state in which it began, and what is left of it. -/
structure Activity (State : Type) (calls : CallClass Question Reply) where
  call : calls.Call
  begun : State
  program : Program Question Reply (calls.Value × calls.Object)

structure CallSystem (State : Type) (calls : CallClass Question Reply) where
  shared : State
  objects : ℕ → calls.Object
  active : ℕ → Option (Activity State calls)

inductive CallLabel (calls : CallClass Question Reply) where
  | begins (index : ℕ) (call : calls.Call)
  | asks (index : ℕ) (question : Question) (reply : Reply question)
  | returns (index : ℕ) (call : calls.Call) (value : calls.Value)

/-- The caller whose turn the label is. -/
def CallLabel.caller {calls : CallClass Question Reply} : CallLabel calls → ℕ
  | .begins index _ => index
  | .asks index _ _ => index
  | .returns index _ _ => index

/-- What a call of this object that returns adds to its ledger. -/
def CallLabel.recorded {calls : CallClass Question Reply} {Entry : Type}
    (entries : calls.Call → calls.Value → List Entry) (index : ℕ) : CallLabel calls → List Entry
  | .returns caller call value => if caller = index then entries call value else []
  | .begins _ _ => []
  | .asks _ _ _ => []

section Steps

variable (answers : ℕ → State → (question : Question) → Reply question → State → Prop)
  (calls : CallClass Question Reply)

inductive CallStep : CallSystem State calls → CallLabel calls → CallSystem State calls → Prop
  | begins {system : CallSystem State calls} {index : ℕ} {call : calls.Call}
      (hidle : system.active index = none) :
      CallStep system (.begins index call)
        ⟨system.shared, system.objects, Function.update system.active index
          (some ⟨call, system.shared, calls.perform call (system.objects index)⟩)⟩
  | asks {system : CallSystem State calls} {index : ℕ} {call : calls.Call} {begun next : State}
      {question : Question}
      {rest : Reply question → Program Question Reply (calls.Value × calls.Object)}
      {reply : Reply question}
      (hactive : system.active index = some ⟨call, begun, .ask question rest⟩)
      (hanswer : answers index system.shared question reply next) :
      CallStep system (.asks index question reply)
        ⟨next, system.objects,
          Function.update system.active index (some ⟨call, begun, rest reply⟩)⟩
  | returns {system : CallSystem State calls} {index : ℕ} {call : calls.Call} {begun : State}
      {value : calls.Value} {object : calls.Object}
      (hactive : system.active index = some ⟨call, begun, .done (value, object)⟩) :
      CallStep system (.returns index call value)
        ⟨system.shared, Function.update system.objects index object,
          Function.update system.active index none⟩

end Steps

/-- A protocol under which every call of the class is safe. -/
structure Contract (State : Type) (calls : CallClass Question Reply)
    extends Protocol State Question Reply where
  idle : ℕ → calls.Object → State → Prop
  ensures : ℕ → calls.Call → State → calls.Value × calls.Object → State → Prop
  idle_stable : ∀ {index object}, toProtocol.Stable index (idle index object)
  safe : ∀ {index call object state}, invariant state → idle index object state →
    toProtocol.Safe index
      (fun result later => idle index result.2 later ∧ ensures index call state result later)
      (calls.perform call object) state

namespace Contract

variable {calls : CallClass Question Reply} (contract : Contract State calls)

structure Kept (system : CallSystem State calls) : Prop where
  invariant : contract.invariant system.shared
  idle : ∀ {index}, system.active index = none →
    contract.idle index (system.objects index) system.shared
  safe : ∀ {index activity}, system.active index = some activity →
    contract.toProtocol.Safe index
      (fun result later => contract.idle index result.2 later ∧
        contract.ensures index activity.call activity.begun result later)
      activity.program system.shared

variable {contract}

theorem Kept.begins {system : CallSystem State calls} {index : ℕ} {call : calls.Call}
    (hkept : contract.Kept system) (hidle : system.active index = none) :
    contract.Kept ⟨system.shared, system.objects, Function.update system.active index
      (some ⟨call, system.shared, calls.perform call (system.objects index)⟩)⟩ := by
  constructor
  · exact hkept.invariant
  · intro other hother
    dsimp only at hother ⊢
    rcases PartialMap.of_update_eq hother with ⟨_, hnew⟩ | ⟨_, hold⟩
    · cases hnew
    · exact hkept.idle hold
  · intro other activity hother
    dsimp only at hother ⊢
    rcases PartialMap.of_update_eq hother with ⟨rfl, hnew⟩ | ⟨_, hold⟩
    · cases hnew
      exact contract.safe hkept.invariant (hkept.idle hidle)
    · exact hkept.safe hold

theorem Kept.asks {system : CallSystem State calls} {index : ℕ} {call : calls.Call}
    {begun next : State} {question : Question}
    {rest : Reply question → Program Question Reply (calls.Value × calls.Object)}
    {reply : Reply question} (hkept : contract.Kept system)
    (hactive : system.active index = some ⟨call, begun, .ask question rest⟩)
    (hanswer : contract.answers index system.shared question reply next) :
    contract.Kept ⟨next, system.objects,
      Function.update system.active index (some ⟨call, begun, rest reply⟩)⟩ := by
  obtain ⟨hguarantees, hrest⟩ :=
    hkept.safe hactive system.shared .refl hkept.invariant reply next hanswer
  constructor
  · exact hguarantees.invariant
  · intro other hother
    dsimp only at hother ⊢
    rcases PartialMap.of_update_eq hother with ⟨_, hnew⟩ | ⟨hne, hold⟩
    · cases hnew
    · exact contract.idle_stable hkept.invariant (hkept.idle hold) (hguarantees.others other hne)
  · intro other activity hother
    dsimp only at hother ⊢
    rcases PartialMap.of_update_eq hother with ⟨rfl, hnew⟩ | ⟨hne, hold⟩
    · cases hnew
      exact hrest
    · exact (hkept.safe hold).later hkept.invariant (hguarantees.others other hne)

/-- A call that returns has kept what its contract ensures. -/
theorem Kept.ensured {system : CallSystem State calls} {index : ℕ} {call : calls.Call}
    {begun : State} {value : calls.Value} {object : calls.Object} (hkept : contract.Kept system)
    (hactive : system.active index = some ⟨call, begun, .done (value, object)⟩) :
    contract.idle index object system.shared ∧
      contract.ensures index call begun (value, object) system.shared :=
  hkept.safe hactive system.shared .refl

theorem Kept.returns {system : CallSystem State calls} {index : ℕ} {call : calls.Call}
    {begun : State} {value : calls.Value} {object : calls.Object} (hkept : contract.Kept system)
    (hactive : system.active index = some ⟨call, begun, .done (value, object)⟩) :
    contract.Kept ⟨system.shared, Function.update system.objects index object,
      Function.update system.active index none⟩ := by
  constructor
  · exact hkept.invariant
  · intro other hother
    dsimp only at hother ⊢
    by_cases hsame : other = index
    · subst hsame
      rw [Function.update_self]
      exact (hkept.ensured hactive).1
    · rw [Function.update_of_ne hsame] at hother ⊢
      exact hkept.idle hother
  · intro other activity hother
    dsimp only at hother ⊢
    rcases PartialMap.of_update_eq hother with ⟨_, hnew⟩ | ⟨_, hold⟩
    · cases hnew
    · exact hkept.safe hold

theorem Kept.step {system next : CallSystem State calls} {label : CallLabel calls}
    (hkept : contract.Kept system) (hstep : CallStep contract.answers calls system label next) :
    contract.Kept next := by
  cases hstep with
  | begins hidle => exact hkept.begins hidle
  | asks hactive hanswer => exact hkept.asks hactive hanswer
  | returns hactive => exact hkept.returns hactive

/-! ## What the calls of one object leave behind -/

theorem Kept.others {system next : CallSystem State calls} {label : CallLabel calls}
    (hkept : contract.Kept system) (hstep : CallStep contract.answers calls system label next)
    {other : ℕ} (hother : other ≠ label.caller) :
    next.active other = system.active other ∧
      (next.shared = system.shared ∨ contract.rely other system.shared next.shared) := by
  cases hstep with
  | begins hidle => exact ⟨Function.update_of_ne hother .., .inl rfl⟩
  | asks hactive hanswer =>
      obtain ⟨hguarantees, _⟩ :=
        hkept.safe hactive system.shared .refl hkept.invariant _ _ hanswer
      exact ⟨Function.update_of_ne hother .., .inr (hguarantees.others other hother)⟩
  | returns hactive => exact ⟨Function.update_of_ne hother .., .inl rfl⟩

/-- Only an object's own calls write to its ledger, and a call that returns has
written there what its answer says. -/
structure Records {Entry : Type} (contract : Contract State calls)
    (ledger : ℕ → State → List Entry) (entries : calls.Call → calls.Value → List Entry) :
    Prop where
  others : ∀ {index state next}, contract.rely index state next →
    ledger index next = ledger index state
  answered : ∀ {index call state result later}, contract.ensures index call state result later →
    ledger index later = ledger index state ++ entries call result.1

section Ledgers

variable {Entry : Type} {ledger : ℕ → State → List Entry}
  {entries : calls.Call → calls.Value → List Entry}

/-- What the calls that have returned so far added to the ledger of an object. -/
def recordedBy (entries : calls.Call → calls.Value → List Entry) (index : ℕ)
    (history : History (CallSystem State calls) (CallLabel calls)) : List Entry :=
  history.flatMap fun entry => entry.2.recorded entries index

/-- The ledger of an object between two calls, and at the beginning of its last one. -/
structure Recorded (contract : Contract State calls) (ledger : ℕ → State → List Entry)
    (entries : calls.Call → calls.Value → List Entry) (start : State)
    (history : History (CallSystem State calls) (CallLabel calls))
    (system : CallSystem State calls) : Prop where
  kept : contract.Kept system
  idle : ∀ {index}, system.active index = none →
    ledger index system.shared = ledger index start ++ recordedBy entries index history
  begun : ∀ {index activity}, system.active index = some activity →
    ledger index activity.begun = ledger index start ++ recordedBy entries index history

variable {start : State} {history : History (CallSystem State calls) (CallLabel calls)}
  {system next : CallSystem State calls} {label : CallLabel calls}

theorem recordedBy_snoc (index : ℕ) : recordedBy entries index (history ++ [(system, label)]) =
    recordedBy entries index history ++ label.recorded entries index := by
  unfold recordedBy
  rw [List.flatMap_append, List.flatMap_singleton]

theorem recorded_of_ne {index : ℕ} (hother : index ≠ label.caller) :
    label.recorded entries index = [] := by
  cases label with
  | begins => rfl
  | asks => rfl
  | returns caller call value => exact if_neg hother.symm

/-- The object whose turn it was. -/
theorem Recorded.own (hrecords : contract.Records ledger entries)
    (hrecorded : contract.Recorded ledger entries start history system)
    (hstep : CallStep contract.answers calls system label next) :
    (next.active label.caller = none → ledger label.caller next.shared =
        ledger label.caller start ++
          recordedBy entries label.caller (history ++ [(system, label)])) ∧
      ∀ activity, next.active label.caller = some activity →
        ledger label.caller activity.begun = ledger label.caller start ++
          recordedBy entries label.caller (history ++ [(system, label)]) := by
  rw [recordedBy_snoc, ← List.append_assoc]
  cases hstep with
  | @begins index call hidle =>
      have hself : Function.update system.active index
          (some ⟨call, system.shared, calls.perform call (system.objects index)⟩) index =
            some _ := Function.update_self ..
      constructor
      · intro hnone
        cases hself.symm.trans hnone
      · intro activity hactivity
        cases hself.symm.trans hactivity
        exact (hrecorded.idle hidle).trans (List.append_nil _).symm
  | @asks index call begun _ _ rest reply hactive _ =>
      have hself : Function.update system.active index (some ⟨call, begun, rest reply⟩) index =
          some _ := Function.update_self ..
      constructor
      · intro hnone
        cases hself.symm.trans hnone
      · intro activity hactivity
        cases hself.symm.trans hactivity
        exact (hrecorded.begun hactive).trans (List.append_nil _).symm
  | @returns index call begun value object hactive =>
      have hself : Function.update system.active index none index = none :=
        Function.update_self ..
      constructor
      · intro _
        have hlabel : (CallLabel.returns index call value).recorded entries index =
            entries call value := if_pos rfl
        change ledger index system.shared = ledger index start ++
          recordedBy entries index history ++ (CallLabel.returns index call value).recorded _ index
        rw [hlabel, ← hrecorded.begun hactive]
        exact hrecords.answered (hrecorded.kept.ensured hactive).2
      · intro activity hactivity
        cases hself.symm.trans hactivity

theorem Recorded.step (hrecords : contract.Records ledger entries)
    (hrecorded : contract.Recorded ledger entries start history system)
    (hstep : CallStep contract.answers calls system label next) :
    contract.Recorded ledger entries start (history ++ [(system, label)]) next := by
  have hothers : ∀ {index}, index ≠ label.caller →
      ledger index next.shared = ledger index system.shared ∧
        next.active index = system.active index := by
    intro index hother
    obtain ⟨hactive, hshared⟩ := hrecorded.kept.others hstep hother
    refine ⟨?_, hactive⟩
    rcases hshared with hsame | hrely
    · rw [hsame]
    · exact hrecords.others hrely
  refine ⟨hrecorded.kept.step hstep, ?_, ?_⟩
  · intro index hidle
    by_cases hother : index = label.caller
    · subst hother
      exact (hrecorded.own hrecords hstep).1 hidle
    · obtain ⟨hsame, hactive⟩ := hothers hother
      rw [hsame, recordedBy_snoc, recorded_of_ne hother, List.append_nil]
      exact hrecorded.idle (hactive ▸ hidle)
  · intro index activity hactivity
    by_cases hother : index = label.caller
    · subst hother
      exact (hrecorded.own hrecords hstep).2 activity hactivity
    · obtain ⟨_, hactive⟩ := hothers hother
      rw [recordedBy_snoc, recorded_of_ne hother, List.append_nil]
      exact hrecorded.begun (hactive ▸ hactivity)

/-- The ledger of an idle object is what its calls have answered, in their order. -/
theorem recorded_of_run (hrecords : contract.Records ledger entries)
    {first : CallSystem State calls} (hkept : contract.Kept first)
    (hidle : ∀ index, first.active index = none)
    (hrun : Run (CallStep contract.answers calls) first history system) :
    contract.Recorded ledger entries first.shared history system := by
  refine hrun.invariant (contract.Recorded ledger entries first.shared) ?_
    fun _ hrecorded hstep => hrecorded.step hrecords hstep
  refine ⟨hkept, fun _ => (List.append_nil _).symm, fun hactive => ?_⟩
  rw [hidle] at hactive
  cases hactive

end Ledgers

end Contract

end RelyGuarantee
