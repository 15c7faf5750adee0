import ElapPlatform.InteractionPostcondition
import ElapPlatform.RelyGuaranteeCalls

/-!
# The transcript of one call in a concurrent history

What a caller asks between the beginning and the end of its call is a transcript of
the call's program, whatever other callers do in between.  Calls whose transcripts all
take the same turns have taken exactly these when they return.
-/

namespace RelyGuarantee

open Interaction Transition

variable {Question : Type} {Reply : Question → Type} {State : Type}
  {calls : CallClass Question Reply}

/-- The questions of one caller with their replies. -/
def exchangesOf (index : ℕ) (history : History (CallSystem State calls) (CallLabel calls)) :
    List (Exchange Question Reply) :=
  history.filterMap fun entry =>
    match entry.2 with
    | .begins _ _ => none
    | .asks caller question reply => if caller = index then some ⟨question, reply⟩ else none
    | .returns _ _ _ => none

section Exchanges

variable {index : ℕ} {history : History (CallSystem State calls) (CallLabel calls)}
  {system : CallSystem State calls} {label : CallLabel calls}

theorem exchangesOf_concat_other (hother : label.caller ≠ index) :
    exchangesOf index (history ++ [(system, label)]) = exchangesOf index history := by
  cases label with
  | begins caller call => simp [exchangesOf]
  | asks caller question reply =>
      have hne : caller ≠ index := hother
      simp [exchangesOf, hne]
  | returns caller call value => simp [exchangesOf]

theorem exchangesOf_concat_asks {question : Question} {reply : Reply question} :
    exchangesOf index (history ++ [(system, .asks index question reply)]) =
      exchangesOf index history ++ [⟨question, reply⟩] := by
  simp [exchangesOf]

/-- The first exchange of a caller stands in the history. -/
theorem exists_asks_of_exchangesOf_cons {question : Question} {reply : Reply question}
    {rest : List (Exchange Question Reply)}
    (hexchanges : exchangesOf index history = ⟨question, reply⟩ :: rest) :
    ∃ before state after, history = before ++ (state, .asks index question reply) :: after := by
  obtain ⟨before, ⟨state, label⟩, after, rfl, _, hentry, _⟩ :=
    List.filterMap_eq_cons_iff.mp hexchanges
  cases label with
  | begins caller call => simp at hentry
  | returns caller call value => simp at hentry
  | asks caller question' reply' =>
      by_cases hsame : caller = index
      · subst hsame
        simp only [if_true, Option.some.injEq] at hentry
        cases hentry
        exact ⟨before, state, after, rfl⟩
      · simp [hsame] at hentry

end Exchanges

/-- Where a call stands that `index` has begun. -/
structure Progress (history : History (CallSystem State calls) (CallLabel calls)) (index : ℕ)
    (activity : Activity State calls)
    (before : History (CallSystem State calls) (CallLabel calls))
    (first : CallSystem State calls)
    (middle : History (CallSystem State calls) (CallLabel calls)) : Prop where
  split : history = before ++ (first, .begins index activity.call) :: middle
  onlyAsks : ∀ entry ∈ middle, entry.2.caller = index →
    ∃ question reply, entry.2 = .asks index question reply
  continues : ∀ exchanges result, Transcript activity.program exchanges result →
    Transcript (calls.perform activity.call (first.objects index))
      (exchangesOf index middle ++ exchanges) result

namespace Progress

variable {history before middle : History (CallSystem State calls) (CallLabel calls)}
  {index : ℕ} {activity : Activity State calls} {first system : CallSystem State calls}
  {label : CallLabel calls}

theorem begins {call : calls.Call} :
    Progress (history ++ [(system, .begins index call)]) index
      ⟨call, system.shared, calls.perform call (system.objects index)⟩ history system [] := by
  refine ⟨rfl, by simp, ?_⟩
  intro exchanges result htranscript
  exact htranscript

theorem other (hprogress : Progress history index activity before first middle)
    (hother : label.caller ≠ index) :
    Progress (history ++ [(system, label)]) index activity before first
      (middle ++ [(system, label)]) := by
  constructor
  · rw [hprogress.split, List.append_assoc, List.cons_append]
  · intro entry hmem hcaller
    rcases List.mem_append.mp hmem with hold | hnew
    · exact hprogress.onlyAsks entry hold hcaller
    · rw [List.mem_singleton.mp hnew] at hcaller
      exact absurd hcaller hother
  · rw [exchangesOf_concat_other hother]
    exact hprogress.continues

theorem asks {call : calls.Call} {begun : State} {question : Question}
    {rest : Reply question → Interaction.Program Question Reply (calls.Value × calls.Object)}
    {reply : Reply question}
    (hprogress : Progress history index ⟨call, begun, .ask question rest⟩ before first middle) :
    Progress (history ++ [(system, .asks index question reply)]) index
      ⟨call, begun, rest reply⟩ before first
      (middle ++ [(system, .asks index question reply)]) := by
  constructor
  · rw [hprogress.split, List.append_assoc, List.cons_append]
  · intro entry hmem hcaller
    rcases List.mem_append.mp hmem with hold | hnew
    · exact hprogress.onlyAsks entry hold hcaller
    · rw [List.mem_singleton.mp hnew]
      exact ⟨question, reply, rfl⟩
  · intro exchanges result htranscript
    rw [exchangesOf_concat_asks, List.append_assoc, List.singleton_append]
    exact hprogress.continues _ _ (.ask reply htranscript)

end Progress

section Runs

variable {answers : ℕ → State → (question : Question) → Reply question → State → Prop}
  {start system : CallSystem State calls}
  {history : History (CallSystem State calls) (CallLabel calls)}

theorem exists_progress (hidle : ∀ index, start.active index = none)
    (hrun : Run (CallStep answers calls) start history system) :
    ∀ {index activity}, system.active index = some activity →
      ∃ before first middle, Progress history index activity before first middle := by
  induction hrun with
  | start =>
      intro index activity hactive
      rw [hidle index] at hactive
      cases hactive
  | snoc hrun hstep ih =>
      intro index activity hactive
      cases hstep with
      | begins hfree =>
          rcases PartialMap.of_update_eq hactive with ⟨rfl, hnew⟩ | ⟨hne, hold⟩
          · cases hnew
            exact ⟨_, _, _, .begins⟩
          · obtain ⟨before, first, middle, hprogress⟩ := ih hold
            exact ⟨before, first, _, hprogress.other hne.symm⟩
      | asks hasking hanswer =>
          rcases PartialMap.of_update_eq hactive with ⟨rfl, hnew⟩ | ⟨hne, hold⟩
          · cases hnew
            obtain ⟨before, first, middle, hprogress⟩ := ih hasking
            exact ⟨before, first, _, hprogress.asks⟩
          · obtain ⟨before, first, middle, hprogress⟩ := ih hold
            exact ⟨before, first, _, hprogress.other hne.symm⟩
      | returns hreturning =>
          rcases PartialMap.of_update_eq hactive with ⟨_, hnew⟩ | ⟨hne, hold⟩
          · cases hnew
          · obtain ⟨before, first, middle, hprogress⟩ := ih hold
            exact ⟨before, first, _, hprogress.other hne.symm⟩

/-- A call that returns has run its program from its beginning. -/
theorem returned_transcript (hidle : ∀ index, start.active index = none)
    {before after : History (CallSystem State calls) (CallLabel calls)}
    {state : CallSystem State calls} {index : ℕ} {call : calls.Call} {value : calls.Value}
    (hrun : Run (CallStep answers calls) start
      (before ++ (state, .returns index call value) :: after) system) :
    ∃ earlier first middle object,
      before = earlier ++ (first, .begins index call) :: middle ∧
      (∀ entry ∈ middle, entry.2.caller = index →
        ∃ question reply, entry.2 = .asks index question reply) ∧
      Transcript (calls.perform call (first.objects index)) (exchangesOf index middle)
        (value, object) := by
  obtain ⟨next, hbefore, hstep⟩ := hrun.of_split
  cases hstep with
  | returns hactive =>
      obtain ⟨earlier, first, middle, hprogress⟩ := exists_progress hidle hbefore hactive
      have htranscript := hprogress.continues [] _ (.done _)
      rw [List.append_nil] at htranscript
      exact ⟨earlier, first, middle, _, hprogress.split, hprogress.onlyAsks, htranscript⟩

end Runs

/-! ## Turns -/

section Turns

variable {Turn : Type} (turnOf : Question → Option Turn) (turns : calls.Call → List Turn)

def turnsOf (exchanges : List (Exchange Question Reply)) : List Turn :=
  exchanges.filterMap fun exchange => turnOf exchange.1

/-- The turns that one caller has taken. -/
def takenBy (index : ℕ) (history : History (CallSystem State calls) (CallLabel calls)) :
    List Turn :=
  turnsOf turnOf (exchangesOf index history)

/-- The turns of the calls of one caller that have returned. -/
def returnedBy (index : ℕ) (history : History (CallSystem State calls) (CallLabel calls)) :
    List Turn :=
  Contract.recordedBy (fun call _ => turns call) index history

/-- Every call that has returned took its own turns and no others, and a call in progress
has taken some of its own. -/
structure TakesOwnTurns (history : History (CallSystem State calls) (CallLabel calls))
    (system : CallSystem State calls) : Prop where
  idle : ∀ {index}, system.active index = none →
    takenBy turnOf index history = returnedBy turns index history
  busy : ∀ {index activity}, system.active index = some activity →
    returnedBy turns index history <+: takenBy turnOf index history ∧
      takenBy turnOf index history <+: returnedBy turns index history ++ turns activity.call

/-- What is left of a call of this caller takes the rest of the call's turns. -/
structure TurnsLeft (history : History (CallSystem State calls) (CallLabel calls))
    (system : CallSystem State calls) (index : ℕ) : Prop where
  idle : system.active index = none →
    takenBy turnOf index history = returnedBy turns index history
  begun : ∀ {activity}, system.active index = some activity →
    returnedBy turns index history <+: takenBy turnOf index history
  left : ∀ {activity}, system.active index = some activity →
    ∀ exchanges result, Transcript activity.program exchanges result →
      takenBy turnOf index history ++ turnsOf turnOf exchanges =
        returnedBy turns index history ++ turns activity.call

variable {turnOf turns} {history : History (CallSystem State calls) (CallLabel calls)}
  {system next : CallSystem State calls} {label : CallLabel calls} {index : ℕ}

theorem takenBy_other (hother : index ≠ label.caller) :
    takenBy turnOf index (history ++ [(system, label)]) = takenBy turnOf index history := by
  unfold takenBy
  rw [exchangesOf_concat_other hother.symm]

theorem returnedBy_other (hother : index ≠ label.caller) :
    returnedBy turns index (history ++ [(system, label)]) = returnedBy turns index history := by
  unfold returnedBy
  rw [Contract.recordedBy_snoc, Contract.recorded_of_ne hother, List.append_nil]

theorem takenBy_asks {question : Question} {reply : Reply question} :
    takenBy turnOf index (history ++ [(system, .asks index question reply)]) =
      takenBy turnOf index history ++ (turnOf question).toList := by
  unfold takenBy turnsOf
  rw [exchangesOf_concat_asks, List.filterMap_append]
  cases hturn : turnOf question <;> simp [hturn]

theorem turnsOf_cons {question : Question} {reply : Reply question}
    {exchanges : List (Exchange Question Reply)} :
    turnsOf turnOf (⟨question, reply⟩ :: exchanges) =
      (turnOf question).toList ++ turnsOf turnOf exchanges := by
  cases hturn : turnOf question <;> simp [turnsOf, hturn]

theorem returnedBy_asks {question : Question} {reply : Reply question} :
    returnedBy turns index (history ++ [(system, .asks index question reply)]) =
      returnedBy turns index history := by
  unfold returnedBy
  rw [Contract.recordedBy_snoc]
  exact List.append_nil _

namespace TurnsLeft

variable {call : calls.Call} {begun : State}

theorem begins
    (hperform : ∀ {exchanges result},
      Transcript (calls.perform call (system.objects index)) exchanges result →
        turnsOf turnOf exchanges = turns call)
    (hturns : TurnsLeft turnOf turns history system index) (hidle : system.active index = none) :
    TurnsLeft turnOf turns (history ++ [(system, .begins index call)])
      ⟨system.shared, system.objects, Function.update system.active index
        (some ⟨call, system.shared, calls.perform call (system.objects index)⟩)⟩ index := by
  have htaken : takenBy turnOf index (history ++ [(system, .begins index call)]) =
      takenBy turnOf index history := by simp [takenBy, exchangesOf]
  have hreturned : returnedBy turns index (history ++ [(system, .begins index call)]) =
      returnedBy turns index history := by
    unfold returnedBy
    rw [Contract.recordedBy_snoc]
    exact List.append_nil _
  constructor
  all_goals
    rw [htaken, hreturned, hturns.idle hidle]
    dsimp only
    rw [Function.update_self]
  · exact nofun
  · intro activity _
    exact List.prefix_refl _
  · intro activity hactive exchanges result htranscript
    cases hactive
    exact congrArg _ (hperform htranscript)

theorem asks {next : State} {question : Question}
    {rest : Reply question → Interaction.Program Question Reply (calls.Value × calls.Object)}
    {reply : Reply question} (hturns : TurnsLeft turnOf turns history system index)
    (hactive : system.active index = some ⟨call, begun, .ask question rest⟩) :
    TurnsLeft turnOf turns (history ++ [(system, .asks index question reply)])
      ⟨next, system.objects,
        Function.update system.active index (some ⟨call, begun, rest reply⟩)⟩ index := by
  constructor
  all_goals
    rw [takenBy_asks, returnedBy_asks]
    dsimp only
    rw [Function.update_self]
  · exact nofun
  · intro activity _
    exact (hturns.begun hactive).trans (List.prefix_append _ _)
  · intro activity hactivity exchanges result htranscript
    cases hactivity
    have hall := hturns.left hactive _ _ (.ask reply htranscript)
    rwa [turnsOf_cons, ← List.append_assoc] at hall

theorem returns {value : calls.Value} {object : calls.Object}
    (hturns : TurnsLeft turnOf turns history system index)
    (hactive : system.active index = some ⟨call, begun, .done (value, object)⟩) :
    TurnsLeft turnOf turns (history ++ [(system, .returns index call value)])
      ⟨system.shared, Function.update system.objects index object,
        Function.update system.active index none⟩ index := by
  have htaken : takenBy turnOf index (history ++ [(system, .returns index call value)]) =
      takenBy turnOf index history := by simp [takenBy, exchangesOf]
  have hreturned : returnedBy turns index (history ++ [(system, .returns index call value)]) =
      returnedBy turns index history ++ turns call := by
    unfold returnedBy
    rw [Contract.recordedBy_snoc]
    exact congrArg _ (if_pos rfl)
  have hall := hturns.left hactive [] _ (.done _)
  constructor
  all_goals
    rw [htaken, hreturned]
    dsimp only
    rw [Function.update_self]
  · exact fun _ => (List.append_nil _).symm.trans hall
  · exact nofun
  · exact nofun

theorem other {answers : ℕ → State → (question : Question) → Reply question → State → Prop}
    (hturns : TurnsLeft turnOf turns history system index) (hother : index ≠ label.caller)
    (hstep : CallStep answers calls system label next) :
    TurnsLeft turnOf turns (history ++ [(system, label)]) next index := by
  have hsame : next.active index = system.active index := by
    cases hstep <;> exact Function.update_of_ne hother ..
  constructor
  all_goals rw [hsame, takenBy_other hother, returnedBy_other hother]
  · exact hturns.idle
  · exact hturns.begun
  · exact hturns.left

theorem step {answers : ℕ → State → (question : Question) → Reply question → State → Prop}
    (hperform : ∀ {call object exchanges result},
      Transcript (calls.perform call object) exchanges result →
        turnsOf turnOf exchanges = turns call)
    (hturns : TurnsLeft turnOf turns history system index)
    (hstep : CallStep answers calls system label next) :
    TurnsLeft turnOf turns (history ++ [(system, label)]) next index := by
  by_cases hother : index = label.caller
  · subst hother
    cases hstep with
    | begins hidle => exact hturns.begins hperform hidle
    | asks hactive _ => exact hturns.asks hactive
    | returns hactive => exact hturns.returns hactive
  · exact hturns.other hother hstep

end TurnsLeft

/-- If every call of the class takes its turns in each of its transcripts, so does every call
of a run. -/
theorem takesOwnTurns_of_run [∀ question, Nonempty (Reply question)]
    {answers : ℕ → State → (question : Question) → Reply question → State → Prop}
    {start : CallSystem State calls}
    (hperform : ∀ {call object exchanges result},
      Transcript (calls.perform call object) exchanges result →
        turnsOf turnOf exchanges = turns call)
    (hidle : ∀ index, start.active index = none)
    (hrun : Run (CallStep answers calls) start history system) :
    TakesOwnTurns turnOf turns history system := by
  have hturns : ∀ index, TurnsLeft turnOf turns history system index := by
    refine hrun.invariant (fun history system => ∀ index, TurnsLeft turnOf turns history system
      index) (fun index => ?_) fun _ hturns hstep index => (hturns index).step hperform hstep
    constructor
    all_goals rw [hidle]
    · exact fun _ => rfl
    · exact nofun
    · exact nofun
  refine ⟨fun hactive => (hturns _).idle hactive, fun hactive => ⟨(hturns _).begun hactive, ?_⟩⟩
  rename_i index activity
  obtain ⟨exchanges, result, htranscript⟩ := exists_transcript activity.program
  exact ⟨_, (hturns index).left hactive exchanges result htranscript⟩

end Turns

end RelyGuarantee
