import ElapPlatform.InteractionInterpretation
import ElapPlatform.ParallelPrograms

/-!
# Calls under one mutex

A call takes the mutex, asks its questions and gives the mutex back.  However the questions
of the threads interleave, a run is one in which every call is a single question.
-/

namespace Interaction

open Transition

inductive MutexCall (Question : Type) where
  | lock
  | unlock
  | inside (question : Question)

abbrev MutexCall.Reply {Question : Type} (Inside : Question → Type) : MutexCall Question → Type
  | .lock => Unit
  | .unlock => Unit
  | .inside question => Inside question

structure Guarded (Thread State : Type) where
  holder : Option Thread
  state : State

variable {Thread Call Question State : Type} {Value : Call → Type} {Reply : Question → Type}
  {Result : Thread → Type} {α β : Type}

section Programs

variable (answers : State → (question : Question) → Reply question → State → Prop)
  (body : (call : Call) → Program Question Reply (Value call))

/-- A thread waits for a mutex that is taken.  Nothing keeps it from asking without it. -/
def MutexCall.Answers (thread : Thread) (guarded : Guarded Thread State) :
    (call : MutexCall Question) → call.Reply Reply → Guarded Thread State → Prop
  | .lock, _, next => guarded.holder = none ∧ next = ⟨some thread, guarded.state⟩
  | .unlock, _, next => guarded.holder = some thread ∧ next = ⟨none, guarded.state⟩
  | .inside question, reply, next =>
      answers guarded.state question reply next.state ∧ next.holder = guarded.holder

def Program.inside : Program Question Reply α →
    (α → Program (MutexCall Question) (MutexCall.Reply Reply) β) →
      Program (MutexCall Question) (MutexCall.Reply Reply) β
  | .done value, rest => rest value
  | .ask question next, rest => .ask (.inside question) fun reply => (next reply).inside rest

def Program.locked : Program Call Value α →
    Program (MutexCall Question) (MutexCall.Reply Reply) α
  | .done value => .done value
  | .ask call next =>
      .ask .lock fun _ => (body call).inside fun value =>
        .ask .unlock fun _ => (next value).locked

/-- The call as one question. -/
def Atomic (_thread : Thread) (state : State) (call : Call) (value : Value call)
    (next : State) : Prop :=
  Runs answers (body call) state value next

/-- A thread that holds the mutex is somewhere in its call, and no other one is. -/
structure Serializes
    (fine : Parallel (MutexCall Question) (MutexCall.Reply Reply) Result (Guarded Thread State))
    (coarse : Parallel Call Value Result State) : Prop where
  outside : ∀ thread, fine.state.holder ≠ some thread →
    fine.programs thread = (coarse.programs thread).locked body
  inside : ∀ thread, fine.state.holder = some thread → ∃ call next left,
    coarse.programs thread = .ask call next ∧
      (fine.programs thread = left.inside fun value =>
        .ask .unlock fun _ => (next value).locked body) ∧
      Leads answers (body call) coarse.state left fine.state.state
  free : fine.state.holder = none → fine.state.state = coarse.state

end Programs

section Runs

variable {answers : State → (question : Question) → Reply question → State → Prop}
  {body : (call : Call) → Program Question Reply (Value call)}
  {fine next : Parallel (MutexCall Question) (MutexCall.Reply Reply) Result
    (Guarded Thread State)}
  {coarse : Parallel Call Value Result State}

theorem Leads.snoc {program left : Program Question Reply α} {state middle final : State}
    {question : Question} {following : Reply question → Program Question Reply α}
    {reply : Reply question} (hleads : Leads answers program state left middle)
    (hleft : left = .ask question following) (hanswer : answers middle question reply final) :
    Leads answers program state (following reply) final := by
  induction hleads with
  | here program state =>
      subst hleft
      exact .answered reply hanswer (.here _ _)
  | answered earlier hearlier hrest ih => exact .answered earlier hearlier (ih hleft hanswer)

theorem Program.locked_eq_done {program : Program Call Value α} {value : α}
    (hdone : program.locked body = .done value) : program = .done value := by
  cases program with
  | done result =>
      cases hdone
      rfl
  | ask call next => cases hdone

theorem Program.locked_eq_ask {program : Program Call Value α} {question : MutexCall Question}
    {following : question.Reply Reply →
      Program (MutexCall Question) (MutexCall.Reply Reply) α}
    (hask : program.locked body = .ask question following) :
    ∃ call next, program = .ask call next ∧
      (Program.ask question following : Program (MutexCall Question) (MutexCall.Reply Reply) α) =
        .ask .lock fun _ => (body call).inside fun value =>
          .ask .unlock fun _ => (next value).locked body := by
  cases program with
  | done result => cases hask
  | ask call next => exact ⟨call, next, rfl, hask.symm⟩

theorem Serializes.start {state : State}
    {programs : (thread : Thread) → Program Call Value (Result thread)} :
    Serializes answers body ⟨⟨none, state⟩, fun thread => (programs thread).locked body⟩
      ⟨state, programs⟩ where
  outside thread _ := rfl
  inside thread hholder := by cases hholder
  free _ := rfl

/-- A thread that is done is done in the run of whole calls. -/
theorem Serializes.done (hserial : Serializes answers body fine coarse) {thread : Thread}
    {result : Result thread} (hdone : fine.programs thread = .done result) :
    coarse.programs thread = .done result := by
  by_cases hholder : fine.state.holder = some thread
  · obtain ⟨call, following, left, -, hprogram, -⟩ := hserial.inside thread hholder
    rw [hprogram] at hdone
    cases left <;> cases hdone
  · exact Program.locked_eq_done ((hserial.outside thread hholder).symm.trans hdone)

variable [DecidableEq Thread]

theorem Serializes.locks {thread : Thread} {state : State} {call : Call}
    {following : Value call → Program Call Value (Result thread)}
    (hserial : Serializes answers body fine coarse) (hfree : fine.state = ⟨none, state⟩)
    (hcoarse : coarse.programs thread = .ask call following) :
    Serializes answers body
      ⟨⟨some thread, state⟩, Function.update fine.programs thread
        ((body call).inside fun value => .ask .unlock fun _ => (following value).locked body)⟩
      coarse where
  outside other hother := by
    have hne : other ≠ thread := fun hsame => hother (by rw [hsame])
    refine (Function.update_of_ne hne _ _).trans (hserial.outside other ?_)
    simp [hfree]
  inside other hholder := by
    obtain rfl : thread = other := Option.some.inj hholder
    have hstate : state = coarse.state := by
      simpa [hfree] using hserial.free (by rw [hfree])
    subst hstate
    exact ⟨call, following, body call, hcoarse, Function.update_self .., .here _ _⟩
  free hnone := by cases hnone

theorem Serializes.asks {thread : Thread} {state after : State} {question : Question}
    {reply : Reply question} {call : Call}
    {left : Reply question → Program Question Reply (Value call)}
    {following : Value call → Program Call Value (Result thread)}
    (hserial : Serializes answers body fine coarse) (hheld : fine.state = ⟨some thread, state⟩)
    (hcoarse : coarse.programs thread = .ask call following)
    (hleads : Leads answers (body call) coarse.state (.ask question left) state)
    (hanswer : answers state question reply after) :
    Serializes answers body
      ⟨⟨some thread, after⟩, Function.update fine.programs thread
        ((left reply).inside fun value => .ask .unlock fun _ => (following value).locked body)⟩
      coarse where
  outside other hother := by
    have hne : other ≠ thread := fun hsame => hother (by rw [hsame])
    refine (Function.update_of_ne hne _ _).trans (hserial.outside other ?_)
    simpa [hheld] using Ne.symm hne
  inside other hholder := by
    obtain rfl : thread = other := Option.some.inj hholder
    exact ⟨call, following, left reply, hcoarse, Function.update_self ..,
      hleads.snoc rfl hanswer⟩
  free hnone := by cases hnone

theorem Serializes.unlocks {thread : Thread} {state : State} {call : Call} {value : Value call}
    {following : Value call → Program Call Value (Result thread)}
    (hserial : Serializes answers body fine coarse) (hheld : fine.state = ⟨some thread, state⟩) :
    Serializes answers body
      ⟨⟨none, state⟩, Function.update fine.programs thread ((following value).locked body)⟩
      ⟨state, Function.update coarse.programs thread (following value)⟩ where
  outside other _ := by
    by_cases hsame : other = thread
    · subst hsame
      simp
    · refine (Function.update_of_ne hsame _ _).trans ?_
      rw [hserial.outside other (by simpa [hheld] using Ne.symm hsame)]
      exact congrArg _ (Function.update_of_ne hsame _ _).symm
  inside other hholder := by cases hholder
  free _ := rfl

/-- A question is within a call, or it ends one. -/
theorem Serializes.step {turn : Turn Thread (MutexCall Question) (MutexCall.Reply Reply)}
    (hserial : Serializes answers body fine coarse)
    (hstep : TurnStep (MutexCall.Answers answers) fine turn next) :
    Serializes answers body next coarse ∨
      ∃ last coarse', TurnStep (Atomic answers body) coarse last coarse' ∧
        Serializes answers body next coarse' := by
  obtain ⟨⟨holder, guarded⟩, programs⟩ := fine
  cases hstep with
  | @asks thread question following reply state hprogram hanswer =>
      obtain ⟨holder', state⟩ := state
      by_cases hholder : holder = some thread
      · subst hholder
        obtain ⟨call, rest, left, hcoarse, hleft, hleads⟩ := hserial.inside thread rfl
        have hasked := hleft.symm.trans hprogram
        cases left with
        | done value =>
            cases hasked
            obtain ⟨-, hafter⟩ := hanswer
            cases hafter
            exact .inr ⟨_, _, .asks hcoarse (hleads.runs (.done _ _)),
              hserial.unlocks rfl⟩
        | ask asked inner =>
            cases hasked
            obtain ⟨hinner, hkept⟩ := hanswer
            obtain rfl : holder' = some thread := hkept
            exact .inl (hserial.asks rfl hcoarse hleads hinner)
      · obtain ⟨call, rest, hcoarse, hasked⟩ :=
          Program.locked_eq_ask ((hserial.outside thread hholder).symm.trans hprogram)
        cases hasked
        obtain ⟨hfree, hafter⟩ := hanswer
        cases hafter
        obtain rfl : holder = none := hfree
        exact .inl (hserial.locks rfl hcoarse)

theorem run_serializes {history : TurnHistory Thread (MutexCall Question) (MutexCall.Reply Reply)
      Result (Guarded Thread State)} {state : State}
    {programs : (thread : Thread) → Program Call Value (Result thread)}
    (hrun : Run (TurnStep (MutexCall.Answers answers))
      ⟨⟨none, state⟩, fun thread => (programs thread).locked body⟩ history fine) :
    ∃ coarseHistory coarse, Run (TurnStep (Atomic answers body)) ⟨state, programs⟩ coarseHistory
      coarse ∧ Serializes answers body fine coarse := by
  induction hrun with
  | start => exact ⟨[], _, .start, .start⟩
  | snoc hrun hstep ih =>
      obtain ⟨coarseHistory, coarse, hcoarse, hserial⟩ := ih
      rcases hserial.step hstep with hsame | ⟨last, coarse', hlast, hnext⟩
      · exact ⟨coarseHistory, coarse, hcoarse, hsame⟩
      · exact ⟨_, coarse', hcoarse.snoc hlast, hnext⟩

end Runs

end Interaction
