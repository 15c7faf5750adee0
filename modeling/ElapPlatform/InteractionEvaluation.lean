import ElapPlatform.InteractionProgram

/-!
# Programs in a deterministic environment

A handler has one reply and one next state for every question, so a program has
one run from every state.
-/

namespace Interaction

variable {Question : Type} {Reply : Question → Type} {α β State : Type}

namespace Program

def evaluate (handler : State → (question : Question) → Reply question × State) :
    Program Question Reply α → State → α × State
  | .done value, state => (value, state)
  | .ask question next, state =>
      (next (handler state question).1).evaluate handler (handler state question).2

variable {handler : State → (question : Question) → Reply question × State} {state : State}

@[simp] theorem evaluate_done {value : α} :
    (Program.done value : Program Question Reply α).evaluate handler state = (value, state) := rfl

@[simp] theorem evaluate_ask {question : Question}
    {next : Reply question → Program Question Reply α} :
    (Program.ask question next).evaluate handler state =
      (next (handler state question).1).evaluate handler (handler state question).2 := rfl

@[simp] theorem evaluate_bind {program : Program Question Reply α}
    {rest : α → Program Question Reply β} :
    (program >>= rest).evaluate handler state =
      (rest (program.evaluate handler state).1).evaluate handler
        (program.evaluate handler state).2 := by
  induction program generalizing state with
  | done value => rfl
  | ask question next ih => exact ih _

end Program

/-- The run that a handler allows. -/
theorem runs_iff_evaluate {handler : State → (question : Question) → Reply question × State}
    {program : Program Question Reply α} {state final : State} {value : α} :
    Runs (fun state question reply next => (reply, next) = handler state question)
      program state value final ↔ program.evaluate handler state = (value, final) := by
  induction program generalizing state with
  | done result =>
      rw [runs_done_iff, Program.evaluate_done, Prod.mk.injEq, eq_comm, @eq_comm _ final]
  | ask question next ih =>
      rw [runs_ask_iff, Program.evaluate_ask]
      constructor
      · rintro ⟨reply, middle, hreply, hrest⟩
        rw [← hreply]
        exact ih reply |>.mp hrest
      · intro hrest
        exact ⟨_, _, rfl, (ih _).mpr hrest⟩

end Interaction
