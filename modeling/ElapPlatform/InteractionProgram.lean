import Mathlib.Tactic

/-!
# Programs that ask their environment

A program asks questions one at a time and continues with the reply.  Its
environment is a relation between the states before and after a question, so
one program has many runs.
-/

namespace Interaction

variable {Question : Type} {Reply : Question → Type} {α β State : Type}

inductive Program (Question : Type) (Reply : Question → Type) (α : Type) where
  | done (value : α)
  | ask (question : Question) (next : Reply question → Program Question Reply α)

namespace Program

def bind (program : Program Question Reply α) (rest : α → Program Question Reply β) :
    Program Question Reply β :=
  match program with
  | .done value => rest value
  | .ask question next => .ask question fun reply => (next reply).bind rest

instance : Monad (Program Question Reply) where
  pure := .done
  bind := Program.bind

def perform (question : Question) : Program Question Reply (Reply question) :=
  .ask question .done

@[simp] theorem pure_eq_done (value : α) :
    (pure value : Program Question Reply α) = .done value := rfl

@[simp] theorem done_bind (value : α) (rest : α → Program Question Reply β) :
    (Program.done value >>= rest) = rest value := rfl

@[simp] theorem ask_bind (question : Question)
    (next : Reply question → Program Question Reply α)
    (rest : α → Program Question Reply β) :
    (Program.ask question next >>= rest) =
      .ask question fun reply => next reply >>= rest := rfl

@[simp] theorem bind_done (program : Program Question Reply α) :
    (program >>= fun value => .done value) = program := by
  induction program with
  | done value => rfl
  | ask question next ih => exact congrArg (Program.ask question) (funext ih)

@[simp] theorem perform_bind (question : Question)
    (rest : Reply question → Program Question Reply β) :
    (perform question >>= rest) = .ask question rest := rfl

end Program

/-! ## Runs of a program -/

section Runs

variable (answers : State → (question : Question) → Reply question → State → Prop)

/-- The program can return the value and leave the environment in the last state. -/
inductive Runs : Program Question Reply α → State → α → State → Prop
  | done (value : α) (state : State) : Runs (.done value) state value state
  | ask {question : Question} {next : Reply question → Program Question Reply α}
      {state middle final : State} {reply : Reply question} {value : α}
      (hanswer : answers state question reply middle)
      (hrest : Runs (next reply) middle value final) :
      Runs (.ask question next) state value final

/-- The program can come to ask the question, in the last state. -/
inductive Reaches : Program Question Reply α → State → Question → State → Prop
  | now (question : Question) (next : Reply question → Program Question Reply α)
      (state : State) : Reaches (.ask question next) state question state
  | later {question asked : Question} {next : Reply question → Program Question Reply α}
      {state middle final : State} {reply : Reply question}
      (hanswer : answers state question reply middle)
      (hrest : Reaches (next reply) middle asked final) :
      Reaches (.ask question next) state asked final

variable {answers}

theorem Runs.answered {question : Question} {next : Reply question → Program Question Reply α}
    {state middle final : State} {value : α} (reply : Reply question)
    (hanswer : answers state question reply middle)
    (hrest : Runs answers (next reply) middle value final) :
    Runs answers (.ask question next) state value final :=
  .ask hanswer hrest

@[simp] theorem runs_done_iff {value result : α} {state final : State} :
    Runs answers (.done value) state result final ↔ result = value ∧ final = state := by
  constructor
  · intro hrun
    cases hrun
    exact ⟨rfl, rfl⟩
  · rintro ⟨rfl, rfl⟩
    exact .done result final

@[simp] theorem runs_ask_iff {question : Question}
    {next : Reply question → Program Question Reply α} {state final : State} {value : α} :
    Runs answers (.ask question next) state value final ↔
      ∃ reply middle, answers state question reply middle ∧
        Runs answers (next reply) middle value final := by
  constructor
  · intro hrun
    cases hrun with
    | ask hanswer hrest => exact ⟨_, _, hanswer, hrest⟩
  · rintro ⟨reply, middle, hanswer, hrest⟩
    exact .ask hanswer hrest

theorem runs_perform_iff {question : Question} {state final : State} {reply : Reply question} :
    Runs answers (.ask question .done) state reply final ↔
      answers state question reply final := by
  rw [runs_ask_iff]
  constructor
  · rintro ⟨reply', middle, hanswer, hdone⟩
    obtain ⟨rfl, rfl⟩ := runs_done_iff.mp hdone
    exact hanswer
  · intro hanswer
    exact ⟨reply, final, hanswer, .done reply final⟩

theorem runs_bind_iff {program : Program Question Reply α}
    {rest : α → Program Question Reply β} {state final : State} {value : β} :
    Runs answers (program >>= rest) state value final ↔
      ∃ first middle, Runs answers program state first middle ∧
        Runs answers (rest first) middle value final := by
  induction program generalizing state with
  | done first => simp
  | ask question next ih =>
      simp only [Program.ask_bind, runs_ask_iff, ih]
      constructor
      · rintro ⟨reply, middle, hanswer, first, later, hfirst, hrest⟩
        exact ⟨first, later, ⟨reply, middle, hanswer, hfirst⟩, hrest⟩
      · rintro ⟨first, later, ⟨reply, middle, hanswer, hfirst⟩, hrest⟩
        exact ⟨reply, middle, hanswer, first, later, hfirst, hrest⟩

end Runs

section OpenQuestions

variable {answers : State → (question : Question) → Reply question → State → Prop}
  {state final : State} {asked : Question}

theorem Reaches.answered {question : Question}
    {next : Reply question → Program Question Reply α} {middle : State} (reply : Reply question)
    (hanswer : answers state question reply middle)
    (hrest : Reaches answers (next reply) middle asked final) :
    Reaches answers (.ask question next) state asked final :=
  .later hanswer hrest

@[simp] theorem not_reaches_done (value : α) :
    ¬ Reaches answers (.done value) state asked final := by
  intro hreaches
  cases hreaches

@[simp] theorem reaches_ask_iff {question : Question}
    {next : Reply question → Program Question Reply α} :
    Reaches answers (.ask question next) state asked final ↔
      (asked = question ∧ final = state) ∨
        ∃ reply middle, answers state question reply middle ∧
          Reaches answers (next reply) middle asked final := by
  constructor
  · intro hreaches
    cases hreaches with
    | now => exact .inl ⟨rfl, rfl⟩
    | later hanswer hrest => exact .inr ⟨_, _, hanswer, hrest⟩
  · rintro (⟨rfl, rfl⟩ | ⟨reply, middle, hanswer, hrest⟩)
    · exact .now asked next final
    · exact .later hanswer hrest

theorem reaches_bind_iff {program : Program Question Reply α}
    {rest : α → Program Question Reply β} :
    Reaches answers (program >>= rest) state asked final ↔
      Reaches answers program state asked final ∨
        ∃ first middle, Runs answers program state first middle ∧
          Reaches answers (rest first) middle asked final := by
  induction program generalizing state with
  | done first => simp
  | ask question next ih =>
      simp only [Program.ask_bind, reaches_ask_iff, runs_ask_iff, ih]
      constructor
      · rintro (hasked | ⟨reply, middle, hanswer, hfirst | ⟨first, later, hfirst, hrest⟩⟩)
        · exact .inl (.inl hasked)
        · exact .inl (.inr ⟨reply, middle, hanswer, hfirst⟩)
        · exact .inr ⟨first, later, ⟨reply, middle, hanswer, hfirst⟩, hrest⟩
      · rintro ((hasked | ⟨reply, middle, hanswer, hfirst⟩) |
          ⟨first, later, ⟨reply, middle, hanswer, hfirst⟩, hrest⟩)
        · exact .inl hasked
        · exact .inr ⟨reply, middle, hanswer, .inl hfirst⟩
        · exact .inr ⟨reply, middle, hanswer, .inr ⟨first, later, hfirst, hrest⟩⟩

end OpenQuestions

end Interaction
