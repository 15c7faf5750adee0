import ElapPlatform.InteractionPostcondition

/-!
# Programs whose questions are answered by programs

An object answers the questions of one program with programs of its own, which ask
questions of another kind.  To the first program, the object and what surrounds it are
one environment.
-/

namespace Interaction

variable {Question Question' : Type} {Reply : Question → Type} {Reply' : Question' → Type}
  {α State Object : Type}

section Interpretation

variable (handler : Object → (question : Question) →
  Program Question' Reply' (Reply question × Object))

def Program.interpret :
    Program Question Reply α → Object → Program Question' Reply' (α × Object)
  | .done value, object => .done (value, object)
  | .ask question next, object =>
      handler object question >>= fun answered => (next answered.1).interpret answered.2

/-- The environment that the object makes of its own. -/
def Handled (answers : State → (question : Question') → Reply' question → State → Prop)
    (before : Object × State) (question : Question) (reply : Reply question)
    (after : Object × State) : Prop :=
  Runs answers (handler before.1 question) before.2 (reply, after.1) after.2

@[simp] theorem Program.interpret_done (value : α) (object : Object) :
    (Program.done value : Program Question Reply α).interpret handler object =
      .done (value, object) := rfl

@[simp] theorem Program.interpret_ask (question : Question)
    (next : Reply question → Program Question Reply α) (object : Object) :
    (Program.ask question next).interpret handler object =
      handler object question >>= fun answered => (next answered.1).interpret handler answered.2 :=
  rfl

end Interpretation

section Environments

variable {handler : Object → (question : Question) →
    Program Question' Reply' (Reply question × Object)}
  {answers : State → (question : Question') → Reply' question → State → Prop}

theorem runs_interpret_iff {program : Program Question Reply α} {object object' : Object}
    {state final : State} {value : α} :
    Runs answers (program.interpret handler object) state (value, object') final ↔
      Runs (Handled handler answers) program (object, state) value (object', final) := by
  induction program generalizing object state with
  | done result => simp [and_assoc]
  | ask question next ih =>
      rw [Program.interpret_ask, runs_bind_iff, runs_ask_iff]
      constructor
      · rintro ⟨⟨reply, later⟩, middle, hhandled, hrest⟩
        exact ⟨reply, (later, middle), hhandled, (ih reply).mp hrest⟩
      · rintro ⟨reply, ⟨later, middle⟩, hhandled, hrest⟩
        exact ⟨(reply, later), middle, hhandled, (ih reply).mpr hrest⟩

/-- A question that is asked is asked by the object over some question of the program. -/
theorem reaches_interpret_iff {program : Program Question Reply α} {object : Object}
    {state final : State} {asked : Question'} :
    Reaches answers (program.interpret handler object) state asked final ↔
      ∃ question object' middle,
        Reaches (Handled handler answers) program (object, state) question (object', middle) ∧
          Reaches answers (handler object' question) middle asked final := by
  induction program generalizing object state with
  | done result => simp
  | ask question next ih =>
      rw [Program.interpret_ask, reaches_bind_iff]
      constructor
      · rintro (hnow | ⟨⟨reply, later⟩, middle, hhandled, hrest⟩)
        · exact ⟨question, object, state, .now question next _, hnow⟩
        · obtain ⟨question', object', middle', hreaches, hasked⟩ := (ih reply).mp hrest
          have hanswer : Handled handler answers (object, state) question reply (later, middle) :=
            hhandled
          exact ⟨question', object', middle', .answered reply hanswer hreaches, hasked⟩
      · rintro ⟨question', object', middle', hreaches, hasked⟩
        rcases reaches_ask_iff.mp hreaches with
          ⟨rfl, hsame⟩ | ⟨reply, ⟨later, middle⟩, hhandled, hrest⟩
        · cases hsame
          exact .inl hasked
        · exact .inr ⟨(reply, later), middle, hhandled,
            (ih reply).mpr ⟨question', object', middle', hrest, hasked⟩⟩

end Environments

/-! ## The way to a part of a program -/

section Ways

variable {β : Type} {answers : State → (question : Question) → Reply question → State → Prop}

/-- The first program can be answered until the second is left of it. -/
inductive Leads (answers : State → (question : Question) → Reply question → State → Prop) :
    Program Question Reply α → State → Program Question Reply α → State → Prop
  | here (program : Program Question Reply α) (state : State) :
      Leads answers program state program state
  | answered {question : Question} {next : Reply question → Program Question Reply α}
      {left : Program Question Reply α} {state middle final : State} (reply : Reply question)
      (hanswer : answers state question reply middle)
      (hrest : Leads answers (next reply) middle left final) :
      Leads answers (.ask question next) state left final

variable {program left : Program Question Reply α} {state middle final : State}

theorem Leads.runs {value : α} (hleads : Leads answers program state left middle)
    (hleft : Runs answers left middle value final) : Runs answers program state value final := by
  induction hleads with
  | here => exact hleft
  | answered reply hanswer hrest ih => exact .ask hanswer (ih hleft)

theorem Leads.invariant (hleads : Leads answers program state left middle)
    (Holds : State → Prop) (hstart : Holds state)
    (hanswers : ∀ {before question reply after}, answers before question reply after →
      Holds before → Holds after) : Holds middle := by
  induction hleads with
  | here => exact hstart
  | answered reply hanswer hrest ih => exact ih (hanswers hanswer hstart)

theorem Leads.reaches {asked : Question} (hleads : Leads answers program state left middle)
    (hleft : Reaches answers left middle asked final) :
    Reaches answers program state asked final := by
  induction hleads with
  | here => exact hleft
  | answered reply hanswer hrest ih => exact .later hanswer (ih hleft)

theorem Leads.bind {first : Program Question Reply β} {rest : β → Program Question Reply α}
    {value : β} (hfirst : Runs answers first state value middle)
    (hrest : Leads answers (rest value) middle left final) :
    Leads answers (first >>= rest) state left final := by
  induction hfirst with
  | done => exact hrest
  | ask hanswer _ ih => exact .answered _ hanswer (ih hrest)

end Ways

/-! ## The questions of a program -/

section Questions

variable {β : Type} {permitted : Question → Prop}

/-- Whatever its questions are answered, it asks no others. -/
def Program.AsksOnly (permitted : Question → Prop) : Program Question Reply α → Prop
  | .done _ => True
  | .ask question next => permitted question ∧ ∀ reply, (next reply).AsksOnly permitted

@[simp] theorem Program.asksOnly_done {value : α} :
    (Program.done value : Program Question Reply α).AsksOnly permitted := trivial

@[simp] theorem Program.asksOnly_ask_iff {question : Question}
    {next : Reply question → Program Question Reply α} :
    (Program.ask question next).AsksOnly permitted ↔
      permitted question ∧ ∀ reply, (next reply).AsksOnly permitted := Iff.rfl

theorem Program.AsksOnly.bind {program : Program Question Reply α}
    {rest : α → Program Question Reply β} (hprogram : program.AsksOnly permitted)
    (hrest : ∀ value, (rest value).AsksOnly permitted) :
    (program >>= rest).AsksOnly permitted := by
  induction program with
  | done value => exact hrest value
  | ask question next ih => exact ⟨hprogram.1, fun reply => ih reply (hprogram.2 reply)⟩

theorem Program.AsksOnly.bind_ensured {program : Program Question Reply α}
    {rest : α → Program Question Reply β} (hprogram : program.AsksOnly permitted)
    (hrest : program.Ensures fun value => (rest value).AsksOnly permitted) :
    (program >>= rest).AsksOnly permitted := by
  induction program with
  | done value => exact hrest
  | ask question next ih =>
      exact ⟨hprogram.1, fun reply => ih reply (hprogram.2 reply) (hrest reply)⟩

/-- Where the questions of a program leave the object alone, so does the program. -/
theorem Program.AsksOnly.interpret {permitted' : Question' → Prop}
    {handler : Object → (question : Question) →
      Program Question' Reply' (Reply question × Object)} {object : Object}
    {program : Program Question Reply α} (hasks : program.AsksOnly permitted)
    (hhandler : ∀ question, permitted question →
      (handler object question).AsksOnly permitted' ∧
        (handler object question).Ensures fun answered => answered.2 = object) :
    (program.interpret handler object).AsksOnly permitted' ∧
      (program.interpret handler object).Ensures fun answered => answered.2 = object := by
  induction program with
  | done value => exact ⟨trivial, rfl⟩
  | ask question next ih =>
      obtain ⟨hquestion, hkept⟩ := hhandler question hasks.1
      rw [Program.interpret_ask]
      constructor
      · refine hquestion.bind_ensured (hkept.mono ?_)
        rintro ⟨reply, object'⟩ rfl
        exact (ih reply (hasks.2 reply)).1
      · refine Program.ensures_bind_iff.mpr (hkept.mono ?_)
        rintro ⟨reply, object'⟩ rfl
        exact (ih reply (hasks.2 reply)).2

theorem Reaches.asked_permitted
    {answers : State → (question : Question) → Reply question → State → Prop}
    {program : Program Question Reply α} {state final : State} {asked : Question}
    (hreaches : Reaches answers program state asked final) (permitted : Question → Prop)
    (hasks : program.AsksOnly permitted) : permitted asked := by
  induction hreaches with
  | now question next state => exact hasks.1
  | later hanswer hrest ih => exact ih (hasks.2 _)

theorem Transcript.asked_permitted {program : Program Question Reply α}
    {exchanges : List (Exchange Question Reply)} {value : α}
    (htranscript : Transcript program exchanges value) (permitted : Question → Prop)
    (hasks : program.AsksOnly permitted) : ∀ exchange ∈ exchanges, permitted exchange.1 := by
  induction htranscript with
  | done value => simp
  | ask reply hrest ih =>
      intro exchange hmem
      rcases List.mem_cons.mp hmem with rfl | hlater
      · exact hasks.1
      · exact ih (hasks.2 reply) exchange hlater

end Questions

section Invariants

variable {answers : State → (question : Question) → Reply question → State → Prop}

theorem Runs.invariant {program : Program Question Reply α} {state final : State} {value : α}
    (hrun : Runs answers program state value final) (Holds : State → Prop)
    (hstart : Holds state)
    (hanswers : ∀ {before question reply after}, answers before question reply after →
      Holds before → Holds after) : Holds final := by
  induction hrun with
  | done value state => exact hstart
  | ask hanswer hrest ih => exact ih (hanswers hanswer hstart)

theorem Reaches.invariant {program : Program Question Reply α} {state final : State}
    {asked : Question} (hreaches : Reaches answers program state asked final)
    (Holds : State → Prop) (hstart : Holds state)
    (hanswers : ∀ {before question reply after}, answers before question reply after →
      Holds before → Holds after) : Holds final := by
  induction hreaches with
  | now question next state => exact hstart
  | later hanswer hrest ih => exact ih (hanswers hanswer hstart)

/-- Only the answers to permitted questions have to keep it. -/
theorem Runs.invariant_of_asksOnly {permitted : Question → Prop}
    {program : Program Question Reply α} {state final : State} {value : α}
    (hrun : Runs answers program state value final) (hasks : program.AsksOnly permitted)
    (Holds : State → Prop) (hstart : Holds state)
    (hanswers : ∀ {before question reply after}, permitted question →
      answers before question reply after → Holds before → Holds after) : Holds final := by
  induction hrun with
  | done value state => exact hstart
  | ask hanswer hrest ih => exact ih (hasks.2 _) (hanswers hasks.1 hanswer hstart)

end Invariants

end Interaction
