import ElapPlatform.InteractionTranscript

/-!
# Postconditions of a program

What a program ensures, whatever its questions are answered, and what the
answers of a transcript keep of the environment.
-/

namespace Interaction

variable {Question : Type} {Reply : Question → Type} {α β : Type}

namespace Program

def Ensures (holds : α → Prop) : Program Question Reply α → Prop
  | .done value => holds value
  | .ask question next => ∀ reply : Reply question, (next reply).Ensures holds

@[simp] theorem ensures_done_iff {holds : α → Prop} {value : α} :
    (Program.done value : Program Question Reply α).Ensures holds ↔ holds value :=
  Iff.rfl

@[simp] theorem ensures_ask_iff {holds : α → Prop} {question : Question}
    {next : Reply question → Program Question Reply α} :
    (Program.ask question next).Ensures holds ↔ ∀ reply, (next reply).Ensures holds :=
  Iff.rfl

@[simp] theorem ensures_bind_iff {holds : β → Prop} {program : Program Question Reply α}
    {rest : α → Program Question Reply β} :
    (program >>= rest).Ensures holds ↔
      program.Ensures fun value => (rest value).Ensures holds := by
  induction program with
  | done value => rfl
  | ask question next ih =>
      rw [ask_bind, ensures_ask_iff, ensures_ask_iff]
      exact forall_congr' ih

theorem ensures_perform_bind_iff {holds : α → Prop} {question : Question}
    {rest : Reply question → Program Question Reply α} :
    (Program.ask question .done >>= rest).Ensures holds ↔
      ∀ reply, (rest reply).Ensures holds :=
  Iff.rfl

theorem Ensures.mono {holds holds' : α → Prop} {program : Program Question Reply α}
    (hensures : program.Ensures holds) (himplies : ∀ value, holds value → holds' value) :
    program.Ensures holds' := by
  induction program with
  | done value => exact himplies value hensures
  | ask question next ih => exact fun reply => ih reply (hensures reply)

theorem Ensures.of_forall {holds : α → Prop} (hholds : ∀ value, holds value)
    (program : Program Question Reply α) : program.Ensures holds := by
  induction program with
  | done value => exact hholds value
  | ask question next ih => exact ih

end Program

theorem Transcript.ensured {program : Program Question Reply α} {holds : α → Prop}
    {exchanges : List (Exchange Question Reply)} {value : α}
    (htranscript : Transcript program exchanges value) (hensures : program.Ensures holds) :
    holds value := by
  induction htranscript with
  | done value => exact hensures
  | ask reply hrest ih => exact ih (hensures reply)

theorem Runs.ensured {State : Type}
    {answers : State → (question : Question) → Reply question → State → Prop}
    {program : Program Question Reply α} {holds : α → Prop} {state final : State} {value : α}
    (hrun : Runs answers program state value final) (hensures : program.Ensures holds) :
    holds value := by
  induction hrun with
  | done value state => exact hensures
  | ask hanswer hrest ih => exact ih (hensures _)

/-- A transcript with its answers is a run. -/
theorem Transcript.runs {State : Type}
    {answers : State → (question : Question) → Reply question → State → Prop}
    {program : Program Question Reply α} {exchanges : List (Exchange Question Reply)} {value : α}
    {state final : State} (htranscript : Transcript program exchanges value)
    (hanswered : Answered answers state exchanges final) :
    Runs answers program state value final := by
  induction htranscript generalizing state with
  | done value =>
      rw [answered_nil_iff.mp hanswered]
      exact .done value state
  | ask reply hrest ih =>
      obtain ⟨middle, hanswer, hlater⟩ := answered_cons_iff.mp hanswered
      exact .ask hanswer (ih hlater)

/-- A program whose questions have replies comes to an end. -/
theorem exists_transcript [∀ question, Nonempty (Reply question)]
    (program : Program Question Reply α) :
    ∃ exchanges value, Transcript program exchanges value := by
  induction program with
  | done value => exact ⟨[], value, .done value⟩
  | ask question next ih =>
      have reply := Classical.arbitrary (Reply question)
      obtain ⟨exchanges, value, hrest⟩ := ih reply
      exact ⟨_, value, .ask reply hrest⟩

/-- `related` goes from the environment before to the environment after. -/
theorem Answered.related {State : Type}
    {answers : State → (question : Question) → Reply question → State → Prop}
    {exchanges : List (Exchange Question Reply)} {state final : State}
    (hanswered : Answered answers state exchanges final) {related : State → State → Prop}
    (hrefl : ∀ state, related state state)
    (htrans : ∀ {before middle after}, related before middle → related middle after →
      related before after)
    (hrelates : ∀ exchange ∈ exchanges, ∀ before after,
      answers before exchange.1 exchange.2 after → related before after) :
    related state final := by
  induction hanswered with
  | nil state => exact hrefl state
  | cons hanswer hrest ih =>
      exact htrans (hrelates _ List.mem_cons_self _ _ hanswer)
        (ih fun exchange hmem => hrelates exchange (List.mem_cons_of_mem _ hmem))

end Interaction
