import ElapPlatform.InteractionPostcondition

/-!
# Programs that report events

A recorded program asks the questions of another program, and reports events in
between.  Without its events it is the other program again.
-/

namespace Interaction

variable {Question Event : Type} {Reply : Question → Type} {α β γ : Type}

abbrev RecordedReply (Event : Type) (Reply : Question → Type) : Question ⊕ Event → Type
  | .inl question => Reply question
  | .inr _ => Unit

abbrev RecordedProgram (Event : Type) (Reply : Question → Type) (α : Type) :=
  Program (Question ⊕ Event) (RecordedReply Event Reply) α

abbrev RecordedExchange (Event : Type) (Reply : Question → Type) :=
  Exchange (Question ⊕ Event) (RecordedReply Event Reply)

namespace Program

def report (event : Event) : RecordedProgram Event Reply Unit := .ask (.inr event) .done

/-- The program itself, which reports nothing. -/
def silent : Program Question Reply α → RecordedProgram Event Reply α
  | .done value => .done value
  | .ask question next => .ask (.inl question) fun reply : Reply question => (next reply).silent

/-- The program without its events, and with another result. -/
def forget (result : α → β) : RecordedProgram Event Reply α → Program Question Reply β
  | .done value => .done (result value)
  | .ask (.inl question) next =>
      .ask question fun reply : Reply question => (next reply).forget result
  | .ask (.inr _) next => (next ()).forget result

@[simp] theorem forget_done (result : α → β) (value : α) :
    (Program.done value : RecordedProgram Event Reply α).forget result =
      .done (result value) := by
  rw [forget]

theorem forget_bind {result : α → β} {program : RecordedProgram Event Reply α}
    {rest : α → RecordedProgram Event Reply γ} {δ : Type} {last : γ → δ}
    {rest' : β → Program Question Reply δ}
    (hrest : ∀ value, (rest value).forget last = rest' (result value)) :
    (program >>= rest).forget last = program.forget result >>= rest' := by
  induction program with
  | done value => rw [done_bind, hrest, forget_done, done_bind]
  | ask question next ih =>
      rw [ask_bind]
      cases question with
      | inl question =>
          rw [forget, forget, ask_bind]
          exact congrArg (Program.ask question) (funext ih)
      | inr event =>
          rw [forget, forget]
          exact ih ()

@[simp] theorem forget_silent (program : Program Question Reply α) :
    (program.silent : RecordedProgram Event Reply α).forget id = program := by
  induction program with
  | done value => rw [silent, forget_done, id]
  | ask question next ih =>
      rw [silent, forget]
      exact congrArg (Program.ask question) (funext ih)

theorem forget_silent_bind {program : Program Question Reply α}
    {rest : α → RecordedProgram Event Reply β} {last : β → γ}
    {rest' : α → Program Question Reply γ}
    (hrest : ∀ value, (rest value).forget last = rest' value) :
    (program.silent >>= rest).forget last = program >>= rest' := by
  rw [@forget_bind _ _ _ _ _ _ id _ _ _ _ _ hrest, forget_silent]

end Program

/-! ## The events of a transcript -/

def reported : List (RecordedExchange Event Reply) → List Event
  | [] => []
  | ⟨.inl _, _⟩ :: rest => reported rest
  | ⟨.inr event, _⟩ :: rest => event :: reported rest

section Reported

variable {exchanges later : List (RecordedExchange Event Reply)}

@[simp] theorem reported_nil : reported ([] : List (RecordedExchange Event Reply)) = [] := rfl

@[simp] theorem reported_question (question : Question) (reply : Reply question) :
    reported ((⟨.inl question, reply⟩ : RecordedExchange Event Reply) :: later) =
      reported later := rfl

@[simp] theorem reported_event (event : Event) :
    reported ((⟨.inr event, ()⟩ : RecordedExchange Event Reply) :: later) =
      event :: reported later := rfl

@[simp] theorem reported_append :
    reported (exchanges ++ later) = reported exchanges ++ reported later := by
  induction exchanges with
  | nil => rfl
  | cons exchange rest ih =>
      obtain ⟨question | event, reply⟩ := exchange
      · exact ih
      · exact congrArg (event :: ·) ih

theorem Transcript.reported_silent {program : Program Question Reply α} {value : α}
    (htranscript : Transcript (program.silent : RecordedProgram Event Reply α) exchanges value) :
    reported exchanges = [] := by
  induction program generalizing exchanges with
  | done result =>
      rw [Program.silent] at htranscript
      rw [(transcript_done_iff.mp htranscript).1, reported_nil]
  | ask question next ih =>
      rw [Program.silent] at htranscript
      obtain ⟨reply, rest, rfl, hrest⟩ := transcript_ask_iff.mp htranscript
      rw [reported_question]
      exact ih reply hrest

theorem transcript_report_iff {event : Event} :
    Transcript (Program.report event : RecordedProgram Event Reply Unit) exchanges () ↔
      exchanges = [⟨.inr event, ()⟩] :=
  transcript_perform_iff

end Reported

/-! ## The transcript without its events -/

def asked : List (RecordedExchange Event Reply) → List (Exchange Question Reply)
  | [] => []
  | ⟨.inl question, reply⟩ :: rest => ⟨question, reply⟩ :: asked rest
  | ⟨.inr _, _⟩ :: rest => asked rest

theorem asked_append (exchanges later : List (RecordedExchange Event Reply)) :
    asked (exchanges ++ later) = asked exchanges ++ asked later := by
  induction exchanges with
  | nil => rfl
  | cons exchange rest ih =>
      obtain ⟨question | other, reply⟩ := exchange
      · exact congrArg (List.cons _) ih
      · exact ih

theorem mem_asked_iff {question : Question} {reply : Reply question}
    {exchanges : List (RecordedExchange Event Reply)} :
    ⟨question, reply⟩ ∈ asked exchanges ↔ ⟨.inl question, reply⟩ ∈ exchanges := by
  induction exchanges with
  | nil => simp [asked]
  | cons exchange rest ih =>
      obtain ⟨other | event, answer⟩ := exchange
      · simp [asked, ih]
      · simp [asked, ih]

theorem Transcript.forget {program : RecordedProgram Event Reply α}
    {exchanges : List (RecordedExchange Event Reply)} {value : α}
    (htranscript : Transcript program exchanges value) (result : α → β) :
    Transcript (program.forget result) (asked exchanges) (result value) := by
  induction htranscript with
  | done value =>
      rw [Program.forget_done]
      exact .done (result value)
  | @ask question next exchanges value reply hrest ih =>
      cases question with
      | inl question =>
          rw [Program.forget]
          exact transcript_ask_iff.mpr ⟨reply, asked exchanges, rfl, ih⟩
      | inr event =>
          rw [Program.forget]
          exact ih

/-- Every transcript of the program is that of a recorded one. -/
theorem Transcript.recorded {program : RecordedProgram Event Reply α} {result : α → β}
    {questions : List (Exchange Question Reply)} {answer : β}
    (htranscript : Transcript (program.forget result) questions answer) :
    ∃ exchanges value, Transcript program exchanges value ∧ asked exchanges = questions ∧
      result value = answer := by
  induction program generalizing questions with
  | done value =>
      rw [Program.forget_done] at htranscript
      obtain ⟨rfl, rfl⟩ := transcript_done_iff.mp htranscript
      exact ⟨[], value, .done value, rfl, rfl⟩
  | ask question next ih =>
      cases question with
      | inl question =>
          rw [Program.forget] at htranscript
          obtain ⟨reply, rest, rfl, hrest⟩ := transcript_ask_iff.mp htranscript
          obtain ⟨exchanges, value, hprogram, rfl, rfl⟩ := ih reply hrest
          exact ⟨⟨.inl question, reply⟩ :: exchanges, value,
            transcript_ask_iff.mpr ⟨reply, exchanges, rfl, hprogram⟩, rfl, rfl⟩
      | inr event =>
          rw [Program.forget] at htranscript
          obtain ⟨exchanges, value, hprogram, rfl, rfl⟩ := ih () htranscript
          exact ⟨⟨.inr event, ()⟩ :: exchanges, value,
            transcript_ask_iff.mpr ⟨(), exchanges, rfl, hprogram⟩, rfl, rfl⟩

theorem Transcript.of_silent {program : Program Question Reply α} {value : α}
    {exchanges : List (RecordedExchange Event Reply)}
    (htranscript : Transcript (program.silent : RecordedProgram Event Reply α) exchanges value) :
    Transcript program (asked exchanges) value := by
  have hforgot := htranscript.forget id
  rwa [Program.forget_silent] at hforgot

end Interaction
