import ElapPlatform.InteractionRecording

/-!
# Programs that comment on their exchanges

A recorded program whose events depend on the exchange before them alone: a program
with a commentary put in.
-/

namespace Interaction

variable {Question Event : Type} {Reply : Question → Type} {α β γ : Type}

namespace Program

def reportAll : List Event → RecordedProgram Event Reply Unit
  | [] => .done ()
  | event :: events => .ask (.inr event) fun _ => reportAll events

/-- The program with the events of each exchange behind it. -/
def commented (comment : (question : Question) → Reply question → List Event) :
    Program Question Reply α → RecordedProgram Event Reply α
  | .done value => .done value
  | .ask question next => .ask (.inl question) fun reply : Reply question =>
      (reportAll (comment question reply)).bind fun _ => (next reply).commented comment

section Laws

variable {comment : (question : Question) → Reply question → List Event}

@[simp] theorem reportAll_nil :
    (reportAll [] : RecordedProgram Event Reply Unit) = .done () := rfl

@[simp] theorem reportAll_cons (event : Event) (events : List Event) :
    (reportAll (event :: events) : RecordedProgram Event Reply Unit) =
      .ask (.inr event) fun _ => reportAll events := rfl

@[simp] theorem silent_done (value : α) :
    ((Program.done value : Program Question Reply α).silent : RecordedProgram Event Reply α) =
      .done value := by
  rw [silent]

@[simp] theorem silent_ask (question : Question)
    (next : Reply question → Program Question Reply α) :
    ((Program.ask question next).silent : RecordedProgram Event Reply α) =
      .ask (.inl question) fun reply : Reply question => (next reply).silent := by
  rw [silent]

@[simp] theorem commented_done (value : α) :
    (Program.done value : Program Question Reply α).commented comment = .done value := by
  rw [commented]

@[simp] theorem commented_ask (question : Question)
    (next : Reply question → Program Question Reply α) :
    (Program.ask question next).commented comment =
      .ask (.inl question) fun reply : Reply question =>
        reportAll (comment question reply) >>= fun _ => (next reply).commented comment := by
  rw [commented]
  rfl

theorem bind_bind (program : Program Question Reply α) (rest : α → Program Question Reply β)
    (last : β → Program Question Reply γ) :
    (program >>= rest) >>= last = program >>= fun value => rest value >>= last := by
  induction program with
  | done value => rfl
  | ask question next ih => exact congrArg (Program.ask question) (funext ih)

theorem silent_bind (program : Program Question Reply α) (rest : α → Program Question Reply β) :
    ((program >>= rest).silent : RecordedProgram Event Reply β) =
      program.silent >>= fun value => (rest value).silent := by
  induction program with
  | done value => rw [done_bind, silent_done, done_bind]
  | ask question next ih => simp only [ask_bind, silent_ask, ih]

theorem commented_bind (program : Program Question Reply α)
    (rest : α → Program Question Reply β) :
    (program >>= rest).commented comment =
      program.commented comment >>= fun value => (rest value).commented comment := by
  induction program with
  | done value => rw [done_bind, commented_done, done_bind]
  | ask question next ih => simp only [ask_bind, commented_ask, bind_bind, ih]

end Laws

end Program

section Transcripts

open Program

variable {comment : (question : Question) → Reply question → List Event}

def event (event : Event) : RecordedExchange Event Reply := ⟨.inr event, ()⟩

/-- An exchange and the events behind it. -/
def commentedExchange (comment : (question : Question) → Reply question → List Event)
    (exchange : Exchange Question Reply) : List (RecordedExchange Event Reply) :=
  ⟨.inl exchange.1, exchange.2⟩ :: (comment exchange.1 exchange.2).map event

def commentary (comment : (question : Question) → Reply question → List Event)
    (exchanges : List (Exchange Question Reply)) : List Event :=
  exchanges.flatMap fun exchange => comment exchange.1 exchange.2

theorem reported_map_event (events : List Event) :
    reported (events.map event : List (RecordedExchange Event Reply)) = events := by
  induction events with
  | nil => rfl
  | cons first events ih => exact congrArg (first :: ·) ih

theorem asked_map_event (events : List Event) :
    asked (events.map event : List (RecordedExchange Event Reply)) = [] := by
  induction events with
  | nil => rfl
  | cons first events ih => exact ih

theorem transcript_reportAll {events : List Event}
    {exchanges : List (RecordedExchange Event Reply)} {value : Unit}
    (htranscript : Transcript (reportAll events) exchanges value) :
    exchanges = events.map event := by
  induction events generalizing exchanges with
  | nil => exact (transcript_done_iff.mp htranscript).1
  | cons first events ih =>
      obtain ⟨_, later, rfl, hlater⟩ := transcript_ask_iff.mp htranscript
      rw [ih hlater]
      rfl

/-- A commented program behaves as the plain one, with its commentary and no other events. -/
theorem Transcript.of_commented {program : Program Question Reply α}
    {exchanges : List (RecordedExchange Event Reply)} {value : α}
    (htranscript : Transcript (program.commented comment) exchanges value) :
    Transcript program (asked exchanges) value ∧
      exchanges = (asked exchanges).flatMap (commentedExchange comment) ∧
      reported exchanges = commentary comment (asked exchanges) := by
  induction program generalizing exchanges with
  | done result =>
      rw [commented_done] at htranscript
      obtain ⟨rfl, rfl⟩ := transcript_done_iff.mp htranscript
      exact ⟨.done value, rfl, rfl⟩
  | ask question next ih =>
      rw [commented_ask] at htranscript
      obtain ⟨reply, later, rfl, hlater⟩ := transcript_ask_iff.mp htranscript
      obtain ⟨reporting, rest, _, rfl, hreporting, hrest⟩ := transcript_bind_iff.mp hlater
      obtain ⟨hplain, hexchanges, hreported⟩ := ih reply hrest
      obtain rfl := transcript_reportAll hreporting
      have hasked : asked (⟨.inl question, reply⟩ ::
          ((comment question reply).map event ++ rest) : List (RecordedExchange Event Reply)) =
            ⟨question, reply⟩ :: asked rest := by
        rw [asked, asked_append, asked_map_event, List.nil_append]
      rw [hasked]
      refine ⟨transcript_ask_iff.mpr ⟨reply, asked rest, rfl, hplain⟩, ?_, ?_⟩
      · rw [List.flatMap_cons, ← hexchanges]
        rfl
      · rw [reported_question, reported_append, reported_map_event, hreported]
        rfl

end Transcripts

end Interaction
