import ElapPlatform.InteractionTranscript
import ElapPlatform.TransitionRun

/-!
# Programs side by side

Each party runs a program of its own, and their questions interleave over one shared
state.  In every run the exchanges of a party are a transcript of its program, and a
party can run a part of its program while the others pause.
-/

namespace Interaction

open Transition

variable {Party Question State : Type} {Reply : Question → Type} {Result : Party → Type}

/-- The shared state, and what is left of each program. -/
structure Parallel (Question : Type) (Reply : Question → Type) (Result : Party → Type)
    (State : Type) where
  state : State
  programs : (party : Party) → Program Question Reply (Result party)

structure Turn (Party Question : Type) (Reply : Question → Type) where
  party : Party
  exchange : Exchange Question Reply

abbrev TurnHistory (Party Question : Type) (Reply : Question → Type) (Result : Party → Type)
    (State : Type) :=
  History (Parallel Question Reply Result State) (Turn Party Question Reply)

section Steps

variable [DecidableEq Party]

inductive TurnStep
    (answers : Party → State → (question : Question) → Reply question → State → Prop) :
    Parallel Question Reply Result State → Turn Party Question Reply →
      Parallel Question Reply Result State → Prop
  | asks {system : Parallel Question Reply Result State} {party : Party} {question : Question}
      {next : Reply question → Program Question Reply (Result party)} {reply : Reply question}
      {state : State} (hprogram : system.programs party = .ask question next)
      (hanswer : answers party system.state question reply state) :
      TurnStep answers system ⟨party, ⟨question, reply⟩⟩
        ⟨state, Function.update system.programs party (next reply)⟩

/-- What one party asked, with the replies. -/
def exchangesBy (party : Party)
    (history : TurnHistory Party Question Reply Result State) : List (Exchange Question Reply) :=
  history.filterMap fun entry =>
    if entry.2.party = party then some entry.2.exchange else none

section Exchanges

variable {party mover : Party} {history : TurnHistory Party Question Reply Result State}
  {system : Parallel Question Reply Result State} {exchange : Exchange Question Reply}

@[simp] theorem exchangesBy_nil :
    exchangesBy party ([] : TurnHistory Party Question Reply Result State) = [] := rfl

@[simp] theorem exchangesBy_snoc_own :
    exchangesBy party (history ++ [(system, ⟨party, exchange⟩)]) =
      exchangesBy party history ++ [exchange] := by
  simp [exchangesBy]

theorem exchangesBy_snoc_other (hother : mover ≠ party) :
    exchangesBy party (history ++ [(system, ⟨mover, exchange⟩)]) = exchangesBy party history := by
  simp [exchangesBy, hother]

theorem mem_exchangesBy :
    exchange ∈ exchangesBy party history ↔ ∃ system, (system, ⟨party, exchange⟩) ∈ history := by
  unfold exchangesBy
  rw [List.mem_filterMap]
  constructor
  · rintro ⟨⟨system, ⟨mover, asked⟩⟩, hmem, hentry⟩
    by_cases hown : mover = party
    · subst hown
      simp only [if_true, Option.some.injEq] at hentry
      subst hentry
      exact ⟨system, hmem⟩
    · simp [hown] at hentry
  · rintro ⟨system, hmem⟩
    exact ⟨_, hmem, by simp⟩

end Exchanges

section Runs

variable {answers : Party → State → (question : Question) → Reply question → State → Prop}
  {start system : Parallel Question Reply Result State}
  {history : TurnHistory Party Question Reply Result State} {party : Party}

/-- What a party has asked, before anything it may ask yet. -/
theorem transcript_of_turns (hrun : Run (TurnStep answers) start history system)
    {exchanges : List (Exchange Question Reply)} {result : Result party}
    (hrest : Transcript (system.programs party) exchanges result) :
    Transcript (start.programs party) (exchangesBy party history ++ exchanges) result := by
  induction hrun generalizing exchanges with
  | start => exact hrest
  | snoc hrun hstep ih =>
      cases hstep with
      | @asks mover question next reply state hprogram hanswer =>
          by_cases hown : mover = party
          · subst hown
            simp only [Function.update_self] at hrest
            rw [exchangesBy_snoc_own, List.append_assoc]
            refine ih ?_
            rw [hprogram]
            exact .ask reply hrest
          · simp only [Function.update_of_ne (Ne.symm hown)] at hrest
            rw [exchangesBy_snoc_other hown]
            exact ih hrest

theorem transcript_of_done (hrun : Run (TurnStep answers) start history system)
    {result : Result party} (hdone : system.programs party = .done result) :
    Transcript (start.programs party) (exchangesBy party history) result := by
  have hrest : Transcript (system.programs party) [] result := by
    rw [hdone]
    exact .done result
  simpa using transcript_of_turns hrun hrest

/-- A party runs a part of its program while the others pause. -/
theorem exists_run_of_runs {α : Type} {program : Program Question Reply α}
    {rest : α → Program Question Reply (Result party)} {value : α} {state : State}
    {before : State} {programs : (party : Party) → Program Question Reply (Result party)}
    (hruns : Runs (answers party) program before value state)
    (hrun : Run (TurnStep answers) start history ⟨before, programs⟩)
    (hprogram : programs party = program >>= rest) :
    ∃ later, Run (TurnStep answers) start later
      ⟨state, Function.update programs party (rest value)⟩ := by
  induction hruns generalizing history programs with
  | done value state =>
      have hsame : Function.update programs party (rest value) = programs :=
        Function.update_eq_self_iff.mpr hprogram.symm
      rw [hsame]
      exact ⟨history, hrun⟩
  | @ask question next before middle final reply value hanswer hlater ih =>
      have hturn := hrun.snoc (.asks hprogram hanswer)
      obtain ⟨later, hlast⟩ := ih hturn (Function.update_self party _ programs)
      rw [Function.update_idem] at hlast
      exact ⟨later, hlast⟩

/-- Runs in an environment that answers less, and always so. -/
theorem run_of_stronger
    {answers' : Party → State → (question : Question) → Reply question → State → Prop}
    {Fine : Turn Party Question Reply → Prop}
    (hanswers : ∀ {party state question reply next}, answers' party state question reply next →
      answers party state question reply next ∧ Fine ⟨party, ⟨question, reply⟩⟩)
    (hrun : Run (TurnStep answers') start history system) :
    Run (TurnStep answers) start history system ∧ ∀ entry ∈ history, Fine entry.2 := by
  induction hrun with
  | start => exact ⟨.start, by simp⟩
  | snoc hrun hstep ih =>
      obtain ⟨hearlier, hfine⟩ := ih
      cases hstep with
      | asks hprogram hanswer =>
          obtain ⟨hweaker, hlast⟩ := hanswers hanswer
          refine ⟨hearlier.snoc (.asks hprogram hweaker), fun entry hmem => ?_⟩
          rcases List.mem_append.mp hmem with hbefore | hnew
          · exact hfine entry hbefore
          · rw [List.mem_singleton.mp hnew]
            exact hlast

end Runs

end Steps

end Interaction
