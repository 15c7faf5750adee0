import Mathlib.Tactic

/-!
# Runs of a labelled transition system

A run keeps its history: every label with the state it was taken in.  An
invariant may speak of the history, and every entry of the history is a step of
a shorter run.
-/

namespace Transition

variable {State Label : Type}

abbrev History (State Label : Type) := List (State × Label)

inductive Run (step : State → Label → State → Prop) (start : State) :
    History State Label → State → Prop
  | start : Run step start [] start
  | snoc {history : History State Label} {state next : State} {label : Label}
      (hrun : Run step start history state) (hstep : step state label next) :
      Run step start (history ++ [(state, label)]) next

namespace Run

variable {step : State → Label → State → Prop} {start : State}

theorem andThen {history : History State Label} {state next : State}
    (hrun : Run step start history state) (label : Label) (hstep : step state label next) :
    Run step start (history ++ [(state, label)]) next :=
  hrun.snoc hstep

/-- An invariant of the history and the state holds along every run. -/
theorem invariant (Holds : History State Label → State → Prop)
    (hstart : Holds [] start)
    (hstep : ∀ {history state label next}, Run step start history state →
      Holds history state → step state label next →
      Holds (history ++ [(state, label)]) next)
    {history : History State Label} {state : State}
    (hrun : Run step start history state) : Holds history state := by
  induction hrun with
  | start => exact hstart
  | snoc hrun hlast ih => exact hstep hrun ih hlast

theorem step_of_mem {history : History State Label} {final : State}
    (hrun : Run step start history final) {state : State} {label : Label}
    (hmem : (state, label) ∈ history) :
    ∃ before next, Run step start before state ∧ step state label next ∧
      Run step start (before ++ [(state, label)]) next ∧
      (before ++ [(state, label)]) <+: history := by
  induction hrun with
  | start => simp at hmem
  | snoc hrun hlast ih =>
      rw [List.mem_append, List.mem_singleton] at hmem
      rcases hmem with hearlier | hlastEntry
      · obtain ⟨before, next, hbefore, hstep, hafter, hprefix⟩ := ih hearlier
        exact ⟨before, next, hbefore, hstep, hafter,
          hprefix.trans (List.prefix_append _ _)⟩
      · cases hlastEntry
        exact ⟨_, _, hrun, hlast, hrun.snoc hlast, List.prefix_refl _⟩

/-- What stands before an entry is the history of a run to its state. -/
theorem of_split {before after : History State Label} {state final : State} {label : Label}
    (hrun : Run step start (before ++ (state, label) :: after) final) :
    ∃ next, Run step start before state ∧ step state label next := by
  generalize hhistory : before ++ (state, label) :: after = history at hrun
  induction hrun generalizing after with
  | start => simp at hhistory
  | snoc hrun hlast ih =>
      rcases List.eq_nil_or_concat after with rfl | ⟨rest, last, rfl⟩
      · obtain ⟨rfl, hentry⟩ := List.append_inj' hhistory rfl
        cases hentry
        exact ⟨_, hrun, hlast⟩
      · rw [List.concat_eq_append, ← List.cons_append, ← List.append_assoc] at hhistory
        obtain ⟨hrest, _⟩ := List.append_inj' hhistory rfl
        exact ih hrest

/-- Every admissible run is matched, label by label, by a run of a system that
simulates each step. -/
theorem simulate {Abstract : Type} (abstractStep : Abstract → Label → Abstract → Prop)
    (Relates : State → Abstract → Prop) (Admissible : Label → Prop)
    (hstep : ∀ {state label next model}, Relates state model → Admissible label →
      step state label next →
      ∃ model', abstractStep model label model' ∧ Relates next model')
    {history : History State Label} {final : State} {model : Abstract}
    (hrun : Run step start history final) (hstart : Relates start model)
    (hlabels : ∀ entry ∈ history, Admissible entry.2) :
    ∃ modelHistory model', Run abstractStep model modelHistory model' ∧
      modelHistory.map Prod.snd = history.map Prod.snd ∧ Relates final model' := by
  induction hrun with
  | start => exact ⟨[], model, .start, rfl, hstart⟩
  | @snoc history state next label hrun hlast ih =>
      obtain ⟨modelHistory, model', hmodel, hsame, hrelates⟩ :=
        ih fun entry hmem => hlabels entry (List.mem_append_left _ hmem)
      have hlabel : Admissible label :=
        hlabels (state, label) (List.mem_append_right _ (List.mem_singleton_self _))
      obtain ⟨last, hmodelStep, hnext⟩ := hstep hrelates hlabel hlast
      refine ⟨modelHistory ++ [(model', label)], last, hmodel.snoc hmodelStep, ?_, hnext⟩
      rw [List.map_append, List.map_append, hsame]
      rfl

/-- A map of states and labels that respects steps respects runs. -/
theorem map {State' Label' : Type} {step' : State' → Label' → State' → Prop}
    (onState : State → State') (onLabel : Label → Label')
    (hstep : ∀ {state label next}, step state label next →
      step' (onState state) (onLabel label) (onState next))
    {history : History State Label} {final : State} (hrun : Run step start history final) :
    Run step' (onState start)
      (history.map fun entry => (onState entry.1, onLabel entry.2)) (onState final) := by
  induction hrun with
  | start => exact .start
  | snoc hrun hlast ih =>
      rw [List.map_append]
      exact ih.snoc (hstep hlast)

section Restriction

variable (Keeps : State → Label → State → Prop) (Clear : State → Label → Prop)

theorem clear_of_keeps
    (hkeeps : ∀ {state label next}, step state label next → Keeps state label next →
      Clear state label)
    {history : History State Label} {final : State}
    (hrun : Run (fun state label next => step state label next ∧ Keeps state label next)
      start history final) : ∀ entry ∈ history, Clear entry.1 entry.2 := by
  induction hrun with
  | start => simp
  | snoc hrun hlast ih =>
      intro entry hmem
      rw [List.mem_append, List.mem_singleton] at hmem
      rcases hmem with hearlier | rfl
      · exact ih entry hearlier
      · exact hkeeps hlast.1 hlast.2

/-- A run keeps a property of its steps when each of them is taken in a clear state. -/
theorem keeps_iff
    (hkeeps : ∀ {state label next}, step state label next →
      (Keeps state label next ↔ Clear state label))
    {history : History State Label} {final : State} (hrun : Run step start history final) :
    Run (fun state label next => step state label next ∧ Keeps state label next)
      start history final ↔ ∀ entry ∈ history, Clear entry.1 entry.2 := by
  refine ⟨clear_of_keeps Keeps Clear fun hstep => (hkeeps hstep).mp, fun hclear => ?_⟩
  induction hrun with
  | start => exact .start
  | @snoc history state next label hrun hlast ih =>
      have hlabel : Clear state label :=
        hclear (state, label) (List.mem_append_right _ (List.mem_singleton_self _))
      exact (ih fun entry hmem => hclear entry (List.mem_append_left _ hmem)).snoc
        ⟨hlast, (hkeeps hlast).mpr hlabel⟩

end Restriction

end Run

end Transition
