import ElapPlatform.RelyGuaranteeCalls

/-!
# Callers that keep an account

Every caller has an account that only its own exchanges change.  If each call asks
what its discipline allows where the account stands, and leaves the account as the
object expects it, then so do all calls together, in whatever order their questions
are answered.
-/

namespace RelyGuarantee

open Interaction Interaction.Program Transition

variable {Question : Type} {Reply : Question → Type} {State Account α β : Type}

/-! ## One program -/

section Programs

variable (enter : State → Account → (question : Question) → Reply question → Account)
  (allows : Account → (question : Question) → Reply question → Prop)

/-- Every question may be answered in any state, since others change it in between. -/
def Follows (post : α → Account → Prop) : Program Question Reply α → Account → Prop
  | .done value, account => post value account
  | .ask question next, account => ∀ state reply, allows account question reply ∧
      Follows post (next reply) (enter state account question reply)

variable {enter allows} {post : α → Account → Prop} {account : Account}

theorem Follows.mono {post' : α → Account → Prop} {program : Program Question Reply α}
    (hfollows : Follows enter allows post program account)
    (hpost : ∀ value account, post value account → post' value account) :
    Follows enter allows post' program account := by
  induction program generalizing account with
  | done value => exact hpost value account hfollows
  | ask question next ih =>
      intro state reply
      obtain ⟨hallowed, hrest⟩ := hfollows state reply
      exact ⟨hallowed, ih reply hrest⟩

theorem Follows.bind {program : Program Question Reply α} {rest : α → Program Question Reply β}
    {post' : β → Account → Prop} (hfollows : Follows enter allows post program account)
    (hrest : ∀ value account, post value account →
      Follows enter allows post' (rest value) account) :
    Follows enter allows post' (program >>= rest) account := by
  induction program generalizing account with
  | done value => exact hrest value account hfollows
  | ask question next ih =>
      intro state reply
      obtain ⟨hallowed, hnext⟩ := hfollows state reply
      exact ⟨hallowed, ih reply hnext⟩

/-- A question whose exchange leaves the account as it is. -/
theorem follows_ask {question : Question} {next : Reply question → Program Question Reply α}
    (hkept : ∀ state reply, allows account question reply ∧
      enter state account question reply = account)
    (hrest : ∀ reply, Follows enter allows post (next reply) account) :
    Follows enter allows post (.ask question next) account := by
  intro state reply
  obtain ⟨hallowed, hsame⟩ := hkept state reply
  refine ⟨hallowed, ?_⟩
  rw [hsame]
  exact hrest reply

end Programs

/-! ## Concurrent calls -/

structure Discipline (State Account : Type) (calls : CallClass Question Reply) where
  answers : ℕ → State → (question : Question) → Reply question → State → Prop
  account : State → ℕ → Account
  enter : State → Account → (question : Question) → Reply question → Account
  allows : calls.Call → Account → (question : Question) → Reply question → Prop
  between : calls.Object → Account → Prop
  entered : ∀ {index state question reply next}, answers index state question reply next →
    account next =
      Function.update (account state) index (enter state (account state index) question reply)
  follows : ∀ {call object kept}, between object kept →
    Follows enter (allows call) (fun result => between result.2) (calls.perform call object) kept

namespace Discipline

variable {calls : CallClass Question Reply} (discipline : Discipline State Account calls)

structure Kept (system : CallSystem State calls) : Prop where
  idle : ∀ {index}, system.active index = none →
    discipline.between (system.objects index) (discipline.account system.shared index)
  active : ∀ {index activity}, system.active index = some activity →
    Follows discipline.enter (discipline.allows activity.call)
      (fun result => discipline.between result.2) activity.program
      (discipline.account system.shared index)

variable {discipline} {system next : CallSystem State calls} {label : CallLabel calls}

theorem Kept.begins {index : ℕ} {call : calls.Call} (hkept : discipline.Kept system)
    (hidle : system.active index = none) :
    discipline.Kept ⟨system.shared, system.objects, Function.update system.active index
      (some ⟨call, system.shared, calls.perform call (system.objects index)⟩)⟩ := by
  constructor
  · intro other hother
    rcases PartialMap.of_update_eq hother with ⟨_, hnew⟩ | ⟨_, hold⟩
    · cases hnew
    · exact hkept.idle hold
  · intro other activity hother
    rcases PartialMap.of_update_eq hother with ⟨rfl, hnew⟩ | ⟨_, hold⟩
    · cases hnew
      exact discipline.follows (hkept.idle hidle)
    · exact hkept.active hold

theorem Kept.asks {index : ℕ} {call : calls.Call} {begun after : State} {question : Question}
    {rest : Reply question → Program Question Reply (calls.Value × calls.Object)}
    {reply : Reply question} (hkept : discipline.Kept system)
    (hactive : system.active index = some ⟨call, begun, .ask question rest⟩)
    (hanswer : discipline.answers index system.shared question reply after) :
    discipline.Kept ⟨after, system.objects,
      Function.update system.active index (some ⟨call, begun, rest reply⟩)⟩ := by
  have haccount := discipline.entered hanswer
  constructor
  · intro other hother
    dsimp only at hother ⊢
    rcases PartialMap.of_update_eq hother with ⟨_, hnew⟩ | ⟨hne, hold⟩
    · cases hnew
    · rw [haccount, Function.update_of_ne hne]
      exact hkept.idle hold
  · intro other activity hother
    dsimp only at hother ⊢
    rcases PartialMap.of_update_eq hother with ⟨rfl, hnew⟩ | ⟨hne, hold⟩
    · cases hnew
      rw [haccount, Function.update_self]
      exact (hkept.active hactive system.shared reply).2
    · rw [haccount, Function.update_of_ne hne]
      exact hkept.active hold

theorem Kept.returns {index : ℕ} {call : calls.Call} {begun : State} {value : calls.Value}
    {object : calls.Object} (hkept : discipline.Kept system)
    (hactive : system.active index = some ⟨call, begun, .done (value, object)⟩) :
    discipline.Kept ⟨system.shared, Function.update system.objects index object,
      Function.update system.active index none⟩ := by
  constructor
  · intro other hother
    dsimp only at hother ⊢
    by_cases hsame : other = index
    · subst hsame
      rw [Function.update_self]
      exact hkept.active hactive
    · rw [Function.update_of_ne hsame] at hother ⊢
      exact hkept.idle hother
  · intro other activity hother
    rcases PartialMap.of_update_eq hother with ⟨_, hnew⟩ | ⟨_, hold⟩
    · cases hnew
    · exact hkept.active hold

theorem Kept.step (hkept : discipline.Kept system)
    (hstep : CallStep discipline.answers calls system label next) : discipline.Kept next := by
  cases hstep with
  | begins hidle => exact hkept.begins hidle
  | asks hactive hanswer => exact hkept.asks hactive hanswer
  | returns hactive => exact hkept.returns hactive

/-- Every question of a call in progress is one that its discipline allows. -/
theorem Kept.allowed {index : ℕ} {question : Question} {reply : Reply question}
    (hkept : discipline.Kept system)
    (hstep : CallStep discipline.answers calls system (.asks index question reply) next) :
    ∃ activity, system.active index = some activity ∧
      discipline.allows activity.call (discipline.account system.shared index) question reply := by
  cases hstep with
  | asks hactive hanswer => exact ⟨_, hactive, (hkept.active hactive system.shared reply).1⟩

end Discipline

end RelyGuarantee
