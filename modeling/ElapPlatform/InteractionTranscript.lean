import ElapPlatform.InteractionProgram

/-!
# Transcripts of a program

The questions that a program asks on one of its ways to a value, each with its
reply.  A list is justified when each of its entries is accepted after the entries
in front of it.
-/

namespace Interaction

variable {Question : Type} {Reply : Question → Type} {α β Entry : Type}

abbrev Exchange (Question : Type) (Reply : Question → Type) :=
  (question : Question) × Reply question

inductive Transcript : Program Question Reply α → List (Exchange Question Reply) → α → Prop
  | done (value : α) : Transcript (.done value) [] value
  | ask {question : Question} {next : Reply question → Program Question Reply α}
      {exchanges : List (Exchange Question Reply)} {value : α} (reply : Reply question)
      (hrest : Transcript (next reply) exchanges value) :
      Transcript (.ask question next) (⟨question, reply⟩ :: exchanges) value

section Transcripts

variable {exchanges : List (Exchange Question Reply)}

@[simp] theorem transcript_done_iff {value result : α} :
    Transcript (.done value : Program Question Reply α) exchanges result ↔
      exchanges = [] ∧ result = value := by
  constructor
  · intro htranscript
    cases htranscript
    exact ⟨rfl, rfl⟩
  · rintro ⟨rfl, rfl⟩
    exact .done result

@[simp] theorem transcript_ask_iff {question : Question}
    {next : Reply question → Program Question Reply α} {value : α} :
    Transcript (.ask question next) exchanges value ↔
      ∃ reply rest, exchanges = ⟨question, reply⟩ :: rest ∧
        Transcript (next reply) rest value := by
  constructor
  · intro htranscript
    cases htranscript with
    | ask reply hrest => exact ⟨reply, _, rfl, hrest⟩
  · rintro ⟨reply, rest, rfl, hrest⟩
    exact .ask reply hrest

theorem transcript_bind_iff {program : Program Question Reply α}
    {rest : α → Program Question Reply β} {value : β} :
    Transcript (program >>= rest) exchanges value ↔
      ∃ first last middle, exchanges = first ++ last ∧ Transcript program first middle ∧
        Transcript (rest middle) last value := by
  induction program generalizing exchanges with
  | done middle => simp
  | ask question next ih =>
      simp only [Program.ask_bind, transcript_ask_iff, ih]
      constructor
      · rintro ⟨reply, _, rfl, first, last, middle, rfl, hfirst, hlast⟩
        exact ⟨⟨question, reply⟩ :: first, last, middle, rfl, ⟨reply, first, rfl, hfirst⟩, hlast⟩
      · rintro ⟨_, last, middle, rfl, ⟨reply, first, rfl, hfirst⟩, hlast⟩
        exact ⟨reply, first ++ last, rfl, first, last, middle, rfl, hfirst, hlast⟩

theorem transcript_perform_iff {question : Question} {reply : Reply question} :
    Transcript (.ask question .done) exchanges reply ↔ exchanges = [⟨question, reply⟩] := by
  rw [transcript_ask_iff]
  constructor
  · rintro ⟨reply', rest, rfl, hdone⟩
    obtain ⟨rfl, rfl⟩ := transcript_done_iff.mp hdone
    rfl
  · rintro rfl
    exact ⟨reply, [], rfl, .done reply⟩

end Transcripts

/-! ## Answered transcripts -/

/-- The environment gives these replies, one after the other. -/
inductive Answered {State : Type}
    (answers : State → (question : Question) → Reply question → State → Prop) :
    State → List (Exchange Question Reply) → State → Prop
  | nil (state : State) : Answered answers state [] state
  | cons {state middle final : State} {question : Question} {reply : Reply question}
      {exchanges : List (Exchange Question Reply)}
      (hanswer : answers state question reply middle)
      (hrest : Answered answers middle exchanges final) :
      Answered answers state (⟨question, reply⟩ :: exchanges) final

section Answers

variable {State : Type}
  {answers : State → (question : Question) → Reply question → State → Prop}
  {exchanges later : List (Exchange Question Reply)} {state final : State}

@[simp] theorem answered_nil_iff : Answered answers state [] final ↔ final = state := by
  constructor
  · intro hanswered
    cases hanswered
    rfl
  · rintro rfl
    exact .nil final

@[simp] theorem answered_cons_iff {question : Question} {reply : Reply question} :
    Answered answers state (⟨question, reply⟩ :: exchanges) final ↔
      ∃ middle, answers state question reply middle ∧ Answered answers middle exchanges final := by
  constructor
  · intro hanswered
    cases hanswered with
    | cons hanswer hrest => exact ⟨_, hanswer, hrest⟩
  · rintro ⟨middle, hanswer, hrest⟩
    exact .cons hanswer hrest

theorem answered_append_iff :
    Answered answers state (exchanges ++ later) final ↔
      ∃ middle, Answered answers state exchanges middle ∧
        Answered answers middle later final := by
  induction exchanges generalizing state with
  | nil => simp
  | cons exchange rest ih =>
      obtain ⟨question, reply⟩ := exchange
      simp only [List.cons_append, answered_cons_iff, ih]
      constructor
      · rintro ⟨first, hanswer, middle, hrest, hlater⟩
        exact ⟨middle, ⟨first, hanswer, hrest⟩, hlater⟩
      · rintro ⟨middle, ⟨first, hanswer, hrest⟩, hlater⟩
        exact ⟨first, hanswer, middle, hrest, hlater⟩

/-- A run is a transcript with its answers. -/
theorem Runs.transcript {program : Program Question Reply α} {value : α}
    (hrun : Runs answers program state value final) :
    ∃ exchanges, Transcript program exchanges value ∧
      Answered answers state exchanges final := by
  induction hrun with
  | done value state => exact ⟨[], .done value, .nil state⟩
  | ask hanswer hrest ih =>
      obtain ⟨exchanges, htranscript, hanswered⟩ := ih
      exact ⟨_, .ask _ htranscript, .cons hanswer hanswered⟩

end Answers

/-! ## Justified entries -/

def Justified (accepts : List Entry → Entry → Prop) (entries : List Entry) : Prop :=
  ∀ before entry after, entries = before ++ entry :: after → accepts before entry

namespace Justified

variable {accepts : List Entry → Entry → Prop} {entries later : List Entry}

theorem nil : Justified accepts [] := by
  intro before entry after hsplit
  exact absurd hsplit.symm (List.append_ne_nil_of_right_ne_nil _ (List.cons_ne_nil _ _))

theorem append (hentries : Justified accepts entries)
    (hlater : Justified (fun before entry => accepts (entries ++ before) entry) later) :
    Justified accepts (entries ++ later) := by
  intro before entry after hsplit
  rcases List.append_eq_append_iff.mp hsplit with ⟨middle, rfl, hrest⟩ | ⟨middle, rfl, hrest⟩
  · exact hlater middle entry after hrest
  · cases middle with
    | nil =>
        rw [List.nil_append] at hrest
        have hentry := hlater [] entry after hrest.symm
        rwa [List.append_nil, List.append_nil] at hentry
    | cons head tail =>
        rw [List.cons_append, List.cons.injEq] at hrest
        obtain ⟨rfl, _⟩ := hrest
        exact hentries before entry tail rfl

theorem append_iff :
    Justified accepts (entries ++ later) ↔
      Justified accepts entries ∧ Justified (fun before => accepts (entries ++ before)) later := by
  constructor
  · intro hall
    constructor
    · rintro before entry after rfl
      exact hall before entry (after ++ later) (by rw [List.append_assoc, List.cons_append])
    · rintro before entry after rfl
      exact hall (entries ++ before) entry after (by rw [List.append_assoc])
  · rintro ⟨hentries, hlater⟩
    exact hentries.append hlater

theorem mono {accepts' : List Entry → Entry → Prop} (hentries : Justified accepts entries)
    (hweaken : ∀ before entry, accepts before entry → accepts' before entry) :
    Justified accepts' entries := by
  intro before entry after hsplit
  exact hweaken before entry (hentries before entry after hsplit)

theorem of_forall (hentries : ∀ before, ∀ entry ∈ entries, accepts before entry) :
    Justified accepts entries := by
  rintro before entry after rfl
  exact hentries before entry (List.mem_append_right before List.mem_cons_self)

theorem concat_iff {entry : Entry} :
    Justified accepts (entries ++ [entry]) ↔ Justified accepts entries ∧ accepts entries entry := by
  constructor
  · intro hentries
    refine ⟨fun before other after hsplit => ?_, hentries entries entry [] rfl⟩
    exact hentries before other (after ++ [entry]) (by rw [hsplit, List.append_assoc]; rfl)
  · rintro ⟨hentries, hentry⟩
    refine hentries.append fun before other after hsplit => ?_
    cases before with
    | nil =>
        obtain ⟨rfl, _⟩ := List.cons.inj hsplit
        rwa [List.append_nil]
    | cons first before => simp at hsplit

theorem cons_iff {entry : Entry} :
    Justified accepts (entry :: entries) ↔
      accepts [] entry ∧ Justified (fun before => accepts (entry :: before)) entries := by
  constructor
  · intro hentries
    refine ⟨hentries [] entry entries rfl, fun before next after hsplit => ?_⟩
    exact hentries (entry :: before) next after (by rw [hsplit, List.cons_append])
  · rintro ⟨hentry, hentries⟩ before next after hsplit
    cases before with
    | nil =>
        rw [List.nil_append, List.cons.injEq] at hsplit
        obtain ⟨rfl, _⟩ := hsplit
        exact hentry
    | cons head tail =>
        rw [List.cons_append, List.cons.injEq] at hsplit
        obtain ⟨rfl, hrest⟩ := hsplit
        exact hentries tail next after hrest

end Justified

/-- An entry that stands once in a list splits it in one way. -/
theorem split_unique {P : Entry → Prop} {before after earlier later : List Entry}
    {entry other : Entry} (hbefore : ∀ found ∈ before, ¬ P found)
    (hafter : ∀ found ∈ after, ¬ P found) (hother : P other)
    (hsplit : before ++ entry :: after = earlier ++ other :: later) :
    earlier = before ∧ other = entry ∧ later = after := by
  rcases List.append_eq_append_iff.mp hsplit with ⟨middle, rfl, hrest⟩ | ⟨middle, rfl, hrest⟩
  · cases middle with
    | nil =>
        obtain ⟨rfl, rfl⟩ := List.cons.inj hrest
        exact ⟨List.append_nil before, rfl, rfl⟩
    | cons first middle =>
        obtain ⟨_, rfl⟩ := List.cons.inj hrest
        exact absurd hother (hafter other (List.mem_append_right middle List.mem_cons_self))
  · cases middle with
    | nil =>
        obtain ⟨rfl, rfl⟩ := List.cons.inj hrest
        exact ⟨(List.append_nil earlier).symm, rfl, rfl⟩
    | cons first middle =>
        obtain ⟨rfl, _⟩ := List.cons.inj hrest
        exact absurd hother (hbefore other (List.mem_append_right earlier List.mem_cons_self))

/-! ## Projected transcripts -/

/-- A condition on exchanges and a projection of them that take a list piece by piece. -/
structure Piecewise (admits : List Entry → Prop) (project : List Entry → List Entry) : Prop where
  admits_split : ∀ {first last}, admits (first ++ last) → admits first ∧ admits last
  project_nil : project [] = []
  project_append : ∀ first last, project (first ++ last) = project first ++ project last

theorem Piecewise.keepsAll : Piecewise (fun _ : List Entry => True) id :=
  ⟨fun _ => ⟨trivial, trivial⟩, rfl, fun _ _ => rfl⟩

/-- Every admitted way of the program to a value that counts is, projected, a way of
the other program to the same value. -/
def Projects (admits : List (Exchange Question Reply) → Prop)
    (project : List (Exchange Question Reply) → List (Exchange Question Reply))
    (counts : α → Prop) (program other : Program Question Reply α) : Prop :=
  ∀ exchanges value, Transcript program exchanges value → admits exchanges → counts value →
    Transcript other (project exchanges) value

namespace Projects

variable {admits : List (Exchange Question Reply) → Prop}
  {project : List (Exchange Question Reply) → List (Exchange Question Reply)}
  {counts : α → Prop} {counts' : β → Prop}

theorem done (hpieces : Piecewise admits project) (value : α) :
    Projects admits project counts (.done value) (.done value) := by
  intro exchanges result htranscript _ _
  obtain ⟨rfl, rfl⟩ := transcript_done_iff.mp htranscript
  rw [hpieces.project_nil]
  exact .done result

theorem of_not_counts {other : Program Question Reply α} {value : α} (hnot : ¬ counts value) :
    Projects admits project counts (.done value) other := by
  intro exchanges result htranscript _ hcounts
  rw [(transcript_done_iff.mp htranscript).2] at hcounts
  exact absurd hcounts hnot

theorem ask {question : Question} {next next' : Reply question → Program Question Reply α}
    (hpieces : Piecewise admits project)
    (hkept : ∀ reply, project [⟨question, reply⟩] = [⟨question, reply⟩])
    (hnext : ∀ reply, admits [⟨question, reply⟩] →
      Projects admits project counts (next reply) (next' reply)) :
    Projects admits project counts (.ask question next) (.ask question next') := by
  intro exchanges value htranscript hadmitted hcounts
  obtain ⟨reply, rest, rfl, hrest⟩ := transcript_ask_iff.mp htranscript
  rw [← List.singleton_append] at hadmitted ⊢
  obtain ⟨hfirst, hlast⟩ := hpieces.admits_split hadmitted
  rw [hpieces.project_append, hkept, List.singleton_append]
  exact .ask reply (hnext reply hfirst rest value hrest hlast hcounts)

/-- A question that the projection leaves out. -/
theorem hidden {question : Question} {next : Reply question → Program Question Reply α}
    {other : Program Question Reply α} (hpieces : Piecewise admits project)
    (hleft : ∀ reply, project [⟨question, reply⟩] = [])
    (hnext : ∀ reply, admits [⟨question, reply⟩] →
      Projects admits project counts (next reply) other) :
    Projects admits project counts (.ask question next) other := by
  intro exchanges value htranscript hadmitted hcounts
  obtain ⟨reply, rest, rfl, hrest⟩ := transcript_ask_iff.mp htranscript
  rw [← List.singleton_append] at hadmitted ⊢
  obtain ⟨hfirst, hlast⟩ := hpieces.admits_split hadmitted
  rw [hpieces.project_append, hleft, List.nil_append]
  exact hnext reply hfirst rest value hrest hlast hcounts

/-- What follows a value that does not count must not lead to one that does. -/
theorem bind {program other : Program Question Reply α}
    {rest rest' : α → Program Question Reply β} (hpieces : Piecewise admits project)
    (hfirst : Projects admits project counts program other)
    (hrest : ∀ value, counts value → Projects admits project counts' (rest value) (rest' value))
    (hlost : ∀ value, ¬ counts value → ∀ exchanges result,
      Transcript (rest value) exchanges result → ¬ counts' result) :
    Projects admits project counts' (program >>= rest) (other >>= rest') := by
  intro exchanges result htranscript hadmitted hcounts
  obtain ⟨first, last, middle, rfl, hprogram, hlast⟩ := transcript_bind_iff.mp htranscript
  obtain ⟨hadmitsFirst, hadmitsLast⟩ := hpieces.admits_split hadmitted
  by_cases hmiddle : counts middle
  · have hother := hfirst first middle hprogram hadmitsFirst hmiddle
    have hother' := hrest middle hmiddle last result hlast hadmitsLast hcounts
    rw [hpieces.project_append]
    exact transcript_bind_iff.mpr ⟨_, _, middle, rfl, hother, hother'⟩
  · exact absurd hcounts (hlost middle hmiddle last result hlast)

end Projects

/-! ## Scripted transcripts -/

/-- Each reply is the one that the script has for the question after the exchanges
before it. -/
def Scripted (script : List (Exchange Question Reply) → (question : Question) → Reply question)
    (exchanges : List (Exchange Question Reply)) : Prop :=
  Justified (fun before entry => entry.2 = script before entry.1) exchanges

theorem scripted_cons_iff
    {script : List (Exchange Question Reply) → (question : Question) → Reply question}
    {entry : Exchange Question Reply} {exchanges : List (Exchange Question Reply)} :
    Scripted script (entry :: exchanges) ↔
      entry.2 = script [] entry.1 ∧ Scripted (fun before => script (entry :: before)) exchanges :=
  Justified.cons_iff

theorem Transcript.unique {program : Program Question Reply α}
    {exchanges other : List (Exchange Question Reply)} {value result : α}
    {script : List (Exchange Question Reply) → (question : Question) → Reply question}
    (htranscript : Transcript program exchanges value)
    (hother : Transcript program other result)
    (hscript : Scripted script exchanges) (hotherScript : Scripted script other) :
    other = exchanges ∧ result = value := by
  induction htranscript generalizing other script with
  | done value => exact transcript_done_iff.mp hother
  | ask reply hrest ih =>
      obtain ⟨reply', rest, rfl, hrest'⟩ := transcript_ask_iff.mp hother
      obtain ⟨hreply, hscript⟩ := scripted_cons_iff.mp hscript
      obtain ⟨hreply', hotherScript⟩ := scripted_cons_iff.mp hotherScript
      obtain rfl : reply' = reply := hreply'.trans hreply.symm
      obtain ⟨rfl, rfl⟩ := ih hrest' hscript hotherScript
      exact ⟨rfl, rfl⟩

end Interaction
