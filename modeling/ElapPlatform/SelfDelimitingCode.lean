import Mathlib.Data.List.Infix
import Mathlib.Data.List.Basic

/-!
# Self-delimiting codes

A code whose words are never proper prefixes of one another can be written to a
stream word after word and read back without separators.  The lemmas say how
a stream of whole words, possibly followed by a truncated one, can begin.
-/

namespace SelfDelimiting

/-- A code for the messages of type `μ` that satisfy `admissible`. -/
structure Code (μ β : Type) where
  admissible : μ → Prop
  encode : μ → List β
  encode_ne_nil : ∀ message, encode message ≠ []
  prefix_free : ∀ {first second}, admissible first → admissible second →
    encode first <+: encode second → first = second

variable {μ β : Type} (code : Code μ β)

def Code.encodeAll (messages : List μ) : List β := messages.flatMap code.encode

def Code.AllAdmissible (messages : List μ) : Prop :=
  ∀ message ∈ messages, code.admissible message

/-- The stream of a writer that was cut off inside its last word. -/
def Code.Truncated (tail : List β) : Prop :=
  ∃ message, code.admissible message ∧ tail <+: code.encode message ∧
    tail ≠ code.encode message

@[simp] theorem Code.encodeAll_nil : code.encodeAll [] = [] := rfl

@[simp] theorem Code.encodeAll_cons (message : μ) (messages : List μ) :
    code.encodeAll (message :: messages) =
      code.encode message ++ code.encodeAll messages := rfl

theorem Code.encodeAll_append (first second : List μ) :
    code.encodeAll (first ++ second) =
      code.encodeAll first ++ code.encodeAll second := by
  simp [Code.encodeAll]

/-- A stream determines the word it begins with. -/
theorem Code.encode_append_inj
    {first second : μ} {rest other : List β}
    (hfirst : code.admissible first) (hsecond : code.admissible second)
    (heq : code.encode first ++ rest = code.encode second ++ other) :
    first = second ∧ rest = other := by
  have hleft : code.encode first <+: code.encode second ++ other :=
    heq ▸ List.prefix_append (code.encode first) rest
  have hright : code.encode second <+: code.encode second ++ other :=
    List.prefix_append (code.encode second) other
  have hsame : first = second := by
    rcases List.prefix_or_prefix_of_prefix hleft hright with hinitial | hinitial
    · exact code.prefix_free hfirst hsecond hinitial
    · exact (code.prefix_free hsecond hfirst hinitial).symm
  subst second
  exact ⟨rfl, List.append_cancel_left heq⟩

variable {code}

/-- No word can be read off a truncated one. -/
theorem Code.Truncated.not_encode_append
    {tail rest : List β} {message : μ} (htail : code.Truncated tail)
    (hmessage : code.admissible message) :
    tail ≠ code.encode message ++ rest := by
  rintro rfl
  obtain ⟨whole, hwhole, hinitial, hne⟩ := htail
  have hword : code.encode message <+: code.encode whole :=
    (List.prefix_append (code.encode message) rest).trans hinitial
  have hsame := code.prefix_free hmessage hwhole hword
  subst whole
  have hrest : rest = [] := by
    have hlength := hinitial.length_le
    rw [List.length_append] at hlength
    exact List.length_eq_zero_iff.mp (by omega)
  exact hne (by simp [hrest])

/-- A word read off whole words and a truncated one is the first whole word. -/
theorem Code.encodeAll_append_eq
    {messages : List μ} {tail rest : List β} {message : μ}
    (hmessages : code.AllAdmissible messages) (hmessage : code.admissible message)
    (htail : tail = [] ∨ code.Truncated tail)
    (heq : code.encodeAll messages ++ tail = code.encode message ++ rest) :
    ∃ remaining, messages = message :: remaining ∧
      rest = code.encodeAll remaining ++ tail := by
  cases messages with
  | nil =>
      rcases htail with hnil | htruncated
      · subst tail
        have hempty := (List.append_eq_nil_iff.mp heq.symm).1
        exact absurd hempty (code.encode_ne_nil message)
      · exact absurd heq (htruncated.not_encode_append hmessage)
  | cons head remaining =>
      rw [Code.encodeAll_cons, List.append_assoc] at heq
      obtain ⟨hsame, hrest⟩ :=
        code.encode_append_inj (hmessages head List.mem_cons_self) hmessage heq
      subst head
      exact ⟨remaining, rfl, hrest.symm⟩

end SelfDelimiting
