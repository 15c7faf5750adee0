import ElapPlatform.CallDisciplines
import ElapPlatform.SystemNamespace

/-!
# Generations of a name

A name that is removed and created again refers to another kernel object.  The
generation of a caller is the name that it has created and not asked to remove since,
with the object it made.  As long as nobody creates a name that is still another
caller's, a name refers to its caller's generation or to nothing.
-/

namespace ElapPlatform.Ipc

open Interaction RelyGuarantee

/-- What an answered system call has done to the names. -/
inductive NameAction where
  | makes (name : Bytes)
  | removes (name : Bytes)
  | keeps
  deriving DecidableEq, Repr

def SystemNamespace.Changes (table : SystemNamespace) (action : NameAction)
    (next : SystemNamespace) : Prop :=
  match action with
  | .makes name => table.names (cString name) = none ∧
      next.names = Function.update table.names (cString name) (some table.made)
  | .removes name => next.names = table.names ∨
      next.names = Function.update table.names (cString name) none
  | .keeps => next.names = table.names

/-- The exclusive creation of a name. -/
def created (name : Bytes) : SystemResult Descriptor → NameAction
  | .ok _ => .makes name
  | .error _ => .keeps

namespace SystemNamespace

variable {table next : SystemNamespace} {name : Bytes}

theorem Creates.changes {reply : SystemResult Descriptor}
    (hcreates : table.Creates name reply next) : table.Changes (created name reply) next := by
  cases reply with
  | ok descriptor =>
      obtain ⟨hfree, _, rfl⟩ := hcreates
      exact ⟨hfree, rfl⟩
  | error errno => exact congrArg names hcreates

theorem Opens.names_eq {reply : SystemResult Descriptor}
    (hopens : table.Opens name reply next) : next.names = table.names := by
  cases reply with
  | ok descriptor =>
      obtain ⟨_, object, _, rfl⟩ := hopens
      rfl
  | error errno => exact congrArg names hopens

theorem Unlinks.changes {reply : SystemResult Unit}
    (hunlinks : table.Unlinks name reply next) : table.Changes (.removes name) next := by
  rcases hunlinks.cases with rfl | rfl
  · exact .inl rfl
  · exact .inr rfl

end SystemNamespace

structure Generation where
  name : Bytes
  object : ObjectId
  deriving DecidableEq, Repr

/-- Objects are numbered in the order in which they are made. -/
def Generation.after (table : SystemNamespace) (generation : Option Generation) :
    NameAction → Option Generation
  | .makes name => some ⟨cString name, table.made⟩
  | .removes _ => none
  | .keeps => generation

/-- A name that is removed is the caller's. -/
def NameAction.Own (generation : Option Generation) : NameAction → Prop
  | .removes name => generation.map Generation.name = some (cString name)
  | _ => True

/-- The namespace with the generation of every caller. -/
structure OwnedNamespace where
  table : SystemNamespace
  generations : ℕ → Option Generation

def emptyOwnedNamespace : OwnedNamespace := ⟨emptyNamespace, fun _ => none⟩

namespace OwnedNamespace

variable {owned : OwnedNamespace} {table : SystemNamespace} {index : ℕ} {action : NameAction}

def after (owned : OwnedNamespace) (index : ℕ) (action : NameAction) (table : SystemNamespace) :
    OwnedNamespace where
  table := table
  generations := Function.update owned.generations index
    (Generation.after owned.table (owned.generations index) action)

/-- A name that is made is nobody else's. -/
def Unclaimed (owned : OwnedNamespace) (index : ℕ) : NameAction → Prop
  | .makes name => ∀ other ≠ index, ∀ generation, owned.generations other = some generation →
      generation.name ≠ cString name
  | _ => True

def Sound (owned : OwnedNamespace) : Prop :=
  ∀ ⦃index generation object⦄, owned.generations index = some generation →
    owned.table.names generation.name = some object → object = generation.object

theorem empty_sound : emptyOwnedNamespace.Sound := nofun

theorem Sound.makes (hsound : owned.Sound) {name : Bytes}
    (hunclaimed : owned.Unclaimed index (.makes name))
    (hchanges : owned.table.Changes (.makes name) table) :
    (owned.after index (.makes name) table).Sound := by
  obtain ⟨_, hnames⟩ := hchanges
  intro other generation object hgeneration hnamed
  dsimp only [after] at hgeneration hnamed
  rw [hnames] at hnamed
  rcases PartialMap.of_update_eq hgeneration with ⟨_, hnew⟩ | ⟨hother, hold⟩
  · cases hnew
    rw [Function.update_self] at hnamed
    exact (Option.some.inj hnamed).symm
  · rw [Function.update_of_ne (hunclaimed other hother generation hold)] at hnamed
    exact hsound hold hnamed

theorem Sound.after_of_subset (hsound : owned.Sound)
    (hgenerations : ∀ generation,
      Generation.after owned.table (owned.generations index) action = some generation →
        owned.generations index = some generation)
    (hnames : ∀ name object, table.names name = some object →
      owned.table.names name = some object) :
    (owned.after index action table).Sound := by
  intro other generation object hgeneration hnamed
  have hearlier : owned.generations other = some generation := by
    rcases PartialMap.of_update_eq hgeneration with ⟨rfl, hnew⟩ | ⟨_, hold⟩
    · exact hgenerations generation hnew
    · exact hold
  exact hsound hearlier (hnames _ _ hnamed)

theorem Sound.step (hsound : owned.Sound) (hunclaimed : owned.Unclaimed index action)
    (hchanges : owned.table.Changes action table) : (owned.after index action table).Sound := by
  cases action with
  | makes name => exact hsound.makes hunclaimed hchanges
  | removes name =>
      refine hsound.after_of_subset nofun fun other object hnamed => ?_
      rcases hchanges with hsame | hremoved
      · rwa [hsame] at hnamed
      · rw [hremoved] at hnamed
        exact (PartialMap.erase_eq_some_iff.mp hnamed).2
  | keeps =>
      have hsame : table.names = owned.table.names := hchanges
      refine hsound.after_of_subset (fun _ => id) fun other object hnamed => ?_
      rwa [hsame] at hnamed

/-- A name that the caller removes, being its own, refers to its generation. -/
theorem Sound.removed (hsound : owned.Sound) (hown : action.Own (owned.generations index))
    (hchanges : owned.table.Changes action table) {name : Bytes} {object : ObjectId}
    (hnamed : owned.table.names name = some object) (hgone : table.names name ≠ some object) :
    owned.generations index = some ⟨name, object⟩ := by
  cases action with
  | makes made =>
      obtain ⟨hfree, hnames⟩ := hchanges
      have hne : name ≠ cString made := by
        rintro rfl
        cases hfree.symm.trans hnamed
      rw [hnames, Function.update_of_ne hne] at hgone
      exact absurd hnamed hgone
  | keeps =>
      have hsame : table.names = owned.table.names := hchanges
      rw [hsame] at hgone
      exact absurd hnamed hgone
  | removes removed =>
      rcases hchanges with hsame | hnames
      · rw [hsame] at hgone
        exact absurd hnamed hgone
      · obtain ⟨generation, hgeneration, hname⟩ := Option.map_eq_some_iff.mp hown
        have hremoved : name = cString removed := by
          by_contra hne
          rw [hnames, Function.update_of_ne hne] at hgone
          exact hgone hnamed
        have hsame : generation.name = name := hname.trans hremoved.symm
        have hobject := hsound hgeneration (hsame.symm ▸ hnamed)
        rw [hgeneration, ← hsame, hobject]

end OwnedNamespace

/-! ## Programs that remove their own name -/

section Programs

variable {Question α : Type} {Reply : Question → Type}

/-- Where `own` holds, the program asks to remove its own name only. -/
def KeepsGenerations (action : (question : Question) → Reply question → NameAction) (own : Prop)
    (post : α → Option Generation → Prop) :
    Program Question Reply α → Option Generation → Prop :=
  Follows
    (fun (owned : OwnedNamespace) generation question reply =>
      Generation.after owned.table generation (action question reply))
    (fun generation question reply => own → (action question reply).Own generation) post

variable {action : (question : Question) → Reply question → NameAction} {own : Prop}
  {post : α → Option Generation → Prop} {generation : Option Generation}

theorem keepsGenerations_ask {question : Question}
    {next : Reply question → Program Question Reply α}
    (hkeeps : ∀ reply, action question reply = .keeps)
    (hrest : ∀ reply, KeepsGenerations action own post (next reply) generation) :
    KeepsGenerations action own post (.ask question next) generation := by
  refine follows_ask (fun state reply => ?_) hrest
  rw [hkeeps reply]
  exact ⟨fun _ => trivial, rfl⟩

theorem keepsGenerations_remove {question : Question}
    {next : Reply question → Program Question Reply α} {name : Bytes}
    (hremoves : ∀ reply, action question reply = .removes name)
    (hown : own → generation.map Generation.name = some (cString name))
    (hrest : ∀ reply, KeepsGenerations action own post (next reply) none) :
    KeepsGenerations action own post (.ask question next) generation := by
  intro state reply
  dsimp only
  rw [hremoves reply]
  exact ⟨hown, hrest reply⟩

end Programs

/-- The name that an object of either class removes when it is closed. -/
def ownedName (owner : Bool) (name : Bytes) : Option Bytes :=
  if owner && !name.isEmpty then some (cString name) else none

theorem ownedName_owner {name : Bytes} (hname : name ≠ []) :
    ownedName true name = some (cString name) := by
  simp [ownedName, hname]

theorem ownedName_unnamed {owner : Bool} {name : Bytes} (hunnamed : ¬ (!name.isEmpty) = true) :
    ownedName owner name = none :=
  if_neg fun howned => hunnamed (Bool.and_eq_true_iff.mp howned).2

end ElapPlatform.Ipc
