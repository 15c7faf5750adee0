import Mathlib.Data.List.TakeWhile
import Mathlib.Order.Lattice

/-!
# Waiting by priority

Items arrive, and the next one to leave is the oldest of the most urgent.  A line that
is kept in the order of priorities, and in the order of arrival within each, has that
item at its head.
-/

namespace PriorityLanes

variable {Item Priority : Type} [LinearOrder Priority]

inductive Move (Item : Type) where
  | arrives (item : Item)
  | leaves (item : Item)
  deriving DecidableEq, Repr

namespace Move

def arrival : Move Item → Option Item
  | arrives item => some item
  | leaves _ => none

def departure : Move Item → Option Item
  | arrives _ => none
  | leaves item => some item

end Move

def arrivals (moves : List (Move Item)) : List Item := moves.filterMap Move.arrival

def departures (moves : List (Move Item)) : List Item := moves.filterMap Move.departure

section Waiting

variable (priority : Item → Priority)

/-- In `waiting`, whose items are in the order of their arrival, this one is the oldest of
the most urgent. -/
inductive Next : List Item → Item → List Item → Prop
  | next {before after : List Item} {item : Item}
      (hbefore : ∀ earlier ∈ before, priority earlier < priority item)
      (hafter : ∀ later ∈ after, priority later ≤ priority item) :
      Next (before ++ item :: after) item (before ++ after)

/-- What waits after these moves. -/
inductive Waiting : List (Move Item) → List Item → Prop
  | nil : Waiting [] []
  | arrives {moves : List (Move Item)} {waiting : List Item} (item : Item)
      (hwaiting : Waiting moves waiting) :
      Waiting (moves ++ [.arrives item]) (waiting ++ [item])
  | leaves {moves : List (Move Item)} {waiting rest : List Item} {item : Item}
      (hwaiting : Waiting moves waiting) (hnext : Next priority waiting item rest) :
      Waiting (moves ++ [.leaves item]) rest

/-- The items of one priority. -/
def lane (urgency : Priority) (items : List Item) : List Item :=
  items.filter fun item => priority item = urgency

/-- Behind every item of at least its priority. -/
def insert (item : Item) (line : List Item) : List Item :=
  line.takeWhile (priority item ≤ priority ·) ++
    item :: line.dropWhile (priority item ≤ priority ·)

/-- The line has what waits, by priority and then by arrival. -/
structure Sorts (line waiting : List Item) : Prop where
  sorted : line.Pairwise fun earlier later => priority later ≤ priority earlier
  lanes : ∀ urgency, lane priority urgency line = lane priority urgency waiting

end Waiting

section Lanes

variable {priority : Item → Priority} {urgency : Priority} {item other : Item}
  {line waiting rest items : List Item} {moves : List (Move Item)}

@[simp] theorem lane_nil : lane priority urgency [] = [] := rfl

@[simp] theorem lane_append (others : List Item) :
    lane priority urgency (items ++ others) =
      lane priority urgency items ++ lane priority urgency others :=
  List.filter_append ..

theorem lane_cons_self :
    lane priority (priority item) (item :: items) =
      item :: lane priority (priority item) items :=
  List.filter_cons_of_pos (decide_eq_true rfl)

theorem lane_cons_of_ne (hother : priority item ≠ urgency) :
    lane priority urgency (item :: items) = lane priority urgency items :=
  List.filter_cons_of_neg (by simpa using hother)

theorem lane_eq_nil (hnone : ∀ item ∈ items, priority item ≠ urgency) :
    lane priority urgency items = [] :=
  List.filter_eq_nil_iff.mpr fun item hmem => by simpa using hnone item hmem

theorem mem_lane_self : item ∈ lane priority (priority item) items ↔ item ∈ items := by
  simp [lane]

@[simp] theorem arrivals_append (others : List (Move Item)) :
    arrivals (moves ++ others) = arrivals moves ++ arrivals others :=
  List.filterMap_append

@[simp] theorem departures_append (others : List (Move Item)) :
    departures (moves ++ others) = departures moves ++ departures others :=
  List.filterMap_append

theorem Next.lanes (hnext : Next priority waiting item rest) (urgency : Priority) :
    lane priority urgency waiting = lane priority urgency [item] ++ lane priority urgency rest := by
  cases hnext with
  | @next before after item hbefore hafter =>
      by_cases hurgency : priority item = urgency
      · subst hurgency
        have hnone : lane priority (priority item) before = [] :=
          lane_eq_nil fun earlier hmem => ne_of_lt (hbefore earlier hmem)
        simp [lane_cons_self, hnone]
      · simp [lane_cons_of_ne hurgency]

/-- In each priority, items leave in the order in which they arrive. -/
theorem Waiting.lanes (hwaiting : Waiting priority moves waiting) (urgency : Priority) :
    lane priority urgency (arrivals moves) =
      lane priority urgency (departures moves) ++ lane priority urgency waiting := by
  induction hwaiting with
  | nil => rfl
  | @arrives moves waiting item hwaiting ih =>
      have harrives : arrivals [Move.arrives item] = [item] := rfl
      have hleaves : departures [Move.arrives item] = [] := rfl
      simp [harrives, hleaves, ih]
  | @leaves moves waiting rest item hwaiting hnext ih =>
      have harrives : arrivals [Move.leaves item] = [] := rfl
      have hleaves : departures [Move.leaves item] = [item] := rfl
      simp [harrives, hleaves, ih, hnext.lanes urgency]

theorem Sorts.nil : Sorts priority [] [] := ⟨.nil, fun _ => rfl⟩

theorem Sorts.mem_iff (hsorts : Sorts priority line waiting) : item ∈ line ↔ item ∈ waiting := by
  have hlane := hsorts.lanes (priority item)
  constructor
  · intro hmem
    exact mem_lane_self.mp (hlane ▸ mem_lane_self.mpr hmem)
  · intro hmem
    exact mem_lane_self.mp (hlane ▸ mem_lane_self.mpr hmem)

/-- In a sorted line, what the new item goes in front of is less urgent. -/
theorem dropWhile_lt
    (hsorted : line.Pairwise fun earlier later => priority later ≤ priority earlier)
    (item : Item) :
    ∀ later ∈ line.dropWhile (priority item ≤ priority ·), priority later < priority item := by
  induction line with
  | nil => simp
  | cons first line ih =>
      obtain ⟨hfirst, hline⟩ := List.pairwise_cons.mp hsorted
      intro later hlater
      by_cases hurgent : priority item ≤ priority first
      · rw [List.dropWhile_cons_of_pos (by simpa using hurgent)] at hlater
        exact ih hline later hlater
      · rw [List.dropWhile_cons_of_neg (by simpa using hurgent)] at hlater
        have hless : priority first < priority item := not_le.mp hurgent
        rcases List.mem_cons.mp hlater with rfl | hlater
        · exact hless
        · exact lt_of_le_of_lt (hfirst later hlater) hless

theorem takeWhile_le (item : Item) :
    ∀ earlier ∈ line.takeWhile (priority item ≤ priority ·), priority item ≤ priority earlier := by
  intro earlier hearlier
  have hurgent := List.mem_takeWhile_imp hearlier
  simpa using hurgent

theorem insert_perm (item : Item) : (insert priority item line).Perm (item :: line) := by
  have hparts : line.takeWhile (priority item ≤ priority ·) ++
      line.dropWhile (priority item ≤ priority ·) = line := List.takeWhile_append_dropWhile
  have hmiddle : (insert priority item line).Perm
      (item :: (line.takeWhile (priority item ≤ priority ·) ++
        line.dropWhile (priority item ≤ priority ·))) := List.perm_middle
  rwa [hparts] at hmiddle

theorem Sorts.insert (hsorts : Sorts priority line waiting) (item : Item) :
    Sorts priority (insert priority item line) (waiting ++ [item]) where
  sorted := by
    have hbehind := dropWhile_lt hsorts.sorted item
    have hahead : ∀ earlier ∈ line.takeWhile (priority item ≤ priority ·),
        priority item ≤ priority earlier := takeWhile_le item
    have hparts := hsorts.sorted
    rw [← List.takeWhile_append_dropWhile (p := fun other => priority item ≤ priority other)
      (l := line)] at hparts
    obtain ⟨hfront, hback, hacross⟩ := List.pairwise_append.mp hparts
    refine List.pairwise_append.mpr ⟨hfront, ?_, ?_⟩
    · exact List.pairwise_cons.mpr ⟨fun later hlater => le_of_lt (hbehind later hlater), hback⟩
    · intro earlier hearlier later hlater
      rcases List.mem_cons.mp hlater with rfl | hlater
      · exact hahead earlier hearlier
      · exact hacross earlier hearlier later hlater
  lanes urgency := by
    have hline : lane priority urgency line =
        lane priority urgency (line.takeWhile (priority item ≤ priority ·)) ++
          lane priority urgency (line.dropWhile (priority item ≤ priority ·)) := by
      rw [← lane_append, List.takeWhile_append_dropWhile]
    rw [lane_append, ← hsorts.lanes, hline]
    unfold PriorityLanes.insert
    rw [lane_append]
    by_cases hurgency : priority item = urgency
    · subst hurgency
      have hnone : lane priority (priority item)
          (line.dropWhile (priority item ≤ priority ·)) = [] :=
        lane_eq_nil fun later hlater => ne_of_lt (dropWhile_lt hsorts.sorted item later hlater)
      simp [lane_cons_self, hnone]
    · simp [lane_cons_of_ne hurgency]

/-- The head of the line is the next to leave. -/
theorem Sorts.next (hsorts : Sorts priority (item :: line) waiting) :
    ∃ rest, Next priority waiting item rest ∧ Sorts priority line rest := by
  have hown := hsorts.lanes (priority item)
  rw [lane_cons_self] at hown
  obtain ⟨before, after, rfl, hbefore, hitem, hafter⟩ := List.filter_eq_cons_iff.mp hown.symm
  obtain ⟨hfirst, hline⟩ := List.pairwise_cons.mp hsorts.sorted
  have hmost : ∀ other ∈ before ++ item :: after, priority other ≤ priority item := by
    intro other hother
    rcases List.mem_cons.mp (hsorts.mem_iff.mpr hother) with rfl | hlater
    · exact le_refl _
    · exact hfirst other hlater
  have hless : ∀ earlier ∈ before, priority earlier < priority item := by
    intro earlier hearlier
    have hne : priority earlier ≠ priority item := by simpa using hbefore earlier hearlier
    exact lt_of_le_of_ne (hmost earlier (List.mem_append_left _ hearlier)) hne
  have hnext : Next priority (before ++ item :: after) item (before ++ after) :=
    .next hless fun later hlater =>
      hmost later (List.mem_append_right _ (List.mem_cons_of_mem _ hlater))
  refine ⟨before ++ after, hnext, hline, fun urgency => ?_⟩
  have hlanes := hsorts.lanes urgency
  rw [hnext.lanes urgency] at hlanes
  have hcons : lane priority urgency (item :: line) =
      lane priority urgency [item] ++ lane priority urgency line := by
    rw [← lane_append, List.singleton_append]
  exact List.append_cancel_left (hcons.symm.trans hlanes)

theorem Sorts.perm [DecidableEq Item] (hsorts : Sorts priority line waiting) :
    line.Perm waiting := by
  refine List.perm_iff_count.mpr fun item => ?_
  have hcount : ∀ items : List Item,
      (lane priority (priority item) items).count item = items.count item :=
    fun items => List.count_filter (decide_eq_true rfl)
  rw [← hcount line, ← hcount waiting, hsorts.lanes]

end Lanes

end PriorityLanes
