import Mathlib.Data.List.Basic
import Mathlib.Data.List.Nodup
import Mathlib.Tactic

/-!
# Tables with one row for each key

A row is written over the row with its key, or behind all others.  The table of a
list of rows keeps the last row of each key, in the order of the first ones.
-/

namespace KeyedTable

variable {Row Key : Type}

def upsert [BEq Key] (key : Row → Key) (table : List Row) (row : Row) : List Row :=
  match table.findIdx? (key · == key row) with
  | none => table ++ [row]
  | some index => table.set index row

/-- No row behind this one has its key. -/
def Latest (key : Row → Key) (rows : List Row) (row : Row) : Prop :=
  ∃ before after, rows = before ++ row :: after ∧ ∀ later ∈ after, key later ≠ key row

structure LastWins [BEq Key] (key : Row → Key) (rows table : List Row) : Prop where
  distinct : (table.map key).Nodup
  keys : ∀ name, name ∈ table.map key ↔ name ∈ rows.map key
  latest : ∀ row ∈ table, Latest key rows row
  order : (table.map key).Pairwise fun first second =>
    (rows.map key).idxOf first < (rows.map key).idxOf second

variable {key : Row → Key} {rows table : List Row} {row other : Row}

/-- A row in place of one with the same key leaves the keys. -/
theorem map_set_of_same_key {index : ℕ} (hindex : index < table.length)
    (hsame : key table[index] = key row) : (table.set index row).map key = table.map key := by
  have hlength : index < (table.map key).length := by simpa using hindex
  rw [List.map_set, ← hsame]
  simpa using List.set_getElem_self hlength

/-! ## Latest rows -/

theorem Latest.last : Latest key (rows ++ [row]) row :=
  ⟨rows, [], rfl, by simp⟩

theorem Latest.concat (hlatest : Latest key rows other) (hne : key row ≠ key other) :
    Latest key (rows ++ [row]) other := by
  obtain ⟨before, after, rfl, hlater⟩ := hlatest
  refine ⟨before, after ++ [row], by simp, ?_⟩
  intro later hmem
  rcases List.mem_append.mp hmem with hold | hnew
  · exact hlater later hold
  · rw [List.mem_singleton.mp hnew]
    exact hne

variable [BEq Key] [LawfulBEq Key]

/-! ## The two ways of a write -/

theorem upsert_of_absent (habsent : key row ∉ table.map key) :
    upsert key table row = table ++ [row] := by
  have hnone : table.findIdx? (key · == key row) = none := by
    rw [List.findIdx?_eq_none_iff]
    intro other hother
    rw [beq_eq_false_iff_ne]
    exact fun hsame => habsent (hsame ▸ List.mem_map_of_mem hother)
  simp [upsert, hnone]

theorem upsert_of_present (hpresent : key row ∈ table.map key) :
    ∃ index, ∃ hindex : index < table.length, key table[index] = key row ∧
      upsert key table row = table.set index row := by
  cases hfound : table.findIdx? (key · == key row) with
  | none =>
      obtain ⟨other, hother, hsame⟩ := List.mem_map.mp hpresent
      have hdiffers := List.findIdx?_eq_none_iff.mp hfound other hother
      simp [hsame] at hdiffers
  | some index =>
      obtain ⟨hindex, hsame, _⟩ := List.findIdx?_eq_some_iff_getElem.mp hfound
      exact ⟨index, hindex, by simpa using hsame, by simp [upsert, hfound]⟩

/-! ## Writes, one after the other -/

namespace LastWins

theorem nil : LastWins key [] [] := by
  constructor <;> simp

theorem append (htable : LastWins key rows table) (habsent : key row ∉ table.map key) :
    LastWins key (rows ++ [row]) (table ++ [row]) := by
  have hnew : key row ∉ rows.map key := fun hmem => habsent ((htable.keys _).mpr hmem)
  have hold : ∀ name ∈ table.map key,
      ((rows ++ [row]).map key).idxOf name = (rows.map key).idxOf name := by
    intro name hname
    rw [List.map_append, List.idxOf_append_of_mem ((htable.keys name).mp hname)]
  have hmap : (table ++ [row]).map key = table.map key ++ [key row] := by simp
  constructor
  · rw [hmap, List.nodup_append]
    refine ⟨htable.distinct, List.nodup_singleton _, ?_⟩
    intro name hname last hlast
    rw [List.mem_singleton.mp hlast]
    exact fun hsame => habsent (hsame ▸ hname)
  · intro name
    simp [htable.keys name]
  · intro other hother
    rcases List.mem_append.mp hother with hmem | hlast
    · exact (htable.latest other hmem).concat
        fun hsame => habsent (hsame ▸ List.mem_map_of_mem hmem)
    · rw [List.mem_singleton.mp hlast]
      exact .last
  · rw [hmap, List.pairwise_append]
    refine ⟨?_, List.pairwise_singleton _ _, ?_⟩
    · refine htable.order.imp_of_mem ?_
      intro first second hfirst hsecond hbefore
      rw [hold first hfirst, hold second hsecond]
      exact hbefore
    · intro name hname last hlast
      rw [List.mem_singleton.mp hlast, hold name hname, List.map_append,
        List.idxOf_append_of_notMem hnew]
      have hless := List.idxOf_lt_length_iff.mpr ((htable.keys name).mp hname)
      omega

theorem replace {index : ℕ} (htable : LastWins key rows table) (hindex : index < table.length)
    (hsame : key table[index] = key row) :
    LastWins key (rows ++ [row]) (table.set index row) := by
  have hkeys := map_set_of_same_key hindex hsame
  have hrow : key row ∈ rows.map key :=
    (htable.keys _).mp (hsame ▸ List.mem_map_of_mem (List.getElem_mem hindex))
  have hindices : ∀ name ∈ table.map key,
      ((rows ++ [row]).map key).idxOf name = (rows.map key).idxOf name := by
    intro name hname
    rw [List.map_append, List.idxOf_append_of_mem ((htable.keys name).mp hname)]
  constructor
  · rw [hkeys]
    exact htable.distinct
  · intro name
    rw [hkeys, htable.keys name, List.map_append, List.mem_append, List.map_singleton,
      List.mem_singleton]
    constructor
    · exact .inl
    · rintro (hmem | rfl)
      · exact hmem
      · exact hrow
  · intro other hother
    obtain ⟨position, hposition, rfl⟩ := List.getElem_of_mem hother
    rw [List.length_set] at hposition
    by_cases hmoved : index = position
    · subst hmoved
      rw [List.getElem_set_self]
      exact .last
    · rw [List.getElem_set_ne hmoved]
      refine (htable.latest _ (List.getElem_mem hposition)).concat ?_
      -- Distinct keys tell the other rows from the one that is replaced.
      intro hequal
      have hfirst : index < (table.map key).length := by simpa using hindex
      have hsecond : position < (table.map key).length := by simpa using hposition
      have hkey : (table.map key)[index] = (table.map key)[position] := by
        simpa [hsame] using hequal
      exact hmoved (htable.distinct.getElem_inj_iff.mp hkey)
  · rw [hkeys]
    refine htable.order.imp_of_mem ?_
    intro first second hfirst hsecond hbefore
    rw [hindices first hfirst, hindices second hsecond]
    exact hbefore

theorem upsert (htable : LastWins key rows table) (row : Row) :
    LastWins key (rows ++ [row]) (KeyedTable.upsert key table row) := by
  by_cases hpresent : key row ∈ table.map key
  · obtain ⟨index, hindex, hsame, hset⟩ := upsert_of_present hpresent
    rw [hset]
    exact htable.replace hindex hsame
  · rw [upsert_of_absent hpresent]
    exact htable.append hpresent

/-- The table of a list of rows. -/
theorem foldl (rows : List Row) : LastWins key rows (rows.foldl (KeyedTable.upsert key) []) := by
  induction rows using List.reverseRecOn with
  | nil => exact nil
  | append_singleton rows row ih =>
      rw [List.foldl_append]
      exact ih.upsert row

end LastWins

end KeyedTable
