import ElapPlatform.ConfigurationBackends

/-!
# String values and the texts that are stored for them

Key and value of every string write are bound as C strings, so a value comes back
as the bytes before its first NUL, and a later pair whose key differs only behind a
NUL replaces it.
-/

namespace ElapPlatform.Config

open Interaction Interaction.Program Storage

/-! ## The three string writes -/

inductive StringWrite where
  | put (key value : Bytes)
  | putAll (values : List (Bytes × Bytes))
  | setString (key value : Bytes)
  deriving DecidableEq, Repr

def StringWrite.perform (configuration : DatabaseConfiguration) :
    StringWrite → DatabaseProgram (Answer Bool)
  | .put key value => configuration.store.put key value
  | .putAll values => configuration.store.putAll values
  | .setString key value => configuration.setString key value

def StringWrite.pairs : StringWrite → List (Bytes × Bytes)
  | .put key value => [(key, value)]
  | .putAll values => values
  | .setString key value => [(key, value)]

/-- The last pair for the key has this value. -/
def StringWrite.Stores (write : StringWrite) (key value : Bytes) : Prop :=
  ∃ before after, write.pairs = before ++ (key, value) :: after ∧ ∀ pair ∈ after, pair.1 ≠ key

/-- The text of the last pair whose key is the same C string. -/
def storedText (pairs : List (Bytes × Bytes)) (key : Bytes) : Option Bytes :=
  (pairs.reverse.find? fun pair => cString pair.1 = key).map fun pair => cString pair.2

section StoredText

variable {pairs : List (Bytes × Bytes)} {key value : Bytes}

theorem storedText_append (pairs : List (Bytes × Bytes)) (pair : Bytes × Bytes) (key : Bytes) :
    storedText (pairs ++ [pair]) key =
      if cString pair.1 = key then some (cString pair.2) else storedText pairs key := by
  unfold storedText
  rw [List.reverse_append, List.reverse_singleton, List.singleton_append, List.find?_cons]
  by_cases hsame : cString pair.1 = key <;> simp [hsame]

theorem contents_stored (table : Table) (pairs : List (Bytes × Bytes)) (key : Bytes) :
    contents (pairs.foldl insertPair table) key =
      (storedText pairs key).or (contents table key) := by
  induction pairs using List.reverseRecOn with
  | nil => rfl
  | append_singleton pairs pair ih =>
      rw [List.foldl_append, storedText_append]
      change contents (Std.ExtTreeMap.insert _ (cString pair.1) (.text (cString pair.2))) key = _
      rw [contents_insert, Function.update_apply, ih]
      by_cases hsame : key = cString pair.1
      · rw [if_pos hsame, if_pos hsame.symm]
        rfl
      · rw [if_neg hsame, if_neg (Ne.symm hsame)]

theorem storedText_nulFree {text : Bytes} (htext : storedText pairs key = some text) :
    NulFree text := by
  obtain ⟨pair, _, rfl⟩ := Option.map_eq_some_iff.mp htext
  exact cString_nulFree pair.2

theorem storedText_of_mem {pair : Bytes × Bytes} (hmem : pair ∈ pairs)
    (hkey : cString pair.1 = key) : ∃ text, storedText pairs key = some text := by
  refine Option.isSome_iff_exists.mp ?_
  unfold storedText
  rw [Option.isSome_map, List.find?_isSome]
  exact ⟨pair, List.mem_reverse.mpr hmem, by simpa using hkey⟩

/-- For a single pair the stored text is the value exactly when it has no NUL. -/
theorem storedText_single_iff (hkey : NulFree key) :
    storedText [(key, value)] key = some value ↔ NulFree value := by
  change storedText ([] ++ [(key, value)]) key = _ ↔ _
  rw [storedText_append, if_pos (cString_eq_self hkey), Option.some_inj]
  constructor
  · intro hsame
    exact hsame ▸ cString_nulFree value
  · exact cString_eq_self

end StoredText

/-! ## Writing and reading back -/

section RoundTrip

variable {Connection : Type} {engine : Engine Connection} {connection : Connection}
  {configuration : DatabaseConfiguration} {start written : engine.State}

theorem stringWrite_runs (hlaws : engine.Lawful) (hopen : configuration.store.db.isOpen = true)
    (houtside : ¬ engine.inTransaction start connection) {write : StringWrite}
    {answer : Answer Bool}
    (hwrite : Runs (engine.Answers connection) (write.perform configuration) start answer written)
    (htrue : answer.value = true) :
    ¬ engine.inTransaction written connection ∧
      engine.committed written = write.pairs.foldl insertPair (engine.committed start) := by
  have hperform : ∃ storeWrite, write.perform configuration = configuration.store.write storeWrite ∧
      storeWrite.apply (engine.committed start) =
        write.pairs.foldl insertPair (engine.committed start) := by
    cases write with
    | put key value => exact ⟨.put key value, rfl, rfl⟩
    | putAll values => exact ⟨.putAll values, rfl, rfl⟩
    | setString key value => exact ⟨.put key value, rfl, rfl⟩
  obtain ⟨storeWrite, hprogram, hpairs⟩ := hperform
  rw [hprogram] at hwrite
  obtain ⟨hended, hcommitted⟩ := write_runs hlaws hopen houtside hwrite
  rw [htrue, if_pos rfl, hpairs] at hcommitted
  exact ⟨hended, hcommitted⟩

/-- A string value comes back, through each of the three reads, exactly when the text
that is stored for its key is the value. -/
theorem string_values_return_iff (hlaws : engine.Lawful)
    (hopen : configuration.store.db.isOpen = true)
    (houtside : ¬ engine.inTransaction start connection) {key value : Bytes}
    (hkey : NulFree key) {write : StringWrite} (hstores : write.Stores key value)
    {answer : Answer Bool} (htrue : answer.value = true)
    (hwrite : Runs (engine.Answers connection) (write.perform configuration) start answer written)
    {got : Answer (Option Bytes)} {text defaultValue : Bytes} {blob : Answer Bytes}
    {afterGet afterText afterBlob : engine.State}
    (hget : Runs (SucceedingAnswers engine connection) (configuration.store.get key)
      written got afterGet)
    (htext : Runs (SucceedingAnswers engine connection) (configuration.getString key defaultValue)
      written text afterText)
    (hblob : Runs (SucceedingAnswers engine connection) (configuration.store.getBlob key)
      written blob afterBlob) :
    (got.value = some value ∧ text = value ∧ blob.value = value) ↔
      storedText write.pairs key = some value := by
  obtain ⟨hended, hcommitted⟩ := stringWrite_runs hlaws hopen houtside hwrite htrue
  obtain ⟨before, after, hpairs, _⟩ := hstores
  have hmem : (key, value) ∈ write.pairs := by simp [hpairs]
  obtain ⟨stored, hstored⟩ := storedText_of_mem hmem (cString_eq_self hkey)
  have hfree := cString_eq_self (storedText_nulFree hstored)
  have hcontents : contents (engine.committed written) (cString key) = some stored := by
    rw [hcommitted, cString_eq_self hkey, contents_stored, hstored]
    rfl
  obtain ⟨hgot, _⟩ := get_succeeds hopen hlaws hended hget
  obtain ⟨result, middle, hresult, hdone⟩ := runs_bind_iff.mp htext
  obtain ⟨rfl, _⟩ := runs_done_iff.mp hdone
  obtain ⟨hresultValue, _⟩ := get_succeeds hopen hlaws hended hresult
  obtain ⟨hblobValue, _⟩ := getBlob_succeeds hopen hlaws hended hblob
  rw [hgot, hresultValue, hblobValue, hcontents, hstored]
  simp [hfree]

end RoundTrip

/-! ## A plain value and a value with a NUL -/

theorem journal_puts (value : Bytes) :
    Runs ((journalEngine ℕ).Answers 0)
      (StringWrite.perform ⟨openStore⟩ (.put [107] value)) ⟨∅, none⟩ ⟨true, none⟩
      ⟨insertPair ∅ ([107], value), none⟩ :=
  runs_of_succeeding (.answered (completedRun []) (journal_writes rfl) (.done _ _))

/-- `put("k", "v")`, and the three reads of it. -/
theorem plain_value_returns :
    ∃ (written : Journal ℕ) (got : Answer (Option Bytes)) (text : Bytes) (blob : Answer Bytes),
      Runs ((journalEngine ℕ).Answers 0)
        (StringWrite.perform ⟨openStore⟩ (.put [107] [118])) ⟨∅, none⟩ ⟨true, none⟩ written ∧
      Runs (SucceedingAnswers (journalEngine ℕ) 0) (openStore.get [107]) written got written ∧
      Runs (SucceedingAnswers (journalEngine ℕ) 0)
        (DatabaseConfiguration.getString ⟨openStore⟩ [107] []) written text written ∧
      Runs (SucceedingAnswers (journalEngine ℕ) 0) (openStore.getBlob [107]) written blob
        written ∧
      got.value = some [118] ∧ text = [118] ∧ blob.value = [118] := by
  have hget : Runs (SucceedingAnswers (journalEngine ℕ) 0) (openStore.get [107])
      ⟨insertPair ∅ ([107], [118]), none⟩ _ ⟨insertPair ∅ ([107], [118]), none⟩ :=
    .answered (completedRun _) (journal_selects rfl rfl) (.done _ _)
  have htext : Runs (SucceedingAnswers (journalEngine ℕ) 0)
      (DatabaseConfiguration.getString ⟨openStore⟩ [107] [])
      ⟨insertPair ∅ ([107], [118]), none⟩ _ ⟨insertPair ∅ ([107], [118]), none⟩ :=
    .answered (completedRun _) (journal_selects rfl rfl) (.done _ _)
  have hblob : Runs (SucceedingAnswers (journalEngine ℕ) 0) (openStore.getBlob [107])
      ⟨insertPair ∅ ([107], [118]), none⟩ _ ⟨insertPair ∅ ([107], [118]), none⟩ :=
    .answered (completedRun _) (journal_selects rfl rfl) (.done _ _)
  have hstores : (StringWrite.put [107] [118]).Stores [107] [118] := ⟨[], [], rfl, nofun⟩
  have hreads := string_values_return_iff journalEngine_lawful rfl Journal.not_inTransaction_mk
    (by decide) hstores rfl (journal_puts [118]) hget htext hblob
  exact ⟨_, _, _, _, journal_puts [118], hget, htext, hblob,
    hreads.mpr ((storedText_single_iff (by decide)).mpr (by decide))⟩

/-- `put("k", "v\0w")` returns true, and `get("k")` is `"v"`. -/
theorem value_cut_at_nul :
    Runs ((journalEngine ℕ).Answers 0)
        (StringWrite.perform ⟨openStore⟩ (.put [107] [118, 0, 119])) ⟨∅, none⟩ ⟨true, none⟩
        ⟨insertPair ∅ ([107], [118, 0, 119]), none⟩ ∧
      Runs (SucceedingAnswers (journalEngine ℕ) 0) (openStore.get [107])
        ⟨insertPair ∅ ([107], [118, 0, 119]), none⟩ ⟨some [118], none⟩
        ⟨insertPair ∅ ([107], [118, 0, 119]), none⟩ :=
  ⟨journal_puts [118, 0, 119],
    .answered (completedRun [[.text [118]]]) (journal_selects rfl (by decide)) (.done _ _)⟩

end ElapPlatform.Config
