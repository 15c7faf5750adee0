import ElapPlatform.PersistentStoreSucceedingCalls

/-!
# Which key an operation means

`putBlob` binds a key with its full length; every other operation binds it as a C
string.  A client that writes one key and watches another sees where the two differ.
-/

namespace ElapPlatform.Storage

open Interaction Interaction.Program

/-! ## A client of two keys -/

structure KeyReport where
  has : Bool
  get : Option Bytes
  getBlob : Bytes
  deriving DecidableEq, Repr

def PersistentStore.report (store : PersistentStore) (key : Bytes) :
    DatabaseProgram KeyReport := do
  let has ← store.has key
  let get ← store.get key
  let getBlob ← store.getBlob key
  return ⟨has.value, get.value, getBlob.value⟩

inductive KeyWrite where
  | put (value : Bytes)
  | putBlob (data : Option Bytes) (size : ℕ)
  deriving DecidableEq, Repr

def KeyWrite.write (key : Bytes) : KeyWrite → Write
  | .put value => .put key value
  | .putBlob data size => .putBlob key data size

def KeyWrite.bytes : KeyWrite → Bytes
  | .put value => value
  | .putBlob data size => (data.getD []).take size

/-- What the client sees: its own key after the write and after the removal, and the
other key before the write, after it and after the removal. -/
structure KeyTrial where
  written : Bool
  own : KeyReport
  listed : List Bytes
  gone : Bool
  before : KeyReport
  after : KeyReport
  last : KeyReport
  deriving DecidableEq, Repr

def keyTrial (store : PersistentStore) (key other : Bytes) (write : KeyWrite) :
    DatabaseProgram KeyTrial := do
  let before ← store.report other
  let written ← store.write (write.write key)
  let own ← store.report key
  let listed ← store.keys
  let after ← store.report other
  let _ ← store.remove key
  let gone ← store.has key
  let last ← store.report other
  return ⟨written.value, own, listed.value, gone.value, before, after, last⟩

/-- The operations of the key concern this key and no other. -/
structure KeyTrial.Apart (trial : KeyTrial) (key : Bytes) (write : KeyWrite) : Prop where
  has : trial.own.has = true
  getBlob : trial.own.getBlob = write.bytes
  listed : key ∈ trial.listed
  gone : trial.gone = false
  after : trial.after = trial.before
  last : trial.last = trial.before

/-! ## What the client sees of the table -/

def reportOf (table : Table) (key : Bytes) : KeyReport where
  has := (contents table (cString key)).isSome
  get := (contents table (cString key)).map cString
  getBlob := (contents table (cString key)).getD []

/-- The key and the bytes that a write stores. -/
def KeyWrite.storedKey (key : Bytes) : KeyWrite → Bytes
  | .put _ => cString key
  | .putBlob _ _ => key

def KeyWrite.storedBytes : KeyWrite → Bytes
  | .put value => cString value
  | .putBlob data size => (data.getD []).take size

theorem KeyWrite.contents_apply (write : KeyWrite) (key : Bytes) (table : Table) :
    contents ((write.write key).apply table) =
      Function.update (contents table) (write.storedKey key) (some write.storedBytes) := by
  cases write with
  | put value => exact contents_insert table (cString key) _
  | putBlob data size => exact contents_insert table key _

theorem mem_keys_iff {table : Table} {key : Bytes} :
    key ∈ table.keys ↔ (contents table key).isSome := by
  rw [Std.ExtTreeMap.mem_keys, Std.ExtTreeMap.mem_iff_isSome_getElem?]
  unfold contents
  rw [Option.isSome_map]

section Runs

variable {Connection : Type} {engine : Engine Connection} {connection : Connection}
  {store : PersistentStore} {state final : engine.State}

theorem report_runs (hlaws : engine.Lawful) (hopen : store.db.isOpen = true) {key : Bytes}
    {report : KeyReport} (houtside : ¬ engine.inTransaction state connection)
    (hrun : Runs (SucceedingAnswers engine connection) (store.report key) state report final) :
    report = reportOf (engine.committed state) key ∧
      engine.committed final = engine.committed state ∧
        ¬ engine.inTransaction final connection := by
  unfold PersistentStore.report at hrun
  obtain ⟨has, state₁, hhas, hrun⟩ := runs_bind_iff.mp hrun
  obtain ⟨hhasValue, hsame₁, hout₁⟩ := has_succeeds hopen hlaws houtside hhas
  obtain ⟨get, state₂, hget, hrun⟩ := runs_bind_iff.mp hrun
  obtain ⟨hgetValue, hsame₂, hout₂⟩ := get_succeeds hopen hlaws hout₁ hget
  obtain ⟨getBlob, state₃, hgetBlob, hdone⟩ := runs_bind_iff.mp hrun
  obtain ⟨hgetBlobValue, hsame₃, hout₃⟩ := getBlob_succeeds hopen hlaws hout₂ hgetBlob
  obtain ⟨rfl, rfl⟩ := runs_done_iff.mp hdone
  refine ⟨?_, hsame₃.trans (hsame₂.trans hsame₁), hout₃⟩
  rw [hhasValue, hgetValue, hgetBlobValue, hsame₂, hsame₁]
  rfl

/-- The trial as a function of the first table. -/
def trialOf (key other : Bytes) (write : KeyWrite) (table : Table) : KeyTrial :=
  let written := (write.write key).apply table
  let removed := (Write.remove key).apply written
  ⟨true, reportOf written key, written.keys.map cString, (reportOf removed key).has,
    reportOf table other, reportOf written other, reportOf removed other⟩

theorem remove_succeeds (hlaws : engine.Lawful) (hopen : store.db.isOpen = true) {key : Bytes}
    {answer : Answer Bool} (houtside : ¬ engine.inTransaction state connection)
    (hrun : Runs (SucceedingAnswers engine connection) (store.remove key) state answer final) :
    engine.committed final = (Write.remove key).apply (engine.committed state) ∧
      ¬ engine.inTransaction final connection := by
  obtain ⟨request, outcome, hprogram, hchange, houtcome⟩ := remove_isOneStatement hopen key
  have hone := hrun
  rw [hprogram, runs_ask_iff] at hone
  obtain ⟨reply, middle, ⟨hstep, hsucceeded⟩, hdone⟩ := hone
  obtain ⟨rfl, rfl⟩ := runs_done_iff.mp hdone
  have hvalue := (houtcome reply (hlaws.write_rows hstep hchange)).mpr hsucceeded
  obtain ⟨hended, hcommitted⟩ := @write_runs _ _ _ hlaws _ hopen (.remove key) _ _ _ houtside
    (runs_of_succeeding hrun)
  rw [hvalue, if_pos rfl] at hcommitted
  exact ⟨hcommitted, hended⟩

theorem keyTrial_runs (hlaws : engine.Lawful) (hopen : store.db.isOpen = true)
    {key other : Bytes} {write : KeyWrite} {trial : KeyTrial}
    (houtside : ¬ engine.inTransaction state connection)
    (hrun : Runs (SucceedingAnswers engine connection) (keyTrial store key other write)
      state trial final) (hwritten : trial.written = true) :
    trial = trialOf key other write (engine.committed state) := by
  unfold keyTrial at hrun
  obtain ⟨before, state₁, hbefore, hrun⟩ := runs_bind_iff.mp hrun
  obtain ⟨rfl, hsame₁, hout₁⟩ := report_runs hlaws hopen houtside hbefore
  obtain ⟨written, state₂, hwrite, hrun⟩ := runs_bind_iff.mp hrun
  obtain ⟨hout₂, hcommitted₂⟩ := write_runs hlaws hopen hout₁ (runs_of_succeeding hwrite)
  obtain ⟨own, state₃, hown, hrun⟩ := runs_bind_iff.mp hrun
  obtain ⟨rfl, hsame₃, hout₃⟩ := report_runs hlaws hopen hout₂ hown
  obtain ⟨listed, state₄, hlisted, hrun⟩ := runs_bind_iff.mp hrun
  obtain ⟨hlistedValue, hsame₄, hout₄⟩ := keys_succeeds hopen hlaws hout₃ hlisted
  obtain ⟨after, state₅, hafter, hrun⟩ := runs_bind_iff.mp hrun
  obtain ⟨rfl, hsame₅, hout₅⟩ := report_runs hlaws hopen hout₄ hafter
  obtain ⟨removed, state₆, hremove, hrun⟩ := runs_bind_iff.mp hrun
  obtain ⟨hcommitted₆, hout₆⟩ := remove_succeeds hlaws hopen hout₅ hremove
  obtain ⟨gone, state₇, hgone, hrun⟩ := runs_bind_iff.mp hrun
  obtain ⟨hgoneValue, hsame₇, hout₇⟩ := has_succeeds hopen hlaws hout₆ hgone
  obtain ⟨last, state₈, hlast, hdone⟩ := runs_bind_iff.mp hrun
  obtain ⟨rfl, _, _⟩ := report_runs hlaws hopen hout₇ hlast
  obtain ⟨rfl, rfl⟩ := runs_done_iff.mp hdone
  change written.value = true at hwritten
  rw [hwritten, if_pos rfl, hsame₁] at hcommitted₂
  rw [hsame₇, hcommitted₆, hsame₅, hsame₄, hsame₃, hcommitted₂, hlistedValue, hgoneValue,
    hcommitted₆, hwritten, hsame₃, hsame₅, hsame₄, hsame₃, hcommitted₂]
  rfl

end Runs

/-! ## Keys and values without NUL -/

/-- The value is bound with its full length. -/
def KeyWrite.Exact : KeyWrite → Prop
  | .put value => NulFree value
  | .putBlob _ _ => True

theorem cString_eq_self_iff {text : Bytes} : cString text = text ↔ NulFree text := by
  constructor
  · intro hsame
    exact hsame ▸ cString_nulFree text
  · exact cString_eq_self

theorem KeyWrite.storedBytes_eq_iff {write : KeyWrite} :
    write.storedBytes = write.bytes ↔ write.Exact := by
  cases write with
  | put value => exact cString_eq_self_iff
  | putBlob data size => exact ⟨fun _ => trivial, fun _ => rfl⟩

theorem KeyWrite.storedKey_eq {write : KeyWrite} {key : Bytes} (hkey : NulFree key) :
    write.storedKey key = key := by
  cases write with
  | put value => exact cString_eq_self hkey
  | putBlob data size => rfl

section Apart

variable {table : Table} {key other : Bytes} {write : KeyWrite} (hkey : NulFree key)
include hkey

theorem contents_written (key' : Bytes) :
    contents ((write.write key).apply table) key' =
      if key' = key then some write.storedBytes else contents table key' := by
  rw [KeyWrite.contents_apply, KeyWrite.storedKey_eq hkey]
  exact Function.update_apply ..

theorem contents_removed (key' : Bytes) :
    contents ((Write.remove key).apply ((write.write key).apply table)) key' =
      if key' = key then none else contents table key' := by
  change contents (Std.ExtTreeMap.erase _ (cString key)) key' = _
  rw [contents_erase, cString_eq_self hkey, Function.update_apply, contents_written hkey]
  split <;> rfl

/-- The other key is seen as itself unless its C string is the written key. -/
theorem reports_same (hother : cString other ≠ key) :
    reportOf ((write.write key).apply table) other = reportOf table other ∧
      reportOf ((Write.remove key).apply ((write.write key).apply table)) other =
        reportOf table other := by
  unfold reportOf
  rw [contents_written hkey, contents_removed hkey, if_neg hother, if_neg hother]
  exact ⟨rfl, rfl⟩

end Apart

theorem trialOf_apart_iff {table : Table} {key other : Bytes} {write : KeyWrite} :
    (trialOf key other write table).Apart key write ↔
      NulFree key ∧ cString other ≠ key ∧ write.Exact := by
  constructor
  · intro hapart
    have hkey : NulFree key := by
      obtain ⟨stored, _, hstored⟩ := List.mem_map.mp hapart.listed
      exact hstored ▸ cString_nulFree stored
    refine ⟨hkey, fun hother => ?_, ?_⟩
    · -- the other key would come with the write and go with the removal
      have hafter := congrArg KeyReport.has (hapart.after.trans hapart.last.symm)
      have hcontents : (contents ((write.write key).apply table) (cString other)).isSome =
          (contents ((Write.remove key).apply ((write.write key).apply table))
            (cString other)).isSome := hafter
      rw [contents_written hkey, contents_removed hkey, if_pos hother, if_pos hother] at hcontents
      cases hcontents
    · have hbytes : (contents ((write.write key).apply table) (cString key)).getD [] =
          write.bytes := hapart.getBlob
      rw [contents_written hkey, if_pos (cString_eq_self hkey)] at hbytes
      exact KeyWrite.storedBytes_eq_iff.mp hbytes
  · rintro ⟨hkey, hother, hexact⟩
    have hsame := cString_eq_self hkey
    constructor
    · change (contents ((write.write key).apply table) (cString key)).isSome = true
      rw [contents_written hkey, if_pos hsame]
      rfl
    · change (contents ((write.write key).apply table) (cString key)).getD [] = write.bytes
      rw [contents_written hkey, if_pos hsame]
      exact KeyWrite.storedBytes_eq_iff.mpr hexact
    · refine List.mem_map.mpr ⟨key, mem_keys_iff.mpr ?_, hsame⟩
      rw [contents_written hkey, if_pos rfl]
      rfl
    · change (contents ((Write.remove key).apply ((write.write key).apply table))
        (cString key)).isSome = false
      rw [contents_removed hkey, if_pos hsame]
      rfl
    · exact (reports_same hkey hother).1
    · exact (reports_same hkey hother).2

/-- After a write that returned true, the operations tell two keys apart exactly when
nothing that is bound as a C string contains a NUL that matters. -/
theorem keys_kept_apart_iff {Connection : Type} {engine : Engine Connection}
    {connection : Connection} {store : PersistentStore} {start final : engine.State}
    (hlaws : engine.Lawful) (hopen : store.db.isOpen = true) {key other : Bytes}
    {write : KeyWrite} {trial : KeyTrial} (houtside : ¬ engine.inTransaction start connection)
    (hrun : Runs (SucceedingAnswers engine connection) (keyTrial store key other write)
      start trial final) (hwritten : trial.written = true) :
    trial.Apart key write ↔ NulFree key ∧ cString other ≠ key ∧ write.Exact := by
  rw [keyTrial_runs hlaws hopen houtside hrun hwritten]
  exact trialOf_apart_iff

section Journal

theorem journal_reports (table : Table) (key : Bytes) :
    ∃ report, Runs (SucceedingAnswers (journalEngine ℕ) 0) (openStore.report key)
      ⟨table, none⟩ report ⟨table, none⟩ :=
  ⟨_, .answered (completedRun _) (journal_selects rfl rfl)
    (.answered (completedRun _) (journal_selects rfl rfl)
      (.answered (completedRun _) (journal_selects rfl rfl) (.done _ _)))⟩

/-- After a write that succeeds the trial runs to its end. -/
theorem journal_keyTrial {table table' : Table} {key other : Bytes} {write : KeyWrite}
    (hwrite : Runs (SucceedingAnswers (journalEngine ℕ) 0)
      (openStore.write (write.write key)) ⟨table, none⟩ ⟨true, none⟩ ⟨table', none⟩) :
    ∃ trial final, Runs (SucceedingAnswers (journalEngine ℕ) 0)
      (keyTrial openStore key other write) ⟨table, none⟩ trial final ∧ trial.written = true := by
  obtain ⟨before, hbefore⟩ := journal_reports table other
  obtain ⟨own, hown⟩ := journal_reports table' key
  obtain ⟨after, hafter⟩ := journal_reports table' other
  obtain ⟨last, hlast⟩ := journal_reports (table'.erase (cString key)) other
  have hlisted : Runs (SucceedingAnswers (journalEngine ℕ) 0) openStore.keys ⟨table', none⟩ _ _ :=
    .answered (completedRun _) (journal_selects rfl rfl) (.done _ _)
  have hremove : Runs (SucceedingAnswers (journalEngine ℕ) 0) (openStore.remove key)
      ⟨table', none⟩ _ _ :=
    .answered (completedRun []) (journal_writes rfl) (.done _ _)
  have hgone : Runs (SucceedingAnswers (journalEngine ℕ) 0) (openStore.has key)
      ⟨table'.erase (cString key), none⟩ _ _ :=
    .answered (completedRun _) (journal_selects rfl rfl) (.done _ _)
  exact ⟨_, _, runs_bind_iff.mpr ⟨before, _, hbefore, runs_bind_iff.mpr ⟨_, _, hwrite,
    runs_bind_iff.mpr ⟨own, _, hown, runs_bind_iff.mpr ⟨_, _, hlisted,
      runs_bind_iff.mpr ⟨after, _, hafter, runs_bind_iff.mpr ⟨_, _, hremove,
        runs_bind_iff.mpr ⟨_, _, hgone, runs_bind_iff.mpr ⟨last, _, hlast, .done _ _⟩⟩⟩⟩⟩⟩⟩⟩,
    rfl⟩

/-- `put("a", "v")` and the key `"b"`. -/
theorem plain_keys_kept_apart :
    ∃ trial final, Runs (SucceedingAnswers (journalEngine ℕ) 0)
        (keyTrial openStore [97] [98] (.put [118])) ⟨∅, none⟩ trial final ∧
      trial.written = true ∧ trial.Apart [97] (.put [118]) := by
  obtain ⟨trial, final, hrun, hwritten⟩ := @journal_keyTrial ∅ _ [97] [98] (.put [118])
    (.answered (completedRun []) (journal_writes rfl) (.done _ _))
  have hapart := keys_kept_apart_iff journalEngine_lawful rfl Journal.not_inTransaction_mk
    hrun hwritten
  have hvalue : NulFree [118] := by decide
  exact ⟨trial, final, hrun, hwritten, hapart.mpr ⟨by decide, by decide, hvalue⟩⟩

/-- `putBlob("a\0", data, 1)` stores a key that no other operation names. -/
theorem blob_key_lost :
    ∃ trial final, Runs (SucceedingAnswers (journalEngine ℕ) 0)
        (keyTrial openStore [97, 0] [98] (.putBlob (some [1]) 1)) ⟨∅, none⟩ trial final ∧
      trial.written = true ∧ trial.own.has = false ∧ [97, 0] ∉ trial.listed ∧
        ¬ trial.Apart [97, 0] (.putBlob (some [1]) 1) := by
  obtain ⟨trial, final, hrun, hwritten⟩ :=
    @journal_keyTrial ∅ _ [97, 0] [98] (.putBlob (some [1]) 1)
      (.answered (completedRun []) (journal_writes rfl) (.done _ _))
  have htrial := keyTrial_runs journalEngine_lawful rfl Journal.not_inTransaction_mk hrun hwritten
  refine ⟨trial, final, hrun, hwritten, ?_, ?_, ?_⟩
  · rw [htrial]
    decide
  · rw [htrial]
    decide
  · rw [htrial, trialOf_apart_iff]
    rintro ⟨hkey, _⟩
    exact absurd hkey (by decide)

end Journal

end ElapPlatform.Storage
