import ElapPlatform.ConfigurationEntries
import ElapPlatform.PartialMapUpdate

/-!
# Typed entries over whole runs

Any sequence of setters, removals, loads and getters of a `DatabaseConfiguration`, of which
any statement may fail.
-/

namespace ElapPlatform.Config

open Interaction Interaction.Program Storage Transition

/-! ## Calls -/

/-- A call that has returned; `tries` is a getter of which statements may have failed. -/
inductive ConfigurationCall where
  | write (write : ConfigurationWrite) (answer : Answer Bool)
  | asks (query : Query) (value : query.Value)
  | tries (query : Query) (value : query.Value)

def ConfigurationWrite.Admissible : ConfigurationWrite → Prop
  | .setString key value => NulFree key ∧ (Entry.string value).Valid
  | .setInt key value => NulFree key ∧ (Entry.integer value).Valid
  | .setBool key _ => NulFree key
  | .remove key => NulFree key
  | .loadFromFile _ file => ∀ stream ∈ file, NulFree stream.content

/-- Keys, strings and files contain no NUL, and integers are `int`s. -/
def ConfigurationCall.Admissible : ConfigurationCall → Prop
  | .write writing _ => writing.Admissible
  | .asks query _ => NulFree query.key
  | .tries query _ => NulFree query.key

inductive EntriesStep : Entries → ConfigurationCall → Entries → Prop
  | writes {entries next : Entries} {write : ConfigurationWrite} {answer : Answer Bool}
      (hsucceeds : answer.value = true) (hupdate : write.update entries = some next) :
      EntriesStep entries (.write write answer) next
  | fails {entries : Entries} {write : ConfigurationWrite} {answer : Answer Bool}
      (hfails : answer.value = false) : EntriesStep entries (.write write answer) entries
  | asks {entries : Entries} {query : Query} :
      EntriesStep entries (.asks query (query.typedAnswer (entries query.key))) entries
  | tries {entries : Entries} {query : Query} {entry : Option Entry}
      (hentry : entry = entries query.key ∨ entry = none) :
      EntriesStep entries (.tries query (query.typedAnswer entry)) entries

section Runs

variable {Connection : Type} (engine : Engine Connection) (connection : Connection)

def ConfigurationStep (configuration : DatabaseConfiguration) (state : engine.State) :
    ConfigurationCall → engine.State → Prop
  | .write write answer, next =>
      Runs (engine.Answers connection) (write.perform configuration) state answer next
  | .asks query value, next =>
      Runs (SucceedingAnswers engine connection) (configuration.ask query) state value next
  | .tries query value, next =>
      Runs (engine.Answers connection) (configuration.ask query) state value next

end Runs

/-! ## Tables of entries -/

/-- The table holds the texts of the entries. -/
structure Stands (entries : Entries) (table : Table) : Prop where
  texts : ∀ key, (contents table key).map cString = (entries key).map Entry.text
  keys : KeysNulFree table
  valid : ∀ key, ∀ entry ∈ entries key, entry.Valid

section Tables

variable {entries next : Entries} {table : Table} {key : Bytes} {entry : Entry}

theorem Entry.Valid.text_nulFree (hvalid : entry.Valid) : NulFree entry.text := by
  cases entry with
  | string text => exact hvalid
  | integer value => exact decimal_nulFree value
  | boolean value => cases value <;> decide

theorem Stands.put (hstands : Stands entries table) (hkey : NulFree key) (hvalid : entry.Valid) :
    Stands (Function.update entries key (some entry)) ((Write.put key entry.text).apply table) := by
  have hfree : (Operation.write (.put key entry.text)).NulFree := ⟨hkey, hvalid.text_nulFree⟩
  refine ⟨fun other => ?_, hstands.keys.apply hfree, fun other found hfound => ?_⟩
  · rw [contents_apply hfree, Write.update, putPair]
    by_cases hsame : other = key
    · subst hsame
      simp [cString_eq_self hvalid.text_nulFree]
    · simp [hsame, hstands.texts]
  · rcases PartialMap.insert_eq_some_iff.mp hfound with ⟨-, rfl⟩ | ⟨-, hfound⟩
    · exact hvalid
    · exact hstands.valid other found hfound

theorem Stands.remove (hstands : Stands entries table) (hkey : NulFree key) :
    Stands (Function.update entries key none) ((Write.remove key).apply table) := by
  have hfree : (Operation.write (.remove key)).NulFree := hkey
  refine ⟨fun other => ?_, hstands.keys.apply hfree, fun other found hfound => ?_⟩
  · rw [contents_apply hfree, Write.update]
    by_cases hsame : other = key
    · subst hsame
      simp
    · simp [hsame, hstands.texts]
  · exact hstands.valid other found (PartialMap.erase_eq_some_iff.mp hfound).2

theorem Stands.putAll {pairs : List (Bytes × Bytes)} (hstands : Stands entries table)
    (hpairs : PairsNulFree pairs) :
    Stands (pairs.foldl putEntry entries) ((Write.putAll pairs).apply table) := by
  induction pairs generalizing entries table with
  | nil => exact hstands
  | cons pair pairs ih =>
      have hpair := hpairs pair List.mem_cons_self
      have hvalid : (Entry.string pair.2).Valid := hpair.2
      exact ih (hstands.put hpair.1 hvalid) fun other hmem =>
        hpairs other (List.mem_cons_of_mem pair hmem)

end Tables

/-! ## One call -/

section Steps

variable {Connection : Type} {engine : Engine Connection} {connection : Connection}
  {configuration : DatabaseConfiguration} {state next : engine.State} {entries : Entries}

/-- A write of the configuration is refused at once, or is one of the store. -/
theorem perform_cases (write : ConfigurationWrite) :
    (∃ error, write.perform configuration = .done ⟨false, some error⟩) ∨
      ∃ stored, write.perform configuration = configuration.store.write stored ∧
        ∀ {entries table}, write.Admissible → Stands entries table →
          ∃ after, write.update entries = some after ∧ Stands after (stored.apply table) := by
  cases write with
  | setString key value =>
      exact .inr ⟨.put key value, rfl, fun hadmissible hstands =>
        ⟨_, rfl, hstands.put hadmissible.1 hadmissible.2⟩⟩
  | setInt key value =>
      exact .inr ⟨.put key (decimal value), rfl, fun hadmissible hstands =>
        ⟨_, rfl, hstands.put hadmissible.1 hadmissible.2⟩⟩
  | setBool key value =>
      exact .inr ⟨.put key (Entry.boolean value).text, rfl, fun hadmissible hstands =>
        ⟨_, rfl, hstands.put hadmissible trivial⟩⟩
  | remove key =>
      exact .inr ⟨.remove key, rfl, fun hadmissible hstands =>
        ⟨_, rfl, hstands.remove hadmissible⟩⟩
  | loadFromFile path file =>
      have hperform : (ConfigurationWrite.loadFromFile path file).perform configuration =
          configuration.loadFromFile path file := rfl
      unfold DatabaseConfiguration.loadFromFile at hperform
      cases hparsed : parseFile (fun values pair => values ++ [pair]) [] path file with
      | error error =>
          rw [hparsed] at hperform
          exact .inl ⟨error, hperform⟩
      | ok pairs =>
          rw [hparsed] at hperform
          refine .inr ⟨.putAll pairs, hperform, fun hadmissible hstands =>
            ⟨pairs.foldl putEntry _, ?_, hstands.putAll ?_⟩⟩
          · simp only [ConfigurationWrite.update, hparsed]
          · cases file with
            | none => cases hparsed
            | some stream => exact parseFile_nulFree (hadmissible stream rfl) hparsed

theorem getter_answers {α : Type} (convert : Option Bytes → α) (hlaws : engine.Lawful)
    (hopen : configuration.store.db.isOpen = true)
    (houtside : ¬ engine.inTransaction state connection) {key : Bytes} {value : α}
    {getter : DatabaseProgram α}
    (hgetter : getter = configuration.store.get key >>= fun result => .done (convert result.value))
    (hrun : Runs (engine.Answers connection) getter state value next) :
    (value = convert ((contents (engine.committed state) (cString key)).map cString) ∨
        value = convert none) ∧
      engine.committed next = engine.committed state ∧
        ¬ engine.inTransaction next connection := by
  rw [hgetter, runs_bind_iff] at hrun
  obtain ⟨result, middle, hget, hdone⟩ := hrun
  obtain ⟨rfl, rfl⟩ := runs_done_iff.mp hdone
  obtain ⟨hended, hcommitted, -, hfound, hfailed, -⟩ := get_runs hlaws hopen houtside hget
  refine ⟨?_, hcommitted, hended⟩
  by_cases herror : result.error = none
  · exact .inl (congrArg convert (hfound herror))
  · exact .inr (congrArg convert (hfailed herror))

/-- Where statements may fail, a getter answers for its entry or for none. -/
theorem query_answers (hlaws : engine.Lawful) (hopen : configuration.store.db.isOpen = true)
    (houtside : ¬ engine.inTransaction state connection) {query : Query} {value : query.Value}
    (hrun : Runs (engine.Answers connection) (configuration.ask query) state value next) :
    (value = query.answer
        ((contents (engine.committed state) (cString query.key)).map cString) ∨
        value = query.answer none) ∧
      engine.committed next = engine.committed state ∧
        ¬ engine.inTransaction next connection := by
  cases query with
  | has key =>
      have hprogram : Runs (engine.Answers connection)
          (configuration.store.has key >>= fun result => .done result.value) state value next :=
        hrun
      obtain ⟨result, middle, hhas, hdone⟩ := runs_bind_iff.mp hprogram
      obtain ⟨rfl, rfl⟩ := runs_done_iff.mp hdone
      obtain ⟨hended, hcommitted, -, hfound, hfailed, -⟩ := has_runs hlaws hopen houtside hhas
      refine ⟨?_, hcommitted, hended⟩
      by_cases herror : result.error = none
      · exact .inl ((hfound herror).trans Option.isSome_map.symm)
      · exact .inr (hfailed herror)
  | getString key defaultValue =>
      exact getter_answers (fun text => text.getD defaultValue) hlaws hopen houtside rfl hrun
  | getInt key defaultValue =>
      refine getter_answers (Query.getInt key defaultValue).answer hlaws hopen houtside ?_ hrun
      change (configuration.store.get key >>= fun result => _) = _
      congr 1
      funext result
      obtain ⟨text, error⟩ := result
      cases text <;> rfl
  | getBool key defaultValue =>
      refine getter_answers (Query.getBool key defaultValue).answer hlaws hopen houtside ?_ hrun
      change (configuration.store.get key >>= fun result => _) = _
      congr 1
      funext result
      obtain ⟨text, error⟩ := result
      cases text <;> rfl

theorem Stands.answer_eq {table : Table} (hstands : Stands entries table) {query : Query}
    (hkey : NulFree query.key) :
    query.answer ((contents table (cString query.key)).map cString) =
      query.typedAnswer (entries query.key) := by
  rw [cString_eq_self hkey, hstands.texts]
  exact answer_text query (hstands.valid query.key)

/-- One call is one step of the typed entries. -/
theorem Stands.step (hlaws : engine.Lawful) (hopen : configuration.store.db.isOpen = true)
    (houtside : ¬ engine.inTransaction state connection)
    (hstands : Stands entries (engine.committed state)) {call : ConfigurationCall}
    (hadmissible : call.Admissible)
    (hstep : ConfigurationStep engine connection configuration state call next) :
    ∃ after, EntriesStep entries call after ∧ Stands after (engine.committed next) ∧
      ¬ engine.inTransaction next connection := by
  cases call with
  | write write answer =>
      rcases perform_cases write with ⟨error, hrefused⟩ | ⟨stored, hperform, hupdates⟩
      · have hdone : Runs (engine.Answers connection) (write.perform configuration) state answer
          next := hstep
        rw [hrefused] at hdone
        obtain ⟨rfl, rfl⟩ := runs_done_iff.mp hdone
        exact ⟨entries, .fails rfl, hstands, houtside⟩
      · have hrun : Runs (engine.Answers connection) (write.perform configuration) state answer
          next := hstep
        rw [hperform] at hrun
        obtain ⟨hended, hcommitted⟩ := write_runs hlaws hopen houtside hrun
        cases hvalue : answer.value with
        | false =>
            rw [hvalue, if_neg Bool.false_ne_true] at hcommitted
            exact ⟨entries, .fails hvalue, hcommitted ▸ hstands, hended⟩
        | true =>
            rw [hvalue, if_pos rfl] at hcommitted
            obtain ⟨after, hupdate, hafter⟩ := hupdates hadmissible hstands
            exact ⟨after, .writes hvalue hupdate, hcommitted ▸ hafter, hended⟩
  | asks query value =>
      have hasked : QueryStep engine connection configuration state ⟨query, value⟩ next := hstep
      obtain ⟨hvalue, hcommitted, hended⟩ := query_runs hlaws hopen houtside hasked
      obtain rfl : value = query.typedAnswer (entries query.key) :=
        hvalue.trans (hstands.answer_eq hadmissible)
      exact ⟨entries, .asks, hcommitted ▸ hstands, hended⟩
  | tries query value =>
      obtain ⟨hvalue, hcommitted, hended⟩ := query_answers hlaws hopen houtside hstep
      refine ⟨entries, ?_, hcommitted ▸ hstands, hended⟩
      rcases hvalue with rfl | rfl
      · rw [hstands.answer_eq hadmissible]
        exact .tries (.inl rfl)
      · have hnone : query.answer none = query.typedAnswer none := @answer_text query none nofun
        rw [hnone]
        exact .tries (.inr rfl)

end Steps

/-- Whatever statements fail, a configuration behaves as a map of typed entries: a setter that
succeeds replaces one entry, a load that succeeds puts all entries of its file, and a getter
converts the entry of its key. -/
theorem configuration_refines_entries {Connection : Type} {engine : Engine Connection}
    {connection : Connection} {configuration : DatabaseConfiguration} (hlaws : engine.Lawful)
    (hopen : configuration.store.db.isOpen = true) {start final : engine.State}
    {history : History engine.State ConfigurationCall}
    (hrun : Run (ConfigurationStep engine connection configuration) start history final)
    (houtside : ¬ engine.inTransaction start connection) {entries : Entries}
    (hstands : Stands entries (engine.committed start))
    (hcalls : ∀ entry ∈ history, entry.2.Admissible) :
    ∃ entryHistory after, Run EntriesStep entries entryHistory after ∧
      entryHistory.map Prod.snd = history.map Prod.snd ∧ Stands after (engine.committed final) := by
  have hsimulated := hrun.simulate EntriesStep
    (fun state entries => Stands entries (engine.committed state) ∧
      ¬ engine.inTransaction state connection) ConfigurationCall.Admissible
    (fun {state call next entries} hrelates hadmissible hstep => by
      obtain ⟨hholds, hended⟩ := hrelates
      obtain ⟨after, hentries, hafter⟩ := hholds.step hlaws hopen hended hadmissible hstep
      exact ⟨after, hentries, hafter⟩)
    ⟨hstands, houtside⟩ hcalls
  obtain ⟨entryHistory, after, hentryRun, hsame, hafter, -⟩ := hsimulated
  exact ⟨entryHistory, after, hentryRun, hsame, hafter⟩

theorem Stands.empty : Stands (fun _ => none) ∅ where
  texts key := by simp [contents]
  keys := fun _ hmem => absurd hmem Std.ExtTreeMap.not_mem_empty
  valid := nofun

/-- `setInt("k", 1)`, and `getBool("k", false)` is true. -/
theorem integer_is_read_as_boolean :
    ∃ entryHistory after, Run EntriesStep (fun _ => none) entryHistory after ∧
      entryHistory.map Prod.snd =
        [.write (.setInt [107] 1) ⟨true, none⟩, .asks (.getBool [107] false) true] ∧
      Stands after (insertPair ∅ ([107], decimal 1)) := by
  have hset : Runs ((journalEngine ℕ).Answers 0)
      (ConfigurationWrite.perform ⟨openStore⟩ (.setInt [107] 1)) ⟨∅, none⟩ ⟨true, none⟩
      ⟨insertPair ∅ ([107], decimal 1), none⟩ :=
    runs_of_succeeding (.answered (completedRun []) (journal_writes rfl) (.done _ _))
  have hget : Runs (SucceedingAnswers (journalEngine ℕ) 0)
      (DatabaseConfiguration.ask ⟨openStore⟩ (.getBool [107] false))
      ⟨insertPair ∅ ([107], decimal 1), none⟩ true ⟨insertPair ∅ ([107], decimal 1), none⟩ :=
    .answered (completedRun [[.text (decimal 1)]]) (journal_selects rfl (by decide)) (.done _ _)
  have hstart : Run (ConfigurationStep (journalEngine ℕ) 0 ⟨openStore⟩) ⟨∅, none⟩ [] ⟨∅, none⟩ :=
    .start
  have hrun := (hstart.andThen (.write (.setInt [107] 1) ⟨true, none⟩) hset).andThen
    (.asks (.getBool [107] false) true) hget
  refine configuration_refines_entries journalEngine_lawful rfl hrun
    Journal.not_inTransaction_mk .empty ?_
  intro entry hmem
  rcases List.mem_cons.mp hmem with rfl | hmem
  · exact ⟨by decide, by decide, by decide⟩
  · rw [List.mem_singleton.mp hmem]
    show NulFree [107]
    decide

end ElapPlatform.Config
