import ElapPlatform.ConfigurationBackends

/-!
# Loading one file into both configuration classes

The two classes accept the same files.  From an accepted file the store gets the
pairs in the order of the lines, so that its table stands for the map of
`KeyValueConfiguration`.
-/

namespace ElapPlatform.Config

open Interaction Interaction.Program Storage Transition

/-! ## One query -/

structure AnsweredQuery where
  query : Query
  value : query.Value

section Queries

variable {Connection : Type} (engine : Engine Connection) (connection : Connection)

def QueryStep (database : DatabaseConfiguration) (state : engine.State)
    (asked : AnsweredQuery) (next : engine.State) : Prop :=
  Runs (SucceedingAnswers engine connection) (database.ask asked.query) state asked.value next

variable {engine connection} {database : DatabaseConfiguration} {state next : engine.State}

/-- The getters that convert the text of `get`. -/
theorem getter_runs {α : Type} (convert : Option Bytes → α) (hlaws : engine.Lawful)
    (hopen : database.store.db.isOpen = true)
    (houtside : ¬ engine.inTransaction state connection) {key : Bytes} {value : α}
    {getter : DatabaseProgram α}
    (hgetter : getter = database.store.get key >>= fun result => .done (convert result.value))
    (hrun : Runs (SucceedingAnswers engine connection) getter state value next) :
    value = convert ((contents (engine.committed state) (cString key)).map cString) ∧
      engine.committed next = engine.committed state ∧
        ¬ engine.inTransaction next connection := by
  rw [hgetter, runs_bind_iff] at hrun
  obtain ⟨result, middle, hget, hdone⟩ := hrun
  obtain ⟨rfl, rfl⟩ := runs_done_iff.mp hdone
  obtain ⟨hvalue, hunchanged⟩ := get_succeeds hopen hlaws houtside hget
  rw [hvalue]
  exact ⟨rfl, hunchanged⟩

theorem query_runs (hlaws : engine.Lawful) (hopen : database.store.db.isOpen = true)
    (houtside : ¬ engine.inTransaction state connection) {asked : AnsweredQuery}
    (hstep : QueryStep engine connection database state asked next) :
    asked.value = asked.query.answer
        ((contents (engine.committed state) (cString asked.query.key)).map cString) ∧
      engine.committed next = engine.committed state ∧
        ¬ engine.inTransaction next connection := by
  obtain ⟨query, value⟩ := asked
  unfold QueryStep at hstep
  cases query with
  | has key =>
      have hrun : Runs (SucceedingAnswers engine connection)
          (database.store.has key >>= fun result => .done result.value) state value next := hstep
      obtain ⟨result, middle, hhas, hdone⟩ := runs_bind_iff.mp hrun
      obtain ⟨rfl, rfl⟩ := runs_done_iff.mp hdone
      obtain ⟨hvalue, hunchanged⟩ := has_succeeds hopen hlaws houtside hhas
      refine ⟨?_, hunchanged⟩
      rw [hvalue]
      exact Option.isSome_map.symm
  | getString key defaultValue =>
      exact getter_runs (fun text => text.getD defaultValue) hlaws hopen houtside rfl hstep
  | getInt key defaultValue =>
      refine getter_runs (Query.getInt key defaultValue).answer hlaws hopen houtside ?_ hstep
      change (database.store.get key >>= fun result => _) = _
      congr 1
      funext result
      obtain ⟨text, error⟩ := result
      cases text <;> rfl
  | getBool key defaultValue =>
      refine getter_runs (Query.getBool key defaultValue).answer hlaws hopen houtside ?_ hstep
      change (database.store.get key >>= fun result => _) = _
      congr 1
      funext result
      obtain ⟨text, error⟩ := result
      cases text <;> rfl

/-- Queries change nothing, so each of them sees the table that the first one saw. -/
theorem queries_run (hlaws : engine.Lawful) (hopen : database.store.db.isOpen = true)
    {loaded : engine.State} (houtside : ¬ engine.inTransaction loaded connection)
    {history : History engine.State AnsweredQuery}
    (hrun : Run (QueryStep engine connection database) loaded history next) :
    ∀ entry ∈ history, entry.2.value = entry.2.query.answer
      ((contents (engine.committed loaded) (cString entry.2.query.key)).map cString) := by
  have hkept := hrun.invariant
    (fun history state => engine.committed state = engine.committed loaded ∧
      ¬ engine.inTransaction state connection ∧
      ∀ entry ∈ history, entry.2.value = entry.2.query.answer
        ((contents (engine.committed loaded) (cString entry.2.query.key)).map cString))
    ⟨rfl, houtside, nofun⟩ ?_
  · exact hkept.2.2
  rintro history state asked after _ ⟨hcommitted, hout, hanswers⟩ hstep
  obtain ⟨hvalue, hsame, hended⟩ := query_runs hlaws hopen hout hstep
  refine ⟨hsame.trans hcommitted, hended, fun entry hmem => ?_⟩
  rcases List.mem_append.mp hmem with hmem | hmem
  · exact hanswers entry hmem
  · rw [List.mem_singleton.mp hmem, ← hcommitted]
    exact hvalue

end Queries

/-! ## One file -/

/-- The pairs of an accepted file, stored in the order of the lines. -/
theorem contents_of_pairs {pairs : List (Bytes × Bytes)} (hfree : PairsNulFree pairs) :
    contents (pairs.foldl insertPair ∅) =
      pairs.foldl KeyValueConfiguration.store fun _ => none := by
  rw [contents_insertPairs hfree]
  have hempty : contents ∅ = fun _ => none := by
    funext key
    simp [contents]
  rw [hempty]
  rfl

theorem values_nulFree {pairs : List (Bytes × Bytes)} (hfree : PairsNulFree pairs)
    {start : Bytes → Option Bytes} (hstart : ∀ key, ∀ text ∈ start key, NulFree text) :
    ∀ key, ∀ text ∈ pairs.foldl KeyValueConfiguration.store start key, NulFree text := by
  induction pairs generalizing start with
  | nil => exact hstart
  | cons pair pairs ih =>
      refine ih (fun other hmem => hfree other (List.mem_cons_of_mem pair hmem)) ?_
      intro key text htext
      unfold KeyValueConfiguration.store at htext
      by_cases hsame : key = pair.1
      · subst hsame
        rw [Function.update_self] at htext
        cases htext
        exact (hfree pair List.mem_cons_self).2
      · rw [Function.update_of_ne hsame] at htext
        exact hstart key text htext

theorem map_cString_eq_self {text : Option Bytes} (hfree : ∀ bytes ∈ text, NulFree bytes) :
    text.map cString = text := by
  cases text with
  | none => rfl
  | some bytes => exact congrArg some (cString_eq_self (hfree bytes rfl))

section Loading

variable {Connection : Type} {engine : Engine Connection} {connection : Connection}

/-- What one file makes of the two classes: `loadedValues` is what
`KeyValueConfiguration` answers, and `answer` what the database answers. -/
structure LoadsAlike (engine : Engine Connection) (connection : Connection)
    (database : DatabaseConfiguration) (keyValue : KeyValueConfiguration)
    (loadedValues : ObjectAnswer KeyValueConfiguration) (start : engine.State)
    (answer : Answer Bool) (loaded : engine.State) : Prop where
  accepts : answer.value = true ↔ loadedValues.error = none
  errors : answer.error = loadedValues.error
  answers : loadedValues.error = none → ∀ {history state},
    Run (QueryStep engine connection database) loaded history state →
      ∀ entry ∈ history, NulFree entry.2.query.key →
        entry.2.value = loadedValues.object.ask entry.2.query
  rejects : loadedValues.error ≠ none → loadedValues.object = keyValue ∧ loaded = start

/-- Both classes make the same of every file that is read to its end. -/
theorem configurations_load_alike (hlaws : engine.Lawful) {database : DatabaseConfiguration}
    (hopen : database.store.db.isOpen = true) (keyValue : KeyValueConfiguration)
    {content : Bytes} (hfree : NulFree content) {path : String} {start loaded : engine.State}
    (houtside : ¬ engine.inTransaction start connection) (hempty : engine.committed start = ∅)
    {answer : Answer Bool}
    (hload : Runs (SucceedingAnswers engine connection)
      (database.loadFromFile path (some ⟨content, .endOfFile⟩)) start answer loaded) :
    LoadsAlike engine connection database keyValue
      (keyValue.loadFromFile path (some ⟨content, .endOfFile⟩)) start answer loaded := by
  unfold DatabaseConfiguration.loadFromFile at hload
  unfold KeyValueConfiguration.loadFromFile
  rw [parseFile_eq_pairs]
  cases hpairs : parseFile (fun values pair => values ++ [pair]) [] path
      (some ⟨content, .endOfFile⟩) with
  | error error =>
      rw [hpairs] at hload
      obtain ⟨rfl, rfl⟩ := runs_done_iff.mp hload
      exact ⟨by simp [Except.map], rfl, nofun, fun _ => ⟨rfl, rfl⟩⟩
  | ok pairs =>
      rw [hpairs] at hload
      have hpairsFree := parseFile_nulFree hfree hpairs
      have hvalues := @values_nulFree pairs hpairsFree (fun _ => none) nofun
      cases putAll_succeeds hopen hlaws hload
      obtain ⟨hended, hcommitted⟩ := putAll_runs hlaws hopen houtside (runs_of_succeeding hload)
      rw [if_pos rfl, hempty] at hcommitted
      refine ⟨by simp [Except.map], rfl, ?_, fun herror => absurd rfl herror⟩
      intro _ history state hrun entry hmem hkey
      have hanswer := queries_run hlaws hopen hended hrun entry hmem
      rw [hcommitted, contents_of_pairs hpairsFree, cString_eq_self hkey] at hanswer
      rw [hanswer, KeyValueConfiguration.ask_eq]
      exact congrArg _ (map_cString_eq_self (hvalues _))

end Loading

/-- The transaction of a file whose one pair is `k` and `v`. -/
theorem onePair_loads {path : String} {file : Option FileStream}
    (hpairs : parseFile (fun values pair => values ++ [pair]) [] path file =
      .ok [([107], [118])]) :
    Runs (SucceedingAnswers (journalEngine ℕ) 0)
      (DatabaseConfiguration.loadFromFile ⟨⟨⟨true⟩⟩⟩ path file) ⟨∅, none⟩ ⟨true, none⟩
      ⟨insertPair ∅ ([107], [118]), none⟩ := by
  unfold DatabaseConfiguration.loadFromFile
  rw [hpairs]
  exact .answered (⟨SQLITE_OK, none, ""⟩ : ExecReply) ⟨.began rfl, rfl⟩
    (.answered (completedRun [])
      ⟨.wroteInside (completedRun_succeeded _ _ _) rfl (statement_returns_iff.mpr rfl),
        completedRun_succeeded _ _ _⟩
      (.answered (⟨SQLITE_OK, none, ""⟩ : ExecReply) ⟨.committed rfl, rfl⟩ (.done _ _)))

/-- `"# c\nk = v"` -/
def pairFile : Bytes := [35, 32, 99, 10, 107, 32, 61, 32, 118]

theorem pairFile_loads_alike :
    ∃ loaded, Runs (SucceedingAnswers (journalEngine ℕ) 0)
        (DatabaseConfiguration.loadFromFile ⟨⟨⟨true⟩⟩⟩ "elap.conf"
          (some ⟨pairFile, .endOfFile⟩)) ⟨∅, none⟩ ⟨true, none⟩ loaded ∧
      LoadsAlike (journalEngine ℕ) 0 ⟨⟨⟨true⟩⟩⟩ ⟨fun _ => none⟩
        (KeyValueConfiguration.loadFromFile ⟨fun _ => none⟩ "elap.conf"
          (some ⟨pairFile, .endOfFile⟩)) ⟨∅, none⟩ ⟨true, none⟩ loaded := by
  have hload := @onePair_loads "elap.conf" (some ⟨pairFile, .endOfFile⟩) (by decide)
  exact ⟨_, hload, configurations_load_alike journalEngine_lawful rfl _ (by decide)
    Journal.not_inTransaction_mk rfl hload⟩

/-! ## Streams that break off -/

section ReadErrors

variable {Connection : Type} {engine : Engine Connection} {connection : Connection}

/-- The load answers false and leaves everything as it was. -/
def KeyValueConfiguration.Refuses (configuration : KeyValueConfiguration) (path : String)
    (file : FileStream) : Prop :=
  (configuration.loadFromFile path (some file)).error ≠ none ∧
    (configuration.loadFromFile path (some file)).object = configuration

def Refused (engine : Engine Connection) (start : engine.State) (answer : Answer Bool)
    (loaded : engine.State) : Prop :=
  answer.value = false ∧ engine.committed loaded = engine.committed start

/-- After any number of well-formed lines a read error looks like the end of the file,
and both classes keep the lines before it. -/
theorem read_errors_accepted (hlaws : engine.Lawful) {database : DatabaseConfiguration}
    (hopen : database.store.db.isOpen = true) (keyValue : KeyValueConfiguration)
    {content : Bytes} (hlines : ∀ line ∈ (FileStream.mk content .readError).lines, WellFormed line)
    (path : String) :
    ¬ keyValue.Refuses path ⟨content, .readError⟩ ∧
      ∀ {start loaded : engine.State} {answer : Answer Bool},
        Runs (SucceedingAnswers engine connection)
          (database.loadFromFile path (some ⟨content, .readError⟩)) start answer loaded →
            ¬ Refused engine start answer loaded := by
  constructor
  · rintro ⟨herror, _⟩
    unfold KeyValueConfiguration.loadFromFile at herror
    obtain ⟨values, hvalues⟩ :=
      @parseLines_of_wellFormed _ KeyValueConfiguration.store _ hlines 0 fun _ => none
    have hparsed : parseFile KeyValueConfiguration.store (fun _ => none) path
        (some ⟨content, .readError⟩) = .ok values := hvalues
    rw [hparsed] at herror
    exact herror rfl
  · rintro start loaded answer hload ⟨hfalse, _⟩
    unfold DatabaseConfiguration.loadFromFile at hload
    obtain ⟨values, hvalues⟩ := @parseLines_of_wellFormed _
      (fun (values : List (Bytes × Bytes)) pair => values ++ [pair]) _ hlines 0 []
    have hparsed : parseFile (fun values pair => values ++ [pair]) [] path
        (some ⟨content, .readError⟩) = .ok values := hvalues
    rw [hparsed] at hload
    cases putAll_succeeds hopen hlaws hload
    cases hfalse

end ReadErrors

/-- `"k = v\n"` and a read error. -/
def brokenFile : FileStream := ⟨[107, 32, 61, 32, 118, 10], .readError⟩

theorem brokenFile_accepted :
    (KeyValueConfiguration.loadFromFile ⟨fun _ => none⟩ "elap.conf" (some brokenFile)).error =
        none ∧
      ((KeyValueConfiguration.loadFromFile ⟨fun _ => none⟩ "elap.conf"
        (some brokenFile)).object.values [107] = some [118]) ∧
      Runs (SucceedingAnswers (journalEngine ℕ) 0)
        (DatabaseConfiguration.loadFromFile ⟨⟨⟨true⟩⟩⟩ "elap.conf" (some brokenFile))
        ⟨∅, none⟩ ⟨true, none⟩ ⟨insertPair ∅ ([107], [118]), none⟩ :=
  ⟨by decide, by decide, onePair_loads rfl⟩

theorem brokenFile_not_refused :
    ¬ KeyValueConfiguration.Refuses ⟨fun _ => none⟩ "elap.conf" brokenFile ∧
      ¬ Refused (journalEngine ℕ) ⟨∅, none⟩ ⟨true, none⟩ ⟨insertPair ∅ ([107], [118]), none⟩ := by
  have hlines : ∀ line ∈ brokenFile.lines, WellFormed line := by
    intro line hmem
    cases List.mem_singleton.mp hmem
    exact fun lineNumber => ⟨some ([107], [118]), rfl⟩
  obtain ⟨hkeyValue, hdatabase⟩ := @read_errors_accepted ℕ (journalEngine ℕ) 0
    journalEngine_lawful ⟨⟨⟨true⟩⟩⟩ rfl ⟨fun _ => none⟩ brokenFile.content hlines "elap.conf"
  exact ⟨hkeyValue, hdatabase (onePair_loads (by decide))⟩

end ElapPlatform.Config
