import ElapPlatform.ConfigurationBackends

/-!
# The grammar of configuration files

What a configuration text says, stated without the loop that reads it: its lines,
the text of a line that counts, and the pair which that text is.  `loadFromFile`
accepts exactly the texts of this grammar.
-/

namespace ElapPlatform.Config

open StreamExtraction (isSpace)

/-! ## The grammar -/

/-- Nothing after the last separator is not a part. -/
def closedParts (parts : List Bytes) : List Bytes :=
  if parts.getLast? = some [] then parts.dropLast else parts

/-- The lines of a text are what its newlines separate. -/
def textLines (content : Bytes) : List Bytes := closedParts (content.splitOn 10)

/-- `inner` is `text` without the whitespace on both sides. -/
structure Trimmed (text inner : Bytes) : Prop where
  surrounded : ∃ left right, text = left ++ inner ++ right ∧
    (∀ byte ∈ left, isSpace byte = true) ∧ (∀ byte ∈ right, isSpace byte = true)
  first : ∀ byte, inner.head? = some byte → isSpace byte = false
  last : ∀ byte, inner.getLast? = some byte → isSpace byte = false

/-- `inner` is what remains of a line without its comment. -/
def Stripped (line inner : Bytes) : Prop := Trimmed (line.takeWhile (· ≠ 35)) inner

/-- The line is blank, or it is the pair. -/
inductive LineReads (line : Bytes) : Option (Bytes × Bytes) → Prop
  | blank (hblank : Stripped line []) : LineReads line none
  | pair {before after key value : Bytes} (hstripped : Stripped line (before ++ 61 :: after))
      (hseparator : 61 ∉ before) (hkey : Trimmed before key) (hnonempty : key ≠ [])
      (hvalue : Trimmed after value) : LineReads line (some (key, value))

def Acceptable (line : Bytes) : Prop := ∃ pair, LineReads line pair

/-- What is wrong with a line that is not acceptable. -/
inductive LineProblem (line : Bytes) : String → Prop
  | unseparated {inner : Bytes} (hstripped : Stripped line inner) (hnonempty : inner ≠ [])
      (hseparator : 61 ∉ inner) : LineProblem line "expected key=value"
  | keyless {before after : Bytes} (hstripped : Stripped line (before ++ 61 :: after))
      (hseparator : 61 ∉ before) (hkey : Trimmed before []) : LineProblem line "key is empty"

/-- The line gives the key a value. -/
def Sets (line key value : Bytes) : Prop := LineReads line (some (key, value))

/-- The last of the lines with the key gives it this value. -/
def LastSets (lines : List Bytes) (key value : Bytes) : Prop :=
  ∃ before line after, lines = before ++ line :: after ∧ Sets line key value ∧
    ∀ later ∈ after, ∀ other, ¬ Sets later key other

/-! ## Trimmed text -/

theorem dropWhile_first {text : Bytes}
    (hfirst : ∀ byte, text.head? = some byte → isSpace byte = false) :
    text.dropWhile isSpace = text := by
  cases text with
  | nil => rfl
  | cons byte text => simp [hfirst byte rfl]

theorem rdropWhile_last {text right : Bytes}
    (hright : ∀ byte ∈ right, isSpace byte = true)
    (hlast : ∀ byte, text.getLast? = some byte → isSpace byte = false) :
    (text ++ right).rdropWhile isSpace = text := by
  have hreverse : text.reverse.dropWhile isSpace = text.reverse := by
    apply dropWhile_first
    intro byte hhead
    rw [List.head?_reverse] at hhead
    exact hlast byte hhead
  unfold List.rdropWhile
  rw [List.reverse_append, List.dropWhile_append_of_pos, hreverse, List.reverse_reverse]
  intro byte hmem
  exact hright byte (List.mem_reverse.mp hmem)

theorem trimmed_trim (text : Bytes) : Trimmed text (trim text) := by
  refine ⟨⟨text.takeWhile isSpace, (text.dropWhile isSpace).rtakeWhile isSpace, ?_, ?_, ?_⟩,
    ?_, ?_⟩
  · rw [List.append_assoc, trim, List.rdropWhile_append_rtakeWhile,
      List.takeWhile_append_dropWhile]
  · intro byte hmem
    exact List.mem_takeWhile_imp hmem
  · intro byte hmem
    exact List.mem_rtakeWhile_imp hmem
  · intro byte hhead
    obtain ⟨right, hright⟩ := List.rdropWhile_prefix isSpace (text.dropWhile isSpace)
    have hnot := List.head?_dropWhile_not isSpace text
    rw [← hright, List.head?_append, ← trim, hhead] at hnot
    simpa using hnot
  · intro byte hlast
    have hne : trim text ≠ [] := by
      intro hnil
      rw [hnil] at hlast
      cases hlast
    have hnot := List.rdropWhile_last_not isSpace (text.dropWhile isSpace) hne
    rw [List.getLast?_eq_some_getLast hne] at hlast
    rw [← Option.some.inj hlast]
    exact Bool.eq_false_iff.mpr hnot

theorem trimmed_iff {text inner : Bytes} : Trimmed text inner ↔ inner = trim text := by
  constructor
  · rintro ⟨⟨left, right, rfl, hleft, hright⟩, hfirst, hlast⟩
    rw [trim, List.append_assoc, List.dropWhile_append_of_pos hleft]
    cases inner with
    | nil =>
        have hspaces : right.dropWhile isSpace = [] := List.dropWhile_eq_nil_iff.mpr hright
        rw [List.nil_append, hspaces]
        rfl
    | cons byte inner =>
        have hkept : (byte :: inner ++ right).dropWhile isSpace = byte :: inner ++ right :=
          dropWhile_first hfirst
        rw [hkept, rdropWhile_last hright hlast]
  · rintro rfl
    exact trimmed_trim text

/-! ## Lines of the text -/

theorem closedParts_cons (part : Bytes) {parts : List Bytes} (hparts : parts ≠ []) :
    closedParts (part :: parts) = part :: closedParts parts := by
  unfold closedParts
  rw [List.getLast?_cons_of_ne_nil hparts, List.dropLast_cons_of_ne_nil hparts]
  split <;> rfl

/-- The accumulated line of the loop is the reversed accumulator of `splitOn`. -/
theorem linesFrom_eq (line content : Bytes) :
    linesFrom .endOfFile line content =
      closedParts (content.splitOnPPrepend (· == 10) line.reverse) := by
  induction content generalizing line with
  | nil =>
      cases line with
      | nil => rfl
      | cons byte line => simp [linesFrom, lastLine, closedParts]
  | cons byte content ih =>
      unfold linesFrom
      split
      next hnewline =>
        rw [List.splitOnPPrepend_cons_pos (by simpa using hnewline), List.reverse_reverse,
          closedParts_cons line (List.splitOnP_ne_nil _ content), ih]
        rfl
      next hother =>
        rw [List.splitOnPPrepend_cons_neg (by simpa using hother), ih, List.reverse_append]
        rfl

theorem lines_eq_textLines (content : Bytes) :
    (FileStream.mk content .endOfFile).lines = textLines content :=
  linesFrom_eq [] content

/-! ## One line -/

theorem eraseComment_eq (line : Bytes) : eraseComment line = line.takeWhile (· ≠ 35) := by
  have hplain : ∀ {text : Bytes}, 35 ∉ text → ∀ byte ∈ text, decide (byte ≠ 35) = true := by
    intro text htext byte hmem
    exact decide_eq_true fun heq => htext (heq ▸ hmem)
  unfold eraseComment
  by_cases hcomment : 35 ∈ line
  · obtain ⟨before, after, rfl, hbefore⟩ := List.eq_append_cons_of_mem hcomment
    rw [find, idxOf?_append_cons hbefore, List.takeWhile_append_of_pos (hplain hbefore)]
    simp
  · have hnone : find line 35 = none := List.idxOf?_eq_none_iff.mpr hcomment
    rw [hnone, List.takeWhile_eq_self_iff.mpr (hplain hcomment)]

theorem stripped_iff {line inner : Bytes} :
    Stripped line inner ↔ inner = trim (eraseComment line) := by
  rw [Stripped, trimmed_iff, eraseComment_eq]

section Line

variable {lineNumber : ℕ} {line : Bytes}

theorem parseLine_blank (hblank : trim (eraseComment line) = []) :
    parseLine lineNumber line = .ok none := by
  simp [parseLine, hblank]

theorem parseLine_unseparated (hinner : trim (eraseComment line) ≠ [])
    (hseparator : 61 ∉ trim (eraseComment line)) :
    parseLine lineNumber line = .error (invalidLine lineNumber "expected key=value") := by
  have hnone : find (trim (eraseComment line)) 61 = none :=
    List.idxOf?_eq_none_iff.mpr hseparator
  simp [parseLine, hinner, hnone]

theorem parseLine_separated {before after : Bytes}
    (hinner : trim (eraseComment line) = before ++ 61 :: after) (hbefore : 61 ∉ before) :
    parseLine lineNumber line =
      if trim before = [] then .error (invalidLine lineNumber "key is empty")
      else .ok (some (trim before, trim after)) := by
  have hafter : (before ++ 61 :: after).drop (before.length + 1) = after := by
    rw [← List.drop_drop, List.drop_left]
    rfl
  simp [parseLine, hinner, find, idxOf?_append_cons hbefore, hafter]

theorem parseLine_ok_iff {pair : Option (Bytes × Bytes)} :
    parseLine lineNumber line = .ok pair ↔ LineReads line pair := by
  constructor
  · intro hparsed
    by_cases hblank : trim (eraseComment line) = []
    · rw [parseLine_blank hblank] at hparsed
      cases hparsed
      exact .blank (stripped_iff.mpr hblank.symm)
    by_cases hseparator : 61 ∈ trim (eraseComment line)
    · obtain ⟨before, after, hinner, hbefore⟩ := List.eq_append_cons_of_mem hseparator
      rw [parseLine_separated hinner hbefore] at hparsed
      split at hparsed
      · cases hparsed
      next hkey =>
        cases hparsed
        exact .pair (stripped_iff.mpr hinner.symm) hbefore (trimmed_trim before) hkey
          (trimmed_trim after)
    · rw [parseLine_unseparated hblank hseparator] at hparsed
      cases hparsed
  · rintro (hblank | ⟨hstripped, hseparator, hkey, hnonempty, hvalue⟩)
    · exact parseLine_blank (stripped_iff.mp hblank).symm
    · rw [trimmed_iff] at hkey hvalue
      rw [parseLine_separated (stripped_iff.mp hstripped).symm hseparator, ← hkey, ← hvalue,
        if_neg hnonempty]

theorem parseLine_error {error : ErrorText} (herror : parseLine lineNumber line = .error error) :
    ∃ problem, LineProblem line problem ∧ error = invalidLine lineNumber problem := by
  by_cases hblank : trim (eraseComment line) = []
  · rw [parseLine_blank hblank] at herror
    cases herror
  by_cases hseparator : 61 ∈ trim (eraseComment line)
  · obtain ⟨before, after, hinner, hbefore⟩ := List.eq_append_cons_of_mem hseparator
    rw [parseLine_separated hinner hbefore] at herror
    split at herror
    next hkey =>
      cases herror
      exact ⟨_, .keyless (stripped_iff.mpr hinner.symm) hbefore (trimmed_iff.mpr hkey.symm), rfl⟩
    · cases herror
  · rw [parseLine_unseparated hblank hseparator] at herror
    cases herror
    exact ⟨_, .unseparated (stripped_iff.mpr rfl) hblank hseparator, rfl⟩

theorem LineReads.unique {pair other : Option (Bytes × Bytes)} (hpair : LineReads line pair)
    (hother : LineReads line other) : pair = other := by
  have hparsed : parseLine 0 line = .ok pair := parseLine_ok_iff.mpr hpair
  rw [parseLine_ok_iff.mpr hother] at hparsed
  exact (Except.ok.inj hparsed).symm

end Line

/-! ## All lines -/

theorem lastSets_cons_iff {line : Bytes} {lines : List Bytes} {key value : Bytes} :
    LastSets (line :: lines) key value ↔
      LastSets lines key value ∨
        (∀ later ∈ lines, ∀ other, ¬ Sets later key other) ∧ Sets line key value := by
  constructor
  · rintro ⟨before, found, after, hlines, hfound, hlast⟩
    cases before with
    | nil =>
        rw [List.nil_append, List.cons.injEq] at hlines
        obtain ⟨rfl, rfl⟩ := hlines
        exact .inr ⟨hlast, hfound⟩
    | cons first before =>
        rw [List.cons_append, List.cons.injEq] at hlines
        exact .inl ⟨before, found, after, hlines.2, hfound, hlast⟩
  · rintro (⟨before, found, after, rfl, hfound, hlast⟩ | ⟨hlast, hfound⟩)
    · exact ⟨line :: before, found, after, rfl, hfound, hlast⟩
    · exact ⟨[], line, lines, rfl, hfound, hlast⟩

/-- A key that some line sets is set by a last one. -/
theorem exists_lastSets_iff {lines : List Bytes} {key : Bytes} :
    (∃ value, LastSets lines key value) ↔ ∃ line ∈ lines, ∃ value, Sets line key value := by
  constructor
  · rintro ⟨value, before, line, after, rfl, hline, _⟩
    exact ⟨line, List.mem_append_right before List.mem_cons_self, value, hline⟩
  · induction lines with
    | nil =>
        rintro ⟨line, hmem, _⟩
        cases hmem
    | cons first lines ih =>
        rintro ⟨line, hmem, value, hline⟩
        by_cases hlater : ∃ later ∈ lines, ∃ other, Sets later key other
        · obtain ⟨last, hlast⟩ := ih hlater
          exact ⟨last, lastSets_cons_iff.mpr (.inl hlast)⟩
        · have hnone : ∀ later ∈ lines, ∀ other, ¬ Sets later key other :=
            fun later hmem other hsets => hlater ⟨later, hmem, other, hsets⟩
          rcases List.mem_cons.mp hmem with rfl | hmem
          · exact ⟨value, lastSets_cons_iff.mpr (.inr ⟨hnone, hline⟩)⟩
          · exact absurd hline (hnone line hmem value)

section Lines

variable {lineNumber : ℕ} {lines : List Bytes}

theorem parseLines_error {Values : Type} {store : Values → Bytes × Bytes → Values}
    {start : Values} {error : ErrorText}
    (herror : parseLines store lineNumber start lines = .error error) :
    ∃ before line after problem, lines = before ++ line :: after ∧
      (∀ earlier ∈ before, Acceptable earlier) ∧ ¬ Acceptable line ∧ LineProblem line problem ∧
      error = invalidLine (lineNumber + before.length + 1) problem := by
  induction lines generalizing lineNumber start with
  | nil => cases herror
  | cons line lines ih =>
      cases hline : parseLine (lineNumber + 1) line with
      | error found =>
          obtain ⟨problem, hproblem, hnumber⟩ := parseLine_error hline
          have hrefused : ¬ Acceptable line := by
            rintro ⟨pair, hpair⟩
            rw [parseLine_ok_iff.mpr hpair] at hline
            cases hline
          unfold parseLines at herror
          rw [hline] at herror
          cases herror
          exact ⟨[], line, lines, problem, rfl, List.forall_mem_nil _, hrefused, hproblem, hnumber⟩
      | ok pair =>
          rw [parseLines_ok hline] at herror
          obtain ⟨before, found, after, problem, rfl, hbefore, hrefused, hproblem, hnumber⟩ :=
            ih herror
          refine ⟨line :: before, found, after, problem, rfl, ?_, hrefused, hproblem, ?_⟩
          · intro earlier hmem
            rcases List.mem_cons.mp hmem with rfl | hmem
            · exact ⟨pair, parseLine_ok_iff.mp hline⟩
            · exact hbefore earlier hmem
          · rw [hnumber, List.length_cons]
            congr 1
            omega

theorem parseLines_acceptable {Values : Type} {store : Values → Bytes × Bytes → Values}
    {start values : Values} (hvalues : parseLines store lineNumber start lines = .ok values) :
    ∀ line ∈ lines, Acceptable line := by
  induction lines generalizing lineNumber start with
  | nil => exact List.forall_mem_nil _
  | cons line lines ih =>
      cases hline : parseLine (lineNumber + 1) line with
      | error error =>
          unfold parseLines at hvalues
          rw [hline] at hvalues
          cases hvalues
      | ok pair =>
          rw [parseLines_ok hline] at hvalues
          intro other hmem
          rcases List.mem_cons.mp hmem with rfl | hmem
          · exact ⟨pair, parseLine_ok_iff.mp hline⟩
          · exact ih hvalues other hmem

theorem store_pair_iff {start : Bytes → Option Bytes} {pair : Option (Bytes × Bytes)}
    {key value : Bytes} :
    pair.toList.foldl KeyValueConfiguration.store start key = some value ↔
      pair = some (key, value) ∨
        (∀ other, pair ≠ some (key, other)) ∧ start key = some value := by
  cases pair with
  | none => simp
  | some pair =>
      obtain ⟨storedKey, storedValue⟩ := pair
      by_cases hkey : key = storedKey
      · subst hkey
        simp [KeyValueConfiguration.store]
      · have hother : storedKey ≠ key := fun heq => hkey heq.symm
        simp [KeyValueConfiguration.store, hkey, hother]

/-- A later line with the same key replaces the value; without one the start stays. -/
theorem parseLines_values {start values : Bytes → Option Bytes}
    (hvalues : parseLines KeyValueConfiguration.store lineNumber start lines = .ok values)
    (key value : Bytes) :
    values key = some value ↔
      LastSets lines key value ∨
        (∀ line ∈ lines, ∀ other, ¬ Sets line key other) ∧ start key = some value := by
  induction lines generalizing lineNumber start with
  | nil =>
      cases hvalues
      constructor
      · intro hstart
        exact .inr ⟨List.forall_mem_nil _, hstart⟩
      · rintro (⟨before, line, after, hlines, _⟩ | ⟨_, hstart⟩)
        · exact absurd hlines (List.append_ne_nil_of_right_ne_nil _ (List.cons_ne_nil _ _)).symm
        · exact hstart
  | cons line lines ih =>
      cases hline : parseLine (lineNumber + 1) line with
      | error error =>
          unfold parseLines at hvalues
          rw [hline] at hvalues
          cases hvalues
      | ok pair =>
          have hsets : ∀ other, Sets line key other ↔ pair = some (key, other) := by
            intro other
            constructor
            · intro hother
              exact (parseLine_ok_iff.mp hline).unique hother
            · rintro rfl
              exact parseLine_ok_iff.mp hline
          rw [parseLines_ok hline] at hvalues
          rw [ih hvalues, store_pair_iff, lastSets_cons_iff, hsets, List.forall_mem_cons]
          simp only [hsets, ne_eq]
          tauto

end Lines

/-! ## The file -/

section File

variable {configuration : KeyValueConfiguration} {path : String} {content : Bytes}

theorem loadFromFile_of_ok {values : Bytes → Option Bytes}
    (hvalues : parseLines KeyValueConfiguration.store 0 (fun _ => none) (textLines content) =
      .ok values) :
    configuration.loadFromFile path (some ⟨content, .endOfFile⟩) = ⟨none, ⟨values⟩⟩ := by
  simp only [KeyValueConfiguration.loadFromFile, parseFile, lines_eq_textLines, hvalues]

theorem loadFromFile_of_error {error : ErrorText}
    (herror : parseLines KeyValueConfiguration.store 0 (fun _ => none) (textLines content) =
      .error error) :
    configuration.loadFromFile path (some ⟨content, .endOfFile⟩) =
      ⟨some error, configuration⟩ := by
  simp only [KeyValueConfiguration.loadFromFile, parseFile, lines_eq_textLines, herror]

end File

/-- For every previous configuration and every text read to its end: the file is
accepted if every line is acceptable; then exactly the keys of its lines are known,
each with the value of the last line that has it.  Otherwise nothing changes and the
error names the first line that is not acceptable. -/
theorem loadFromFile_accepts_grammar (configuration : KeyValueConfiguration) (path : String)
    (content : Bytes) :
    let lines := textLines content
    let answer := configuration.loadFromFile path (some ⟨content, .endOfFile⟩)
    (answer.error = none ↔ ∀ line ∈ lines, Acceptable line) ∧
      (answer.error = none →
        (∀ key, answer.object.has key = true ↔ ∃ line ∈ lines, ∃ value, Sets line key value) ∧
          ∀ key value, answer.object.values key = some value ↔ LastSets lines key value) ∧
      (answer.error ≠ none →
        answer.object = configuration ∧
          ∃ before line after problem, lines = before ++ line :: after ∧
            (∀ earlier ∈ before, Acceptable earlier) ∧ ¬ Acceptable line ∧
            LineProblem line problem ∧
            answer.error = some (invalidLine (before.length + 1) problem)) := by
  dsimp only
  cases hparsed :
      parseLines KeyValueConfiguration.store 0 (fun _ => none) (textLines content) with
  | error error =>
      obtain ⟨before, line, after, problem, hlines, hbefore, hrefused, hproblem, hnumber⟩ :=
        parseLines_error hparsed
      have hmem : line ∈ textLines content := by
        rw [hlines]
        exact List.mem_append_right before List.mem_cons_self
      rw [Nat.zero_add] at hnumber
      rw [loadFromFile_of_error hparsed]
      refine ⟨⟨fun hnone => ?_, fun hall => absurd (hall line hmem) hrefused⟩,
        fun hnone => ?_, fun _ => ⟨rfl, before, line, after, problem, hlines, hbefore, hrefused,
          hproblem, congrArg some hnumber⟩⟩
      · cases hnone
      · cases hnone
  | ok values =>
      have hvalues : ∀ key value, values key = some value ↔
          LastSets (textLines content) key value := by
        intro key value
        rw [parseLines_values hparsed]
        simp
      rw [loadFromFile_of_ok hparsed]
      refine ⟨⟨fun _ => parseLines_acceptable hparsed, fun _ => rfl⟩, fun _ => ⟨?_, hvalues⟩,
        fun hsome => absurd rfl hsome⟩
      intro key
      rw [← exists_lastSets_iff]
      simp only [← hvalues, KeyValueConfiguration.has, Option.isSome_iff_exists]

end ElapPlatform.Config
