import ElapPlatform.HealthMonitorModel

/-!
# Lines of `meminfo`

The loop takes a key, a number and a unit, wherever the lines end.  A line without a unit
costs the key of the next line, and the loop ends there.
-/

namespace ElapPlatform.Health

open StreamExtraction

/-! ## The lines -/

/-- `Key: value`, with the unit if there is one. -/
structure MemInfoLine where
  key : Bytes
  blanks : Bytes
  digits : Bytes
  unit : Option (Bytes × Bytes)
  deriving DecidableEq, Repr

namespace MemInfoLine

/-- `':'` -/
def colon : UInt8 := 58

def newline : UInt8 := 10

def value (line : MemInfoLine) : ℕ := decimalValue line.digits

def label (line : MemInfoLine) : Bytes := line.key ++ [colon]

/-- The line behind its value. -/
def tail (line : MemInfoLine) : Bytes :=
  line.unit.elim [] fun unit => unit.1 ++ unit.2

def text (line : MemInfoLine) : Bytes :=
  line.label ++ line.blanks ++ line.digits ++ line.tail ++ [newline]

end MemInfoLine

/-- White space within a line. -/
structure IsBlank (blanks : Bytes) : Prop where
  nonempty : blanks ≠ []
  gap : IsGap blanks
  noNewline : MemInfoLine.newline ∉ blanks

/-- A word that no number begins with. -/
structure IsName (name : Bytes) : Prop where
  word : IsWord name
  notNumeral : ∀ byte, name.head? = some byte → isDigit byte = false ∧ byte ≠ 43 ∧ byte ≠ 45

structure MemInfoLine.WellFormed (line : MemInfoLine) : Prop where
  key : IsName line.key
  noColon : MemInfoLine.colon ∉ line.key
  blanks : IsBlank line.blanks
  decimal : IsDecimal uint64Values line.digits
  unit : ∀ blanks name, line.unit = some (blanks, name) → IsBlank blanks ∧ IsName name

def memInfoText (lines : List MemInfoLine) : Bytes := (lines.map MemInfoLine.text).flatten

/-- `"MemTotal"` -/
def memTotal : Bytes := [77, 101, 109, 84, 111, 116, 97, 108]

/-- `"MemAvailable"` -/
def memAvailable : Bytes := [77, 101, 109, 65, 118, 97, 105, 108, 97, 98, 108, 101]

/-! ## One line at a time -/

section Entries

variable {line : MemInfoLine} {lines : List MemInfoLine} {gap name label blanks digits rest : Bytes}

theorem newline_isGap : IsGap [MemInfoLine.newline] := by
  intro byte hmem
  rw [List.mem_singleton.mp hmem]
  rfl

theorem IsBlank.ends (hblanks : IsBlank blanks) : Ends (blanks ++ rest) := by
  cases blanks with
  | nil => exact absurd rfl hblanks.nonempty
  | cons byte blanks =>
      have hspace : isSpace byte = true := hblanks.gap byte (by simp)
      exact stops_cons_iff.mpr (by simp [hspace])

theorem IsName.append_colon (hname : IsName name) : IsName (name ++ [MemInfoLine.colon]) where
  word := by
    refine ⟨by simp, fun byte hmem => ?_⟩
    rcases List.mem_append.mp hmem with hfirst | hlast
    · exact hname.word.solid byte hfirst
    · rw [List.mem_singleton.mp hlast]
      rfl
  notNumeral := by
    cases hfirst : name with
    | nil => exact absurd hfirst hname.word.nonempty
    | cons byte name' => simpa [hfirst] using hname.notNumeral

theorem extractUnsigned_of_name (hgap : IsGap gap) (hname : IsName name) :
    extractUnsigned uint64Values (gap ++ (name ++ rest)) = none := by
  cases hfirst : name with
  | nil => exact absurd hfirst hname.word.nonempty
  | cons byte name' =>
      obtain ⟨hdigit, hplus, hminus⟩ := hname.notNumeral byte (by rw [hfirst]; rfl)
      have hsolid := hname.word.solid byte (by simp [hfirst])
      exact extractUnsigned_of_head hgap hsolid hdigit hplus hminus

/-- A word and a number, and then whatever the unit is. -/
theorem extractEntry_of_parts (hgap : IsGap gap) (hlabel : IsWord label)
    (hblanks : IsBlank blanks) (hdecimal : IsDecimal uint64Values digits)
    (hstops : Stops isDigit rest) :
    extractEntry (gap ++ (label ++ (blanks ++ (digits ++ rest)))) =
      (extractWord rest).map fun unit => ((label, decimalValue digits), unit.2) := by
  have hkey := extractWord_of_word hgap hlabel (@IsBlank.ends blanks (digits ++ rest) hblanks)
  have hvalid : Numeral.Valid uint64Values ⟨blanks, .none, digits⟩ := ⟨hblanks.gap, hdecimal⟩
  have hvalue := extractUnsigned_of_numeral hvalid hstops
  rw [Numeral.text, Sign.text, List.append_nil, List.append_assoc] at hvalue
  rw [List.append_assoc] at hkey
  unfold extractEntry
  rw [hkey]
  simp only [Option.bind_eq_bind, Option.bind_some, hvalue]
  cases extractWord rest <;> rfl

/-- A word that is no number follows the key. -/
theorem extractEntry_of_notNumber (hgap : IsGap gap) (hlabel : IsWord label)
    (hends : Ends rest) (hnumber : extractUnsigned uint64Values rest = none) :
    extractEntry (gap ++ (label ++ rest)) = none := by
  have hkey := extractWord_of_word hgap hlabel hends
  rw [List.append_assoc] at hkey
  unfold extractEntry
  rw [hkey]
  simp only [Option.bind_eq_bind, Option.bind_some, hnumber, Option.bind_none]

/-! ### The text behind a value -/

theorem memInfoText_cons (line : MemInfoLine) (lines : List MemInfoLine) :
    memInfoText (line :: lines) = line.label ++ (line.blanks ++ (line.digits ++
      (line.tail ++ MemInfoLine.newline :: memInfoText lines))) := by
  simp [memInfoText, MemInfoLine.text, List.append_assoc]

theorem tail_ends (hline : line.WellFormed) :
    Ends (line.tail ++ MemInfoLine.newline :: rest) := by
  unfold MemInfoLine.tail
  cases hunit : line.unit with
  | none => exact stops_cons_iff.mpr rfl
  | some unit =>
      obtain ⟨blanks, name⟩ := unit
      rw [Option.elim_some, List.append_assoc]
      exact (hline.unit blanks name hunit).1.ends

theorem extractUnsigned_of_lines (hlines : ∀ line ∈ lines, line.WellFormed) :
    extractUnsigned uint64Values (MemInfoLine.newline :: memInfoText lines) = none := by
  cases lines with
  | nil => exact extractUnsigned_of_gap newline_isGap
  | cons line lines =>
      have hname := (hlines line List.mem_cons_self).key.append_colon
      rw [memInfoText_cons, ← List.singleton_append]
      exact extractUnsigned_of_name newline_isGap hname

/-- No number follows the value of a line. -/
theorem extractUnsigned_of_tail (hline : line.WellFormed)
    (hlines : ∀ line ∈ lines, line.WellFormed) :
    extractUnsigned uint64Values (line.tail ++ MemInfoLine.newline :: memInfoText lines) =
      none := by
  unfold MemInfoLine.tail
  cases hunit : line.unit with
  | none => exact extractUnsigned_of_lines hlines
  | some unit =>
      obtain ⟨blanks, name⟩ := unit
      obtain ⟨hblanks, hname⟩ := hline.unit blanks name hunit
      rw [Option.elim_some, List.append_assoc]
      exact extractUnsigned_of_name hblanks.gap hname

/-! ### The rounds of the loop -/

theorem extractEntry_line (hgap : IsGap gap) (hline : line.WellFormed) :
    extractEntry (gap ++ memInfoText (line :: lines)) =
      (extractWord (line.tail ++ MemInfoLine.newline :: memInfoText lines)).map
        fun unit => ((line.label, line.value), unit.2) := by
  rw [memInfoText_cons]
  exact extractEntry_of_parts hgap hline.key.append_colon.word hline.blanks hline.decimal
    (tail_ends hline).stops_digit

theorem extractWord_tail {unit : Bytes × Bytes} (hline : line.WellFormed)
    (hunit : line.unit = some unit) :
    extractWord (line.tail ++ MemInfoLine.newline :: memInfoText lines) =
      some (unit.2, [MemInfoLine.newline] ++ memInfoText lines) := by
  obtain ⟨blanks, name⟩ := unit
  obtain ⟨hblanks, hname⟩ := hline.unit blanks name hunit
  rw [MemInfoLine.tail, hunit, Option.elim_some]
  exact extractWord_of_word hblanks.gap hname.word (stops_cons_iff.mpr rfl)

/-- The key of the next line is taken for the unit. -/
theorem extractWord_next {next : MemInfoLine} (hunit : line.unit = none)
    (hnext : next.WellFormed) :
    extractWord (line.tail ++ MemInfoLine.newline :: memInfoText (next :: lines)) =
      some (next.label, next.blanks ++ (next.digits ++
        (next.tail ++ MemInfoLine.newline :: memInfoText lines))) := by
  rw [MemInfoLine.tail, hunit, Option.elim_none, List.nil_append, memInfoText_cons,
    ← List.singleton_append, ← List.append_assoc]
  exact extractWord_of_word newline_isGap hnext.key.append_colon.word hnext.blanks.ends

theorem extractWord_last (hunit : line.unit = none) :
    extractWord (line.tail ++ MemInfoLine.newline :: memInfoText []) = none := by
  rw [MemInfoLine.tail, hunit, Option.elim_none]
  exact extractWord_of_gap newline_isGap

/-- Then its value is taken for a key, and the loop is over. -/
theorem extractEntry_next {next : MemInfoLine} (hnext : next.WellFormed)
    (hlines : ∀ line ∈ lines, line.WellFormed) :
    extractEntry (next.blanks ++ (next.digits ++
      (next.tail ++ MemInfoLine.newline :: memInfoText lines))) = none :=
  extractEntry_of_notNumber hnext.blanks.gap hnext.decimal.isWord (tail_ends hnext)
    (extractUnsigned_of_tail hnext hlines)

end Entries

/-! ## All lines -/

/-- The lines of which the loop takes the value under the key. -/
def recordedLines : List MemInfoLine → List MemInfoLine
  | [] => []
  | line :: rest =>
      match line.unit, rest with
      | some _, rest => line :: recordedLines rest
      | none, [] => []
      | none, _ :: _ => [line]

def recordLines (lines : List MemInfoLine) (scan : MemInfoScan) : MemInfoScan :=
  lines.foldl (fun scan line => scan.record line.label line.value) scan

theorem scanAll_lines {lines : List MemInfoLine} (hlines : ∀ line ∈ lines, line.WellFormed)
    {gap : Bytes} (hgap : IsGap gap) (scan : MemInfoScan) :
    scanAll (gap ++ memInfoText lines) scan = recordLines (recordedLines lines) scan := by
  induction lines generalizing gap scan with
  | nil =>
      have hnothing : extractEntry (gap ++ memInfoText []) = none := by
        rw [memInfoText, List.map_nil, List.flatten_nil, List.append_nil, extractEntry,
          extractWord_of_gap hgap]
        rfl
      exact scanAll_of_none hnothing
  | cons line rest ih =>
      have hline := hlines line List.mem_cons_self
      have hrest : ∀ line ∈ rest, line.WellFormed := fun other hmem => hlines other (.tail _ hmem)
      have hentry : extractEntry (gap ++ memInfoText (line :: rest)) = _ :=
        extractEntry_line hgap hline
      cases hunit : line.unit with
      | some unit =>
          rw [extractWord_tail hline hunit] at hentry
          rw [scanAll_of_some hentry, ih hrest newline_isGap]
          simp [recordedLines, hunit, recordLines]
      | none =>
          cases rest with
          | nil =>
              rw [extractWord_last hunit] at hentry
              rw [scanAll_of_none hentry]
              simp [recordedLines, hunit, recordLines]
          | cons next lines =>
              have hnext := hrest next List.mem_cons_self
              rw [extractWord_next hunit hnext] at hentry
              rw [scanAll_of_some hentry, scanAll_of_none
                (extractEntry_next hnext fun other hmem => hrest other (.tail _ hmem))]
              simp [recordedLines, hunit, recordLines]

/-! ## What the loop has found -/

/-- The value that was found for one of the two keys. -/
def MemInfoScan.found (scan : MemInfoScan) (key : Bytes) : Option ℕ :=
  if key = memTotal then
    if scan.foundTotal then some scan.info.totalKb else none
  else if key = memAvailable then
    if scan.foundAvailable then some scan.info.availableKb else none
  else none

def IsWanted (key : Bytes) : Prop := key = memTotal ∨ key = memAvailable

theorem label_eq_memTotalKey_iff (line : MemInfoLine) :
    line.label = memTotalKey ↔ line.key = memTotal := by
  change line.key ++ [MemInfoLine.colon] = memTotal ++ [MemInfoLine.colon] ↔ _
  exact List.append_left_inj _

theorem label_eq_memAvailableKey_iff (line : MemInfoLine) :
    line.label = memAvailableKey ↔ line.key = memAvailable := by
  change line.key ++ [MemInfoLine.colon] = memAvailable ++ [MemInfoLine.colon] ↔ _
  exact List.append_left_inj _

theorem memTotal_ne_memAvailable : memTotal ≠ memAvailable := by decide

section Found

variable {line : MemInfoLine} {lines : List MemInfoLine} {scan : MemInfoScan} {key : Bytes}
  {value : ℕ}

theorem found_record (hkey : IsWanted key) :
    (scan.record line.label line.value).found key =
      if line.key = key then some line.value else scan.found key := by
  simp only [MemInfoScan.record, label_eq_memTotalKey_iff, label_eq_memAvailableKey_iff]
  rcases hkey with rfl | rfl
  · by_cases htotal : line.key = memTotal
    · simp [MemInfoScan.found, htotal]
    · by_cases havailable : line.key = memAvailable <;>
        simp [MemInfoScan.found, htotal, havailable, memTotal_ne_memAvailable.symm]
  · by_cases htotal : line.key = memTotal
    · simp [MemInfoScan.found, htotal, memTotal_ne_memAvailable, memTotal_ne_memAvailable.symm]
    · by_cases havailable : line.key = memAvailable <;>
        simp [MemInfoScan.found, htotal, havailable, memTotal_ne_memAvailable.symm]

theorem found_recordLines_of_absent (hkey : IsWanted key)
    (habsent : ∀ line ∈ lines, line.key ≠ key) :
    (recordLines lines scan).found key = scan.found key := by
  induction lines generalizing scan with
  | nil => rfl
  | cons line rest ih =>
      unfold recordLines
      rw [List.foldl_cons]
      have hrest := @ih (scan.record line.label line.value)
        fun other hmem => habsent other (.tail _ hmem)
      rw [found_record hkey, if_neg (habsent line List.mem_cons_self)] at hrest
      exact hrest

theorem found_recordLines (hkey : IsWanted key) (hmem : line ∈ lines) (hline : line.key = key)
    (hsame : ∀ other ∈ lines, other.key = key → other.value = value) :
    (recordLines lines scan).found key = some value := by
  induction lines using List.reverseRecOn with
  | nil => cases hmem
  | append_singleton earlier last ih =>
      have hfold : recordLines (earlier ++ [last]) scan =
          (recordLines earlier scan).record last.label last.value := by
        simp [recordLines]
      rw [hfold, found_record hkey]
      by_cases hlast : last.key = key
      · rw [if_pos hlast, hsame last (by simp) hlast]
      · rw [if_neg hlast]
        refine ih ?_ fun other hother => hsame other (List.mem_append_left _ hother)
        rcases List.mem_append.mp hmem with hearlier | hnew
        · exact hearlier
        · cases List.mem_singleton.mp hnew
          exact absurd hline hlast

end Found

theorem scan_accepted_iff {scan : MemInfoScan} {info : MemoryInfo} :
    (if !scan.foundTotal || !scan.foundAvailable || scan.info.totalKb = 0 then none
      else some scan.info) = some info ↔
      scan.found memTotal = some info.totalKb ∧ scan.found memAvailable = some info.availableKb ∧
        info.totalKb ≠ 0 := by
  obtain ⟨⟨totalKb, availableKb⟩, foundTotal, foundAvailable⟩ := scan
  obtain ⟨total, available⟩ := info
  cases foundTotal <;> cases foundAvailable <;>
    simp [MemInfoScan.found, memTotal_ne_memAvailable.symm]
  constructor
  · rintro ⟨hpositive, rfl, rfl⟩
    exact ⟨rfl, rfl, hpositive⟩
  · rintro ⟨rfl, rfl, hpositive⟩
    exact ⟨hpositive, rfl, rfl⟩

theorem parseMemInfo_eq_some_iff {text : Bytes} {info : MemoryInfo} :
    parseMemInfo text = some info ↔
      (scanAll text ⟨⟨0, 0⟩, false, false⟩).found memTotal = some info.totalKb ∧
        (scanAll text ⟨⟨0, 0⟩, false, false⟩).found memAvailable = some info.availableKb ∧
          info.totalKb ≠ 0 :=
  scan_accepted_iff

/-! ## Aligned lines -/

section Aligned

variable {lines : List MemInfoLine}

theorem recordedLines_append {before after : List MemInfoLine} {last : MemInfoLine}
    (hunits : ∀ line ∈ before, line.unit.isSome) (hlast : last.unit.isSome ∨ after ≠ []) :
    before ++ [last] <+: recordedLines (before ++ last :: after) := by
  induction before with
  | nil =>
      rw [List.nil_append, List.nil_append]
      cases hunit : last.unit with
      | some unit => simp [recordedLines, hunit]
      | none =>
          rw [hunit] at hlast
          cases after with
          | nil => simp at hlast
          | cons next after => simp [recordedLines, hunit]
  | cons line before ih =>
      obtain ⟨unit, hunit⟩ := Option.isSome_iff_exists.mp (hunits line List.mem_cons_self)
      have hrest := ih fun other hmem => hunits other (.tail _ hmem)
      simpa [recordedLines, hunit] using hrest

theorem exists_of_recordedLines (hnonempty : recordedLines lines ≠ []) :
    ∃ before last after, lines = before ++ last :: after ∧
      recordedLines lines = before ++ [last] ∧ (∀ line ∈ before, line.unit.isSome) ∧
        (last.unit.isSome ∨ after ≠ []) := by
  induction lines with
  | nil => exact absurd rfl hnonempty
  | cons line rest ih =>
      cases hunit : line.unit with
      | none =>
          cases rest with
          | nil => simp [recordedLines, hunit] at hnonempty
          | cons next rest =>
              exact ⟨[], line, next :: rest, rfl, by simp [recordedLines, hunit], by simp,
                .inr (by simp)⟩
      | some unit =>
          have hrecorded : recordedLines (line :: rest) = line :: recordedLines rest := by
            simp [recordedLines, hunit]
          by_cases hmore : recordedLines rest = []
          · exact ⟨[], line, rest, rfl, by rw [hrecorded, hmore]; rfl, by simp,
              .inl (by simp [hunit])⟩
          · obtain ⟨before, last, after, rfl, hsplit, hunits, hlast⟩ := ih hmore
            refine ⟨line :: before, last, after, rfl, by rw [hrecorded, hsplit]; rfl, ?_, hlast⟩
            simpa [hunit] using hunits

theorem recordedLines_subset : recordedLines lines ⊆ lines := by
  by_cases hnonempty : recordedLines lines = []
  · rw [hnonempty]
    exact List.nil_subset lines
  · obtain ⟨before, last, after, rfl, hrecorded, _, _⟩ := exists_of_recordedLines hnonempty
    rw [hrecorded]
    simp

end Aligned

/-- The lines that the kernel prints, with the two that matter. -/
structure MemInfoFile (lines : List MemInfoLine) (total available : MemInfoLine) : Prop where
  wellFormed : ∀ line ∈ lines, line.WellFormed
  oneTotal : lines.filter (fun line => line.key = memTotal) = [total]
  positive : 0 < total.value
  oneAvailable : lines.filter (fun line => line.key = memAvailable) = [available]

/-- Up to both lines that matter, every line has a unit; the last of them may do without
it when another line follows. -/
def Aligned (lines : List MemInfoLine) : Prop :=
  ∃ before last after, lines = before ++ last :: after ∧
    (∀ key, IsWanted key → ∃ line ∈ before ++ [last], line.key = key) ∧
      (∀ line ∈ before, line.unit.isSome) ∧ (last.unit.isSome ∨ after ≠ [])

section Files

variable {lines : List MemInfoLine} {total available : MemInfoLine} {key : Bytes}

theorem value_of_filter {wanted : MemInfoLine}
    (hone : lines.filter (fun line => line.key = key) = [wanted]) :
    ∀ other ∈ recordedLines lines, other.key = key → other.value = wanted.value := by
  intro other hmem hkey
  have hfiltered : other ∈ lines.filter (fun line => line.key = key) := by
    simpa [hkey] using recordedLines_subset hmem
  rw [hone, List.mem_singleton] at hfiltered
  rw [hfiltered]

theorem exists_recorded_of_found {value : ℕ} (hkey : IsWanted key)
    (hfound : (recordLines (recordedLines lines) ⟨⟨0, 0⟩, false, false⟩).found key = some value) :
    ∃ line ∈ recordedLines lines, line.key = key := by
  by_contra habsent
  rw [found_recordLines_of_absent hkey fun line hmem hline => habsent ⟨line, hmem, hline⟩]
    at hfound
  rcases hkey with rfl | rfl
  · cases hfound
  · cases hfound

theorem aligned_iff_recorded :
    Aligned lines ↔ ∀ key, IsWanted key → ∃ line ∈ recordedLines lines, line.key = key := by
  constructor
  · rintro ⟨before, last, after, rfl, hwanted, hunits, hlast⟩ key hkey
    obtain ⟨line, hmem, hline⟩ := hwanted key hkey
    exact ⟨line, (recordedLines_append hunits hlast).subset hmem, hline⟩
  · intro hrecorded
    obtain ⟨line, hmem, _⟩ := hrecorded memTotal (.inl rfl)
    obtain ⟨before, last, after, hlines, hsplit, hunits, hlast⟩ :=
      exists_of_recordedLines (List.ne_nil_of_mem hmem)
    rw [hsplit] at hrecorded
    exact ⟨before, last, after, hlines, hrecorded, hunits, hlast⟩

/-- `parseMemInfo` returns the two values exactly when the lines are aligned up to them. -/
theorem meminfo_values_iff_aligned (hfile : MemInfoFile lines total available) :
    parseMemInfo (memInfoText lines) = some ⟨total.value, available.value⟩ ↔ Aligned lines := by
  have hscan := scanAll_lines hfile.wellFormed (List.forall_mem_nil _) ⟨⟨0, 0⟩, false, false⟩
  rw [List.nil_append] at hscan
  rw [parseMemInfo_eq_some_iff, hscan, aligned_iff_recorded]
  constructor
  · rintro ⟨htotal, havailable, _⟩ key hkey
    rcases hkey with rfl | rfl
    · exact exists_recorded_of_found (.inl rfl) htotal
    · exact exists_recorded_of_found (.inr rfl) havailable
  · intro hrecorded
    obtain ⟨line, hmem, hline⟩ := hrecorded memTotal (.inl rfl)
    obtain ⟨line', hmem', hline'⟩ := hrecorded memAvailable (.inr rfl)
    exact ⟨found_recordLines (.inl rfl) hmem hline (value_of_filter hfile.oneTotal),
      found_recordLines (.inr rfl) hmem' hline' (value_of_filter hfile.oneAvailable),
      Nat.pos_iff_ne_zero.mp hfile.positive⟩

end Files

/-! ## A counter among the lines -/

/-- `"kB"` behind a blank -/
def kilobytes : Bytes × Bytes := ([32], [107, 66])

/-- `"MemTotal: 1000 kB"` -/
def totalLine : MemInfoLine := ⟨memTotal, [32], [49, 48, 48, 48], some kilobytes⟩

/-- `"MemAvailable: 750 kB"` -/
def availableLine : MemInfoLine := ⟨memAvailable, [32], [55, 53, 48], some kilobytes⟩

/-- `"HugePages_Total: 0"` -/
def hugePagesLine : MemInfoLine :=
  ⟨[72, 117, 103, 101, 80, 97, 103, 101, 115, 95, 84, 111, 116, 97, 108], [32], [48], none⟩

theorem blank_isBlank : IsBlank [32] := ⟨by simp, by simp [IsGap, isSpace], by decide⟩

theorem kilobytes_wellFormed {blanks name : Bytes} (hunit : some kilobytes = some (blanks, name)) :
    IsBlank blanks ∧ IsName name := by
  cases hunit
  exact ⟨blank_isBlank, ⟨by simp, by simp [isSpace]⟩, by simp [isDigit]⟩

theorem memTotal_isName : IsName memTotal :=
  ⟨⟨by simp [memTotal], by simp [memTotal, isSpace]⟩, by simp [memTotal, isDigit]⟩

theorem memAvailable_isName : IsName memAvailable :=
  ⟨⟨by simp [memAvailable], by simp [memAvailable, isSpace]⟩, by simp [memAvailable, isDigit]⟩

theorem totalLine_wellFormed : totalLine.WellFormed where
  key := memTotal_isName
  noColon := by decide
  blanks := blank_isBlank
  decimal := ⟨by simp [totalLine], by simp [totalLine, isDigit], by decide⟩
  unit _ _ := kilobytes_wellFormed

theorem availableLine_wellFormed : availableLine.WellFormed where
  key := memAvailable_isName
  noColon := by decide
  blanks := blank_isBlank
  decimal := ⟨by simp [availableLine], by simp [availableLine, isDigit], by decide⟩
  unit _ _ := kilobytes_wellFormed

theorem hugePagesLine_wellFormed : hugePagesLine.WellFormed where
  key := ⟨⟨by simp [hugePagesLine], by simp [hugePagesLine, isSpace]⟩,
    by simp [hugePagesLine, isDigit]⟩
  noColon := by decide
  blanks := blank_isBlank
  decimal := ⟨by simp [hugePagesLine], by simp [hugePagesLine, isDigit], by decide⟩
  unit _ _ hunit := by cases hunit

theorem counter_last_file :
    MemInfoFile [totalLine, availableLine, hugePagesLine] totalLine availableLine where
  wellFormed := by
    simp [totalLine_wellFormed, availableLine_wellFormed, hugePagesLine_wellFormed]
  oneTotal := by decide
  positive := by decide
  oneAvailable := by decide

/-- The counter stands behind the two lines that matter. -/
theorem counter_last_values :
    parseMemInfo (memInfoText [totalLine, availableLine, hugePagesLine]) =
      some ⟨1000, 750⟩ := by
  refine (meminfo_values_iff_aligned counter_last_file).mpr
    ⟨[totalLine], availableLine, [hugePagesLine], rfl, ?_, by decide, .inl (by decide)⟩
  rintro key (rfl | rfl)
  · exact ⟨totalLine, by simp, rfl⟩
  · exact ⟨availableLine, by simp, rfl⟩

/-- The same lines with the counter in front: its unit is the key of the next line. -/
theorem counter_first_fails :
    MemInfoFile [hugePagesLine, totalLine, availableLine] totalLine availableLine ∧
      parseMemInfo (memInfoText [hugePagesLine, totalLine, availableLine]) = none ∧
        parseMemInfo (memInfoText [hugePagesLine, totalLine, availableLine]) ≠
          some ⟨totalLine.value, availableLine.value⟩ := by
  have hfile : MemInfoFile [hugePagesLine, totalLine, availableLine] totalLine availableLine := by
    refine ⟨?_, by decide, by decide, by decide⟩
    simp [totalLine_wellFormed, availableLine_wellFormed, hugePagesLine_wellFormed]
  have hnone : parseMemInfo (memInfoText [hugePagesLine, totalLine, availableLine]) = none := by
    decide
  exact ⟨hfile, hnone, by simp [hnone]⟩

end ElapPlatform.Health
