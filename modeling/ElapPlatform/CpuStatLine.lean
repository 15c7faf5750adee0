import ElapPlatform.HealthMonitorModel

/-!
# Which CPU samples are faithful

The stream takes signs, and numerals that stand against each other, and stops after the
eighth number wherever that is.  The sums wrap.
-/

namespace ElapPlatform.Health

open StreamExtraction

/-- The line says what the sample says, and the sums are those of the numbers. -/
structure CpuSample.Faithful (sample : CpuSample) (line : Bytes) : Prop where
  fields : ∃ numbers, words line = cpuLabel :: numbers ∧ 8 ≤ numbers.length ∧
    (∀ number ∈ numbers, IsDecimal uint64Values number) ∧
      (numbers.take 8).map decimalValue = sample.fields
  total : sample.total = sample.fields.sum
  idleTotal : sample.idleTotal = sample.idle + sample.iowait
  idle_le : sample.idleTotal ≤ sample.total

/-- The line reads as `cpu`, eight numerals, and a rest. -/
def StatReading (line : Bytes) (numerals : List Numeral) (rest : Bytes) : Prop :=
  numerals.length = 8 ∧ ∃ lead text, line = lead ++ cpuLabel ++ text ∧ IsGap lead ∧ Ends text ∧
    Reads uint64Values text numerals rest

/-- There are no signs, the rest is decimal numbers too, and the sum fits. -/
structure PlainReading (numerals : List Numeral) (rest : Bytes) : Prop where
  plainly : ReadsPlainly uint64Values numerals rest
  fits : (numerals.map fun numeral => decimalValue numeral.digits).sum < uint64Values

def CpuSample.ofFields : List ℕ → Option CpuSample
  | [user, nice, system, idle, iowait, irq, softirq, steal] =>
      some ⟨user, nice, system, idle, iowait, irq, softirq, steal⟩
  | _ => none

theorem CpuSample.ofFields_eq_some_iff {values : List ℕ} {sample : CpuSample} :
    ofFields values = some sample ↔ values = sample.fields := by
  constructor
  · intro hvalues
    unfold ofFields at hvalues
    split at hvalues
    · cases hvalues
      rfl
    · cases hvalues
  · rintro rfl
    rfl

section Parsing

variable {line rest : Bytes} {sample : CpuSample} {numerals : List Numeral}

theorem parseCpuStatLine_eq (line : Bytes) :
    parseCpuStatLine line =
      (extractWord line).bind fun label =>
        (extractMany uint64Values 8 label.2).bind fun values =>
          if label.1 ≠ cpuLabel then none else CpuSample.ofFields values.1 := by
  simp only [parseCpuStatLine, extractMany, Option.bind_eq_bind, Option.bind_assoc,
    Option.pure_def, Option.bind_some, CpuSample.ofFields]

theorem parseCpuStatLine_eq_some_iff :
    parseCpuStatLine line = some sample ↔
      ∃ stream rest, extractWord line = some (cpuLabel, stream) ∧
        extractMany uint64Values 8 stream = some (sample.fields, rest) := by
  rw [parseCpuStatLine_eq]
  simp only [Option.bind_eq_some_iff, Prod.exists]
  constructor
  · rintro ⟨label, stream, hlabel, values, rest, hvalues, hsample⟩
    split at hsample
    · cases hsample
    · rename_i hcpu
      rw [not_not.mp hcpu] at hlabel
      rw [CpuSample.ofFields_eq_some_iff.mp hsample] at hvalues
      exact ⟨stream, rest, hlabel, hvalues⟩
  · rintro ⟨stream, rest, hlabel, hvalues⟩
    exact ⟨cpuLabel, stream, hlabel, sample.fields, rest, hvalues, rfl⟩

theorem cpuLabel_isWord : IsWord cpuLabel := ⟨by simp [cpuLabel], by simp [cpuLabel, isSpace]⟩

theorem parseCpuStatLine_iff_reading :
    parseCpuStatLine line = some sample ↔
      ∃ numerals rest, StatReading line numerals rest ∧
        sample.fields = numerals.map (Numeral.value uint64Values) := by
  rw [parseCpuStatLine_eq_some_iff]
  constructor
  · rintro ⟨stream, rest, hlabel, hvalues⟩
    obtain ⟨lead, hline, hlead, _, hends⟩ := extractWord_eq_some_iff.mp hlabel
    obtain ⟨numerals, hcount, hreads, hfields⟩ := extractMany_eq_some_iff.mp hvalues
    exact ⟨numerals, rest, ⟨hcount, lead, stream, hline, hlead, hends, hreads⟩, hfields⟩
  · rintro ⟨numerals, rest, ⟨hcount, lead, stream, hline, hlead, hends, hreads⟩, hfields⟩
    exact ⟨stream, rest,
      extractWord_eq_some_iff.mpr ⟨lead, hline, hlead, cpuLabel_isWord, hends⟩,
      extractMany_eq_some_iff.mpr ⟨numerals, hcount, hreads, hfields⟩⟩

/-- Eight numerals make a sample. -/
theorem StatReading.exists_sample (hreading : StatReading line numerals rest) :
    ∃ sample : CpuSample, sample.fields = numerals.map (Numeral.value uint64Values) := by
  obtain ⟨hcount, _⟩ := hreading
  match numerals, hcount with
  | [user, nice, system, idle, iowait, irq, softirq, steal], _ =>
      exact ⟨⟨_, _, _, _, _, _, _, _⟩, rfl⟩

/-! ## The sums -/

theorem CpuSample.total_eq (sample : CpuSample) :
    sample.total = sample.fields.sum % uint64Values := by
  simp only [total, fields, List.sum_cons, List.sum_nil]
  congr 1
  omega

theorem CpuSample.total_exact_iff (sample : CpuSample) :
    sample.total = sample.fields.sum ↔ sample.fields.sum < uint64Values := by
  rw [sample.total_eq]
  constructor
  · intro hexact
    rw [← hexact]
    exact Nat.mod_lt _ (by simp [uint64Values])
  · exact Nat.mod_eq_of_lt

theorem CpuSample.idle_le_fields (sample : CpuSample) :
    sample.idle + sample.iowait ≤ sample.fields.sum := by
  simp only [fields, List.sum_cons, List.sum_nil]
  omega

theorem CpuSample.idleTotal_exact {sample : CpuSample}
    (hfits : sample.fields.sum < uint64Values) :
    sample.idleTotal = sample.idle + sample.iowait :=
  Nat.mod_eq_of_lt (lt_of_le_of_lt sample.idle_le_fields hfits)

/-! ## Faithful samples -/

/-- The sample of a reading is faithful when the reading is plain. -/
theorem faithful_iff_plain (hreading : StatReading line numerals rest)
    (hfields : sample.fields = numerals.map (Numeral.value uint64Values)) :
    sample.Faithful line ↔ PlainReading numerals rest := by
  obtain ⟨hcount, lead, text, rfl, hlead, hends, hreads⟩ := hreading
  have hwords : words (lead ++ cpuLabel ++ text) = cpuLabel :: words text := by
    rw [List.append_assoc, words_gap_append hlead, words_word_append cpuLabel_isWord hends]
  have hsum : ∀ hplainly : ReadsPlainly uint64Values numerals rest, sample.fields.sum =
      (numerals.map fun numeral => decimalValue numeral.digits).sum := by
    intro hplainly
    rw [hfields, hplainly.values_eq, List.map_map]
    rfl
  constructor
  · intro hfaithful
    obtain ⟨numbers, hnumbers, _, hdecimal, _⟩ := hfaithful.fields
    rw [hwords] at hnumbers
    have hall : AllDecimal uint64Values text := by
      intro word hmem
      rw [(List.cons.inj hnumbers).2] at hmem
      exact hdecimal word hmem
    have hplainly := hreads.plainly hends hall
    exact ⟨hplainly, hsum hplainly ▸ sample.total_exact_iff.mp hfaithful.total⟩
  · intro hplain
    have hfits : sample.fields.sum < uint64Values := hsum hplain.plainly ▸ hplain.fits
    have hdigits := hreads.words_eq hplain.plainly
    refine ⟨⟨words text, hwords, ?_, fun number hmem => ?_, ?_⟩,
      sample.total_exact_iff.mpr hfits, CpuSample.idleTotal_exact hfits, ?_⟩
    · simp [hdigits, hcount]
    · rw [hdigits, List.mem_append, List.mem_map] at hmem
      rcases hmem with ⟨numeral, hnumeral, rfl⟩ | hrest
      · exact hreads.isDecimal numeral hnumeral
      · exact hplain.plainly.decimal number hrest
    · have htake : (numerals.map Numeral.digits ++ words rest).take 8 =
          numerals.map Numeral.digits := List.take_left' (by simp [hcount])
      rw [hdigits, htake, hfields, hplain.plainly.values_eq]
    · rw [CpuSample.idleTotal_exact hfits, sample.total_exact_iff.mpr hfits]
      exact sample.idle_le_fields

/-- Every sample of the line is faithful, exactly when every reading of the line as `cpu`
and eight numerals is plain. -/
theorem cpu_samples_faithful_iff (line : Bytes) :
    (∀ sample, parseCpuStatLine line = some sample → sample.Faithful line) ↔
      ∀ numerals rest, StatReading line numerals rest → PlainReading numerals rest := by
  constructor
  · intro hfaithful numerals rest hreading
    obtain ⟨sample, hfields⟩ := hreading.exists_sample
    have hparsed := parseCpuStatLine_iff_reading.mpr ⟨numerals, rest, hreading, hfields⟩
    exact (faithful_iff_plain hreading hfields).mp (hfaithful sample hparsed)
  · intro hplain sample hparsed
    obtain ⟨numerals, rest, hreading, hfields⟩ := parseCpuStatLine_iff_reading.mp hparsed
    exact (faithful_iff_plain hreading hfields).mpr (hplain numerals rest hreading)

end Parsing

/-- `"cpu -1 0 0 0 0 0 0 0"` -/
def negativeLine : Bytes :=
  [99, 112, 117, 32, 45, 49, 32, 48, 32, 48, 32, 48, 32, 48, 32, 48, 32, 48, 32, 48]

/-- The sign is taken, and the user time is 2^64 - 1. -/
theorem negative_line_not_faithful :
    parseCpuStatLine negativeLine = some ⟨2 ^ 64 - 1, 0, 0, 0, 0, 0, 0, 0⟩ ∧
      ¬ ∀ sample, parseCpuStatLine negativeLine = some sample →
        sample.Faithful negativeLine := by
  have hparsed : parseCpuStatLine negativeLine = some ⟨2 ^ 64 - 1, 0, 0, 0, 0, 0, 0, 0⟩ := by
    decide
  refine ⟨hparsed, fun hfaithful => ?_⟩
  obtain ⟨numbers, hwords, _, hdecimal, _⟩ := (hfaithful _ hparsed).fields
  have hsplit : words negativeLine =
      [cpuLabel, [45, 49], [48], [48], [48], [48], [48], [48], [48]] := by
    decide
  rw [hsplit] at hwords
  have hnumbers := (List.cons.inj hwords).2
  have hsign := (hdecimal [45, 49] (by simp [← hnumbers])).all_digits 45 (by simp)
  cases hsign

end ElapPlatform.Health
