import ElapPlatform.ConfigurationEquivalence
import ElapPlatform.StringValueRoundTrip

/-!
# Integer values of a configuration

`setInt` stores the decimal digits of its value.  `getInt` of both classes takes a text that
is a number from its first byte to its last, and gives its default for every other text.
-/

namespace ElapPlatform.Config

open Interaction Interaction.Program Storage
open StreamExtraction (Stops isSpace isDigit decimalValue isSpace_of_isDigit)

namespace DatabaseConfiguration

def setInt (configuration : DatabaseConfiguration) (key : Bytes) (value : ℤ) :
    DatabaseProgram (Answer Bool) :=
  configuration.store.put key (decimal value)

end DatabaseConfiguration

/-! ## Texts of integers -/

/-- Optional white space, an optional sign, and decimal digits. -/
structure IntegerText where
  spaces : Bytes
  sign : Bytes
  digits : Bytes
  blank : ∀ byte ∈ spaces, isSpace byte = true
  signed : sign = [] ∨ sign = [43] ∨ sign = [45]
  nonempty : digits ≠ []
  decimal : ∀ byte ∈ digits, isDigit byte = true

namespace IntegerText

def text (numeral : IntegerText) : Bytes := numeral.spaces ++ numeral.sign ++ numeral.digits

/-- The integer that is denoted. -/
def value (numeral : IntegerText) : ℤ :=
  if numeral.sign = [45] then -decimalValue numeral.digits else decimalValue numeral.digits

/-- A value of a 32-bit `int` -/
def Fits (numeral : IntegerText) : Prop :=
  -2 ^ 31 ≤ numeral.value ∧ numeral.value ≤ 2 ^ 31 - 1

instance (numeral : IntegerText) : Decidable numeral.Fits := inferInstanceAs (Decidable (_ ∧ _))

end IntegerText

/-- What a getter has to make of a text. -/
structure StrictlyParsed (text : Bytes) (defaultValue result : ℤ) : Prop where
  denoted : ∀ numeral : IntegerText, numeral.text = text → numeral.Fits → result = numeral.value
  otherwise : (∀ numeral : IntegerText, numeral.text = text → ¬ numeral.Fits) →
    result = defaultValue

/-! ## `std::stoi` -/

def signOf : Bytes → Bytes
  | 45 :: _ => [45]
  | 43 :: _ => [43]
  | _ => []

section Reading

variable {byte : UInt8} {rest text : Bytes}

theorem signOf_cases (text : Bytes) :
    signOf text = [] ∨ signOf text = [43] ∨ signOf text = [45] := by
  unfold signOf
  split
  · exact .inr (.inr rfl)
  · exact .inr (.inl rfl)
  · exact .inl rfl

theorem signOf_append_drop (text : Bytes) :
    signOf text ++ text.drop (signOf text).length = text := by
  unfold signOf
  split
  · rfl
  · rfl
  · rfl

theorem signOf_digit (hdigit : isDigit byte = true) : signOf (byte :: rest) = [] := by
  unfold signOf
  split
  · rename_i hminus
    cases hminus
    simp [isDigit] at hdigit
  · rename_i hplus
    cases hplus
    simp [isDigit] at hdigit
  · rfl

theorem IntegerText.signOf_append (numeral : IntegerText) (rest : Bytes) :
    signOf (numeral.sign ++ (numeral.digits ++ rest)) = numeral.sign := by
  rcases numeral.signed with hnone | hplus | hminus
  · obtain ⟨byte, digits, hdigits⟩ := List.exists_cons_of_ne_nil numeral.nonempty
    have hfirst := numeral.decimal byte (by simp [hdigits])
    rw [hnone, hdigits]
    exact signOf_digit hfirst
  · rw [hplus]
    rfl
  · rw [hminus]
    rfl

theorem IntegerText.stops (numeral : IntegerText) (rest : Bytes) :
    Stops isSpace (numeral.sign ++ (numeral.digits ++ rest)) := by
  rcases numeral.signed with hnone | hplus | hminus
  · obtain ⟨byte, digits, hdigits⟩ := List.exists_cons_of_ne_nil numeral.nonempty
    have hfirst := numeral.decimal byte (by simp [hdigits])
    simp [hnone, hdigits, isSpace_of_isDigit hfirst]
  · simp [hplus, isSpace]
  · simp [hminus, isSpace]

theorem stoi_eq (text : Bytes) :
    stoi text =
      let spaces := text.takeWhile isSpace
      let rest := text.dropWhile isSpace
      let digits := (rest.drop (signOf rest).length).takeWhile isDigit
      let value : ℤ := if signOf rest = [45] then -decimalValue digits else decimalValue digits
      if digits.isEmpty then none
      else if value < -2 ^ 31 ∨ 2 ^ 31 - 1 < value then none
      else some (value, spaces.length + (signOf rest).length + digits.length) := rfl

/-- `std::stoi` on a numeral with something behind it that is no digit. -/
theorem stoi_append (numeral : IntegerText) (hstops : Stops isDigit rest) :
    stoi (numeral.text ++ rest) =
      if numeral.Fits then some (numeral.value, numeral.text.length) else none := by
  have hsplit : numeral.text ++ rest =
      numeral.spaces ++ (numeral.sign ++ (numeral.digits ++ rest)) := by
    simp [IntegerText.text]
  have hnonempty : numeral.digits.isEmpty = false := by simp [numeral.nonempty]
  rw [stoi_eq, hsplit, StreamExtraction.takeWhile_append numeral.blank (numeral.stops rest),
    StreamExtraction.dropWhile_append numeral.blank (numeral.stops rest)]
  simp only [numeral.signOf_append, List.drop_left,
    StreamExtraction.takeWhile_append numeral.decimal hstops, hnonempty, Bool.false_eq_true,
    if_false]
  change (if numeral.value < -2 ^ 31 ∨ 2 ^ 31 - 1 < numeral.value then none
    else some (numeral.value, _)) = _
  by_cases hfits : numeral.Fits
  · obtain ⟨hlow, hhigh⟩ := hfits
    rw [if_neg (by omega), if_pos ⟨hlow, hhigh⟩]
    simp [IntegerText.text, Nat.add_assoc]
  · rw [if_neg hfits, if_pos]
    by_contra hinside
    exact hfits ⟨by omega, by omega⟩

/-- Where `std::stoi` does not throw, the text begins with a numeral. -/
theorem exists_numeral_of_stoi {result : ℤ × ℕ} (hstoi : stoi text = some result) :
    ∃ (numeral : IntegerText) (rest : Bytes), text = numeral.text ++ rest ∧
      Stops isDigit rest := by
  let tail := text.dropWhile isSpace
  let body := tail.drop (signOf tail).length
  have hdigits : body.takeWhile isDigit ≠ [] := by
    intro hempty
    rw [stoi_eq] at hstoi
    simp [body, tail, hempty] at hstoi
  refine ⟨⟨text.takeWhile isSpace, signOf tail, body.takeWhile isDigit,
    fun byte hmem => List.mem_takeWhile_imp hmem, signOf_cases tail, hdigits,
    fun byte hmem => List.mem_takeWhile_imp hmem⟩, body.dropWhile isDigit, ?_,
    StreamExtraction.stops_dropWhile⟩
  rw [IntegerText.text, List.append_assoc, List.takeWhile_append_dropWhile, List.append_assoc,
    signOf_append_drop, List.takeWhile_append_dropWhile]

/-- A getter's conversion is strict. -/
theorem intOf_strict (text : Bytes) (defaultValue : ℤ) :
    StrictlyParsed text defaultValue (intOf text defaultValue) := by
  constructor
  · rintro numeral rfl hfits
    have hstoi := stoi_append numeral (StreamExtraction.stops_nil)
    rw [List.append_nil, if_pos hfits] at hstoi
    simp [intOf, hstoi]
  · intro hnone
    unfold intOf
    cases hstoi : stoi text with
    | none => rfl
    | some result =>
        obtain ⟨numeral, rest, rfl, hstops⟩ := exists_numeral_of_stoi hstoi
        rw [stoi_append numeral hstops] at hstoi
        split at hstoi
        · rename_i hfits
          cases hstoi
          dsimp only
          split
          · rename_i hwhole
            have hrest : rest = [] := by simpa using hwhole
            exact absurd hfits (hnone numeral (by simp [hrest]))
          · rfl
        · cases hstoi

end Reading

/-! ## `std::to_string` -/

def digitBytes (number : ℕ) : Bytes := (Nat.toDigits 10 number).map Char.toUInt8

section Printing

variable {number : ℕ} {value : ℤ}

theorem toNat_toUInt8_of_isDigit {digit : Char} (hdigit : digit.isDigit = true) :
    digit.toUInt8.toNat = digit.toNat ∧ 48 ≤ digit.toNat ∧ digit.toNat ≤ 57 := by
  simp only [Char.isDigit, Bool.and_eq_true, decide_eq_true_eq] at hdigit
  have hlow : 48 ≤ digit.val.toNat := by simpa using UInt32.le_iff_toNat_le.mp hdigit.1
  have hhigh : digit.val.toNat ≤ 57 := by simpa using UInt32.le_iff_toNat_le.mp hdigit.2
  refine ⟨?_, hlow, hhigh⟩
  rw [Char.toUInt8, UInt32.toNat_toUInt8]
  exact Nat.mod_eq_of_lt (by omega)

theorem digitBytes_decimal : ∀ byte ∈ digitBytes number, isDigit byte = true := by
  intro byte hmem
  obtain ⟨digit, hdigit, rfl⟩ := List.mem_map.mp hmem
  obtain ⟨hvalue, hlow, hhigh⟩ :=
    toNat_toUInt8_of_isDigit (Nat.isDigit_of_mem_toDigits (by decide) (by decide) hdigit)
  simp only [isDigit, Bool.and_eq_true, decide_eq_true_eq, UInt8.le_iff_toNat_le, hvalue]
  exact ⟨hlow, hhigh⟩

theorem decimalValue_digitBytes : decimalValue (digitBytes number) = number := by
  have hfold : ∀ (digits : List Char) (start : ℕ), (∀ digit ∈ digits, digit.isDigit = true) →
      (digits.map Char.toUInt8).foldl (fun value digit => 10 * value + (digit.toNat - 48)) start =
        Nat.ofDigitChars 10 digits start := by
    intro digits
    induction digits with
    | nil => simp
    | cons digit digits ih =>
        intro start hdigits
        have hfirst := toNat_toUInt8_of_isDigit (hdigits digit (by simp))
        rw [List.map_cons, List.foldl_cons, hfirst.1, Nat.ofDigitChars_cons]
        exact ih _ fun other hmem => hdigits other (List.mem_cons_of_mem _ hmem)
  unfold decimalValue digitBytes
  rw [hfold _ 0 fun digit => Nat.isDigit_of_mem_toDigits (by decide) (by decide)]
  exact Nat.ofDigitChars_ten_toDigits

theorem decimal_of_nonneg (hnonneg : 0 ≤ value) : decimal value = digitBytes value.toNat := by
  rw [decimal, Int.toString_eq_repr, Int.repr_eq_if, if_pos hnonneg, Nat.toList_repr]
  rfl

theorem decimal_of_neg (hnegative : value < 0) :
    decimal value = 45 :: digitBytes (-value).toNat := by
  rw [decimal, Int.toString_eq_repr, Int.repr_eq_if, if_neg (by omega), String.toList_append,
    Nat.toList_repr]
  rfl

/-- What `std::to_string` prints is a numeral. -/
theorem exists_decimal (value : ℤ) :
    ∃ numeral : IntegerText, numeral.text = decimal value ∧ numeral.value = value := by
  have hnonempty : ∀ number, digitBytes number ≠ [] := by
    intro number
    simp [digitBytes, Nat.toDigits_ne_nil]
  by_cases hnegative : value < 0
  · refine ⟨⟨[], [45], digitBytes (-value).toNat, by simp, by simp, hnonempty _,
      digitBytes_decimal⟩, (decimal_of_neg hnegative).symm, ?_⟩
    simp only [IntegerText.value, decimalValue_digitBytes, if_true]
    omega
  · refine ⟨⟨[], [], digitBytes value.toNat, by simp, by simp, hnonempty _,
      digitBytes_decimal⟩, (decimal_of_nonneg (by omega)).symm, ?_⟩
    have hunsigned : ([] : Bytes) ≠ [45] := by simp
    simp only [IntegerText.value, decimalValue_digitBytes, if_neg hunsigned]
    omega

end Printing

theorem decimal_nulFree (value : ℤ) : NulFree (decimal value) := by
  have hdigits : ∀ number, (0 : UInt8) ∉ digitBytes number := by
    intro number hzero
    have hdigit := digitBytes_decimal 0 hzero
    simp [isDigit] at hdigit
  by_cases hnegative : value < 0
  · rw [decimal_of_neg hnegative, NulFree, List.mem_cons]
    rintro (hminus | hzero)
    · simp at hminus
    · exact hdigits _ hzero
  · rw [decimal_of_nonneg (by omega)]
    exact hdigits _

/-! ## Both classes -/

section Database

variable {Connection : Type} {engine : Engine Connection} {connection : Connection}
  {configuration : DatabaseConfiguration} {state final : engine.State}
  {key text : Bytes} {defaultValue result : ℤ}

theorem DatabaseConfiguration.getInt_eq (configuration : DatabaseConfiguration) (key : Bytes)
    (defaultValue : ℤ) :
    configuration.getInt key defaultValue = configuration.store.get key >>= fun result =>
      .done (match result.value with
        | none => defaultValue
        | some text => intOf text defaultValue) := by
  unfold DatabaseConfiguration.getInt
  congr 1
  funext result
  cases result.value <;> rfl

theorem getInt_of_stored (hlaws : engine.Lawful) (hopen : configuration.store.db.isOpen = true)
    (houtside : ¬ engine.inTransaction state connection)
    (hstored : contents (engine.committed state) (cString key) = some text)
    (hfree : NulFree text)
    (hget : Runs (SucceedingAnswers engine connection) (configuration.getInt key defaultValue)
      state result final) : result = intOf text defaultValue := by
  obtain ⟨hresult, _⟩ := query_runs hlaws hopen houtside
    (show QueryStep engine connection configuration state
      ⟨.getInt key defaultValue, result⟩ final from hget)
  change result = (Query.getInt key defaultValue).answer
    ((contents (engine.committed state) (cString key)).map cString) at hresult
  rw [hresult, hstored, Option.map_some, cString_eq_self hfree]
  rfl

/-- Where the statement of the read fails, there is nothing but the default. -/
theorem getInt_any_run (hlaws : engine.Lawful) (hopen : configuration.store.db.isOpen = true)
    (houtside : ¬ engine.inTransaction state connection)
    (hstored : contents (engine.committed state) (cString key) = some text)
    (hfree : NulFree text)
    (hget : Runs (engine.Answers connection) (configuration.getInt key defaultValue)
      state result final) : result = intOf text defaultValue ∨ result = defaultValue := by
  rw [DatabaseConfiguration.getInt_eq, runs_bind_iff] at hget
  obtain ⟨got, middle, hgot, hdone⟩ := hget
  obtain ⟨rfl, _⟩ := runs_done_iff.mp hdone
  obtain ⟨_, _, -, hfound, habsent, -⟩ := get_runs hlaws hopen houtside hgot
  by_cases hsucceeded : got.error = none
  · rw [hfound hsucceeded, hstored, Option.map_some, cString_eq_self hfree]
    exact .inl rfl
  · rw [habsent hsucceeded]
    exact .inr rfl

/-- What `setInt` has stored is the decimal text. -/
theorem stored_after_setInt (hlaws : engine.Lawful) (hopen : configuration.store.db.isOpen = true)
    (houtside : ¬ engine.inTransaction state connection) (hkey : NulFree key) {value : ℤ}
    {answer : Answer Bool} (htrue : answer.value = true)
    (hset : Runs (engine.Answers connection) (configuration.setInt key value)
      state answer final) :
    ¬ engine.inTransaction final connection ∧
      contents (engine.committed final) (cString key) = some (decimal value) := by
  have hwrite : Runs (engine.Answers connection)
      ((StringWrite.put key (decimal value)).perform configuration) state answer final := hset
  obtain ⟨hended, hcommitted⟩ := stringWrite_runs hlaws hopen houtside hwrite htrue
  refine ⟨hended, ?_⟩
  have hsingle := (storedText_single_iff hkey).mpr (decimal_nulFree value)
  rw [hcommitted, contents_stored, cString_eq_self hkey, StringWrite.pairs, hsingle]
  rfl

/-- Every 32-bit integer comes back from the database, and both classes take exactly the
texts of such integers. -/
theorem integers_return_and_parse (hlaws : engine.Lawful)
    (hopen : configuration.store.db.isOpen = true) :
    (∀ {key value defaultValue start answer written result final}, NulFree key →
      -2 ^ 31 ≤ value → value ≤ 2 ^ 31 - 1 → ¬ engine.inTransaction start connection →
      Runs (engine.Answers connection) (configuration.setInt key value) start answer written →
      answer.value = true →
      Runs (SucceedingAnswers engine connection) (configuration.getInt key defaultValue)
        written result final → result = value) ∧
    (∀ {key text defaultValue state result final},
      ¬ engine.inTransaction state connection →
      contents (engine.committed state) (cString key) = some text → NulFree text →
      (Runs (SucceedingAnswers engine connection) (configuration.getInt key defaultValue)
        state result final → StrictlyParsed text defaultValue result) ∧
      (Runs (engine.Answers connection) (configuration.getInt key defaultValue)
        state result final → StrictlyParsed text defaultValue result ∨ result = defaultValue)) ∧
    ∀ {values : KeyValueConfiguration} {key text : Bytes} {defaultValue : ℤ},
      values.values key = some text →
      StrictlyParsed text defaultValue (values.getInt key defaultValue) := by
  refine ⟨?_, ?_, ?_⟩
  · intro key value defaultValue start answer written result final hkey hlow hhigh houtside hset
      htrue hget
    obtain ⟨hended, hstored⟩ := stored_after_setInt hlaws hopen houtside hkey htrue hset
    obtain ⟨numeral, htext, hvalue⟩ := exists_decimal value
    rw [getInt_of_stored hlaws hopen hended hstored (decimal_nulFree value) hget]
    have hdenoted := (intOf_strict (decimal value) defaultValue).denoted numeral htext
    rw [hdenoted ⟨by omega, by omega⟩, hvalue]
  · intro key text defaultValue state result final houtside hstored hfree
    constructor
    · intro hget
      rw [getInt_of_stored hlaws hopen houtside hstored hfree hget]
      exact intOf_strict text defaultValue
    · intro hget
      rcases getInt_any_run hlaws hopen houtside hstored hfree hget with hparsed | hdefault
      · exact .inl (hparsed ▸ intOf_strict text defaultValue)
      · exact .inr hdefault
  · intro values key text defaultValue hstored
    unfold KeyValueConfiguration.getInt
    rw [hstored]
    exact intOf_strict text defaultValue

/-- The smallest `int` comes back, and `" +7"` is read as 7. -/
theorem smallest_integer_returns :
    (∃ result final, Runs (SucceedingAnswers (journalEngine ℕ) 0)
        (DatabaseConfiguration.getInt ⟨openStore⟩ [107] 0)
        ⟨insertPair ∅ ([107], decimal (-2 ^ 31)), none⟩ result final ∧ result = -2 ^ 31) ∧
      KeyValueConfiguration.getInt ⟨fun _ => some [32, 43, 55]⟩ [107] 0 = 7 := by
  have hget : Runs (SucceedingAnswers (journalEngine ℕ) 0)
      (DatabaseConfiguration.getInt ⟨openStore⟩ [107] 0)
      ⟨insertPair ∅ ([107], decimal (-2 ^ 31)), none⟩ _ _ :=
    .answered (completedRun _) (journal_selects rfl rfl) (.done _ _)
  have hset : Runs ((journalEngine ℕ).Answers 0)
      (DatabaseConfiguration.setInt ⟨openStore⟩ [107] (-2 ^ 31)) ⟨∅, none⟩ ⟨true, none⟩
      ⟨insertPair ∅ ([107], decimal (-2 ^ 31)), none⟩ := journal_puts (decimal (-2 ^ 31))
  obtain ⟨hreturns, _, hparses⟩ :=
    @integers_return_and_parse ℕ (journalEngine ℕ) 0 ⟨openStore⟩ journalEngine_lawful rfl
  refine ⟨⟨_, _, hget, ?_⟩, ?_⟩
  · exact hreturns (by decide) (by decide) (by decide) Journal.not_inTransaction_mk hset rfl hget
  · have hvalues : (⟨fun _ => some [32, 43, 55]⟩ : KeyValueConfiguration).values [107] =
        some [32, 43, 55] := rfl
    exact (hparses hvalues).denoted
      ⟨[32], [43], [55], by simp [isSpace], by simp, by simp, by simp [isDigit]⟩ rfl
      ⟨by decide, by decide⟩

end Database

end ElapPlatform.Config
