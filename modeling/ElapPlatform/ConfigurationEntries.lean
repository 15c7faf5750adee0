import ElapPlatform.ConfigurationIntegers

/-!
# Typed entries

The setters write a string, an integer or a Boolean, and the store keeps its text.  A getter
of another type converts that text.
-/

namespace ElapPlatform.Config

open Interaction Interaction.Program Storage
open StreamExtraction (isSpace isDigit isSpace_of_isDigit)

/-! ## The remaining setters -/

def trueText : Bytes := [116, 114, 117, 101]

def falseText : Bytes := [102, 97, 108, 115, 101]

namespace DatabaseConfiguration

def setBool (configuration : DatabaseConfiguration) (key : Bytes) (value : Bool) :
    DatabaseProgram (Answer Bool) :=
  configuration.store.put key (if value then trueText else falseText)

def remove (configuration : DatabaseConfiguration) (key : Bytes) :
    DatabaseProgram (Answer Bool) :=
  configuration.store.remove key

end DatabaseConfiguration

inductive ConfigurationWrite where
  | setString (key value : Bytes)
  | setInt (key : Bytes) (value : ℤ)
  | setBool (key : Bytes) (value : Bool)
  | remove (key : Bytes)
  | loadFromFile (path : String) (file : Option FileStream)
  deriving DecidableEq, Repr

def ConfigurationWrite.perform (configuration : DatabaseConfiguration) :
    ConfigurationWrite → DatabaseProgram (Answer Bool)
  | .setString key value => configuration.setString key value
  | .setInt key value => configuration.setInt key value
  | .setBool key value => configuration.setBool key value
  | .remove key => configuration.remove key
  | .loadFromFile path file => configuration.loadFromFile path file

/-! ## Entries -/

inductive Entry where
  | string (text : Bytes)
  | integer (value : ℤ)
  | boolean (value : Bool)
  deriving DecidableEq, Repr

namespace Entry

def text : Entry → Bytes
  | .string text => text
  | .integer value => decimal value
  | .boolean value => if value then trueText else falseText

/-- A string without NUL, or an `int`. -/
def Valid : Entry → Prop
  | .string text => NulFree text
  | .integer value => -2 ^ 31 ≤ value ∧ value ≤ 2 ^ 31 - 1
  | .boolean _ => True

/-- A Boolean is not a number. -/
def toInt : Entry → ℤ → ℤ
  | .string text, defaultValue => intOf text defaultValue
  | .integer value, _ => value
  | .boolean _, defaultValue => defaultValue

/-- Of the integers only 1 and 0 are Booleans. -/
def toBool : Entry → Bool → Bool
  | .string text, defaultValue => boolOf text defaultValue
  | .integer value, defaultValue =>
      if value = 1 then true else if value = 0 then false else defaultValue
  | .boolean value, _ => value

end Entry

abbrev Entries := Bytes → Option Entry

def Query.typedAnswer : (query : Query) → Option Entry → query.Value
  | .has _, entry => entry.isSome
  | .getString _ defaultValue, entry => (entry.map Entry.text).getD defaultValue
  | .getInt _ defaultValue, entry => entry.elim defaultValue fun entry => entry.toInt defaultValue
  | .getBool _ defaultValue, entry =>
      entry.elim defaultValue fun entry => entry.toBool defaultValue

def putEntry (entries : Entries) (pair : Bytes × Bytes) : Entries :=
  Function.update entries pair.1 (some (.string pair.2))

/-- What a write makes of the entries; a file that is not accepted makes nothing. -/
def ConfigurationWrite.update : ConfigurationWrite → Entries → Option Entries
  | .setString key value, entries => some (Function.update entries key (some (.string value)))
  | .setInt key value, entries => some (Function.update entries key (some (.integer value)))
  | .setBool key value, entries => some (Function.update entries key (some (.boolean value)))
  | .remove key, entries => some (Function.update entries key none)
  | .loadFromFile path file, entries =>
      match parseFile (fun values pair => values ++ [pair]) [] path file with
      | .error _ => none
      | .ok values => some (values.foldl putEntry entries)

/-! ## Conversions of what the setters write -/

section Conversions

variable {text : Bytes} {value : ℤ} {entry : Entry}

theorem trim_eq_self (hplain : ∀ byte ∈ text, isSpace byte = false) : trim text = text := by
  have hkept : text.dropWhile isSpace = text := by
    cases text with
    | nil => rfl
    | cons byte rest => rw [List.dropWhile_cons_of_neg (by simp [hplain byte])]
  have hlast : text.reverse.dropWhile isSpace = text.reverse := by
    cases hreverse : text.reverse with
    | nil => rfl
    | cons byte rest =>
        have hmem : byte ∈ text := by
          rw [← List.mem_reverse, hreverse]
          exact List.mem_cons_self
        rw [List.dropWhile_cons_of_neg (by simp [hplain byte hmem])]
  rw [trim, hkept, List.rdropWhile, hlast, List.reverse_reverse]

theorem lower_eq_self (hplain : ∀ byte ∈ text, tolower byte = byte) : lower text = text :=
  (List.map_congr_left hplain).trans (List.map_id' _)

theorem decimal_subset {byte : UInt8} (hmem : byte ∈ decimal value) :
    byte = 45 ∨ isDigit byte = true := by
  rcases lt_or_ge value 0 with hnegative | hnonneg
  · rw [decimal_of_neg hnegative, List.mem_cons] at hmem
    exact hmem.imp_right (digitBytes_decimal byte)
  · rw [decimal_of_nonneg hnonneg] at hmem
    exact .inr (digitBytes_decimal byte hmem)

theorem plain_of_decimal {byte : UInt8} (hmem : byte ∈ decimal value) :
    isSpace byte = false ∧ tolower byte = byte := by
  rcases decimal_subset hmem with rfl | hdigit
  · decide
  · refine ⟨isSpace_of_isDigit hdigit, if_neg ?_⟩
    simp only [isDigit, Bool.and_eq_true, decide_eq_true_eq, UInt8.le_iff_toNat_le] at hdigit ⊢
    intro hletter
    have hlow : (65 : UInt8).toNat = 65 := rfl
    have hhigh : (57 : UInt8).toNat = 57 := rfl
    omega

theorem digitBytes_injective {number number' : ℕ}
    (hsame : digitBytes number = digitBytes number') : number = number' := by
  rw [← @decimalValue_digitBytes number, hsame, decimalValue_digitBytes]

theorem decimal_injective {value' : ℤ} (hsame : decimal value = decimal value') :
    value = value' := by
  have hunsigned : ∀ {number : ℕ} {rest : Bytes}, digitBytes number ≠ 45 :: rest := by
    intro number rest hdigits
    have hdigit := @digitBytes_decimal number 45 (by rw [hdigits]; exact List.mem_cons_self)
    exact absurd hdigit (by decide)
  rcases lt_or_ge value 0 with hnegative | hnonneg <;>
    rcases lt_or_ge value' 0 with hnegative' | hnonneg'
  · rw [decimal_of_neg hnegative, decimal_of_neg hnegative', List.cons.injEq] at hsame
    have hdigits := digitBytes_injective hsame.2
    omega
  · rw [decimal_of_neg hnegative, decimal_of_nonneg hnonneg'] at hsame
    exact absurd hsame.symm hunsigned
  · rw [decimal_of_nonneg hnonneg, decimal_of_neg hnegative'] at hsame
    exact absurd hsame hunsigned
  · rw [decimal_of_nonneg hnonneg, decimal_of_nonneg hnonneg'] at hsame
    have hdigits := digitBytes_injective hsame
    omega

theorem boolOf_decimal (value : ℤ) (defaultValue : Bool) :
    boolOf (decimal value) defaultValue =
      if value = 1 then true else if value = 0 then false else defaultValue := by
  have htext : lower (trim (decimal value)) = decimal value := by
    rw [trim_eq_self fun byte hmem => (plain_of_decimal hmem).1,
      lower_eq_self fun byte hmem => (plain_of_decimal hmem).2]
  have hletters : ∀ {byte : UInt8} {rest : Bytes}, byte ≠ 45 → isDigit byte = false →
      decimal value ≠ byte :: rest := by
    intro byte rest hsign hdigit hletter
    rcases decimal_subset (by rw [hletter]; exact List.mem_cons_self) with hminus | hnumber
    · exact hsign hminus
    · rw [hdigit] at hnumber
      cases hnumber
  have hone : decimal value = [49] ↔ value = 1 := by
    have hdecimal : decimal 1 = [49] := by decide
    rw [← hdecimal]
    exact ⟨decimal_injective, congrArg decimal⟩
  have hzero : decimal value = [48] ↔ value = 0 := by
    have hdecimal : decimal 0 = [48] := by decide
    rw [← hdecimal]
    exact ⟨decimal_injective, congrArg decimal⟩
  have htrue : decimal value ∈ trueTexts ↔ value = 1 := by
    simp (disch := decide) [trueTexts, hone, hletters]
  have hfalse : decimal value ∈ falseTexts ↔ value = 0 := by
    simp (disch := decide) [falseTexts, hzero, hletters]
  simp only [boolOf, htext, htrue, hfalse]

theorem intOf_decimal {defaultValue : ℤ} (hvalue : (Entry.integer value).Valid) :
    intOf (decimal value) defaultValue = value := by
  obtain ⟨numeral, htext, hnumeral⟩ := exists_decimal value
  have hdenoted := (intOf_strict (decimal value) defaultValue).denoted numeral htext
  rw [hdenoted (by rwa [IntegerText.Fits, hnumeral]), hnumeral]

/-- A getter of any type makes of the text what it makes of the entry. -/
theorem answer_text (query : Query) {entry : Option Entry} (hvalid : ∀ found ∈ entry, found.Valid) :
    query.answer (entry.map Entry.text) = query.typedAnswer entry := by
  cases query with
  | has key => exact Option.isSome_map
  | getString key defaultValue => rfl
  | getInt key defaultValue =>
      rcases entry with _ | (text | value | value)
      · rfl
      · rfl
      · exact intOf_decimal (hvalid _ rfl)
      · cases value <;> rfl
  | getBool key defaultValue =>
      rcases entry with _ | (text | value | value)
      · rfl
      · rfl
      · exact boolOf_decimal value defaultValue
      · cases value <;> rfl

end Conversions

end ElapPlatform.Config
