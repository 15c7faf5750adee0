import Mathlib.Data.List.TakeWhile
import Mathlib.Tactic

/-!
# Extraction from a text stream

`operator>>` of an input stream for words and for unsigned integers, on the bytes that
are left of the stream: white space is skipped, and a word or a numeral is taken as far
as it goes.  A numeral may have a sign, and a negative one counts modulo the range.
-/

namespace StreamExtraction

abbrev Text := List UInt8

/-- `std::isspace` in the "C" locale. -/
def isSpace (byte : UInt8) : Bool := byte = 32 || (9 ≤ byte && byte ≤ 13)

def isDigit (byte : UInt8) : Bool := 48 ≤ byte && byte ≤ 57

/-- The number that decimal digits denote. -/
def decimalValue (digits : Text) : ℕ :=
  digits.foldl (fun value digit => 10 * value + (digit.toNat - 48)) 0

/-! ## Maximal munch -/

/-- The text is over, or its first byte is not one of these. -/
def Stops (p : UInt8 → Bool) (rest : Text) : Prop :=
  ∀ byte, rest.head? = some byte → p byte = false

section Munch

variable {p : UInt8 → Bool} {body rest text : Text} {byte : UInt8}

@[simp] theorem stops_nil : Stops p [] := by simp [Stops]

@[simp] theorem stops_cons_iff : Stops p (byte :: rest) ↔ p byte = false := by simp [Stops]

theorem stops_dropWhile : Stops p (text.dropWhile p) := by
  intro byte hhead
  have hfirst := List.head?_dropWhile_not p text
  rw [hhead] at hfirst
  exact Bool.eq_false_iff.mpr (by simpa using hfirst)

theorem takeWhile_append (hbody : ∀ byte ∈ body, p byte) (hstops : Stops p rest) :
    (body ++ rest).takeWhile p = body := by
  rw [List.takeWhile_append_of_pos hbody]
  cases rest with
  | nil => simp
  | cons byte rest => simp [stops_cons_iff.mp hstops]

theorem dropWhile_append (hbody : ∀ byte ∈ body, p byte) (hstops : Stops p rest) :
    (body ++ rest).dropWhile p = rest := by
  rw [List.dropWhile_append_of_pos hbody]
  cases rest with
  | nil => simp
  | cons byte rest => simp [stops_cons_iff.mp hstops]

end Munch

/-! ## Words -/

/-- `stream >> word` -/
def extractWord (text : Text) : Option (Text × Text) :=
  let rest := text.dropWhile isSpace
  if rest.isEmpty then none
  else some (rest.takeWhile fun byte => !isSpace byte, rest.dropWhile fun byte => !isSpace byte)

structure IsWord (word : Text) : Prop where
  nonempty : word ≠ []
  solid : ∀ byte ∈ word, isSpace byte = false

def IsGap (gap : Text) : Prop := ∀ byte ∈ gap, isSpace byte = true

/-- White space follows, or nothing. -/
def Ends (rest : Text) : Prop := Stops (fun byte => !isSpace byte) rest

section Words

variable {text word rest gap : Text}

theorem IsWord.stops (hword : IsWord word) : Stops isSpace (word ++ rest) := by
  cases word with
  | nil => exact absurd rfl hword.nonempty
  | cons byte word => simpa using hword.solid byte (by simp)

theorem dropWhile_gap (hgap : IsGap gap) (hstops : Stops isSpace rest) :
    (gap ++ rest).dropWhile isSpace = rest :=
  dropWhile_append hgap hstops

theorem extractWord_of_word (hgap : IsGap gap) (hword : IsWord word) (hends : Ends rest) :
    extractWord (gap ++ word ++ rest) = some (word, rest) := by
  have hsolid : ∀ byte ∈ word, (!isSpace byte) = true := by simpa using hword.solid
  unfold extractWord
  rw [List.append_assoc, dropWhile_gap hgap hword.stops]
  simp [hword.nonempty, takeWhile_append hsolid hends, dropWhile_append hsolid hends]

theorem extractWord_of_gap (hgap : IsGap gap) : extractWord gap = none := by
  unfold extractWord
  have hrest := dropWhile_gap hgap (stops_nil)
  rw [List.append_nil] at hrest
  simp [hrest]

theorem extractWord_eq_some_iff :
    extractWord text = some (word, rest) ↔
      ∃ gap, text = gap ++ word ++ rest ∧ IsGap gap ∧ IsWord word ∧ Ends rest := by
  constructor
  · intro hextract
    unfold extractWord at hextract
    dsimp only at hextract
    split at hextract
    · cases hextract
    · rename_i hleft
      obtain ⟨rfl, rfl⟩ := Prod.mk.inj (Option.some.inj hextract)
      refine ⟨text.takeWhile isSpace, ?_, ?_, ⟨?_, ?_⟩, stops_dropWhile⟩
      · rw [List.append_assoc, List.takeWhile_append_dropWhile,
          List.takeWhile_append_dropWhile]
      · exact fun byte hmem => List.mem_takeWhile_imp hmem
      · intro hempty
        have hstops : Stops isSpace (text.dropWhile isSpace) := stops_dropWhile
        cases hrest : text.dropWhile isSpace with
        | nil => simp [hrest] at hleft
        | cons byte rest =>
            rw [hrest, stops_cons_iff] at hstops
            simp [hrest, hstops] at hempty
      · exact fun byte hmem => by simpa using List.mem_takeWhile_imp hmem
  · rintro ⟨gap, rfl, hgap, hword, hends⟩
    exact extractWord_of_word hgap hword hends

/-! ### All words of a text -/

def words (text : Text) : List Text := (text.splitOnP isSpace).filter fun word => !word.isEmpty

@[simp] theorem words_nil : words [] = [] := by
  simp [words, List.splitOnP_nil]

theorem words_space_cons {byte : UInt8} (hspace : isSpace byte) :
    words (byte :: text) = words text := by
  simp [words, List.splitOnP_cons_eq_if_modifyHead, hspace]

theorem words_gap_append (hgap : IsGap gap) : words (gap ++ text) = words text := by
  induction gap with
  | nil => rfl
  | cons byte gap ih =>
      rw [List.cons_append, words_space_cons (hgap byte (by simp))]
      exact ih fun other hmem => hgap other (by simp [hmem])

theorem words_word_append (hword : IsWord word) (hends : Ends rest) :
    words (word ++ rest) = word :: words rest := by
  cases rest with
  | nil => simp [words, List.splitOnP_eq_singleton hword.solid, List.splitOnP_nil, hword.nonempty]
  | cons byte rest =>
      have hspace : isSpace byte = true := by simpa using stops_cons_iff.mp hends
      rw [words_space_cons hspace]
      simp [words, List.splitOnP_append_cons_of_forall_mem hword.solid byte hspace,
        hword.nonempty]

theorem IsWord.append_takeWhile (hword : IsWord word) :
    IsWord (word ++ rest.takeWhile fun byte => !isSpace byte) := by
  refine ⟨by simp [hword.nonempty], fun byte hmem => ?_⟩
  rcases List.mem_append.mp hmem with hfirst | hlast
  · exact hword.solid byte hfirst
  · simpa using List.mem_takeWhile_imp hlast

/-- A word may go on behind what it begins with. -/
theorem words_solid_append (hword : IsWord word) :
    words (word ++ rest) =
      (word ++ rest.takeWhile fun byte => !isSpace byte) ::
        words (rest.dropWhile fun byte => !isSpace byte) := by
  have hends : Ends (rest.dropWhile fun byte => !isSpace byte) := stops_dropWhile
  have hlonger : IsWord (word ++ rest.takeWhile (fun byte => !isSpace byte)) :=
    hword.append_takeWhile
  have hwords := words_word_append hlonger hends
  rwa [List.append_assoc, List.takeWhile_append_dropWhile] at hwords

end Words

/-! ## Unsigned integers -/

inductive Sign where
  | none
  | plus
  | minus
  deriving DecidableEq, Repr

namespace Sign

def text : Sign → Text
  | .none => []
  | .plus => [43]
  | .minus => [45]

def value (modulus : ℕ) : Sign → ℕ → ℕ
  | .minus, magnitude => (modulus - magnitude) % modulus
  | _, magnitude => magnitude

end Sign

def readSign : Text → Sign × Text
  | 43 :: rest => (.plus, rest)
  | 45 :: rest => (.minus, rest)
  | rest => (.none, rest)

/-- `stream >> number` for an unsigned type with that many values. -/
def extractUnsigned (modulus : ℕ) (text : Text) : Option (ℕ × Text) :=
  let (sign, rest) := readSign (text.dropWhile isSpace)
  let digits := rest.takeWhile isDigit
  if digits.isEmpty ∨ modulus ≤ decimalValue digits then none
  else some (sign.value modulus (decimalValue digits), rest.dropWhile isDigit)

structure IsDecimal (modulus : ℕ) (digits : Text) : Prop where
  nonempty : digits ≠ []
  all_digits : ∀ byte ∈ digits, isDigit byte = true
  small : decimalValue digits < modulus

/-- What is read as one number. -/
structure Numeral where
  gap : Text
  sign : Sign
  digits : Text
  deriving DecidableEq, Repr

namespace Numeral

def text (numeral : Numeral) : Text := numeral.gap ++ numeral.sign.text ++ numeral.digits

def value (modulus : ℕ) (numeral : Numeral) : ℕ :=
  numeral.sign.value modulus (decimalValue numeral.digits)

structure Valid (modulus : ℕ) (numeral : Numeral) : Prop where
  gap : IsGap numeral.gap
  decimal : IsDecimal modulus numeral.digits

end Numeral

section Unsigned

variable {modulus value : ℕ} {text rest digits : Text} {byte : UInt8} {numeral : Numeral}

theorem isSpace_of_isDigit (hdigit : isDigit byte = true) : isSpace byte = false := by
  have hlow : 48 ≤ byte.toNat := by
    simp only [isDigit, Bool.and_eq_true, decide_eq_true_eq, UInt8.le_iff_toNat_le] at hdigit
    exact hdigit.1
  simp [isSpace, UInt8.le_iff_toNat_le, ← UInt8.toNat_inj]
  omega

theorem Ends.stops_digit (hends : Ends rest) : Stops isDigit rest := by
  intro byte hhead
  by_contra hdigit
  have hspace : isSpace byte = true := by simpa using hends byte hhead
  rw [isSpace_of_isDigit (by simpa using hdigit)] at hspace
  cases hspace

theorem IsDecimal.isWord (hdecimal : IsDecimal modulus digits) : IsWord digits where
  nonempty := hdecimal.nonempty
  solid byte hmem := isSpace_of_isDigit (hdecimal.all_digits byte hmem)

theorem readSign_of_digits (sign : Sign) (hdecimal : IsDecimal modulus digits) :
    readSign (sign.text ++ digits ++ rest) = (sign, digits ++ rest) := by
  cases sign with
  | plus => rfl
  | minus => rfl
  | none =>
      cases digits with
      | nil => exact absurd rfl hdecimal.nonempty
      | cons byte digits =>
          have hdigit := hdecimal.all_digits byte (by simp)
          unfold readSign
          split
          · rename_i heq
            cases heq
            cases hdigit
          · rename_i heq
            cases heq
            cases hdigit
          · rfl

theorem readSign_text : (readSign text).1.text ++ (readSign text).2 = text := by
  unfold readSign
  split <;> rfl

theorem isWord_sign_append (sign : Sign) (hdecimal : IsDecimal modulus digits) :
    IsWord (sign.text ++ digits) where
  nonempty := by simp [hdecimal.nonempty]
  solid := by
    intro byte hmem
    rcases List.mem_append.mp hmem with hsign | hdigits
    · cases sign with
      | none => cases hsign
      | plus =>
          rw [List.mem_singleton.mp hsign]
          rfl
      | minus =>
          rw [List.mem_singleton.mp hsign]
          rfl
    · exact hdecimal.isWord.solid byte hdigits

theorem extractUnsigned_of_numeral (hvalid : numeral.Valid modulus)
    (hstops : Stops isDigit rest) :
    extractUnsigned modulus (numeral.text ++ rest) = some (numeral.value modulus, rest) := by
  have hword := isWord_sign_append numeral.sign hvalid.decimal
  have hdrop : (numeral.text ++ rest).dropWhile isSpace =
      numeral.sign.text ++ numeral.digits ++ rest := by
    rw [Numeral.text, List.append_assoc, List.append_assoc, ← List.append_assoc numeral.sign.text,
      dropWhile_gap hvalid.gap hword.stops]
  unfold extractUnsigned
  rw [hdrop, readSign_of_digits numeral.sign hvalid.decimal]
  dsimp only
  rw [takeWhile_append hvalid.decimal.all_digits hstops,
    dropWhile_append hvalid.decimal.all_digits hstops, if_neg]
  · rfl
  · simpa [hvalid.decimal.nonempty] using hvalid.decimal.small

theorem extractUnsigned_eq_some_iff :
    extractUnsigned modulus text = some (value, rest) ↔
      ∃ numeral : Numeral, numeral.Valid modulus ∧ text = numeral.text ++ rest ∧
        Stops isDigit rest ∧ value = numeral.value modulus := by
  constructor
  · intro hextract
    unfold extractUnsigned at hextract
    dsimp only at hextract
    split at hextract
    · cases hextract
    · rename_i hread
      obtain ⟨rfl, rfl⟩ := Prod.mk.inj (Option.some.inj hextract)
      rw [not_or, not_le] at hread
      refine ⟨⟨text.takeWhile isSpace, (readSign (text.dropWhile isSpace)).1,
        (readSign (text.dropWhile isSpace)).2.takeWhile isDigit⟩, ⟨?_, ?_, ?_, hread.2⟩, ?_,
        stops_dropWhile, rfl⟩
      · exact fun byte hmem => List.mem_takeWhile_imp hmem
      · simpa using hread.1
      · exact fun byte hmem => List.mem_takeWhile_imp hmem
      · rw [Numeral.text, List.append_assoc, List.append_assoc,
          List.takeWhile_append_dropWhile, readSign_text, List.takeWhile_append_dropWhile]
  · rintro ⟨numeral, hvalid, rfl, hstops, rfl⟩
    exact extractUnsigned_of_numeral hvalid hstops

theorem extractUnsigned_of_gap {gap : Text} (hgap : IsGap gap) :
    extractUnsigned modulus gap = none := by
  have hrest := dropWhile_gap hgap stops_nil
  rw [List.append_nil] at hrest
  unfold extractUnsigned
  simp [hrest, readSign]

/-- Neither a digit nor a sign comes first. -/
theorem extractUnsigned_of_head {gap : Text} (hgap : IsGap gap) (hsolid : isSpace byte = false)
    (hdigit : isDigit byte = false) (hplus : byte ≠ 43) (hminus : byte ≠ 45) :
    extractUnsigned modulus (gap ++ byte :: rest) = none := by
  have hsign : readSign (byte :: rest) = (.none, byte :: rest) := by
    unfold readSign
    split
    · rename_i heq
      exact absurd (List.cons.inj heq).1 hplus
    · rename_i heq
      exact absurd (List.cons.inj heq).1 hminus
    · rfl
  unfold extractUnsigned
  rw [dropWhile_gap hgap (stops_cons_iff.mpr hsolid), hsign]
  simp [hdigit]

end Unsigned

/-! ## Several integers -/

def extractMany (modulus : ℕ) : ℕ → Text → Option (List ℕ × Text)
  | 0, text => some ([], text)
  | count + 1, text => do
      let (value, rest) ← extractUnsigned modulus text
      let (values, rest) ← extractMany modulus count rest
      return (value :: values, rest)

/-- The text is these numerals and a rest that takes none of their digits. -/
inductive Reads (modulus : ℕ) : Text → List Numeral → Text → Prop
  | nil (rest : Text) : Reads modulus rest [] rest
  | cons {numeral : Numeral} {numerals : List Numeral} {text rest : Text}
      (hvalid : numeral.Valid modulus) (hstops : Stops isDigit text)
      (hrest : Reads modulus text numerals rest) :
      Reads modulus (numeral.text ++ text) (numeral :: numerals) rest

section Many

variable {modulus count : ℕ} {text rest : Text} {values : List ℕ} {numerals : List Numeral}

theorem extractMany_eq_some_iff :
    extractMany modulus count text = some (values, rest) ↔
      ∃ numerals, numerals.length = count ∧ Reads modulus text numerals rest ∧
        values = numerals.map (Numeral.value modulus) := by
  induction count generalizing text values with
  | zero =>
      simp only [extractMany, Option.some.injEq, Prod.mk.injEq, List.length_eq_zero_iff]
      constructor
      · rintro ⟨rfl, rfl⟩
        exact ⟨[], rfl, .nil text, rfl⟩
      · rintro ⟨_, rfl, hreads, rfl⟩
        cases hreads
        exact ⟨rfl, rfl⟩
  | succ count ih =>
      simp only [extractMany, Option.bind_eq_bind, Option.bind_eq_some_iff, Option.pure_def,
        Option.some.injEq, Prod.exists, Prod.mk.injEq]
      constructor
      · rintro ⟨value, middle, hfirst, values', last, hmany, rfl, rfl⟩
        obtain ⟨numeral, hvalid, rfl, hstops, rfl⟩ := extractUnsigned_eq_some_iff.mp hfirst
        obtain ⟨numerals, rfl, hreads, rfl⟩ := ih.mp hmany
        exact ⟨numeral :: numerals, rfl, .cons hvalid hstops hreads, rfl⟩
      · rintro ⟨_, hcount, hreads, rfl⟩
        cases hreads with
        | nil => cases hcount
        | @cons numeral numerals middle rest hvalid hstops hrest =>
            exact ⟨_, _, extractUnsigned_of_numeral hvalid hstops, _, _,
              ih.mpr ⟨numerals, Nat.succ.inj hcount, hrest, rfl⟩, rfl, rfl⟩

/-! ### Plain decimal fields -/

/-- All words of the text are decimal numbers. -/
def AllDecimal (modulus : ℕ) (text : Text) : Prop := ∀ word ∈ words text, IsDecimal modulus word

theorem words_numeral_append {numeral : Numeral} (hvalid : numeral.Valid modulus) :
    words (numeral.text ++ text) =
      (numeral.sign.text ++ numeral.digits ++ text.takeWhile fun byte => !isSpace byte) ::
        words (text.dropWhile fun byte => !isSpace byte) := by
  have hword := isWord_sign_append numeral.sign hvalid.decimal
  rw [Numeral.text, List.append_assoc, List.append_assoc, ← List.append_assoc numeral.sign.text,
    words_gap_append hvalid.gap, words_solid_append hword]

theorem words_plain_append {numeral : Numeral} (hvalid : numeral.Valid modulus)
    (hsign : numeral.sign = .none) (hends : Ends text) :
    words (numeral.text ++ text) = numeral.digits :: words text := by
  rw [Numeral.text, hsign, Sign.text, List.append_nil, List.append_assoc,
    words_gap_append hvalid.gap, words_word_append hvalid.decimal.isWord hends]

/-- A numeral that begins a decimal number is all of it. -/
theorem plain_of_isDecimal {numeral : Numeral} (hstops : Stops isDigit text)
    (hdecimal : IsDecimal modulus (numeral.sign.text ++ numeral.digits ++
      text.takeWhile fun byte => !isSpace byte)) :
    numeral.sign = .none ∧ Ends text := by
  constructor
  · cases hsign : numeral.sign with
    | none => rfl
    | plus => cases hdecimal.all_digits 43 (by simp [hsign, Sign.text])
    | minus => cases hdecimal.all_digits 45 (by simp [hsign, Sign.text])
  · cases text with
    | nil => exact stops_nil
    | cons byte text =>
        refine stops_cons_iff.mpr ?_
        by_contra hsolid
        have hdigit : isDigit byte = true := by
          refine hdecimal.all_digits byte (List.mem_append_right _ ?_)
          have hkept : isSpace byte = false := by simpa using hsolid
          simp [hkept]
        rw [stops_cons_iff.mp hstops] at hdigit
        cases hdigit

/-- Every number is read as it stands there. -/
structure ReadsPlainly (modulus : ℕ) (numerals : List Numeral) (rest : Text) : Prop where
  unsigned : ∀ numeral ∈ numerals, numeral.sign = .none
  ends : Ends rest
  decimal : AllDecimal modulus rest

theorem Reads.plainly (hreads : Reads modulus text numerals rest) (hends : Ends text)
    (hall : AllDecimal modulus text) : ReadsPlainly modulus numerals rest := by
  induction hreads with
  | nil rest => exact ⟨by simp, hends, hall⟩
  | @cons numeral numerals text rest hvalid hstops hrest ih =>
      have hfirst := hall _ (by rw [words_numeral_append hvalid]; exact List.mem_cons_self)
      obtain ⟨hsign, hends'⟩ := plain_of_isDecimal hstops hfirst
      have hplain := ih hends' fun word hmem =>
        hall word (by rw [words_plain_append hvalid hsign hends']; exact .tail _ hmem)
      refine ⟨fun other hmem => ?_, hplain.ends, hplain.decimal⟩
      rcases List.mem_cons.mp hmem with rfl | hlater
      · exact hsign
      · exact hplain.unsigned other hlater

/-- Behind a digit, an unsigned numeral needs a gap. -/
theorem Reads.ends (hreads : Reads modulus text numerals rest)
    (hplain : ReadsPlainly modulus numerals rest) (hstops : Stops isDigit text) : Ends text := by
  cases hreads with
  | nil => exact hplain.ends
  | @cons numeral numerals text rest hvalid hstops' hrest =>
      have hsign := hplain.unsigned numeral (by simp)
      rw [Numeral.text, hsign, Sign.text, List.append_nil] at hstops ⊢
      cases hgap : numeral.gap with
      | cons byte gap =>
          have hspace : isSpace byte = true := hvalid.gap byte (by simp [hgap])
          exact stops_cons_iff.mpr (by simp [hspace])
      | nil =>
          cases hdigits : numeral.digits with
          | nil => exact absurd hdigits hvalid.decimal.nonempty
          | cons byte digits =>
              have hdigit := hvalid.decimal.all_digits byte (by simp [hdigits])
              rw [hgap, hdigits] at hstops
              rw [stops_cons_iff.mp hstops] at hdigit
              cases hdigit

theorem Reads.words_eq (hreads : Reads modulus text numerals rest)
    (hplain : ReadsPlainly modulus numerals rest) :
    words text = numerals.map Numeral.digits ++ words rest := by
  induction hreads with
  | nil rest => rfl
  | @cons numeral numerals text rest hvalid hstops hrest ih =>
      have hlater : ReadsPlainly modulus numerals rest :=
        ⟨fun other hmem => hplain.unsigned other (.tail _ hmem), hplain.ends, hplain.decimal⟩
      rw [words_plain_append hvalid (hplain.unsigned numeral (by simp))
        (hrest.ends hlater hstops), ih hlater]
      rfl

theorem Reads.isDecimal (hreads : Reads modulus text numerals rest) :
    ∀ numeral ∈ numerals, IsDecimal modulus numeral.digits := by
  induction hreads with
  | nil => simp
  | cons hvalid hstops hrest ih => simpa using ⟨hvalid.decimal, ih⟩

theorem ReadsPlainly.values_eq (hplain : ReadsPlainly modulus numerals rest) :
    numerals.map (Numeral.value modulus) =
      (numerals.map Numeral.digits).map decimalValue := by
  rw [List.map_map]
  refine List.map_congr_left fun numeral hmem => ?_
  rw [Numeral.value, hplain.unsigned numeral hmem]
  rfl

end Many

end StreamExtraction
