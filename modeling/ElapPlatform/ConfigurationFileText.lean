import ElapPlatform.PlatformBasics
import ElapPlatform.StreamExtraction
import Mathlib.Data.List.DropRight
import Mathlib.Tactic

/-!
# The text of a configuration file

Both configuration classes read a file line by line, and both turn stored text
into integers and Booleans.  Each class has its own copy of this code; the copies
differ in what they do with an accepted pair only, which is a parameter here.
-/

namespace ElapPlatform.Config

open StreamExtraction (isSpace isDigit decimalValue)

/-! ## Characters -/

def tolower (byte : UInt8) : UInt8 := if 65 ≤ byte && byte ≤ 90 then byte + 32 else byte

def trim (text : Bytes) : Bytes := (text.dropWhile isSpace).rdropWhile isSpace

def lower (text : Bytes) : Bytes := text.map tolower

theorem trim_subset {text : Bytes} {byte : UInt8} (hmem : byte ∈ trim text) : byte ∈ text :=
  (List.dropWhile_sublist isSpace).subset ((List.rdropWhile_prefix _ _).subset hmem)

/-! ## Lines -/

inductive StreamEnding where
  | endOfFile
  | readError
  deriving DecidableEq, Repr

/-- What an opened stream delivers, and why it then delivers no more. -/
structure FileStream where
  content : Bytes
  ending : StreamEnding
  deriving DecidableEq, Repr

/-- The last line needs no newline at the end of the file.  A read error sets the
badbit, and `std::getline` drops what it has extracted of the line. -/
def lastLine (line : Bytes) : StreamEnding → List Bytes
  | .endOfFile => if line.isEmpty then [] else [line]
  | .readError => []

def linesFrom (ending : StreamEnding) : Bytes → Bytes → List Bytes
  | line, [] => lastLine line ending
  | line, byte :: rest =>
      if byte = 10 then line :: linesFrom ending [] rest
      else linesFrom ending (line ++ [byte]) rest

/-- The lines for which `std::getline` succeeds. -/
def FileStream.lines (file : FileStream) : List Bytes := linesFrom file.ending [] file.content

theorem mem_linesFrom {ending : StreamEnding} {line content : Bytes} {found : Bytes}
    (hfound : found ∈ linesFrom ending line content) {byte : UInt8} (hbyte : byte ∈ found) :
    byte ∈ line ∨ byte ∈ content := by
  induction content generalizing line with
  | nil =>
      cases ending with
      | endOfFile =>
          change found ∈ (if line.isEmpty = true then [] else [line]) at hfound
          split at hfound
          · cases hfound
          · rw [List.mem_singleton.mp hfound] at hbyte
            exact .inl hbyte
      | readError => cases hfound
  | cons next content ih =>
      unfold linesFrom at hfound
      split at hfound
      · rcases List.mem_cons.mp hfound with rfl | hfound
        · exact .inl hbyte
        · rcases ih hfound with hnone | hmem
          · cases hnone
          · exact .inr (List.mem_cons_of_mem next hmem)
      · rcases ih hfound with hline | hmem
        · rcases List.mem_append.mp hline with hline | hnext
          · exact .inl hline
          · rw [List.mem_singleton.mp hnext]
            exact .inr List.mem_cons_self
        · exact .inr (List.mem_cons_of_mem next hmem)

/-! ## Pairs -/

/-- `std::string::find` -/
def find (text : Bytes) (byte : UInt8) : Option ℕ := text.idxOf? byte

def eraseComment (line : Bytes) : Bytes :=
  match find line 35 with
  | some commentPosition => line.take commentPosition
  | none => line

def invalidLine (lineNumber : ℕ) (problem : String) : ErrorText :=
  .message ("invalid configuration line " ++ toString lineNumber ++ ": " ++ problem)

/-- One turn of the loop.  A line without text has no pair. -/
def parseLine (lineNumber : ℕ) (line : Bytes) : Except ErrorText (Option (Bytes × Bytes)) :=
  let line := trim (eraseComment line)
  if line.isEmpty then .ok none
  else
    match find line 61 with
    | none => .error (invalidLine lineNumber "expected key=value")
    | some separator =>
        let key := trim (line.take separator)
        let value := trim (line.drop (separator + 1))
        if key.isEmpty then .error (invalidLine lineNumber "key is empty")
        else .ok (some (key, value))

/-- `lineNumber` counts the lines before these. -/
def parseLines {Values : Type} (store : Values → Bytes × Bytes → Values) :
    ℕ → Values → List Bytes → Except ErrorText Values
  | _, values, [] => .ok values
  | lineNumber, values, line :: lines =>
      match parseLine (lineNumber + 1) line with
      | .error error => .error error
      | .ok none => parseLines store (lineNumber + 1) values lines
      | .ok (some pair) => parseLines store (lineNumber + 1) (store values pair) lines

/-- `file` is what `path` names, if it can be opened. -/
def parseFile {Values : Type} (store : Values → Bytes × Bytes → Values) (start : Values)
    (path : String) (file : Option FileStream) : Except ErrorText Values :=
  match file with
  | none => .error (.message ("failed to open configuration file: " ++ path))
  | some stream => parseLines store 0 start stream.lines

section Parsing

variable {Values : Type} {store : Values → Bytes × Bytes → Values}

theorem parseLines_ok {lineNumber : ℕ} {start : Values} {line : Bytes} {lines : List Bytes}
    {pair : Option (Bytes × Bytes)} (hline : parseLine (lineNumber + 1) line = .ok pair) :
    parseLines store lineNumber start (line :: lines) =
      parseLines store (lineNumber + 1) (pair.toList.foldl store start) lines := by
  rw [parseLines, hline]
  cases pair <;> rfl

/-- A line that the parser accepts, wherever it stands. -/
def WellFormed (line : Bytes) : Prop := ∀ lineNumber, ∃ pair, parseLine lineNumber line = .ok pair

theorem parseLines_of_wellFormed {lines : List Bytes} (hlines : ∀ line ∈ lines, WellFormed line)
    (lineNumber : ℕ) (start : Values) :
    ∃ values, parseLines store lineNumber start lines = .ok values := by
  induction lines generalizing lineNumber start with
  | nil => exact ⟨start, rfl⟩
  | cons line lines ih =>
      obtain ⟨pair, hpair⟩ := hlines line List.mem_cons_self (lineNumber + 1)
      rw [parseLines_ok hpair]
      exact ih (fun other hmem => hlines other (List.mem_cons_of_mem line hmem)) _ _

/-- Whatever the pairs are stored in, the same files are accepted, and the values are
those of the list of pairs. -/
theorem parseLines_eq_pairs (lineNumber : ℕ) (start : Values) (pairs : List (Bytes × Bytes))
    (lines : List Bytes) :
    parseLines store lineNumber (pairs.foldl store start) lines =
      (parseLines (fun pairs pair => pairs ++ [pair]) lineNumber pairs lines).map
        (·.foldl store start) := by
  induction lines generalizing lineNumber pairs with
  | nil => rfl
  | cons line lines ih =>
      cases hline : parseLine (lineNumber + 1) line with
      | error error =>
          unfold parseLines
          rw [hline]
          rfl
      | ok pair =>
          rw [parseLines_ok hline, parseLines_ok hline]
          cases pair with
          | none => exact ih _ _
          | some pair =>
              have hrest := ih (lineNumber + 1) (pairs ++ [pair])
              rw [List.foldl_append] at hrest
              exact hrest

theorem parseFile_eq_pairs (start : Values) (path : String) (file : Option FileStream) :
    parseFile store start path file =
      (parseFile (fun pairs pair => pairs ++ [pair]) [] path file).map (·.foldl store start) := by
  cases file with
  | none => rfl
  | some stream => exact parseLines_eq_pairs 0 start [] stream.lines

/-- Every byte of a pair stands in its line. -/
theorem parseLine_subset {lineNumber : ℕ} {line : Bytes} {pair : Bytes × Bytes}
    (hline : parseLine lineNumber line = .ok (some pair)) {byte : UInt8}
    (hbyte : byte ∈ pair.1 ∨ byte ∈ pair.2) : byte ∈ line := by
  have hcontent : ∀ {byte}, byte ∈ trim (eraseComment line) → byte ∈ line := by
    intro byte hmem
    have herased := trim_subset hmem
    unfold eraseComment at herased
    split at herased
    · exact List.mem_of_mem_take herased
    · exact herased
  unfold parseLine at hline
  dsimp only at hline
  split at hline
  · cases hline
  split at hline
  · cases hline
  split at hline
  · cases hline
  cases hline
  rcases hbyte with hkey | hvalue
  · exact hcontent (List.mem_of_mem_take (trim_subset hkey))
  · exact hcontent (List.mem_of_mem_drop (trim_subset hvalue))

def PairsNulFree (pairs : List (Bytes × Bytes)) : Prop :=
  ∀ pair ∈ pairs, NulFree pair.1 ∧ NulFree pair.2

theorem parseLines_nulFree {lineNumber : ℕ} {pairs result : List (Bytes × Bytes)}
    {lines : List Bytes} (hlines : ∀ line ∈ lines, NulFree line) (hpairs : PairsNulFree pairs)
    (hresult : parseLines (fun pairs pair => pairs ++ [pair]) lineNumber pairs lines =
      .ok result) : PairsNulFree result := by
  induction lines generalizing lineNumber pairs with
  | nil =>
      cases hresult
      exact hpairs
  | cons line lines ih =>
      have hline := hlines line List.mem_cons_self
      have hrest := fun other hmem => hlines other (List.mem_cons_of_mem line hmem)
      cases hparsed : parseLine (lineNumber + 1) line with
      | error error =>
          unfold parseLines at hresult
          rw [hparsed] at hresult
          cases hresult
      | ok pair =>
          rw [parseLines_ok hparsed] at hresult
          refine ih hrest ?_ hresult
          cases pair with
          | none => exact hpairs
          | some pair =>
              intro other hmem
              rcases List.mem_append.mp hmem with hmem | hmem
              · exact hpairs other hmem
              · rw [List.mem_singleton.mp hmem]
                exact ⟨fun hzero => hline (parseLine_subset hparsed (.inl hzero)),
                  fun hzero => hline (parseLine_subset hparsed (.inr hzero))⟩

theorem parseFile_nulFree {stream : FileStream} (hfree : NulFree stream.content)
    {path : String} {pairs : List (Bytes × Bytes)}
    (hpairs : parseFile (fun pairs pair => pairs ++ [pair]) [] path (some stream) = .ok pairs) :
    PairsNulFree pairs := by
  refine parseLines_nulFree (fun line hline hzero => ?_) (List.forall_mem_nil _) hpairs
  rcases mem_linesFrom hline hzero with hnone | hmem
  · cases hnone
  · exact hfree hmem

end Parsing

/-! ## Numbers and Booleans -/

/-- The value and `parsedCharacters` of `std::stoi`, or nothing where it throws. -/
def stoi (text : Bytes) : Option (ℤ × ℕ) :=
  let spaces := text.takeWhile isSpace
  let rest := text.dropWhile isSpace
  let sign : Bytes := match rest with
    | 45 :: _ => [45]
    | 43 :: _ => [43]
    | _ => []
  let digits := (rest.drop sign.length).takeWhile isDigit
  let value : ℤ := if sign = [45] then -decimalValue digits else decimalValue digits
  if digits.isEmpty then none
  else if value < -2 ^ 31 ∨ 2 ^ 31 - 1 < value then none
  else some (value, spaces.length + sign.length + digits.length)

def intOf (text : Bytes) (defaultValue : ℤ) : ℤ :=
  match stoi text with
  | some (value, parsedCharacters) =>
      if parsedCharacters = text.length then value else defaultValue
  | none => defaultValue

/-- `"true"`, `"1"`, `"yes"` and `"on"` -/
def trueTexts : List Bytes := [[116, 114, 117, 101], [49], [121, 101, 115], [111, 110]]

/-- `"false"`, `"0"`, `"no"` and `"off"` -/
def falseTexts : List Bytes := [[102, 97, 108, 115, 101], [48], [110, 111], [111, 102, 102]]

def boolOf (text : Bytes) (defaultValue : Bool) : Bool :=
  let value := lower (trim text)
  if value ∈ trueTexts then true
  else if value ∈ falseTexts then false
  else defaultValue

end ElapPlatform.Config
