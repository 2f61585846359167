import Mathlib.Tactic.SplitIfs
import Scriptlet.Proofs.Number.Range
import Scriptlet.Proofs.Text.Characters
import Scriptlet.Template.Lexeme

/-!
# What the lexeme readers take

`Reads reader text value rest` says that a reader takes a value from the start of a text and leaves
the rest; it forgets the proof that the rest is shorter, so a text may be rewritten in it.

Each lexeme reads back from its spelling whatever follows, as long as what follows does not carry
the lexeme on: a name stops at what cannot stand in a name (`reads_name`), a run of digits stops at
what is neither a digit nor a fraction nor an exponent (`reads_numeral`). A quoted text ends with its
quote and needs no such condition (`reads_quoted`).
-/

set_option autoImplicit false

namespace Scriptlet.Template

open Text

variable {α : Type}

/-- The reader takes the value from the start of the text and leaves the rest. -/
def Reads (reader : Reader α) (text : List Char) (value : α) (rest : List Char) : Prop :=
  ∃ shorter, reader text = .ok ⟨value, rest, shorter⟩

/-! ## Marks -/

theorem mark?_of_eq {c : Char} {text rest : List Char} (h : text = c :: rest) :
    ∃ shorter, mark? c text = some ⟨(), rest, shorter⟩ := by
  subst h
  exact ⟨Nat.lt_succ_self _, by rw [mark?, if_pos rfl]⟩

theorem mark?_eq_none {c : Char} {text : List Char} (h : ∀ d ∈ text.head?, d ≠ c) :
    mark? c text = none := by
  cases text with
  | nil => rfl
  | cons d rest => rw [mark?, if_neg (h d rfl)]

/-- A mark that has to be there is read where it is. -/
theorem reads_mark {c : Char} {text rest : List Char} (reason : SyntaxFault)
    (h : text = c :: rest) : Reads (mark c reason) text () rest := by
  obtain ⟨shorter, found⟩ := mark?_of_eq h
  exact ⟨shorter, by simp only [mark, found]⟩

/-- A closing mark is read after the blanks before it. -/
theorem reads_closing {c : Char} {text rest : List Char} (h : skipBlanks text = c :: rest) :
    Reads (closing c) text () rest := by
  obtain ⟨shorter, found⟩ := reads_mark (.expected c) h
  exact ⟨Nat.lt_of_lt_of_le shorter (length_skipBlanks_le text),
    by simp only [closing, found]; rfl⟩

/-! ## Names -/

/-- Whether a text is a name as a whole. -/
def isName (text : String) : Bool :=
  match text.toList with
  | [] => false
  | c :: rest => isNameStart c && rest.all isNamePart

theorem isName_iff {text : String} : isName text = true ↔
    ∃ c rest, text.toList = c :: rest ∧ isNameStart c = true ∧ ∀ d ∈ rest, isNamePart d = true := by
  unfold isName
  cases text.toList with
  | nil => simp
  | cons c rest => simp [and_assoc]

theorem isNamePart_of_mem {text : String} (valid : isName text = true) {c : Char} (member : c ∈ text.toList) :
    isNamePart c = true := by
  obtain ⟨d, tail, chars, start, parts⟩ := isName_iff.mp valid
  rw [chars, List.mem_cons] at member
  rcases member with rfl | later
  · exact isNamePart_of_isNameStart start
  · exact parts c later

/-- A name reads back before anything that cannot stand in a name. -/
theorem reads_name {text : String} {rest : List Char} (valid : isName text = true)
    (stop : Stops isNamePart rest) : Reads name (text.toList ++ rest) text rest := by
  obtain ⟨c, tail, chars, start, parts⟩ := isName_iff.mp valid
  have taken := takeWhile_append_of_stop parts stop
  have left := dropWhile_append_of_stop parts stop
  have whole : String.ofList (c :: tail) = text := by rw [← chars, String.ofList_toList]
  rw [chars, List.cons_append]
  refine ⟨by simp only [List.length_cons, List.length_append]; omega, ?_⟩
  simp only [name, if_pos start, taken, left, whole]

/-- What is read as a name is a name, and stops where no name goes on. -/
theorem reads_name_iff {text rest : List Char} {word : String} : Reads name text word rest ↔
    isName word = true ∧ text = word.toList ++ rest ∧ Stops isNamePart rest := by
  constructor
  · rintro ⟨shorter, read⟩
    cases text with
    | nil => cases read
    | cons c tail =>
      rw [name] at read
      split at read
      · rename_i start
        cases read
        have parts : ∀ d ∈ tail.takeWhile isNamePart, isNamePart d = true :=
          List.all_eq_true.mp List.all_takeWhile
        refine ⟨isName_iff.mpr ⟨c, _, String.toList_ofList, start, parts⟩, ?_, stops_dropWhile tail⟩
        rw [String.toList_ofList, List.cons_append, List.takeWhile_append_dropWhile]
      · cases read
  · rintro ⟨valid, rfl, stop⟩
    exact reads_name valid stop

/-- A name starts with a character that may start one. -/
theorem exists_start_of_reads_name {text rest : List Char} {word : String}
    (read : Reads name text word rest) :
    ∃ c tail, text = c :: tail ∧ isNameStart c = true := by
  obtain ⟨valid, rfl, -⟩ := reads_name_iff.mp read
  obtain ⟨c, tail, chars, start, -⟩ := isName_iff.mp valid
  exact ⟨c, tail ++ rest, by rw [chars, List.cons_append], start⟩

/-! ## Numerals -/

/-- What does not carry a run of digits on: no further digit, no fraction and no exponent. -/
structure EndsDigits (rest : List Char) : Prop where
  digits : Stops isDigit rest
  fraction : ∀ c tail, rest = '.' :: c :: tail → isDigit c = false
  exponent : Stops (fun c => c = 'e' || c = 'E') rest

theorem endsDigits_nil : EndsDigits [] :=
  ⟨nofun, nofun, nofun⟩

theorem scanFraction_eq_nil {rest : List Char} (ends : EndsDigits rest) :
    Numeral.scanFraction rest = ([], rest) := by
  unfold Numeral.scanFraction
  split
  · rename_i tail
    cases tail with
    | nil => rfl
    | cons c tail => simp [ends.fraction c tail rfl]
  · rfl

theorem scanExponent_eq_none {rest : List Char} (ends : EndsDigits rest) :
    Numeral.scanExponent rest = (none, rest) := by
  cases rest with
  | nil => rfl
  | cons c tail =>
    have other := ends.exponent c rfl
    simp only [Numeral.scanExponent, other, Bool.false_eq_true, if_false]

/-- A run of digits is scanned as a whole number. -/
theorem scan_append {digits rest : List Char} (all : ∀ c ∈ digits, isDigit c = true)
    (ends : EndsDigits rest) : Numeral.scan (digits ++ rest) = (⟨digits, [], none⟩, rest) := by
  simp only [Numeral.scan, takeWhile_append_of_stop all ends.digits,
    dropWhile_append_of_stop all ends.digits, scanFraction_eq_nil ends, scanExponent_eq_none ends]

theorem numberOf_whole {n : Numeral} (whole : n.isWhole = true) {negative : Bool} {i : Int64}
    (fits : int64? (n.toInt negative) = some i) : numberOf negative n = .ok (.int i) := by
  rw [numberOf, if_pos whole, fits]

theorem numberOf_whole_error {n : Numeral} (whole : n.isWhole = true) {negative : Bool}
    (outside : ¬Fits (n.toInt negative)) : numberOf negative n = .error .integerOutOfRange := by
  rw [numberOf, if_pos whole, int64?_eq_none_iff.mpr outside]

/-- From a digit on, a numeral is read as the number that it denotes. -/
theorem reads_of_numberOf {negative : Bool} {text : List Char} {value : Number}
    (digit : startsWithDigit text = true) (number : numberOf negative (Numeral.scan text).1 = .ok value) :
    Reads (numeral negative) text value (Numeral.scan text).2 := by
  cases text with
  | nil => cases digit
  | cons c tail =>
    have isDigit_ : isDigit c = true := digit
    exact ⟨Numeral.length_scan_lt isDigit_, by simp only [numeral, dif_pos isDigit_, number]⟩

/-- A numeral that denotes no number is rejected at its first digit. -/
theorem numeral_eq_failAt {negative : Bool} {text : List Char} {reason : SyntaxFault}
    (digit : startsWithDigit text = true) (number : numberOf negative (Numeral.scan text).1 = .error reason) :
    numeral negative text = failAt reason text := by
  cases text with
  | nil => cases digit
  | cons c tail =>
    have isDigit_ : isDigit c = true := digit
    simp only [numeral, dif_pos isDigit_, number]

/-- Only from a digit on is a numeral read, and it is the number that it denotes. -/
theorem reads_numeral_iff {negative : Bool} {text rest : List Char} {value : Number} :
    Reads (numeral negative) text value rest ↔ startsWithDigit text = true ∧
      numberOf negative (Numeral.scan text).1 = .ok value ∧ (Numeral.scan text).2 = rest := by
  constructor
  · rintro ⟨shorter, read⟩
    cases text with
    | nil => cases read
    | cons c tail =>
      rw [numeral] at read
      split at read
      · rename_i digit
        split at read
        · rename_i number
          cases read
          exact ⟨digit, number, rfl⟩
        · cases read
      · cases read
  · rintro ⟨digit, number, rfl⟩
    exact reads_of_numberOf digit number

/-- The digits of an integer read back with its sign. -/
theorem reads_numeral {negative : Bool} {digits rest : List Char} {i : Int64}
    (some_ : digits ≠ []) (all : ∀ c ∈ digits, isDigit c = true) (ends : EndsDigits rest)
    (fits : int64? (if negative then -(ofDigits digits : Int) else ofDigits digits) = some i) :
    Reads (numeral negative) (digits ++ rest) (.int i) rest := by
  have digit : startsWithDigit (digits ++ rest) = true := by
    cases digits with
    | nil => exact absurd rfl some_
    | cons c tail => exact all c List.mem_cons_self
  have scanned := scan_append all ends
  have number : numberOf negative (Numeral.scan (digits ++ rest)).1 = .ok (.int i) := by
    rw [scanned]
    exact numberOf_whole rfl fits
  have read := reads_of_numberOf digit number
  rwa [scanned] at read

/-! ## Decimal digits of a number -/

theorem isDigit_of_mem_toDigits {n : Nat} {c : Char} (member : c ∈ toDigits n) :
    isDigit c = true := by
  have digit := Nat.isDigit_of_mem_toDigits (by decide) (by decide) member
  simp only [Char.isDigit, Bool.and_eq_true, decide_eq_true_eq] at digit
  exact isDigit_iff.mpr digit

/-- The digits of a number denote it. -/
theorem ofDigits_toDigits (n : Nat) : ofDigits (toDigits n) = n :=
  Nat.ofDigitChars_ten_toDigits

/-! ## Quoted texts -/

/-- A character as it stands between single quotes. -/
def quotedChar (c : Char) : List Char :=
  if c = '\\' then ['\\', '\\'] else if c = '\'' then ['\\', '\''] else [c]

/-- A text between single quotes, where the quote and the backslash are escaped. -/
def quote (text : String) : List Char :=
  '\'' :: text.toList.flatMap quotedChar ++ ['\'']

/-- From the first character after a quote on, the text stands for the value up to the same quote. -/
def ReadsQuoted (mark : Char) (text value rest : List Char) : Prop :=
  ∃ shorter, quotedRest? mark text = some ⟨value, rest, shorter⟩

theorem readsQuoted_end {mark : Char} (plain : mark ≠ '\\') (rest : List Char) :
    ReadsQuoted mark (mark :: rest) [] rest := by
  refine ⟨Nat.lt_succ_self _, ?_⟩
  rw [quotedRest?, if_pos rfl]
  exact fun _ _ h _ => plain h

theorem readsQuoted_escape {mark : Char} {text value rest : List Char} (c : Char)
    (read : ReadsQuoted mark text value rest) :
    ReadsQuoted mark ('\\' :: c :: text) (unescape c ++ value) rest := by
  obtain ⟨shorter, found⟩ := read
  exact ⟨by simp only [List.length_cons]; omega, by simp only [quotedRest?, found, Option.map_some]⟩

theorem readsQuoted_plain {mark c : Char} {text value rest : List Char} (plain : c ≠ '\\')
    (inside : c ≠ mark) (read : ReadsQuoted mark text value rest) :
    ReadsQuoted mark (c :: text) (c :: value) rest := by
  obtain ⟨shorter, found⟩ := read
  refine ⟨by simp only [List.length_cons]; omega, ?_⟩
  rw [quotedRest?, if_neg inside, found, Option.map_some]
  exact fun _ _ h _ => plain h

/-- A quoted text is read up to the quote that ends it. -/
theorem reads_quoted_iff {mark : Char} {text rest : List Char} {content : String} :
    Reads quoted (mark :: text) content rest ↔ ReadsQuoted mark text content.toList rest := by
  constructor
  · rintro ⟨shorter, read⟩
    rw [quoted] at read
    split at read
    · rename_i inside found
      cases read
      rw [String.toList_ofList]
      exact ⟨inside.shorter, found⟩
    · cases read
  · rintro ⟨shorter, found⟩
    exact ⟨Nat.lt_succ_of_lt shorter, by simp only [quoted, found, String.ofList_toList]⟩

/-- A character as it stands between two quotes of a kind: such a quote and the backslash are escaped. -/
def escapedIn (mark c : Char) : List Char :=
  if c = '\\' ∨ c = mark then ['\\', c] else [c]

/-- A text between two quotes of a kind, where such quotes and the backslashes are escaped. -/
def inQuotes (mark : Char) (text : String) : List Char :=
  mark :: text.toList.flatMap (escapedIn mark) ++ [mark]

/-- The backslash and the quotes stand for themselves behind a backslash. -/
theorem unescape_eq_self {c : Char} (escaped : c = '\\' ∨ c = '\'' ∨ c = '"') : unescape c = [c] := by
  rcases escaped with rfl | rfl | rfl <;> rfl

/-- An escaped text stands for itself up to the quote after it. -/
theorem readsQuoted_flatMap {mark : Char} (quotes : mark = '\'' ∨ mark = '"') (chars rest : List Char) :
    ReadsQuoted mark (chars.flatMap (escapedIn mark) ++ mark :: rest) chars rest := by
  induction chars with
  | nil =>
    have plain : mark ≠ '\\' := by rintro rfl; revert quotes; decide
    exact readsQuoted_end plain rest
  | cons c tail ih =>
    rw [List.flatMap_cons, List.append_assoc, escapedIn]
    split_ifs with escaped
    · have itself : unescape c = [c] :=
        unescape_eq_self (escaped.imp_right fun same => by rwa [same])
      have read := readsQuoted_escape c ih
      rwa [itself] at read
    · rw [not_or] at escaped
      exact readsQuoted_plain escaped.1 escaped.2 ih

theorem inQuotes_append (mark : Char) (text : String) (rest : List Char) : inQuotes mark text ++ rest =
    mark :: (text.toList.flatMap (escapedIn mark) ++ mark :: rest) := by
  rw [inQuotes, List.cons_append, List.cons_append, List.append_assoc, List.singleton_append]

/-- Every text reads back from between quotes of either kind, whatever follows. -/
theorem reads_inQuotes {mark : Char} (quotes : mark = '\'' ∨ mark = '"') (text : String)
    (rest : List Char) : Reads quoted (inQuotes mark text ++ rest) text rest := by
  rw [inQuotes_append]
  exact reads_quoted_iff.mpr (readsQuoted_flatMap quotes text.toList rest)

theorem quotedChar_eq (c : Char) : quotedChar c = escapedIn '\'' c := by
  by_cases backslash : c = '\\'
  · rw [backslash]
    rfl
  · by_cases mark : c = '\''
    · rw [mark]
      rfl
    · simp [quotedChar, escapedIn, backslash, mark]

/-- Literals stand between single quotes. -/
theorem quote_eq (text : String) : quote text = inQuotes '\'' text := by
  rw [quote, inQuotes, funext quotedChar_eq]

theorem quote_append (text : String) (rest : List Char) :
    quote text ++ rest = '\'' :: (text.toList.flatMap (escapedIn '\'') ++ '\'' :: rest) := by
  rw [quote_eq, inQuotes_append]

theorem reads_quoted (text : String) (rest : List Char) :
    Reads quoted (quote text ++ rest) text rest := by
  rw [quote_eq]
  exact reads_inQuotes (.inl rfl) text rest

end Scriptlet.Template
