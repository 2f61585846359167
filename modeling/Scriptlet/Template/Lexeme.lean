import Scriptlet.Fault
import Scriptlet.Numeral
import Scriptlet.Text.Names
import Scriptlet.Text.Reading
import Scriptlet.Text.Search

/-!
# Lexemes

The smallest parts of a template: marks, names, numerals and quoted texts. Each is read at the very
start of a text. What cannot be read is reported with the text from the place of the failure on,
which fixes the place.

In a quoted text a backslash escapes the character after it: six letters and signs have a meaning,
and before any other character the backslash stands for itself.
-/

set_option autoImplicit false

namespace Scriptlet.Template

open Text

/-- Why a text cannot be read, and the text from the place where it cannot. -/
structure Failure where
  reason : SyntaxFault
  rest : List Char

/-- Reads something at the start of any text. -/
abbrev Reader (α : Type) := (text : List Char) → Except Failure (Reading α text)

/-- Fails at the start of a text. -/
def failAt {α : Type} (reason : SyntaxFault) (text : List Char) : Except Failure α :=
  .error ⟨reason, text⟩

/-! ## Marks -/

/-- A character at the start of a text, if it is there. -/
def mark? (c : Char) : (text : List Char) → Option (Reading Unit text)
  | [] => none
  | d :: rest => if d = c then some ⟨(), rest, Nat.lt_succ_self _⟩ else none

/-- A character that has to be at the start of a text. -/
def mark (c : Char) (reason : SyntaxFault) : Reader Unit := fun text =>
  match mark? c text with
  | some reading => .ok reading
  | none => failAt reason text

/-- A closing character, perhaps after blanks. -/
def closing (c : Char) : Reader Unit := fun text =>
  (mark c (.expected c) (skipBlanks text)).map Reading.blanksBefore

/-! ## Names -/

/-- A name, which takes as many characters as it can. -/
def name : Reader String
  | [] => failAt .identifierExpected []
  | c :: rest =>
    if isNameStart c then
      .ok ⟨String.ofList (c :: rest.takeWhile isNamePart), rest.dropWhile isNamePart,
        Nat.lt_succ_of_le (List.dropWhile_suffix _).length_le⟩
    else failAt .identifierExpected (c :: rest)

/-! ## Numerals -/

/-- Whether a text starts with a digit. -/
def startsWithDigit : List Char → Bool
  | [] => false
  | c :: _ => isDigit c

/-- The number that a numeral denotes with a sign: an integer if it is written without fraction and
exponent, otherwise a double. -/
def numberOf (negative : Bool) (numeral : Numeral) : Except SyntaxFault Number :=
  if numeral.isWhole then
    match int64? (numeral.toInt negative) with
    | some i => .ok (.int i)
    | none => .error .integerOutOfRange
  else
    match numeral.double? negative with
    | some d => .ok (.double d)
    | none => .error .doubleOutOfRange

/-- The longest numeral, of which the sign has been read before. -/
def numeral (negative : Bool) : Reader Number
  | [] => failAt .operandExpected []
  | c :: rest =>
    if h : isDigit c then
      match numberOf negative (Numeral.scan (c :: rest)).1 with
      | .ok value => .ok ⟨value, (Numeral.scan (c :: rest)).2, Numeral.length_scan_lt h⟩
      | .error reason => failAt reason (c :: rest)
    else failAt .operandExpected (c :: rest)

/-! ## Quoted texts -/

/-- What a character stands for after a backslash. -/
def unescape : Char → List Char
  | 'n' => ['\n']
  | 't' => ['\t']
  | 'r' => ['\r']
  | '\\' => ['\\']
  | '"' => ['"']
  | '\'' => ['\'']
  | c => ['\\', c]

/-- The characters up to the next quote that is not escaped, and the rest after it. -/
def quotedRest? (quote : Char) : (text : List Char) → Option (Reading (List Char) text)
  | [] => none
  | '\\' :: c :: rest =>
    (quotedRest? quote rest).map fun tail =>
      ⟨unescape c ++ tail.value, tail.rest,
        Nat.lt_trans tail.shorter (Nat.lt_trans (Nat.lt_succ_self _) (Nat.lt_succ_self _))⟩
  | c :: rest =>
    if c = quote then some ⟨[], rest, Nat.lt_succ_self _⟩
    else
      (quotedRest? quote rest).map fun tail =>
        ⟨c :: tail.value, tail.rest, Nat.lt_trans tail.shorter (Nat.lt_succ_self _)⟩

/-- A quoted text, which starts with its quote. -/
def quoted : Reader String
  | [] => failAt .unterminatedString []
  | quote :: rest =>
    match quotedRest? quote rest with
    | some tail =>
      .ok ⟨String.ofList tail.value, tail.rest, Nat.lt_trans tail.shorter (Nat.lt_succ_self _)⟩
    | none => failAt .unterminatedString (quote :: rest)

end Scriptlet.Template
