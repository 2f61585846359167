import Scriptlet.Json.Basic
import Scriptlet.Numeral
import Scriptlet.Text.Reading
import Scriptlet.Text.Search

/-!
# Reading JSON

The strict reader of JSON text: one value with blanks around it and nothing else. A numeral without
fraction and exponent is an integer if 64 bits hold it, with or without sign, and a double
otherwise; minus zero is a double. A numeral without a finite double, half of a surrogate pair on
its own and nesting past a limit are refused. Of members with the same name the last one stays.

The `Rules` of a reader are what its users choose: the limit, and how a double is made of a numeral.
-/

set_option autoImplicit false

namespace Scriptlet.Json

open Text

/-- Why a text is not JSON. -/
inductive Malformed where
  | endOfText
  | unexpected (c : Char)
  | trailing (c : Char)
  | leadingZero
  | outOfRange
  | controlCharacter
  | escape
  | loneSurrogate
  | tooDeep

namespace Malformed

/-- The reason in words. -/
def message : Malformed → String
  | endOfText => "the text ends too early"
  | unexpected c => s!"unexpected character {c}"
  | trailing c => s!"unexpected character {c} after the value"
  | leadingZero => "a number starts with a zero that does not count"
  | outOfRange => "a number is out of range"
  | controlCharacter => "a string holds a control character"
  | escape => "a string holds an escape that means nothing"
  | loneSurrogate => "a string holds half of a surrogate pair"
  | tooDeep => "values are nested too deeply"

end Malformed

/-- What the users of a reader choose: how many arrays and objects it accepts in one another, and the
double that it makes of a numeral with a sign, if there is one. -/
structure Rules where
  depth : Nat
  double? : Numeral → Bool → Option Double

/-- The blanks of JSON. -/
def isSpace (c : Char) : Bool :=
  c = ' ' || c = '\n' || c = '\t' || c = '\r'

/-- The text from its first character that is not a blank of JSON. -/
def skipSpace (text : List Char) : List Char :=
  text.dropWhile isSpace

theorem length_skipSpace_le (text : List Char) : (skipSpace text).length ≤ text.length :=
  (List.dropWhile_suffix _).length_le

theorem shorter_of_skipSpace {text rest : List Char} {c : Char} (h : skipSpace text = c :: rest) :
    rest.length < text.length := by
  have := length_skipSpace_le text
  rw [h, List.length_cons] at this
  omega

/-- An outcome of reading at the start of a text. -/
abbrev Read (α : Type) (text : List Char) := Except Malformed (Reading α text)

/-! ## Strings -/

/-- The value of a hexadecimal digit. -/
def hexValue? (c : Char) : Option Nat :=
  if '0' ≤ c && c ≤ '9' then some (c.toNat - '0'.toNat)
  else if 'a' ≤ c && c ≤ 'f' then some (c.toNat - 'a'.toNat + 10)
  else if 'A' ≤ c && c ≤ 'F' then some (c.toNat - 'A'.toNat + 10)
  else none

/-- The value of four hexadecimal digits. -/
def hexQuad? (a b c d : Char) : Option Nat := do
  let a ← hexValue? a
  let b ← hexValue? b
  let c ← hexValue? c
  let d ← hexValue? d
  pure (((a * 16 + b) * 16 + c) * 16 + d)

/-- The character that a letter stands for after a backslash. -/
def unescape? : Char → Option Char
  | '"' => some '"'
  | '\\' => some '\\'
  | '/' => some '/'
  | 'b' => some '\x08'
  | 'f' => some '\x0c'
  | 'n' => some '\n'
  | 'r' => some '\r'
  | 't' => some '\t'
  | _ => none

/-- One character in front of what is read after it. -/
def prepend {rest text : List Char} (c : Char) (tail : Read (List Char) rest)
    (h : rest.length < text.length) : Read (List Char) text :=
  tail.map fun reading =>
    ⟨c :: reading.value, reading.rest, Nat.lt_trans reading.shorter h⟩

/-- The characters of a string whose opening quote has been read, up to the closing one. -/
def readString : (text : List Char) → Read (List Char) text
  | [] => .error .endOfText
  | '"' :: rest => .ok ⟨[], rest, by simp⟩
  | '\\' :: 'u' :: a :: b :: c :: d :: rest =>
    match hexQuad? a b c d with
    | none => .error .escape
    | some unit =>
      if 0xD800 ≤ unit ∧ unit < 0xDC00 then
        match rest with
        | '\\' :: 'u' :: e :: f :: g :: h :: rest =>
          match hexQuad? e f g h with
          | none => .error .escape
          | some low =>
            if 0xDC00 ≤ low ∧ low < 0xE000 then
              prepend (Char.ofNat (0x10000 + (unit - 0xD800) * 0x400 + (low - 0xDC00)))
                (readString rest) (by simp only [List.length_cons]; omega)
            else .error .loneSurrogate
        | _ => .error .loneSurrogate
      else if 0xDC00 ≤ unit ∧ unit < 0xE000 then .error .loneSurrogate
      else prepend (Char.ofNat unit) (readString rest) (by simp only [List.length_cons]; omega)
  | '\\' :: c :: rest =>
    match unescape? c with
    | some c => prepend c (readString rest) (by simp only [List.length_cons]; omega)
    | none => .error .escape
  | c :: rest =>
    if c.toNat < 0x20 then .error .controlCharacter
    else prepend c (readString rest) (by simp)

/-! ## Numbers -/

/-- The number that a numeral denotes with a sign. -/
def Rules.number? (rules : Rules) (negative : Bool) (n : Numeral) : Option Number :=
  if n.isWhole && !(negative && ofDigits n.whole = 0) then
    match Number.ofInt? (n.toInt negative) with
    | some value => some value
    | none => (rules.double? n negative).map .double
  else (rules.double? n negative).map .double

/-- The number at the start of a text without sign. -/
def readUnsigned (rules : Rules) (negative : Bool) : (text : List Char) → Read Json text
  | [] => .error .endOfText
  | c :: rest =>
    if h : isDigit c then
      let scanned := Numeral.scan (c :: rest)
      match scanned.1.whole with
      | '0' :: _ :: _ => .error .leadingZero
      | _ =>
        match rules.number? negative scanned.1 with
        | some value => .ok ⟨.number value, scanned.2, Numeral.length_scan_lt h⟩
        | none => .error .outOfRange
    else .error (.unexpected c)

/-- The number at the start of a text. -/
def readNumber (rules : Rules) : (text : List Char) → Read Json text
  | '-' :: rest => (readUnsigned rules true rest).map (·.widen (by simp))
  | text => readUnsigned rules false text

/-! ## Values -/

/-- A word at the start of a text, which stands for the value. -/
def readWord (word : String) (value : Json) (text : List Char) : Read Json text :=
  match h : after? word.toList text with
  | some rest =>
    if hw : 0 < word.toList.length then
      .ok ⟨value, rest, by have := length_after? h; omega⟩
    else .error .endOfText
  | none =>
    match text with
    | c :: _ => .error (.unexpected c)
    | [] => .error .endOfText

mutual

/-- The value at the start of a text, with at most `depth` arrays and objects in one another. -/
def readValue (rules : Rules) (depth : Nat) (text : List Char) : Read Json text :=
  match h : skipSpace text with
  | '[' :: rest =>
    have inner := shorter_of_skipSpace h
    match depth with
    | 0 => .error .tooDeep
    | depth + 1 =>
      match h' : skipSpace rest with
      | ']' :: after => .ok ⟨.array [], after, Nat.lt_trans (shorter_of_skipSpace h') inner⟩
      | _ =>
        (readItems rules depth rest).map fun items =>
          (items.withValue (.array items.value)).widen (Nat.le_of_lt inner)
  | '\x7b' :: rest =>
    have inner := shorter_of_skipSpace h
    match depth with
    | 0 => .error .tooDeep
    | depth + 1 =>
      match h' : skipSpace rest with
      | '\x7d' :: after => .ok ⟨.object [], after, Nat.lt_trans (shorter_of_skipSpace h') inner⟩
      | _ =>
        (readMembers rules depth rest).map fun members =>
          (members.withValue (.object (Table.ofList members.value))).widen (Nat.le_of_lt inner)
  | '"' :: rest =>
    (readString rest).map fun s =>
      (s.withValue (.string (String.ofList s.value))).widen
        (Nat.le_of_lt (shorter_of_skipSpace h))
  | 'n' :: rest => (readWord "null" .null ('n' :: rest)).map (·.widen (h ▸ length_skipSpace_le text))
  | 't' :: rest =>
    (readWord "true" (.bool true) ('t' :: rest)).map (·.widen (h ▸ length_skipSpace_le text))
  | 'f' :: rest =>
    (readWord "false" (.bool false) ('f' :: rest)).map (·.widen (h ▸ length_skipSpace_le text))
  | other => (readNumber rules other).map (·.widen (h ▸ length_skipSpace_le text))
termination_by (text.length, 1)

/-- The items of an array from one on, up to the closing bracket. -/
def readItems (rules : Rules) (depth : Nat) (text : List Char) : Read (List Json) text :=
  match readValue rules depth text with
  | .error e => .error e
  | .ok item =>
    match h : skipSpace item.rest with
    | ',' :: rest =>
      have shorter := Nat.lt_trans (shorter_of_skipSpace h) item.shorter
      (readItems rules depth rest).map fun items =>
        (items.withValue (item.value :: items.value)).widen (Nat.le_of_lt shorter)
    | ']' :: rest => .ok ⟨[item.value], rest, Nat.lt_trans (shorter_of_skipSpace h) item.shorter⟩
    | c :: _ => .error (.unexpected c)
    | [] => .error .endOfText
termination_by (text.length, 2)

/-- The members of an object from one on, up to the closing brace. -/
def readMembers (rules : Rules) (depth : Nat) (text : List Char) : Read (List (String × Json)) text :=
  match h : skipSpace text with
  | '"' :: rest =>
    match readString rest with
    | .error e => .error e
    | .ok name =>
      have named := Nat.lt_trans name.shorter (shorter_of_skipSpace h)
      match h' : skipSpace name.rest with
      | ':' :: rest =>
        have valued := Nat.lt_trans (shorter_of_skipSpace h') named
        match readValue rules depth rest with
        | .error e => .error e
        | .ok item =>
          have ended := Nat.lt_trans item.shorter valued
          let entry := (String.ofList name.value, item.value)
          match h'' : skipSpace item.rest with
          | ',' :: rest =>
            have shorter := Nat.lt_trans (shorter_of_skipSpace h'') ended
            (readMembers rules depth rest).map fun members =>
              (members.withValue (entry :: members.value)).widen (Nat.le_of_lt shorter)
          | '\x7d' :: rest =>
            .ok ⟨[entry], rest, Nat.lt_trans (shorter_of_skipSpace h'') ended⟩
          | c :: _ => .error (.unexpected c)
          | [] => .error .endOfText
      | c :: _ => .error (.unexpected c)
      | [] => .error .endOfText
  | c :: _ => .error (.unexpected c)
  | [] => .error .endOfText
termination_by (text.length, 2)

end

/-- The value that a whole text spells. -/
def parse (rules : Rules) (text : String) : Except Malformed Json :=
  match readValue rules rules.depth text.toList with
  | .error e => .error e
  | .ok reading =>
    match skipSpace reading.rest with
    | [] => .ok reading.value
    | c :: _ => .error (.trailing c)

end Scriptlet.Json
