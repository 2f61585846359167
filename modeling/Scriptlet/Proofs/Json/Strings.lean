import Mathlib.Tactic.SplitIfs
import Scriptlet.Json.Reader
import Scriptlet.Json.Writer

/-!
# JSON strings read back

A string reads back from its text whatever follows (`readsString_flatMap`): each character is written in a
form of its own, which stands for it alone, so the lemmas go by the forms.
-/

set_option autoImplicit false

namespace Scriptlet.Json

/-- After its opening quote, a string is read as the value up to its closing quote. -/
def ReadsString (text value rest : List Char) : Prop :=
  ∃ shorter, readString text = .ok ⟨value, rest, shorter⟩

variable {text value rest : List Char} {c : Char}

theorem readsString_end (rest : List Char) : ReadsString ('"' :: rest) [] rest :=
  ⟨Nat.lt_succ_self _, by rw [readString]⟩

/-- A letter after a backslash stands for one character. -/
theorem readsString_letter {letter : Char} (other : letter ≠ 'u') (stands : unescape? letter = some c)
    (read : ReadsString text value rest) : ReadsString ('\\' :: letter :: text) (c :: value) rest := by
  obtain ⟨shorter, found⟩ := read
  refine ⟨by simp only [List.length_cons]; omega, ?_⟩
  rw [readString]
  · simp only [stands, found]
    rfl
  · intro _ _ _ _ _ same _
    exact other same

/-- A control character stands as the number of its code. -/
theorem readsString_code (control : c.toNat < 0x20) (read : ReadsString text value rest) :
    ReadsString ('\\' :: 'u' :: '0' :: '0' :: hexDigit (c.toNat / 16) :: hexDigit (c.toNat % 16) :: text)
      (c :: value) rest := by
  obtain ⟨shorter, found⟩ := read
  have code : ∀ n < 0x20, hexQuad? '0' '0' (hexDigit (n / 16)) (hexDigit (n % 16)) = some n := by
    decide
  refine ⟨by simp only [List.length_cons]; omega, ?_⟩
  have low : ¬(0xD800 ≤ c.toNat ∧ c.toNat < 0xDC00) := by omega
  have high : ¬(0xDC00 ≤ c.toNat ∧ c.toNat < 0xE000) := by omega
  rw [readString]
  simp only [code _ control, if_neg low, if_neg high, found, Char.ofNat_toNat]
  rfl

/-- Any other character stands for itself. -/
theorem readsString_plain (noQuote : c ≠ '"') (noBackslash : c ≠ '\\') (plain : 0x20 ≤ c.toNat)
    (read : ReadsString text value rest) : ReadsString (c :: text) (c :: value) rest := by
  obtain ⟨shorter, found⟩ := read
  refine ⟨by simp only [List.length_cons]; omega, ?_⟩
  rw [readString, if_neg (Nat.not_lt.mpr plain), found]
  · rfl
  · exact noQuote
  · exact fun _ _ _ _ _ backslash _ => noBackslash backslash
  · exact fun _ _ backslash _ => noBackslash backslash

/-- A character reads back from its form in a string. -/
theorem readsString_escapeChar (c : Char) (read : ReadsString text value rest) :
    ReadsString (escapeChar c ++ text) (c :: value) rest := by
  unfold escapeChar
  split_ifs with quote backslash backspace formFeed newLine return_ tab control
  · exact readsString_letter (by decide) (by rw [quote]; rfl) read
  · exact readsString_letter (by decide) (by rw [backslash]; rfl) read
  · exact readsString_letter (by decide) (by rw [backspace]; rfl) read
  · exact readsString_letter (by decide) (by rw [formFeed]; rfl) read
  · exact readsString_letter (by decide) (by rw [newLine]; rfl) read
  · exact readsString_letter (by decide) (by rw [return_]; rfl) read
  · exact readsString_letter (by decide) (by rw [tab]; rfl) read
  · exact readsString_code control read
  · exact readsString_plain quote backslash (Nat.le_of_not_lt control) read

/-- The characters of a string read back up to its closing quote. -/
theorem readsString_flatMap (chars rest : List Char) :
    ReadsString (chars.flatMap escapeChar ++ '"' :: rest) chars rest := by
  induction chars with
  | nil => exact readsString_end rest
  | cons c tail ih =>
    rw [List.flatMap_cons, List.append_assoc]
    exact readsString_escapeChar c ih

end Scriptlet.Json
