import Scriptlet.Proofs.Text.Digits

/-!
# How numerals are spelled

A numeral is scanned from its own text, whatever follows, as long as that does not carry it on
(`scan_text`). Without the point its digits denote the number `digits`, which counts the power `scale` of
ten; an exponent below ten times `exponentBound` counts in full (`exponentSize_eq`).
-/

set_option autoImplicit false

namespace Scriptlet.Numeral

open Text Template

/-! ## Texts -/

/-- A fraction after its point, if there is one. -/
def fractionText : List Char → List Char
  | [] => []
  | digits => '.' :: digits

/-- An exponent after its mark and its sign, if there is one. -/
def exponentText : Option (Bool × List Char) → List Char
  | none => []
  | some (negative, digits) => 'e' :: (if negative then '-' else '+') :: digits

/-- The text of a numeral. -/
def text (n : Numeral) : List Char :=
  n.whole ++ fractionText n.fraction ++ exponentText n.exponent

/-- The numeral has digits where it needs some, and nothing else. -/
structure WellFormed (n : Numeral) : Prop where
  starts : n.whole ≠ []
  whole : ∀ c ∈ n.whole, isDigit c = true
  fraction : ∀ c ∈ n.fraction, isDigit c = true
  exponent : ∀ negative digits, n.exponent = some (negative, digits) →
    digits ≠ [] ∧ ∀ c ∈ digits, isDigit c = true

variable {n : Numeral} {rest : List Char}

theorem stops_exponentText (ends : EndsDigits rest) (exponent : Option (Bool × List Char)) :
    Stops isDigit (exponentText exponent ++ rest) := by
  cases exponent with
  | none => exact ends.digits
  | some parts =>
    rintro c ⟨⟩
    decide

theorem stops_fractionText (ends : EndsDigits rest) (n : Numeral) :
    Stops isDigit (fractionText n.fraction ++ (exponentText n.exponent ++ rest)) := by
  cases n.fraction with
  | nil => exact stops_exponentText ends n.exponent
  | cons d tail =>
    rintro c ⟨⟩
    decide

theorem scanExponent_exponentText (formed : n.WellFormed) (ends : EndsDigits rest) :
    scanExponent (exponentText n.exponent ++ rest) = (n.exponent, rest) := by
  cases present : n.exponent with
  | none => exact scanExponent_eq_none ends
  | some parts =>
    obtain ⟨negative, digits⟩ := parts
    obtain ⟨some_, all⟩ := formed.exponent negative digits present
    have taken := takeWhile_append_of_stop all ends.digits
    have left := dropWhile_append_of_stop all ends.digits
    cases digits with
    | nil => exact absurd rfl some_
    | cons c tail =>
      rw [List.cons_append] at taken left
      cases negative <;> simp [exponentText, scanExponent, taken, left]

theorem scanFraction_fractionText (formed : n.WellFormed) (ends : EndsDigits rest) :
    scanFraction (fractionText n.fraction ++ (exponentText n.exponent ++ rest)) =
      (n.fraction, exponentText n.exponent ++ rest) := by
  have stops := stops_exponentText ends n.exponent
  have taken := takeWhile_append_of_stop formed.fraction stops
  have left := dropWhile_append_of_stop formed.fraction stops
  cases digits : n.fraction with
  | nil =>
    cases n.exponent with
    | none => exact scanFraction_eq_nil ends
    | some parts => rfl
  | cons c tail =>
    rw [digits, List.cons_append] at taken left
    simp [fractionText, scanFraction, taken, left]

/-- A numeral is scanned from its text. -/
theorem scan_text (formed : n.WellFormed) (ends : EndsDigits rest) :
    scan (n.text ++ rest) = (n, rest) := by
  have stops := stops_fractionText ends n
  simp only [text, List.append_assoc, scan, takeWhile_append_of_stop formed.whole stops,
    dropWhile_append_of_stop formed.whole stops, scanFraction_fractionText formed ends,
    scanExponent_exponentText formed ends]

/-! ## Values -/

/-- What all digits of a numeral denote, without the point. -/
def digits (n : Numeral) : Nat :=
  ofDigits (n.whole ++ n.fraction)

/-- All digits count unless the bound is reached before the last one. -/
theorem exponentSize_eq {digits : List Char} (small : ofDigits digits < 10 * exponentBound) :
    exponentSize digits = ofDigits digits := by
  have same : ∀ size, size * 10 ^ digits.length + ofDigits digits < 10 * exponentBound →
      digits.foldl (fun size c => if size < exponentBound then 10 * size + digitValue c else size)
        size = size * 10 ^ digits.length + ofDigits digits := by
    clear small
    induction digits with
    | nil => intro size _; simp [ofDigits]
    | cons c tail ih =>
      intro size below
      have value := value_cons size c tail
      have least : size * 10 ≤ size * 10 ^ (c :: tail).length :=
        Nat.mul_le_mul_left size (Nat.le_self_pow (by simp) 10)
      rw [List.foldl_cons, if_pos (by omega), ih _ (by omega), value]
  have all := same 0
  rw [Nat.zero_mul, Nat.zero_add] at all
  exact all small

/-- Digits that denote the bound or more reach it. -/
theorem exponentBound_le_exponentSize {digits : List Char} (large : exponentBound ≤ ofDigits digits) :
    exponentBound ≤ exponentSize digits := by
  have reach : ∀ size, exponentBound ≤ size * 10 ^ digits.length + ofDigits digits →
      exponentBound ≤
        digits.foldl (fun size c => if size < exponentBound then 10 * size + digitValue c else size) size := by
    clear large
    induction digits with
    | nil => intro size large; simpa [ofDigits] using large
    | cons c tail ih =>
      intro size large
      rw [← value_cons] at large
      have grown : size ≤ size * 10 ^ tail.length := Nat.le_mul_of_pos_right size (Nat.pow_pos (by decide))
      rw [List.foldl_cons]
      split_ifs with growing
      · exact ih _ large
      · exact ih _ (by omega)
  exact reach 0 (by omega)

end Scriptlet.Numeral
