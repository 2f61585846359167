import Scriptlet.Json.Writer
import Scriptlet.Proofs.Double.Written

/-!
# The texts of numbers

The text of a number is a numeral behind its sign (`text_eq`): its digits alone if it is an integer, and
otherwise the numeral of its double.
-/

set_option autoImplicit false

namespace Scriptlet

open Text Template

theorem Text.toDigits_ne_zero_cons (m : Nat) (c : Char) (rest : List Char) :
    toDigits m ≠ '0' :: c :: rest := by
  intro shape
  rcases Nat.eq_zero_or_pos m with rfl | pos
  · cases shape
  · exact head_toDigits_ne_zero pos.ne' (by rw [shape, List.head?_cons])

theorem Numeral.text_whole (digits : List Char) : Numeral.text ⟨digits, [], none⟩ = digits := by
  simp [Numeral.text, Numeral.fractionText, Numeral.exponentText]

theorem Numeral.wellFormed_toDigits (m : Nat) : Numeral.WellFormed ⟨toDigits m, [], none⟩ where
  starts := Nat.toDigits_ne_nil
  whole := fun _ => isDigit_of_mem_toDigits
  fraction := nofun
  exponent := nofun

namespace Number

/-- Whether the text of the number starts with a minus. -/
def negative : Number → Bool
  | int i => decide (i.toInt < 0)
  | wide _ _ => false
  | double d => d.negative

/-- The numeral that the text of the number spells, without its sign. -/
def numeral : Number → Numeral
  | int i => ⟨toDigits i.toInt.natAbs, [], none⟩
  | wide n _ => ⟨toDigits n.toNat, [], none⟩
  | double d => d.numeral

theorem text_eq (a : Number) :
    a.text = if a.negative then '-' :: a.numeral.text else a.numeral.text := by
  cases a with
  | int i => simp only [text, negative, numeral, Numeral.text_whole, decide_eq_true_eq]
  | wide n past => exact (Numeral.text_whole _).symm
  | double d => rw [text, Double.text, d.writtenAs_numeral.text, negative, numeral]

theorem wellFormed_numeral (a : Number) : a.numeral.WellFormed := by
  cases a with
  | int i => exact Numeral.wellFormed_toDigits _
  | wide n past => exact Numeral.wellFormed_toDigits _
  | double d => exact d.writtenAs_numeral.formed

/-- The numeral starts with a zero only if that is all that stands before the point. -/
theorem numeral_noZero (a : Number) (c : Char) (rest : List Char) :
    a.numeral.whole ≠ '0' :: c :: rest := by
  cases a with
  | int i => exact toDigits_ne_zero_cons _ c rest
  | wide n past => exact toDigits_ne_zero_cons _ c rest
  | double d => exact d.writtenAs_numeral.noZero c rest

end Number

end Scriptlet
