import Scriptlet.Proofs.Number.Text
import Scriptlet.Proofs.Numeral.Compared
import Scriptlet.Value.Order

/-!
# What the text of a number spells

The text of a number is a decimal numeral behind its sign. Compared with a number it spells the double of what
it is the text of (`spells_text`), also where that is an integer with digits that no double has. There are no
blanks in it, so nothing else is spelled with blanks around it (`spelled?_padded`).
-/

set_option autoImplicit false

namespace Scriptlet

open Text

/-- A whole numeral that 64 bits hold is read as the double nearest to it. -/
theorem Numeral.double?_whole (negative : Bool) {m : Nat} (fits : m < 2 ^ 64) :
    Numeral.double? ⟨toDigits m, [], none⟩ negative = some (Double.ofWhole negative m fits) := by
  have exact_ : Decimal.value ⟨m, 0⟩ * Double.one = (m * Double.one : Nat) / (1 : Nat) := by
    rw [Decimal.value, zpow_zero, mul_one, Nat.cast_one, div_one, Nat.cast_mul]
  have rounds : Decimal.RoundsTo ⟨m, 0⟩ (Double.nearest (m * Double.one) 1) :=
    Decimal.roundsTo_of_nearest Nat.one_pos exact_ rfl
  have digits : ofDigits (toDigits m ++ []) = m := by
    rw [List.append_nil, Template.ofDigits_toDigits]
  have scale : Numeral.scale ⟨toDigits m, [], none⟩ = 0 := rfl
  rw [Numeral.double?, digits, scale]
  exact Decimal.ofDecimal?_of_roundsTo rounds (Double.ofWhole negative m fits).representable

/-- A numeral has characters, and none of them is blank. -/
theorem Numeral.plain_text {n : Numeral} (formed : n.WellFormed) :
    n.text ≠ [] ∧ ∀ c ∈ n.text, isBlank c = false := by
  have digit {c : Char} (digit : isDigit c = true) : isBlank c = false :=
    isBlank_eq_false_of_isNamePart (isNamePart_of_isDigit digit)
  refine ⟨by simp [Numeral.text, formed.starts], fun c member => ?_⟩
  rcases List.mem_append.mp member with front | exponent
  · rcases List.mem_append.mp front with whole | fraction
    · exact digit (formed.whole c whole)
    · have formed := formed.fraction
      cases digits : n.fraction with
      | nil => simp [digits, Numeral.fractionText] at fraction
      | cons d rest =>
        rw [digits] at fraction formed
        rcases List.mem_cons.mp fraction with rfl | later
        · decide
        · exact digit (formed c later)
  · cases present : n.exponent with
    | none => simp [present, Numeral.exponentText] at exponent
    | some parts =>
      obtain ⟨negative, digits⟩ := parts
      rw [present, Numeral.exponentText] at exponent
      rcases List.mem_cons.mp exponent with rfl | later
      · decide
      · rcases List.mem_cons.mp later with rfl | later
        · cases negative <;> decide
        · exact digit ((formed.exponent negative digits present).2 c later)

namespace Number

/-- The numeral of a number is read as its double. -/
theorem double?_numeral (a : Number) :
    a.numeral.double? a.negative = some a.quantity.toDouble := by
  cases a with
  | int i => exact Numeral.double?_whole _ (Double.natAbs_toInt_lt i)
  | wide n past => exact Numeral.double?_whole _ n.toNat_lt
  | double d => exact d.writtenAs_numeral.double?

/-- The text of a number spells its double. -/
theorem spells_text (a : Number) : NumericText.Spells a.text a.quantity.toDouble := by
  refine ⟨a.negative, a.numeral.text, a.numeral, ?_,
    NumericText.isDecimal_text a.wellFormed_numeral, a.double?_numeral⟩
  rw [a.text_eq]
  cases a.negative with
  | false => exact .missing _
  | true => exact .minus _

theorem plain_text (a : Number) : a.text ≠ [] ∧ ∀ c ∈ a.text, isBlank c = false := by
  obtain ⟨some_, plain⟩ := Numeral.plain_text a.wellFormed_numeral
  rw [a.text_eq]
  cases a.negative with
  | false => exact ⟨some_, plain⟩
  | true => exact ⟨List.cons_ne_nil _ _, List.forall_mem_cons.mpr ⟨by decide, plain⟩⟩

/-- With blanks around it the text of a number still spells its double. -/
theorem spelled?_padded (a : Number) {before after : String}
    (blankBefore : ∀ c ∈ before.toList, isBlank c = true)
    (blankAfter : ∀ c ∈ after.toList, isBlank c = true) :
    Value.spelled? (before ++ String.ofList a.text ++ after) = some (.finite a.quantity.toDouble) := by
  obtain ⟨some_, plain⟩ := a.plain_text
  rw [Value.spelled?, String.toList_append, String.toList_append, String.toList_ofList,
    trim_padded blankBefore blankAfter plain some_]
  exact NumericText.ofText?_eq_finite_iff.mpr a.spells_text

end Number

end Scriptlet
