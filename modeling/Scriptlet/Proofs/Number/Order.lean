import Scriptlet.Proofs.Double.Overflow
import Scriptlet.Proofs.Double.Signed
import Scriptlet.Value.Order

/-!
# Numbers in order

Integers of 64 bits are compared exactly and all other pairs of numbers as doubles, so two orders meet. Both
come from exact values: the double of a number is its exact value rounded (`rounded_eq`), and rounding never
turns an order round. It may make equal what is not, and only where two different integers have the same
double (`Merges`) does it matter that they are compared exactly.

So the order of two numbers is that of their doubles, and that of their exact values where they merge
(`order_eq_lt_iff`, `order_eq_eq_iff`). Integers merge only beyond `2 ^ 53` (`Merges.large`).
-/

set_option autoImplicit false

namespace Scriptlet.Number

open Double (one roundUnits)

/-- The exact value. -/
def value : Number → ℚ
  | int i => i.toInt
  | wide n _ => n.toNat
  | double d => d.value

/-- The exact value as a number of units. -/
def units : Number → Int
  | int i => i.toInt * one
  | wide n _ => n.toNat * one
  | double d => d.signed

/-- The number of units that the number has as a double. -/
def rounded (a : Number) : Int :=
  a.quantity.toDouble.signed

/-- The number is an integer of 64 bits, which is compared exactly with others of its kind. -/
def IsInt (a : Number) : Prop :=
  ∃ i, a = int i

/-- The numbers are two different integers of 64 bits with the same double. -/
def Merges (a b : Number) : Prop :=
  a.IsInt ∧ b.IsInt ∧ a ≠ b ∧ a.quantity.toDouble.same b.quantity.toDouble = true

variable {a b c : Number}

/-! ## Exact values -/

theorem value_eq (a : Number) : a.value = a.units / one := by
  have one_ := Double.one_cast_pos.ne'
  cases a with
  | int i => rw [value, units, Int.cast_mul, Int.cast_natCast, mul_div_cancel_right₀ _ one_]
  | wide n past =>
    rw [value, units, Int.cast_mul, Int.cast_natCast, Int.cast_natCast, mul_div_cancel_right₀ _ one_]
  | double d => rfl

theorem value_lt_iff : a.value < b.value ↔ a.units < b.units := by
  rw [value_eq, value_eq, div_lt_div_iff_of_pos_right Double.one_cast_pos]
  exact Int.cast_lt

/-- The double of a number is its exact value rounded. -/
theorem rounded_eq (a : Number) : a.rounded = roundUnits a.units := by
  cases a with
  | int i => exact Double.signed_ofInt64 i
  | wide n past => exact Double.signed_ofUInt64 n
  | double d => exact d.roundUnits_signed.symm

theorem units_lt_of_rounded_lt (less : a.rounded < b.rounded) : a.units < b.units := by
  refine Int.lt_of_not_ge fun ge => ?_
  rw [rounded_eq, rounded_eq] at less
  exact absurd (Double.roundUnits_mono ge) (Int.not_le.mpr less)

theorem units_inj_of_isInt (first : a.IsInt) (second : b.IsInt) : a.units = b.units ↔ a = b := by
  obtain ⟨i, rfl⟩ := first
  obtain ⟨j, rfl⟩ := second
  rw [units, units, Int.mul_eq_mul_right_iff Double.intCast_one_pos.ne', Int64.toInt_inj, int.injEq]

/-! ## Integers with the same double -/

theorem merges_iff : a.Merges b ↔ a.IsInt ∧ b.IsInt ∧ a ≠ b ∧ a.rounded = b.rounded := by
  simp only [Merges, Double.same, decide_eq_true_eq, rounded]

theorem Merges.rounded_eq (merges : a.Merges b) : a.rounded = b.rounded :=
  (merges_iff.mp merges).2.2.2

theorem Merges.symm (merges : a.Merges b) : b.Merges a := by
  obtain ⟨first, second, differ, same⟩ := merges_iff.mp merges
  exact merges_iff.mpr ⟨second, first, differ.symm, same.symm⟩

theorem Merges.units_ne (merges : a.Merges b) : a.units ≠ b.units := fun same =>
  merges.2.2.1 ((units_inj_of_isInt merges.1 merges.2.1).mp same)

/-- Up to `2 ^ 53` integers are doubles, so of two that merge one is beyond. -/
theorem Merges.large (merges : a.Merges b) : 2 ^ 53 < |a.value| ∨ 2 ^ 53 < |b.value| := by
  by_contra small
  push Not at small
  have exact_ {n : Number} (isInt : n.IsInt) (le : |n.value| ≤ 2 ^ 53) : n.rounded = n.units := by
    obtain ⟨i, rfl⟩ := isInt
    have bound : i.toInt.natAbs ≤ 2 ^ 53 := by
      rw [value, ← Int.cast_abs, Int.abs_eq_natAbs] at le
      exact_mod_cast le
    rw [Number.rounded_eq, units, Double.roundUnits_mul_one bound]
  have same := merges.rounded_eq
  rw [exact_ merges.1 small.1, exact_ merges.2.1 small.2] at same
  exact merges.units_ne same

/-! ## The order -/

/-- Integers of 64 bits are in the order of their exact values. -/
theorem order_of_isInt (first : a.IsInt) (second : b.IsInt) :
    a.quantity.order b.quantity = compare a.units b.units := by
  obtain ⟨i, rfl⟩ := first
  obtain ⟨j, rfl⟩ := second
  have pos := Double.intCast_one_pos
  show compare i.toInt j.toInt = compare (i.toInt * one) (j.toInt * one)
  rcases Int.lt_trichotomy i.toInt j.toInt with less | same | greater
  · rw [Int.compare_eq_lt.mpr less, Int.compare_eq_lt.mpr (Int.mul_lt_mul_of_pos_right less pos)]
  · rw [same, Int.compare_eq_eq.mpr rfl, Int.compare_eq_eq.mpr rfl]
  · rw [Int.compare_eq_gt.mpr greater,
      Int.compare_eq_gt.mpr (Int.mul_lt_mul_of_pos_right greater pos)]

/-- All other pairs of numbers are in the order of their doubles. -/
theorem order_of_mixed (mixed : ¬(a.IsInt ∧ b.IsInt)) :
    a.quantity.order b.quantity = compare a.rounded b.rounded := by
  cases a with
  | int i =>
    cases b with
    | int j => exact absurd ⟨⟨i, rfl⟩, ⟨j, rfl⟩⟩ mixed
    | wide n past => rfl
    | double d => rfl
  | wide n past => rfl
  | double d => rfl

/-- A number is less if its double is, or if both merge and its exact value is less. -/
theorem order_eq_lt_iff : a.quantity.order b.quantity = .lt ↔
    a.rounded < b.rounded ∨ a.Merges b ∧ a.units < b.units := by
  by_cases ints : a.IsInt ∧ b.IsInt
  · rw [order_of_isInt ints.1 ints.2, Int.compare_eq_lt]
    refine ⟨fun less => ?_, fun either => either.elim units_lt_of_rounded_lt And.right⟩
    have le : a.rounded ≤ b.rounded := by
      rw [rounded_eq, rounded_eq]
      exact Double.roundUnits_mono less.le
    rcases Int.lt_or_eq_of_le le with rounded | same
    · exact Or.inl rounded
    · have differ : a ≠ b := fun equal => absurd less (equal ▸ Int.lt_irrefl _)
      exact Or.inr ⟨merges_iff.mpr ⟨ints.1, ints.2, differ, same⟩, less⟩
  · have apart : ¬a.Merges b := fun merges => ints ⟨merges.1, merges.2.1⟩
    rw [order_of_mixed ints, Int.compare_eq_lt, or_iff_left fun both => apart both.1]

/-- Numbers are equal if their doubles are and they do not merge. -/
theorem order_eq_eq_iff : a.quantity.order b.quantity = .eq ↔
    a.rounded = b.rounded ∧ ¬a.Merges b := by
  by_cases ints : a.IsInt ∧ b.IsInt
  · rw [order_of_isInt ints.1 ints.2, Int.compare_eq_eq, units_inj_of_isInt ints.1 ints.2,
      merges_iff]
    constructor
    · rintro rfl
      simp
    · rintro ⟨same, apart⟩
      by_contra differ
      exact apart ⟨ints.1, ints.2, differ, same⟩
  · have apart : ¬a.Merges b := fun merges => ints ⟨merges.1, merges.2.1⟩
    rw [order_of_mixed ints, Int.compare_eq_eq, and_iff_left apart]

/-- A number that is less has a lesser exact value. -/
theorem value_lt_of_order_eq_lt (less : a.quantity.order b.quantity = .lt) : a.value < b.value := by
  rw [value_lt_iff]
  rcases order_eq_lt_iff.mp less with rounded | ⟨-, exact_⟩
  · exact units_lt_of_rounded_lt rounded
  · exact exact_

theorem order_eq_lt_trans (first : a.quantity.order b.quantity = .lt)
    (second : b.quantity.order c.quantity = .lt) : a.quantity.order c.quantity = .lt := by
  rw [order_eq_lt_iff] at first second ⊢
  rcases first with less | ⟨merges, less⟩ <;> rcases second with less' | ⟨merges', less'⟩
  · exact Or.inl (less.trans less')
  · exact Or.inl (less.trans_eq merges'.rounded_eq)
  · exact Or.inl (merges.rounded_eq.trans_lt less')
  · -- Three integers with the same double are in the order of their exact values.
    have differ : a ≠ c := fun equal => absurd (less.trans less') (equal ▸ Int.lt_irrefl _)
    refine Or.inr ⟨merges_iff.mpr ⟨merges.1, merges'.2.1, differ, ?_⟩, less.trans less'⟩
    exact merges.rounded_eq.trans merges'.rounded_eq

end Scriptlet.Number
