import Scriptlet.Double.Basic

/-!
# Arithmetic of doubles

Each operation computes its result exactly in units and rounds it once. An operation that has no
finite result answers `none`. A sum that is exactly zero is positive unless both summands are
negative, a product or quotient takes the sign of its factors, and a remainder the sign of its
dividend.

Comparison is comparison of exact values, so the two zeros are equal. `totalKey` orders the zeros
too, the negative one first.
-/

set_option autoImplicit false

namespace Scriptlet.Double

/-- The double with the opposite sign. -/
def neg (d : Double) : Double :=
  { d with negative := !d.negative }

/-- The double without its sign. -/
def abs (d : Double) : Double :=
  { d with negative := false }

/-- The sum, unless it is not finite. -/
def add? (a b : Double) : Option Double :=
  let sum := a.signed + b.signed
  let negative := if sum = 0 then a.negative && b.negative else decide (sum < 0)
  ofQuotient? negative sum.natAbs 1

/-- The difference, unless it is not finite. -/
def sub? (a b : Double) : Option Double :=
  add? a b.neg

/-- The product, unless it is not finite. -/
def mul? (a b : Double) : Option Double :=
  ofQuotient? (a.negative != b.negative) (a.units * b.units) one

/-- The quotient, unless it is not finite or the divisor is zero. -/
def div? (a b : Double) : Option Double :=
  if b.units = 0 then none
  else ofQuotient? (a.negative != b.negative) (a.units * one) b.units

/-- The remainder of the quotient truncated toward zero, unless the divisor is zero. -/
def rem? (a b : Double) : Option Double :=
  if b.units = 0 then none
  else ofQuotient? a.negative (a.units % b.units) 1

/-! ## Whole parts -/

/-- The greatest integer that is not above the double. -/
def floorInt (d : Double) : Int :=
  d.signed.fdiv one

/-- A whole double of at most 53 binary digits. -/
def ofSmall (negative : Bool) (n : Nat) (h : n ≤ 2 ^ 53) : Double :=
  ofScaled negative n places h (by rw [places_eq]; decide)

/-- A double that is not whole has fewer than 53 binary digits before its point. -/
theorem units_div_one_lt {d : Double} (h : ¬ one ∣ d.units) : d.units / one < 2 ^ 53 := by
  have hlog : d.units.log2 + 1 ≤ 53 + places := by
    rcases Nat.lt_or_ge (d.units.log2 - 52) places with hlt | hge
    · omega
    · exact absurd (Nat.dvd_trans (Nat.pow_dvd_pow 2 hge) d.representable.1) h
  rw [Nat.div_lt_iff_lt_mul one_pos, one, ← Nat.pow_add]
  exact Nat.lt_of_lt_of_le Nat.lt_log2_self (Nat.pow_le_pow_right (by decide) hlog)

/-- The greatest whole double that is not above this one. -/
def floor (d : Double) : Double :=
  if h : one ∣ d.units then d
  else if d.negative then ofSmall true (d.units / one + 1) (units_div_one_lt h)
  else ofSmall false (d.units / one) (Nat.le_of_lt (units_div_one_lt h))

/-- The least whole double that is not below this one. -/
def ceil (d : Double) : Double :=
  d.neg.floor.neg

/-! ## Order -/

/-- Whether two doubles have the same exact value. -/
def same (a b : Double) : Bool :=
  a.signed = b.signed

/-- The order of exact values. -/
def order (a b : Double) : Ordering :=
  compare a.signed b.signed

/-- A whole number that grows with the double, where negative zero comes before zero. -/
def totalKey (d : Double) : Int :=
  if d.negative then -(d.units : Int) - 1 else d.units

/-- The order of the doubles in which no two are equal. -/
def totalOrder (a b : Double) : Ordering :=
  compare a.totalKey b.totalKey

end Scriptlet.Double
