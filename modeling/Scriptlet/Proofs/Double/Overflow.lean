import Mathlib.Algebra.Order.Floor.Ring
import Mathlib.Data.Rat.Floor
import Mathlib.Tactic.FieldSimp
import Mathlib.Tactic.Linarith
import Mathlib.Tactic.Positivity
import Scriptlet.Double.Arithmetic
import Scriptlet.Double.Root
import Scriptlet.Proofs.Double.Rounding

/-!
# Results that are no double

An operation on doubles has an exact result, a rational number, which is rounded once. That result is no
finite number if it overflows (`Overflows`): from the middle between the last double and `2 ^ 1024` on it is
rounded to infinity. A sum, a difference, a product and a quotient by something else than zero are missing
exactly then. A remainder is smaller than its divisor and a square root of a number in range is in range, so
neither ever overflows.
-/

set_option autoImplicit false

namespace Scriptlet.Double

/-! ## Exact values -/

/-- The exact value of a double. -/
def value (d : Double) : ℚ :=
  d.signed / one

/-- The magnitude of a number that is rounded to infinity. -/
def Overflows (x : ℚ) : Prop :=
  2 ^ 1024 - 2 ^ 970 ≤ |x|

variable {a b d : Double} {negative : Bool} {num den : Nat}

theorem natAbs_signed (d : Double) : d.signed.natAbs = d.units := by
  unfold signed
  split <;> omega

theorem one_cast_pos : (0 : ℚ) < one := by
  exact_mod_cast one_pos

theorem abs_value (d : Double) : |d.value| = d.units / one := by
  rw [value, abs_div, abs_of_pos one_cast_pos, ← Int.cast_abs, Int.abs_eq_natAbs, natAbs_signed]
  rfl

theorem value_eq_zero_iff : d.value = 0 ↔ d.units = 0 := by
  rw [← abs_eq_zero, abs_value, div_eq_zero_iff, or_iff_left one_cast_pos.ne']
  exact Nat.cast_eq_zero

theorem value_neg (d : Double) : d.neg.value = -d.value := by
  have opposite : d.neg.signed = -d.signed := by
    unfold neg signed
    cases d.negative <;> simp
  rw [value, value, opposite, Int.cast_neg, neg_div]

/-- One step below `2 ^ (k + 54)` on the grid of `2 ^ k`, counted in units. -/
theorem cast_edge (k : Nat) :
    (((2 ^ 54 - 1) * 2 ^ (k + places) : Nat) : ℚ) = (2 ^ 54 * 2 ^ k - 2 ^ k) * one := by
  rw [one]
  push_cast
  rw [pow_add]
  ring

/-- The limit of rounding in units is the one of overflowing. -/
theorem overflows_iff {x : ℚ} (pos : 0 < den) (exact_ : |x| * one * den = num) :
    Overflows x ↔ limit * den ≤ num := by
  have positive : (0 : ℚ) < one * den := mul_pos one_cast_pos (by exact_mod_cast pos)
  have edge : (2 ^ 1024 - 2 ^ 970 : ℚ) * one = limit := by
    have upper : (2 ^ 1024 : ℚ) = 2 ^ 54 * 2 ^ 970 := pow_add 2 54 970
    rw [limit, upper, cast_edge]
  rw [Overflows, ← mul_le_mul_iff_of_pos_right positive, ← mul_assoc, ← mul_assoc, edge, exact_]
  exact_mod_cast Iff.rfl

theorem ofQuotient?_eq_none_iff (pos : 0 < den) :
    ofQuotient? negative num den = none ↔ limit * den ≤ num := by
  unfold ofQuotient?
  split_ifs with below
  · exact iff_of_false nofun (Nat.not_le.mpr ((nearest_lt_past_iff pos).mp below))
  · exact iff_of_true rfl (Nat.not_lt.mp fun less => below ((nearest_lt_past_iff pos).mpr less))

theorem negative_of_ofQuotient? (found : ofQuotient? negative num den = some d) :
    d.negative = negative := by
  unfold ofQuotient? at found
  split at found
  · cases found
    rfl
  · cases found

theorem units_of_ofQuotient? (found : ofQuotient? negative num den = some d) :
    d.units = nearest num den := by
  unfold ofQuotient? at found
  split at found
  · cases found
    rfl
  · cases found

theorem ofQuotient?_of_nearest_eq_zero (none_ : nearest num den = 0) :
    ofQuotient? negative num den = some (zero negative) := by
  have below : nearest num den < past := none_ ▸ past_pos
  rw [ofQuotient?, dif_pos below, zero]
  simp only [none_]

/-! ## Arithmetic -/

theorem add?_eq_none_iff : a.add? b = none ↔ Overflows (a.value + b.value) := by
  unfold add?
  rw [ofQuotient?_eq_none_iff Nat.one_pos, overflows_iff Nat.one_pos]
  rw [value, value, ← add_div, abs_div, abs_of_pos one_cast_pos, div_mul_cancel₀ _ one_cast_pos.ne',
    Nat.cast_one, mul_one, Nat.cast_natAbs]
  push_cast
  rfl

theorem sub?_eq_none_iff : a.sub? b = none ↔ Overflows (a.value - b.value) := by
  rw [sub?, add?_eq_none_iff, value_neg, sub_eq_add_neg]

theorem mul?_eq_none_iff : a.mul? b = none ↔ Overflows (a.value * b.value) := by
  unfold mul?
  rw [ofQuotient?_eq_none_iff one_pos, overflows_iff one_pos]
  rw [abs_mul, abs_value, abs_value, Nat.cast_mul]
  have some_ := one_cast_pos.ne'
  field_simp

theorem div?_eq_none_iff (some_ : b.value ≠ 0) :
    a.div? b = none ↔ Overflows (a.value / b.value) := by
  have units : b.units ≠ 0 := fun zero => some_ (value_eq_zero_iff.mpr zero)
  have pos := Nat.pos_of_ne_zero units
  unfold div?
  rw [if_neg units, ofQuotient?_eq_none_iff pos, overflows_iff pos]
  rw [abs_div, abs_value, abs_value, Nat.cast_mul]
  have cast : (b.units : ℚ) ≠ 0 := Nat.cast_ne_zero.mpr units
  have one_ := one_cast_pos.ne'
  field_simp

theorem units_lt_limit (d : Double) : d.units < limit := by
  have below := d.representable.2
  rw [← nearest_self d.representable.1, nearest_lt_past_iff Nat.one_pos, Nat.mul_one] at below
  exact below

/-- A double is in range. -/
theorem not_overflows_value (d : Double) : ¬Overflows d.value := by
  have exact_ : |d.value| * one * (1 : Nat) = d.units := by
    rw [abs_value, div_mul_cancel₀ _ one_cast_pos.ne', Nat.cast_one, mul_one]
  rw [overflows_iff Nat.one_pos exact_, Nat.mul_one, Nat.not_le]
  exact d.units_lt_limit

/-- A quotient without its fraction, the way from it to zero. -/
def truncate (x : ℚ) : Int :=
  if 0 ≤ x then ⌊x⌋ else ⌈x⌉

/-- The exact remainder of the quotient truncated toward zero. -/
def remainder (x y : ℚ) : ℚ :=
  x - y * truncate (x / y)

theorem abs_sub_truncate_lt (x : ℚ) : |x - truncate x| < 1 := by
  unfold truncate
  split_ifs with sign
  · rw [abs_of_nonneg (sub_nonneg.mpr (Int.floor_le x))]
    linarith [Int.lt_floor_add_one x]
  · rw [abs_sub_comm, abs_of_nonneg (sub_nonneg.mpr (Int.le_ceil x))]
    linarith [Int.ceil_lt_add_one x]

/-- A remainder is smaller than its divisor, so it is in range with it. -/
theorem not_overflows_remainder (x : ℚ) (some_ : b.value ≠ 0) :
    ¬Overflows (remainder x b.value) := by
  have factor : remainder x b.value = b.value * (x / b.value - truncate (x / b.value)) := by
    rw [remainder, mul_sub, mul_div_cancel₀ _ some_]
  have smaller : |remainder x b.value| ≤ |b.value| := by
    rw [factor, abs_mul]
    exact mul_le_of_le_one_right (abs_nonneg _) (abs_sub_truncate_lt _).le
  exact fun overflows => not_overflows_value b (overflows.trans smaller)

theorem rem?_ne_none (some_ : b.value ≠ 0) : a.rem? b ≠ none := by
  have units : b.units ≠ 0 := fun zero => some_ (value_eq_zero_iff.mpr zero)
  have less := Nat.mod_lt a.units (Nat.pos_of_ne_zero units)
  unfold rem?
  rw [if_neg units, Ne, ofQuotient?_eq_none_iff Nat.one_pos, Nat.mul_one, Nat.not_le]
  exact less.trans b.units_lt_limit

/-! ## Square roots -/

theorem value_neg_iff : d.value < 0 ↔ d.negative = true ∧ d.units ≠ 0 := by
  rw [value, div_lt_iff₀ one_cast_pos, zero_mul, Int.cast_lt_zero, signed]
  cases d.negative <;> simp [Nat.pos_iff_ne_zero]

/-- The root of a double is in range. -/
theorem rootFloor_lt_limit (d : Double) : rootFloor (d.units * one) < limit := by
  have square := (rootFloor_bounds (d.units * one)).1
  refine Nat.lt_of_not_le fun large => ?_
  have product : limit * limit ≤ d.units * limit :=
    (Nat.mul_le_mul large large).trans (square.trans (Nat.mul_le_mul_left _ one_le_limit))
  have le := Nat.le_of_mul_le_mul_right product (one_pos.trans_le one_le_limit)
  exact absurd d.units_lt_limit (Nat.not_lt.mpr le)

/-- Only a number below zero has no root. -/
theorem sqrt?_eq_none_iff : d.sqrt? = none ↔ d.value < 0 := by
  rw [value_neg_iff]
  have root := d.rootFloor_lt_limit
  unfold sqrt?
  split_ifs with zero sign
  · simp [zero]
  · simp [zero, sign]
  · rw [ofQuotient?_eq_none_iff Nat.two_pos]
    refine iff_of_false (Nat.not_le.mpr ?_) fun below => sign below.1
    split_ifs <;> omega

end Scriptlet.Double
