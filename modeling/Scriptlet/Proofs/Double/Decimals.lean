import Mathlib.Algebra.Order.Field.Power
import Scriptlet.Proofs.Double.Nearest
import Scriptlet.Proofs.Double.Shortest

/-!
# Decimals that are read as a double

Which double a decimal is read as depends on its exact value alone (`RoundsTo`). The decimals that are settled
first are settled as rounding would (`ofDecimal?_eq_ofQuotient?`), since their first digit counts a power of ten
far from all that are rounded to a double other than zero. So a decimal is read as the nearest double
(`isNearest_of_ofDecimal?`), unless it overflows (`ofDecimal?_eq_none_iff`). The shortest decimal of a double is
rounded to it (`roundsTo_shortest`), so it is read as it (`ofDecimal?_of_roundsTo`).
-/

set_option autoImplicit false

namespace Scriptlet

open Text

/-! ## Decimals that are settled first -/

namespace Double

variable {negative : Bool} {digits : Nat} {exponent : Int}

theorem ofDecimal?_zero (negative : Bool) (exponent : Int) :
    ofDecimal? negative 0 exponent = some (zero negative) := by
  rw [ofDecimal?, if_pos rfl]

theorem ofDecimal?_of_large (some_ : digits ≠ 0) (large : 400 < digitCount digits + exponent) :
    ofDecimal? negative digits exponent = none := by
  rw [ofDecimal?, if_neg some_, if_pos large]

theorem ofDecimal?_of_small (some_ : digits ≠ 0) (small : digitCount digits + exponent < -400) :
    ofDecimal? negative digits exponent = some (zero negative) := by
  rw [ofDecimal?, if_neg some_, if_neg (by omega), if_pos small]

/-! ## Signs -/

theorem ofQuotient?_eq_map (negative : Bool) (num den : Nat) :
    ofQuotient? negative num den = (ofQuotient? false num den).map ({ · with negative }) := by
  unfold ofQuotient?
  split_ifs <;> rfl

/-- The sign is put before what the decimal is read as without. -/
theorem ofDecimal?_eq_map (negative : Bool) (digits : Nat) (exponent : Int) :
    ofDecimal? negative digits exponent = (ofDecimal? false digits exponent).map ({ · with negative }) := by
  unfold ofDecimal?
  dsimp only
  split_ifs
  · rfl
  · rfl
  · rfl
  · exact ofQuotient?_eq_map _ _ _
  · exact ofQuotient?_eq_map _ _ _

theorem negative_of_ofDecimal? {d : Double} (read : ofDecimal? negative digits exponent = some d) :
    d.negative = negative := by
  rw [ofDecimal?_eq_map] at read
  obtain ⟨_, _, rfl⟩ := Option.map_eq_some_iff.mp read
  rfl

end Double

/-! ## Exact values -/

namespace Decimal

/-- The exact value of a decimal. -/
def value (d : Decimal) : ℚ :=
  d.digits * 10 ^ d.exponent

/-- The exact value is rounded to the number of units. -/
def RoundsTo (d : Decimal) (units : Nat) : Prop :=
  ∀ num den : Nat, 0 < den → d.value * Double.one = num / den → Double.nearest num den = units

variable {d : Decimal} {units : Nat}

theorem RoundsTo.of_value_eq {other : Decimal} (rounds : d.RoundsTo units)
    (same : other.value = d.value) : other.RoundsTo units := by
  unfold RoundsTo
  rw [same]
  exact rounds

/-- One quotient decides what a decimal is rounded to. -/
theorem roundsTo_of_nearest {num den : Nat} (pos : 0 < den) (exact_ : d.value * Double.one = num / den)
    (rounded : Double.nearest num den = units) : d.RoundsTo units := by
  intro num' den' pos' exact'
  have cross : (num' : ℚ) * den = num * den' := by
    have same := exact'.symm.trans exact_
    rwa [div_eq_div_iff (Nat.cast_ne_zero.mpr pos'.ne') (Nat.cast_ne_zero.mpr pos.ne')] at same
  rw [← rounded]
  exact Double.nearest_congr pos' pos (by exact_mod_cast cross)

/-- The number of units that a decimal is, as a quotient. -/
theorem units_eq (d : Decimal) : d.value * Double.one =
    ((d.digits * 10 ^ d.exponent.toNat * Double.one : Nat) : ℚ) / (10 ^ (-d.exponent).toNat : Nat) := by
  have power : (10 : ℚ) ^ d.exponent = 10 ^ d.exponent.toNat / 10 ^ (-d.exponent).toNat := by
    rcases Int.le_total 0 d.exponent with sign | sign
    · have none_ : (-d.exponent).toNat = 0 := by omega
      rw [none_, pow_zero, div_one, ← zpow_natCast, Int.toNat_of_nonneg sign]
    · have none_ : d.exponent.toNat = 0 := by omega
      rw [none_, pow_zero, one_div, ← zpow_natCast, ← zpow_neg, Int.toNat_of_nonneg (by omega), neg_neg]
  rw [value, power]
  push_cast
  ring

/-! ## Magnitudes -/

theorem ten_zpow_le_value (some_ : d.digits ≠ 0) : (10 : ℚ) ^ d.leadingExponent ≤ d.value := by
  have least : ((10 ^ (digitCount d.digits - 1) : Nat) : ℚ) ≤ d.digits := by
    exact_mod_cast ten_pow_le some_
  have split : d.leadingExponent = ((digitCount d.digits - 1 : Nat) : Int) + d.exponent := by
    have := digitCount_pos d.digits
    unfold leadingExponent
    omega
  rw [split, zpow_add₀ (by norm_num), zpow_natCast, value]
  exact mul_le_mul_of_nonneg_right (by exact_mod_cast least) (zpow_nonneg (by norm_num) _)

theorem value_lt_ten_zpow (d : Decimal) : d.value < (10 : ℚ) ^ (d.leadingExponent + 1) := by
  have most : (d.digits : ℚ) < ((10 ^ digitCount d.digits : Nat) : ℚ) := by
    exact_mod_cast lt_ten_pow_digitCount d.digits
  have split : d.leadingExponent + 1 = (digitCount d.digits : Int) + d.exponent := by
    unfold leadingExponent
    omega
  rw [split, zpow_add₀ (by norm_num), zpow_natCast, value]
  exact mul_lt_mul_of_pos_right (by exact_mod_cast most) (zpow_pos (by norm_num) _)

/-! ## What is rounded to a double -/

/-- What is rounded to some units is a quotient that is. -/
theorem RoundsTo.exists_quotient (rounds : d.RoundsTo units) : ∃ num den : Nat, 0 < den ∧
    d.value * Double.one = num / den ∧ Double.nearest num den = units := by
  have pos : 0 < 10 ^ (-d.exponent).toNat := Nat.pow_pos (by decide)
  exact ⟨_, _, pos, d.units_eq, rounds _ _ pos d.units_eq⟩

/-- What is rounded to some units is half of one at least. -/
theorem RoundsTo.half_le (rounds : d.RoundsTo units) (some_ : units ≠ 0) :
    1 ≤ 2 * (d.value * Double.one) := by
  obtain ⟨num, den, pos, exact_, rfl⟩ := rounds.exists_quotient
  have half : den ≤ 2 * num := Double.le_two_mul_of_nearest_ne_zero some_
  have positive : (0 : ℚ) < den := by exact_mod_cast pos
  rw [exact_, ← mul_div_assoc, le_div_iff₀ positive, one_mul]
  exact_mod_cast half

/-- What is rounded to a double is below the limit. -/
theorem RoundsTo.lt_limit (rounds : d.RoundsTo units) (below : units < Double.past) :
    d.value * Double.one < Double.limit := by
  obtain ⟨num, den, pos, exact_, rfl⟩ := rounds.exists_quotient
  have less : num < Double.limit * den := (Double.nearest_lt_past_iff pos).mp below
  rw [exact_, div_lt_iff₀ (by exact_mod_cast pos)]
  exact_mod_cast less

/-- The first digit of what is rounded to some units does not count a power of ten below that of half a
unit. -/
theorem RoundsTo.le_leadingExponent (rounds : d.RoundsTo units) (some_ : units ≠ 0) {k : Nat}
    (fine : 2 * Double.one ≤ 10 ^ k) : -(k : Int) ≤ d.leadingExponent := by
  have most : d.value * Double.one < 10 ^ (d.leadingExponent + 1) * Double.one :=
    mul_lt_mul_of_pos_right d.value_lt_ten_zpow Double.one_cast_pos
  have edge : 2 * (Double.one : ℚ) ≤ 10 ^ k := by exact_mod_cast fine
  have product : (1 : ℚ) < 10 ^ (d.leadingExponent + 1 + k) := by
    rw [zpow_add₀ (by norm_num), zpow_natCast]
    calc (1 : ℚ) ≤ 2 * (d.value * Double.one) := rounds.half_le some_
      _ < 2 * (10 ^ (d.leadingExponent + 1) * Double.one) := by linarith
      _ = 10 ^ (d.leadingExponent + 1) * (2 * Double.one) := by ring
      _ ≤ 10 ^ (d.leadingExponent + 1) * 10 ^ k :=
        mul_le_mul_of_nonneg_left edge (zpow_nonneg (by norm_num) _)
  have exponent := (one_lt_zpow_iff_right₀ (by norm_num)).mp product
  omega

/-- Nor does that of what is rounded to a double count a power of ten past all doubles. -/
theorem RoundsTo.leadingExponent_lt (rounds : d.RoundsTo units) (below : units < Double.past)
    (digits : d.digits ≠ 0) {k : Nat} (large : Double.limit ≤ 10 ^ k * Double.one) :
    d.leadingExponent < k := by
  have edge : (Double.limit : ℚ) ≤ 10 ^ k * Double.one := by exact_mod_cast large
  have power : (10 : ℚ) ^ d.leadingExponent < 10 ^ (k : Int) := by
    rw [zpow_natCast]
    refine lt_of_mul_lt_mul_right ?_ Double.one_cast_pos.le
    calc (10 : ℚ) ^ d.leadingExponent * Double.one ≤ d.value * Double.one :=
          mul_le_mul_of_nonneg_right (ten_zpow_le_value digits) Double.one_cast_pos.le
      _ < Double.limit := rounds.lt_limit below
      _ ≤ 10 ^ k * Double.one := edge
  exact (zpow_lt_zpow_iff_right₀ (by norm_num)).mp power

/-- Three powers of two are within one of ten. -/
theorem two_pow_le_ten_pow {k m : Nat} (le : k ≤ 3 * m) : 2 ^ k ≤ 10 ^ m := by
  calc 2 ^ k ≤ 2 ^ (3 * m) := Nat.pow_le_pow_right Nat.two_pos le
    _ = (2 ^ 3) ^ m := Nat.pow_mul 2 3 m
    _ ≤ 10 ^ m := Nat.pow_le_pow_left (by decide) m

theorem limit_le_ten_pow {m : Nat} (far : 400 ≤ m) : Double.limit ≤ 10 ^ m * Double.one := by
  have powers {k : Nat} (le : k ≤ 3 * m) : 2 ^ (k + Double.places) ≤ 10 ^ m * Double.one := by
    rw [Nat.pow_add]
    exact Nat.mul_le_mul_right _ (two_pow_le_ten_pow le)
  exact Double.limit_le_past.trans (powers (by omega))

theorem two_mul_one_le_ten_pow {m : Nat} (far : 400 ≤ m) : 2 * Double.one ≤ 10 ^ m := by
  have count := Double.places_eq
  rw [Double.one, ← Nat.pow_succ']
  exact two_pow_le_ten_pow (by omega)

/-- The first digit of what is rounded to a double counts a power of ten at most 400 away from one. -/
theorem RoundsTo.leadingExponent_bounds (rounds : d.RoundsTo units) {m : Nat} (far : 400 ≤ m) :
    (units ≠ 0 → -(m : Int) ≤ d.leadingExponent) ∧
      (units < Double.past → d.digits ≠ 0 → d.leadingExponent < m) :=
  ⟨fun some_ => rounds.le_leadingExponent some_ (two_mul_one_le_ten_pow far),
    fun below digits => rounds.leadingExponent_lt below digits (limit_le_ten_pow far)⟩

theorem RoundsTo.digits_ne_zero (rounds : d.RoundsTo units) (some_ : units ≠ 0) :
    d.digits ≠ 0 := by
  intro zero
  have half := rounds.half_le some_
  rw [value, zero, Nat.cast_zero, zero_mul, zero_mul] at half
  exact absurd half (by norm_num only)

theorem ofQuotient?_of_roundsTo {negative : Bool} {num den : Nat} (rounds : d.RoundsTo units)
    (representable : Double.Representable units) (pos : 0 < den)
    (exact_ : d.value * Double.one = num / den) :
    Double.ofQuotient? negative num den = some ⟨negative, units, representable⟩ := by
  obtain rfl := rounds num den pos exact_
  rw [Double.ofQuotient?, dif_pos representable.2]

/-- Decimals that are settled first come to what rounding makes of them. -/
theorem ofDecimal?_eq_ofQuotient? (negative : Bool) (d : Decimal) :
    Double.ofDecimal? negative d.digits d.exponent = Double.ofQuotient? negative
      (d.digits * 10 ^ d.exponent.toNat * Double.one) (10 ^ (-d.exponent).toNat) := by
  have rounds : d.RoundsTo (Double.nearest (d.digits * 10 ^ d.exponent.toNat * Double.one)
      (10 ^ (-d.exponent).toNat)) := roundsTo_of_nearest (Nat.pow_pos (by decide)) d.units_eq rfl
  unfold Double.ofDecimal?
  dsimp only
  split_ifs with zero large small sign
  · refine (Double.ofQuotient?_of_nearest_eq_zero ?_).symm
    rw [zero, Nat.zero_mul, Nat.zero_mul, Double.nearest_zero]
  · rw [Double.ofQuotient?, dif_neg fun below => ?_]
    have most := (rounds.leadingExponent_bounds (Nat.le_refl 400)).2 below zero
    unfold leadingExponent at most
    omega
  · refine (Double.ofQuotient?_of_nearest_eq_zero ?_).symm
    by_contra some_
    have least := (rounds.leadingExponent_bounds (Nat.le_refl 400)).1 some_
    unfold leadingExponent at least
    omega
  · have none_ : (-d.exponent).toNat = 0 := by omega
    rw [none_, Nat.pow_zero]
  · have none_ : d.exponent.toNat = 0 := by omega
    rw [none_, Nat.pow_zero, Nat.mul_one]

/-- A decimal that is rounded to a double is read as it. -/
theorem ofDecimal?_of_roundsTo {negative : Bool} (rounds : d.RoundsTo units)
    (representable : Double.Representable units) :
    Double.ofDecimal? negative d.digits d.exponent = some ⟨negative, units, representable⟩ := by
  rw [ofDecimal?_eq_ofQuotient?]
  exact ofQuotient?_of_roundsTo rounds representable (Nat.pow_pos (by decide)) d.units_eq

theorem value_nonneg (d : Decimal) : 0 ≤ d.value :=
  mul_nonneg (Nat.cast_nonneg _) (zpow_nonneg (by norm_num) _)

/-- The number of units that a decimal is, over the denominator of its quotient. -/
theorem value_mul_den (d : Decimal) : d.value * Double.one * (10 ^ (-d.exponent).toNat : Nat) =
    (d.digits * 10 ^ d.exponent.toNat * Double.one : Nat) := by
  rw [d.units_eq, div_mul_cancel₀]
  exact Nat.cast_ne_zero.mpr (Nat.pow_pos (by decide)).ne'

/-- No double is read exactly where the exact value overflows. -/
theorem ofDecimal?_eq_none_iff {negative : Bool} :
    Double.ofDecimal? negative d.digits d.exponent = none ↔ Double.Overflows d.value := by
  have pos : 0 < 10 ^ (-d.exponent).toNat := Nat.pow_pos (by decide)
  have exact_ := d.value_mul_den
  rw [← abs_of_nonneg d.value_nonneg] at exact_
  rw [ofDecimal?_eq_ofQuotient?, Double.ofQuotient?_eq_none_iff pos, Double.overflows_iff pos exact_]

/-- The double that is read is the nearest one, and it has the sign. -/
theorem isNearest_of_ofDecimal? {negative : Bool} {double : Double}
    (found : Double.ofDecimal? negative d.digits d.exponent = some double) :
    double.negative = negative ∧ double.IsNearest (Double.withSign negative d.value) := by
  rw [ofDecimal?_eq_ofQuotient?] at found
  exact ⟨Double.negative_of_ofQuotient? found,
    Double.isNearest_of_ofQuotient? (Nat.pow_pos (by decide)) d.value_nonneg d.value_mul_den found⟩

end Decimal

namespace Double

variable {units : Nat}

/-- The shortest decimal of a double is rounded to it. -/
theorem roundsTo_shortest (exact_ : gap units ∣ units) : (shortest units).RoundsTo units := by
  obtain ⟨cut, exponent, reads⟩ := readsBack_shortest exact_
  rw [readsBack, decide_eq_true_eq] at reads
  refine Decimal.roundsTo_of_nearest unitDigits_pos ?_ reads
  have pos : (0 : ℚ) < unitDigits := by exact_mod_cast unitDigits_pos
  have split : (10 : ℚ) ^ places = one * unitDigits := by
    have factors : 10 ^ places = one * unitDigits := by
      rw [one, unitDigits, ← Nat.mul_pow]
    exact_mod_cast factors
  have one_ := one_cast_pos
  have power : (10 : ℚ) ^ (shortest units).exponent = 10 ^ cut / (one * unitDigits) := by
    have counted : (1074 : Int) = places := by rw [places_eq, Nat.cast_ofNat]
    rw [exponent, counted, zpow_sub₀ (by norm_num), zpow_natCast, zpow_natCast, split]
  rw [Decimal.value, power]
  push_cast
  field_simp

end Double

end Scriptlet
