import Scriptlet.Proofs.Double.Overflow
import Scriptlet.Proofs.Double.Shortest
import Scriptlet.Proofs.Double.Signed
import Scriptlet.Statics.Math

/-!
# Raising by one half

To round a double half up (`halfUp`), it is raised by one half and its integer part is taken (`raisedInt`). The
sum is rounded to a double, and that goes past an integer in two places (`RaisedPast`). Just below one half the
sum is just below one, where doubles have no room for it. And beyond `2 ^ 52` there are no halves, so that the
sum of an integer and one half is in the middle of two doubles and goes to the even one. Everywhere else
the integer part is that of the exact sum (`raisedInt_of_not_raisedPast`).

Up to `2 ^ 52` the sum is exact unless it takes the double across a power of two, and then it is at most an
integer and one half, which is a double itself.
-/

set_option autoImplicit false

namespace Scriptlet.Double

/-- The number of units in one half. -/
def halfOne : Nat := 2 ^ (places - 1)

/-- The integer that the exact value is rounded to, up where it is in the middle of two. -/
def halfUp (d : Double) : Int :=
  ⌊d.value + 1 / 2⌋

/-- The integer part of what the sum of a double and one half is rounded to. -/
def raisedInt (d : Double) : Int :=
  (roundUnits (d.signed + halfOne)).fdiv one

variable {d : Double} {m n e t x : Int} {k : Nat}

theorem places_sub_add {k : Nat} (le : k ≤ 1074) : places - k + k = places :=
  Nat.sub_add_cancel (places_eq ▸ le)

theorem two_mul_halfOne : 2 * halfOne = one := by
  rw [halfOne, one, ← Nat.pow_succ', Nat.succ_eq_add_one, places_sub_add (by decide)]

theorem signed_half : half.signed = halfOne := by
  have sign : half.negative = false := rfl
  have units : half.units = 2 ^ (places - 1) * 1 := rfl
  rw [signed, sign, units, Nat.mul_one, halfOne, if_neg Bool.false_ne_true]

theorem value_half : half.value = 1 / 2 := by
  have twice : (one : ℚ) = 2 * halfOne := by exact_mod_cast two_mul_halfOne.symm
  rw [value, signed_half, Int.cast_natCast, div_eq_div_iff one_cast_pos.ne' two_ne_zero, twice]
  ring

/-! ## Integer parts -/

theorem fdiv_one_eq_iff : n.fdiv one = e ↔ e * one ≤ n ∧ n < e * one + one := by
  rw [Int.fdiv_eq_ediv_of_nonneg _ intCast_one_pos.le, le_antisymm_iff,
    Int.le_ediv_iff_mul_le intCast_one_pos, ← Int.lt_add_one_iff, Int.ediv_lt_iff_lt_mul intCast_one_pos,
    Int.add_mul, Int.one_mul, and_comm]

theorem halfUp_eq (d : Double) : d.halfUp = (d.signed + halfOne).fdiv one := by
  rw [halfUp, ← value_half, value, value, signed_half, ← add_div, ← Int.cast_add,
    Rat.floor_intCast_div_natCast, Int.fdiv_eq_ediv_of_nonneg _ (Int.natCast_nonneg one)]

/-- The exact sum is between the integer and the next one. -/
theorem halfUp_bounds (d : Double) :
    d.halfUp * one ≤ d.signed + halfOne ∧ d.signed + halfOne < d.halfUp * one + one :=
  fdiv_one_eq_iff.mp d.halfUp_eq.symm

/-- Rounding keeps the integer part, if there is a double between the number and the next integer. -/
theorem fdiv_roundUnits_eq (least : e * one ≤ t) (small : e.natAbs ≤ 2 ^ 53) (le : t ≤ x)
    (double : roundUnits x = x) (below : x < e * one + one) : (roundUnits t).fdiv one = e := by
  refine fdiv_one_eq_iff.mpr ⟨?_, ?_⟩
  · rw [← roundUnits_mul_one small]
    exact roundUnits_mono least
  · refine Int.lt_of_le_of_lt ?_ below
    rw [← double]
    exact roundUnits_mono le

/-- Between one integer and the next there is no power of two. -/
theorem log2_le_of_within {a b : Nat} (pos : 0 < k) (least : k * one ≤ a)
    (below : b < k * one + one) : b.log2 ≤ a.log2 := by
  have single : one ≤ k * one := Nat.le_mul_of_pos_left one pos
  have some_ : a ≠ 0 := (one_pos.trans_le (single.trans least)).ne'
  rcases Nat.eq_zero_or_pos b with rfl | positive
  · exact Nat.zero_le _
  · have power := Nat.log2_self_le positive.ne'
    refine (Nat.le_log2 some_).mpr ?_
    rcases Nat.lt_or_ge b.log2 places with low | high
    · exact (Nat.pow_le_pow_right Nat.two_pos low.le).trans (single.trans least)
    · have split : 2 ^ b.log2 = 2 ^ (b.log2 - places) * one := by
        rw [one, ← Nat.pow_add, Nat.sub_add_cancel high]
      rw [split] at power ⊢
      have less : 2 ^ (b.log2 - places) < k + 1 := by
        refine Nat.lt_of_mul_lt_mul_right (a := one) ?_
        rw [Nat.add_mul, Nat.one_mul]
        exact power.trans_lt below
      exact (Nat.mul_le_mul_right one (Nat.le_of_lt_succ less)).trans least

/-! ## Up to `2 ^ 52` -/

/-- The sum is exact, unless it takes the double across a power of two. -/
theorem roundUnits_raised (log2_ : (d.signed + halfOne).natAbs.log2 ≤ d.units.log2)
    (small : (d.signed + halfOne).natAbs < 2 ^ 52 * one) :
    roundUnits (d.signed + halfOne) = d.signed + halfOne := by
  have exponent : (d.signed + halfOne).natAbs.log2 < 52 + places := by
    rcases Nat.eq_zero_or_pos (d.signed + halfOne).natAbs with zero | pos
    · rw [zero, Nat.log2_zero]
      omega
    · rw [Nat.log2_lt pos.ne', Nat.pow_add, ← one]
      exact small
  have fine : gap (d.signed + halfOne).natAbs ∣ d.units :=
    (Nat.pow_dvd_pow 2 (Nat.sub_le_sub_right log2_ 52)).trans d.representable.1
  have half : gap (d.signed + halfOne).natAbs ∣ halfOne :=
    Nat.pow_dvd_pow 2 (by omega)
  refine roundUnits_of_dvd (Int.natCast_dvd.mp ((Int.dvd_add_right ?_).mpr ?_))
  · rw [Int.natCast_dvd, natAbs_signed]
    exact fine
  · exact Int.natCast_dvd_natCast.mpr half

/-- A double at or below its integer is raised to that integer and one half at most. -/
theorem raisedInt_of_le (le : d.signed ≤ d.halfUp * one) (lower : -2 ^ 52 ≤ d.halfUp)
    (upper : d.halfUp < 2 ^ 52) : d.raisedInt = d.halfUp := by
  have pos := intCast_one_pos
  have twice : (one : Int) = 2 * halfOne := by exact_mod_cast two_mul_halfOne.symm
  have middle : d.halfUp * one + halfOne = (2 * d.halfUp + 1) * halfOne := by
    rw [twice]
    ring
  have double : roundUnits (d.halfUp * one + halfOne) = d.halfUp * one + halfOne := by
    rw [middle]
    exact roundUnits_mul_two_pow (places - 1) (by omega)
  exact fdiv_roundUnits_eq d.halfUp_bounds.1 (by omega) (by omega) double (by omega)

/-- A double above its integer is raised exactly, if that is not zero. -/
theorem raisedInt_of_gt (above : d.halfUp * one < d.signed) (lower : -2 ^ 52 ≤ d.halfUp)
    (upper : d.halfUp < 2 ^ 52) (some_ : d.halfUp ≠ 0) : d.raisedInt = d.halfUp := by
  have pos := intCast_one_pos
  have twice := two_mul_halfOne
  have units := d.natAbs_signed
  obtain ⟨least, below⟩ := d.halfUp_bounds
  rw [raisedInt]
  generalize d.halfUp = e at *
  have lowest : -2 ^ 52 * (one : Int) ≤ e * one := Int.mul_le_mul_of_nonneg_right lower pos.le
  have highest : (e + 1) * (one : Int) ≤ 2 ^ 52 * one :=
    Int.mul_le_mul_of_nonneg_right (by omega) pos.le
  rw [Int.add_mul, Int.one_mul] at highest
  have exact_ : roundUnits (d.signed + halfOne) = d.signed + halfOne := by
    refine roundUnits_raised ?_ (by omega)
    rw [← units]
    rcases Int.lt_or_gt_of_ne some_ with negative | positive
    · -- Below zero the sum is the number of the smaller magnitude.
      have sign : (e + 1) * (one : Int) ≤ 0 * one := Int.mul_le_mul_of_nonneg_right (by omega) pos.le
      rw [Int.add_mul, Int.one_mul, Int.zero_mul] at sign
      exact log2_mono (by omega)
    · obtain ⟨k, rfl⟩ := Int.eq_ofNat_of_zero_le positive.le
      have cast : ((k * one : Nat) : Int) = k * one := Int.natCast_mul k one
      have sign : 0 < k * one := Nat.mul_pos (by omega) one_pos
      exact log2_le_of_within (k := k) (by omega) (by omega) (by omega)
  rw [exact_]
  exact fdiv_one_eq_iff.mpr ⟨least, below⟩

/-! ## Below one half -/

/-- The units of the last double below one half. -/
def belowHalf : Nat := (2 ^ 53 - 1) * 2 ^ (places - 54)

theorem one_eq : one = 2 ^ (places - 54 + 54) := by
  rw [one, places_sub_add (by decide)]

theorem halfOne_eq : halfOne = 2 ^ (places - 54 + 53) := by
  have count := places_eq
  rw [halfOne]
  congr 1
  omega

theorem belowHalf_bounds : 0 < belowHalf ∧ belowHalf < halfOne := by
  have pos := Nat.two_pow_pos (places - 54)
  rw [belowHalf, halfOne_eq, Nat.pow_add]
  generalize 2 ^ (places - 54) = step at pos ⊢
  omega

/-- From the middle between the last double below one and one on, a number is rounded to one. -/
theorem one_le_nearest_iff {units : Nat} (least : halfOne ≤ units) (below : units < one) :
    one ≤ nearest units 1 ↔ belowHalf + halfOne ≤ units := by
  have some_ : units ≠ 0 := ((Nat.two_pow_pos (places - 1)).trans_le least).ne'
  have edge : (2 ^ 54 - 1) * 2 ^ (places - 54) * 1 = belowHalf + halfOne := by
    rw [belowHalf, halfOne_eq, Nat.mul_one, Nat.pow_add, Nat.mul_comm _ (2 ^ 53), ← Nat.add_mul]
  rw [halfOne_eq] at least
  rw [one_eq] at below ⊢
  have last : (units / 1).log2 = places - 54 + 53 := by
    rw [Nat.div_one]
    exact (Nat.log2_eq_iff some_).mpr ⟨least, below⟩
  rw [← edge, ← two_pow_le_nearest_iff_of_log2 Nat.one_pos last]

/-- Only one double below one half is as near to it as that. -/
theorem eq_belowHalf (least : belowHalf ≤ d.units) (below : d.units < halfOne) :
    d.units = belowHalf := by
  have power : 2 ^ 52 * 2 ^ (places - 54) ≤ belowHalf := Nat.mul_le_mul_right _ (by decide)
  have exponent : 52 + (places - 54) ≤ d.units.log2 := by
    rw [Nat.le_log2 (belowHalf_bounds.1.trans_le least).ne', Nat.pow_add]
    exact power.trans least
  have fine : 2 ^ (places - 54) ∣ d.units :=
    (Nat.pow_dvd_pow 2 (Nat.le_sub_of_add_le' exponent)).trans d.representable.1
  obtain ⟨k, value⟩ := fine
  rw [value] at least below ⊢
  rw [belowHalf, Nat.mul_comm (2 ^ (places - 54))] at *
  rw [halfOne_eq, Nat.pow_add, Nat.mul_comm _ (2 ^ 53)] at below
  have most := Nat.lt_of_mul_lt_mul_right below
  have enough := Nat.le_of_mul_le_mul_right least (Nat.two_pow_pos (places - 54))
  rw [Nat.le_antisymm (Nat.le_sub_one_of_lt most) enough]

/-- The last double below one half is raised to one. -/
theorem raisedInt_of_belowHalf (last : d.signed = belowHalf) : d.raisedInt = 1 := by
  have twice := two_mul_halfOne
  obtain ⟨pos, below⟩ := belowHalf_bounds
  have least : one ≤ nearest (belowHalf + halfOne) 1 :=
    (one_le_nearest_iff (by omega) (by omega)).mpr (Nat.le_refl _)
  have most := roundUnits_mono (m := (belowHalf + halfOne : Nat)) (n := 1 * one) (by omega)
  rw [roundUnits_mul_one (by decide), roundUnits_natCast] at most
  rw [raisedInt, last, ← Int.natCast_add, roundUnits_natCast, fdiv_one_eq_iff]
  omega

/-- Any other one is raised to less than one. -/
theorem raisedInt_of_lt_half (pos : 0 < d.signed) (below : d.signed < halfOne)
    (other : d.signed ≠ belowHalf) : d.raisedInt = 0 := by
  have twice := two_mul_halfOne
  have units : d.signed = d.units := by
    have magnitude := d.natAbs_signed
    omega
  rw [units] at pos below other
  have edge : one ≤ nearest (d.units + halfOne) 1 ↔ belowHalf + halfOne ≤ d.units + halfOne :=
    one_le_nearest_iff (by omega) (by omega)
  have small : d.units < belowHalf := by
    refine Nat.lt_of_not_le fun least => other ?_
    exact_mod_cast eq_belowHalf least (by exact_mod_cast below)
  rw [raisedInt, units, ← Int.natCast_add, roundUnits_natCast, fdiv_one_eq_iff]
  omega

/-! ## From `2 ^ 52` on -/

/-- Up to `2 ^ 53` an integer and one half is the middle of two doubles, and rounded to the even one. -/
theorem nearest_add_half_of_lt (least : 2 ^ 52 ≤ k) (below : k < 2 ^ 53) :
    nearest (k * one + halfOne) 1 = (k + k % 2) * one := by
  have twice := two_mul_halfOne
  have pos : 0 < halfOne := Nat.two_pow_pos (places - 1)
  have lowest : 2 ^ 52 * one ≤ k * one := Nat.mul_le_mul_right one least
  have highest : (k + 1) * one ≤ 2 ^ 53 * one := Nat.mul_le_mul_right one below
  rw [Nat.add_mul, Nat.one_mul] at highest
  have last : ((k * one + halfOne) / 1).log2 = 52 + places := by
    have next : 52 + places + 1 = 53 + places := Nat.add_right_comm 52 places 1
    rw [Nat.div_one, Nat.log2_eq_iff (by omega), next, Nat.pow_add, Nat.pow_add, ← one]
    exact ⟨by omega, by omega⟩
  have gap_ : gap ((k * one + halfOne) / 1) = one := by
    rw [gap, last, Nat.add_sub_cancel_left, one]
  have left : (k * one + halfOne) % one = halfOne := by
    rw [Nat.mul_comm, Nat.mul_add_mod, Nat.mod_eq_of_lt (by omega)]
  have whole : (k * one + halfOne) / one = k := by
    rw [Nat.mul_comm, Nat.mul_add_div one_pos, Nat.div_eq_of_lt (by omega), Nat.add_zero]
  rw [nearest, gap_, Nat.one_mul, roundQuotient, left, whole, if_neg (by omega), if_neg (by omega),
    Nat.mul_comm]

/-- From `2 ^ 53` on doubles are even integers. -/
theorem two_mul_one_dvd_gap (large : 2 ^ 53 ≤ k) : 2 * one ∣ gap (k * one) := by
  have least : 2 ^ (53 + places) ≤ k * one := by
    rw [Nat.pow_add, ← one]
    exact Nat.mul_le_mul_right one large
  have some_ : k * one ≠ 0 := ((Nat.two_pow_pos _).trans_le least).ne'
  have exponent := (Nat.le_log2 some_).mpr least
  rw [one, ← Nat.pow_succ']
  exact Nat.pow_dvd_pow 2 (by rw [← one]; omega)

theorem even_of_large (large : 2 ^ 53 ≤ k) (exact_ : gap (k * one) ∣ k * one) : k % 2 = 0 :=
  Nat.mod_eq_zero_of_dvd
    (Nat.dvd_of_mul_dvd_mul_right one_pos ((two_mul_one_dvd_gap large).trans exact_))

/-- One half above such an integer is lost. -/
theorem nearest_add_half_of_le (large : 2 ^ 53 ≤ k) (exact_ : gap (k * one) ∣ k * one) :
    nearest (k * one + halfOne) 1 = k * one := by
  have twice := two_mul_halfOne
  have pos : 0 < halfOne := Nat.two_pow_pos (places - 1)
  have coarse := Nat.le_of_dvd (gap_pos _) (two_mul_one_dvd_gap large)
  have same : ((k * one + halfOne) / 1).log2 = (k * one).log2 := by
    rw [Nat.div_one]
    exact Nat.le_antisymm (log2_le_of_within (k := k) (by omega) (Nat.le_refl _) (by omega))
      (log2_mono (Nat.le_add_right _ _))
  have gap_ : gap ((k * one + halfOne) / 1) = gap (k * one) := by rw [gap, same, gap]
  rw [nearest, gap_, Nat.one_mul]
  generalize gap (k * one) = step at exact_ coarse ⊢
  obtain ⟨n, value⟩ := exact_
  rw [value, roundQuotient, Nat.mul_add_mod, Nat.mod_eq_of_lt (by omega), if_pos (by omega),
    Nat.mul_add_div (by omega), Nat.div_eq_of_lt (by omega), Nat.add_zero]

/-- One half below it is lost too. -/
theorem nearest_sub_half_of_le (large : 2 ^ 53 ≤ k) (exact_ : gap (k * one) ∣ k * one) :
    nearest (k * one - halfOne) 1 = k * one := by
  have twice := two_mul_halfOne
  have coarse := Nat.le_of_dvd (gap_pos _) (two_mul_one_dvd_gap large)
  have positive : one ≤ k * one := Nat.le_mul_of_pos_left one (by omega)
  have most : nearest (k * one - halfOne) 1 ≤ nearest (k * one) 1 :=
    nearest_mono Nat.one_pos Nat.one_pos (Nat.mul_le_mul_right 1 (Nat.sub_le _ _))
  rw [nearest_self exact_] at most
  exact Nat.le_antisymm most (le_nearest_of_close Nat.one_pos exact_ (by omega))

/-- Beyond `2 ^ 52` the sum of an integer and one half is rounded to the next integer if that is even, and else
to the integer itself. -/
theorem roundUnits_mul_one_add_half (large : 2 ^ 52 ≤ m ∨ m < -2 ^ 52)
    (exact_ : gap (m.natAbs * one) ∣ m.natAbs * one) :
    roundUnits (m * one + halfOne) = (m + m % 2) * one := by
  have twice := two_mul_halfOne
  rcases large with positive | negative
  · obtain ⟨k, rfl⟩ := Int.eq_ofNat_of_zero_le (by omega : 0 ≤ m)
    rw [Int.natAbs_natCast] at exact_
    have rounded : nearest (k * one + halfOne) 1 = (k + k % 2) * one := by
      rcases Nat.lt_or_ge k (2 ^ 53) with below | above
      · exact nearest_add_half_of_lt (by omega) below
      · rw [nearest_add_half_of_le above exact_, even_of_large above exact_, Nat.add_zero]
    rw [← Int.natCast_mul, ← Int.natCast_add, roundUnits_natCast, rounded, Int.natCast_mul,
      Int.natCast_add, Int.natCast_emod]
    rfl
  · obtain ⟨k, rfl⟩ : ∃ k : Nat, m = -k := ⟨m.natAbs, by omega⟩
    rw [Int.natAbs_neg, Int.natAbs_natCast] at exact_
    have positive : one ≤ k * one := Nat.le_mul_of_pos_left one (by omega)
    have sign : -(k : Int) * one + halfOne = -((k * one - halfOne : Nat) : Int) := by
      rw [Int.natCast_sub (by omega), Int.natCast_mul]
      ring
    rw [sign, roundUnits_neg_natCast]
    rcases Nat.lt_or_ge (2 ^ 53) k with above | below
    · have parity : -(k : Int) + -(k : Int) % 2 = -(k : Int) := by
        have even := even_of_large above.le exact_
        omega
      rw [nearest_sub_half_of_le above.le exact_, parity, Int.neg_mul, Int.natCast_mul]
    · -- The magnitude is the integer before this one, and one half.
      obtain ⟨j, rfl⟩ : ∃ j, k = j + 1 := ⟨k - 1, by omega⟩
      have before : (j + 1) * one - halfOne = j * one + halfOne := by
        rw [Nat.add_mul, Nat.one_mul]
        omega
      have parity : -((j + 1 : Nat) : Int) + -((j + 1 : Nat) : Int) % 2 =
          -((j + j % 2 : Nat) : Int) := by omega
      rw [before, nearest_add_half_of_lt (by omega) (by omega), parity, Int.neg_mul, Int.natCast_mul]

/-- Below `2 ^ 52` nothing is raised past it. -/
theorem raisedInt_of_top (top : d.halfUp = 2 ^ 52) (below : d.signed < 2 ^ 52 * (one : Int)) :
    d.raisedInt = d.halfUp := by
  have pos := intCast_one_pos
  have least := d.halfUp_bounds.1
  rw [top] at least ⊢
  have lower : roundUnits (2 ^ 52 * one) ≤ roundUnits (d.signed + halfOne) := roundUnits_mono least
  have upper : roundUnits (d.signed + halfOne) ≤ roundUnits (2 ^ 52 * one + halfOne : Nat) :=
    roundUnits_mono (by omega)
  rw [roundUnits_mul_one (by decide)] at lower
  rw [roundUnits_natCast, nearest_add_half_of_lt (Nat.le_refl _) (by decide)] at upper
  exact fdiv_one_eq_iff.mpr ⟨lower, by omega⟩

theorem value_eq_intCast_iff : d.value = m ↔ d.signed = m * one := by
  rw [value, div_eq_iff one_cast_pos.ne']
  exact_mod_cast Iff.rfl

theorem halfUp_of_value_eq (value : d.value = m) : d.halfUp = m := by
  rw [halfUp, value, Int.floor_intCast_add, Int.floor_eq_zero_iff.mpr, Int.add_zero]
  norm_num

theorem gap_dvd_of_value_eq (value : d.value = m) : gap (m.natAbs * one) ∣ m.natAbs * one := by
  have units : d.units = m.natAbs * one := by
    rw [← natAbs_signed, value_eq_intCast_iff.mp value, Int.natAbs_mul, Int.natAbs_natCast]
  rw [← units]
  exact d.representable.1

theorem raisedInt_of_value_eq (value : d.value = m) (large : 2 ^ 52 ≤ m ∨ m < -2 ^ 52) :
    d.raisedInt = m + m % 2 := by
  rw [raisedInt, value_eq_intCast_iff.mp value,
    roundUnits_mul_one_add_half large (gap_dvd_of_value_eq value),
    Int.mul_fdiv_cancel _ intCast_one_pos.ne']

/-- Odd integers that are doubles have at most 53 binary digits. -/
theorem lt_of_odd (value : d.value = m) (odd : m % 2 = 1) : |m| < 2 ^ 53 := by
  rw [Int.abs_eq_natAbs]
  refine Int.lt_of_not_ge fun large => ?_
  have even := even_of_large (by omega) (gap_dvd_of_value_eq value)
  omega

/-- From `2 ^ 52` on a double is an integer. -/
theorem exists_value_eq (large : 2 ^ 52 * one ≤ d.units) : ∃ m : Int, d.value = m := by
  have exponent : 52 + places ≤ d.units.log2 := by
    have some_ : d.units ≠ 0 := ((Nat.mul_pos (Nat.two_pow_pos 52) one_pos).trans_le large).ne'
    rw [Nat.le_log2 some_, Nat.pow_add, ← one]
    exact large
  have whole : one ∣ d.units :=
    (Nat.pow_dvd_pow 2 (Nat.le_sub_of_add_le' exponent)).trans d.representable.1
  rw [← natAbs_signed, ← Int.natCast_dvd] at whole
  obtain ⟨m, product⟩ := whole
  exact ⟨m, value_eq_intCast_iff.mpr (product.trans (Int.mul_comm _ _))⟩

/-- Beyond `2 ^ 52` it is the integer that it is rounded to. -/
theorem value_eq_halfUp (large : 2 ^ 52 < d.halfUp) : d.value = d.halfUp := by
  have pos := intCast_one_pos
  have twice := two_mul_halfOne
  have units := d.natAbs_signed
  have least := d.halfUp_bounds.1
  have above : (2 ^ 52 + 1) * (one : Int) ≤ d.halfUp * one :=
    Int.mul_le_mul_of_nonneg_right large pos.le
  rw [Int.add_mul, Int.one_mul] at above
  obtain ⟨m, value⟩ := d.exists_value_eq (by omega)
  rw [halfUp_of_value_eq value, value]

/-! ## Where rounding goes wrong -/

/-- The double is raised past an integer that it is not half way to: it is the last one below one half, or an
odd integer beyond `2 ^ 52`. -/
inductive RaisedPast (d : Double) : Prop where
  | belowHalf (value : d.value = 1 / 2 - 1 / 2 ^ 54)
  | odd (m : Int) (value : d.value = m) (odd : m % 2 = 1) (large : 2 ^ 52 < |m|)

theorem value_eq_belowHalf_iff : d.value = 1 / 2 - 1 / 2 ^ 54 ↔ d.signed = belowHalf := by
  have split : (one : ℚ) = 2 ^ 54 * 2 ^ (places - 54) := by
    rw [one_eq, Nat.cast_pow, Nat.cast_ofNat, pow_add, mul_comm]
  have edge : (1 / 2 - 1 / 2 ^ 54 : ℚ) * one = belowHalf := by
    rw [split, belowHalf]
    push_cast
    ring
  rw [value, div_eq_iff one_cast_pos.ne', edge]
  exact_mod_cast Iff.rfl

theorem halfUp_of_belowHalf (value : d.value = 1 / 2 - 1 / 2 ^ 54) : d.halfUp = 0 := by
  rw [halfUp, value, Int.floor_eq_zero_iff]
  norm_num

/-- What is raised past an integer is rounded to that integer. -/
theorem RaisedPast.raisedInt_eq (past : d.RaisedPast) : d.raisedInt = d.halfUp + 1 := by
  cases past with
  | belowHalf value =>
    rw [halfUp_of_belowHalf value, raisedInt_of_belowHalf (value_eq_belowHalf_iff.mp value)]
    rfl
  | odd m value odd large =>
    rw [lt_abs] at large
    rw [halfUp_of_value_eq value, raisedInt_of_value_eq value (by omega), odd]

/-- It is far from the ends of 64 bits. -/
theorem RaisedPast.small (past : d.RaisedPast) : |d.halfUp| < 2 ^ 53 := by
  cases past with
  | belowHalf value =>
    rw [halfUp_of_belowHalf value]
    decide
  | odd m value odd large =>
    rw [halfUp_of_value_eq value]
    exact lt_of_odd value odd

theorem raisedInt_of_small (lower : -2 ^ 52 * (one : Int) ≤ d.signed)
    (upper : d.signed < 2 ^ 52 * (one : Int)) (other : d.signed ≠ belowHalf) :
    d.raisedInt = d.halfUp := by
  have pos := intCast_one_pos
  have twice := two_mul_halfOne
  obtain ⟨least, below⟩ := d.halfUp_bounds
  have lowest : -2 ^ 52 ≤ d.halfUp := by
    refine Int.le_of_lt_add_one (Int.lt_of_mul_lt_mul_right (a := (one : Int)) ?_ pos.le)
    rw [Int.add_mul, Int.one_mul]
    omega
  have highest : d.halfUp ≤ 2 ^ 52 := by
    refine Int.le_of_lt_add_one (Int.lt_of_mul_lt_mul_right (a := (one : Int)) ?_ pos.le)
    rw [Int.add_mul, Int.one_mul]
    omega
  rcases Int.lt_or_eq_of_le highest with small | top
  · rcases lt_or_ge (d.halfUp * one) d.signed with above | le
    · by_cases zero : d.halfUp = 0
      · rw [zero, Int.zero_mul] at above below
        rw [zero, raisedInt_of_lt_half above (by omega) other]
      · exact raisedInt_of_gt above lowest small zero
    · exact raisedInt_of_le le lowest small
  · exact raisedInt_of_top top upper

/-- Every other double is raised to the integer part of the exact sum. -/
theorem raisedInt_of_not_raisedPast (regular : ¬d.RaisedPast) : d.raisedInt = d.halfUp := by
  by_cases small : -2 ^ 52 * (one : Int) ≤ d.signed ∧ d.signed < 2 ^ 52 * (one : Int)
  · exact raisedInt_of_small small.1 small.2 fun last =>
      regular (.belowHalf (value_eq_belowHalf_iff.mpr last))
  · have units := d.natAbs_signed
    have twice := two_mul_halfOne
    obtain ⟨m, value⟩ := d.exists_value_eq (by omega)
    have range : 2 ^ 52 ≤ m ∨ m < -2 ^ 52 := by
      by_contra inside
      refine small ?_
      rw [value_eq_intCast_iff.mp value]
      exact ⟨Int.mul_le_mul_of_nonneg_right (by omega) intCast_one_pos.le,
        Int.mul_lt_mul_of_pos_right (by omega) intCast_one_pos⟩
    have even : m % 2 ≠ 1 := fun odd => by
      refine regular (.odd m value odd ?_)
      rw [lt_abs]
      omega
    rw [halfUp_of_value_eq value, raisedInt_of_value_eq value range]
    omega

/-- What overflows when it is raised is beyond all integers of 64 bits. -/
theorem lt_halfUp_of_overflows (overflows : Overflows (d.value + half.value)) :
    2 ^ 64 < |d.halfUp| := by
  rw [value_half] at overflows
  have edge : (2 ^ 64 + 1 : ℚ) < |d.value + 1 / 2| := by
    have power : (2 ^ 66 : ℚ) ≤ 2 ^ 970 := pow_le_pow_right₀ one_le_two (by decide)
    have split : (2 ^ 1024 : ℚ) = 2 ^ 54 * 2 ^ 970 := pow_add 2 54 970
    refine lt_of_lt_of_le ?_ overflows
    rw [split]
    generalize (2 ^ 970 : ℚ) = p at power ⊢
    linarith
  have floor := Int.floor_le (d.value + 1 / 2)
  have next := Int.lt_floor_add_one (d.value + 1 / 2)
  rw [halfUp]
  rw [lt_abs] at edge ⊢
  rcases edge with above | below
  · left
    have less : (2 ^ 64 : ℚ) < ⌊d.value + 1 / 2⌋ := by linarith
    exact_mod_cast less
  · right
    have less : (2 ^ 64 : ℚ) < -⌊d.value + 1 / 2⌋ := by linarith
    exact_mod_cast less

end Scriptlet.Double
