import Scriptlet.Double.Arithmetic
import Scriptlet.Number
import Scriptlet.Proofs.Double.Rounding

/-!
# Rounding with a sign

A whole number of units of either sign is rounded by its magnitude (`roundUnits`). This grows with the number
(`roundUnits_mono`) and keeps what is a double already (`roundUnits_of_dvd`). The double of an integer and the
sum of two doubles are such roundings, so their exact values are compared by what is rounded.
-/

set_option autoImplicit false

namespace Scriptlet.Double

/-- The number of units nearest to a whole one among those of the doubles, with its sign. -/
def roundUnits (units : Int) : Int :=
  if units < 0 then -(nearest units.natAbs 1 : Int) else nearest units.natAbs 1

variable {m n : Int} {negative : Bool} {a b sum d : Double}

theorem intCast_one_pos : (0 : Int) < one := by
  exact_mod_cast one_pos

theorem roundUnits_mono (le : m ≤ n) : roundUnits m ≤ roundUnits n := by
  have grows {k l : Nat} (le : k ≤ l) : nearest k 1 ≤ nearest l 1 :=
    nearest_mono Nat.one_pos Nat.one_pos (Nat.mul_le_mul_right 1 le)
  unfold roundUnits
  split_ifs with below below' above'
  · have magnitudes := grows (k := n.natAbs) (l := m.natAbs) (by omega)
    omega
  · omega
  · omega
  · have magnitudes := grows (k := m.natAbs) (l := n.natAbs) (by omega)
    omega

/-- What has 53 significant binary digits is rounded to itself. -/
theorem roundUnits_of_dvd (exact_ : gap n.natAbs ∣ n.natAbs) : roundUnits n = n := by
  unfold roundUnits
  rw [nearest_self exact_]
  split_ifs <;> omega

theorem roundUnits_signed (d : Double) : roundUnits d.signed = d.signed := by
  have magnitude : d.signed.natAbs = d.units := by
    unfold signed
    split <;> omega
  refine roundUnits_of_dvd ?_
  rw [magnitude]
  exact d.representable.1

/-! ## Results with a sign -/

/-- What has at most 53 binary digits before a power of two is rounded to itself. -/
theorem roundUnits_mul_two_pow (k : Nat) (le : n.natAbs ≤ 2 ^ 53) :
    roundUnits (n * (2 ^ k : Nat)) = n * (2 ^ k : Nat) := by
  refine roundUnits_of_dvd ?_
  rw [Int.natAbs_mul, Int.natAbs_natCast, Nat.mul_comm]
  exact gap_dvd_two_pow_mul k n.natAbs le

/-- Integers of at most 53 binary digits are doubles. -/
theorem roundUnits_mul_one (le : n.natAbs ≤ 2 ^ 53) : roundUnits (n * one) = n * one :=
  roundUnits_mul_two_pow places le

/-- Rounding a magnitude and then giving it a sign is rounding with this sign. -/
theorem roundUnits_ofSign (negative : Bool) (k : Nat) :
    roundUnits (if negative then -(k : Int) else k) =
      if negative then -(nearest k 1 : Int) else nearest k 1 := by
  unfold roundUnits
  cases negative with
  | false =>
    have sign : ¬(k : Int) < 0 := by omega
    simp [sign]
  | true =>
    rcases Nat.eq_zero_or_pos k with rfl | pos
    · simp
    · have sign : -(k : Int) < 0 := by omega
      rw [if_pos rfl, if_pos sign, if_pos rfl, Int.natAbs_neg, Int.natAbs_natCast]

@[simp] theorem roundUnits_natCast (k : Nat) : roundUnits k = nearest k 1 :=
  roundUnits_ofSign false k

@[simp] theorem roundUnits_neg_natCast (k : Nat) : roundUnits (-k) = -(nearest k 1 : Int) :=
  roundUnits_ofSign true k

theorem signed_ofInt64 (i : Int64) : (ofInt64 i).signed = roundUnits (i.toInt * one) := by
  have exact_ : i.toInt * one =
      if decide (i.toInt < 0) then -((i.toInt.natAbs * one : Nat) : Int)
      else (i.toInt.natAbs * one : Nat) := by
    rw [Nat.cast_mul, ← Int.neg_mul]
    split_ifs with sign <;> simp only [decide_eq_true_eq] at sign
    · rw [Int.ofNat_natAbs_of_nonpos (by omega), Int.neg_neg]
    · rw [Int.natAbs_of_nonneg (by omega)]
  rw [exact_, roundUnits_ofSign]
  rfl

theorem signed_ofUInt64 (n : UInt64) : (ofUInt64 n).signed = roundUnits (n.toNat * one) :=
  (roundUnits_natCast (n.toNat * one)).symm

/-- A sum is rounded once. -/
theorem signed_of_add? (found : a.add? b = some sum) :
    sum.signed = roundUnits (a.signed + b.signed) := by
  unfold add? at found
  dsimp only at found
  generalize a.signed + b.signed = exact_ at found ⊢
  unfold ofQuotient? at found
  split at found
  · cases found
    -- The sign of a sum that is zero does not matter.
    have sign : (if (if exact_ = 0 then a.negative && b.negative else decide (exact_ < 0)) = true
        then -(exact_.natAbs : Int) else exact_.natAbs) = exact_ := by
      rcases Int.lt_trichotomy exact_ 0 with below | rfl | above
      · rw [if_neg below.ne, decide_eq_true below, if_pos rfl]
        omega
      · cases a.negative && b.negative <;> rfl
      · rw [if_neg above.ne', decide_eq_false (Int.not_lt.mpr above.le), if_neg Bool.false_ne_true]
        omega
    exact (roundUnits_ofSign _ exact_.natAbs).symm.trans (congrArg roundUnits sign)
  · cases found

end Scriptlet.Double
