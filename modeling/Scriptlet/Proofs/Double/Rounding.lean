import Mathlib.Tactic.Ring
import Scriptlet.Double.Basic

/-!
# Rounding to doubles

`roundQuotient` rounds a quotient to a natural number and `nearest` to a number of units with 53 significant
binary digits, ties to even. Both depend on the quotient alone and grow with it (`nearest_mono`), and what is
a number of units with so many digits stays as it is (`nearest_of_dvd`).

So rounding a quotient never takes it across a double, and it is past all doubles exactly from the middle
between the last double and the next number that would be one (`nearest_lt_past_iff`).
-/

set_option autoImplicit false

namespace Scriptlet.Double

variable {num den num' den' : Nat}

/-! ## Rounding to natural numbers -/

/-- A natural number is at most the rounded quotient if the quotient is above its distance of one half, or
exactly there and the number even. -/
theorem le_roundQuotient_iff (pos : 0 < den) {n : Nat} : n ≤ roundQuotient num den ↔
    2 * (n * den) < 2 * num + den ∨ 2 * (n * den) = 2 * num + den ∧ n % 2 = 0 := by
  have whole := Nat.div_add_mod num den
  have left := Nat.mod_lt num pos
  rw [Nat.mul_comm] at whole
  unfold roundQuotient
  generalize num / den = q at whole ⊢
  generalize num % den = s at whole left ⊢
  rcases Nat.lt_trichotomy n (q + 1) with below | same | above
  · have le : n * den ≤ q * den := Nat.mul_le_mul_right den (by omega)
    constructor
    · intro _
      omega
    · intro _
      split_ifs <;> omega
  · have value : n * den = q * den + den := by rw [same, Nat.add_mul, Nat.one_mul]
    split_ifs <;> omega
  · have le : (q + 2) * den ≤ n * den := Nat.mul_le_mul_right den (by omega)
    rw [Nat.add_mul] at le
    split_ifs <;> omega

/-- A rounded quotient grows with the quotient. -/
theorem roundQuotient_mono (pos : 0 < den) (pos' : 0 < den') (le : num * den' ≤ num' * den) :
    roundQuotient num den ≤ roundQuotient num' den' := by
  have first := (le_roundQuotient_iff pos).mp (Nat.le_refl (roundQuotient num den))
  refine (le_roundQuotient_iff pos').mpr ?_
  generalize roundQuotient num den = n at first ⊢
  have scaled : den * (2 * (n * den')) = den' * (2 * (n * den)) := by ring
  have top : den' * (2 * num + den) ≤ den * (2 * num' + den') := by
    calc den' * (2 * num + den) = 2 * (num * den') + den * den' := by ring
      _ ≤ 2 * (num' * den) + den * den' := by omega
      _ = den * (2 * num' + den') := by ring
  rcases first with above | ⟨tie, even⟩
  · left
    have less := Nat.mul_lt_mul_of_pos_left above pos'
    exact Nat.lt_of_mul_lt_mul_left (by omega : den * _ < den * _)
  · have le : 2 * (n * den') ≤ 2 * num' + den' := by
      refine Nat.le_of_mul_le_mul_left ?_ pos
      rwa [scaled, tie]
    rcases Nat.lt_or_eq_of_le le with less | same
    · exact Or.inl less
    · exact Or.inr ⟨same, even⟩

/-- A whole quotient is rounded to itself. -/
theorem roundQuotient_mul (pos : 0 < den) (n : Nat) : roundQuotient (n * den) den = n := by
  unfold roundQuotient
  rw [Nat.mul_mod_left, Nat.mul_div_cancel n pos, if_pos (by omega)]

/-! ## Rounding to doubles -/

theorem gap_eq_two_pow (units : Nat) : gap units = 2 ^ (units.log2 - 52) := rfl

theorem log2_mono {m n : Nat} (le : m ≤ n) : m.log2 ≤ n.log2 := by
  rcases Nat.eq_zero_or_pos m with rfl | pos
  · exact Nat.zero_le _
  · refine (Nat.le_log2 (by omega)).mpr ?_
    exact (Nat.log2_self_le (by omega)).trans le

theorem div_le_div_of_mul_le (pos : 0 < den) (pos' : 0 < den') (le : num * den' ≤ num' * den) :
    num / den ≤ num' / den' := by
  refine (Nat.le_div_iff_mul_le pos').mpr (Nat.le_of_mul_le_mul_left ?_ pos)
  calc den * (num / den * den') = den * (num / den) * den' := (Nat.mul_assoc _ _ _).symm
    _ ≤ num * den' := Nat.mul_le_mul_right den' (Nat.mul_div_le num den)
    _ ≤ den * num' := by rw [Nat.mul_comm den]; exact le

/-- Rounding does not take a number below the power of two under it. -/
theorem two_pow_log2_le_nearest (some_ : num / den ≠ 0) :
    2 ^ (num / den).log2 ≤ nearest num den := by
  have le : num / den / gap (num / den) ≤ roundQuotient num (den * gap (num / den)) := by
    rw [Nat.div_div_eq_div_mul]
    unfold roundQuotient
    split_ifs <;> omega
  have split : gap (num / den) * 2 ^ ((num / den).log2 - ((num / den).log2 - 52)) =
      2 ^ (num / den).log2 := by
    rw [gap, ← Nat.pow_add]
    congr 1
    omega
  have least : 2 ^ ((num / den).log2 - ((num / den).log2 - 52)) ≤ num / den / gap (num / den) := by
    refine (Nat.le_div_iff_mul_le (gap_pos _)).mpr ?_
    rw [Nat.mul_comm, split]
    exact Nat.log2_self_le some_
  rw [← split, nearest]
  exact Nat.mul_le_mul_left _ (least.trans le)

/-- Rounding does not take a number across the power of two above it. -/
theorem nearest_le_two_pow {k : Nat} (some_ : 53 ≤ k) (below : (num / den).log2 < k) :
    nearest num den ≤ 2 ^ k := by
  calc nearest num den ≤ gap (num / den) * 2 ^ 53 :=
        Nat.mul_le_mul_left _ (roundQuotient_gap_le num den)
    _ = 2 ^ ((num / den).log2 - 52 + 53) := by rw [gap, ← Nat.pow_add]
    _ ≤ 2 ^ k := Nat.pow_le_pow_right (by decide) (by omega)

/-- A rounded number of units grows with the quotient. -/
theorem nearest_mono (pos : 0 < den) (pos' : 0 < den') (le : num * den' ≤ num' * den) :
    nearest num den ≤ nearest num' den' := by
  have wholes := log2_mono (div_le_div_of_mul_le pos pos' le)
  by_cases same : gap (num / den) = gap (num' / den')
  · unfold nearest
    rw [same]
    refine Nat.mul_le_mul_left _ (roundQuotient_mono ?_ ?_ ?_)
    · exact Nat.mul_pos pos (gap_pos _)
    · exact Nat.mul_pos pos' (gap_pos _)
    · rw [← Nat.mul_assoc, ← Nat.mul_assoc]
      exact Nat.mul_le_mul_right _ le
  · -- The power of two under the greater quotient stands between the two.
    have apart : (num / den).log2 - 52 < (num' / den').log2 - 52 := by
      refine Nat.lt_of_le_of_ne (by omega) fun equal => same ?_
      rw [gap, gap, equal]
    have some_ : num' / den' ≠ 0 := by
      intro zero
      rw [zero, Nat.log2_zero] at apart
      omega
    exact (nearest_le_two_pow (by omega) (by omega)).trans (two_pow_log2_le_nearest some_)

/-- Rounding depends on the quotient alone. -/
theorem nearest_congr (pos : 0 < den) (pos' : 0 < den') (same : num * den' = num' * den) :
    nearest num den = nearest num' den' :=
  Nat.le_antisymm (nearest_mono pos pos' same.le) (nearest_mono pos' pos same.ge)

/-- What has 53 significant binary digits is rounded to itself. -/
theorem nearest_of_dvd {units : Nat} (exact_ : gap units ∣ units) (pos : 0 < den) :
    nearest (units * den) den = units := by
  obtain ⟨n, value⟩ := exact_
  have quotient : units * den = n * (den * gap units) := by
    calc units * den = gap units * n * den := by rw [← value]
      _ = n * (den * gap units) := by ring
  rw [nearest, Nat.mul_div_cancel units pos, quotient,
    roundQuotient_mul (Nat.mul_pos pos (gap_pos units)), ← value]

theorem nearest_self {units : Nat} (exact_ : gap units ∣ units) : nearest units 1 = units := by
  simpa using nearest_of_dvd exact_ Nat.one_pos

/-- Rounding what has all its 53 digits adds at most half of the last of them. -/
theorem nearest_mul_le (pos : 0 < den) (normal : 2 ^ 52 ≤ num / den) :
    2 ^ 53 * (nearest num den * den) ≤ (2 ^ 53 + 1) * num := by
  have some_ : num / den ≠ 0 := (Nat.lt_of_lt_of_le (Nat.two_pow_pos 52) normal).ne'
  have exponent : 52 ≤ (num / den).log2 := (Nat.le_log2 some_).mpr normal
  have last : 2 ^ 52 * (den * gap (num / den)) ≤ num := by
    calc 2 ^ 52 * (den * gap (num / den)) = 2 ^ (52 + ((num / den).log2 - 52)) * den := by
          rw [gap, Nat.pow_add]
          ring
      _ = 2 ^ (num / den).log2 * den := by rw [Nat.add_sub_cancel' exponent]
      _ ≤ num := (Nat.le_div_iff_mul_le pos).mp (Nat.log2_self_le some_)
  have half := (le_roundQuotient_iff (Nat.mul_pos pos (gap_pos (num / den)))).mp
    (Nat.le_refl (roundQuotient num (den * gap (num / den))))
  have rounded : nearest num den * den =
      roundQuotient num (den * gap (num / den)) * (den * gap (num / den)) := by
    rw [nearest]
    ring
  rw [rounded]
  generalize den * gap (num / den) = step at last half ⊢
  generalize roundQuotient num step * step = whole at half ⊢
  omega

/-- What is not rounded to zero is half a unit at least. -/
theorem le_two_mul_of_nearest_ne_zero (some_ : nearest num den ≠ 0) : den ≤ 2 * num := by
  refine Nat.le_of_not_lt fun small => some_ ?_
  have none_ : num / den = 0 := Nat.div_eq_of_lt (by omega)
  have left : num % den = num := Nat.mod_eq_of_lt (by omega)
  rw [nearest, none_, gap, Nat.log2_zero, Nat.zero_sub, Nat.pow_zero, Nat.mul_one, Nat.one_mul,
    roundQuotient, left, if_pos small, none_]

/-! ## Rounding past the doubles -/

/-- The number of units from which on rounding goes past the doubles. -/
def limit : Nat := (2 ^ 54 - 1) * 2 ^ (970 + places)

/-- At the distance of `2 * p`, the last step to `2 ^ 53` is taken from the middle on. -/
theorem two_pow_le_roundQuotient_iff {p : Nat} (pos : 0 < den) (some_ : 0 < p) :
    2 ^ 53 ≤ roundQuotient num (den * (2 * p)) ↔ (2 ^ 54 - 1) * p * den ≤ num := by
  rw [le_roundQuotient_iff (Nat.mul_pos pos (Nat.mul_pos Nat.two_pos some_))]
  have middle : 2 * (2 ^ 53 * (den * (2 * p))) = 2 * ((2 ^ 54 - 1) * p * den) + den * (2 * p) := by
    ring
  have even : 2 ^ 53 % 2 = 0 := by decide
  rw [middle]
  clear middle
  generalize (2 ^ 54 - 1) * p * den = edge
  generalize den * (2 * p) = step
  constructor
  · rintro (above | ⟨tie, -⟩) <;> omega
  · intro le
    rcases Nat.lt_or_eq_of_le le with less | same
    · exact Or.inl (by omega)
    · exact Or.inr ⟨by omega, even⟩

/-- From one power of two to the next, the last step is taken from its middle on. -/
theorem two_pow_le_nearest_iff_of_log2 {k : Nat} (pos : 0 < den) (last : (num / den).log2 = k + 53) :
    2 ^ (k + 54) ≤ nearest num den ↔ (2 ^ 54 - 1) * 2 ^ k * den ≤ num := by
  have gap_ : gap (num / den) = 2 * 2 ^ k := by
    rw [gap, last, ← Nat.pow_succ']
    rfl
  have power : 2 ^ (k + 54) = 2 * 2 ^ k * 2 ^ 53 := by rw [← Nat.pow_succ', ← Nat.pow_add]
  have some_ := Nat.two_pow_pos k
  rw [nearest, gap_, power, Nat.mul_le_mul_left_iff (Nat.mul_pos Nat.two_pos some_)]
  exact two_pow_le_roundQuotient_iff pos some_

theorem past_eq : past = 2 ^ (970 + places + 54) := by
  rw [past, Nat.add_right_comm]

theorem two_pow_le_limit {k : Nat} (le : k ≤ 53 + (970 + places)) : 2 ^ k ≤ limit := by
  have edge : 2 ^ 53 ≤ 2 ^ 54 - 1 := by decide
  calc 2 ^ k ≤ 2 ^ (53 + (970 + places)) := Nat.pow_le_pow_right Nat.two_pos le
    _ = 2 ^ 53 * 2 ^ (970 + places) := Nat.pow_add 2 53 (970 + places)
    _ ≤ limit := Nat.mul_le_mul_right (2 ^ (970 + places)) edge

theorem one_le_limit : one ≤ limit :=
  two_pow_le_limit (by omega)

theorem limit_le_past : limit ≤ past := by
  have edge : 2 ^ 54 - 1 ≤ 2 ^ 54 := by decide
  calc limit ≤ 2 ^ 54 * 2 ^ (970 + places) := Nat.mul_le_mul_right (2 ^ (970 + places)) edge
    _ = past := by rw [past_eq, ← Nat.pow_add, Nat.add_comm 54]

/-- A quotient is rounded to a double exactly if it is below the limit. -/
theorem nearest_lt_past_iff (pos : 0 < den) : nearest num den < past ↔ num < limit * den := by
  rcases Nat.lt_trichotomy (num / den).log2 (970 + places + 53) with below | last | above
  · refine iff_of_true ?_ ?_
    · have le : nearest num den ≤ 2 ^ max 53 ((num / den).log2 + 1) :=
        nearest_le_two_pow (Nat.le_max_left _ _) (by omega)
      exact (le.trans_lt (Nat.pow_lt_pow_succ (by decide))).trans_le (two_pow_le_past (by omega))
    · refine ((Nat.div_lt_iff_lt_mul pos).mp Nat.lt_log2_self).trans_le ?_
      exact Nat.mul_le_mul_right den (two_pow_le_limit (by omega))
  · rw [← Nat.not_le, past_eq, limit, two_pow_le_nearest_iff_of_log2 pos last, Nat.not_le]
  · have some_ : num / den ≠ 0 := by
      intro zero
      rw [zero, Nat.log2_zero] at above
      omega
    have power : past ≤ 2 ^ (num / den).log2 := by
      rw [past_eq]
      exact Nat.pow_le_pow_right (by decide) above
    refine iff_of_false (Nat.not_lt.mpr (power.trans (two_pow_log2_le_nearest some_))) ?_
    refine Nat.not_lt.mpr ((Nat.mul_le_mul_right den limit_le_past).trans ?_)
    exact (Nat.le_div_iff_mul_le pos).mp (power.trans (Nat.log2_self_le some_))

end Scriptlet.Double
