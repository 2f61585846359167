import Scriptlet.Proofs.Double.Overflow

/-!
# The nearest double

Of all doubles the one that an exact number is rounded to is nearest to it, and where another one is as near its
significand is even (`isNearest_of_ofQuotient?`). Numbers that overflow are rounded to none.

Rounding chooses among the multiples of one gap, that at the integer part of the quotient, and there it is
nearest as rounding to natural numbers is (`distance_roundQuotient`). The doubles that are no multiples of this
gap are below the power of two under the quotient (`lt_two_pow_log2`). That power is a multiple, so it is nearer
than they are, and they tie with nothing (`distance_nearest`).
-/

set_option autoImplicit false

namespace Scriptlet.Double

/-- The double is nearest to the number, and its last binary digit is zero if another one is as near. -/
structure IsNearest (d : Double) (x : ℚ) : Prop where
  closest : ∀ other : Double, |x - d.value| ≤ |x - other.value|
  even : ∀ other : Double, |x - other.value| = |x - d.value| → other.value ≠ d.value →
    2 * gap d.units ∣ d.units

variable {num den units : Nat} {negative : Bool} {x : ℚ} {d : Double}

/-- How far a number is from a quotient, counted in parts of the denominator. -/
def distance (num den n : Nat) : Nat :=
  ((num : Int) - (n * den : Nat)).natAbs

/-! ## Rounding to natural numbers -/

/-- A quotient is rounded down or up to where at most one half is missing, and in the middle to what is even. -/
theorem roundQuotient_cases (num den : Nat) :
    (roundQuotient num den = num / den ∧ 2 * (num % den) ≤ den ∨
        roundQuotient num den = num / den + 1 ∧ den ≤ 2 * (num % den)) ∧
      (2 * (num % den) = den → roundQuotient num den % 2 = 0) := by
  unfold roundQuotient
  generalize num / den = q
  generalize num % den = s
  split_ifs <;> omega

/-- A rounded quotient is as near as any natural number, and even if another one is as near. -/
theorem distance_roundQuotient (pos : 0 < den) (n : Nat) :
    distance num den (roundQuotient num den) ≤ distance num den n ∧
      (distance num den n = distance num den (roundQuotient num den) →
        n = roundQuotient num den ∨ roundQuotient num den % 2 = 0) := by
  have whole := Nat.div_add_mod num den
  have left := Nat.mod_lt num pos
  obtain ⟨rounded, even⟩ := roundQuotient_cases num den
  rw [Nat.mul_comm] at whole
  generalize roundQuotient num den = r at rounded even ⊢
  generalize num / den = q at whole rounded
  generalize num % den = s at whole left rounded even
  have next : (q + 1) * den = q * den + den := by rw [Nat.add_mul, Nat.one_mul]
  have below (le : n ≤ q) : n * den ≤ q * den := Nat.mul_le_mul_right den le
  have above (lt : q < n) : q * den + den ≤ n * den := next ▸ Nat.mul_le_mul_right den lt
  have same (equal : n * den = r * den) : n = r := Nat.eq_of_mul_eq_mul_right pos equal
  unfold distance
  rcases rounded with ⟨rfl, half⟩ | ⟨rfl, half⟩
  · generalize n * den = product at below above same ⊢
    generalize r * den = product' at below above same whole ⊢
    omega
  · rw [next] at same ⊢
    generalize n * den = product at below above same ⊢
    generalize q * den = product' at below above same whole ⊢
    omega

/-! ## Rounding to doubles -/

theorem gap_dvd_gap (le : gap num ≤ gap units) : gap num ∣ gap units :=
  Nat.pow_dvd_pow 2 ((Nat.pow_le_pow_iff_right (by decide)).mp le)

/-- A number of units that is no multiple of a gap is below the power of two where that gap begins. -/
theorem lt_two_pow_log2 (exact_ : gap units ∣ units) (other : ¬gap num ∣ units) : units < 2 ^ num.log2 := by
  have finer : gap units < gap num := Nat.lt_of_not_le fun le => other ((gap_dvd_gap le).trans exact_)
  have apart : units.log2 - 52 < num.log2 - 52 := (Nat.pow_lt_pow_iff_right (by decide)).mp finer
  rcases Nat.eq_zero_or_pos units with rfl | some_
  · exact Nat.two_pow_pos _
  · exact (Nat.log2_lt some_.ne').mp (by omega)

theorem distance_gap_mul (num den n k : Nat) :
    distance num den (gap n * k) = distance num (den * gap n) k := by
  have product : gap n * k * den = k * (den * gap n) := by ring
  rw [distance, distance, product]

/-- Rounding is as near as any number of units with 53 significant digits, and even in the gap at the quotient if
another one is as near. -/
theorem distance_nearest (pos : 0 < den) (exact_ : gap units ∣ units) :
    distance num den (nearest num den) ≤ distance num den units ∧
      (distance num den units = distance num den (nearest num den) →
        units = nearest num den ∨ 2 * gap (num / den) ∣ nearest num den) := by
  have rounded := @distance_roundQuotient num _ (Nat.mul_pos pos (gap_pos (num / den)))
  rw [nearest, distance_gap_mul]
  generalize roundQuotient num (den * gap (num / den)) = r at rounded ⊢
  by_cases multiple : gap (num / den) ∣ units
  · obtain ⟨k, rfl⟩ := multiple
    rw [distance_gap_mul]
    refine ⟨(rounded k).1, fun tie => ((rounded k).2 tie).imp (fun same => by rw [same]) fun even => ?_⟩
    rw [Nat.mul_comm 2]
    exact Nat.mul_dvd_mul_left _ (Nat.dvd_of_mod_eq_zero even)
  · -- The power of two under the quotient is a multiple, and stands between the two.
    have below := lt_two_pow_log2 exact_ multiple
    have some_ : num / den ≠ 0 := by
      intro zero
      rw [zero, Nat.log2_zero, Nat.pow_zero, Nat.lt_one_iff] at below
      exact multiple (below ▸ Nat.dvd_zero _)
    have under : 2 ^ (num / den).log2 * den ≤ num :=
      (Nat.mul_le_mul_right den (Nat.log2_self_le some_)).trans (Nat.div_mul_le_self num den)
    have farther : distance num den (2 ^ (num / den).log2) < distance num den units := by
      have less := Nat.mul_lt_mul_of_pos_right below pos
      unfold distance
      omega
    obtain ⟨k, power⟩ : gap (num / den) ∣ 2 ^ (num / den).log2 := Nat.pow_dvd_pow 2 (Nat.sub_le _ _)
    have nearer := (rounded k).1
    rw [← distance_gap_mul num den _ k, ← power] at nearer
    exact ⟨by omega, fun tie => by omega⟩

/-- What is even in the gap at the quotient is even in its own gap. -/
theorem two_mul_gap_dvd_nearest (even : 2 * gap (num / den) ∣ nearest num den) :
    2 * gap (nearest num den) ∣ nearest num den := by
  rcases Nat.lt_or_ge (gap (num / den)) (gap (nearest num den)) with coarser | finer
  · -- Only rounding up to the next power of two leads to a coarser gap.
    have apart : (num / den).log2 - 52 < (nearest num den).log2 - 52 :=
      (Nat.pow_lt_pow_iff_right (by decide)).mp coarser
    have some_ : nearest num den ≠ 0 := by
      intro zero
      rw [zero, Nat.log2_zero] at apart
      omega
    have most : nearest num den ≤ 2 ^ (nearest num den).log2 := nearest_le_two_pow (by omega) (by omega)
    have power := Nat.le_antisymm most (Nat.log2_self_le some_)
    have twice : 2 * gap (nearest num den) = 2 ^ ((nearest num den).log2 - 52 + 1) := by
      rw [gap_eq_two_pow, Nat.pow_succ']
    rw [twice]
    exact (Nat.pow_dvd_pow 2 (by omega)).trans (dvd_of_eq power.symm)
  · exact (Nat.mul_dvd_mul_left 2 (gap_dvd_gap finer)).trans even

/-! ## Exact numbers -/

/-- The number with the given sign and magnitude. -/
def withSign (negative : Bool) (x : ℚ) : ℚ :=
  if negative then -x else x

theorem withSign_zero (negative : Bool) : withSign negative 0 = 0 := by
  cases negative with
  | false => rfl
  | true => exact neg_zero

theorem value_eq_withSign (d : Double) : d.value = withSign d.negative (d.units / one) := by
  unfold value signed withSign
  generalize (one : ℚ) = unit
  cases d.negative with
  | false => simp
  | true => simp [neg_div]

theorem units_div_nonneg (d : Double) : (0 : ℚ) ≤ d.units / one :=
  div_nonneg (Nat.cast_nonneg _) one_cast_pos.le

/-- Numbers of one sign are as far from each other as their magnitudes. -/
theorem abs_withSign_sub (negative : Bool) (x y : ℚ) :
    |withSign negative x - withSign negative y| = |x - y| := by
  cases negative with
  | false => rfl
  | true =>
    show |-x - -y| = |x - y|
    rw [neg_sub_neg, abs_sub_comm]

/-- Numbers of different signs are as far as both magnitudes together. -/
theorem abs_withSign_sub_of_ne {other : Bool} {y : ℚ} (differ : other ≠ negative) (posX : 0 ≤ x)
    (posY : 0 ≤ y) : |withSign negative x - withSign other y| = x + y := by
  cases negative with
  | false =>
    rw [Bool.eq_true_of_not_eq_false differ]
    show |x - -y| = x + y
    rw [sub_neg_eq_add, abs_of_nonneg (add_nonneg posX posY)]
  | true =>
    rw [Bool.eq_false_of_not_eq_true differ]
    show |-x - y| = x + y
    rw [← neg_add', abs_neg, abs_of_nonneg (add_nonneg posX posY)]

theorem abs_sub_eq_distance (pos : 0 < den) (exact_ : x * one * den = num) (n : Nat) :
    |x - n / one| = distance num den n / (one * den) := by
  have one_ := one_cast_pos
  have product : (0 : ℚ) < one * den := mul_pos one_ (by exact_mod_cast pos)
  have parts : (x - n / one) * (one * den) = num - n * den := by
    rw [← exact_, sub_mul, ← mul_assoc, ← mul_assoc, div_mul_cancel₀ _ one_.ne']
  rw [eq_div_iff product.ne', distance, Nat.cast_natAbs, Int.cast_abs]
  push_cast
  rw [← parts, abs_mul, abs_of_pos product]

/-- The magnitude of an exact number is rounded to the nearest one of a double. -/
theorem abs_sub_nearest (pos : 0 < den) (exact_ : x * one * den = num) (other : Double) :
    |x - nearest num den / one| ≤ |x - other.units / one| ∧
      (|x - other.units / one| = |x - nearest num den / one| →
        other.units = nearest num den ∨ 2 * gap (nearest num den) ∣ nearest num den) := by
  have product : (0 : ℚ) < one * den := mul_pos one_cast_pos (by exact_mod_cast pos)
  obtain ⟨closest, even⟩ := @distance_nearest num _ _ pos other.representable.1
  rw [abs_sub_eq_distance pos exact_, abs_sub_eq_distance pos exact_,
    div_le_div_iff_of_pos_right product, div_left_inj' product.ne', Nat.cast_le, Nat.cast_inj]
  exact ⟨closest, fun tie => (even tie).imp_right two_mul_gap_dvd_nearest⟩

/-- An exact number with a sign is rounded to the nearest double, which has this sign. -/
theorem isNearest_of_ofQuotient? (pos : 0 < den) (posX : 0 ≤ x) (exact_ : x * one * den = num)
    (found : ofQuotient? negative num den = some d) : d.IsNearest (withSign negative x) := by
  have magnitudes := abs_sub_nearest pos exact_
  have value := d.value_eq_withSign
  rw [← units_of_ofQuotient? found] at magnitudes
  rw [negative_of_ofQuotient? found] at value
  -- Zero is a double too, so the magnitude is not more than twice as great.
  have half := (magnitudes (zero false)).1
  have none_ : ((zero false).units : ℚ) / one = 0 := by
    rw [zero, Nat.cast_zero, zero_div]
  rw [none_, sub_zero, abs_of_nonneg posX] at half
  refine ⟨fun other => ?_, fun other tie differ => ?_⟩
  · rw [value, other.value_eq_withSign, abs_withSign_sub]
    by_cases same : other.negative = negative
    · rw [same, abs_withSign_sub]
      exact (magnitudes other).1
    · rw [abs_withSign_sub_of_ne same posX other.units_div_nonneg]
      exact half.trans (le_add_of_nonneg_right other.units_div_nonneg)
  · rw [value, other.value_eq_withSign, abs_withSign_sub] at tie
    rw [value, other.value_eq_withSign] at differ
    by_cases same : other.negative = negative
    · rw [same, abs_withSign_sub] at tie
      rw [same] at differ
      exact ((magnitudes other).2 tie).resolve_left fun equal => differ (by rw [equal])
    · -- On the other side of zero only zero itself can be as near.
      rw [abs_withSign_sub_of_ne same posX other.units_div_nonneg] at tie
      have nothing : (other.units : ℚ) / one = 0 := le_antisymm (by linarith) other.units_div_nonneg
      have tie' : |x - other.units / one| = |x - d.units / one| := by
        rw [← tie, nothing, sub_zero, add_zero, abs_of_nonneg posX]
      refine ((magnitudes other).2 tie').resolve_left fun equal => differ ?_
      rw [← equal, nothing, withSign_zero, withSign_zero]

end Scriptlet.Double
