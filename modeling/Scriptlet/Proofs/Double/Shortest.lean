import Scriptlet.Double.Decimal
import Scriptlet.Proofs.Double.Rounding
import Scriptlet.Proofs.Text.Digits

/-!
# The shortest decimal of a double

The decimal that is written for a double reads back as it (`readsBack_shortest`), and 18 digits are always
enough for it (`digits_shortest_le`): a grid with so many digits is so fine that its point below the double
is nearer to it than a quarter of its gap, and whatever is that near is rounded to the double
(`le_nearest_of_close`).
-/

set_option autoImplicit false

namespace Scriptlet.Double

open Text

variable {num den units cut digits : Nat}

/-! ## What is rounded to a double -/

theorem units_lt_gap (units : Nat) : units < gap units * 2 ^ 53 := by
  rw [gap, ← Nat.pow_add]
  exact Nat.lt_log2_self.trans_le (Nat.pow_le_pow_right Nat.two_pos (by omega))

theorem gap_mono {m n : Nat} (le : m ≤ n) : gap m ≤ gap n :=
  Nat.pow_le_pow_right Nat.two_pos (Nat.sub_le_sub_right (log2_mono le) 52)

/-- A number on a finer grid than a double is below the power of two `2 ^ (53 + k)` the grid of the
double starts at; the grid before it has steps of `2 ^ k`. -/
theorem exists_grid_of_finer {quotient : Nat} (finer : gap quotient < gap units) :
    ∃ k, units.log2 = 53 + k ∧ quotient.log2 ≤ 52 + k ∧ gap units = 2 * 2 ^ k := by
  have apart : quotient.log2 - 52 < units.log2 - 52 :=
    (Nat.pow_lt_pow_iff_right (by decide)).mp finer
  refine ⟨units.log2 - 53, by omega, by omega, ?_⟩
  rw [gap, ← Nat.pow_succ']
  congr 1
  omega

/-- Counted in steps of the finer grid, what is below `2 ^ 53` of them is that near to one double of
the coarser grid only, the first. -/
theorem eq_of_near {n step : Nat} (above : 2 ^ 52 ≤ n) (edge : num < 2 ^ 53 * step)
    (near : 4 * (2 * (n * step)) ≤ 4 * num + 2 * step) : n = 2 ^ 52 := by
  refine Nat.le_antisymm (Nat.le_of_not_lt fun large => ?_) above
  have product : (2 ^ 52 + 1) * step ≤ n * step := Nat.mul_le_mul_right _ large
  omega

/-- Counted in steps of a grid, what is a quarter of two steps below `2 ^ 53` of them is past `2 ^ 52`, and
nearer to `2 ^ 53` than to the step before. -/
theorem step_bounds {step : Nat} (near : 4 * (2 * (2 ^ 52 * step)) ≤ 4 * num + 2 * step) :
    2 ^ 52 * step ≤ num ∧ 2 * (2 ^ 53 * step) ≤ 2 * num + step := by
  omega

theorem gap_div_of_between {k : Nat} (pos : 0 < den) (least : 2 ^ 52 * (den * 2 ^ k) ≤ num)
    (most : (num / den).log2 ≤ 52 + k) : gap (num / den) = 2 ^ k := by
  have under : 2 ^ (52 + k) ≤ num / den := by
    refine (Nat.le_div_iff_mul_le pos).mpr ?_
    calc 2 ^ (52 + k) * den = 2 ^ 52 * (den * 2 ^ k) := by rw [Nat.pow_add]; ring
      _ ≤ num := least
  have nonzero : num / den ≠ 0 := (Nat.lt_of_lt_of_le (Nat.two_pow_pos _) under).ne'
  have log2 : (num / den).log2 = 52 + k :=
    Nat.le_antisymm most ((Nat.le_log2 nonzero).mpr under)
  rw [gap, log2, Nat.add_sub_cancel_left]

/-- Where a quotient just below a double has a finer grid than it, the double is the power of two between
the two grids. -/
theorem le_nearest_of_finer (pos : 0 < den) (exact_ : gap units ∣ units)
    (close : 4 * (units * den) ≤ 4 * num + den * gap units) (finer : gap (num / den) < gap units) :
    units ≤ nearest num den := by
  obtain ⟨k, log2, most, coarse⟩ := exists_grid_of_finer finer
  obtain ⟨n, value⟩ := exact_
  rw [coarse] at close value
  -- Everything is counted in steps of the finer grid.
  have fine : 0 < den * 2 ^ k := Nat.mul_pos pos (Nat.two_pow_pos k)
  have edge : num < 2 ^ 53 * (den * 2 ^ k) := by
    have quotient : num / den < 2 ^ 53 * 2 ^ k := by
      rw [← Nat.pow_add]
      exact Nat.lt_log2_self.trans_le (Nat.pow_le_pow_right Nat.two_pos (by omega))
    calc num < 2 ^ 53 * 2 ^ k * den := (Nat.div_lt_iff_lt_mul pos).mp quotient
      _ = 2 ^ 53 * (den * 2 ^ k) := by ring
  have near : 4 * (2 * (n * (den * 2 ^ k))) ≤ 4 * num + 2 * (den * 2 ^ k) := by
    calc 4 * (2 * (n * (den * 2 ^ k))) = 4 * (units * den) := by rw [value]; ring
      _ ≤ 4 * num + den * (2 * 2 ^ k) := close
      _ = 4 * num + 2 * (den * 2 ^ k) := by ring
  have above : 2 ^ 52 ≤ n := by
    have some_ : units ≠ 0 := fun zero => by
      rw [zero, Nat.log2_zero] at log2
      omega
    have scaled : 2 * 2 ^ k * 2 ^ 52 ≤ 2 * 2 ^ k * n := by
      calc 2 * 2 ^ k * 2 ^ 52 = 2 ^ units.log2 := by rw [log2, Nat.pow_add]; ring
        _ ≤ units := Nat.log2_self_le some_
        _ = 2 * 2 ^ k * n := value
    exact Nat.le_of_mul_le_mul_left scaled (Nat.mul_pos Nat.two_pos (Nat.two_pow_pos k))
  have single := eq_of_near above edge near
  rw [single] at near
  obtain ⟨past_, nearer⟩ := step_bounds near
  calc units = 2 ^ k * 2 ^ 53 := by rw [value, single]; ring
    _ ≤ nearest num den := by
      rw [nearest, gap_div_of_between pos past_ most]
      refine Nat.mul_le_mul_left _ ((le_roundQuotient_iff fine).mpr ?_)
      have even : 2 ^ 53 % 2 = 0 := by decide
      rcases Nat.lt_or_eq_of_le nearer with less | same
      · exact Or.inl less
      · exact Or.inr ⟨same, even⟩

/-- A quotient that is below a double by at most a quarter of its gap is not rounded below it. -/
theorem le_nearest_of_close (pos : 0 < den) (exact_ : gap units ∣ units)
    (close : 4 * (units * den) ≤ 4 * num + den * gap units) : units ≤ nearest num den := by
  rcases Nat.lt_or_ge num (units * den) with below | above
  · have quotient : num / den < units := (Nat.div_lt_iff_lt_mul pos).mpr below
    rcases Nat.lt_or_eq_of_le (gap_mono quotient.le) with finer | same
    · exact le_nearest_of_finer pos exact_ close finer
    · -- On the grid of the double itself, the quotient is nearer to it than half a step.
      obtain ⟨n, value⟩ := exact_
      have step := Nat.mul_pos pos (gap_pos units)
      have product : n * (den * gap units) = units * den := by
        calc n * (den * gap units) = gap units * n * den := by ring
          _ = units * den := by rw [← value]
      calc units = gap units * n := value
        _ ≤ nearest num den := by
          rw [nearest, same]
          refine Nat.mul_le_mul_left _ ((le_roundQuotient_iff step).mpr (Or.inl ?_))
          rw [product]
          omega
  · calc units = nearest units 1 := (nearest_self exact_).symm
      _ ≤ nearest num den := nearest_mono Nat.one_pos pos (by omega)

/-! ## Grids -/

/-- The neighbour that is taken is accepted. -/
theorem neighbour?_eq_some {accepts : Nat → Bool} {exact_ step : Nat}
    (found : neighbour? accepts exact_ step = some digits) :
    accepts digits = true ∧ (digits = exact_ / step ∨ digits = exact_ / step + 1) := by
  unfold neighbour? at found
  dsimp only at found
  split at found
  · cases found
  · rename_i below _
    cases found
    exact ⟨below, Or.inl rfl⟩
  · rename_i _ above
    cases found
    exact ⟨above, Or.inr rfl⟩
  · rename_i below above
    split_ifs at found
    · cases found
      exact ⟨below, Or.inl rfl⟩
    · cases found
      exact ⟨above, Or.inr rfl⟩

/-- Where the neighbour below is accepted, one is taken. -/
theorem neighbour?_ne_none {accepts : Nat → Bool} {exact_ step : Nat}
    (below : accepts (exact_ / step) = true) : neighbour? accepts exact_ step ≠ none := by
  unfold neighbour?
  dsimp only
  rw [below]
  cases accepts (exact_ / step + 1) with
  | false => nofun
  | true =>
    dsimp only
    split_ifs <;> nofun

/-! ## The shortest decimal -/

theorem unitDigits_pos : 0 < unitDigits :=
  Nat.pow_pos (by decide)

/-- The exact digits of a double, without their last ones, still read back as it while what is cut off is
a quarter of its gap at most. -/
theorem readsBack_of_fine (exact_ : gap units ∣ units) (fine : 4 * 10 ^ cut ≤ unitDigits * gap units) :
    readsBack units cut (exactDigits units / 10 ^ cut) = true := by
  rw [readsBack, decide_eq_true_eq, exactDigits]
  have pos := unitDigits_pos
  generalize unitDigits = den at fine pos ⊢
  have whole := Nat.div_add_mod (units * den) (10 ^ cut)
  have left := Nat.mod_lt (units * den) (Nat.pow_pos (n := cut) (by decide : 0 < 10))
  rw [Nat.mul_comm] at whole
  refine Nat.le_antisymm ?_ (le_nearest_of_close pos exact_ ?_)
  · calc nearest (units * den / 10 ^ cut * 10 ^ cut) den
        ≤ nearest (units * den) den := nearest_mono pos pos (Nat.mul_le_mul_right den (by omega))
      _ = units := nearest_of_dvd exact_ pos
  · omega

/-- With 18 digits what is cut off is small enough. -/
theorem fine_of_many {den : Nat} (pos : 0 < den) (many : 10 ^ (cut + 17) ≤ units * den) :
    4 * 10 ^ cut ≤ den * gap units := by
  have below : units * den < gap units * 2 ^ 53 * den :=
    Nat.mul_lt_mul_of_pos_right (units_lt_gap units) pos
  have steps : gap units * 2 ^ 53 * den = 2 ^ 53 * (den * gap units) := by ring
  rw [Nat.pow_add] at many
  generalize 10 ^ cut = unit at many ⊢
  generalize den * gap units = step at steps ⊢
  omega

/-- The search for the coarsest grid ends on one with a decimal that reads back, and does not pass by one
that has such a decimal. -/
theorem coarsest_spec {least : Nat} (exact_ : gap units ∣ units) (le : least ≤ cut)
    (ends : least = 0 ∨ onGrid? units least ≠ none) {decimal : Decimal}
    (found : coarsest (onGrid? units) (exactDigits units) cut = decimal) :
    ∃ c, least ≤ c ∧ decimal.exponent = (c : Int) - 1074 ∧
      readsBack units c decimal.digits = true ∧
      decimal.digits ≤ exactDigits units / 10 ^ c + 1 := by
  induction cut with
  | zero =>
    rw [coarsest] at found
    subst found
    refine ⟨0, le, rfl, ?_, ?_⟩
    · rw [readsBack, exactDigits, Nat.pow_zero, Nat.mul_one, decide_eq_true_eq]
      exact nearest_of_dvd exact_ unitDigits_pos
    · rw [Nat.pow_zero, Nat.div_one]
      exact Nat.le_succ _
  | succ cut ih =>
    rw [coarsest] at found
    cases onGrid : onGrid? units (cut + 1) with
    | some digits =>
      rw [onGrid] at found
      subst found
      obtain ⟨reads, side⟩ := neighbour?_eq_some onGrid
      exact ⟨cut + 1, le, rfl, reads, by dsimp only; omega⟩
    | none =>
      rw [onGrid] at found
      refine ih (Nat.le_of_lt_succ (Nat.lt_of_le_of_ne le ?_)) found
      rintro rfl
      rcases ends with zero | ends
      · cases zero
      · exact ends onGrid

/-- The shortest decimal reads back as its double. -/
theorem readsBack_shortest (exact_ : gap units ∣ units) :
    ∃ cut : Nat, (shortest units).exponent = (cut : Int) - 1074 ∧
      readsBack units cut (shortest units).digits = true := by
  obtain ⟨cut, -, exponent, reads, -⟩ := coarsest_spec exact_ (Nat.zero_le _) (Or.inl rfl) rfl
  exact ⟨cut, exponent, reads⟩

/-- The shortest decimal has at most 18 digits, unless it is a power of ten. -/
theorem digits_shortest_le (exact_ : gap units ∣ units) : (shortest units).digits ≤ 10 ^ 18 := by
  have count := lt_ten_pow_digitCount (exactDigits units)
  -- On a grid with at most 18 digits both neighbours are at most the power of ten above them.
  have few : ∀ cut, digitCount (exactDigits units) ≤ cut + 18 →
      exactDigits units / 10 ^ cut + 1 ≤ 10 ^ 18 := fun cut le => by
    refine Nat.div_lt_of_lt_mul (count.trans_le ?_)
    rw [← Nat.pow_add]
    exact Nat.pow_le_pow_right (by decide) le
  rcases Nat.lt_or_ge 18 (digitCount (exactDigits units)) with many | most
  · obtain ⟨least, value⟩ : ∃ least, digitCount (exactDigits units) = least + 18 :=
      ⟨digitCount (exactDigits units) - 18, by omega⟩
    have leading : 10 ^ (least + 17) ≤ exactDigits units :=
      (lt_digitCount_iff (by omega)).mp (by omega)
    have reads := readsBack_of_fine exact_ (fine_of_many unitDigits_pos leading)
    have within : least ≤ digitCount (exactDigits units) - 1 := by omega
    obtain ⟨cut, le, -, -, digits⟩ :=
      coarsest_spec exact_ within (Or.inr (neighbour?_ne_none reads)) rfl
    exact digits.trans (few cut (by omega))
  · obtain ⟨cut, -, -, -, digits⟩ := coarsest_spec exact_ (Nat.zero_le _) (Or.inl rfl) rfl
    exact digits.trans (few cut (by omega))

end Scriptlet.Double
