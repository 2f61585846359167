/-!
# Doubles

A double is a finite binary64 number. Every one of them is a whole number of *units* of
`2 ^ (-1074)`, the least positive double, so a double is kept as a sign and a natural number of
units, and its arithmetic is exact integer arithmetic followed by one rounding. Zero has both signs.

Which numbers of units occur is `Representable`: at most 53 significant binary digits, below
`2 ^ 1024`. `nearest` rounds any quotient to such a number, ties to even, and
`gap_dvd_nearest` says that it does; only the upper bound is left for `ofQuotient?` to check.
-/

set_option autoImplicit false

-- A power of an integer is the core one in every module, also where monoids bring a power of theirs.
attribute [instance (2000), default_instance 20000] instPowNat

namespace Scriptlet

namespace Double

/-- The binary places that a unit is behind the point. The number is sealed: a power of two so large is
compared by its exponent, and never computed on the way. -/
@[irreducible] def places : Nat := 1074

theorem places_eq : places = 1074 := by
  rw [places]

/-- The number of units in one. -/
def one : Nat := 2 ^ places

/-- The first number of units past the doubles, `2 ^ 1024`. -/
def past : Nat := 2 ^ (1024 + places)

/-- The distance of neighbouring doubles from the given number of units on. -/
def gap (units : Nat) : Nat := 2 ^ (units.log2 - 52)

/-- The numbers of units that are the magnitude of a double. -/
def Representable (units : Nat) : Prop := gap units ∣ units ∧ units < past

theorem two_pow_le_past {k : Nat} (h : k ≤ 1024 + places) : 2 ^ k ≤ past :=
  Nat.pow_le_pow_right (by decide) h

theorem past_pos : 0 < past :=
  Nat.two_pow_pos (1024 + places)

theorem one_pos : 0 < one :=
  Nat.two_pow_pos places

instance (units : Nat) : Decidable (Representable units) :=
  inferInstanceAs (Decidable (_ ∧ _))

end Double

/-- A finite binary64 number: its sign, and its magnitude in units of `2 ^ (-1074)`. -/
structure Double where
  negative : Bool
  units : Nat
  representable : Double.Representable units
  deriving DecidableEq

namespace Double

/-- The exact value, as a number of units with its sign. -/
def signed (d : Double) : Int :=
  if d.negative then -(d.units : Int) else d.units

/-- Zero with the given sign. -/
def zero (negative : Bool) : Double :=
  ⟨negative, 0, Nat.dvd_zero _, past_pos⟩

/-! ## Rounding -/

/-- A quotient rounded to the nearest natural number, a tie to the even one. -/
def roundQuotient (num den : Nat) : Nat :=
  if 2 * (num % den) < den then num / den
  else if den < 2 * (num % den) then num / den + 1
  else num / den + num / den % 2

/-- The number of units nearest to a quotient among those with 53 significant binary digits, a tie
to the one whose last digit is even. -/
def nearest (num den : Nat) : Nat :=
  gap (num / den) * roundQuotient num (den * gap (num / den))

@[simp] theorem nearest_zero (den : Nat) : nearest 0 den = 0 := by
  simp [nearest, roundQuotient]

theorem gap_pos (units : Nat) : 0 < gap units := Nat.two_pow_pos _

theorem roundQuotient_le (num den : Nat) : roundQuotient num den ≤ num / den + 1 := by
  unfold roundQuotient
  split
  · omega
  · split <;> omega

/-- A number of at most 53 binary digits keeps its divisibility by a power of two below it. -/
theorem gap_dvd_two_pow_mul (k m : Nat) (h : m ≤ 2 ^ 53) : gap (2 ^ k * m) ∣ 2 ^ k * m := by
  rcases Nat.eq_zero_or_pos m with rfl | hm
  · simp
  · have hne : 2 ^ k * m ≠ 0 := Nat.mul_ne_zero (Nat.ne_of_gt (Nat.two_pow_pos k)) (by omega)
    rcases Nat.lt_or_eq_of_le h with hlt | rfl
    · have hlog : (2 ^ k * m).log2 < k + 53 := by
        rw [Nat.log2_lt hne, Nat.pow_add]
        exact Nat.mul_lt_mul_of_pos_left hlt (Nat.two_pow_pos k)
      exact Nat.dvd_trans (Nat.pow_dvd_pow 2 (by omega)) (Nat.dvd_mul_right _ _)
    · rw [← Nat.pow_add]
      unfold gap
      rw [Nat.log2_two_pow]
      exact Nat.pow_dvd_pow 2 (by omega)

theorem two_pow_mul_lt_past {k m : Nat} (hk : k ≤ 2044) (hm : m ≤ 2 ^ 53) :
    2 ^ k * m < past := by
  have h1 : 2 ^ k * m ≤ 2 ^ (k + 53) := by
    rw [Nat.pow_add]
    exact Nat.mul_le_mul_left _ hm
  have h2 : 2 ^ (k + 53) < 2 ^ (k + 54) := Nat.pow_lt_pow_right (by decide) (by omega)
  have h3 : k + 54 ≤ 1024 + places := by
    rw [places_eq]
    omega
  exact Nat.lt_of_le_of_lt h1 (Nat.lt_of_lt_of_le h2 (two_pow_le_past h3))

/-- A number of at most 53 binary digits, in units of a power of two. -/
def ofScaled (negative : Bool) (n k : Nat) (hn : n ≤ 2 ^ 53) (hk : k ≤ 2044) : Double :=
  ⟨negative, 2 ^ k * n, gap_dvd_two_pow_mul k n hn, two_pow_mul_lt_past hk hn⟩

theorem roundQuotient_gap_le (num den : Nat) :
    roundQuotient num (den * gap (num / den)) ≤ 2 ^ 53 := by
  have hq : num / den / gap (num / den) < 2 ^ 53 := by
    rw [Nat.div_lt_iff_lt_mul (gap_pos _), gap, ← Nat.pow_add]
    exact Nat.lt_of_lt_of_le Nat.lt_log2_self (Nat.pow_le_pow_right (by decide) (by omega))
  have := roundQuotient_le num (den * gap (num / den))
  rw [← Nat.div_div_eq_div_mul] at this
  omega

/-- What `nearest` answers has at most 53 significant binary digits. -/
theorem gap_dvd_nearest (num den : Nat) : gap (nearest num den) ∣ nearest num den :=
  gap_dvd_two_pow_mul _ _ (roundQuotient_gap_le num den)

/-- The double nearest to a quotient of units, unless that is past the last one. -/
def ofQuotient? (negative : Bool) (num den : Nat) : Option Double :=
  if h : nearest num den < past then some ⟨negative, nearest num den, gap_dvd_nearest num den, h⟩
  else none

theorem gap_le {units : Nat} (h : units ≠ 0) : gap units ≤ units :=
  Nat.le_trans (Nat.pow_le_pow_right (by decide) (Nat.sub_le _ _)) (Nat.log2_self_le h)

/-- Rounding a whole number of units at most doubles it. -/
theorem nearest_le_two_mul {units : Nat} (h : units ≠ 0) : nearest units 1 ≤ 2 * units := by
  unfold nearest
  rw [Nat.div_one, Nat.one_mul]
  have hr := Nat.mul_le_mul_left (gap units) (roundQuotient_le units (gap units))
  have hd := Nat.mul_div_le units (gap units)
  have hg := gap_le h
  rw [Nat.mul_add, Nat.mul_one] at hr
  omega

theorem nearest_lt_past {n : Nat} (h : n < 2 ^ 64) : nearest (n * one) 1 < past := by
  rcases Nat.eq_zero_or_pos n with rfl | hn
  · rw [Nat.zero_mul, nearest_zero]
    exact past_pos
  · have hle := nearest_le_two_mul (Nat.mul_ne_zero (Nat.ne_of_gt hn) (Nat.ne_of_gt one_pos))
    have hlt : n * one < 2 ^ 64 * one := Nat.mul_lt_mul_of_pos_right h one_pos
    have hpast : 2 * (2 ^ 64 * one) ≤ past := by
      rw [one, ← Nat.pow_add, ← Nat.pow_succ', past]
      exact Nat.pow_le_pow_right (by decide) (by omega)
    omega

/-- The double nearest to a whole number of 64 bits with the given sign. -/
def ofWhole (negative : Bool) (n : Nat) (h : n < 2 ^ 64) : Double :=
  ⟨negative, nearest (n * one) 1, gap_dvd_nearest _ _, nearest_lt_past h⟩

end Double

end Scriptlet
