import Scriptlet.Numeral.Scaled
import Scriptlet.Proofs.Double.Written

/-!
# Doubles made by scaling

The numeral of a double always has a double when it is read by scaling (`scaled?_ne_none`), though
the significand, the power of ten and the result are each rounded. Dividing never leads past the doubles.
Multiplying does not either, since two roundings add less than what lies between a double and the limit, but
for the last three doubles; there the digits are known.

The double is the same one where neither the significand nor the power is rounded
(`scaled?_of_small`).
-/

set_option autoImplicit false

namespace Scriptlet

open Text

/-! ## Significands -/

namespace Significand

variable {digits : List Char} {n : Numeral}

theorem push?_of_lt {s : Significand} {c : Char} {rest : List Char}
    (fits : s.value * 10 ^ (c :: rest).length + ofDigits (c :: rest) < 2 ^ 64) :
    ∃ next : Significand, s.push? c = some next ∧ next.value = 10 * s.value + digitValue c ∧
      next.exponent = s.exponent := by
  have least : 10 * s.value + digitValue c ≤ (10 * s.value + digitValue c) * 10 ^ rest.length :=
    Nat.le_mul_of_pos_right _ (Nat.pow_pos (by decide))
  rw [← value_cons] at fits
  have next : 10 * s.value + digitValue c < 2 ^ 64 := by omega
  refine ⟨⟨_, s.exponent, next⟩, ?_, rfl, rfl⟩
  delta push?
  exact dif_pos next

/-- Digits before the point that fit all count. -/
theorem pushWhole_spec (s : Significand)
    (fits : s.value * 10 ^ digits.length + ofDigits digits < 2 ^ 64) :
    (s.pushWhole digits).value = s.value * 10 ^ digits.length + ofDigits digits ∧
      (s.pushWhole digits).exponent = s.exponent := by
  induction digits generalizing s with
  | nil => simp [pushWhole, ofDigits]
  | cons c rest ih =>
    obtain ⟨next, pushed, value, exponent⟩ := push?_of_lt fits
    rw [← value_cons, ← value] at fits ⊢
    rw [pushWhole, pushed, ← exponent]
    exact ih next fits

/-- Digits after the point that fit all count, each a tenth of the one before. -/
theorem pushFraction_spec (s : Significand)
    (fits : s.value * 10 ^ digits.length + ofDigits digits < 2 ^ 64) :
    (s.pushFraction digits).value = s.value * 10 ^ digits.length + ofDigits digits ∧
      (s.pushFraction digits).exponent = s.exponent - digits.length := by
  induction digits generalizing s with
  | nil => simp [pushFraction, ofDigits]
  | cons c rest ih =>
    obtain ⟨next, pushed, value, exponent⟩ := push?_of_lt fits
    rw [← value_cons, ← value] at fits ⊢
    have count : s.exponent - (c :: rest).length = next.exponent - 1 - rest.length := by
      rw [exponent, List.length_cons]
      omega
    rw [pushFraction, pushed, count]
    exact ih { next with exponent := next.exponent - 1 } fits

/-- The significand of a numeral that fits has all its digits. -/
theorem ofNumeral_spec (power : n.power Numeral.exponentSize = n.power ofDigits)
    (fits : n.digits < 2 ^ 64) :
    (ofNumeral n).value = n.digits ∧ (ofNumeral n).exponent = n.scale := by
  have digits : n.digits = ofDigits n.whole * 10 ^ n.fraction.length + ofDigits n.fraction :=
    ofDigits_append n.whole n.fraction
  have least : ofDigits n.whole ≤ ofDigits n.whole * 10 ^ n.fraction.length :=
    Nat.le_mul_of_pos_right _ (Nat.pow_pos (by decide))
  have start : (empty (n.power ofDigits)).value = 0 := rfl
  have fitsWhole : (empty (n.power ofDigits)).value * 10 ^ n.whole.length + ofDigits n.whole < 2 ^ 64 := by
    rw [start]
    omega
  obtain ⟨value, exponent⟩ := pushWhole_spec (empty (n.power ofDigits)) fitsWhole
  rw [start, Nat.zero_mul, Nat.zero_add] at value
  rw [digits, ← value] at fits ⊢
  obtain ⟨value', exponent'⟩ := pushFraction_spec _ fits
  refine ⟨value', exponent'.trans ?_⟩
  rw [exponent, Numeral.scale, power]
  rfl

end Significand

namespace Double

variable {d power : Double} {k digits : Nat}

/-! ## Powers of ten -/

/-- The limit is an integer of 309 digits. -/
theorem exists_limit_eq : ∃ m whole, m = greatestPower ∧ limit = whole * one ∧
    10 ^ m < whole ∧ whole ≤ 10 ^ (m + 1) := by
  have split (k : Nat) : (2 ^ 54 - 1) * 2 ^ (k + places) = (2 ^ 54 - 1) * 2 ^ k * one := by
    rw [Nat.pow_add, ← one, Nat.mul_assoc]
  exact ⟨greatestPower, _, rfl, split 970, by decide +kernel, by decide +kernel⟩

/-- Whole numbers of at most 53 binary digits are doubles. -/
theorem gap_dvd_mul_one (le : digits ≤ 2 ^ 53) : gap (digits * one) ∣ digits * one := by
  rw [Nat.mul_comm]
  exact gap_dvd_two_pow_mul places digits le

/-- The powers of ten up to `greatestPower` are doubles. -/
theorem powerOfTen?_eq (le : k ≤ greatestPower) :
    ∃ power, powerOfTen? k = some power ∧ power.negative = false ∧
      power.units = nearest (10 ^ k * one) 1 := by
  have small : 10 ^ k * one < limit * 1 := by
    obtain ⟨m, whole, last, limit_, edge, -⟩ := exists_limit_eq
    rw [Nat.mul_one, limit_]
    refine Nat.mul_lt_mul_of_pos_right (Nat.lt_of_le_of_lt ?_ edge) one_pos
    exact Nat.pow_le_pow_right (by decide) (last ▸ le)
  have count : digitCount 1 = 1 := by rw [digitCount, if_pos (by decide)]
  unfold greatestPower at le
  unfold powerOfTen? ofDecimal?
  dsimp only
  rw [if_neg (by decide), count, if_neg (by omega), if_neg (by omega), if_pos (by omega),
    Int.toNat_natCast, Nat.one_mul, ofQuotient?, dif_pos ((nearest_lt_past_iff Nat.one_pos).mpr small)]
  exact ⟨_, rfl, rfl, rfl⟩

/-- A power of ten is not rounded below one. -/
theorem one_le_power (k : Nat) : one ≤ nearest (10 ^ k * one) 1 := by
  have le : one ≤ 10 ^ k * one := Nat.le_mul_of_pos_left one (Nat.pow_pos (by decide))
  have exact_ : nearest one 1 = one := by
    have single : gap (1 * one) ∣ 1 * one := gap_dvd_mul_one (by decide)
    rw [Nat.one_mul] at single
    exact nearest_self single
  calc one = nearest one 1 := exact_.symm
    _ ≤ nearest (10 ^ k * one) 1 := nearest_mono Nat.one_pos Nat.one_pos (Nat.mul_le_mul_right 1 le)

/-! ## Dividing -/

/-- A quotient by one or more is a double. -/
theorem div?_ne_none (large : one ≤ power.units) : d.div? power ≠ none := by
  have pos : 0 < power.units := one_pos.trans_le large
  have less : d.units * one < limit * power.units :=
    (Nat.mul_lt_mul_of_pos_right d.units_lt_limit one_pos).trans_le (Nat.mul_le_mul_left _ large)
  unfold div?
  rw [if_neg pos.ne', Ne, ofQuotient?_eq_none_iff pos]
  exact Nat.not_le.mpr less

/-- A double divided by a power of ten is a double. -/
theorem overPowerOfTen?_ne_none (d : Double) (k : Nat) : d.overPowerOfTen? k ≠ none := by
  fun_induction overPowerOfTen? d k with
  | case1 d k le =>
    obtain ⟨power, found, -, units⟩ := powerOfTen?_eq le
    rw [found, Option.bind_some]
    exact div?_ne_none (units ▸ one_le_power k)
  | case2 d k past_ zero => nofun
  | case3 d k past_ some_ ih =>
    obtain ⟨power, found, -, units⟩ := powerOfTen?_eq (Nat.le_refl greatestPower)
    rw [found, Option.bind_some]
    obtain ⟨quotient, divided⟩ :=
      Option.ne_none_iff_exists'.mp (div?_ne_none (d := d) (units ▸ one_le_power greatestPower))
    rw [divided, Option.bind_some]
    exact ih quotient

/-! ## Multiplying -/

theorem timesPowerOfTen?_ne_none (le : k ≤ greatestPower)
    (below : d.units * nearest (10 ^ k * one) 1 < limit * one) : d.timesPowerOfTen? k ≠ none := by
  obtain ⟨power, found, -, units⟩ := powerOfTen?_eq le
  rw [timesPowerOfTen?, if_pos le, found, Option.bind_some, mul?, Ne,
    ofQuotient?_eq_none_iff one_pos, units]
  exact Nat.not_le.mpr below

theorem timesPowerOfTen?_ne_none_of_zero (zero : d.units = 0) : d.timesPowerOfTen? k ≠ none := by
  by_cases le : k ≤ greatestPower
  · refine timesPowerOfTen?_ne_none le ?_
    rw [zero, Nat.zero_mul]
    exact Nat.mul_pos (one_pos.trans_le one_le_limit) one_pos
  · rw [timesPowerOfTen?, if_neg le, if_pos zero]
    nofun

/-- The third last double. -/
def thirdLast : Nat := (2 ^ 53 - 3) * 2 ^ (970 + places + 1)

/-- Two roundings do not lead past the doubles from below the third last one. -/
theorem product_lt_limit (some_ : digits ≠ 0) (below : digits * 10 ^ k * one < thirdLast) :
    nearest (digits * one) 1 * nearest (10 ^ k * one) 1 < limit * one := by
  have normal : ∀ m, m ≠ 0 → 2 ^ 53 * (nearest (m * one) 1) ≤ (2 ^ 53 + 1) * (m * one) := by
    intro m some_
    have large : 2 ^ 52 ≤ m * one / 1 := by
      rw [Nat.div_one]
      have power : 2 ^ 52 ≤ one := Nat.pow_le_pow_right Nat.two_pos (by rw [places_eq]; decide)
      exact power.trans (Nat.le_mul_of_pos_left one (Nat.pos_of_ne_zero some_))
    have bound := nearest_mul_le Nat.one_pos large
    rwa [Nat.mul_one] at bound
  have first := normal digits some_
  have second := normal (10 ^ k) (Nat.pow_pos (by decide)).ne'
  have edge : (2 ^ 53 + 1) * (2 ^ 53 + 1) * thirdLast ≤ 2 ^ 53 * 2 ^ 53 * limit := by
    have factors : (2 ^ 53 + 1) * (2 ^ 53 + 1) * ((2 ^ 53 - 3) * 2) ≤ 2 ^ 53 * 2 ^ 53 * (2 ^ 54 - 1) := by
      decide
    rw [thirdLast, limit, Nat.pow_succ' (n := 970 + places)]
    generalize 2 ^ (970 + places) = step
    calc (2 ^ 53 + 1) * (2 ^ 53 + 1) * ((2 ^ 53 - 3) * (2 * step))
        = (2 ^ 53 + 1) * (2 ^ 53 + 1) * ((2 ^ 53 - 3) * 2) * step := by simp only [Nat.mul_assoc]
      _ ≤ 2 ^ 53 * 2 ^ 53 * (2 ^ 54 - 1) * step := Nat.mul_le_mul_right step factors
      _ = 2 ^ 53 * 2 ^ 53 * ((2 ^ 54 - 1) * step) := Nat.mul_assoc _ _ _
  refine Nat.lt_of_mul_lt_mul_left (a := 2 ^ 53 * 2 ^ 53) ?_
  calc 2 ^ 53 * 2 ^ 53 * (nearest (digits * one) 1 * nearest (10 ^ k * one) 1)
      = 2 ^ 53 * nearest (digits * one) 1 * (2 ^ 53 * nearest (10 ^ k * one) 1) := by ring
    _ ≤ (2 ^ 53 + 1) * (digits * one) * ((2 ^ 53 + 1) * (10 ^ k * one)) := Nat.mul_le_mul first second
    _ = (2 ^ 53 + 1) * (2 ^ 53 + 1) * (digits * 10 ^ k * one) * one := by ring
    _ < (2 ^ 53 + 1) * (2 ^ 53 + 1) * thirdLast * one :=
      Nat.mul_lt_mul_of_pos_right (Nat.mul_lt_mul_of_pos_left below (by decide)) one_pos
    _ ≤ 2 ^ 53 * 2 ^ 53 * limit * one := Nat.mul_le_mul_right one edge
    _ = 2 ^ 53 * 2 ^ 53 * (limit * one) := Nat.mul_assoc _ _ _

/-! ## The last doubles -/

/-- Where the number of exact digits is known, so is the grid on which the search starts. -/
theorem shortest_of_bounds {units k : Nat} (pos : 0 < k) (least : 10 ^ k ≤ exactDigits units)
    (most : exactDigits units < 10 ^ (k + 1)) :
    shortest units = coarsest (onGrid? units) (exactDigits units) k := by
  have lower := (lt_digitCount_iff pos).mpr least
  have upper := (digitCount_le_iff (Nat.succ_pos k)).mpr most
  have count : digitCount (exactDigits units) - 1 = k := by omega
  rw [shortest, count]

/-- The units are written with digits that count a power of ten, the last of them not zero. Even rounded
these make no product past the doubles. -/
structure EndsSafely (units k : Nat) : Prop where
  exponent : (shortest units).exponent = k
  odd : (shortest units).digits % 10 ≠ 0
  product : nearest ((shortest units).digits * one) 1 * nearest (10 ^ k * one) 1 < limit * one

theorem endsSafely_of_evaluation {units d c k : Nat} (pos : 0 < c)
    (bounds : 10 ^ c ≤ exactDigits units ∧ exactDigits units < 10 ^ (c + 1))
    (found : (coarsest (onGrid? units) (exactDigits units) c).digits = d ∧
      (coarsest (onGrid? units) (exactDigits units) c).exponent = k)
    (odd : d % 10 ≠ 0) (product : nearest (d * one) 1 * nearest (10 ^ k * one) 1 < limit * one) :
    EndsSafely units k := by
  rw [← shortest_of_bounds pos bounds.1 bounds.2] at found
  obtain ⟨rfl, exponent⟩ := found
  exact ⟨exponent, odd, product⟩

/-- From the third last double on, every double is one of the last three. -/
theorem exists_of_thirdLast_le {units : Nat} (representable : Representable units)
    (le : thirdLast ≤ units) :
    ∃ m, units = m * 2 ^ (970 + places + 1) ∧
      (m = 2 ^ 53 - 1 ∨ m = 2 ^ 53 - 2 ∨ m = 2 ^ 53 - 3) := by
  obtain ⟨exact_, below⟩ := representable
  have step := Nat.two_pow_pos (970 + places + 1)
  have power : 2 ^ (52 + (970 + places + 1)) ≤ units := by
    calc 2 ^ (52 + (970 + places + 1)) = 2 ^ 52 * 2 ^ (970 + places + 1) := Nat.pow_add _ _ _
      _ ≤ thirdLast := Nat.mul_le_mul_right (2 ^ (970 + places + 1)) (by decide)
      _ ≤ units := le
  have some_ : units ≠ 0 := (Nat.lt_of_lt_of_le (Nat.two_pow_pos _) power).ne'
  have log2 : units.log2 = 52 + (970 + places + 1) := by
    have upper : units.log2 < 1024 + places := (Nat.log2_lt some_).mpr below
    have lower := (Nat.le_log2 some_).mpr power
    omega
  obtain ⟨m, value⟩ := exact_
  have past_ : past = 2 ^ 53 * 2 ^ (970 + places + 1) := by
    rw [past_eq, ← Nat.pow_add]
    congr 1
    omega
  rw [gap, log2, Nat.add_sub_cancel_left, Nat.mul_comm] at value
  rw [thirdLast, value] at le
  rw [past_, value] at below
  have least := Nat.le_of_mul_le_mul_right le step
  have most := (Nat.mul_lt_mul_right step).mp below
  exact ⟨m, value, by omega⟩

/-- The last three doubles are written with 17 digits, which make no product past the doubles. -/
theorem endsSafely_of_thirdLast_le {units : Nat} (representable : Representable units)
    (le : thirdLast ≤ units) : EndsSafely units 292 := by
  obtain ⟨m, value, last | second | third⟩ := exists_of_thirdLast_le representable le
  · rw [value, last]
    exact endsSafely_of_evaluation (d := 17976931348623157) (c := 1382) (by decide)
      (by decide +kernel) (by decide +kernel) (by decide) (by decide +kernel)
  · rw [value, second]
    exact endsSafely_of_evaluation (d := 17976931348623155) (c := 1382) (by decide)
      (by decide +kernel) (by decide +kernel) (by decide) (by decide +kernel)
  · rw [value, third]
    exact endsSafely_of_evaluation (d := 17976931348623153) (c := 1382) (by decide)
      (by decide +kernel) (by decide +kernel) (by decide) (by decide +kernel)

/-! ## Every double -/

variable {n : Numeral} {negative : Bool}

/-- What scaling makes of a numeral that fits. -/
theorem scaled?_eq (power : n.power Numeral.exponentSize = n.power ofDigits)
    (fits : n.digits < 2 ^ 64) (negative : Bool) :
    n.scaled? negative =
      if 0 ≤ n.scale then (ofWhole negative n.digits fits).timesPowerOfTen? n.scale.toNat
      else (ofWhole negative n.digits fits).overPowerOfTen? (-n.scale).toNat := by
  obtain ⟨value, exponent⟩ := Significand.ofNumeral_spec power fits
  unfold Numeral.scaled? Significand.scaled?
  generalize Significand.ofNumeral n = s at value exponent ⊢
  obtain ⟨digits, scale, _⟩ := s
  obtain rfl : digits = n.digits := value
  obtain rfl : scale = n.scale := exponent
  rfl

/-- A whole number of units that is read without exponent. -/
theorem units_eq_of_scale (sign : 0 ≤ n.scale) :
    n.decimal.value * one = ((n.digits * 10 ^ n.scale.toNat * one : Nat) : ℚ) / (1 : Nat) := by
  have exact_ := n.decimal.units_eq
  have none_ : (-n.scale).toNat = 0 := by omega
  simp only [Numeral.decimal] at exact_
  rw [none_, Nat.pow_zero] at exact_
  exact exact_

/-- The power of ten of a double's numeral is a double. -/
theorem WrittenAs.scale_le (written : d.WrittenAs n) (some_ : n.digits ≠ 0) : n.scale ≤ 308 := by
  obtain ⟨m, whole, last, limit_, -, edge⟩ := exists_limit_eq
  have large : limit ≤ 10 ^ (m + 1) * one := by
    rw [limit_]
    exact Nat.mul_le_mul_right one edge
  have bound := written.rounds.leadingExponent_lt d.representable.2 some_ large
  have count := digitCount_pos n.digits
  simp only [Decimal.leadingExponent, Numeral.decimal] at bound
  unfold greatestPower at last
  omega

/-- Where the shortest decimal ends in no zero, the numeral is the same decimal. -/
theorem WrittenAs.eq_of_endsSafely (written : d.WrittenAs n) (large : 0 < n.scale)
    (some_ : n.digits ≠ 0) (safe : EndsSafely d.units k) :
    n.digits = (shortest d.units).digits ∧ n.scale.toNat = k := by
  obtain ⟨value, few⟩ := written.short large
  have same : n.digits * 10 ^ n.scale.toNat = (shortest d.units).digits * 10 ^ k := by
    simp only [Decimal.value, Numeral.decimal, safe.exponent] at value
    rw [← Int.toNat_of_nonneg large.le, zpow_natCast, zpow_natCast] at value
    exact_mod_cast value
  have odd := safe.odd
  generalize (shortest d.units).digits = digits at few same odd ⊢
  have least : k ≤ n.scale.toNat := by
    refine Nat.le_of_not_lt fun small => ?_
    have power : 10 ^ n.scale.toNat < 10 ^ k := Nat.pow_lt_pow_right (by decide) small
    have less : n.digits * 10 ^ n.scale.toNat < digits * 10 ^ k :=
      (Nat.mul_lt_mul_of_pos_left power (Nat.pos_of_ne_zero some_)).trans_le
        (Nat.mul_le_mul_right _ few)
    exact absurd same less.ne
  obtain ⟨zeros, count⟩ := Nat.exists_eq_add_of_le least
  have shape : digits = n.digits * 10 ^ zeros := by
    rw [count, Nat.pow_add, Nat.mul_comm (10 ^ k), ← Nat.mul_assoc] at same
    exact (Nat.eq_of_mul_eq_mul_right (Nat.pow_pos (by decide)) same).symm
  cases zeros with
  | zero =>
    rw [Nat.pow_zero, Nat.mul_one] at shape
    exact ⟨shape.symm, count⟩
  | succ zeros =>
    rw [Nat.pow_succ, ← Nat.mul_assoc] at shape
    omega

/-- The product that scaling makes for a double is below the limit. -/
theorem WrittenAs.product_lt_limit (written : d.WrittenAs n) (sign : 0 ≤ n.scale)
    (some_ : n.digits ≠ 0) :
    nearest (n.digits * one) 1 * nearest (10 ^ n.scale.toNat * one) 1 < limit * one := by
  rcases Nat.lt_or_ge (n.digits * 10 ^ n.scale.toNat * one) thirdLast with below | above
  · exact Double.product_lt_limit some_ below
  · have rounded := written.rounds _ 1 Nat.one_pos (units_eq_of_scale sign)
    have exact_ : gap thirdLast ∣ thirdLast := by
      rw [thirdLast, Nat.mul_comm]
      exact gap_dvd_two_pow_mul (970 + places + 1) (2 ^ 53 - 3) (by decide)
    have last : thirdLast ≤ d.units := by
      rw [← rounded]
      calc thirdLast = nearest thirdLast 1 := (nearest_self exact_).symm
        _ ≤ _ := nearest_mono Nat.one_pos Nat.one_pos (Nat.mul_le_mul_right 1 above)
    have safe := endsSafely_of_thirdLast_le d.representable last
    have large : 0 < n.scale := by
      refine lt_of_le_of_ne sign fun zero => ?_
      have few := Nat.mul_le_mul_right one written.few
      have edge : 10 ^ 18 * one < thirdLast := by decide +kernel
      rw [← zero, Int.toNat_zero, Nat.pow_zero, Nat.mul_one] at above
      omega
    obtain ⟨digits, scale⟩ := written.eq_of_endsSafely large some_ safe
    rw [digits, scale]
    exact safe.product

/-- The numeral of a double has a double when it is read by scaling. -/
theorem WrittenAs.scaled?_ne_none (written : d.WrittenAs n) (negative : Bool) :
    n.scaled? negative ≠ none := by
  have fits : n.digits < 2 ^ 64 := written.few.trans_lt (by decide)
  rw [scaled?_eq written.power fits]
  split_ifs with sign
  · by_cases zero : n.digits = 0
    · refine timesPowerOfTen?_ne_none_of_zero ?_
      show nearest (n.digits * one) 1 = 0
      rw [zero, Nat.zero_mul, nearest_zero]
    · have le : n.scale.toNat ≤ greatestPower := Int.toNat_le.mpr (written.scale_le zero)
      exact timesPowerOfTen?_ne_none le (written.product_lt_limit sign zero)
  · exact overPowerOfTen?_ne_none _ _

/-! ## Doubles that stay the same -/

/-- The powers of ten up to the 22nd are whole numbers of at most 53 binary digits, up to a power of two. -/
theorem nearest_power (le : k ≤ 22) : nearest (10 ^ k * one) 1 = 10 ^ k * one := by
  refine nearest_self ?_
  have odd : 5 ^ k ≤ 2 ^ 53 := by
    calc 5 ^ k ≤ 5 ^ 22 := Nat.pow_le_pow_right (by decide) le
      _ ≤ 2 ^ 53 := by decide
  have factors : 10 ^ k * one = 2 ^ (k + places) * 5 ^ k := by
    rw [Nat.pow_add, ← one, show 10 = 2 * 5 from rfl, Nat.mul_pow]
    ring
  rw [factors]
  exact gap_dvd_two_pow_mul _ _ odd

/-- Scaling gives the double back whose significand and power of ten are not rounded. -/
theorem WrittenAs.scaled?_of_small (written : d.WrittenAs n) (digits : n.digits ≤ 2 ^ 53)
    (scale : n.scale.natAbs ≤ 22) : n.scaled? d.negative = some d := by
  have fits : n.digits < 2 ^ 64 := written.few.trans_lt (by decide)
  have whole : nearest (n.digits * one) 1 = n.digits * one := nearest_self (gap_dvd_mul_one digits)
  have one_ := one_cast_pos
  rw [scaled?_eq written.power fits]
  split_ifs with sign
  · have small : n.scale.toNat ≤ 22 := by omega
    have le : n.scale.toNat ≤ greatestPower := small.trans (by decide)
    obtain ⟨power, found, positive, units⟩ := powerOfTen?_eq le
    rw [nearest_power small] at units
    rw [timesPowerOfTen?, if_pos le, found, Option.bind_some, mul?, positive, units, ofWhole]
    simp only [whole, Bool.bne_false]
    refine Decimal.ofQuotient?_of_roundsTo written.rounds d.representable one_pos ?_
    rw [units_eq_of_scale sign]
    push_cast
    field_simp
  · have small : (-n.scale).toNat ≤ 22 := by omega
    have le : (-n.scale).toNat ≤ greatestPower := small.trans (by decide)
    have none_ : n.scale.toNat = 0 := by omega
    have power_ : 0 < 10 ^ (-n.scale).toNat * one := Nat.mul_pos (Nat.pow_pos (by decide)) one_pos
    obtain ⟨power, found, positive, units⟩ := powerOfTen?_eq le
    rw [nearest_power small] at units
    rw [overPowerOfTen?, if_pos le, found, Option.bind_some, div?, positive, units, ofWhole,
      if_neg power_.ne']
    simp only [whole, Bool.bne_false]
    refine Decimal.ofQuotient?_of_roundsTo written.rounds d.representable power_ ?_
    have exact_ := n.decimal.units_eq
    simp only [Numeral.decimal] at exact_
    rw [none_, Nat.pow_zero, Nat.mul_one] at exact_
    refine exact_.trans ?_
    push_cast
    field_simp

end Double

end Scriptlet
