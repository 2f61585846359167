import Scriptlet.Proofs.Number.Range
import Scriptlet.Proofs.Value.Numbers
import Scriptlet.Statics.Math

/-!
# The greater and the lesser of two numbers

Of two integers the greater and the lesser are chosen by their exact values, and of all other pairs by their
doubles, in the order that puts negative zero before zero. What is chosen in the second way is a double, so the
number that was given need not come back, only one equal to it.

Two facts carry all laws of the choice. The place of a number among the doubles (`Number.rank`) is chosen as the
number is, also between integers, since rounding never turns an order round (`rank_pick`). And no two doubles
have one place (`Double.totalKey_inj`), so a chosen double is known from its place.
-/

set_option autoImplicit false

namespace Scriptlet

namespace Double

variable {a b : Double}

theorem totalKey_inj : a.totalKey = b.totalKey ↔ a = b := by
  refine ⟨fun equal => ?_, congrArg totalKey⟩
  -- Keys of doubles with a minus sign are below zero, the others are not.
  have parts : a.negative = b.negative ∧ a.units = b.units := by
    unfold totalKey at equal
    cases sign : a.negative <;> cases sign' : b.negative <;>
      simp only [sign, sign', Bool.false_eq_true, if_true, if_false] at equal <;>
      refine ⟨?_, by omega⟩ <;> first | rfl | omega
  obtain ⟨negative, units, representable⟩ := a
  obtain ⟨negative', units', representable'⟩ := b
  obtain ⟨rfl, rfl⟩ : negative = negative' ∧ units = units' := parts
  rfl

/-- The order of the keys is finer than that of the values. -/
theorem signed_le_of_totalKey_le (le : a.totalKey ≤ b.totalKey) : a.signed ≤ b.signed := by
  unfold totalKey at le
  unfold signed
  split_ifs at le ⊢ <;> omega

/-- The double of an integer is never negative zero. -/
theorem totalKey_ofInt64_mono {i j : Int64} (le : i.toInt ≤ j.toInt) :
    (ofInt64 i).totalKey ≤ (ofInt64 j).totalKey := by
  have values : (ofInt64 i).signed ≤ (ofInt64 j).signed := by
    rw [signed_ofInt64, signed_ofInt64]
    exact roundUnits_mono (Int.mul_le_mul_of_nonneg_right le intCast_one_pos.le)
  have sign (i : Int64) : (ofInt64 i).negative = decide (i.toInt < 0) := rfl
  unfold signed at values
  unfold totalKey
  rw [sign i, sign j] at values ⊢
  simp only [decide_eq_true_eq] at values ⊢
  split_ifs at values ⊢ <;> omega

end Double

namespace Number

/-- The place of a number among the doubles. -/
def rank (a : Number) : Int :=
  a.quantity.toDouble.totalKey

/-- The number is a double. -/
def IsDouble (a : Number) : Prop :=
  ∃ d, a = double d

variable {a b : Number}

theorem rounded_le_of_rank_le (le : a.rank ≤ b.rank) : a.rounded ≤ b.rounded :=
  Double.signed_le_of_totalKey_le le

theorem rounded_eq_of_rank_eq (same : a.rank = b.rank) : a.rounded = b.rounded :=
  le_antisymm (rounded_le_of_rank_le same.le) (rounded_le_of_rank_le same.ge)

/-- Numbers of one place are equal, unless they are different integers. -/
theorem compares_eq_of_rank_eq (same : a.rank = b.rank) (exact_ : a.IsInt → b.IsInt → a = b) :
    Compares .eq a b true := by
  rw [compares_eq_iff, order_eq_eq_iff]
  exact ⟨rounded_eq_of_rank_eq same, fun merges => merges.2.2.1 (exact_ merges.1 merges.2.1)⟩

theorem IsDouble.not_isInt (double_ : a.IsDouble) : ¬a.IsInt := by
  rintro ⟨i, rfl⟩
  obtain ⟨d, ⟨⟩⟩ := double_

/-- Doubles with one place are one double. -/
theorem IsDouble.eq_of_rank_eq (first : a.IsDouble) (second : b.IsDouble) (same : a.rank = b.rank) :
    a = b := by
  obtain ⟨d, rfl⟩ := first
  obtain ⟨d', rfl⟩ := second
  exact congrArg double (Double.totalKey_inj.mp same)

end Number

/-- The two members of `Math` that choose one of two numbers. -/
inductive Extreme where
  | greatest
  | least

namespace Extreme

/-- The name of the member. -/
def name : Extreme → String
  | greatest => "max"
  | least => "min"

/-- The orders of the first number against the second in which the first is chosen. -/
def accepts : Extreme → Ordering → Bool
  | greatest => Ordering.isGE
  | least => Ordering.isLE

/-- The comparison of what is chosen with what it is chosen from. -/
def comparison : Extreme → Comparison
  | greatest => .ge
  | least => .le

/-- The member that chooses what this one does not. -/
def dual : Extreme → Extreme
  | greatest => least
  | least => greatest

/-- The choice between integers without bounds. -/
def of : Extreme → Int → Int → Int
  | greatest => max
  | least => min

/-- The number that is chosen. -/
def pick (extreme : Extreme) (a b : Number) : Number :=
  (Quantity.pick extreme.accepts a.quantity b.quantity).toNumber

variable {extreme : Extreme} {a b c : Number}

/-! ## Integers without bounds -/

theorem of_comm (extreme : Extreme) (x y : Int) : extreme.of x y = extreme.of y x := by
  cases extreme with
  | greatest => exact max_comm x y
  | least => exact min_comm x y

theorem of_assoc (extreme : Extreme) (x y z : Int) :
    extreme.of (extreme.of x y) z = extreme.of x (extreme.of y z) := by
  cases extreme with
  | greatest => exact max_assoc x y z
  | least => exact min_assoc x y z

theorem dual_of_of (extreme : Extreme) (x y : Int) : extreme.dual.of x (extreme.of x y) = x := by
  cases extreme with
  | greatest => exact min_eq_left (le_max_left x y)
  | least => exact max_eq_left (min_le_left x y)

/-- The first integer is the second one, or lies on the side of it that is chosen. -/
def Beyond : Extreme → Int → Int → Prop
  | greatest, x, y => y ≤ x
  | least, x, y => x ≤ y

theorem beyond_of (extreme : Extreme) (x y : Int) : extreme.Beyond (extreme.of x y) x := by
  cases extreme with
  | greatest => exact le_max_left x y
  | least => exact min_le_left x y

theorem accepts_of_beyond {x y : Int} (beyond : extreme.Beyond x y) :
    extreme.comparison.accepts (compare x y) = true := by
  cases extreme with
  | greatest => exact Int.isGE_compare.mpr beyond
  | least => exact Int.isLE_compare.mpr beyond

theorem of_eq_or (extreme : Extreme) (x y : Int) : extreme.of x y = x ∨ extreme.of x y = y := by
  cases extreme with
  | greatest => exact max_choice x y
  | least => exact min_choice x y

/-- A function that grows keeps the choice. -/
theorem of_map {α : Type} {f g : α → Int} (grows : ∀ x y, f x ≤ f y → g x ≤ g y) {x y z : α}
    (chosen : f z = extreme.of (f x) (f y)) : g z = extreme.of (g x) (g y) := by
  have same (u v : α) (equal : f u = f v) : g u = g v :=
    le_antisymm (grows u v equal.le) (grows v u equal.ge)
  cases extreme with
  | greatest =>
    rcases le_total (f x) (f y) with le | le
    · rw [same z y (chosen.trans (max_eq_right le))]
      exact (max_eq_right (grows x y le)).symm
    · rw [same z x (chosen.trans (max_eq_left le))]
      exact (max_eq_left (grows y x le)).symm
  | least =>
    rcases le_total (f x) (f y) with le | le
    · rw [same z x (chosen.trans (min_eq_left le))]
      exact (min_eq_left (grows x y le)).symm
    · rw [same z y (chosen.trans (min_eq_right le))]
      exact (min_eq_right (grows y x le)).symm

/-- The choice by the order is the choice between the integers. -/
theorem ite_accepts {α : Type} (extreme : Extreme) (f : α → Int) (x y : α) :
    f (if extreme.accepts (compare (f x) (f y)) then x else y) = extreme.of (f x) (f y) := by
  rcases Int.lt_trichotomy (f x) (f y) with less | same | greater
  · rw [Int.compare_eq_lt.mpr less]
    cases extreme with
    | greatest => exact (max_eq_right less.le).symm
    | least => exact (min_eq_left less.le).symm
  · rw [Int.compare_eq_eq.mpr same, ← same]
    cases extreme with
    | greatest => exact (max_self (f x)).symm
    | least => exact (min_self (f x)).symm
  · rw [Int.compare_eq_gt.mpr greater]
    cases extreme with
    | greatest => exact (max_eq_left greater.le).symm
    | least => exact (min_eq_right greater.le).symm

/-! ## The chosen number -/

/-- Between integers the choice is that of their values. -/
theorem pick_int (extreme : Extreme) (i j : Int64) :
    ∃ k, extreme.pick (.int i) (.int j) = .int k ∧ k.toInt = extreme.of i.toInt j.toInt := by
  refine ⟨_, ?_, extreme.ite_accepts Int64.toInt i j⟩
  unfold pick Quantity.pick Number.quantity
  dsimp only
  split_ifs <;> rfl

/-- All other choices are between doubles. -/
theorem pick_mixed (extreme : Extreme) (mixed : ¬(a.IsInt ∧ b.IsInt)) :
    ∃ d, extreme.pick a b = .double d ∧ d.totalKey = extreme.of a.rank b.rank := by
  refine ⟨_, ?_, extreme.ite_accepts Double.totalKey a.quantity.toDouble b.quantity.toDouble⟩
  have doubles : Quantity.pick extreme.accepts a.quantity b.quantity =
      if extreme.accepts (a.quantity.toDouble.totalOrder b.quantity.toDouble) then
        .double a.quantity.toDouble else .double b.quantity.toDouble := by
    cases a with
    | int i =>
      cases b with
      | int j => exact absurd ⟨⟨i, rfl⟩, ⟨j, rfl⟩⟩ mixed
      | wide n past => rfl
      | double d => rfl
    | wide n past => rfl
    | double d => rfl
  rw [pick, doubles, Double.totalOrder]
  split_ifs <;> rfl

theorem isDouble_pick (extreme : Extreme) (mixed : ¬(a.IsInt ∧ b.IsInt)) : (extreme.pick a b).IsDouble := by
  obtain ⟨d, chosen, -⟩ := extreme.pick_mixed mixed
  exact ⟨d, chosen⟩

/-- What is chosen is an integer between integers only. -/
theorem isInt_pick_iff : (extreme.pick a b).IsInt ↔ a.IsInt ∧ b.IsInt := by
  by_cases ints : a.IsInt ∧ b.IsInt
  · obtain ⟨⟨i, rfl⟩, ⟨j, rfl⟩⟩ := ints
    obtain ⟨k, chosen, -⟩ := extreme.pick_int i j
    exact iff_of_true ⟨k, chosen⟩ ⟨⟨i, rfl⟩, ⟨j, rfl⟩⟩
  · exact iff_of_false (extreme.isDouble_pick ints).not_isInt ints

/-- In all other cases it is a double. -/
theorem isDouble_pick_iff : (extreme.pick a b).IsDouble ↔ ¬(a.IsInt ∧ b.IsInt) :=
  ⟨fun double_ => mt isInt_pick_iff.mpr double_.not_isInt, extreme.isDouble_pick⟩

/-- The place among the doubles is chosen as the number is. -/
theorem rank_pick (extreme : Extreme) (a b : Number) :
    (extreme.pick a b).rank = extreme.of a.rank b.rank := by
  by_cases ints : a.IsInt ∧ b.IsInt
  · obtain ⟨⟨i, rfl⟩, ⟨j, rfl⟩⟩ := ints
    obtain ⟨k, chosen, value⟩ := extreme.pick_int i j
    rw [chosen]
    exact of_map (f := Int64.toInt) (g := fun i => (Number.int i).rank)
      (fun _ _ le => Double.totalKey_ofInt64_mono le) value
  · obtain ⟨d, chosen, place⟩ := extreme.pick_mixed ints
    rw [chosen]
    exact place

/-! ## The laws -/

theorem pick_comm (extreme : Extreme) (a b : Number) : extreme.pick a b = extreme.pick b a := by
  by_cases ints : a.IsInt ∧ b.IsInt
  · obtain ⟨⟨i, rfl⟩, ⟨j, rfl⟩⟩ := ints
    obtain ⟨k, chosen, value⟩ := extreme.pick_int i j
    obtain ⟨l, chosen', value'⟩ := extreme.pick_int j i
    rw [chosen, chosen', Int64.toInt_inj.mp (value.trans ((of_comm _ _ _).trans value'.symm))]
  · refine (extreme.isDouble_pick ints).eq_of_rank_eq (extreme.isDouble_pick fun swapped => ints swapped.symm) ?_
    rw [rank_pick, rank_pick, of_comm]

theorem pick_assoc (extreme : Extreme) (a b c : Number) :
    extreme.pick (extreme.pick a b) c = extreme.pick a (extreme.pick b c) := by
  by_cases ints : a.IsInt ∧ b.IsInt ∧ c.IsInt
  · obtain ⟨⟨i, rfl⟩, ⟨j, rfl⟩, ⟨k, rfl⟩⟩ := ints
    obtain ⟨m, first, value⟩ := extreme.pick_int i j
    obtain ⟨n, second, value'⟩ := extreme.pick_int j k
    rw [first, second]
    obtain ⟨left, leftIs, leftValue⟩ := extreme.pick_int m k
    obtain ⟨right, rightIs, rightValue⟩ := extreme.pick_int i n
    have same : left.toInt = right.toInt := by
      rw [leftValue, rightValue, value, value', of_assoc]
    rw [leftIs, rightIs, Int64.toInt_inj.mp same]
  · have left : (extreme.pick (extreme.pick a b) c).IsDouble :=
      extreme.isDouble_pick fun both => ints (and_assoc.mp ⟨isInt_pick_iff.mp both.1, both.2⟩)
    have right : (extreme.pick a (extreme.pick b c)).IsDouble :=
      extreme.isDouble_pick fun both => ints ⟨both.1, isInt_pick_iff.mp both.2⟩
    refine left.eq_of_rank_eq right ?_
    rw [rank_pick, rank_pick, rank_pick, rank_pick, of_assoc]

/-- What is chosen is beyond the first number. -/
theorem compares_pick_left (extreme : Extreme) (a b : Number) :
    Number.Compares extreme.comparison (extreme.pick a b) a true := by
  rw [Number.compares_iff]
  by_cases ints : a.IsInt ∧ b.IsInt
  · obtain ⟨⟨i, rfl⟩, ⟨j, rfl⟩⟩ := ints
    obtain ⟨k, chosen, value⟩ := extreme.pick_int i j
    rw [chosen]
    show extreme.comparison.accepts (compare k.toInt i.toInt) = true
    rw [value]
    exact accepts_of_beyond (extreme.beyond_of _ _)
  · have mixed : ¬((extreme.pick a b).IsInt ∧ a.IsInt) := fun both => ints (isInt_pick_iff.mp both.1)
    have place := extreme.beyond_of a.rank b.rank
    rw [← rank_pick] at place
    rw [Number.order_of_mixed mixed]
    refine accepts_of_beyond ?_
    cases extreme with
    | greatest => exact Number.rounded_le_of_rank_le place
    | least => exact Number.rounded_le_of_rank_le place

theorem compares_pick_right (extreme : Extreme) (a b : Number) :
    Number.Compares extreme.comparison (extreme.pick a b) b true := by
  rw [pick_comm]
  exact extreme.compares_pick_left b a

/-- One of the two numbers is equal to what is chosen. -/
theorem compares_pick_or (extreme : Extreme) (a b : Number) :
    Number.Compares .eq (extreme.pick a b) a true ∨ Number.Compares .eq (extreme.pick a b) b true := by
  by_cases ints : a.IsInt ∧ b.IsInt
  · obtain ⟨⟨i, rfl⟩, ⟨j, rfl⟩⟩ := ints
    obtain ⟨k, chosen, value⟩ := extreme.pick_int i j
    rw [chosen]
    rcases extreme.of_eq_or i.toInt j.toInt with first | second
    · rw [Int64.toInt_inj.mp (value.trans first)]
      exact Or.inl (Number.compares_eq_of_rank_eq rfl fun _ _ => rfl)
    · rw [Int64.toInt_inj.mp (value.trans second)]
      exact Or.inr (Number.compares_eq_of_rank_eq rfl fun _ _ => rfl)
  · have double_ := (extreme.isDouble_pick ints).not_isInt
    have place := extreme.rank_pick a b
    exact (extreme.of_eq_or a.rank b.rank).imp
      (fun first => Number.compares_eq_of_rank_eq (place.trans first) fun isInt => absurd isInt double_)
      (fun second => Number.compares_eq_of_rank_eq (place.trans second) fun isInt => absurd isInt double_)

/-- Between a number and what is chosen beyond it, the dual choice is the number. -/
theorem compares_dual_pick (extreme : Extreme) (a b : Number) :
    Number.Compares .eq (extreme.dual.pick a (extreme.pick a b)) a true := by
  refine Number.compares_eq_of_rank_eq ?_ fun isInt _ => ?_
  · rw [rank_pick, rank_pick, dual_of_of]
  · obtain ⟨⟨i, rfl⟩, inner⟩ := isInt_pick_iff.mp isInt
    obtain ⟨-, ⟨j, rfl⟩⟩ := isInt_pick_iff.mp inner
    obtain ⟨k, chosen, value⟩ := extreme.pick_int i j
    rw [chosen]
    obtain ⟨l, back, value'⟩ := extreme.dual.pick_int i k
    rw [value, dual_of_of] at value'
    rw [back, Int64.toInt_inj.mp value']

end Extreme

namespace Quantity

/-- The greater of an integer and one that is not above it. -/
theorem pick_int_of_le {i j : Int64} (le : j.toInt ≤ i.toInt) :
    pick Ordering.isGE (.int i) (.int j) = .int i := by
  show (if (compare i.toInt j.toInt).isGE then _ else _) = _
  rw [if_pos (Int.isGE_compare.mpr le)]

/-- The greater of an integer and one above it. -/
theorem pick_int_of_lt {i j : Int64} (less : i.toInt < j.toInt) :
    pick Ordering.isGE (.int i) (.int j) = .int j := by
  show (if (compare i.toInt j.toInt).isGE then _ else _) = _
  rw [if_neg (mt Int.isGE_compare.mp (Int.not_le.mpr less))]

/-- The opposite of a number that is not negative fits. -/
theorem negate_of_nonneg {i : Int64} (nonneg : 0 ≤ i.toInt) :
    ∃ opposite, negate (.int i) = .ok (.int opposite) ∧ opposite.toInt = -i.toInt := by
  cases found : int64? (-i.toInt) with
  | some opposite => exact ⟨opposite, by rw [negate, found], toInt_of_int64? found⟩
  | none =>
    obtain ⟨low, high⟩ := fits_toInt i
    exact absurd ⟨by omega, by omega⟩ (not_fits_of_int64? found)

/-- The magnitude of a quantity is the greater of it and its opposite, and missing where this is. -/
theorem magnitude_eq_pick (q : Quantity) :
    q.magnitude = q.negate.map fun opposite => q.pick Ordering.isGE opposite := by
  -- The quantity is a variable, so that its cases are those of the definition.
  fun_cases magnitude q with
  | case1 i result fits =>
    have value := toInt_of_int64? fits
    rcases Int.lt_or_le i.toInt 0 with negative | nonneg
    · rw [Int.ofNat_natAbs_of_nonpos negative.le] at fits value
      rw [negate, fits]
      simp only [Except.map, pick_int_of_lt (show i.toInt < result.toInt by omega)]
    · rw [Int.natAbs_of_nonneg nonneg] at value
      obtain ⟨opposite, negated, below⟩ := negate_of_nonneg nonneg
      rw [negated, Int64.toInt_inj.mp value]
      simp only [Except.map, pick_int_of_le (show opposite.toInt ≤ i.toInt by omega)]
  | case2 i missing =>
    rcases Int.lt_or_le i.toInt 0 with negative | nonneg
    · rw [Int.ofNat_natAbs_of_nonpos negative.le] at missing
      rw [negate, missing]
      rfl
    · rw [Int.natAbs_of_nonneg nonneg, int64?_toInt] at missing
      cases missing
  | case3 d =>
    obtain ⟨negative, units, representable⟩ := d
    cases negative with
    | false =>
      have above : (compare (units : Int) (-(units : Int) - 1)).isGE = true :=
        Int.isGE_compare.mpr (by omega)
      show _ = Except.ok (if (compare (units : Int) (-(units : Int) - 1)).isGE then _ else _)
      rw [if_pos above]
      rfl
    | true =>
      have below : ¬(compare (-(units : Int) - 1) (units : Int)).isGE = true :=
        mt Int.isGE_compare.mp (by omega)
      show _ = Except.ok (if (compare (-(units : Int) - 1) (units : Int)).isGE then _ else _)
      rw [if_neg below]
      rfl

end Quantity

end Scriptlet
