import Scriptlet.Number

/-!
# The range of 64-bit integers

What `int64?` answers, said in the integers of any size.
-/

set_option autoImplicit false

namespace Scriptlet

/-- The integer is one of 64 bits. -/
def Fits (n : Int) : Prop :=
  -2 ^ 63 ≤ n ∧ n ≤ 2 ^ 63 - 1

theorem fits_toInt (i : Int64) : Fits i.toInt :=
  ⟨Int64.le_toInt i, Int.le_sub_one_of_lt (Int64.toInt_lt i)⟩

/-- The value of a 64-bit integer is in range. -/
theorem int64?_toInt (i : Int64) : int64? i.toInt = some i := by
  have range : -2 ^ 63 ≤ i.toInt ∧ i.toInt < 2 ^ 63 := ⟨Int64.le_toInt i, Int64.toInt_lt i⟩
  rw [int64?, dif_pos range, Int64.ofIntLE_toInt]

theorem toInt_of_int64? {n : Int} {i : Int64} (found : int64? n = some i) : i.toInt = n := by
  unfold int64? at found
  split at found
  · cases found
    exact Int64.toInt_ofIntLE
  · cases found

theorem not_fits_of_int64? {n : Int} (missing : int64? n = none) : ¬Fits n := by
  unfold int64? at missing
  split at missing
  · cases missing
  · rename_i outside
    exact fun fits => outside ⟨fits.1, Int.lt_of_le_sub_one fits.2⟩

/-- There is no 64-bit integer for what is out of range, and for nothing else. -/
theorem int64?_eq_none_iff {n : Int} : int64? n = none ↔ ¬Fits n := by
  refine ⟨not_fits_of_int64?, fun outside => ?_⟩
  cases found : int64? n with
  | none => rfl
  | some i => exact absurd (toInt_of_int64? found ▸ fits_toInt i) outside

theorem exists_int64? {i : Int} (fits : Fits i) : ∃ j, int64? i = some j := by
  cases found : int64? i with
  | some j => exact ⟨j, rfl⟩
  | none => exact absurd fits (int64?_eq_none_iff.mp found)

/-! ## Quotients and remainders -/

/-- The truncated quotient of an integer in range is in range, unless the least integer is divided by
minus one. -/
theorem not_fits_tdiv_iff {m n : Int} (fits : Fits m) (divisor : n ≠ 0) :
    ¬Fits (m.tdiv n) ↔ m = -2 ^ 63 ∧ n = -1 := by
  by_cases one : n = 1
  · rw [one, Int.tdiv_one]
    exact iff_of_false (not_not_intro fits) (by simp)
  · by_cases minusOne : n = -1
    · rw [minusOne, Int.tdiv_neg, Int.tdiv_one]
      unfold Fits at *
      omega
    · -- Any other divisor halves the magnitude at least.
      have size : (m.tdiv n).natAbs = m.natAbs / n.natAbs := Int.natAbs_tdiv m n
      have half : m.natAbs / n.natAbs ≤ m.natAbs / 2 := Nat.div_le_div_left (by omega) (by decide)
      unfold Fits at *
      omega

/-- Between zero and an integer in range all are. -/
theorem Fits.of_between {m k : Int} (fits : Fits m) (between : (0 ≤ k ∧ k ≤ m) ∨ (m ≤ k ∧ k ≤ 0)) :
    Fits k := by
  unfold Fits at *
  omega

theorem tmod_between (m n : Int) : (0 ≤ m.tmod n ∧ m.tmod n ≤ m) ∨ (m ≤ m.tmod n ∧ m.tmod n ≤ 0) := by
  have size : (m.tmod n).natAbs = m.natAbs % n.natAbs := Int.natAbs_tmod m n
  have le : m.natAbs % n.natAbs ≤ m.natAbs := Nat.mod_le _ _
  by_cases negative : m < 0
  · have opposite := Int.tmod_nonneg n (by omega : 0 ≤ -m)
    rw [Int.neg_tmod] at opposite
    exact Or.inr ⟨by omega, by omega⟩
  · have sign := Int.tmod_nonneg n (by omega : 0 ≤ m)
    exact Or.inl ⟨sign, by omega⟩

/-- The remainder of an integer in range is in range. -/
theorem fits_tmod {m : Int} (fits : Fits m) (n : Int) : Fits (m.tmod n) :=
  fits.of_between (tmod_between m n)

/-- What a quotient was made of without the remainder is in range. -/
theorem fits_tdiv_mul {m : Int} (fits : Fits m) (n : Int) : Fits (m.tdiv n * n) := by
  have parts : m.tdiv n * n + m.tmod n = m := Int.tdiv_mul_add_tmod m n
  have between := tmod_between m n
  exact fits.of_between (by omega)

end Scriptlet
