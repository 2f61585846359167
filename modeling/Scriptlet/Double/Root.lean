import Scriptlet.Double.Basic

/-!
# Square roots

The square root of a double is rounded from the whole square root of its magnitude, taken in units:
the square root of `u` units is `√(u * 2 ^ 1074)` units. That number is so large that every tie of
the rounding is whole, so it is enough to know its whole part and whether anything is left over.
-/

set_option autoImplicit false

namespace Scriptlet.Double

/-- The greatest natural number whose square is at most `n`. -/
def rootFloor (n : Nat) : Nat :=
  if h : n = 0 then 0
  else
    let r := 2 * rootFloor (n / 4)
    if (r + 1) * (r + 1) ≤ n then r + 1 else r
termination_by n
decreasing_by exact Nat.div_lt_self (Nat.pos_of_ne_zero h) (by decide)

theorem rootFloor_bounds (n : Nat) :
    rootFloor n * rootFloor n ≤ n ∧ n < (rootFloor n + 1) * (rootFloor n + 1) := by
  induction n using Nat.strongRecOn with
  | ind n ih =>
    rw [rootFloor]
    split
    · omega
    · obtain ⟨h1, h2⟩ := ih (n / 4) (by omega)
      generalize rootFloor (n / 4) = q at h1 h2
      have e1 : 2 * q * (2 * q) = 4 * (q * q) := by
        rw [Nat.mul_mul_mul_comm]
      have e2 : (2 * q + 1 + 1) * (2 * q + 1 + 1) = 4 * ((q + 1) * (q + 1)) := by
        rw [show 2 * q + 1 + 1 = 2 * (q + 1) by omega, Nat.mul_mul_mul_comm]
      dsimp only
      split
      · exact ⟨by assumption, by omega⟩
      · exact ⟨by omega, by omega⟩

/-- The square root, unless the double is below zero. -/
def sqrt? (d : Double) : Option Double :=
  if d.units = 0 then some d
  else if d.negative then none
  else
    let n := d.units * one
    let r := rootFloor n
    ofQuotient? false (2 * r + if r * r < n then 1 else 0) 2

end Scriptlet.Double
