import Scriptlet.Double.Basic

/-!
# The binary64 encoding of doubles

The 64 bits of a double, and the double of 64 bits if they encode a finite number. Powers are taken
by the machine's floating point and come through this encoding; everything else is exact.
-/

set_option autoImplicit false

namespace Scriptlet.Double

/-- The binary64 encoding. Below the first normal double the exponent field is zero and the units
themselves are the significand; from there on each doubling of the gap adds one to the field. -/
def toBits (d : Double) : UInt64 :=
  let shift := d.units.log2 - 52
  let magnitude := shift * 2 ^ 52 + d.units / 2 ^ shift
  UInt64.ofNat ((if d.negative then 2 ^ 63 else 0) + magnitude)

theorem representable_of_fields {significand field : Nat} (hs : significand < 2 ^ 52)
    (hf : field < 2047) : Representable (2 ^ (field - 1) * (2 ^ 52 + significand)) := by
  refine ⟨gap_dvd_two_pow_mul _ _ (by omega), ?_⟩
  have h1 : 2 ^ (field - 1) * (2 ^ 52 + significand) < 2 ^ (field - 1) * 2 ^ 53 :=
    Nat.mul_lt_mul_of_pos_left (by omega) (Nat.two_pow_pos _)
  have h2 : 2 ^ (field - 1) * 2 ^ 53 ≤ past := by
    have edge : field - 1 + 53 ≤ 1024 + places := by
      rw [places_eq]
      omega
    rw [← Nat.pow_add]
    exact two_pow_le_past edge
  omega

theorem representable_of_small {units : Nat} (h : units < 2 ^ 52) : Representable units := by
  refine ⟨?_, ?_⟩
  · have := gap_dvd_two_pow_mul 0 units (by omega)
    simpa using this
  · exact Nat.lt_of_lt_of_le h (two_pow_le_past (by omega))

/-- The finite double that 64 bits encode; `none` for the infinities and for what is no number. -/
def ofBits? (bits : UInt64) : Option Double :=
  let negative := decide (2 ^ 63 ≤ bits.toNat)
  let field := bits.toNat / 2 ^ 52 % 2048
  let significand := bits.toNat % 2 ^ 52
  have hs : significand < 2 ^ 52 := Nat.mod_lt _ (Nat.two_pow_pos _)
  if field = 0 then some ⟨negative, significand, representable_of_small hs⟩
  else if hf : field < 2047 then
    some ⟨negative, 2 ^ (field - 1) * (2 ^ 52 + significand), representable_of_fields hs hf⟩
  else none

/-- The first double raised to the second, unless that is not a finite number. -/
def pow? (a b : Double) : Option Double :=
  ofBits? (Float.pow (Float.ofBits a.toBits) (Float.ofBits b.toBits)).toBits

end Scriptlet.Double
