import Mathlib.Tactic.SplitIfs
import Scriptlet.Double.Bits

/-!
# The encoding of doubles

The 64 bits of a double are a sign, a field of 11 bits for the exponent and 52 bits for the significand. The
infinities and what is no number have the greatest exponent field, 2047. No double of the library has it
(`exponentField_toBits_ne`): its bits encode a finite number, and it is the one that they encode
(`ofBits?_toBits`).
-/

set_option autoImplicit false

namespace Scriptlet.Double

/-- The exponent field of an encoding. -/
def exponentField (bits : UInt64) : Nat :=
  bits.toNat / 2 ^ 52 % 2048

variable {d : Double} {units : Nat}

/-- Bits encode no finite number exactly if their exponent field is the greatest one. -/
theorem ofBits?_eq_none_iff {bits : UInt64} : ofBits? bits = none ↔ exponentField bits = 2047 := by
  have field := Nat.mod_lt (bits.toNat / 2 ^ 52) (by decide : 0 < 2048)
  unfold ofBits? exponentField
  generalize bits.toNat / 2 ^ 52 % 2048 = field at *
  dsimp only
  split_ifs with zero finite
  · exact iff_of_false nofun (by omega)
  · exact iff_of_false nofun (by omega)
  · exact iff_of_true rfl (by omega)

/-- The fields of an encoding: its exponent, and what stands behind the first digit of its significand. -/
structure Fields (d : Double) (field significand : Nat) : Prop where
  field_lt : field < 2047
  significand_lt : significand < 2 ^ 52
  units_eq : d.units = if field = 0 then significand else 2 ^ (field - 1) * (2 ^ 52 + significand)
  toBits_eq : d.toBits.toNat = (if d.negative then 2 ^ 63 else 0) + (field * 2 ^ 52 + significand)

theorem toNat_toBits {magnitude : Nat} (small : magnitude < 2 ^ 63)
    (value : (d.units.log2 - 52) * 2 ^ 52 + d.units / 2 ^ (d.units.log2 - 52) = magnitude) :
    d.toBits.toNat = (if d.negative then 2 ^ 63 else 0) + magnitude := by
  unfold toBits
  dsimp only
  rw [value, UInt64.toNat_ofNat', Nat.mod_eq_of_lt]
  split_ifs <;> omega

/-- Below `2 ^ 52` units a double is encoded by its units. -/
theorem fields_of_small (small : d.units < 2 ^ 52) : Fields d 0 d.units where
  field_lt := by decide
  significand_lt := small
  units_eq := (if_pos rfl).symm
  toBits_eq := by
    have shift : d.units.log2 - 52 = 0 := by
      by_cases zero : d.units = 0
      · rw [zero, Nat.log2_zero]
      · have := (Nat.log2_lt zero).mpr small
        omega
    refine toNat_toBits (by omega) ?_
    rw [shift, Nat.pow_zero, Nat.div_one]

/-- From there on the digits before the gap make up the significand, without the first of them. -/
theorem exists_fields_of_normal (normal : 2 ^ 52 ≤ d.units) :
    ∃ field significand, Fields d field significand := by
  have some_ : d.units ≠ 0 := by omega
  have log2 : 52 ≤ d.units.log2 := (Nat.le_log2 some_).mpr normal
  have top : d.units.log2 < 1024 + places := (Nat.log2_lt some_).mpr d.representable.2
  rw [places_eq] at top
  obtain ⟨digits, value⟩ := d.representable.1
  obtain ⟨shift, sum⟩ := Nat.exists_eq_add_of_le' log2
  have gap_ : gap d.units = 2 ^ shift := by rw [gap, sum, Nat.add_sub_cancel]
  have pos := Nat.two_pow_pos shift
  rw [gap_] at value
  have least : 2 ^ 52 ≤ digits := by
    refine Nat.le_of_mul_le_mul_left ?_ pos
    rw [← value, ← Nat.pow_add, ← sum]
    exact Nat.log2_self_le some_
  have most : digits < 2 ^ 53 := by
    refine Nat.lt_of_mul_lt_mul_left (a := 2 ^ shift) ?_
    rw [← value, ← Nat.pow_add, ← Nat.add_assoc shift 52 1, ← sum]
    exact Nat.lt_log2_self
  refine ⟨shift + 1, digits - 2 ^ 52, by omega, by omega, ?_, ?_⟩
  · rw [if_neg (Nat.succ_ne_zero shift), Nat.add_sub_cancel, Nat.add_sub_cancel' least, value]
  · refine toNat_toBits (by omega) ?_
    have quotient : d.units / 2 ^ shift = digits := by
      rw [value, Nat.mul_div_cancel_left digits pos]
    rw [sum, Nat.add_sub_cancel, quotient]
    omega

theorem exists_fields (d : Double) : ∃ field significand, Fields d field significand := by
  rcases Nat.lt_or_ge d.units (2 ^ 52) with small | normal
  · exact ⟨0, d.units, fields_of_small small⟩
  · exact exists_fields_of_normal normal

/-- No double is encoded like an infinity or like what is no number. -/
theorem exponentField_toBits_ne (d : Double) : exponentField d.toBits ≠ 2047 := by
  obtain ⟨field, significand, fields⟩ := d.exists_fields
  have least := fields.field_lt
  have small := fields.significand_lt
  unfold exponentField
  rw [fields.toBits_eq]
  split_ifs <;> omega

/-- The encoding of a double encodes it. -/
theorem ofBits?_toBits (d : Double) : ofBits? d.toBits = some d := by
  obtain ⟨field, significand, fields⟩ := d.exists_fields
  have least := fields.field_lt
  have small := fields.significand_lt
  have sign : decide (2 ^ 63 ≤ d.toBits.toNat) = d.negative := by
    rw [fields.toBits_eq]
    cases d.negative with
    | false =>
      simp
      omega
    | true => simp
  have exponent : d.toBits.toNat / 2 ^ 52 % 2048 = field := by
    rw [fields.toBits_eq]
    split_ifs <;> omega
  have digits : d.toBits.toNat % 2 ^ 52 = significand := by
    rw [fields.toBits_eq]
    split_ifs <;> omega
  have units := fields.units_eq
  obtain ⟨negative, value, representable⟩ := d
  unfold ofBits?
  simp only [exponent, digits, sign]
  split_ifs at units ⊢
  · subst units
    rfl
  · subst units
    rfl

end Scriptlet.Double
