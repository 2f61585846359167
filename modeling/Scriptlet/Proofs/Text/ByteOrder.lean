import Mathlib.Data.String.Basic
import Mathlib.Tactic.SplitIfs

/-!
# The order of texts in bytes

Texts are ordered code point by code point. In UTF-8 that is the order of their bytes: a lesser code point
has a lesser first byte, or the same ones up to a byte that is less.
-/

set_option autoImplicit false

namespace Scriptlet.Text

/-- The bytes of a text in UTF-8. -/
def bytes (text : String) : List UInt8 :=
  text.toUTF8.data.toList

theorem bytes_eq_flatMap (text : String) : bytes text = text.toList.flatMap String.utf8EncodeChar := by
  rw [bytes, String.toUTF8, ← String.utf8Encode_toList]
  exact List.toList_data_toByteArray

theorem toNat_ofNat_of_lt {n : Nat} (byte : n < 256) : (UInt8.ofNat n).toNat = n := by
  rw [UInt8.toNat_ofNat', Nat.mod_eq_of_lt byte]

/-- A lesser character has lesser bytes, whatever follows the bytes of either. -/
theorem encode_append_lt {c d : Char} (less : c < d) (s t : List UInt8) :
    String.utf8EncodeChar c ++ s < String.utf8EncodeChar d ++ t := by
  have low : c.val.toNat < d.val.toNat := less
  have high : d.val.toNat < 1114112 := by
    rcases d.valid with small | ⟨-, high⟩
    · exact Nat.lt_trans small (by decide)
    · exact high
  unfold String.utf8EncodeChar
  generalize c.val.toNat = m at *
  generalize d.val.toNat = n at *
  -- Both encodings take six bits after six bits, so the quotients are written as quotients in turn.
  have twelve : ∀ k, k / 4096 = k / 64 / 64 := fun k => (Nat.div_div_eq_div_mul k 64 64).symm
  have eighteen : ∀ k, k / 262144 = k / 64 / 64 / 64 := fun k => by
    rw [← twelve, Nat.div_div_eq_div_mul]
  simp only [twelve, eighteen]
  -- Encodings of different lengths differ in the first byte, others where the code points do.
  split_ifs <;>
    simp only [List.cons_append, List.nil_append, List.cons_lt_cons_iff, UInt8.lt_iff_toNat_lt,
      ← UInt8.toNat_inj] <;>
    simp (disch := omega) only [toNat_ofNat_of_lt] <;>
    omega

theorem flatMap_encode_lt {a b : List Char} (less : a < b) :
    a.flatMap String.utf8EncodeChar < b.flatMap String.utf8EncodeChar := by
  induction less with
  | nil =>
    rename_i c rest
    obtain ⟨byte, bytes, starts⟩ := List.exists_cons_of_ne_nil (String.utf8EncodeChar_ne_nil (c := c))
    rw [List.flatMap_cons, starts]
    exact List.nil_lt_cons _ _
  | rel first => exact encode_append_lt first _ _
  | cons _ ih => exact List.append_left_lt ih

/-- A lesser text has lesser bytes. -/
theorem bytes_lt {a b : String} (less : a < b) : bytes a < bytes b := by
  rw [bytes_eq_flatMap, bytes_eq_flatMap]
  exact flatMap_encode_lt (String.lt_iff_toList_lt.mp less)

end Scriptlet.Text
