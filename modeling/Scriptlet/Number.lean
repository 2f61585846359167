import Scriptlet.Double.Arithmetic

/-!
# Numbers

A number of the data model is a 64-bit integer, a wide integer (above the signed range and still in
64 bits), or a double. Arithmetic and comparison know two kinds only: a `Quantity` is an integer or
a double, and wide integers take part as the double nearest to them.
-/

set_option autoImplicit false

namespace Scriptlet

/-- A number of the data model. -/
inductive Number where
  | int (value : Int64)
  | wide (value : UInt64) (past : 2 ^ 63 ≤ value.toNat)
  | double (value : Double)
  deriving DecidableEq

/-- A number as arithmetic sees it. -/
inductive Quantity where
  | int (value : Int64)
  | double (value : Double)
  deriving DecidableEq

namespace Double

theorem natAbs_toInt_lt (i : Int64) : i.toInt.natAbs < 2 ^ 64 := by
  have h1 := Int64.le_toInt i
  have h2 := Int64.toInt_lt i
  omega

/-- The double nearest to a 64-bit integer. -/
def ofInt64 (i : Int64) : Double :=
  ofWhole (decide (i.toInt < 0)) i.toInt.natAbs (natAbs_toInt_lt i)

/-- The double nearest to an unsigned 64-bit integer. -/
def ofUInt64 (n : UInt64) : Double :=
  ofWhole false n.toNat n.toNat_lt

end Double

/-- The 64-bit integer with the given value, if the value is in range. -/
def int64? (i : Int) : Option Int64 :=
  if h : -2 ^ 63 ≤ i ∧ i < 2 ^ 63 then
    some (.ofIntLE i h.1 (by have : Int64.maxValue.toInt = 2 ^ 63 - 1 := rfl; omega))
  else none

namespace Quantity

/-- The quantity as a double. -/
def toDouble : Quantity → Double
  | .int i => .ofInt64 i
  | .double d => d

end Quantity

namespace Number

/-- The number as arithmetic sees it. -/
def quantity : Number → Quantity
  | .int i => .int i
  | .wide n _ => .double (.ofUInt64 n)
  | .double d => .double d

/-- Equality of data: the kinds count, and the two zeros of the doubles are equal. -/
def same : Number → Number → Bool
  | .int a, .int b => a = b
  | .wide a _, .wide b _ => a = b
  | .double a, .double b => a.same b
  | _, _ => false

/-- The number that an integer numeral denotes, unless it takes more than 64 bits. -/
def ofInt? (i : Int) : Option Number :=
  match int64? i with
  | some i => some (.int i)
  | none =>
    if h : 2 ^ 63 ≤ i.toNat ∧ i.toNat < 2 ^ 64 then
      some (.wide (.ofNatLT i.toNat h.2) h.1)
    else none

end Number

namespace Quantity

/-- The number with the value and kind of the quantity. -/
def toNumber : Quantity → Number
  | .int i => .int i
  | .double d => .double d

end Quantity

end Scriptlet
