import Scriptlet.Double.Arithmetic
import Scriptlet.Numeral

/-!
# Numerals read by scaling

A quick way from a numeral to a double, in words of 64 bits. The leading digits, as many as the word
holds, are the `Significand`; it is rounded to a double, and that is multiplied or divided by a
power of ten. The significand, the power and the result are rounded one after the other, so the
result need not be the double nearest to the numeral, which `Numeral.double?` answers.
-/

set_option autoImplicit false

namespace Scriptlet

open Text

namespace Double

/-- The greatest exponent of a power of ten that is a double. -/
def greatestPower : Nat := 308

/-- The double nearest to a power of ten, unless the exponent is past `greatestPower`. -/
def powerOfTen? (exponent : Nat) : Option Double :=
  ofDecimal? false 1 exponent

/-- The product with a power of ten, unless it is not finite. -/
def timesPowerOfTen? (d : Double) (exponent : Nat) : Option Double :=
  if exponent ≤ greatestPower then (powerOfTen? exponent).bind d.mul?
  else if d.units = 0 then some d
  else none

/-- The quotient by a power of ten. While the exponent is past `greatestPower`, the greatest power is
divided off first, until nothing is left of the double. -/
def overPowerOfTen? (d : Double) (exponent : Nat) : Option Double :=
  if exponent ≤ greatestPower then (powerOfTen? exponent).bind d.div?
  else if d.units = 0 then some d
  else
    (powerOfTen? greatestPower).bind fun power =>
      (d.div? power).bind fun d => overPowerOfTen? d (exponent - greatestPower)
termination_by exponent
decreasing_by exact Nat.sub_lt (by omega) (by decide)

end Double

/-- A number of 64 bits, and the exponent of the power of ten that it counts. -/
structure Significand where
  value : Nat
  exponent : Int
  fits : value < 2 ^ 64

namespace Significand

/-- The significand without digits. -/
def empty (exponent : Int) : Significand :=
  ⟨0, exponent, by decide⟩

/-- The significand with one more digit at its end, if 64 bits hold it. -/
@[irreducible]
def push? (s : Significand) (c : Char) : Option Significand :=
  if h : 10 * s.value + digitValue c < 2 ^ 64 then
    some ⟨10 * s.value + digitValue c, s.exponent, h⟩
  else none

/-- The significand with digits before the point: from the first that does not fit, they only count
as powers of ten. -/
def pushWhole (s : Significand) : List Char → Significand
  | [] => s
  | c :: rest =>
    match s.push? c with
    | some s => s.pushWhole rest
    | none => { s with exponent := s.exponent + (c :: rest).length }

/-- The significand with digits after the point: from the first that does not fit, they are
dropped. -/
def pushFraction (s : Significand) : List Char → Significand
  | [] => s
  | c :: rest =>
    match s.push? c with
    | some s => pushFraction { s with exponent := s.exponent - 1 } rest
    | none => s

/-- The significand of a numeral. -/
def ofNumeral (n : Numeral) : Significand :=
  ((empty (n.power ofDigits)).pushWhole n.whole).pushFraction n.fraction

/-- The significand with a sign, rounded and then scaled by its power of ten, unless the result is
not finite. -/
def scaled? (s : Significand) (negative : Bool) : Option Double :=
  let d := Double.ofWhole negative s.value s.fits
  if 0 ≤ s.exponent then d.timesPowerOfTen? s.exponent.toNat
  else d.overPowerOfTen? (-s.exponent).toNat

end Significand

/-- The double that scaling makes of the numeral with the given sign, unless that is not finite. -/
def Numeral.scaled? (n : Numeral) (negative : Bool) : Option Double :=
  (Significand.ofNumeral n).scaled? negative

end Scriptlet
