import Scriptlet.Double.Basic
import Scriptlet.Text.Digits

/-!
# Doubles and decimals

A decimal `digits * 10 ^ exponent` is read as the double nearest to it. A double is written with the
fewest digits that read back as it: on the grid of decimals with one digit, then with two, and so
on, the double's two neighbours are tried, and the first grid on which one reads back decides. When
both do, the nearer is taken, and on a tie the even one.

The exact value of a double is itself a decimal, `units * 5 ^ 1074` at the exponent `-1074`, so a
grid is a power of ten that divides nothing but is cut from that number, and the search ends at the
latest with all its digits.
-/

set_option autoImplicit false

namespace Scriptlet

open Text

namespace Double

/-- The double nearest to `digits * 10 ^ exponent` with the given sign, unless that is past the last
one. Exponents so large or so small that the digits cannot make up for them are settled first. -/
def ofDecimal? (negative : Bool) (digits : Nat) (exponent : Int) : Option Double :=
  let magnitude := digitCount digits + exponent
  if digits = 0 then some (zero negative)
  else if 400 < magnitude then none
  else if magnitude < -400 then some (zero negative)
  else if 0 ≤ exponent then ofQuotient? negative (digits * 10 ^ exponent.toNat * one) 1
  else ofQuotient? negative (digits * one) (10 ^ (-exponent).toNat)

end Double

/-- A positive decimal: its digits as a number, and the power of ten that they count. -/
structure Decimal where
  digits : Nat
  exponent : Int

namespace Double

/-- The digits of the exact value of one unit, counted in `10 ^ (-1074)`. -/
def unitDigits : Nat := 5 ^ places

/-- The digits of the exact value of a number of units, counted in `10 ^ (-1074)`. -/
def exactDigits (units : Nat) : Nat :=
  units * unitDigits

/-- Whether `digits` counted in `10 ^ (cut - 1074)` reads back as the given number of units. -/
def readsBack (units cut digits : Nat) : Bool :=
  nearest (digits * 10 ^ cut) unitDigits = units

/-- Of the multiples of a step just below and just above a number those that are accepted, counted in
steps: the nearer one, and on a tie the even one. -/
def neighbour? (accepts : Nat → Bool) (exact step : Nat) : Option Nat :=
  let below := exact / step
  let above := below + 1
  let toBelow := exact - below * step
  let toAbove := above * step - exact
  match accepts below, accepts above with
  | false, false => none
  | true, false => some below
  | false, true => some above
  | true, true =>
    if toBelow < toAbove || (toBelow = toAbove && below % 2 = 0) then some below else some above

/-- The decimal that reads back as the units on the grid of `10 ^ (cut - 1074)`, if there is one. -/
def onGrid? (units cut : Nat) : Option Nat :=
  neighbour? (readsBack units cut) (exactDigits units) (10 ^ cut)

/-- The decimal on the coarsest grid, at most `10 ^ (cut - 1074)`, on which there is one; with all digits
it is the exact one. -/
def coarsest (onGrid? : Nat → Option Nat) (exact : Nat) : (cut : Nat) → Decimal
  | 0 => ⟨exact, -1074⟩
  | cut + 1 =>
    match onGrid? (cut + 1) with
    | some digits => ⟨digits, (cut + 1 : Nat) - 1074⟩
    | none => coarsest onGrid? exact cut

/-- The decimal with the fewest digits that reads back as a number of units. -/
def shortest (units : Nat) : Decimal :=
  coarsest (onGrid? units) (exactDigits units) (digitCount (exactDigits units) - 1)

end Double

namespace Decimal

/-- How decimals are written out: between the two exponents of the first digit in full, with at least
one digit after the point, and otherwise with one digit before the point and an exponent. -/
structure Layout where
  leastPlain : Int
  greatestPlain : Int

/-- The digits without trailing zeros. -/
def significant (d : Decimal) : List Char :=
  ((toDigits d.digits).reverse.dropWhile (· = '0')).reverse

/-- The power of ten that the first digit counts. -/
def leadingExponent (d : Decimal) : Int :=
  d.exponent + (digitCount d.digits : Int) - 1

/-- A decimal without an exponent: the digits around the point, filled up with zeros. -/
def plain (digits : List Char) (leading : Int) : List Char :=
  if leading < 0 then
    ['0', '.'] ++ List.replicate (-leading - 1).toNat '0' ++ digits
  else
    let whole := leading.toNat + 1
    let fraction := digits.drop whole
    digits.take whole ++ List.replicate (whole - digits.length) '0' ++
      '.' :: (if fraction.isEmpty then ['0'] else fraction)

/-- A decimal with an exponent, whose sign is always written. -/
def scientific (digits : List Char) (leading : Int) : List Char :=
  let mantissa :=
    match digits with
    | first :: [] => [first]
    | first :: rest => first :: '.' :: rest
    | [] => []
  mantissa ++ 'e' :: (if leading < 0 then '-' else '+') :: toDigits leading.natAbs

/-- A decimal as the layout writes it. -/
def write (layout : Layout) (d : Decimal) : List Char :=
  let leading := d.leadingExponent
  if layout.leastPlain ≤ leading && leading ≤ layout.greatestPlain then plain d.significant leading
  else scientific d.significant leading

end Decimal

namespace Double

/-- Doubles are written in full from `0.00001` on and below `10 ^ 16`. -/
def layout : Decimal.Layout where
  leastPlain := -5
  greatestPlain := 15

/-- The text of a double without its sign: the fewest digits that read back as it, laid out by `layout`. -/
def magnitudeText (units : Nat) : List Char :=
  if units = 0 then ['0', '.', '0'] else (shortest units).write layout

/-- The text of a double. -/
def text (d : Double) : List Char :=
  if d.negative then '-' :: magnitudeText d.units else magnitudeText d.units

end Double

end Scriptlet
