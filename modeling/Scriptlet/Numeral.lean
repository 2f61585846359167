import Scriptlet.Double.Decimal

/-!
# Numerals

A numeral is a run of decimal digits, with a fraction and an exponent if they are there. `scan`
takes the longest numeral at the start of a text, and `double?` reads it as the nearest double.

An exponent stops growing once it has reached `exponentBound`: its further digits belong to the
numeral and do not count. Only digits by the ten thousand can make up for such an exponent; any
shorter numeral is zero or past all doubles whether they count or not.

A text compared with a number is read whole by `NumericText.ofText?`, which is more generous: digits
may be missing on one side of the point, there may be a sign, and the names of infinity and of what
is no number are accepted.
-/

set_option autoImplicit false

namespace Scriptlet

open Text

/-- The digits before and after the point, and the exponent: whether it is negative, and its digits. -/
structure Numeral where
  whole : List Char
  fraction : List Char
  exponent : Option (Bool × List Char)

namespace Numeral

/-- Whether the numeral has neither fraction nor exponent. -/
def isWhole (n : Numeral) : Bool :=
  n.fraction.isEmpty && n.exponent.isNone

/-- The exponent with its sign, its digits taken for a number by `size`. -/
def power (size : List Char → Nat) (n : Numeral) : Int :=
  match n.exponent with
  | some (true, digits) => -(size digits : Int)
  | some (false, digits) => size digits
  | none => 0

/-- Where an exponent stops growing. -/
def exponentBound : Nat := 65536

/-- The number that the digits of an exponent denote, without those that follow once it has reached
`exponentBound`. -/
def exponentSize (digits : List Char) : Nat :=
  digits.foldl (fun size c => if size < exponentBound then 10 * size + digitValue c else size) 0

/-- The power of ten that the last digit counts. -/
def scale (n : Numeral) : Int :=
  n.power exponentSize - n.fraction.length

/-- The double nearest to the numeral with the given sign, unless that is not finite. -/
def double? (n : Numeral) (negative : Bool) : Option Double :=
  Double.ofDecimal? negative (ofDigits (n.whole ++ n.fraction)) n.scale

/-- The integer that the digits before the point denote with the given sign. -/
def toInt (n : Numeral) (negative : Bool) : Int :=
  if negative then -(ofDigits n.whole : Int) else ofDigits n.whole

/-- The exponent at the start of a text: a mark, perhaps a sign, and at least one digit. -/
def scanExponent (text : List Char) : Option (Bool × List Char) × List Char :=
  match text with
  | mark :: rest =>
    if mark = 'e' || mark = 'E' then
      let signed :=
        match rest with
        | '-' :: digits => (true, digits)
        | '+' :: digits => (false, digits)
        | digits => (false, digits)
      match signed.2.takeWhile isDigit with
      | [] => (none, text)
      | digits => (some (signed.1, digits), signed.2.dropWhile isDigit)
    else (none, text)
  | [] => (none, text)

/-- The fraction at the start of a text: a point and at least one digit. -/
def scanFraction (text : List Char) : List Char × List Char :=
  match text with
  | '.' :: rest =>
    match rest.takeWhile isDigit with
    | [] => ([], text)
    | digits => (digits, rest.dropWhile isDigit)
  | _ => ([], text)

/-- The longest numeral at the start of a text, and the rest. -/
def scan (text : List Char) : Numeral × List Char :=
  let (fraction, afterFraction) := scanFraction (text.dropWhile isDigit)
  let (exponent, rest) := scanExponent afterFraction
  (⟨text.takeWhile isDigit, fraction, exponent⟩, rest)

theorem length_dropDigits_le (text : List Char) :
    (text.dropWhile isDigit).length ≤ text.length :=
  (List.dropWhile_suffix _).length_le

theorem length_scanExponent_le (text : List Char) :
    (scanExponent text).2.length ≤ text.length := by
  unfold scanExponent
  split
  · split
    · dsimp only
      split
      · exact Nat.le_refl _
      · refine Nat.le_trans (length_dropDigits_le _) ?_
        split <;> simp only [List.length_cons] <;> omega
    · exact Nat.le_refl _
  · exact Nat.le_refl _

theorem length_scanFraction_le (text : List Char) :
    (scanFraction text).2.length ≤ text.length := by
  unfold scanFraction
  split
  · split
    · exact Nat.le_refl _
    · exact Nat.le_succ_of_le (length_dropDigits_le _)
  · exact Nat.le_refl _

/-- A numeral that starts with a digit leaves a shorter text. -/
theorem length_scan_lt {c : Char} {rest : List Char} (h : isDigit c = true) :
    (scan (c :: rest)).2.length < (c :: rest).length := by
  have h1 := length_scanExponent_le (scanFraction ((c :: rest).dropWhile isDigit)).2
  have h2 := length_scanFraction_le ((c :: rest).dropWhile isDigit)
  have h3 := length_dropDigits_le rest
  rw [List.dropWhile_cons_of_pos h] at h1 h2
  simp only [scan, List.dropWhile_cons_of_pos h, List.length_cons]
  omega

end Numeral

/-- The number that a text spells when it is compared with a number. -/
inductive NumericText where
  | finite (value : Double)
  | infinite (negative : Bool)
  | undefined

namespace NumericText

/-- The decimal that a text without sign spells: digits, perhaps with a point among them, at least
one digit in all, and perhaps an exponent. -/
def decimal? (text : List Char) : Option Numeral :=
  let whole := text.takeWhile isDigit
  let (fraction, afterFraction) :=
    match text.dropWhile isDigit with
    | '.' :: rest => (rest.takeWhile isDigit, rest.dropWhile isDigit)
    | rest => ([], rest)
  if whole.isEmpty && fraction.isEmpty then none
  else
    match Numeral.scanExponent afterFraction with
    | (exponent, []) => some ⟨whole, fraction, exponent⟩
    | (_, _ :: _) => none

/-- What a text without sign spells; letters count in either case. -/
def unsigned? (negative : Bool) (text : List Char) : Option NumericText :=
  match decimal? text with
  | some numeral =>
    match numeral.double? negative with
    | some d => some (.finite d)
    | none => some (.infinite negative)
  | none =>
    let name := String.ofList (text.map Char.toLower)
    if name = "inf" || name = "infinity" then some (.infinite negative)
    else if name = "nan" then some .undefined
    else none

/-- What a text spells, if it spells a number. -/
def ofText? (text : List Char) : Option NumericText :=
  match text with
  | '-' :: rest => unsigned? true rest
  | '+' :: rest => unsigned? false rest
  | rest => unsigned? false rest

end NumericText

end Scriptlet
