import Scriptlet.Proofs.Double.Decimals
import Scriptlet.Proofs.Numeral.Grammar
import Scriptlet.Proofs.Numeral.Spelling

/-!
# What numerals denote

A numeral denotes a rational number, part by part: the digits before the point, those behind it over a power of
ten, and a power of ten to multiply with (`Denotes`). What is scanned from the text stands for the same number
(`Denotes.exists_standsFor`), and this number is what is rounded to a double (`StandsFor.exists_decimal`).

That is so where exponents count in full (`CountsInFull`). An exponent stops growing at `exponentBound`, so one of
ten times that bound or more is read as another one. Both are so far off that digits by the ten thousand are
needed to tell them apart: only a text of more than 65000 characters may be rounded as another decimal.
-/

set_option autoImplicit false

namespace Scriptlet

open Text Template

namespace Numeral

/-! ## Numbers -/

/-- The fraction stands for the number, and a missing one for zero. -/
inductive FractionDenotes : List Char → ℚ → Prop where
  | absent : FractionDenotes [] 0
  | point {digits : List Char} (some_ : IsDigits digits) :
      FractionDenotes ('.' :: digits) (ofDigits digits / 10 ^ digits.length)

/-- The exponent stands for the power of ten, and a missing one for none. -/
inductive ExponentDenotes : List Char → Int → Prop where
  | absent : ExponentDenotes [] 0
  | marked {mark : Char} {sign digits : List Char} {negative : Bool} (marks : mark = 'e' ∨ mark = 'E')
      (signs : IsSign sign negative) (some_ : IsDigits digits) :
      ExponentDenotes (mark :: (sign ++ digits)) (if negative then -(ofDigits digits : Int) else ofDigits digits)

/-- The text is a numeral, and it denotes the mantissa times the power of ten. -/
inductive Denotes : List Char → ℚ → Int → Prop where
  | numeral {whole fraction exponent : List Char} {part : ℚ} {power : Int} (some_ : IsDigits whole)
      (adds : FractionDenotes fraction part) (counts : ExponentDenotes exponent power) :
      Denotes (whole ++ (fraction ++ exponent)) (ofDigits whole + part) power

/-- The reading of doubles is exact for the text: its exponent denotes so little that all digits count, or the text
has too few other digits for it to matter. -/
def CountsInFull (text : List Char) (power : Int) : Prop :=
  power.natAbs < 10 * exponentBound ∨ text.length ≤ 65000

/-- The numeral is scanned from the text and stands for the number that the text denotes. -/
structure StandsFor (n : Numeral) (text : List Char) (mantissa : ℚ) (power : Int) : Prop where
  scan : scan text = (n, [])
  power : n.power ofDigits = power
  /-- Without the point the mantissa is the number of all digits. -/
  mantissa : mantissa * 10 ^ n.fraction.length = n.digits
  digits : digitCount n.digits ≤ n.whole.length + n.fraction.length
  length : n.whole.length + n.fraction.length ≤ text.length

/-- The numeral as a decimal, with an exponent of which all digits count. -/
def exactDecimal (n : Numeral) : Decimal :=
  ⟨n.digits, n.power ofDigits - n.fraction.length⟩

variable {text fraction exponent : List Char} {mantissa part : ℚ} {power : Int} {n : Numeral}

theorem IsFraction.exists_denotes (form : IsFraction fraction) : ∃ part, FractionDenotes fraction part := by
  cases form with
  | absent => exact ⟨_, .absent⟩
  | point some_ => exact ⟨_, .point some_⟩

theorem IsExponent.exists_denotes (form : IsExponent exponent) : ∃ power, ExponentDenotes exponent power := by
  cases form with
  | absent => exact ⟨_, .absent⟩
  | marked marks signs some_ => exact ⟨_, .marked marks signs some_⟩

/-- Every numeral denotes a number. -/
theorem IsNumeral.exists_denotes (numeral : IsNumeral text) : ∃ mantissa power, Denotes text mantissa power := by
  obtain ⟨whole, fraction, exponent, some_, formFraction, formExponent, rfl⟩ := numeral
  obtain ⟨part, adds⟩ := formFraction.exists_denotes
  obtain ⟨power, counts⟩ := formExponent.exists_denotes
  exact ⟨_, _, .numeral some_ adds counts⟩

theorem FractionDenotes.isFraction (adds : FractionDenotes fraction part) : IsFraction fraction := by
  cases adds with
  | absent => exact .absent
  | point some_ => exact .point some_

theorem ExponentDenotes.isExponent (counts : ExponentDenotes exponent power) : IsExponent exponent := by
  cases counts with
  | absent => exact .absent
  | marked marks signs some_ => exact .marked marks signs some_

/-! ## What is scanned -/

/-- A scanned fraction has the digits of the number. -/
theorem FractionDenotes.exists_scanned (adds : FractionDenotes fraction part) (form : IsExponent exponent) :
    ∃ digits, scanFraction (fraction ++ exponent) = (digits, exponent) ∧ (∀ c ∈ digits, isDigit c = true) ∧
      part * 10 ^ digits.length = ofDigits digits ∧ digits.length ≤ fraction.length := by
  cases adds with
  | absent =>
    have scanned := form.scanFraction endsDigits_nil
    rw [List.append_nil] at scanned
    exact ⟨[], scanned, List.forall_mem_nil _, zero_mul _, Nat.le_refl _⟩
  | @point digits some_ =>
    exact ⟨digits, scanFraction_point some_ form.stops_alone, some_.2, div_mul_cancel₀ _ (by positivity),
      Nat.le_succ _⟩

/-- A scanned exponent counts the power of ten. -/
theorem ExponentDenotes.exists_scanned (counts : ExponentDenotes exponent power) :
    ∃ parts, scanExponent exponent = (parts, []) ∧
      ∀ whole fraction, Numeral.power ofDigits ⟨whole, fraction, parts⟩ = power := by
  cases counts with
  | absent => exact ⟨none, rfl, fun _ _ => rfl⟩
  | @marked mark sign digits negative marks signs some_ =>
    have scanned := scanExponent_marked marks signs some_ stops_nil
    rw [List.append_nil] at scanned
    refine ⟨some (negative, digits), scanned, fun _ _ => ?_⟩
    cases negative <;> rfl

/-- What is scanned from a numeral stands for the number that it denotes. -/
theorem Denotes.exists_standsFor (denotes : Denotes text mantissa power) :
    ∃ n, StandsFor n text mantissa power := by
  obtain @⟨whole, fraction, exponent, part, power, some_, adds, counts⟩ := denotes
  have form := counts.isExponent
  obtain ⟨digits, fractionScanned, allDigits, value, fewer⟩ := adds.exists_scanned form
  obtain ⟨parts, exponentScanned, powers⟩ := counts.exists_scanned
  have stop := adds.isFraction.stops form.stops_alone
  refine ⟨⟨whole, digits, parts⟩, ?_, powers _ _, ?_, ?_, ?_⟩
  · simp only [scan, takeWhile_append_of_stop some_.2 stop, dropWhile_append_of_stop some_.2 stop,
      fractionScanned, exponentScanned]
  · rw [Numeral.digits, ofDigits_append, add_mul, value]
    push_cast
    rfl
  · have all : ∀ c ∈ whole ++ digits, isDigit c = true := fun c member =>
      (List.mem_append.mp member).elim (some_.2 c) (allDigits c)
    have positive : 0 < (whole ++ digits).length :=
      List.length_pos_of_ne_nil (List.append_ne_nil_of_left_ne_nil some_.1 _)
    rw [← List.length_append]
    exact (digitCount_le_iff positive).mpr (ofDigits_lt all)
  · simp only [List.length_append]
    omega

/-- A numeral denotes one number. -/
theorem Denotes.unique {mantissa' : ℚ} {power' : Int} (denotes : Denotes text mantissa power)
    (again : Denotes text mantissa' power') : mantissa = mantissa' ∧ power = power' := by
  obtain ⟨n, stands⟩ := denotes.exists_standsFor
  obtain ⟨n', stands'⟩ := again.exists_standsFor
  obtain rfl : n = n' := congrArg Prod.fst (stands.scan.symm.trans stands'.scan)
  have same := stands.mantissa.trans stands'.mantissa.symm
  exact ⟨mul_right_cancel₀ (by positivity) same, stands.power.symm.trans stands'.power⟩

theorem StandsFor.value (stands : StandsFor n text mantissa power) :
    n.exactDecimal.value = mantissa * 10 ^ power := by
  rw [Decimal.value, exactDecimal, stands.power, ← stands.mantissa, mul_assoc, ← zpow_natCast,
    ← zpow_add₀ (by norm_num), add_sub_cancel]

/-! ## What is read -/

/-- An exponent below ten times the bound counts in full. -/
theorem power_exponentSize_eq (small : (n.power ofDigits).natAbs < 10 * exponentBound) :
    n.power exponentSize = n.power ofDigits := by
  unfold power at small ⊢
  split at small
  · rw [exponentSize_eq (by omega)]
  · rw [exponentSize_eq (by omega)]
  · rfl

/-- Any other exponent reaches the bound, on its side. -/
theorem exponentBound_le_power (large : exponentBound ≤ (n.power ofDigits).natAbs) :
    exponentBound ≤ n.power exponentSize ∧ exponentBound ≤ n.power ofDigits ∨
      n.power exponentSize ≤ -exponentBound ∧ n.power ofDigits ≤ -exponentBound := by
  unfold power at large ⊢
  split at large
  · have reached := exponentBound_le_exponentSize (by simpa using large)
    omega
  · have reached := exponentBound_le_exponentSize (by simpa using large)
    omega
  · cases large

/-- A numeral is read as the decimal that it is, if its exponent counts in full. -/
theorem StandsFor.double?_eq (stands : StandsFor n text mantissa power) (full : CountsInFull text power)
    (negative : Bool) :
    n.double? negative = Double.ofDecimal? negative n.exactDecimal.digits n.exactDecimal.exponent := by
  show Double.ofDecimal? negative n.digits (n.power exponentSize - n.fraction.length) =
    Double.ofDecimal? negative n.digits (n.power ofDigits - n.fraction.length)
  rcases Nat.lt_or_ge (n.power ofDigits).natAbs (10 * exponentBound) with small | large
  · rw [power_exponentSize_eq small]
  · rw [← stands.power] at full
    have short := full.resolve_left (Nat.not_lt.mpr large)
    have length := stands.length
    have digits := stands.digits
    have bound : exponentBound = 65536 := rfl
    by_cases zero : n.digits = 0
    · rw [zero, Double.ofDecimal?_zero, Double.ofDecimal?_zero]
    · -- So few digits do not make up for either exponent.
      rcases exponentBound_le_power (n := n) (by omega) with ⟨counted, denoted⟩ | ⟨counted, denoted⟩
      · rw [Double.ofDecimal?_of_large zero (by omega), Double.ofDecimal?_of_large zero (by omega)]
      · rw [Double.ofDecimal?_of_small zero (by omega), Double.ofDecimal?_of_small zero (by omega)]

/-- A numeral is read as a decimal, and that is the number which it denotes if its exponent counts in full. -/
theorem StandsFor.exists_decimal (stands : StandsFor n text mantissa power) :
    ∃ d : Decimal, (CountsInFull text power → d.value = mantissa * 10 ^ power) ∧
      ∀ negative, n.double? negative = Double.ofDecimal? negative d.digits d.exponent := by
  by_cases full : CountsInFull text power
  · exact ⟨n.exactDecimal, fun _ => stands.value, stands.double?_eq full⟩
  · exact ⟨⟨n.digits, n.scale⟩, fun counts => absurd counts full, fun _ => rfl⟩

end Numeral

end Scriptlet
