import Scriptlet.Proofs.Number.Range
import Scriptlet.Proofs.Numeral.Denoted
import Scriptlet.Proofs.Template.Cursor

/-!
# Where numerals end

A numeral is the longest one at the start of a text (`LongestNumeral`). Its fraction and its exponent need a digit
behind the point, the mark or the sign, so the reader looks ahead and leaves all that is no part of the numeral: a
point before a name, a mark before anything but digits.

Digits alone are an integer with the sign, if that is in range. With a fraction or an exponent, the numeral is the
double nearest to the number that it denotes with the sign, unless that number overflows. What is out of range is
rejected at the first digit (`numeral_longest`). That the double is nearest to the number rests on doubles being
read exactly (`Numeral.CountsInFull`); nothing else does.
-/

set_option autoImplicit false

namespace Scriptlet.Template

open Text Numeral

/-- The longest numeral that a text starts with, and what is behind it. -/
structure LongestNumeral (text spelled rest : List Char) : Prop where
  cut : text = spelled ++ rest
  numeral : IsNumeral spelled
  longest : ∀ {other tail}, text = other ++ tail → IsNumeral other → other.length ≤ spelled.length

/-- How a numeral at the start of a text is read. -/
structure ReadAs (negative : Bool) (text rest : List Char) (inRange : Prop) (denoted : Number → Prop)
    (message : String) : Prop where
  /-- It is read if the number that it denotes is in range. -/
  succeeds : (∃ value after, Reads (Template.numeral negative) text value after) ↔ inRange
  /-- Then this number is what is read, and what is behind the numeral is left. -/
  reads : ∀ value after, Reads (Template.numeral negative) text value after → after = rest ∧ denoted value
  /-- If the number is out of range, its first digit is where it is rejected. -/
  fails : ¬inRange → ∃ reason, reason.message = message ∧
    RejectsAtStart (Template.numeral negative) text reason

/-- The integer with the sign that some digits denote. -/
def signedInteger (negative : Bool) (digits : List Char) : Int :=
  if negative then -(ofDigits digits : Int) else ofDigits digits

/-- The number is this integer. -/
def IsSignedInteger (negative : Bool) (digits : List Char) (value : Number) : Prop :=
  ∃ i, value = .int i ∧ i.toInt = signedInteger negative digits

/-- The number is the double nearest to the magnitude with the sign. -/
def IsNearestDouble (negative : Bool) (magnitude : ℚ) (value : Number) : Prop :=
  ∃ d, value = .double d ∧ d.negative = negative ∧ d.IsNearest (Double.withSign negative magnitude)

/-- How the longest numeral of a text is read with a sign. -/
structure ReadsLongest (negative : Bool) (text spelled rest : List Char) : Prop where
  /-- Digits alone are an integer of 64 bits. -/
  integer : IsDigits spelled → ReadAs negative text rest (Fits (signedInteger negative spelled))
    (IsSignedInteger negative spelled) "integer literal out of range"
  /-- Any other numeral is the double nearest to the number that it denotes, if its exponent counts in full. -/
  double : ¬IsDigits spelled → ∃ mantissa power magnitude, Denotes spelled mantissa power ∧
    (CountsInFull spelled power → magnitude = mantissa * 10 ^ power) ∧
    ReadAs negative text rest (¬Double.Overflows magnitude) (IsNearestDouble negative magnitude)
      "float literal out of range"

variable {text spelled rest : List Char} {negative : Bool}

/-! ## What is scanned -/

/-- A numeral that is scanned whole, with the same rest, is the longest one. -/
theorem longestNumeral_of_scan (numeral : IsNumeral spelled) (scanned : (scan (spelled ++ rest)).2 = rest) :
    LongestNumeral (spelled ++ rest) spelled rest where
  cut := rfl
  numeral := numeral
  longest := fun {other tail} again form => by
    have shorter := form.length_scan_le tail
    rw [← again, scanned] at shorter
    have whole := congrArg List.length again
    rw [List.length_append, List.length_append] at whole
    omega

theorem exists_longestNumeral (digit : startsWithDigit text = true) :
    ∃ spelled, LongestNumeral text spelled (scan text).2 ∧ scan spelled = ((scan text).1, []) := by
  obtain ⟨spelled, numeral, cut, alone⟩ := exists_spelled_scan digit
  have longest := longestNumeral_of_scan numeral (congrArg (fun text => (scan text).2) cut.symm)
  rw [← cut] at longest
  exact ⟨spelled, longest, alone⟩

/-- There is one longest numeral. -/
theorem LongestNumeral.unique {spelled' rest' : List Char} (longest : LongestNumeral text spelled rest)
    (again : LongestNumeral text spelled' rest') : spelled = spelled' ∧ rest = rest' :=
  List.append_inj (longest.cut.symm.trans again.cut)
    (Nat.le_antisymm (again.longest longest.cut longest.numeral) (longest.longest again.cut again.numeral))

/-! ## What is read -/

/-- A numeral is read as the scanned number, or rejected for the reason that there is none. -/
theorem readAs_of_numberOf {inRange : Prop} {denoted : Number → Prop} (reason : SyntaxFault)
    (digit : startsWithDigit text = true)
    (result : inRange ∧ (∃ value, numberOf negative (scan text).1 = .ok value ∧ denoted value) ∨
      ¬inRange ∧ numberOf negative (scan text).1 = .error reason) :
    ReadAs negative text (scan text).2 inRange denoted reason.message := by
  rcases result with ⟨inside, value, number, holds⟩ | ⟨outside, number⟩
  · have read := reads_of_numberOf digit number
    refine ⟨iff_of_true ⟨value, _, read⟩ inside, ?_, fun outside => absurd inside outside⟩
    rintro other after ⟨_, again⟩
    obtain ⟨_, same⟩ := read
    cases same.symm.trans again
    exact ⟨rfl, holds⟩
  · have rejected := numeral_eq_failAt digit number
    have unread (value : Number) (after : List Char) : ¬Reads (Template.numeral negative) text value after := by
      rintro ⟨_, read⟩
      cases rejected.symm.trans read
    refine ⟨iff_of_false ?_ outside, fun value after read => absurd read (unread value after), fun _ =>
      ⟨_, rfl, rejectsAtStart rejected⟩⟩
    rintro ⟨value, after, read⟩
    exact unread value after read

/-- Digits alone are the integer that they denote. -/
theorem readAs_integer (digit : startsWithDigit text = true) (scanned : ScannedAs spelled (scan text).1)
    (digits : IsDigits spelled) : ReadAs negative text (scan text).2 (Fits (signedInteger negative spelled))
      (IsSignedInteger negative spelled) "integer literal out of range" := by
  have whole := scanned.isWhole.mpr digits
  have same : (scan text).1.toInt negative = signedInteger negative spelled := by
    rw [Numeral.toInt, scanned.whole digits, signedInteger]
  refine readAs_of_numberOf .integerOutOfRange digit ?_
  by_cases fits : Fits (signedInteger negative spelled)
  · obtain ⟨i, found⟩ := exists_int64? fits
    exact .inl ⟨fits, .int i, numberOf_whole whole (same.symm ▸ found), i, rfl, toInt_of_int64? found⟩
  · exact .inr ⟨fits, numberOf_whole_error whole (same.symm ▸ fits)⟩

/-- What is read as a decimal is the nearest double. -/
theorem readAs_double {d : Decimal} (digit : startsWithDigit text = true)
    (broken : ¬(scan text).1.isWhole = true)
    (read : (scan text).1.double? negative = Double.ofDecimal? negative d.digits d.exponent) :
    ReadAs negative text (scan text).2 (¬Double.Overflows d.value) (IsNearestDouble negative d.value)
      "float literal out of range" := by
  have missing : (scan text).1.double? negative = none ↔ Double.Overflows d.value := by
    rw [read, Decimal.ofDecimal?_eq_none_iff]
  refine readAs_of_numberOf .doubleOutOfRange digit ?_
  rw [numberOf, if_neg broken]
  cases found : (scan text).1.double? negative with
  | none => exact .inr ⟨not_not_intro (missing.mp found), rfl⟩
  | some double =>
    obtain ⟨sign, nearest⟩ := Decimal.isNearest_of_ofDecimal? (read.symm.trans found)
    refine .inl ⟨fun overflows => ?_, .double double, rfl, double, rfl, sign, nearest⟩
    rw [missing.mpr overflows] at found
    cases found

/-- From a digit on, the longest numeral is read, and it is read as the number that it denotes with the sign. -/
theorem numeral_longest (digit : startsWithDigit text = true) (negative : Bool) :
    ∃ spelled rest, LongestNumeral text spelled rest ∧ ReadsLongest negative text spelled rest := by
  obtain ⟨spelled, longest, alone⟩ := exists_longestNumeral digit
  obtain ⟨n, scanned⟩ := longest.numeral.exists_scannedAs
  have same := scanned.scan endsDigits_nil
  rw [List.append_nil, alone] at same
  obtain rfl : (scan text).1 = n := congrArg Prod.fst same
  refine ⟨spelled, _, longest, readAs_integer digit scanned, fun more => ?_⟩
  obtain ⟨mantissa, power, denotes⟩ := longest.numeral.exists_denotes
  obtain ⟨n, stands⟩ := denotes.exists_standsFor
  obtain rfl : (scan text).1 = n := congrArg Prod.fst (alone.symm.trans stands.scan)
  obtain ⟨d, exact_, read⟩ := stands.exists_decimal
  refine ⟨mantissa, power, d.value, denotes, exact_, ?_⟩
  exact readAs_double digit (fun whole => more (scanned.isWhole.mp whole)) (read negative)

/-- A mark with a sign behind it, but no digit, is left with its sign. -/
theorem numeral_longest_backing_up :
    startsWithDigit ['2', '.', '5', 'e', '+', '.', 'x'] = true ∧
      ∃ d, Reads (Template.numeral true) ['2', '.', '5', 'e', '+', '.', 'x'] (.double d)
          ['e', '+', '.', 'x'] ∧ d.negative = true ∧ d.IsNearest (-(5 / 2)) := by
  have two : IsDigits ['2'] := ⟨List.cons_ne_nil _ _, by simp [isDigit]⟩
  have five : IsDigits ['5'] := ⟨List.cons_ne_nil _ _, by simp [isDigit]⟩
  have expected : LongestNumeral ['2', '.', '5', 'e', '+', '.', 'x'] ['2', '.', '5'] ['e', '+', '.', 'x'] :=
    longestNumeral_of_scan ⟨['2'], ['.', '5'], [], two, .point five, .absent, rfl⟩ rfl
  have value : Denotes ['2', '.', '5'] ((2 : Nat) + (5 : Nat) / 10 ^ 1) 0 := .numeral two (.point five) .absent
  have broken : ¬IsDigits ['2', '.', '5'] := fun digits => absurd (digits.2 '.' (by simp)) (by decide)
  have digit : startsWithDigit ['2', '.', '5', 'e', '+', '.', 'x'] = true := rfl
  obtain ⟨spelled, rest, longest, reads⟩ := numeral_longest digit true
  obtain ⟨rfl, rfl⟩ := longest.unique expected
  obtain ⟨mantissa, power, magnitude, denotes, exact_, result⟩ := reads.double broken
  obtain ⟨rfl, rfl⟩ := denotes.unique value
  obtain rfl : magnitude = 5 / 2 := by
    rw [exact_ (.inl (by decide))]
    norm_num
  have inRange : ¬Double.Overflows (5 / 2) := by
    have power : (2 : ℚ) ^ 1024 = 2 ^ 54 * 2 ^ 970 := pow_add 2 54 970
    have large : (2 : ℚ) ^ 2 ≤ 2 ^ 970 := pow_le_pow_right₀ (by norm_num) (by norm_num)
    rw [Double.Overflows, power, abs_of_pos (by norm_num)]
    generalize (2 : ℚ) ^ 970 = scale at large ⊢
    linarith
  obtain ⟨number, after, read⟩ := result.succeeds.mpr inRange
  obtain ⟨rfl, d, rfl, sign, nearest⟩ := result.reads number after read
  exact ⟨digit, d, read, sign, nearest⟩

end Scriptlet.Template
