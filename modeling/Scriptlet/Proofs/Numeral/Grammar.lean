import Mathlib.Data.List.TakeWhile
import Scriptlet.Proofs.Template.Locality

/-!
# The form of numerals

A numeral is written as digits, perhaps with a fraction and perhaps with an exponent (`IsNumeral`). Wherever no
more digits, fraction or exponent follow, such a text is scanned whole: as an integer if it is digits alone, and
otherwise as a decimal (`IsNumeral.exists_scannedAs`).

What is scanned at the start of any text is such a text, and the same numeral where nothing follows it
(`exists_spelled_scan`). No longer one stands there (`IsNumeral.length_scan_le`).
-/

set_option autoImplicit false

namespace Scriptlet.Numeral

open Text Template

/-- The text is at least one digit and nothing else. -/
def IsDigits (text : List Char) : Prop :=
  text ≠ [] ∧ ∀ c ∈ text, isDigit c = true

/-- The text is a point with digits behind it, or nothing. -/
inductive IsFraction : List Char → Prop where
  | absent : IsFraction []
  | point {digits : List Char} (some_ : IsDigits digits) : IsFraction ('.' :: digits)

/-- The text is a sign or nothing, and says whether a number is negative. -/
inductive IsSign : List Char → Bool → Prop where
  | absent : IsSign [] false
  | plus : IsSign ['+'] false
  | minus : IsSign ['-'] true

/-- The text is the mark of an exponent, perhaps a sign, and digits, or nothing. -/
inductive IsExponent : List Char → Prop where
  | absent : IsExponent []
  | marked {mark : Char} {sign digits : List Char} {negative : Bool} (marks : mark = 'e' ∨ mark = 'E')
      (signs : IsSign sign negative) (some_ : IsDigits digits) : IsExponent (mark :: (sign ++ digits))

/-- The text is a numeral without sign. -/
def IsNumeral (text : List Char) : Prop :=
  ∃ whole fraction exponent, IsDigits whole ∧ IsFraction fraction ∧ IsExponent exponent ∧
    text = whole ++ (fraction ++ exponent)

variable {text digits sign fraction exponent rest : List Char} {mark : Char} {negative : Bool}

theorem IsDigits.exists_eq_cons (some_ : IsDigits digits) :
    ∃ c tail, digits = c :: tail ∧ isDigit c = true := by
  cases digits with
  | nil => exact absurd rfl some_.1
  | cons c tail => exact ⟨c, tail, rfl, some_.2 c List.mem_cons_self⟩

theorem IsNumeral.exists_eq_cons (numeral : IsNumeral text) :
    ∃ c tail, text = c :: tail ∧ isDigit c = true := by
  obtain ⟨whole, fraction, exponent, some_, -, -, rfl⟩ := numeral
  obtain ⟨c, tail, rfl, digit⟩ := some_.exists_eq_cons
  exact ⟨c, _, rfl, digit⟩

theorem IsNumeral.startsWithDigit (numeral : IsNumeral text) (rest : List Char) :
    startsWithDigit (text ++ rest) = true := by
  obtain ⟨c, tail, rfl, digit⟩ := numeral.exists_eq_cons
  exact digit

/-- Blanks before a numeral are no part of it. -/
theorem IsNumeral.skipBlanks_append (numeral : IsNumeral text) {blanks : List Char}
    (blank : ∀ c ∈ blanks, isBlank c = true) (rest : List Char) :
    skipBlanks (blanks ++ (text ++ rest)) = text ++ rest := by
  refine dropWhile_append_of_stop blank ?_
  obtain ⟨c, tail, rfl, digit⟩ := numeral.exists_eq_cons
  rintro d ⟨⟩
  exact isBlank_eq_false_of_isNamePart (isNamePart_of_isDigit digit)

/-- What starts with another character than a digit is no part of a run of digits. -/
theorem not_isDigits_append (some_ : fraction ≠ [])
    (other : ∀ c ∈ fraction.head?, isDigit c = false) (digits : List Char) :
    ¬IsDigits (digits ++ fraction) := by
  rintro ⟨-, all⟩
  cases fraction with
  | nil => exact some_ rfl
  | cons c tail =>
    have digit := all c (List.mem_append_right digits List.mem_cons_self)
    rw [other c rfl] at digit
    cases digit

theorem takeWhile_isDigit_eq_nil_iff : text.takeWhile isDigit = [] ↔ startsWithDigit text = false := by
  cases text with
  | nil => exact iff_of_true rfl rfl
  | cons c rest => cases digit : isDigit c <;> simp [startsWithDigit, digit]

/-- The digits that a text starts with are digits, if there are any. -/
theorem isDigits_takeWhile (digit : startsWithDigit text = true) : IsDigits (text.takeWhile isDigit) := by
  refine ⟨fun none_ => ?_, fun _ => List.mem_takeWhile_imp⟩
  rw [takeWhile_isDigit_eq_nil_iff.mp none_] at digit
  cases digit

theorem stops_nil : Stops isDigit [] :=
  nofun

/-! ## Exponents -/

theorem stops_mark (marks : mark = 'e' ∨ mark = 'E') (rest : List Char) : Stops isDigit (mark :: rest) := by
  rintro c ⟨⟩
  rcases marks with rfl | rfl <;> decide

theorem IsExponent.stops (form : IsExponent exponent) (stop : Stops isDigit rest) :
    Stops isDigit (exponent ++ rest) := by
  cases form with
  | absent => exact stop
  | marked marks _ _ => exact stops_mark marks _

theorem IsExponent.stops_alone (form : IsExponent exponent) : Stops isDigit exponent := by
  have stop := form.stops stops_nil
  rwa [List.append_nil] at stop

theorem exponentSign_append_digits (signs : IsSign sign negative) (some_ : IsDigits digits)
    (rest : List Char) : exponentSign (sign ++ (digits ++ rest)) = (negative, digits ++ rest) := by
  cases signs with
  | absent =>
    obtain ⟨c, tail, rfl, digit⟩ := some_.exists_eq_cons
    have minus : c ≠ '-' := by rintro rfl; revert digit; decide
    have plus : c ≠ '+' := by rintro rfl; revert digit; decide
    simp [exponentSign, minus, plus]
  | plus | minus => rfl

/-- Every text starts with a sign or with nothing. -/
theorem exists_isSign (text : List Char) :
    ∃ sign, IsSign sign (exponentSign text).1 ∧ text = sign ++ (exponentSign text).2 := by
  unfold exponentSign
  split
  · exact ⟨['-'], .minus, rfl⟩
  · exact ⟨['+'], .plus, rfl⟩
  · exact ⟨[], .absent, rfl⟩

/-- A mark with digits behind it is scanned as an exponent with all these digits. -/
theorem scanExponent_marked (marks : mark = 'e' ∨ mark = 'E') (signs : IsSign sign negative)
    (some_ : IsDigits digits) (stop : Stops isDigit rest) :
    scanExponent (mark :: (sign ++ (digits ++ rest))) = (some (negative, digits), rest) := by
  have isMark : (mark = 'e' || mark = 'E') = true := by simpa using marks
  obtain ⟨c, tail, rfl, -⟩ := some_.exists_eq_cons
  simp only [scanExponent_cons, if_pos isMark, exponentSign_append_digits signs some_,
    takeWhile_append_of_stop some_.2 stop, dropWhile_append_of_stop some_.2 stop]

theorem scanExponent_of_digit (marks : mark = 'e' ∨ mark = 'E')
    (digit : startsWithDigit (exponentSign rest).2 = true) : scanExponent (mark :: rest) =
      (some ((exponentSign rest).1, (exponentSign rest).2.takeWhile isDigit),
        (exponentSign rest).2.dropWhile isDigit) := by
  obtain ⟨sign, signs, whole⟩ := exists_isSign rest
  have scanned := scanExponent_marked marks signs (isDigits_takeWhile digit)
    (stops_dropWhile (exponentSign rest).2)
  rwa [List.takeWhile_append_dropWhile, ← whole] at scanned

/-- Without mark, or without a digit behind it, there is no exponent. -/
theorem scanExponent_eq_self
    (none_ : (mark = 'e' ∨ mark = 'E') → startsWithDigit (exponentSign rest).2 = false) :
    scanExponent (mark :: rest) = (none, mark :: rest) := by
  rw [scanExponent_cons]
  split_ifs with marks
  · have nothing := takeWhile_isDigit_eq_nil_iff.mpr (none_ (by simpa using marks))
    simp only [nothing]
  · rfl

/-- An exponent is scanned as one exactly if it is there. -/
theorem scanExponent_of_isExponent (form : IsExponent exponent) :
    ∃ parts, (parts = none ↔ exponent = []) ∧
      ∀ {rest}, EndsDigits rest → scanExponent (exponent ++ rest) = (parts, rest) := by
  cases form with
  | absent => exact ⟨none, iff_of_true rfl rfl, scanExponent_eq_none⟩
  | @marked mark sign digits negative marks signs some_ =>
    refine ⟨some (negative, digits), iff_of_false nofun nofun, fun ends => ?_⟩
    rw [List.cons_append, List.append_assoc]
    exact scanExponent_marked marks signs some_ ends.digits

/-- What is scanned as an exponent is one, also where nothing follows. -/
theorem exists_spelled_scanExponent (text : List Char) :
    ∃ spelled, IsExponent spelled ∧ text = spelled ++ (scanExponent text).2 ∧
      scanExponent spelled = ((scanExponent text).1, []) := by
  cases text with
  | nil => exact ⟨[], .absent, rfl, rfl⟩
  | cons mark rest =>
    by_cases present : (mark = 'e' ∨ mark = 'E') ∧ startsWithDigit (exponentSign rest).2 = true
    · obtain ⟨marks, digit⟩ := present
      obtain ⟨sign, signs, whole⟩ := exists_isSign rest
      have some_ := isDigits_takeWhile digit
      have alone := scanExponent_marked marks signs some_ stops_nil
      rw [List.append_nil] at alone
      rw [scanExponent_of_digit marks digit]
      refine ⟨_, .marked marks signs some_, ?_, alone⟩
      rw [List.cons_append, List.append_assoc, List.takeWhile_append_dropWhile, ← whole]
    · have absent : scanExponent (mark :: rest) = (none, mark :: rest) := scanExponent_eq_self fun marks =>
        Bool.eq_false_iff.mpr fun digit => present ⟨marks, digit⟩
      exact ⟨[], .absent, by rw [absent, List.nil_append], by rw [absent]; rfl⟩

/-! ## Fractions -/

theorem IsFraction.stops (form : IsFraction fraction) (stop : Stops isDigit rest) :
    Stops isDigit (fraction ++ rest) := by
  cases form with
  | absent => exact stop
  | point _ =>
    rintro c ⟨⟩
    decide

/-- A point with digits behind it is scanned as a fraction with all these digits. -/
theorem scanFraction_point (some_ : IsDigits digits) (stop : Stops isDigit rest) :
    scanFraction ('.' :: (digits ++ rest)) = (digits, rest) := by
  obtain ⟨c, tail, rfl, -⟩ := some_.exists_eq_cons
  simp only [scanFraction, takeWhile_append_of_stop some_.2 stop, dropWhile_append_of_stop some_.2 stop]

theorem scanFraction_of_digit (digit : startsWithDigit rest = true) :
    scanFraction ('.' :: rest) = (rest.takeWhile isDigit, rest.dropWhile isDigit) := by
  have scanned := scanFraction_point (isDigits_takeWhile digit) (stops_dropWhile rest)
  rwa [List.takeWhile_append_dropWhile] at scanned

/-- Without point, or without a digit behind it, there is no fraction. -/
theorem scanFraction_eq_self (none_ : ∀ rest, text = '.' :: rest → startsWithDigit rest = false) :
    scanFraction text = ([], text) := by
  unfold scanFraction
  split
  · rename_i rest
    simp only [takeWhile_isDigit_eq_nil_iff.mpr (none_ rest rfl)]
  · rfl

/-- An exponent, or what ends a numeral, carries no digits and no fraction on. -/
theorem IsExponent.scanFraction (form : IsExponent exponent) (ends : EndsDigits rest) :
    scanFraction (exponent ++ rest) = ([], exponent ++ rest) := by
  cases form with
  | absent => exact scanFraction_eq_nil ends
  | marked marks _ _ => rcases marks with rfl | rfl <;> rfl

/-- A fraction is scanned as one exactly if it is there. -/
theorem scanFraction_of_isFraction (form : IsFraction fraction) (formExponent : IsExponent exponent) :
    ∃ digits, (digits = [] ↔ fraction = []) ∧ ∀ {rest}, EndsDigits rest →
      scanFraction (fraction ++ (exponent ++ rest)) = (digits, exponent ++ rest) := by
  cases form with
  | absent => exact ⟨[], iff_of_true rfl rfl, formExponent.scanFraction⟩
  | @point digits some_ =>
    refine ⟨digits, iff_of_false some_.1 nofun, fun ends => ?_⟩
    exact scanFraction_point some_ (formExponent.stops ends.digits)

/-- What is scanned as a fraction is one, also where nothing but an exponent follows. -/
theorem exists_spelled_scanFraction (text : List Char) :
    ∃ spelled, IsFraction spelled ∧ text = spelled ++ (scanFraction text).2 ∧
      ∀ {exponent}, IsExponent exponent →
        scanFraction (spelled ++ exponent) = ((scanFraction text).1, exponent) := by
  by_cases present : ∃ rest, text = '.' :: rest ∧ startsWithDigit rest = true
  · obtain ⟨rest, rfl, digit⟩ := present
    have some_ := isDigits_takeWhile digit
    rw [scanFraction_of_digit digit]
    exact ⟨_, .point some_, congrArg _ List.takeWhile_append_dropWhile.symm, fun form =>
      scanFraction_point some_ form.stops_alone⟩
  · have absent : scanFraction text = ([], text) := scanFraction_eq_self fun rest point =>
      Bool.eq_false_iff.mpr fun digit => present ⟨rest, point, digit⟩
    rw [absent]
    refine ⟨[], .absent, rfl, fun {exponent} form => ?_⟩
    have alone := form.scanFraction endsDigits_nil
    rwa [List.append_nil] at alone

/-! ## Numerals -/

/-- The text is scanned as this numeral, whatever follows it that carries no numeral on. -/
structure ScannedAs (text : List Char) (n : Numeral) : Prop where
  scan : ∀ {rest}, EndsDigits rest → scan (text ++ rest) = (n, rest)
  /-- It is an integer exactly if the text is digits alone, and these are its digits. -/
  isWhole : n.isWhole = true ↔ IsDigits text
  whole : IsDigits text → n.whole = text

/-- A numeral is scanned whole. -/
theorem IsNumeral.exists_scannedAs (numeral : IsNumeral text) : ∃ n, ScannedAs text n := by
  obtain ⟨whole, fraction, exponent, some_, formFraction, formExponent, rfl⟩ := numeral
  obtain ⟨digits, noDigits, fractionScanned⟩ := scanFraction_of_isFraction formFraction formExponent
  obtain ⟨parts, noParts, exponentScanned⟩ := scanExponent_of_isExponent formExponent
  have scanned {rest : List Char} (ends : EndsDigits rest) :
      scan (whole ++ (fraction ++ exponent) ++ rest) = (⟨whole, digits, parts⟩, rest) := by
    have stop := formFraction.stops (formExponent.stops ends.digits)
    simp only [scan, List.append_assoc, takeWhile_append_of_stop some_.2 stop,
      dropWhile_append_of_stop some_.2 stop, fractionScanned ends, exponentScanned ends]
  by_cases nothing : fraction ++ exponent = []
  · obtain ⟨rfl, rfl⟩ := List.append_eq_nil_iff.mp nothing
    cases noDigits.mpr rfl
    cases noParts.mpr rfl
    simp only [List.append_nil] at scanned ⊢
    exact ⟨_, scanned, iff_of_true rfl some_, fun _ => rfl⟩
  · have more : ¬IsDigits (whole ++ (fraction ++ exponent)) :=
      not_isDigits_append nothing (formFraction.stops formExponent.stops_alone) whole
    refine ⟨_, scanned, iff_of_false (fun whole_ => nothing ?_) more, fun digits => absurd digits more⟩
    simp only [isWhole, Bool.and_eq_true, List.isEmpty_iff, Option.isNone_iff_eq_none] at whole_
    rw [noDigits.mp whole_.1, noParts.mp whole_.2, List.append_nil]

/-- What is scanned from a digit on is a numeral, and the same one where nothing follows. -/
theorem exists_spelled_scan (digit : startsWithDigit text = true) :
    ∃ spelled, IsNumeral spelled ∧ text = spelled ++ (scan text).2 ∧
      scan spelled = ((scan text).1, []) := by
  have some_ := isDigits_takeWhile digit
  have cut := List.takeWhile_append_dropWhile (p := isDigit) (l := text)
  obtain ⟨fraction, formFraction, cutFraction, scannedFraction⟩ :=
    exists_spelled_scanFraction (text.dropWhile isDigit)
  obtain ⟨exponent, formExponent, cutExponent, scannedExponent⟩ :=
    exists_spelled_scanExponent (scanFraction (text.dropWhile isDigit)).2
  refine ⟨_, ⟨_, fraction, exponent, some_, formFraction, formExponent, rfl⟩, ?_, ?_⟩
  · simp only [scan, List.append_assoc, ← cutExponent, ← cutFraction, cut]
  · have stop := formFraction.stops formExponent.stops_alone
    simp only [scan, takeWhile_append_of_stop some_.2 stop, dropWhile_append_of_stop some_.2 stop,
      scannedFraction formExponent, scannedExponent]

/-! ## Longest numerals -/

theorem IsDigits.startsWithDigit (some_ : IsDigits digits) (rest : List Char) :
    startsWithDigit (digits ++ rest) = true := by
  obtain ⟨c, tail, rfl, digit⟩ := some_.exists_eq_cons
  exact digit

/-- A fraction at the start of a text is passed over, and perhaps more. -/
theorem IsFraction.length_scanFraction_le (form : IsFraction fraction) (rest : List Char) :
    (scanFraction ((fraction ++ rest).dropWhile isDigit)).2.length ≤ rest.length := by
  cases form with
  | absent => exact (Numeral.length_scanFraction_le _).trans (length_dropDigits_le _)
  | @point digits some_ =>
    show (scanFraction ('.' :: (digits ++ rest))).2.length ≤ _
    rw [scanFraction_of_digit (some_.startsWithDigit rest), List.dropWhile_append_of_pos some_.2]
    exact length_dropDigits_le _

/-- A fraction ends at the mark of an exponent. -/
theorem IsFraction.scanFraction_mark (form : IsFraction fraction) (marks : mark = 'e' ∨ mark = 'E')
    (rest : List Char) : (scanFraction ((fraction ++ mark :: rest).dropWhile isDigit)).2 = mark :: rest := by
  cases form with
  | absent => rcases marks with rfl | rfl <;> rfl
  | @point digits some_ =>
    show (scanFraction ('.' :: (digits ++ mark :: rest))).2 = _
    rw [scanFraction_point some_ (stops_mark marks rest)]

/-- No numeral at the start of a text is longer than the one that is scanned. -/
theorem IsNumeral.length_scan_le (numeral : IsNumeral text) (rest : List Char) :
    (scan (text ++ rest)).2.length ≤ rest.length := by
  obtain ⟨whole, fraction, exponent, some_, formFraction, formExponent, rfl⟩ := numeral
  simp only [scan, List.append_assoc, List.dropWhile_append_of_pos some_.2]
  cases formExponent with
  | absent => exact (length_scanExponent_le _).trans (formFraction.length_scanFraction_le rest)
  | @marked mark sign digits negative marks signs digits_ =>
    have signed := exponentSign_append_digits signs digits_ rest
    have digit : Template.startsWithDigit (exponentSign (sign ++ (digits ++ rest))).2 = true := by
      rw [signed]
      exact digits_.startsWithDigit rest
    rw [List.cons_append, List.append_assoc, formFraction.scanFraction_mark marks,
      scanExponent_of_digit marks digit, signed, List.dropWhile_append_of_pos digits_.2]
    exact length_dropDigits_le rest

end Scriptlet.Numeral
