import Scriptlet.Proofs.Numeral.Spelling

/-!
# Texts that spell a number

A text that is compared with a number is read whole, and more kindly than a numeral of a template. It may have
a sign (`Signed`), it may be a decimal numeral with digits on one side of the point only (`IsDecimal`), and it
may be a name of infinity (`NamesInfinity`) or of what is no number. What the reader takes is exactly that
(`decimal?_eq_some_iff`, `ofText?_eq_finite_iff`, `ofText?_eq_infinite_iff`).
-/

set_option autoImplicit false

namespace Scriptlet.NumericText

open Text Template

/-! ## Decimal numerals -/

/-- The digits after the point as they are written: without any, the point may be missing. -/
inductive Pointed : List Char → List Char → Prop where
  | missing : Pointed [] []
  | point (fraction : List Char) : Pointed fraction ('.' :: fraction)

/-- An exponent as it is written: a mark, a sign that may be missing, and digits. -/
inductive Marked : Option (Bool × List Char) → List Char → Prop where
  | missing : Marked none []
  | plain {mark : Char} (isMark : mark = 'e' ∨ mark = 'E') (digits : List Char) :
      Marked (some (false, digits)) (mark :: digits)
  | signed {mark : Char} (isMark : mark = 'e' ∨ mark = 'E') (negative : Bool) (digits : List Char) :
      Marked (some (negative, digits)) (mark :: (if negative then '-' else '+') :: digits)

/-- The text is the numeral. There are digits on one side of the point at least, and in an exponent. -/
structure IsDecimal (n : Numeral) (text : List Char) : Prop where
  starts : n.whole ≠ [] ∨ n.fraction ≠ []
  whole : ∀ c ∈ n.whole, isDigit c = true
  fraction : ∀ c ∈ n.fraction, isDigit c = true
  exponent : ∀ negative digits, n.exponent = some (negative, digits) →
    digits ≠ [] ∧ ∀ c ∈ digits, isDigit c = true
  written : ∃ point mark, Pointed n.fraction point ∧ Marked n.exponent mark ∧
    text = n.whole ++ point ++ mark

variable {n : Numeral} {text body : List Char} {negative : Bool} {d : Double}

theorem Marked.stops {exponent : Option (Bool × List Char)} (marked : Marked exponent text) :
    Stops isDigit text := by
  cases marked with
  | missing => nofun
  | plain isMark | signed isMark =>
    rintro c ⟨⟩
    rcases isMark with rfl | rfl <;> decide

theorem Pointed.stops {point mark : List Char} {fraction : List Char} (pointed : Pointed fraction point)
    (stop : Stops isDigit mark) : Stops isDigit (point ++ mark) := by
  cases pointed with
  | missing => exact stop
  | point =>
    rintro c ⟨⟩
    decide

/-- No exponent starts with a point. -/
theorem not_marked_point {exponent : Option (Bool × List Char)} {rest : List Char} :
    ¬Marked exponent ('.' :: rest) := by
  rintro (_ | isMark | isMark) <;> exact absurd isMark (by decide)

/-- An exponent is scanned to its end. -/
theorem scanExponent_of_marked {exponent : Option (Bool × List Char)} (marked : Marked exponent text)
    (formed : ∀ negative digits, exponent = some (negative, digits) →
      digits ≠ [] ∧ ∀ c ∈ digits, isDigit c = true) :
    Numeral.scanExponent text = (exponent, []) := by
  have scanned {digits : List Char} (all : ∀ c ∈ digits, isDigit c = true) :
      digits.takeWhile isDigit = digits ∧ digits.dropWhile isDigit = [] :=
    ⟨List.takeWhile_eq_self_iff.mpr all, List.dropWhile_eq_nil_iff.mpr all⟩
  cases marked with
  | missing => rfl
  | plain isMark digits =>
    obtain ⟨some_, all⟩ := formed false digits rfl
    obtain ⟨taken, left⟩ := scanned all
    cases digits with
    | nil => exact absurd rfl some_
    | cons c tail =>
      have digit := all c List.mem_cons_self
      have minus : c ≠ '-' := by rintro rfl; cases digit
      have plus : c ≠ '+' := by rintro rfl; cases digit
      simp [Numeral.scanExponent, isMark, minus, plus, taken, left]
  | signed isMark negative digits =>
    obtain ⟨some_, all⟩ := formed negative digits rfl
    obtain ⟨taken, left⟩ := scanned all
    cases digits with
    | nil => exact absurd rfl some_
    | cons c tail => cases negative <;> simp [Numeral.scanExponent, isMark, taken, left]

/-- What is scanned as an exponent to its end is one. -/
theorem marked_of_scanExponent {exponent : Option (Bool × List Char)}
    (scanned : Numeral.scanExponent text = (exponent, [])) :
    Marked exponent text ∧ ∀ negative digits, exponent = some (negative, digits) →
      digits ≠ [] ∧ ∀ c ∈ digits, isDigit c = true := by
  unfold Numeral.scanExponent at scanned
  split at scanned
  · rename_i mark rest
    split_ifs at scanned with isMark
    · have isMark : mark = 'e' ∨ mark = 'E' := by simpa using isMark
      dsimp only at scanned
      split at scanned
      · cases scanned
      · rename_i some_
        obtain ⟨rfl, left⟩ := Prod.mk.inj scanned
        have all := List.dropWhile_eq_nil_iff.mp left
        rw [List.takeWhile_eq_self_iff.mpr all] at some_ ⊢
        refine ⟨?_, ?_⟩
        · split
          · exact .signed isMark true _
          · exact .signed isMark false _
          · exact .plain isMark _
        · rintro negative digits ⟨⟩
          exact ⟨some_, all⟩
    · cases scanned
  · cases scanned
    exact ⟨.missing, nofun⟩

/-- Digits with a point and what is scanned as an exponent to its end are a numeral. -/
theorem isDecimal_of_scanExponent {digits fraction point mark : List Char}
    {exponent : Option (Bool × List Char)} (some_ : (digits.isEmpty && fraction.isEmpty) = false)
    (whole : ∀ c ∈ digits, isDigit c = true) (decimals : ∀ c ∈ fraction, isDigit c = true)
    (pointed : Pointed fraction point) (scanned : Numeral.scanExponent mark = (exponent, [])) :
    IsDecimal ⟨digits, fraction, exponent⟩ (digits ++ point ++ mark) := by
  obtain ⟨marked, formed⟩ := marked_of_scanExponent scanned
  refine ⟨?_, whole, decimals, formed, point, mark, pointed, marked, rfl⟩
  simpa [Classical.or_iff_not_imp_left] using some_

/-- What is read as a decimal numeral is one. -/
theorem isDecimal_of_decimal? (found : decimal? text = some n) : IsDecimal n text := by
  have cut := List.takeWhile_append_dropWhile (p := isDigit) (l := text)
  have whole : ∀ c ∈ text.takeWhile isDigit, isDigit c = true := fun c => List.mem_takeWhile_imp
  unfold decimal? at found
  dsimp only at found
  generalize text.takeWhile isDigit = digits at cut whole found
  generalize text.dropWhile isDigit = rest at cut found
  split at found
  · rename_i rest
    dsimp only at found
    split_ifs at found with nothing
    split at found
    · rename_i exponent scanned
      cases found
      have decimal := isDecimal_of_scanExponent (eq_false_of_ne_true nothing) whole
        (fun c => List.mem_takeWhile_imp) (.point _) scanned
      rwa [List.append_assoc, List.cons_append, List.takeWhile_append_dropWhile, cut] at decimal
    · cases found
  · dsimp only at found
    split_ifs at found with nothing
    split at found
    · rename_i exponent scanned
      cases found
      have decimal := isDecimal_of_scanExponent (eq_false_of_ne_true nothing) whole
        (fun c member => absurd member List.not_mem_nil) .missing scanned
      rwa [List.append_nil, cut] at decimal
    · cases found

/-- Every decimal numeral is read. -/
theorem decimal?_of_isDecimal (decimal : IsDecimal n text) : decimal? text = some n := by
  obtain ⟨digits, decimals, power⟩ := n
  obtain ⟨starts, whole, fraction, exponent, point, mark, pointed, marked, rfl⟩ := decimal
  dsimp only at *
  have stops := pointed.stops marked.stops
  have scanned := scanExponent_of_marked marked exponent
  unfold decimal?
  rw [List.append_assoc, takeWhile_append_of_stop whole stops, dropWhile_append_of_stop whole stops]
  cases pointed with
  | missing =>
    have some_ : digits ≠ [] := by simpa using starts
    have plain : ∀ rest, mark ≠ '.' :: rest := by
      rintro rest rfl
      exact not_marked_point marked
    rw [List.nil_append]
    split
    rename_i fraction rest pair
    split at pair
    · exact absurd rfl (plain _)
    · cases pair
      simp [scanned, some_]
  | point =>
    have some_ : digits = [] → decimals ≠ [] := by
      simpa [Classical.or_iff_not_imp_left] using starts
    have taken := takeWhile_append_of_stop fraction marked.stops
    have left := dropWhile_append_of_stop fraction marked.stops
    simpa [taken, left, scanned] using some_

theorem decimal?_eq_some_iff : decimal? text = some n ↔ IsDecimal n text :=
  ⟨isDecimal_of_decimal?, decimal?_of_isDecimal⟩

theorem pointed_fractionText (fraction : List Char) : Pointed fraction (Numeral.fractionText fraction) := by
  cases fraction with
  | nil => exact .missing
  | cons c rest => exact .point (c :: rest)

theorem marked_exponentText (exponent : Option (Bool × List Char)) :
    Marked exponent (Numeral.exponentText exponent) := by
  cases exponent with
  | none => exact .missing
  | some parts => exact .signed (Or.inl rfl) parts.1 parts.2

/-- The text that a numeral has where it is written is one of its spellings. -/
theorem isDecimal_text (formed : n.WellFormed) : IsDecimal n n.text where
  starts := Or.inl formed.starts
  whole := formed.whole
  fraction := formed.fraction
  exponent := formed.exponent
  written := ⟨_, _, pointed_fractionText _, marked_exponentText _, rfl⟩

/-! ## Signs and names -/

/-- The text is a number without sign behind its sign, which is missing or one of two marks. -/
inductive Signed : Bool → List Char → List Char → Prop where
  | missing (body : List Char) : Signed false body body
  | plus (body : List Char) : Signed false body ('+' :: body)
  | minus (body : List Char) : Signed true body ('-' :: body)

/-- The text is a name of infinity, in letters of either case. -/
def NamesInfinity (text : List Char) : Prop :=
  text.map Char.toLower = ['i', 'n', 'f'] ∨
    text.map Char.toLower = ['i', 'n', 'f', 'i', 'n', 'i', 't', 'y']

/-- A decimal numeral starts with a digit or its point. -/
theorem IsDecimal.head (decimal : IsDecimal n text) :
    ∃ c rest, text = c :: rest ∧ (isDigit c = true ∨ c = '.') := by
  obtain ⟨starts, whole, fraction, exponent, point, mark, pointed, marked, rfl⟩ := decimal
  cases digits : n.whole with
  | cons c rest => exact ⟨c, _, rfl, Or.inl (whole c (digits ▸ List.mem_cons_self))⟩
  | nil =>
    rw [digits] at starts
    have some_ : n.fraction ≠ [] := by simpa using starts
    generalize n.fraction = decimals at pointed some_
    cases pointed with
    | missing => exact absurd rfl some_
    | point => exact ⟨'.', _, rfl, Or.inr rfl⟩

theorem not_isDecimal_of_head {c : Char} {rest : List Char} (digit : isDigit c = false)
    (point : c ≠ '.') : ¬IsDecimal n (c :: rest) := by
  intro decimal
  obtain ⟨d, tail, shape, head⟩ := decimal.head
  cases shape
  rcases head with found | found
  · rw [digit] at found
    cases found
  · exact point found

/-- What starts with neither a digit nor a point is no decimal numeral. -/
theorem decimal?_eq_none {c : Char} {rest : List Char} (digit : isDigit c = false) (point : c ≠ '.') :
    decimal? (c :: rest) = none := by
  cases found : decimal? (c :: rest) with
  | none => rfl
  | some n => exact absurd (decimal?_eq_some_iff.mp found) (not_isDecimal_of_head digit point)

/-- Digits and points are the same in lower case. -/
theorem decimal?_eq_none_of_toLower {letter : Char} {rest : List Char}
    (lower : text.map Char.toLower = letter :: rest) (digit : isDigit letter = false)
    (point : letter ≠ '.') : decimal? text = none := by
  cases text with
  | nil => cases lower
  | cons c tail =>
    have head : c.toLower = letter := (List.cons.inj lower).1
    refine decimal?_eq_none ?_ ?_
    · cases isDigit_ : isDigit c with
      | false => rfl
      | true =>
        have small : c.toNat ≤ 57 := (isDigit_iff.mp isDigit_).2
        have same : c.toLower = c := by
          have notUpper : ¬('A'.val ≤ c.val ∧ c.val ≤ 'Z'.val) := fun upper => by
            have large : 65 ≤ c.toNat := upper.1
            omega
          exact dif_neg notUpper
        rw [← head, same, isDigit_] at digit
        cases digit
    · rintro rfl
      exact point head.symm

/-! ## What is read -/

theorem names_iff (text : List Char) (name : String) :
    String.ofList (text.map Char.toLower) = name ↔ text.map Char.toLower = name.toList := by
  rw [← String.toList_inj, String.toList_ofList]

theorem namesInfinity_iff : NamesInfinity text ↔
    String.ofList (text.map Char.toLower) = "inf" ∨
      String.ofList (text.map Char.toLower) = "infinity" := by
  rw [names_iff, names_iff]
  exact Iff.rfl

theorem decimal?_of_namesInfinity (names : NamesInfinity text) : decimal? text = none := by
  rcases names with name | name <;> exact decimal?_eq_none_of_toLower name rfl (by decide)

/-- A finite number is what a decimal numeral has as its double. -/
theorem unsigned?_eq_finite_iff : unsigned? negative text = some (.finite d) ↔
    ∃ n, IsDecimal n text ∧ n.double? negative = some d := by
  simp only [← decimal?_eq_some_iff]
  unfold unsigned?
  cases decimal? text with
  | none =>
    dsimp only
    split_ifs <;> simp
  | some n =>
    cases double : n.double? negative <;> simp [double]

/-- An infinite one is named, or it is that of a decimal numeral past all doubles. -/
theorem unsigned?_eq_infinite_iff {sign : Bool} : unsigned? negative text = some (.infinite sign) ↔
    sign = negative ∧ (NamesInfinity text ∨ ∃ n, IsDecimal n text ∧ n.double? negative = none) := by
  have unnamed : decimal? text ≠ none → ¬NamesInfinity text := fun some_ names =>
    some_ (decimal?_of_namesInfinity names)
  simp only [← decimal?_eq_some_iff]
  unfold unsigned?
  cases found : decimal? text with
  | none =>
    rw [namesInfinity_iff]
    dsimp only
    split_ifs with infinity <;>
      rw [Bool.or_eq_true, decide_eq_true_eq, decide_eq_true_eq] at infinity
    · rw [and_iff_left (Or.inl infinity), Option.some.injEq, infinite.injEq, eq_comm]
    · simp [infinity]
    · simp [infinity]
  | some n =>
    have other := unnamed (by simp [found])
    cases double : n.double? negative <;> simp [double, other, eq_comm]

/-- Behind a sign there is no other sign. -/
theorem unsigned?_eq_none_of_sign {c : Char} {rest : List Char} (sign : c = '-' ∨ c = '+') :
    unsigned? negative (c :: rest) = none := by
  have noDecimal : decimal? (c :: rest) = none := by
    rcases sign with rfl | rfl <;> exact decimal?_eq_none rfl (by decide)
  have noName (letter : Char) (tail : List Char) (differ : letter ≠ '-' ∧ letter ≠ '+') :
      String.ofList ((c :: rest).map Char.toLower) ≠ String.ofList (letter :: tail) := by
    rw [Ne, String.ofList_inj, List.map_cons, List.cons.injEq]
    rcases sign with rfl | rfl
    · exact fun same => differ.1 same.1.symm
    · exact fun same => differ.2 same.1.symm
  have noInf := noName 'i' ['n', 'f'] (by decide)
  have noInfinity := noName 'i' ['n', 'f', 'i', 'n', 'i', 't', 'y'] (by decide)
  have noNan := noName 'n' ['a', 'n'] (by decide)
  unfold unsigned?
  rw [noDecimal]
  dsimp only
  rw [if_neg, if_neg]
  · exact noNan
  · rw [Bool.or_eq_true, decide_eq_true_eq, decide_eq_true_eq]
    exact not_or.mpr ⟨noInf, noInfinity⟩

/-- What a text spells is what is behind its sign. -/
theorem ofText?_eq_some_iff {spelled : NumericText} : ofText? text = some spelled ↔
    ∃ negative body, Signed negative body text ∧ unsigned? negative body = some spelled := by
  constructor
  · intro found
    unfold ofText? at found
    split at found
    · exact ⟨true, _, .minus _, found⟩
    · exact ⟨false, _, .plus _, found⟩
    · exact ⟨false, _, .missing _, found⟩
  · rintro ⟨negative, body, signed, found⟩
    cases signed with
    | plus => exact found
    | minus => exact found
    | missing =>
      unfold ofText?
      split
      · rw [unsigned?_eq_none_of_sign (Or.inl rfl)] at found
        cases found
      · rw [unsigned?_eq_none_of_sign (Or.inr rfl)] at found
        cases found
      · exact found

/-- The text spells the double: it is a decimal numeral behind its sign that has this double. -/
def Spells (text : List Char) (d : Double) : Prop :=
  ∃ negative body n, Signed negative body text ∧ IsDecimal n body ∧ n.double? negative = some d

/-- The text spells infinity: behind its sign it is a name of it or a decimal numeral past all doubles. -/
def SpellsInfinity (text : List Char) (negative : Bool) : Prop :=
  ∃ body, Signed negative body text ∧
    (NamesInfinity body ∨ ∃ n, IsDecimal n body ∧ n.double? negative = none)

theorem ofText?_eq_finite_iff : ofText? text = some (.finite d) ↔ Spells text d := by
  simp only [ofText?_eq_some_iff, unsigned?_eq_finite_iff, Spells, exists_and_left]

theorem ofText?_eq_infinite_iff :
    ofText? text = some (.infinite negative) ↔ SpellsInfinity text negative := by
  simp only [ofText?_eq_some_iff, unsigned?_eq_infinite_iff]
  constructor
  · rintro ⟨_, body, signed, rfl, infinite⟩
    exact ⟨body, signed, infinite⟩
  · rintro ⟨body, signed, infinite⟩
    exact ⟨negative, body, signed, rfl, infinite⟩

end Scriptlet.NumericText
