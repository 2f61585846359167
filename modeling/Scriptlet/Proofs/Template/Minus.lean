import Scriptlet.Language
import Scriptlet.Proofs.Double.Decimals
import Scriptlet.Proofs.Evaluation.Plans
import Scriptlet.Proofs.Number.Range
import Scriptlet.Proofs.Numeral.Grammar
import Scriptlet.Proofs.Template.RoundTrip

/-!
# A minus sign before a numeral

A minus sign directly before a numeral, up to blanks, belongs to the numeral: the literal is read with its sign,
and only then brought into its range. With brackets between them, the numeral is read without sign and its value
negated. Both ways come to the same value, a negative zero included (`minus_folds`).

There is one exception. The least integer is in range and its opposite is not, so it only comes out of a sign
that belongs to the numeral.
-/

set_option autoImplicit false

namespace Scriptlet

open Text

/-! ## Values -/

namespace Double

/-- A decimal is rounded by its magnitude. -/
theorem ofDecimal?_true (digits : Nat) (exponent : Int) :
    ofDecimal? true digits exponent = (ofDecimal? false digits exponent).map neg := by
  rw [ofDecimal?_eq_map true]
  cases unsigned : ofDecimal? false digits exponent with
  | none => rfl
  | some d => rw [Option.map_some, Option.map_some, neg, negative_of_ofDecimal? unsigned, Bool.not_false]

end Double

namespace Template

/-- The integer of a numeral of digits alone is the one that only fits with a minus sign. -/
def IsLeast (n : Numeral) : Prop :=
  n.isWhole = true ∧ ofDigits n.whole = 2 ^ 63

variable {n : Numeral} {value : Number}

/-- With a minus sign a numeral denotes the negation of what it denotes without. -/
theorem numberOf_true_of_ok (unsigned : numberOf false n = .ok value) :
    ∃ opposite, numberOf true n = .ok opposite ∧
      Value.negate (.json (.number value)) = .ok (.json (.number opposite)) := by
  cases whole : n.isWhole with
  | true =>
    rw [numberOf, if_pos whole] at unsigned
    split at unsigned
    · rename_i i found
      cases unsigned
      -- The negation of a natural number in range is in range.
      have range := Int64.toInt_lt i
      have same : (ofDigits n.whole : Int) = i.toInt := (toInt_of_int64? found).symm
      have fits : Fits (-(ofDigits n.whole : Int)) := by constructor <;> omega
      obtain ⟨j, opposite⟩ := exists_int64? fits
      refine ⟨.int j, numberOf_whole whole opposite, ?_⟩
      have negated : (Quantity.int i).negate = .ok (.int j) := by
        rw [Quantity.negate, ← same, opposite]
      show (do let result ← (Quantity.int i).negate; return Value.ofQuantity result) = _
      rw [negated]
      rfl
    · cases unsigned
  | false =>
    have broken : ¬n.isWhole = true := ne_true_of_eq_false whole
    rw [numberOf, if_neg broken] at unsigned
    split at unsigned
    · rename_i d found
      cases unsigned
      refine ⟨.double d.neg, ?_, rfl⟩
      rw [numberOf, if_neg broken, Numeral.double?, Double.ofDecimal?_true]
      rw [Numeral.double?] at found
      rw [found]
      rfl
    · cases unsigned

/-- A numeral that denotes nothing without a sign denotes nothing with it, unless it is the exception. -/
theorem numberOf_true_of_error {fault : SyntaxFault} (unsigned : numberOf false n = .error fault)
    (other : ¬IsLeast n) : ∃ fault, numberOf true n = .error fault := by
  cases whole : n.isWhole with
  | true =>
    rw [numberOf, if_pos whole] at unsigned
    split at unsigned
    · cases unsigned
    · rename_i missing
      have outside : ¬Fits (ofDigits n.whole : Int) := int64?_eq_none_iff.mp missing
      refine ⟨_, numberOf_whole_error whole fun fits => other ⟨whole, ?_⟩⟩
      have low : Fits (-(ofDigits n.whole : Int)) := fits
      unfold Fits at low outside
      omega
  | false =>
    have broken : ¬n.isWhole = true := ne_true_of_eq_false whole
    rw [numberOf, if_neg broken] at unsigned
    split at unsigned
    · cases unsigned
    · rename_i missing
      rw [Numeral.double?] at missing
      refine ⟨.doubleOutOfRange, ?_⟩
      rw [numberOf, if_neg broken, Numeral.double?, Double.ofDecimal?_true, missing]
      rfl

/-- The exception denotes the least integer with a sign, and nothing without. -/
theorem numberOf_of_isLeast (least : IsLeast n) :
    numberOf false n = .error .integerOutOfRange ∧ numberOf true n = .ok (.int Int64.minValue) := by
  obtain ⟨whole, digits⟩ := least
  have positive : n.toInt false = 2 ^ 63 := by
    rw [Numeral.toInt, digits]
    rfl
  have negative : n.toInt true = -2 ^ 63 := by
    rw [Numeral.toInt, digits]
    rfl
  refine ⟨numberOf_whole_error whole ?_, numberOf_whole whole ?_⟩
  · rw [positive, Fits]
    decide
  · rw [negative]
    decide

/-! ## Texts that are read -/

variable {limits : Limits} {inner : Inner} {digits blanks rest : List Char}

/-- A numeral is read as the number that it denotes. -/
theorem reads_numeral_of_scannedAs {negative : Bool} (numeral : Numeral.IsNumeral digits)
    (scanned : Numeral.ScannedAs digits n) (denotes : numberOf negative n = .ok value)
    (ends : EndsDigits rest) : Reads (Template.numeral negative) (digits ++ rest) value rest := by
  have read := reads_of_numberOf (numeral.startsWithDigit rest) (by rw [scanned.scan ends]; exact denotes)
  rwa [scanned.scan ends] at read

/-- Blanks may stand between a minus sign and its numeral. -/
theorem spells_minus (blank : ∀ c ∈ blanks, isBlank c = true) (numeral : Numeral.IsNumeral digits)
    (scanned : Numeral.ScannedAs digits n) (denotes : numberOf true n = .ok value) :
    Spells limits inner 7 ('-' :: (blanks ++ digits)) (.literal (.number value)) := by
  refine spells_signed ⟨'-', _, rfl, by decide⟩ fun rest apart ends => ?_
  have plain := numeral.skipBlanks_append blank rest
  rw [List.cons_append, List.append_assoc]
  refine reads_signed_numeral ?_ ?_ (continues_suffixes_stop (ends.suffix (by decide)))
  · rw [plain]
    exact numeral.startsWithDigit rest
  · rw [plain]
    exact reads_numeral_of_scannedAs numeral scanned denotes apart.endsDigits

/-- A numeral in brackets is an operand of a minus sign before them. -/
theorem spells_minus_brackets (numeral : Numeral.IsNumeral digits) (scanned : Numeral.ScannedAs digits n)
    (denotes : numberOf false n = .ok value) :
    Spells .standard (within .standard 127) 7 ('-' :: ('(' :: digits ++ [')']))
      (.neg (.literal (.number value))) := by
  have unsigned : Spells .standard (within .standard 125) 8 digits (.literal (.number value)) :=
    spells_number numeral.exists_eq_cons fun rest apart =>
      reads_numeral_of_scannedAs numeral scanned denotes apart.endsDigits
  have whole := (unsigned.loosenTo (Nat.le_refl 1) (by decide) (by decide)).whole
  have brackets : Spells .standard (within .standard 126) 8 ('(' :: digits ++ [')'])
      (.literal (.number value)) := spells_group whole
  exact spells_neg (brackets.loosenTo (by decide) (by decide) (by decide)) rfl rfl

/-! ## Texts that are not read -/

/-- The reader reads nothing at the start of the text. -/
def Fails {α : Type} (reader : Reader α) (text : List Char) : Prop :=
  ∃ failure, reader text = .error failure

variable {text : List Char}

theorem Fails.operand (fails : Fails (signed limits inner) (skipBlanks text)) :
    Fails (operand limits inner) text := by
  obtain ⟨failure, failed⟩ := fails
  exact ⟨failure, by rw [Template.operand, failed]; rfl⟩

theorem Fails.group {next : Reader Expr} (fails : Fails next text) (operators : List Operator) :
    Fails (group limits operators next) text := by
  obtain ⟨failure, failed⟩ := fails
  exact ⟨failure, by rw [Template.group, failed]; rfl⟩

/-- An expression is not read where its first operand is not. -/
theorem Fails.expression (fails : Fails (Template.operand limits inner) text) :
    Fails (expression limits inner) text := by
  have operation (groups : List (List Operator)) :
      Fails (groups.foldr (Template.group limits) (Template.operand limits inner)) text := by
    induction groups with
    | nil => exact fails
    | cons operators _ ih => exact ih.group operators
  obtain ⟨failure, failed⟩ := operation precedence
  exact ⟨failure, by rw [Template.expression, Template.operation, failed]; rfl⟩

/-- A numeral that denotes no number is not read. -/
theorem fails_numeral {negative : Bool} {reason : SyntaxFault} (numeral : Numeral.IsNumeral digits)
    (scanned : Numeral.ScannedAs digits n) (denotes : numberOf negative n = .error reason)
    (ends : EndsDigits rest) : Fails (Template.numeral negative) (digits ++ rest) :=
  ⟨_, numeral_eq_failAt (numeral.startsWithDigit rest) (by rw [scanned.scan ends]; exact denotes)⟩

theorem Fails.signed_numeral {next : List Char} (digit : startsWithDigit (skipBlanks next) = true)
    (fails : Fails (Template.numeral true) (skipBlanks next)) : Fails (signed limits inner) ('-' :: next) := by
  obtain ⟨failure, failed⟩ := fails
  exact ⟨failure, by rw [signed_minus_digit digit, failed]; rfl⟩

theorem Fails.signed_neg {next : List Char} (plain : startsWithDigit (skipBlanks next) = false)
    (fails : Fails inner.operand (skipBlanks next)) : Fails (signed limits inner) ('-' :: next) := by
  obtain ⟨failure, failed⟩ := fails
  exact ⟨failure, by rw [signed_minus plain, failed]; rfl⟩

theorem Fails.signed_primary (unsigned : ∀ c ∈ text.head?, c ≠ '!' ∧ c ≠ '-')
    (fails : Fails (primary limits inner) text) : Fails (signed limits inner) text := by
  obtain ⟨failure, failed⟩ := fails
  exact ⟨failure, by rw [signed_unsigned unsigned, failed]; rfl⟩

theorem Fails.primary_group {next : List Char} (fails : Fails inner.expression next) :
    Fails (primary limits inner) ('(' :: next) := by
  obtain ⟨failure, failed⟩ := fails
  exact ⟨failure, by rw [primary_bracket, failed]; rfl⟩

theorem Fails.primary_numeral {c : Char} {next : List Char} (digit : isDigit c = true)
    (fails : Fails (Template.numeral false) (c :: next)) : Fails (primary limits inner) (c :: next) := by
  obtain ⟨failure, failed⟩ := fails
  exact ⟨failure, by rw [primary_digit digit, failed]; rfl⟩

/-- A minus sign and a numeral that denotes no number with it are not read. -/
theorem fails_minus {reason : SyntaxFault} (blank : ∀ c ∈ blanks, isBlank c = true)
    (numeral : Numeral.IsNumeral digits) (scanned : Numeral.ScannedAs digits n)
    (denotes : numberOf true n = .error reason) :
    Fails (expression limits inner) ('-' :: (blanks ++ digits)) := by
  have plain := numeral.skipBlanks_append blank []
  have digit := numeral.startsWithDigit []
  have fails := fails_numeral numeral scanned denotes endsDigits_nil
  rw [List.append_nil] at plain digit fails
  refine Fails.expression (Fails.operand ?_)
  rw [skipBlanks_cons_of_not (by decide)]
  refine Fails.signed_numeral ?_ ?_
  · rwa [plain]
  · rwa [plain]

/-- A numeral in brackets that denotes no number is not read behind a minus sign either. -/
theorem fails_minus_brackets {reason : SyntaxFault} (numeral : Numeral.IsNumeral digits)
    (scanned : Numeral.ScannedAs digits n) (denotes : numberOf false n = .error reason) :
    Fails (expression .standard (within .standard 127)) ('-' :: ('(' :: digits ++ [')'])) := by
  have ends : EndsDigits [')'] := (apart_endMark (by decide) []).endsDigits
  have fails := fails_numeral numeral scanned denotes ends
  have inside : Fails (within .standard 126).expression (digits ++ [')']) := by
    obtain ⟨c, tail, rfl, digit⟩ := numeral.exists_eq_cons
    have part := isNamePart_of_isDigit digit
    refine Fails.expression (Fails.operand ?_)
    rw [List.cons_append, skipBlanks_cons_of_not (isBlank_eq_false_of_isNamePart part)]
    exact Fails.signed_primary (unsigned_of_isNamePart part) (Fails.primary_numeral digit fails)
  have brackets : Fails (within .standard 127).operand ('(' :: digits ++ [')']) := by
    refine Fails.operand ?_
    rw [List.cons_append, skipBlanks_cons_of_not (by decide)]
    refine Fails.signed_primary ?_ inside.primary_group
    rintro c ⟨⟩
    decide
  refine Fails.expression (Fails.operand ?_)
  rw [skipBlanks_cons_of_not (by decide)]
  exact Fails.signed_neg rfl brackets

/-! ## Templates -/

theorem parse_of_fails {template : String}
    (fails : Fails (Template.expression .standard (within .standard 127)) template.toList) :
    ∃ fault, parse template = .error fault := by
  obtain ⟨failure, failed⟩ := fails
  have whole : wholeText .standard template.toList = .error failure := by
    show (Template.expression .standard (within .standard 127) template.toList >>= _) = _
    rw [failed]
    rfl
  exact ⟨failure.fault template.toList, by rw [parse, parseWithin, whole]; rfl⟩

theorem parse_of_spells {template : String} {tree : Expr}
    (spells : Spells .standard (within .standard 127) 7 template.toList tree) :
    parse template = .ok tree :=
  parse_of_spellsWhole (spells.loosenTo (Nat.le_refl 1) (by decide) (by decide)).whole

end Template

variable {statics : Statics} {hosts : Hosts} {bindings : Bindings} {template : String}

theorem Language.run_of_parse {tree : Expr} (read : Template.parse template = .ok tree) :
    (Language.ognl statics).run hosts bindings template = tree.eval ⟨bindings, statics, hosts⟩ := by
  simp only [Language.ognl, read]

theorem Language.not_succeeds_of_parse (failed : ∃ fault, Template.parse template = .error fault) :
    ¬((Language.ognl statics).run hosts bindings template).Succeeds := by
  obtain ⟨fault, failed⟩ := failed
  simp only [Language.ognl, failed]
  exact nofun

/-! ## Runs -/

section Runs

variable {digits blanks : List Char} {n : Numeral} {value : Number} {reason : SyntaxFault}

theorem Language.run_minus (numeral : Numeral.IsNumeral digits) (scanned : Numeral.ScannedAs digits n)
    (blank : ∀ c ∈ blanks, isBlank c = true) (denotes : Template.numberOf true n = .ok value) :
    (Language.ognl statics).run hosts bindings (String.ofList ('-' :: (blanks ++ digits))) =
      .pure (.json (.number value)) := by
  have read : Template.parse (String.ofList ('-' :: (blanks ++ digits))) =
      .ok (.literal (.number value)) := by
    refine Template.parse_of_spells ?_
    rw [String.toList_ofList]
    exact Template.spells_minus blank numeral scanned denotes
  exact Language.run_of_parse read

theorem Language.not_succeeds_minus (numeral : Numeral.IsNumeral digits)
    (scanned : Numeral.ScannedAs digits n) (blank : ∀ c ∈ blanks, isBlank c = true)
    (denotes : Template.numberOf true n = .error reason) :
    ¬((Language.ognl statics).run hosts bindings (String.ofList ('-' :: (blanks ++ digits)))).Succeeds := by
  refine Language.not_succeeds_of_parse (Template.parse_of_fails ?_)
  rw [String.toList_ofList]
  exact Template.fails_minus blank numeral scanned denotes

theorem Language.run_minus_brackets (numeral : Numeral.IsNumeral digits)
    (scanned : Numeral.ScannedAs digits n) (denotes : Template.numberOf false n = .ok value) :
    (Language.ognl statics).run hosts bindings (String.ofList ('-' :: ('(' :: digits ++ [')']))) =
      Run.ofExcept (Value.negate (.json (.number value))) := by
  have read : Template.parse (String.ofList ('-' :: ('(' :: digits ++ [')']))) =
      .ok (.neg (.literal (.number value))) := by
    refine Template.parse_of_spells ?_
    rw [String.toList_ofList]
    exact Template.spells_minus_brackets numeral scanned denotes
  rw [Language.run_of_parse read]
  rfl

theorem Language.not_succeeds_minus_brackets (numeral : Numeral.IsNumeral digits)
    (scanned : Numeral.ScannedAs digits n) (denotes : Template.numberOf false n = .error reason) :
    ¬((Language.ognl statics).run hosts bindings
      (String.ofList ('-' :: ('(' :: digits ++ [')'])))).Succeeds := by
  refine Language.not_succeeds_of_parse (Template.parse_of_fails ?_)
  rw [String.toList_ofList]
  exact Template.fails_minus_brackets numeral scanned denotes

end Runs

/-- A template with a sign that belongs to a numeral comes to what the template with the negation comes to,
but for the least integer. -/
structure FoldsMinus (direct negated : Run Value) (least : Prop) : Prop where
  value : ∀ value, negated.outcome = .ok value → direct.outcome = .ok value
  noValue : ¬negated.Succeeds → ¬least → ¬direct.Succeeds
  least : least → ¬negated.Succeeds ∧ direct.outcome = .ok (.int Int64.minValue)

/-- A minus sign before a numeral means the negation of the numeral. -/
theorem minus_folds (statics : Statics) (hosts : Hosts) (bindings : Bindings) {digits blanks : List Char}
    (numeral : Numeral.IsNumeral digits) (blank : ∀ c ∈ blanks, isBlank c = true) :
    FoldsMinus
      ((Language.ognl statics).run hosts bindings (String.ofList ('-' :: (blanks ++ digits))))
      ((Language.ognl statics).run hosts bindings (String.ofList ('-' :: ('(' :: digits ++ [')']))))
      (Numeral.IsDigits digits ∧ ofDigits digits = 2 ^ 63) := by
  obtain ⟨n, scanned⟩ := numeral.exists_scannedAs
  have least : Numeral.IsDigits digits ∧ ofDigits digits = 2 ^ 63 → Template.IsLeast n :=
    fun h => ⟨scanned.isWhole.mpr h.1, by rw [scanned.whole h.1, h.2]⟩
  cases denotes : Template.numberOf false n with
  | ok value =>
    obtain ⟨opposite, denotesOpposite, negated⟩ := Template.numberOf_true_of_ok denotes
    rw [Language.run_minus_brackets numeral scanned denotes, negated,
      Language.run_minus numeral scanned blank denotesOpposite]
    refine ⟨fun _ => id, fun fails => absurd ⟨_, rfl⟩ fails, fun isLeast => ?_⟩
    cases denotes.symm.trans (Template.numberOf_of_isLeast (least isLeast)).1
  | error reason =>
    have fails : ¬((Language.ognl statics).run hosts bindings
        (String.ofList ('-' :: ('(' :: digits ++ [')'])))).Succeeds :=
      Language.not_succeeds_minus_brackets numeral scanned denotes
    refine ⟨fun value outcome => absurd ⟨value, outcome⟩ fails, fun _ other => ?_,
      fun isLeast => ⟨fails, ?_⟩⟩
    · have otherNumeral : ¬Template.IsLeast n := by
        intro isLeast
        have digitsAlone := scanned.isWhole.mp isLeast.1
        exact other ⟨digitsAlone, scanned.whole digitsAlone ▸ isLeast.2⟩
      obtain ⟨reason, denotesNothing⟩ := Template.numberOf_true_of_error denotes otherNumeral
      exact Language.not_succeeds_minus numeral scanned blank denotesNothing
    · rw [Language.run_minus numeral scanned blank (Template.numberOf_of_isLeast (least isLeast)).2]
      rfl

/-- The zero of a decimal gets its sign either way. -/
theorem minus_folds_zero : Numeral.IsNumeral ['0', '.', '0'] ∧ (∀ c ∈ [' '], isBlank c = true) ∧
    ((Language.ognl []).run .none [] "-(0.0)").outcome = .ok (.double (.zero true)) ∧
    ((Language.ognl []).run .none [] "- 0.0").outcome = .ok (.double (.zero true)) := by
  have digit : Numeral.IsDigits ['0'] := ⟨by decide, List.forall_mem_singleton.mpr (by decide)⟩
  have numeral : Numeral.IsNumeral ['0', '.', '0'] :=
    ⟨['0'], ['.', '0'], [], digit, .point digit, .absent, rfl⟩
  have blank : ∀ c ∈ [' '], isBlank c = true := List.forall_mem_singleton.mpr (by decide)
  have read : Template.parse "-(0.0)" = .ok (.neg (.literal (.number (.double (.zero false))))) := by
    with_unfolding_all rfl
  have negated : ((Language.ognl []).run .none [] "-(0.0)").outcome = .ok (.double (.zero true)) := by
    rw [Language.run_of_parse read]
    rfl
  have folds := minus_folds [] .none [] numeral blank
  have direct : String.ofList ('-' :: ([' '] ++ ['0', '.', '0'])) = "- 0.0" := by decide
  have brackets : String.ofList ('-' :: ('(' :: ['0', '.', '0'] ++ [')'])) = "-(0.0)" := by decide
  rw [direct, brackets] at folds
  exact ⟨numeral, blank, negated, folds.value _ negated⟩

end Scriptlet
