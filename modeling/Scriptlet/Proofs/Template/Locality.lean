import Scriptlet.Proofs.Template.Derivation

/-!
# Phrases end where they end

A phrase that ends with its text ends at the same place if a closing bracket or a comma follows, whatever
comes after that. No lexeme grows across such a mark: it carries on no name and no numeral, starts and
completes no sign of an operator, and a quoted text is over before it. So every rule of the grammar that
applies to a text applies to the text with the mark behind it, and a derivation goes through as it stands
(`Derives.append`).
-/

set_option autoImplicit false

namespace Scriptlet.Template

open Text

variable {c : Char} {tail text rest : List Char}

/-! ## Runs of a class -/

theorem takeWhile_append_cons {member : Char → Bool} (stop : member c = false) (text : List Char) :
    (text ++ c :: tail).takeWhile member = text.takeWhile member := by
  induction text with
  | nil => exact List.takeWhile_cons_of_neg (by simp [stop])
  | cons d text ih => rw [List.cons_append, List.takeWhile_cons, List.takeWhile_cons, ih]

theorem dropWhile_append_cons {member : Char → Bool} (stop : member c = false) (text : List Char) :
    (text ++ c :: tail).dropWhile member = text.dropWhile member ++ c :: tail := by
  induction text with
  | nil => exact List.dropWhile_cons_of_neg (by simp [stop])
  | cons d text ih =>
    rw [List.cons_append, List.dropWhile_cons, List.dropWhile_cons, ih]
    split <;> rfl

/-- What the first character is not, it is not with a mark behind the text either. -/
theorem head_append_cons {plain : Char → Prop} (head : ∀ d ∈ text.head?, plain d) (mark : plain c) :
    ∀ d ∈ (text ++ c :: tail).head?, plain d := by
  intro d first
  cases text with
  | nil =>
    cases first
    exact mark
  | cons e text =>
    cases first
    exact head d rfl

/-! ## Lexemes -/

theorem ne_of_mem_endMarks (mark : c ∈ endMarks) {d : Char} (other : d ∉ endMarks) : c ≠ d := by
  rintro rfl
  exact other mark

theorem isDigit_eq_false_of_mem_endMarks (mark : c ∈ endMarks) : isDigit c = false := by
  cases digit : isDigit c with
  | false => rfl
  | true =>
    have part := isNamePart_of_isDigit digit
    rw [(plain_of_mem_endMarks c mark).2.1] at part
    cases part

theorem skipBlanks_append (mark : c ∈ endMarks) (text : List Char) :
    skipBlanks (text ++ c :: tail) = skipBlanks text ++ c :: tail :=
  dropWhile_append_cons (plain_of_mem_endMarks c mark).1 text

theorem skipBlanks_append_eq (mark : c ∈ endMarks) {d : Char} (h : skipBlanks text = d :: rest) :
    skipBlanks (text ++ c :: tail) = d :: (rest ++ c :: tail) := by
  rw [skipBlanks_append mark, h, List.cons_append]

theorem startsWithDigit_append (mark : c ∈ endMarks) :
    startsWithDigit (text ++ c :: tail) = startsWithDigit text := by
  cases text with
  | nil => exact isDigit_eq_false_of_mem_endMarks mark
  | cons d text => rfl

theorem reads_name_append (mark : c ∈ endMarks) {word : String} (read : Reads name text word rest) :
    Reads name (text ++ c :: tail) word (rest ++ c :: tail) := by
  obtain ⟨valid, rfl, stop⟩ := reads_name_iff.mp read
  have outside : isNamePart c = false := (plain_of_mem_endMarks c mark).2.1
  rw [List.append_assoc]
  exact reads_name valid (head_append_cons stop outside)

theorem scanFraction_of_head (plain : ∀ d ∈ text.head?, d ≠ '.') :
    Numeral.scanFraction text = ([], text) := by
  unfold Numeral.scanFraction
  split
  · exact absurd rfl (plain '.' rfl)
  · rfl

theorem scanFraction_append (mark : c ∈ endMarks) (text : List Char) :
    Numeral.scanFraction (text ++ c :: tail) =
      ((Numeral.scanFraction text).1, (Numeral.scanFraction text).2 ++ c :: tail) := by
  have digit := isDigit_eq_false_of_mem_endMarks mark
  by_cases dot : ∃ digits, text = '.' :: digits
  · obtain ⟨digits, rfl⟩ := dot
    simp only [List.cons_append, Numeral.scanFraction, takeWhile_append_cons digit,
      dropWhile_append_cons digit]
    split <;> rfl
  · have plain : ∀ d ∈ text.head?, d ≠ '.' := by
      rintro d head rfl
      exact dot (List.head?_eq_some_iff.mp head)
    rw [scanFraction_of_head plain]
    exact scanFraction_of_head (head_append_cons plain (ne_of_mem_endMarks mark (by decide)))

/-- The sign of an exponent, if there is one, and what follows it. -/
def exponentSign : List Char → Bool × List Char
  | '-' :: digits => (true, digits)
  | '+' :: digits => (false, digits)
  | digits => (false, digits)

theorem exponentSign_append (mark : c ∈ endMarks) (text : List Char) :
    exponentSign (text ++ c :: tail) = ((exponentSign text).1, (exponentSign text).2 ++ c :: tail) := by
  have minus : c ≠ '-' := ne_of_mem_endMarks mark (by decide)
  have plus : c ≠ '+' := ne_of_mem_endMarks mark (by decide)
  cases text with
  | nil => simp [exponentSign, minus, plus]
  | cons d text =>
    by_cases isMinus : d = '-'
    · subst isMinus
      rfl
    · by_cases isPlus : d = '+'
      · subst isPlus
        rfl
      · simp [exponentSign, isMinus, isPlus]

theorem scanExponent_cons (d : Char) (text : List Char) : Numeral.scanExponent (d :: text) =
    if d = 'e' || d = 'E' then
      match (exponentSign text).2.takeWhile isDigit with
      | [] => (none, d :: text)
      | digits => (some ((exponentSign text).1, digits), (exponentSign text).2.dropWhile isDigit)
    else (none, d :: text) :=
  rfl

theorem scanExponent_append (mark : c ∈ endMarks) (text : List Char) :
    Numeral.scanExponent (text ++ c :: tail) =
      ((Numeral.scanExponent text).1, (Numeral.scanExponent text).2 ++ c :: tail) := by
  have digit := isDigit_eq_false_of_mem_endMarks mark
  cases text with
  | nil =>
    have lower : c ≠ 'e' := ne_of_mem_endMarks mark (by decide)
    have upper : c ≠ 'E' := ne_of_mem_endMarks mark (by decide)
    simp [Numeral.scanExponent, lower, upper]
  | cons d text =>
    rw [List.cons_append, scanExponent_cons, scanExponent_cons, exponentSign_append mark]
    by_cases exponent : (d = 'e' || d = 'E') = true
    · simp only [if_pos exponent, takeWhile_append_cons digit, dropWhile_append_cons digit]
      split <;> rfl
    · simp only [if_neg exponent, List.cons_append]

/-- A numeral is the same numeral before a mark. -/
theorem scan_append_cons (mark : c ∈ endMarks) (text : List Char) :
    Numeral.scan (text ++ c :: tail) =
      ((Numeral.scan text).1, (Numeral.scan text).2 ++ c :: tail) := by
  have digit := isDigit_eq_false_of_mem_endMarks mark
  simp only [Numeral.scan, takeWhile_append_cons digit, dropWhile_append_cons digit,
    scanFraction_append mark, scanExponent_append mark]

theorem reads_numeral_append (mark : c ∈ endMarks) {negative : Bool} {value : Number}
    (read : Reads (numeral negative) text value rest) :
    Reads (numeral negative) (text ++ c :: tail) value (rest ++ c :: tail) := by
  obtain ⟨digit, number, rfl⟩ := reads_numeral_iff.mp read
  have scanned : Numeral.scan (text ++ c :: tail) =
      ((Numeral.scan text).1, (Numeral.scan text).2 ++ c :: tail) := scan_append_cons mark text
  refine reads_numeral_iff.mpr ⟨?_, ?_, ?_⟩
  · rwa [startsWithDigit_append mark]
  · rwa [scanned]
  · rw [scanned]

theorem readsQuoted_append {mark : Char} (plain : mark ≠ '\\') {value : List Char}
    (read : ReadsQuoted mark text value rest) (more : List Char) :
    ReadsQuoted mark (text ++ more) value (rest ++ more) := by
  obtain ⟨shorter, found⟩ := read
  fun_induction quotedRest? mark text generalizing value rest with
  | case1 => cases found
  | case2 escaped text ih =>
    obtain ⟨inside, read, same⟩ := Option.map_eq_some_iff.mp found
    cases same
    exact readsQuoted_escape escaped (ih inside.shorter read)
  | case3 text _ =>
    cases found
    exact readsQuoted_end plain _
  | case4 d text backslash other ih =>
    obtain ⟨inside, read, same⟩ := Option.map_eq_some_iff.mp found
    cases same
    cases text with
    | nil => cases read
    | cons e text => exact readsQuoted_plain (fun same => backslash e text same rfl) other (ih inside.shorter read)

theorem reads_quoted_append {mark : Char} (plain : mark ≠ '\\') {content : String}
    (read : Reads quoted (mark :: text) content rest) (more : List Char) :
    Reads quoted (mark :: text ++ more) content (rest ++ more) := by
  exact reads_quoted_iff.mpr (readsQuoted_append plain (reads_quoted_iff.mp read) more)

theorem Owner.append (mark : c ∈ endMarks) {owner : String} (path : Owner text owner rest) :
    Owner (text ++ c :: tail) owner (rest ++ c :: tail) := by
  induction path with
  | last read ends =>
    have dot : c ≠ '.' := ne_of_mem_endMarks mark (by decide)
    exact .last (reads_name_append mark read) (head_append_cons ends dot)
  | inside read _ ih => exact .inside (reads_name_append mark read) ih

/-! ## Signs of operators -/

theorem after?_append {start : List Char} (foreign : c ∉ start) :
    after? start (text ++ c :: tail) = (after? start text).map (· ++ c :: tail) := by
  fun_induction after? start text with
  | case1 text => rfl
  | case2 p start =>
    have differs : ¬p = c := fun same => foreign (same ▸ List.mem_cons_self)
    rw [List.nil_append, after?, if_neg differs]
    rfl
  | case3 p start text ih =>
    rw [List.cons_append, after?, if_pos rfl]
    exact ih fun member => foreign (List.mem_cons_of_mem _ member)
  | case4 p start d text differs =>
    rw [List.cons_append, after?, if_neg differs]
    rfl

/-- Whether a sign is at the start of a text is a matter of its characters. -/
theorem sign?_eq_none_iff {operator : Operator} :
    sign? operator text = none ↔ after? operator.sign.toList text = none := by
  have some_ := sign_length_pos operator
  unfold sign?
  split
  · rename_i found
    simp [found, some_]
  · rename_i absent
    simp [absent]

theorem sign?_eq_some_iff {operator : Operator} {reading : Reading Operator text} :
    sign? operator text = some reading ↔
      reading.value = operator ∧ after? operator.sign.toList text = some reading.rest := by
  have some_ := sign_length_pos operator
  unfold sign?
  split
  · rename_i rest found
    simp only [dif_pos some_, found, Option.some.injEq]
    obtain ⟨value, behind, shorter⟩ := reading
    constructor
    · intro same
      cases same
      exact ⟨rfl, rfl⟩
    · rintro ⟨rfl, rfl⟩
      rfl
  · rename_i absent
    simp [absent]

theorem operator?_eq_none_iff {operators : List Operator} :
    operator? operators text = none ↔
      ∀ operator ∈ operators, after? operator.sign.toList text = none := by
  simp only [operator?, List.findSome?_eq_none_iff, sign?_eq_none_iff]

/-- The operator found is the first one whose sign is there. -/
theorem findsOperator_iff {operators : List Operator} {operator : Operator} :
    FindsOperator operators text operator rest ↔ ∃ before behind,
      operators = before ++ operator :: behind ∧ after? operator.sign.toList text = some rest ∧
        ∀ other ∈ before, after? other.sign.toList text = none := by
  simp only [FindsOperator, operator?, List.findSome?_eq_some_iff, sign?_eq_none_iff, sign?_eq_some_iff]
  constructor
  · rintro ⟨shorter, before, _, behind, list, ⟨rfl, sign⟩, others⟩
    exact ⟨before, behind, list, sign, others⟩
  · rintro ⟨before, behind, list, sign, others⟩
    have shorter := shorter_of_after? sign (sign_length_pos operator)
    exact ⟨shorter, before, operator, behind, list, ⟨rfl, sign⟩, others⟩

/-- Signs are made of a few characters, and no mark that ends expressions is among them. -/
theorem not_mem_sign (mark : c ∈ endMarks) (operator : Operator) : c ∉ operator.sign.toList := by
  have foreign : (operator.sign.toList.all fun d => !endMarks.contains d) = true :=
    Operator.forall_of_all (by decide) operator
  intro member
  have plain := List.all_eq_true.mp foreign c member
  rw [List.contains_iff_mem.mpr mark] at plain
  cases plain

theorem operator?_append_eq_none (mark : c ∈ endMarks) {operators : List Operator}
    (absent : operator? operators text = none) : operator? operators (text ++ c :: tail) = none := by
  rw [operator?_eq_none_iff] at absent ⊢
  intro operator member
  rw [after?_append (not_mem_sign mark operator), absent operator member]
  rfl

theorem FindsOperator.append (mark : c ∈ endMarks) {operators : List Operator} {operator : Operator}
    (found : FindsOperator operators text operator rest) :
    FindsOperator operators (text ++ c :: tail) operator (rest ++ c :: tail) := by
  obtain ⟨before, behind, list, sign, others⟩ := findsOperator_iff.mp found
  refine findsOperator_iff.mpr ⟨before, behind, list, ?_, fun other member => ?_⟩
  · rw [after?_append (not_mem_sign mark operator), sign]
    rfl
  · rw [after?_append (not_mem_sign mark other), others other member]
    rfl

/-! ## Derivations -/

/-- A derivation goes through with a mark behind its text, and the mark stays in the rest. -/
theorem Derives.append (mark : c ∈ endMarks) {phrase : Phrase} (derived : Derives phrase text rest) :
    Derives phrase (text ++ c :: tail) (rest ++ c :: tail) := by
  have isNot : ∀ {d : Char}, d ∉ endMarks → c ≠ d := ne_of_mem_endMarks mark
  have blanks : ∀ text, skipBlanks (text ++ c :: tail) = skipBlanks text ++ c :: tail :=
    skipBlanks_append mark
  induction derived with
  | unconditional _ ends ih =>
    rw [← blanks]
    refine .unconditional ih ?_
    rw [blanks]
    exact head_append_cons ends (isNot (by decide))
  | choice _ question _ colon _ decides first second =>
    exact .choice decides (skipBlanks_append_eq mark question) first (skipBlanks_append_eq mark colon)
      second
  | leftmost low high _ _ first more =>
    rw [← blanks] at more
    exact .leftmost low high first more
  | bare _ ih =>
    rw [← blanks] at ih
    exact .bare ih
  | alone ends => exact .alone (operator?_append_eq_none mark ends)
  | join found _ _ second more =>
    rw [← blanks] at more
    exact .join (found.append mark) second more
  | denied plain _ ih => exact .denied (head_append_cons plain (isNot (by decide))) ih
  | negated plain _ ih =>
    rw [← startsWithDigit_append mark, ← blanks] at plain
    rw [← blanks] at ih
    exact .negated plain ih
  | negative digit read _ more =>
    have readMore : Reads (numeral true) _ _ (_ ++ c :: tail) := reads_numeral_append mark read
    rw [← startsWithDigit_append mark, ← blanks] at digit
    rw [← blanks] at readMore more
    exact .negative digit readMore more
  | unsigned plain _ _ first more =>
    rw [← blanks] at more
    exact .unsigned (head_append_cons plain ⟨isNot (by decide), isNot (by decide)⟩) first more
  | complete ends => exact .complete (head_append_cons ends ⟨isNot (by decide), isNot (by decide)⟩)
  | property read plain _ more =>
    have readMore : Reads name _ _ (_ ++ c :: tail) := reads_name_append mark read
    have plainMore : ∀ d ∈ (_ ++ c :: tail).head?, d ≠ '(' :=
      head_append_cons plain (isNot (by decide))
    rw [← blanks] at readMore plainMore more
    exact .property readMore plainMore more
  | method read opens _ _ each more =>
    have readMore : Reads name _ _ (_ ++ c :: tail) := reads_name_append mark read
    rw [← blanks] at readMore more
    exact .method readMore (skipBlanks_append_eq mark opens) each more
  | index _ closed _ inside more =>
    rw [← blanks] at more
    exact .index inside (skipBlanks_append_eq mark closed) more
  | brackets _ closed ih => exact .brackets ih (skipBlanks_append_eq mark closed)
  | listed _ each => exact .listed each
  | quotedText opens read =>
    have plain : ∀ {quote : Char}, quote = '\'' ∨ quote = '"' → quote ≠ '\\' := by
      rintro _ (rfl | rfl) <;> decide
    exact .quotedText opens (reads_quoted_append (plain opens) read _)
  | unsignedNumeral digit read =>
    rw [← startsWithDigit_append mark] at digit
    exact .unsignedNumeral digit (reads_numeral_append mark read)
  | member path read plain =>
    have plainMore : ∀ d ∈ (_ ++ c :: tail).head?, d ≠ '(' :=
      head_append_cons plain (isNot (by decide))
    rw [← blanks] at plainMore ⊢
    exact .member (path.append mark) (reads_name_append mark read) plainMore
  | memberCall path read opens _ each =>
    exact .memberCall (path.append mark) (reads_name_append mark read)
      (skipBlanks_append_eq mark opens) each
  | nameAlone read => exact .nameAlone (reads_name_append mark read)
  | noItems closed => exact .noItems (skipBlanks_append_eq mark closed)
  | @severalItems _ _ text _ opens each ih =>
    rw [← blanks] at ih
    refine .severalItems ?_ ih
    rw [blanks]
    -- the first item takes a character, so the mark is not the first one
    have nests := each.nests
    cases first : skipBlanks text with
    | nil =>
      rw [first] at nests
      cases nests
    | cons d behind =>
      rw [first] at opens
      exact opens
  | lastItem _ closed last ih => exact .lastItem ih (skipBlanks_append_eq mark closed) last
  | nextItem _ comma _ inside others => exact .nextItem inside (skipBlanks_append_eq mark comma) others

end Scriptlet.Template
