import Scriptlet.Proofs.Expr.Induction
import Scriptlet.Proofs.Number.Range
import Scriptlet.Proofs.Template.Places
import Scriptlet.Template

/-!
# Spellings read back

The template that spells an expression reads back as it (`parse_print`).

One lemma for each node says that its spelling reads as it in its place, given that the spellings of
the nodes below do in theirs. A node takes at most two levels of nesting away from the nodes below
it, one for itself and one for the brackets around them. This is why a tree of half the height that
is allowed never meets the limit.
-/

set_option autoImplicit false

namespace Scriptlet.Template

open Text

variable {limits : Limits} {inner : Inner}

/-! ## Operands -/

/-- A primary expression has the highest level. -/
theorem spells_primary {text : List Char} {tree : Expr} (opens : Opens text)
    (unsigned : ∀ c ∈ text.head?, c ≠ '!' ∧ c ≠ '-')
    (read : ∀ rest, Apart rest → ∃ behind, skipBlanks behind = skipBlanks rest ∧
      Reads (primary limits inner) (text ++ rest) tree behind) :
    Spells limits inner 8 text tree where
  opens := opens
  reads := by
    intro before rest after result place apart _ more
    obtain ⟨behind, same, readPrimary⟩ := read rest apart
    rw [← same] at more
    refine reads_operand ?_
    rw [place]
    refine reads_signed_primary ?_ readPrimary more
    obtain ⟨c, tail, rfl, -⟩ := opens
    exact unsigned

/-- What starts with a sign has the level of a sign. -/
theorem spells_signed {text : List Char} {tree : Expr} (opens : Opens text)
    (read : ∀ rest, Apart rest → Ends 7 (skipBlanks rest) →
      Reads (signed limits inner) (text ++ rest) tree (skipBlanks rest)) :
    Spells limits inner 7 text tree where
  opens := opens
  reads := by
    intro before rest after result place apart ends more
    obtain ⟨rfl, rfl⟩ := eq_of_continues_chain_nil more (skipBlanks_skipBlanks rest)
    refine reads_operand ?_
    rw [place]
    exact read rest apart ends.signed

/-- Brackets raise any expression to the highest level. -/
theorem spells_group {text : List Char} {tree : Expr}
    (whole : SpellsWhole inner.expression text tree) :
    Spells limits inner 8 ('(' :: text ++ [')']) tree := by
  refine spells_primary ⟨'(', _, rfl, by decide⟩ ?_ ?_
  · rintro c ⟨⟩
    decide
  · intro rest _
    refine ⟨rest, rfl, ?_⟩
    have mark : ')' ∈ endMarks := by decide
    have read := whole.reads_upTo (whole.opens.append (')' :: rest)).skipBlanks_eq mark
    simp only [List.cons_append, List.append_assoc, List.nil_append]
    exact reads_primary_group read (skipBlanks_endMark mark rest)

/-! ## Lists of expressions -/

/-- Expressions between commas are read up to and with the mark that closes them. -/
theorem reads_itemsFrom_separated {reader : Reader Expr} {close : Char} (mark : close ∈ endMarks)
    (last : close ≠ ',') {item : Expr} {items : List Expr}
    (each : ∀ tree ∈ item :: items, SpellsWhole reader tree.text tree) {before rest : List Char}
    (place : skipBlanks before = Expr.separated (Expr.texts (item :: items)) ++ close :: rest) :
    Reads (itemsFrom reader close) before (item :: items) rest := by
  have whole := each item List.mem_cons_self
  induction items generalizing item before with
  | nil =>
    rw [Expr.separated_texts_singleton] at place
    exact reads_itemsFrom_last (whole.reads_upTo place mark) (skipBlanks_endMark mark rest) last
  | cons next items ih =>
    have comma : ',' ∈ endMarks := by decide
    have later : ∀ tree ∈ next :: items, SpellsWhole reader tree.text tree :=
      fun tree member => each tree (List.mem_cons_of_mem _ member)
    have wholeNext := later next List.mem_cons_self
    obtain ⟨tail, starts⟩ := Expr.separated_texts_eq_append next items
    rw [Expr.separated_texts_cons, List.append_assoc, List.cons_append] at place
    refine reads_itemsFrom_cons (whole.reads_upTo place comma) (skipBlanks_endMark comma _)
      (ih later ?_ wholeNext)
    rw [starts, List.append_assoc, List.cons_append, List.append_assoc]
    exact (wholeNext.opens.append _).skipBlanks_cons

/-- Expressions between commas, or none, are read up to and with the mark that closes them. -/
theorem reads_items_separated {reader : Reader Expr} (close : Char) (mark : close ∈ endMarks)
    (last : close ≠ ',') {items : List Expr}
    (each : ∀ tree ∈ items, SpellsWhole reader tree.text tree) (rest : List Char) :
    Reads (Template.items reader close) (Expr.separated (Expr.texts items) ++ close :: rest) items
      rest := by
  cases items with
  | nil => exact reads_items_nil (skipBlanks_endMark mark rest)
  | cons item items =>
    have opens : Opens (Expr.separated (Expr.texts (item :: items)) ++ close :: rest) := by
      obtain ⟨tail, starts⟩ := Expr.separated_texts_eq_append item items
      rw [starts, List.append_assoc]
      exact (each item List.mem_cons_self).opens.append _
    have place := opens.skipBlanks_eq
    refine reads_items ?_ ?_
    · rw [place]
      exact opens.head_ne_endMark mark
    · rw [place]
      exact reads_itemsFrom_separated mark last each place

/-! ## Primary expressions -/

theorem unsigned_of_isNamePart {c : Char} {tail : List Char} (part : isNamePart c = true) :
    ∀ d ∈ (c :: tail).head?, d ≠ '!' ∧ d ≠ '-' := by
  rintro d ⟨⟩
  constructor <;> rintro rfl <;> revert part <;> decide

/-- A name alone. -/
theorem spells_name (name : String) (valid : isName name = true) :
    Spells limits inner 8 name.toList (named name) := by
  obtain ⟨c, tail, chars, start, -⟩ := isName_iff.mp valid
  have part := isNamePart_of_isNameStart start
  refine spells_primary ?_ ?_ fun rest apart => ⟨rest, rfl, reads_primary_name valid apart.name⟩
  · rw [chars]
    exact Opens.of_isNamePart part
  · rw [chars]
    exact unsigned_of_isNamePart part

theorem named_eq_var {name : String} (free : Expr.isReserved name = false) :
    named name = .var name := by
  simp only [Expr.isReserved, Bool.or_eq_false_iff, decide_eq_false_iff_not] at free
  unfold named
  split
  · exact absurd rfl free.1.1
  · exact absurd rfl free.1.2
  · exact absurd rfl free.2
  · rfl

/-- The digits of a number start as a numeral does. -/
theorem exists_toDigits_eq_cons (n : Nat) :
    ∃ c tail, toDigits n = c :: tail ∧ isDigit c = true := by
  cases digits : toDigits n with
  | nil => exact absurd digits Nat.toDigits_ne_nil
  | cons c tail =>
    exact ⟨c, tail, rfl, isDigit_of_mem_toDigits (n := n) (by rw [digits]; exact List.mem_cons_self)⟩

/-- An integer, of which a sign has been read before if it is negative. -/
theorem reads_numeral_natAbs (i : Int64) (rest : List Char) (apart : Apart rest) :
    Reads (numeral (decide (i.toInt < 0))) (toDigits i.toInt.natAbs ++ rest) (.int i) rest := by
  refine reads_numeral Nat.toDigits_ne_nil (fun c => isDigit_of_mem_toDigits) apart.endsDigits ?_
  rw [ofDigits_toDigits, ← int64?_toInt i]
  congr 1
  split_ifs with negative <;> simp only [decide_eq_true_eq] at negative <;> omega

/-- A number, whose numeral stands behind a sign if it is negative. -/
theorem spells_number {negative : Bool} {text : List Char} {value : Number}
    (digit : ∃ c tail, text = c :: tail ∧ isDigit c = true)
    (read : ∀ rest, Apart rest → Reads (numeral negative) (text ++ rest) value rest) :
    Spells limits inner (if negative then 7 else 8) (if negative then '-' :: text else text)
      (.literal (.number value)) := by
  obtain ⟨c, tail, rfl, digit⟩ := digit
  have part := isNamePart_of_isDigit digit
  have opens : Opens (c :: tail) := Opens.of_isNamePart part
  cases negative with
  | true =>
    refine spells_signed ⟨'-', _, rfl, by decide⟩ fun rest apart ends => ?_
    have plain := (opens.append rest).skipBlanks_eq
    have starts : startsWithDigit (skipBlanks (c :: tail ++ rest)) = true := by
      rw [plain]
      exact digit
    have readNumeral := read rest apart
    rw [← plain] at readNumeral
    exact reads_signed_numeral starts readNumeral
      (continues_suffixes_stop (ends.suffix (by decide)))
  | false =>
    exact spells_primary opens (unsigned_of_isNamePart part) fun rest apart =>
      ⟨rest, rfl, reads_primary_numeral digit (read rest apart)⟩

/-- An integer. -/
theorem spells_int (i : Int64) :
    Spells limits inner (Expr.level (.literal (.number (.int i))))
      (Expr.text (.literal (.number (.int i)))) (.literal (.number (.int i))) := by
  have spells : Spells limits inner _ _ (.literal (.number (.int i))) :=
    spells_number (exists_toDigits_eq_cons i.toInt.natAbs) (reads_numeral_natAbs i)
  simp only [decide_eq_true_eq] at spells
  exact spells

/-- Data that has a spelling. -/
theorem spells_literal {value : Json} (plain : Expr.isPlain value = true) :
    Spells limits inner (Expr.level (.literal value)) (Expr.text (.literal value))
      (.literal value) := by
  cases value with
  | null => exact spells_name "null" (by decide)
  | bool value =>
    cases value with
    | true => exact spells_name "true" (by decide)
    | false => exact spells_name "false" (by decide)
  | number value =>
    cases value with
    | int i => exact spells_int i
    | _ => simp only [Expr.isPlain, Bool.false_eq_true] at plain
  | string text =>
    refine spells_primary ⟨'\'', _, rfl, by decide⟩ ?_ fun rest _ =>
      ⟨rest, rfl, reads_primary_quoted text rest⟩
    rintro c ⟨⟩
    decide
  | _ => simp only [Expr.isPlain, Bool.false_eq_true] at plain

/-- A list. -/
theorem spells_list {items : List Expr}
    (each : ∀ item ∈ items, SpellsWhole inner.expression item.text item)
    (low : limits.admits (.list items) = true) :
    Spells limits inner 8 (Expr.text (.list items)) (.list items) := by
  refine spells_primary ⟨'\x7b', _, rfl, by decide⟩ ?_ fun rest _ => ⟨rest, rfl, ?_⟩
  · rintro c ⟨⟩
    decide
  · have read := reads_items_separated '\x7d' (by decide) (by decide) each rest
    simp only [Expr.text, List.cons_append, List.append_assoc, List.nil_append]
    exact reads_primary_list read low

/-- A static member, with or without arguments. -/
theorem spells_static {owner name : String} {arguments : List Expr}
    (validOwner : isName owner = true) (validName : isName name = true)
    (each : ∀ argument ∈ arguments, SpellsWhole inner.expression argument.text argument)
    (low : limits.admits (.static owner name arguments) = true) :
    Spells limits inner 8 (Expr.text (.static owner name arguments))
      (.static owner name arguments) := by
  refine spells_primary ⟨'@', _, rfl, by decide⟩ ?_ fun rest apart => ?_
  · rintro c ⟨⟩
    decide
  · simp only [Expr.text, List.cons_append, List.append_assoc]
    cases arguments with
    | nil =>
      refine ⟨skipBlanks rest, skipBlanks_skipBlanks rest, reads_primary_static ?_⟩
      exact reads_static validOwner validName apart.name apart.call low
    | cons argument arguments =>
      have read := reads_items_separated ')' (by decide) (by decide) each rest
      refine ⟨rest, rfl, reads_primary_static ?_⟩
      simp only [Expr.texts, Expr.staticArguments, List.cons_append, List.append_assoc,
        List.nil_append] at read ⊢
      exact reads_static_call validOwner validName read low

/-! ## What follows an operand -/

/-- A property. -/
theorem spells_property {text : List Char} {target : Expr} {name : String}
    (spells : Spells limits inner 8 text target) (valid : isName name = true)
    (low : limits.admits (.property target name) = true) :
    Spells limits inner 8 (text ++ '.' :: name.toList) (.property target name) where
  opens := spells.opens.append _
  reads := by
    intro before rest after result place apart _ more
    rw [List.append_assoc, List.cons_append] at place
    have found : FindsSuffix inner _ _ _ := findsSuffix_property valid apart.name apart.call
    refine spells.reads place (apart_member valid) (ends_beyond _) ?_
    rw [skipBlanks_cons_of_not (by decide)]
    refine continues_suffixes_step found low ?_
    rw [skipBlanks_skipBlanks]
    exact more

/-- A method call. -/
theorem spells_method {text : List Char} {target : Expr} {name : String} {arguments : List Expr}
    (spells : Spells limits inner 8 text target) (valid : isName name = true)
    (each : ∀ argument ∈ arguments, SpellsWhole inner.expression argument.text argument)
    (low : limits.admits (.method target name arguments) = true) :
    Spells limits inner 8
      (text ++ '.' :: name.toList ++ '(' :: Expr.separated (Expr.texts arguments) ++ [')'])
      (.method target name arguments) where
  opens := ((spells.opens.append _).append _).append _
  reads := by
    intro before rest after result place apart _ more
    simp only [List.append_assoc, List.cons_append, List.nil_append] at place
    have read := reads_items_separated ')' (by decide) (by decide) each rest
    refine spells.reads place (apart_member valid) (ends_beyond _) ?_
    rw [skipBlanks_cons_of_not (by decide)]
    exact continues_suffixes_step (findsSuffix_method valid read) low more

/-- An index. -/
theorem spells_index {text : List Char} {target position : Expr}
    (spells : Spells limits inner 8 text target)
    (whole : SpellsWhole inner.expression position.text position)
    (low : limits.admits (.index target position) = true) :
    Spells limits inner 8 (text ++ '[' :: position.text ++ [']']) (.index target position) where
  opens := (spells.opens.append _).append _
  reads := by
    intro before rest after result place apart _ more
    simp only [List.append_assoc, List.cons_append, List.nil_append] at place
    have mark : ']' ∈ endMarks := by decide
    have read := whole.reads_upTo (whole.opens.append (']' :: rest)).skipBlanks_eq mark
    have found := findsSuffix_index read (skipBlanks_endMark mark rest)
    refine spells.reads place ?_ (ends_beyond _) ?_
    · exact apart_mark (by decide) (by decide) (by decide) (by decide)
    · rw [skipBlanks_cons_of_not (by decide)]
      exact continues_suffixes_step found low more

/-! ## Operators -/

section

variable {depth : Nat} {text : List Char} {operand : Expr}

/-- A minus sign before an operand that does not start with a digit. -/
theorem spells_neg (spells : Spells limits (within limits depth) 7 text operand)
    (plain : startsWithDigit text = false) (low : limits.admits (.neg operand) = true) :
    Spells limits (within limits (depth + 1)) 7 ('-' :: text) (.neg operand) := by
  refine spells_signed ⟨'-', _, rfl, by decide⟩ fun rest apart ends => ?_
  have place := (spells.opens.append rest).skipBlanks_eq
  have unsigned : startsWithDigit (text ++ rest) = false := by
    obtain ⟨c, tail, rfl, -⟩ := spells.opens
    exact plain
  have read := spells.closes (by decide) place apart ends
  rw [← place] at unsigned read
  rw [readerAt_eq_operand (by decide)] at read
  exact reads_signed_neg read unsigned low

/-- A denial. -/
theorem spells_not (spells : Spells limits (within limits depth) 7 text operand)
    (low : limits.admits (.not operand) = true) :
    Spells limits (within limits (depth + 1)) 7 ('!' :: text) (.not operand) := by
  refine spells_signed ⟨'!', _, rfl, by decide⟩ fun rest apart ends => ?_
  have opens := spells.opens.append rest
  have read := spells.closes (by decide) opens.skipBlanks_eq apart ends
  rw [readerAt_eq_operand (by decide)] at read
  exact reads_signed_not read opens.head_ne_equals low

end

/-- An operator between two operands, of which the right one binds more strongly. -/
theorem spells_binary {operator : Operator} {left right : Expr} {leftText rightText : List Char}
    (spellsLeft : Spells limits inner operator.level leftText left)
    (spellsRight : Spells limits inner (operator.level + 1) rightText right)
    (low : limits.admits (.binary operator left right) = true) :
    Spells limits inner operator.level
      (leftText ++ ' ' :: operator.sign.toList ++ ' ' :: rightText)
      (.binary operator left right) where
  opens := (spellsLeft.opens.append _).append _
  reads := by
    intro before rest after result place apart ends more
    simp only [List.append_assoc, List.cons_append] at place
    have last := operator.level_le
    have sign := skipBlanks_sign operator (' ' :: (rightText ++ rest))
    have read := spellsRight.closes (by omega)
      (spellsRight.opens.append rest).skipBlanks_cons apart ends
    refine spellsLeft.reads place ?_ ?_ ?_
    · refine apart_blank ?_
      rw [sign]
      exact head_sign_ne_bracket operator _
    · rw [skipBlanks_cons_of_isBlank (by decide), sign]
      exact ends_sign operator _
    · rw [skipBlanks_cons_of_isBlank (by decide), sign]
      simp only [loopAt, if_pos (Nat.le_succ_of_le last)] at more ⊢
      refine continues_chain_step (findsOperator_sign operator _) read low ?_
      rw [skipBlanks_skipBlanks]
      exact more

/-- A choice between two expressions. -/
theorem spells_ternary {depth : Nat} {condition yes no : Expr} {text : List Char}
    (spells : Spells limits (within limits (depth + 1)) 1 text condition)
    (wholeYes : SpellsWhole (expression limits (within limits depth)) yes.text yes)
    (wholeNo : SpellsWhole (expression limits (within limits depth)) no.text no)
    (low : limits.admits (.ternary condition yes no) = true) :
    SpellsWhole (expression limits (within limits (depth + 1)))
      (text ++ ' ' :: '?' :: ' ' :: yes.text ++ ' ' :: ':' :: ' ' :: no.text)
      (.ternary condition yes no) where
  opens := (spells.opens.append _).append _
  reads := by
    intro before rest place apart ends
    simp only [List.append_assoc, List.cons_append] at place
    have question := skipBlanks_blank_mark (c := '?') (by decide)
    have colon := skipBlanks_blank_mark (c := ':') (by decide)
    have readCondition := spells.closes (by decide) place
      (apart_blank_mark (by decide) (by decide))
      (by rw [question]; exact ends_question (Nat.le_refl 1))
    have placeYes :=
      (wholeYes.opens.append (' ' :: ':' :: ' ' :: (no.text ++ rest))).skipBlanks_cons
    have readYes := wholeYes.reads placeYes
      (apart_blank_mark (by decide) (by decide))
      (by rw [colon]; exact ends_of_head 0 (by rintro c ⟨⟩; decide))
    have readNo := wholeNo.reads (wholeNo.opens.append _).skipBlanks_cons apart ends
    refine reads_expression_choice readCondition ?_ readYes ?_ readNo low
    · rw [skipBlanks_skipBlanks, question]
    · rw [skipBlanks_skipBlanks, colon]

/-! ## All expressions -/

/-- The spelling of an expression reads as it, both as a whole and in the places that fit it. -/
structure Printed (limits : Limits) (depth : Nat) (tree : Expr) : Prop where
  whole : SpellsWhole (expression limits (within limits depth)) tree.text tree
  here : 1 ≤ tree.level → Spells limits (within limits depth) tree.level tree.text tree

/-- The spelling of an expression reads as it wherever there is nesting left for twice its height. -/
def Prints (limits : Limits) (tree : Expr) : Prop :=
  ∀ depth, 2 * tree.height ≤ depth + 2 → Printed limits depth tree

variable {depth : Nat} {tree : Expr}

/-- What fits its own place fits the place of a whole expression too, if it is no choice. -/
theorem Printed.of_spells (operation : ∀ condition yes no, tree ≠ .ternary condition yes no)
    (spells : Spells limits (within limits depth) tree.level tree.text tree) :
    Printed limits depth tree where
  whole := (spells.loosenTo (Nat.le_refl 1) (Expr.one_le_level operation) tree.level_le).whole
  here _ := spells

/-- An expression between marks that close it off. -/
theorem Prints.inside (prints : Prints limits tree) (room : 2 * tree.height ≤ depth + 1) :
    SpellsWhole (within limits depth).expression tree.text tree := by
  have positive := tree.height_pos
  obtain ⟨d, rfl⟩ := Nat.exists_eq_add_of_le' (by omega : 1 ≤ depth)
  exact (prints d room).whole

/-- An expression in brackets, unless it fits its place without them. -/
theorem Prints.bracketed {level : Nat} {needed : Bool} (prints : Prints limits tree)
    (room : 2 * tree.height ≤ depth + 1) (first : 1 ≤ level) (last : level ≤ 8)
    (free : needed = false → level ≤ tree.level) :
    Spells limits (within limits depth) level (Expr.bracketed needed tree.text) tree := by
  cases needed with
  | true => exact (spells_group (prints.inside room)).loosenTo first last (Nat.le_refl 8)
  | false =>
    have here := (prints depth (Nat.le_succ_of_le room)).here (Nat.le_trans first (free rfl))
    exact here.loosenTo first (free rfl) tree.level_le

/-- An operand in brackets if it binds more loosely than its place asks for. -/
theorem Prints.operand {level : Nat} (prints : Prints limits tree)
    (room : 2 * tree.height ≤ depth + 1) (first : 1 ≤ level) (last : level ≤ 8) :
    Spells limits (within limits depth) level (Expr.bracketed (tree.level < level) tree.text) tree :=
  prints.bracketed room first last fun tight => Nat.le_of_not_lt (of_decide_eq_false tight)

theorem startsWithDigit_bracketed {loose : Bool} {text : List Char} :
    startsWithDigit (Expr.bracketed (loose || startsWithDigit text) text) = false := by
  cases digit : startsWithDigit text <;> cases loose <;> first | exact digit | rfl

section

variable {name : String} {target : Expr} {trees : List Expr}

theorem Prints.inside_each (each : ∀ item ∈ trees, Prints limits item)
    (room : 2 * Expr.tallest trees ≤ depth + 1) :
    ∀ item ∈ trees, SpellsWhole (within limits depth).expression item.text item := by
  intro item member
  have height := Expr.height_le_tallest member
  exact (each item member).inside (by omega)

theorem prints_literal {value : Json} (plain : Expr.isPlain value = true) :
    Prints limits (.literal value) :=
  fun _ _ => .of_spells nofun (spells_literal plain)

theorem prints_var (valid : isName name = true) (free : Expr.isReserved name = false) :
    Prints limits (.var name) := by
  intro depth _
  have spells : Spells limits (within limits depth) 8 name.toList (named name) :=
    spells_name name valid
  rw [named_eq_var free] at spells
  exact .of_spells nofun spells

theorem prints_list (each : ∀ item ∈ trees, Prints limits item)
    (low : limits.admits (.list trees) = true) : Prints limits (.list trees) := by
  intro depth room
  simp only [Expr.height] at room
  exact .of_spells nofun (spells_list (Prints.inside_each each (by omega)) low)

theorem prints_static {owner : String} (validOwner : isName owner = true)
    (validName : isName name = true) (each : ∀ argument ∈ trees, Prints limits argument)
    (low : limits.admits (.static owner name trees) = true) :
    Prints limits (.static owner name trees) := by
  intro depth room
  simp only [Expr.height] at room
  exact .of_spells nofun
    (spells_static validOwner validName (Prints.inside_each each (by omega)) low)

theorem prints_property (prints : Prints limits target) (valid : isName name = true)
    (low : limits.admits (.property target name) = true) :
    Prints limits (.property target name) := by
  intro depth room
  simp only [Expr.height] at room
  refine .of_spells nofun (spells_property ?_ valid low)
  exact prints.operand (by omega) (by decide) (by decide)

theorem prints_method (prints : Prints limits target) (valid : isName name = true)
    (each : ∀ argument ∈ trees, Prints limits argument)
    (low : limits.admits (.method target name trees) = true) :
    Prints limits (.method target name trees) := by
  intro depth room
  simp only [Expr.height] at room
  refine .of_spells nofun (spells_method ?_ valid (Prints.inside_each each (by omega)) low)
  exact prints.operand (by omega) (by decide) (by decide)

theorem prints_index {position : Expr} (prints : Prints limits target)
    (printsPosition : Prints limits position)
    (low : limits.admits (.index target position) = true) :
    Prints limits (.index target position) := by
  intro depth room
  simp only [Expr.height] at room
  refine .of_spells nofun (spells_index ?_ (printsPosition.inside (by omega)) low)
  exact prints.operand (by omega) (by decide) (by decide)

end

/-- A sign leaves one level less to its operand, which may need another one for brackets. -/
theorem prints_neg {operand : Expr} (prints : Prints limits operand)
    (low : limits.admits (.neg operand) = true) : Prints limits (.neg operand) := by
  intro depth room
  simp only [Expr.height] at room
  have positive := operand.height_pos
  obtain ⟨inside, rfl⟩ := Nat.exists_eq_add_of_le' (by omega : 1 ≤ depth)
  refine .of_spells nofun (spells_neg ?_ startsWithDigit_bracketed low)
  exact prints.bracketed (by omega) (by decide) (by decide) (by simp +contextual)

theorem prints_not {operand : Expr} (prints : Prints limits operand)
    (low : limits.admits (.not operand) = true) : Prints limits (.not operand) := by
  intro depth room
  simp only [Expr.height] at room
  have positive := operand.height_pos
  obtain ⟨inside, rfl⟩ := Nat.exists_eq_add_of_le' (by omega : 1 ≤ depth)
  refine .of_spells nofun (spells_not ?_ low)
  exact prints.operand (by omega) (by decide) (by decide)

theorem prints_binary {operator : Operator} {left right : Expr} (printsLeft : Prints limits left)
    (printsRight : Prints limits right)
    (low : limits.admits (.binary operator left right) = true) :
    Prints limits (.binary operator left right) := by
  intro depth room
  simp only [Expr.height] at room
  have first := operator.one_le_level
  have last := operator.level_le
  refine .of_spells nofun (spells_binary ?_ ?_ low)
  · exact printsLeft.operand (by omega) first (by omega)
  · exact printsRight.bracketed (by omega) (by omega) (by omega)
      fun tight => Nat.lt_of_not_le (of_decide_eq_false tight)

theorem prints_ternary {condition yes no : Expr} (printsCondition : Prints limits condition)
    (printsYes : Prints limits yes) (printsNo : Prints limits no)
    (low : limits.admits (.ternary condition yes no) = true) :
    Prints limits (.ternary condition yes no) := by
  intro depth room
  simp only [Expr.height] at room
  have positive := condition.height_pos
  obtain ⟨inside, rfl⟩ := Nat.exists_eq_add_of_le' (by omega : 1 ≤ depth)
  have wholeYes := (printsYes inside (by omega)).whole
  have wholeNo := (printsNo inside (by omega)).whole
  refine ⟨spells_ternary ?_ wholeYes wholeNo low, nofun⟩
  exact printsCondition.operand (by omega) (by decide) (by decide)

/-- Every expression that can be spelled prints, as long as trees of its height are admitted. -/
theorem prints_of_isSpellable {height : Nat}
    (admits : ∀ tree : Expr, tree.height ≤ height → limits.admits tree = true)
    (spellable : tree.isSpellable = true) (low : tree.height ≤ height) : Prints limits tree := by
  induction tree with
  | literal value => exact prints_literal spellable
  | var name =>
    simp only [Expr.isSpellable, Bool.and_eq_true, Bool.not_eq_true'] at spellable
    exact prints_var spellable.1 spellable.2
  | list items each =>
    have admitted := admits _ low
    simp only [Expr.isSpellable, Expr.eachSpellable_iff] at spellable
    simp only [Expr.height] at low
    refine prints_list (fun item member => ?_) admitted
    have within := Expr.height_le_tallest member
    exact each item member (spellable item member) (by omega)
  | static owner name arguments each =>
    have admitted := admits _ low
    simp only [Expr.isSpellable, Bool.and_eq_true, Expr.eachSpellable_iff] at spellable
    simp only [Expr.height] at low
    refine prints_static spellable.1.1 spellable.1.2 (fun argument member => ?_) admitted
    have within := Expr.height_le_tallest member
    exact each argument member (spellable.2 argument member) (by omega)
  | property target name ih =>
    have admitted := admits _ low
    simp only [Expr.isSpellable, Bool.and_eq_true] at spellable
    simp only [Expr.height] at low
    exact prints_property (ih spellable.1 (by omega)) spellable.2 admitted
  | method target name arguments ih each =>
    have admitted := admits _ low
    simp only [Expr.isSpellable, Bool.and_eq_true, Expr.eachSpellable_iff] at spellable
    simp only [Expr.height] at low
    refine prints_method (ih spellable.1.1 (by omega)) spellable.1.2 (fun argument member => ?_)
      admitted
    have within := Expr.height_le_tallest member
    exact each argument member (spellable.2 argument member) (by omega)
  | index target position ih ihPosition =>
    have admitted := admits _ low
    simp only [Expr.isSpellable, Bool.and_eq_true] at spellable
    simp only [Expr.height] at low
    exact prints_index (ih spellable.1 (by omega)) (ihPosition spellable.2 (by omega)) admitted
  | neg operand ih =>
    have admitted := admits _ low
    simp only [Expr.height] at low
    exact prints_neg (ih spellable (by omega)) admitted
  | not operand ih =>
    have admitted := admits _ low
    simp only [Expr.height] at low
    exact prints_not (ih spellable (by omega)) admitted
  | binary operator left right ihLeft ihRight =>
    have admitted := admits _ low
    simp only [Expr.isSpellable, Bool.and_eq_true] at spellable
    simp only [Expr.height] at low
    exact prints_binary (ihLeft spellable.1 (by omega)) (ihRight spellable.2 (by omega)) admitted
  | ternary condition yes no ihCondition ihYes ihNo =>
    have admitted := admits _ low
    simp only [Expr.isSpellable, Bool.and_eq_true] at spellable
    simp only [Expr.height] at low
    exact prints_ternary (ihCondition spellable.1.1 (by omega)) (ihYes spellable.1.2 (by omega))
      (ihNo spellable.2 (by omega)) admitted

/-- A template is read as the expression that its text spells as a whole. -/
theorem parse_of_spellsWhole {template : String} {tree : Expr}
    (spells : SpellsWhole (expression .standard (within .standard 127)) template.toList tree) :
    parse template = .ok tree := by
  have place : skipBlanks template.toList = template.toList ++ [] := by
    rw [List.append_nil, spells.opens.skipBlanks_eq]
  have read := spells.reads place apart_nil (ends_nil 0)
  have whole : wholeText .standard template.toList = .ok tree := wholeText_of_reads read rfl
  rw [parse, parseWithin, whole]
  rfl

/-- A template with the spelling of an expression is read as the expression, if that is at most half as
tall as a template may be. -/
theorem parse_of_text {template : String} {tree : Expr} (spelled : template.toList = tree.text)
    (spellable : tree.isSpellable = true) (low : tree.height ≤ 64) : parse template = .ok tree := by
  have admits : ∀ t : Expr, t.height ≤ 64 → Limits.standard.admits t = true :=
    fun t lowTree => decide_eq_true (Nat.le_trans lowTree (by decide))
  have printed := prints_of_isSpellable admits spellable low 127 (by omega)
  refine parse_of_spellsWhole ?_
  rw [spelled]
  exact printed.whole

/-- The template that spells an expression reads back as it, if the expression is at most half as
tall as a template may be. -/
theorem parse_print {tree : Expr} (spellable : tree.isSpellable = true) (low : tree.height ≤ 64) :
    parse tree.print = .ok tree :=
  parse_of_text String.toList_ofList spellable low

/-- A tree in which signs, numerals, quotes and operators of one group stand where only brackets and
escapes tell them apart. -/
def tangled : Expr :=
  .ternary
    (.ternary (.var "a") (.literal .null) (.var "b"))
    (.binary (.arith .sub)
      (.neg (.property (.literal (.number (.int 5))) "e3"))
      (.binary (.arith .sub) (.literal (.string "it's \\")) (.literal (.number (.int (-1))))))
    (.not (.index (.neg (.neg (.literal (.number (.int (-2)))))) (.list [.static "K" "m" []])))

theorem parse_print_tangled : tangled.isSpellable = true ∧ tangled.height ≤ 64 ∧
    tangled.print =
      "(a ? null : b) ? -(5.e3) - ('it\\'s \\\\' - -1) : !(---2)[\x7b@K@m\x7d]" ∧
    parse tangled.print = .ok tangled :=
  ⟨by decide, by decide, by decide +kernel, parse_print (by decide) (by decide)⟩

end Scriptlet.Template
