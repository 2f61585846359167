import Mathlib.Data.Bool.AllAny
import Mathlib.Data.Nat.Init
import Mathlib.Tactic.SplitIfs
import Scriptlet.Proofs.Template.Readers
import Scriptlet.Proofs.Template.Spelling

/-!
# Texts in their places

A spelling cannot be read on its own: what follows decides where the reader of each group of
operators stops. `Apart` says of what follows that it does not merge with the last lexeme before it,
and `Ends` that it carries on no expression of a level.

`Spells` says of a text that it reads as a tree in every place that its level fits: wherever the loop
of that level would arrive from the tree, the reader of that level arrives from the text. A text that
fits a level fits every looser one (`Spells.loosenTo`), and as a whole expression what fits the
loosest level of operators (`Spells.whole`).
-/

set_option autoImplicit false

namespace Scriptlet.Template

open Text

/-! ## Places -/

/-- What follows a spelling does not merge with its last lexeme: it does not carry a name or a
numeral on, and no argument list starts there. -/
structure Apart (rest : List Char) : Prop where
  name : Stops isNamePart rest
  fraction : ∀ c tail, rest = '.' :: c :: tail → isDigit c = false
  call : ∀ c ∈ (skipBlanks rest).head?, c ≠ '('

/-- The operators of a level; signs and what follows an operand are no operators. -/
def operatorsAt : Nat → List Operator
  | 0 => []
  | k + 1 => precedence.getD k []

/-- What follows, up to blanks, carries on no expression of the level or a higher one. -/
structure Ends (level : Nat) (next : List Char) : Prop where
  suffix : level ≤ 8 → ∀ c ∈ next.head?, c ≠ '.' ∧ c ≠ '['
  operators : ∀ k, level ≤ k → operator? (operatorsAt k) next = none
  choice : level = 0 → ∀ c ∈ next.head?, c ≠ '?'

variable {limits : Limits} {inner : Inner}

/-- The reader of expressions of a level and all higher ones. -/
def readerAt (limits : Limits) (inner : Inner) : Nat → Reader Expr
  | 0 => expression limits inner
  | k + 1 => (precedence.drop k).foldr (group limits) (operand limits inner)

/-- The loop by which an expression of a level goes on. -/
def loopAt (limits : Limits) (inner : Inner) (level : Nat) {origin : List Char} :
    Reading Expr origin → Except Failure (Reading Expr origin) :=
  if level ≤ 7 then chain limits (operatorsAt level) (readerAt limits inner (level + 1))
  else suffixes limits inner

theorem readerAt_eq_group {level : Nat} (first : 1 ≤ level) (last : level ≤ 6) :
    readerAt limits inner level =
      group limits (operatorsAt level) (readerAt limits inner (level + 1)) := by
  obtain _ | _ | _ | _ | _ | _ | _ | level := level
  · omega
  all_goals first | rfl | omega

theorem readerAt_eq_operand {level : Nat} (first : 7 ≤ level) :
    readerAt limits inner level = operand limits inner := by
  obtain ⟨k, rfl⟩ := Nat.exists_eq_add_of_le' first
  rw [readerAt, List.drop_of_length_le (by simp [precedence])]
  rfl

theorem operatorsAt_eq_nil {level : Nat} (first : 7 ≤ level) : operatorsAt level = [] := by
  obtain ⟨k, rfl⟩ := Nat.exists_eq_add_of_le' first
  rfl

/-! ## What may follow a spelling -/

/-- What stays apart carries no run of digits on. -/
theorem Apart.endsDigits {rest : List Char} (apart : Apart rest) : EndsDigits rest where
  digits := by
    intro c head
    cases digit : isDigit c with
    | false => rfl
    | true =>
      have part := isNamePart_of_isDigit digit
      rw [apart.name c head] at part
      cases part
  fraction := apart.fraction
  exponent := by
    intro c head
    have other := apart.name c head
    have lower : c ≠ 'e' := by rintro rfl; revert other; decide
    have upper : c ≠ 'E' := by rintro rfl; revert other; decide
    simp only [lower, upper, decide_false, Bool.or_self]

theorem apart_nil : Apart [] where
  name := by intro c h; cases h
  fraction := by intro c tail h; cases h
  call := by intro c h; cases h

/-- A mark that is no bracket and no dot stays apart from what is before it. -/
theorem apart_mark {c : Char} {tail : List Char} (name : isNamePart c = false)
    (plain : isBlank c = false) (dot : c ≠ '.') (call : c ≠ '(') : Apart (c :: tail) where
  name := stops_isNamePart_cons name tail
  fraction := by
    intro d rest same
    exact absurd (List.cons.inj same).1 dot
  call := by
    rw [skipBlanks_cons_of_not plain]
    rintro d ⟨⟩
    exact call

/-- A blank keeps anything but an argument list apart. -/
theorem apart_blank {tail : List Char} (call : ∀ c ∈ (skipBlanks tail).head?, c ≠ '(') :
    Apart (' ' :: tail) where
  name := stops_isNamePart_cons (by decide) _
  fraction := by
    intro d rest same
    exact absurd (List.cons.inj same).1 (by decide)
  call := by rwa [skipBlanks_cons_of_isBlank (by decide)]

theorem skipBlanks_blank_mark {c : Char} (plain : isBlank c = false) (tail : List Char) :
    skipBlanks (' ' :: c :: tail) = c :: tail := by
  rw [skipBlanks_cons_of_isBlank (by decide), skipBlanks_cons_of_not plain]

/-- So it does before a mark that opens no argument list. -/
theorem apart_blank_mark {c : Char} {tail : List Char} (plain : isBlank c = false)
    (call : c ≠ '(') : Apart (' ' :: c :: tail) := by
  refine apart_blank ?_
  rw [skipBlanks_cons_of_not plain]
  rintro d ⟨⟩
  exact call

/-- A dot before a name begins no fraction. -/
theorem apart_member {member : String} {rest : List Char} (valid : isName member = true) :
    Apart ('.' :: (member.toList ++ rest)) where
  name := stops_isNamePart_cons (by decide) _
  fraction := by
    intro d tail same
    obtain ⟨c, parts, chars, start, -⟩ := isName_iff.mp valid
    rw [chars, List.cons_append] at same
    obtain ⟨rfl, -⟩ := List.cons.inj (List.cons.inj same).2
    cases digit : isDigit c with
    | false => rfl
    | true => rw [isNameStart_eq_false_of_isDigit digit] at start; cases start
  call := by
    rw [skipBlanks_cons_of_not (by decide)]
    rintro d ⟨⟩
    decide

/-- The characters that signs of operators start with. -/
def signStarts : List Char :=
  ['|', '&', '=', '!', '<', '>', '+', '-', '*', '/', '%']

/-- No sign starts like a blank, a bracket or something that follows an operand. -/
theorem plain_of_mem_signStarts :
    ∀ c ∈ signStarts, isBlank c = false ∧ c ≠ '(' ∧ c ≠ '.' ∧ c ≠ '[' :=
  List.all_iff_forall_prop.mp (by decide)

theorem sign_length_pos (operator : Operator) : 0 < operator.sign.toList.length :=
  Operator.forall_of_all (by decide) operator

theorem head_sign_mem (operator : Operator) :
    ∃ c tail, operator.sign.toList = c :: tail ∧ c ∈ signStarts := by
  obtain _ | _ | comparison | operation := operator
  · exact ⟨'|', ['|'], rfl, by decide⟩
  · exact ⟨'&', ['&'], rfl, by decide⟩
  · cases comparison <;> exact ⟨_, _, rfl, by decide⟩
  · cases operation <;> exact ⟨_, _, rfl, by decide⟩

theorem skipBlanks_sign (operator : Operator) (tail : List Char) :
    skipBlanks (operator.sign.toList ++ tail) = operator.sign.toList ++ tail := by
  obtain ⟨c, signs, sign, start⟩ := head_sign_mem operator
  rw [sign]
  exact skipBlanks_cons_of_not (plain_of_mem_signStarts c start).1

theorem head_sign_ne_bracket (operator : Operator) (tail : List Char) :
    ∀ c ∈ (operator.sign.toList ++ tail).head?, c ≠ '(' := by
  obtain ⟨c, signs, sign, start⟩ := head_sign_mem operator
  rw [sign]
  rintro d ⟨⟩
  exact (plain_of_mem_signStarts c start).2.1

theorem operator?_eq_none {text : List Char} (plain : ∀ c ∈ text.head?, c ∉ signStarts)
    (operators : List Operator) : operator? operators text = none := by
  refine List.findSome?_eq_none_iff.mpr fun operator _ => ?_
  obtain ⟨c, tail, sign, start⟩ := head_sign_mem operator
  have absent : after? operator.sign.toList text = none := by
    rw [sign]
    cases text with
    | nil => rfl
    | cons d rest =>
      have differs : ¬c = d := by rintro rfl; exact plain c rfl start
      rw [after?, if_neg differs]
  unfold sign?
  split
  · rename_i rest found
    rw [absent] at found
    cases found
  · rfl

/-- A text that starts with no sign and nothing that follows an operand ends every expression. -/
theorem ends_of_head {text : List Char} (level : Nat)
    (plain : ∀ c ∈ text.head?, c ∉ '.' :: '[' :: '?' :: signStarts) : Ends level text where
  suffix := by
    intro _ c head
    have other := plain c head
    simp only [List.mem_cons, not_or] at other
    exact ⟨other.1, other.2.1⟩
  operators := by
    intro k _
    refine operator?_eq_none (fun c head start => plain c head ?_) _
    exact List.mem_cons_of_mem _ (List.mem_cons_of_mem _ (List.mem_cons_of_mem _ start))
  choice := by
    rintro _ c head rfl
    exact plain _ head (by decide)

theorem ends_nil (level : Nat) : Ends level [] :=
  ends_of_head level (by rintro c ⟨⟩)

/-- The marks that end every expression before them. -/
def endMarks : List Char :=
  [')', ']', '\x7d', ',']

/-- The marks are no blanks and part of nothing else in an expression. -/
theorem plain_of_mem_endMarks :
    ∀ c ∈ endMarks, isBlank c = false ∧ isNamePart c = false ∧ c ≠ '(' ∧
      c ∉ '.' :: '[' :: '?' :: signStarts :=
  List.all_iff_forall_prop.mp (by decide)

theorem skipBlanks_endMark {c : Char} (mark : c ∈ endMarks) (tail : List Char) :
    skipBlanks (c :: tail) = c :: tail :=
  skipBlanks_cons_of_not (plain_of_mem_endMarks c mark).1

theorem apart_endMark {c : Char} (mark : c ∈ endMarks) (tail : List Char) : Apart (c :: tail) := by
  obtain ⟨blank, name, call, other⟩ := plain_of_mem_endMarks c mark
  refine apart_mark name blank ?_ call
  rintro rfl
  exact other List.mem_cons_self

theorem ends_endMark {c : Char} (mark : c ∈ endMarks) (level : Nat) (tail : List Char) :
    Ends level (c :: tail) := by
  refine ends_of_head level ?_
  rintro d ⟨⟩
  exact (plain_of_mem_endMarks c mark).2.2.2

/-- A question mark ends all operations. -/
theorem ends_question {level : Nat} {tail : List Char} (first : 1 ≤ level) :
    Ends level ('?' :: tail) where
  suffix := by
    rintro _ c ⟨⟩
    decide
  operators := fun k _ => operator?_eq_none (by rintro c ⟨⟩; decide) _
  choice := by omega

/-- An operator is found by the loop of its level. -/
theorem findsOperator_sign (operator : Operator) (tail : List Char) :
    FindsOperator (operatorsAt operator.level) (operator.sign.toList ++ ' ' :: tail) operator
      (' ' :: tail) := by
  obtain _ | _ | comparison | operation := operator
  · exact ⟨_, rfl⟩
  · exact ⟨_, rfl⟩
  · cases comparison <;> exact ⟨_, rfl⟩
  · cases operation <;> exact ⟨_, rfl⟩

/-- An operator ends what binds more strongly. -/
theorem ends_sign (operator : Operator) (tail : List Char) :
    Ends (operator.level + 1) (operator.sign.toList ++ ' ' :: tail) where
  suffix := by
    intro _ c head
    obtain ⟨d, signs, sign, start⟩ := head_sign_mem operator
    rw [sign] at head
    cases head
    exact (plain_of_mem_signStarts c start).2.2
  operators := by
    intro k above
    -- six groups: in the weaker ones `above` is absurd, in the others every sign is another one
    obtain _ | _ | _ | _ | _ | _ | _ | k := k
    all_goals
      obtain _ | _ | comparison | operation := operator
      all_goals try cases comparison
      all_goals try cases operation
      all_goals first | rfl | exact absurd above (by decide)
  choice := by omega

/-- Behind an operand that more may be attached to, anything ends what binds more strongly. -/
theorem ends_beyond (next : List Char) : Ends 9 next where
  suffix := by omega
  operators := by
    intro k above
    rw [operatorsAt_eq_nil (by omega)]
    rfl
  choice := by omega

/-- What ends an operand also ends one with a sign before it. -/
theorem Ends.signed {next : List Char} (ends : Ends 8 next) : Ends 7 next where
  suffix _ := ends.suffix (by decide)
  operators k above := by rw [operatorsAt_eq_nil above]; rfl
  choice := by omega

theorem Ends.mono {low high : Nat} {next : List Char} (ends : Ends low next) (le : low ≤ high) :
    Ends high next where
  suffix h := ends.suffix (Nat.le_trans le h)
  operators k h := ends.operators k (Nat.le_trans le h)
  choice h := ends.choice (by omega)

/-! ## Texts that read as a tree in their place -/

/-- A spelling starts with a character that is no blank, ends no expression and does not make a sign
before it another sign. -/
def Opens (text : List Char) : Prop :=
  ∃ c tail, text = c :: tail ∧ isBlank c = false ∧ c ≠ '=' ∧ c ∉ endMarks

/-- The text reads as the tree wherever an expression of the level may stand. -/
structure Spells (limits : Limits) (inner : Inner) (level : Nat) (text : List Char) (tree : Expr) :
    Prop where
  opens : Opens text
  reads : ∀ {before rest after : List Char} {result : Expr}, skipBlanks before = text ++ rest →
    Apart rest → Ends (level + 1) (skipBlanks rest) →
    Continues (loopAt limits inner level) tree (skipBlanks rest) result after →
    Reads (readerAt limits inner level) before result after

/-- The text reads as the tree wherever a whole expression may stand. -/
structure SpellsWhole (reader : Reader Expr) (text : List Char) (tree : Expr) : Prop where
  opens : Opens text
  reads : ∀ {before rest : List Char}, skipBlanks before = text ++ rest → Apart rest →
    Ends 0 (skipBlanks rest) → Reads reader before tree (skipBlanks rest)

namespace Opens

variable {text : List Char}

theorem append (opens : Opens text) (rest : List Char) : Opens (text ++ rest) := by
  obtain ⟨c, tail, rfl, plain⟩ := opens
  exact ⟨c, tail ++ rest, rfl, plain⟩

theorem skipBlanks_eq (opens : Opens text) : skipBlanks text = text := by
  obtain ⟨c, tail, rfl, plain, -⟩ := opens
  exact skipBlanks_cons_of_not plain

/-- A blank before a spelling does not matter. -/
theorem skipBlanks_cons (opens : Opens text) : skipBlanks (' ' :: text) = text := by
  rw [skipBlanks_cons_of_isBlank (by decide), opens.skipBlanks_eq]

theorem of_isNamePart {c : Char} {tail : List Char} (part : isNamePart c = true) :
    Opens (c :: tail) := by
  refine ⟨c, tail, rfl, isBlank_eq_false_of_isNamePart part, ?_, ?_⟩
  · rintro rfl
    revert part
    decide
  · intro member
    rw [(plain_of_mem_endMarks c member).2.1] at part
    cases part

theorem head_ne_equals (opens : Opens text) : ∀ c ∈ text.head?, c ≠ '=' := by
  obtain ⟨c, tail, rfl, -, equals, -⟩ := opens
  rintro d ⟨⟩
  exact equals

theorem head_ne_endMark (opens : Opens text) {mark : Char} (member : mark ∈ endMarks) :
    ∀ c ∈ text.head?, c ≠ mark := by
  obtain ⟨c, tail, rfl, -, -, other⟩ := opens
  rintro d ⟨⟩ rfl
  exact other member

end Opens

/-- A whole expression is read up to the mark that ends it. -/
theorem SpellsWhole.reads_upTo {reader : Reader Expr} {text before tail : List Char} {tree : Expr}
    {c : Char} (whole : SpellsWhole reader text tree) (place : skipBlanks before = text ++ c :: tail)
    (mark : c ∈ endMarks) : Reads reader before tree (c :: tail) := by
  have stop := skipBlanks_endMark mark tail
  have read := whole.reads place (apart_endMark mark tail) (by rw [stop]; exact ends_endMark mark 0 tail)
  rwa [stop] at read

/-- Where nothing carries an expression of the level on, its loop is at its end. -/
theorem continues_loopAt_stop {level : Nat} {tree : Expr} {next : List Char} (last : level ≤ 8)
    (ends : Ends level next) : Continues (loopAt limits inner level) tree next tree next := by
  unfold loopAt
  split_ifs
  · exact continues_chain_stop (ends.operators level (Nat.le_refl _))
  · exact continues_suffixes_stop (ends.suffix last)

namespace Spells

variable {level : Nat} {text : List Char} {tree : Expr}

/-- Where nothing carries the text on, it reads as the tree and nothing else. -/
theorem closes (spells : Spells limits inner level text tree) (last : level ≤ 8)
    {before rest : List Char} (place : skipBlanks before = text ++ rest) (apart : Apart rest)
    (ends : Ends level (skipBlanks rest)) :
    Reads (readerAt limits inner level) before tree (skipBlanks rest) :=
  spells.reads place apart (ends.mono (Nat.le_succ _)) (continues_loopAt_stop last ends)

/-- A text that may stand at a level may stand at the next looser one. -/
theorem loosen (spells : Spells limits inner (level + 1) text tree) (first : 1 ≤ level)
    (last : level ≤ 7) : Spells limits inner level text tree where
  opens := spells.opens
  reads := by
    intro before rest after result place apart ends more
    have closed := spells.closes (by omega) place apart ends
    simp only [loopAt, if_pos last] at more
    rcases Nat.lt_or_eq_of_le last with below | rfl
    · rw [readerAt_eq_group first (by omega)]
      refine reads_group closed ?_
      rw [skipBlanks_skipBlanks]
      exact more
    · -- a sign has no loop: from the tree it arrives at the tree
      rw [operatorsAt_eq_nil (Nat.le_refl 7)] at more
      obtain ⟨rfl, rfl⟩ := eq_of_continues_chain_nil more (skipBlanks_skipBlanks rest)
      rw [readerAt_eq_operand (by decide)] at closed ⊢
      exact closed

/-- A text that may stand at a level may stand at all looser ones. -/
theorem loosenTo {low : Nat} (spells : Spells limits inner level text tree) (first : 1 ≤ low)
    (le : low ≤ level) (last : level ≤ 8) : Spells limits inner low text tree := by
  induction level, le using Nat.le_induction with
  | base => exact spells
  | succ high le ih =>
    exact ih (spells.loosen (Nat.le_trans first le) (Nat.le_of_succ_le_succ last)) (by omega)

/-- A text that may stand at the loosest level of operators may stand as a whole expression. -/
theorem whole (spells : Spells limits inner 1 text tree) :
    SpellsWhole (expression limits inner) text tree where
  opens := spells.opens
  reads := by
    intro before rest place apart ends
    have closed := spells.closes (by decide) place apart (ends.mono (by decide))
    have read := reads_expression closed (by rw [skipBlanks_skipBlanks]; exact ends.choice rfl)
    rwa [skipBlanks_skipBlanks] at read

end Spells

end Scriptlet.Template
