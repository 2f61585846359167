import Mathlib.Data.List.TakeWhile
import Scriptlet.Proofs.Template.Cursor
import Scriptlet.Proofs.Template.Locality

/-!
# Where quoted texts end

A quoted text ends at the first quote of its kind that is not escaped, and a quote is escaped if an odd number of
backslashes stands directly before it (`Closes`, `ClosesFirst`). The reader counts nothing: it takes a backslash
together with the character behind it, and any other character alone. What it takes at once leaves the parity of
the backslashes behind it as it is and has no quote in it that closes (`IsPiece`), so both come to the same end
(`closes_append_iff`).

What stands before that end is decoded pair by pair (`Decodes`). A text that is not closed is rejected at its
opening quote, and every text reads back from between quotes of either kind (`quoted_ends_first`).
-/

set_option autoImplicit false

namespace Scriptlet.Template

/-- How many backslashes a text ends with. -/
def backslashesAtEnd (text : List Char) : Nat :=
  (text.reverse.takeWhile (· = '\\')).length

/-- A quote in the text that is not escaped, with what is before and after it. -/
structure Closes (mark : Char) (text before after : List Char) : Prop where
  cut : text = before ++ mark :: after
  even : backslashesAtEnd before % 2 = 0

/-- The first quote in the text that is not escaped. -/
structure ClosesFirst (mark : Char) (text before after : List Char) : Prop
    extends Closes mark text before after where
  first : ∀ {other rest}, Closes mark text other rest → before.length ≤ other.length

/-- What a character stands for behind a backslash, if it has a meaning there. -/
inductive Escapes : Char → Char → Prop where
  | newline : Escapes 'n' '\n'
  | tab : Escapes 't' '\t'
  | return : Escapes 'r' '\r'
  | backslash : Escapes '\\' '\\'
  | apostrophe : Escapes '\'' '\''
  | quotationMark : Escapes '"' '"'

/-- The text stands for the value, from left to right. -/
inductive Decodes : List Char → List Char → Prop where
  | nil : Decodes [] []
  | plain {c : Char} {text value : List Char} (alone : c ≠ '\\') (more : Decodes text value) :
      Decodes (c :: text) (c :: value)
  | escape {c meaning : Char} {text value : List Char} (escapes : Escapes c meaning)
      (more : Decodes text value) : Decodes ('\\' :: c :: text) (meaning :: value)
  /-- A pair without a meaning stands for itself. -/
  | keep {c : Char} {text value : List Char} (unknown : ∀ meaning, ¬Escapes c meaning)
      (more : Decodes text value) : Decodes ('\\' :: c :: text) ('\\' :: c :: value)

variable {mark c : Char} {front text before after value : List Char}

/-! ## Counting backslashes -/

/-- Only where a text is nothing but backslashes, those before it count too. -/
theorem backslashesAtEnd_append (front text : List Char) : backslashesAtEnd (front ++ text) =
    if backslashesAtEnd text = text.length then text.length + backslashesAtEnd front
    else backslashesAtEnd text := by
  unfold backslashesAtEnd
  rw [List.reverse_append, List.takeWhile_append, List.length_reverse]
  split_ifs
  · rw [List.length_append, List.length_reverse]
  · rfl

/-- An even number of them does not matter. -/
theorem backslashesAtEnd_append_mod (even : backslashesAtEnd front % 2 = 0) (text : List Char) :
    backslashesAtEnd (front ++ text) % 2 = backslashesAtEnd text % 2 := by
  rw [backslashesAtEnd_append]
  split_ifs <;> omega

/-! ## Pieces -/

/-- What can be taken from the front of a text without changing where the text closes. -/
structure IsPiece (mark : Char) (piece : List Char) : Prop where
  even : backslashesAtEnd piece % 2 = 0
  unclosed : ∀ before after, ¬Closes mark piece before after

theorem eq_of_closes_singleton (closes : Closes mark [c] before after) : c = mark := by
  have cut := closes.cut
  cases before with
  | nil => exact (List.cons.inj cut).1
  | cons d before => simp at cut

theorem isPiece_plain (alone : c ≠ '\\') (inside : c ≠ mark) : IsPiece mark [c] where
  even := by simp [backslashesAtEnd, alone]
  unclosed _ _ closes := inside (eq_of_closes_singleton closes)

theorem isPiece_pair (plain : mark ≠ '\\') (c : Char) : IsPiece mark ['\\', c] where
  even := by by_cases backslash : c = '\\' <;> simp [backslashesAtEnd, backslash]
  unclosed := by
    rintro (_ | ⟨d, _ | ⟨e, before⟩⟩) after ⟨cut, even⟩
    · exact plain (List.cons.inj cut).1.symm
    · -- The only quote is behind a single backslash.
      obtain ⟨rfl, -⟩ := List.cons.inj cut
      cases even
    · simp at cut

/-- Behind a piece the text closes where it closes without the piece. -/
theorem closes_append_iff (piece : IsPiece mark front) :
    Closes mark (front ++ text) before after ↔ ∃ tail, before = front ++ tail ∧ Closes mark text tail after := by
  constructor
  · rintro ⟨cut, even⟩
    rcases List.append_eq_append_iff.mp cut with ⟨tail, rfl, rest⟩ | ⟨tail, rfl, rest⟩
    · rw [backslashesAtEnd_append_mod piece.even] at even
      exact ⟨tail, rfl, rest, even⟩
    · cases tail with
      | nil =>
        rw [List.append_nil]
        exact ⟨[], (List.append_nil _).symm, rest.symm, rfl⟩
      | cons d tail =>
        obtain ⟨rfl, -⟩ := List.cons.inj rest
        exact absurd ⟨rfl, even⟩ (piece.unclosed before tail)
  · rintro ⟨tail, rfl, rfl, even⟩
    exact ⟨(List.append_assoc ..).symm, (backslashesAtEnd_append_mod piece.even tail).trans even⟩

theorem ClosesFirst.append (piece : IsPiece mark front) (closes : ClosesFirst mark text before after) :
    ClosesFirst mark (front ++ text) (front ++ before) after where
  toCloses := (closes_append_iff piece).mpr ⟨before, rfl, closes.toCloses⟩
  first other := by
    obtain ⟨tail, rfl, closed⟩ := (closes_append_iff piece).mp other
    have le := closes.first closed
    rw [List.length_append, List.length_append]
    omega

theorem closesFirst_mark (mark : Char) (after : List Char) : ClosesFirst mark (mark :: after) [] after where
  cut := rfl
  even := rfl
  first _ := Nat.zero_le _

/-- There is one first quote. -/
theorem ClosesFirst.unique {before' after' : List Char} (closes : ClosesFirst mark text before after)
    (again : ClosesFirst mark text before' after') : before = before' ∧ after = after' := by
  have length : before.length = before'.length :=
    Nat.le_antisymm (closes.first again.toCloses) (again.first closes.toCloses)
  obtain ⟨same, rest⟩ := List.append_inj (closes.cut.symm.trans again.cut) length
  exact ⟨same, (List.cons.inj rest).2⟩

/-! ## Decoding -/

/-- A pair stands for what the reader takes it for. -/
theorem Decodes.pair (c : Char) (more : Decodes text value) :
    Decodes ('\\' :: c :: text) (unescape c ++ value) := by
  unfold unescape
  split
  · exact .escape .newline more
  · exact .escape .tab more
  · exact .escape .return more
  · exact .escape .backslash more
  · exact .escape .quotationMark more
  · exact .escape .apostrophe more
  · refine .keep (fun meaning escapes => ?_) more
    cases escapes <;> contradiction

theorem Escapes.unique {meaning meaning' : Char} (escapes : Escapes c meaning)
    (again : Escapes c meaning') : meaning = meaning' := by
  cases escapes <;> cases again <;> rfl

/-- A text has one value. -/
theorem Decodes.unique {value' : List Char} (decodes : Decodes text value)
    (again : Decodes text value') : value = value' := by
  induction decodes generalizing value' with
  | nil =>
    cases again
    rfl
  | plain alone _ ih =>
    cases again with
    | plain _ more => rw [ih more]
    | escape | keep => exact absurd rfl alone
  | escape escapes _ ih =>
    cases again with
    | plain alone _ => exact absurd rfl alone
    | escape escapes' more => rw [escapes.unique escapes', ih more]
    | keep unknown _ => exact absurd escapes (unknown _)
  | keep unknown _ ih =>
    cases again with
    | plain alone _ => exact absurd rfl alone
    | escape escapes _ => exact absurd escapes (unknown _)
    | keep _ more => rw [ih more]

/-! ## What is read -/

/-- What the reader takes ends at the first quote that is not escaped. -/
theorem closesFirst_of_quotedRest? (plain : mark ≠ '\\') {reading : Text.Reading (List Char) text}
    (found : quotedRest? mark text = some reading) :
    ∃ before, ClosesFirst mark text before reading.rest ∧ Decodes before reading.value := by
  -- One case for each kind of piece: a pair, the closing quote, any other character.
  fun_induction quotedRest? mark text with
  | case1 => cases found
  | case2 c rest ih =>
    obtain ⟨tail, read, rfl⟩ := Option.map_eq_some_iff.mp found
    obtain ⟨before, closes, decodes⟩ := ih read
    exact ⟨_, closes.append (isPiece_pair plain c), decodes.pair c⟩
  | case3 rest =>
    cases found
    exact ⟨[], closesFirst_mark _ _, .nil⟩
  | case4 c rest noPair inside ih =>
    obtain ⟨tail, read, rfl⟩ := Option.map_eq_some_iff.mp found
    obtain ⟨before, closes, decodes⟩ := ih read
    have alone : c ≠ '\\' := by
      rintro rfl
      cases rest with
      | nil => cases read
      | cons d rest => exact noPair d rest rfl rfl
    exact ⟨_, closes.append (isPiece_plain alone inside), decodes.plain alone⟩

/-- Where the reader finds no end, every quote is escaped. -/
theorem not_closes_of_quotedRest? (plain : mark ≠ '\\') (missing : quotedRest? mark text = none) :
    ¬Closes mark text before after := by
  fun_induction quotedRest? mark text generalizing before with
  | case1 => exact fun closes => absurd closes.cut (by simp)
  | case2 c rest ih =>
    intro closes
    obtain ⟨tail, -, closed⟩ := (closes_append_iff (isPiece_pair plain c)).mp closes
    exact ih (Option.map_eq_none_iff.mp missing) closed
  | case3 rest => cases missing
  | case4 c rest noPair inside ih =>
    intro closes
    by_cases alone : c = '\\'
    · cases rest with
      | nil => exact inside (eq_of_closes_singleton closes)
      | cons d rest => exact noPair d rest alone rfl
    · obtain ⟨tail, -, closed⟩ := (closes_append_iff (isPiece_plain alone inside)).mp closes
      exact ih (Option.map_eq_none_iff.mp missing) closed

/-- How a text behind an opening quote is read. -/
structure EndsFirst (mark : Char) (text : List Char) : Prop where
  /-- It is read if some quote in it is not escaped. -/
  succeeds : (∃ value after, Reads quoted (mark :: text) value after) ↔
    ∃ before after, Closes mark text before after
  /-- It is read up to and with the first such quote, and what is before that is decoded. -/
  reads : ∀ (value : String) (after : List Char), Reads quoted (mark :: text) value after ↔
    ∃ before, ClosesFirst mark text before after ∧ Decodes before value.toList
  /-- If all are escaped, the opening quote is where it is rejected. -/
  fails : (¬∃ before after, Closes mark text before after) →
    ∃ reason, reason.message = "unterminated string" ∧ RejectsAtStart quoted (mark :: text) reason

theorem endsFirst (plain : mark ≠ '\\') (text : List Char) : EndsFirst mark text := by
  cases found : quotedRest? mark text with
  | none =>
    have rejected : quoted (mark :: text) = failAt .unterminatedString (mark :: text) := by
      simp only [quoted, found]
    have unread (value : String) (after : List Char) : ¬Reads quoted (mark :: text) value after := by
      rintro ⟨shorter, read⟩
      cases rejected.symm.trans read
    have unclosed (before after : List Char) : ¬Closes mark text before after :=
      not_closes_of_quotedRest? plain found
    refine ⟨iff_of_false ?_ ?_, fun value after => iff_of_false (unread value after) ?_,
      fun _ => ⟨_, rfl, rejectsAtStart rejected⟩⟩
    · rintro ⟨value, after, read⟩
      exact unread value after read
    · rintro ⟨before, after, closes⟩
      exact unclosed before after closes
    · rintro ⟨before, closes, -⟩
      exact unclosed before after closes.toCloses
  | some tail =>
    obtain ⟨before, closes, decodes⟩ := closesFirst_of_quotedRest? plain found
    have read : Reads quoted (mark :: text) (String.ofList tail.value) tail.rest :=
      ⟨Nat.lt_succ_of_lt tail.shorter, by simp only [quoted, found]⟩
    refine ⟨?_, fun value after => ⟨?_, ?_⟩, fun unclosed => ?_⟩
    · exact iff_of_true ⟨_, _, read⟩ ⟨_, _, closes.toCloses⟩
    · rintro ⟨shorter, again⟩
      obtain ⟨_, same⟩ := read
      cases same.symm.trans again
      rw [String.toList_ofList]
      exact ⟨before, closes, decodes⟩
    · rintro ⟨before', closes', decodes'⟩
      obtain ⟨rfl, rfl⟩ := closes.unique closes'
      rw [← String.ofList_toList (s := value), decodes'.unique decodes]
      exact read
    · exact absurd ⟨_, _, closes.toCloses⟩ unclosed

/-- A quoted text ends at the first quote of its kind that is not escaped. So every text reads back from between
quotes, if the quotes of that kind and the backslashes in it are escaped, and what follows is left. -/
theorem quoted_ends_first {mark : Char} (quotes : mark = '\'' ∨ mark = '"') :
    (∀ text, EndsFirst mark text) ∧
      ∀ (text : String) (rest : List Char), Reads quoted (inQuotes mark text ++ rest) text rest := by
  have plain : mark ≠ '\\' := by rintro rfl; revert quotes; decide
  exact ⟨endsFirst plain, reads_inQuotes quotes⟩

/-- Behind two backslashes a quote closes, and behind three it does not. -/
theorem quoted_ends_first_counting :
    ('"' = '\'' ∨ '"' = '"') ∧
      Reads quoted ['"', '\\', 'd', '\\', '\\', '"', '+', '1'] "\\d\\" ['+', '1'] ∧
      ∃ reason, reason.message = "unterminated string" ∧
        RejectsAtStart quoted ['"', '\\', '\\', '\\', '"'] reason := by
  have mark : '"' = '\'' ∨ '"' = '"' := .inr rfl
  have plain : '"' ≠ '\\' := by decide
  have ends := (quoted_ends_first mark).1
  have closes := ((closesFirst_mark '"' ['+', '1']).append (isPiece_pair plain '\\')).append
    (isPiece_pair plain 'd')
  have decodes : Decodes ['\\', 'd', '\\', '\\'] ['\\', 'd', '\\'] :=
    .keep (fun _ => nofun) (.escape .backslash .nil)
  refine ⟨mark, ((ends _).reads _ _).mpr ⟨_, closes, decodes⟩, (ends _).fails ?_⟩
  rintro ⟨before, after, closes⟩
  exact not_closes_of_quotedRest? plain rfl closes

end Scriptlet.Template
