import Scriptlet.Proofs.Template.Recognition
import Scriptlet.Proofs.Template.Walk
import Scriptlet.Proofs.Text.Search

/-!
# Walkers over lexemes

The smallest parts of a template read with a cursor. A character of a known class may be passed by a width that
is known with it, so that digits, quotes and the marks in numerals count as one byte; any other is passed by its
own width. A numeral is cut out of the text between two cursors once it has been passed, and only its exponent
is tried: behind its mark and sign the cursor goes back if there is no digit (`follows_passExponent`).

Each walker follows the reader of its lexeme. The faults that the walkers have for a numeral without digits and
for a text without quote are out of reach: they are only sent where a digit or a quote stands.
-/

set_option autoImplicit false

namespace Scriptlet.Template

open Text

namespace Walker

/-- The character at the cursor. -/
def peek : Walker (Option Char) := do
  return (← ahead).head?

/-- Passes the given text if it is at the cursor, and tells whether it was. -/
def pass (expected : List Char) : Walker Bool := do
  if startsWith (← ahead) expected then do
    advance (byteCount expected)
    return true
  else return false

/-- Passes all characters of a class, each by its width. -/
def passWhile (member : Char → Bool) (width : Char → Nat) : Walker Unit :=
  loop (fun again _ => do
    match ← peek with
    | some c => if member c then do advance (width c); again () else return ()
    | none => return ()) ()

def passBlanks : Walker Unit :=
  passWhile isBlank Char.utf8Size

def passDigits : Walker Unit :=
  passWhile isDigit fun _ => 1

/-- Passes a closing character, perhaps after blanks. -/
def expect (c : Char) : Walker Unit := do
  passBlanks
  if ← pass [c] then return () else reject (.expected c)

/-- A name, cut out from where the cursor was before it. -/
def name : Walker String := do
  if (← peek).any isNameStart then do
    let start ← cursor
    passWhile isNamePart Char.utf8Size
    return String.ofList (← since start)
  else reject .identifierExpected

/-- Passes a point with digits behind it, if there is one. -/
def passFraction : Walker Unit := do
  let rest ← ahead
  if rest.head? = some '.' ∧ startsWithDigit rest.tail then do
    advance 1
    passDigits
  else return ()

/-- Passes a sign, if there is one. -/
def passSign : Walker Unit := do
  let next ← peek
  if next = some '+' ∨ next = some '-' then advance 1 else return ()

/-- Passes an exponent, if there is one: behind a mark without digits the cursor goes back. -/
def passExponent : Walker Unit := do
  let next ← peek
  if next = some 'e' ∨ next = some 'E' then do
    let saved ← cursor
    advance 1
    passSign
    if startsWithDigit (← ahead) then passDigits else moveTo saved
  else return ()

/-- A numeral, cut out from where the cursor was before it; faults are there too. -/
def numeral (negative : Bool) : Walker Number := do
  let start ← cursor
  passDigits
  passFraction
  passExponent
  let spelled ← since start
  if spelled.isEmpty then reject (.other "number expected")
  else
    match numberOf negative (Numeral.scan spelled).1 with
    | .ok value => return value
    | .error reason => rejectAt start reason

/-- The characters up to the next quote that is not escaped. Faults are at the opening quote. -/
def quotedRest (quote : Char) (start : Nat) : List Char → Walker String :=
  loop fun again content => do
    match ← peek with
    | none => rejectAt start .unterminatedString
    | some c => do
      advance c.utf8Size
      if c = quote then return String.ofList content
      else if c = '\\' then do
        match ← peek with
        | none => rejectAt start .unterminatedString
        | some escaped => do
          advance escaped.utf8Size
          again (content ++ unescape escaped)
      else again (content ++ [c])

/-- A quoted text. -/
def quoted : Walker String := do
  match ← peek with
  | none => reject (.other "string expected")
  | some quote =>
    if quote = '\'' ∨ quote = '"' then do
      let start ← cursor
      advance 1
      quotedRest quote start []
    else reject (.other "expected quoted string")

end Walker

variable {α : Type} {text rest after : List Char}

/-! ## Marks and runs -/

theorem follows_peek : Follows text rest Walker.peek (.ok (rest.head?, rest)) :=
  Follows.ahead.bind_ok (.pure _)

/-- A walker that looks at the character at the cursor. -/
theorem follows_of_peek {more : Option Char → Walker α} {answer : Except Failure (α × List Char)}
    (next : Follows text rest (more rest.head?) answer) : Follows text rest (Walker.peek >>= more) answer :=
  follows_peek.bind_ok next

theorem follows_pass {expected : List Char} (some_ : expected ≠ [])
    (found : after? expected rest = some after) :
    Follows text rest (Walker.pass expected) (.ok (true, after)) := by
  refine Follows.ahead.bind_ok ?_
  have starts : startsWith rest expected = true := by rw [startsWith, found]; rfl
  rw [if_pos starts, ← after?_eq_some_iff.mp found]
  exact (Follows.advance some_ rfl).bind_ok (.pure _)

theorem follows_pass_absent {expected : List Char} (absent : after? expected rest = none) :
    Follows text rest (Walker.pass expected) (.ok (false, rest)) := by
  refine Follows.ahead.bind_ok ?_
  have starts : ¬startsWith rest expected = true := by rw [startsWith, absent]; exact Bool.false_ne_true
  rw [if_neg starts]
  exact .pure _

theorem follows_pass_head {c : Char} : Follows text (c :: rest) (Walker.pass [c]) (.ok (true, rest)) :=
  follows_pass (List.cons_ne_nil c []) (after?_eq_some_iff.mpr rfl)

/-- Whether a mark is passed is whether it is read. -/
theorem follows_if_pass {c : Char} {yes no : Walker α} {answer : Except Failure (α × List Char)}
    (found : ∀ mark, mark? c rest = some mark → Follows text mark.rest yes answer)
    (absent : mark? c rest = none → Follows text rest no answer) :
    Follows text rest (do if ← Walker.pass [c] then yes else no) answer := by
  cases marked : mark? c rest with
  | some mark =>
    have cut : after? [c] rest = some mark.rest := after?_eq_some_iff.mpr (eq_cons_of_mark? marked).symm
    refine (follows_pass (List.cons_ne_nil c []) cut).bind_ok ?_
    rw [if_pos rfl]
    exact found mark marked
  | none =>
    have cut : after? [c] rest = none := by
      refine Option.eq_none_iff_forall_ne_some.mpr fun tail cut => ?_
      exact head_ne_of_mark? marked c (by rw [← after?_eq_some_iff.mp cut]; rfl) rfl
    refine (follows_pass_absent cut).bind_ok ?_
    rw [if_neg Bool.false_ne_true]
    exact absent marked

/-- A run of a class is passed if the widths are right. -/
theorem follows_passWhile {member : Char → Bool} {width : Char → Nat}
    (right : ∀ c, member c = true → c.utf8Size = width c) :
    Follows text rest (Walker.passWhile member width) (.ok ((), rest.dropWhile member)) := by
  refine Follows.loop (fun _ => ()) (fun rest => rest) (fun rest => .ok ((), rest.dropWhile member))
    (fun again rest ih => follows_of_peek ?_) rest
  cases rest with
  | nil => exact .pure _
  | cons c rest =>
    cases fits : member c with
    | false =>
      rw [List.dropWhile_cons_of_neg (by rw [fits]; exact Bool.false_ne_true)]
      simp only [List.head?_cons, fits]
      exact .pure _
    | true =>
      rw [List.dropWhile_cons_of_pos fits]
      simp only [List.head?_cons, fits]
      exact (Follows.advance_cons (right c fits)).bind_ok (ih rest (Nat.lt_succ_self _))

theorem follows_passBlanks : Follows text rest Walker.passBlanks (.ok ((), skipBlanks rest)) :=
  follows_passWhile fun _ _ => rfl

theorem utf8Size_of_isDigit {c : Char} (digit : isDigit c = true) : c.utf8Size = 1 := by
  have bounds := isDigit_iff.mp digit
  rw [Char.utf8Size_eq_one_iff, UInt32.le_iff_toNat_le]
  exact Nat.le_trans bounds.2 (by decide)

theorem follows_passDigits : Follows text rest Walker.passDigits (.ok ((), rest.dropWhile isDigit)) :=
  follows_passWhile fun _ => utf8Size_of_isDigit

theorem follows_expect (c : Char) : Follows text rest (Walker.expect c) (taken (closing c rest)) := by
  refine follows_passBlanks.bind_ok (follows_if_pass (fun mark found => ?_) fun absent => ?_)
  · simp only [closing, Template.mark, found]
    exact .pure _
  · simp only [closing, Template.mark, absent]
    exact .reject

/-! ## Names -/

theorem follows_name : Follows text rest Walker.name (taken (name rest)) := by
  refine follows_of_peek ?_
  cases rest with
  | nil => exact .reject
  | cons c rest =>
    cases starts : isNameStart c with
    | false =>
      simp only [name, List.head?_cons, Option.any_some, starts]
      exact .reject
    | true =>
      simp only [name, List.head?_cons, Option.any_some, starts]
      have part := isNamePart_of_isNameStart starts
      have whole : c :: rest = c :: rest.takeWhile isNamePart ++ rest.dropWhile isNamePart := by
        rw [List.cons_append, List.takeWhile_append_dropWhile]
      have passed : Follows text (c :: rest) (Walker.passWhile isNamePart Char.utf8Size)
          (.ok ((), rest.dropWhile isNamePart)) := by
        rw [← List.dropWhile_cons_of_pos part]
        exact follows_passWhile fun _ _ => rfl
      refine Follows.cursor fun start place => ?_
      rw [whole] at place
      exact passed.bind_ok ((Follows.since place).bind_ok (.pure _))

/-! ## Numerals -/

theorem follows_passFraction :
    Follows text rest Walker.passFraction (.ok ((), (Numeral.scanFraction rest).2)) := by
  refine Follows.ahead.bind_ok ?_
  by_cases present : rest.head? = some '.' ∧ startsWithDigit rest.tail = true
  · rw [if_pos present]
    obtain ⟨head, digit⟩ := present
    obtain ⟨tail, rfl⟩ := List.head?_eq_some_iff.mp head
    rw [List.tail_cons] at digit
    rw [Numeral.scanFraction_of_digit digit]
    exact (Follows.advance_cons rfl).bind_ok follows_passDigits
  · have absent : Numeral.scanFraction rest = ([], rest) := by
      refine Numeral.scanFraction_eq_self fun tail point => Bool.eq_false_iff.mpr fun digit => present ?_
      rw [point]
      exact ⟨rfl, digit⟩
    rw [if_neg present, absent]
    exact .pure _

theorem follows_passSign : Follows text rest Walker.passSign (.ok ((), (exponentSign rest).2)) := by
  refine follows_of_peek ?_
  by_cases present : rest.head? = some '+' ∨ rest.head? = some '-'
  · rw [if_pos present]
    rcases present with head | head
    all_goals
      obtain ⟨tail, rfl⟩ := List.head?_eq_some_iff.mp head
      exact Follows.advance_cons rfl
  · have absent : (exponentSign rest).2 = rest := by
      unfold exponentSign
      split
      · exact absurd (.inr rfl) present
      · exact absurd (.inl rfl) present
      · rfl
    rw [if_neg present, absent]
    exact .pure _

/-- Behind digits, perhaps with a fraction, an exponent is passed, or its mark is taken back. -/
theorem follows_passExponent {whole fraction : List Char} (digits : Numeral.IsDigits whole)
    (form : Numeral.IsFraction fraction) {first : Nat}
    (before : At text first (whole ++ (fraction ++ rest))) :
    Follows text rest Walker.passExponent (.ok ((), (Numeral.scanExponent rest).2)) := by
  refine follows_of_peek ?_
  by_cases present : rest.head? = some 'e' ∨ rest.head? = some 'E'
  · rw [if_pos present]
    obtain ⟨mark, tail, rfl, marks⟩ : ∃ mark tail, rest = mark :: tail ∧ (mark = 'e' ∨ mark = 'E') := by
      cases rest with
      | nil => rcases present with head | head <;> cases head
      | cons mark tail => exact ⟨mark, tail, rfl, present.imp Option.some.inj Option.some.inj⟩
    have width : mark.utf8Size = 1 := by rcases marks with rfl | rfl <;> rfl
    refine Follows.cursor fun saved place => (Follows.advance_cons width).bind_ok ?_
    refine follows_passSign.bind_ok (Follows.ahead.bind_ok ?_)
    cases digit : startsWithDigit (exponentSign tail).2 with
    | true =>
      rw [if_pos rfl, Numeral.scanExponent_of_digit marks digit]
      exact follows_passDigits
    | false =>
      rw [if_neg Bool.false_ne_true, Numeral.scanExponent_eq_self fun _ => digit]
      obtain ⟨sign, signs, cut⟩ := Numeral.exists_isSign tail
      refine Follows.moveTo place fun start behind => .inr ?_
      rw [cut] at before place
      exact .undo digits form marks signs digit before place behind
  · have absent : Numeral.scanExponent rest = (none, rest) := by
      cases rest with
      | nil => rfl
      | cons mark tail =>
        exact Numeral.scanExponent_eq_self fun marks =>
          absurd (marks.imp (congrArg some) (congrArg some)) present
    rw [if_neg present, absent]
    exact .pure _

theorem follows_numeral {negative : Bool} (digit : startsWithDigit rest = true) :
    Follows text rest (Walker.numeral negative) (taken (numeral negative rest)) := by
  have some_ := Numeral.isDigits_takeWhile digit
  have cut := List.takeWhile_append_dropWhile (p := isDigit) (l := rest)
  obtain ⟨fraction, form, cutFraction, -⟩ := Numeral.exists_spelled_scanFraction (rest.dropWhile isDigit)
  obtain ⟨spelled, isNumeral, cutSpelled, scanned⟩ := Numeral.exists_spelled_scan digit
  obtain ⟨c, tail, rfl, -⟩ := isNumeral.exists_eq_cons
  refine Follows.cursor fun start place => follows_passDigits.bind_ok (follows_passFraction.bind_ok ?_)
  have before := place
  rw [← cut, cutFraction] at before
  refine (follows_passExponent some_ form before).bind_ok ?_
  have piece := place
  rw [cutSpelled] at piece
  refine (Follows.since piece).bind_ok ?_
  rw [if_neg (by simp), scanned]
  cases rest with
  | nil => cases digit
  | cons d rest =>
    have isDigit_d : isDigit d = true := digit
    rw [numeral, dif_pos isDigit_d]
    cases numberOf negative (Numeral.scan (d :: rest)).1 with
    | ok value => exact .pure _
    | error reason => exact .rejectAt place

/-! ## Quoted texts -/

theorem follows_quotedRest {quote : Char} (plain : quote ≠ '\\') {start : Nat} {opened : List Char}
    (place : At text start opened) (content : List Char) :
    Follows text rest (Walker.quotedRest quote start content)
      ((quotedRest? quote rest).elim (.error ⟨.unterminatedString, opened⟩) fun tail =>
        .ok (String.ofList (content ++ tail.value), tail.rest)) := by
  refine Follows.loop (fun k : List Char × List Char => k.1) (fun k => k.2)
    (fun k => (quotedRest? quote k.2).elim (.error ⟨.unterminatedString, opened⟩) fun tail =>
      .ok (String.ofList (k.1 ++ tail.value), tail.rest))
    (fun again k ih => follows_of_peek ?_) (content, rest)
  obtain ⟨content, rest⟩ := k
  cases rest with
  | nil => exact .rejectAt place
  | cons c rest =>
    simp only [List.head?_cons]
    refine (Follows.advance_cons rfl).bind_ok ?_
    by_cases ends : c = quote
    · have read : quotedRest? quote (c :: rest) = some ⟨[], rest, Nat.lt_succ_self _⟩ := by
        rw [quotedRest?, if_pos ends]
        rintro d tail rfl -
        exact plain ends.symm
      rw [if_pos ends, read, Option.elim_some, List.append_nil]
      exact .pure _
    · rw [if_neg ends]
      by_cases escapes : c = '\\'
      · rw [if_pos escapes, escapes]
        refine follows_of_peek ?_
        cases rest with
        | nil =>
          have read : quotedRest? quote ['\\'] = none := by
            rw [quotedRest?, if_neg plain.symm, quotedRest?]
            · rfl
            · rintro d tail - ⟨⟩
          rw [read]
          exact .rejectAt place
        | cons d rest =>
          have more := ih (content ++ unescape d, rest) (by simp only [List.length_cons]; omega)
          simp only [List.append_assoc] at more
          rw [quotedRest?, Option.elim_map]
          exact (Follows.advance_cons rfl).bind_ok more
      · have more := ih (content ++ [c], rest) (Nat.lt_succ_self _)
        simp only [List.append_assoc, List.singleton_append] at more
        rw [if_neg escapes, quotedRest?, if_neg ends, Option.elim_map]
        · exact more
        · exact fun d tail same => absurd same escapes

theorem follows_quoted (opens : ∀ c ∈ rest.head?, c = '\'' ∨ c = '"') (some_ : rest ≠ []) :
    Follows text rest Walker.quoted (taken (quoted rest)) := by
  cases rest with
  | nil => exact absurd rfl some_
  | cons quote rest =>
    have quotes := opens quote rfl
    have plain : quote ≠ '\\' := by rintro rfl; revert quotes; decide
    have width : quote.utf8Size = 1 := by rcases quotes with rfl | rfl <;> rfl
    refine follows_of_peek ?_
    simp only [List.head?_cons, if_pos quotes]
    refine Follows.cursor fun start place => (Follows.advance_cons width).bind_ok ?_
    have content : Follows text rest (Walker.quotedRest quote start []) _ := follows_quotedRest plain place []
    rw [quoted]
    cases found : quotedRest? quote rest <;> rw [found] at content <;> exact content

end Scriptlet.Template
