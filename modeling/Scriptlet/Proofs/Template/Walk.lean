import Scriptlet.Proofs.Numeral.Grammar
import Scriptlet.Proofs.Template.Cursor

/-!
# Walks of a cursor

The readers of the grammar pass the rest of a text on. A template can also be read with one cursor that is
moved by bytes and kept: a `Walker` looks at the text from the cursor on, moves the cursor, and notes where it
has moved it. Nothing guards it. It fails where it looks from inside a character or from past the end, or cuts a
piece there (`Halt.torn`), and a loop of it fails once it has gone round more often than the text has bytes
(`Halt.endless`).

`Follows` ties a walker to a reader: from before the same rest it comes to the same answer, and on the way there
the cursor keeps to the moves of `Moves`: onto a place in the text, and forward, unless it takes back the mark of
an exponent. Loops are followed by induction on what is left of the text (`Follows.loop`).
-/

set_option autoImplicit false

namespace Scriptlet.Template

open Text

/-- How a walk can fail. -/
inductive Halt where
  /-- The text cannot be read, and the fault is at the position. -/
  | rejected (position : Nat) (reason : SyntaxFault)
  /-- The text was to be cut where no cursor stands. -/
  | torn
  /-- A loop has not ended in time. -/
  | endless

/-- The cursors that one after another were moved to, and the outcome with the cursor in the end. -/
structure Walk (α : Type) where
  cursors : List Nat
  outcome : Except Halt (α × Nat)

/-- The walk that goes on from where another has ended. -/
def Walk.next {α β : Type} (walk : Walk α) (more : α → Nat → Walk β) : Walk β :=
  match walk.outcome with
  | .error halt => ⟨walk.cursors, .error halt⟩
  | .ok (value, cursor) => ⟨walk.cursors ++ (more value cursor).cursors, (more value cursor).outcome⟩

/-- Reads a text from a cursor on. -/
def Walker (α : Type) : Type :=
  List Char → Nat → Walk α

instance : Monad Walker where
  pure value := fun _ cursor => ⟨[], .ok (value, cursor)⟩
  bind walker more := fun text cursor =>
    (walker text cursor).next fun value cursor => more value text cursor

namespace Walker

variable {α σ : Type}

/-- Where the cursor is. -/
def cursor : Walker Nat := fun _ cursor => ⟨[], .ok (cursor, cursor)⟩

/-- Moves the cursor, whether it stands there or not. -/
def moveTo (target : Nat) : Walker Unit := fun _ _ => ⟨[target], .ok ((), target)⟩

/-- Moves the cursor on by some bytes. -/
def advance (count : Nat) : Walker Unit := do
  moveTo ((← cursor) + count)

/-- The text from the cursor on. -/
def ahead : Walker (List Char) := fun text cursor =>
  match from? text cursor with
  | some rest => ⟨[], .ok (rest, cursor)⟩
  | none => ⟨[], .error .torn⟩

/-- The text from an earlier cursor up to this one. -/
def since (start : Nat) : Walker (List Char) := fun text cursor =>
  match between? text start cursor with
  | some piece => ⟨[], .ok (piece, cursor)⟩
  | none => ⟨[], .error .torn⟩

/-- Whether the cursor is at the end, or past it. -/
def atEnd : Walker Bool := fun text cursor => ⟨[], .ok (byteCount text ≤ cursor, cursor)⟩

/-- Fails with a fault at a position. -/
def rejectAt (position : Nat) (reason : SyntaxFault) : Walker α := fun _ _ =>
  ⟨[], .error (.rejected position reason)⟩

/-- Fails with a fault at the cursor. -/
def reject (reason : SyntaxFault) : Walker α := do
  rejectAt (← cursor) reason

/-- A loop that may go round so many times. -/
def repeatFor (turn : (σ → Walker α) → σ → Walker α) : Nat → σ → Walker α
  | 0, _ => fun _ _ => ⟨[], .error .endless⟩
  | times + 1, state => turn (repeatFor turn times) state

/-- A loop, of which a turn knows how to go on with the next one. It may take no more turns than the text has
bytes, and one to see that it is at the end. -/
def loop (turn : (σ → Walker α) → σ → Walker α) (state : σ) : Walker α := fun text =>
  repeatFor turn (byteCount text + 1) state text

end Walker

variable {α β σ τ : Type} {text rest after : List Char} {reason : SyntaxFault}

/-! ## Moves -/

/-- The move from behind the mark of an exponent, and perhaps a sign, back to before them. Digits with or
without a fraction are before the mark, and no digit follows. -/
inductive UndoesExponent (text : List Char) : Nat → Nat → Prop where
  | undo {first start target : Nat} {whole fraction sign rest : List Char} {mark : Char} {negative : Bool}
      (digits : Numeral.IsDigits whole) (form : Numeral.IsFraction fraction)
      (marks : mark = 'e' ∨ mark = 'E') (signs : Numeral.IsSign sign negative)
      (noDigit : startsWithDigit rest = false)
      (numeral : At text first (whole ++ (fraction ++ mark :: (sign ++ rest))))
      (before : At text target (mark :: (sign ++ rest))) (behind : At text start rest) :
      UndoesExponent text start target

/-- The moves of the cursor. -/
structure Moves (text : List Char) (start target : Nat) : Prop where
  place : ∃ rest, At text target rest
  forward : start < target ∨ UndoesExponent text start target

/-- The cursors are moved to one after another, the last one in the end. -/
inductive Path (text : List Char) : Nat → List Nat → Nat → Prop where
  | stay (start : Nat) : Path text start [] start
  | move {start target last : Nat} {cursors : List Nat} (first : Moves text start target)
      (more : Path text target cursors last) : Path text start (target :: cursors) last

theorem Path.append {start middle last : Nat} {cursors further : List Nat}
    (path : Path text start cursors middle) (more : Path text middle further last) :
    Path text start (cursors ++ further) last := by
  induction path with
  | stay => exact more
  | move first _ ih => exact .move first (ih more)

/-! ## Following a reader -/

/-- What is made of what a reader has taken from a text, and what it has left. -/
def takenAs {origin : List Char} (become : α → β) (answer : Except Failure (Reading α origin)) :
    Except Failure (β × List Char) :=
  answer.map fun reading => (become reading.value, reading.rest)

/-- What a reader has taken from a text, and what it has left. -/
abbrev taken {origin : List Char} (answer : Except Failure (Reading α origin)) :
    Except Failure (α × List Char) :=
  takenAs (fun value => value) answer

/-- The walk comes to the answer on a path from the cursor. -/
inductive Tracks (text : List Char) (start : Nat) :
    Walk α → Except Failure (α × List Char) → Prop where
  | accepted {cursors : List Nat} {last : Nat} {value : α} {rest : List Char}
      (path : Path text start cursors last) (place : At text last rest) :
      Tracks text start ⟨cursors, .ok (value, last)⟩ (.ok (value, rest))
  | rejected {cursors : List Nat} {last position : Nat} {failure : Failure}
      (path : Path text start cursors last) (place : At text position failure.rest) :
      Tracks text start ⟨cursors, .error (.rejected position failure.reason)⟩ (.error failure)

namespace Tracks

variable {start : Nat} {walk : Walk α} {value : α} {failure : Failure}

theorem outcome_ok (tracked : Tracks text start walk (.ok (value, rest))) :
    ∃ last, walk.outcome = .ok (value, last) ∧ At text last rest := by
  cases tracked with
  | accepted _ place => exact ⟨_, rfl, place⟩

theorem outcome_error (tracked : Tracks text start walk (.error failure)) :
    ∃ position, walk.outcome = .error (.rejected position failure.reason) ∧
      At text position failure.rest := by
  cases tracked with
  | rejected _ place => exact ⟨_, rfl, place⟩

end Tracks

/-- From before the rest the walker comes to the answer. -/
structure Follows (text rest : List Char) (walker : Walker α)
    (answer : Except Failure (α × List Char)) : Prop where
  tracks : ∀ {start}, At text start rest → Tracks text start (walker text start) answer

namespace Follows

theorem pure (value : α) : Follows text rest (pure value) (.ok (value, rest)) :=
  ⟨fun place => .accepted (.stay _) place⟩

/-- What follows a walker that takes something goes on with it. -/
theorem bind_ok {walker : Walker α} {more : α → Walker β} {value : α}
    {answer : Except Failure (β × List Char)} (first : Follows text rest walker (.ok (value, after)))
    (next : Follows text after (more value) answer) : Follows text rest (walker >>= more) answer := by
  refine ⟨fun {start} place => ?_⟩
  have walked := first.tracks place
  show Tracks text start ((walker text start).next fun value cursor => more value text cursor) answer
  generalize walker text start = walk at walked
  obtain ⟨path, place⟩ := walked
  have further := next.tracks place
  simp only [Walk.next]
  generalize more value text _ = walk at further
  cases further with
  | accepted onward place => exact .accepted (path.append onward) place
  | rejected onward place => exact .rejected (path.append onward) place

/-- What follows a walker that fails does not matter. -/
theorem bind_error {walker : Walker α} {more : α → Walker β} {failure : Failure}
    (first : Follows text rest walker (.error failure)) :
    Follows text rest (walker >>= more) (.error failure) := by
  refine ⟨fun {start} place => ?_⟩
  have walked := first.tracks place
  show Tracks text start ((walker text start).next fun value cursor => more value text cursor) _
  generalize walker text start = walk at walked
  cases walked with
  | rejected path place => exact .rejected path place

/-- A walker that follows a reader goes on from what the reader leaves, if a failure of the reader is all that
becomes of it. -/
theorem cases {origin : List Char} {become : σ → α} {walker : Walker α} {more : α → Walker β}
    {answer : Except Failure (Reading σ origin)} {result : Except Failure (β × List Char)}
    (first : Follows text rest walker (takenAs become answer))
    (failed : ∀ failure, answer = .error failure → result = .error failure)
    (onward : ∀ reading, answer = .ok reading →
      Follows text reading.rest (more (become reading.value)) result) :
    Follows text rest (walker >>= more) result := by
  cases answer with
  | error failure =>
    rw [failed failure rfl]
    exact first.bind_error
  | ok reading => exact first.bind_ok (onward reading rfl)

/-- Walkers after one another follow readers after one another. -/
theorem bind {origin origin' : List Char} {become : σ → α} {becomes : τ → β} {walker : Walker α}
    {more : α → Walker β} {answer : Except Failure (Reading σ origin)}
    {next : Reading σ origin → Except Failure (Reading τ origin')}
    (first : Follows text rest walker (takenAs become answer))
    (onward : ∀ reading, answer = .ok reading →
      Follows text reading.rest (more (become reading.value)) (takenAs becomes (next reading))) :
    Follows text rest (walker >>= more) (takenAs becomes (answer >>= next)) :=
  first.cases (fun _ read => by rw [read]; rfl) fun reading read => read ▸ onward reading read

/-! ### Steps -/

/-- A walker that remembers where the cursor is remembers a place before the rest. -/
theorem cursor {more : Nat → Walker α} {answer : Except Failure (α × List Char)}
    (next : ∀ start, At text start rest → Follows text rest (more start) answer) :
    Follows text rest (Walker.cursor >>= more) answer := by
  refine ⟨fun {start} place => ?_⟩
  have here : Follows text rest Walker.cursor (.ok (start, rest)) := by
    refine ⟨fun place' => ?_⟩
    cases place.unique place'
    exact .accepted (.stay _) place
  exact (here.bind_ok (next start place)).tracks place

theorem rejectAt {position : Nat} (place : At text position after) :
    Follows text rest (Walker.rejectAt position reason : Walker α) (.error ⟨reason, after⟩) :=
  ⟨fun _ => @Tracks.rejected _ _ _ _ _ _ ⟨reason, after⟩ (.stay _) place⟩

theorem reject : Follows text rest (Walker.reject reason : Walker α) (.error ⟨reason, rest⟩) :=
  cursor fun _ place => rejectAt place

theorem ahead : Follows text rest Walker.ahead (.ok (rest, rest)) := by
  refine ⟨fun place => ?_⟩
  simp only [Walker.ahead, from?_eq_some_iff.mpr place]
  exact .accepted (.stay _) place

/-- What has been passed over since an earlier cursor can be cut out. -/
theorem since {first : Nat} {piece : List Char} (before : At text first (piece ++ rest)) :
    Follows text rest (Walker.since first) (.ok (piece, rest)) := by
  refine ⟨fun place => ?_⟩
  simp only [Walker.since, before.between? place]
  exact .accepted (.stay _) place

theorem atEnd : Follows text rest Walker.atEnd (.ok (rest.isEmpty, rest)) := by
  refine ⟨fun {start} place => ?_⟩
  have done : decide (byteCount text ≤ start) = rest.isEmpty := by
    obtain ⟨before, rfl, rfl⟩ := place
    cases rest with
    | nil => simp
    | cons c rest =>
      have := c.utf8Size_pos
      rw [byteCount_append, byteCount_cons, List.isEmpty_cons, decide_eq_false_iff_not]
      omega
  simp only [Walker.atEnd, done]
  exact .accepted (.stay _) place

theorem moveTo {target : Nat} (place : At text target after)
    (allowed : ∀ start, At text start rest → start < target ∨ UndoesExponent text start target) :
    Follows text rest (Walker.moveTo target) (.ok ((), after)) :=
  ⟨fun {start} here => .accepted (.move ⟨⟨after, place⟩, allowed start here⟩ (.stay _)) place⟩

/-- The cursor moves over characters by their bytes. -/
theorem advance {count : Nat} {passed : List Char} (some_ : passed ≠ [])
    (bytes : byteCount passed = count) :
    Follows text (passed ++ rest) (Walker.advance count) (.ok ((), rest)) := by
  refine cursor fun start place => ?_
  rw [← bytes]
  refine moveTo place.append fun start' place' => .inl ?_
  have moved : 0 < byteCount passed :=
    Nat.lt_of_lt_of_le (List.length_pos_iff.mpr some_) (length_le_byteCount passed)
  rw [place'.unique place]
  exact Nat.lt_add_of_pos_right moved

theorem advance_cons {c : Char} {width : Nat} (bytes : c.utf8Size = width) :
    Follows text (c :: rest) (Walker.advance width) (.ok ((), rest)) :=
  advance (List.cons_ne_nil c []) (by rw [byteCount_cons]; exact bytes)

/-! ### Loops -/

/-- A loop is followed if one turn is, where what the turn goes on with is followed from wherever less of the
text is left. -/
theorem loop {ι : Type} (state : ι → σ) (left : ι → List Char)
    (answer : ι → Except Failure (α × List Char)) {turn : (σ → Walker α) → σ → Walker α}
    (step : ∀ again k,
      (∀ k', (left k').length < (left k).length →
        Follows text (left k') (again (state k')) (answer k')) →
      Follows text (left k) (turn again (state k)) (answer k)) (k : ι) :
    Follows text (left k) (Walker.loop turn (state k)) (answer k) := by
  have followed : ∀ times k, (left k).length < times →
      Follows text (left k) (Walker.repeatFor turn times (state k)) (answer k) := by
    intro times
    induction times with
    | zero => exact fun k enough => absurd enough (Nat.not_lt_zero _)
    | succ times ih =>
      exact fun k enough => step _ k fun k' shorter =>
        ih k' (Nat.lt_of_lt_of_le shorter (Nat.le_of_lt_succ enough))
  exact ⟨fun place => (followed _ k (Nat.lt_succ_of_le place.length_le)).tracks place⟩

end Follows

end Scriptlet.Template
