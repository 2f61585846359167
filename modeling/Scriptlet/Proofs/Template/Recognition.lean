import Scriptlet.Proofs.Template.Derivation

/-!
# What is read is derived

Whatever the limits, a reader that takes a tree from a text has found a derivation of it
(`Recognizes`). One lemma for each reader inverts its ways to succeed and puts the rule of the grammar in
their place; the readers of what is nested are assumed to recognize already (`Inner.Sound`), and an
induction over the levels discharges the assumption (`sound_within`).
-/

set_option autoImplicit false

namespace Scriptlet.Template

open Text

variable {α β : Type}

/-- The reader takes only trees that the grammar derives as the phrase. -/
def Recognizes (phrase : Measured → Phrase) (reader : Reader Expr) : Prop :=
  ∀ {text : List Char} {reading : Reading Expr text}, reader text = .ok reading →
    ∃ item : Measured, item.tree = reading.value ∧ Derives (phrase item) text reading.rest

/-- The reader takes only lists of trees that the grammar derives as the phrase. -/
def RecognizesEach (phrase : List Measured → Phrase) (reader : Reader (List Expr)) : Prop :=
  ∀ {text : List Char} {reading : Reading (List Expr) text}, reader text = .ok reading →
    ∃ items : List Measured, Measured.trees items = reading.value ∧
      Derives (phrase items) text reading.rest

/-- What is read as nested is derived. -/
structure Inner.Sound (inner : Inner) : Prop where
  expression : Recognizes .expression inner.expression
  operand : Recognizes (.operation 7) inner.operand

/-! ## Taking outcomes apart -/

theorem eq_ok_of_bind {outcome : Except Failure α} {next : α → Except Failure β} {result : β}
    (done : outcome >>= next = .ok result) : ∃ value, outcome = .ok value ∧ next value = .ok result := by
  cases outcome with
  | error failure => cases done
  | ok value => exact ⟨value, rfl, done⟩

theorem eq_ok_of_map {outcome : Except Failure α} {f : α → β} {result : β}
    (done : outcome.map f = .ok result) : ∃ value, outcome = .ok value ∧ f value = result := by
  cases outcome with
  | error failure => cases done
  | ok value => exact ⟨value, rfl, Except.ok.inj done⟩

theorem eq_cons_of_mark? {c : Char} {text : List Char} {reading : Reading Unit text}
    (found : mark? c text = some reading) : text = c :: reading.rest := by
  cases text with
  | nil => cases found
  | cons d rest =>
    rw [mark?] at found
    split at found
    · rename_i same
      cases found
      rw [same]
    · cases found

theorem head_ne_of_mark? {c : Char} {text : List Char} (absent : mark? c text = none) :
    ∀ d ∈ text.head?, d ≠ c := by
  intro d head same
  cases text with
  | nil => cases head
  | cons e rest =>
    cases head
    rw [mark?, if_pos same] at absent
    cases absent

theorem head_ne_of_not_startsWith {c : Char} {text : List Char}
    (absent : ¬startsWith text [c] = true) : ∀ d ∈ text.head?, d ≠ c := by
  intro d head same
  cases text with
  | nil => cases head
  | cons e rest =>
    cases head
    apply absent
    rw [same, startsWith, after?, if_pos rfl]
    rfl

theorem eq_cons_of_mark {c : Char} {reason : SyntaxFault} {text : List Char}
    {reading : Reading Unit text} (done : mark c reason text = .ok reading) :
    text = c :: reading.rest := by
  unfold mark at done
  split at done
  · rename_i found
    cases done
    exact eq_cons_of_mark? found
  · cases done

theorem skipBlanks_eq_of_closing {c : Char} {text : List Char} {reading : Reading Unit text}
    (done : closing c text = .ok reading) : skipBlanks text = c :: reading.rest := by
  obtain ⟨marked, read, rfl⟩ := eq_ok_of_map done
  exact eq_cons_of_mark read

theorem reads_of_eq_ok {reader : Reader α} {text : List Char} {reading : Reading α text}
    (done : reader text = .ok reading) : Reads reader text reading.value reading.rest :=
  ⟨reading.shorter, done⟩

theorem eq_of_node {limits : Limits} {text : List Char} {reading result : Reading Expr text}
    (done : node limits reading = .ok result) : reading = result := by
  unfold node at done
  split at done
  · exact Except.ok.inj done
  · cases done

/-! ## Lists of expressions -/

theorem recognizes_itemsFrom {reader : Reader Expr} (sound : Recognizes .expression reader)
    (close : Char) : RecognizesEach (.someItems close) (itemsFrom reader close) := by
  intro text reading done
  fun_induction itemsFrom reader close text with
  | case1 text failure _ => cases done
  | case2 text item read comma found _ failure _ => cases done
  | case3 text item read comma found _ others readOthers ih =>
    cases done
    obtain ⟨first, value, derived⟩ := sound read
    obtain ⟨rest, values, each⟩ := ih readOthers
    refine ⟨first.opened :: rest, ?_, .nextItem derived (eq_cons_of_mark? found) each⟩
    show first.tree :: Measured.trees rest = _
    rw [value, values]
  | case4 text item read absent failure _ => cases done
  | case5 text item read absent closed readClosed =>
    cases done
    obtain ⟨only, value, derived⟩ := sound read
    have mark := skipBlanks_eq_of_closing readClosed
    have last : close ≠ ',' := head_ne_of_mark? absent close (by rw [mark]; rfl)
    exact ⟨[only.opened], congrArg (fun tree => [tree]) value, .lastItem derived mark last⟩

theorem recognizes_items {reader : Reader Expr} (sound : Recognizes .expression reader)
    (close : Char) : RecognizesEach (.items close) (items reader close) := by
  intro text reading done
  unfold items at done
  split at done
  · rename_i closed found
    cases done
    exact ⟨[], rfl, .noItems (eq_cons_of_mark? found)⟩
  · rename_i absent
    obtain ⟨each, read, rfl⟩ := eq_ok_of_map done
    obtain ⟨list, values, derived⟩ := recognizes_itemsFrom sound close read
    exact ⟨list, values, .severalItems (head_ne_of_mark? absent) derived⟩

/-! ## Primary expressions -/

theorem owner_of_lastName {origin : List Char} {first result : Reading String origin}
    (done : lastName first = .ok result) {text : List Char}
    (read : Reads name text first.value first.rest) : Owner text result.value result.rest := by
  fun_induction lastName first generalizing text with
  | case1 first absent =>
    cases done
    exact .last read (head_ne_of_mark? absent)
  | case2 first dot found failure _ => cases done
  | case3 first dot found next readNext ih =>
    rw [eq_cons_of_mark? found] at read
    exact .inside read (ih done (reads_of_eq_ok readNext))

variable {limits : Limits} {inner : Inner}

/-- What stands behind the first mark of a reference to a static member. -/
theorem derives_of_static (sound : inner.Sound) {text : List Char} {reading : Reading Expr text}
    (done : static limits inner text = .ok reading) :
    ∃ item : Measured, item.tree = reading.value ∧ Derives (.primary item) ('@' :: text) reading.rest := by
  unfold static at done
  obtain ⟨first, readFirst, done⟩ := eq_ok_of_bind done
  obtain ⟨owner, readOwner, done⟩ := eq_ok_of_bind done
  obtain ⟨mark, readMark, done⟩ := eq_ok_of_bind done
  obtain ⟨member, readMember, done⟩ := eq_ok_of_bind done
  have path := owner_of_lastName readOwner (reads_of_eq_ok readFirst)
  rw [eq_cons_of_mark readMark] at path
  have memberRead := reads_of_eq_ok readMember
  dsimp only [Reading.upTo, Reading.widen, Reading.blanksAfter] at done
  split at done
  · rename_i opened found
    obtain ⟨arguments, readArguments, done⟩ := eq_ok_of_bind done
    obtain ⟨list, values, each⟩ := recognizes_items sound.expression ')' readArguments
    rw [← eq_of_node done]
    refine ⟨.static owner.value member.value list, ?_,
      .memberCall path memberRead (eq_cons_of_mark? found) each⟩
    exact congrArg (Expr.static owner.value member.value) values
  · rename_i absent
    rw [← eq_of_node done]
    exact ⟨.static owner.value member.value [], rfl, .member path memberRead (head_ne_of_mark? absent)⟩

theorem recognizes_primary (sound : inner.Sound) :
    Recognizes .primary (primary limits inner) := by
  intro text reading done
  cases text with
  | nil => cases done
  | cons c rest =>
    rw [primary] at done
    split at done
    · rename_i bracket
      obtain ⟨inside, read, done⟩ := eq_ok_of_bind done
      obtain ⟨closed, readClosed, done⟩ := eq_ok_of_bind done
      cases done
      obtain ⟨item, value, derived⟩ := sound.expression read
      rw [bracket]
      exact ⟨item.opened, value, .brackets derived (skipBlanks_eq_of_closing readClosed)⟩
    split at done
    · rename_i brace
      obtain ⟨items, read, done⟩ := eq_ok_of_bind done
      obtain ⟨list, values, each⟩ := recognizes_items sound.expression '\x7d' read
      rw [← eq_of_node done, brace]
      exact ⟨.list list, congrArg Expr.list values, .listed each⟩
    split at done
    · rename_i quotes
      obtain ⟨content, read, done⟩ := eq_ok_of_bind done
      cases done
      have opens : c = '\'' ∨ c = '"' := by
        simpa only [Bool.or_eq_true, decide_eq_true_eq] using quotes
      exact ⟨.leaf (.literal (.string content.value)), rfl, .quotedText opens (reads_of_eq_ok read)⟩
    split at done
    · rename_i digit
      obtain ⟨number, read, done⟩ := eq_ok_of_bind done
      cases done
      exact ⟨.leaf (.literal (.number number.value)), rfl, .unsignedNumeral digit (reads_of_eq_ok read)⟩
    split at done
    · rename_i at_
      obtain ⟨reference, read, done⟩ := eq_ok_of_bind done
      cases done
      rw [at_]
      exact derives_of_static sound read
    split at done
    · obtain ⟨word, read, done⟩ := eq_ok_of_bind done
      cases done
      exact ⟨.leaf (named word.value), rfl, .nameAlone (reads_of_eq_ok read)⟩
    · cases done

/-! ## What follows an operand -/

/-- What is found to follow an operand attaches to it by a rule of its own. -/
theorem derives_of_suffix (sound : inner.Sound) {text : List Char} {suffix : Reading Suffix text}
    (found : suffix? inner text = .ok (some suffix)) (target : Measured) :
    ∃ next : Measured, next.tree = suffix.value.attach target.tree ∧
      ∀ {whole : Measured} {rest : List Char},
        Derives (.extended next whole) (skipBlanks suffix.rest) rest →
          Derives (.extended target whole) text rest := by
  unfold suffix? at found
  split at found
  · rename_i dot begins
    have starts := eq_cons_of_mark? begins
    obtain ⟨member, readMember, found⟩ := eq_ok_of_bind found
    have memberRead := reads_of_eq_ok readMember
    dsimp only [Reading.upTo, Reading.widen, Reading.blanksBefore, Reading.blanksAfter] at found
    split at found
    · rename_i opened opens
      obtain ⟨arguments, readArguments, found⟩ := eq_ok_of_bind found
      obtain ⟨list, values, each⟩ := recognizes_items sound.expression ')' readArguments
      cases found
      refine ⟨.method target member.value list, ?_, fun more => ?_⟩
      · exact congrArg (Expr.method target.tree member.value) values
      · rw [starts]
        exact .method memberRead (eq_cons_of_mark? opens) each more
    · rename_i absent
      cases found
      refine ⟨.property target member.value, rfl, fun more => ?_⟩
      rw [Reading.withValue, skipBlanks_skipBlanks] at more
      rw [starts]
      exact .property memberRead (head_ne_of_mark? absent) more
  · split at found
    · rename_i opened begins
      have starts := eq_cons_of_mark? begins
      obtain ⟨position, readPosition, found⟩ := eq_ok_of_bind found
      obtain ⟨closed, readClosed, found⟩ := eq_ok_of_bind found
      cases found
      obtain ⟨item, value, inside⟩ := sound.expression readPosition
      refine ⟨.index target item.opened, ?_, fun more => ?_⟩
      · exact congrArg (Expr.index target.tree) value
      · rw [starts]
        exact .index inside (skipBlanks_eq_of_closing readClosed) more
    · cases found

/-- Where nothing is found to follow an operand, no suffix begins. -/
theorem head_ne_of_suffix? {text : List Char} (absent : suffix? inner text = .ok none) :
    ∀ c ∈ text.head?, c ≠ '.' ∧ c ≠ '[' := by
  unfold suffix? at absent
  split at absent
  · obtain ⟨word, _, absent⟩ := eq_ok_of_bind absent
    dsimp only at absent
    split at absent
    · obtain ⟨arguments, _, absent⟩ := eq_ok_of_bind absent
      cases absent
    · cases absent
  · rename_i dot
    split at absent
    · obtain ⟨position, _, absent⟩ := eq_ok_of_bind absent
      obtain ⟨closed, _, absent⟩ := eq_ok_of_bind absent
      cases absent
    · rename_i bracket
      exact fun c head => ⟨head_ne_of_mark? dot c head, head_ne_of_mark? bracket c head⟩

/-- An operand that has been read is extended by what the loop reads. -/
theorem derives_of_suffixes (sound : inner.Sound) {origin : List Char}
    {target result : Reading Expr origin} (done : suffixes limits inner target = .ok result)
    {item : Measured} (value : item.tree = target.value) :
    ∃ whole : Measured, whole.tree = result.value ∧
      Derives (.extended item whole) (skipBlanks target.rest) result.rest := by
  fun_induction suffixes limits inner target generalizing item with
  | case1 target failure _ => cases done
  | case2 target absent =>
    cases done
    exact ⟨item, value, .complete (head_ne_of_suffix? absent)⟩
  | case3 target suffix found whole low ih =>
    obtain ⟨next, attached, extend⟩ := derives_of_suffix sound found item
    rw [value] at attached
    obtain ⟨whole, values, more⟩ := ih done attached
    exact ⟨whole, values, extend more⟩
  | case4 target suffix found whole high => cases done

/-! ## Operands -/

theorem recognizes_signed (sound : inner.Sound) : Recognizes .signed (signed limits inner) := by
  intro text reading done
  unfold signed at done
  split at done
  · rename_i sign begins
    split at done
    · cases done
    · rename_i plain
      obtain ⟨operand, read, done⟩ := eq_ok_of_bind done
      obtain ⟨item, value, inside⟩ := sound.operand read
      have denied := Derives.denied (head_ne_of_not_startsWith plain) inside
      rw [← eq_cons_of_mark? begins] at denied
      rw [← eq_of_node done]
      exact ⟨.not item.opened, congrArg Expr.not value, denied⟩
  · rename_i deny
    split at done
    · rename_i sign begins
      have starts := eq_cons_of_mark? begins
      split at done
      · rename_i digit
        obtain ⟨number, read, done⟩ := eq_ok_of_bind done
        have value : (Measured.leaf (.literal (.number number.value))).tree = _ := rfl
        obtain ⟨whole, values, more⟩ := derives_of_suffixes sound done value
        have negative := Derives.negative digit (reads_of_eq_ok read) more
        rw [← starts] at negative
        exact ⟨whole, values, negative⟩
      · rename_i plain
        obtain ⟨operand, read, done⟩ := eq_ok_of_bind done
        obtain ⟨item, value, inside⟩ := sound.operand read
        have negated := Derives.negated (Bool.eq_false_iff.mpr plain) inside
        rw [← starts] at negated
        rw [← eq_of_node done]
        exact ⟨.neg item.opened, congrArg Expr.neg value, negated⟩
    · rename_i sign
      obtain ⟨operand, read, done⟩ := eq_ok_of_bind done
      obtain ⟨target, value, first⟩ := recognizes_primary sound read
      obtain ⟨whole, values, more⟩ := derives_of_suffixes sound done value
      refine ⟨whole, values, .unsigned (fun c head => ?_) first more⟩
      exact ⟨head_ne_of_mark? deny c head, head_ne_of_mark? sign c head⟩

theorem recognizes_operand (sound : inner.Sound) :
    Recognizes (.operation 7) (operand limits inner) := by
  intro text reading done
  obtain ⟨inside, read, rfl⟩ := eq_ok_of_map done
  obtain ⟨item, value, derived⟩ := recognizes_signed sound read
  exact ⟨item, value, .bare derived⟩

/-! ## Operators -/

/-- A left operand that has been read is joined to what the loop reads. -/
theorem derives_of_chain {level : Nat} {next : Reader Expr}
    (sound : Recognizes (.operation (level + 1)) next) {origin : List Char}
    {left result : Reading Expr origin} (done : chain limits (operatorsAt level) next left = .ok result)
    {item : Measured} (value : item.tree = left.value) :
    ∃ whole : Measured, whole.tree = result.value ∧
      Derives (.joined level item whole) (skipBlanks left.rest) result.rest := by
  fun_induction chain limits (operatorsAt level) next left generalizing item with
  | case1 left absent =>
    cases done
    exact ⟨item, value, .alone absent⟩
  | case2 left sign found failure _ => cases done
  | case3 left sign found right read joined low ih =>
    obtain ⟨second, valueRight, derived⟩ := sound read
    have joins : (Measured.binary sign.value item second).tree = joined := by
      show Expr.binary sign.value item.tree second.tree = Expr.binary sign.value left.value right.value
      rw [value, valueRight]
    obtain ⟨whole, values, more⟩ := ih done joins
    exact ⟨whole, values, .join ⟨sign.shorter, found⟩ derived more⟩
  | case4 left sign found right read joined high => cases done

/-- Below the signs, the levels are loops around the level above. -/
theorem recognizes_readerAt (sound : inner.Sound) {level : Nat} (low : 1 ≤ level) (high : level ≤ 7) :
    Recognizes (.operation level) (readerAt limits inner level) := by
  induction high using Nat.decreasingInduction with
  | self =>
    rw [readerAt_eq_operand (Nat.le_refl 7)]
    exact recognizes_operand sound
  | of_succ level below ih =>
    rw [readerAt_eq_group low (Nat.le_of_lt_succ below)]
    intro text reading done
    obtain ⟨left, read, done⟩ := eq_ok_of_bind done
    obtain ⟨item, value, first⟩ := ih (Nat.le_succ_of_le low) read
    obtain ⟨whole, values, more⟩ := derives_of_chain (ih (Nat.le_succ_of_le low)) done value
    exact ⟨whole, values, .leftmost low (Nat.le_of_lt_succ below) first more⟩

/-! ## Expressions -/

theorem recognizes_expression (sound : inner.Sound) :
    Recognizes .expression (expression limits inner) := by
  intro text reading done
  obtain ⟨condition, read, done⟩ := eq_ok_of_bind done
  obtain ⟨decides, value, derived⟩ := recognizes_readerAt sound (Nat.le_refl 1) (by decide) read
  dsimp only [Reading.blanksAfter] at done
  split at done
  · rename_i absent
    cases done
    exact ⟨decides, value, .unconditional derived (head_ne_of_mark? absent)⟩
  · rename_i question found
    obtain ⟨yes, readYes, done⟩ := eq_ok_of_bind done
    obtain ⟨colon, readColon, done⟩ := eq_ok_of_bind done
    obtain ⟨no, readNo, done⟩ := eq_ok_of_bind done
    obtain ⟨first, valueFirst, derivedFirst⟩ := sound.expression readYes
    obtain ⟨second, valueSecond, derivedSecond⟩ := sound.expression readNo
    rw [← eq_of_node done]
    refine ⟨.ternary decides first.opened second.opened, ?_,
      .choice derived (eq_cons_of_mark? found) derivedFirst (skipBlanks_eq_of_closing readColon)
        derivedSecond⟩
    show Expr.ternary decides.tree first.tree second.tree = _
    rw [value, valueFirst, valueSecond]
    rfl

/-- At every depth, what is read as nested is derived. -/
theorem sound_within (limits : Limits) (depth : Nat) : (within limits depth).Sound := by
  induction depth with
  | zero => exact ⟨nofun, nofun⟩
  | succ depth ih => exact ⟨recognizes_expression ih, recognizes_operand ih⟩

/-- What a whole text is read as is derived from it, up to blanks at its end. -/
theorem derives_of_wholeText {text : List Char} {tree : Expr} (done : wholeText limits text = .ok tree) :
    ∃ (item : Measured) (rest : List Char), item.tree = tree ∧ Derives (.expression item) text rest ∧
      skipBlanks rest = [] := by
  obtain ⟨reading, read, done⟩ := eq_ok_of_bind done
  obtain ⟨item, value, derived⟩ := (sound_within limits (limits.levels text)).expression read
  split at done
  · rename_i ends
    cases done
    exact ⟨item, reading.rest, value, derived, ends⟩
  · cases done

end Scriptlet.Template
