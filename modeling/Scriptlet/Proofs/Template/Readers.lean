import Scriptlet.Proofs.Template.Lexemes
import Scriptlet.Template.Grammar

/-!
# What the readers of the grammar take

One lemma for each way a reader of the grammar can succeed. What the start of a text decides about a
reader is said first, as an equation (`primary_bracket`, `signed_minus`): it holds whether the rest
is read or not, and no later proof opens the reader for it. A reader that loops over what follows
(`suffixes`, `chain`) is described by `Continues`: from a value and the text after the blanks behind
it, the loop arrives at a result. The loops look at nothing else, so a step of a loop is a step from
one pair of value and text to the next, and blanks never matter between two steps.
-/

set_option autoImplicit false

namespace Scriptlet

theorem Text.length_le_cons (c : Char) (text : List Char) : text.length ≤ (c :: text).length :=
  Nat.le_succ _

/-- A reading behind a character together with the character. -/
def Text.Reading.behind {α : Type} {text : List Char} (c : Char) (reading : Reading α text) :
    Reading α (c :: text) :=
  reading.widen (length_le_cons c text)

namespace Template

open Text

variable {α β : Type}

theorem ok_bind (value : α) (next : α → Except Failure β) : Except.ok value >>= next = next value :=
  rfl

/-- From a value, with the given text after the blanks behind it, the loop arrives at a result and
leaves the rest. -/
def Continues (loop : {origin : List Char} → Reading α origin → Except Failure (Reading β origin))
    (value : α) (next : List Char) (result : β) (rest : List Char) : Prop :=
  ∀ {origin : List Char} (reading : Reading α origin), reading.value = value →
    skipBlanks reading.rest = next → ∃ shorter, loop reading = .ok ⟨result, rest, shorter⟩

variable {limits : Limits} {inner : Inner}

theorem node_of_admits {text rest : List Char} {tree : Expr} {shorter : rest.length < text.length}
    (low : limits.admits tree = true) :
    node limits (⟨tree, rest, shorter⟩ : Reading Expr text) = .ok ⟨tree, rest, shorter⟩ := by
  rw [node, if_pos low]

/-! ## Lists of expressions -/

/-- The last item is followed by the closing mark. -/
theorem reads_itemsFrom_last {expression : Reader Expr} {close : Char} {text rest after : List Char}
    {item : Expr} (first : Reads expression text item rest)
    (closed : skipBlanks rest = close :: after) (last : close ≠ ',') :
    Reads (itemsFrom expression close) text [item] after := by
  obtain ⟨shorter, read⟩ := first
  obtain ⟨closeShorter, found⟩ := reads_closing closed
  have comma : mark? ',' (skipBlanks rest) = none := mark?_eq_none (by simp [closed, last])
  refine ⟨Nat.lt_trans closeShorter shorter, ?_⟩
  rw [itemsFrom]
  simp only [read, comma, found]
  rfl

/-- Any other item is followed by a comma. -/
theorem reads_itemsFrom_cons {expression : Reader Expr} {close : Char}
    {text rest next after : List Char} {item : Expr} {items : List Expr}
    (first : Reads expression text item rest) (comma : skipBlanks rest = ',' :: next)
    (others : Reads (itemsFrom expression close) next items after) :
    Reads (itemsFrom expression close) text (item :: items) after := by
  obtain ⟨shorter, read⟩ := first
  obtain ⟨commaShorter, found⟩ := mark?_of_eq comma
  obtain ⟨othersShorter, readOthers⟩ := others
  have blanks := length_skipBlanks_le rest
  refine ⟨by omega, ?_⟩
  rw [itemsFrom]
  simp only [read, found, readOthers]

theorem reads_items_nil {expression : Reader Expr} {close : Char} {text after : List Char}
    (closed : skipBlanks text = close :: after) :
    Reads (items expression close) text [] after := by
  obtain ⟨shorter, found⟩ := mark?_of_eq closed
  refine ⟨Nat.lt_of_lt_of_le shorter (length_skipBlanks_le text), ?_⟩
  simp only [items, found]
  rfl

theorem reads_items {expression : Reader Expr} {close : Char} {text after : List Char}
    {list : List Expr} (opens : ∀ c ∈ (skipBlanks text).head?, c ≠ close)
    (read : Reads (itemsFrom expression close) (skipBlanks text) list after) :
    Reads (items expression close) text list after := by
  obtain ⟨shorter, read⟩ := read
  refine ⟨Nat.lt_of_lt_of_le shorter (length_skipBlanks_le text), ?_⟩
  simp only [items, mark?_eq_none opens, read]
  rfl

/-! ## Primary expressions -/

/-- A class name without a dot after it is the whole name of the class. -/
theorem lastName_eq {origin : List Char} {first : Reading String origin}
    (single : ∀ c ∈ first.rest.head?, c ≠ '.') : lastName first = .ok first := by
  rw [lastName]
  simp only [mark?_eq_none single]

theorem stops_isNamePart_cons {c : Char} (plain : isNamePart c = false) (rest : List Char) :
    Stops isNamePart (c :: rest) := by
  intro d h
  cases h
  exact plain

/-- The class of a static member: names joined by dots, of which the last counts. -/
inductive Owner : List Char → String → List Char → Prop where
  | last {text rest : List Char} {owner : String} (read : Reads name text owner rest)
      (ends : ∀ c ∈ rest.head?, c ≠ '.') : Owner text owner rest
  | inside {text next rest : List Char} {package owner : String}
      (read : Reads name text package ('.' :: next)) (later : Owner next owner rest) :
      Owner text owner rest

theorem Owner.starts {text rest : List Char} {owner : String} (path : Owner text owner rest) :
    ∃ first, name text = .ok first := by
  cases path with
  | last read _ => exact ⟨_, read.2⟩
  | inside read _ => exact ⟨_, read.2⟩

/-- The last of the names is found, wherever the first of them has been read. -/
theorem lastName_of_owner {text rest : List Char} {owner : String} (path : Owner text owner rest)
    {first : Reading String text} (read : name text = .ok first) {origin : List Char}
    (reading : Reading String origin) (value : reading.value = first.value)
    (same : reading.rest = first.rest) :
    ∃ shorter, lastName reading = .ok ⟨owner, rest, shorter⟩ := by
  induction path generalizing origin with
  | last readLast ends =>
    obtain ⟨_, readLast⟩ := readLast
    cases read.symm.trans readLast
    obtain ⟨_, _, shorter⟩ := reading
    cases value
    cases same
    exact ⟨shorter, lastName_eq ends⟩
  | @inside _ next _ _ _ readPackage later ih =>
    obtain ⟨_, readPackage⟩ := readPackage
    cases read.symm.trans readPackage
    obtain ⟨_, _, shorter⟩ := reading
    cases value
    cases same
    obtain ⟨nextName, readNext⟩ := later.starts
    obtain ⟨dotShorter, dot⟩ := mark?_of_eq (rfl : '.' :: next = _)
    rw [lastName]
    simp only [dot, readNext]
    exact ih readNext _ rfl rfl

/-- Without a bracket behind it, the name of a member ends the reference. -/
theorem static_alone (limits : Limits) (inner : Inner) {owner member : String} {text next rest : List Char}
    (path : Owner text owner ('@' :: next)) (read : Reads name next member rest)
    (plain : ∀ c ∈ (skipBlanks rest).head?, c ≠ '(') :
    ∃ shorter, static limits inner text =
      node limits ⟨.static owner member [], skipBlanks rest, shorter⟩ := by
  obtain ⟨first, readFirst⟩ := path.starts
  obtain ⟨ownerShorter, readOwner⟩ := lastName_of_owner path readFirst first rfl rfl
  obtain ⟨markShorter, readMark⟩ := reads_mark .classMarkExpected (rfl : '@' :: next = _)
  obtain ⟨memberShorter, readMember⟩ := read
  have blanks := length_skipBlanks_le rest
  refine ⟨by omega, ?_⟩
  unfold static
  simp only [readFirst, readOwner, ok_bind, readMark, readMember, Reading.upTo, Reading.widen,
    Reading.blanksAfter, mark?_eq_none plain]
  rfl

/-- With a bracket behind it, arguments follow. -/
theorem static_call (limits : Limits) (inner : Inner) {owner member : String}
    {text next behind after : List Char} (path : Owner text owner ('@' :: next))
    (read : Reads name next member behind) (opens : skipBlanks behind = '(' :: after) :
    ∃ shorter : ∀ arguments : Reading (List Expr) after, arguments.rest.length < text.length,
      static limits inner text = (items inner.expression ')' after >>= fun arguments =>
        node limits ⟨.static owner member arguments.value, arguments.rest, shorter arguments⟩) := by
  obtain ⟨first, readFirst⟩ := path.starts
  obtain ⟨ownerShorter, readOwner⟩ := lastName_of_owner path readFirst first rfl rfl
  obtain ⟨markShorter, readMark⟩ := reads_mark .classMarkExpected (rfl : '@' :: next = _)
  obtain ⟨memberShorter, readMember⟩ := read
  obtain ⟨openShorter, opened⟩ := mark?_of_eq opens
  have blanks := length_skipBlanks_le behind
  refine ⟨fun arguments => by have := arguments.shorter; omega, ?_⟩
  unfold static
  simp only [readFirst, readOwner, ok_bind, readMark, readMember, Reading.upTo, Reading.widen,
    Reading.blanksAfter, opened]
  rfl

/-- A static member without arguments. -/
theorem reads_member {owner member : String} {text next rest : List Char}
    (path : Owner text owner ('@' :: next)) (read : Reads name next member rest)
    (plain : ∀ c ∈ (skipBlanks rest).head?, c ≠ '(')
    (low : limits.admits (.static owner member []) = true) :
    Reads (static limits inner) text (.static owner member []) (skipBlanks rest) := by
  obtain ⟨shorter, found⟩ := static_alone limits inner path read plain
  exact ⟨shorter, found.trans (node_of_admits low)⟩

/-- A static member with arguments. -/
theorem reads_memberCall {owner member : String} {text next behind after rest : List Char}
    {arguments : List Expr} (path : Owner text owner ('@' :: next))
    (read : Reads name next member behind) (opens : skipBlanks behind = '(' :: after)
    (each : Reads (items inner.expression ')') after arguments rest)
    (low : limits.admits (.static owner member arguments) = true) :
    Reads (static limits inner) text (.static owner member arguments) rest := by
  obtain ⟨whole, found⟩ := static_call limits inner path read opens
  obtain ⟨shorter, readArguments⟩ := each
  refine ⟨whole ⟨arguments, rest, shorter⟩, ?_⟩
  rw [found, readArguments]
  exact node_of_admits low

/-- A single name as a class. -/
theorem owner_of_isName {owner : String} (valid : isName owner = true) (next : List Char) :
    Owner (owner.toList ++ '@' :: next) owner ('@' :: next) :=
  .last (reads_name valid (stops_isNamePart_cons (by decide) next)) (by simp)

/-- A static member of a class with a single name, without arguments. -/
theorem reads_static {owner member : String} {rest : List Char} (validOwner : isName owner = true)
    (validMember : isName member = true) (stop : Stops isNamePart rest)
    (plain : ∀ c ∈ (skipBlanks rest).head?, c ≠ '(')
    (low : limits.admits (.static owner member []) = true) :
    Reads (static limits inner) (owner.toList ++ '@' :: (member.toList ++ rest))
      (.static owner member []) (skipBlanks rest) :=
  reads_member (owner_of_isName validOwner _) (reads_name validMember stop) plain low

/-- A static member of a class with a single name, with arguments. -/
theorem reads_static_call {owner member : String} {next rest : List Char} {arguments : List Expr}
    (validOwner : isName owner = true) (validMember : isName member = true)
    (read : Reads (items inner.expression ')') next arguments rest)
    (low : limits.admits (.static owner member arguments) = true) :
    Reads (static limits inner) (owner.toList ++ '@' :: (member.toList ++ '(' :: next))
      (.static owner member arguments) rest :=
  reads_memberCall (owner_of_isName validOwner _)
    (reads_name validMember (stops_isNamePart_cons (by decide) next))
    (skipBlanks_cons_of_not (by decide)) read low

theorem primary_bracket (next : List Char) : primary limits inner ('(' :: next) =
    (inner.expression next >>= fun inside => closing ')' inside.rest >>= fun closed =>
      .ok (((inside.upTo closed).withValue inside.value).behind '(')) := rfl

theorem primary_brace (next : List Char) : primary limits inner ('\x7b' :: next) =
    (items inner.expression '\x7d' next >>= fun list =>
      node limits ((list.withValue (.list list.value)).behind '\x7b')) := rfl

theorem primary_at (next : List Char) : primary limits inner ('@' :: next) =
    (static limits inner next >>= fun reference => .ok (reference.behind '@')) := rfl

theorem primary_quote {mark : Char} (opens : mark = '\'' ∨ mark = '"') (text : List Char) :
    primary limits inner (mark :: text) =
      (quoted (mark :: text) >>= fun content =>
        .ok (content.withValue (.literal (.string content.value)))) := by
  rcases opens with rfl | rfl <;> rfl

theorem primary_digit {c : Char} (digit : isDigit c = true) (text : List Char) :
    primary limits inner (c :: text) =
      (numeral false (c :: text) >>= fun number =>
        .ok (number.withValue (.literal (.number number.value)))) := by
  have group : c ≠ '(' := by rintro rfl; revert digit; decide
  have list : c ≠ '\x7b' := by rintro rfl; revert digit; decide
  have single : c ≠ '\'' := by rintro rfl; revert digit; decide
  have double : c ≠ '"' := by rintro rfl; revert digit; decide
  simp only [primary, if_neg group, if_neg list, single, double, decide_false, Bool.or_self,
    Bool.false_eq_true, if_false, if_pos digit]
  rfl

theorem primary_nameStart {c : Char} (start : isNameStart c = true) (text : List Char) :
    primary limits inner (c :: text) =
      (name (c :: text) >>= fun word => .ok (word.withValue (named word.value))) := by
  have group : c ≠ '(' := by rintro rfl; revert start; decide
  have list : c ≠ '\x7b' := by rintro rfl; revert start; decide
  have single : c ≠ '\'' := by rintro rfl; revert start; decide
  have double : c ≠ '"' := by rintro rfl; revert start; decide
  have at_ : c ≠ '@' := by rintro rfl; revert start; decide
  have digit : isDigit c = false := by
    cases h : isDigit c with
    | false => rfl
    | true => rw [isNameStart_eq_false_of_isDigit h] at start; cases start
  simp only [primary, if_neg group, if_neg list, single, double, decide_false, Bool.or_self,
    Bool.false_eq_true, if_false, digit, if_neg at_, if_pos start]
  rfl

/-- An expression in round brackets. -/
theorem reads_primary_group {next rest after : List Char} {tree : Expr}
    (read : Reads inner.expression next tree rest) (closed : skipBlanks rest = ')' :: after) :
    Reads (primary limits inner) ('(' :: next) tree after := by
  obtain ⟨shorter, read⟩ := read
  obtain ⟨closeShorter, found⟩ := reads_closing closed
  refine ⟨Nat.lt_succ_of_lt (Nat.lt_trans closeShorter shorter), ?_⟩
  simp only [primary_bracket, read, ok_bind, found]
  rfl

/-- A list. -/
theorem reads_primary_list {next after : List Char} {list : List Expr}
    (read : Reads (items inner.expression '\x7d') next list after)
    (low : limits.admits (.list list) = true) :
    Reads (primary limits inner) ('\x7b' :: next) (.list list) after := by
  obtain ⟨shorter, read⟩ := read
  refine ⟨Nat.lt_succ_of_lt shorter, ?_⟩
  rw [primary_brace, read]
  exact node_of_admits low

/-- A quoted text. -/
theorem reads_primary_text {mark : Char} {content : String} {text rest : List Char}
    (opens : mark = '\'' ∨ mark = '"') (read : Reads quoted (mark :: text) content rest) :
    Reads (primary limits inner) (mark :: text) (.literal (.string content)) rest := by
  obtain ⟨shorter, read⟩ := read
  exact ⟨shorter, by rw [primary_quote opens, read]; rfl⟩

/-- A text between single quotes. -/
theorem reads_primary_quoted (text : String) (rest : List Char) :
    Reads (primary limits inner) (quote text ++ rest) (.literal (.string text)) rest := by
  have read := reads_quoted text rest
  rw [quote_append] at read ⊢
  exact reads_primary_text (Or.inl rfl) read

/-- A numeral without sign. -/
theorem reads_primary_number {text rest : List Char} {value : Number}
    (starts : startsWithDigit text = true) (read : Reads (numeral false) text value rest) :
    Reads (primary limits inner) text (.literal (.number value)) rest := by
  obtain ⟨shorter, read⟩ := read
  cases text with
  | nil => cases starts
  | cons c tail => exact ⟨shorter, by rw [primary_digit starts, read]; rfl⟩

theorem reads_primary_numeral {digits rest : List Char} {value : Number}
    (starts : startsWithDigit digits = true) (read : Reads (numeral false) (digits ++ rest) value rest) :
    Reads (primary limits inner) (digits ++ rest) (.literal (.number value)) rest := by
  refine reads_primary_number ?_ read
  cases digits with
  | nil => cases starts
  | cons c tail => exact starts

/-- A reference to a static member. -/
theorem reads_primary_static {next rest : List Char} {tree : Expr}
    (read : Reads (static limits inner) next tree rest) :
    Reads (primary limits inner) ('@' :: next) tree rest := by
  obtain ⟨shorter, read⟩ := read
  exact ⟨Nat.lt_succ_of_lt shorter, by rw [primary_at, read]; rfl⟩

/-- A name alone. -/
theorem reads_primary_word {word : String} {text rest : List Char} (read : Reads name text word rest) :
    Reads (primary limits inner) text (named word) rest := by
  obtain ⟨c, tail, rfl, start⟩ := exists_start_of_reads_name read
  obtain ⟨shorter, read⟩ := read
  exact ⟨shorter, by rw [primary_nameStart start, read]; rfl⟩

theorem reads_primary_name {text : String} {rest : List Char} (valid : isName text = true)
    (stop : Stops isNamePart rest) :
    Reads (primary limits inner) (text.toList ++ rest) (named text) rest :=
  reads_primary_word (reads_name valid stop)

/-! ## What follows an operand -/

/-- A name is its own first character after blanks. -/
theorem reads_name_after_blanks {text : String} {rest : List Char} (valid : isName text = true)
    (stop : Stops isNamePart rest) :
    Reads name (skipBlanks (text.toList ++ rest)) text rest := by
  obtain ⟨c, tail, chars, start, -⟩ := isName_iff.mp valid
  have plain : skipBlanks (text.toList ++ rest) = text.toList ++ rest := by
    rw [chars, List.cons_append]
    exact skipBlanks_cons_of_not
      (isBlank_eq_false_of_isNamePart (isNamePart_of_isNameStart start))
  rw [plain]
  exact reads_name valid stop

/-- The text starts with something that may follow an operand. -/
def FindsSuffix (inner : Inner) (text : List Char) (suffix : Suffix) (rest : List Char) : Prop :=
  ∃ shorter, suffix? inner text = .ok (some ⟨suffix, rest, shorter⟩)

/-- A property, whose name may stand behind blanks. -/
theorem findsSuffix_member {member : String} {text rest : List Char}
    (read : Reads name (skipBlanks text) member rest)
    (plain : ∀ c ∈ (skipBlanks rest).head?, c ≠ '(') :
    FindsSuffix inner ('.' :: text) (.property member) (skipBlanks rest) := by
  obtain ⟨dotShorter, dot⟩ := mark?_of_eq (rfl : '.' :: text = _)
  obtain ⟨shorter, read⟩ := read
  have blanks := length_skipBlanks_le rest
  have blanksBefore := length_skipBlanks_le text
  refine ⟨by omega, ?_⟩
  simp only [suffix?, dot, read, ok_bind, Reading.upTo, Reading.widen, Reading.blanksBefore,
    Reading.blanksAfter, mark?_eq_none plain]
  rfl

theorem suffix?_call (inner : Inner) {member : String} {text behind next : List Char}
    (read : Reads name (skipBlanks text) member behind) (opens : skipBlanks behind = '(' :: next) :
    ∃ shorter : ∀ arguments : Reading (List Expr) next, arguments.rest.length < ('.' :: text).length,
      suffix? inner ('.' :: text) = (items inner.expression ')' next >>= fun arguments =>
        .ok (some ⟨.method member arguments.value, arguments.rest, shorter arguments⟩)) := by
  obtain ⟨dotShorter, dot⟩ := mark?_of_eq (rfl : '.' :: text = _)
  obtain ⟨nameShorter, readName⟩ := read
  obtain ⟨openShorter, opened⟩ := mark?_of_eq opens
  have blanks := length_skipBlanks_le behind
  have blanksBefore := length_skipBlanks_le text
  refine ⟨fun arguments => by have := arguments.shorter; omega, ?_⟩
  simp only [suffix?, dot, readName, ok_bind, Reading.upTo, Reading.widen, Reading.blanksBefore,
    Reading.blanksAfter, opened]
  rfl

theorem suffix?_bracket (next : List Char) : suffix? inner ('[' :: next) =
    (inner.expression next >>= fun position => closing ']' position.rest >>= fun closed =>
      .ok (some (((position.upTo closed).withValue (.index position.value)).behind '['))) := rfl

/-- A method call, whose name may stand behind blanks. -/
theorem findsSuffix_call {member : String} {text behind next rest : List Char}
    {arguments : List Expr} (read : Reads name (skipBlanks text) member behind)
    (opens : skipBlanks behind = '(' :: next)
    (each : Reads (items inner.expression ')') next arguments rest) :
    FindsSuffix inner ('.' :: text) (.method member arguments) rest := by
  obtain ⟨whole, found⟩ := suffix?_call inner read opens
  obtain ⟨shorter, readEach⟩ := each
  exact ⟨whole ⟨arguments, rest, shorter⟩, by rw [found, readEach]; rfl⟩

theorem findsSuffix_property {member : String} {rest : List Char} (valid : isName member = true)
    (stop : Stops isNamePart rest) (plain : ∀ c ∈ (skipBlanks rest).head?, c ≠ '(') :
    FindsSuffix inner ('.' :: (member.toList ++ rest)) (.property member) (skipBlanks rest) :=
  findsSuffix_member (reads_name_after_blanks valid stop) plain

theorem findsSuffix_method {member : String} {next rest : List Char} {arguments : List Expr}
    (valid : isName member = true) (read : Reads (items inner.expression ')') next arguments rest) :
    FindsSuffix inner ('.' :: (member.toList ++ '(' :: next)) (.method member arguments) rest :=
  findsSuffix_call (reads_name_after_blanks valid (stops_isNamePart_cons (by decide) next))
    (skipBlanks_cons_of_not (by decide)) read

/-- An index. -/
theorem findsSuffix_index {next rest after : List Char} {position : Expr}
    (read : Reads inner.expression next position rest) (closed : skipBlanks rest = ']' :: after) :
    FindsSuffix inner ('[' :: next) (.index position) after := by
  obtain ⟨shorter, read⟩ := read
  obtain ⟨closeShorter, found⟩ := reads_closing closed
  refine ⟨Nat.lt_succ_of_lt (Nat.lt_trans closeShorter shorter), ?_⟩
  simp only [suffix?_bracket, read, ok_bind, found]
  rfl

theorem suffix?_eq_none {text : List Char} (ends : ∀ c ∈ text.head?, c ≠ '.' ∧ c ≠ '[') :
    suffix? inner text = .ok none := by
  have dot : mark? '.' text = none := mark?_eq_none fun c h => (ends c h).1
  have index : mark? '[' text = none := mark?_eq_none fun c h => (ends c h).2
  simp only [suffix?, dot, index]
  rfl

/-- Where nothing follows an operand it is complete. -/
theorem continues_suffixes_stop {target : Expr} {next : List Char}
    (ends : ∀ c ∈ next.head?, c ≠ '.' ∧ c ≠ '[') :
    Continues (suffixes limits inner) target next target next := by
  rintro origin ⟨value, rest, shorter⟩ rfl rfl
  refine ⟨Nat.lt_of_le_of_lt (length_skipBlanks_le rest) shorter, ?_⟩
  show suffixes limits inner _ = _
  rw [suffixes]
  simp only [suffix?_eq_none ends]
  rfl

/-- What follows an operand is attached to it, and then the same goes on. -/
theorem continues_suffixes_step {target result : Expr} {next rest after : List Char}
    {suffix : Suffix} (found : FindsSuffix inner next suffix rest)
    (low : limits.admits (suffix.attach target) = true)
    (more : Continues (suffixes limits inner) (suffix.attach target) (skipBlanks rest) result after) :
    Continues (suffixes limits inner) target next result after := by
  rintro origin ⟨value, before, shorter⟩ rfl rfl
  obtain ⟨foundShorter, found⟩ := found
  show ∃ shorter, suffixes limits inner _ = _
  rw [suffixes]
  simp only [found, if_pos low]
  exact more _ rfl rfl

/-! ## Operands -/

theorem startsWith_singleton_of_head {c : Char} {text : List Char}
    (plain : ∀ d ∈ text.head?, d ≠ c) : startsWith text [c] = false := by
  cases text with
  | nil => rfl
  | cons d tail => simp [startsWith, after?, Ne.symm (plain d rfl)]

/-- Behind `!` an operand is denied, unless it is the start of `!=`. -/
theorem signed_denial {next : List Char} (plain : ∀ c ∈ next.head?, c ≠ '=') :
    signed limits inner ('!' :: next) = (inner.operand next >>= fun inside =>
      node limits ((inside.withValue (.not inside.value)).behind '!')) := by
  obtain ⟨signShorter, sign⟩ := mark?_of_eq (rfl : '!' :: next = _)
  have unequal : startsWith next ['='] = false := startsWith_singleton_of_head plain
  simp only [signed, sign, unequal, Bool.false_eq_true, if_false]
  rfl

/-- A minus sign before a numeral belongs to the numeral. -/
theorem signed_minus_digit {next : List Char} (digit : startsWithDigit (skipBlanks next) = true) :
    signed limits inner ('-' :: next) = (numeral true (skipBlanks next) >>= fun number =>
      suffixes limits inner
        ((number.withValue (Expr.literal (.number number.value))).blanksBefore.behind '-')) := by
  have deny : mark? '!' ('-' :: next) = none := mark?_eq_none (by simp)
  obtain ⟨signShorter, sign⟩ := mark?_of_eq (rfl : '-' :: next = _)
  simp only [signed, deny, sign, digit, if_true]
  rfl

/-- Before anything else it negates an operand. -/
theorem signed_minus {next : List Char} (plain : startsWithDigit (skipBlanks next) = false) :
    signed limits inner ('-' :: next) = (inner.operand (skipBlanks next) >>= fun inside =>
      node limits ((inside.withValue (.neg inside.value)).blanksBefore.behind '-')) := by
  have deny : mark? '!' ('-' :: next) = none := mark?_eq_none (by simp)
  obtain ⟨signShorter, sign⟩ := mark?_of_eq (rfl : '-' :: next = _)
  simp only [signed, deny, sign, plain, Bool.false_eq_true, if_false]
  rfl

theorem signed_unsigned {text : List Char} (unsigned : ∀ c ∈ text.head?, c ≠ '!' ∧ c ≠ '-') :
    signed limits inner text =
      (primary limits inner text >>= fun reading => suffixes limits inner reading) := by
  have deny : mark? '!' text = none := mark?_eq_none fun c h => (unsigned c h).1
  have sign : mark? '-' text = none := mark?_eq_none fun c h => (unsigned c h).2
  simp only [signed, deny, sign]

/-- A denied operand; `!=` is no denial. -/
theorem reads_signed_not {next rest : List Char} {tree : Expr}
    (read : Reads inner.operand next tree rest) (plain : ∀ c ∈ next.head?, c ≠ '=')
    (low : limits.admits (.not tree) = true) :
    Reads (signed limits inner) ('!' :: next) (.not tree) rest := by
  obtain ⟨shorter, read⟩ := read
  refine ⟨Nat.lt_succ_of_lt shorter, ?_⟩
  rw [signed_denial plain, read]
  exact node_of_admits low

/-- A negated operand that does not start with a digit. -/
theorem reads_signed_neg {next rest : List Char} {tree : Expr}
    (read : Reads inner.operand (skipBlanks next) tree rest)
    (plain : startsWithDigit (skipBlanks next) = false)
    (low : limits.admits (.neg tree) = true) :
    Reads (signed limits inner) ('-' :: next) (.neg tree) rest := by
  obtain ⟨shorter, read⟩ := read
  have blanks := length_skipBlanks_le next
  refine ⟨by simp only [List.length_cons]; omega, ?_⟩
  rw [signed_minus plain, read]
  exact node_of_admits low

/-- A numeral with a minus sign, and all that follows it. -/
theorem reads_signed_numeral {next rest after : List Char} {value : Number} {result : Expr}
    (digit : startsWithDigit (skipBlanks next) = true)
    (read : Reads (numeral true) (skipBlanks next) value rest)
    (more : Continues (suffixes limits inner) (.literal (.number value)) (skipBlanks rest)
      result after) :
    Reads (signed limits inner) ('-' :: next) result after := by
  obtain ⟨shorter, read⟩ := read
  unfold Reads
  rw [signed_minus_digit digit, read]
  exact more _ rfl rfl

/-- A primary expression, and all that follows it. -/
theorem reads_signed_primary {text rest after : List Char} {tree result : Expr}
    (unsigned : ∀ c ∈ text.head?, c ≠ '!' ∧ c ≠ '-')
    (read : Reads (primary limits inner) text tree rest)
    (more : Continues (suffixes limits inner) tree (skipBlanks rest) result after) :
    Reads (signed limits inner) text result after := by
  obtain ⟨shorter, read⟩ := read
  unfold Reads
  rw [signed_unsigned unsigned, read]
  exact more _ rfl rfl

/-- Blanks before an operand do not matter. -/
theorem reads_operand {text rest : List Char} {tree : Expr}
    (read : Reads (signed limits inner) (skipBlanks text) tree rest) :
    Reads (operand limits inner) text tree rest := by
  obtain ⟨shorter, read⟩ := read
  refine ⟨Nat.lt_of_lt_of_le shorter (length_skipBlanks_le text), ?_⟩
  simp only [operand, read]
  rfl

/-! ## Operators -/

/-- The text starts with the sign of one of the operators. -/
def FindsOperator (operators : List Operator) (text : List Char) (operator : Operator)
    (rest : List Char) : Prop :=
  ∃ shorter, operator? operators text = some ⟨operator, rest, shorter⟩

variable {operators : List Operator} {next : Reader Expr}

/-- Where no operator of the group follows, the left operand is all. -/
theorem continues_chain_stop {left : Expr} {text : List Char}
    (ends : operator? operators text = none) :
    Continues (chain limits operators next) left text left text := by
  rintro origin ⟨value, rest, shorter⟩ rfl rfl
  refine ⟨Nat.lt_of_le_of_lt (length_skipBlanks_le rest) shorter, ?_⟩
  show chain limits operators next _ = _
  rw [chain]
  simp only [ends]
  rfl

/-- A right operand is joined to the left one, and then the same goes on. -/
theorem continues_chain_step {left right result : Expr} {operator : Operator}
    {text rest behind after : List Char} (found : FindsOperator operators text operator rest)
    (read : Reads next rest right behind)
    (low : limits.admits (.binary operator left right) = true)
    (more : Continues (chain limits operators next) (.binary operator left right)
      (skipBlanks behind) result after) :
    Continues (chain limits operators next) left text result after := by
  rintro origin ⟨value, before, shorter⟩ rfl rfl
  obtain ⟨foundShorter, found⟩ := found
  obtain ⟨rightShorter, read⟩ := read
  show ∃ shorter, chain limits operators next _ = _
  rw [chain]
  simp only [found, read, if_pos low]
  exact more _ rfl rfl

/-- Without operators the left operand is all. -/
theorem chain_nil {origin : List Char} (left : Reading Expr origin) :
    chain limits [] next left = .ok left.blanksAfter := by
  rw [chain]
  rfl

theorem eq_of_continues_chain_nil {left result : Expr} {text after : List Char}
    (more : Continues (chain limits [] next) left text result after)
    (stop : skipBlanks text = text) : left = result ∧ text = after := by
  have shorter : text.length < (' ' :: text).length := Nat.lt_succ_self _
  obtain ⟨_, arrived⟩ := more ⟨left, text, shorter⟩ rfl stop
  have same := (chain_nil ⟨left, text, shorter⟩).symm.trans arrived
  simp only [Reading.blanksAfter, stop] at same
  injection same with same
  injection same with values rests
  exact ⟨values, rests⟩

theorem reads_group {text rest after : List Char} {left result : Expr}
    (read : Reads next text left rest)
    (more : Continues (chain limits operators next) left (skipBlanks rest) result after) :
    Reads (group limits operators next) text result after := by
  obtain ⟨shorter, read⟩ := read
  unfold Reads
  simp only [group, read, ok_bind]
  exact more _ rfl rfl

/-! ## Expressions -/

/-- An operation that no choice is made by. -/
theorem reads_expression {text rest : List Char} {tree : Expr}
    (read : Reads (operation limits inner) text tree rest)
    (ends : ∀ c ∈ (skipBlanks rest).head?, c ≠ '?') :
    Reads (expression limits inner) text tree (skipBlanks rest) := by
  obtain ⟨shorter, read⟩ := read
  refine ⟨Nat.lt_of_le_of_lt (length_skipBlanks_le rest) shorter, ?_⟩
  simp only [expression, read, ok_bind, Reading.blanksAfter, mark?_eq_none ends]
  rfl

/-- A choice between two expressions. -/
theorem reads_expression_choice {text rest next behind after last : List Char}
    {condition yes no : Expr} (readCondition : Reads (operation limits inner) text condition rest)
    (question : skipBlanks rest = '?' :: next) (readYes : Reads inner.expression next yes behind)
    (colon : skipBlanks behind = ':' :: after) (readNo : Reads inner.expression after no last)
    (low : limits.admits (.ternary condition yes no) = true) :
    Reads (expression limits inner) text (.ternary condition yes no) last := by
  obtain ⟨shorter, readCondition⟩ := readCondition
  obtain ⟨questionShorter, found⟩ := mark?_of_eq question
  obtain ⟨yesShorter, readYes⟩ := readYes
  obtain ⟨colonShorter, closed⟩ := reads_closing colon
  obtain ⟨noShorter, readNo⟩ := readNo
  have blanks := length_skipBlanks_le rest
  refine ⟨by omega, ?_⟩
  simp only [expression, readCondition, ok_bind, Reading.blanksAfter, found, readYes, closed, readNo]
  exact node_of_admits low

/-! ## Whole texts -/

/-- A text whose expression ends where the text does. -/
theorem wholeText_of_reads {text rest : List Char} {tree : Expr}
    (read : Reads (within limits (limits.levels text)).expression text tree rest)
    (ends : skipBlanks rest = []) : wholeText limits text = .ok tree := by
  obtain ⟨shorter, read⟩ := read
  simp only [wholeText, read, ok_bind, ends]
  rfl

end Template

end Scriptlet
