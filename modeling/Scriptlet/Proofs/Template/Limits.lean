import Scriptlet.Proofs.Template.Derivation

/-!
# Limits

What limits do to a text that the grammar derives: it is read as what it derives if the measures of that
fit, and otherwise reading stops because something is too deep (`Takes`, `Goes`). There is no third way.
Each reader keeps this law as soon as the readers of its parts do, and an induction over derivations
brings it to all of them (`Derives.obeys`).
-/

set_option autoImplicit false

namespace Scriptlet.Template

open Text

variable {α β : Type}

/-- A failure for the limits alone. -/
def TooDeep (outcome : Except Failure α) : Prop :=
  ∃ rest, outcome = .error ⟨.tooDeep, rest⟩

theorem tooDeep_failAt (text : List Char) : TooDeep (failAt .tooDeep text : Except Failure α) :=
  ⟨text, rfl⟩

/-- Nothing is read behind what is too deep. -/
theorem TooDeep.bind {outcome : Except Failure α} (deep : TooDeep outcome)
    (next : α → Except Failure β) : TooDeep (outcome >>= next) := by
  obtain ⟨rest, rfl⟩ := deep
  exact ⟨rest, rfl⟩

theorem TooDeep.map {outcome : Except Failure α} (deep : TooDeep outcome) (f : α → β) :
    TooDeep (outcome.map f) := by
  obtain ⟨rest, rfl⟩ := deep
  exact ⟨rest, rfl⟩

/-- The reader takes the value if it fits, and is too deep if it does not. -/
structure Takes (fits : Prop) (reader : Reader α) (text : List Char) (value : α)
    (rest : List Char) : Prop where
  reads : fits → Reads reader text value rest
  deep : ¬fits → TooDeep (reader text)

/-- From a value, the loop arrives at the result if it fits, and is too deep if it does not. -/
structure Goes (fits : Prop)
    (loop : {origin : List Char} → Reading α origin → Except Failure (Reading β origin))
    (value : α) (next : List Char) (result : β) (rest : List Char) : Prop where
  continues : fits → Continues loop value next result rest
  deep : ¬fits → ∀ {origin : List Char} (reading : Reading α origin), reading.value = value →
    skipBlanks reading.rest = next → TooDeep (loop reading)

theorem Takes.congr {fits other : Prop} {reader : Reader α} {text rest : List Char} {value : α}
    (same : fits ↔ other) (takes : Takes fits reader text value rest) :
    Takes other reader text value rest :=
  ⟨fun h => takes.reads (same.mpr h), fun h => takes.deep (mt same.mp h)⟩

theorem takes_of_reads {fits : Prop} {reader : Reader α} {text rest : List Char} {value : α}
    (read : Reads reader text value rest) (holds : fits) : Takes fits reader text value rest :=
  ⟨fun _ => read, fun fails => absurd holds fails⟩

variable {limits : Limits} {inner : Inner} {fits fitsLeft fitsRight : Prop}

theorem tooDeep_node {text : List Char} {reading : Reading Expr text}
    (high : limits.admits reading.value ≠ true) : TooDeep (node limits reading) := by
  rw [node, if_neg high]
  exact tooDeep_failAt _

/-- A node over a part is too deep if the part is, or if the node itself is. -/
theorem tooDeep_bind_node {reader : Reader α} {text rest origin : List Char} {value : α} {tree : Expr}
    {whole : Reading α text → Reading Expr origin} (part : Takes fits reader text value rest)
    (values : ∀ shorter, (whole ⟨value, rest, shorter⟩).value = tree)
    (high : ¬(fits ∧ limits.admits tree = true)) :
    TooDeep (reader text >>= fun reading => node limits (whole reading)) := by
  by_cases inside : fits
  · obtain ⟨shorter, read⟩ := part.reads inside
    rw [read]
    refine tooDeep_node fun low => high ⟨inside, ?_⟩
    rwa [values shorter] at low
  · exact (part.deep inside).bind _

/-! ## Lists of expressions -/

variable {reader : Reader Expr}

theorem tooDeep_itemsFrom {close : Char} {text : List Char} (deep : TooDeep (reader text)) :
    TooDeep (itemsFrom reader close text) := by
  obtain ⟨rest, failed⟩ := deep
  refine ⟨rest, ?_⟩
  rw [itemsFrom]
  simp only [failed]

theorem takes_itemsFrom_last {close : Char} {text rest after : List Char} {item : Expr}
    (first : Takes fits reader text item rest) (closed : skipBlanks rest = close :: after)
    (last : close ≠ ',') : Takes fits (itemsFrom reader close) text [item] after where
  reads h := reads_itemsFrom_last (first.reads h) closed last
  deep h := tooDeep_itemsFrom (first.deep h)

theorem takes_itemsFrom_cons {close : Char} {text rest next after : List Char} {item : Expr}
    {items : List Expr} (first : Takes fitsLeft reader text item rest)
    (comma : skipBlanks rest = ',' :: next)
    (others : Takes fitsRight (itemsFrom reader close) next items after) :
    Takes (fitsLeft ∧ fitsRight) (itemsFrom reader close) text (item :: items) after where
  reads h := reads_itemsFrom_cons (first.reads h.1) comma (others.reads h.2)
  deep h := by
    by_cases left : fitsLeft
    · obtain ⟨rest', failed⟩ := others.deep fun right => h ⟨left, right⟩
      obtain ⟨shorter, read⟩ := first.reads left
      obtain ⟨commaShorter, found⟩ := mark?_of_eq comma
      refine ⟨rest', ?_⟩
      rw [itemsFrom]
      simp only [read, found, failed]
    · exact tooDeep_itemsFrom (first.deep left)

theorem takes_items {close : Char} {text after : List Char} {list : List Expr}
    (opens : ∀ c ∈ (skipBlanks text).head?, c ≠ close)
    (read : Takes fits (itemsFrom reader close) (skipBlanks text) list after) :
    Takes fits (items reader close) text list after where
  reads h := reads_items opens (read.reads h)
  deep h := by
    simp only [items, mark?_eq_none opens]
    exact (read.deep h).map _

/-! ## Primary expressions -/

theorem takes_member {owner member : String} {text next rest : List Char}
    (path : Owner text owner ('@' :: next)) (read : Reads name next member rest)
    (plain : ∀ c ∈ (skipBlanks rest).head?, c ≠ '(') :
    Takes (limits.admits (.static owner member []) = true) (static limits inner) text
      (.static owner member []) (skipBlanks rest) where
  reads low := reads_member path read plain low
  deep high := by
    obtain ⟨shorter, found⟩ := static_alone limits inner path read plain
    rw [found]
    exact tooDeep_node high

theorem takes_memberCall {owner member : String} {text next behind after rest : List Char}
    {arguments : List Expr} (path : Owner text owner ('@' :: next))
    (read : Reads name next member behind) (opens : skipBlanks behind = '(' :: after)
    (each : Takes fits (items inner.expression ')') after arguments rest) :
    Takes (fits ∧ limits.admits (.static owner member arguments) = true) (static limits inner) text
      (.static owner member arguments) rest where
  reads h := reads_memberCall path read opens (each.reads h.1) h.2
  deep h := by
    obtain ⟨whole, found⟩ := static_call limits inner path read opens
    rw [found]
    exact tooDeep_bind_node each (fun _ => rfl) h

theorem takes_primary_group {next rest after : List Char} {tree : Expr}
    (read : Takes fits inner.expression next tree rest) (closed : skipBlanks rest = ')' :: after) :
    Takes fits (primary limits inner) ('(' :: next) tree after where
  reads h := reads_primary_group (read.reads h) closed
  deep h := by
    rw [primary_bracket]
    exact (read.deep h).bind _

theorem takes_primary_list {next after : List Char} {list : List Expr}
    (read : Takes fits (items inner.expression '\x7d') next list after) :
    Takes (fits ∧ limits.admits (.list list) = true) (primary limits inner) ('\x7b' :: next)
      (.list list) after where
  reads h := reads_primary_list (read.reads h.1) h.2
  deep h := by
    rw [primary_brace]
    exact tooDeep_bind_node read (fun _ => rfl) h

theorem takes_primary_static {next rest : List Char} {tree : Expr}
    (read : Takes fits (static limits inner) next tree rest) :
    Takes fits (primary limits inner) ('@' :: next) tree rest where
  reads h := reads_primary_static (read.reads h)
  deep h := by
    rw [primary_at]
    exact (read.deep h).bind _

/-! ## What follows an operand -/

theorem goes_suffixes_stop {target : Expr} {next : List Char}
    (ends : ∀ c ∈ next.head?, c ≠ '.' ∧ c ≠ '[') (holds : fits) :
    Goes fits (suffixes limits inner) target next target next where
  continues _ := continues_suffixes_stop ends
  deep h := absurd holds h

/-- What follows an operand is too deep by itself, together with the operand, or not at all. -/
theorem goes_suffixes_step {target result : Expr} {next rest after : List Char} {suffix : Suffix}
    (found : fitsLeft → FindsSuffix inner next suffix rest)
    (deep : ¬fitsLeft → TooDeep (suffix? inner next))
    (more : fitsLeft → limits.admits (suffix.attach target) = true →
      Goes fits (suffixes limits inner) (suffix.attach target) (skipBlanks rest) result after)
    (parts : fits → fitsLeft ∧ limits.admits (suffix.attach target) = true) :
    Goes fits (suffixes limits inner) target next result after where
  continues h :=
    continues_suffixes_step (found (parts h).1) (parts h).2 ((more (parts h).1 (parts h).2).continues h)
  deep h := by
    rintro origin ⟨value, before, shorter⟩ rfl rfl
    show TooDeep (suffixes limits inner _)
    rw [suffixes]
    by_cases left : fitsLeft
    · obtain ⟨foundShorter, finds⟩ := found left
      simp only [finds]
      by_cases low : limits.admits (suffix.attach value) = true
      · simp only [if_pos low]
        exact (more left low).deep h _ rfl rfl
      · simp only [if_neg low]
        exact tooDeep_failAt rest
    · obtain ⟨behind, failed⟩ := deep left
      simp only [failed]
      exact tooDeep_failAt behind

theorem tooDeep_suffix_call {member : String} {text behind next : List Char}
    (read : Reads name (skipBlanks text) member behind) (opens : skipBlanks behind = '(' :: next)
    (deep : TooDeep (items inner.expression ')' next)) : TooDeep (suffix? inner ('.' :: text)) := by
  obtain ⟨whole, found⟩ := suffix?_call inner read opens
  rw [found]
  exact deep.bind _

theorem tooDeep_suffix_index {text : List Char} (deep : TooDeep (inner.expression text)) :
    TooDeep (suffix? inner ('[' :: text)) := by
  rw [suffix?_bracket]
  exact deep.bind _

/-! ## Operands -/

theorem takes_signed_not {next rest : List Char} {tree : Expr}
    (read : Takes fits inner.operand next tree rest) (plain : ∀ c ∈ next.head?, c ≠ '=') :
    Takes (fits ∧ limits.admits (.not tree) = true) (signed limits inner) ('!' :: next) (.not tree)
      rest where
  reads h := reads_signed_not (read.reads h.1) plain h.2
  deep h := by
    rw [signed_denial plain]
    exact tooDeep_bind_node read (fun _ => rfl) h

theorem takes_signed_neg {next rest : List Char} {tree : Expr}
    (read : Takes fits inner.operand (skipBlanks next) tree rest)
    (plain : startsWithDigit (skipBlanks next) = false) :
    Takes (fits ∧ limits.admits (.neg tree) = true) (signed limits inner) ('-' :: next) (.neg tree)
      rest where
  reads h := reads_signed_neg (read.reads h.1) plain h.2
  deep h := by
    rw [signed_minus plain]
    exact tooDeep_bind_node read (fun _ => rfl) h

theorem takes_signed_numeral {next rest after : List Char} {value : Number} {result : Expr}
    (digit : startsWithDigit (skipBlanks next) = true)
    (read : Reads (numeral true) (skipBlanks next) value rest)
    (more : Goes fits (suffixes limits inner) (.literal (.number value)) (skipBlanks rest) result
      after) :
    Takes fits (signed limits inner) ('-' :: next) result after where
  reads h := reads_signed_numeral digit read (more.continues h)
  deep h := by
    obtain ⟨shorter, read⟩ := read
    rw [signed_minus_digit digit, read]
    exact more.deep h _ rfl rfl

theorem takes_signed_primary {text rest after : List Char} {tree result : Expr}
    (unsigned : ∀ c ∈ text.head?, c ≠ '!' ∧ c ≠ '-')
    (read : Takes fitsLeft (primary limits inner) text tree rest)
    (more : fitsLeft → Goes fits (suffixes limits inner) tree (skipBlanks rest) result after)
    (parts : fits → fitsLeft) : Takes fits (signed limits inner) text result after where
  reads h := reads_signed_primary unsigned (read.reads (parts h)) ((more (parts h)).continues h)
  deep h := by
    rw [signed_unsigned unsigned]
    by_cases left : fitsLeft
    · obtain ⟨shorter, readPrimary⟩ := read.reads left
      rw [readPrimary]
      exact (more left).deep h _ rfl rfl
    · exact (read.deep left).bind _

theorem takes_operand {text rest : List Char} {tree : Expr}
    (read : Takes fits (signed limits inner) (skipBlanks text) tree rest) :
    Takes fits (operand limits inner) text tree rest where
  reads h := reads_operand (read.reads h)
  deep h := (read.deep h).map _

/-! ## Operators -/

variable {operators : List Operator} {next : Reader Expr}

theorem goes_chain_stop {left : Expr} {text : List Char} (ends : operator? operators text = none)
    (holds : fits) : Goes fits (chain limits operators next) left text left text where
  continues _ := continues_chain_stop ends
  deep h := absurd holds h

theorem goes_chain_step {left right result : Expr} {operator : Operator}
    {text rest behind after : List Char} (found : FindsOperator operators text operator rest)
    (read : Takes fitsRight next rest right behind)
    (more : fitsRight → limits.admits (.binary operator left right) = true →
      Goes fits (chain limits operators next) (.binary operator left right) (skipBlanks behind)
        result after)
    (parts : fits → fitsRight ∧ limits.admits (.binary operator left right) = true) :
    Goes fits (chain limits operators next) left text result after where
  continues h :=
    continues_chain_step found (read.reads (parts h).1) (parts h).2
      ((more (parts h).1 (parts h).2).continues h)
  deep h := by
    rintro origin ⟨value, before, shorter⟩ rfl rfl
    obtain ⟨foundShorter, found⟩ := found
    show TooDeep (chain limits operators next _)
    rw [chain]
    simp only [found]
    by_cases right' : fitsRight
    · obtain ⟨rightShorter, readRight⟩ := read.reads right'
      simp only [readRight]
      by_cases low : limits.admits (.binary operator value right) = true
      · simp only [if_pos low]
        exact (more right' low).deep h _ rfl rfl
      · simp only [if_neg low]
        exact tooDeep_failAt behind
    · obtain ⟨behind', failed⟩ := read.deep right'
      simp only [failed]
      exact tooDeep_failAt behind'

theorem takes_group {text rest after : List Char} {left result : Expr}
    (read : Takes fitsLeft next text left rest)
    (more : fitsLeft → Goes fits (chain limits operators next) left (skipBlanks rest) result after)
    (parts : fits → fitsLeft) : Takes fits (group limits operators next) text result after where
  reads h := reads_group (read.reads (parts h)) ((more (parts h)).continues h)
  deep h := by
    by_cases left' : fitsLeft
    · obtain ⟨shorter, readLeft⟩ := read.reads left'
      simp only [group, readLeft, ok_bind]
      exact (more left').deep h _ rfl rfl
    · exact (read.deep left').bind _

/-! ## Expressions -/

theorem takes_expression {text rest : List Char} {tree : Expr}
    (read : Takes fits (operation limits inner) text tree rest)
    (ends : ∀ c ∈ (skipBlanks rest).head?, c ≠ '?') :
    Takes fits (expression limits inner) text tree (skipBlanks rest) where
  reads h := reads_expression (read.reads h) ends
  deep h := (read.deep h).bind _

theorem takes_expression_choice {fitsYes fitsNo : Prop}
    {text rest next behind after last : List Char} {condition yes no : Expr}
    (readCondition : Takes fits (operation limits inner) text condition rest)
    (question : skipBlanks rest = '?' :: next)
    (readYes : Takes fitsYes inner.expression next yes behind)
    (colon : skipBlanks behind = ':' :: after)
    (readNo : Takes fitsNo inner.expression after no last) :
    Takes (fits ∧ fitsYes ∧ fitsNo ∧ limits.admits (.ternary condition yes no) = true)
      (expression limits inner) text (.ternary condition yes no) last where
  reads h := reads_expression_choice (readCondition.reads h.1) question (readYes.reads h.2.1) colon
    (readNo.reads h.2.2.1) h.2.2.2
  deep h := by
    by_cases decided : fits
    · obtain ⟨shorter, read⟩ := readCondition.reads decided
      obtain ⟨questionShorter, found⟩ := mark?_of_eq question
      simp only [expression, read, ok_bind, Reading.blanksAfter, found]
      by_cases first : fitsYes
      · obtain ⟨yesShorter, readFirst⟩ := readYes.reads first
        obtain ⟨colonShorter, closed⟩ := reads_closing colon
        simp only [readFirst, ok_bind, closed]
        by_cases second : fitsNo
        · obtain ⟨noShorter, readSecond⟩ := readNo.reads second
          simp only [readSecond, ok_bind]
          exact tooDeep_node fun low => h ⟨decided, first, second, low⟩
        · exact (readNo.deep second).bind _
      · exact (readYes.deep first).bind _
    · exact (readCondition.deep decided).bind _

/-! ## What fits -/

/-- The measures of a tree are within a depth and the limit on heights. -/
structure Measured.Fits (limits : Limits) (depth : Nat) (item : Measured) : Prop where
  nesting : item.nesting ≤ depth
  height : limits.admits item.tree = true

/-- Limits under which a single node is low enough. -/
def Limits.AdmitLeaves (limits : Limits) : Prop :=
  ∀ tree : Expr, tree.height = 1 → limits.admits tree = true

theorem admits_of_height_le {tree taller : Expr} (le : tree.height ≤ taller.height)
    (low : limits.admits taller = true) : limits.admits tree = true := by
  unfold Limits.admits Limits.allows at low ⊢
  split at low
  · rename_i height _
    exact decide_eq_true (Nat.le_trans le (of_decide_eq_true low))
  · rfl

theorem admits_none (tree : Expr) : Limits.none.admits tree = true :=
  rfl

namespace Measured

variable {depth : Nat} {item target : Measured} {items : List Measured}

theorem Fits.mono {smaller : Measured} (fits : item.Fits limits depth)
    (nesting : smaller.nesting ≤ item.nesting) (height : smaller.tree.height ≤ item.tree.height) :
    smaller.Fits limits depth :=
  ⟨Nat.le_trans nesting fits.nesting, admits_of_height_le height fits.height⟩

theorem fits_opened : item.opened.Fits limits (depth + 1) ↔ item.Fits limits depth :=
  ⟨fun fits => ⟨Nat.le_of_succ_le_succ fits.nesting, fits.height⟩,
    fun fits => ⟨Nat.succ_le_succ fits.nesting, fits.height⟩⟩

theorem not_fits_opened_zero : ¬item.opened.Fits limits 0 :=
  fun fits => Nat.not_succ_le_zero _ fits.nesting

theorem deepest_le_iff : deepest items ≤ depth ↔ ∀ item ∈ items, item.nesting ≤ depth := by
  induction items with
  | nil => simp [deepest]
  | cons item rest ih => rw [deepest, Nat.max_le, ih, List.forall_mem_cons]

/-- A tree with a list of subtrees fits if they do and it is low enough itself. -/
theorem each_fits_iff {tree : Expr} (taller : Expr.tallest (trees items) ≤ tree.height) :
    (∀ item ∈ items, item.Fits limits depth) ∧ limits.admits tree = true ↔
      deepest items ≤ depth ∧ limits.admits tree = true := by
  rw [deepest_le_iff]
  refine ⟨fun fits => ⟨fun item member => (fits.1 item member).nesting, fits.2⟩, fun fits => ?_⟩
  refine ⟨fun item member => ⟨fits.1 item member, ?_⟩, fits.2⟩
  have inside : item.tree ∈ trees items := List.mem_map_of_mem member
  exact admits_of_height_le (Nat.le_trans (Expr.height_le_tallest inside) taller) fits.2

theorem fits_list : (∀ item ∈ items, item.Fits limits depth) ∧
    limits.admits (.list (trees items)) = true ↔ (list items).Fits limits depth :=
  (each_fits_iff (Nat.le_succ _)).trans ⟨fun fits => ⟨fits.1, fits.2⟩, fun fits => ⟨fits.1, fits.2⟩⟩

theorem fits_static {owner name : String} : (∀ item ∈ items, item.Fits limits depth) ∧
    limits.admits (.static owner name (trees items)) = true ↔
      (static owner name items).Fits limits depth :=
  (each_fits_iff (Nat.le_succ _)).trans ⟨fun fits => ⟨fits.1, fits.2⟩, fun fits => ⟨fits.1, fits.2⟩⟩

theorem fits_method {name : String} : (method target name items).Fits limits depth ↔
    target.Fits limits depth ∧ (∀ item ∈ items, item.Fits limits depth) ∧
      limits.admits (.method target.tree name (trees items)) = true := by
  have taller : Expr.tallest (trees items) ≤ (Expr.method target.tree name (trees items)).height :=
    Nat.le_succ_of_le (Nat.le_max_right _ _)
  rw [each_fits_iff taller]
  constructor
  · intro fits
    have low := Nat.le_succ_of_le (Nat.le_max_left target.tree.height (Expr.tallest (trees items)))
    exact ⟨fits.mono (Nat.le_max_left _ _) low, (Nat.max_le.mp fits.nesting).2, fits.height⟩
  · intro fits
    exact ⟨Nat.max_le.mpr ⟨fits.1.nesting, fits.2.1⟩, fits.2.2⟩

/-- A node over one part fits if the part does and the node is low enough itself. -/
theorem fits_over_one {whole : Measured} (nesting : whole.nesting = item.nesting)
    (height : whole.tree.height = item.tree.height + 1) :
    whole.Fits limits depth ↔ item.Fits limits depth ∧ limits.admits whole.tree = true := by
  constructor
  · intro fits
    have low : item.tree.height ≤ whole.tree.height := height ▸ Nat.le_succ _
    exact ⟨fits.mono (Nat.le_of_eq nesting.symm) low, fits.height⟩
  · intro fits
    exact ⟨nesting ▸ fits.1.nesting, fits.2⟩

/-- A node over two parts fits if they do and the node is low enough itself. -/
theorem fits_over_two {whole : Measured} (nesting : whole.nesting = max target.nesting item.nesting)
    (height : whole.tree.height = max target.tree.height item.tree.height + 1) :
    whole.Fits limits depth ↔
      target.Fits limits depth ∧ item.Fits limits depth ∧ limits.admits whole.tree = true := by
  constructor
  · intro fits
    exact ⟨fits.mono (by omega) (by omega), fits.mono (by omega) (by omega), fits.height⟩
  · intro fits
    exact ⟨nesting ▸ Nat.max_le.mpr ⟨fits.1.nesting, fits.2.1.nesting⟩, fits.2.2⟩

theorem fits_property {name : String} : (property target name).Fits limits depth ↔
    target.Fits limits depth ∧ limits.admits (.property target.tree name) = true :=
  fits_over_one rfl rfl

theorem fits_not : item.Fits limits depth ∧ limits.admits (.not item.tree) = true ↔
    (not item).Fits limits depth :=
  Iff.symm (fits_over_one rfl rfl)

theorem fits_neg : item.Fits limits depth ∧ limits.admits (.neg item.tree) = true ↔
    (neg item).Fits limits depth :=
  Iff.symm (fits_over_one rfl rfl)

theorem fits_index : (index target item).Fits limits depth ↔ target.Fits limits depth ∧
    item.Fits limits depth ∧ limits.admits (.index target.tree item.tree) = true :=
  fits_over_two rfl rfl

theorem fits_binary {operator : Operator} : (binary operator target item).Fits limits depth ↔
    target.Fits limits depth ∧ item.Fits limits depth ∧
      limits.admits (.binary operator target.tree item.tree) = true :=
  fits_over_two rfl rfl

theorem fits_ternary {condition : Measured} : condition.Fits limits depth ∧
    target.Fits limits depth ∧ item.Fits limits depth ∧
      limits.admits (.ternary condition.tree target.tree item.tree) = true ↔
    (ternary condition target item).Fits limits depth := by
  constructor
  · intro fits
    refine ⟨?_, fits.2.2.2⟩
    exact Nat.max_le.mpr ⟨Nat.max_le.mpr ⟨fits.1.nesting, fits.2.1.nesting⟩, fits.2.2.1.nesting⟩
  · intro fits
    refine ⟨fits.mono ?_ ?_, fits.mono ?_ ?_, fits.mono ?_ ?_, fits.height⟩ <;>
      simp only [ternary, Expr.height] <;> omega

end Measured

/-! ## Every derivation -/

/-- What the limits do to a phrase, where the given number of nested expressions and operands may still
open. -/
def Phrase.Obeys (limits : Limits) (depth : Nat) : Phrase → List Char → List Char → Prop
  | expression item, text, rest =>
    Takes (item.Fits limits depth) (Template.expression limits (within limits depth)) text item.tree rest
  | operation level item, text, rest =>
    Takes (item.Fits limits depth) (readerAt limits (within limits depth) level) text item.tree rest
  | joined level left item, text, rest =>
    left.Fits limits depth →
      Goes (item.Fits limits depth)
        (chain limits (operatorsAt level) (readerAt limits (within limits depth) (level + 1)))
        left.tree text item.tree rest
  | signed item, text, rest =>
    Takes (item.Fits limits depth) (Template.signed limits (within limits depth)) text item.tree rest
  | extended target item, text, rest =>
    target.Fits limits depth →
      Goes (item.Fits limits depth) (suffixes limits (within limits depth)) target.tree text item.tree
        rest
  | primary item, text, rest =>
    Takes (item.Fits limits depth) (Template.primary limits (within limits depth)) text item.tree rest
  | items close list, text, rest =>
    Takes (∀ item ∈ list, item.Fits limits depth)
      (Template.items (within limits depth).expression close) text (Measured.trees list) rest
  | someItems close list, text, rest =>
    Takes (∀ item ∈ list, item.Fits limits depth)
      (itemsFrom (within limits depth).expression close) text (Measured.trees list) rest

/-- A nested expression has one level less to open its own. -/
theorem takes_opened_expression {item : Measured} {text rest : List Char}
    (obeys : ∀ depth, Phrase.Obeys limits depth (.expression item) text rest) (depth : Nat) :
    Takes (item.opened.Fits limits depth) (within limits depth).expression text item.opened.tree
      rest := by
  cases depth with
  | zero =>
    exact ⟨fun fits => absurd fits Measured.not_fits_opened_zero, fun _ => tooDeep_failAt text⟩
  | succ depth => exact (obeys depth).congr Measured.fits_opened.symm

/-- So has a nested operand. -/
theorem takes_opened_operand {item : Measured} {text rest : List Char}
    (obeys : ∀ depth, Phrase.Obeys limits depth (.operation 7 item) text rest) (depth : Nat) :
    Takes (item.opened.Fits limits depth) (within limits depth).operand text item.opened.tree
      rest := by
  cases depth with
  | zero =>
    exact ⟨fun fits => absurd fits Measured.not_fits_opened_zero, fun _ => tooDeep_failAt text⟩
  | succ depth => exact (obeys depth).congr Measured.fits_opened.symm

/-- Every derived phrase obeys the limits, as long as these admit single nodes. -/
theorem Derives.obeys (leaves : limits.AdmitLeaves)
    {phrase : Phrase} {text rest : List Char} (derived : Derives phrase text rest) (depth : Nat) :
    phrase.Obeys limits depth text rest := by
  have leaf : ∀ {tree : Expr} {depth : Nat}, tree.height = 1 → (Measured.leaf tree).Fits limits depth :=
    fun single => ⟨Nat.zero_le _, leaves _ single⟩
  induction derived generalizing depth with
  | unconditional _ ends ih => exact takes_expression (ih depth) ends
  | choice _ question _ colon _ decides first second =>
    exact (takes_expression_choice (decides depth) question (takes_opened_expression first depth) colon
      (takes_opened_expression second depth)).congr Measured.fits_ternary
  | leftmost low high _ more first joined =>
    show Takes _ (readerAt limits _ _) _ _ _
    rw [readerAt_eq_group low high]
    exact takes_group (first depth) (joined depth) fun fits => fits.mono more.grows.2 more.grows.1
  | bare _ ih => exact takes_operand (ih depth)
  | alone ends => exact fun fits => goes_chain_stop ends fits
  | join found _ more second joined =>
    intro fits
    refine goes_chain_step found (second depth) (fun right low => joined depth ?_) fun whole => ?_
    · exact Measured.fits_binary.mpr ⟨fits, right, low⟩
    · exact (Measured.fits_binary.mp (whole.mono more.grows.2 more.grows.1)).2
  | denied plain _ ih =>
    exact (takes_signed_not (takes_opened_operand ih depth) plain).congr Measured.fits_not
  | negated plain _ ih =>
    exact (takes_signed_neg (takes_opened_operand ih depth) plain).congr Measured.fits_neg
  | negative digit read _ more => exact takes_signed_numeral digit read (more depth (leaf rfl))
  | unsigned plain _ more first extended =>
    exact takes_signed_primary plain (first depth) (extended depth)
      fun fits => fits.mono more.grows.2 more.grows.1
  | complete ends => exact fun fits => goes_suffixes_stop ends fits
  | property read plain more extended =>
    intro fits
    refine goes_suffixes_step (fun _ : True => findsSuffix_member read plain)
      (fun no => absurd trivial no) (fun _ low => ?_) fun whole => ⟨trivial, ?_⟩
    · rw [skipBlanks_skipBlanks]
      exact extended depth (Measured.fits_property.mpr ⟨fits, low⟩)
    · exact (Measured.fits_property.mp (whole.mono more.grows.2 more.grows.1)).2
  | method read opens _ more each extended =>
    intro fits
    refine goes_suffixes_step (fun inside => findsSuffix_call read opens ((each depth).reads inside))
      (fun outside => tooDeep_suffix_call read opens ((each depth).deep outside))
      (fun inside low => extended depth ?_) fun whole => ?_
    · exact Measured.fits_method.mpr ⟨fits, inside, low⟩
    · exact (Measured.fits_method.mp (whole.mono more.grows.2 more.grows.1)).2
  | index _ closed more inside extended =>
    intro fits
    have nested := takes_opened_expression inside depth
    refine goes_suffixes_step (fun inside => findsSuffix_index (nested.reads inside) closed)
      (fun outside => tooDeep_suffix_index (nested.deep outside))
      (fun inside low => extended depth ?_) fun whole => ?_
    · exact Measured.fits_index.mpr ⟨fits, inside, low⟩
    · exact (Measured.fits_index.mp (whole.mono more.grows.2 more.grows.1)).2
  | brackets _ closed ih => exact takes_primary_group (takes_opened_expression ih depth) closed
  | listed _ each => exact (takes_primary_list (each depth)).congr Measured.fits_list
  | quotedText opens read => exact takes_of_reads (reads_primary_text opens read) (leaf rfl)
  | unsignedNumeral digit read => exact takes_of_reads (reads_primary_number digit read) (leaf rfl)
  | member path read plain =>
    refine (takes_primary_static (takes_member path read plain)).congr ?_
    exact ⟨fun low => ⟨Nat.zero_le _, low⟩, fun fits => fits.height⟩
  | memberCall path read opens _ each =>
    exact (takes_primary_static (takes_memberCall path read opens (each depth))).congr
      Measured.fits_static
  | nameAlone read => exact takes_of_reads (reads_primary_word read) (leaf (height_named _))
  | noItems closed => exact takes_of_reads (reads_items_nil closed) nofun
  | severalItems opens _ each => exact takes_items opens (each depth)
  | lastItem _ closed last ih =>
    refine (takes_itemsFrom_last (takes_opened_expression ih depth) closed last).congr ?_
    simp only [List.mem_singleton, forall_eq]
  | nextItem _ comma _ inside others =>
    refine (takes_itemsFrom_cons (takes_opened_expression inside depth) comma (others depth)).congr ?_
    exact (List.forall_mem_cons ..).symm

end Scriptlet.Template
