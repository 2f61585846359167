import Scriptlet.Proofs.Json.Data
import Scriptlet.Proofs.Json.Reading
import Scriptlet.Proofs.Number.Range
import Scriptlet.Proofs.Number.Text

/-!
# JSON text read back

Both layouts of data, the compact and the pretty one, read back as the data (`parse_compact`, `parse_pretty`),
but for the doubles: of these the reader has what its rules make of their texts.

The layouts differ in the blanks only, so they are two cases of `Layout`, and the induction over the data is
done once for it (`Layout.reads_chars`).
-/

set_option autoImplicit false

namespace Scriptlet

open Text Template

namespace Json

/-- The reader makes of the text of each double the double that `f` answers. -/
def Rules.Makes (rules : Rules) (f : Double → Double) : Prop :=
  ∀ d : Double, rules.double? d.numeral d.negative = some (f d)

variable {rules : Rules} {f : Double → Double}

/-! ## Numbers -/

/-- The text is that of a numeral behind its sign, which the rules take for the number. -/
structure Denotes (rules : Rules) (text : List Char) (number : Number) : Prop where
  spelled : ∃ (negative : Bool) (n : Numeral), text = (if negative then '-' :: n.text else n.text) ∧
    n.WellFormed ∧ (∀ c rest, n.whole ≠ '0' :: c :: rest) ∧ rules.number? negative n = some number

/-- What a whole numeral denotes that 64 bits hold. -/
theorem number?_whole {negative : Bool} {m : Nat} {number : Number} (plain : negative = true → m ≠ 0)
    (holds : Number.ofInt? (if negative then -(m : Int) else m) = some number) :
    rules.number? negative ⟨toDigits m, [], none⟩ = some number := by
  have sign : (negative && decide (m = 0)) = false := by
    cases negative with
    | false => rfl
    | true => simp [plain rfl]
  simp only [Rules.number?, Numeral.isWhole, Numeral.toInt, ofDigits_toDigits, List.isEmpty_nil,
    Option.isNone_none, Bool.and_self, sign, Bool.not_false, if_true, holds]

theorem ofInt?_int (i : Int64) : Number.ofInt? i.toInt = some (.int i) := by
  rw [Number.ofInt?, int64?_toInt]

theorem ofInt?_wide (n : UInt64) (past : 2 ^ 63 ≤ n.toNat) :
    Number.ofInt? n.toNat = some (.wide n past) := by
  have below := n.toNat_lt
  have missing : int64? n.toNat = none := dif_neg (by omega)
  have range : 2 ^ 63 ≤ (n.toNat : Int).toNat ∧ (n.toNat : Int).toNat < 2 ^ 64 :=
    ⟨past, below⟩
  rw [Number.ofInt?, missing]
  dsimp only
  rw [dif_pos range]
  congr

/-- The text of a number denotes it, but for its double. -/
theorem denotes_text (makes : rules.Makes f) (number : Number) :
    Denotes rules number.text (number.mapDouble f) := by
  refine ⟨number.negative, number.numeral, number.text_eq, number.wellFormed_numeral,
    number.numeral_noZero, ?_⟩
  cases number with
  | int i =>
    refine number?_whole ?_ ?_
    · simp only [Number.negative, decide_eq_true_eq]
      omega
    · rw [Number.mapDouble, ← ofInt?_int]
      congr 1
      simp only [Number.negative, decide_eq_true_eq]
      split_ifs <;> omega
  | wide n past => exact number?_whole (by simp [Number.negative]) (ofInt?_wide n past)
  | double d =>
    have written := d.writtenAs_numeral
    simp only [Number.negative, Number.numeral, Rules.number?, written.broken, Bool.false_and,
      Bool.false_eq_true, if_false, makes d, Option.map_some, Number.mapDouble]

theorem exists_text_eq_cons {n : Numeral} (formed : n.WellFormed) :
    ∃ c tail, n.text = c :: tail ∧ isDigit c = true := by
  obtain ⟨c, tail, whole⟩ := List.exists_cons_of_ne_nil formed.starts
  refine ⟨c, tail ++ Numeral.fractionText n.fraction ++ Numeral.exponentText n.exponent, ?_,
    formed.whole c (whole ▸ List.mem_cons_self)⟩
  rw [Numeral.text, whole, List.cons_append, List.cons_append]

variable {text rest : List Char} {number : Number} {negative : Bool}

/-- A numeral is read as the number that it denotes with the sign before it. -/
theorem readUnsigned_text {n : Numeral} (formed : n.WellFormed)
    (noZero : ∀ c rest, n.whole ≠ '0' :: c :: rest) (denotes : rules.number? negative n = some number)
    (ends : EndsDigits rest) :
    ∃ shorter, readUnsigned rules negative (n.text ++ rest) = .ok ⟨.number number, rest, shorter⟩ := by
  have scanned := Numeral.scan_text formed ends
  obtain ⟨c, tail, shape, digit⟩ := exists_text_eq_cons formed
  rw [shape, List.cons_append] at scanned ⊢
  have shorter : rest.length < (c :: (tail ++ rest)).length := by
    have less : (Numeral.scan (c :: (tail ++ rest))).2.length < _ := Numeral.length_scan_lt digit
    rwa [scanned] at less
  refine ⟨shorter, ?_⟩
  rw [readUnsigned, dif_pos digit]
  simp only [scanned, denotes]

/-- A text that denotes a number is read as it, and starts as numbers do. -/
theorem Denotes.reads (denotes : Denotes rules text number) (ends : EndsDigits rest) :
    ∃ c tail, text = c :: tail ∧ (c = '-' ∨ isDigit c = true) ∧
      ∃ shorter, readNumber rules (text ++ rest) = .ok ⟨.number number, rest, shorter⟩ := by
  obtain ⟨negative, n, spelled, formed, noZero, found⟩ := denotes
  obtain ⟨shorter, read⟩ := readUnsigned_text formed noZero found ends
  cases negative with
  | true =>
    rw [if_pos rfl] at spelled
    subst spelled
    refine ⟨'-', n.text, rfl, Or.inl rfl, Nat.lt_succ_of_lt shorter, ?_⟩
    show readNumber rules ('-' :: (n.text ++ rest)) = _
    rw [readNumber, read]
    rfl
  | false =>
    rw [if_neg (by decide)] at spelled
    subst spelled
    obtain ⟨c, tail, shape, digit⟩ := exists_text_eq_cons formed
    refine ⟨c, tail, shape, Or.inr digit, shorter, ?_⟩
    rw [readNumber, read]
    rintro rest' start
    rw [shape, List.cons_append] at start
    cases start
    cases digit

/-! ## Blanks -/

/-- The text is made of blanks of JSON. -/
def Blank (text : List Char) : Prop :=
  ∀ c ∈ text, isSpace c = true

/-- The text starts with what is neither a blank nor the end of an array or object. -/
def Opens (text : List Char) : Prop :=
  ∃ c tail, text = c :: tail ∧ isSpace c = false ∧ c ≠ ']' ∧ c ≠ '\x7d'

/-- The text goes on with what may stand behind a value. -/
def Follows (text : List Char) : Prop :=
  ∀ c ∈ text.head?, isSpace c = true ∨ c = ',' ∨ c = ']' ∨ c = '\x7d'

/-- A sign or digit is no blank. -/
theorem isSpace_of_numeric {c : Char} (numeric : c = '-' ∨ isDigit c = true) : isSpace c = false := by
  by_contra space
  have blanks : c = ' ' ∨ c = '\n' ∨ c = '\t' ∨ c = '\r' := by
    simpa only [isSpace, Bool.or_eq_true, decide_eq_true_eq, or_assoc, Bool.not_eq_false] using space
  rcases blanks with rfl | rfl | rfl | rfl <;> exact absurd numeric (by decide)

theorem Opens.append {start : List Char} (opens : Opens start) (rest : List Char) :
    Opens (start ++ rest) := by
  obtain ⟨c, tail, rfl, plain⟩ := opens
  exact ⟨c, tail ++ rest, rfl, plain⟩

theorem Opens.ne_bracket (opens : Opens text) : text ≠ ']' :: rest := by
  obtain ⟨c, tail, rfl, -, noBracket, -⟩ := opens
  exact fun same => noBracket (List.cons.inj same).1

theorem Opens.ne_brace (opens : Opens text) : text ≠ '\x7d' :: rest := by
  obtain ⟨c, tail, rfl, -, -, noBrace⟩ := opens
  exact fun same => noBrace (List.cons.inj same).1

theorem skipSpace_append {blanks : List Char} (blank : Blank blanks)
    (plain : ∀ c ∈ text.head?, isSpace c = false) : skipSpace (blanks ++ text) = text :=
  dropWhile_append_of_stop blank plain

theorem Opens.skipSpace_append {blanks : List Char} (opens : Opens text) (blank : Blank blanks) :
    skipSpace (blanks ++ text) = text := by
  obtain ⟨c, tail, rfl, plain, -⟩ := opens
  refine Json.skipSpace_append blank ?_
  rintro d ⟨⟩
  exact plain

theorem follows_append {blanks : List Char} (blank : Blank blanks) (follows : Follows text) :
    Follows (blanks ++ text) := by
  cases blanks with
  | nil => exact follows
  | cons c tail =>
    rintro d ⟨⟩
    exact Or.inl (blank c List.mem_cons_self)

/-- What may stand behind a value does not carry a numeral on. -/
theorem Follows.endsDigits (follows : Follows text) : EndsDigits text := by
  have outside : ∀ c ∈ text.head?, isDigit c = false ∧ c ≠ '.' ∧ c ≠ 'e' ∧ c ≠ 'E' := by
    intro c head
    have marks : c = ' ' ∨ c = '\n' ∨ c = '\t' ∨ c = '\r' ∨ c = ',' ∨ c = ']' ∨ c = '\x7d' := by
      simpa [isSpace, or_assoc] using follows c head
    rcases marks with rfl | rfl | rfl | rfl | rfl | rfl | rfl <;> decide
  refine ⟨fun c head => (outside c head).1, ?_, fun c head => ?_⟩
  · rintro c tail rfl
    exact absurd rfl (outside '.' rfl).2.1
  · simp [(outside c head).2.2.1, (outside c head).2.2.2]

/-! ## Layouts -/

/-- A way of writing data that differs from the compact one in blanks only: there may be some behind the
colons, and line breaks between the items and members of a level and around them. -/
structure Layout where
  chars : Nat → Json → List Char
  items : Nat → List Json → List Char
  members : Nat → List (String × Json) → List Char
  lineBreak : Nat → List Char
  afterColon : List Char
  blank_lineBreak : ∀ level, Blank (lineBreak level)
  blank_afterColon : Blank afterColon
  null : ∀ level, chars level .null = ['n', 'u', 'l', 'l']
  true_ : ∀ level, chars level (.bool true) = ['t', 'r', 'u', 'e']
  false_ : ∀ level, chars level (.bool false) = ['f', 'a', 'l', 's', 'e']
  number : ∀ level value, chars level (.number value) = value.text
  string : ∀ level text, chars level (.string text) = quote text
  emptyArray : ∀ level, chars level (.array []) = ['[', ']']
  array : ∀ level first rest, chars level (.array (first :: rest)) =
    '[' :: (lineBreak (level + 1) ++ (items (level + 1) (first :: rest) ++ (lineBreak level ++ [']'])))
  emptyObject : ∀ level, chars level (.object []) = ['\x7b', '\x7d']
  object : ∀ level first rest, chars level (.object (first :: rest)) =
    '\x7b' :: (lineBreak (level + 1) ++
      (members (level + 1) (first :: rest) ++ (lineBreak level ++ ['\x7d'])))
  item : ∀ level item, items level [item] = chars level item
  nextItem : ∀ level item next rest, items level (item :: next :: rest) =
    chars level item ++ ',' :: (lineBreak level ++ items level (next :: rest))
  member : ∀ level name item, members level [(name, item)] =
    quote name ++ ':' :: (afterColon ++ chars level item)
  nextMember : ∀ level name item next rest, members level ((name, item) :: next :: rest) =
    quote name ++ ':' :: (afterColon ++ (chars level item ++
      ',' :: (lineBreak level ++ members level (next :: rest))))

namespace Layout

/-- The layout without blanks. -/
def compact : Layout where
  chars _ := compactChars
  items _ := compactItems
  members _ := compactMembers
  lineBreak _ := []
  afterColon := []
  blank_lineBreak _ := nofun
  blank_afterColon := nofun
  null _ := by rw [compactChars]
  true_ _ := by rw [compactChars]
  false_ _ := by rw [compactChars]
  number _ _ := by rw [compactChars]
  string _ _ := by rw [compactChars]
  emptyArray _ := by rw [compactChars]; rfl
  array _ _ _ := by rw [compactChars]; rfl
  emptyObject _ := by rw [compactChars]; rfl
  object _ _ _ := by rw [compactChars]; rfl
  item _ _ := by rw [compactItems]
  nextItem _ _ _ _ := by rw [compactItems]; rfl
  member _ _ _ := by rw [compactMembers]; rfl
  nextMember _ _ _ _ _ := by rw [compactMembers]; simp

/-- The layout with items and members on lines of their own. -/
def pretty : Layout where
  chars := prettyChars
  items := prettyItems
  members := prettyMembers
  lineBreak := Json.lineBreak
  afterColon := [' ']
  blank_lineBreak level := by
    intro c member
    rcases List.mem_cons.mp member with rfl | member
    · rfl
    · rw [List.eq_of_mem_replicate member]
      rfl
  blank_afterColon := by
    intro c member
    rw [List.mem_singleton.mp member]
    rfl
  null _ := by rw [prettyChars]
  true_ _ := by rw [prettyChars]
  false_ _ := by rw [prettyChars]
  number _ _ := by rw [prettyChars]
  string _ _ := by rw [prettyChars]
  emptyArray _ := by rw [prettyChars]
  array _ _ _ := by rw [prettyChars]; simp
  emptyObject _ := by rw [prettyChars]
  object _ _ _ := by rw [prettyChars]; simp
  item _ _ := by rw [prettyItems]
  nextItem _ _ _ _ := by rw [prettyItems]; simp
  member _ _ _ := by rw [prettyMembers]; rfl
  nextMember _ _ _ _ _ := by rw [prettyMembers]; simp

/-! ## Reading a layout -/

variable {layout : Layout} {level depth : Nat} {first : Json} {items : List Json} {name : String}
  {members : List (String × Json)} {blanks : List Char}

theorem quote_append (name : String) (rest : List Char) :
    quote name ++ rest = '"' :: (name.toList.flatMap escapeChar ++ '"' :: rest) := by
  simp [quote]

theorem opens_quote (name : String) : Opens (quote name) :=
  ⟨'"', _, rfl, rfl, by decide, by decide⟩

theorem opens_chars (makes : rules.Makes f) (layout : Layout) (level : Nat) (data : Json) :
    Opens (layout.chars level data) := by
  cases data with
  | null =>
    rw [layout.null]
    exact ⟨_, _, rfl, rfl, by decide, by decide⟩
  | bool value =>
    cases value with
    | true =>
      rw [layout.true_]
      exact ⟨_, _, rfl, rfl, by decide, by decide⟩
    | false =>
      rw [layout.false_]
      exact ⟨_, _, rfl, rfl, by decide, by decide⟩
  | number value =>
    obtain ⟨c, tail, shape, numeric, -⟩ := (denotes_text makes value).reads endsDigits_nil
    rw [layout.number]
    refine ⟨c, tail, shape, isSpace_of_numeric numeric, ?_, ?_⟩
    · rintro rfl
      exact absurd numeric (by decide)
    · rintro rfl
      exact absurd numeric (by decide)
  | string text =>
    rw [layout.string]
    exact opens_quote text
  | array items =>
    cases items with
    | nil =>
      rw [layout.emptyArray]
      exact ⟨_, _, rfl, rfl, by decide, by decide⟩
    | cons first rest =>
      rw [layout.array]
      exact ⟨_, _, rfl, rfl, by decide, by decide⟩
  | object members =>
    cases members with
    | nil =>
      rw [layout.emptyObject]
      exact ⟨_, _, rfl, rfl, by decide, by decide⟩
    | cons first rest =>
      rw [layout.object]
      exact ⟨_, _, rfl, rfl, by decide, by decide⟩

/-- Wherever the data stands in the layout, it is read as itself but for its doubles. -/
def ReadsBack (layout : Layout) (rules : Rules) (f : Double → Double) (data : Json) : Prop :=
  ∀ depth level text rest, data.nesting ≤ depth → Follows rest →
    skipSpace text = layout.chars level data ++ rest →
    ReadsValue rules depth text (data.mapDoubles f) rest

theorem opens_items (makes : rules.Makes f) (layout : Layout) (level : Nat) (first : Json)
    (items : List Json) : Opens (layout.items level (first :: items)) := by
  cases items with
  | nil =>
    rw [layout.item]
    exact opens_chars makes layout level first
  | cons next items =>
    rw [layout.nextItem]
    exact (opens_chars makes layout level first).append _

theorem reads_items (makes : rules.Makes f) (blank : Blank blanks)
    (holds : ∀ item ∈ first :: items, ReadsBack layout rules f item ∧ item.nesting ≤ depth)
    (starts : skipSpace text = layout.items level (first :: items) ++ (blanks ++ ']' :: rest)) :
    ReadsItems rules depth text (mapItems f (first :: items)) rest := by
  obtain ⟨reads, shallow⟩ := holds first List.mem_cons_self
  induction items generalizing first text with
  | nil =>
    rw [layout.item] at starts
    have closes : skipSpace (blanks ++ ']' :: rest) = ']' :: rest :=
      skipSpace_append blank (by rintro c ⟨⟩; rfl)
    have follows : Follows (blanks ++ ']' :: rest) :=
      follows_append blank (by rintro c ⟨⟩; simp)
    exact readsItems_cons (reads depth level text _ shallow follows starts) (.close closes)
  | cons next items ih =>
    rw [layout.nextItem] at starts
    simp only [List.append_assoc, List.cons_append] at starts
    have follows : Follows (',' :: (layout.lineBreak level ++
        (layout.items level (next :: items) ++ (blanks ++ ']' :: rest)))) := by
      rintro c ⟨⟩
      simp
    have opens := (opens_items makes layout level next items).append (blanks ++ ']' :: rest)
    obtain ⟨readsNext, shallowNext⟩ := holds next (by simp)
    refine readsItems_cons (reads depth level text _ shallow follows starts) (.more rfl ?_)
    exact ih (fun item member => holds item (List.mem_cons_of_mem first member))
      (opens.skipSpace_append (layout.blank_lineBreak level)) readsNext shallowNext

theorem opens_members (layout : Layout) (level : Nat) (first : String × Json)
    (members : List (String × Json)) : Opens (layout.members level (first :: members)) := by
  obtain ⟨name, item⟩ := first
  cases members with
  | nil =>
    rw [layout.member]
    exact (opens_quote name).append _
  | cons next members =>
    rw [layout.nextMember]
    exact (opens_quote name).append _

theorem reads_members (makes : rules.Makes f) (blank : Blank blanks) {first : String × Json}
    (holds : ∀ entry ∈ first :: members, ReadsBack layout rules f entry.2 ∧ entry.2.nesting ≤ depth)
    (starts : skipSpace text = layout.members level (first :: members) ++ (blanks ++ '\x7d' :: rest)) :
    ReadsMembers rules depth text (mapMembers f (first :: members)) rest := by
  obtain ⟨reads, shallow⟩ := holds first List.mem_cons_self
  induction members generalizing first text with
  | nil =>
    obtain ⟨name, item⟩ := first
    rw [layout.member, List.append_assoc, quote_append] at starts
    simp only [List.cons_append, List.append_assoc] at starts
    have closes : skipSpace (blanks ++ '\x7d' :: rest) = '\x7d' :: rest :=
      skipSpace_append blank (by rintro c ⟨⟩; rfl)
    have follows : Follows (blanks ++ '\x7d' :: rest) :=
      follows_append blank (by rintro c ⟨⟩; simp)
    have opens := (opens_chars makes layout level item).append (blanks ++ '\x7d' :: rest)
    have value := reads depth level _ _ shallow follows
      (opens.skipSpace_append layout.blank_afterColon)
    have named := readsMembers_cons starts (readsString_flatMap _ _) rfl value (.close closes)
    rwa [String.ofList_toList] at named
  | cons next members ih =>
    obtain ⟨name, item⟩ := first
    rw [layout.nextMember, List.append_assoc, quote_append] at starts
    simp only [List.cons_append, List.append_assoc] at starts
    have follows : Follows (',' :: (layout.lineBreak level ++
        (layout.members level (next :: members) ++ (blanks ++ '\x7d' :: rest)))) := by
      rintro c ⟨⟩
      simp
    have opens := (opens_chars makes layout level item).append (',' :: (layout.lineBreak level ++
        (layout.members level (next :: members) ++ (blanks ++ '\x7d' :: rest))))
    have value := reads depth level _ _ shallow follows
      (opens.skipSpace_append layout.blank_afterColon)
    have opensNext := (opens_members layout level next members).append (blanks ++ '\x7d' :: rest)
    obtain ⟨readsNext, shallowNext⟩ := holds next (by simp)
    have tail := ih (fun entry member => holds entry (List.mem_cons_of_mem _ member))
      (opensNext.skipSpace_append (layout.blank_lineBreak level)) readsNext shallowNext
    have named := readsMembers_cons starts (readsString_flatMap _ _) rfl value (.more rfl tail)
    rwa [String.ofList_toList] at named

/-- Data whose names are in order reads back wherever it stands in a layout. -/
theorem reads_chars (makes : rules.Makes f) (layout : Layout) {data : Json} (sorted : data.Sorted) :
    ReadsBack layout rules f data := by
  induction data with
  | null =>
    intro depth level text rest _ _ starts
    rw [layout.null] at starts
    exact readsValue_null starts
  | bool value =>
    intro depth level text rest _ _ starts
    cases value with
    | true =>
      rw [layout.true_] at starts
      exact readsValue_true starts
    | false =>
      rw [layout.false_] at starts
      exact readsValue_false starts
  | number value =>
    intro depth level text rest _ follows starts
    rw [layout.number] at starts
    obtain ⟨c, tail, shape, numeric, read⟩ := (denotes_text makes value).reads follows.endsDigits
    rw [← starts] at read
    rw [shape, List.cons_append] at starts
    exact readsValue_number starts numeric read
  | string value =>
    intro depth level text rest _ _ starts
    rw [layout.string, quote_append] at starts
    have read : ReadsValue rules depth text _ rest :=
      readsValue_string starts (readsString_flatMap _ _)
    rwa [String.ofList_toList] at read
  | array items ih =>
    intro depth level text rest shallow _ starts
    rw [nesting] at shallow
    obtain ⟨depth, rfl⟩ := Nat.exists_eq_add_of_lt (Nat.lt_of_lt_of_le (Nat.succ_pos _) shallow)
    cases items with
    | nil =>
      rw [layout.emptyArray] at starts
      exact readsValue_emptyArray starts rfl
    | cons first items =>
      rw [layout.array] at starts
      simp only [List.cons_append, List.append_assoc] at starts
      have opens := (opens_items makes layout (level + 1) first items).append
        (layout.lineBreak level ++ ']' :: rest)
      have inside := opens.skipSpace_append (layout.blank_lineBreak (level + 1))
      rw [Sorted, sortedItems_iff] at sorted
      have holds : ∀ item ∈ first :: items,
          ReadsBack layout rules f item ∧ item.nesting ≤ 0 + depth := fun item member =>
        ⟨ih item member (sorted item member),
          (nesting_le_of_mem member).trans (Nat.le_of_succ_le_succ shallow)⟩
      refine readsValue_array starts ?_ (reads_items makes (layout.blank_lineBreak level) holds inside)
      exact fun tail closing => opens.ne_bracket (inside.symm.trans closing)
  | object members ih =>
    intro depth level text rest shallow _ starts
    rw [nesting] at shallow
    obtain ⟨depth, rfl⟩ := Nat.exists_eq_add_of_lt (Nat.lt_of_lt_of_le (Nat.succ_pos _) shallow)
    cases members with
    | nil =>
      rw [layout.emptyObject] at starts
      exact readsValue_emptyObject starts rfl
    | cons first members =>
      rw [layout.object] at starts
      simp only [List.cons_append, List.append_assoc] at starts
      have opens := (opens_members layout (level + 1) first members).append
        (layout.lineBreak level ++ '\x7d' :: rest)
      have inside := opens.skipSpace_append (layout.blank_lineBreak (level + 1))
      rw [Sorted, sortedMembers_iff] at sorted
      rw [nestingOfMembers_eq] at shallow
      have holds : ∀ entry ∈ first :: members,
          ReadsBack layout rules f entry.2 ∧ entry.2.nesting ≤ 0 + depth := fun entry member =>
        ⟨ih entry member (sorted.2 entry member),
          (nesting_le_of_mem (List.mem_map_of_mem member)).trans (Nat.le_of_succ_le_succ shallow)⟩
      have increasing : Table.Increasing (mapMembers f (first :: members)) := by
        rw [Table.Increasing, names_mapMembers]
        exact sorted.1
      have read := readsValue_object starts
        (fun tail closing => opens.ne_brace (inside.symm.trans closing))
        (reads_members makes (layout.blank_lineBreak level) holds inside)
      rwa [Table.ofList_of_increasing increasing] at read

/-- A text that is one layout of the data and blanks parses as the data. -/
theorem parse_chars (makes : rules.Makes f) (layout : Layout) {data : Json} (sorted : data.Sorted)
    (shallow : data.nesting ≤ rules.depth) (blank : Blank blanks) {text : String}
    (spelled : text.toList = layout.chars 0 data ++ blanks) :
    parse rules text = .ok (data.mapDoubles f) := by
  have follows : Follows blanks := by
    rw [← List.append_nil blanks]
    exact follows_append blank nofun
  have starts : skipSpace text.toList = layout.chars 0 data ++ blanks := by
    have opens := (opens_chars makes layout 0 data).append blanks
    rw [spelled]
    exact opens.skipSpace_append (show Blank [] from nofun)
  obtain ⟨shorter, read⟩ := reads_chars makes layout sorted rules.depth 0 _ _ shallow follows starts
  have ended : skipSpace blanks = [] := by
    rw [← List.append_nil blanks]
    exact skipSpace_append blank nofun
  rw [parse, read]
  dsimp only
  rw [ended]

end Layout

section

variable {data : Json}

/-- The compact text of data parses as the data. -/
theorem parse_compact (makes : rules.Makes f) (sorted : data.Sorted)
    (shallow : data.nesting ≤ rules.depth) :
    parse rules data.compact = .ok (data.mapDoubles f) := by
  refine Layout.parse_chars makes .compact sorted shallow (show Blank [] from nofun) ?_
  rw [compact, String.toList_ofList, List.append_nil]
  rfl

/-- The pretty text of data parses as the data, with the end of its line or without. -/
theorem parse_pretty (makes : rules.Makes f) (sorted : data.Sorted)
    (shallow : data.nesting ≤ rules.depth) {blanks : String} (blank : Blank blanks.toList) :
    parse rules (data.pretty ++ blanks) = .ok (data.mapDoubles f) := by
  refine Layout.parse_chars makes .pretty sorted shallow blank ?_
  rw [pretty, String.toList_append, String.toList_ofList]
  rfl

end

end Json

end Scriptlet
