import Scriptlet.Proofs.Expr.Equality
import Scriptlet.Proofs.Template.Depth
import Scriptlet.Proofs.Template.Locality

/-!
# Templates within templates

A template may be pasted into another one verbatim, between brackets or as an item of a list
(`Frame`). It then stands for its own tree and nothing else: it cannot close the brackets around it, and
nothing of the frame becomes part of it. Only the limits on the whole can object (`parse_frame`).

The template ends in the frame where it ends on its own, because a bracket or a comma stands behind it
(`Denotes.upTo`). It may be preceded by blanks (`Derives.skip`) and never starts with a mark that ends
expressions (`Derives.opens`), so no list around it is taken for an empty one.
-/

set_option autoImplicit false

namespace Scriptlet.Template

open Text

/-! ## Frames -/

/-- What templates may be pasted into: brackets of all kinds, with or without something around them. -/
inductive Frame where
  | brackets
  | binary (operator : Operator)
  | not
  | neg
  | choice
  | list
  | index
  | property (name : String)
  | method (name : String)
  | static (owner name : String)

namespace Frame

/-- A text between round brackets. -/
def round (s : String) : String := "(" ++ s ++ ")"

/-- The frame with the texts of up to three templates in it. -/
def text (s t u : String) : Frame → String
  | brackets => round s
  | binary operator => round s ++ " " ++ operator.sign ++ " " ++ round t
  | not => "!" ++ round s
  | neg => "-" ++ round s
  | choice => round s ++ " ? " ++ round t ++ " : " ++ round u
  | list => "\x7b" ++ s ++ ", " ++ t ++ ", " ++ u ++ "\x7d"
  | index => round s ++ "[" ++ t ++ "]"
  | property name => round s ++ "." ++ name
  | method name => round s ++ "." ++ name ++ "(" ++ t ++ ", " ++ u ++ ")"
  | static owner name => "@" ++ owner ++ "@" ++ name ++ "(" ++ s ++ ", " ++ t ++ ")"

/-- The node that the frame stands for, with up to three trees in it. -/
def tree (s t u : Expr) : Frame → Expr
  | brackets => s
  | binary operator => .binary operator s t
  | not => .not s
  | neg => .neg s
  | choice => .ternary s t u
  | list => .list [s, t, u]
  | index => .index s t
  | property name => .property s name
  | method name => .method s name [t, u]
  | static owner name => .static owner name [s, t]

/-- The node with the measures that reading it gives; what stands in brackets is open in them. -/
def measured (s t u : Measured) : Frame → Measured
  | brackets => s.opened
  | binary operator => (Measured.binary operator s t).opened
  | not => (Measured.not s.opened).opened
  | neg => (Measured.neg s.opened).opened
  | choice => (Measured.ternary s t.opened u.opened).opened
  | list => (Measured.list [s, t, u]).opened
  | index => (Measured.index s t).opened
  | property name => (Measured.property s name).opened
  | method name => (Measured.method s name [t, u]).opened
  | static owner name => (Measured.static owner name [s, t]).opened

theorem tree_measured (frame : Frame) (s t u : Measured) :
    (frame.measured s t u).tree = frame.tree s.tree t.tree u.tree := by
  cases frame <;> rfl

/-- Whether the names of the frame are names of the grammar. -/
def isValid : Frame → Bool
  | property name | method name => isName name
  | static owner name => isName owner && isName name
  | _ => true

end Frame

variable {template : String} {item tree : Measured} {text rest : List Char}

/-! ## Loosening -/

/-- An operation that is followed by no operator of its level or a higher one may stand at every looser
level that this holds of. -/
theorem Derives.loosen {low high : Nat} (derived : Derives (.operation high tree) text rest)
    (stop : skipBlanks rest = rest) (first : 1 ≤ low) (le : low ≤ high) (last : high ≤ 7)
    (ends : Ends low rest) : Derives (.operation low tree) text rest := by
  induction le using Nat.decreasingInduction with
  | self => exact derived
  | of_succ level below ih =>
    refine .leftmost first (by omega) (ih (by omega) (ends.mono (Nat.le_succ level))) ?_
    rw [stop]
    exact .alone (ends.operators level (Nat.le_refl level))

/-- An operation at the end of a text is a whole expression. -/
theorem Derives.whole {level : Nat} (derived : Derives (.operation level tree) text [])
    (first : 1 ≤ level) (last : level ≤ 7) : Derives (.expression tree) text [] := by
  have loosest := derived.loosen rfl (Nat.le_refl 1) first last (ends_nil 1)
  exact .unconditional loosest (by rintro c ⟨⟩)

/-! ## Templates before marks and in brackets -/

/-- Before a mark that ends expressions, a template is derived as on its own. -/
theorem Denotes.upTo (denotes : Denotes template item) {c : Char} (mark : c ∈ endMarks)
    (tail : List Char) : ∃ (inside : Measured) (rest : List Char), inside.opened = item ∧
      Derives (.expression inside) (template.toList ++ c :: tail) rest ∧
        skipBlanks rest = c :: tail := by
  obtain ⟨inside, rest, same, derived, ends⟩ := denotes
  refine ⟨inside, rest ++ c :: tail, same, derived.append mark, ?_⟩
  rw [skipBlanks_append mark, ends, List.nil_append]

/-- The text with brackets around it and more behind it. -/
def inBrackets (template : String) (tail : List Char) : List Char :=
  '(' :: (template.toList ++ ')' :: tail)

/-- A template in brackets is an operand, with all that follows it. -/
theorem Denotes.operand (denotes : Denotes template item) {tail : List Char}
    (place : skipBlanks text = inBrackets template tail)
    (more : Derives (.extended item tree) (skipBlanks tail) rest) :
    Derives (.operation 7 tree) text rest := by
  obtain ⟨inside, behind, rfl, derived, closed⟩ := denotes.upTo (by decide : ')' ∈ endMarks) tail
  refine .bare ?_
  rw [place]
  exact .unsigned (by rintro c ⟨⟩; decide) (.brackets derived closed) more

/-- In brackets and before something that ends operands, a template is an operation. -/
theorem Denotes.operation (denotes : Denotes template item) {level : Nat} {tail next : List Char}
    (place : skipBlanks text = inBrackets template tail) (behind : skipBlanks tail = next)
    (first : 1 ≤ level) (last : level ≤ 7) (ends : Ends level next) :
    Derives (.operation level item) text next := by
  subst behind
  have operand := denotes.operand place (.complete (ends.suffix (Nat.le_succ_of_le last)))
  exact operand.loosen (skipBlanks_skipBlanks tail) first last (Nat.le_refl 7) ends

variable {close : Char} {before tail : List Char}

/-- A template before a comma is an item, and others follow it. -/
theorem Denotes.nextItem (denotes : Denotes template item) {items : List Measured}
    (place : skipBlanks before = skipBlanks (template.toList ++ ',' :: tail))
    (others : Derives (.someItems close items) tail rest) :
    Derives (.someItems close (item :: items)) before rest := by
  obtain ⟨inside, behind, rfl, derived, comma⟩ := denotes.upTo (by decide : ',' ∈ endMarks) tail
  exact .nextItem (derived.skip before place) comma others

/-- A template before the closing mark is the last item. -/
theorem Denotes.lastItem (denotes : Denotes template item) (mark : close ∈ endMarks)
    (last : close ≠ ',') (place : skipBlanks before = skipBlanks (template.toList ++ close :: tail)) :
    Derives (.someItems close [item]) before tail := by
  obtain ⟨inside, behind, rfl, derived, closed⟩ := denotes.upTo mark tail
  exact .lastItem (derived.skip before place) closed last

/-- Items of which the first is a template are not taken for no items. -/
theorem Denotes.items (denotes : Denotes template item) (mark : close ∈ endMarks)
    {items : List Measured} {c : Char} (next : c ∈ endMarks)
    (place : before = template.toList ++ c :: tail)
    (each : Derives (.someItems close items) (skipBlanks before) rest) :
    Derives (.items close items) before rest := by
  obtain ⟨inside, behind, _, derived, _⟩ := denotes.upTo next tail
  rw [← place] at derived
  have opens : Opens (skipBlanks before) := derived.opens
  exact .severalItems (opens.head_ne_endMark mark) each

variable {s t u : String} {S T U : Measured}

theorem denotes_of_operation {level : Nat} (derived : Derives (.operation level tree) template.toList [])
    (first : 1 ≤ level) (last : level ≤ 7) : Denotes template tree.opened :=
  ⟨tree, [], rfl, derived.whole first last, rfl⟩

theorem denotes_of_operand (derived : Derives (.operation 7 tree) template.toList []) :
    Denotes template tree.opened :=
  denotes_of_operation derived (by decide) (Nat.le_refl 7)

/-- A primary expression is a whole template. -/
theorem denotes_of_primary (derived : Derives (.primary tree) template.toList [])
    (unsigned : ∀ c ∈ template.toList.head?, c ≠ '!' ∧ c ≠ '-') : Denotes template tree.opened := by
  have opens : Opens template.toList := derived.opens
  apply denotes_of_operand
  apply Derives.bare
  rw [opens.skipBlanks_eq]
  apply derived.unsigned unsigned
  apply Derives.complete
  intro c head
  cases head

theorem skipBlanks_inBrackets (s : String) (tail : List Char) :
    skipBlanks (inBrackets s tail) = inBrackets s tail :=
  skipBlanks_cons_of_not (by decide)

theorem skipBlanks_blank_inBrackets (s : String) (tail : List Char) :
    skipBlanks (' ' :: inBrackets s tail) = inBrackets s tail :=
  skipBlanks_blank_mark (by decide) _

/-! ## Brackets and operators -/

theorem denotes_round (first : Denotes s S) : Denotes (Frame.round s) S.opened := by
  have chars : (Frame.round s).toList = inBrackets s [] := by simp [Frame.round, inBrackets]
  apply denotes_of_operand
  rw [chars]
  exact first.operation (skipBlanks_inBrackets s []) rfl (by decide) (by decide) (ends_nil 7)

/-- Two templates in brackets with an operator between them. -/
theorem denotes_binary (operator : Operator) (first : Denotes s S) (second : Denotes t T) :
    Denotes (Frame.round s ++ " " ++ operator.sign ++ " " ++ Frame.round t)
      (Measured.binary operator S T).opened := by
  have chars : (Frame.round s ++ " " ++ operator.sign ++ " " ++ Frame.round t).toList =
      inBrackets s (' ' :: (operator.sign.toList ++ ' ' :: inBrackets t [])) := by
    simp [Frame.round, inBrackets]
  have sign : skipBlanks (' ' :: (operator.sign.toList ++ ' ' :: inBrackets t [])) =
      operator.sign.toList ++ ' ' :: inBrackets t [] := by
    rw [skipBlanks_cons_of_isBlank (by decide), skipBlanks_sign]
  have low := operator.one_le_level
  have high := operator.level_le
  have left := first.operation (skipBlanks_inBrackets s _) sign (Nat.succ_pos operator.level)
    (Nat.succ_le_succ high) (ends_sign operator _)
  have right := second.operation (skipBlanks_blank_inBrackets t []) rfl (Nat.succ_pos operator.level)
    (Nat.succ_le_succ high) (ends_nil _)
  have joined : Derives (.joined operator.level S (.binary operator S T))
      (operator.sign.toList ++ ' ' :: inBrackets t []) [] :=
    .join (findsOperator_sign operator _) right (.alone ((ends_nil 0).operators _ (Nat.zero_le _)))
  refine denotes_of_operation ?_ low (Nat.le_succ_of_le high)
  rw [chars]
  apply left.leftmost low high
  rw [skipBlanks_sign]
  exact joined

/-- A template in brackets behind an exclamation mark. -/
theorem denotes_not (first : Denotes s S) :
    Denotes ("!" ++ Frame.round s) (Measured.not S.opened).opened := by
  have chars : ("!" ++ Frame.round s).toList = '!' :: inBrackets s [] := by
    simp [Frame.round, inBrackets]
  have operand :=
    first.operation (skipBlanks_inBrackets s []) rfl (by decide) (Nat.le_refl 7) (ends_nil 7)
  apply denotes_of_operand
  rw [chars]
  apply Derives.bare
  rw [skipBlanks_cons_of_not (by decide)]
  apply operand.denied
  intro c head
  cases head
  decide

/-- A template in brackets behind a minus sign, which has no numeral to belong to. -/
theorem denotes_neg (first : Denotes s S) :
    Denotes ("-" ++ Frame.round s) (Measured.neg S.opened).opened := by
  have chars : ("-" ++ Frame.round s).toList = '-' :: inBrackets s [] := by
    simp [Frame.round, inBrackets]
  have operand :=
    first.operation (skipBlanks_inBrackets s []) rfl (by decide) (Nat.le_refl 7) (ends_nil 7)
  apply denotes_of_operand
  rw [chars]
  apply Derives.bare
  rw [skipBlanks_cons_of_not (by decide)]
  apply Derives.negated
  · rw [skipBlanks_inBrackets]
    rfl
  · rw [skipBlanks_inBrackets]
    exact operand

/-- A colon ends all operations. -/
theorem ends_colon (level : Nat) (tail : List Char) : Ends level (':' :: tail) := by
  apply ends_of_head
  intro c head
  cases head
  decide

/-- Three templates in brackets as the parts of a choice. -/
theorem denotes_choice (first : Denotes s S) (second : Denotes t T) (third : Denotes u U) :
    Denotes (Frame.round s ++ " ? " ++ Frame.round t ++ " : " ++ Frame.round u)
      (Measured.ternary S T.opened U.opened).opened := by
  have chars : (Frame.round s ++ " ? " ++ Frame.round t ++ " : " ++ Frame.round u).toList =
      inBrackets s (' ' :: '?' :: ' ' :: inBrackets t (' ' :: ':' :: ' ' :: inBrackets u [])) := by
    simp [Frame.round, inBrackets]
  have condition := first.operation
    (skipBlanks_inBrackets s (' ' :: '?' :: ' ' :: inBrackets t (' ' :: ':' :: ' ' :: inBrackets u [])))
    (skipBlanks_blank_mark (by decide) _) (Nat.le_refl 1) (by decide) (ends_question (Nat.le_refl 1))
  have yes := second.operation
    (skipBlanks_blank_inBrackets t (' ' :: ':' :: ' ' :: inBrackets u []))
    (skipBlanks_blank_mark (by decide) _) (Nat.le_refl 1) (by decide) (ends_colon 1 _)
  have no := third.operation (skipBlanks_blank_inBrackets u []) rfl (Nat.le_refl 1) (by decide)
    (ends_nil 1)
  have colon : skipBlanks (':' :: ' ' :: inBrackets u []) = ':' :: ' ' :: inBrackets u [] :=
    skipBlanks_cons_of_not (by decide)
  have yesWhole := yes.unconditional (by rw [colon]; intro c head; cases head; decide)
  refine ⟨_, [], rfl, ?_, rfl⟩
  rw [chars]
  refine .choice condition (skipBlanks_cons_of_not (by decide)) yesWhole ?_
    (no.whole (Nat.le_refl 1) (by decide))
  rw [skipBlanks_skipBlanks, colon]

/-! ## Items and suffixes -/

/-- Two templates as items, up to a closing bracket. -/
theorem derives_pair (mark : close ∈ endMarks) (last : close ≠ ',') (first : Denotes s S)
    (second : Denotes t T) (tail : List Char) :
    Derives (.items close [S, T]) (s.toList ++ ',' :: ' ' :: (t.toList ++ close :: tail)) tail := by
  apply first.items mark (by decide) rfl
  apply first.nextItem (skipBlanks_skipBlanks _)
  exact second.lastItem mark last (skipBlanks_cons_of_isBlank (by decide))

/-- Three templates as the items of a list. -/
theorem denotes_list (first : Denotes s S) (second : Denotes t T) (third : Denotes u U) :
    Denotes ("\x7b" ++ s ++ ", " ++ t ++ ", " ++ u ++ "\x7d") (Measured.list [S, T, U]).opened := by
  have chars : ("\x7b" ++ s ++ ", " ++ t ++ ", " ++ u ++ "\x7d").toList =
      '\x7b' :: (s.toList ++ ',' :: ' ' :: (t.toList ++ ',' :: ' ' :: (u.toList ++ ['\x7d']))) := by
    simp
  have items : Derives (.items '\x7d' [S, T, U])
      (s.toList ++ ',' :: ' ' :: (t.toList ++ ',' :: ' ' :: (u.toList ++ ['\x7d']))) [] := by
    apply first.items (by decide) (by decide) rfl
    apply first.nextItem (skipBlanks_skipBlanks _)
    apply second.nextItem (skipBlanks_cons_of_isBlank (by decide))
    exact third.lastItem (by decide) (by decide) (skipBlanks_cons_of_isBlank (by decide))
  apply denotes_of_primary
  · rw [chars]
    exact .listed items
  · rw [chars]
    intro c head
    cases head
    decide

/-- Two templates as the arguments of a static member. -/
theorem denotes_static {owner member : String} (validOwner : isName owner = true)
    (validMember : isName member = true) (first : Denotes s S) (second : Denotes t T) :
    Denotes ("@" ++ owner ++ "@" ++ member ++ "(" ++ s ++ ", " ++ t ++ ")")
      (Measured.static owner member [S, T]).opened := by
  have chars : ("@" ++ owner ++ "@" ++ member ++ "(" ++ s ++ ", " ++ t ++ ")").toList =
      '@' :: (owner.toList ++ '@' ::
        (member.toList ++ '(' :: (s.toList ++ ',' :: ' ' :: (t.toList ++ [')'])))) := by
    simp
  have arguments := derives_pair (by decide : ')' ∈ endMarks) (by decide) first second []
  have path := owner_of_isName validOwner
    (member.toList ++ '(' :: (s.toList ++ ',' :: ' ' :: (t.toList ++ [')'])))
  apply denotes_of_primary
  · rw [chars]
    exact .memberCall path (reads_name validMember (stops_isNamePart_cons (by decide) _))
      (skipBlanks_cons_of_not (by decide)) arguments
  · rw [chars]
    intro c head
    cases head
    decide

/-- A template in brackets with something that follows it. -/
theorem denotes_of_extended {tail : List Char} (first : Denotes s S)
    (chars : template.toList = inBrackets s tail) (plain : skipBlanks tail = tail)
    (more : Derives (.extended S tree) tail []) : Denotes template tree.opened := by
  apply denotes_of_operand
  rw [chars]
  apply first.operand (skipBlanks_inBrackets s tail)
  rwa [plain]

/-- Where the text is over, an operand is complete. -/
theorem derives_complete (target : Measured) : Derives (.extended target target) [] [] :=
  .complete (by intro c head; cases head)

theorem denotes_index (first : Denotes s S) (second : Denotes t T) :
    Denotes (Frame.round s ++ "[" ++ t ++ "]") (Measured.index S T).opened := by
  have chars : (Frame.round s ++ "[" ++ t ++ "]").toList = inBrackets s ('[' :: (t.toList ++ [']'])) := by
    simp [Frame.round, inBrackets]
  obtain ⟨inside, behind, rfl, derived, closed⟩ := second.upTo (by decide : ']' ∈ endMarks) []
  apply denotes_of_extended first chars (skipBlanks_cons_of_not (by decide))
  exact .index derived closed (derives_complete _)

theorem denotes_property {member : String} (valid : isName member = true) (first : Denotes s S) :
    Denotes (Frame.round s ++ "." ++ member) (Measured.property S member).opened := by
  have chars : (Frame.round s ++ "." ++ member).toList = inBrackets s ('.' :: member.toList) := by
    simp [Frame.round, inBrackets]
  have read := reads_name_after_blanks valid (apart_nil.name)
  rw [List.append_nil] at read
  apply denotes_of_extended first chars (skipBlanks_cons_of_not (by decide))
  exact .property read apart_nil.call (derives_complete _)

theorem denotes_method {member : String} (valid : isName member = true) (first : Denotes s S)
    (second : Denotes t T) (third : Denotes u U) :
    Denotes (Frame.round s ++ "." ++ member ++ "(" ++ t ++ ", " ++ u ++ ")")
      (Measured.method S member [T, U]).opened := by
  have chars : (Frame.round s ++ "." ++ member ++ "(" ++ t ++ ", " ++ u ++ ")").toList =
      inBrackets s ('.' :: (member.toList ++
        '(' :: (t.toList ++ ',' :: ' ' :: (u.toList ++ [')'])))) := by
    simp [Frame.round, inBrackets]
  have arguments := derives_pair (by decide : ')' ∈ endMarks) (by decide) second third []
  apply denotes_of_extended first chars (skipBlanks_cons_of_not (by decide))
  exact .method (reads_name_after_blanks valid (stops_isNamePart_cons (by decide) _))
    (skipBlanks_cons_of_not (by decide)) arguments (derives_complete _)

/-! ## Every frame -/

theorem denotes_frame {frame : Frame} (valid : frame.isValid = true) (first : Denotes s S)
    (second : Denotes t T) (third : Denotes u U) :
    Denotes (frame.text s t u) (frame.measured S T U) := by
  cases frame with
  | brackets => exact denotes_round first
  | binary operator => exact denotes_binary operator first second
  | not => exact denotes_not first
  | neg => exact denotes_neg first
  | choice => exact denotes_choice first second third
  | list => exact denotes_list first second third
  | index => exact denotes_index first second
  | property name => exact denotes_property valid first
  | method name => exact denotes_method valid first second third
  | static owner name =>
    have names := (Bool.and_eq_true _ _).mp valid
    exact denotes_static names.1 names.2 first second

/-- Without limits, a frame with templates in it always reads as its node. -/
theorem parseWithin_none_frame {frame : Frame} (valid : frame.isValid = true) {s t u : String}
    {first second third : Expr} (readFirst : parseWithin .none s = .ok first)
    (readSecond : parseWithin .none t = .ok second) (readThird : parseWithin .none u = .ok third) :
    parseWithin .none (frame.text s t u) = .ok (frame.tree first second third) := by
  obtain ⟨S, denotesFirst, rfl⟩ := parseWithin_none_eq_ok_iff.mp readFirst
  obtain ⟨T, denotesSecond, rfl⟩ := parseWithin_none_eq_ok_iff.mp readSecond
  obtain ⟨U, denotesThird, rfl⟩ := parseWithin_none_eq_ok_iff.mp readThird
  have whole := denotes_frame valid denotesFirst denotesSecond denotesThird
  exact parseWithin_none_eq_ok_iff.mpr ⟨_, whole, frame.tree_measured S T U⟩

/-- Templates compose: in a frame they stand for their own trees, and only the limits can be in the
way. -/
theorem parse_frame {frame : Frame} (valid : frame.isValid = true) {s t u : String}
    {first second third : Expr} (readFirst : parse s = .ok first) (readSecond : parse t = .ok second)
    (readThird : parse u = .ok third) :
    parse (frame.text s t u) = .ok (frame.tree first second third) ∨
      ∃ position, parse (frame.text s t u) = .error (.unreadable position .tooDeep) := by
  obtain ⟨S, denotesFirst, rfl⟩ := denotes_of_parseWithin readFirst
  obtain ⟨T, denotesSecond, rfl⟩ := denotes_of_parseWithin readSecond
  obtain ⟨U, denotesThird, rfl⟩ := denotes_of_parseWithin readThird
  have whole := denotes_frame valid denotesFirst denotesSecond denotesThird
  rw [← frame.tree_measured]
  by_cases fits : (frame.measured S T U).Fits .standard (Limits.standard.levels (frame.text s t u).toList)
  · exact Or.inl (parseWithin_of_denotes admitLeaves_standard whole fits)
  · exact Or.inr (tooDeep_of_denotes admitLeaves_standard whole fits)

/-- A choice, a text that is a bracket and a negative number as the parts of a call. -/
theorem parse_frame_method :
    (Frame.method "f").isValid = true ∧
      parse "a?b:c" = .ok (.ternary (.var "a") (.var "b") (.var "c")) ∧
      parse "')'" = .ok (.literal (.string ")")) ∧
      parse "-1" = .ok (.literal (.number (.int (-1)))) ∧
      (Frame.method "f").text "a?b:c" "')'" "-1" = "(a?b:c).f(')', -1)" ∧
      (parse ((Frame.method "f").text "a?b:c" "')'" "-1") =
          .ok (.method (.ternary (.var "a") (.var "b") (.var "c")) "f"
            [.literal (.string ")"), .literal (.number (.int (-1)))]) ∨
        ∃ position, parse ((Frame.method "f").text "a?b:c" "')'" "-1") =
          .error (.unreadable position .tooDeep)) := by
  have valid : (Frame.method "f").isValid = true := by decide
  have choice : parse "a?b:c" = .ok (.ternary (.var "a") (.var "b") (.var "c")) := by decide +kernel
  have quoted : parse "')'" = .ok (.literal (.string ")")) := by decide +kernel
  have negative : parse "-1" = .ok (.literal (.number (.int (-1)))) := by decide +kernel
  exact ⟨valid, choice, quoted, negative, by decide, parse_frame valid choice quoted negative⟩

end Scriptlet.Template
