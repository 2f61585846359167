import Scriptlet.Proofs.Expr.Induction
import Scriptlet.Proofs.Template.Places

/-!
# Derivations

The grammar of templates as a relation, without readers and without limits. `Derives phrase text rest`
says that the text starts with the phrase and goes on with the rest. A phrase is a part of an
expression with the trees that it stands for; the two that describe a loop (`joined`, `extended`) go
from a tree that is already there to the tree that the loop arrives at, and stand at a text whose
blanks have been skipped.

A tree is derived together with two measures (`Measured`), each put together rule by rule as the parts
are read: the height that is handed on with the tree, and the number of nested expressions and operands
that are open at the same time. That the height is the height of the tree is `Derives.exact_`, and that
nothing opens without a character of its own is `Derives.nests`.
-/

set_option autoImplicit false

namespace Scriptlet.Template

open Text

/-! ## Trees with their measures -/

/-- A tree as it is read: with the height that is handed on with it, and with the greatest number of
nested expressions and operands that were open at the same time. -/
structure Measured where
  tree : Expr
  height : Nat
  nesting : Nat

namespace Measured

/-- The trees of a list. -/
def trees (items : List Measured) : List Expr :=
  items.map tree

/-- The greatest height in a list, zero if it is empty. -/
def tallest : List Measured → Nat
  | [] => 0
  | item :: rest => max item.height (tallest rest)

/-- The greatest nesting in a list, zero if it is empty. -/
def deepest : List Measured → Nat
  | [] => 0
  | item :: rest => max item.nesting (deepest rest)

/-- A tree without subtrees. -/
def leaf (tree : Expr) : Measured :=
  ⟨tree, 1, 0⟩

/-- A tree that is read as a nested expression or a nested operand. -/
def opened (inside : Measured) : Measured :=
  { inside with nesting := inside.nesting + 1 }

def list (items : List Measured) : Measured :=
  ⟨.list (trees items), tallest items + 1, deepest items⟩

def static (owner name : String) (arguments : List Measured) : Measured :=
  ⟨.static owner name (trees arguments), tallest arguments + 1, deepest arguments⟩

def property (target : Measured) (name : String) : Measured :=
  ⟨.property target.tree name, target.height + 1, target.nesting⟩

def method (target : Measured) (name : String) (arguments : List Measured) : Measured :=
  ⟨.method target.tree name (trees arguments), 1 + max target.height (tallest arguments),
    max target.nesting (deepest arguments)⟩

def index (target position : Measured) : Measured :=
  ⟨.index target.tree position.tree, 1 + max target.height position.height,
    max target.nesting position.nesting⟩

def neg (operand : Measured) : Measured :=
  ⟨.neg operand.tree, operand.height + 1, operand.nesting⟩

def not (operand : Measured) : Measured :=
  ⟨.not operand.tree, operand.height + 1, operand.nesting⟩

def binary (operator : Operator) (left right : Measured) : Measured :=
  ⟨.binary operator left.tree right.tree, 1 + max left.height right.height,
    max left.nesting right.nesting⟩

def ternary (condition yes no : Measured) : Measured :=
  ⟨.ternary condition.tree yes.tree no.tree, 1 + max (max condition.height yes.height) no.height,
    max (max condition.nesting yes.nesting) no.nesting⟩

end Measured

/-! ## The grammar -/

/-- A part of an expression, with what it stands for. -/
inductive Phrase where
  /-- A whole expression. -/
  | expression (tree : Measured)
  /-- Operands joined by the operators of a level and all higher ones; no operator is left above 6. -/
  | operation (level : Nat) (tree : Measured)
  /-- The operands of a level that follow a left operand. -/
  | joined (level : Nat) (left tree : Measured)
  /-- An operand with the signs before it. -/
  | signed (tree : Measured)
  /-- What follows an operand. -/
  | extended (target tree : Measured)
  /-- A primary expression. -/
  | primary (tree : Measured)
  /-- Expressions separated by commas, or none, and the mark that closes them. -/
  | items (close : Char) (trees : List Measured)
  /-- At least one such expression, and the mark. -/
  | someItems (close : Char) (trees : List Measured)

/-- The text starts with the phrase and goes on with the rest. -/
inductive Derives : Phrase → List Char → List Char → Prop where
  | unconditional {tree : Measured} {text rest : List Char}
      (whole : Derives (.operation 1 tree) text rest)
      (ends : ∀ c ∈ (skipBlanks rest).head?, c ≠ '?') :
      Derives (.expression tree) text (skipBlanks rest)
  | choice {condition yes no : Measured} {text behind next last after rest : List Char}
      (decides : Derives (.operation 1 condition) text behind)
      (question : skipBlanks behind = '?' :: next)
      (first : Derives (.expression yes) next last)
      (colon : skipBlanks last = ':' :: after)
      (second : Derives (.expression no) after rest) :
      Derives (.expression (.ternary condition yes.opened no.opened)) text rest
  | leftmost {level : Nat} {left tree : Measured} {text behind rest : List Char}
      (low : 1 ≤ level) (high : level ≤ 6)
      (first : Derives (.operation (level + 1) left) text behind)
      (more : Derives (.joined level left tree) (skipBlanks behind) rest) :
      Derives (.operation level tree) text rest
  | bare {tree : Measured} {text rest : List Char}
      (inside : Derives (.signed tree) (skipBlanks text) rest) :
      Derives (.operation 7 tree) text rest
  | alone {level : Nat} {left : Measured} {text : List Char}
      (ends : operator? (operatorsAt level) text = none) :
      Derives (.joined level left left) text text
  | join {level : Nat} {operator : Operator} {left right tree : Measured}
      {text next behind rest : List Char}
      (found : FindsOperator (operatorsAt level) text operator next)
      (second : Derives (.operation (level + 1) right) next behind)
      (more : Derives (.joined level (.binary operator left right) tree) (skipBlanks behind) rest) :
      Derives (.joined level left tree) text rest
  | denied {operand : Measured} {text rest : List Char}
      (plain : ∀ c ∈ text.head?, c ≠ '=')
      (inside : Derives (.operation 7 operand) text rest) :
      Derives (.signed (.not operand.opened)) ('!' :: text) rest
  | negated {operand : Measured} {text rest : List Char}
      (plain : startsWithDigit (skipBlanks text) = false)
      (inside : Derives (.operation 7 operand) (skipBlanks text) rest) :
      Derives (.signed (.neg operand.opened)) ('-' :: text) rest
  | negative {value : Number} {tree : Measured} {text behind rest : List Char}
      (digit : startsWithDigit (skipBlanks text) = true)
      (read : Reads (numeral true) (skipBlanks text) value behind)
      (more : Derives (.extended (.leaf (.literal (.number value))) tree) (skipBlanks behind) rest) :
      Derives (.signed tree) ('-' :: text) rest
  | unsigned {target tree : Measured} {text behind rest : List Char}
      (plain : ∀ c ∈ text.head?, c ≠ '!' ∧ c ≠ '-')
      (first : Derives (.primary target) text behind)
      (more : Derives (.extended target tree) (skipBlanks behind) rest) :
      Derives (.signed tree) text rest
  | complete {target : Measured} {text : List Char}
      (ends : ∀ c ∈ text.head?, c ≠ '.' ∧ c ≠ '[') :
      Derives (.extended target target) text text
  | property {target tree : Measured} {member : String} {text behind rest : List Char}
      (read : Reads name (skipBlanks text) member behind)
      (plain : ∀ c ∈ (skipBlanks behind).head?, c ≠ '(')
      (more : Derives (.extended (.property target member) tree) (skipBlanks behind) rest) :
      Derives (.extended target tree) ('.' :: text) rest
  | method {target tree : Measured} {member : String} {arguments : List Measured}
      {text behind next after rest : List Char}
      (read : Reads name (skipBlanks text) member behind)
      (opens : skipBlanks behind = '(' :: next)
      (each : Derives (.items ')' arguments) next after)
      (more : Derives (.extended (.method target member arguments) tree) (skipBlanks after) rest) :
      Derives (.extended target tree) ('.' :: text) rest
  | index {target position tree : Measured} {text behind after rest : List Char}
      (inside : Derives (.expression position) text behind)
      (closed : skipBlanks behind = ']' :: after)
      (more : Derives (.extended (.index target position.opened) tree) (skipBlanks after) rest) :
      Derives (.extended target tree) ('[' :: text) rest
  | brackets {tree : Measured} {text behind rest : List Char}
      (inside : Derives (.expression tree) text behind)
      (closed : skipBlanks behind = ')' :: rest) :
      Derives (.primary tree.opened) ('(' :: text) rest
  | listed {trees : List Measured} {text rest : List Char}
      (each : Derives (.items '\x7d' trees) text rest) :
      Derives (.primary (.list trees)) ('\x7b' :: text) rest
  | quotedText {content : String} {mark : Char} {text rest : List Char}
      (opens : mark = '\'' ∨ mark = '"')
      (read : Reads quoted (mark :: text) content rest) :
      Derives (.primary (.leaf (.literal (.string content)))) (mark :: text) rest
  | unsignedNumeral {value : Number} {text rest : List Char}
      (digit : startsWithDigit text = true)
      (read : Reads (numeral false) text value rest) :
      Derives (.primary (.leaf (.literal (.number value)))) text rest
  | member {owner member : String} {text next rest : List Char}
      (path : Owner text owner ('@' :: next))
      (read : Reads name next member rest)
      (plain : ∀ c ∈ (skipBlanks rest).head?, c ≠ '(') :
      Derives (.primary (.static owner member [])) ('@' :: text) (skipBlanks rest)
  | memberCall {owner member : String} {arguments : List Measured}
      {text next behind after rest : List Char}
      (path : Owner text owner ('@' :: next))
      (read : Reads name next member behind)
      (opens : skipBlanks behind = '(' :: after)
      (each : Derives (.items ')' arguments) after rest) :
      Derives (.primary (.static owner member arguments)) ('@' :: text) rest
  | nameAlone {word : String} {text rest : List Char}
      (read : Reads name text word rest) :
      Derives (.primary (.leaf (named word))) text rest
  | noItems {close : Char} {text rest : List Char}
      (closed : skipBlanks text = close :: rest) :
      Derives (.items close []) text rest
  | severalItems {close : Char} {trees : List Measured} {text rest : List Char}
      (opens : ∀ c ∈ (skipBlanks text).head?, c ≠ close)
      (each : Derives (.someItems close trees) (skipBlanks text) rest) :
      Derives (.items close trees) text rest
  | lastItem {close : Char} {tree : Measured} {text behind rest : List Char}
      (inside : Derives (.expression tree) text behind)
      (closed : skipBlanks behind = close :: rest) (last : close ≠ ',') :
      Derives (.someItems close [tree.opened]) text rest
  | nextItem {close : Char} {tree : Measured} {trees : List Measured}
      {text behind next rest : List Char}
      (inside : Derives (.expression tree) text behind)
      (comma : skipBlanks behind = ',' :: next)
      (others : Derives (.someItems close trees) next rest) :
      Derives (.someItems close (tree.opened :: trees)) text rest

/-! ## Measures -/

/-- The height that is handed on is the height of the tree. -/
def Measured.Exact (item : Measured) : Prop :=
  item.height = item.tree.height

namespace Measured

theorem tallest_eq {items : List Measured} (each : ∀ item ∈ items, item.Exact) :
    tallest items = Expr.tallest (trees items) := by
  induction items with
  | nil => rfl
  | cons item rest ih =>
    have later := ih fun other member => each other (List.mem_cons_of_mem item member)
    have here : item.height = item.tree.height := each item List.mem_cons_self
    show max item.height (tallest rest) = max item.tree.height (Expr.tallest (trees rest))
    rw [here, later]

theorem exact_list {items : List Measured} (each : ∀ item ∈ items, item.Exact) :
    (list items).Exact :=
  congrArg (· + 1) (tallest_eq each)

theorem exact_static {owner name : String} {arguments : List Measured}
    (each : ∀ argument ∈ arguments, argument.Exact) : (static owner name arguments).Exact :=
  congrArg (· + 1) (tallest_eq each)

variable {left right : Measured}

theorem exact_property {name : String} (exact_ : left.Exact) : (property left name).Exact :=
  congrArg (· + 1) exact_

theorem exact_method {name : String} {arguments : List Measured} (exact_ : left.Exact)
    (each : ∀ argument ∈ arguments, argument.Exact) : (method left name arguments).Exact := by
  unfold Exact at exact_
  simp only [Exact, method, Expr.height, exact_, tallest_eq each, Nat.add_comm 1]

theorem exact_index (exactLeft : left.Exact) (exactRight : right.Exact) :
    (index left right).Exact := by
  unfold Exact at exactLeft exactRight
  simp only [Exact, index, Expr.height, exactLeft, exactRight, Nat.add_comm 1]

theorem exact_binary {operator : Operator} (exactLeft : left.Exact) (exactRight : right.Exact) :
    (binary operator left right).Exact := by
  unfold Exact at exactLeft exactRight
  simp only [Exact, binary, Expr.height, exactLeft, exactRight, Nat.add_comm 1]

theorem exact_ternary {condition : Measured} (exactCondition : condition.Exact)
    (exactLeft : left.Exact) (exactRight : right.Exact) :
    (ternary condition left right).Exact := by
  unfold Exact at exactCondition exactLeft exactRight
  simp only [Exact, ternary, Expr.height, exactCondition, exactLeft, exactRight, Nat.add_comm 1,
    Nat.max_assoc]

end Measured

theorem height_named (word : String) : (named word).height = 1 := by
  unfold named
  split <;> rfl

/-- The heights that a phrase hands on are the heights of its trees. -/
def Phrase.Exact : Phrase → Prop
  | expression tree | operation _ tree | signed tree | primary tree => tree.Exact
  | joined _ left tree | extended left tree => left.Exact → tree.Exact
  | items _ trees | someItems _ trees => ∀ tree ∈ trees, tree.Exact

theorem Derives.exact_ {phrase : Phrase} {text rest : List Char} (derived : Derives phrase text rest) :
    phrase.Exact := by
  induction derived with
  | unconditional _ _ ih => exact ih
  | choice _ _ _ _ _ decides first second => exact Measured.exact_ternary decides first second
  | leftmost _ _ _ _ first more => exact more first
  | bare _ ih => exact ih
  | alone _ => exact id
  | join _ _ _ second more => exact fun left => more (Measured.exact_binary left second)
  | denied _ _ ih => exact congrArg (· + 1) ih
  | negated _ _ ih => exact congrArg (· + 1) ih
  | negative _ _ _ more => exact more rfl
  | unsigned _ _ _ first more => exact more first
  | complete _ => exact id
  | property _ _ _ more => exact fun target => more (Measured.exact_property target)
  | method _ _ _ _ each more => exact fun target => more (Measured.exact_method target each)
  | index _ _ _ inside more => exact fun target => more (Measured.exact_index target inside)
  | brackets _ _ ih => exact ih
  | listed _ each => exact Measured.exact_list each
  | quotedText _ _ => exact rfl
  | unsignedNumeral _ _ => exact rfl
  | member _ _ _ => exact rfl
  | memberCall _ _ _ _ each => exact Measured.exact_static each
  | nameAlone _ => exact (height_named _).symm
  | noItems _ => exact nofun
  | severalItems _ _ each => exact each
  | lastItem _ _ _ ih =>
    intro tree member
    rw [List.mem_singleton.mp member]
    exact ih
  | nextItem _ _ _ inside others =>
    intro tree member
    rcases List.mem_cons.mp member with rfl | member
    · exact inside
    · exact others tree member

/-- What a phrase opens takes up characters: an expression nests less deep than it is long. -/
def Phrase.Nests : Phrase → List Char → List Char → Prop
  | expression tree, text, rest | operation _ tree, text, rest | signed tree, text, rest
  | primary tree, text, rest => tree.nesting + rest.length < text.length
  | joined _ left tree, text, rest | extended left tree, text, rest =>
    rest.length ≤ text.length ∧ tree.nesting + rest.length ≤ max (left.nesting + rest.length) text.length
  | items _ trees, text, rest | someItems _ trees, text, rest =>
    Measured.deepest trees + rest.length < text.length

theorem Owner.shorter {text rest : List Char} {owner : String} (path : Owner text owner rest) :
    rest.length < text.length := by
  induction path with
  | last read _ => exact read.1
  | inside read _ ih => exact Nat.lt_trans ih (Nat.lt_of_succ_lt read.1)

theorem FindsOperator.shorter {operators : List Operator} {operator : Operator}
    {text rest : List Char} (found : FindsOperator operators text operator rest) :
    rest.length < text.length :=
  found.1

theorem length_of_skipBlanks_eq {c : Char} {text rest : List Char} (h : skipBlanks text = c :: rest) :
    rest.length < text.length := by
  have blanks := length_skipBlanks_le text
  rw [h] at blanks
  exact blanks

theorem Derives.nests {phrase : Phrase} {text rest : List Char} (derived : Derives phrase text rest) :
    phrase.Nests text rest := by
  induction derived with
  | @unconditional tree text rest _ _ ih =>
    have blanks := length_skipBlanks_le rest
    simp only [Phrase.Nests] at ih ⊢
    omega
  | @choice _ _ _ _ _ _ _ _ _ _ question _ colon _ decides first second =>
    have afterQuestion := length_of_skipBlanks_eq question
    have afterColon := length_of_skipBlanks_eq colon
    simp only [Phrase.Nests, Measured.ternary, Measured.opened] at decides first second ⊢
    omega
  | @leftmost _ _ _ _ behind _ _ _ _ _ first more =>
    have blanks := length_skipBlanks_le behind
    simp only [Phrase.Nests] at first more ⊢
    omega
  | @bare _ text _ _ ih =>
    have blanks := length_skipBlanks_le text
    simp only [Phrase.Nests] at ih ⊢
    omega
  | alone _ => exact ⟨Nat.le_refl _, Nat.le_max_left _ _⟩
  | @join _ _ _ _ _ _ _ behind _ found _ _ second more =>
    have blanks := length_skipBlanks_le behind
    have sign := found.shorter
    simp only [Phrase.Nests, Measured.binary] at second more ⊢
    omega
  | denied _ _ ih =>
    simp only [Phrase.Nests, Measured.not, Measured.opened, List.length_cons] at ih ⊢
    omega
  | @negated _ text _ _ _ ih =>
    have blanks := length_skipBlanks_le text
    simp only [Phrase.Nests, Measured.neg, Measured.opened, List.length_cons] at ih ⊢
    omega
  | @negative _ _ text behind _ _ read _ more =>
    have blanks := length_skipBlanks_le text
    have blanksBehind := length_skipBlanks_le behind
    have numeral := read.1
    simp only [Phrase.Nests, Measured.leaf, List.length_cons] at more ⊢
    omega
  | @unsigned _ _ _ behind _ _ _ _ first more =>
    have blanks := length_skipBlanks_le behind
    simp only [Phrase.Nests] at first more ⊢
    omega
  | complete _ => exact ⟨Nat.le_refl _, Nat.le_max_left _ _⟩
  | @property _ _ _ text behind _ read _ _ more =>
    have blanks := length_skipBlanks_le text
    have blanksBehind := length_skipBlanks_le behind
    have member := read.1
    simp only [Phrase.Nests, Measured.property, List.length_cons] at more ⊢
    omega
  | @method _ _ _ _ text behind _ after _ read opens _ _ each more =>
    have blanks := length_skipBlanks_le text
    have blanksAfter := length_skipBlanks_le after
    have bracket := length_of_skipBlanks_eq opens
    have member := read.1
    simp only [Phrase.Nests, Measured.method, List.length_cons] at each more ⊢
    omega
  | @index _ _ _ _ _ after _ _ closed _ inside more =>
    have blanks := length_skipBlanks_le after
    have bracket := length_of_skipBlanks_eq closed
    simp only [Phrase.Nests, Measured.index, Measured.opened, List.length_cons] at inside more ⊢
    omega
  | brackets _ closed ih =>
    have bracket := length_of_skipBlanks_eq closed
    simp only [Phrase.Nests, Measured.opened, List.length_cons] at ih ⊢
    omega
  | listed _ each =>
    simp only [Phrase.Nests, Measured.list, List.length_cons] at each ⊢
    omega
  | quotedText _ read | unsignedNumeral _ read | nameAlone read =>
    show 0 + _ < _
    rw [Nat.zero_add]
    exact read.1
  | @member _ _ _ _ rest path read _ =>
    have blanks := length_skipBlanks_le rest
    have classPath := path.shorter
    have memberName := read.1
    simp only [Phrase.Nests, Measured.static, Measured.deepest, List.length_cons] at classPath ⊢
    omega
  | memberCall path read opens _ each =>
    have classPath := path.shorter
    have bracket := length_of_skipBlanks_eq opens
    have memberName := read.1
    simp only [Phrase.Nests, Measured.static, List.length_cons] at classPath each ⊢
    omega
  | noItems closed =>
    show 0 + _ < _
    rw [Nat.zero_add]
    exact length_of_skipBlanks_eq closed
  | @severalItems _ _ text _ _ _ each =>
    have blanks := length_skipBlanks_le text
    simp only [Phrase.Nests] at each ⊢
    omega
  | lastItem _ closed _ ih =>
    have bracket := length_of_skipBlanks_eq closed
    simp only [Phrase.Nests, Measured.deepest, Measured.opened] at ih ⊢
    omega
  | nextItem _ comma _ inside others =>
    have mark := length_of_skipBlanks_eq comma
    simp only [Phrase.Nests, Measured.deepest, Measured.opened] at inside others ⊢
    omega

/-- A loop only adds to the tree that it starts from. -/
def Phrase.Grows : Phrase → Prop
  | joined _ left tree | extended left tree =>
    left.tree.height ≤ tree.tree.height ∧ left.nesting ≤ tree.nesting
  | _ => True

theorem Derives.grows {phrase : Phrase} {text rest : List Char} (derived : Derives phrase text rest) :
    phrase.Grows := by
  induction derived with
  | alone _ => exact ⟨Nat.le_refl _, Nat.le_refl _⟩
  | complete _ => exact ⟨Nat.le_refl _, Nat.le_refl _⟩
  | join _ _ _ _ more =>
    simp only [Phrase.Grows, Measured.binary, Expr.height] at more ⊢
    omega
  | property _ _ _ more =>
    simp only [Phrase.Grows, Measured.property, Expr.height] at more ⊢
    omega
  | method _ _ _ _ _ more =>
    simp only [Phrase.Grows, Measured.method, Expr.height] at more ⊢
    omega
  | index _ _ _ _ more =>
    simp only [Phrase.Grows, Measured.index, Expr.height] at more ⊢
    omega
  | _ => trivial

/-! ## Where expressions start -/

/-- Blanks before whole expressions and operations do not matter. -/
def Phrase.Skips : Phrase → List Char → List Char → Prop
  | expression tree, text, rest =>
    ∀ before, skipBlanks before = skipBlanks text → Derives (.expression tree) before rest
  | operation level tree, text, rest =>
    ∀ before, skipBlanks before = skipBlanks text → Derives (.operation level tree) before rest
  | _, _, _ => True

theorem Derives.skip {phrase : Phrase} {text rest : List Char} (derived : Derives phrase text rest) :
    phrase.Skips text rest := by
  induction derived with
  | unconditional _ ends ih => exact fun before place => .unconditional (ih before place) ends
  | choice _ question first colon second ih =>
    exact fun before place => .choice (ih before place) question first colon second
  | leftmost low high _ more ih => exact fun before place => .leftmost low high (ih before place) more
  | bare inside =>
    intro before place
    apply Derives.bare
    rwa [place]
  | _ => trivial

/-- No expression starts with a mark that ends expressions. -/
def Phrase.Opens : Phrase → List Char → Prop
  | expression _, text | operation _ _, text => Template.Opens (skipBlanks text)
  | signed _, text | primary _, text => Template.Opens text
  | _, _ => True

theorem opens_of_reads_name {word : String} {text rest : List Char}
    (read : Reads name text word rest) : Opens text := by
  obtain ⟨c, tail, rfl, start⟩ := exists_start_of_reads_name read
  exact Opens.of_isNamePart (isNamePart_of_isNameStart start)

theorem Derives.opens {phrase : Phrase} {text rest : List Char} (derived : Derives phrase text rest) :
    phrase.Opens text := by
  induction derived with
  | unconditional _ _ ih | choice _ _ _ _ _ ih | leftmost _ _ _ _ ih | bare _ ih => exact ih
  | unsigned _ _ _ ih => exact ih
  | denied | negated | negative | brackets | listed | member | memberCall =>
    exact ⟨_, _, rfl, by decide, by decide, by decide⟩
  | quotedText opens =>
    refine ⟨_, _, rfl, ?_⟩
    rcases opens with rfl | rfl <;> decide
  | @unsignedNumeral _ text _ digit =>
    cases text with
    | nil => cases digit
    | cons c text => exact Opens.of_isNamePart (isNamePart_of_isDigit digit)
  | nameAlone read => exact opens_of_reads_name read
  | _ => trivial

end Scriptlet.Template
