import Scriptlet.Proofs.Template.Lexemes
import Scriptlet.Expr

/-!
# How expressions are spelled

The spelling of an expression puts brackets around an operand only where it binds more loosely than
its place asks for. How strongly a spelling binds is its level: a choice has level 0, the operators
have the levels 1 to 6 in the order of their groups, a sign before an operand has level 7, and what
needs no brackets anywhere has level 8.

Operators stand between blanks, items are separated by a comma and a blank, and texts stand between
single quotes. A negative integer is spelled with its sign, so it has the level of a sign. An operand
that starts with a digit stands in brackets after a minus sign, which would otherwise become part of
the numeral.
-/

set_option autoImplicit false

namespace Scriptlet

open Template

/-- How strongly an operator binds. -/
def Operator.level : Operator → Nat
  | or => 1
  | and => 2
  | test .eq | test .ne => 3
  | test .lt | test .le | test .gt | test .ge => 4
  | arith .add | arith .sub => 5
  | arith .mul | arith .div | arith .rem => 6

/-- The operators, from the weakest on. -/
def Operator.all : List Operator :=
  [or, and, test .eq, test .ne, test .lt, test .le, test .gt, test .ge, arith .add, arith .sub, arith .mul,
    arith .div, arith .rem]

/-- What is true of the operators one by one is true of every operator. -/
@[elab_as_elim] theorem Operator.forall_of_all {p : Operator → Prop} (each : ∀ operator ∈ all, p operator)
    (operator : Operator) : p operator := by
  refine each operator ?_
  obtain _ | _ | comparison | operation := operator
  · decide
  · decide
  · cases comparison <;> decide
  · cases operation <;> decide

theorem Operator.one_le_level (operator : Operator) : 1 ≤ operator.level :=
  Operator.forall_of_all (by decide) operator

theorem Operator.level_le (operator : Operator) : operator.level ≤ 6 :=
  Operator.forall_of_all (by decide) operator

namespace Expr

/-- How strongly the spelling of an expression binds. -/
def level : Expr → Nat
  | ternary _ _ _ => 0
  | binary operator _ _ => operator.level
  | neg _ | not _ => 7
  | literal (.number (.int i)) => if i.toInt < 0 then 7 else 8
  | literal _ | var _ | list _ | static _ _ _ | property _ _ | method _ _ _ | index _ _ => 8

/-- A text in brackets, where they are needed. -/
def bracketed (needed : Bool) (text : List Char) : List Char :=
  if needed then '(' :: text ++ [')'] else text

/-- Texts separated by commas. -/
def separated (texts : List (List Char)) : List Char :=
  [',', ' '].intercalate texts

/-- The spelling of data that stands in a template. -/
def literalText : Json → List Char
  | .string text => quote text
  | data => data.compactChars

/-- The spelling of the arguments of a static member, which has no brackets without any. -/
def staticArguments : List (List Char) → List Char
  | [] => []
  | texts => '(' :: separated texts ++ [')']

mutual

/-- The spelling of an expression, without brackets around the whole. -/
def text : Expr → List Char
  | literal value => literalText value
  | var name => name.toList
  | list items => '\x7b' :: separated (texts items) ++ ['\x7d']
  | static owner name arguments =>
    '@' :: owner.toList ++ '@' :: name.toList ++ staticArguments (texts arguments)
  | property target name => bracketed (target.level < 8) target.text ++ '.' :: name.toList
  | method target name arguments =>
    bracketed (target.level < 8) target.text ++ '.' :: name.toList ++
      '(' :: separated (texts arguments) ++ [')']
  | index target position =>
    bracketed (target.level < 8) target.text ++ '[' :: position.text ++ [']']
  | neg operand =>
    '-' :: bracketed (operand.level < 7 || startsWithDigit operand.text) operand.text
  | not operand => '!' :: bracketed (operand.level < 7) operand.text
  | binary operator left right =>
    bracketed (left.level < operator.level) left.text ++ ' ' :: operator.sign.toList ++
      ' ' :: bracketed (right.level ≤ operator.level) right.text
  | ternary condition yes no =>
    bracketed (condition.level < 1) condition.text ++ ' ' :: '?' :: ' ' :: yes.text ++
      ' ' :: ':' :: ' ' :: no.text

/-- The spellings of some expressions. -/
def texts : List Expr → List (List Char)
  | [] => []
  | tree :: rest => tree.text :: texts rest

end

/-- The template that spells an expression. -/
def print (tree : Expr) : String :=
  String.ofList tree.text

/-! ## What can be spelled -/

/-- Whether data has a spelling in templates: lists, maps, doubles and wide integers have none
that is theirs alone. -/
def isPlain : Json → Bool
  | .null | .bool _ | .string _ | .number (.int _) => true
  | _ => false

/-- Whether a name alone means something other than a variable. -/
def isReserved (name : String) : Bool :=
  name = "true" || name = "false" || name = "null"

mutual

/-- Whether every literal of an expression has a spelling and every name in it is a name of the
grammar. -/
def isSpellable : Expr → Bool
  | literal value => isPlain value
  | var name => isName name && !isReserved name
  | list items => eachSpellable items
  | static owner name arguments => isName owner && isName name && eachSpellable arguments
  | property target name => target.isSpellable && isName name
  | method target name arguments => target.isSpellable && isName name && eachSpellable arguments
  | index target position => target.isSpellable && position.isSpellable
  | neg operand => operand.isSpellable
  | not operand => operand.isSpellable
  | binary _ left right => left.isSpellable && right.isSpellable
  | ternary condition yes no => condition.isSpellable && yes.isSpellable && no.isSpellable

/-- Whether some expressions are spellable. -/
def eachSpellable : List Expr → Bool
  | [] => true
  | tree :: rest => tree.isSpellable && eachSpellable rest

end

theorem level_le (tree : Expr) : tree.level ≤ 8 := by
  fun_cases level tree with
  | case2 operator => exact Nat.le_trans operator.level_le (by decide)
  | _ => decide

/-- All expressions but choices are operations. -/
theorem one_le_level {tree : Expr} (operation : ∀ condition yes no, tree ≠ ternary condition yes no) :
    1 ≤ tree.level := by
  fun_cases level tree with
  | case1 condition yes no => exact absurd rfl (operation condition yes no)
  | case2 operator => exact operator.one_le_level
  | _ => decide

theorem separated_texts_singleton (tree : Expr) : separated (texts [tree]) = tree.text :=
  List.append_nil _

theorem separated_texts_cons (tree next : Expr) (rest : List Expr) :
    separated (texts (tree :: next :: rest)) =
      tree.text ++ ',' :: ' ' :: separated (texts (next :: rest)) := by
  simp only [separated, texts, List.intercalate_cons_cons, List.append_assoc, List.cons_append,
    List.nil_append]

/-- The first of some expressions stands first. -/
theorem separated_texts_eq_append (tree : Expr) (rest : List Expr) :
    ∃ tail, separated (texts (tree :: rest)) = tree.text ++ tail := by
  cases rest with
  | nil => exact ⟨[], (separated_texts_singleton tree).trans (List.append_nil _).symm⟩
  | cons next rest => exact ⟨_, separated_texts_cons tree next rest⟩

theorem eachSpellable_iff {trees : List Expr} :
    eachSpellable trees = true ↔ ∀ tree ∈ trees, tree.isSpellable = true := by
  induction trees with
  | nil => simp [eachSpellable]
  | cons tree rest ih => simp [eachSpellable, ih]

end Expr

end Scriptlet
