import Scriptlet.Proofs.Expr.Induction

/-!
# Variables and substitution

The variables of an expression, and the expression with another one in place of one of them. No
expression binds a variable, so nothing is captured.
-/

set_option autoImplicit false

namespace Scriptlet.Expr

mutual

/-- The variables of an expression. -/
def vars : Expr → List String
  | literal _ => []
  | var name => [name]
  | list items => varsEach items
  | static _ _ arguments => varsEach arguments
  | property target _ => target.vars
  | method target _ arguments => target.vars ++ varsEach arguments
  | index target position => target.vars ++ position.vars
  | neg operand => operand.vars
  | not operand => operand.vars
  | binary _ left right => left.vars ++ right.vars
  | ternary condition yes no => condition.vars ++ (yes.vars ++ no.vars)

/-- The variables of some expressions. -/
def varsEach : List Expr → List String
  | [] => []
  | first :: rest => first.vars ++ varsEach rest

end

mutual

/-- The expression with a replacement for every occurrence of a variable. -/
def subst (name : String) (replacement : Expr) : Expr → Expr
  | literal value => literal value
  | var other => if other = name then replacement else var other
  | list items => list (substEach name replacement items)
  | static owner member arguments => static owner member (substEach name replacement arguments)
  | property target member => property (subst name replacement target) member
  | method target member arguments =>
    method (subst name replacement target) member (substEach name replacement arguments)
  | index target position => index (subst name replacement target) (subst name replacement position)
  | neg operand => neg (subst name replacement operand)
  | not operand => not (subst name replacement operand)
  | binary operator left right =>
    binary operator (subst name replacement left) (subst name replacement right)
  | ternary condition yes no =>
    ternary (subst name replacement condition) (subst name replacement yes)
      (subst name replacement no)

/-- Some expressions with a replacement for every occurrence of a variable. -/
def substEach (name : String) (replacement : Expr) : List Expr → List Expr
  | [] => []
  | first :: rest => subst name replacement first :: substEach name replacement rest

end

theorem mem_varsEach {trees : List Expr} {name : String} :
    name ∈ varsEach trees ↔ ∃ tree ∈ trees, name ∈ tree.vars := by
  induction trees with
  | nil => simp [varsEach]
  | cons first rest ih => simp [varsEach, ih]

end Scriptlet.Expr
