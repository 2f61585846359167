import Scriptlet.Proofs.Expr.Induction

/-!
# The nodes of a tree

All subtrees of an expression in a list, from the left and each after those below it. That is the order
in which an evaluation is done with them, as long as it needs them all.
-/

set_option autoImplicit false

namespace Scriptlet.Expr

mutual

/-- The subtrees of an expression, each after those below it; the expression is the last. -/
def nodes : Expr → List Expr
  | literal value => [literal value]
  | var name => [var name]
  | list items => nodesEach items ++ [list items]
  | static owner name arguments => nodesEach arguments ++ [static owner name arguments]
  | property target name => target.nodes ++ [property target name]
  | method target name arguments =>
    target.nodes ++ (nodesEach arguments ++ [method target name arguments])
  | index target position => target.nodes ++ (position.nodes ++ [index target position])
  | neg operand => operand.nodes ++ [neg operand]
  | not operand => operand.nodes ++ [not operand]
  | binary operator left right => left.nodes ++ (right.nodes ++ [binary operator left right])
  | ternary condition yes no =>
    condition.nodes ++ (yes.nodes ++ (no.nodes ++ [ternary condition yes no]))

/-- The subtrees of some expressions. -/
def nodesEach : List Expr → List Expr
  | [] => []
  | first :: rest => first.nodes ++ nodesEach rest

end

theorem mem_nodesEach {trees : List Expr} {node : Expr} :
    node ∈ nodesEach trees ↔ ∃ tree ∈ trees, node ∈ tree.nodes := by
  induction trees with
  | nil => simp [nodesEach]
  | cons first rest ih => simp [nodesEach, ih]

/-- The subtrees right below the root. -/
def children : Expr → List Expr
  | literal _ => []
  | var _ => []
  | list items => items
  | static _ _ arguments => arguments
  | property target _ => [target]
  | method target _ arguments => target :: arguments
  | index target position => [target, position]
  | neg operand => [operand]
  | not operand => [operand]
  | binary _ left right => [left, right]
  | ternary condition yes no => [condition, yes, no]

theorem nodes_eq (tree : Expr) : tree.nodes = nodesEach tree.children ++ [tree] := by
  cases tree <;> simp [nodes, children, nodesEach]

/-- The nodes of a tree are the tree itself and those below it. -/
theorem mem_nodes_iff {tree node : Expr} :
    node ∈ tree.nodes ↔ node = tree ∨ ∃ child ∈ tree.children, node ∈ child.nodes := by
  rw [nodes_eq, List.mem_append, mem_nodesEach, List.mem_singleton, or_comm]

end Scriptlet.Expr
