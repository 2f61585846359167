import Scriptlet.Evaluation
import Scriptlet.Proofs.Expr.Induction

/-!
# How deep an evaluation goes

Evaluating an expression evaluates its operands one after another, and only those that it gets to: what
comes after a failure is never evaluated, and neither is an operand that the one before it decides
against. `recursion` counts how many evaluations are open at the same time on the way. It follows
`Expr.eval` node by node and asks the runs of the operands where that goes on.

An evaluation opens only evaluations of subtrees, so it is never deeper than the tree is tall
(`recursion_le_height`).
-/

set_option autoImplicit false

namespace Scriptlet

/-- What is counted after a run, which is nothing if the run fails. -/
def Run.count {α : Type} (run : Run α) (next : α → Nat) : Nat :=
  match run.outcome with
  | .ok value => next value
  | .error _ => 0

theorem Run.count_le {α : Type} {run : Run α} {next : α → Nat} {bound : Nat}
    (each : ∀ value, next value ≤ bound) : run.count next ≤ bound := by
  unfold Run.count
  split
  · exact each _
  · exact Nat.zero_le bound

namespace Expr

mutual

/-- How many evaluations of expressions are open at the same time, at most, while an expression is
evaluated. -/
def recursion (scope : Scope) : Expr → Nat
  | literal _ => 1
  | var _ => 1
  | list items => recursionEach scope items + 1
  | static _ _ arguments => recursionEach scope arguments + 1
  | property target _ => target.recursion scope + 1
  | method target _ arguments =>
    max (target.recursion scope)
      ((target.eval scope).count fun _ => recursionEach scope arguments) + 1
  | index target position =>
    max (target.recursion scope) ((target.eval scope).count fun _ => position.recursion scope) + 1
  | neg operand => operand.recursion scope + 1
  | not operand => operand.recursion scope + 1
  | binary .or left right =>
    max (left.recursion scope)
      ((left.eval scope).count fun value => if value.truthy then 0 else right.recursion scope) + 1
  | binary .and left right =>
    max (left.recursion scope)
      ((left.eval scope).count fun value => if value.truthy then right.recursion scope else 0) + 1
  | binary (.test _) left right =>
    max (left.recursion scope) ((left.eval scope).count fun _ => right.recursion scope) + 1
  | binary (.arith _) left right =>
    max (left.recursion scope) ((left.eval scope).count fun _ => right.recursion scope) + 1
  | ternary condition yes no =>
    max (condition.recursion scope)
      ((condition.eval scope).count fun value =>
        if value.truthy then yes.recursion scope else no.recursion scope) + 1

/-- How many are open at the same time while some expressions are evaluated one after another. -/
def recursionEach (scope : Scope) : List Expr → Nat
  | [] => 0
  | first :: rest =>
    max (first.recursion scope) ((first.eval scope).count fun _ => recursionEach scope rest)

end

variable {scope : Scope}

/-- What goes on after an operand, if it does, stays within the taller of the two. -/
theorem max_count_le {α : Type} {run : Run α} {next : α → Nat} {count first second : Nat}
    (low : count ≤ first) (each : ∀ value, next value ≤ second) :
    max count (run.count next) ≤ max first second :=
  Nat.max_le.mpr
    ⟨Nat.le_trans low (Nat.le_max_left _ _), Nat.le_trans (Run.count_le each) (Nat.le_max_right _ _)⟩

theorem recursionEach_le_tallest {trees : List Expr}
    (each : ∀ tree ∈ trees, tree.recursion scope ≤ tree.height) :
    recursionEach scope trees ≤ tallest trees := by
  induction trees with
  | nil => exact Nat.le_refl 0
  | cons first rest ih =>
    have later := ih fun tree member => each tree (List.mem_cons_of_mem first member)
    rw [recursionEach, tallest]
    exact max_count_le (each first List.mem_cons_self) fun _ => later

/-- No evaluation is deeper than the tree is tall. -/
theorem recursion_le_height (scope : Scope) (tree : Expr) : tree.recursion scope ≤ tree.height := by
  induction tree with
  | literal _ => exact Nat.le_refl 1
  | var _ => exact Nat.le_refl 1
  | list _ each => exact Nat.succ_le_succ (recursionEach_le_tallest each)
  | static _ _ _ each => exact Nat.succ_le_succ (recursionEach_le_tallest each)
  | property _ _ ih => exact Nat.succ_le_succ ih
  | method _ _ _ ih each =>
    exact Nat.succ_le_succ (max_count_le ih fun _ => recursionEach_le_tallest each)
  | index _ _ ih ihPosition => exact Nat.succ_le_succ (max_count_le ih fun _ => ihPosition)
  | neg _ ih => exact Nat.succ_le_succ ih
  | not _ ih => exact Nat.succ_le_succ ih
  | binary operator left right ihLeft ihRight =>
    have decided : ∀ decides : Bool,
        (if decides then 0 else right.recursion scope) ≤ right.height ∧
          (if decides then right.recursion scope else 0) ≤ right.height := by
      intro decides
      cases decides
      · exact ⟨ihRight, Nat.zero_le _⟩
      · exact ⟨Nat.zero_le _, ihRight⟩
    cases operator with
    | or => exact Nat.succ_le_succ (max_count_le ihLeft fun value => (decided value.truthy).1)
    | and => exact Nat.succ_le_succ (max_count_le ihLeft fun value => (decided value.truthy).2)
    | test _ => exact Nat.succ_le_succ (max_count_le ihLeft fun _ => ihRight)
    | arith _ => exact Nat.succ_le_succ (max_count_le ihLeft fun _ => ihRight)
  | ternary condition yes no ihCondition ihYes ihNo =>
    refine Nat.succ_le_succ (max_count_le ihCondition fun value => ?_)
    by_cases decides : value.truthy
    · rw [if_pos decides]
      exact Nat.le_trans ihYes (Nat.le_max_left _ _)
    · rw [if_neg decides]
      exact Nat.le_trans ihNo (Nat.le_max_right _ _)

end Expr

end Scriptlet
