import Scriptlet.Expr

/-!
# Induction over expressions

Expressions stand in lists of expressions, so the induction that Lean generates speaks of two
motives. `Expr.subtreeInduction` has one: in the cases with a list, the hypothesis holds of every
item of it. `induction` uses it for every expression.
-/

set_option autoImplicit false

namespace Scriptlet.Expr

/-- What holds of every node as soon as it holds of the subtrees right below it holds of every
tree. -/
@[induction_eliminator]
theorem subtreeInduction {motive : Expr → Prop}
    (literal : ∀ value, motive (.literal value))
    (var : ∀ name, motive (.var name))
    (list : ∀ items, (∀ item ∈ items, motive item) → motive (.list items))
    (static : ∀ owner name arguments, (∀ argument ∈ arguments, motive argument) →
      motive (.static owner name arguments))
    (property : ∀ target name, motive target → motive (.property target name))
    (method : ∀ target name arguments, motive target →
      (∀ argument ∈ arguments, motive argument) → motive (.method target name arguments))
    (index : ∀ target position, motive target → motive position →
      motive (.index target position))
    (neg : ∀ operand, motive operand → motive (.neg operand))
    (not : ∀ operand, motive operand → motive (.not operand))
    (binary : ∀ operator left right, motive left → motive right →
      motive (.binary operator left right))
    (ternary : ∀ condition yes no, motive condition → motive yes → motive no →
      motive (.ternary condition yes no))
    (tree : Expr) : motive tree := by
  refine @Expr.rec motive (fun trees => ∀ t ∈ trees, motive t)
    literal var list static property method index neg not binary ternary ?_ ?_ tree
  · intro t member
    cases member
  · intro first rest holdsFirst holdsRest t member
    rcases List.mem_cons.mp member with rfl | member
    · exact holdsFirst
    · exact holdsRest t member

/-! ## Heights -/

theorem height_pos (tree : Expr) : 0 < tree.height := by
  cases tree <;> exact Nat.succ_pos _

/-- No item of a list is taller than the tallest. -/
theorem height_le_tallest {items : List Expr} {item : Expr} (member : item ∈ items) :
    item.height ≤ tallest items := by
  induction items with
  | nil => cases member
  | cons first rest ih =>
    rw [tallest]
    rcases List.mem_cons.mp member with rfl | member
    · exact Nat.le_max_left _ _
    · exact Nat.le_trans (ih member) (Nat.le_max_right _ _)

theorem tallest_append (items others : List Expr) :
    tallest (items ++ others) = max (tallest items) (tallest others) := by
  induction items with
  | nil => exact (Nat.zero_max _).symm
  | cons first rest ih => rw [List.cons_append, tallest, tallest, ih, Nat.max_assoc]

end Scriptlet.Expr
