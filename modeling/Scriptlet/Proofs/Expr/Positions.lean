import Scriptlet.Proofs.Expr.Nodes

/-!
# Positions in a tree

A position is the way from the root to a subtree: at every node the number of the child that it goes on with,
counted from zero. `at?` finds the subtree at a position, and `replace` puts another one there. Both go by the
children of a node, and `setChild` is the one place that knows where a node keeps them.
-/

set_option autoImplicit false

namespace Scriptlet.Expr

/-- The node with another tree as one of its children, if it has so many. -/
def setChild : Expr → Nat → Expr → Expr
  | list items, k, child => list (items.set k child)
  | static owner name arguments, k, child => static owner name (arguments.set k child)
  | property _ name, 0, child => property child name
  | method _ name arguments, 0, child => method child name arguments
  | method target name arguments, k + 1, child => method target name (arguments.set k child)
  | index _ position, 0, child => index child position
  | index target _, 1, child => index target child
  | neg _, 0, child => neg child
  | not _, 0, child => not child
  | binary operator _ right, 0, child => binary operator child right
  | binary operator left _, 1, child => binary operator left child
  | ternary _ yes no, 0, child => ternary child yes no
  | ternary condition _ no, 1, child => ternary condition child no
  | ternary condition yes _, 2, child => ternary condition yes child
  | tree, _, _ => tree

/-- The subtree at a position. -/
def at? : Expr → List Nat → Option Expr
  | tree, [] => some tree
  | tree, k :: rest => tree.children[k]?.bind fun child => child.at? rest

/-- The tree with another one in place of the subtree at a position, if there is one. -/
def replace : Expr → List Nat → Expr → Expr
  | _, [], other => other
  | tree, k :: rest, other =>
    match tree.children[k]? with
    | some child => tree.setChild k (child.replace rest other)
    | none => tree

variable {tree child other : Expr} {k : Nat} {path rest : List Nat}

/-- What holds of every node as soon as it holds of its children holds of every tree. -/
theorem childrenInduction {motive : Expr → Prop}
    (node : ∀ tree : Expr, (∀ child ∈ tree.children, motive child) → motive tree) (tree : Expr) :
    motive tree := by
  induction tree with
  | literal | var => exact node _ nofun
  | list items each => exact node _ each
  | static owner name arguments each => exact node _ each
  | property target name ih => exact node _ (List.forall_mem_singleton.mpr ih)
  | method target name arguments ih each => exact node _ (List.forall_mem_cons.mpr ⟨ih, each⟩)
  | neg operand ih => exact node _ (List.forall_mem_singleton.mpr ih)
  | not operand ih => exact node _ (List.forall_mem_singleton.mpr ih)
  | index _ _ ih ih' | binary _ _ _ ih ih' =>
    exact node _ (List.forall_mem_cons.mpr ⟨ih, List.forall_mem_singleton.mpr ih'⟩)
  | ternary condition yes no ih ihYes ihNo =>
    exact node _ (List.forall_mem_cons.mpr ⟨ih, List.forall_mem_cons.mpr
      ⟨ihYes, List.forall_mem_singleton.mpr ihNo⟩⟩)

theorem children_setChild (tree : Expr) (k : Nat) (child : Expr) :
    (tree.setChild k child).children = tree.children.set k child := by
  cases tree <;> rcases k with - | - | - | k <;> rfl

theorem setChild_self (found : tree.children[k]? = some child) : tree.setChild k child = tree := by
  have same {items : List Expr} {i : Nat} (found : items[i]? = some child) : items.set i child = items := by
    obtain ⟨inside, rfl⟩ := List.getElem?_eq_some_iff.mp found
    exact List.set_getElem_self inside
  cases tree with
  | list items => exact congrArg list (same found)
  | static owner name arguments => exact congrArg (static owner name) (same found)
  | method target name arguments =>
    cases k with
    | zero =>
      cases found
      rfl
    | succ k => exact congrArg (method target name) (same found)
  | _ => rcases k with - | - | - | k <;> cases found <;> rfl

theorem at?_cons (found : tree.children[k]? = some child) : tree.at? (k :: rest) = child.at? rest := by
  rw [at?, found, Option.bind_some]

theorem replace_cons (found : tree.children[k]? = some child) :
    tree.replace (k :: rest) other = tree.setChild k (child.replace rest other) := by
  rw [replace, found]

/-- What is put at a position is found there. -/
theorem at?_replace (exists_ : (tree.at? path).isSome) : (tree.replace path other).at? path = some other := by
  induction path generalizing tree with
  | nil => rfl
  | cons k rest ih =>
    cases found : tree.children[k]? with
    | none =>
      rw [at?, found] at exists_
      cases exists_
    | some child =>
      rw [at?_cons found] at exists_
      obtain ⟨inside, -⟩ := List.getElem?_eq_some_iff.mp found
      have placed : (tree.setChild k (child.replace rest other)).children[k]? =
          some (child.replace rest other) := by
        rw [children_setChild, List.getElem?_set_self inside]
      rw [replace_cons found, at?_cons placed, ih exists_]

end Scriptlet.Expr
