import Scriptlet.Evaluation
import Scriptlet.Proofs.Expr.Substitution

/-!
# Bindings are only looked up

An evaluation asks its bindings for the values under the names of the variables of its expression and
for nothing else, so bindings that answer alike give the same run.
-/

set_option autoImplicit false

namespace Scriptlet

variable {scope other : Scope}

theorem evalEach_congr {trees : List Expr}
    (each : ∀ tree ∈ trees, tree.eval scope = tree.eval other) :
    Expr.evalEach scope trees = Expr.evalEach other trees := by
  induction trees with
  | nil => rfl
  | cons first rest ih =>
    have later := ih fun tree member => each tree (List.mem_cons_of_mem first member)
    simp only [Expr.evalEach, each first List.mem_cons_self, later]

/-- Scopes in which the variables of an expression have the same values give the same runs of it. -/
theorem eval_congr_vars (statics : scope.statics = other.statics)
    (hosts : scope.hosts = other.hosts) {tree : Expr}
    (same : ∀ name ∈ tree.vars, scope.bindings.find? name = other.bindings.find? name) :
    tree.eval scope = tree.eval other := by
  have items : ∀ {trees : List Expr},
      (∀ name ∈ Expr.varsEach trees, scope.bindings.find? name = other.bindings.find? name) →
      ∀ item ∈ trees, ∀ name ∈ item.vars,
        scope.bindings.find? name = other.bindings.find? name :=
    fun agree item member name variable_ =>
      agree name (Expr.mem_varsEach.mpr ⟨item, member, variable_⟩)
  induction tree with
  | literal value => rfl
  | var name =>
    have found := same name List.mem_cons_self
    simp only [Expr.eval, Scope.lookup, found]
  | list trees each =>
    have runs := evalEach_congr fun item member => each item member (items same item member)
    simp only [Expr.eval, runs]
  | static owner name arguments each =>
    have runs := evalEach_congr fun item member => each item member (items same item member)
    simp only [Expr.eval, runs, Scope.static, statics]
  | property target name ih => simp only [Expr.eval, ih same, hosts]
  | method target name arguments ih each =>
    have agree := List.forall_mem_append.mp same
    have runs := evalEach_congr fun item member => each item member (items agree.2 item member)
    simp only [Expr.eval, ih agree.1, runs, hosts]
  | index target position ih ihPosition =>
    have agree := List.forall_mem_append.mp same
    simp only [Expr.eval, ih agree.1, ihPosition agree.2, hosts]
  | neg operand ih => simp only [Expr.eval, ih same]
  | not operand ih => simp only [Expr.eval, ih same]
  | binary operator left right ihLeft ihRight =>
    have agree := List.forall_mem_append.mp same
    cases operator <;> simp only [Expr.eval, ihLeft agree.1, ihRight agree.2]
  | ternary condition yes no ihCondition ihYes ihNo =>
    have agree := List.forall_mem_append.mp same
    have branches := List.forall_mem_append.mp agree.2
    simp only [Expr.eval, ihCondition agree.1, ihYes branches.1, ihNo branches.2]

/-- Scopes in which the same names have the same values give the same runs. -/
theorem eval_congr (statics : scope.statics = other.statics) (hosts : scope.hosts = other.hosts)
    (same : ∀ name, scope.bindings.find? name = other.bindings.find? name) (tree : Expr) :
    tree.eval scope = tree.eval other :=
  eval_congr_vars statics hosts fun name _ => same name

end Scriptlet
