import Scriptlet.Evaluation
import Scriptlet.Proofs.Expr.Positions
import Scriptlet.Proofs.Run.Orderly

/-!
# How nodes are evaluated

All nodes are evaluated in one way, by a `Plan`: some of the children from the left, and then, by their values,
either one more child, which the node leaves the answer to, or an answer of its own (`eval_eq_plan`). A plan
only sees the runs of the children. So what holds of the evaluation of every node is shown once, for plans.

A child is entered if none of those before it fails, or if it is the one that their values ask for
(`Plan.Enters`). Any other run in place of a child that is not entered makes no difference (`Plan.eval_set`).
-/

set_option autoImplicit false

namespace Scriptlet

/-- How a node is evaluated: children first, then one more child or an answer. -/
structure Plan where
  /-- The number of children that are evaluated first, from the left. -/
  eager : Nat
  /-- The child that is evaluated after them, if there is one. -/
  branch? : List Value → Option Nat
  /-- The answer if there is none. -/
  finish : List Value → Run Value

/-- The run comes to a value. -/
def Run.Succeeds {α : Type} (run : Run α) : Prop :=
  ∃ value, run.outcome = .ok value

namespace Plan

/-- The plan of a node that needs all its children. -/
def strict (eager : Nat) (finish : List Value → Run Value) : Plan :=
  ⟨eager, fun _ => none, finish⟩

/-- The plan of a node that decides by the value of its first child. -/
def deciding (branch? : Value → Option Nat) : Plan :=
  ⟨1, fun values => branch? (values.headD .null), fun values => .pure (values.headD .null)⟩

/-- The evaluation of a node by its plan, where its children have these runs. -/
def eval (plan : Plan) (runs : List (Run Value)) : Run Value := do
  let values ← (runs.take plan.eager).mapM id
  match plan.branch? values with
  | some k => runs.getD k (.pure .null)
  | none => plan.finish values

/-- The evaluation of a node gets to its child of this number. -/
def Enters (plan : Plan) (runs : List (Run Value)) (k : Nat) : Prop :=
  (k < plan.eager ∧ ∀ run ∈ runs.take k, run.Succeeds) ∨
    ∃ values, ((runs.take plan.eager).mapM id).outcome = .ok values ∧ plan.branch? values = some k

end Plan

/-- The plan of a node. -/
def Expr.plan (scope : Scope) : Expr → Plan
  | literal value => .strict 0 fun _ => .pure (.json value)
  | var name => .strict 0 fun _ => scope.lookup name
  | list items => .strict items.length fun values => .pure (.json (.array (values.map Value.toJson)))
  | static owner name arguments => .strict arguments.length (scope.static owner name)
  | property _ name => .strict 1 fun values => (values.headD .null).property scope.hosts name
  | method _ name arguments => .strict (arguments.length + 1) fun values =>
    (values.headD .null).callMethod scope.hosts name values.tail
  | index _ _ => .strict 2 fun values =>
    (values.headD .null).index scope.hosts (values.tail.headD .null)
  | neg _ => .strict 1 fun values => .ofExcept (values.headD .null).negate
  | not _ => .strict 1 fun values => .pure (.bool (!(values.headD .null).truthy))
  | binary (.test comparison) _ _ => .strict 2 fun values => .ofExcept
    ((Value.compare comparison (values.headD .null) (values.tail.headD .null)).map Value.bool)
  | binary (.arith operation) _ _ => .strict 2 fun values => .ofExcept
    (Value.operate operation (values.headD .null) (values.tail.headD .null))
  | binary .or _ _ => .deciding fun value => if value.truthy then none else some 1
  | binary .and _ _ => .deciding fun value => if value.truthy then some 1 else none
  | ternary _ _ _ => .deciding fun value => if value.truthy then some 1 else some 2

namespace Expr

theorem evalEach_eq_mapM (scope : Scope) (trees : List Expr) :
    evalEach scope trees = (trees.map (eval scope)).mapM id := by
  induction trees with
  | nil => rfl
  | cons first rest ih =>
    rw [evalEach, ih, List.map_cons, List.mapM_cons]
    rfl

/-- Every node is evaluated by its plan. -/
theorem eval_eq_plan (scope : Scope) (tree : Expr) :
    tree.eval scope = (tree.plan scope).eval (tree.children.map (eval scope)) := by
  cases tree with
  | literal value => rfl
  | var name => rfl
  | list items =>
    simp only [eval, Plan.eval, plan, Plan.strict, children, evalEach_eq_mapM,
      List.take_of_length_le (List.length_map (eval scope)).le]
    rfl
  | static owner name arguments =>
    simp only [eval, Plan.eval, plan, Plan.strict, children, evalEach_eq_mapM,
      List.take_of_length_le (List.length_map (eval scope)).le]
  | method target name arguments =>
    simp only [eval, Plan.eval, plan, Plan.strict, children, evalEach_eq_mapM, List.map_cons,
      List.take_succ_cons, List.take_of_length_le (List.length_map (eval scope)).le,
      List.mapM_cons, bind_assoc, pure_bind]
    rfl
  | property | index | neg | not =>
    simp only [eval, Plan.eval, plan, Plan.strict, children, List.map_cons, List.map_nil,
      List.take_succ_cons, List.take_zero, List.mapM_cons, List.mapM_nil, bind_assoc, pure_bind]
    rfl
  | binary operator left right =>
    cases operator with
    | test | arith =>
      simp only [eval, Plan.eval, plan, Plan.strict, children, List.map_cons, List.map_nil,
        List.take_succ_cons, List.take_zero, List.mapM_cons, List.mapM_nil, bind_assoc, pure_bind]
      rfl
    | or | and =>
      simp only [eval, Plan.eval, plan, Plan.deciding, children, List.map_cons, List.map_nil,
        List.take_succ_cons, List.take_zero, List.mapM_cons, List.mapM_nil, bind_assoc, pure_bind]
      congr 1
      funext value
      rw [List.headD_cons]
      cases value.truthy <;> rfl
  | ternary condition yes no =>
    simp only [eval, Plan.eval, plan, Plan.deciding, children, List.map_cons, List.map_nil,
      List.take_succ_cons, List.take_zero, List.mapM_cons, List.mapM_nil, bind_assoc, pure_bind]
    congr 1
    funext value
    rw [List.headD_cons]
    cases value.truthy <;> rfl

theorem plan_setChild (scope : Scope) (tree : Expr) (k : Nat) (child : Expr) :
    (tree.setChild k child).plan scope = tree.plan scope := by
  cases tree with
  | list items => simp only [setChild, plan, List.length_set]
  | static owner name arguments => simp only [setChild, plan, List.length_set]
  | method target name arguments => cases k <;> simp only [setChild, plan, List.length_set]
  | binary operator left right => cases operator <;> rcases k with - | - | - | k <;> rfl
  | _ => rcases k with - | - | - | k <;> rfl

/-- A node with another child is evaluated by the same plan. -/
theorem eval_setChild (scope : Scope) (tree : Expr) (k : Nat) (child : Expr) :
    (tree.setChild k child).eval scope =
      (tree.plan scope).eval ((tree.children.map (eval scope)).set k (child.eval scope)) := by
  rw [eval_eq_plan, plan_setChild, children_setChild, List.map_set]

/-- A child that is evaluated as another one can stand in its place. -/
theorem eval_setChild_congr {scope : Scope} {tree child other : Expr} {k : Nat}
    (found : tree.children[k]? = some child) (same : other.eval scope = child.eval scope) :
    (tree.setChild k other).eval scope = tree.eval scope := by
  rw [eval_setChild, same, ← eval_setChild, setChild_self found]

end Expr

/-! ## Runs one after another -/

section

variable {α β : Type}

theorem Run.bind_congr_of_ok {run : Run α} {next other : α → Run β}
    (same : ∀ value, run.outcome = .ok value → next value = other value) :
    (run >>= next) = (run >>= other) := by
  show Run.bind run next = Run.bind run other
  unfold Run.bind
  cases outcome : run.outcome with
  | error fault => rfl
  | ok value => simp only [same value outcome]

theorem Run.exists_of_not_succeeds {run : Run α} (failed : ¬run.Succeeds) :
    ∃ fault, run.outcome = .error fault := by
  cases outcome : run.outcome with
  | error fault => exact ⟨fault, rfl⟩
  | ok value => exact absurd ⟨value, outcome⟩ failed

theorem Run.succeeds_bind_iff {run : Run α} {next : α → Run β} :
    (run >>= next).Succeeds ↔ ∃ value, run.outcome = .ok value ∧ (next value).Succeeds := by
  cases outcome : run.outcome with
  | error fault =>
    rw [Run.bind_of_error outcome]
    exact iff_of_false nofun nofun
  | ok value => simp [Run.Succeeds, Run.outcome_bind outcome]

/-- Some runs together succeed if each of them does. -/
theorem Run.succeeds_mapM_iff {runs : List (Run α)} :
    (runs.mapM id).Succeeds ↔ ∀ run ∈ runs, run.Succeeds := by
  induction runs with
  | nil => exact iff_of_true ⟨[], rfl⟩ nofun
  | cons first rest ih =>
    rw [List.mapM_cons, succeeds_bind_iff, List.forall_mem_cons, ← ih]
    constructor
    · rintro ⟨value, outcome, later⟩
      obtain ⟨values, outcomes, -⟩ := succeeds_bind_iff.mp later
      exact ⟨⟨value, outcome⟩, values, outcomes⟩
    · rintro ⟨⟨value, outcome⟩, values, outcomes⟩
      exact ⟨value, outcome, succeeds_bind_iff.mpr ⟨values, outcomes, _, rfl⟩⟩

/-- After a run that fails another one makes no difference. -/
theorem Run.mapM_set_of_failed {runs : List (Run α)} {k : Nat} {other : Run α}
    (failed : ¬∀ run ∈ runs.take k, run.Succeeds) : (runs.set k other).mapM id = runs.mapM id := by
  induction runs generalizing k with
  | nil => rfl
  | cons first rest ih =>
    cases k with
    | zero => exact absurd nofun failed
    | succ k =>
      rw [List.set_cons_succ, List.mapM_cons, List.mapM_cons]
      rw [List.take_succ_cons, List.forall_mem_cons] at failed
      by_cases succeeds : first.Succeeds
      · rw [ih fun all => failed ⟨succeeds, all⟩]
      · obtain ⟨fault, outcome⟩ := exists_of_not_succeeds succeeds
        have stops : (id first).outcome = .error fault := outcome
        rw [bind_of_error stops, bind_of_error stops]

end

/-! ## What a plan does not get to -/

namespace Plan

variable {plan : Plan} {runs : List (Run Value)} {k : Nat} {other : Run Value}

/-- A child that is not entered can have any run. -/
theorem eval_set (outside : ¬plan.Enters runs k) : plan.eval (runs.set k other) = plan.eval runs := by
  unfold Enters at outside
  rcases Nat.lt_or_ge k plan.eager with early | late
  · have failed : ¬∀ run ∈ runs.take k, run.Succeeds := fun all => outside (Or.inl ⟨early, all⟩)
    have before : (runs.take plan.eager).take k = runs.take k := by
      rw [List.take_take, Nat.min_eq_left early.le]
    have stops : ¬((runs.take plan.eager).mapM id).Succeeds := by
      rw [Run.succeeds_mapM_iff]
      exact fun all => failed fun run member =>
        all run (List.mem_of_mem_take (before ▸ member))
    obtain ⟨fault, outcome⟩ := Run.exists_of_not_succeeds stops
    rw [eval, eval, List.take_set, Run.mapM_set_of_failed (before.symm ▸ failed),
      Run.bind_of_error outcome, Run.bind_of_error outcome]
  · rw [eval, eval, List.take_set_of_le late]
    refine Run.bind_congr_of_ok fun values outcome => ?_
    cases branch : plan.branch? values with
    | none => rfl
    | some entered =>
      have differ : k ≠ entered := fun same => outside (Or.inr ⟨values, outcome, same ▸ branch⟩)
      simp only [List.getD_eq_getElem?_getD, List.getElem?_set_ne differ]

end Plan

/-- The evaluation of an expression gets to its child of this number. -/
def Expr.Enters (scope : Scope) (tree : Expr) (k : Nat) : Prop :=
  (tree.plan scope).Enters (tree.children.map (eval scope)) k

/-- Another tree in place of a child that is not entered leaves the whole run as it is. -/
theorem Expr.eval_setChild_of_not_enters {scope : Scope} {tree : Expr} {k : Nat}
    (outside : ¬tree.Enters scope k) (other : Expr) :
    (tree.setChild k other).eval scope = tree.eval scope := by
  rw [eval_setChild, Plan.eval_set outside, ← eval_eq_plan]

end Scriptlet
