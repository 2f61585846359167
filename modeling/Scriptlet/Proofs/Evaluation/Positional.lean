import Scriptlet.Evaluation
import Scriptlet.Proofs.Expr.Induction
import Scriptlet.Proofs.Value.Positional

/-!
# No template crashes the evaluation

Evaluation once more, as an attempt: operators and methods are those of partial operations, and so are the
methods of containers, of which any host objects may be. Other host objects and static members answer for
themselves. A member of `Math` takes an argument that is missing for null, so there are no partial
operations in these.

Every attempt is done, with the steps and the outcome that evaluation gives (`attempt_done`). The tree may
be any tree, also one that no template denotes.
-/

set_option autoImplicit false

namespace Scriptlet

/-- The hooks of the host objects, where some of these are containers. -/
def Hosts.joinEach (hosts : Hosts) (containers : HostRef → Option Container) : Hosts := fun object =>
  match containers object with
  | .some container => container.hooks
  | .none => hosts object

/-- The scope with some of its host objects replaced by containers. -/
def Scope.joinEach (scope : Scope) (containers : HostRef → Option Container) : Scope :=
  { scope with hosts := scope.hosts.joinEach containers }

/-- A method of a host object, which may be a container. -/
def Attempt.hostMethod (containers : HostRef → Option Container) (hosts : Hosts) (object : HostRef)
    (name : String) (arguments : List Value) : Attempt Value :=
  .call (.method object name arguments) <|
    match containers object with
    | some container => containerMethod container name arguments
    | none => .ofExcept ((hosts object).method name arguments)

/-- A method of a value. -/
def Attempt.callMethod (containers : HostRef → Option Container) (hosts : Hosts) (target : Value)
    (name : String) (arguments : List Value) : Attempt Value :=
  match target with
  | .host object => hostMethod containers hosts object name arguments
  | .json data => dataMethod data name arguments

namespace Expr

mutual

/-- The attempt to evaluate an expression, where some host objects are containers. -/
def attempt (containers : HostRef → Option Container) (scope : Scope) : Expr → Attempt Value
  | literal value => pure (.json value)
  | var name => .done (scope.lookup name)
  | list items => do
    let values ← attemptEach containers scope items
    return .json (.array (values.map Value.toJson))
  | static owner name arguments => do
    let values ← attemptEach containers scope arguments
    .done (scope.static owner name values)
  | property target name => do
    let value ← target.attempt containers scope
    .done (value.property (scope.hosts.joinEach containers) name)
  | method target name arguments => do
    let value ← target.attempt containers scope
    let values ← attemptEach containers scope arguments
    .callMethod containers scope.hosts value name values
  | index target position => do
    let value ← target.attempt containers scope
    let place ← position.attempt containers scope
    .done (value.index (scope.hosts.joinEach containers) place)
  | neg operand => do
    let value ← operand.attempt containers scope
    .ofExcept value.negate
  | not operand => do
    let value ← operand.attempt containers scope
    return .bool (!value.truthy)
  | binary .or left right => do
    let value ← left.attempt containers scope
    if value.truthy then return value else right.attempt containers scope
  | binary .and left right => do
    let value ← left.attempt containers scope
    if value.truthy then right.attempt containers scope else return value
  | binary operator left right => do
    let a ← left.attempt containers scope
    let b ← right.attempt containers scope
    .operate operator a b
  | ternary condition yes no => do
    let value ← condition.attempt containers scope
    if value.truthy then yes.attempt containers scope else no.attempt containers scope

/-- The attempt to evaluate some expressions, from the first to the last. -/
def attemptEach (containers : HostRef → Option Container) (scope : Scope) :
    List Expr → Attempt (List Value)
  | [] => pure []
  | first :: rest => do
    let value ← first.attempt containers scope
    let values ← attemptEach containers scope rest
    return value :: values

end

end Expr

variable {containers : HostRef → Option Container} {scope : Scope}

theorem hostMethod_done (hosts : Hosts) (object : HostRef) (name : String) (arguments : List Value) :
    Attempt.hostMethod containers hosts object name arguments =
      .done ((hosts.joinEach containers).callMethod object name arguments) := by
  unfold Attempt.hostMethod Hosts.callMethod Hosts.joinEach
  cases containers object with
  | none => rfl
  | some container =>
    simp only [Attempt.containerMethod_eq]
    rfl

theorem callMethod_done (hosts : Hosts) (target : Value) (name : String) (arguments : List Value) :
    Attempt.callMethod containers hosts target name arguments =
      .done (target.callMethod (hosts.joinEach containers) name arguments) := by
  cases target with
  | host object => exact hostMethod_done hosts object name arguments
  | json data => exact Attempt.dataMethod_eq data name arguments

theorem attemptEach_done {trees : List Expr}
    (each : ∀ tree ∈ trees, tree.attempt containers scope =
      .done (tree.eval (scope.joinEach containers))) :
    Expr.attemptEach containers scope trees =
      .done (Expr.evalEach (scope.joinEach containers) trees) := by
  induction trees with
  | nil => rfl
  | cons first rest ih =>
    have later := ih fun tree member => each tree (List.mem_cons_of_mem first member)
    rw [Expr.attemptEach, Expr.evalEach, each first List.mem_cons_self, later]
    exact Attempt.done_bind fun value => Attempt.done_bind fun values => rfl

/-- Evaluation never crashes: whatever the tree, the values in its scope, the static members, the host
objects and the containers among them are, the attempt is done, and it is what `eval` says. -/
theorem attempt_done (containers : HostRef → Option Container) (scope : Scope) (tree : Expr) :
    tree.attempt containers scope = .done (tree.eval (scope.joinEach containers)) := by
  induction tree with
  | literal value => rfl
  | var name => rfl
  | list items each =>
    rw [Expr.attempt, Expr.eval, attemptEach_done each]
    exact Attempt.done_bind fun values => rfl
  | static owner name arguments each =>
    rw [Expr.attempt, Expr.eval, attemptEach_done each]
    exact Attempt.done_bind fun values => rfl
  | property target name ih =>
    rw [Expr.attempt, Expr.eval, ih]
    exact Attempt.done_bind fun value => rfl
  | method target name arguments ih each =>
    rw [Expr.attempt, Expr.eval, ih, attemptEach_done each]
    exact Attempt.done_bind fun value => Attempt.done_bind fun values =>
      callMethod_done scope.hosts value name values
  | index target position ih ihPosition =>
    rw [Expr.attempt, Expr.eval, ih, ihPosition]
    exact Attempt.done_bind fun value => Attempt.done_bind fun place => rfl
  | neg operand ih =>
    rw [Expr.attempt, Expr.eval, ih]
    exact Attempt.done_bind fun value => rfl
  | not operand ih =>
    rw [Expr.attempt, Expr.eval, ih]
    exact Attempt.done_bind fun value => rfl
  | binary operator left right ihLeft ihRight =>
    cases operator with
    | or | and =>
      rw [Expr.attempt, Expr.eval, ihLeft, ihRight]
      refine Attempt.done_bind fun value => ?_
      cases value.truthy <;> rfl
    | test comparison =>
      rw [Expr.attempt, Expr.eval, ihLeft, ihRight]
      · exact Attempt.done_bind fun a => Attempt.done_bind fun b => rfl
      all_goals exact nofun
    | arith operation =>
      rw [Expr.attempt, Expr.eval, ihLeft, ihRight]
      · exact Attempt.done_bind fun a => Attempt.done_bind fun b =>
          Attempt.operate_arith operation a b
      all_goals exact nofun
  | ternary condition yes no ihCondition ihYes ihNo =>
    rw [Expr.attempt, Expr.eval, ihCondition, ihYes, ihNo]
    refine Attempt.done_bind fun value => ?_
    cases value.truthy <;> rfl

end Scriptlet
