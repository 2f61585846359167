import Scriptlet.Evaluation
import Scriptlet.Proofs.Run.Orderly

/-!
# What comes of a node

A node that computes with its operands depends on what comes of them, and on nothing else about
them. If all have values, the node comes to what its own rule makes of these; if one fails, it fails
with the same fault. The laws of a rule are stated about values, and these lemmas carry them over to
templates, wherever a template has the values from.

Nodes that decide which operand they evaluate are not among these: see `Run.choose`.
-/

set_option autoImplicit false

namespace Scriptlet.Expr

variable {scope : Scope} {operand left right target position : Expr} {arguments : List Expr}
  {value x y : Value} {values : List Value} {fault : Fault}

/-! ## Operators -/

theorem outcome_neg (evaluated : (operand.eval scope).outcome = .ok value) :
    ((neg operand).eval scope).outcome = value.negate := by
  rw [eval, Run.outcome_bind evaluated]
  rfl

theorem outcome_neg_of_error (failed : (operand.eval scope).outcome = .error fault) :
    ((neg operand).eval scope).outcome = .error fault := by
  rw [eval, Run.bind_of_error failed]

theorem outcome_test (comparison : Comparison) (first : (left.eval scope).outcome = .ok x)
    (second : (right.eval scope).outcome = .ok y) :
    ((binary (.test comparison) left right).eval scope).outcome =
      (Value.compare comparison x y).map Value.bool := by
  rw [eval, Run.outcome_bind first, Run.outcome_bind second]
  rfl

theorem outcome_operation (operation : Operation) (first : (left.eval scope).outcome = .ok x)
    (second : (right.eval scope).outcome = .ok y) :
    ((binary (.arith operation) left right).eval scope).outcome = Value.operate operation x y := by
  rw [eval, Run.outcome_bind first, Run.outcome_bind second]
  rfl

theorem outcome_operation_of_left (operation : Operation)
    (failed : (left.eval scope).outcome = .error fault) :
    ((binary (.arith operation) left right).eval scope).outcome = .error fault := by
  rw [eval, Run.bind_of_error failed]

theorem outcome_operation_of_right (operation : Operation)
    (first : (left.eval scope).outcome = .ok x)
    (failed : (right.eval scope).outcome = .error fault) :
    ((binary (.arith operation) left right).eval scope).outcome = .error fault := by
  rw [eval, Run.outcome_bind first, Run.bind_of_error failed]

/-! ## Members of values -/

theorem outcome_property (name : String) (evaluated : (target.eval scope).outcome = .ok value) :
    ((property target name).eval scope).outcome = (value.property scope.hosts name).outcome := by
  rw [eval, Run.outcome_bind evaluated]

theorem outcome_index (first : (target.eval scope).outcome = .ok x)
    (second : (position.eval scope).outcome = .ok y) :
    ((index target position).eval scope).outcome = (x.index scope.hosts y).outcome := by
  rw [eval, Run.outcome_bind first, Run.outcome_bind second]

theorem outcome_method (name : String) (evaluated : (target.eval scope).outcome = .ok value)
    (given : (evalEach scope arguments).outcome = .ok values) :
    ((method target name arguments).eval scope).outcome =
      (value.callMethod scope.hosts name values).outcome := by
  rw [eval, Run.outcome_bind evaluated, Run.outcome_bind given]

/-! ## Arguments -/

theorem outcome_evalEach_cons (head : (operand.eval scope).outcome = .ok value)
    (tail : (evalEach scope arguments).outcome = .ok values) :
    (evalEach scope (operand :: arguments)).outcome = .ok (value :: values) := by
  rw [evalEach, Run.outcome_bind head, Run.outcome_bind tail]
  rfl

theorem outcome_evalEach_second (head : (left.eval scope).outcome = .ok value)
    (failed : (right.eval scope).outcome = .error fault) :
    (evalEach scope [left, right]).outcome = .error fault := by
  rw [evalEach, Run.outcome_bind head, evalEach, Run.bind_of_error failed]
  rfl

/-- A reference to a static member fails as its arguments do. -/
theorem outcome_static_of_error (owner name : String)
    (failed : (evalEach scope arguments).outcome = .error fault) :
    ((static owner name arguments).eval scope).outcome = .error fault := by
  rw [eval, Run.bind_of_error failed]

end Scriptlet.Expr
