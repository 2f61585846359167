import Scriptlet.Expr
import Scriptlet.Statics
import Scriptlet.Value.Methods

/-!
# Evaluation

The value of an expression in a scope, as a run: operands are evaluated from the left, and every
call of a host object or a static member is a step of the run. The right operand of `&&` and `||`
and the branches of a choice are evaluated only where the operand before them asks for it. The items
of a list become data.
-/

set_option autoImplicit false

namespace Scriptlet

/-- What an expression can refer to. -/
structure Scope where
  bindings : Bindings
  statics : Statics
  hosts : Hosts

namespace Scope

/-- The value of a variable. -/
def lookup (scope : Scope) (name : String) : Run Value :=
  match scope.bindings.find? name with
  | some value => .pure value
  | none => .fail (.unknownVariable name)

/-- A reference to a static member with the values of its arguments. -/
def static (scope : Scope) (owner name : String) (arguments : List Value) : Run Value := do
  Run.step (.staticReference owner name)
  scope.statics.call owner name arguments

end Scope

namespace Expr

mutual

/-- The value of an expression. -/
def eval (scope : Scope) : Expr → Run Value
  | literal value => .pure (.json value)
  | var name => scope.lookup name
  | list items => do
    let values ← evalEach scope items
    return .json (.array (values.map Value.toJson))
  | static owner name arguments => do
    let values ← evalEach scope arguments
    scope.static owner name values
  | property target name => do
    let value ← target.eval scope
    value.property scope.hosts name
  | method target name arguments => do
    let value ← target.eval scope
    let values ← evalEach scope arguments
    value.callMethod scope.hosts name values
  | index target position => do
    let value ← target.eval scope
    let place ← position.eval scope
    value.index scope.hosts place
  | neg operand => do
    let value ← operand.eval scope
    Run.ofExcept value.negate
  | not operand => do
    let value ← operand.eval scope
    return .bool (!value.truthy)
  | binary .or left right => do
    let value ← left.eval scope
    if value.truthy then return value else right.eval scope
  | binary .and left right => do
    let value ← left.eval scope
    if value.truthy then right.eval scope else return value
  | binary (.test comparison) left right => do
    let a ← left.eval scope
    let b ← right.eval scope
    Run.ofExcept ((Value.compare comparison a b).map Value.bool)
  | binary (.arith operation) left right => do
    let a ← left.eval scope
    let b ← right.eval scope
    Run.ofExcept (Value.operate operation a b)
  | ternary condition yes no => do
    let value ← condition.eval scope
    if value.truthy then yes.eval scope else no.eval scope

/-- The values of some expressions, from the first to the last. -/
def evalEach (scope : Scope) : List Expr → Run (List Value)
  | [] => .pure []
  | first :: rest => do
    let value ← first.eval scope
    let values ← evalEach scope rest
    return value :: values

end

end Expr

end Scriptlet
