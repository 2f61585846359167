import Scriptlet.Fault

/-!
# Methods

A method takes a fixed number of arguments, or one and perhaps another. A call with another number
of arguments fails before any of them is looked at (`call_eq_violation`), and with an accepted
number it never fails for their number.
-/

set_option autoImplicit false

namespace Scriptlet

/-- What a method answers, by the arguments that it takes. -/
inductive Method where
  | nullary (answer : Except Fault Value)
  | unary (answer : Value → Except Fault Value)
  | binary (answer : Value → Value → Except Fault Value)
  | unaryOrBinary (answer : Value → Option Value → Except Fault Value)

namespace Method

/-- How many arguments the method takes. -/
def arity : Method → Arity
  | nullary _ => ⟨0, 0⟩
  | unary _ => ⟨1, 1⟩
  | binary _ => ⟨2, 2⟩
  | unaryOrBinary _ => ⟨1, 2⟩

/-- A call of the method, which goes by the given name in faults. -/
def call (name : String) : Method → List Value → Except Fault Value
  | nullary answer, [] => answer
  | unary answer, [a] => answer a
  | binary answer, [a, b] => answer a b
  | unaryOrBinary answer, [a] => answer a none
  | unaryOrBinary answer, [a, b] => answer a (some b)
  | method, arguments => .error (method.arity.violation name arguments.length)

/-- A call with a number of arguments that is not accepted fails for their number. -/
theorem call_eq_violation {name : String} {method : Method} {arguments : List Value}
    (h : method.arity.accepts arguments.length = false) :
    call name method arguments = .error (method.arity.violation name arguments.length) := by
  unfold call
  split <;> first | rfl | simp [arity, Arity.accepts] at h

end Method

namespace Value

/-- The integer that an argument has to be. -/
def integerArgument (argument : Value) : Except Fault Int64 :=
  match argument.quantity? with
  | some (.int i) => .ok i
  | _ => .error (.typeMismatch (.integerArgument argument.kind))

/-- The text that an argument has to be. -/
def textArgument (argument : Value) : Except Fault (List Char) :=
  match argument.text? with
  | some text => .ok text.toList
  | none => .error (.typeMismatch (.stringArgument argument.kind))

/-- The number that a value has to be. -/
def quantity (v : Value) : Except Fault Quantity :=
  match v.quantity? with
  | some q => .ok q
  | none => .error (.typeMismatch (.numberExpected v.kind))

end Value

end Scriptlet
