import Scriptlet.Method

/-!
# Arithmetic of values

Integers stay integers: a result is exact or the operation overflows, a quotient is truncated toward
zero and a remainder takes the sign of the dividend. A remainder is only given where the quotient
fits, so it overflows together with it. As soon as a double takes part both operands count as
doubles, and a result that is not finite is a fault. A sum with a text joins displays instead.
-/

set_option autoImplicit false

namespace Scriptlet

/-- The five operations of templates on numbers. -/
inductive Operation where
  | add
  | sub
  | mul
  | div
  | rem
  deriving DecidableEq

namespace Operation

/-- The exact result on integers; a quotient by zero is not asked for. -/
def exact (operation : Operation) (a b : Int) : Int :=
  match operation with
  | add => a + b
  | sub => a - b
  | mul => a * b
  | div => a.tdiv b
  | rem => a.tmod b

/-- Whether the operation divides. -/
def divides : Operation → Bool
  | div | rem => true
  | _ => false

/-- The integer that has to fit for the result on integers to be given. -/
def bounded (operation : Operation) (a b : Int) : Int :=
  match operation with
  | rem => a.tdiv b
  | operation => operation.exact a b

/-- The result on 64-bit integers. -/
def onInts (operation : Operation) (a b : Int64) : Except Fault Quantity :=
  if operation.divides && b.toInt = 0 then .error .divisionByZero
  else
    match int64? (operation.bounded a.toInt b.toInt), int64? (operation.exact a.toInt b.toInt) with
    | some _, some result => .ok (.int result)
    | _, _ => .error .overflow

/-- The result on doubles, if it is finite. -/
def onDoubles? (operation : Operation) (a b : Double) : Option Double :=
  match operation with
  | add => a.add? b
  | sub => a.sub? b
  | mul => a.mul? b
  | div => a.div? b
  | rem => a.rem? b

end Operation

namespace Quantity

/-- A double that an operation answers, where there is one. -/
def ofDouble? (result : Option Double) : Except Fault Quantity :=
  match result with
  | some d => .ok (.double d)
  | none => .error .nonFinite

/-- The result of an operation. -/
def apply (operation : Operation) : Quantity → Quantity → Except Fault Quantity
  | .int a, .int b => operation.onInts a b
  | a, b =>
    if operation.divides && b.toDouble.units = 0 then .error .divisionByZero
    else ofDouble? (operation.onDoubles? a.toDouble b.toDouble)

/-- The quantity with the opposite sign. -/
def negate : Quantity → Except Fault Quantity
  | .int a =>
    match int64? (-a.toInt) with
    | some result => .ok (.int result)
    | none => .error .overflow
  | .double a => .ok (.double a.neg)

end Quantity

namespace Value

/-- A quantity as a value. -/
def ofQuantity (q : Quantity) : Value :=
  .json (.number q.toNumber)

/-- The result of an operation on two numbers. -/
def calculate (operation : Operation) (a b : Value) : Except Fault Value := do
  let x ← a.quantity
  let y ← b.quantity
  let result ← x.apply operation y
  return ofQuantity result

/-- The result of an operation on two values: a sum with a text joins their displays. -/
def operate (operation : Operation) (a b : Value) : Except Fault Value :=
  if operation = .add && (a.text?.isSome || b.text?.isSome) then
    .ok (.string (a.display ++ b.display))
  else calculate operation a b

/-- The number with the opposite sign. -/
def negate (v : Value) : Except Fault Value := do
  let q ← v.quantity
  let result ← q.negate
  return ofQuantity result

end Value

end Scriptlet
