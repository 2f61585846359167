import Scriptlet.Double.Bits
import Scriptlet.Double.Root
import Scriptlet.Method
import Scriptlet.Statics
import Scriptlet.Value.Arithmetic

/-!
# The class `Math`

The static members that every template can reach. Integers keep exact results where the members are
integral themselves: `abs`, `round`, `max` and `min`. The other members answer doubles, and fail
where the result is not finite.
-/

set_option autoImplicit false

namespace Scriptlet

namespace Double

/-- The double nearest to π. -/
def pi : Double :=
  ofScaled false 884279719003555 1026 (by decide) (by decide)

/-- The double nearest to Euler's number. -/
def euler : Double :=
  ofScaled false 6121026514868073 1023 (by decide) (by decide)

/-- One half. -/
def half : Double :=
  ofScaled false 1 (places - 1) (by decide) (by rw [places_eq]; decide)

end Double

namespace Quantity

/-- The result of a function on doubles. -/
def viaDouble (f : Double → Option Double) (q : Quantity) : Except Fault Quantity :=
  ofDouble? (f q.toDouble)

/-- The first quantity to the power of the second. -/
def power (a b : Quantity) : Except Fault Quantity :=
  viaDouble (a.toDouble.pow? ·) b

/-- The quantity without its sign. -/
def magnitude : Quantity → Except Fault Quantity
  | .int i =>
    match int64? i.toInt.natAbs with
    | some result => .ok (.int result)
    | none => .error .overflow
  | .double d => .ok (.double d.abs)

/-- The 64-bit integer with the given value, where the value just past the last one counts as the
last one. -/
def lenientInt? (i : Int) : Option Int64 :=
  if i = 2 ^ 63 then int64? (i - 1) else int64? i

/-- The integer that a quantity is rounded to: a double is raised by one half and cut down. -/
def round : Quantity → Except Fault Quantity
  | .int i => .ok (.int i)
  | .double d =>
    match (d.add? .half).bind fun raised => lenientInt? raised.floorInt with
    | some i => .ok (.int i)
    | none => .error .overflow

/-- The first of two quantities if its order against the second is accepted, and else the second.
Unless both are integers they count as doubles, and zeros are told apart by their signs. -/
def pick (accepts : Ordering → Bool) : Quantity → Quantity → Quantity
  | .int a, .int b => if accepts (compare a.toInt b.toInt) then .int a else .int b
  | a, b =>
    if accepts (a.toDouble.totalOrder b.toDouble) then .double a.toDouble else .double b.toDouble

end Quantity

namespace Statics

/-- The member of the class `Math` with a name that calls a method. -/
def mathMember (name : String) (method : Method) : StaticMember where
  owner := "Math"
  name
  arity := method.arity
  body := method.call ("@" ++ key "Math" name)

/-- A constant. -/
def constant (d : Double) : Method :=
  .nullary (.ok (.double d))

/-- A method of one number. -/
def ofNumber (f : Quantity → Except Fault Quantity) : Method :=
  .unary fun a => do
    let x ← a.quantity
    let result ← f x
    return .ofQuantity result

/-- A method of two numbers. -/
def ofNumbers (f : Quantity → Quantity → Except Fault Quantity) : Method :=
  .binary fun a b => do
    let x ← a.quantity
    let y ← b.quantity
    let result ← f x y
    return .ofQuantity result

/-- The members of the class `Math`. -/
def math : List StaticMember :=
  [mathMember "PI" (constant .pi),
   mathMember "E" (constant .euler),
   mathMember "sqrt" (ofNumber (Quantity.viaDouble Double.sqrt?)),
   mathMember "floor" (ofNumber (Quantity.viaDouble fun d => some d.floor)),
   mathMember "ceil" (ofNumber (Quantity.viaDouble fun d => some d.ceil)),
   mathMember "pow" (ofNumbers Quantity.power),
   mathMember "abs" (ofNumber Quantity.magnitude),
   mathMember "round" (ofNumber Quantity.round),
   mathMember "max" (ofNumbers fun a b => .ok (.pick Ordering.isGE a b)),
   mathMember "min" (ofNumbers fun a b => .ok (.pick Ordering.isLE a b))]

/-- The static members that a template reaches unless others are given. -/
def builtins : Statics :=
  math.foldl register []

end Statics

end Scriptlet
