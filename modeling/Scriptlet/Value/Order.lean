import Scriptlet.Fault
import Scriptlet.Numeral
import Scriptlet.Text.Blank

/-!
# Comparing values

Two values have an order when both are numbers, both texts or both truth values, and when one is a
number and the other a text that spells one. Integers are compared exactly, a double with anything
as doubles. Equality is that order where there is one; otherwise it is equality of data or
identity. Null equals null alone.
-/

set_option autoImplicit false

namespace Scriptlet

/-- The six comparisons of templates. -/
inductive Comparison where
  | eq
  | ne
  | lt
  | le
  | gt
  | ge
  deriving DecidableEq

namespace Quantity

/-- The order of two quantities, exact between integers and otherwise as doubles. -/
def order : Quantity → Quantity → Ordering
  | .int a, .int b => compare a.toInt b.toInt
  | a, b => a.toDouble.order b.toDouble

/-- The order of a quantity and what a text spells, if that is a number. -/
def orderText? (a : Quantity) : NumericText → Option Ordering
  | .finite d => some (a.order (.double d))
  | .infinite true => some .gt
  | .infinite false => some .lt
  | .undefined => none

end Quantity

namespace Value

/-- The number that a text spells with blanks around it. -/
def spelled? (text : String) : Option NumericText :=
  NumericText.ofText? (Text.trim text.toList)

/-- The order of two values, if they have one. -/
def order? : Value → Value → Option Ordering
  | .json (.string a), .json (.string b) => some (compare a b)
  | .json (.number a), .json (.number b) => some (a.quantity.order b.quantity)
  | .json (.bool a), .json (.bool b) => some (compare a b)
  | .json (.number a), .json (.string b) => (spelled? b).bind a.quantity.orderText?
  | .json (.string a), .json (.number b) =>
    ((spelled? a).bind b.quantity.orderText?).map Ordering.swap
  | _, _ => none

/-- Equality as templates see it. -/
def equal (a b : Value) : Bool :=
  match a, b with
  | .host _, _ => a.same b
  | _, .host _ => a.same b
  | .json .null, _ => b.isNull
  | _, .json .null => a.isNull
  | _, _ =>
    match order? a b with
    | some order => order = .eq
    | none => a.same b

/-- Whether a comparison by order holds of two values, which fails when they have no order. -/
def ordered (holds : Ordering → Bool) (a b : Value) : Except Fault Bool :=
  match order? a b with
  | some order => .ok (holds order)
  | none => .error (.typeMismatch (.comparison a.kind b.kind))

/-- Whether a comparison holds of two values. -/
def compare (comparison : Comparison) (a b : Value) : Except Fault Bool :=
  match comparison with
  | .eq => .ok (equal a b)
  | .ne => .ok (!equal a b)
  | .lt => ordered Ordering.isLT a b
  | .le => ordered Ordering.isLE a b
  | .gt => ordered Ordering.isGT a b
  | .ge => ordered Ordering.isGE a b

/-- Whether a value counts as true: all do but null, false, zero and the empty text. -/
def truthy : Value → Bool
  | .json .null => false
  | .json (.bool b) => b
  | .json (.number n) => n.quantity.toDouble.units != 0
  | .json (.string s) => !s.isEmpty
  | .json (.array _) => true
  | .json (.object _) => true
  | .host _ => true

end Value

end Scriptlet
