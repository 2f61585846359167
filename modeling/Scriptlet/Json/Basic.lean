import Scriptlet.Number
import Scriptlet.Table

/-!
# JSON data

The plain values of the library. An object is a table, so its members stand in the order of their
names. `Json.same` is equality of data, which differs from equality of terms in one point only: the
two zeros of the doubles are equal.
-/

set_option autoImplicit false

namespace Scriptlet

/-- JSON data. -/
inductive Json where
  | null
  | bool (value : Bool)
  | number (value : Number)
  | string (value : String)
  | array (items : List Json)
  | object (members : List (String × Json))

namespace Json

instance : Inhabited Json := ⟨.null⟩

/-- A 64-bit integer as data. -/
def ofInt64 (i : Int64) : Json :=
  .number (.int i)

/-- A count as data. -/
def ofNat (n : Nat) : Json :=
  .number (.int (Int64.ofNat n))

/-- A list of texts as data. -/
def ofStrings (texts : List String) : Json :=
  .array (texts.map .string)

/-- Whether this is the null value. -/
def isNull : Json → Bool
  | .null => true
  | _ => false

mutual

/-- Equality of data. -/
def same : Json → Json → Bool
  | .null, .null => true
  | .bool a, .bool b => a = b
  | .number a, .number b => a.same b
  | .string a, .string b => a = b
  | .array xs, .array ys => sameItems xs ys
  | .object xs, .object ys => sameMembers xs ys
  | _, _ => false

/-- Equality of the items of two arrays, place by place. -/
def sameItems : List Json → List Json → Bool
  | [], [] => true
  | x :: xs, y :: ys => same x y && sameItems xs ys
  | _, _ => false

/-- Equality of the members of two objects, names and data. -/
def sameMembers : List (String × Json) → List (String × Json) → Bool
  | [], [] => true
  | (k, x) :: xs, (l, y) :: ys => k = l && same x y && sameMembers xs ys
  | _, _ => false

end

end Json

end Scriptlet
