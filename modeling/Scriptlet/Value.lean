import Scriptlet.Json.Writer

/-!
# Values

A value is JSON data or a host object. Host objects belong to the application: here they are only
references, equal when they are the same object, and what they answer is looked up elsewhere.

A value is displayed as templates join it to text: a string raw, other data as compact JSON, and a
host object as its type name in angle brackets.
-/

set_option autoImplicit false

namespace Scriptlet

/-- A host object as a value refers to it: its identity, the name of its type, and how it describes
itself in a log. -/
structure HostRef where
  id : Nat
  typeName : String
  description : String
  deriving DecidableEq

/-- A value that a template sees or answers. -/
inductive Value where
  | json (data : Json)
  | host (object : HostRef)

/-- Named values that a template sees as variables. -/
abbrev Bindings := Table Value

namespace Value

instance : Inhabited Value := ⟨.json .null⟩

/-- The null value. -/
def null : Value := .json .null

/-- A truth value. -/
def bool (b : Bool) : Value := .json (.bool b)

/-- A text. -/
def string (s : String) : Value := .json (.string s)

/-- A text, given by its characters. -/
def ofChars (s : List Char) : Value := .string (String.ofList s)

/-- A 64-bit integer. -/
def int (i : Int64) : Value := .json (.ofInt64 i)

/-- A double. -/
def double (d : Double) : Value := .json (.number (.double d))

/-- A count. -/
def ofNat (n : Nat) : Value := .json (.ofNat n)

/-- Whether this is the null value. -/
def isNull : Value → Bool
  | .json data => data.isNull
  | .host _ => false

/-- The text, if this is one. -/
def text? : Value → Option String
  | .json (.string s) => some s
  | _ => none

/-- The number as arithmetic sees it, if this is one. -/
def quantity? : Value → Option Quantity
  | .json (.number n) => some n.quantity
  | _ => none

/-- The name of the kind of value, as faults mention it. -/
def kind : Value → String
  | .json .null => "null"
  | .json (.bool _) => "boolean"
  | .json (.number _) => "number"
  | .json (.string _) => "string"
  | .json (.array _) => "list"
  | .json (.object _) => "map"
  | .host object => object.typeName

/-- The value as data; a host object is its display. -/
def toJson : Value → Json
  | .json data => data
  | .host object => .string s!"<{object.typeName}>"

/-- The text that joins the value to other texts. -/
def display : Value → String
  | .json (.string s) => s
  | .json data => data.compact
  | .host object => s!"<{object.typeName}>"

/-- The text of the value in a log: data as JSON, a host object as it describes itself. -/
def logText : Value → String
  | .json data => data.compact
  | .host object => object.description

/-- Equality of values: of data, or of identity. -/
def same : Value → Value → Bool
  | .json a, .json b => a.same b
  | .host a, .host b => a = b
  | _, _ => false

end Value

end Scriptlet
