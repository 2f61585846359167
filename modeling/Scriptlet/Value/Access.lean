import Scriptlet.Host

/-!
# Properties and indexes

What stands behind a name after a dot and behind an index in brackets. A map answers the value
under the name, and otherwise its size under `size`, and null under any other name. A list and a
text have their length as a property. A list is indexed by integers from zero, and a map by the
display of any value. Host objects answer for themselves, and their index is a property name.
-/

set_option autoImplicit false

namespace Scriptlet

namespace Json

/-- The member of a list at a position, counted from zero. -/
def itemAt? (items : List Json) (i : Int64) : Option Json :=
  if 0 ≤ i.toInt then items[i.toInt.toNat]? else none

/-- A property of data. -/
def property (data : Json) (name : String) : Except Fault Value :=
  match data with
  | .object members =>
    match Table.find? members name with
    | some item => .ok (.json item)
    | none => if name = "size" then .ok (.ofNat members.length) else .ok .null
  | .array items =>
    if name = "size" || name = "length" then .ok (.ofNat items.length)
    else .error (.noSuchProperty (Value.kind (.json data)) name)
  | .string text =>
    if name = "length" then .ok (.ofNat text.length)
    else .error (.noSuchProperty (Value.kind (.json data)) name)
  | _ => .error (.noSuchProperty (Value.kind (.json data)) name)

/-- The item of a list under an index. -/
def itemUnder (items : List Json) (index : Value) : Except Fault Value :=
  match index.quantity? with
  | some (.int i) =>
    match itemAt? items i with
    | some item => .ok (.json item)
    | none => .error (.indexOutOfBounds i.toInt items.length)
  | _ => .error (.typeMismatch (.listIndex index.kind))

/-- The value of a map under the display of a key, or null. -/
def memberUnder (members : Table Json) (key : Value) : Value :=
  match Table.find? members key.display with
  | some item => .json item
  | none => .null

/-- What stands under an index of data. -/
def index (data : Json) (index : Value) : Except Fault Value :=
  match data with
  | .array items => itemUnder items index
  | .object members => .ok (memberUnder members index)
  | _ => .error (.typeMismatch (.index (Value.kind (.json data)) index.kind))

end Json

namespace Value

/-- A property of a value. -/
def property (hosts : Hosts) (target : Value) (name : String) : Run Value :=
  match target with
  | .host object => hosts.readProperty object name
  | .json data => .ofExcept (data.property name)

/-- What stands under an index of a value. -/
def index (hosts : Hosts) (target index : Value) : Run Value :=
  match target with
  | .host object =>
    match index.text? with
    | some name => hosts.readProperty object name
    | none => .fail (.typeMismatch (.index object.typeName index.kind))
  | .json data => .ofExcept (data.index index)

end Value

end Scriptlet
