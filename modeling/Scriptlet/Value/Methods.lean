import Scriptlet.Value.Access
import Scriptlet.Value.Order
import Scriptlet.Method
import Scriptlet.Text.LetterCase
import Scriptlet.Text.Search

/-!
# Methods of values

Texts, lists and maps have methods. All data has `toString` without arguments and `equals` with one,
and these come first. A text counts and cuts by code points. Host objects answer for themselves.
-/

set_option autoImplicit false

namespace Scriptlet

/-! ## Texts -/

namespace Text

/-- A position in a text, which may also be its end. -/
def offset (text : List Char) (i : Int64) : Except Fault Nat :=
  if 0 ≤ i.toInt ∧ i.toInt ≤ text.length then .ok i.toInt.toNat
  else .error (.indexOutOfBounds i.toInt text.length)

/-- The characters from one position up to another. -/
def slice (text : List Char) (first past : Nat) : Except Fault (List Char) :=
  if first ≤ past then .ok ((text.take past).drop first)
  else .error (.indexOutOfBounds first past)

/-- The part of a text from a position, up to the second or to the end. -/
def substring (text : List Char) (first : Value) (past : Option Value) : Except Fault Value := do
  let i ← first.integerArgument
  let i ← offset text i
  let j ←
    match past with
    | some past => do
      let j ← past.integerArgument
      offset text j
    | none => pure text.length
  let part ← slice text i j
  return .ofChars part

/-- The character at a position, as a text. -/
def charAt (text : List Char) (position : Value) : Except Fault Value := do
  let i ← position.integerArgument
  match if 0 ≤ i.toInt then text[i.toInt.toNat]? else none with
  | some c => return .ofChars [c]
  | none => .error (.indexOutOfBounds i.toInt text.length)

/-- The least position of a text in another, or -1. -/
def indexOf (text sought : List Char) : Value :=
  match position? sought text with
  | some position => .ofNat position
  | none => .int (-1)

/-- The methods of texts. -/
def method? (text : List Char) (name : String) : Option Method :=
  match name with
  | "length" => some (.nullary (.ok (.ofNat text.length)))
  | "isEmpty" => some (.nullary (.ok (.bool text.isEmpty)))
  | "toLowerCase" => some (.nullary (.ok (.ofChars (lower text))))
  | "toUpperCase" => some (.nullary (.ok (.ofChars (upper text))))
  | "trim" => some (.nullary (.ok (.ofChars (trim text))))
  | "substring" => some (.unaryOrBinary (substring text))
  | "charAt" => some (.unary (charAt text))
  | "startsWith" => some <| .unary fun start => do
      let start ← start.textArgument
      return .bool (startsWith text start)
  | "endsWith" => some <| .unary fun ending => do
      let ending ← ending.textArgument
      return .bool (endsWith text ending)
  | "contains" => some <| .unary fun part => do
      let part ← part.textArgument
      return .bool (position? part text).isSome
  | "indexOf" => some <| .unary fun sought => do
      let sought ← sought.textArgument
      return indexOf text sought
  | "replace" => some <| .binary fun sought replacement => do
      let sought ← sought.textArgument
      let replacement ← replacement.textArgument
      return .ofChars (replace sought replacement text)
  | _ => none

end Text

/-! ## Lists, maps and all data -/

namespace Json

/-- The methods of lists. -/
def listMethod? (items : List Json) (name : String) : Option Method :=
  match name with
  | "size" => some (.nullary (.ok (.ofNat items.length)))
  | "isEmpty" => some (.nullary (.ok (.bool items.isEmpty)))
  | "get" => some (.unary (itemUnder items))
  | "contains" => some <| .unary fun sought =>
      .ok (.bool (items.any fun item => Value.equal (.json item) sought))
  | _ => none

/-- The methods of maps. -/
def mapMethod? (members : Table Json) (name : String) : Option Method :=
  match name with
  | "size" => some (.nullary (.ok (.ofNat members.length)))
  | "isEmpty" => some (.nullary (.ok (.bool members.isEmpty)))
  | "get" => some <| .unary fun key => .ok (memberUnder members key)
  | "containsKey" => some <| .unary fun key =>
      .ok (.bool (Table.contains members key.display))
  | _ => none

/-- The methods that data of one kind has. -/
def kindMethod? (data : Json) (name : String) : Option Method :=
  match data with
  | .string text => Text.method? text.toList name
  | .array items => listMethod? items name
  | .object members => mapMethod? members name
  | _ => none

/-- A call of a method of data. -/
def callMethod (data : Json) (name : String) (arguments : List Value) : Except Fault Value :=
  match name, arguments with
  | "toString", [] => .ok (.string (Value.display (.json data)))
  | "equals", [other] => .ok (.bool (Value.equal (.json data) other))
  | _, _ =>
    match data.kindMethod? name with
    | some method => method.call name arguments
    | none => .error (.noSuchMethod (Value.kind (.json data)) name)

end Json

namespace Value

/-- A call of a method of a value. -/
def callMethod (hosts : Hosts) (target : Value) (name : String) (arguments : List Value) :
    Run Value :=
  match target with
  | .host object => hosts.callMethod object name arguments
  | .json data => .ofExcept (data.callMethod name arguments)

end Value

end Scriptlet
