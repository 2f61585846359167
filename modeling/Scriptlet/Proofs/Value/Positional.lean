import Scriptlet.Container
import Scriptlet.Proofs.Run.Attempt
import Scriptlet.Proofs.Text.Offsets
import Scriptlet.Expr
import Scriptlet.Value.Methods

/-!
# Methods with partial operations

The methods of texts, lists, maps and containers once more, and the operators, as they are put together
from operations that are not defined everywhere. Arguments are taken out of their list by places, texts are
cut between positions or at an offset in bytes, and arithmetic knows its own operators only. Nothing but
the checks that come before keeps these operations from crashing, and they suffice: every method is done,
with the answer that it has in `Method.call`.
-/

set_option autoImplicit false

namespace Scriptlet.Attempt

/-! ## Texts -/

/-- The characters of a text from one position up to another. -/
def cut (text : List Char) (first past : Nat) : Attempt (List Char) :=
  if first ≤ past ∧ past ≤ text.length then pure ((text.take past).drop first) else crash

/-- The part of a text from one position up to another, which must not come before. -/
def between (text : List Char) (first past : Nat) : Attempt Value :=
  if past < first then fail (.indexOutOfBounds first past)
  else do
    let part ← cut text first past
    return .ofChars part

/-- The part of a text between the positions that two arguments tell, or from one position to the
end. -/
def substring (text : List Char) (arguments : List Value) : Attempt Value := do
  let i ← integerArgument arguments 0
  let first ← ofExcept (Text.offset text i)
  if arguments.length = 2 then
    let j ← integerArgument arguments 1
    let past ← ofExcept (Text.offset text j)
    between text first past
  else between text first text.length

/-- The character of a text at the position that an argument tells. -/
def charAt (text : List Char) (arguments : List Value) : Attempt Value := do
  let i ← integerArgument arguments 0
  match if 0 ≤ i.toInt then text[i.toInt.toNat]? else none with
  | some c => return .ofChars [c]
  | none => fail (.indexOutOfBounds i.toInt text.length)

/-- The least position of a text in another, counted up to its offset, or -1. -/
def indexOf (text sought : List Char) : Attempt Value :=
  match Text.byteOffset? sought text with
  | some offset => do
    let before ← ofOption (Text.before? text offset)
    return .ofNat before.length
  | none => return .int (-1)

/-- A method of a text. -/
def textMethod (text : List Char) (name : String) (arguments : List Value) : Attempt Value :=
  let arity (least greatest : Nat) : Attempt Unit :=
    checkArity name ⟨least, greatest⟩ arguments.length
  match name with
  | "length" => do
    arity 0 0
    return .ofNat text.length
  | "isEmpty" => do
    arity 0 0
    return .bool text.isEmpty
  | "toLowerCase" => do
    arity 0 0
    return .ofChars (Text.lower text)
  | "toUpperCase" => do
    arity 0 0
    return .ofChars (Text.upper text)
  | "trim" => do
    arity 0 0
    return .ofChars (Text.trim text)
  | "substring" => do
    arity 1 2
    substring text arguments
  | "charAt" => do
    arity 1 1
    charAt text arguments
  | "startsWith" => do
    arity 1 1
    let start ← textArgument arguments 0
    return .bool (Text.startsWith text start)
  | "endsWith" => do
    arity 1 1
    let ending ← textArgument arguments 0
    return .bool (Text.endsWith text ending)
  | "contains" => do
    arity 1 1
    let part ← textArgument arguments 0
    return .bool (Text.position? part text).isSome
  | "indexOf" => do
    arity 1 1
    let sought ← textArgument arguments 0
    indexOf text sought
  | "replace" => do
    arity 2 2
    let sought ← textArgument arguments 0
    let replacement ← textArgument arguments 1
    return .ofChars (Text.replace sought replacement text)
  | _ => fail (.noSuchMethod "string" name)

/-! ## Lists, maps and all data -/

/-- Whether some item of a list equals the first argument, which is taken anew for every item. -/
def anyEqual (arguments : List Value) : List Json → Attempt Bool
  | [] => pure false
  | item :: rest => do
    let sought ← argument arguments 0
    if Value.equal (.json item) sought then return true else anyEqual arguments rest

/-- A method of a list. -/
def listMethod (items : List Json) (name : String) (arguments : List Value) : Attempt Value :=
  let arity (count : Nat) : Attempt Unit := checkArity name ⟨count, count⟩ arguments.length
  match name with
  | "size" => do
    arity 0
    return .ofNat items.length
  | "isEmpty" => do
    arity 0
    return .bool items.isEmpty
  | "get" => do
    arity 1
    let index ← argument arguments 0
    ofExcept (Json.itemUnder items index)
  | "contains" => do
    arity 1
    let found ← anyEqual arguments items
    return .bool found
  | _ => fail (.noSuchMethod "list" name)

/-- A method of a map. -/
def mapMethod (members : Table Json) (name : String) (arguments : List Value) : Attempt Value :=
  let arity (count : Nat) : Attempt Unit := checkArity name ⟨count, count⟩ arguments.length
  match name with
  | "size" => do
    arity 0
    return .ofNat members.length
  | "isEmpty" => do
    arity 0
    return .bool members.isEmpty
  | "get" => do
    arity 1
    let key ← argument arguments 0
    return Json.memberUnder members key
  | "containsKey" => do
    arity 1
    let key ← argument arguments 0
    return .bool (Table.contains members key.display)
  | _ => fail (.noSuchMethod "map" name)

/-- A method that data of one kind has. -/
def kindMethod (data : Json) (name : String) (arguments : List Value) : Attempt Value :=
  match data with
  | .string text => textMethod text.toList name arguments
  | .array items => listMethod items name arguments
  | .object members => mapMethod members name arguments
  | _ => fail (.noSuchMethod (Value.kind (.json data)) name)

/-- A method of data. -/
def dataMethod (data : Json) (name : String) (arguments : List Value) : Attempt Value :=
  if name = "toString" ∧ arguments.isEmpty then return .string (Value.display (.json data))
  else if name = "equals" ∧ arguments.length = 1 then do
    let other ← argument arguments 0
    return .bool (Value.equal (.json data) other)
  else kindMethod data name arguments

/-! ## Containers -/

/-- The name of a component that the first argument has to be. -/
def componentArgument (arguments : List Value) : Attempt String := do
  let argument ← argument arguments 0
  ofExcept (Container.nameArgument argument)

/-- A method of a container. -/
def containerMethod (container : Container) (name : String) (arguments : List Value) :
    Attempt Value :=
  let arity (count : Nat) : Attempt Unit := checkArity name ⟨count, count⟩ arguments.length
  match name with
  | "getComponent" => do
    arity 1
    let component ← componentArgument arguments
    ofExcept (container.lookup component)
  | "hasComponent" => do
    arity 1
    let component ← componentArgument arguments
    return .bool (container.component? component).isSome
  | "componentNames" => do
    arity 0
    return .json (.ofStrings container.components.names)
  | _ => fail (.noSuchMethod Container.typeName name)

/-! ## Operators -/

/-- The result of arithmetic on two numbers, which is asked for no other operators. -/
def arithmetic (operator : Operator) (a b : Value) : Attempt Value := do
  let x ← ofExcept a.quantity
  let y ← ofExcept b.quantity
  match operator with
  | .arith operation => ofExcept ((x.apply operation y).map Value.ofQuantity)
  | _ => crash

/-- The result of an operator on the values of both operands. -/
def operate (operator : Operator) (a b : Value) : Attempt Value :=
  match operator with
  | .arith operation =>
    if operation = .add && (a.text?.isSome || b.text?.isSome) then
      return .string (a.display ++ b.display)
    else arithmetic operator a b
  | .test comparison => ofExcept ((Value.compare comparison a b).map Value.bool)
  | _ => crash

/-! ## All of them are done -/

/-- A call of a method that there may be, or else the fault that there is none. -/
def answer (target name : String) (method : Option Method) (arguments : List Value) :
    Except Fault Value :=
  match method with
  | some method => method.call name arguments
  | none => .error (.noSuchMethod target name)

variable {arguments : List Value}

theorem cut_eq {text : List Char} {first past : Nat} (low : first ≤ past)
    (high : past ≤ text.length) : cut text first past = pure ((text.take past).drop first) :=
  if_pos ⟨low, high⟩

/-- A position is not past the end of its text. -/
theorem le_of_offset {text : List Char} {i : Int64} {position : Nat}
    (found : Text.offset text i = .ok position) : position ≤ text.length := by
  unfold Text.offset at found
  split at found
  · cases found
    omega
  · cases found

/-- A text can be cut between two positions, or the second comes before the first. -/
theorem between_done {text : List Char} {first past : Nat} (high : past ≤ text.length) :
    between text first past =
      ofExcept (Text.slice text first past >>= fun part => .ok (.ofChars part)) := by
  unfold between Text.slice
  by_cases low : first ≤ past
  · rw [if_neg (Nat.not_lt.mpr low), if_pos low, cut_eq low high, pure_bind]
    rfl
  · rw [if_pos (Nat.lt_of_not_le low), if_neg low]
    rfl

theorem substring_one (text : List Char) (a : Value) :
    substring text [a] = ofExcept (Text.substring text a none) := by
  refine ofExcept_bind fun i _ => ofExcept_bind fun first _ => ?_
  exact between_done (Nat.le_refl _)

theorem substring_two (text : List Char) (a b : Value) :
    substring text [a, b] = ofExcept (Text.substring text a (some b)) := by
  refine ofExcept_bind fun i _ => ofExcept_bind fun first _ => ?_
  refine ofExcept_bind fun j _ => ofExcept_bind fun past found => ?_
  exact between_done (le_of_offset found)

/-- The text before an occurrence can be counted. -/
theorem indexOf_done (text sought : List Char) :
    indexOf text sought = pure (Text.indexOf text sought) := by
  unfold indexOf Text.indexOf
  cases occurs : Text.position? sought text with
  | none => rw [Text.byteOffset?_eq_none occurs]
  | some position =>
    obtain ⟨offset, before, place, cut, rfl⟩ := Text.exists_before? occurs
    simp only [place, cut]
    rfl

theorem charAt_done (text : List Char) (a : Value) :
    charAt text [a] = ofExcept (Text.charAt text a) := by
  refine ofExcept_bind fun i _ => ?_
  cases if 0 ≤ i.toInt then text[i.toInt.toNat]? else none <;> rfl

theorem textMethod_eq (text : List Char) (name : String) (arguments : List Value) :
    textMethod text name arguments =
      ofExcept (answer "string" name (Text.method? text name) arguments) := by
  unfold textMethod
  split
  case h_1 | h_2 | h_3 | h_4 | h_5 => exact done_of_nullary rfl
  case h_6 =>
    refine done_of_unaryOrBinary (fun a given => ?_) fun a b given => ?_
    · rw [given]
      exact substring_one text a
    · rw [given]
      exact substring_two text a b
  case h_7 =>
    refine done_of_unary fun a given => ?_
    rw [given]
    exact charAt_done text a
  case h_8 | h_9 | h_10 =>
    refine done_of_unary fun a given => ?_
    rw [given]
    exact ofExcept_bind fun part _ => rfl
  case h_11 =>
    refine done_of_unary fun a given => ?_
    rw [given]
    exact ofExcept_bind fun sought _ => indexOf_done text sought
  case h_12 =>
    refine done_of_binary fun a b given => ?_
    rw [given]
    exact ofExcept_bind fun sought _ => ofExcept_bind fun replacement _ => rfl
  case h_13 =>
    unfold Text.method?
    split
    all_goals first | contradiction | rfl

/-! ## Lists, maps and all data -/

theorem anyEqual_done (sought : Value) (items : List Json) :
    anyEqual [sought] items = pure (items.any fun item => Value.equal (.json item) sought) := by
  induction items with
  | nil => rfl
  | cons item rest ih =>
    have first : argument [sought] 0 = pure sought := rfl
    rw [anyEqual, first, pure_bind, ih, List.any_cons]
    cases Value.equal (.json item) sought <;> rfl

theorem listMethod_eq (items : List Json) (name : String) (arguments : List Value) :
    listMethod items name arguments =
      ofExcept (answer "list" name (Json.listMethod? items name) arguments) := by
  unfold listMethod
  split
  case h_1 | h_2 => exact done_of_nullary rfl
  case h_3 =>
    refine done_of_unary fun index given => ?_
    rw [given]
    rfl
  case h_4 =>
    refine done_of_unary fun sought given => ?_
    rw [given, anyEqual_done]
    rfl
  case h_5 =>
    unfold Json.listMethod?
    split
    all_goals first | contradiction | rfl

theorem mapMethod_eq (members : Table Json) (name : String) (arguments : List Value) :
    mapMethod members name arguments =
      ofExcept (answer "map" name (Json.mapMethod? members name) arguments) := by
  unfold mapMethod
  split
  case h_1 | h_2 => exact done_of_nullary rfl
  case h_3 | h_4 =>
    refine done_of_unary fun key given => ?_
    rw [given]
    rfl
  case h_5 =>
    unfold Json.mapMethod?
    split
    all_goals first | contradiction | rfl

theorem kindMethod_eq (data : Json) (name : String) (arguments : List Value) :
    kindMethod data name arguments =
      ofExcept (answer (Value.kind (.json data)) name (data.kindMethod? name) arguments) := by
  cases data with
  | string text => exact textMethod_eq text.toList name arguments
  | array items => exact listMethod_eq items name arguments
  | object members => exact mapMethod_eq members name arguments
  | null | bool | number => rfl

/-- A method of data is done: the argument of `equals` is there, and every kind checks its own. -/
theorem dataMethod_eq (data : Json) (name : String) (arguments : List Value) :
    dataMethod data name arguments = ofExcept (data.callMethod name arguments) := by
  unfold Json.callMethod
  split
  case h_1 => rfl
  case h_2 => rfl
  case h_3 notDisplay notEquals =>
    rw [dataMethod, if_neg, if_neg]
    · exact kindMethod_eq data name arguments
    · intro equals
      obtain ⟨other, rfl⟩ := List.length_eq_one_iff.mp equals.2
      exact notEquals other equals.1 rfl
    · intro display
      exact notDisplay display.1 (List.isEmpty_iff.mp display.2)

/-! ## Containers -/

/-- A method of a container is done. -/
theorem containerMethod_eq (container : Container) (name : String) (arguments : List Value) :
    containerMethod container name arguments =
      ofExcept (container.hooks.method name arguments) := by
  unfold containerMethod
  split
  case h_1 | h_2 =>
    refine done_of_unary fun a given => ?_
    rw [given]
    exact ofExcept_bind fun component _ => rfl
  case h_3 => exact done_of_nullary rfl
  case h_4 =>
    show _ = ofExcept (answer Container.typeName name (container.method? name) arguments)
    unfold Container.method?
    split
    all_goals first | contradiction | rfl

/-! ## Operators -/

/-- An operator of arithmetic is done: it never gets to the operators that arithmetic does not know. -/
theorem operate_arith (operation : Operation) (a b : Value) :
    operate (.arith operation) a b = ofExcept (Value.operate operation a b) := by
  unfold operate Value.operate
  simp only []
  split
  · rfl
  · refine ofExcept_bind fun x _ => ofExcept_bind fun y _ => ?_
    show ofExcept ((x.apply operation y).map Value.ofQuantity) = _
    cases x.apply operation y <;> rfl

/-- Arithmetic by itself does crash, so it matters which operators it is asked for. -/
example : arithmetic (.test .eq) (.int 1) (.int 1) = crash := rfl

end Scriptlet.Attempt
