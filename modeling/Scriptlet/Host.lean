import Scriptlet.Run

/-!
# Host objects

What host objects answer. An object has two hooks, one for its properties and one for its methods;
either may fail with any fault. `Hosts` gives the hooks of every object that values refer to, and
only through it does a template reach the application.

A `Reply` is an answer fixed in advance, and an object may be made of such replies.
-/

set_option autoImplicit false

namespace Scriptlet

/-- The hooks of a host object. -/
structure HostObject where
  property : String → Except Fault Value
  method : String → List Value → Except Fault Value

/-- The hooks of every host object. -/
abbrev Hosts := HostRef → HostObject

/-- An answer fixed in advance: a value, a fault, or the list of the arguments. -/
inductive Reply where
  | value (value : Value)
  | fault (fault : Fault)
  | arguments

/-- What a call with the given arguments answers. -/
def Reply.answer (reply : Reply) (arguments : List Value) : Except Fault Value :=
  match reply with
  | .value answer => .ok answer
  | .fault reason => .error reason
  | .arguments => .ok (.json (.array (arguments.map Value.toJson)))

namespace HostObject

/-- The object of a type that has the given members, each with its reply, and no others. -/
def ofReplies (typeName : String) (properties methods : Table Reply) : HostObject where
  property name :=
    match properties.find? name with
    | some reply => reply.answer []
    | none => .error (.noSuchProperty typeName name)
  method name arguments :=
    match methods.find? name with
    | some reply => reply.answer arguments
    | none => .error (.noSuchMethod typeName name)

/-- The object of a type without members. -/
def bare (typeName : String) : HostObject :=
  ofReplies typeName [] []

end HostObject

namespace Hosts

/-- Every object without members. -/
def none : Hosts := fun object => .bare object.typeName

/-- The hooks with those of one object replaced. -/
def set (hosts : Hosts) (object : HostRef) (hooks : HostObject) : Hosts :=
  fun other => if other = object then hooks else hosts other

/-- Reading a property of a host object. -/
def readProperty (hosts : Hosts) (object : HostRef) (name : String) : Run Value :=
  .call (.property object name) ((hosts object).property name)

/-- Calling a method of a host object. -/
def callMethod (hosts : Hosts) (object : HostRef) (name : String) (arguments : List Value) :
    Run Value :=
  .call (.method object name arguments) ((hosts object).method name arguments)

end Hosts

end Scriptlet
