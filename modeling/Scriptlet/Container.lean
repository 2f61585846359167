import Scriptlet.Host
import Scriptlet.Method
import Scriptlet.Text.Literal

/-!
# The container

The application hands its components to every template in one container, which is a host object. A
template finds it under the name `container`, in place of anything else under that name, and reads a
component as a property or by a method.
-/

set_option autoImplicit false

namespace Scriptlet

namespace Bindings

/-- Named values as a log writes them. -/
def logText (bindings : Bindings) : String :=
  let entry := fun (name, value) => Text.literal name ++ ": " ++ Value.logText value
  "\x7b" ++ ", ".intercalate (bindings.map entry) ++ "\x7d"

end Bindings

/-- A container: its identity among the host objects, and its components by name. -/
structure Container where
  id : Nat
  components : Table Value

namespace Container

/-- The name under which a template finds the container. -/
def bindingName : String := "container"

/-- The name of the type of containers. -/
def typeName : String := "Container"

/-- A container without components. -/
def empty (id : Nat) : Container := ⟨id, []⟩

/-- The container with one more component, in place of an earlier one of the same name. -/
def add (container : Container) (name : String) (value : Value) : Container :=
  { container with components := container.components.insert name value }

/-- A component. -/
def component? (container : Container) (name : String) : Option Value :=
  container.components.find? name

/-- The container as values refer to it. -/
def ref (container : Container) : HostRef where
  id := container.id
  typeName
  description :=
    typeName ++ " \x7b components: " ++ Bindings.logText container.components ++ " \x7d"

/-- A component that has to be there. -/
def lookup (container : Container) (name : String) : Except Fault Value :=
  match container.component? name with
  | some value => .ok value
  | none => .error (.noSuchProperty typeName name)

/-- The name of a component that an argument has to be. -/
def nameArgument (argument : Value) : Except Fault String :=
  match argument.text? with
  | some name => .ok name
  | none => .error (.typeMismatch (.componentName argument.kind))

/-- The methods of a container. -/
def method? (container : Container) (name : String) : Option Method :=
  match name with
  | "getComponent" => some <| .unary fun argument => do
      let component ← nameArgument argument
      container.lookup component
  | "hasComponent" => some <| .unary fun argument => do
      let component ← nameArgument argument
      return .bool (container.component? component).isSome
  | "componentNames" =>
    some (.nullary (.ok (.json (.ofStrings container.components.names))))
  | _ => none

/-- The hooks of a container. -/
def hooks (container : Container) : HostObject where
  property := container.lookup
  method name arguments :=
    match container.method? name with
    | some method => method.call name arguments
    | none => .error (.noSuchMethod typeName name)

/-- What a template sees: the bindings, and the container. -/
def context (container : Container) (bindings : Bindings) : Bindings :=
  bindings.insert bindingName (.host container.ref)

/-- The hooks of the host objects, the container among them. -/
def join (container : Container) (hosts : Hosts) : Hosts :=
  hosts.set container.ref container.hooks

theorem component?_add (container : Container) (name other : String) (value : Value) :
    (container.add name value).component? other =
      if other = name then some value else container.component? other :=
  Table.find?_insert _ _ _ _

end Container

end Scriptlet
