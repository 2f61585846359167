import Scriptlet.Engine

/-!
# Engine registries

Engines by name, where the case of the letters `A` to `Z` does not count. An engine whose name is
taken is refused, so what is registered stays. Registries are values: a copy goes its own way and
shares the engines that it was made with.
-/

set_option autoImplicit false

namespace Scriptlet

/-- Engines under their names in lower case. -/
abbrev EngineRegistry := Table Engine

namespace EngineRegistry

/-- The name under which an engine is kept. -/
def key (name : String) : String :=
  Text.asciiLower name

/-- The engine with a name. -/
def get? (registry : EngineRegistry) (name : String) : Option Engine :=
  registry.find? (key name)

/-- The registry with one more engine, unless its name is taken. -/
def register (registry : EngineRegistry) (engine : Engine) : Except EngineFault EngineRegistry :=
  match registry.get? engine.name with
  | some _ => .error (.duplicateEngine (key engine.name))
  | none => .ok (registry.insert (key engine.name) engine)

/-- The registry of the engines that the library has, which share a container. -/
def defaults (mark : Nat) (container : Container) (hosts : Hosts) : EngineRegistry :=
  let engine := Engine.ofEvaluator mark ⟨.ognl .builtins, container, hosts⟩
  [(key engine.name, engine)]

/-- What the engine with a name answers. -/
def evaluate (registry : EngineRegistry) (name : String) (template : Option String)
    (bindings : Option Bindings) : Report (Option Value) :=
  match registry.get? name with
  | some engine => engine.evaluate template bindings
  | none => ⟨[], .error (.unknownEngine name)⟩

end EngineRegistry

end Scriptlet
