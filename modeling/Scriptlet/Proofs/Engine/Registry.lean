import Scriptlet.EngineRegistry

/-!
# Registered engines

An engine is found under its name as soon as it is registered, and it stays there whatever is
registered after it (`get?_of_registerAll`), since a name that is taken is refused.
-/

set_option autoImplicit false

namespace Scriptlet.EngineRegistry

variable {registry next : EngineRegistry} {engine other : Engine} {name : String}

/-- The registry with some more engines, one after the other, unless one of the names is taken. -/
def registerAll (registry : EngineRegistry) (engines : List Engine) :
    Except EngineFault EngineRegistry :=
  engines.foldlM register registry

/-- A registration succeeds where the name is free, and adds the engine under it. -/
theorem register_eq_ok (registered : registry.register engine = .ok next) :
    registry.get? engine.name = none ∧ next = registry.insert (key engine.name) engine := by
  unfold register at registered
  split at registered
  · cases registered
  · rename_i free
    exact ⟨free, (Except.ok.inj registered).symm⟩

theorem get?_of_register (registered : registry.register engine = .ok next) :
    next.get? engine.name = some engine := by
  obtain ⟨-, rfl⟩ := register_eq_ok registered
  rw [get?, Table.find?_insert, if_pos rfl]

/-- A registration keeps what is registered. -/
theorem get?_of_register_other (registered : registry.register engine = .ok next)
    (found : registry.get? name = some other) : next.get? name = some other := by
  obtain ⟨free, rfl⟩ := register_eq_ok registered
  rw [get?, Table.find?_insert]
  split
  · rename_i same
    rw [get?, same] at found
    rw [get?, found] at free
    cases free
  · exact found

/-- Further registrations keep what is registered. -/
theorem get?_of_registerAll {engines : List Engine}
    (registered : registry.registerAll engines = .ok next)
    (found : registry.get? name = some other) : next.get? name = some other := by
  induction engines generalizing registry with
  | nil =>
    cases registered
    exact found
  | cons engine engines ih =>
    rw [registerAll, List.foldlM_cons] at registered
    cases first : registry.register engine with
    | error fault =>
      rw [first] at registered
      cases registered
    | ok middle =>
      rw [first] at registered
      exact ih registered (get?_of_register_other first found)

/-- Names that differ in case only name the same engine. -/
theorem evaluate_of_get? {variant : String} (found : registry.get? name = some engine)
    (same : key variant = key name) : registry.evaluate variant = engine.evaluate := by
  have foundVariant : registry.get? variant = some engine := by rw [get?, same]; exact found
  funext template bindings
  rw [evaluate, foundVariant]

end Scriptlet.EngineRegistry
