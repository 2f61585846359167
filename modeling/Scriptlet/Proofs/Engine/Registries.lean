import Mathlib.Data.List.Induction
import Scriptlet.Proofs.Engine.Registry
import Scriptlet.Proofs.Registry.Session
import Scriptlet.Proofs.Table.Order
import Scriptlet.Proofs.Text.ByteOrder

/-!
# Sessions with engine registries

Registries are empty at first or have the engines of the library. They are copied, engines are registered
in them, and copies share their storage until an engine is registered in one of them.

Whatever the commands of a session, its registries are lawful (`lawful_run`): each finds the engines of its
own history, the first of those whose names differ in letter case only, and keeps them.
-/

set_option autoImplicit false

namespace Scriptlet.EngineRegistry

/-- Where a registry comes from. -/
inductive Origin where
  | empty
  | defaults (mark : Nat) (container : Container) (hosts : Hosts)

/-- What a registry is at first. -/
def Origin.registry : Origin → EngineRegistry
  | empty => []
  | defaults mark container hosts => .defaults mark container hosts

/-- The engines that a registry has at first. -/
def Origin.engines : Origin → List Engine
  | empty => []
  | defaults mark container hosts => [.ofEvaluator mark ⟨.ognl .builtins, container, hosts⟩]

/-- Two names that are equal but for the case of the letters `A` to `Z`. -/
def SameName (a b : String) : Prop :=
  Text.asciiLower a = Text.asciiLower b

/-- The registry has the given engines, registered in this order. -/
structure Has (registry : EngineRegistry) (engines : List Engine) : Prop where
  /-- The names are those of the engines in lower case. -/
  keys : ∀ name, name ∈ registry.names ↔ ∃ engine ∈ engines, Text.asciiLower engine.name = name
  /-- The names increase byte by byte. -/
  increasing : registry.names.Pairwise fun a b => Text.bytes a < Text.bytes b
  /-- No two engines that are kept have the same name. -/
  distinct : registry.Pairwise fun a b => ¬ SameName a.2.name b.2.name
  /-- Under every spelling of a name there is the first engine registered under it. -/
  first : ∀ name, registry.get? name =
    engines.find? fun engine => Text.asciiLower engine.name = Text.asciiLower name

/-! ## One registry -/

variable {registry : EngineRegistry} {engines : List Engine} {engine : Engine}

/-- The entries of a registry that has taken some engines, unless it refused them. -/
structure Entered (registry : EngineRegistry) (engines : List Engine) : Prop where
  found : ∀ name, registry.find? name = engines.find? fun engine => key engine.name = name
  increasing : Table.Increasing registry
  keyed : ∀ entry ∈ registry, entry.1 = key entry.2.name

theorem entered_nil : Entered [] [] where
  found _ := rfl
  increasing := List.Pairwise.nil
  keyed := nofun

/-- A registry that takes an engine, or refuses it, has it among the engines registered in it. -/
theorem Entered.concat (entered : Entered registry engines) (engine : Engine) :
    Entered (Registrar.keep register registry engine) (engines ++ [engine]) := by
  have at_ := entered.found (key engine.name)
  cases taken : registry.get? engine.name with
  | some other =>
    have same : Registrar.keep register registry engine = registry := by
      simp only [Registrar.keep, register, taken]
    rw [same]
    refine ⟨fun name => ?_, entered.increasing, entered.keyed⟩
    rw [entered.found, List.find?_append]
    by_cases named : key engine.name = name
    · rw [← named, ← at_]
      change registry.find? (key engine.name) = some other at taken
      rw [taken]
      rfl
    · simp [named]
  | none =>
    have new : Registrar.keep register registry engine = registry.insert (key engine.name) engine := by
      simp only [Registrar.keep, register, taken]
    rw [new]
    change registry.find? (key engine.name) = none at taken
    refine ⟨fun name => ?_, Table.increasing_insert entered.increasing _ _, fun entry mem => ?_⟩
    · rw [Table.find?_insert, entered.found, List.find?_append]
      by_cases named : key engine.name = name
      · rw [if_pos named.symm, ← named, ← at_, taken]
        simp
      · simp [named, Ne.symm named]
    · rcases Table.mem_of_mem_insert mem with rfl | mem
      · rfl
      · exact entered.keyed entry mem

theorem entered_foldl (engines : List Engine) :
    Entered (engines.foldl (Registrar.keep register) []) engines := by
  induction engines using List.reverseRecOn with
  | nil => exact entered_nil
  | append_singleton engines engine ih =>
    rw [List.foldl_append]
    exact ih.concat engine

theorem Entered.has (entered : Entered registry engines) : Has registry engines where
  keys name := by
    rw [Table.mem_names_iff, entered.found, List.find?_isSome]
    exact exists_congr fun engine => and_congr_right fun _ => decide_eq_true_iff
  increasing := entered.increasing.imp Text.bytes_lt
  distinct := by
    refine List.Pairwise.imp_of_mem ?_ (List.pairwise_map.mp entered.increasing)
    intro a b memA memB less same
    rw [entered.keyed a memA, entered.keyed b memB] at less
    rw [key, key, show Text.asciiLower a.2.name = _ from same] at less
    exact lt_irrefl _ less
  first name := entered.found (key name)

/-! ## All registries of a session -/

/-- Engine registries as a kind of registries. -/
def registrar : Registrar Origin Engine EngineRegistry EngineFault where
  enter := register
  empty := []
  start := Origin.registry
  initial := Origin.engines
  starts origin := by cases origin <;> rfl

variable {commands : List (Command Origin Engine)} {handle : Nat}

/-- Every registry of a session has taken the engines of its history. -/
theorem exists_entered (shown : registrar.view? commands handle = some registry) :
    ∃ engines, registrar.history? commands handle = some engines ∧ Entered registry engines := by
  obtain ⟨engines, known, rfl⟩ := Registrar.exists_history shown
  exact ⟨engines, known, entered_foldl engines⟩

/-- The name of an engine is taken where an engine of the same name is. -/
theorem Entered.isSome_get?_iff (entered : Entered registry engines) (name : String) :
    (registry.get? name).isSome ↔ ∃ other ∈ registry.map (·.2), SameName other.name name := by
  rw [get?, ← Table.mem_names_iff, Table.names, List.mem_map]
  constructor
  · rintro ⟨entry, mem, named⟩
    refine ⟨entry.2, List.mem_map_of_mem mem, ?_⟩
    exact (entered.keyed entry mem).symm.trans named
  · rintro ⟨other, mem, same⟩
    obtain ⟨entry, stored, rfl⟩ := List.mem_map.mp mem
    exact ⟨entry, stored, (entered.keyed entry stored).trans same⟩

/-- What holds of the registries of a session after some commands, and of what follows. -/
structure Lawful (commands : List (Command Origin Engine)) : Prop where
  /-- Every registry has the engines of its own history. -/
  has : ∀ handle registry, registrar.view? commands handle = some registry →
    ∃ engines, registrar.history? commands handle = some engines ∧ Has registry engines
  /-- An engine is registered where no engine of its name is. -/
  registers : ∀ handle registry engine, registrar.view? commands handle = some registry →
    (∀ other ∈ registry.map (·.2), ¬ SameName other.name engine.name) →
    registrar.answer commands (.register handle engine) = .ok () ∧
    registrar.history? (commands ++ [.register handle engine]) handle =
      (registrar.history? commands handle).map (· ++ [engine])
  /-- An engine is refused where one of its name is, and nothing changes. -/
  refuses : ∀ handle registry engine, registrar.view? commands handle = some registry →
    (∃ other ∈ registry.map (·.2), SameName other.name engine.name) →
    registrar.answer commands (.register handle engine) =
      .error (.duplicateEngine (Text.asciiLower engine.name)) ∧
    registrar.run (commands ++ [.register handle engine]) = registrar.run commands
  /-- An engine that a registry finds stays under its name, whatever follows. -/
  keeps : ∀ handle registry name engine, registrar.view? commands handle = some registry →
    registry.get? name = some engine → ∀ later, ∃ next,
      registrar.view? (commands ++ later) handle = some next ∧ next.get? name = some engine
  /-- New registries and copies are as they should be, and no command has an effect on another
  registry than its own. -/
  isolated : registrar.Isolated commands

/-- After any commands, the registries of a session are lawful: each finds the engines of its own
history, the first of those whose names differ in letter case only, takes no second one, and is changed
by no command but its own registrations. -/
theorem lawful_run (commands : List (Command Origin Engine)) : Lawful commands where
  has handle registry shown := by
    obtain ⟨engines, known, entered⟩ := exists_entered shown
    exact ⟨engines, known, entered.has⟩
  registers handle registry engine shown free := by
    obtain ⟨engines, known, entered⟩ := exists_entered shown
    have absent : registry.get? engine.name = none := by
      rw [← Option.not_isSome_iff_eq_none, entered.isSome_get?_iff]
      rintro ⟨other, mem, same⟩
      exact free other mem same
    have taken : register registry engine = .ok (registry.insert (key engine.name) engine) := by
      rw [register, absent]
    obtain ⟨answered, -, recorded⟩ :=
      (registrar.isolated_run commands).registers handle registry engine _ shown taken
    exact ⟨answered, recorded⟩
  refuses handle registry engine shown present := by
    obtain ⟨engines, known, entered⟩ := exists_entered shown
    obtain ⟨other, found⟩ :=
      Option.isSome_iff_exists.mp ((entered.isSome_get?_iff engine.name).mpr present)
    have refused : register registry engine = .error (.duplicateEngine (key engine.name)) := by
      rw [register, found]
    exact (registrar.isolated_run commands).refuses handle registry engine _ shown refused
  keeps handle registry name engine shown found later := by
    refine Registrar.exists_view_run ?_ later shown found
    exact fun kept registered => get?_of_register_other registered kept
  isolated := registrar.isolated_run commands

end Scriptlet.EngineRegistry
