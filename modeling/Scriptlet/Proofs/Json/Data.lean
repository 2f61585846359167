import Scriptlet.Json.Basic
import Scriptlet.Proofs.Table.Order

/-!
# Trees of data

Data stands in arrays and objects, so the induction that Lean generates speaks of several motives.
`Json.dataInduction` has one: in the cases of arrays and objects, the hypothesis holds of every item and of
every member. `induction` uses it for all data.
-/

set_option autoImplicit false

namespace Scriptlet

/-- The number with another double in place of the one that it may be. -/
def Number.mapDouble (f : Double → Double) : Number → Number
  | .int i => .int i
  | .wide n past => .wide n past
  | .double d => .double (f d)

namespace Json

/-- What holds of an array or object as soon as it holds of what is right below it holds of all data. -/
@[induction_eliminator]
theorem dataInduction {motive : Json → Prop}
    (null : motive .null)
    (bool : ∀ value, motive (.bool value))
    (number : ∀ value, motive (.number value))
    (string : ∀ value, motive (.string value))
    (array : ∀ items, (∀ item ∈ items, motive item) → motive (.array items))
    (object : ∀ members, (∀ entry ∈ members, motive entry.2) → motive (.object members))
    (data : Json) : motive data := by
  refine @Json.rec motive (fun items => ∀ item ∈ items, motive item)
    (fun members => ∀ entry ∈ members, motive entry.2) (fun entry => motive entry.2)
    null bool number string array object ?_ ?_ ?_ ?_ (fun _ _ holds => holds) data
  · intro item member
    cases member
  · intro first rest holdsFirst holdsRest item member
    rcases List.mem_cons.mp member with rfl | member
    · exact holdsFirst
    · exact holdsRest item member
  · intro entry member
    cases member
  · intro first rest holdsFirst holdsRest entry member
    rcases List.mem_cons.mp member with rfl | member
    · exact holdsFirst
    · exact holdsRest entry member

mutual

/-- How many arrays and objects stand in one another. -/
def nesting : Json → Nat
  | .array items => nestingOfItems items + 1
  | .object members => nestingOfMembers members + 1
  | .null | .bool _ | .number _ | .string _ => 0

/-- How many arrays and objects stand in one another in some items. -/
def nestingOfItems : List Json → Nat
  | [] => 0
  | item :: rest => max item.nesting (nestingOfItems rest)

/-- How many arrays and objects stand in one another in some members. -/
def nestingOfMembers : List (String × Json) → Nat
  | [] => 0
  | (_, item) :: rest => max item.nesting (nestingOfMembers rest)

end

mutual

/-- In every object, the names increase. -/
def Sorted : Json → Prop
  | .array items => SortedItems items
  | .object members => Table.Increasing members ∧ SortedMembers members
  | .null | .bool _ | .number _ | .string _ => True

/-- In every object of some items, the names increase. -/
def SortedItems : List Json → Prop
  | [] => True
  | item :: rest => item.Sorted ∧ SortedItems rest

/-- In every object of some members, the names increase. -/
def SortedMembers : List (String × Json) → Prop
  | [] => True
  | (_, item) :: rest => item.Sorted ∧ SortedMembers rest

end

mutual

/-- The doubles in some data. -/
def doubles : Json → List Double
  | .number (.double d) => [d]
  | .array items => doublesOfItems items
  | .object members => doublesOfMembers members
  | .null | .bool _ | .number _ | .string _ => []

/-- The doubles in some items. -/
def doublesOfItems : List Json → List Double
  | [] => []
  | item :: rest => item.doubles ++ doublesOfItems rest

/-- The doubles in some members. -/
def doublesOfMembers : List (String × Json) → List Double
  | [] => []
  | (_, item) :: rest => item.doubles ++ doublesOfMembers rest

end

mutual

/-- The data with other doubles in place of its own. -/
def mapDoubles (f : Double → Double) : Json → Json
  | .number value => .number (value.mapDouble f)
  | .array items => .array (mapItems f items)
  | .object members => .object (mapMembers f members)
  | .null => .null
  | .bool value => .bool value
  | .string value => .string value

/-- The items with other doubles in place of their own. -/
def mapItems (f : Double → Double) : List Json → List Json
  | [] => []
  | item :: rest => mapDoubles f item :: mapItems f rest

/-- The members with other doubles in place of their own. -/
def mapMembers (f : Double → Double) : List (String × Json) → List (String × Json)
  | [] => []
  | (name, item) :: rest => (name, mapDoubles f item) :: mapMembers f rest

end

variable {items : List Json} {members : List (String × Json)} {f : Double → Double}

/-! ## Nesting -/

theorem nestingOfMembers_eq (members : List (String × Json)) :
    nestingOfMembers members = nestingOfItems (members.map (·.2)) := by
  induction members with
  | nil => rfl
  | cons first rest ih => rw [nestingOfMembers, ih, List.map_cons, nestingOfItems]

theorem nesting_le_of_mem {item : Json} (member : item ∈ items) :
    item.nesting ≤ nestingOfItems items := by
  induction items with
  | nil => cases member
  | cons first rest ih =>
    rw [nestingOfItems]
    rcases List.mem_cons.mp member with rfl | member
    · exact Nat.le_max_left _ _
    · exact (ih member).trans (Nat.le_max_right _ _)

theorem nestingOfItems_map {g : Json → Json} (same : ∀ item ∈ items, (g item).nesting = item.nesting) :
    nestingOfItems (items.map g) = nestingOfItems items := by
  induction items with
  | nil => rfl
  | cons first rest ih =>
    rw [List.map_cons, nestingOfItems, nestingOfItems, same first List.mem_cons_self,
      ih fun item member => same item (List.mem_cons_of_mem first member)]

/-! ## Order -/

theorem sortedItems_iff : SortedItems items ↔ ∀ item ∈ items, item.Sorted := by
  induction items with
  | nil => simp [SortedItems]
  | cons first rest ih => simp [SortedItems, ih]

theorem sortedMembers_iff : SortedMembers members ↔ ∀ entry ∈ members, entry.2.Sorted := by
  induction members with
  | nil => simp [SortedMembers]
  | cons first rest ih => simp [SortedMembers, ih]

/-! ## Other doubles -/

theorem mapItems_eq (f : Double → Double) (items : List Json) :
    mapItems f items = items.map (mapDoubles f) := by
  induction items with
  | nil => rfl
  | cons first rest ih => rw [mapItems, ih, List.map_cons]

theorem mapMembers_eq (f : Double → Double) (members : List (String × Json)) :
    mapMembers f members = members.map fun entry => (entry.1, mapDoubles f entry.2) := by
  induction members with
  | nil => rfl
  | cons first rest ih => rw [mapMembers, ih, List.map_cons]

/-- Other doubles leave the names as they are. -/
theorem names_mapMembers (f : Double → Double) (members : List (String × Json)) :
    Table.names (mapMembers f members) = Table.names members := by
  rw [mapMembers_eq, Table.names, List.map_map]
  rfl

theorem doublesOfItems_eq (items : List Json) : doublesOfItems items = items.flatMap doubles := by
  induction items with
  | nil => rfl
  | cons first rest ih => rw [doublesOfItems, ih, List.flatMap_cons]

theorem doublesOfMembers_eq (members : List (String × Json)) :
    doublesOfMembers members = members.flatMap (·.2.doubles) := by
  induction members with
  | nil => rfl
  | cons first rest ih => rw [doublesOfMembers, ih, List.flatMap_cons]

/-- Data whose doubles stay are as they were. -/
theorem mapDoubles_eq_self {data : Json} (fixed : ∀ d ∈ data.doubles, f d = d) :
    data.mapDoubles f = data := by
  induction data with
  | null => rfl
  | bool value => rfl
  | number value =>
    cases value with
    | int i => rfl
    | wide n past => rfl
    | double d => rw [mapDoubles, Number.mapDouble, fixed d List.mem_cons_self]
  | string value => rfl
  | array items ih =>
    rw [doubles, doublesOfItems_eq] at fixed
    have same : ∀ item ∈ items, mapDoubles f item = item := fun item member =>
      ih item member fun d among => fixed d (List.mem_flatMap_of_mem member among)
    rw [mapDoubles, mapItems_eq, List.map_congr_left same, List.map_id']
  | object members ih =>
    rw [doubles, doublesOfMembers_eq] at fixed
    have same : ∀ entry ∈ members, (entry.1, mapDoubles f entry.2) = entry := fun entry member => by
      rw [ih entry member fun d among => fixed d (List.mem_flatMap_of_mem member among)]
    rw [mapDoubles, mapMembers_eq, List.map_congr_left same, List.map_id']

theorem mapDoubles_id (data : Json) : data.mapDoubles id = data :=
  mapDoubles_eq_self fun _ _ => rfl

theorem nesting_mapDoubles (f : Double → Double) (data : Json) :
    (data.mapDoubles f).nesting = data.nesting := by
  induction data with
  | null => rfl
  | bool value => rfl
  | number value => cases value <;> rfl
  | string value => rfl
  | array items ih => rw [mapDoubles, nesting, nesting, mapItems_eq, nestingOfItems_map ih]
  | object members ih =>
    have same : ∀ item ∈ members.map (·.2), (mapDoubles f item).nesting = item.nesting := by
      intro item member
      obtain ⟨entry, among, rfl⟩ := List.mem_map.mp member
      exact ih entry among
    rw [mapDoubles, nesting, nesting, nestingOfMembers_eq, nestingOfMembers_eq,
      ← nestingOfItems_map same, mapMembers_eq, List.map_map, List.map_map]
    rfl

theorem sorted_mapDoubles (f : Double → Double) {data : Json} (sorted : data.Sorted) :
    (data.mapDoubles f).Sorted := by
  induction data with
  | null => trivial
  | bool value => trivial
  | number value => trivial
  | string value => trivial
  | array items ih =>
    rw [Sorted, sortedItems_iff] at sorted
    rw [mapDoubles, Sorted, sortedItems_iff, mapItems_eq]
    intro item member
    obtain ⟨before, among, rfl⟩ := List.mem_map.mp member
    exact ih before among (sorted before among)
  | object members ih =>
    rw [Sorted, sortedMembers_iff] at sorted
    rw [mapDoubles, Sorted, sortedMembers_iff]
    refine ⟨?_, ?_⟩
    · rw [Table.Increasing, names_mapMembers]
      exact sorted.1
    · rw [mapMembers_eq]
      intro entry member
      obtain ⟨before, among, rfl⟩ := List.mem_map.mp member
      exact ih before among (sorted.2 before among)

end Json

end Scriptlet
