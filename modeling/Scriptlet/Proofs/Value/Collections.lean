import Scriptlet.Proofs.Evaluation.Outcomes
import Scriptlet.Proofs.Number.Range
import Scriptlet.Proofs.Table.Order

/-!
# Ways into collections

There are three ways into a value: the name of a property, an index, and a method. They go apart at once, by the
kind of the value, and agree all the same (`access_agrees`): an index and `get` answer alike, errors included;
what `contains` and `containsKey` say is true of the indexes; the sizes that can be asked for are one number.

A map goes by names and answers its size under `size` only where there is no such name, so there the property
and the index differ. That is the only place.

The size of a list or a text that fits a memory is a 64-bit integer, which `Fits` says.
-/

set_option autoImplicit false

namespace Scriptlet

/-- Only an integer of 64 bits is one for arithmetic. -/
theorem Value.quantity?_eq_int_iff {v : Value} {n : Int64} : v.quantity? = some (.int n) ↔ v = .int n := by
  constructor
  · intro found
    unfold quantity? at found
    split at found
    · rename_i number
      cases number <;> cases found
      rfl
    · cases found
  · rintro rfl
    rfl

namespace Json

variable {items : List Json} {members : Table Json}

/-! ## Lists -/

theorem itemAt?_eq_some_iff {n : Int64} {item : Json} :
    itemAt? items n = some item ↔ 0 ≤ n.toInt ∧ items[n.toInt.toNat]? = some item := by
  unfold itemAt?
  split
  · rename_i low
    exact (and_iff_right low).symm
  · rename_i low
    exact iff_of_false nofun fun found => low found.1

/-- An index of a list answers an item exactly if it is an integer from zero and below the size. -/
theorem itemUnder_eq_ok_iff {i value : Value} : itemUnder items i = .ok value ↔
    ∃ (n : Int64) (item : Json), i = .int n ∧ 0 ≤ n.toInt ∧ items[n.toInt.toNat]? = some item ∧
      value = .json item := by
  constructor
  · intro answer
    unfold itemUnder at answer
    split at answer
    · rename_i n integer
      split at answer
      · rename_i item found
        cases answer
        obtain ⟨low, there⟩ := itemAt?_eq_some_iff.mp found
        exact ⟨n, item, Value.quantity?_eq_int_iff.mp integer, low, there, rfl⟩
      · cases answer
    · cases answer
  · rintro ⟨n, item, rfl, low, there, rfl⟩
    unfold itemUnder
    rw [Value.quantity?_eq_int_iff.mpr rfl]
    simp only [itemAt?_eq_some_iff.mpr ⟨low, there⟩]

/-- The integers that answer an item. -/
theorem exists_itemUnder_iff {i : Value} : (∃ value, itemUnder items i = .ok value) ↔
    ∃ n : Int64, i = .int n ∧ 0 ≤ n.toInt ∧ n.toInt < items.length := by
  constructor
  · rintro ⟨value, answer⟩
    obtain ⟨n, item, same, low, found, -⟩ := itemUnder_eq_ok_iff.mp answer
    obtain ⟨inside, -⟩ := List.getElem?_eq_some_iff.mp found
    exact ⟨n, same, low, by omega⟩
  · rintro ⟨n, same, low, high⟩
    have inside : n.toInt.toNat < items.length := by omega
    exact ⟨_, itemUnder_eq_ok_iff.mpr ⟨n, _, same, low, List.getElem?_eq_getElem inside, rfl⟩⟩

/-- In a list that fits a memory every item has an index. -/
theorem exists_index_of_mem (fits : Fits items.length) {item : Json} (member : item ∈ items) :
    ∃ i, itemUnder items i = .ok (.json item) := by
  obtain ⟨k, inside, rfl⟩ := List.mem_iff_getElem.mp member
  have value : (Int64.ofNat k).toInt = k := Int64.toInt_ofNat_of_lt (by have := fits.2; omega)
  refine ⟨.int (.ofNat k), itemUnder_eq_ok_iff.mpr ⟨_, _, rfl, by omega, ?_, rfl⟩⟩
  rw [value, Int.toNat_natCast]
  exact List.getElem?_eq_getElem inside

theorem mem_of_itemUnder {i : Value} {item : Json} (answer : itemUnder items i = .ok (.json item)) :
    item ∈ items := by
  obtain ⟨n, found, -, -, there, same⟩ := itemUnder_eq_ok_iff.mp answer
  cases same
  exact List.mem_of_getElem? there

/-- A list contains what one of its indexes answers an equal of. -/
theorem any_equal_iff (fits : Fits items.length) (sought : Value) :
    (items.any fun item => Value.equal (.json item) sought) = true ↔
      ∃ i value, itemUnder items i = .ok value ∧ Value.compare .eq value sought = .ok true := by
  rw [List.any_eq_true]
  constructor
  · rintro ⟨item, member, equal⟩
    obtain ⟨i, answer⟩ := exists_index_of_mem fits member
    exact ⟨i, .json item, answer, congrArg Except.ok equal⟩
  · rintro ⟨i, value, answer, equal⟩
    obtain ⟨-, item, -, -, -, rfl⟩ := itemUnder_eq_ok_iff.mp answer
    exact ⟨item, mem_of_itemUnder answer, Except.ok.inj equal⟩

/-! ## Maps -/

theorem memberUnder_of_find? {key : Value} {item : Json} (found : Table.find? members key.display = some item) :
    memberUnder members key = .json item := by
  rw [memberUnder, found]

theorem memberUnder_of_not_mem {key : Value} (absent : key.display ∉ Table.names members) :
    memberUnder members key = .null := by
  rw [Table.mem_names_iff, Bool.not_eq_true, Option.isSome_eq_false_iff, Option.isNone_iff_eq_none] at absent
  rw [memberUnder, absent]

theorem contains_eq_decide (name : String) :
    Table.contains members name = decide (name ∈ Table.names members) := by
  rw [Table.contains, Bool.eq_iff_iff, decide_eq_true_iff, Table.mem_names_iff]

/-- A property of a map is what stands under its name as an index, unless the map answers its size. -/
theorem property_object (name : String) (named : name = "size" → name ∈ Table.names members) :
    (Json.object members).property name = (Json.object members).index (.string name) := by
  have key : (Value.string name).display = name := rfl
  rw [property, index, memberUnder, key]
  cases found : Table.find? members name with
  | some item => rfl
  | none =>
    have other : name ≠ "size" := by
      intro size
      have member := Table.mem_names_iff.mp (named size)
      rw [found] at member
      cases member
    dsimp only
    rw [if_neg other]

theorem property_size (absent : "size" ∉ Table.names members) :
    (Json.object members).property "size" = .ok (.ofNat members.length) := by
  rw [Table.mem_names_iff, Bool.not_eq_true, Option.isSome_eq_false_iff, Option.isNone_iff_eq_none] at absent
  rw [property, absent]
  rfl

/-! ## Sizes -/

/-- A size is answered as zero only if it is zero. -/
theorem ofNat_eq_zero_iff {n : Nat} (fits : Fits n) : Value.ofNat n = .int 0 ↔ n = 0 := by
  have value : (Int64.ofNat n).toInt = n := Int64.toInt_ofNat_of_lt (by have := fits.2; omega)
  rw [Value.ofNat, Value.int, ofNat, ofInt64, Value.json.injEq, Json.number.injEq, Number.int.injEq,
    ← Int64.toInt_inj, value]
  exact Int.natCast_eq_zero

/-- The methods of data that tell whether it is empty and its size, of which the latter has this name. -/
structure Sized (data : Json) (name : String) (n : Nat) : Prop where
  size : data.callMethod name [] = .ok (.ofNat n)
  empty : ∃ b, data.callMethod "isEmpty" [] = .ok (.bool b)
  /-- It is empty exactly if the size is zero. -/
  emptyIff : Fits n →
    (data.callMethod "isEmpty" [] = .ok (.bool true) ↔ data.callMethod name [] = .ok (.int 0))

theorem sized {data : Json} {name : String} {n : Nat} {isEmpty : Bool} (zero : isEmpty = true ↔ n = 0)
    (size : data.callMethod name [] = .ok (.ofNat n))
    (empty : data.callMethod "isEmpty" [] = .ok (.bool isEmpty)) : Sized data name n where
  size := size
  empty := ⟨_, empty⟩
  emptyIff fits := by
    rw [size, empty, Except.ok.injEq, Except.ok.injEq, ofNat_eq_zero_iff fits, ← zero]
    simp only [Value.bool, Value.json.injEq, Json.bool.injEq]

/-! ## Templates -/

/-- What templates come to that reach into data, wherever they have it from. -/
structure Reached (data : Json) : Prop where
  property : ∀ scope target name, (Expr.eval scope target).outcome = .ok (.json data) →
    ((Expr.property target name).eval scope).outcome = data.property name
  index : ∀ scope target position i, (Expr.eval scope target).outcome = .ok (.json data) →
    (Expr.eval scope position).outcome = .ok i →
    ((Expr.index target position).eval scope).outcome = data.index i
  method : ∀ scope target name arguments values, (Expr.eval scope target).outcome = .ok (.json data) →
    (Expr.evalEach scope arguments).outcome = .ok values →
    ((Expr.method target name arguments).eval scope).outcome = data.callMethod name values

theorem reached (data : Json) : Reached data where
  property _ _ name value := Expr.outcome_property name value
  index _ _ _ _ value place := Expr.outcome_index value place
  method _ _ name _ _ value given := Expr.outcome_method name value given

/-! ## All ways together -/

/-- The ways into a list agree. -/
structure ListAgrees (items : List Json) : Prop where
  reached : Reached (.array items)
  /-- An index and `get` have the same outcome. -/
  get : ∀ i, (Json.array items).callMethod "get" [i] = (Json.array items).index i
  /-- They answer an item for the integers from zero up to the size, and fail for any other index. -/
  succeeds : ∀ i, (∃ value, (Json.array items).index i = .ok value) ↔
    ∃ n : Int64, i = .int n ∧ 0 ≤ n.toInt ∧ n.toInt < items.length
  /-- The item is the one at this place. -/
  item : ∀ (n : Int64) (item : Json), 0 ≤ n.toInt → items[n.toInt.toNat]? = some item →
    (Json.array items).index (.int n) = .ok (.json item)
  /-- Two properties and a method answer the size. -/
  sized : Sized (.array items) "size" items.length
  size : (Json.array items).property "size" = .ok (.ofNat items.length)
  length : (Json.array items).property "length" = .ok (.ofNat items.length)
  /-- The list contains what is equal to the item under some index. -/
  contains : Fits items.length → ∀ sought,
    ((Json.array items).callMethod "contains" [sought] = .ok (.bool true) ↔
      ∃ i value, (Json.array items).index i = .ok value ∧ Value.compare .eq value sought = .ok true)
  containsAnswers : ∀ sought, ∃ b, (Json.array items).callMethod "contains" [sought] = .ok (.bool b)

/-- The ways into a map agree. -/
structure MapAgrees (members : Table Json) : Prop where
  reached : Reached (.object members)
  /-- An index and `get` have the same outcome. -/
  get : ∀ key, (Json.object members).callMethod "get" [key] = (Json.object members).index key
  /-- They answer the value under the display of the key, or null. -/
  present : ∀ key item, members.find? key.display = some item →
    (Json.object members).index key = .ok (.json item)
  absent : ∀ key, Value.display key ∉ members.names → (Json.object members).index key = .ok .null
  /-- The map contains a key if there is its display among the names. -/
  containsKey : ∀ key, (Json.object members).callMethod "containsKey" [key] =
    .ok (.bool (decide (key.display ∈ members.names)))
  /-- A property is what stands under its name as an index, but for `size` where it is no name. -/
  property : ∀ name, (name = "size" → name ∈ members.names) →
    (Json.object members).property name = (Json.object members).index (.string name)
  /-- There it is the number of entries, which the method always answers. -/
  size : "size" ∉ members.names → (Json.object members).property "size" = .ok (.ofNat members.length)
  sized : Sized (.object members) "size" members.length

theorem listAgrees (items : List Json) : ListAgrees items where
  reached := Json.reached _
  get _ := rfl
  succeeds _ := exists_itemUnder_iff
  item n item low found := itemUnder_eq_ok_iff.mpr ⟨n, item, rfl, low, found, rfl⟩
  sized := Json.sized (by rw [List.isEmpty_iff, List.length_eq_zero_iff]) rfl rfl
  size := rfl
  length := rfl
  contains fits sought := by
    show Except.ok (Value.bool _) = .ok (.bool true) ↔ _
    rw [Except.ok.injEq, Value.bool, Value.bool, Value.json.injEq, Json.bool.injEq]
    exact any_equal_iff fits sought
  containsAnswers _ := ⟨_, rfl⟩

theorem mapAgrees (members : Table Json) : MapAgrees members where
  reached := Json.reached _
  get _ := rfl
  present _ _ found := congrArg Except.ok (memberUnder_of_find? found)
  absent _ missing := congrArg Except.ok (memberUnder_of_not_mem missing)
  containsKey key := congrArg (fun b => Except.ok (Value.bool b)) (contains_eq_decide key.display)
  property := property_object
  size := property_size
  sized := Json.sized (by rw [List.isEmpty_iff, List.length_eq_zero_iff]) rfl rfl

theorem sized_string (text : String) : Sized (.string text) "length" text.length :=
  Json.sized (by rw [List.isEmpty_iff, ← String.length_toList, List.length_eq_zero_iff])
    (by rw [← String.length_toList]; rfl) rfl

end Json

/-- All ways into a value agree. -/
structure AccessAgrees (hosts : Hosts) : Prop where
  lists : ∀ items, Json.ListAgrees items
  maps : ∀ members, Json.MapAgrees members
  texts : ∀ text : String, Json.Reached (.string text) ∧ Json.Sized (.string text) "length" text.length
  /-- A host object is asked the same for a property and for the index of its name, and answers alike. -/
  objects : ∀ object name,
    Value.property hosts (.host object) name = Value.index hosts (.host object) (.string name)
  /-- So do templates, wherever they have the object from. -/
  reachedObjects : ∀ scope target object name, (Expr.eval scope target).outcome = .ok (.host object) →
    ((Expr.property target name).eval scope).outcome =
      ((Expr.index target (.literal (.string name))).eval scope).outcome

theorem access_agrees (hosts : Hosts) : AccessAgrees hosts where
  lists := Json.listAgrees
  maps := Json.mapAgrees
  texts text := ⟨Json.reached _, Json.sized_string text⟩
  objects _ _ := rfl
  reachedObjects scope target object name value := by
    have place : (Expr.eval scope (.literal (.string name))).outcome = .ok (.string name) := rfl
    rw [Expr.eval, Run.outcome_bind value, Expr.eval, Run.outcome_bind value, Run.outcome_bind place]
    rfl

end Scriptlet
