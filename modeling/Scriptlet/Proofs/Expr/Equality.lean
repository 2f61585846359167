import Scriptlet.Proofs.Expr.Induction
import Scriptlet.Proofs.Json.Data

/-!
# Deciding whether trees are equal

Whether two expressions are the same tree can be computed (`Expr.equals_iff`), and so can whether a reader
answers a given one. `Json.same` is no help for this: it takes two zeros for the same number that differ in
their signs, and so would take two trees for one.
-/

set_option autoImplicit false

namespace Scriptlet

/-! ## Data -/

namespace Json

mutual

/-- Whether data is the same term, and not only the same data. -/
def equals : Json → Json → Bool
  | .null, .null => true
  | .bool a, .bool b => a = b
  | .number a, .number b => a = b
  | .string a, .string b => a = b
  | .array items, .array others => equalsItems items others
  | .object members, .object others => equalsMembers members others
  | _, _ => false

/-- Whether items are the same terms in the same order. -/
def equalsItems : List Json → List Json → Bool
  | [], [] => true
  | item :: items, other :: others => equals item other && equalsItems items others
  | _, _ => false

/-- Whether members have the same names and values in the same order. -/
def equalsMembers : List (String × Json) → List (String × Json) → Bool
  | [], [] => true
  | (name, item) :: members, (otherName, other) :: others =>
    name = otherName && equals item other && equalsMembers members others
  | _, _ => false

end

theorem equalsItems_iff {items : List Json}
    (each : ∀ item ∈ items, ∀ other, equals item other = true ↔ item = other) (others : List Json) :
    equalsItems items others = true ↔ items = others := by
  induction items generalizing others with
  | nil => cases others <;> simp [equalsItems]
  | cons item items ih =>
    cases others with
    | nil => simp [equalsItems]
    | cons other others =>
      have later := ih (fun next member => each next (List.mem_cons_of_mem item member)) others
      rw [equalsItems, Bool.and_eq_true, each item List.mem_cons_self, later, List.cons.injEq]

theorem equalsMembers_iff {members : List (String × Json)}
    (each : ∀ entry ∈ members, ∀ other, equals entry.2 other = true ↔ entry.2 = other)
    (others : List (String × Json)) : equalsMembers members others = true ↔ members = others := by
  induction members generalizing others with
  | nil => cases others <;> simp [equalsMembers]
  | cons entry members ih =>
    cases others with
    | nil => simp [equalsMembers]
    | cons other others =>
      have later := ih (fun next member => each next (List.mem_cons_of_mem entry member)) others
      rw [equalsMembers, Bool.and_eq_true, Bool.and_eq_true, each entry List.mem_cons_self, later,
        decide_eq_true_iff, List.cons.injEq, Prod.ext_iff]

theorem equals_iff (data other : Json) : equals data other = true ↔ data = other := by
  induction data generalizing other with
  | array items each => cases other <;> simp [equals, equalsItems_iff each]
  | object members each => cases other <;> simp [equals, equalsMembers_iff each]
  | null | bool | number | string => cases other <;> simp [equals]

instance : DecidableEq Json := fun data other =>
  decidable_of_iff _ (equals_iff data other)

end Json

/-! ## Expressions -/

namespace Expr

mutual

/-- Whether two expressions are the same tree. -/
def equals : Expr → Expr → Bool
  | .literal a, .literal b => a = b
  | .var a, .var b => a = b
  | .list items, .list others => equalsEach items others
  | .static owner name items, .static otherOwner otherName others =>
    owner = otherOwner && name = otherName && equalsEach items others
  | .property a name, .property b otherName => equals a b && name = otherName
  | .method a name items, .method b otherName others =>
    equals a b && name = otherName && equalsEach items others
  | .index a position, .index b otherPosition => equals a b && equals position otherPosition
  | .neg a, .neg b => equals a b
  | .not a, .not b => equals a b
  | .binary operator a right, .binary otherOperator b otherRight =>
    operator = otherOperator && equals a b && equals right otherRight
  | .ternary a yes no, .ternary b otherYes otherNo => equals a b && equals yes otherYes && equals no otherNo
  | _, _ => false

/-- Whether expressions are the same trees in the same order. -/
def equalsEach : List Expr → List Expr → Bool
  | [], [] => true
  | item :: items, other :: others => equals item other && equalsEach items others
  | _, _ => false

end

theorem equalsEach_iff {items : List Expr}
    (each : ∀ item ∈ items, ∀ other, equals item other = true ↔ item = other) (others : List Expr) :
    equalsEach items others = true ↔ items = others := by
  induction items generalizing others with
  | nil => cases others <;> simp [equalsEach]
  | cons item items ih =>
    cases others with
    | nil => simp [equalsEach]
    | cons other others =>
      have later := ih (fun next member => each next (List.mem_cons_of_mem item member)) others
      rw [equalsEach, Bool.and_eq_true, each item List.mem_cons_self, later, List.cons.injEq]

theorem equals_iff (tree other : Expr) : equals tree other = true ↔ tree = other := by
  induction tree generalizing other with
  | list items each => cases other <;> simp [equals, equalsEach_iff each]
  | static owner name items each => cases other <;> simp [equals, equalsEach_iff each, and_assoc]
  | method target name items ih each => cases other <;> simp [equals, equalsEach_iff each, ih, and_assoc]
  | index _ _ ih ihPosition => cases other <;> simp [equals, ih, ihPosition]
  | binary _ _ _ ih ihRight => cases other <;> simp [equals, ih, ihRight, and_assoc]
  | ternary _ _ _ ih ihYes ihNo => cases other <;> simp [equals, ih, ihYes, ihNo, and_assoc]
  | property _ _ ih | neg _ ih | not _ ih => cases other <;> simp [equals, ih]
  | literal | var => cases other <;> simp [equals]

instance : DecidableEq Expr := fun tree other =>
  decidable_of_iff _ (equals_iff tree other)

end Expr

/-- Whether an outcome is a given value does not depend on how it may fail. -/
instance decidableEqOk {ε α : Type} [DecidableEq α] (outcome : Except ε α) (value : α) :
    Decidable (outcome = .ok value) :=
  match outcome with
  | .ok found => decidable_of_iff (found = value) (by rw [Except.ok.injEq])
  | .error _ => isFalse nofun

end Scriptlet
