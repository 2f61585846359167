import Scriptlet.Proofs.Evaluation.Outcomes
import Scriptlet.Proofs.Number.Order
import Scriptlet.Proofs.Value.Comparison

/-!
# Comparing numbers

What a template finds of two numbers by `<` and `<=` is true of their exact values, and `<` is transitive,
although a chain may go from integers to doubles and back (`order_sound`).

Equality is not that well behaved. Two different integers that have the same double are both equal to it, and
not to one another (`equal_not_trans`). These pairs are the only exceptions: apart from them equality is an
equivalence, and equal numbers are in the same order with every third one (`equality_lawful`).
-/

set_option autoImplicit false

namespace Scriptlet

namespace Value

/-- A template that compares two values comes to the result, wherever it has the values from. -/
def Answers (comparison : Comparison) (x y : Value) (result : Except Fault Bool) : Prop :=
  ∀ scope left right, (Expr.eval scope left).outcome = .ok x → (Expr.eval scope right).outcome = .ok y →
    ((Expr.binary (.test comparison) left right).eval scope).outcome = result.map Value.bool

theorem answers_iff {comparison : Comparison} {x y : Json} {result : Except Fault Bool} :
    Answers comparison (.json x) (.json y) result ↔
      compare comparison (.json x) (.json y) = result := by
  constructor
  · intro answers
    have outcome := answers ⟨[], [], .none⟩ (.literal x) (.literal y) rfl rfl
    rw [Expr.outcome_test (x := .json x) (y := .json y) comparison rfl rfl] at outcome
    generalize compare comparison (.json x) (.json y) = found at outcome ⊢
    cases found <;> cases result <;> simp_all [Value.bool, Except.map]
  · rintro rfl scope left right first second
    exact Expr.outcome_test comparison first second

end Value

namespace Number

/-- A template that compares two numbers comes to the answer. -/
def Compares (comparison : Comparison) (a b : Number) (answer : Bool) : Prop :=
  Value.Answers comparison (.json (.number a)) (.json (.number b)) (.ok answer)

variable {a b c : Number} {comparison : Comparison} {answer : Bool}

/-- The answers are those of the order. -/
theorem compares_iff :
    Compares comparison a b answer ↔ comparison.accepts (a.quantity.order b.quantity) = answer := by
  rw [Compares, Value.answers_iff, Value.compare_of_order?_eq_some rfl comparison, Except.ok.injEq]

theorem compares_lt_iff : Compares .lt a b true ↔ a.quantity.order b.quantity = .lt := by
  rw [compares_iff]
  cases a.quantity.order b.quantity <;> decide

theorem compares_eq_iff : Compares .eq a b true ↔ a.quantity.order b.quantity = .eq := by
  rw [compares_iff]
  cases a.quantity.order b.quantity <;> decide

/-- What is not at most a number is what that number is less than. -/
theorem compares_le_iff : Compares .le a b answer ↔ (answer = false ↔ b.quantity.order a.quantity = .lt) := by
  rw [compares_iff, ← Quantity.order_swap a.quantity b.quantity]
  cases a.quantity.order b.quantity <;> cases answer <;> decide

/-! ## Less -/

/-- What the order of templates says of three numbers is true of their exact values. -/
structure Sound (a b c : Number) : Prop where
  /-- Every comparison of two numbers has an answer. -/
  answers : ∀ comparison, ∃ answer, Compares comparison a b answer
  less : Compares .lt a b true → a.value < b.value
  greater : Compares .le a b false → b.value < a.value
  trans : Compares .lt a b true → Compares .lt b c true → Compares .lt a c true

/-- A number that is found less is less, and so is what is found less than that. -/
theorem order_sound (a b c : Number) : Sound a b c where
  answers _ := ⟨_, compares_iff.mpr rfl⟩
  less found := value_lt_of_order_eq_lt (compares_lt_iff.mp found)
  greater found := value_lt_of_order_eq_lt ((compares_le_iff.mp found).mp rfl)
  trans first second :=
    compares_lt_iff.mpr (order_eq_lt_trans (compares_lt_iff.mp first) (compares_lt_iff.mp second))

/-! ## Equal -/

/-- Two numbers are in the same order with a third one. -/
def SameOrder (a b c : Number) : Prop :=
  (Compares .lt a c true ↔ Compares .lt b c true) ∧ (Compares .lt c a true ↔ Compares .lt c b true)

theorem SameOrder.symm (same : SameOrder a b c) : SameOrder b a c :=
  ⟨same.1.symm, same.2.symm⟩

theorem rounded_eq_of_compares_eq (equal : Compares .eq a b true) : a.rounded = b.rounded :=
  (order_eq_eq_iff.mp (compares_eq_iff.mp equal)).1

/-- What has the same double and does not merge is equal. -/
theorem compares_eq_of_apart (rounded : a.rounded = b.rounded) (apart : ¬a.Merges b) :
    Compares .eq a b true :=
  compares_eq_iff.mpr (order_eq_eq_iff.mpr ⟨rounded, apart⟩)

/-- Numbers that merge are told apart. -/
theorem compares_eq_of_merges (merges : a.Merges b) : Compares .eq a b false := by
  have differ : a.quantity.order b.quantity ≠ .eq := fun equal =>
    (order_eq_eq_iff.mp equal).2 merges
  rw [compares_iff]
  cases found : a.quantity.order b.quantity with
  | lt | gt => rfl
  | eq => exact absurd found differ

theorem compares_lt_iff_of_apart (apart : ¬a.Merges b) :
    Compares .lt a b true ↔ a.rounded < b.rounded := by
  rw [compares_lt_iff, order_eq_lt_iff, or_iff_left fun both => apart both.1]

/-- Numbers with one double are in the same order with all that neither of them merges with. -/
theorem sameOrder_of_apart (rounded : a.rounded = b.rounded) (first : ¬a.Merges c)
    (second : ¬b.Merges c) : SameOrder a b c := by
  refine ⟨?_, ?_⟩
  · rw [compares_lt_iff_of_apart first, compares_lt_iff_of_apart second, rounded]
  · rw [compares_lt_iff_of_apart fun merges => first merges.symm,
      compares_lt_iff_of_apart fun merges => second merges.symm, rounded]

/-- An integer is less or greater than one that it merges with, and what has the same double and is no such
integer is not. -/
theorem not_sameOrder_of_merges (rounded : a.rounded = b.rounded) (merges : a.Merges c)
    (other : ¬b.IsInt) : ¬SameOrder a b c := by
  rintro ⟨below, above⟩
  have apart : ¬b.Merges c := fun merges' => other merges'.1
  have level : b.rounded = c.rounded := rounded.symm.trans merges.rounded_eq
  rw [compares_lt_iff_of_apart apart, level] at below
  rw [compares_lt_iff_of_apart fun merges' => apart merges'.symm, level] at above
  rcases Int.lt_or_gt_of_ne merges.units_ne with less | greater
  · have found := compares_lt_iff.mpr (order_eq_lt_iff.mpr (Or.inr ⟨merges, less⟩))
    exact Int.lt_irrefl _ (below.mp found)
  · have found := compares_lt_iff.mpr (order_eq_lt_iff.mpr (Or.inr ⟨merges.symm, greater⟩))
    exact Int.lt_irrefl _ (above.mp found)

theorem eq_of_compares_eq (equal : Compares .eq a b true) (first : a.IsInt) (second : b.IsInt) :
    a = b := by
  by_contra differ
  obtain ⟨rounded, apart⟩ := order_eq_eq_iff.mp (compares_eq_iff.mp equal)
  exact apart (merges_iff.mpr ⟨first, second, differ, rounded⟩)

/-- Equal numbers are in the same order with a third one, unless one of them is an integer that merges with it
and the other is none. -/
theorem sameOrder_iff (equal : Compares .eq a b true) :
    SameOrder a b c ↔ (a.IsInt ↔ b.IsInt) ∨ ¬a.Merges c ∧ ¬b.Merges c := by
  have rounded := rounded_eq_of_compares_eq equal
  by_cases first : a.IsInt <;> by_cases second : b.IsInt
  · rw [eq_of_compares_eq equal first second]
    exact iff_of_true ⟨Iff.rfl, Iff.rfl⟩ (Or.inl Iff.rfl)
  · have apart : ¬b.Merges c := fun merges => second merges.1
    by_cases merges : a.Merges c
    · exact iff_of_false (not_sameOrder_of_merges rounded merges second)
        (by simp [first, second, merges])
    · exact iff_of_true (sameOrder_of_apart rounded merges apart) (Or.inr ⟨merges, apart⟩)
  · have apart : ¬a.Merges c := fun merges => first merges.1
    by_cases merges : b.Merges c
    · exact iff_of_false
        (fun same => not_sameOrder_of_merges rounded.symm merges first same.symm)
        (by simp [first, second, merges])
    · exact iff_of_true (sameOrder_of_apart rounded apart merges) (Or.inr ⟨apart, merges⟩)
  · refine iff_of_true (sameOrder_of_apart rounded ?_ ?_) (Or.inl (by simp [first, second]))
    · exact fun merges => first merges.1
    · exact fun merges => second merges.1

/-- How far equality of numbers is an equivalence that fits their order. -/
structure EqualityLawful (a b c : Number) : Prop where
  reflexive : Compares .eq a a true
  symmetric : Compares .eq a b true → Compares .eq b a true
  /-- Numbers that are equal to one number are equal, unless they merge. -/
  transitive : Compares .eq a b true → Compares .eq b c true →
    (Compares .eq a c true ↔ ¬a.Merges c)
  /-- Equal numbers are in the same order with a third one, unless one of them is an integer that merges with
  it and the other is none. -/
  compatible : Compares .eq a b true →
    (SameOrder a b c ↔ (a.IsInt ↔ b.IsInt) ∨ ¬a.Merges c ∧ ¬b.Merges c)
  /-- Even then no number stands between them. -/
  between : Compares .eq a b true → ¬(Compares .lt a c true ∧ Compares .lt c b true)
  /-- Integers that merge are told apart. -/
  apart : a.Merges b → Compares .eq a b false
  /-- Yet any other number that has the same double is equal to both of them. -/
  shared : a.Merges b → ¬c.IsInt → c.rounded = a.rounded →
    Compares .eq a c true ∧ Compares .eq b c true
  /-- Of two integers that merge one is beyond `2 ^ 53`. -/
  large : a.Merges b → 2 ^ 53 < |a.value| ∨ 2 ^ 53 < |b.value|

/-- Apart from integers that merge, equality of numbers is an equivalence that fits their order. -/
theorem equality_lawful (a b c : Number) : EqualityLawful a b c where
  reflexive := compares_eq_of_apart rfl fun merges => merges.units_ne rfl
  symmetric equal := by
    rw [compares_eq_iff, order_eq_eq_iff] at equal ⊢
    exact ⟨equal.1.symm, fun merges => equal.2 merges.symm⟩
  transitive first second := by
    have rounded := (rounded_eq_of_compares_eq first).trans (rounded_eq_of_compares_eq second)
    rw [compares_eq_iff, order_eq_eq_iff, and_iff_right rounded]
  compatible equal := sameOrder_iff equal
  between equal := by
    rintro ⟨below, above⟩
    have less := order_eq_lt_trans (compares_lt_iff.mp below) (compares_lt_iff.mp above)
    rw [compares_eq_iff.mp equal] at less
    cases less
  apart := compares_eq_of_merges
  shared merges other rounded :=
    ⟨compares_eq_of_apart rounded.symm fun both => other both.2.1,
      compares_eq_of_apart (merges.rounded_eq.symm.trans rounded.symm) fun both => other both.2.1⟩
  large := Merges.large

/-- Two integers can be equal to one double and not to one another: `2 ^ 53 + 1` is rounded to `2 ^ 53`. -/
theorem equal_not_trans :
    ¬∀ a b c : Number, Compares .eq a b true → Compares .eq b c true → Compares .eq a c true := by
  intro trans
  let power : Double := .ofSmall false (2 ^ 53) (Nat.le_refl _)
  have first : Compares .eq (.int 9007199254740993) (.double power) true :=
    compares_iff.mpr (by decide +kernel)
  have second : Compares .eq (.double power) (.int 9007199254740992) true :=
    compares_iff.mpr (by decide +kernel)
  have differ := compares_iff.mp (trans _ _ _ first second)
  exact absurd differ (by decide)

end Number

end Scriptlet
