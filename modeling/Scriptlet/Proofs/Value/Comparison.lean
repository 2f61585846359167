import Scriptlet.Evaluation
import Scriptlet.Proofs.Json.Data
import Scriptlet.Proofs.Run.Orderly
import Scriptlet.Value.Methods

/-!
# The six comparisons agree

Two values have an order or they have none, and the six comparisons follow from that (`comparisons_agree`).
With an order, each of them answers what it accepts (`compare_of_order?_eq_some`). Without one, the four that
ask for it fail, and equality is that of values (`compare_of_order?_eq_none`).

So two facts about the order carry everything else. With the operands exchanged it is the opposite
(`order?_swap`), and values that are the same are equal in it, if they have one (`order?_of_same`).
-/

set_option autoImplicit false

namespace Scriptlet

namespace Comparison

/-- The comparison that says the same of the operands the other way round. -/
def swap : Comparison → Comparison
  | eq => eq
  | ne => ne
  | lt => gt
  | le => ge
  | gt => lt
  | ge => le

/-- The comparison asks for an order. -/
def IsRelational (comparison : Comparison) : Prop :=
  comparison ≠ eq ∧ comparison ≠ ne

/-- Whether the comparison holds of values in an order. -/
def accepts : Comparison → Ordering → Bool
  | eq => Ordering.isEq
  | ne => Ordering.isNe
  | lt => Ordering.isLT
  | le => Ordering.isLE
  | gt => Ordering.isGT
  | ge => Ordering.isGE

theorem accepts_swap (comparison : Comparison) (order : Ordering) :
    comparison.swap.accepts order.swap = comparison.accepts order := by
  cases comparison <;> cases order <;> rfl

/-- In any order, one of less, equal and greater is accepted, and no other of them. -/
theorem existsUnique_accepts (order : Ordering) :
    ∃! comparison, comparison ∈ [lt, eq, gt] ∧ comparison.accepts order = true := by
  have one_only : ∀ c ∈ [lt, eq, gt], ∀ d ∈ [lt, eq, gt],
      c.accepts order = true → d.accepts order = true → c = d := by
    cases order <;> decide
  have exactly {c : Comparison} (among : c ∈ [lt, eq, gt]) (accepted : c.accepts order = true) :
      ∃! comparison, comparison ∈ [lt, eq, gt] ∧ comparison.accepts order = true :=
    ⟨c, ⟨among, accepted⟩, fun d also => one_only d also.1 c among also.2 accepted⟩
  cases order with
  | lt => exact exactly (c := lt) (by decide) rfl
  | eq => exact exactly (c := eq) (by decide) rfl
  | gt => exact exactly (c := gt) (by decide) rfl

end Comparison

/-! ## Sameness of data -/

theorem Double.same_comm (a b : Double) : a.same b = b.same a := by
  unfold Double.same
  simp only [eq_comm]

theorem Number.same_refl (a : Number) : a.same a = true := by
  cases a <;> simp [same, Double.same]

theorem Number.same_comm (a b : Number) : a.same b = b.same a := by
  cases a <;> cases b <;> simp [same, eq_comm, Double.same_comm]

namespace Json

theorem sameItems_refl {items : List Json} (each : ∀ item ∈ items, item.same item = true) :
    sameItems items items = true := by
  induction items with
  | nil => rfl
  | cons first rest ih =>
    rw [sameItems, each first List.mem_cons_self,
      ih fun item member => each item (List.mem_cons_of_mem first member)]
    rfl

theorem sameMembers_refl {members : List (String × Json)}
    (each : ∀ entry ∈ members, entry.2.same entry.2 = true) :
    sameMembers members members = true := by
  induction members with
  | nil => rfl
  | cons first rest ih =>
    rw [sameMembers, each first List.mem_cons_self,
      ih fun entry member => each entry (List.mem_cons_of_mem first member)]
    simp

theorem same_refl (data : Json) : data.same data = true := by
  induction data with
  | null => rfl
  | bool value => simp [same]
  | number value => rw [same, value.same_refl]
  | string value => simp [same]
  | array items ih => rw [same, sameItems_refl ih]
  | object members ih => rw [same, sameMembers_refl ih]

theorem sameItems_comm {xs : List Json} (each : ∀ x ∈ xs, ∀ y : Json, x.same y = y.same x)
    (ys : List Json) : sameItems xs ys = sameItems ys xs := by
  induction xs generalizing ys with
  | nil => cases ys <;> rfl
  | cons x xs ih =>
    cases ys with
    | nil => rfl
    | cons y ys =>
      rw [sameItems, sameItems, each x List.mem_cons_self y,
        ih (fun item member => each item (List.mem_cons_of_mem x member)) ys]

theorem sameMembers_comm {xs : List (String × Json)}
    (each : ∀ x ∈ xs, ∀ y : Json, x.2.same y = y.same x.2) (ys : List (String × Json)) :
    sameMembers xs ys = sameMembers ys xs := by
  induction xs generalizing ys with
  | nil => cases ys <;> rfl
  | cons x xs ih =>
    cases ys with
    | nil => rfl
    | cons y ys =>
      rw [sameMembers, sameMembers, each x List.mem_cons_self y.2,
        ih (fun entry member => each entry (List.mem_cons_of_mem x member)) ys]
      simp only [eq_comm]

theorem same_comm (a b : Json) : a.same b = b.same a := by
  induction a generalizing b with
  | null => cases b <;> rfl
  | bool value => cases b <;> simp [same, eq_comm]
  | number value => cases b <;> simp [same, Number.same_comm]
  | string value => cases b <;> simp [same, eq_comm]
  | array items ih => cases b <;> simp [same, sameItems_comm ih]
  | object members ih => cases b <;> simp [same, sameMembers_comm ih]

end Json

theorem Value.same_refl (a : Value) : a.same a = true := by
  cases a with
  | json data => exact data.same_refl
  | host object => simp [same]

theorem Value.same_comm (a b : Value) : a.same b = b.same a := by
  cases a <;> cases b <;> simp [same, Json.same_comm, eq_comm]

/-! ## The order -/

theorem Quantity.order_swap (a b : Quantity) : (a.order b).swap = b.order a := by
  cases a <;> cases b <;> exact Std.OrientedOrd.eq_swap.symm

theorem Number.order_of_same {a b : Number} (same : a.same b = true) :
    a.quantity.order b.quantity = .eq := by
  fun_cases Number.same a b with
  | case1 i j => simp_all [Number.same, quantity, Quantity.order]
  | case2 m _ n _ => simp_all [Number.same, quantity, Quantity.order, Double.order]
  | case3 c d =>
    have values : c.signed = d.signed := of_decide_eq_true same
    simp [quantity, Quantity.order, Quantity.toDouble, Double.order, values]
  | case4 => simp_all [Number.same]

namespace Value

variable {a b : Value} {order : Ordering} {comparison : Comparison}

/-- With the operands exchanged, the order is the opposite. -/
theorem order?_swap (a b : Value) : order? b a = (order? a b).map Ordering.swap := by
  fun_cases order? a b with
  | case1 s t => exact congrArg some Std.OrientedOrd.eq_swap
  | case2 m n => exact congrArg some (Quantity.order_swap m.quantity n.quantity).symm
  | case3 p q => exact congrArg some Std.OrientedOrd.eq_swap
  | case4 m t => rfl
  | case5 s n => simp [order?, Function.comp_def]
  | case6 =>
    unfold order?
    split <;> simp_all

/-- Values that are the same are equal in their order, if they have one. -/
theorem order?_of_same (same : a.same b = true) (found : order? a b = some order) : order = .eq := by
  fun_cases order? a b with
  | case1 s t => simp_all [order?, Value.same, Json.same]
  | case2 m n =>
    cases found
    exact Number.order_of_same same
  | case3 p q => simp_all [order?, Value.same, Json.same]
  | case4 m t => cases same
  | case5 s n => cases same
  | case6 => simp_all [order?]

theorem order?_null (b : Value) : order? .null b = none := by
  cases b with
  | json data => cases data <;> rfl
  | host object => rfl

theorem isNull_eq_same (b : Value) : b.isNull = Value.null.same b := by
  cases b with
  | json data => cases data <;> rfl
  | host object => rfl

/-! ## Comparisons with and without an order -/

/-- Equality is that of the order or, without one, of the values. -/
theorem equal_eq (a b : Value) :
    equal a b = ((order? a b).map Ordering.isEq).getD (a.same b) := by
  have noOrder (c : Value) : order? (.json .null) c = none := order?_null c
  fun_cases equal a b with
  | case1 => rfl
  | case2 =>
    rw [order?_swap _ a]
    rfl
  | case3 =>
    rw [noOrder, isNull_eq_same]
    rfl
  | case4 =>
    rw [order?_swap (.json .null) a, noOrder, isNull_eq_same, same_comm]
    rfl
  | case5 | case6 =>
    cases order? a b with
    | none => rfl
    | some order => cases order <;> rfl

theorem compare_of_order?_eq_some (found : order? a b = some order) (comparison : Comparison) :
    compare comparison a b = .ok (comparison.accepts order) := by
  have equality : equal a b = order.isEq := by
    rw [equal_eq, found]
    rfl
  cases comparison <;> simp [compare, ordered, found, equality, Comparison.accepts]

theorem compare_of_order?_eq_none (missing : order? a b = none)
    (relational : comparison.IsRelational) :
    compare comparison a b = .error (.typeMismatch (.comparison a.kind b.kind)) := by
  cases comparison with
  | eq => exact absurd rfl relational.1
  | ne => exact absurd rfl relational.2
  | lt | le | gt | ge => simp [compare, ordered, missing]

theorem equal_comm (a b : Value) : equal a b = equal b a := by
  rw [equal_eq, equal_eq, order?_swap a b, same_comm a b]
  cases order? a b with
  | none => rfl
  | some order => cases order <;> rfl

theorem equal_of_same (same : a.same b = true) : equal a b = true := by
  rw [equal_eq]
  cases found : order? a b with
  | none => exact same
  | some order =>
    rw [order?_of_same same found]
    rfl

theorem equal_null_iff (b : Value) : equal .null b = true ↔ b = .null := by
  cases b with
  | json data => cases data <;> simp [equal, null, isNull, Json.isNull]
  | host object => simp [equal, null, same]

/-! ## Agreement -/

/-- A comparison holds of two values. -/
def Holds (comparison : Comparison) (a b : Value) : Prop :=
  compare comparison a b = .ok true

/-- The values have no order: every comparison that asks for one fails, either way round, and equality is
that of values. -/
structure Unordered (a b : Value) : Prop where
  fails : ∀ comparison, comparison.IsRelational →
    compare comparison a b = .error (.typeMismatch (.comparison a.kind b.kind)) ∧
      compare comparison b a = .error (.typeMismatch (.comparison b.kind a.kind))
  equality : Holds .eq a b ↔ a.same b = true

/-- The values have an order: every comparison answers, and the answers are those of one order. -/
structure Ordered (a b : Value) : Prop where
  /-- A comparison has an answer, and says the same of the operands the other way round. -/
  answers : ∀ comparison, ∃ answer,
    compare comparison a b = .ok answer ∧ compare comparison.swap b a = .ok answer
  /-- Exactly one of less, equal and greater holds. -/
  one : ∃! comparison, comparison ∈ [Comparison.lt, .eq, .gt] ∧ Holds comparison a b
  le_iff : Holds .le a b ↔ Holds .lt a b ∨ Holds .eq a b
  ge_iff : Holds .ge a b ↔ ¬Holds .lt a b

theorem unordered_of_order?_eq_none (missing : order? a b = none) : Unordered a b where
  fails comparison relational := by
    have exchanged : order? b a = none := by rw [order?_swap a b, missing, Option.map_none]
    exact ⟨compare_of_order?_eq_none missing relational,
      compare_of_order?_eq_none exchanged relational⟩
  equality := by
    have equality : equal a b = a.same b := by
      rw [equal_eq, missing]
      rfl
    simp [Holds, compare, equality]

theorem ordered_of_order?_eq_some (found : order? a b = some order) : Ordered a b := by
  have holds (comparison : Comparison) : Holds comparison a b ↔ comparison.accepts order = true := by
    simp [Holds, compare_of_order?_eq_some found]
  have exchanged : order? b a = some order.swap := by rw [order?_swap a b, found, Option.map_some]
  refine ⟨?_, ?_, ?_, ?_⟩
  · intro comparison
    refine ⟨_, compare_of_order?_eq_some found comparison, ?_⟩
    rw [compare_of_order?_eq_some exchanged, comparison.accepts_swap]
  · simp only [holds]
    exact Comparison.existsUnique_accepts order
  · simp only [holds]
    cases order <;> decide
  · simp only [holds]
    cases order <;> decide

/-- What the comparisons of two values have to do with one another. -/
structure Agree (a b : Value) : Prop where
  /-- The values have an order or they have none. -/
  cases : Unordered a b ↔ ¬Ordered a b
  /-- Equality has an answer, which is that of the operands exchanged. -/
  symmetric : ∃ answer, compare .eq a b = .ok answer ∧ compare .eq b a = .ok answer ∧
    compare .ne a b = .ok (!answer) ∧ compare .ne b a = .ok (!answer)
  reflexive : Holds .eq a a
  /-- Null is equal to null alone. -/
  null : Holds .eq .null b ↔ b = .null
  /-- Values that are the same are equal. -/
  same : a.same b = true → Holds .eq a b
  /-- The method of data answers as the comparison does, and calls nothing. -/
  equals : ∀ hosts data, a = .json data →
    a.callMethod hosts "equals" [b] = .ofExcept ((compare .eq a b).map Value.bool)
  /-- A template with a comparison comes to what it answers of the values of its operands. -/
  evaluation : ∀ scope left right comparison, (Expr.eval scope left).outcome = .ok a →
    (Expr.eval scope right).outcome = .ok b →
    ((Expr.binary (.test comparison) left right).eval scope).outcome =
      (compare comparison a b).map Value.bool

theorem not_ordered_of_unordered (unordered : Unordered a b) : ¬Ordered a b := by
  intro ordered
  obtain ⟨answer, answers, -⟩ := ordered.answers .lt
  have fails := (unordered.fails .lt (by simp [Comparison.IsRelational])).1
  rw [fails] at answers
  cases answers

theorem unordered_or_ordered (a b : Value) : Unordered a b ∨ Ordered a b := by
  cases found : order? a b with
  | none => exact Or.inl (unordered_of_order?_eq_none found)
  | some order => exact Or.inr (ordered_of_order?_eq_some found)

/-- The comparisons of any two values agree with one another. -/
theorem comparisons_agree (a b : Value) : Agree a b where
  cases := ⟨not_ordered_of_unordered, (unordered_or_ordered a b).resolve_right⟩
  symmetric := by
    refine ⟨equal a b, rfl, ?_, rfl, ?_⟩
    · rw [equal_comm a b]
      rfl
    · rw [equal_comm a b]
      rfl
  reflexive := congrArg Except.ok (equal_of_same a.same_refl)
  null := by
    rw [← equal_null_iff]
    simp [Holds, compare]
  same also := congrArg Except.ok (equal_of_same also)
  equals hosts data isData := by
    subst isData
    rfl
  evaluation scope left right comparison first second := by
    rw [Expr.eval, Run.outcome_bind first, Run.outcome_bind second]
    rfl

end Value

end Scriptlet
