import Scriptlet.Proofs.Evaluation.Finite
import Scriptlet.Proofs.Evaluation.Outcomes
import Scriptlet.Proofs.Number.Extremes

/-!
# The members `max` and `min`

`@Math@max` and `@Math@min` make a lattice of the numbers, over the comparisons of the language itself
(`extremes_lattice`). They are commutative and associative to the bit: also where integers and doubles are
mixed, where a chain of choices may be one of integers first and of doubles then, and where zeros of both signs
take part. What is chosen is equal to one of the two numbers, which need not be one of them: between an integer
and a double it is a double.

`@Math@abs` is a choice as well, the greater of a number and its opposite. For the least integer there is none,
and both fail in the same way.
-/

set_option autoImplicit false

namespace Scriptlet

/-- References to the class `Math` reach the members that are built in, whatever else is registered. -/
def Scope.HasMath (scope : Scope) : Prop :=
  ∀ name, scope.statics.member? "Math" name = Statics.builtins.member? "Math" name

variable {scope : Scope}

/-- A reference to a member of `Math` comes to what the member answers. -/
theorem Expr.outcome_math (math : scope.HasMath) (name : String) {arguments : List Expr} {values : List Value}
    (evaluated : (Expr.evalEach scope arguments).outcome = .ok values) :
    ((Expr.static "Math" name arguments).eval scope).outcome = mathOutcome name values := by
  rw [Statics.eval_static evaluated, mathOutcome, Statics.call, Statics.call, math name]

namespace Extreme

/-- A template that calls the member with two numbers comes to the number, wherever it has them from. -/
def Answers (extreme : Extreme) (a b result : Number) : Prop :=
  ∀ scope left right, Scope.HasMath scope →
    (Expr.eval scope left).outcome = .ok (.json (.number a)) →
    (Expr.eval scope right).outcome = .ok (.json (.number b)) →
    ((Expr.static "Math" extreme.name [left, right]).eval scope).outcome = .ok (.json (.number result))

theorem mathOutcome_name (extreme : Extreme) (a b : Number) :
    mathOutcome extreme.name [.json (.number a), .json (.number b)] =
      .ok (.json (.number (extreme.pick a b))) := by
  cases extreme with
  | greatest => exact mathOutcome_ofNumbers (f := fun a b => .ok (.pick Ordering.isGE a b)) rfl a b
  | least => exact mathOutcome_ofNumbers (f := fun a b => .ok (.pick Ordering.isLE a b)) rfl a b

theorem answers_pick (extreme : Extreme) (a b : Number) : extreme.Answers a b (extreme.pick a b) := by
  intro scope left right math first second
  have last : (Expr.evalEach scope [right]).outcome = _ := Expr.outcome_evalEach_cons second rfl
  rw [Expr.outcome_math math extreme.name (Expr.outcome_evalEach_cons first last), mathOutcome_name]

end Extreme

/-! ## Magnitudes -/

/-- The number with the opposite sign is the opposite of the quantity. -/
theorem Value.negate_number (a : Number) :
    Value.negate (.json (.number a)) = a.quantity.negate.map Value.ofQuantity := by
  show (a.quantity.negate >>= fun result => .ok (Value.ofQuantity result) : Except Fault Value) = _
  cases a.quantity.negate <;> rfl

theorem mathOutcome_abs (a : Number) : mathOutcome "abs" [.json (.number a)] =
    a.quantity.negate.map fun opposite => .json (.number (Extreme.greatest.pick a opposite.toNumber)) := by
  have back (q : Quantity) : q.toNumber.quantity = q := by cases q <;> rfl
  rw [mathOutcome_ofNumber (f := Quantity.magnitude) rfl, Quantity.magnitude_eq_pick]
  cases a.quantity.negate with
  | error fault => rfl
  | ok opposite =>
    simp only [Except.map, Extreme.pick, back]
    rfl

/-- The magnitude of a number is the greater of it and its opposite, and fails where there is no opposite. -/
theorem Expr.outcome_abs (math : scope.HasMath) {operand : Expr} {a : Number}
    (evaluated : (operand.eval scope).outcome = .ok (.json (.number a))) :
    ((Expr.static "Math" "abs" [operand]).eval scope).outcome =
      ((Expr.static "Math" "max" [operand, .neg operand]).eval scope).outcome := by
  have alone : (evalEach scope [operand]).outcome = _ := outcome_evalEach_cons evaluated rfl
  have opposite := outcome_neg evaluated
  rw [outcome_math math "abs" alone, mathOutcome_abs]
  rw [Value.negate_number] at opposite
  cases negated : a.quantity.negate with
  | error fault =>
    rw [negated] at opposite
    rw [outcome_static_of_error "Math" "max" (outcome_evalEach_second evaluated opposite)]
    rfl
  | ok q =>
    rw [negated] at opposite
    exact (Extreme.greatest.answers_pick a q.toNumber scope operand (.neg operand) math evaluated
      opposite).symm

/-! ## The lattice -/

/-- What holds of the greater and the lesser of three numbers. -/
structure Extreme.Lattice (a b c : Number) : Prop where
  /-- There is always a greater and a lesser number. -/
  answers : ∀ extreme : Extreme, extreme.Answers a b (extreme.pick a b)
  comm : ∀ extreme : Extreme, extreme.pick a b = extreme.pick b a
  assoc : ∀ extreme : Extreme,
    extreme.pick (extreme.pick a b) c = extreme.pick a (extreme.pick b c)
  /-- The greater number is at least as great as both, the lesser at most. -/
  bounds : ∀ extreme : Extreme,
    Number.Compares extreme.comparison (extreme.pick a b) a true ∧
      Number.Compares extreme.comparison (extreme.pick a b) b true
  /-- It is equal to one of them. -/
  chosen : ∀ extreme : Extreme,
    Number.Compares .eq (extreme.pick a b) a true ∨ Number.Compares .eq (extreme.pick a b) b true
  /-- The lesser of a number and what is at least as great is equal to the number, and dually. -/
  absorbs : ∀ extreme : Extreme,
    Number.Compares .eq (extreme.dual.pick a (extreme.pick a b)) a true
  /-- Between two integers it is an integer. -/
  integer : ∀ extreme : Extreme, (extreme.pick a b).IsInt ↔ a.IsInt ∧ b.IsInt
  /-- In all other cases it is a double. -/
  double : ∀ extreme : Extreme, (extreme.pick a b).IsDouble ↔ ¬(a.IsInt ∧ b.IsInt)
  /-- The magnitude is the greater of a number and its opposite, also where there is no opposite. -/
  magnitude : ∀ scope operand, Scope.HasMath scope →
    (Expr.eval scope operand).outcome = .ok (.json (.number a)) →
    ((Expr.static "Math" "abs" [operand]).eval scope).outcome =
      ((Expr.static "Math" "max" [operand, .neg operand]).eval scope).outcome

/-- `max` and `min` make a lattice of the numbers, whose laws hold to the bit or for `==`. -/
theorem extremes_lattice (a b c : Number) : Extreme.Lattice a b c where
  answers extreme := extreme.answers_pick a b
  comm extreme := extreme.pick_comm a b
  assoc extreme := extreme.pick_assoc a b c
  bounds extreme := ⟨extreme.compares_pick_left a b, extreme.compares_pick_right a b⟩
  chosen extreme := extreme.compares_pick_or a b
  absorbs extreme := extreme.compares_dual_pick a b
  integer _ := Extreme.isInt_pick_iff
  double _ := Extreme.isDouble_pick_iff
  magnitude _ _ math evaluated := Expr.outcome_abs math evaluated

end Scriptlet
