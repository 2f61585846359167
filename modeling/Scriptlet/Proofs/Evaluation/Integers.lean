import Scriptlet.Proofs.Evaluation.Outcomes
import Scriptlet.Proofs.Expr.Nodes
import Scriptlet.Proofs.Number.Range

/-!
# Integer arithmetic never wraps

An expression put together from 64-bit integers by the five operations and the minus sign comes to its
exact value or fails (`exact_or_fails`). The exact value is calculated in the integers of any size
(`Expr.unbounded?`), so no result on the way is cut down, and none becomes a double.

Operands are evaluated from the left and before the node that they belong to. The fault of the
evaluation is that of the first node in this order that fails (`firstFailure?`): a division by zero if
the right operand of this node is zero, and otherwise an overflow, for which there is a reason. The
result of the node does not fit, or the node is a remainder and the quotient to it does not fit.
-/

set_option autoImplicit false

namespace Scriptlet

namespace Operation

/-- The result in the integers: a quotient is truncated toward zero and a remainder takes the sign of
the dividend, and there is neither by zero. -/
def result? : Operation → Int → Int → Option Int
  | add, m, n => some (m + n)
  | sub, m, n => some (m - n)
  | mul, m, n => some (m * n)
  | div, m, n => if n = 0 then none else some (m.tdiv n)
  | rem, m, n => if n = 0 then none else some (m.tmod n)

/-- Some result that the operation asks for does not fit: its own or, if it is a remainder, that of
the division. -/
def Overflows (operation : Operation) (m n : Int) : Prop :=
  (∃ result, operation.result? m n = some result ∧ ¬Fits result) ∨
    operation = rem ∧ ∃ quotient, div.result? m n = some quotient ∧ ¬Fits quotient

/-- The operation divides. -/
def IsDivision (operation : Operation) : Prop :=
  operation = div ∨ operation = rem

theorem divides_iff {operation : Operation} : operation.divides = true ↔ operation.IsDivision := by
  cases operation <;> simp [divides, IsDivision]

theorem divides_zero_iff {operation : Operation} {n : Int} :
    (operation.divides && decide (n = 0)) = true ↔ operation.IsDivision ∧ n = 0 := by
  rw [Bool.and_eq_true, decide_eq_true_eq, divides_iff]

/-- Unless it divides by zero, an operation has its exact result. -/
theorem result?_eq_exact {operation : Operation} {m n : Int}
    (safe : ¬(operation.IsDivision ∧ n = 0)) :
    operation.result? m n = some (operation.exact m n) := by
  cases operation with
  | add | sub | mul => rfl
  | div | rem =>
    have divisor : n ≠ 0 := fun zero => safe ⟨by simp [IsDivision], zero⟩
    exact if_neg divisor

/-- What has to fit is the exact result, or the quotient for a remainder. -/
theorem overflows_of_int64? {operation : Operation} {m n : Int}
    (safe : ¬(operation.IsDivision ∧ n = 0))
    (large : int64? (operation.bounded m n) = none ∨ int64? (operation.exact m n) = none) :
    operation.Overflows m n := by
  have own : int64? (operation.exact m n) = none → operation.Overflows m n :=
    fun missing => Or.inl ⟨_, result?_eq_exact safe, not_fits_of_int64? missing⟩
  rcases large with quotient | result
  · cases operation with
    | rem =>
      have divisor : n ≠ 0 := fun zero => safe ⟨Or.inr rfl, zero⟩
      exact Or.inr ⟨rfl, _, if_neg divisor, not_fits_of_int64? quotient⟩
    | _ => exact own quotient
  · exact own result

/-- An operation on 64-bit integers has its exact result, divides by zero or overflows. -/
theorem onInts_cases (operation : Operation) (a b : Int64) :
    (∃ result : Int64, operation.onInts a b = .ok (.int result) ∧
      operation.result? a.toInt b.toInt = some result.toInt) ∨
    (operation.onInts a b = .error .divisionByZero ∧ operation.IsDivision ∧ b.toInt = 0) ∨
    (operation.onInts a b = .error .overflow ∧ ¬(operation.IsDivision ∧ b.toInt = 0) ∧
      operation.Overflows a.toInt b.toInt) := by
  unfold onInts
  by_cases zero : operation.IsDivision ∧ b.toInt = 0
  · rw [if_pos (divides_zero_iff.mpr zero)]
    exact Or.inr (Or.inl ⟨rfl, zero⟩)
  · rw [if_neg (mt divides_zero_iff.mp zero)]
    cases bound : int64? (operation.bounded a.toInt b.toInt) with
    | none => exact Or.inr (Or.inr ⟨rfl, zero, overflows_of_int64? zero (Or.inl bound)⟩)
    | some _ =>
      cases fits : int64? (operation.exact a.toInt b.toInt) with
      | none => exact Or.inr (Or.inr ⟨rfl, zero, overflows_of_int64? zero (Or.inr fits)⟩)
      | some result =>
        refine Or.inl ⟨result, rfl, ?_⟩
        rw [result?_eq_exact zero, toInt_of_int64? fits]

end Operation

namespace Expr

/-! ## Expressions of integers -/

/-- The expression is put together from 64-bit integers, and variables that are bound to such, by the
operations and the minus sign. -/
inductive IsInteger (bindings : Bindings) : Expr → Prop where
  | literal (i : Int64) : IsInteger bindings (.literal (.ofInt64 i))
  | var {name : String} {i : Int64} (bound : bindings.find? name = some (.int i)) :
      IsInteger bindings (.var name)
  | neg {operand : Expr} (inside : IsInteger bindings operand) : IsInteger bindings (.neg operand)
  | operation (operation : Operation) {left right : Expr} (first : IsInteger bindings left)
      (second : IsInteger bindings right) :
      IsInteger bindings (.binary (.arith operation) left right)

/-- The value of such an expression in the integers of any size, unless it divides by zero. -/
def unbounded? (bindings : Bindings) : Expr → Option Int
  | .literal (.number (.int i)) => some i.toInt
  | .var name =>
    match bindings.find? name with
    | some (.json (.number (.int i))) => some i.toInt
    | _ => none
  | .neg operand => (operand.unbounded? bindings).map fun n => -n
  | .binary (.arith operation) left right =>
    (left.unbounded? bindings).bind fun m =>
      (right.unbounded? bindings).bind fun n => operation.result? m n
  | _ => none

/-- The node divides, and its right operand is zero. -/
def DividesByZero (scope : Scope) (node : Expr) : Prop :=
  ∃ operation left right, node = .binary (.arith operation) left right ∧
    operation.IsDivision ∧ (right.eval scope).outcome = .ok (.int 0)

/-- Some result that the node asks for does not fit: its exact value or, if it is a remainder, the
quotient of its operands. -/
def Overflows (bindings : Bindings) (node : Expr) : Prop :=
  (∃ n, node.unbounded? bindings = some n ∧ ¬Fits n) ∨
    ∃ left right n, node = .binary (.arith .rem) left right ∧
      (binary (.arith .div) left right).unbounded? bindings = some n ∧ ¬Fits n

/-! ## The first failure -/

/-- Whether an expression fails. -/
def fails (scope : Scope) (tree : Expr) : Bool :=
  !(tree.eval scope).outcome.isOk

/-- The first subtree that fails, in the order in which evaluations end. -/
def firstFailure? (scope : Scope) (tree : Expr) : Option Expr :=
  tree.nodes.find? (fails scope)

variable {scope : Scope} {tree : Expr}

theorem fails_of_ok {value : Value} (outcome : (tree.eval scope).outcome = .ok value) :
    tree.fails scope = false := by
  rw [fails, outcome]
  rfl

theorem fails_of_error {fault : Fault} (outcome : (tree.eval scope).outcome = .error fault) :
    tree.fails scope = true := by
  rw [fails, outcome]
  rfl

theorem firstFailure?_neg (scope : Scope) (operand : Expr) :
    (neg operand).firstFailure? scope =
      (operand.firstFailure? scope).or
        (if (neg operand).fails scope then some (neg operand) else none) := by
  simp only [firstFailure?, nodes, List.find?_append, List.find?_singleton]

theorem firstFailure?_binary (scope : Scope) (operator : Operator) (left right : Expr) :
    (binary operator left right).firstFailure? scope =
      ((left.firstFailure? scope).or (right.firstFailure? scope)).or
        (if (binary operator left right).fails scope then some (binary operator left right)
          else none) := by
  simp only [firstFailure?, nodes, List.find?_append, List.find?_singleton, Option.or_assoc]

/-! ## Evaluation -/

/-- What comes of an expression of integers. -/
inductive Settled (scope : Scope) (tree : Expr) : Prop where
  | exact (i : Int64) (outcome : (tree.eval scope).outcome = .ok (.int i))
      (value : tree.unbounded? scope.bindings = some i.toInt)
      (smooth : tree.firstFailure? scope = none)
  | division (node : Expr) (outcome : (tree.eval scope).outcome = .error .divisionByZero)
      (first : tree.firstFailure? scope = some node) (zero : node.DividesByZero scope)
  | overflow (node : Expr) (outcome : (tree.eval scope).outcome = .error .overflow)
      (first : tree.firstFailure? scope = some node) (plain : ¬node.DividesByZero scope)
      (large : node.Overflows scope.bindings)

/-- A 64-bit integer has its opposite or overflows. -/
theorem negate_int (i : Int64) :
    (Value.int i).negate =
      match int64? (-i.toInt) with
      | some opposite => .ok (.int opposite)
      | none => .error .overflow := by
  show (Quantity.negate (.int i) >>= fun q => .ok (Value.ofQuantity q)) = _
  rw [Quantity.negate]
  cases int64? (-i.toInt) <;> rfl

/-- An operation on values that are 64-bit integers is the operation on these. -/
theorem operate_int (operation : Operation) (a b : Int64) :
    Value.operate operation (.int a) (.int b) = (operation.onInts a b).map Value.ofQuantity := by
  have noText : Value.operate operation (.int a) (.int b) =
      Value.calculate operation (.int a) (.int b) := by
    rw [Value.operate, if_neg (by simp [Value.int, Json.ofInt64, Value.text?])]
  rw [noText]
  show (operation.onInts a b >>= fun q => .ok (Value.ofQuantity q)) = _
  cases operation.onInts a b <;> rfl

theorem settled_leaf {i : Int64} (outcome : (tree.eval scope).outcome = .ok (.int i))
    (value : tree.unbounded? scope.bindings = some i.toInt) (single : tree.nodes = [tree]) :
    tree.Settled scope := by
  refine .exact i outcome value ?_
  rw [firstFailure?, single, List.find?_singleton, fails_of_ok outcome]
  rfl

/-- An operand is exact, or its node fails as it does. -/
theorem Settled.exact_or {operand : Expr} (tree : Expr) (inside : operand.Settled scope)
    (failed : ∀ fault, (operand.eval scope).outcome = .error fault →
      (tree.eval scope).outcome = .error fault)
    (first : ∀ node, operand.firstFailure? scope = some node →
      tree.firstFailure? scope = some node) :
    (∃ i : Int64, (operand.eval scope).outcome = .ok (.int i) ∧
      operand.unbounded? scope.bindings = some i.toInt ∧ operand.firstFailure? scope = none) ∨
    tree.Settled scope := by
  cases inside with
  | exact i outcome value smooth => exact Or.inl ⟨i, outcome, value, smooth⟩
  | division node outcome found zero =>
    exact Or.inr (.division node (failed _ outcome) (first node found) zero)
  | overflow node outcome found plain large =>
    exact Or.inr (.overflow node (failed _ outcome) (first node found) plain large)

theorem settled_neg {operand : Expr} (inside : operand.Settled scope) :
    (neg operand).Settled scope := by
  have operandFirst := inside.exact_or (neg operand)
    (fun _ => outcome_neg_of_error)
    (fun node found => by rw [firstFailure?_neg, found, Option.some_or])
  rcases operandFirst with ⟨i, outcome, value, smooth⟩ | settled
  · have result := outcome_neg outcome
    rw [negate_int] at result
    have exactly : (neg operand).unbounded? scope.bindings = some (-i.toInt) := by
      rw [unbounded?, value]
      rfl
    cases found : int64? (-i.toInt) with
    | some opposite =>
      rw [found] at result
      refine .exact opposite result ?_ ?_
      · rw [exactly, toInt_of_int64? found]
      · rw [firstFailure?_neg, smooth, fails_of_ok result]
        rfl
    | none =>
      rw [found] at result
      refine .overflow (neg operand) result ?_ ?_ (Or.inl ⟨_, exactly, not_fits_of_int64? found⟩)
      · rw [firstFailure?_neg, smooth, fails_of_error result]
        rfl
      · rintro ⟨_, _, _, same, -⟩
        cases same
  · exact settled

/-- Operands that come to integers leave it to the operation what comes of the node. -/
theorem settled_operation_of_exact {operation : Operation} {left right node : Expr} {a b : Int64}
    (same : node = .binary (.arith operation) left right)
    (outcomeLeft : (left.eval scope).outcome = .ok (.int a))
    (outcomeRight : (right.eval scope).outcome = .ok (.int b))
    (valueLeft : left.unbounded? scope.bindings = some a.toInt)
    (valueRight : right.unbounded? scope.bindings = some b.toInt)
    (smooth : (left.firstFailure? scope).or (right.firstFailure? scope) = none) :
    node.Settled scope := by
  have result : (node.eval scope).outcome = (operation.onInts a b).map Value.ofQuantity := by
    rw [same, outcome_operation operation outcomeLeft outcomeRight, operate_int]
  have exactly (other : Operation) : (binary (.arith other) left right).unbounded? scope.bindings =
      other.result? a.toInt b.toInt := by
    rw [unbounded?, valueLeft, Option.bind_some, valueRight, Option.bind_some]
  have first : node.firstFailure? scope = if node.fails scope then some node else none := by
    rw [same, firstFailure?_binary, smooth, Option.none_or]
  rcases operation.onInts_cases a b with
    ⟨i, done, value⟩ | ⟨done, divides, zero⟩ | ⟨done, safe, large⟩ <;> rw [done] at result
  · rw [fails_of_ok result] at first
    refine .exact i result ?_ first
    rw [same, exactly, value]
  · rw [fails_of_error result] at first
    have none_ : b = 0 := Int64.toInt_inj.mp zero
    refine .division node result first ⟨operation, left, right, same, divides, ?_⟩
    rw [outcomeRight, none_]
  · rw [fails_of_error result] at first
    refine .overflow node result first ?_ ?_
    · rintro ⟨_, _, _, also, divides, zero⟩
      cases same.symm.trans also
      rw [outcomeRight] at zero
      cases zero
      exact safe ⟨divides, rfl⟩
    · rcases large with ⟨n, own, outside⟩ | ⟨rfl, n, quotient, outside⟩
      · refine Or.inl ⟨n, ?_, outside⟩
        rw [same, exactly, own]
      · exact Or.inr ⟨left, right, n, same, (exactly .div).trans quotient, outside⟩

theorem settled_operation (operation : Operation) {left right : Expr}
    (first : left.Settled scope) (second : right.Settled scope) :
    (binary (.arith operation) left right).Settled scope := by
  have leftFirst := first.exact_or (binary (.arith operation) left right)
    (fun _ => outcome_operation_of_left operation)
    (fun node found => by rw [firstFailure?_binary, found, Option.some_or, Option.some_or])
  rcases leftFirst with ⟨a, outcomeLeft, valueLeft, smoothLeft⟩ | settled
  · have rightNext := second.exact_or (binary (.arith operation) left right)
      (fun _ => outcome_operation_of_right operation outcomeLeft)
      (fun node found => by
        rw [firstFailure?_binary, smoothLeft, found, Option.none_or, Option.some_or])
    rcases rightNext with ⟨b, outcomeRight, valueRight, smoothRight⟩ | settled
    · refine settled_operation_of_exact rfl outcomeLeft outcomeRight valueLeft valueRight ?_
      rw [smoothLeft, smoothRight, Option.or_none]
    · exact settled
  · exact settled

theorem settled_of_isInteger (integer : tree.IsInteger scope.bindings) : tree.Settled scope := by
  induction integer with
  | literal i => exact settled_leaf (i := i) rfl rfl rfl
  | @var name i bound =>
    refine settled_leaf (i := i) ?_ ?_ rfl
    · rw [eval, Scope.lookup, bound]
      rfl
    · rw [unbounded?, bound]
      rfl
  | neg _ ih => exact settled_neg ih
  | operation operation _ _ first second => exact settled_operation operation first second

/-! ## What integer arithmetic comes to -/

/-- The evaluation comes to the exact value, or fails where and as the exact values say. -/
structure ExactOrFails (scope : Scope) (tree : Expr) : Prop where
  /-- A value is an integer, the exact one. -/
  value : ∀ value, (tree.eval scope).outcome = .ok value →
    ∃ (n : Int) (i : Int64), tree.unbounded? scope.bindings = some n ∧ Fits n ∧
      value = .int i ∧ i.toInt = n
  /-- A fault is an overflow or a division by zero. -/
  fault : ∀ fault, (tree.eval scope).outcome = .error fault →
    fault = .overflow ∨ fault = .divisionByZero
  /-- It is a division by zero exactly if the first node that fails divides by zero. -/
  division_iff : (tree.eval scope).outcome = .error .divisionByZero ↔
    ∃ node, tree.firstFailure? scope = some node ∧ node.DividesByZero scope
  /-- If it is an overflow, the first node that fails asks for a result that does not fit. -/
  overflow : (tree.eval scope).outcome = .error .overflow →
    ∃ node, tree.firstFailure? scope = some node ∧ node.Overflows scope.bindings

/-- Integer arithmetic never wraps: an expression of integers comes to its exact value, or fails where that
or a result on the way does not fit or is not defined. -/
theorem exact_or_fails (integer : tree.IsInteger scope.bindings) : ExactOrFails scope tree := by
  cases settled_of_isInteger integer with
  | exact i outcome value smooth =>
    constructor
    · intro result done
      rw [outcome] at done
      cases done
      exact ⟨_, i, value, fits_toInt i, rfl, rfl⟩
    · intro fault failed
      rw [outcome] at failed
      cases failed
    · rw [outcome, smooth]
      exact ⟨nofun, nofun⟩
    · rw [outcome]
      exact nofun
  | division node outcome first zero =>
    constructor
    · rw [outcome]
      exact nofun
    · rw [outcome]
      rintro fault ⟨⟩
      exact Or.inr rfl
    · exact ⟨fun _ => ⟨node, first, zero⟩, fun _ => outcome⟩
    · rw [outcome]
      exact nofun
  | overflow node outcome first plain large =>
    constructor
    · rw [outcome]
      exact nofun
    · rw [outcome]
      rintro fault ⟨⟩
      exact Or.inl rfl
    · rw [outcome, first]
      refine ⟨nofun, ?_⟩
      rintro ⟨_, ⟨⟩, zero⟩
      exact absurd zero plain
    · exact fun _ => ⟨node, first, large⟩

/-- In `x - 7 / (x - x)` with the least integer for `x`, the quotient is the first node that fails. -/
theorem exact_or_fails_quotient :
    let scope : Scope := ⟨[("x", .int (-9223372036854775808))], [], .none⟩
    let difference : Expr := .binary (.arith .sub) (.var "x") (.var "x")
    let quotient : Expr := .binary (.arith .div) (.literal (.ofInt64 7)) difference
    let tree : Expr := .binary (.arith .sub) (.var "x") quotient
    tree.IsInteger scope.bindings ∧ tree.firstFailure? scope = some quotient ∧
      (tree.eval scope).outcome = .error .divisionByZero := by
  intro scope difference quotient tree
  have x : (Expr.var "x").IsInteger scope.bindings := .var rfl
  have integer : tree.IsInteger scope.bindings :=
    .operation .sub x (.operation .div (.literal 7) (.operation .sub x x))
  have first : tree.firstFailure? scope = some quotient := by with_unfolding_all rfl
  refine ⟨integer, first, (exact_or_fails integer).division_iff.mpr ⟨quotient, first, ?_⟩⟩
  exact ⟨.div, .literal (.ofInt64 7), difference, rfl, Or.inl rfl, by with_unfolding_all rfl⟩

end Expr

end Scriptlet
