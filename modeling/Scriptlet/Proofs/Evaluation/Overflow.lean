import Scriptlet.Proofs.Evaluation.Finite
import Scriptlet.Proofs.Evaluation.Integers

/-!
# When integer arithmetic overflows

An operation on two 64-bit integers overflows where its exact result does not fit, and with one exception
nowhere else (`overflows_exactly`). A remainder is given together with its quotient only. The least integer
divided by minus one is the one quotient that does not fit, so there the remainder overflows too, although
it is zero (`overflows_within_range`).

Quotient and remainder belong together: where the quotient is given, the dividend is put together again from
it and the remainder, without an overflow on the way (`outcome_reassembled`).
-/

set_option autoImplicit false

namespace Scriptlet

namespace Operation

/-- The operation is the remainder of the least integer by minus one. -/
def IsLeastRemainder (operation : Operation) (a b : Int64) : Prop :=
  operation = rem ∧ a.toInt = -2 ^ 63 ∧ b.toInt = -1

variable {operation : Operation} {a b : Int64} {n : Int}

theorem safe_of_result? (exactly : operation.result? a.toInt b.toInt = some n) :
    ¬(operation.IsDivision ∧ b.toInt = 0) := by
  rintro ⟨rfl | rfl, zero⟩ <;> simp [result?, zero] at exactly

/-- Some result that an operation asks for does not fit: its own or, in one case only, the quotient for a
remainder. -/
theorem overflows_iff (exactly : operation.result? a.toInt b.toInt = some n) :
    operation.Overflows a.toInt b.toInt ↔ ¬Fits n ∨ operation.IsLeastRemainder a b := by
  have safe := safe_of_result? exactly
  unfold Overflows IsLeastRemainder
  rw [exactly]
  refine or_congr (by simp) (and_congr_right ?_)
  intro isRem
  have divisor : b.toInt ≠ 0 := fun zero => safe ⟨Or.inr isRem, zero⟩
  rw [← not_fits_tdiv_iff (fits_toInt a) divisor]
  simp [result?, divisor]

/-- Where some result that it asks for does not fit, an operation overflows. -/
theorem onInts_of_overflows (safe : ¬(operation.IsDivision ∧ b.toInt = 0))
    (large : operation.Overflows a.toInt b.toInt) : operation.onInts a b = .error .overflow := by
  have missing : int64? (operation.bounded a.toInt b.toInt) = none ∨
      int64? (operation.exact a.toInt b.toInt) = none := by
    rcases large with ⟨result, own, outside⟩ | ⟨isRem, quotient, other, outside⟩
    · rw [result?_eq_exact safe] at own
      cases own
      exact Or.inr (int64?_eq_none_iff.mpr outside)
    · have safeQuotient : ¬(div.IsDivision ∧ b.toInt = 0) :=
        fun division => safe ⟨Or.inr isRem, division.2⟩
      rw [result?_eq_exact safeQuotient] at other
      cases other
      subst isRem
      exact Or.inl (int64?_eq_none_iff.mpr outside)
  rw [onInts, if_neg (mt divides_zero_iff.mp safe)]
  rcases missing with bound | own
  · rw [bound]
  · rw [own]
    cases int64? (operation.bounded a.toInt b.toInt) <;> rfl

end Operation

/-- The outcome is an overflow exactly if there is a reason for one, and otherwise the exact integer. -/
def ExactUnless (overflows : Prop) (exact : Int) (outcome : Except Fault Value) : Prop :=
  (overflows ∧ outcome = .error .overflow) ∨
    (¬overflows ∧ ∃ i : Int64, outcome = .ok (.int i) ∧ i.toInt = exact)

/-- It is an overflow only where there is a reason for one. -/
theorem ExactUnless.overflow_iff {overflows : Prop} {exact : Int} {outcome : Except Fault Value}
    (result : ExactUnless overflows exact outcome) :
    outcome = .error .overflow ↔ overflows := by
  rcases result with ⟨reason, failed⟩ | ⟨none_, i, done, -⟩
  · exact iff_of_true failed reason
  · simp [done, none_]

section

variable {operation : Operation} {a b : Int64} {n : Int}

theorem exactUnless_operate (exactly : operation.result? a.toInt b.toInt = some n) :
    ExactUnless (¬Fits n ∨ operation.IsLeastRemainder a b) n
      (Value.operate operation (.int a) (.int b)) := by
  have safe := Operation.safe_of_result? exactly
  unfold ExactUnless
  rw [← Operation.overflows_iff exactly, Expr.operate_int]
  by_cases large : operation.Overflows a.toInt b.toInt
  · rw [Operation.onInts_of_overflows safe large]
    exact Or.inl ⟨large, rfl⟩
  · rcases operation.onInts_cases a b with ⟨i, done, value⟩ | ⟨-, division⟩ | ⟨-, -, overflows⟩
    · rw [exactly] at value
      rw [done]
      exact Or.inr ⟨large, i, rfl, (Option.some.inj value).symm⟩
    · exact absurd division safe
    · exact absurd overflows large

theorem exactUnless_of_int64 (i : Int64) : ExactUnless (¬Fits i.toInt) i.toInt (.ok (.int i)) :=
  Or.inr ⟨not_not_intro (fits_toInt i), i, rfl, rfl⟩

theorem exactUnless_negate (a : Int64) :
    ExactUnless (¬Fits (-a.toInt)) (-a.toInt) (Value.negate (.int a)) := by
  rw [Expr.negate_int]
  cases fits : int64? (-a.toInt) with
  | none => exact Or.inl ⟨not_fits_of_int64? fits, rfl⟩
  | some opposite =>
    rw [← toInt_of_int64? fits]
    exact exactUnless_of_int64 opposite

theorem exactUnless_magnitude {q : Quantity} (same : q = .int a) :
    ExactUnless (¬Fits a.toInt.natAbs) a.toInt.natAbs (q.magnitude.map Value.ofQuantity) := by
  -- The quantity is a variable, so that its cases are those of the definition.
  fun_cases Quantity.magnitude q with
  | case1 i result fits =>
    cases same
    rw [← toInt_of_int64? fits]
    exact exactUnless_of_int64 result
  | case2 i missing =>
    cases same
    exact Or.inl ⟨not_fits_of_int64? missing, rfl⟩
  | case3 d => cases same

theorem exactUnless_abs (a : Int64) :
    ExactUnless (¬Fits a.toInt.natAbs) a.toInt.natAbs (mathOutcome "abs" [.int a]) := by
  have outcome : mathOutcome "abs" [.int a] = (Quantity.magnitude (.int a)).map Value.ofQuantity :=
    mathOutcome_ofNumber (f := Quantity.magnitude) rfl (.int a)
  rw [outcome]
  exact exactUnless_magnitude rfl

/-- Where nothing is in the way of it, an operation has its exact result. -/
theorem operate_of_fits (operation : Operation)
    (exactly : operation.result? a.toInt b.toInt = some n) (fits : Fits n)
    (plain : ¬operation.IsLeastRemainder a b) :
    ∃ i : Int64, Value.operate operation (.int a) (.int b) = .ok (.int i) ∧ i.toInt = n := by
  rcases exactUnless_operate exactly with ⟨large | least, -⟩ | ⟨-, result⟩
  · exact absurd fits large
  · exact absurd least plain
  · exact result

/-! ## Quotients and remainders -/

/-- A quotient that is given is that of a nonzero divisor, and not the one that does not fit. -/
theorem quotient_of_ok {value : Value} (given : Value.operate .div (.int a) (.int b) = .ok value) :
    b.toInt ≠ 0 ∧ ¬(a.toInt = -2 ^ 63 ∧ b.toInt = -1) ∧
      ∃ q : Int64, value = .int q ∧ q.toInt = a.toInt.tdiv b.toInt := by
  rw [Expr.operate_int] at given
  rcases Operation.div.onInts_cases a b with ⟨q, done, result⟩ | ⟨failed, -⟩ | ⟨failed, -⟩
  · have divisor : b.toInt ≠ 0 := fun zero => by simp [Operation.result?, zero] at result
    have quotient : a.toInt.tdiv b.toInt = q.toInt := by
      simpa [Operation.result?, divisor] using result
    rw [done] at given
    cases given
    refine ⟨divisor, ?_, q, rfl, quotient.symm⟩
    rw [← not_fits_tdiv_iff (fits_toInt a) divisor, quotient]
    exact not_not_intro (fits_toInt q)
  · rw [failed] at given
    cases given
  · rw [failed] at given
    cases given

theorem remainder_overflows_iff (a b : Int64) (divisor : b.toInt ≠ 0) :
    Value.operate .rem (.int a) (.int b) = .error .overflow ↔ a.toInt = -2 ^ 63 ∧ b.toInt = -1 := by
  have exactly : Operation.rem.result? a.toInt b.toInt = some (a.toInt.tmod b.toInt) := if_neg divisor
  have fits := fits_tmod (fits_toInt a) b.toInt
  rw [(exactUnless_operate exactly).overflow_iff]
  simp [fits, Operation.IsLeastRemainder]

theorem quotient_overflows_iff (a b : Int64) (divisor : b.toInt ≠ 0) :
    Value.operate .div (.int a) (.int b) = .error .overflow ↔ a.toInt = -2 ^ 63 ∧ b.toInt = -1 := by
  have exactly : Operation.div.result? a.toInt b.toInt = some (a.toInt.tdiv b.toInt) := if_neg divisor
  rw [(exactUnless_operate exactly).overflow_iff, not_fits_tdiv_iff (fits_toInt a) divisor]
  simp [Operation.IsLeastRemainder]

/-- Where there is a quotient, the dividend is put together again from it and the remainder. -/
theorem outcome_reassembled {scope : Scope} {left right : Expr} {value : Value}
    (dividend : (left.eval scope).outcome = .ok (.int a))
    (divisor : (right.eval scope).outcome = .ok (.int b))
    (given : ((Expr.binary (.arith .div) left right).eval scope).outcome = .ok value) :
    ((Expr.binary (.arith .add)
        (.binary (.arith .mul) (.binary (.arith .div) left right) right)
        (.binary (.arith .rem) left right)).eval scope).outcome = .ok (.int a) := by
  have quotientIs := given
  rw [Expr.outcome_operation .div dividend divisor] at quotientIs
  obtain ⟨nonzero, plain, q, rfl, quotient⟩ := quotient_of_ok quotientIs
  have parts : a.toInt.tdiv b.toInt * b.toInt + a.toInt.tmod b.toInt = a.toInt :=
    Int.tdiv_mul_add_tmod a.toInt b.toInt
  -- The product and the remainder are in range since they lie between zero and the dividend.
  obtain ⟨p, product, productIs⟩ := operate_of_fits (a := q) (b := b) .mul rfl
    (quotient ▸ fits_tdiv_mul (fits_toInt a) b.toInt) (by simp [Operation.IsLeastRemainder])
  obtain ⟨r, remainder, remainderIs⟩ := operate_of_fits (a := a) (b := b) .rem
    (if_neg nonzero) (fits_tmod (fits_toInt a) b.toInt) (fun least => plain least.2)
  have total : p.toInt + r.toInt = a.toInt := by rw [productIs, remainderIs, quotient, parts]
  obtain ⟨s, sum, sumIs⟩ := operate_of_fits (a := p) (b := r) .add rfl
    (total ▸ fits_toInt a) (by simp [Operation.IsLeastRemainder])
  have same : s = a := Int64.toInt_inj.mp (sumIs.trans total)
  rw [Expr.outcome_operation .add (y := .int r) (x := .int p) ?_ ?_, sum, same]
  · rw [Expr.outcome_operation .mul given divisor, product]
  · rw [Expr.outcome_operation .rem dividend divisor, remainder]

end

/-! ## Overflows -/

/-- Two integers overflow where an exact result does not fit, and otherwise in one case only. -/
structure OverflowsExactly (a b : Int64) : Prop where
  /-- An operation that has an exact result overflows if this does not fit, or if it is the remainder of
  the least integer by minus one. In all other cases it has this result. -/
  operation : ∀ operation n, Operation.result? operation a.toInt b.toInt = some n →
    ExactUnless (¬Fits n ∨ operation.IsLeastRemainder a b) n
      (Value.operate operation (.int a) (.int b))
  /-- There is an exact result, unless something is divided by zero. -/
  defined : ∀ operation : Operation,
    operation.result? a.toInt b.toInt = none ↔ operation.IsDivision ∧ b = 0
  /-- The opposite overflows if it does not fit. -/
  negation : ExactUnless (¬Fits (-a.toInt)) (-a.toInt) (Value.negate (.int a))
  /-- The magnitude overflows if it does not fit. -/
  magnitude : ExactUnless (¬Fits a.toInt.natAbs) a.toInt.natAbs (mathOutcome "abs" [.int a])
  /-- The remainder overflows exactly where the quotient does. -/
  remainder : b ≠ 0 →
    (Value.operate .rem (.int a) (.int b) = .error .overflow ↔
      Value.operate .div (.int a) (.int b) = .error .overflow)
  /-- Expressions for a quotient that is given and for its remainder give the dividend again. -/
  reassembled : ∀ scope left right value, (Expr.eval scope left).outcome = .ok (.int a) →
    (Expr.eval scope right).outcome = .ok (.int b) →
    ((Expr.binary (.arith .div) left right).eval scope).outcome = .ok value →
    ((Expr.binary (.arith .add)
        (.binary (.arith .mul) (.binary (.arith .div) left right) right)
        (.binary (.arith .rem) left right)).eval scope).outcome = .ok (.int a)

/-- An exact result that does not fit is the reason of every overflow, but that of one remainder. -/
theorem overflows_exactly (a b : Int64) : OverflowsExactly a b where
  operation _ _ exactly := exactUnless_operate exactly
  defined operation := by
    have zero_iff : b = 0 ↔ b.toInt = 0 := Int64.toInt_inj.symm
    rw [zero_iff]
    cases operation <;> simp [Operation.result?, Operation.IsDivision]
  negation := exactUnless_negate a
  magnitude := exactUnless_abs a
  remainder nonzero := by
    have divisor : b.toInt ≠ 0 := fun zero => nonzero (Int64.toInt_inj.mp zero)
    rw [remainder_overflows_iff a b divisor, quotient_overflows_iff a b divisor]
  reassembled _ _ _ _ dividend divisor given := outcome_reassembled dividend divisor given

/-- Not every exact result that fits is given: the least integer leaves no remainder by minus one, but to
ask for it overflows. -/
theorem overflows_within_range :
    ¬∀ (operation : Operation) (a b : Int64) (n : Int),
      operation.result? a.toInt b.toInt = some n →
        (Value.operate operation (.int a) (.int b) = .error .overflow ↔ ¬Fits n) := by
  intro only
  let least : Int64 := -9223372036854775808
  have overflows : Value.operate .rem (.int least) (.int (-1)) = .error .overflow :=
    (remainder_overflows_iff least (-1) (by decide)).mpr ⟨by decide, by decide⟩
  have zero : Operation.rem.result? least.toInt (-1 : Int64).toInt = some 0 := by decide
  exact (only .rem least (-1) 0 zero).mp overflows ⟨by decide, by decide⟩

end Scriptlet
