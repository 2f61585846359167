import Scriptlet.Proofs.Double.Encoding
import Scriptlet.Proofs.Double.Overflow
import Scriptlet.Proofs.Engine.Inlining
import Scriptlet.Proofs.Statics.Math
import Scriptlet.Proofs.Template.Numerals

/-!
# Numbers stay finite

A template has no infinite number and none that is undefined (`numbers_finite`). A double is a sign and a
magnitude in units, and there are no others: each is encoded as a finite number. So what has to be shown is
that whoever makes a double gives an answer where there is none to give. Numerals are numbers of the tree,
never something else. Operations and members of `Math` fail with `nonFinite` exactly where the exact result
is missing or rounded to infinity; the exact results are those of `Scriptlet.Proofs.Double.Overflow`.

A division by zero has no double either, but a fault of its own (`zero_divisor`).
-/

set_option autoImplicit false

namespace Scriptlet

/-! ## Numbers at any depth -/

/-- The number is an integer, or a double whose encoding is that of a finite number. -/
def Number.Finite : Number → Prop
  | double d => Double.exponentField d.toBits ≠ 2047
  | int _ | wide _ _ => True

namespace Json

mutual

/-- The numbers in data, at any depth. -/
def numbers : Json → List Number
  | .number value => [value]
  | .array items => numbersEach items
  | .object members => numbersOfMembers members
  | .null | .bool _ | .string _ => []

/-- The numbers in the items of an array. -/
def numbersEach : List Json → List Number
  | [] => []
  | item :: rest => item.numbers ++ numbersEach rest

/-- The numbers in the members of an object. -/
def numbersOfMembers : List (String × Json) → List Number
  | [] => []
  | (_, item) :: rest => item.numbers ++ numbersOfMembers rest

end

end Json

/-- The numbers in a value, at any depth. -/
def Value.numbers : Value → List Number
  | json data => data.numbers
  | host _ => []

/-- What a step hands out besides the object that it calls. -/
def Step.arguments : Step → List Value
  | method _ _ arguments _ | static _ _ arguments _ => arguments
  | staticReference _ _ | property _ _ _ => []

theorem Number.finite (number : Number) : number.Finite := by
  cases number with
  | double d => exact d.exponentField_toBits_ne
  | _ => trivial

/-! ## Results -/

/-- The number as the arithmetic of doubles sees it. -/
def Number.asDouble (number : Number) : Double :=
  number.quantity.toDouble

/-- The exact result on rational numbers. -/
def Operation.onRationals (operation : Operation) (x y : ℚ) : ℚ :=
  match operation with
  | add => x + y
  | sub => x - y
  | mul => x * y
  | div => x / y
  | rem => Double.remainder x y

/-- Not both numbers are integers of 64 bits, so an operation on them is one on doubles. -/
def Mixed (a b : Number) : Prop :=
  ∀ i j, ¬(a = .int i ∧ b = .int j)

/-- The outcome is a double, and `nonFinite` exactly if there is none. -/
def DoubleUnless (missing : Prop) (outcome : Except Fault Value) : Prop :=
  (missing ∧ outcome = .error .nonFinite) ∨ (¬missing ∧ ∃ d, outcome = .ok (.double d))

/-- What a member of the class `Math` answers. -/
def mathOutcome (name : String) (arguments : List Value) : Except Fault Value :=
  (Statics.builtins.call "Math" name arguments).outcome

/-- No number is infinite or undefined, wherever it comes from. -/
structure NumbersFinite : Prop where
  /-- Every number in the value of a template, or in an argument of a call on the way to it, is finite. -/
  evaluation : ∀ evaluator template given, ∀ value,
    (Evaluator.run evaluator template given).outcome = .ok value ∨
      (∃ step ∈ (Evaluator.run evaluator template given).steps, value ∈ step.arguments) →
    ∀ number ∈ value.numbers, number.Finite
  /-- The numerals of a template that is read are its number literals. -/
  numerals : ∀ template tree, Template.parse template = .ok tree →
    ∃ tokens, Template.tokens template.toList = some tokens ∧
      Template.numeralsOf tokens = tree.nodes.filterMap Expr.numeral?
  /-- An operation on doubles fails with `nonFinite` where its exact result overflows. -/
  operation : ∀ operation a b, Mixed a b →
    (operation.divides = true → b.asDouble.value ≠ 0) →
    DoubleUnless (Double.Overflows (operation.onRationals a.asDouble.value b.asDouble.value))
      (Value.operate operation (.json (.number a)) (.json (.number b)))
  /-- A division by zero has a fault of its own, which comes first. -/
  zeroDivisor : ∀ operation a b, Mixed a b → operation.divides = true → b.asDouble.value = 0 →
    Value.operate operation (.json (.number a)) (.json (.number b)) = .error .divisionByZero
  /-- The opposite of a double is one. -/
  negation : ∀ d, Value.negate (.double d) = .ok (.double d.neg) ∧ d.neg.value = -d.value
  /-- A number below zero has no square root, and every other one has. -/
  sqrt : ∀ a : Number, DoubleUnless (a.asDouble.value < 0) (mathOutcome "sqrt" [.json (.number a)])
  /-- A power is that of the machine, unless this is infinite or undefined. -/
  pow : ∀ a b : Number, DoubleUnless
    (Double.exponentField (Float.pow (Float.ofBits a.asDouble.toBits)
      (Float.ofBits b.asDouble.toBits)).toBits = 2047)
    (mathOutcome "pow" [.json (.number a), .json (.number b)])
  /-- Every number has a whole double below and above it. -/
  whole : ∀ name ∈ ["floor", "ceil"], ∀ a : Number,
    DoubleUnless False (mathOutcome name [.json (.number a)])
  /-- The magnitude of a double is one. -/
  abs : ∀ d : Double, mathOutcome "abs" [.double d] = .ok (.double d.abs)
  /-- Of two numbers the greater and the lesser is a number. -/
  extreme : ∀ name ∈ ["max", "min"], ∀ a b : Number,
    ∃ number, mathOutcome name [.json (.number a), .json (.number b)] = .ok (.json (.number number))
  /-- The constants are doubles. -/
  constant : ∀ name ∈ ["PI", "E"], DoubleUnless False (mathOutcome name [])

variable {a b : Number} {operation : Operation} {missing : Prop}

/-! ## Operations -/

theorem onDoubles?_eq_none_iff {x y : Double} (some_ : operation.divides = true → y.value ≠ 0) :
    operation.onDoubles? x y = none ↔
      Double.Overflows (operation.onRationals x.value y.value) := by
  cases operation with
  | add => exact Double.add?_eq_none_iff
  | sub => exact Double.sub?_eq_none_iff
  | mul => exact Double.mul?_eq_none_iff
  | div => exact Double.div?_eq_none_iff (some_ rfl)
  | rem =>
    exact iff_of_false (Double.rem?_ne_none (some_ rfl))
      (Double.not_overflows_remainder x.value (some_ rfl))

/-- A double that is there is answered, and `nonFinite` where there is none. -/
theorem doubleUnless_ofDouble? {result : Option Double} (none_iff : result = none ↔ missing) :
    DoubleUnless missing ((Quantity.ofDouble? result).map Value.ofQuantity) := by
  cases result with
  | none => exact Or.inl ⟨none_iff.mp rfl, rfl⟩
  | some d => exact Or.inr ⟨(fun lost => nomatch none_iff.mpr lost), d, rfl⟩

theorem apply_of_mixed (mixed : Mixed a b) :
    a.quantity.apply operation b.quantity =
      if operation.divides && b.asDouble.units = 0 then .error .divisionByZero
      else Quantity.ofDouble? (operation.onDoubles? a.asDouble b.asDouble) := by
  cases a with
  | int i =>
    cases b with
    | int j => exact absurd ⟨rfl, rfl⟩ (mixed i j)
    | wide n past => rfl
    | double d => rfl
  | wide n past => rfl
  | double d => rfl

theorem operate_of_mixed (mixed : Mixed a b) :
    Value.operate operation (.json (.number a)) (.json (.number b)) =
      if operation.divides && b.asDouble.units = 0 then .error .divisionByZero
      else (Quantity.ofDouble? (operation.onDoubles? a.asDouble b.asDouble)).map Value.ofQuantity := by
  have texts : (operation = .add && ((Value.json (.number a)).text?.isSome ||
      (Value.json (.number b)).text?.isSome)) = false := by simp [Value.text?]
  rw [Value.operate, texts]
  show (a.quantity.apply operation b.quantity >>= fun result => .ok (Value.ofQuantity result) :
    Except Fault Value) = _
  rw [apply_of_mixed mixed]
  split <;> rfl

theorem zero_divisor (mixed : Mixed a b) (divides : operation.divides = true)
    (zero : b.asDouble.value = 0) :
    Value.operate operation (.json (.number a)) (.json (.number b)) = .error .divisionByZero := by
  rw [operate_of_mixed mixed, divides, Double.value_eq_zero_iff.mp zero]
  rfl

theorem doubleUnless_operate (mixed : Mixed a b)
    (some_ : operation.divides = true → b.asDouble.value ≠ 0) :
    DoubleUnless (Double.Overflows (operation.onRationals a.asDouble.value b.asDouble.value))
      (Value.operate operation (.json (.number a)) (.json (.number b))) := by
  have nonzero : ¬(operation.divides && b.asDouble.units = 0) = true := by
    rw [Bool.and_eq_true, decide_eq_true_eq]
    exact fun both => some_ both.1 (Double.value_eq_zero_iff.mpr both.2)
  rw [operate_of_mixed mixed, if_neg nonzero]
  exact doubleUnless_ofDouble? (onDoubles?_eq_none_iff some_)

/-! ## Members of `Math` -/

theorem mathOutcome_ofNumber {name : String} {f : Quantity → Except Fault Quantity}
    (found : Statics.builtins.member? "Math" name =
      some (Statics.mathMember name (Statics.ofNumber f))) (a : Number) :
    mathOutcome name [.json (.number a)] = (f a.quantity).map Value.ofQuantity := by
  unfold mathOutcome Statics.call
  rw [found]
  rfl

theorem mathOutcome_ofNumbers {name : String} {f : Quantity → Quantity → Except Fault Quantity}
    (found : Statics.builtins.member? "Math" name =
      some (Statics.mathMember name (Statics.ofNumbers f))) (a b : Number) :
    mathOutcome name [.json (.number a), .json (.number b)] =
      (f a.quantity b.quantity).map Value.ofQuantity := by
  unfold mathOutcome Statics.call
  rw [found]
  rfl

/-- A function that has a double for every double. -/
theorem doubleUnless_total {name : String} {f : Double → Double}
    (found : Statics.builtins.member? "Math" name =
      some (Statics.mathMember name (Statics.ofNumber (Quantity.viaDouble fun d => some (f d)))))
    (a : Number) : DoubleUnless False (mathOutcome name [.json (.number a)]) := by
  rw [mathOutcome_ofNumber found]
  exact doubleUnless_ofDouble? (iff_of_false nofun id)

theorem doubleUnless_sqrt (a : Number) :
    DoubleUnless (a.asDouble.value < 0) (mathOutcome "sqrt" [.json (.number a)]) := by
  rw [mathOutcome_ofNumber (f := Quantity.viaDouble Double.sqrt?) rfl]
  exact doubleUnless_ofDouble? Double.sqrt?_eq_none_iff

theorem doubleUnless_pow (a b : Number) : DoubleUnless
    (Double.exponentField (Float.pow (Float.ofBits a.asDouble.toBits)
      (Float.ofBits b.asDouble.toBits)).toBits = 2047)
    (mathOutcome "pow" [.json (.number a), .json (.number b)]) := by
  rw [mathOutcome_ofNumbers (f := Quantity.power) rfl]
  exact doubleUnless_ofDouble? Double.ofBits?_eq_none_iff

theorem exists_extreme {name : String} {f : Ordering → Bool}
    (found : Statics.builtins.member? "Math" name =
      some (Statics.mathMember name (Statics.ofNumbers fun a b => .ok (.pick f a b))))
    (a b : Number) :
    ∃ number, mathOutcome name [.json (.number a), .json (.number b)] = .ok (.json (.number number)) :=
  ⟨_, mathOutcome_ofNumbers found a b⟩

/-! ## All numbers -/

/-- No number is infinite or undefined: what a template has are finite numbers, and where there is none it
fails. -/
theorem numbers_finite : NumbersFinite where
  evaluation _ _ _ _ _ number _ := number.finite
  numerals _ _ read := Template.numerals_eq read
  operation _ _ _ mixed some_ := doubleUnless_operate mixed some_
  zeroDivisor _ _ _ mixed divides zero := zero_divisor mixed divides zero
  negation d := ⟨rfl, d.value_neg⟩
  sqrt := doubleUnless_sqrt
  pow := doubleUnless_pow
  whole name member a := by
    rcases List.mem_pair.mp member with rfl | rfl
    · exact doubleUnless_total (f := Double.floor) rfl a
    · exact doubleUnless_total (f := Double.ceil) rfl a
  abs d := mathOutcome_ofNumber (f := Quantity.magnitude) rfl (.double d)
  extreme name member a b := by
    rcases List.mem_pair.mp member with rfl | rfl
    · exact exists_extreme (f := Ordering.isGE) rfl a b
    · exact exists_extreme (f := Ordering.isLE) rfl a b
  constant name member := by
    rcases List.mem_pair.mp member with rfl | rfl
    · exact Or.inr ⟨not_false, .pi, rfl⟩
    · exact Or.inr ⟨not_false, .euler, rfl⟩

/-- The result of an operation in binary64 is no finite number: it is rounded to infinity, or it is a
quotient or remainder by zero, which is infinite or undefined. -/
def Operation.NotFinite (operation : Operation) (x y : ℚ) : Prop :=
  operation.divides = true ∧ y = 0 ∨ Double.Overflows (operation.onRationals x y)

/-- Not every operation without a finite result fails with `nonFinite`: one and a half divided by zero does
not. -/
theorem not_nonFinite_of_zero_divisor :
    ¬∀ (operation : Operation) (a b : Number), Mixed a b →
      operation.NotFinite a.asDouble.value b.asDouble.value →
      Value.operate operation (.json (.number a)) (.json (.number b)) = .error .nonFinite := by
  intro every
  let threeHalves : Double := .ofScaled false 3 1073 (by decide) (by decide)
  have mixed : Mixed (.double threeHalves) (.int 0) := by
    rintro i j ⟨⟨⟩, -⟩
  have zero : (Number.int 0).asDouble.value = 0 := by
    have none_ : (0 : Int64).toInt.natAbs = 0 := rfl
    rw [Double.value_eq_zero_iff]
    show Double.nearest ((0 : Int64).toInt.natAbs * Double.one) 1 = 0
    rw [none_, Nat.zero_mul, Double.nearest_zero]
  have failed := every .div _ _ mixed (Or.inl ⟨rfl, zero⟩)
  rw [zero_divisor mixed rfl zero] at failed
  cases failed

end Scriptlet
