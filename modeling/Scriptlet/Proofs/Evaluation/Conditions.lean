import Scriptlet.Proofs.Evaluation.Plans

/-!
# Rewriting conditions

`&&` and `||` answer the operand that decides, which need not be a truth value, and leave the other one alone.
The laws of truth values that keep the operands in their order still hold of whole runs: of the value that is
answered, of the fault, and of every step on the way (`RewritesConditions`).

The four constructs are one, a decision (`Run.choose`): one of two runs goes on by whether the value of a run
counts as true. A decision by a decision goes on with one of two decisions (`choose_choose`), each of which
knows how the first one came out. What a decision answers for itself has the truth that decided.
-/

set_option autoImplicit false

namespace Scriptlet

namespace Run

/-- One of two runs after a run, by whether its value counts as true. -/
def choose (run : Run Value) (yes no : Value → Run Value) : Run Value :=
  run >>= fun value => if value.truthy then yes value else no value

variable {run : Run Value} {yes no yes' no' whenTrue whenFalse : Value → Run Value} {value : Value}

theorem choose_pure_of_true (holds : value.truthy = true) :
    choose (.pure value) yes no = yes value :=
  if_pos holds

theorem choose_pure_of_false (fails : value.truthy = false) :
    choose (.pure value) yes no = no value :=
  if_neg (ne_true_of_eq_false fails)

/-- Each of the two runs only matters for the values that it is chosen for. -/
theorem choose_congr (whenTrue : ∀ value, value.truthy = true → yes value = yes' value)
    (whenFalse : ∀ value, value.truthy = false → no value = no' value) :
    run.choose yes no = run.choose yes' no' := by
  unfold choose
  congr 1
  funext value
  cases truth : value.truthy with
  | true => exact whenTrue value truth
  | false => exact whenFalse value truth

/-- A decision by a decision decides in each of the two runs. -/
theorem choose_choose : (run.choose yes no).choose yes' no' =
    run.choose (fun value => (yes value).choose yes' no') fun value => (no value).choose yes' no' := by
  unfold choose
  rw [LawfulMonad.bind_assoc]
  congr 1
  funext value
  cases value.truthy <;> rfl

/-- So it is one decision with what the two runs come to. -/
theorem choose_choose_eq (onTrue : ∀ value, value.truthy = true → (yes value).choose yes' no' = whenTrue value)
    (onFalse : ∀ value, value.truthy = false → (no value).choose yes' no' = whenFalse value) :
    (run.choose yes no).choose yes' no' = run.choose whenTrue whenFalse :=
  choose_choose.trans (choose_congr onTrue onFalse)

end Run

namespace Expr

variable (scope : Scope) (a b c x y : Expr)

/-! ## The four constructs -/

theorem eval_and : (binary .and a b).eval scope = (a.eval scope).choose (fun _ => b.eval scope) .pure :=
  rfl

theorem eval_or : (binary .or a b).eval scope = (a.eval scope).choose .pure fun _ => b.eval scope :=
  rfl

theorem eval_ternary :
    (ternary a x y).eval scope = (a.eval scope).choose (fun _ => x.eval scope) fun _ => y.eval scope :=
  rfl

theorem eval_not : (not a).eval scope =
    (a.eval scope).choose (fun _ => .pure (.bool false)) fun _ => .pure (.bool true) := by
  unfold Run.choose
  rw [eval]
  congr 1
  funext value
  cases value.truthy <;> rfl

/-! ## The laws -/

theorem eval_not_and :
    (not (binary .and a b)).eval scope = (binary .or (not a) (not b)).eval scope := by
  rw [eval_not, eval_and, eval_or, eval_not, eval_not, Run.choose_choose]
  symm
  refine Run.choose_choose_eq (fun value _ => ?_) fun value fails => ?_
  · exact Run.choose_pure_of_false rfl
  · rw [Run.choose_pure_of_true rfl, Run.choose_pure_of_false fails]

theorem eval_not_or :
    (not (binary .or a b)).eval scope = (binary .and (not a) (not b)).eval scope := by
  rw [eval_not, eval_or, eval_and, eval_not, eval_not, Run.choose_choose]
  symm
  refine Run.choose_choose_eq (fun value holds => ?_) fun value _ => ?_
  · rw [Run.choose_pure_of_false rfl, Run.choose_pure_of_true holds]
  · exact Run.choose_pure_of_true rfl

theorem eval_and_assoc :
    (binary .and (binary .and a b) c).eval scope = (binary .and a (binary .and b c)).eval scope := by
  simp only [eval_and]
  exact Run.choose_choose_eq (fun _ _ => rfl) fun _ fails => Run.choose_pure_of_false fails

theorem eval_or_assoc :
    (binary .or (binary .or a b) c).eval scope = (binary .or a (binary .or b c)).eval scope := by
  simp only [eval_or]
  exact Run.choose_choose_eq (fun _ holds => Run.choose_pure_of_true holds) fun _ _ => rfl

theorem eval_ternary_not : (ternary (not a) x y).eval scope = (ternary a y x).eval scope := by
  simp only [eval_ternary, eval_not]
  exact Run.choose_choose_eq (fun _ _ => Run.choose_pure_of_false rfl)
    fun _ _ => Run.choose_pure_of_true rfl

theorem eval_ternary_and :
    (ternary (binary .and a b) x y).eval scope = (ternary a (ternary b x y) y).eval scope := by
  simp only [eval_ternary, eval_and]
  exact Run.choose_choose_eq (fun _ _ => rfl) fun _ fails => Run.choose_pure_of_false fails

theorem eval_ternary_or :
    (ternary (binary .or a b) x y).eval scope = (ternary a x (ternary b x y)).eval scope := by
  simp only [eval_ternary, eval_or]
  exact Run.choose_choose_eq (fun _ holds => Run.choose_pure_of_true holds) fun _ _ => rfl

/-! ## Rewriting -/

variable {scope} {tree node other : Expr} {path : List Nat}

/-- What is evaluated as a subtree can stand in its place. -/
theorem eval_replace_congr (found : tree.at? path = some node) (same : other.eval scope = node.eval scope) :
    (tree.replace path other).eval scope = tree.eval scope := by
  induction path generalizing tree with
  | nil =>
    cases found
    exact same
  | cons k rest ih =>
    cases within : tree.children[k]? with
    | none =>
      rw [at?, within] at found
      cases found
    | some child =>
      rw [at?_cons within] at found
      rw [replace_cons within]
      exact eval_setChild_congr within (ih found)

/-- The laws by which conditions are rewritten: both sides have the same run, with its value or its fault,
the references that it logs, and its calls. -/
structure RewritesConditions (scope : Scope) : Prop where
  not_and : ∀ a b, (not (binary .and a b)).eval scope = (binary .or (not a) (not b)).eval scope
  not_or : ∀ a b, (not (binary .or a b)).eval scope = (binary .and (not a) (not b)).eval scope
  and_assoc : ∀ a b c,
    (binary .and (binary .and a b) c).eval scope = (binary .and a (binary .and b c)).eval scope
  or_assoc : ∀ a b c,
    (binary .or (binary .or a b) c).eval scope = (binary .or a (binary .or b c)).eval scope
  ternary_not : ∀ a x y, (ternary (not a) x y).eval scope = (ternary a y x).eval scope
  ternary_and : ∀ a b x y,
    (ternary (binary .and a b) x y).eval scope = (ternary a (ternary b x y) y).eval scope
  ternary_or : ∀ a b x y,
    (ternary (binary .or a b) x y).eval scope = (ternary a x (ternary b x y)).eval scope
  /-- A side of a law may be put for the other one anywhere in a tree. -/
  anywhere : ∀ {tree side other : Expr} {path : List Nat}, tree.at? path = some side →
    other.eval scope = side.eval scope → (tree.replace path other).eval scope = tree.eval scope

/-- Conditions can be rewritten by these laws, whatever their operands answer and whether they fail. -/
theorem rewrites_conditions (scope : Scope) : RewritesConditions scope where
  not_and := eval_not_and scope
  not_or := eval_not_or scope
  and_assoc := eval_and_assoc scope
  or_assoc := eval_or_assoc scope
  ternary_not := eval_ternary_not scope
  ternary_and := eval_ternary_and scope
  ternary_or := eval_ternary_or scope
  anywhere := eval_replace_congr

end Expr

end Scriptlet
