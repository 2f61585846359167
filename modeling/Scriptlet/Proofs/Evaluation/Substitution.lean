import Scriptlet.Proofs.Evaluation.Bindings

/-!
# Binding a value is inlining its expression

A variable that is bound to the value of an expression may be replaced by the expression: what comes of
the evaluation stays the same, be it a value or a fault (`outcome_subst`). The steps do not, for the
expression is evaluated wherever it stands and not once. That it gives the same value every time is
because the hooks of host objects and the static members are functions here.
-/

set_option autoImplicit false

namespace Scriptlet

/-- What comes of one run after another is a matter of what comes of each. -/
theorem Run.outcome_bind_congr {α β : Type} {run other : Run α} {next nextOther : α → Run β}
    (first : run.outcome = other.outcome)
    (second : ∀ value, (next value).outcome = (nextOther value).outcome) :
    (run >>= next).outcome = (other >>= nextOther).outcome := by
  show (Run.bind run next).outcome = (Run.bind other nextOther).outcome
  unfold Run.bind
  rw [first]
  cases other.outcome with
  | error fault => rfl
  | ok value => exact second value

/-- The scope with one more binding, in place of an earlier one of the same name. -/
def Scope.bind (scope : Scope) (name : String) (value : Value) : Scope :=
  { scope with bindings := scope.bindings.insert name value }

variable {scope : Scope} {name : String} {replacement : Expr} {value : Value}

theorem outcome_substEach {trees : List Expr}
    (each : ∀ tree ∈ trees, ((Expr.subst name replacement tree).eval scope).outcome =
      (tree.eval (scope.bind name value)).outcome) :
    (Expr.evalEach scope (Expr.substEach name replacement trees)).outcome =
      (Expr.evalEach (scope.bind name value) trees).outcome := by
  induction trees with
  | nil => rfl
  | cons first rest ih =>
    have later := ih fun tree member => each tree (List.mem_cons_of_mem first member)
    apply Run.outcome_bind_congr (each first List.mem_cons_self)
    intro head
    exact Run.outcome_bind_congr later fun _ => rfl

/-- An expression with a replacement for a variable comes to the same as the expression where the
variable is bound to the value of the replacement. -/
theorem outcome_subst (evaluated : (replacement.eval scope).outcome = .ok value) (tree : Expr) :
    ((Expr.subst name replacement tree).eval scope).outcome =
      (tree.eval (scope.bind name value)).outcome := by
  induction tree with
  | literal _ => rfl
  | var other =>
    have found := Table.find?_insert scope.bindings name other value
    by_cases same : other = name
    · rw [if_pos same] at found
      simp only [Expr.subst, if_pos same, Expr.eval, Scope.lookup, Scope.bind, found, evaluated]
      rfl
    · rw [if_neg same] at found
      simp only [Expr.subst, if_neg same, Expr.eval, Scope.lookup, Scope.bind, found]
  | list _ each => exact Run.outcome_bind_congr (outcome_substEach each) fun _ => rfl
  | static _ _ _ each => exact Run.outcome_bind_congr (outcome_substEach each) fun _ => rfl
  | property _ _ ih => exact Run.outcome_bind_congr ih fun _ => rfl
  | method _ _ _ ih each =>
    apply Run.outcome_bind_congr ih
    intro target
    exact Run.outcome_bind_congr (outcome_substEach each) fun _ => rfl
  | index _ _ ih ihPosition =>
    apply Run.outcome_bind_congr ih
    intro target
    exact Run.outcome_bind_congr ihPosition fun _ => rfl
  | neg _ ih => exact Run.outcome_bind_congr ih fun _ => rfl
  | not _ ih => exact Run.outcome_bind_congr ih fun _ => rfl
  | binary operator _ _ ihLeft ihRight =>
    cases operator with
    | or =>
      apply Run.outcome_bind_congr ihLeft
      intro left
      by_cases decides : left.truthy = true
      · rw [if_pos decides, if_pos decides]
      · rw [if_neg decides, if_neg decides, ihRight]
    | and =>
      apply Run.outcome_bind_congr ihLeft
      intro left
      by_cases decides : left.truthy = true
      · rw [if_pos decides, if_pos decides, ihRight]
      · rw [if_neg decides, if_neg decides]
    | test _ =>
      apply Run.outcome_bind_congr ihLeft
      intro left
      exact Run.outcome_bind_congr ihRight fun _ => rfl
    | arith _ =>
      apply Run.outcome_bind_congr ihLeft
      intro left
      exact Run.outcome_bind_congr ihRight fun _ => rfl
  | ternary _ _ _ ihCondition ihYes ihNo =>
    apply Run.outcome_bind_congr ihCondition
    intro condition
    by_cases decides : condition.truthy = true
    · rw [if_pos decides, if_pos decides, ihYes]
    · rw [if_neg decides, if_neg decides, ihNo]

end Scriptlet
