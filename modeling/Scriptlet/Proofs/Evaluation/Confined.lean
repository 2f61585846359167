import Scriptlet.Evaluation
import Scriptlet.Proofs.Expr.Induction
import Scriptlet.Proofs.Value.Inert

/-!
# Confined evaluation

Host objects and static members of a scope may be such that they raise no fault of their own and answer
no object besides those that are known already (`Scope.Confined`). Then no template brings out a fault that
only host code raises, nor another object (`confined_eval`): evaluation adds neither.

The induction is over the tree. It speaks of outcomes alone, since objects that are known once stay all that
there are.
-/

set_option autoImplicit false

namespace Scriptlet

variable {α β : Type} {known : Set HostRef}

/-! ## Outcomes -/

/-- The outcome is no fault that only host code raises, and its value holds known objects only. -/
structure Confined (known : Set HostRef) (objects : α → List HostRef) (outcome : Except Fault α) :
    Prop where
  unraised : Unraised outcome
  known : ∀ value, outcome = .ok value → ∀ object ∈ objects value, object ∈ known

theorem confined_ok {objects : α → List HostRef} {value : α}
    (held : ∀ object ∈ objects value, object ∈ known) : Confined known objects (.ok value) where
  unraised := unraised_ok value
  known := by
    rintro other ⟨⟩
    exact held

theorem Inert.confined {outcome : Except Fault Value} (inert : Inert outcome) :
    Confined known Value.objects outcome where
  unraised := inert.unraised
  known value answered object mem := by
    rw [inert.data value answered] at mem
    cases mem

/-- One run after another is confined if the later one is for all values of the first that hold known
objects only. -/
theorem Confined.bind {objects : α → List HostRef} {objects' : β → List HostRef} {run : Run α}
    {next : α → Run β} (first : Confined known objects run.outcome)
    (later : ∀ value, (∀ object ∈ objects value, object ∈ known) →
      Confined known objects' (next value).outcome) :
    Confined known objects' (run >>= next).outcome := by
  cases outcome : run.outcome with
  | error fault =>
    rw [Run.bind_of_error outcome]
    refine ⟨unraised_error (first.unraised fault outcome), ?_⟩
    rintro value ⟨⟩
  | ok value =>
    rw [Run.outcome_bind outcome]
    exact later value (first.known value outcome)

/-! ## Scopes -/

/-- The hooks answer by themselves, or with what is known. -/
structure HostObject.Confined (known : Set HostRef) (hooks : HostObject) : Prop where
  property : ∀ name, Scriptlet.Confined known Value.objects (hooks.property name)
  method : ∀ name arguments, (∀ object ∈ Value.objectsOf arguments, object ∈ known) →
    Scriptlet.Confined known Value.objects (hooks.method name arguments)

/-- All that a scope binds is known, and what is known and the static members answer by themselves or
with what is known. -/
structure Scope.Confined (known : Set HostRef) (scope : Scope) : Prop where
  bindings : ∀ name value, scope.bindings.find? name = some value →
    ∀ object ∈ value.objects, object ∈ known
  hosts : ∀ object ∈ known, (scope.hosts object).Confined known
  statics : ∀ owner name member, scope.statics.member? owner name = some member →
    ∀ arguments, (∀ object ∈ Value.objectsOf arguments, object ∈ known) →
      Scriptlet.Confined known Value.objects (member.body arguments)

variable {scope : Scope}

/-! ## Single accesses -/

theorem confined_lookup (within : scope.Confined known) (name : String) :
    Confined known Value.objects (scope.lookup name).outcome := by
  unfold Scope.lookup
  split
  · rename_i value found
    exact confined_ok (within.bindings name value found)
  · exact (inert_error rfl).confined

theorem confined_property (within : scope.Confined known) (target : Value) (name : String)
    (held : ∀ object ∈ target.objects, object ∈ known) :
    Confined known Value.objects (target.property scope.hosts name).outcome := by
  cases target with
  | host object => exact (within.hosts object (held object List.mem_cons_self)).property name
  | json data => exact (inert_property data name).confined

theorem confined_index (within : scope.Confined known) (target position : Value)
    (held : ∀ object ∈ target.objects, object ∈ known) :
    Confined known Value.objects (target.index scope.hosts position).outcome := by
  cases target with
  | host object =>
    unfold Value.index
    dsimp only
    split
    · exact (within.hosts object (held object List.mem_cons_self)).property _
    · exact (inert_error rfl).confined
  | json data => exact (inert_index data position).confined

theorem confined_callMethod (within : scope.Confined known) (target : Value) (name : String)
    (arguments : List Value) (held : ∀ object ∈ target.objects, object ∈ known)
    (heldArguments : ∀ object ∈ Value.objectsOf arguments, object ∈ known) :
    Confined known Value.objects (target.callMethod scope.hosts name arguments).outcome := by
  cases target with
  | host object =>
    exact (within.hosts object (held object List.mem_cons_self)).method name arguments heldArguments
  | json data => exact (Json.inert_callMethod data name arguments).confined

theorem confined_static (within : scope.Confined known) (owner name : String)
    (arguments : List Value) (held : ∀ object ∈ Value.objectsOf arguments, object ∈ known) :
    Confined known Value.objects (scope.static owner name arguments).outcome := by
  show Confined known Value.objects (scope.statics.call owner name arguments).outcome
  unfold Statics.call
  split
  · exact (inert_error rfl).confined
  · rename_i member found
    split
    · exact within.statics owner name member found arguments held
    · exact (inert_error rfl).confined

/-! ## All expressions -/

theorem confined_evalEach {trees : List Expr}
    (each : ∀ tree ∈ trees, Confined known Value.objects (tree.eval scope).outcome) :
    Confined known Value.objectsOf (Expr.evalEach scope trees).outcome := by
  induction trees with
  | nil => exact confined_ok (by rintro object ⟨⟩)
  | cons first rest ih =>
    refine (each first List.mem_cons_self).bind fun value held => ?_
    refine (ih fun tree member => each tree (List.mem_cons_of_mem first member)).bind
      fun values heldLater => confined_ok fun object mem => ?_
    rcases List.mem_append.mp mem with mem | mem
    · exact held object mem
    · exact heldLater object mem

/-- Among confined host objects and static members, no template brings out a fault that only host code
raises, nor an object that was not known. -/
theorem confined_eval (within : scope.Confined known) (tree : Expr) :
    Confined known Value.objects (tree.eval scope).outcome := by
  induction tree with
  | literal value => exact (inert_ok value).confined
  | var name => exact confined_lookup within name
  | list items each =>
    exact (confined_evalEach each).bind fun values _ => (inert_ok _).confined
  | static owner name arguments each =>
    exact (confined_evalEach each).bind fun values held =>
      confined_static within owner name values held
  | property target name ih =>
    exact ih.bind fun value held => confined_property within value name held
  | method target name arguments ih each =>
    exact ih.bind fun value held => (confined_evalEach each).bind fun values heldEach =>
      confined_callMethod within value name values held heldEach
  | index target position ih ihPosition =>
    exact ih.bind fun value held => ihPosition.bind fun place _ =>
      confined_index within value place held
  | neg operand ih => exact ih.bind fun value _ => (inert_negate value).confined
  | not operand ih => exact ih.bind fun value _ => (inert_ok _).confined
  | binary operator left right ihLeft ihRight =>
    cases operator with
    | or =>
      refine ihLeft.bind fun value held => ?_
      split
      · exact confined_ok held
      · exact ihRight
    | and =>
      refine ihLeft.bind fun value held => ?_
      split
      · exact ihRight
      · exact confined_ok held
    | test comparison =>
      exact ihLeft.bind fun a _ => ihRight.bind fun b _ => (inert_compare comparison a b).confined
    | arith operation =>
      exact ihLeft.bind fun a _ => ihRight.bind fun b _ => (inert_operate operation a b).confined
  | ternary condition yes no ihCondition ihYes ihNo =>
    refine ihCondition.bind fun value _ => ?_
    split
    · exact ihYes
    · exact ihNo

end Scriptlet
