import Scriptlet.Evaluation
import Scriptlet.Proofs.Expr.Induction
import Scriptlet.Proofs.Value.Inert

/-!
# Evaluation is orderly

Every evaluation is an orderly run (`eval_orderly`): whatever constructs stand around a call, a failed
call ends the evaluation with its fault, and host objects only go where they were known before. A node
that may call out does so at most once, so there are at most as many calls as such nodes.

The induction is over the tree and speaks of every set of known objects that has those of the scope,
since an operand is evaluated when the calls of the operands before it have been answered.
-/

set_option autoImplicit false

namespace Scriptlet

/-- The host objects that are bound to names. -/
def Scope.objects (scope : Scope) : Set HostRef :=
  {object | ∃ name, scope.bindings.find? name = some (.host object)}

namespace Expr

mutual

/-- The number of nodes that may call out: properties, indexes, methods and static members. -/
def callNodes : Expr → Nat
  | literal _ => 0
  | var _ => 0
  | list items => callNodesOf items
  | static _ _ arguments => callNodesOf arguments + 1
  | property target _ => target.callNodes + 1
  | method target _ arguments => target.callNodes + callNodesOf arguments + 1
  | index target position => target.callNodes + position.callNodes + 1
  | neg operand => operand.callNodes
  | not operand => operand.callNodes
  | binary _ left right => left.callNodes + right.callNodes
  | ternary condition yes no => condition.callNodes + yes.callNodes + no.callNodes

/-- The number of nodes in some trees that may call out. -/
def callNodesOf : List Expr → Nat
  | [] => 0
  | tree :: rest => tree.callNodes + callNodesOf rest

end

end Expr

open Run (ofExcept Orderly orderly_of_calls_eq_nil orderly_call)

variable {scope : Scope} {known : Set HostRef}

/-! ## Single accesses -/

theorem orderly_pure {α : Type} {objects : α → List HostRef} {value : α}
    (held : ∀ object ∈ objects value, object ∈ known) :
    (pure value : Run α).Orderly known 0 objects := by
  refine orderly_of_calls_eq_nil rfl ?_ ?_
  · rintro fault ⟨⟩
  · rintro answer ⟨⟩
    exact held

theorem orderly_ofExcept {outcome : Except Fault Value} (inert : Inert outcome) :
    (ofExcept outcome).Orderly known 0 Value.objects := by
  refine orderly_of_calls_eq_nil rfl inert.unraised ?_
  intro value answered object mem
  rw [inert.data value answered] at mem
  cases mem

theorem orderly_lookup (within : scope.objects ⊆ known) (name : String) :
    (scope.lookup name).Orderly known 0 Value.objects := by
  unfold Scope.lookup
  split
  · rename_i value found
    refine orderly_pure fun object mem => ?_
    cases value with
    | json data => cases mem
    | host other =>
      obtain rfl := List.mem_singleton.mp mem
      exact within ⟨name, found⟩
  · exact orderly_ofExcept (inert_error rfl)

theorem orderly_property (hosts : Hosts) (target : Value) (name : String)
    (held : ∀ object ∈ target.objects, object ∈ known) :
    (target.property hosts name).Orderly known 1 Value.objects := by
  cases target with
  | host object => exact orderly_call (fun _ => rfl) held
  | json data => exact (orderly_ofExcept (inert_property data name)).mono (Nat.zero_le 1)

theorem orderly_index (hosts : Hosts) (target position : Value)
    (held : ∀ object ∈ target.objects, object ∈ known) :
    (target.index hosts position).Orderly known 1 Value.objects := by
  cases target with
  | host object =>
    unfold Value.index
    dsimp only
    split
    · exact orderly_call (fun _ => rfl) held
    · exact (orderly_ofExcept (inert_error rfl)).mono (Nat.zero_le 1)
  | json data => exact (orderly_ofExcept (inert_index data position)).mono (Nat.zero_le 1)

theorem orderly_callMethod (hosts : Hosts) (target : Value) (name : String) (arguments : List Value)
    (held : ∀ object ∈ target.objects, object ∈ known)
    (heldArguments : ∀ object ∈ Value.objectsOf arguments, object ∈ known) :
    (target.callMethod hosts name arguments).Orderly known 1 Value.objects := by
  cases target with
  | host object =>
    refine orderly_call (fun _ => rfl) fun other mem => ?_
    rcases List.mem_cons.mp mem with rfl | mem
    · exact held other List.mem_cons_self
    · exact heldArguments other mem
  | json data =>
    exact (orderly_ofExcept (Json.inert_callMethod data name arguments)).mono (Nat.zero_le 1)

theorem orderly_static (owner name : String) (arguments : List Value)
    (held : ∀ object ∈ Value.objectsOf arguments, object ∈ known) :
    (scope.static owner name arguments).Orderly known 1 Value.objects := by
  refine Orderly.after_reference ?_ owner name
  unfold Statics.call
  split
  · exact (orderly_ofExcept (inert_error rfl)).mono (Nat.zero_le 1)
  · split
    · exact orderly_call (fun _ => rfl) held
    · exact (orderly_ofExcept (inert_error rfl)).mono (Nat.zero_le 1)

/-! ## All expressions -/

/-- Expressions are orderly one after the other if each of them is. -/
theorem orderly_evalEach {trees : List Expr}
    (each : ∀ tree ∈ trees, ∀ known, scope.objects ⊆ known →
      (tree.eval scope).Orderly known tree.callNodes Value.objects)
    (within : scope.objects ⊆ known) :
    (Expr.evalEach scope trees).Orderly known (Expr.callNodesOf trees) Value.objectsOf := by
  induction trees generalizing known with
  | nil => exact orderly_pure (by rintro object ⟨⟩)
  | cons first rest ih =>
    have later := fun tree member => each tree (List.mem_cons_of_mem first member)
    refine (each first List.mem_cons_self known within).bind fun value held => ?_
    have wider := within.trans fun object mem =>
      mem_knownAfter_of_mem mem (first.eval scope).calls
    refine (ih later wider).bind fun values heldLater => orderly_pure fun object mem => ?_
    rcases List.mem_append.mp mem with mem | mem
    · exact mem_knownAfter_of_mem (held object mem) _
    · exact heldLater object mem

/-- Every evaluation is orderly, whatever was known before besides what the scope binds. -/
theorem orderly_eval (tree : Expr) (within : scope.objects ⊆ known) :
    (tree.eval scope).Orderly known tree.callNodes Value.objects := by
  induction tree generalizing known with
  | literal value => exact orderly_pure (by rintro object ⟨⟩)
  | var name => exact orderly_lookup within name
  | list items each =>
    exact (orderly_evalEach (fun item member _ => each item member) within).bind fun values _ =>
      orderly_pure (by rintro object ⟨⟩)
  | static owner name arguments each =>
    exact (orderly_evalEach (fun item member _ => each item member) within).bind fun values held =>
      orderly_static owner name values held
  | property target name ih =>
    exact (ih within).bind fun value held => orderly_property scope.hosts value name held
  | method target name arguments ih each =>
    rw [Expr.callNodes, Nat.add_assoc]
    refine (ih within).bind fun value held => ?_
    have wider := within.trans fun object mem =>
      mem_knownAfter_of_mem mem (target.eval scope).calls
    refine (orderly_evalEach (fun item member _ => each item member) wider).bind fun values heldEach =>
      orderly_callMethod scope.hosts value name values ?_ heldEach
    exact fun object mem => mem_knownAfter_of_mem (held object mem) _
  | index target position ih ihPosition =>
    rw [Expr.callNodes, Nat.add_assoc]
    refine (ih within).bind fun value held => ?_
    have wider := within.trans fun object mem =>
      mem_knownAfter_of_mem mem (target.eval scope).calls
    refine (ihPosition wider).bind fun place _ => orderly_index scope.hosts value place ?_
    exact fun object mem => mem_knownAfter_of_mem (held object mem) _
  | neg operand ih =>
    exact (ih within).bind fun value _ => orderly_ofExcept (inert_negate value)
  | not operand ih =>
    exact (ih within).bind fun value _ => orderly_pure (by rintro object ⟨⟩)
  | binary operator left right ihLeft ihRight =>
    have wider := within.trans fun object mem =>
      mem_knownAfter_of_mem mem (left.eval scope).calls
    have second := ihRight wider
    cases operator with
    | or =>
      refine (ihLeft within).bind fun value held => ?_
      split
      · exact (orderly_pure held).mono (Nat.zero_le _)
      · exact second
    | and =>
      refine (ihLeft within).bind fun value held => ?_
      split
      · exact second
      · exact (orderly_pure held).mono (Nat.zero_le _)
    | test comparison =>
      exact (ihLeft within).bind fun a _ => second.bind fun b _ =>
        orderly_ofExcept (inert_compare comparison a b)
    | arith operation =>
      exact (ihLeft within).bind fun a _ => second.bind fun b _ =>
        orderly_ofExcept (inert_operate operation a b)
  | ternary condition yes no ihCondition ihYes ihNo =>
    have wider := within.trans fun object mem =>
      mem_knownAfter_of_mem mem (condition.eval scope).calls
    rw [Expr.callNodes, Nat.add_assoc]
    refine (ihCondition within).bind fun value _ => ?_
    split
    · exact (ihYes wider).mono (Nat.le_add_right _ _)
    · exact (ihNo wider).mono (Nat.le_add_left _ _)

/-- Every evaluation is an orderly run, with at most one call for each node that may call out. -/
theorem eval_orderly (scope : Scope) (tree : Expr) :
    (tree.eval scope).Orderly scope.objects tree.callNodes Value.objects :=
  orderly_eval tree (Set.Subset.refl _)

end Scriptlet
