import Mathlib.Data.List.Induction
import Scriptlet.Proofs.Engine.Inlining
import Scriptlet.Proofs.Table.Order
import Scriptlet.Proofs.Template.RoundTrip
import Scriptlet.Proofs.Text.ByteOrder

/-!
# The history of a container

Components are added to a container one after the other, and a later one takes the place of an earlier one
of the same name. However a component is read, the answer is that of the history: the value that was added
last under the name, or the fault that there is none (`tells_history`).

The application reads it by a hook. A template has an index, a method and, for names of the grammar, a
property, and it gets to the container past whatever its caller binds to that name.
-/

set_option autoImplicit false

namespace Scriptlet

open Template (isName quote)

namespace Container

/-- The container with some more components, added one after the other. -/
def addAll (container : Container) (additions : List (String × Value)) : Container :=
  additions.foldl (fun container addition => container.add addition.1 addition.2) container

/-- The value is the one added last under the name. -/
def AddedLast (additions : List (String × Value)) (name : String) (value : Value) : Prop :=
  ∃ earlier later, additions = earlier ++ (name, value) :: later ∧
    ∀ addition ∈ later, addition.1 ≠ name

/-- The templates that read a component: by its name as an index, by a method and, if templates can name
it, as a property. -/
def readings (name : String) : List String :=
  ["container[" ++ String.ofList (quote name) ++ "]",
    "container.getComponent(" ++ String.ofList (quote name) ++ ")"] ++
  if isName name then ["container." ++ name] else []

/-- All ways of reading the container agree with the history of its additions. -/
structure TellsHistory (container : Container) (additions : List (String × Value)) : Prop where
  /-- A component has the value that was added last under its name. -/
  latest : ∀ name value, AddedLast additions name value →
    container.hooks.property name = .ok value
  /-- Under any other name there is none. -/
  absent : ∀ name, (∀ addition ∈ additions, addition.1 ≠ name) →
    container.hooks.property name = .error (.noSuchProperty "Container" name)
  /-- The method answers as the property does. -/
  getComponent : ∀ name,
    container.hooks.method "getComponent" [.string name] = container.hooks.property name
  /-- There is a component under a name exactly if reading it succeeds. -/
  hasComponent : ∀ name, container.hooks.method "hasComponent" [.string name] =
    .ok (.bool (container.hooks.property name).isOk)
  /-- The names are those that were added, each once and increasing byte by byte. -/
  componentNames : ∃ names,
    container.hooks.method "componentNames" [] = .ok (.json (.ofStrings names)) ∧
    (∀ name, name ∈ names ↔ ∃ addition ∈ additions, addition.1 = name) ∧
    names.Pairwise fun a b => Text.bytes a < Text.bytes b
  /-- A template that reads a component has the same value or fails in the same way, whatever its caller
  binds. -/
  templates : ∀ statics hosts given name, ∀ template ∈ readings name,
    (Evaluator.outcome ⟨.ognl statics, container, hosts⟩ (some template) (some given)).answer =
      match container.hooks.property name with
      | .ok value => .ok (.value value)
      | .error fault => .ok (.suppressed fault)

/-! ## The components -/

variable {id : Nat} {container : Container} {additions : List (String × Value)} {name : String}
  {value : Value}

/-- Additions under other names keep a component. -/
theorem component?_addAll (others : ∀ addition ∈ additions, addition.1 ≠ name) :
    (container.addAll additions).component? name = container.component? name := by
  induction additions generalizing container with
  | nil => rfl
  | cons first rest ih =>
    have kept : ((container.add first.1 first.2).addAll rest).component? name =
        (container.add first.1 first.2).component? name :=
      ih fun addition member => others addition (List.mem_cons_of_mem first member)
    have differs : name ≠ first.1 := (others first List.mem_cons_self).symm
    rw [component?_add, if_neg differs] at kept
    exact kept

theorem component?_of_addedLast (last : AddedLast additions name value) :
    ((empty id).addAll additions).component? name = some value := by
  obtain ⟨earlier, later, rfl, others⟩ := last
  rw [addAll, List.foldl_append, List.foldl_cons]
  refine (component?_addAll others).trans ?_
  rw [component?_add, if_pos rfl]

/-- The names are those that were there and those that were added. -/
theorem mem_names_addAll : name ∈ (container.addAll additions).components.names ↔
    name ∈ container.components.names ∨ ∃ addition ∈ additions, addition.1 = name := by
  induction additions generalizing container with
  | nil => simp [addAll]
  | cons first rest ih =>
    have step : name ∈ ((container.add first.1 first.2).addAll rest).components.names ↔
        name ∈ (container.add first.1 first.2).components.names ∨
          ∃ addition ∈ rest, addition.1 = name := ih
    rw [add, Table.mem_names_insert] at step
    refine step.trans ?_
    simp only [List.mem_cons, exists_eq_or_imp, eq_comm (a := name), or_left_comm, or_assoc]

/-- Additions keep the names in order. -/
theorem increasing_addAll (increasing : container.components.Increasing)
    (additions : List (String × Value)) :
    (container.addAll additions).components.Increasing := by
  induction additions generalizing container with
  | nil => exact increasing
  | cons first rest ih => exact ih (Table.increasing_insert increasing first.1 first.2)

/-! ## The hooks -/

theorem property_of_component? (found : container.component? name = some value) :
    container.hooks.property name = .ok value := by
  show container.lookup name = _
  rw [lookup, found]

theorem property_of_none (missing : container.component? name = none) :
    container.hooks.property name = .error (.noSuchProperty "Container" name) := by
  show container.lookup name = _
  rw [lookup, missing]
  rfl

/-- Reading a component succeeds or fails for want of it. -/
theorem property_cases (container : Container) (name : String) :
    (∃ value, container.component? name = some value ∧
      container.hooks.property name = .ok value) ∨
    (container.component? name = none ∧
      container.hooks.property name = .error (.noSuchProperty "Container" name)) := by
  cases found : container.component? name with
  | some value => exact .inl ⟨value, rfl, property_of_component? found⟩
  | none => exact .inr ⟨rfl, property_of_none found⟩

theorem hasComponent_eq (container : Container) (name : String) :
    container.hooks.method "hasComponent" [.string name] =
      .ok (.bool (container.hooks.property name).isOk) := by
  show Except.ok (Value.bool (container.component? name).isSome) = _
  rcases container.property_cases name with ⟨value, found, read⟩ | ⟨missing, read⟩
  · rw [found, read]
    rfl
  · rw [missing, read]
    rfl

/-! ## The readings -/

/-- The template is read as an expression that comes to what the property of the container is, whatever
else the expression may refer to. -/
def IsReading (name template : String) : Prop :=
  ∃ tree, Template.parse template = .ok tree ∧
    ∀ container statics hosts given,
      (tree.eval (scope container statics hosts given)).outcome = container.hooks.property name

/-- A template finds the container under its name, in place of anything else. -/
theorem eval_container (container : Container) (statics : Statics) (hosts : Hosts)
    (given : Bindings) :
    (Expr.var bindingName).eval (container.scope statics hosts given) =
      .pure (.host container.ref) := by
  have found : (container.context given).find? bindingName = some (.host container.ref) := by
    rw [context, Table.find?_insert, if_pos rfl]
  rw [Expr.eval, Scope.lookup, scope, found]

/-- The hooks behind the container are its own. -/
theorem join_ref (container : Container) (hosts : Hosts) :
    container.join hosts container.ref = container.hooks :=
  if_pos rfl

theorem isReading_index (name : String) :
    IsReading name ("container[" ++ String.ofList (quote name) ++ "]") := by
  refine ⟨.index (.var bindingName) (.literal (.string name)), ?_, ?_⟩
  · refine Template.parse_of_text ?_ rfl (by simp [Expr.height])
    simp only [String.toList_append, String.toList_ofList]
    rfl
  · intro container statics hosts given
    rw [Expr.eval, eval_container]
    show (container.join hosts container.ref).property name = _
    rw [join_ref]

theorem isReading_method (name : String) :
    IsReading name ("container.getComponent(" ++ String.ofList (quote name) ++ ")") := by
  refine ⟨.method (.var bindingName) "getComponent" [.literal (.string name)], ?_, ?_⟩
  · refine Template.parse_of_text ?_ rfl (by simp [Expr.height, Expr.tallest])
    simp only [String.toList_append, String.toList_ofList, Expr.text, Expr.separated_texts_singleton]
    rfl
  · intro container statics hosts given
    rw [Expr.eval, eval_container]
    show (container.join hosts container.ref).method "getComponent" [.string name] = _
    rw [join_ref]
    rfl

theorem isReading_property (valid : isName name = true) :
    IsReading name ("container." ++ name) := by
  refine ⟨.property (.var bindingName) name, ?_, ?_⟩
  · refine Template.parse_of_text ?_ valid (by simp [Expr.height])
    rw [String.toList_append]
    rfl
  · intro container statics hosts given
    rw [Expr.eval, eval_container]
    show (container.join hosts container.ref).property name = _
    rw [join_ref]

theorem isReading_of_mem {template : String} (member : template ∈ readings name) :
    IsReading name template := by
  rcases List.mem_append.mp member with always | named
  · rcases List.mem_pair.mp always with rfl | rfl
    · exact isReading_index name
    · exact isReading_method name
  · split at named
    · rename_i valid
      rw [List.mem_singleton.mp named]
      exact isReading_property valid
    · cases named

/-- A reading is answered as the property is, and the fault of the property carries no job failure. -/
theorem answer_of_isReading {template : String} (reading : IsReading name template)
    (container : Container) (statics : Statics) (hosts : Hosts) (given : Bindings) :
    (Evaluator.outcome ⟨.ognl statics, container, hosts⟩ (some template) (some given)).answer =
      match container.hooks.property name with
      | .ok value => .ok (.value value)
      | .error fault => .ok (.suppressed fault) := by
  obtain ⟨tree, parsed, evaluated⟩ := reading
  rw [Evaluator.outcome_of_parse parsed, Evaluator.conclude, evaluated]
  rcases container.property_cases name with ⟨value, -, read⟩ | ⟨-, read⟩ <;> rw [read]
  rfl

/-! ## Every history -/

/-- Whatever is added to a new container, all ways of reading it agree with what was added last. -/
theorem tells_history (id : Nat) (additions : List (String × Value)) :
    ((empty id).addAll additions).TellsHistory additions where
  latest name value last := property_of_component? (component?_of_addedLast last)
  absent name others := property_of_none (component?_addAll others)
  getComponent name := rfl
  hasComponent name := hasComponent_eq _ name
  componentNames := by
    refine ⟨((empty id).addAll additions).components.names, rfl, fun name => ?_, ?_⟩
    · refine mem_names_addAll.trans (or_iff_right ?_)
      exact List.not_mem_nil
    · have none_ : (empty id).components.Increasing := List.Pairwise.nil
      exact (increasing_addAll none_ additions).imp Text.bytes_lt
  templates statics hosts given name template member :=
    answer_of_isReading (isReading_of_mem member) _ statics hosts given

end Container

end Scriptlet
