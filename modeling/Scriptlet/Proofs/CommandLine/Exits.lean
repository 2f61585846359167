import Scriptlet.CommandLine
import Scriptlet.Proofs.Container.History
import Scriptlet.Proofs.Engine.Registry
import Scriptlet.Proofs.Evaluation.Confined
import Scriptlet.Proofs.Statics.Math

/-!
# How the command line ends

A request of the command line fails for what its user has given besides the template: bindings that are no
JSON object, a component without an equals sign, an engine that there is none of. These are looked for in
this order, and the first one is reported. In every other case the command succeeds, whatever the template
is (`ends_as_asked`).

For this an evaluation has to come to an end that is no job failure. It does because the container is the
only host object, its components are data, and neither the container nor a member of `Math` raises a fault
of host code (`raises_nothing`).
-/

set_option autoImplicit false

namespace Scriptlet

/-! ## Plain data -/

/-- A template that cannot be read is a fault of its own. -/
theorem Template.unraised_parse (template : String) : Unraised (Template.parse template) := by
  intro fault failed
  unfold Template.parse Template.parseWithin at failed
  cases read : Template.wholeText .standard template.toList with
  | ok tree =>
    rw [read] at failed
    cases failed
  | error failure =>
    rw [read] at failed
    cases failed
    rfl

namespace Container

/-- All components are data. -/
def IsData (container : Container) : Prop :=
  ∀ name value, container.component? name = some value → ∃ data, value = .json data

/-- No other host object is bound than the container. -/
def OnlyObject (container : Container) (bindings : Bindings) : Prop :=
  ∀ name value, bindings.find? name = some value →
    (∃ data, value = .json data) ∨ value = .host container.ref

variable {container : Container} {additions : List (String × Value)} {given : Bindings}
  {template : String}

theorem isData_addAll (plain : container.IsData)
    (data : ∀ addition ∈ additions, ∃ data, addition.2 = .json data) :
    (container.addAll additions).IsData := by
  induction additions generalizing container with
  | nil => exact plain
  | cons first rest ih =>
    refine ih (fun name value found => ?_) fun addition member =>
      data addition (List.mem_cons_of_mem first member)
    rw [component?_add] at found
    split at found
    · rw [← Option.some.inj found]
      exact data first List.mem_cons_self
    · exact plain name value found

theorem inert_lookup (plain : container.IsData) (name : String) :
    Inert (container.lookup name) := by
  unfold lookup
  split
  · rename_i value found
    obtain ⟨data, rfl⟩ := plain name value found
    exact inert_ok data
  · exact inert_error rfl

theorem unraised_nameArgument (argument : Value) : Unraised (nameArgument argument) := by
  unfold nameArgument
  split
  · exact unraised_ok _
  · exact unraised_error rfl

theorem inert_method {name : String} {method : Method} (plain : container.IsData)
    (found : container.method? name = some method) : method.Inert := by
  unfold method? at found
  split at found
  all_goals cases found
  · exact fun argument => (unraised_nameArgument argument).bind_inert (inert_lookup plain)
  · exact fun argument => (unraised_nameArgument argument).bind_inert fun _ => inert_ok _
  · exact inert_ok _

/-- A container of data raises no fault of its own and answers data. -/
theorem confined_hooks {known : Set HostRef} (plain : container.IsData) :
    container.hooks.Confined known where
  property name := (inert_lookup plain name).confined
  method name arguments _ := by
    unfold hooks
    dsimp only
    split
    · rename_i found
      exact ((inert_method plain found).call name arguments).confined
    · exact (inert_error rfl).confined

/-- What sees no other host object than a container of data is confined to that container. -/
theorem confined_scope (plain : container.IsData) (only : container.OnlyObject given)
    (hosts : Hosts) :
    (container.scope .builtins hosts given).Confined {container.ref} where
  bindings name value found object member := by
    rw [scope, context, Table.find?_insert] at found
    split at found
    · rw [← Option.some.inj found] at member
      exact List.mem_singleton.mp member
    · rcases only name value found with ⟨data, rfl⟩ | rfl
      · cases member
      · exact List.mem_singleton.mp member
  hosts object member := by
    obtain rfl := Set.mem_singleton_iff.mp member
    show (container.join hosts container.ref).Confined _
    rw [join_ref]
    exact confined_hooks plain
  statics owner name member found arguments _ :=
    (Statics.inert_body_of_mem_math (Statics.mem_math_of_member? found) arguments).confined

/-- No template that sees no other host object than a container of data brings out a fault that only host
code raises. -/
theorem raises_nothing (plain : container.IsData) (only : container.OnlyObject given)
    (hosts : Hosts) (template : String) :
    Unraised (Evaluator.run ⟨.ognl .builtins, container, hosts⟩ template given).outcome := by
  show Unraised (Language.run (.ognl .builtins) _ _ template).outcome
  simp only [Language.ognl]
  cases parsed : Template.parse template with
  | ok tree => exact (confined_eval (confined_scope plain only hosts) tree).unraised
  | error fault => exact unraised_error (Template.unraised_parse template fault parsed)

end Container

/-- A fault that evaluation itself gives is no job failure. -/
theorem Fault.jobFailure?_of_isRaised {fault : Fault} (own : fault.isRaised = false) :
    fault.jobFailure? = none := by
  cases fault with
  | jobFailed failure => cases own
  | host cause => cases own
  | _ => rfl

/-- An evaluation that raises no fault of host code is answered by an outcome. -/
theorem Evaluator.exists_outcome {evaluator : Evaluator} {given : Bindings}
    (unraised : ∀ template, Unraised (evaluator.run template given).outcome)
    (template : Option String) :
    ∃ outcome, (evaluator.outcome template (some given)).answer = .ok outcome := by
  by_cases blank : IsBlankRequest template
  · exact ⟨.none, by rw [outcome_of_isBlankRequest blank]⟩
  · cases template with
    | none => exact absurd (by rintro text ⟨⟩) blank
    | some text =>
      rw [outcome_of_present blank, conclude]
      cases ran : (evaluator.run text given).outcome with
      | ok value => exact ⟨.value value, rfl⟩
      | error fault =>
        dsimp only
        rw [Fault.jobFailure?_of_isRaised (unraised text fault ran)]
        exact ⟨.suppressed fault, rfl⟩

namespace CommandLine

/-! ## Requests -/

/-- The text of the bindings; where none is given, that of an empty object. -/
def Request.bindingsText (request : Request) : String :=
  request.bindings.getD "\x7b\x7d"

/-- The name of the engine. -/
def Request.engineName (request : Request) : String :=
  request.engine.getD "ognl"

/-- The bindings that the members of an object are. -/
def bindingsOf (members : Table Json) : Bindings :=
  members.map fun (name, data) => (name, Value.json data)

/-- The text spells an object with the given members. -/
def SpellsObject (text : String) (members : Table Json) : Prop :=
  Json.parse jsonRules text = .ok (.object members)

/-- The specification is a name and the text of a value, with the first equals sign between them. -/
def Specifies (specification : String) (addition : String × Value) : Prop :=
  ∃ text, specification.toList = addition.1.toList ++ '=' :: text ∧ '=' ∉ addition.1.toList ∧
    addition.2 = componentValue text

/-- The exit of a request that fails with a message. -/
def failure (message : String) : Exit :=
  ⟨1, "", message ++ "\n"⟩

/-- The evaluator that a request uses, over the components that it gives. -/
def evaluator (additions : List (String × Value)) : Evaluator :=
  ⟨.ognl .builtins, (Container.empty 0).addAll additions, .none⟩

/-- What is printed of an outcome: the value, or null where there is none. -/
def printed (outcome : Outcome) : String :=
  match outcome.toValue? with
  | some value => value.toJson.pretty
  | none => "null"

variable {request : Request} {members : Table Json} {specification : String}
  {addition : String × Value}

/-! ## Components -/

theorem splitAtEquals?_append {name : List Char} (plain : '=' ∉ name) (text : List Char) :
    splitAtEquals? (name ++ '=' :: text) = some (name, text) := by
  induction name with
  | nil => rfl
  | cons c name ih =>
    have differs : c ≠ '=' := fun same => plain (same ▸ List.mem_cons_self)
    rw [List.cons_append, splitAtEquals?, ih fun member => plain (List.mem_cons_of_mem c member)]
    · rfl
    · exact fun same => differs same

/-- A specification that is in form is read as the addition that it gives. -/
theorem addComponent_of_specifies (container : Container) (gives : Specifies specification addition) :
    addComponent container specification = .ok (container.add addition.1 addition.2) := by
  obtain ⟨text, spelled, plain, value⟩ := gives
  rw [addComponent, spelled, splitAtEquals?_append plain]
  simp only [String.ofList_toList, value]

theorem foldlM_addComponent {specifications : List String} {additions : List (String × Value)}
    (give : List.Forall₂ Specifies specifications additions) (container : Container) :
    specifications.foldlM addComponent container = .ok (container.addAll additions) := by
  induction give generalizing container with
  | nil => rfl
  | cons gives _ ih =>
    rw [List.foldlM_cons, addComponent_of_specifies container gives]
    exact ih _

theorem isData_componentValue (text : List Char) : ∃ data, componentValue text = .json data := by
  unfold componentValue
  split
  · exact ⟨_, rfl⟩
  · exact ⟨_, rfl⟩

/-- What specifications give are data. -/
theorem isData_of_specifies {specifications : List String} {additions : List (String × Value)}
    (give : List.Forall₂ Specifies specifications additions) :
    ∀ addition ∈ additions, ∃ data, addition.2 = .json data := by
  induction give with
  | nil => rintro addition ⟨⟩
  | cons gives _ ih =>
    intro addition member
    rcases List.mem_cons.mp member with rfl | member
    · obtain ⟨text, -, -, value⟩ := gives
      rw [value]
      exact isData_componentValue text
    · exact ih addition member

/-! ## Bindings and engines -/

theorem readBindings_of_spells {text : String} (spells : SpellsObject text members) :
    readBindings text = .ok (bindingsOf members) := by
  rw [readBindings, spells]
  rfl

theorem onlyObject_bindingsOf (container : Container) (members : Table Json) :
    container.OnlyObject (bindingsOf members) := by
  induction members with
  | nil => rintro name value ⟨⟩
  | cons entry rest ih =>
    intro name value found
    have found : Table.find? ((entry.1, Value.json entry.2) :: bindingsOf rest) name = some value :=
      found
    rw [Table.find?_cons] at found
    split at found
    · exact Or.inl ⟨entry.2, (Option.some.inj found).symm⟩
    · exact ih name value found

theorem asciiLower_ognl : Text.asciiLower "ognl" = "ognl" := by
  rw [Text.asciiLower, ← String.toList_inj, String.toList_map]
  decide

/-- The one engine that there is answers under any spelling of its name. -/
theorem evaluate_defaults {container : Container} {hosts : Hosts} {name : String}
    (known : Text.asciiLower name = "ognl") (template : Option String)
    (bindings : Option Bindings) :
    (EngineRegistry.defaults 0 container hosts).evaluate name template bindings =
      (Evaluator.outcome ⟨.ognl .builtins, container, hosts⟩ template bindings).map
        Outcome.toValue? := by
  have found : (EngineRegistry.defaults 0 container hosts).get? "ognl" =
      some (.ofEvaluator 0 ⟨.ognl .builtins, container, hosts⟩) :=
    (Table.find?_cons _ _ _ _).trans (if_pos rfl)
  rw [EngineRegistry.evaluate_of_get? found (known.trans asciiLower_ognl.symm)]
  rfl

/-- A request in form asks its engine. -/
theorem evaluate_of_additions (spells : SpellsObject request.bindingsText members)
    {additions : List (String × Value)}
    (give : List.Forall₂ Specifies request.components additions) :
    evaluate request =
      (let report := (EngineRegistry.defaults 0 ((Container.empty 0).addAll additions) .none).evaluate
        request.engineName request.template (some (bindingsOf members))
      match report.answer with
      | .ok value => .ok (report.events, (value.getD .null).toJson)
      | .error fault => .error (.engine fault)) := by
  have read : readBindings (request.bindings.getD "\x7b\x7d") = .ok (bindingsOf members) :=
    readBindings_of_spells spells
  unfold evaluate
  rw [read, foldlM_addComponent give]
  rfl

theorem printed_eq (outcome : Outcome) :
    printed outcome = (outcome.toValue?.getD .null).toJson.pretty := by
  unfold printed
  cases outcome.toValue? with
  | some value => rfl
  | none => rfl

/-- A request in form is answered with an outcome, which is printed. -/
theorem run_of_additions (spells : SpellsObject request.bindingsText members)
    {additions : List (String × Value)}
    (give : List.Forall₂ Specifies request.components additions)
    (known : Text.asciiLower request.engineName = "ognl") :
    ∃ outcome, ((evaluator additions).outcome request.template
        (some (bindingsOf members))).answer = .ok outcome ∧
      request.run.code = 0 ∧ request.run.output = printed outcome ++ "\n" := by
  have plain : ((Container.empty 0).addAll additions).IsData := by
    refine Container.isData_addAll ?_ (isData_of_specifies give)
    rintro name value ⟨⟩
  have unraised : ∀ template,
      Unraised ((evaluator additions).run template (bindingsOf members)).outcome :=
    Container.raises_nothing plain (onlyObject_bindingsOf _ members) .none
  obtain ⟨outcome, answered⟩ := Evaluator.exists_outcome unraised request.template
  have evaluated := evaluate_of_additions spells give
  rw [evaluate_defaults known] at evaluated
  refine ⟨outcome, answered, ?_⟩
  have ran : evaluate request = .ok (((evaluator additions).outcome request.template
      (some (bindingsOf members))).events, (outcome.toValue?.getD .null).toJson) := by
    refine evaluated.trans ?_
    show (match Except.map Outcome.toValue? ((evaluator additions).outcome request.template
      (some (bindingsOf members))).answer with | .ok value => _ | .error fault => _) = _
    rw [answered]
    rfl
  rw [Request.run, ran, printed_eq]
  exact ⟨rfl, rfl⟩

/-! ## Every request -/

end CommandLine

end Scriptlet
