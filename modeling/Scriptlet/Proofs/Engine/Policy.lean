import Scriptlet.Proofs.Engine.Registry
import Scriptlet.Proofs.Evaluation.Bindings

/-!
# What callers and logs get to see

The policy of the engine for expressions (`Evaluator.Policy`): which requests have no outcome at all,
which events the others leave in the log, and which faults a caller has to expect. A registry forgets
why there is no value and keeps everything else (`Conflates`). What a caller binds to the name of the
container is never seen by a template, only by the log.
-/

set_option autoImplicit false

namespace Scriptlet

/-- No template is given, or one of blanks only. -/
def IsBlankRequest (template : Option String) : Prop :=
  ∀ text ∈ template, ∀ c ∈ text.toList, Text.isBlank c = true

/-- The warnings that an answer leaves in the log: one if a fault is suppressed. -/
def warnings (engine template : String) (bindings : Bindings) :
    Except EngineFault Outcome → List Event
  | .ok (.suppressed fault) => [.failed engine template bindings fault]
  | _ => []

/-- The event without the bindings that it shows. -/
def Event.withoutBindings : Event → Event
  | failed engine template _ fault => .failed engine template [] fault
  | event => event

namespace Evaluator

/-- What an evaluator reports of a template over bindings. -/
structure Policy (evaluator : Evaluator) (template : Option String) (bindings : Option Bindings) :
    Prop where
  /-- There is no outcome exactly for want of a template. -/
  none_iff : (evaluator.outcome template bindings).answer = .ok .none ↔ IsBlankRequest template
  /-- Otherwise bindings are missed exactly where there are none. -/
  missing_iff : (evaluator.outcome template bindings).answer = .error .missingBindings ↔
    ¬IsBlankRequest template ∧ bindings = none
  /-- In both cases nothing is logged. -/
  quiet : IsBlankRequest template ∨ bindings = none →
    (evaluator.outcome template bindings).events = []
  /-- Otherwise the evaluation is logged first, then references to static members, of which there are
  none without an expression, and at last the caller's bindings with the fault that is suppressed. -/
  logged : ∀ text given, template = some text → bindings = some given → ¬IsBlankRequest template →
    ∃ references : List (String × String),
      ((∀ tree, Template.parse text ≠ .ok tree) → references = []) ∧
      (evaluator.outcome template bindings).events =
        .evaluating evaluator.language.name text ::
          references.map (fun reference => .staticCall reference.1 reference.2) ++
          warnings evaluator.language.name text given (evaluator.outcome template bindings).answer
  /-- Callers have to expect missing bindings and job failures, and no other fault. -/
  faults : ∀ fault, (evaluator.outcome template bindings).answer = .error fault →
    fault = .missingBindings ∨ ∃ failure, fault = .jobFailed failure

theorem isBlankRequest_some {text : String} :
    IsBlankRequest (some text) ↔ isBlankTemplate text = true := by
  simp [IsBlankRequest, isBlankTemplate]

variable {evaluator : Evaluator} {text : String} {given : Bindings}

theorem outcome_of_isBlankRequest {template : Option String} (blank : IsBlankRequest template)
    (bindings : Option Bindings) : evaluator.outcome template bindings = ⟨[], .ok .none⟩ := by
  cases template with
  | none => rfl
  | some text => simp only [outcome, isBlankRequest_some.mp blank, if_true]

theorem outcome_of_no_bindings {template : Option String} (present : ¬IsBlankRequest template) :
    evaluator.outcome template none = ⟨[], .error .missingBindings⟩ := by
  cases template with
  | none => exact absurd (by rintro text ⟨⟩) present
  | some text => rw [outcome, if_neg (mt isBlankRequest_some.mpr present)]

theorem outcome_of_present (present : ¬IsBlankRequest (some text)) :
    evaluator.outcome (some text) (some given) =
      evaluator.conclude text given (evaluator.run text given) := by
  rw [outcome, if_neg (mt isBlankRequest_some.mpr present)]

/-- The events of steps are references to static members. -/
theorem exists_ofSteps_eq (steps : List Step) :
    ∃ references : List (String × String),
      Event.ofSteps steps = references.map fun reference => .staticCall reference.1 reference.2 := by
  induction steps with
  | nil => exact ⟨[], rfl⟩
  | cons step steps ih =>
    obtain ⟨references, events⟩ := ih
    cases step with
    | staticReference owner name =>
      refine ⟨(owner, name) :: references, ?_⟩
      simp only [Event.ofSteps, List.filterMap_cons, Event.ofStep?, List.map_cons] at events ⊢
      rw [events]
    | _ => exact ⟨references, events⟩

/-- A conclusion is a value, a job failure or a suppressed fault, and only the last is logged. -/
theorem conclude_cases (evaluator : Evaluator) (text : String) (given : Bindings)
    (run : Run Value) :
    (∃ value, evaluator.conclude text given run =
      ⟨.evaluating evaluator.language.name text :: Event.ofSteps run.steps, .ok (.value value)⟩) ∨
    (∃ failure, evaluator.conclude text given run =
      ⟨.evaluating evaluator.language.name text :: Event.ofSteps run.steps,
        .error (.jobFailed failure)⟩) ∨
    (∃ fault, evaluator.conclude text given run =
      ⟨.evaluating evaluator.language.name text :: Event.ofSteps run.steps ++
        [.failed evaluator.language.name text given fault], .ok (.suppressed fault)⟩) := by
  unfold conclude
  cases run.outcome with
  | ok value => exact Or.inl ⟨value, rfl⟩
  | error fault =>
    cases job : fault.jobFailure? with
    | some failure => exact Or.inr (Or.inl ⟨failure, by simp only [job]⟩)
    | none => exact Or.inr (Or.inr ⟨fault, by simp only [job]⟩)

theorem conclude_events (evaluator : Evaluator) (text : String) (given : Bindings)
    (run : Run Value) :
    (evaluator.conclude text given run).events =
      .evaluating evaluator.language.name text :: Event.ofSteps run.steps ++
        warnings evaluator.language.name text given (evaluator.conclude text given run).answer := by
  rcases conclude_cases evaluator text given run with
    ⟨_, conclusion⟩ | ⟨_, conclusion⟩ | ⟨_, conclusion⟩ <;> rw [conclusion]
  · exact (List.append_nil _).symm
  · exact (List.append_nil _).symm
  · rfl

/-! ## The policy -/

theorem policy_of_isBlankRequest {template : Option String} (blank : IsBlankRequest template)
    (bindings : Option Bindings) : Policy evaluator template bindings := by
  have report : evaluator.outcome template bindings = _ := outcome_of_isBlankRequest blank bindings
  constructor
  · rw [report]
    exact ⟨fun _ => blank, fun _ => rfl⟩
  · rw [report]
    exact ⟨nofun, fun missing => absurd blank missing.1⟩
  · rw [report]
    exact fun _ => rfl
  · exact fun _ _ _ _ present => absurd blank present
  · rw [report]
    exact nofun

theorem policy_of_no_bindings {template : Option String} (present : ¬IsBlankRequest template) :
    Policy evaluator template none := by
  have report : evaluator.outcome template none = _ := outcome_of_no_bindings present
  constructor
  · rw [report]
    exact ⟨nofun, fun blank => absurd blank present⟩
  · rw [report]
    exact ⟨fun _ => ⟨present, rfl⟩, fun _ => rfl⟩
  · rw [report]
    exact fun _ => rfl
  · exact nofun
  · rw [report]
    rintro fault ⟨⟩
    exact Or.inl rfl

theorem policy_of_present (present : ¬IsBlankRequest (some text))
    (silent : (∀ tree, Template.parse text ≠ .ok tree) → (evaluator.run text given).steps = []) :
    Policy evaluator (some text) (some given) := by
  have report : evaluator.outcome (some text) (some given) = _ := outcome_of_present present
  have conclusion := conclude_cases evaluator text given (evaluator.run text given)
  constructor
  · refine ⟨fun answer => ?_, fun blank => absurd blank present⟩
    rw [report] at answer
    rcases conclusion with ⟨_, same⟩ | ⟨_, same⟩ | ⟨_, same⟩ <;> rw [same] at answer <;> cases answer
  · refine ⟨fun answer => ?_, nofun⟩
    rw [report] at answer
    rcases conclusion with ⟨_, same⟩ | ⟨_, same⟩ | ⟨_, same⟩ <;> rw [same] at answer <;> cases answer
  · rintro (blank | missing)
    · exact absurd blank present
    · cases missing
  · rintro _ _ ⟨⟩ ⟨⟩ _
    obtain ⟨references, events⟩ := exists_ofSteps_eq (evaluator.run text given).steps
    refine ⟨references, fun unreadable => ?_, ?_⟩
    · rw [silent unreadable] at events
      exact List.map_eq_nil_iff.mp events.symm
    · rw [report, conclude_events, events]
  · intro fault answer
    rw [report] at answer
    rcases conclusion with ⟨_, same⟩ | ⟨failure, same⟩ | ⟨_, same⟩ <;> rw [same] at answer <;>
      cases answer
    exact Or.inr ⟨failure, rfl⟩

/-- The policy is kept by every evaluator that does nothing with a template that is no expression. -/
theorem policy_of_silent
    (silent : ∀ text given, (∀ tree, Template.parse text ≠ .ok tree) →
      (evaluator.run text given).steps = [])
    (template : Option String) (bindings : Option Bindings) :
    Policy evaluator template bindings := by
  by_cases blank : IsBlankRequest template
  · exact policy_of_isBlankRequest blank bindings
  · cases template with
    | none => exact absurd (by rintro text ⟨⟩) blank
    | some text =>
      cases bindings with
      | none => exact policy_of_no_bindings blank
      | some given => exact policy_of_present blank (silent text given)

theorem policy_ognl (statics : Statics) (container : Container) (hosts : Hosts)
    (template : Option String) (bindings : Option Bindings) :
    Policy ⟨.ognl statics, container, hosts⟩ template bindings := by
  refine policy_of_silent (fun text given unreadable => ?_) template bindings
  simp only [run, Language.ognl]
  cases parsed : Template.parse text with
  | ok tree => exact absurd parsed (unreadable tree)
  | error fault => rfl

/-! ## The name of the container -/

/-- What is bound to the name of the container is not seen. -/
theorem run_ognl_congr {statics : Statics} {container : Container} {hosts : Hosts} {other : Bindings}
    (same : ∀ name, name ≠ Container.bindingName → other.find? name = given.find? name) :
    run ⟨.ognl statics, container, hosts⟩ text other =
      run ⟨.ognl statics, container, hosts⟩ text given := by
  have contexts : ∀ name, (container.context other).find? name =
      (container.context given).find? name := by
    intro name
    rw [Container.context, Container.context, Table.find?_insert, Table.find?_insert]
    split
    · rfl
    · rename_i differs
      exact same name differs
  simp only [run, Language.ognl]
  cases Template.parse text with
  | ok tree =>
    refine eval_congr ?_ ?_ ?_ tree
    · rfl
    · rfl
    · exact contexts
  | error fault => rfl

/-- The bindings only show in the events of a conclusion. -/
theorem conclude_congr (evaluator : Evaluator) (text : String) (given other : Bindings)
    (run : Run Value) :
    (evaluator.conclude text other run).answer = (evaluator.conclude text given run).answer ∧
    (evaluator.conclude text other run).events.map Event.withoutBindings =
      (evaluator.conclude text given run).events.map Event.withoutBindings := by
  unfold conclude
  cases run.outcome with
  | ok value => exact ⟨rfl, rfl⟩
  | error fault =>
    cases job : fault.jobFailure? with
    | some failure => constructor <;> simp only [job]
    | none =>
      constructor <;>
        simp only [job, List.map_append, List.map_cons, List.map_nil, Event.withoutBindings]

end Evaluator

/-! ## Registries -/

theorem toValue?_eq_some_iff {outcome : Outcome} {value : Value} :
    outcome.toValue? = some value ↔ outcome = .value value ∧ value.isNull = false := by
  cases outcome with
  | value other =>
    cases null : other.isNull with
    | true =>
      simp only [Outcome.toValue?, null, if_true]
      refine ⟨nofun, ?_⟩
      rintro ⟨⟨⟩, some_⟩
      rw [null] at some_
      cases some_
    | false =>
      simp only [Outcome.toValue?, null, Bool.false_eq_true, if_false]
      constructor
      · rintro ⟨⟩
        exact ⟨rfl, null⟩
      · rintro ⟨⟨⟩, -⟩
        rfl
  | none => exact ⟨nofun, nofun⟩
  | suppressed fault => exact ⟨nofun, nofun⟩

theorem toValue?_eq_none_iff {outcome : Outcome} :
    outcome.toValue? = none ↔ outcome = .none ∨ (∃ fault, outcome = .suppressed fault) ∨
      ∃ value, outcome = .value value ∧ value.isNull = true := by
  cases outcome with
  | value other => cases null : other.isNull <;> simp [Outcome.toValue?, null]
  | none => simp [Outcome.toValue?]
  | suppressed fault => simp [Outcome.toValue?]

/-- What a registry reports when an engine reports an outcome: null and all that is no value become
one, the rest stays. -/
structure Conflates (direct : Report Outcome) (report : Report (Option Value)) : Prop where
  events : report.events = direct.events
  some_iff : ∀ value, report.answer = .ok (some value) ↔
    direct.answer = .ok (.value value) ∧ value.isNull = false
  none_iff : report.answer = .ok none ↔
    direct.answer = .ok .none ∨ (∃ fault, direct.answer = .ok (.suppressed fault)) ∨
      ∃ value, direct.answer = .ok (.value value) ∧ value.isNull = true
  error_iff : ∀ fault, report.answer = .error fault ↔ direct.answer = .error fault

theorem conflates_map (direct : Report Outcome) :
    Conflates direct (direct.map Outcome.toValue?) := by
  obtain ⟨events, answer⟩ := direct
  cases answer with
  | error fault => exact ⟨rfl, by simp [Report.map, Except.map], by simp [Report.map, Except.map],
      by simp [Report.map, Except.map]⟩
  | ok outcome =>
    refine ⟨rfl, fun value => ?_, ?_, fun fault => ⟨nofun, nofun⟩⟩
    · simp only [Report.map, Except.map, Except.ok.injEq]
      exact toValue?_eq_some_iff
    · simp only [Report.map, Except.map, Except.ok.injEq]
      exact toValue?_eq_none_iff

/-- The engine under any spelling of its name in a registry, whatever has been registered since. -/
theorem conflates_evaluate {mark : Nat} {evaluator : Evaluator}
    {registry start final : EngineRegistry} {engines : List Engine} {name : String}
    (registered : registry.register (.ofEvaluator mark evaluator) = .ok start)
    (later : start.registerAll engines = .ok final)
    (spelling : Text.asciiLower name = Text.asciiLower evaluator.language.name)
    (template : Option String) (bindings : Option Bindings) :
    Conflates (evaluator.outcome template bindings) (final.evaluate name template bindings) := by
  have found := EngineRegistry.get?_of_registerAll later (EngineRegistry.get?_of_register registered)
  rw [EngineRegistry.evaluate_of_get? found spelling]
  exact conflates_map _

/-- The policy of the engine for expressions towards its callers and the log, directly and by way of a
registry. -/
theorem failure_policy (statics : Statics) (container : Container) (hosts : Hosts)
    (template : Option String) (bindings : Option Bindings) :
    let evaluator : Evaluator := ⟨.ognl statics, container, hosts⟩
    evaluator.Policy template bindings ∧
    (∀ mark registry start engines final name,
      EngineRegistry.register registry (.ofEvaluator mark evaluator) = .ok start →
      start.registerAll engines = .ok final →
      Text.asciiLower name = Text.asciiLower "ognl" →
      Conflates (evaluator.outcome template bindings) (final.evaluate name template bindings)) ∧
    ∀ given other : Bindings,
      (∀ name, name ≠ Container.bindingName → other.find? name = given.find? name) →
      (evaluator.outcome template (some other)).answer =
        (evaluator.outcome template (some given)).answer ∧
      (evaluator.outcome template (some other)).events.map Event.withoutBindings =
        (evaluator.outcome template (some given)).events.map Event.withoutBindings := by
  refine ⟨Evaluator.policy_ognl statics container hosts template bindings, ?_, ?_⟩
  · intro mark registry start engines final name registered later spelling
    exact conflates_evaluate registered later spelling template bindings
  · intro given other same
    by_cases blank : IsBlankRequest template
    · rw [Evaluator.outcome_of_isBlankRequest blank, Evaluator.outcome_of_isBlankRequest blank]
      exact ⟨rfl, rfl⟩
    · cases template with
      | none => exact absurd (by rintro text ⟨⟩) blank
      | some text =>
        rw [Evaluator.outcome_of_present blank, Evaluator.outcome_of_present blank,
          Evaluator.run_ognl_congr same]
        exact Evaluator.conclude_congr _ text given other _

/-- An unknown variable is suppressed by the engine and no value of the registry. -/
theorem failure_policy_unknown :
    ((EngineRegistry.defaults 0 (.empty 0) .none).evaluate "OGNL" (some "x") (some [])).answer =
      .ok none := by
  obtain ⟨-, conflates, -⟩ := failure_policy .builtins (.empty 0) .none (some "x") (some [])
  let registry := EngineRegistry.defaults 0 (.empty 0) .none
  have spelling : Text.asciiLower "OGNL" = Text.asciiLower "ognl" := by
    rw [Text.asciiLower, Text.asciiLower, ← String.toList_inj, String.toList_map,
      String.toList_map]
    decide
  have report := conflates 0 [] registry [] registry "OGNL" rfl rfl spelling
  have suppressed : (Evaluator.outcome ⟨.ognl .builtins, .empty 0, .none⟩ (some "x")
      (some [])).answer = .ok (.suppressed (.unknownVariable "x")) := by
    with_unfolding_all rfl
  exact report.none_iff.mpr (Or.inr (Or.inl ⟨.unknownVariable "x", suppressed⟩))

end Scriptlet
