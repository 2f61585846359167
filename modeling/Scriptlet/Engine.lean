import Scriptlet.Event
import Scriptlet.Language

/-!
# Engines

An engine evaluates templates over the bindings of its caller, which may leave out either. A
missing or blank template has no value, whatever the bindings; otherwise missing bindings are a
fault. A failed evaluation is logged and suppressed, unless it carries a job failure, which is
for the caller.
-/

set_option autoImplicit false

namespace Scriptlet

/-- What came of an evaluation: a value, nothing for want of a template, or a failure that is already
logged. -/
inductive Outcome where
  | value (value : Value)
  | none
  | suppressed (fault : Fault)

/-- The value that there is, where null counts as none. -/
def Outcome.toValue? : Outcome → Option Value
  | value v => if v.isNull then .none else some v
  | none => .none
  | suppressed _ => .none

/-- An answer to a caller, and the events logged on the way. -/
structure Report (α : Type) where
  events : List Event
  answer : Except EngineFault α

/-- The same report with a part of the answer. -/
def Report.map {α β : Type} (f : α → β) (report : Report α) : Report β :=
  ⟨report.events, report.answer.map f⟩

/-- Whether a template is blank. -/
def isBlankTemplate (template : String) : Bool :=
  template.toList.all Text.isBlank

/-- A language at work for an application: with its container and its other host objects. -/
structure Evaluator where
  language : Language
  container : Container
  hosts : Hosts

namespace Evaluator

/-- The run of a template over the bindings of a caller. -/
def run (evaluator : Evaluator) (template : String) (bindings : Bindings) : Run Value :=
  evaluator.language.run (evaluator.container.join evaluator.hosts)
    (evaluator.container.context bindings) template

/-- What is reported of a run. -/
def conclude (evaluator : Evaluator) (template : String) (bindings : Bindings) (run : Run Value) :
    Report Outcome :=
  let engine := evaluator.language.name
  let events := .evaluating engine template :: Event.ofSteps run.steps
  match run.outcome with
  | .ok value => ⟨events, .ok (.value value)⟩
  | .error fault =>
    match fault.jobFailure? with
    | some failure => ⟨events, .error (.jobFailed failure)⟩
    | none => ⟨events ++ [.failed engine template bindings fault], .ok (.suppressed fault)⟩

/-- The outcome of a template, if there is one, over bindings, if there are any. -/
def outcome (evaluator : Evaluator) (template : Option String) (bindings : Option Bindings) :
    Report Outcome :=
  match template with
  | none => ⟨[], .ok .none⟩
  | some template =>
    if isBlankTemplate template then ⟨[], .ok .none⟩
    else
      match bindings with
      | none => ⟨[], .error .missingBindings⟩
      | some bindings =>
        evaluator.conclude template bindings (evaluator.run template bindings)

end Evaluator

/-- An engine as callers choose it: a mark of its own, its name, and what it answers. -/
structure Engine where
  mark : Nat
  name : String
  evaluate : Option String → Option Bindings → Report (Option Value)

namespace Engine

/-- The engine of an evaluator. -/
def ofEvaluator (mark : Nat) (evaluator : Evaluator) : Engine where
  mark
  name := evaluator.language.name
  evaluate template bindings := (evaluator.outcome template bindings).map Outcome.toValue?

/-- An engine that answers its templates as texts. -/
def echo (mark : Nat) (name : String) : Engine where
  mark
  name
  evaluate template bindings :=
    match bindings with
    | none => ⟨[], .error .missingBindings⟩
    | some _ => ⟨[], .ok (template.map Value.string)⟩

end Engine

end Scriptlet
