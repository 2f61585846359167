import Scriptlet.Container
import Scriptlet.Run

/-!
# Log events

What an engine tells the log: that it evaluates a template, each reference to a static member on the
way, and the failure at the end unless it is left to the caller.
-/

set_option autoImplicit false

namespace Scriptlet

/-- How much a log event matters. -/
inductive Level where
  | trace
  | debug
  | warn
  deriving DecidableEq

/-- The name of a level in a log. -/
def Level.name : Level → String
  | trace => "TRACE"
  | debug => "DEBUG"
  | warn => "WARN"

/-- A log event. -/
inductive Event where
  | evaluating (engine template : String)
  | staticCall (owner name : String)
  | failed (engine template : String) (bindings : Bindings) (fault : Fault)

namespace Event

/-- How much the event matters. -/
def level : Event → Level
  | evaluating _ _ => .debug
  | staticCall _ _ => .trace
  | failed _ _ _ _ => .warn

/-- The message of the event. -/
def message : Event → String
  | evaluating _ _ => "evaluating expression"
  | staticCall _ _ => "static call"
  | failed engine _ _ _ => s!"Failed to evaluate {engine} script"

/-- The fields of the event, by name. -/
def fields : Event → List (String × String)
  | evaluating engine template => [("engine", engine), ("template", template)]
  | staticCall owner name => [("class", owner), ("member", name)]
  | failed engine template bindings fault =>
    [("engine", engine), ("template", template), ("bindings", bindings.logText),
     ("error", fault.message)]

/-- The event of a step, if it is logged. -/
def ofStep? : Step → Option Event
  | .staticReference owner name => some (staticCall owner name)
  | _ => none

/-- The events of the steps of a run. -/
def ofSteps (steps : List Step) : List Event :=
  steps.filterMap ofStep?

end Event

end Scriptlet
