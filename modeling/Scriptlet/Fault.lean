import Scriptlet.Value

/-!
# Faults

What can go wrong when a template is read or evaluated, by its cause. The wording is in `message`
alone. A fault that comes out of host code wraps a cause, which may again be a fault or go back to
a further cause.

A job failure is a signal for the application rather than a fault of the template. It is found in a
fault directly, or on the chain of causes behind a host fault. A job failure that stands inside a
nested fault speaks for itself there and has no source, so the chain ends before it.
-/

set_option autoImplicit false

namespace Scriptlet

/-- Why a template cannot be read. -/
inductive SyntaxFault where
  | identifierExpected
  | expected (c : Char)
  | unexpected (c : Char)
  | unexpectedEnd
  | operandExpected
  | classMarkExpected
  | unterminatedString
  | integerOutOfRange
  | doubleOutOfRange
  | trailingInput
  | tooDeep
  | other (text : String)
  deriving DecidableEq

/-- Why a value does not fit where it stands. Kinds are named as `Value.kind` names them. -/
inductive Mismatch where
  | numberExpected (kind : String)
  | integerArgument (kind : String)
  | stringArgument (kind : String)
  | listIndex (kind : String)
  | componentName (kind : String)
  | index (target kind : String)
  | comparison (left right : String)
  | other (text : String)
  deriving DecidableEq

/-- How many arguments a member takes. -/
structure Arity where
  least : Nat
  greatest : Nat
  deriving DecidableEq

/-- The arity that a fault mentions: that of a member, or what host code says of its own. -/
inductive ExpectedArity where
  | arity (arity : Arity)
  | other (text : String)
  deriving DecidableEq

/-- A failure of the application's job, raised by host code. -/
structure JobFailure where
  reason : String
  deriving DecidableEq

/-- What an engine reports to its caller besides outcomes. -/
inductive EngineFault where
  | missingBindings
  | jobFailed (failure : JobFailure)
  | unknownEngine (name : String)
  | duplicateEngine (name : String)
  deriving DecidableEq

mutual

/-- What goes wrong when a template is read or evaluated. -/
inductive Fault where
  | unreadable (position : Nat) (reason : SyntaxFault)
  | unknownVariable (name : String)
  | noSuchProperty (target name : String)
  | noSuchMethod (target name : String)
  | typeMismatch (reason : Mismatch)
  | divisionByZero
  | overflow
  | nonFinite
  | indexOutOfBounds (index : Int) (length : Nat)
  | wrongArity (name : String) (expected : ExpectedArity) (given : Nat)
  | jobFailed (failure : JobFailure)
  | host (cause : Cause)

/-- What is behind a fault of host code. -/
inductive Cause where
  | job (failure : JobFailure)
  | fault (fault : Fault)
  | engine (fault : EngineFault)
  | foreign (text : String)
  | foreignFrom (text : String) (source : Cause)

end

/-! ## Wording -/

/-- The reason in words. -/
def SyntaxFault.message : SyntaxFault → String
  | identifierExpected => "identifier expected"
  | expected c => s!"expected '{c}'"
  | unexpected c => s!"unexpected '{c}'"
  | unexpectedEnd => "unexpected end of expression"
  | operandExpected => "operand expected"
  | classMarkExpected => "expected '@' after class name"
  | unterminatedString => "unterminated string"
  | integerOutOfRange => "integer literal out of range"
  | doubleOutOfRange => "float literal out of range"
  | trailingInput => "trailing input"
  | tooDeep => "expression nested too deeply"
  | other text => text

/-- The reason in words. -/
def Mismatch.message : Mismatch → String
  | numberExpected kind => s!"expected number, got {kind}"
  | integerArgument kind => s!"expected integer argument, got {kind}"
  | stringArgument kind => s!"expected string argument, got {kind}"
  | listIndex kind => s!"list index must be an integer, got {kind}"
  | componentName kind => s!"component name must be a string, got {kind}"
  | index target kind => s!"cannot index {target} with {kind}"
  | comparison left right => s!"cannot compare {left} with {right}"
  | other text => text

/-- The arity in words: one number, or the two ends of a range. -/
def Arity.message (arity : Arity) : String :=
  if arity.least = arity.greatest then toString arity.least
  else s!"{arity.least}..={arity.greatest}"

/-- The arity in words. -/
def ExpectedArity.message : ExpectedArity → String
  | arity a => a.message
  | other text => text

/-- The failure in words. -/
def JobFailure.message (failure : JobFailure) : String :=
  s!"job processing failed: {failure.reason}"

/-- The fault in words. -/
def EngineFault.message : EngineFault → String
  | missingBindings => "bindings must be provided"
  | jobFailed failure => failure.message
  | unknownEngine name => s!"no script engine named `{name}`"
  | duplicateEngine name => s!"a script engine named `{name}` is already registered"

mutual

/-- The fault in words. -/
def Fault.message : Fault → String
  | .unreadable position reason => s!"parse error at {position}: {reason.message}"
  | .unknownVariable name => s!"unknown variable `{name}`"
  | .noSuchProperty target name => s!"no property `{name}` on {target}"
  | .noSuchMethod target name => s!"no method `{name}` on {target}"
  | .typeMismatch reason => s!"type mismatch: {reason.message}"
  | .divisionByZero => "division by zero"
  | .overflow => "integer overflow"
  | .nonFinite => "result is not a finite number"
  | .indexOutOfBounds index length => s!"index {index} out of bounds for length {length}"
  | .wrongArity name expected given =>
    s!"`{name}` expects {expected.message} argument(s), got {given}"
  | .jobFailed failure => failure.message
  | .host cause => "host error: " ++ cause.message

/-- The cause in words. -/
def Cause.message : Cause → String
  | .job failure => failure.message
  | .fault fault => fault.message
  | .engine fault => fault.message
  | .foreign text => text
  | .foreignFrom text _ => text

end

/-! ## The chain of causes -/

/-- The causes from this one on, each the source of the one before it. -/
def Cause.chain : Cause → List Cause
  | .fault (.host cause) => .fault (.host cause) :: cause.chain
  | .foreignFrom text source => .foreignFrom text source :: source.chain
  | cause => [cause]

/-- The causes behind a fault. -/
def Fault.causes : Fault → List Cause
  | .host cause => cause.chain
  | _ => []

/-- The job failure that a cause is. -/
def Cause.ownJob? : Cause → Option JobFailure
  | .job failure => some failure
  | _ => none

/-- The job failure that a fault carries: the fault itself, or the first on its chain of causes. -/
def Fault.jobFailure? (fault : Fault) : Option JobFailure :=
  match fault with
  | .jobFailed failure => some failure
  | fault => fault.causes.findSome? Cause.ownJob?

/-- The fault that a call with another number of arguments is. -/
def Arity.violation (name : String) (arity : Arity) (given : Nat) : Fault :=
  .wrongArity name (.arity arity) given

/-- Whether the number of arguments is accepted. -/
def Arity.accepts (arity : Arity) (given : Nat) : Bool :=
  arity.least ≤ given && given ≤ arity.greatest

end Scriptlet
