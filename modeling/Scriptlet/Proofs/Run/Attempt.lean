import Scriptlet.Method
import Scriptlet.Run

/-!
# Attempts

An attempt is a run with operations that are not defined everywhere: it is done, with the steps and the
outcome of a run, or it crashes, which is no fault and cannot be caught. Taking an argument out of a list
by its place is such an operation.

A method that checks the number of its arguments first is done as soon as it is done for the numbers that
the check lets through (`done_of_checked`).
-/

set_option autoImplicit false

namespace Scriptlet

/-- A run that may crash on the way. -/
inductive Attempt (α : Type) where
  | done (run : Run α)
  | crash

namespace Attempt

variable {α β : Type}

/-- One attempt after another, unless the first fails or crashes. -/
def bind (first : Attempt α) (next : α → Attempt β) : Attempt β :=
  match first with
  | crash => crash
  | done run =>
    match run.outcome with
    | .error fault => done ⟨run.steps, .error fault⟩
    | .ok value =>
      match next value with
      | crash => crash
      | done later => done ⟨run.steps ++ later.steps, later.outcome⟩

instance : Monad Attempt where
  pure value := done (.pure value)
  bind := bind

/-- An attempt without steps that is done. -/
def ofExcept (outcome : Except Fault α) : Attempt α :=
  done (.ofExcept outcome)

/-- The attempt that fails at once. -/
def fail (fault : Fault) : Attempt α :=
  done (.fail fault)

/-- The value that there has to be. -/
def ofOption : Option α → Attempt α
  | some value => pure value
  | none => crash

/-- A call whose reply is attempted. -/
def call (step : Except Fault α → Step) : Attempt α → Attempt α
  | crash => crash
  | done reply => done ⟨reply.steps ++ [step reply.outcome], reply.outcome⟩

/-- The argument at a place. -/
def argument (arguments : List Value) (place : Nat) : Attempt Value :=
  ofOption arguments[place]?

/-- The text that the argument at a place has to be. -/
def textArgument (arguments : List Value) (place : Nat) : Attempt (List Char) := do
  let value ← argument arguments place
  ofExcept value.textArgument

/-- The integer that the argument at a place has to be. -/
def integerArgument (arguments : List Value) (place : Nat) : Attempt Int64 := do
  let value ← argument arguments place
  ofExcept value.integerArgument

/-- The check of the number of arguments. -/
def checkArity (name : String) (arity : Arity) (given : Nat) : Attempt Unit :=
  if arity.accepts given then pure () else fail (arity.violation name given)

/-! ## Attempts that are done -/

theorem pure_bind (value : α) (next : α → Attempt β) : pure value >>= next = next value := by
  show bind (done (.pure value)) next = next value
  unfold bind
  dsimp only [Run.pure]
  cases next value <;> rfl

/-- One attempt after another is done if each of them is. -/
theorem done_bind {run : Run α} {next : α → Attempt β} {later : α → Run β}
    (each : ∀ value, next value = done (later value)) : done run >>= next = done (run >>= later) := by
  obtain ⟨steps, outcome⟩ := run
  cases outcome with
  | error fault => rfl
  | ok value =>
    show bind (done ⟨steps, .ok value⟩) next = _
    unfold bind
    simp only [each]
    rfl

theorem ofExcept_bind {outcome : Except Fault α} {next : α → Attempt β}
    {later : α → Except Fault β}
    (each : ∀ value, outcome = .ok value → next value = ofExcept (later value)) :
    ofExcept outcome >>= next = ofExcept (outcome >>= later) := by
  cases outcome with
  | error fault => rfl
  | ok value => exact (pure_bind value next).trans (each value rfl)

/-- After the check of their number, only accepted numbers of arguments matter. -/
theorem done_of_checked (method : Method) {name : String} {arguments : List Value}
    {body : Unit → Attempt Value}
    (accepted : method.arity.accepts arguments.length = true →
      body () = ofExcept (method.call name arguments)) :
    checkArity name method.arity arguments.length >>= body =
      ofExcept (method.call name arguments) := by
  unfold checkArity
  cases check : method.arity.accepts arguments.length with
  | true =>
    rw [if_pos rfl, pure_bind]
    exact accepted check
  | false =>
    rw [if_neg Bool.false_ne_true, Method.call_eq_violation check]
    rfl

variable {name : String} {arguments : List Value} {body : Unit → Attempt Value}

theorem done_of_nullary {answer : Except Fault Value} (done : body () = ofExcept answer) :
    checkArity name ⟨0, 0⟩ arguments.length >>= body =
      ofExcept ((Method.nullary answer).call name arguments) := by
  refine done_of_checked (.nullary answer) fun accepted => ?_
  match arguments with
  | [] => exact done
  | _ :: _ => simp [Method.arity, Arity.accepts] at accepted

theorem done_of_unary {answer : Value → Except Fault Value}
    (done : ∀ a, arguments = [a] → body () = ofExcept (answer a)) :
    checkArity name ⟨1, 1⟩ arguments.length >>= body =
      ofExcept ((Method.unary answer).call name arguments) := by
  refine done_of_checked (.unary answer) fun accepted => ?_
  match arguments with
  | [a] => exact done a rfl
  | [] | _ :: _ :: _ => simp [Method.arity, Arity.accepts] at accepted

theorem done_of_binary {answer : Value → Value → Except Fault Value}
    (done : ∀ a b, arguments = [a, b] → body () = ofExcept (answer a b)) :
    checkArity name ⟨2, 2⟩ arguments.length >>= body =
      ofExcept ((Method.binary answer).call name arguments) := by
  refine done_of_checked (.binary answer) fun accepted => ?_
  match arguments with
  | [a, b] => exact done a b rfl
  | [] | [_] | _ :: _ :: _ :: _ => simp [Method.arity, Arity.accepts] at accepted

theorem done_of_unaryOrBinary {answer : Value → Option Value → Except Fault Value}
    (one : ∀ a, arguments = [a] → body () = ofExcept (answer a none))
    (two : ∀ a b, arguments = [a, b] → body () = ofExcept (answer a (some b))) :
    checkArity name ⟨1, 2⟩ arguments.length >>= body =
      ofExcept ((Method.unaryOrBinary answer).call name arguments) := by
  refine done_of_checked (.unaryOrBinary answer) fun accepted => ?_
  match arguments with
  | [a] => exact one a rfl
  | [a, b] => exact two a b rfl
  | [] | _ :: _ :: _ :: _ => simp [Method.arity, Arity.accepts] at accepted

end Attempt

end Scriptlet
