import Scriptlet.Fault

/-!
# Runs

A run is what an evaluation did and what came of it. The steps are the calls that left the
evaluator, in order and with their replies: reading a property of a host object, calling a method
of one, calling a static member. A reference to a static member is a step of its own before the
member is looked up, since it is logged even when there is no such member.

Runs follow one another (`bind`) until one fails: steps add up, and after a fault nothing happens.
-/

set_option autoImplicit false

namespace Scriptlet

/-- What an evaluation does outside the evaluator. -/
inductive Step where
  | staticReference (owner name : String)
  | property (target : HostRef) (name : String) (reply : Except Fault Value)
  | method (target : HostRef) (name : String) (arguments : List Value) (reply : Except Fault Value)
  | static (owner name : String) (arguments : List Value) (reply : Except Fault Value)

/-- The steps of an evaluation, and its value or its fault. -/
structure Run (α : Type) where
  steps : List Step
  outcome : Except Fault α

namespace Run

variable {α β γ : Type}

/-- The run that answers at once. -/
def pure (value : α) : Run α := ⟨[], .ok value⟩

/-- The run that fails at once. -/
def fail (fault : Fault) : Run α := ⟨[], .error fault⟩

/-- A run without steps. -/
def ofExcept (outcome : Except Fault α) : Run α := ⟨[], outcome⟩

/-- The run of one step. -/
def step (step : Step) : Run Unit := ⟨[step], .ok ()⟩

/-- The run of one call with the given reply, which is also what comes of it. -/
def call (step : Except Fault α → Step) (reply : Except Fault α) : Run α := ⟨[step reply], reply⟩

/-- One run after another, unless the first fails. -/
def bind (run : Run α) (next : α → Run β) : Run β :=
  match run.outcome with
  | .ok value => ⟨run.steps ++ (next value).steps, (next value).outcome⟩
  | .error fault => ⟨run.steps, .error fault⟩

instance : Monad Run where
  pure := pure
  bind := bind

@[ext] theorem ext {r s : Run α} (hs : r.steps = s.steps) (ho : r.outcome = s.outcome) : r = s := by
  cases r
  cases s
  simp_all

@[simp] theorem pure_bind (value : α) (next : α → Run β) : bind (pure value) next = next value := rfl

@[simp] theorem bind_pure (run : Run α) : bind run pure = run := by
  obtain ⟨steps, outcome⟩ := run
  cases outcome <;> simp [bind, pure]

theorem bind_assoc (run : Run α) (f : α → Run β) (g : β → Run γ) :
    bind (bind run f) g = bind run fun value => bind (f value) g := by
  obtain ⟨steps, outcome⟩ := run
  cases outcome with
  | error fault => rfl
  | ok value =>
    cases h : (f value).outcome <;> simp [bind, h]

instance : LawfulMonad Run :=
  .mk' Run bind_pure (fun value next => pure_bind value next) bind_assoc

end Run

end Scriptlet
