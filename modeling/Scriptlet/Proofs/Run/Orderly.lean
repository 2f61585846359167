import Mathlib.Data.Set.Basic
import Scriptlet.Host

/-!
# Orderly runs

A run is orderly if it calls out as its caller may expect (`Run.Orderly`): it goes on only after calls
that succeeded, a call that fails decides its outcome, a fault that only a call can raise comes from
its last call, there are no more calls than allowed, and every host object that it hands to a call
or answers was known to it or answered by an earlier call.

Each of these is kept when one run follows another (`Orderly.bind`), where the later run knows what the
calls of the earlier one answered.
-/

set_option autoImplicit false

namespace Scriptlet

variable {α β : Type}

/-! ## Calls -/

/-- The host objects that a value is: itself or none, since data holds no host object. -/
def Value.objects : Value → List HostRef
  | json _ => []
  | host object => [object]

/-- The host objects among some values. -/
def Value.objectsOf (values : List Value) : List HostRef :=
  values.flatMap Value.objects

namespace Step

/-- The reply of a call; a reference to a static member is no call yet. -/
def reply? : Step → Option (Except Fault Value)
  | staticReference _ _ => none
  | property _ _ reply => some reply
  | method _ _ _ reply => some reply
  | static _ _ _ reply => some reply

/-- The host objects that are handed out: the one that is called, and the arguments. -/
def objects : Step → List HostRef
  | staticReference _ _ => []
  | property target _ _ => [target]
  | method target _ arguments _ => target :: Value.objectsOf arguments
  | static _ _ arguments _ => Value.objectsOf arguments

end Step

/-- The calls of a run, in order. -/
def Run.calls (run : Run α) : List Step :=
  run.steps.filter fun step => step.reply?.isSome

/-- The host objects that are known after some calls: those known before, and those answered. -/
def knownAfter (known : Set HostRef) (calls : List Step) : Set HostRef :=
  {object | object ∈ known ∨ ∃ call ∈ calls, call.reply? = some (.ok (.host object))}

theorem knownAfter_append (known : Set HostRef) (first later : List Step) :
    knownAfter known (first ++ later) = knownAfter (knownAfter known first) later := by
  ext object
  simp only [knownAfter, Set.mem_ofPred_eq, List.mem_append, or_and_right, exists_or, or_assoc]

theorem mem_knownAfter_of_mem {known : Set HostRef} {object : HostRef} (mem : object ∈ known)
    (calls : List Step) : object ∈ knownAfter known calls :=
  Or.inl mem

/-- A fault that evaluation itself never gives: it comes out of host code. -/
def Fault.isRaised : Fault → Bool
  | host _ | jobFailed _ => true
  | _ => false

/-! ## Orderly runs -/

/-- The run calls out as its caller may expect, given the host objects that it knows before, how often it
may call, and which host objects a value of it holds. -/
structure Run.Orderly (known : Set HostRef) (allowed : Nat) (objects : α → List HostRef)
    (run : Run α) : Prop where
  /-- Every call but the last succeeded. -/
  succeeded : ∀ before call later, run.calls = before ++ call :: later → later ≠ [] →
    ∃ value, call.reply? = some (.ok value)
  /-- If the last call failed, its fault is the outcome. -/
  passed : ∀ before call fault, run.calls = before ++ [call] →
    call.reply? = some (.error fault) → run.outcome = .error fault
  /-- A fault that only host code raises is the fault of the last call. -/
  raised : ∀ fault, run.outcome = .error fault → fault.isRaised = true →
    ∃ before call, run.calls = before ++ [call] ∧ call.reply? = some (.error fault)
  /-- There are at most as many calls as allowed. -/
  counted : run.calls.length ≤ allowed
  /-- Calls are made to and with known objects. -/
  grounded : ∀ before call later, run.calls = before ++ call :: later →
    ∀ object ∈ call.objects, object ∈ knownAfter known before
  /-- The value holds known objects only. -/
  answered : ∀ value, run.outcome = .ok value →
    ∀ object ∈ objects value, object ∈ knownAfter known run.calls

namespace Run

variable {known : Set HostRef} {allowed more : Nat} {objects : α → List HostRef}
  {objects' : β → List HostRef}

/-- A run without calls is orderly if its outcome is one that evaluation itself may give. -/
theorem orderly_of_calls_eq_nil {run : Run α} (silent : run.calls = [])
    (own : ∀ fault, run.outcome = .error fault → fault.isRaised = false)
    (answered : ∀ value, run.outcome = .ok value → ∀ object ∈ objects value, object ∈ known) :
    run.Orderly known 0 objects where
  succeeded := by
    intro before call later calls
    simp [silent] at calls
  passed := by
    intro before call fault calls
    simp [silent] at calls
  raised := by
    intro fault outcome isRaised
    rw [own fault outcome] at isRaised
    cases isRaised
  counted := by rw [silent]; exact Nat.le_refl 0
  grounded := by
    intro before call later calls
    simp [silent] at calls
  answered := by
    intro value outcome object mem
    exact mem_knownAfter_of_mem (answered value outcome object mem) _

theorem Orderly.mono {run : Run α} (orderly : run.Orderly known allowed objects)
    (le : allowed ≤ more) : run.Orderly known more objects :=
  { orderly with counted := Nat.le_trans orderly.counted le }

/-- All calls of a run with a value succeeded. -/
theorem Orderly.reply_of_value {run : Run α} (orderly : run.Orderly known allowed objects)
    {value : α} (outcome : run.outcome = .ok value) {call : Step} (mem : call ∈ run.calls) :
    ∃ answer, call.reply? = some (.ok answer) := by
  obtain ⟨before, later, split⟩ := List.append_of_mem mem
  cases later with
  | cons next later => exact orderly.succeeded before call _ split (List.cons_ne_nil _ _)
  | nil =>
    have isCall : call.reply?.isSome = true := (List.mem_filter.mp mem).2
    obtain ⟨reply, found⟩ := Option.isSome_iff_exists.mp isCall
    cases reply with
    | ok answer => exact ⟨answer, found⟩
    | error fault =>
      have failed := orderly.passed before call fault split found
      rw [outcome] at failed
      cases failed

/-- A split of two lists of calls is a split of one of them. -/
theorem split_append {first second before later : List Step} {call : Step}
    (split : first ++ second = before ++ call :: later) :
    (∃ rest, first = before ++ call :: rest ∧ later = rest ++ second) ∨
      ∃ start, before = first ++ start ∧ second = start ++ call :: later := by
  rcases List.append_eq_append_iff.mp split with ⟨start, rfl, rest⟩ | ⟨rest, rfl, tail⟩
  · exact Or.inr ⟨start, rfl, rest⟩
  · cases rest with
    | nil => exact Or.inr ⟨[], by simp, by simpa using tail.symm⟩
    | cons head rest =>
      obtain ⟨rfl, rfl⟩ := List.cons.inj tail
      exact Or.inl ⟨rest, rfl, rfl⟩

theorem calls_bind {run : Run α} {value : α} (outcome : run.outcome = .ok value)
    (next : α → Run β) : (run >>= next).calls = run.calls ++ (next value).calls := by
  change (bind run next).calls = _
  rw [bind, outcome]
  exact List.filter_append _ _

theorem outcome_bind {run : Run α} {value : α} (outcome : run.outcome = .ok value)
    (next : α → Run β) : (run >>= next).outcome = (next value).outcome := by
  change (bind run next).outcome = _
  rw [bind, outcome]

theorem bind_of_error {run : Run α} {fault : Fault} (outcome : run.outcome = .error fault)
    (next : α → Run β) : (run >>= next) = ⟨run.steps, .error fault⟩ := by
  change bind run next = _
  rw [bind, outcome]

/-- One call to and with known objects. -/
theorem orderly_call {step : Except Fault Value → Step} {reply : Except Fault Value}
    (replies : ∀ r, (step r).reply? = some r)
    (grounded : ∀ object ∈ (step reply).objects, object ∈ known) :
    (call step reply).Orderly known 1 Value.objects := by
  have calls : (call step reply).calls = [step reply] := by
    simp [Run.calls, call, replies]
  have single : ∀ {before first later}, (call step reply).calls = before ++ first :: later →
      before = [] ∧ first = step reply ∧ later = [] := by
    intro before first later split
    rw [calls] at split
    cases before with
    | nil =>
      obtain ⟨rfl, rfl⟩ := List.cons.inj split
      exact ⟨rfl, rfl, rfl⟩
    | cons head before => simp at split
  refine ⟨?_, ?_, ?_, ?_, ?_, ?_⟩
  · intro before first later split more
    exact absurd (single split).2.2 more
  · intro before first fault split failed
    obtain ⟨-, rfl, -⟩ := single split
    rw [replies] at failed
    exact Option.some.inj failed
  · intro fault outcome _
    exact ⟨[], step reply, calls, (replies reply).trans (congrArg some outcome)⟩
  · rw [calls]
    exact Nat.le_refl 1
  · intro before first later split object mem
    obtain ⟨rfl, rfl, -⟩ := single split
    exact mem_knownAfter_of_mem (grounded object mem) _
  · intro value outcome object mem
    rw [calls]
    cases value with
    | json data => cases mem
    | host other =>
      obtain rfl := List.mem_singleton.mp mem
      refine Or.inr ⟨step reply, List.mem_singleton_self _, ?_⟩
      exact (replies reply).trans (congrArg some outcome)

/-- Naming a static member is no call. -/
theorem Orderly.after_reference {run : Run α} (orderly : run.Orderly known allowed objects)
    (owner name : String) :
    (step (.staticReference owner name) >>= fun _ => run).Orderly known allowed objects := by
  obtain ⟨succeeded, passed, raised, counted, grounded, answered⟩ := orderly
  exact ⟨succeeded, passed, raised, counted, grounded, answered⟩

/-- A run that failed stays as it is. -/
theorem Orderly.bind_of_error {run : Run α} {fault : Fault}
    (orderly : run.Orderly known allowed objects) (outcome : run.outcome = .error fault)
    (next : α → Run β) : (run >>= next).Orderly known allowed objects' := by
  rw [Run.bind_of_error outcome]
  refine ⟨orderly.succeeded, ?_, ?_, orderly.counted, orderly.grounded, ?_⟩
  · intro before call raised split failed
    have passed := orderly.passed before call raised split failed
    rw [outcome] at passed
    cases passed
    rfl
  · rintro raised ⟨⟩
    exact orderly.raised fault outcome
  · rintro value ⟨⟩

/-- After a run that succeeded, what the later run does counts. -/
theorem Orderly.bind_of_value {run : Run α} {value : α} {next : α → Run β}
    (first : run.Orderly known allowed objects) (outcome : run.outcome = .ok value)
    (second : (next value).Orderly (knownAfter known run.calls) more objects') :
    (run >>= next).Orderly known (allowed + more) objects' := by
  have calls := calls_bind outcome next
  have result := outcome_bind outcome next
  have succeeded : ∀ before call rest, run.calls = before ++ call :: rest →
      ∃ answer, call.reply? = some (.ok answer) := by
    intro before call rest split
    refine first.reply_of_value outcome ?_
    rw [split]
    exact List.mem_append_right _ List.mem_cons_self
  refine ⟨?_, ?_, ?_, ?_, ?_, ?_⟩
  · intro before call after split more
    rw [calls] at split
    rcases split_append split with ⟨rest, inFirst, -⟩ | ⟨start, -, inSecond⟩
    · exact succeeded before call rest inFirst
    · exact second.succeeded start call after inSecond more
  · intro before call fault split failed
    rw [calls] at split
    rw [result]
    rcases split_append split with ⟨rest, inFirst, -⟩ | ⟨start, -, inSecond⟩
    · obtain ⟨answer, replied⟩ := succeeded before call rest inFirst
      rw [failed] at replied
      cases replied
    · exact second.passed start call fault inSecond failed
  · intro fault failed isRaised
    rw [result] at failed
    obtain ⟨start, call, inSecond, reply⟩ := second.raised fault failed isRaised
    exact ⟨run.calls ++ start, call, by rw [calls, inSecond, List.append_assoc], reply⟩
  · rw [calls, List.length_append]
    exact Nat.add_le_add first.counted second.counted
  · intro before call after split object mem
    rw [calls] at split
    rcases split_append split with ⟨rest, inFirst, -⟩ | ⟨start, rfl, inSecond⟩
    · exact first.grounded before call rest inFirst object mem
    · rw [knownAfter_append]
      exact second.grounded start call after inSecond object mem
  · intro answer answered object mem
    rw [result] at answered
    rw [calls, knownAfter_append]
    exact second.answered answer answered object mem

/-- What is known when the later run starts is what the earlier one has left behind. -/
theorem Orderly.bind {run : Run α} {next : α → Run β} (first : run.Orderly known allowed objects)
    (later : ∀ value, (∀ object ∈ objects value, object ∈ knownAfter known run.calls) →
      (next value).Orderly (knownAfter known run.calls) more objects') :
    (run >>= next).Orderly known (allowed + more) objects' := by
  cases outcome : run.outcome with
  | error fault => exact (first.bind_of_error outcome next).mono (Nat.le_add_right _ _)
  | ok value => exact first.bind_of_value outcome (later value (first.answered value outcome))

end Run

end Scriptlet
