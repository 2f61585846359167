import Scriptlet.Engine

/-!
# Job failures in faults

A job failure may stand anywhere in a fault: it is the fault, or the end of its chain of causes, by
itself or inside the nested fault or engine fault that the chain ends with (`Fault.buriedJob?`). It
reaches the caller of an evaluation in all of these places but the last. A nested fault or an engine
fault that is a job failure has no source, so the chain ends there, and it is not a job failure
itself, so the search passes over it (`Fault.hidesJob`).
-/

set_option autoImplicit false

namespace Scriptlet

/-! ## Where job failures stand -/

mutual

/-- The job failure that stands anywhere in a fault, of which there is at most one. -/
def Fault.buriedJob? : Fault → Option JobFailure
  | .jobFailed failure => some failure
  | .host cause => cause.buriedJob?
  | _ => none

/-- The job failure that stands anywhere in a cause. -/
def Cause.buriedJob? : Cause → Option JobFailure
  | .job failure => some failure
  | .fault fault => fault.buriedJob?
  | .engine (.jobFailed failure) => some failure
  | .engine _ => none
  | .foreign _ => none
  | .foreignFrom _ source => source.buriedJob?

end

/-- Whether a cause is a job failure by way of a nested fault or of an engine fault. -/
def Cause.isWrappedJob : Cause → Bool
  | .fault (.jobFailed _) => true
  | .engine (.jobFailed _) => true
  | _ => false

/-- Whether the chain of causes ends with a job failure that the search passes over. -/
def Fault.hidesJob (fault : Fault) : Bool :=
  fault.causes.any Cause.isWrappedJob

/-- The search along a chain of causes finds what stands at its end, unless it is wrapped there. -/
theorem Cause.findSome?_chain (cause : Cause) :
    cause.chain.findSome? Cause.ownJob? =
      if cause.chain.any Cause.isWrappedJob then none else cause.buriedJob? := by
  fun_induction Cause.chain cause with
  | case1 cause ih =>
    rw [List.findSome?_cons, List.any_cons, ih]
    rfl
  | case2 text source ih =>
    rw [List.findSome?_cons, List.any_cons, ih]
    rfl
  | case3 cause notHost notForeign =>
    -- the last cause of a chain
    cases cause with
    | job failure => rfl
    | fault fault =>
      cases fault with
      | host cause => exact absurd rfl (notHost cause)
      | _ => rfl
    | engine fault => cases fault <;> rfl
    | foreign text => rfl
    | foreignFrom text source => exact absurd rfl (notForeign text source)

/-- A wrapped job failure at the end of a chain stands in its first cause. -/
theorem Cause.isSome_buriedJob? {cause : Cause} (hidden : cause.chain.any Cause.isWrappedJob = true) :
    cause.buriedJob?.isSome = true := by
  fun_induction Cause.chain cause with
  | case1 cause ih => exact ih hidden
  | case2 text source ih => exact ih hidden
  | case3 cause =>
    rw [List.any_cons, List.any_nil, Bool.or_false] at hidden
    unfold Cause.isWrappedJob at hidden
    split at hidden
    · rfl
    · rfl
    · cases hidden

theorem Fault.jobFailure?_eq (fault : Fault) :
    fault.jobFailure? = if fault.hidesJob then none else fault.buriedJob? := by
  cases fault with
  | host cause => exact cause.findSome?_chain
  | _ => rfl

theorem Fault.isSome_buriedJob? {fault : Fault} (hidden : fault.hidesJob = true) :
    fault.buriedJob?.isSome = true := by
  cases fault with
  | host cause => exact Cause.isSome_buriedJob? hidden
  | _ => cases hidden

/-! ## What becomes of a failed evaluation -/

namespace Evaluator

variable {evaluator : Evaluator} {template : String} {bindings : Bindings} {fault : Fault}

theorem answer_of_fault (present : isBlankTemplate template = false)
    (failed : (evaluator.run template bindings).outcome = .error fault) :
    (evaluator.outcome (some template) (some bindings)).answer =
      match fault.jobFailure? with
      | some failure => .error (.jobFailed failure)
      | none => .ok (.suppressed fault) := by
  simp only [outcome, present, conclude, failed, Bool.false_eq_true, if_false]
  cases fault.jobFailure? <;> rfl

/-- The job failure buried in the fault of an evaluation reaches the caller exactly if it is not
hidden, and the search finds it exactly then. Every other fault is suppressed. A hidden job failure is
one all the same. -/
theorem answer_of_buriedJob (present : isBlankTemplate template = false)
    (failed : (evaluator.run template bindings).outcome = .error fault) :
    (fault.jobFailure? = if fault.hidesJob then none else fault.buriedJob?) ∧
    (fault.hidesJob = true → ∃ failure, fault.buriedJob? = some failure) ∧
    (evaluator.outcome (some template) (some bindings)).answer =
      match fault.buriedJob? with
      | some failure =>
        if fault.hidesJob then .ok (.suppressed fault) else .error (.jobFailed failure)
      | none => .ok (.suppressed fault) := by
  have search := fault.jobFailure?_eq
  refine ⟨search, fun hidden => Option.isSome_iff_exists.mp (Fault.isSome_buriedJob? hidden), ?_⟩
  rw [answer_of_fault present failed, search]
  cases hidden : fault.hidesJob <;> cases fault.buriedJob? <;> rfl

/-- An application whose object `h` fails the job, when its property `go` is read, from inside a nested
fault. -/
def muffled : Evaluator where
  language := .ognl []
  container := .empty 0
  hosts := fun object =>
    .ofReplies object.typeName [("go", .fault (.host (.fault (.jobFailed ⟨"stop"⟩))))] []

theorem answer_of_buriedJob_muffled :
    let fault : Fault := .host (.fault (.jobFailed ⟨"stop"⟩))
    let bindings : Bindings := [("h", .host ⟨1, "T", "#T"⟩)]
    isBlankTemplate "h.go" = false ∧ (muffled.run "h.go" bindings).outcome = .error fault ∧
    fault.buriedJob? = some ⟨"stop"⟩ ∧ fault.jobFailure? = none ∧
    (muffled.outcome (some "h.go") (some bindings)).answer = .ok (.suppressed fault) := by
  have present : isBlankTemplate "h.go" = false := by decide
  have failed : (muffled.run "h.go" [("h", .host ⟨1, "T", "#T"⟩)]).outcome =
      .error (.host (.fault (.jobFailed ⟨"stop"⟩))) := by
    with_unfolding_all rfl
  obtain ⟨search, -, answer⟩ := answer_of_buriedJob present failed
  exact ⟨present, failed, rfl, search, answer⟩

end Evaluator

end Scriptlet
