import Scriptlet.Proofs.Engine.Policy
import Scriptlet.Proofs.Evaluation.Substitution
import Scriptlet.Proofs.Template.Depth

/-!
# Results of templates as bindings

Applications feed the result of one template to the next under a name. The next template then comes to
what it would come to with the first one in the place of the name (`Inlines`), as long as the name is
not that of the container, which templates never see anything else under.
-/

set_option autoImplicit false

namespace Scriptlet

open Template

/-- What a template of a caller with these bindings can refer to. -/
def Container.scope (container : Container) (statics : Statics) (hosts : Hosts) (given : Bindings) :
    Scope :=
  ⟨container.context given, statics, container.join hosts⟩

namespace Evaluator

variable {evaluator : Evaluator} {text : String} {given : Bindings} {run other : Run Value}

/-- The answer is a matter of what comes of the run. -/
theorem answer_conclude_congr (same : run.outcome = other.outcome) (text textOther : String)
    (given givenOther : Bindings) :
    (evaluator.conclude text given run).answer =
      (evaluator.conclude textOther givenOther other).answer := by
  unfold conclude
  rw [same]
  cases other.outcome with
  | ok value => rfl
  | error fault => cases job : fault.jobFailure? <;> simp only [job]

/-- Only a value is answered as a value. -/
theorem outcome_of_answer_value {value : Value}
    (answer : (evaluator.conclude text given run).answer = .ok (.value value)) :
    run.outcome = .ok value := by
  unfold conclude at answer
  cases outcome : run.outcome with
  | ok result =>
    rw [outcome] at answer
    cases answer
    rfl
  | error fault =>
    simp only [outcome] at answer
    cases job : fault.jobFailure? <;> simp only [job] at answer <;> cases answer

variable {statics : Statics} {container : Container} {hosts : Hosts} {tree : Expr}

/-- A template that can be read has something in it that is no blank. -/
theorem not_isBlankRequest_of_parse (read : parse text = .ok tree) : ¬IsBlankRequest (some text) := by
  obtain ⟨item, denotes, _⟩ := parse_eq_ok_iff.mp read
  obtain ⟨c, tail, starts, plain, _⟩ := denotes.opens
  intro blank
  have member : c ∈ text.toList := by
    apply (List.dropWhile_suffix Text.isBlank).subset
    rw [show text.toList.dropWhile Text.isBlank = c :: tail from starts]
    exact List.mem_cons_self
  rw [blank text rfl c member] at plain
  cases plain

/-- The outcome of a template is the conclusion of the run of its tree. -/
theorem outcome_of_parse (read : parse text = .ok tree) (given : Bindings) :
    outcome ⟨.ognl statics, container, hosts⟩ (some text) (some given) =
      conclude ⟨.ognl statics, container, hosts⟩ text given
        (tree.eval (container.scope statics hosts given)) := by
  rw [outcome_of_present (not_isBlankRequest_of_parse read)]
  simp only [Evaluator.run, Language.ognl, read]
  rfl

end Evaluator

/-- Under another name than its own, the container is seen before and after the binding. -/
theorem eval_scope_insert {name : String} (differs : name ≠ Container.bindingName)
    (container : Container) (statics : Statics) (hosts : Hosts) (given : Bindings) (value : Value)
    (tree : Expr) :
    tree.eval (container.scope statics hosts (given.insert name value)) =
      tree.eval ((container.scope statics hosts given).bind name value) := by
  refine eval_congr ?_ ?_ ?_ tree
  · rfl
  · rfl
  intro sought
  show ((given.insert name value).insert Container.bindingName _).find? sought =
    ((given.insert Container.bindingName _).insert name value).find? sought
  simp only [Table.find?_insert]
  by_cases own : sought = Container.bindingName
  · rw [if_pos own, if_neg (own ▸ differs.symm), if_pos own]
  · rw [if_neg own, if_neg own]

/-- To bind a value is to inline the expression that it came from. -/
structure Inlines (statics : Statics) (container : Container) (hosts : Hosts) : Prop where
  /-- Where a variable is bound to the value of an expression, any expression comes to the same as with
  that one in place of the variable. -/
  expressions : ∀ {bindings : Bindings} {replacement : Expr} {value : Value} (name : String),
    (replacement.eval ⟨bindings, statics, hosts⟩).outcome = .ok value → ∀ tree : Expr,
      (tree.eval ⟨bindings.insert name value, statics, hosts⟩).outcome =
        ((Expr.subst name replacement tree).eval ⟨bindings, statics, hosts⟩).outcome
  /-- So does a template that gets the result of an earlier one under a name other than that of the
  container. -/
  templates : ∀ {name earlier template : String} {first tree : Expr} {given : Bindings}
    {value : Value}, name ≠ Container.bindingName →
    parse earlier = .ok first → parse template = .ok tree →
    (Evaluator.outcome ⟨.ognl statics, container, hosts⟩ (some earlier) (some given)).answer =
      .ok (.value value) →
    (Evaluator.outcome ⟨.ognl statics, container, hosts⟩ (some template)
        (some (given.insert name value))).answer =
      (Evaluator.conclude ⟨.ognl statics, container, hosts⟩ template given
        ((Expr.subst name first tree).eval (container.scope statics hosts given))).answer
  /-- What is bound to other names than the variables of an expression does not matter. -/
  unused : ∀ {tree : Expr} {bindings other : Bindings},
    (∀ name ∈ tree.vars, bindings.find? name = other.find? name) →
      tree.eval ⟨bindings, statics, hosts⟩ = tree.eval ⟨other, statics, hosts⟩

theorem inlines (statics : Statics) (container : Container) (hosts : Hosts) :
    Inlines statics container hosts where
  expressions name evaluated tree := (outcome_subst evaluated tree).symm
  templates := by
    intro name earlier template first tree given value differs readEarlier read answer
    rw [Evaluator.outcome_of_parse readEarlier] at answer
    have evaluated := Evaluator.outcome_of_answer_value answer
    rw [Evaluator.outcome_of_parse read, eval_scope_insert differs]
    apply Evaluator.answer_conclude_congr
    exact (outcome_subst evaluated tree).symm
  unused := by
    intro tree bindings other same
    refine eval_congr_vars ?_ ?_ same
    · rfl
    · rfl

end Scriptlet
