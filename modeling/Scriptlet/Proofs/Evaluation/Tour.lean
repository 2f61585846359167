import Scriptlet.Proofs.Evaluation.Plans

/-!
# What an evaluation goes through

`Expr.tour` is the evaluation with a list of the subtrees that it is done with: their positions, and what came
of each. It goes on and fails as `Expr.eval` does, step for step (`run_tour`), and adds one visit at the end of
every node. How often a position was evaluated is how often it is in the list (`Tour.outcomesAt`), and this
follows the way down: the root is visited once, and what is below a child as often as in the tour of the child, if
the child is entered, and else not at all (`outcomesAt_tour_of_enters`, `outcomesAt_tour_of_not_enters`).
-/

set_option autoImplicit false

namespace Scriptlet

/-- A subtree that an evaluation is done with: its position, and what came of it. -/
structure Visit where
  position : List Nat
  outcome : Except Fault Value

/-- A run with the subtrees that it is done with. -/
@[ext] structure Tour (α : Type) where
  run : Run α
  visits : List Visit

namespace Tour

variable {α β γ : Type}

/-- A run that evaluates no subtree. -/
def ofRun (run : Run α) : Tour α := ⟨run, []⟩

/-- One tour after another, unless the first fails. -/
def bind (tour : Tour α) (next : α → Tour β) : Tour β where
  run := tour.run >>= fun value => (next value).run
  visits := tour.visits ++
    match tour.run.outcome with
    | .ok value => (next value).visits
    | .error _ => []

instance : Monad Tour where
  pure value := ofRun (pure value)
  bind := bind

/-- A tour of the child with a number, seen from its parent. -/
def below (k : Nat) (tour : Tour α) : Tour α :=
  { tour with visits := tour.visits.map fun visit => { visit with position := k :: visit.position } }

/-- The tour of a node that ends so: the node itself is done with last. -/
def here (tour : Tour Value) : Tour Value :=
  { tour with visits := tour.visits ++ [⟨[], tour.run.outcome⟩] }

/-- What came of the subtree at a position, each time that it was evaluated. -/
def outcomesAt (tour : Tour α) (path : List Nat) : List (Except Fault Value) :=
  tour.visits.filterMap fun visit => if visit.position = path then some visit.outcome else none

end Tour

namespace Expr

mutual

/-- The evaluation of an expression with all subtrees that it evaluates. -/
def tour (scope : Scope) : Expr → Tour Value
  | literal value => .here (.ofRun (.pure (.json value)))
  | var name => .here (.ofRun (scope.lookup name))
  | list items => .here do
    let values ← tourEach scope 0 items
    return .json (.array (values.map Value.toJson))
  | static owner name arguments => .here do
    let values ← tourEach scope 0 arguments
    .ofRun (scope.static owner name values)
  | property target name => .here do
    let value ← (target.tour scope).below 0
    .ofRun (value.property scope.hosts name)
  | method target name arguments => .here do
    let value ← (target.tour scope).below 0
    let values ← tourEach scope 1 arguments
    .ofRun (value.callMethod scope.hosts name values)
  | index target position => .here do
    let value ← (target.tour scope).below 0
    let place ← (position.tour scope).below 1
    .ofRun (value.index scope.hosts place)
  | neg operand => .here do
    let value ← (operand.tour scope).below 0
    .ofRun (.ofExcept value.negate)
  | not operand => .here do
    let value ← (operand.tour scope).below 0
    return .bool (!value.truthy)
  | binary .or left right => .here do
    let value ← (left.tour scope).below 0
    if value.truthy then return value else (right.tour scope).below 1
  | binary .and left right => .here do
    let value ← (left.tour scope).below 0
    if value.truthy then (right.tour scope).below 1 else return value
  | binary (.test comparison) left right => .here do
    let a ← (left.tour scope).below 0
    let b ← (right.tour scope).below 1
    .ofRun (.ofExcept ((Value.compare comparison a b).map Value.bool))
  | binary (.arith operation) left right => .here do
    let a ← (left.tour scope).below 0
    let b ← (right.tour scope).below 1
    .ofRun (.ofExcept (Value.operate operation a b))
  | ternary condition yes no => .here do
    let value ← (condition.tour scope).below 0
    if value.truthy then (yes.tour scope).below 1 else (no.tour scope).below 2

/-- The evaluation of some expressions, which are children with numbers from the given one on. -/
def tourEach (scope : Scope) (k : Nat) : List Expr → Tour (List Value)
  | [] => pure []
  | first :: rest => do
    let value ← (first.tour scope).below k
    let values ← tourEach scope (k + 1) rest
    return value :: values

end

end Expr

namespace Tour

variable {α β γ : Type} {tour : Tour α} {next : α → Tour β} {value : α} {fault : Fault}

/-! ## Tours one after another -/

theorem run_bind (tour : Tour α) (next : α → Tour β) :
    (tour >>= next).run = (tour.run >>= fun value => (next value).run) := rfl

theorem visits_bind_of_ok (outcome : tour.run.outcome = .ok value) :
    (tour >>= next).visits = tour.visits ++ (next value).visits := by
  show tour.visits ++ _ = _
  rw [outcome]

theorem visits_bind_of_error (outcome : tour.run.outcome = .error fault) :
    (tour >>= next).visits = tour.visits := by
  show tour.visits ++ _ = _
  rw [outcome, List.append_nil]

theorem bind_assoc (tour : Tour α) (next : α → Tour β) (last : β → Tour γ) :
    ((tour >>= next) >>= last) = (tour >>= fun value => next value >>= last) := by
  refine Tour.ext (Run.bind_assoc _ _ _) ?_
  cases outcome : tour.run.outcome with
  | error fault =>
    have failed : (tour >>= next).run.outcome = .error fault := by
      rw [run_bind, Run.bind_of_error outcome]
    rw [visits_bind_of_error failed, visits_bind_of_error outcome, visits_bind_of_error outcome]
  | ok value =>
    have after : (tour >>= next).run.outcome = (next value).run.outcome := by
      rw [run_bind, Run.outcome_bind outcome]
    rw [visits_bind_of_ok outcome]
    cases later : (next value).run.outcome with
    | error fault =>
      rw [visits_bind_of_error (after.trans later), visits_bind_of_error later, visits_bind_of_ok outcome]
    | ok value' =>
      rw [visits_bind_of_ok (after.trans later), visits_bind_of_ok later, visits_bind_of_ok outcome,
        List.append_assoc]

theorem bind_pure (tour : Tour α) : (tour >>= pure) = tour := by
  refine Tour.ext (Run.bind_pure _) ?_
  cases outcome : tour.run.outcome with
  | error fault => rw [visits_bind_of_error outcome]
  | ok value => rw [visits_bind_of_ok outcome]; exact List.append_nil _

instance : LawfulMonad Tour :=
  .mk' Tour bind_pure (fun _ _ => rfl) bind_assoc

/-- Tours of children with numbers from the given one on. -/
def each (k : Nat) : List (Tour α) → Tour (List α)
  | [] => pure []
  | first :: rest => do
    let value ← first.below k
    let values ← each (k + 1) rest
    return value :: values

theorem run_each (k : Nat) (tours : List (Tour α)) : (each k tours).run = (tours.map run).mapM id := by
  induction tours generalizing k with
  | nil => rfl
  | cons first rest ih =>
    rw [each, run_bind, List.map_cons, List.mapM_cons]
    simp only [run_bind, ih]
    rfl

end Tour

/-- The tour of the branch that the values ask for, or of the answer. -/
def Plan.after (plan : Plan) (tours : List (Tour Value)) (values : List Value) : Tour Value :=
  match plan.branch? values with
  | some k => (tours.getD k (.ofRun (.pure .null))).below k
  | none => .ofRun (plan.finish values)

/-- The tour of a node by its plan, where its children have these tours. -/
def Plan.tour (plan : Plan) (tours : List (Tour Value)) : Tour Value := do
  let values ← Tour.each 0 (tours.take plan.eager)
  plan.after tours values

theorem Plan.run_tour (plan : Plan) (tours : List (Tour Value)) :
    (plan.tour tours).run = plan.eval (tours.map Tour.run) := by
  rw [tour, eval, Tour.run_bind, Tour.run_each, List.map_take]
  refine congrArg _ (funext fun values => ?_)
  unfold after
  cases plan.branch? values with
  | none => rfl
  | some k =>
    show (tours.getD k _).run = (tours.map Tour.run).getD k _
    rw [List.getD_eq_getElem?_getD, List.getD_eq_getElem?_getD, List.getElem?_map]
    cases tours[k]? <;> rfl

namespace Expr

theorem tourEach_eq (scope : Scope) (k : Nat) (trees : List Expr) :
    tourEach scope k trees = Tour.each k (trees.map (tour scope)) := by
  induction trees generalizing k with
  | nil => rfl
  | cons first rest ih => rw [tourEach, List.map_cons, Tour.each, ih]

/-- Every node is gone through by its plan. -/
theorem tour_eq_plan (scope : Scope) (tree : Expr) :
    tree.tour scope = ((tree.plan scope).tour (tree.children.map (tour scope))).here := by
  cases tree with
  | literal value => rfl
  | var name => rfl
  | list items =>
    simp only [tour, Plan.tour, Plan.after, plan, Plan.strict, children, tourEach_eq,
      List.take_of_length_le (List.length_map (tour scope)).le]
    rfl
  | static owner name arguments =>
    simp only [tour, Plan.tour, Plan.after, plan, Plan.strict, children, tourEach_eq,
      List.take_of_length_le (List.length_map (tour scope)).le]
  | method target name arguments =>
    simp only [tour, Plan.tour, Plan.after, plan, Plan.strict, children, tourEach_eq, List.map_cons,
      List.take_succ_cons, List.take_of_length_le (List.length_map (tour scope)).le,
      Tour.each, bind_assoc, pure_bind]
    rfl
  | property | index | neg | not =>
    simp only [tour, Plan.tour, Plan.after, plan, Plan.strict, children, List.map_cons, List.map_nil,
      List.take_succ_cons, List.take_zero, Tour.each, bind_assoc, pure_bind]
    rfl
  | binary operator left right =>
    cases operator with
    | test | arith =>
      simp only [tour, Plan.tour, Plan.after, plan, Plan.strict, children, List.map_cons, List.map_nil,
        List.take_succ_cons, List.take_zero, Tour.each, bind_assoc, pure_bind]
      rfl
    | or | and =>
      simp only [tour, Plan.tour, Plan.after, plan, Plan.deciding, children, List.map_cons, List.map_nil,
        List.take_succ_cons, List.take_zero, Tour.each, bind_assoc, pure_bind]
      congr 2
      funext value
      rw [List.headD_cons]
      cases value.truthy <;> rfl
  | ternary condition yes no =>
    simp only [tour, Plan.tour, Plan.after, plan, Plan.deciding, children, List.map_cons, List.map_nil,
      List.take_succ_cons, List.take_zero, Tour.each, bind_assoc, pure_bind]
    congr 2
    funext value
    rw [List.headD_cons]
    cases value.truthy <;> rfl

/-- The tour of an expression is its evaluation, with visits. -/
theorem run_tour (scope : Scope) (tree : Expr) : (tree.tour scope).run = tree.eval scope := by
  induction tree using childrenInduction with
  | node tree ih =>
    rw [tour_eq_plan, eval_eq_plan]
    show ((tree.plan scope).tour (tree.children.map (tour scope))).run = _
    rw [Plan.run_tour, List.map_map]
    exact congrArg _ (List.map_congr_left ih)

end Expr

/-! ## How often a position is visited -/

namespace Tour

variable {α β : Type} {tour : Tour α} {next : α → Tour β} {path rest : List Nat} {i j k : Nat}

theorem outcomesAt_bind_of_succeeds {value : α} (outcome : tour.run.outcome = .ok value) :
    (tour >>= next).outcomesAt path = tour.outcomesAt path ++ (next value).outcomesAt path := by
  rw [outcomesAt, visits_bind_of_ok outcome, List.filterMap_append]
  rfl

theorem outcomesAt_bind_of_fails (failed : ¬tour.run.Succeeds) :
    (tour >>= next).outcomesAt path = tour.outcomesAt path := by
  obtain ⟨fault, outcome⟩ := Run.exists_of_not_succeeds failed
  rw [outcomesAt, visits_bind_of_error outcome]
  rfl

@[simp] theorem outcomesAt_pure (value : α) : (pure value : Tour α).outcomesAt path = [] := rfl

/-- The root is not below a child. -/
@[simp] theorem outcomesAt_below_nil (k : Nat) (tour : Tour α) : (tour.below k).outcomesAt [] = [] := by
  simp [outcomesAt, below]

/-- A child is visited as often below its parent as in its own tour. -/
@[simp] theorem outcomesAt_below_self (k : Nat) (tour : Tour α) (rest : List Nat) :
    (tour.below k).outcomesAt (k :: rest) = tour.outcomesAt rest := by
  rw [outcomesAt, below, List.filterMap_map]
  refine congrArg (List.filterMap · tour.visits) (funext fun visit => ?_)
  simp

theorem outcomesAt_below_of_ne (other : j ≠ k) : (tour.below j).outcomesAt (k :: rest) = [] := by
  simp [outcomesAt, below, other]

theorem outcomesAt_here_nil (tour : Tour Value) :
    tour.here.outcomesAt [] = tour.outcomesAt [] ++ [tour.run.outcome] := by
  simp [outcomesAt, here]

theorem outcomesAt_here_cons (tour : Tour Value) (k : Nat) (rest : List Nat) :
    tour.here.outcomesAt (k :: rest) = tour.outcomesAt (k :: rest) := by
  simp [outcomesAt, here]

/-- After a neighbour that succeeds the next ones are visited. -/
theorem outcomesAt_each_cons_of_succeeds {first : Tour α} (tours : List (Tour α))
    (succeeds : first.run.Succeeds) : (each k (first :: tours)).outcomesAt path =
      (first.below k).outcomesAt path ++ (each (k + 1) tours).outcomesAt path := by
  obtain ⟨value, outcome⟩ := succeeds
  have silent : (each (k + 1) tours >>= fun values => pure (value :: values)).outcomesAt path =
      (each (k + 1) tours).outcomesAt path := by
    by_cases later : (each (k + 1) tours).run.Succeeds
    · obtain ⟨values, outcomes⟩ := later
      rw [outcomesAt_bind_of_succeeds outcomes, outcomesAt_pure, List.append_nil]
    · rw [outcomesAt_bind_of_fails later]
  have below_ : (first.below k).run.outcome = .ok value := outcome
  rw [each, outcomesAt_bind_of_succeeds below_, silent]

/-- After one that fails they are not. -/
theorem outcomesAt_each_cons_of_fails {first : Tour α} (tours : List (Tour α))
    (failed : ¬first.run.Succeeds) :
    (each k (first :: tours)).outcomesAt path = (first.below k).outcomesAt path := by
  have below_ : ¬(first.below k).run.Succeeds := failed
  rw [each, outcomesAt_bind_of_fails below_]

variable {tours : List (Tour α)}

/-- Positions below other children are not visited. -/
theorem outcomesAt_each_elsewhere (elsewhere : ∀ i < tours.length, ∀ rest, path ≠ (k + i) :: rest) :
    (each k tours).outcomesAt path = [] := by
  induction tours generalizing k with
  | nil => rfl
  | cons first tours ih =>
    have head : (first.below k).outcomesAt path = [] := by
      cases path with
      | nil => exact outcomesAt_below_nil k first
      | cons j rest =>
        refine outcomesAt_below_of_ne fun same => elsewhere 0 (Nat.succ_pos _) rest ?_
        rw [same, Nat.add_zero]
    by_cases succeeds : first.run.Succeeds
    · have tail : (each (k + 1) tours).outcomesAt path = [] := ih fun i inside rest => by
        have other := elsewhere (i + 1) (Nat.succ_lt_succ inside) rest
        rwa [Nat.add_assoc, Nat.add_comm 1 i]
      rw [outcomesAt_each_cons_of_succeeds tours succeeds, head, tail, List.append_nil]
    · rw [outcomesAt_each_cons_of_fails tours succeeds, head]

/-- A child is visited as in its own tour if none before it fails. -/
theorem outcomesAt_each_of_reached (found : tours[i]? = some tour)
    (reached : ∀ before ∈ tours.take i, before.run.Succeeds) :
    (each k tours).outcomesAt ((k + i) :: rest) = tour.outcomesAt rest := by
  induction tours generalizing i k with
  | nil => cases found
  | cons first tours ih =>
    cases i with
    | zero =>
      cases found
      have tail : (each (k + 1) tours).outcomesAt (k :: rest) = [] :=
        outcomesAt_each_elsewhere fun i _ rest same => by
          have heads := (List.cons.inj same).1
          omega
      by_cases succeeds : tour.run.Succeeds
      · rw [Nat.add_zero, outcomesAt_each_cons_of_succeeds tours succeeds, tail, List.append_nil,
          outcomesAt_below_self]
      · rw [Nat.add_zero, outcomesAt_each_cons_of_fails tours succeeds, outcomesAt_below_self]
    | succ i =>
      rw [List.take_succ_cons, List.forall_mem_cons] at reached
      rw [outcomesAt_each_cons_of_succeeds tours reached.1, outcomesAt_below_of_ne (by omega),
        List.nil_append, ← ih (k := k + 1) found reached.2, Nat.add_assoc, Nat.add_comm 1 i]

/-- After one that fails a child is not visited. -/
theorem outcomesAt_each_of_failed (failed : ¬∀ before ∈ tours.take i, before.run.Succeeds) :
    (each k tours).outcomesAt ((k + i) :: rest) = [] := by
  induction tours generalizing i k with
  | nil => rfl
  | cons first tours ih =>
    cases i with
    | zero => exact absurd nofun failed
    | succ i =>
      rw [List.take_succ_cons, List.forall_mem_cons] at failed
      by_cases succeeds : first.run.Succeeds
      · rw [outcomesAt_each_cons_of_succeeds tours succeeds, outcomesAt_below_of_ne (by omega),
          List.nil_append, ← ih (k := k + 1) (i := i) fun all => failed ⟨succeeds, all⟩,
          Nat.add_assoc, Nat.add_comm 1 i]
      · rw [outcomesAt_each_cons_of_fails tours succeeds, outcomesAt_below_of_ne (by omega)]

end Tour

namespace Plan

variable {plan : Plan} {tours : List (Tour Value)} {tour : Tour Value} {rest : List Nat} {k : Nat}

/-- No child is evaluated a second time as the branch. -/
def Fresh (plan : Plan) : Prop :=
  ∀ values k, plan.branch? values = some k → plan.eager ≤ k

theorem run_each_eager (plan : Plan) (tours : List (Tour Value)) :
    (Tour.each 0 (tours.take plan.eager)).run = ((tours.map Tour.run).take plan.eager).mapM id := by
  rw [Tour.run_each, List.map_take]

theorem outcomesAt_after_nil (tours : List (Tour Value)) (values : List Value) :
    (plan.after tours values).outcomesAt [] = [] := by
  unfold after
  split
  · exact Tour.outcomesAt_below_nil _ _
  · rfl

/-- Only the branch that the values ask for is visited. -/
theorem outcomesAt_after_of_ne {values : List Value} (other : plan.branch? values ≠ some k) :
    (plan.after tours values).outcomesAt (k :: rest) = [] := by
  unfold after
  split
  · rename_i entered branch
    exact Tour.outcomesAt_below_of_ne fun same => other (same ▸ branch)
  · rfl

theorem outcomesAt_after_of_eq {values : List Value} (branch : plan.branch? values = some k)
    (found : tours[k]? = some tour) :
    (plan.after tours values).outcomesAt (k :: rest) = tour.outcomesAt rest := by
  unfold after
  rw [branch]
  show ((tours.getD k _).below k).outcomesAt (k :: rest) = _
  rw [Tour.outcomesAt_below_self, List.getD_eq_getElem?_getD, found, Option.getD_some]

theorem outcomesAt_tour_nil (plan : Plan) (tours : List (Tour Value)) :
    (plan.tour tours).outcomesAt [] = [] := by
  have first : (Tour.each 0 (tours.take plan.eager)).outcomesAt [] = [] :=
    Tour.outcomesAt_each_elsewhere nofun
  rw [Plan.tour]
  by_cases succeeds : (Tour.each 0 (tours.take plan.eager)).run.Succeeds
  · obtain ⟨values, outcome⟩ := succeeds
    rw [Tour.outcomesAt_bind_of_succeeds outcome, first, outcomesAt_after_nil]
    rfl
  · rw [Tour.outcomesAt_bind_of_fails succeeds, first]

/-- A child that is entered is visited as in its own tour. -/
theorem outcomesAt_tour_of_enters (fresh : plan.Fresh) (found : tours[k]? = some tour)
    (enters : plan.Enters (tours.map Tour.run) k) :
    (plan.tour tours).outcomesAt (k :: rest) = tour.outcomesAt rest := by
  rw [Plan.tour]
  rcases enters with ⟨early, before⟩ | ⟨values, outcome, branch⟩
  · have first : (Tour.each 0 (tours.take plan.eager)).outcomesAt (k :: rest) = tour.outcomesAt rest := by
      rw [← Nat.zero_add k]
      refine Tour.outcomesAt_each_of_reached ?_ ?_
      · rw [List.getElem?_take_of_lt early, found]
      · rw [List.take_take, Nat.min_eq_left early.le]
        rw [← List.map_take] at before
        exact fun earlier member => before _ (List.mem_map_of_mem member)
    by_cases succeeds : (Tour.each 0 (tours.take plan.eager)).run.Succeeds
    · obtain ⟨values, outcome⟩ := succeeds
      have other : plan.branch? values ≠ some k := fun branch =>
        Nat.not_le.mpr early (fresh values k branch)
      rw [Tour.outcomesAt_bind_of_succeeds outcome, first, outcomesAt_after_of_ne other, List.append_nil]
    · rw [Tour.outcomesAt_bind_of_fails succeeds, first]
  · have late := fresh values k branch
    have first : (Tour.each 0 (tours.take plan.eager)).outcomesAt (k :: rest) = [] := by
      refine Tour.outcomesAt_each_elsewhere fun i inside rest same => ?_
      have heads := (List.cons.inj same).1
      have bound := List.length_take_le plan.eager tours
      omega
    rw [← run_each_eager] at outcome
    rw [Tour.outcomesAt_bind_of_succeeds outcome, first, List.nil_append,
      outcomesAt_after_of_eq branch found]

/-- A child that is not entered is not visited. -/
theorem outcomesAt_tour_of_not_enters (outside : ¬plan.Enters (tours.map Tour.run) k) :
    (plan.tour tours).outcomesAt (k :: rest) = [] := by
  unfold Enters at outside
  push Not at outside
  obtain ⟨failed, other⟩ := outside
  have first : (Tour.each 0 (tours.take plan.eager)).outcomesAt (k :: rest) = [] := by
    rcases Nat.lt_or_ge k plan.eager with early | late
    · obtain ⟨run, member, fails⟩ := failed early
      rw [← List.map_take] at member
      obtain ⟨earlier, member, rfl⟩ := List.mem_map.mp member
      rw [← Nat.zero_add k]
      refine Tour.outcomesAt_each_of_failed fun all => fails (all earlier ?_)
      rwa [List.take_take, Nat.min_eq_left early.le]
    · refine Tour.outcomesAt_each_elsewhere fun i inside rest same => ?_
      have heads := (List.cons.inj same).1
      have bound := List.length_take_le plan.eager tours
      omega
  rw [Plan.tour]
  by_cases succeeds : (Tour.each 0 (tours.take plan.eager)).run.Succeeds
  · obtain ⟨values, outcome⟩ := succeeds
    rw [Tour.outcomesAt_bind_of_succeeds outcome, first, List.nil_append]
    rw [run_each_eager] at outcome
    exact outcomesAt_after_of_ne (other values outcome)
  · rw [Tour.outcomesAt_bind_of_fails succeeds, first]

end Plan

namespace Expr

variable {scope : Scope} {tree child : Expr} {k : Nat} {rest : List Nat}

theorem fresh_plan (scope : Scope) (tree : Expr) : (tree.plan scope).Fresh := by
  intro values k branch
  cases tree with
  | binary operator left right =>
    cases operator with
    | test | arith => cases branch
    | or | and =>
      simp only [plan, Plan.deciding] at branch ⊢
      split at branch <;> cases branch
      exact Nat.le_refl 1
  | ternary condition yes no =>
    simp only [plan, Plan.deciding] at branch ⊢
    split at branch <;> cases branch <;> decide
  | _ => cases branch

theorem runs_tours (scope : Scope) (tree : Expr) :
    (tree.children.map (tour scope)).map Tour.run = tree.children.map (eval scope) := by
  rw [List.map_map]
  exact List.map_congr_left fun child _ => run_tour scope child

/-- The root is visited once. -/
theorem outcomesAt_tour_nil (scope : Scope) (tree : Expr) :
    (tree.tour scope).outcomesAt [] = [(tree.eval scope).outcome] := by
  rw [← run_tour, tour_eq_plan, Tour.outcomesAt_here_nil, Plan.outcomesAt_tour_nil, List.nil_append]
  rfl

/-- What is below a child that is entered is visited as in the tour of the child. -/
theorem outcomesAt_tour_of_enters (found : tree.children[k]? = some child) (enters : tree.Enters scope k) :
    (tree.tour scope).outcomesAt (k :: rest) = (child.tour scope).outcomesAt rest := by
  rw [tour_eq_plan, Tour.outcomesAt_here_cons]
  refine Plan.outcomesAt_tour_of_enters (fresh_plan scope tree) ?_ ?_
  · rw [List.getElem?_map, found, Option.map_some]
  · rw [runs_tours]
    exact enters

/-- What is below any other child is not visited. -/
theorem outcomesAt_tour_of_not_enters (outside : ¬tree.Enters scope k) :
    (tree.tour scope).outcomesAt (k :: rest) = [] := by
  rw [tour_eq_plan, Tour.outcomesAt_here_cons]
  refine Plan.outcomesAt_tour_of_not_enters ?_
  rw [runs_tours]
  exact outside

end Expr

end Scriptlet
