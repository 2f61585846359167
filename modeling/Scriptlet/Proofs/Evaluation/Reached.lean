import Scriptlet.Proofs.Evaluation.Tour

/-!
# What is not reached does not matter

An evaluation passes over the right operand of `&&` and `||` where the left one decides, and over one branch of
a choice. It also stops at the first child that fails, and the children after it are not evaluated. Those are all
subtrees that it does not reach (`Expr.Skips`), together with what is below them (`Expr.Unreached`).

Any other tree can stand at an unreached position: the run is the same, with its value or fault, the references
that it logs, and its calls (`reached_only`). All other subtrees are evaluated exactly once. If the whole
evaluation succeeds, nothing was stopped, so these are all subtrees that were not passed over, and each of them
succeeded.
-/

set_option autoImplicit false

namespace Scriptlet

/-! ## Children that are skipped -/

/-- The node has no use for its child of this number, by the value of the first one. -/
inductive Expr.PassesOver (scope : Scope) : Expr → Nat → Prop
  /-- The right operand of `&&`, if the left one counts as false. -/
  | and {left right : Expr} {value : Value} (decides : (left.eval scope).outcome = .ok value)
      (falsy : value.truthy = false) : PassesOver scope (.binary .and left right) 1
  /-- The right operand of `||`, if the left one counts as true. -/
  | or {left right : Expr} {value : Value} (decides : (left.eval scope).outcome = .ok value)
      (truthy : value.truthy = true) : PassesOver scope (.binary .or left right) 1
  /-- The first branch of a choice, if the condition counts as false. -/
  | yes {condition yes no : Expr} {value : Value} (decides : (condition.eval scope).outcome = .ok value)
      (falsy : value.truthy = false) : PassesOver scope (.ternary condition yes no) 1
  /-- The second branch of a choice, if the condition counts as true. -/
  | no {condition yes no : Expr} {value : Value} (decides : (condition.eval scope).outcome = .ok value)
      (truthy : value.truthy = true) : PassesOver scope (.ternary condition yes no) 2

namespace Expr

/-- The node does not get to its child of this number: it has no use for it, or one of the children before, for
which it has a use, fails. -/
def Skips (scope : Scope) (tree : Expr) (k : Nat) : Prop :=
  tree.PassesOver scope k ∨
    ∃ j < k, ∃ sibling, tree.children[j]? = some sibling ∧ ¬tree.PassesOver scope j ∧
      ¬(sibling.eval scope).Succeeds

variable {scope : Scope} {tree child node : Expr} {k : Nat} {path rest : List Nat}

theorem mapM_first_iff {run : Run Value} {others : List (Run Value)} {values : List Value} :
    (((run :: others).take 1).mapM id).outcome = .ok values ↔
      ∃ value, run.outcome = .ok value ∧ values = [value] := by
  rw [List.take_succ_cons, List.take_zero, List.mapM_cons]
  cases outcome : run.outcome with
  | error fault =>
    have stops : (id run).outcome = .error fault := outcome
    rw [Run.bind_of_error stops]
    exact iff_of_false nofun (by simp)
  | ok value =>
    have goesOn : (id run).outcome = .ok value := outcome
    rw [Run.outcome_bind goesOn]
    show Except.ok [value] = .ok values ↔ _
    simp [eq_comm]

/-- The plan asks for another child than this one, or for none. -/
def AsksElsewhere (scope : Scope) (tree : Expr) (k : Nat) : Prop :=
  (tree.plan scope).eager ≤ k ∧
    ∃ values, (((tree.children.map (eval scope)).take (tree.plan scope).eager).mapM id).outcome = .ok values ∧
      (tree.plan scope).branch? values ≠ some k

/-- A node that needs all its children asks for none elsewhere. -/
theorem not_asksElsewhere (found : tree.children[k]? = some child)
    (all : (tree.plan scope).eager = tree.children.length) : ¬tree.AsksElsewhere scope k := by
  obtain ⟨inside, -⟩ := List.getElem?_eq_some_iff.mp found
  exact fun elsewhere => absurd elsewhere.1 (all ▸ Nat.not_le.mpr inside)

/-- A node that decides by its first child asks elsewhere by the value of this child. -/
theorem asksElsewhere_iff (branch? : Value → Option Nat) {first : Expr} {others : List Expr}
    (children_ : tree.children = first :: others) (plan_ : tree.plan scope = .deciding branch?) :
    tree.AsksElsewhere scope k ↔
      1 ≤ k ∧ ∃ value, (first.eval scope).outcome = .ok value ∧ branch? value ≠ some k := by
  unfold AsksElsewhere
  rw [children_, plan_, List.map_cons]
  refine and_congr_right fun _ => ?_
  constructor
  · rintro ⟨values, outcome, other⟩
    obtain ⟨value, decides, rfl⟩ := mapM_first_iff.mp outcome
    exact ⟨value, decides, other⟩
  · rintro ⟨value, decides, other⟩
    exact ⟨[value], mapM_first_iff.mpr ⟨value, decides, rfl⟩, other⟩

/-- Of two children only the second one comes after the first. -/
theorem eq_one_of_two {left right : Expr} (late : 1 ≤ k) (found : [left, right][k]? = some child) : k = 1 := by
  have inside := (List.getElem?_eq_some_iff.mp found).1
  rw [List.length_cons, List.length_singleton] at inside
  omega

/-- A node passes over the children that its plan does not ask for. -/
theorem passesOver_iff (found : tree.children[k]? = some child) :
    tree.PassesOver scope k ↔ tree.AsksElsewhere scope k := by
  cases tree with
  | binary operator left right =>
    cases operator with
    | test | arith => exact iff_of_false nofun (not_asksElsewhere found rfl)
    | and =>
      rw [asksElsewhere_iff (fun value => if value.truthy then some 1 else none) rfl rfl]
      constructor
      · intro passed
        cases passed with
        | and decides falsy => exact ⟨Nat.le_refl 1, _, decides, by simp [falsy]⟩
      · rintro ⟨late, value, decides, other⟩
        obtain rfl := eq_one_of_two late found
        exact .and decides (by simpa using other)
    | or =>
      rw [asksElsewhere_iff (fun value => if value.truthy then none else some 1) rfl rfl]
      constructor
      · intro passed
        cases passed with
        | or decides truthy => exact ⟨Nat.le_refl 1, _, decides, by simp [truthy]⟩
      · rintro ⟨late, value, decides, other⟩
        obtain rfl := eq_one_of_two late found
        exact .or decides (by simpa using other)
  | ternary condition yes no =>
    rw [asksElsewhere_iff (fun value => if value.truthy then some 1 else some 2) rfl rfl]
    constructor
    · intro passed
      cases passed with
      | yes decides falsy => exact ⟨Nat.le_refl 1, _, decides, by simp [falsy]⟩
      | no decides truthy => exact ⟨by decide, _, decides, by simp [truthy]⟩
    · rintro ⟨late, value, decides, other⟩
      rcases k with - | - | - | k
      · cases late
      · exact .yes decides (by simpa using other)
      · exact .no decides (by simpa using other)
      · cases found
  | _ => exact iff_of_false nofun (not_asksElsewhere found rfl)

theorem succeeds_take_iff (scope : Scope) (tree : Expr) (n : Nat) :
    (∀ run ∈ (tree.children.map (eval scope)).take n, run.Succeeds) ↔
      ∀ j < n, ∀ sibling, tree.children[j]? = some sibling → (sibling.eval scope).Succeeds := by
  rw [← List.map_take]
  constructor
  · intro all j below sibling found
    refine all _ (List.mem_map_of_mem (List.mem_of_getElem? (i := j) ?_))
    rw [List.getElem?_take_of_lt below, found]
  · intro all run member
    obtain ⟨sibling, among, rfl⟩ := List.mem_map.mp member
    obtain ⟨j, found⟩ := List.getElem?_of_mem among
    rw [List.getElem?_take] at found
    split at found
    · rename_i below
      exact all j below sibling found
    · cases found

/-- Of the children that are evaluated first, none is passed over. -/
theorem not_passesOver_of_lt (found : tree.children[k]? = some child)
    (early : k < (tree.plan scope).eager) : ¬tree.PassesOver scope k := fun passed =>
  absurd ((passesOver_iff found).mp passed).1 (Nat.not_le.mpr early)

/-- If they do not all succeed, one of them fails. -/
theorem exists_failed {n : Nat} (bound : n ≤ (tree.plan scope).eager)
    (failed : ¬∀ run ∈ (tree.children.map (eval scope)).take n, run.Succeeds) :
    ∃ j < n, ∃ sibling, tree.children[j]? = some sibling ∧ ¬tree.PassesOver scope j ∧
      ¬(sibling.eval scope).Succeeds := by
  rw [succeeds_take_iff] at failed
  push Not at failed
  obtain ⟨j, below, sibling, there, fails⟩ := failed
  exact ⟨j, below, sibling, there, not_passesOver_of_lt there (below.trans_le bound), fails⟩

/-- The children that are skipped are those that the evaluation does not get to. -/
theorem skips_iff (found : tree.children[k]? = some child) : tree.Skips scope k ↔ ¬tree.Enters scope k := by
  constructor
  · rintro (passed | ⟨j, before, sibling, there, needed, fails⟩) (⟨early, all⟩ | ⟨values, outcome, branch⟩)
    · exact not_passesOver_of_lt found early passed
    · obtain ⟨-, values', outcome', other⟩ := (passesOver_iff found).mp passed
      rw [outcome] at outcome'
      cases outcome'
      exact other branch
    · exact fails ((succeeds_take_iff scope tree k).mp all j before sibling there)
    · -- The child before is among the first ones, which succeed, or passed over in favour of this one.
      rcases Nat.lt_or_ge j (tree.plan scope).eager with early | late
      · have all := Run.succeeds_mapM_iff.mp ⟨values, outcome⟩
        exact fails ((succeeds_take_iff scope tree _).mp all j early sibling there)
      · refine needed ((passesOver_iff there).mpr ⟨late, values, outcome, fun same => ?_⟩)
        rw [branch] at same
        cases same
        exact Nat.lt_irrefl _ before
  · intro outside
    rcases Nat.lt_or_ge k (tree.plan scope).eager with early | late
    · exact Or.inr (exists_failed early.le fun all => outside (Or.inl ⟨early, all⟩))
    · by_cases succeeds : (((tree.children.map (eval scope)).take (tree.plan scope).eager).mapM id).Succeeds
      · obtain ⟨values, outcome⟩ := succeeds
        exact Or.inl ((passesOver_iff found).mpr
          ⟨late, values, outcome, fun branch => outside (Or.inr ⟨values, outcome, branch⟩)⟩)
      · rw [Run.succeeds_mapM_iff] at succeeds
        obtain ⟨j, below, failed⟩ := exists_failed (Nat.le_refl _) succeeds
        exact Or.inr ⟨j, below.trans_le late, failed⟩

/-! ## Positions -/

/-- Somewhere on the way to a position, a node has the child that the way goes on with in this relation. -/
def OnTheWay (related : Expr → Nat → Prop) (tree : Expr) (path : List Nat) : Prop :=
  ∃ front k back node, path = front ++ k :: back ∧ tree.at? front = some node ∧ related node k

/-- The evaluation does not reach the position: it skips a child on the way. -/
def Unreached (scope : Scope) (tree : Expr) (path : List Nat) : Prop :=
  tree.OnTheWay (Skips scope) path

/-- The evaluation passes over the position, or over one above it. -/
def PassedOver (scope : Scope) (tree : Expr) (path : List Nat) : Prop :=
  tree.OnTheWay (PassesOver scope) path

variable {related : Expr → Nat → Prop}

theorem not_onTheWay_nil : ¬tree.OnTheWay related [] := by
  rintro ⟨front, k, back, node, same, -, -⟩
  cases front <;> cases same

/-- The way to a position starts at the root and goes on below a child. -/
theorem onTheWay_cons_iff (found : tree.children[k]? = some child) :
    tree.OnTheWay related (k :: rest) ↔ related tree k ∨ child.OnTheWay related rest := by
  constructor
  · rintro ⟨front, j, back, node, same, there, holds⟩
    cases front with
    | nil =>
      cases same
      cases there
      exact Or.inl holds
    | cons i front =>
      cases same
      rw [at?_cons found] at there
      exact Or.inr ⟨front, j, back, node, rfl, there, holds⟩
  · rintro (holds | ⟨front, j, back, node, rfl, there, holds⟩)
    · exact ⟨[], k, rest, tree, rfl, rfl, holds⟩
    · exact ⟨k :: front, j, back, node, rfl, (at?_cons found).trans there, holds⟩

/-- A position that exists goes on below a child. -/
theorem exists_child_of_at? (found : tree.at? (k :: rest) = some node) :
    ∃ child, tree.children[k]? = some child ∧ child.at? rest = some node := by
  rw [at?] at found
  exact Option.bind_eq_some_iff.mp found

/-- Another tree at a position that is not reached leaves the run as it is. -/
theorem eval_replace (unreached : tree.Unreached scope path) (other : Expr) :
    (tree.replace path other).eval scope = tree.eval scope := by
  induction path generalizing tree with
  | nil => exact absurd unreached not_onTheWay_nil
  | cons k rest ih =>
    cases found : tree.children[k]? with
    | none => rw [replace, found]
    | some child =>
      rw [replace_cons found]
      rcases (onTheWay_cons_iff found).mp unreached with skipped | below
      · exact eval_setChild_of_not_enters ((skips_iff found).mp skipped) _
      · exact eval_setChild_congr found (ih below)

/-- A subtree that is not reached is not visited. -/
theorem outcomesAt_of_unreached (found : tree.at? path = some node) (unreached : tree.Unreached scope path) :
    (tree.tour scope).outcomesAt path = [] := by
  induction path generalizing tree with
  | nil => exact absurd unreached not_onTheWay_nil
  | cons k rest ih =>
    obtain ⟨child, within, there⟩ := exists_child_of_at? found
    by_cases enters : tree.Enters scope k
    · rcases (onTheWay_cons_iff within).mp unreached with skipped | below
      · exact absurd enters ((skips_iff within).mp skipped)
      · rw [outcomesAt_tour_of_enters within enters, ih there below]
    · exact outcomesAt_tour_of_not_enters enters

/-- Every other subtree is visited once. -/
theorem outcomesAt_of_reached (found : tree.at? path = some node) (reached : ¬tree.Unreached scope path) :
    (tree.tour scope).outcomesAt path = [(node.eval scope).outcome] := by
  induction path generalizing tree with
  | nil =>
    cases found
    exact outcomesAt_tour_nil scope node
  | cons k rest ih =>
    obtain ⟨child, within, there⟩ := exists_child_of_at? found
    rw [Unreached, onTheWay_cons_iff within, not_or, skips_iff within, not_not] at reached
    rw [outcomesAt_tour_of_enters within reached.1, ih there reached.2]

/-! ## Success -/

/-- Every child of a node that succeeds does so, unless it is passed over. -/
theorem succeeds_child (succeeds : (tree.eval scope).Succeeds) (found : tree.children[k]? = some child)
    (needed : ¬tree.PassesOver scope k) : (child.eval scope).Succeeds := by
  rw [eval_eq_plan, Plan.eval, Run.succeeds_bind_iff] at succeeds
  obtain ⟨values, outcome, goesOn⟩ := succeeds
  rcases Nat.lt_or_ge k (tree.plan scope).eager with early | late
  · have all := Run.succeeds_mapM_iff.mp ⟨values, outcome⟩
    exact (succeeds_take_iff scope tree _).mp all k early child found
  · -- Where the child is not passed over, it is the branch that the values ask for.
    have branch : (tree.plan scope).branch? values = some k := by
      by_contra other
      exact needed ((passesOver_iff found).mpr ⟨late, values, outcome, other⟩)
    rw [branch] at goesOn
    dsimp only at goesOn
    rwa [List.getD_eq_getElem?_getD, List.getElem?_map, found] at goesOn

/-- In an evaluation that succeeds nothing is skipped but what is passed over. -/
theorem passesOver_of_skips (succeeds : (tree.eval scope).Succeeds) (skipped : tree.Skips scope k) :
    tree.PassesOver scope k := by
  rcases skipped with passed | ⟨j, -, sibling, there, needed, fails⟩
  · exact passed
  · exact absurd (succeeds_child succeeds there needed) fails

/-- A subtree that is not passed over is reached, and succeeds. -/
theorem reached_of_succeeds (succeeds : (tree.eval scope).Succeeds) (found : tree.at? path = some node)
    (needed : ¬tree.PassedOver scope path) : ¬tree.Unreached scope path ∧ (node.eval scope).Succeeds := by
  induction path generalizing tree with
  | nil =>
    cases found
    exact ⟨not_onTheWay_nil, succeeds⟩
  | cons k rest ih =>
    obtain ⟨child, within, there⟩ := exists_child_of_at? found
    rw [PassedOver, onTheWay_cons_iff within, not_or] at needed
    obtain ⟨reached, done⟩ := ih (succeeds_child succeeds within needed.1) there needed.2
    rw [Unreached, onTheWay_cons_iff within, not_or]
    exact ⟨⟨fun skipped => needed.1 (passesOver_of_skips succeeds skipped), reached⟩, done⟩

/-! ## All positions -/

/-- What an evaluation reaches, and what it does not depend on. -/
structure ReachedOnly (scope : Scope) (tree : Expr) : Prop where
  /-- The evaluation with a list of its visits is the evaluation. -/
  tour : (tree.tour scope).run = tree.eval scope
  /-- A subtree at an unreached position is not evaluated. -/
  unvisited : ∀ path node, tree.at? path = some node → tree.Unreached scope path →
    (tree.tour scope).outcomesAt path = []
  /-- Every other subtree is evaluated once, and what comes of it is what comes of it alone. -/
  visited : ∀ path node, tree.at? path = some node → ¬tree.Unreached scope path →
    (tree.tour scope).outcomesAt path = [(node.eval scope).outcome]
  /-- With any other tree at an unreached position, the whole run is the same: its value or fault, the
  references that it logs, and its calls. -/
  irrelevant : ∀ path, tree.Unreached scope path → ∀ other,
    (tree.replace path other).eval scope = tree.eval scope
  /-- The other tree really stands there. -/
  replaced : ∀ path other, (tree.at? path).isSome → (tree.replace path other).at? path = some other
  /-- If the evaluation succeeds, every subtree that is not passed over was evaluated once and succeeded. -/
  needed : (tree.eval scope).Succeeds → ∀ path node, tree.at? path = some node →
    ¬tree.PassedOver scope path → ∃ value, (tree.tour scope).outcomesAt path = [.ok value]

/-- An evaluation depends only on what it reaches, and reaches each subtree at most once. -/
theorem reached_only (scope : Scope) (tree : Expr) : ReachedOnly scope tree where
  tour := run_tour scope tree
  unvisited _ _ found unreached := outcomesAt_of_unreached found unreached
  visited _ _ found reached := outcomesAt_of_reached found reached
  irrelevant _ unreached other := eval_replace unreached other
  replaced _ _ exists_ := at?_replace exists_
  needed succeeds path node found needed := by
    obtain ⟨reached, value, outcome⟩ := reached_of_succeeds succeeds found needed
    exact ⟨value, by rw [outcomesAt_of_reached found reached, outcome]⟩

end Expr

end Scriptlet
