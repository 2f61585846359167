import Mathlib.Data.List.Induction
import Scriptlet.Proofs.Registry.Session
import Scriptlet.Proofs.Template.References
import Scriptlet.Statics.Math

/-!
# Sessions with registries of static members

Registries of static members are empty at first or have the members of `Math`, and every later member
replaces an earlier one of the same joined name. Classes and names may be any texts, so several members can
have one joined name. What a template refers to has two names without `@`, and these tell the joined name
apart from all others (`key_eq_iff`).

So a reference in a template reaches the member registered last for exactly its class and its name, whatever
the commands of the session are and however its registries share their storage (`reaches_latest`).
-/

set_option autoImplicit false

namespace Scriptlet.Statics

open Template (Written isName not_mem_of_isName written_of_parse)

/-- Where a registry comes from. -/
inductive Origin where
  | empty
  | builtins

/-- What a registry is at first. -/
def Origin.statics : Origin → Statics
  | empty => []
  | builtins => .builtins

/-- The members that a registry has at first. -/
def Origin.members : Origin → List StaticMember
  | empty => []
  | builtins => math

/-- Registries of static members as a kind of registries, which never refuse a member. -/
def registrar : Registrar Origin StaticMember Statics Empty where
  enter statics member := .ok (statics.register member)
  empty := []
  start := Origin.statics
  initial := Origin.members
  starts origin := by cases origin <;> rfl

/-- The member registered last with a class and a name. -/
def latest? (members : List StaticMember) (owner name : String) : Option StaticMember :=
  members.reverse.find? fun member => member.owner = owner ∧ member.name = name

/-! ## Joined names -/

/-- The two pairs of names are one text with marks, cut at different marks: the part between the two is the
end of one class and the start of the other name. -/
def CutElsewhere (owner name otherOwner otherName : String) : Prop :=
  ∃ part, (otherOwner = key owner part ∧ name = key part otherName) ∨
    (owner = key otherOwner part ∧ otherName = key part name)

/-- Two texts with marks are the same if they are cut at the same mark, or one is cut further on. -/
theorem append_mark_eq_iff {α : Type} {mark : α} {a b c d : List α} :
    a ++ mark :: b = c ++ mark :: d ↔
      (c = a ∧ d = b) ∨ (∃ part, c = a ++ mark :: part ∧ b = part ++ mark :: d) ∨
        ∃ part, a = c ++ mark :: part ∧ d = part ++ mark :: b := by
  constructor
  · intro same
    rcases List.append_eq_append_iff.mp same with ⟨between, more, rest⟩ | ⟨between, more, rest⟩
    · cases between with
      | nil => simp_all
      | cons first part =>
        obtain ⟨rfl, tail⟩ := List.cons.inj rest
        exact Or.inr (Or.inl ⟨part, more, tail⟩)
    · cases between with
      | nil => simp_all
      | cons first part =>
        obtain ⟨rfl, tail⟩ := List.cons.inj rest
        exact Or.inr (Or.inr ⟨part, more, tail⟩)
  · rintro (⟨rfl, rfl⟩ | ⟨part, rfl, rfl⟩ | ⟨part, rfl, rfl⟩) <;> simp

theorem toList_key (owner name : String) :
    (key owner name).toList = owner.toList ++ '@' :: name.toList := by
  rw [key, String.toList_append, String.toList_append, List.append_assoc]
  rfl

theorem eq_key_iff {text owner name : String} :
    text = key owner name ↔ text.toList = owner.toList ++ '@' :: name.toList := by
  rw [← toList_key, String.toList_inj]

theorem exists_text_iff {p : List Char → Prop} :
    (∃ part : String, p part.toList) ↔ ∃ part, p part := by
  constructor
  · intro ⟨part, holds⟩
    exact ⟨part.toList, holds⟩
  · intro ⟨part, holds⟩
    exact ⟨String.ofList part, by rwa [String.toList_ofList]⟩

/-- Two pairs of names have one joined name if they are the same or cuts of one text. -/
theorem key_eq_key_iff {owner name otherOwner otherName : String} :
    key owner name = key otherOwner otherName ↔
      (otherOwner = owner ∧ otherName = name) ∨ CutElsewhere owner name otherOwner otherName := by
  have further (a b c d : String) : (∃ part, a = key b part ∧ c = key part d) ↔
      ∃ part, a.toList = b.toList ++ '@' :: part ∧ c.toList = part ++ '@' :: d.toList := by
    rw [← exists_text_iff]
    simp only [eq_key_iff]
  rw [eq_key_iff, toList_key, append_mark_eq_iff, ← further, ← further, String.toList_inj,
    String.toList_inj, CutElsewhere, exists_or]

/-- Names without marks, on either side, or on both sides of one pair, are cut in one way only. -/
theorem not_cutElsewhere {owner name otherOwner otherName : String}
    (plain : ('@' ∉ owner.toList ∧ '@' ∉ otherOwner.toList) ∨
      ('@' ∉ name.toList ∧ '@' ∉ otherName.toList) ∨ ('@' ∉ owner.toList ∧ '@' ∉ name.toList)) :
    ¬CutElsewhere owner name otherOwner otherName := by
  have marked (a b : String) : '@' ∈ (key a b).toList := by simp [toList_key]
  rintro ⟨part, ⟨rfl, rfl⟩ | ⟨rfl, rfl⟩⟩ <;> simp [marked] at plain

/-- A joined name of two names without marks is that of no other two. -/
theorem key_eq_iff {owner name : String} (plainOwner : '@' ∉ owner.toList)
    (plainName : '@' ∉ name.toList) (otherOwner otherName : String) :
    key otherOwner otherName = key owner name ↔ otherOwner = owner ∧ otherName = name := by
  rw [eq_comm, key_eq_key_iff]
  exact or_iff_left (not_cutElsewhere (Or.inr (Or.inr ⟨plainOwner, plainName⟩)))

/-! ## One registry -/

variable {members : List StaticMember} {owner name : String}

/-- A registry finds the member registered last under a joined name. -/
theorem member?_foldl (members : List StaticMember) (owner name : String) :
    member? (members.foldl register []) owner name =
      members.reverse.find? fun member => key member.owner member.name = key owner name := by
  induction members using List.reverseRecOn with
  | nil => rfl
  | append_singleton members member ih =>
    rw [List.foldl_append, List.foldl_cons, List.foldl_nil, member?_register, ih,
      List.reverse_append, List.reverse_singleton, List.singleton_append, List.find?_cons]
    by_cases same : key member.owner member.name = key owner name
    · rw [if_pos same.symm]
      simp [same]
    · rw [if_neg (Ne.symm same)]
      simp [same]

theorem member?_eq_latest? (validOwner : isName owner = true) (validName : isName name = true)
    (members : List StaticMember) :
    member? (members.foldl register []) owner name = latest? members owner name := by
  rw [member?_foldl, latest?]
  congr 1
  funext member
  rw [decide_eq_decide]
  exact key_eq_iff (not_mem_of_isName validOwner) (not_mem_of_isName validName) _ _

/-! ## References in templates -/

/-- What a reference with these arguments does, where these members have been registered. -/
structure Reaches (members : List StaticMember) (scope : Scope) (owner name : String)
    (arguments : List Expr) : Prop where
  /-- The member registered last for the class and the name is called, once and with the values of the
  arguments in order, if it accepts their number. -/
  calls : ∀ values member, (Expr.evalEach scope arguments).outcome = .ok values →
    latest? members owner name = some member →
    member.arity.least ≤ values.length → values.length ≤ member.arity.greatest →
    (Expr.static owner name arguments).eval scope =
      ⟨(Expr.evalEach scope arguments).steps ++
        [.staticReference owner name, .static owner name values (member.body values)],
        member.body values⟩
  /-- It is not called with a number of arguments that it does not accept. -/
  miscounts : ∀ values member, (Expr.evalEach scope arguments).outcome = .ok values →
    latest? members owner name = some member →
    ¬(member.arity.least ≤ values.length ∧ values.length ≤ member.arity.greatest) →
    (Expr.static owner name arguments).eval scope =
      ⟨(Expr.evalEach scope arguments).steps ++ [.staticReference owner name],
        .error (.wrongArity ("@" ++ owner ++ "@" ++ name) (.arity member.arity) values.length)⟩
  /-- Without such a member nothing is called. -/
  misses : ∀ values, (Expr.evalEach scope arguments).outcome = .ok values →
    latest? members owner name = none →
    (Expr.static owner name arguments).eval scope =
      ⟨(Expr.evalEach scope arguments).steps ++ [.staticReference owner name],
        .error (.noSuchMethod ("@" ++ owner) name)⟩

/-- A reference does what its registry does with the values of its arguments. -/
theorem eval_static {scope : Scope} {arguments : List Expr} {values : List Value}
    (evaluated : (Expr.evalEach scope arguments).outcome = .ok values) :
    (Expr.static owner name arguments).eval scope =
      ⟨(Expr.evalEach scope arguments).steps ++ (.staticReference owner name ::
        (scope.statics.call owner name values).steps),
        (scope.statics.call owner name values).outcome⟩ := by
  rw [Expr.eval]
  show Run.bind (Expr.evalEach scope arguments) (scope.static owner name) = _
  rw [Run.bind, evaluated]
  rfl

/-- A reference reaches the member that its registry finds. -/
theorem reaches {scope : Scope} (found : scope.statics.member? owner name = latest? members owner name)
    (arguments : List Expr) : Reaches members scope owner name arguments where
  calls values member evaluated last enough few := by
    have accepted : member.arity.accepts values.length = true := by
      simp [Arity.accepts, enough, few]
    have called : scope.statics.call owner name values =
        .call (.static owner name values) (member.body values) := by
      simp only [call, found, last, accepted, if_true]
    rw [eval_static evaluated, called]
    rfl
  miscounts values member evaluated last outside := by
    have rejected : ¬ member.arity.accepts values.length = true := by
      simpa [Arity.accepts] using outside
    have called : scope.statics.call owner name values =
        .fail (member.arity.violation ("@" ++ key owner name) values.length) := by
      simp only [call, found, last, if_neg rejected]
    have joined : "@" ++ key owner name = "@" ++ owner ++ "@" ++ name := by
      rw [key, String.append_assoc, String.append_assoc, String.append_assoc]
    rw [eval_static evaluated, called, joined]
    rfl
  misses values evaluated absent := by
    have called : scope.statics.call owner name values =
        .fail (.noSuchMethod ("@" ++ owner) name) := by
      simp only [call, found, absent]
    rw [eval_static evaluated, called]
    rfl

/-! ## All registries of a session -/

/-- What holds of the registries of a session after some commands, and of what follows. -/
structure Lawful (commands : List (Command Origin StaticMember)) : Prop where
  /-- Every static node of a template is written there as it is, up to packages before its class, and
  reaches what the history of its registry says. -/
  reaches : ∀ handle statics, registrar.view? commands handle = some statics →
    ∃ members, registrar.history? commands handle = some members ∧
      ∀ template tree, Template.parse template = .ok tree →
        ∀ owner name arguments, .static owner name arguments ∈ tree.nodes →
          Written template.toList owner name arguments ∧
          ∀ scope, scope.statics = statics → Reaches members scope owner name arguments
  /-- Every member is registered, as the last one of its registry. -/
  registers : ∀ handle statics member, registrar.view? commands handle = some statics →
    registrar.answer commands (.register handle member) = .ok () ∧
    registrar.history? (commands ++ [.register handle member]) handle =
      (registrar.history? commands handle).map (· ++ [member])
  /-- New registries and copies are as they should be, and no command has an effect on another
  registry than its own. -/
  isolated : registrar.Isolated commands

/-- After any commands, a reference in a template reaches the member registered last in its registry for
exactly its class and its name, and calls it with accepted numbers of arguments only. -/
theorem reaches_latest (commands : List (Command Origin StaticMember)) : Lawful commands where
  reaches handle statics shown := by
    obtain ⟨members, known, rfl⟩ := Registrar.exists_history shown
    refine ⟨members, known, fun template tree parsed owner name arguments node => ?_⟩
    have written := written_of_parse parsed owner name arguments node
    have ⟨_, _, _, _, _, validOwner, validName, _⟩ := written
    refine ⟨written, fun scope same => reaches ?_ arguments⟩
    rw [same]
    exact member?_eq_latest? validOwner validName members
  registers handle statics member shown := by
    obtain ⟨answered, -, recorded⟩ :=
      (registrar.isolated_run commands).registers handle statics member _ shown rfl
    exact ⟨answered, recorded⟩
  isolated := registrar.isolated_run commands

end Scriptlet.Statics
