import Mathlib.Data.List.Find
import Scriptlet.Proofs.Statics.Registries

/-!
# Members with one joined name

A registry keeps a member under the name of its class and its own name, joined by a mark. Where such a
text has several marks it can be cut at each of them, and all pairs of names that come out share one place
(`key_eq_key_iff`). A lookup answers the member registered last at the place, and members at other places
never matter to it (`lookup_lawful`).

So a member of another class can be found instead of the one that is asked for
(`found_under_other_names`). In a template this does not happen, since the names there have no marks: then,
and in other cases without marks, a lookup answers the member registered last for exactly its two names.
-/

set_option autoImplicit false

namespace Scriptlet.Statics

/-- The member is kept at the place of the two names. -/
def Shares (owner name : String) (member : StaticMember) : Prop :=
  (member.owner = owner ∧ member.name = name) ∨ CutElsewhere owner name member.owner member.name

/-- The registry after these members have been registered in it. -/
def Origin.after (origin : Origin) (members : List StaticMember) : Statics :=
  members.foldl register origin.statics

/-! ## Lookups -/

section

variable {origin : Origin} {members : List StaticMember} {member : StaticMember}
  {owner name : String}

theorem after_eq_foldl (origin : Origin) (members : List StaticMember) :
    origin.after members = (origin.members ++ members).foldl register [] := by
  rw [List.foldl_append]
  cases origin <;> rfl

theorem key_eq_member_iff :
    key member.owner member.name = key owner name ↔ Shares owner name member := by
  rw [eq_comm, key_eq_key_iff, Shares]

/-- The last of some members that passes a test. -/
theorem find?_reverse_eq_some_iff {test : StaticMember → Bool} :
    members.reverse.find? test = some member ↔
      ∃ earlier later, members = earlier ++ member :: later ∧ test member = true ∧
        ∀ other ∈ later, ¬test other = true := by
  rw [List.find?_eq_some_iff_append]
  constructor
  · rintro ⟨passes, later, earlier, split, fail⟩
    refine ⟨earlier.reverse, later.reverse, ?_, passes, ?_⟩
    · simpa using congrArg List.reverse split
    · intro other among
      simpa using fail other (List.mem_reverse.mp among)
  · rintro ⟨earlier, later, rfl, passes, fail⟩
    refine ⟨passes, later.reverse, earlier.reverse, by simp, ?_⟩
    intro other among
    simpa using fail other (List.mem_reverse.mp among)

theorem member?_after_eq_some_iff :
    (origin.after members).member? owner name = some member ↔
      ∃ earlier later, origin.members ++ members = earlier ++ member :: later ∧
        Shares owner name member ∧ ∀ other ∈ later, ¬Shares owner name other := by
  rw [after_eq_foldl, member?_foldl, find?_reverse_eq_some_iff]
  simp only [decide_eq_true_eq, key_eq_member_iff]

theorem member?_after_eq_none_iff :
    (origin.after members).member? owner name = none ↔
      ∀ member ∈ origin.members ++ members, ¬Shares owner name member := by
  rw [after_eq_foldl, member?_foldl, List.find?_eq_none]
  simp only [List.mem_reverse, decide_eq_true_eq, key_eq_member_iff]

/-- One more member is answered where it shares the place, and makes no difference anywhere else. -/
theorem member?_after_append [Decidable (Shares owner name member)] :
    (origin.after (members ++ [member])).member? owner name =
      if Shares owner name member then some member
      else (origin.after members).member? owner name := by
  unfold Origin.after
  rw [List.foldl_append, List.foldl_cons, List.foldl_nil, member?_register]
  simp only [eq_comm (a := key owner name), key_eq_member_iff]

theorem member?_after_eq_latest?
    (plain : ∀ member ∈ origin.members ++ members, ¬CutElsewhere owner name member.owner member.name) :
    (origin.after members).member? owner name = latest? (origin.members ++ members) owner name := by
  rw [after_eq_foldl, member?_foldl, latest?]
  apply List.find?_congr
  intro member among
  rw [decide_eq_decide, key_eq_member_iff, Shares]
  exact or_iff_left (plain member (List.mem_reverse.mp among))

end

/-- What lookups of two names answer after some members have been registered. -/
structure LooksUp (origin : Origin) (members : List StaticMember) (owner name : String) : Prop where
  /-- The answer is the last member that shares the place. -/
  found : ∀ member, (origin.after members).member? owner name = some member ↔
    ∃ earlier later, origin.members ++ members = earlier ++ member :: later ∧
      Shares owner name member ∧ ∀ other ∈ later, ¬Shares owner name other
  /-- There is none if no member shares the place. -/
  missing : (origin.after members).member? owner name = none ↔
    ∀ member ∈ origin.members ++ members, ¬Shares owner name member
  /-- A member that shares the place is answered once it is registered. -/
  replaced : ∀ member, Shares owner name member →
    (origin.after (members ++ [member])).member? owner name = some member
  /-- A member that does not share the place makes no difference. -/
  undisturbed : ∀ member, ¬Shares owner name member →
    (origin.after (members ++ [member])).member? owner name =
      (origin.after members).member? owner name
  /-- If no member is at the place under other names, the answer is the last one with these names. -/
  exact : (∀ member ∈ origin.members ++ members,
      ¬CutElsewhere owner name member.owner member.name) →
    (origin.after members).member? owner name = latest? (origin.members ++ members) owner name
  /-- None is if the two names have no marks, or no class has, or no name of a member. -/
  plain : ('@' ∉ owner.toList ∧ '@' ∉ name.toList) ∨
      ('@' ∉ owner.toList ∧ ∀ member ∈ origin.members ++ members, '@' ∉ member.owner.toList) ∨
      ('@' ∉ name.toList ∧ ∀ member ∈ origin.members ++ members, '@' ∉ member.name.toList) →
    ∀ member ∈ origin.members ++ members, ¬CutElsewhere owner name member.owner member.name

/-- A lookup answers the member registered last at the place of the two names, whatever the names are. -/
theorem lookup_lawful (origin : Origin) (members : List StaticMember) (owner name : String) :
    LooksUp origin members owner name where
  found _ := member?_after_eq_some_iff
  missing := member?_after_eq_none_iff
  replaced member shares := by
    classical
    rw [member?_after_append, if_pos shares]
  undisturbed member apart := by
    classical
    rw [member?_after_append, if_neg apart]
  exact := member?_after_eq_latest?
  plain unmarked member among := by
    apply not_cutElsewhere
    rcases unmarked with both | ⟨owners, each⟩ | ⟨names, each⟩
    · exact Or.inr (Or.inr both)
    · exact Or.inl ⟨owners, each member among⟩
    · exact Or.inr (Or.inl ⟨names, each member among⟩)

/-- Not every lookup answers the member registered last for exactly the two names: `c` of the class `a@b` is
found as `b@c` of the class `a`. -/
theorem found_under_other_names :
    ¬∀ (origin : Origin) (members : List StaticMember) (owner name : String),
      (origin.after members).member? owner name =
        latest? (origin.members ++ members) owner name := by
  intro lawful
  let member : StaticMember := ⟨"a@b", "c", ⟨0, 0⟩, fun _ => .ok .null⟩
  have shares : Shares "a" "b@c" member := Or.inr ⟨"b", Or.inl ⟨by decide, by decide⟩⟩
  have found : (Origin.empty.after [member]).member? "a" "b@c" = some member :=
    member?_after_eq_some_iff.mpr ⟨[], [], rfl, shares, by simp⟩
  have none_ : latest? [member] "a" "b@c" = none := by simp [latest?, member]
  have same := lawful .empty [member] "a" "b@c"
  rw [found] at same
  cases same.trans none_

end Scriptlet.Statics
