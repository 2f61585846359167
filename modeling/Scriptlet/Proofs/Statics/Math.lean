import Scriptlet.Proofs.Statics.Registries
import Scriptlet.Proofs.Value.Inert

/-!
# The members of `Math` answer by themselves

A member of the class `Math` is a computation on numbers. Whatever its arguments are, its outcome is
`Inert`: data, or a fault of its own.
-/

set_option autoImplicit false

namespace Scriptlet

/-! ## Functions on quantities -/

theorem unraised_viaDouble (f : Double → Option Double) (q : Quantity) :
    Unraised (q.viaDouble f) :=
  unraised_ofDouble? _

-- The function is not unfolded here, since the check for 64 bits would be computed on an unknown number.
theorem unraised_magnitude (q : Quantity) : Unraised q.magnitude := by
  fun_cases Quantity.magnitude q
  · exact unraised_ok _
  · exact unraised_error rfl
  · exact unraised_ok _

theorem unraised_round (q : Quantity) : Unraised q.round := by
  cases q with
  | int i => exact unraised_ok _
  | double d =>
    unfold Quantity.round
    dsimp only
    split
    · exact unraised_ok _
    · exact unraised_error rfl

namespace Statics

/-! ## Members -/

variable {member : StaticMember}

theorem inert_ofNumber {f : Quantity → Except Fault Quantity} (unraised : ∀ x, Unraised (f x)) :
    (ofNumber f).Inert :=
  fun a => (unraised_quantity a).bind_inert fun x => (unraised x).bind_inert fun _ => inert_ok _

theorem inert_ofNumbers {f : Quantity → Quantity → Except Fault Quantity}
    (unraised : ∀ x y, Unraised (f x y)) : (ofNumbers f).Inert :=
  fun a b => (unraised_quantity a).bind_inert fun x => (unraised_quantity b).bind_inert fun y =>
    (unraised x y).bind_inert fun _ => inert_ok _

/-- Every member of `Math` answers any arguments by itself. -/
theorem inert_body_of_mem_math (mem : member ∈ math) (arguments : List Value) :
    Inert (member.body arguments) := by
  have answers : ∀ {name : String} {method : Method}, method.Inert →
      Inert ((mathMember name method).body arguments) := fun inert => inert.call _ arguments
  simp only [math, List.mem_cons, List.not_mem_nil, or_false] at mem
  rcases mem with rfl | rfl | rfl | rfl | rfl | rfl | rfl | rfl | rfl | rfl
  · exact answers (inert_ok _)
  · exact answers (inert_ok _)
  · exact answers (inert_ofNumber (unraised_viaDouble _))
  · exact answers (inert_ofNumber (unraised_viaDouble _))
  · exact answers (inert_ofNumber (unraised_viaDouble _))
  · exact answers (inert_ofNumbers fun _ _ => unraised_viaDouble _ _)
  · exact answers (inert_ofNumber unraised_magnitude)
  · exact answers (inert_ofNumber unraised_round)
  · exact answers (inert_ofNumbers fun _ _ => unraised_ok _)
  · exact answers (inert_ofNumbers fun _ _ => unraised_ok _)

/-- What the registry of built-in members has are members of `Math`. -/
theorem mem_math_of_member? {owner name : String} (found : builtins.member? owner name = some member) :
    member ∈ math := by
  rw [builtins, member?_foldl] at found
  exact List.mem_reverse.mp (List.mem_of_find?_eq_some found)

end Statics

end Scriptlet
