import Scriptlet.Proofs.Template.GrammarWalkers

/-!
# The cursor stays in the text

Reading a template with a cursor comes to what `parse` comes to, and on the way the cursor is always between two
characters of the template or at one of its ends (`cursor_valid`). It moves on and on, but for one case: behind
the mark of an exponent, and perhaps a sign, it goes back if no digit follows.

The walk is not guarded: that it is never torn is because the cursor stands in the text wherever a piece is cut.
No loop of it goes round more often than the template has bytes, so it is not endless either, and a template that
cannot be read is rejected at a position between two of its characters or at an end.
-/

set_option autoImplicit false

namespace Scriptlet.Template

variable {text : List Char} {start last : Nat} {cursors : List Nat}

/-! ## Paths -/

theorem Path.at_of_mem (path : Path text start cursors last) :
    ∀ cursor ∈ cursors, ∃ rest, At text cursor rest := by
  induction path with
  | stay => exact fun _ member => absurd member List.not_mem_nil
  | move first _ ih => exact List.forall_mem_cons.mpr ⟨first.place, ih⟩

theorem Path.isChain (path : Path text start cursors last) :
    (start :: cursors).IsChain fun start target => start < target ∨ UndoesExponent text start target := by
  induction path with
  | stay start => exact .singleton start
  | move first _ ih => exact .cons_cons first.forward ih

namespace Tracks

variable {α : Type} {walk : Walk α} {answer : Except Failure (α × List Char)}

theorem exists_path (tracked : Tracks text start walk answer) :
    ∃ last, Path text start walk.cursors last := by
  cases tracked with
  | accepted path | rejected path => exact ⟨_, path⟩

/-- A walk that comes to an answer was neither torn nor endless. -/
theorem outcome_ne (tracked : Tracks text start walk answer) :
    walk.outcome ≠ .error .torn ∧ walk.outcome ≠ .error .endless := by
  cases tracked with
  | accepted | rejected => exact ⟨nofun, nofun⟩

end Tracks

/-! ## Templates -/

/-- The cursor stands in the template: it is in its range, and between two characters or at an end. -/
structure IsCursor (template : String) (cursor : Nat) : Prop where
  le : cursor ≤ template.utf8ByteSize
  boundary : (String.Pos.Raw.mk cursor).IsValid template

/-- The walk of a cursor over a template, within the limits of the template language. -/
def walk (template : String) : Walk (Parsed Expr) :=
  walkWithin .standard template

/-- Reading a template with a cursor. -/
structure ValidCursor (template : String) : Prop where
  /-- The cursor starts in the template and never leaves it. -/
  inside : ∀ cursor ∈ 0 :: (walk template).cursors, IsCursor template cursor
  /-- It moves forward, but for taking back the mark of an exponent. -/
  forward : (0 :: (walk template).cursors).IsChain fun start target =>
    start < target ∨ UndoesExponent template.toList start target
  /-- No piece is cut where the cursor cannot stand, and every loop comes to its end. -/
  whole : (walk template).outcome ≠ .error .torn ∧ (walk template).outcome ≠ .error .endless
  /-- A template that is read has been passed to its end, and its tree is handed on with its height. -/
  accepted : ∀ tree, parse template = .ok tree →
    (walk template).outcome = .ok (⟨tree, tree.height⟩, template.utf8ByteSize)
  /-- A template that is not read is rejected in the walk for the same reason, at a position in it. -/
  rejected : ∀ fault, parse template = .error fault → ∃ position reason,
    fault = .unreadable position reason ∧ IsCursor template position ∧
      (walk template).outcome = .error (.rejected position reason)

theorem isCursor_of_at {template : String} {cursor : Nat} {rest : List Char}
    (place : At template.toList cursor rest) : IsCursor template cursor where
  le := utf8ByteSize_toList template ▸ place.le
  boundary := by
    have valid := isValid_iff.mpr ⟨rest, place⟩
    rwa [String.ofList_toList] at valid

/-- A template is read with a cursor that stays in it, and that only goes back behind the mark of an exponent. -/
theorem cursor_valid (template : String) : ValidCursor template := by
  have tracked : Tracks template.toList 0 (walk template) _ := tracks_walkWithin .standard template
  obtain ⟨last, path⟩ := tracked.exists_path
  refine ⟨?_, path.isChain, tracked.outcome_ne, fun tree read => ?_, fun fault refused => ?_⟩
  · refine List.forall_mem_cons.mpr ⟨isCursor_of_at (at_zero _), fun cursor member => ?_⟩
    obtain ⟨rest, place⟩ := path.at_of_mem cursor member
    exact isCursor_of_at place
  · exact outcome_walkWithin_of_ok read
  · obtain ⟨position, reason, rest, rfl, place, outcome⟩ := outcome_walkWithin_of_error refused
    exact ⟨position, reason, rfl, isCursor_of_at place, outcome⟩

/-- Behind the mark and the sign there is no digit, so the cursor goes back before both. -/
example : (walk "1e+").cursors = [1, 2, 3, 1] := by cbv

end Scriptlet.Template
