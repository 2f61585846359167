import Scriptlet.Text.Search

/-!
# Offsets in bytes

Where a text occurs in another can also be told by an offset, the number of bytes before it in UTF-8. Most
numbers are the offset of no character, and a text cannot be cut there (`before?`). It can be cut at every
offset that a search answers, and what is before it has as many characters as the position says
(`exists_before?`).
-/

set_option autoImplicit false

namespace Scriptlet.Text

/-- The least offset at which the sought text occurs, if it does. -/
def byteOffset? (sought : List Char) : List Char → Option Nat
  | [] => if sought = [] then some 0 else none
  | c :: rest =>
    if startsWith (c :: rest) sought then some 0
    else (byteOffset? sought rest).map (· + c.utf8Size)

/-- The characters before an offset, if a character starts there or the text ends. -/
def before? : List Char → Nat → Option (List Char)
  | _, 0 => some []
  | [], _ + 1 => none
  | c :: rest, offset + 1 =>
    if c.utf8Size ≤ offset + 1 then (before? rest (offset + 1 - c.utf8Size)).map (c :: ·) else none

theorem before?_cons (c : Char) (rest : List Char) (offset : Nat) :
    before? (c :: rest) (offset + c.utf8Size) = (before? rest offset).map (c :: ·) := by
  obtain ⟨size, width⟩ := Nat.exists_eq_succ_of_ne_zero (Nat.ne_of_gt c.utf8Size_pos)
  rw [width, Nat.add_succ, before?, width, if_pos (by omega)]
  congr 2
  omega

/-- A text that does not occur has no offset. -/
theorem byteOffset?_eq_none {sought text : List Char} (absent : position? sought text = none) :
    byteOffset? sought text = none := by
  induction text with
  | nil =>
    unfold position? at absent
    split at absent
    · cases absent
    · rename_i some_
      exact if_neg some_
  | cons c rest ih =>
    unfold position? at absent
    split at absent
    · cases absent
    · rename_i elsewhere
      rw [byteOffset?, if_neg elsewhere, ih (Option.map_eq_none_iff.mp absent)]
      rfl

/-- A text that occurs has an offset at which the other text can be cut, right before its position. -/
theorem exists_before? {sought text : List Char} {position : Nat}
    (found : position? sought text = some position) :
    ∃ offset before, byteOffset? sought text = some offset ∧ before? text offset = some before ∧
      before.length = position := by
  induction text generalizing position with
  | nil =>
    unfold position? at found
    split at found
    · rename_i nothing
      cases found
      exact ⟨0, [], if_pos nothing, rfl, rfl⟩
    · cases found
  | cons c rest ih =>
    unfold position? at found
    split at found
    · rename_i here
      cases found
      exact ⟨0, [], if_pos here, rfl, rfl⟩
    · rename_i elsewhere
      obtain ⟨later, foundLater, rfl⟩ := Option.map_eq_some_iff.mp found
      obtain ⟨offset, before, place, cut, length⟩ := ih foundLater
      refine ⟨offset + c.utf8Size, c :: before, ?_, ?_, congrArg (· + 1) length⟩
      · rw [byteOffset?, if_neg elsewhere, place]
        rfl
      · rw [before?_cons, cut]
        rfl

end Scriptlet.Text
