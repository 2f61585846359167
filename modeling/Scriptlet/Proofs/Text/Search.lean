import Mathlib.Data.List.Infix
import Scriptlet.Text.Search

/-!
# What a search finds

A text starts or ends with another if it can be cut there (`startsWith_iff`, `endsWith_iff`), and it has another
one at a position if what is left from there starts with it. A search finds the least such position, and nothing
only where there is none (`position?_eq_some_iff`, `position?_eq_none_iff`).
-/

set_option autoImplicit false

namespace Scriptlet.Text

variable {start text sought rest : List Char}

theorem after?_eq_some_iff : after? start text = some rest ↔ start ++ rest = text := by
  fun_induction after? start text with
  | case1 text => simp [eq_comm]
  | case2 p start => simp
  | case3 p start text ih => simpa using ih
  | case4 p start c text differ => simp [differ]

theorem startsWith_iff_append : startsWith text start = true ↔ start <+: text := by
  rw [startsWith, Option.isSome_iff_exists]
  exact exists_congr fun rest => after?_eq_some_iff

/-- A text starts with another that can be cut off from it. -/
theorem startsWith_iff :
    startsWith text start = true ↔ start.length ≤ text.length ∧ text.take start.length = start := by
  rw [startsWith_iff_append, List.prefix_iff_eq_take]
  constructor
  · intro same
    have length := congrArg List.length same
    rw [List.length_take] at length
    exact ⟨by omega, same.symm⟩
  · exact fun both => both.2.symm

/-- A text ends with another that remains when the rest is cut off. -/
theorem endsWith_iff {ending : List Char} : endsWith text ending = true ↔
    ending.length ≤ text.length ∧ text.drop (text.length - ending.length) = ending := by
  rw [endsWith, startsWith_iff_append, List.reverse_prefix, List.suffix_iff_eq_drop]
  constructor
  · intro same
    have length := congrArg List.length same
    rw [List.length_drop] at length
    exact ⟨by omega, same.symm⟩
  · exact fun both => both.2.symm

/-! ## Positions -/

/-- The position is in the text or at its end, and what is left from there starts with the sought text. -/
def OccursAt (sought text : List Char) (position : Nat) : Prop :=
  position ≤ text.length ∧ startsWith (text.drop position) sought = true

theorem occursAt_zero_iff : OccursAt sought text 0 ↔ startsWith text sought = true := by
  simp [OccursAt]

theorem occursAt_succ_iff {c : Char} {position : Nat} :
    OccursAt sought (c :: text) (position + 1) ↔ OccursAt sought text position := by
  simp [OccursAt]

/-- What is found is the least position. -/
theorem least_of_position? {position : Nat} (found : position? sought text = some position) :
    OccursAt sought text position ∧ ∀ earlier < position, ¬OccursAt sought text earlier := by
  induction text generalizing position with
  | nil =>
    rw [position?] at found
    split at found
    · rename_i nothing
      cases found
      exact ⟨occursAt_zero_iff.mpr (by rw [nothing]; rfl), nofun⟩
    · cases found
  | cons c text ih =>
    rw [position?] at found
    split at found
    · rename_i here
      cases found
      exact ⟨occursAt_zero_iff.mpr here, nofun⟩
    · rename_i elsewhere
      obtain ⟨later, foundLater, rfl⟩ := Option.map_eq_some_iff.mp found
      obtain ⟨occurs, least⟩ := ih foundLater
      refine ⟨occursAt_succ_iff.mpr occurs, fun earlier before => ?_⟩
      cases earlier with
      | zero => exact mt occursAt_zero_iff.mp elsewhere
      | succ earlier => exact mt occursAt_succ_iff.mp (least earlier (Nat.lt_of_succ_lt_succ before))

theorem not_occursAt_of_position? (absent : position? sought text = none) (position : Nat) :
    ¬OccursAt sought text position := by
  induction text generalizing position with
  | nil =>
    rw [position?] at absent
    split at absent
    · cases absent
    · rename_i some_
      rintro ⟨-, starts⟩
      rw [List.drop_nil, startsWith_iff_append, List.prefix_nil] at starts
      exact some_ starts
  | cons c text ih =>
    rw [position?] at absent
    split at absent
    · cases absent
    · rename_i elsewhere
      cases position with
      | zero => exact mt occursAt_zero_iff.mp elsewhere
      | succ position => exact mt occursAt_succ_iff.mp (ih (Option.map_eq_none_iff.mp absent) position)

theorem position?_eq_none_iff :
    position? sought text = none ↔ ∀ position, ¬OccursAt sought text position := by
  refine ⟨not_occursAt_of_position?, fun nowhere => ?_⟩
  cases found : position? sought text with
  | none => rfl
  | some position => exact absurd (least_of_position? found).1 (nowhere position)

theorem position?_eq_some_iff {position : Nat} : position? sought text = some position ↔
    OccursAt sought text position ∧ ∀ earlier < position, ¬OccursAt sought text earlier := by
  refine ⟨least_of_position?, fun ⟨occurs, least⟩ => ?_⟩
  cases found : position? sought text with
  | none => exact absurd occurs (not_occursAt_of_position? found position)
  | some other =>
    obtain ⟨occurs', least'⟩ := least_of_position? found
    rcases Nat.lt_trichotomy other position with less | rfl | greater
    · exact absurd occurs' (least other less)
    · rfl
    · exact absurd occurs (least' position greater)

end Scriptlet.Text
