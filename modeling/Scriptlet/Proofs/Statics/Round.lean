import Scriptlet.Proofs.Double.HalfUp
import Scriptlet.Proofs.Evaluation.Overflow

/-!
# Rounding half up

The member `round` raises a double by one half and takes the integer part, which is meant to round it half up.
Two things stand between (`rounds_half_up`). The sum is rounded to a double, which takes some doubles past an
integer (`Double.RaisedPast`). And the check for 64 bits compares with the double nearest to the last integer of
them, which is `2 ^ 63`, so that is let pass and answered as the last integer. Every other double is rounded to
the integer that its exact value is rounded to, or it overflows because that does not fit.
-/

set_option autoImplicit false

namespace Scriptlet

namespace Quantity

variable {n : Int}

theorem lenientInt?_of_ne (other : n ≠ 2 ^ 63) : lenientInt? n = int64? n :=
  if_neg other

theorem lenientInt?_eq_none (large : 2 ^ 63 < |n|) : lenientInt? n = none := by
  have outside : n ≠ 2 ^ 63 ∧ ¬Fits n := by
    rw [lt_abs] at large
    unfold Fits
    omega
  rw [lenientInt?_of_ne outside.1, int64?_eq_none_iff]
  exact outside.2

/-- An integer up to `2 ^ 63` is answered, or the last one of 64 bits in its place. -/
theorem exists_lenientInt? (least : -2 ^ 63 ≤ n) (most : n ≤ 2 ^ 63) :
    ∃ i, lenientInt? n = some i ∧ i.toInt = min n (2 ^ 63 - 1) := by
  have found {m : Int} (fits : Fits m) : ∃ i, int64? m = some i ∧ i.toInt = m := by
    cases present : int64? m with
    | none => exact absurd fits (not_fits_of_int64? present)
    | some i => exact ⟨i, rfl, toInt_of_int64? present⟩
  unfold lenientInt?
  split_ifs with end_
  · rw [end_]
    exact found ⟨by decide, by decide⟩
  · rw [min_eq_left (by omega)]
    exact found ⟨least, by omega⟩

/-- Raising a double by one half overflows only if no integer of 64 bits is near it. -/
theorem bind_add?_half (d : Double) : (d.add? .half).bind (fun raised => lenientInt? raised.floorInt) =
    lenientInt? d.raisedInt := by
  cases sum : d.add? .half with
  | some raised =>
    have value := Double.signed_of_add? sum
    rw [Double.signed_half] at value
    rw [Option.bind_some, Double.floorInt, value, Double.raisedInt]
  | none =>
    have large := Double.lt_halfUp_of_overflows (Double.add?_eq_none_iff.mp sum)
    have regular : ¬d.RaisedPast := fun past => absurd past.small (by omega)
    rw [d.raisedInt_of_not_raisedPast regular, lenientInt?_eq_none (by omega), Option.bind_none]

end Quantity

open Quantity (lenientInt?)

variable {d : Double}

/-- A double is rounded to the integer part of what raising it by one half is rounded to. -/
theorem mathOutcome_round (d : Double) : mathOutcome "round" [.double d] =
    (lenientInt? d.raisedInt).elim (.error .overflow) fun i => .ok (.int i) := by
  have outcome : mathOutcome "round" [.double d] =
      (Quantity.round (.double d)).map Value.ofQuantity :=
    mathOutcome_ofNumber (f := Quantity.round) rfl (.double d)
  rw [outcome]
  unfold Quantity.round
  dsimp only
  rw [Quantity.bind_add?_half]
  cases lenientInt? d.raisedInt <;> rfl

/-- Up to `2 ^ 63` it is that integer, or the last one of 64 bits in its place. -/
theorem exists_mathOutcome_round (least : -2 ^ 63 ≤ d.raisedInt) (most : d.raisedInt ≤ 2 ^ 63) :
    ∃ j : Int64, mathOutcome "round" [.double d] = .ok (.int j) ∧
      j.toInt = min d.raisedInt (2 ^ 63 - 1) := by
  obtain ⟨j, found, value⟩ := Quantity.exists_lenientInt? least most
  refine ⟨j, ?_, value⟩
  rw [mathOutcome_round, found]
  rfl

/-- How `round` answers for an integer and for a double. -/
structure RoundsHalfUp (i : Int64) (d : Double) : Prop where
  integer : mathOutcome "round" [.int i] = .ok (.int i)
  /-- A double is rounded half up, and that overflows exactly if it does not fit. -/
  exactly : ¬d.RaisedPast → d.value ≠ 2 ^ 63 →
    ExactUnless (¬Fits d.halfUp) d.halfUp (mathOutcome "round" [.double d])
  /-- But some doubles are rounded to the integer after their own. -/
  past : d.RaisedPast → Fits d.halfUp ∧
    ∃ j : Int64, mathOutcome "round" [.double d] = .ok (.int j) ∧ j.toInt = d.halfUp + 1
  /-- And the double just past the integers of 64 bits does not overflow. -/
  last : d.value = 2 ^ 63 → ¬Fits d.halfUp ∧
    ∃ j : Int64, mathOutcome "round" [.double d] = .ok (.int j) ∧ j.toInt = 2 ^ 63 - 1

/-- A double is rounded half up, or overflows, but for those that are raised past an integer and for `2 ^ 63`. -/
theorem rounds_half_up (i : Int64) (d : Double) : RoundsHalfUp i d where
  integer := mathOutcome_ofNumber (f := Quantity.round) rfl (.int i)
  exactly regular other := by
    have inside : d.halfUp ≠ 2 ^ 63 := by
      intro end_
      have value : d.value = d.halfUp := Double.value_eq_halfUp (by omega)
      rw [end_] at value
      exact other (by rw [value]; norm_num)
    rw [mathOutcome_round, d.raisedInt_of_not_raisedPast regular, Quantity.lenientInt?_of_ne inside]
    cases fits : int64? d.halfUp with
    | none => exact Or.inl ⟨not_fits_of_int64? fits, rfl⟩
    | some j =>
      rw [← toInt_of_int64? fits]
      exact exactUnless_of_int64 j
  past past := by
    have small := abs_lt.mp past.small
    have next := past.raisedInt_eq
    refine ⟨⟨by omega, by omega⟩, ?_⟩
    obtain ⟨j, done, value⟩ := exists_mathOutcome_round (d := d) (by omega) (by omega)
    exact ⟨j, done, by omega⟩
  last value := by
    have end_ : d.halfUp = 2 ^ 63 := Double.halfUp_of_value_eq (by rw [value]; norm_num)
    have regular : ¬d.RaisedPast := fun past => absurd past.small (by rw [end_]; decide)
    have same := d.raisedInt_of_not_raisedPast regular
    refine ⟨fun fits => absurd fits.2 (by omega), ?_⟩
    obtain ⟨j, done, value⟩ := exists_mathOutcome_round (d := d) (by omega) (by omega)
    exact ⟨j, done, by omega⟩

end Scriptlet
