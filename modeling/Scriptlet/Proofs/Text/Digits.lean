import Mathlib.Data.List.TakeWhile
import Mathlib.Tactic.Ring
import Scriptlet.Proofs.Template.Lexemes

/-!
# Runs of digits

How the value of a run of digits comes about from its parts, and how many digits a number has: a number with
`k + 1` digits is at least `10 ^ k` and below ten times that (`digitCount_le_iff`). Zeros at the end of a run
count for powers of ten (`exists_zeros`).
-/

set_option autoImplicit false

namespace Scriptlet.Text

open Template (isDigit_of_mem_toDigits ofDigits_toDigits)

variable {first second digits : List Char} {n k : Nat}

/-! ## Values of runs -/

theorem foldl_digits (digits : List Char) (value : Nat) :
    digits.foldl (fun value c => 10 * value + digitValue c) value =
      value * 10 ^ digits.length + ofDigits digits := by
  induction digits generalizing value with
  | nil => simp [ofDigits]
  | cons c rest ih =>
    have whole : ofDigits (c :: rest) = (10 * 0 + digitValue c) * 10 ^ rest.length + ofDigits rest :=
      ih _
    rw [List.foldl_cons, ih, whole, List.length_cons, Nat.pow_succ]
    ring

/-- A run goes on with its first digit behind the value so far. -/
theorem value_cons (value : Nat) (c : Char) (rest : List Char) :
    (10 * value + digitValue c) * 10 ^ rest.length + ofDigits rest =
      value * 10 ^ (c :: rest).length + ofDigits (c :: rest) :=
  (foldl_digits rest _).symm.trans (foldl_digits (c :: rest) value)

theorem ofDigits_append (first second : List Char) :
    ofDigits (first ++ second) = ofDigits first * 10 ^ second.length + ofDigits second := by
  rw [ofDigits, List.foldl_append, foldl_digits]
  rfl

theorem ofDigits_cons (c : Char) (rest : List Char) :
    ofDigits (c :: rest) = digitValue c * 10 ^ rest.length + ofDigits rest := by
  have single : ofDigits [c] = digitValue c := by simp [ofDigits]
  rw [← single]
  exact ofDigits_append [c] rest

theorem ofDigits_zeros (n : Nat) : ofDigits (List.replicate n '0') = 0 := by
  induction n with
  | zero => rfl
  | succ n ih =>
    rw [List.replicate_succ, ofDigits_cons, ih]
    simp [digitValue]

theorem ofDigits_append_zeros (digits : List Char) (n : Nat) :
    ofDigits (digits ++ List.replicate n '0') = ofDigits digits * 10 ^ n := by
  rw [ofDigits_append, ofDigits_zeros, List.length_replicate, Nat.add_zero]

theorem isDigit_of_mem_zeros {c : Char} {n : Nat} (member : c ∈ List.replicate n '0') :
    isDigit c = true := by
  rw [List.eq_of_mem_replicate member]
  rfl

theorem digitValue_lt {c : Char} (digit : isDigit c = true) : digitValue c < 10 := by
  have last := (isDigit_iff.mp digit).2
  unfold digitValue
  have nine : '9'.toNat = 57 := rfl
  have zero : '0'.toNat = 48 := rfl
  have le : c.toNat ≤ '9'.toNat := last
  omega

theorem ofDigits_lt (all : ∀ c ∈ digits, isDigit c = true) : ofDigits digits < 10 ^ digits.length := by
  induction digits with
  | nil => exact Nat.one_pos
  | cons c rest ih =>
    have below := ih fun d member => all d (List.mem_cons_of_mem c member)
    have digit := digitValue_lt (all c List.mem_cons_self)
    rw [ofDigits_cons, List.length_cons, Nat.pow_succ]
    have le : digitValue c * 10 ^ rest.length ≤ 9 * 10 ^ rest.length :=
      Nat.mul_le_mul_right _ (by omega)
    omega

/-! ## Numbers of digits -/

theorem digitCount_le_iff (pos : 0 < k) : digitCount n ≤ k ↔ n < 10 ^ k := by
  induction k generalizing n with
  | zero => cases pos
  | succ k ih =>
    rw [digitCount]
    split
    · rename_i small
      refine iff_of_true (by omega) (small.trans_le ?_)
      rw [Nat.pow_succ]
      exact Nat.le_mul_of_pos_left 10 (Nat.pow_pos (by decide))
    · rename_i large
      cases k with
      | zero => exact iff_of_false (by have := digitCount_pos (n / 10); omega) (by simpa using large)
      | succ k =>
        rw [Nat.add_le_add_iff_right, ih (Nat.succ_pos k), Nat.div_lt_iff_lt_mul (by decide),
          ← Nat.pow_succ]

theorem lt_ten_pow_digitCount (n : Nat) : n < 10 ^ digitCount n :=
  (digitCount_le_iff (digitCount_pos n)).mp (Nat.le_refl _)

/-- A number has more than `k` digits if it is at least the least such number. -/
theorem lt_digitCount_iff (pos : 0 < k) : k < digitCount n ↔ 10 ^ k ≤ n := by
  rw [← Nat.not_le, digitCount_le_iff pos, Nat.not_lt]

theorem ten_pow_le (some_ : n ≠ 0) : 10 ^ (digitCount n - 1) ≤ n := by
  rcases Nat.eq_zero_or_pos (digitCount n - 1) with zero | pos
  · rw [zero, Nat.pow_zero]
    omega
  · exact (lt_digitCount_iff pos).mp (by have := digitCount_pos n; omega)

theorem length_toDigits (n : Nat) : (toDigits n).length = digitCount n := by
  have same : ∀ k, 0 < k → ((toDigits n).length ≤ k ↔ digitCount n ≤ k) := by
    intro k pos
    rw [digitCount_le_iff pos]
    exact Nat.length_toDigits_le_iff (by decide) pos
  have le := (same _ (digitCount_pos n)).mpr (Nat.le_refl _)
  have ge := (same _ Nat.length_toDigits_pos).mp (Nat.le_refl _)
  exact Nat.le_antisymm le ge

/-- The digits of a positive number do not start with a zero. -/
theorem head_toDigits_ne_zero (some_ : n ≠ 0) : (toDigits n).head? ≠ some '0' := by
  intro zero
  have all : ∀ c ∈ (toDigits n).tail, isDigit c = true := fun c member =>
    isDigit_of_mem_toDigits (List.mem_of_mem_tail member)
  have value := ofDigits_toDigits n
  have shape : toDigits n = '0' :: (toDigits n).tail := by
    cases digits : toDigits n with
    | nil => rw [digits] at zero; cases zero
    | cons c rest =>
      rw [digits] at zero
      cases zero
      rfl
  have length := length_toDigits n
  rw [shape, ofDigits_cons] at value
  rw [shape, List.length_cons] at length
  have below := ofDigits_lt all
  have least := ten_pow_le some_
  rw [← length, Nat.add_sub_cancel] at least
  simp [digitValue] at value
  omega

/-! ## Zeros at the end -/

/-- A run is what is left without zeros at its end, and those zeros. -/
theorem exists_zeros (digits : List Char) :
    ∃ zeros, digits = (digits.reverse.dropWhile (· = '0')).reverse ++ List.replicate zeros '0' := by
  have same : ∀ c ∈ digits.reverse.takeWhile (· = '0'), c = '0' := fun c member => by
    simpa using List.mem_takeWhile_imp member
  refine ⟨(digits.reverse.takeWhile (· = '0')).length, ?_⟩
  have cut := congrArg List.reverse (List.takeWhile_append_dropWhile (p := (· = '0')) (l := digits.reverse))
  rw [List.reverse_append, List.reverse_reverse] at cut
  rw [← List.reverse_replicate, ← List.eq_replicate_of_mem same]
  exact cut.symm

end Scriptlet.Text
