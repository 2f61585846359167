import Mathlib.Tactic.FieldSimp
import Scriptlet.Proofs.Double.Decimals
import Scriptlet.Proofs.Numeral.Spelling

/-!
# How doubles are written

The text of a double without its sign is that of a numeral (`exists_writtenAs`), which a strict reader takes
for a double. Its exact value is that of the shortest decimal, so it is rounded to the double, and it has so
few digits that 64 bits hold them.
-/

set_option autoImplicit false

namespace Scriptlet

open Text Template

namespace Numeral

/-- The numeral as a decimal, of which all digits count. -/
def decimal (n : Numeral) : Decimal :=
  ⟨n.digits, n.scale⟩

/-- A strict reader takes the numeral for a double. -/
structure Readable (n : Numeral) : Prop where
  formed : n.WellFormed
  /-- It has a fraction or an exponent. -/
  broken : n.isWhole = false
  /-- It starts with a zero only if that is all that stands before the point. -/
  noZero : ∀ c rest, n.whole ≠ '0' :: c :: rest
  /-- Its exponent counts in full. -/
  power : n.power exponentSize = n.power ofDigits

/-- The text writes the digits, of which the first counts the power `leading` of ten, as a numeral. -/
structure Writes (n : Numeral) (digits : List Char) (leading : Int) (text : List Char) : Prop
    extends n.Readable where
  text : text = n.text
  value : n.decimal.value = ofDigits digits * 10 ^ (leading + 1 - digits.length)
  /-- There are no more digits in it, unless zeros fill them up to the point. -/
  few : n.digits = ofDigits digits ∨ n.scale ≤ 0 ∧ n.digits < 10 ^ 17

end Numeral

namespace Decimal

variable {digits : List Char} {leading : Int}

/-- The numeral of a decimal without exponent. -/
theorem writes_point {whole fraction : List Char} (starts : whole ≠ [])
    (allWhole : ∀ c ∈ whole, isDigit c = true) (some_ : fraction ≠ [])
    (allFraction : ∀ c ∈ fraction, isDigit c = true) (noZero : ∀ c rest, whole ≠ '0' :: c :: rest)
    (value : (ofDigits (whole ++ fraction) : ℚ) * 10 ^ (-(fraction.length : Int)) =
      ofDigits digits * 10 ^ (leading + 1 - digits.length))
    (few : ofDigits (whole ++ fraction) = ofDigits digits ∨
      ofDigits (whole ++ fraction) < 10 ^ 17) :
    Numeral.Writes ⟨whole, fraction, none⟩ digits leading (whole ++ '.' :: fraction) where
  formed := ⟨starts, allWhole, allFraction, nofun⟩
  broken := by simpa [Numeral.isWhole] using some_
  noZero := noZero
  power := rfl
  text := by
    cases fraction with
    | nil => exact absurd rfl some_
    | cons c rest => simp [Numeral.text, Numeral.fractionText, Numeral.exponentText]
  value := by
    simpa [Decimal.value, Numeral.decimal, Numeral.digits, Numeral.scale, Numeral.power] using value
  few := few.imp_right fun below => ⟨by simp [Numeral.scale, Numeral.power], below⟩

/-- Below one, zeros stand between the point and the digits. -/
theorem writes_plain_of_neg (all : ∀ c ∈ digits, isDigit c = true) (some_ : digits ≠ [])
    (small : leading < 0) : ∃ n : Numeral, n.Writes digits leading (plain digits leading) := by
  have value : ofDigits (['0'] ++ (List.replicate (-leading - 1).toNat '0' ++ digits)) =
      ofDigits digits := by
    rw [ofDigits_append, ofDigits_append, ofDigits_zeros]
    simp [ofDigits, digitValue]
  have length : -((List.replicate (-leading - 1).toNat '0' ++ digits).length : Int) =
      leading + 1 - digits.length := by
    rw [List.length_append, List.length_replicate]
    omega
  refine ⟨⟨['0'], List.replicate (-leading - 1).toNat '0' ++ digits, none⟩, ?_⟩
  rw [plain, if_pos small, List.append_assoc]
  refine writes_point (by simp) (by simp [isDigit]) (by simp [some_]) ?_ (by simp) ?_ (Or.inl value)
  · intro c member
    rcases List.mem_append.mp member with zero | member
    · exact isDigit_of_mem_zeros zero
    · exact all c member
  · rw [value, length]

/-- From one on, the point stands among the digits. -/
theorem writes_plain_of_lt (all : ∀ c ∈ digits, isDigit c = true) (noZero : digits.head? ≠ some '0')
    (large : 0 ≤ leading) (many : leading.toNat + 1 < digits.length) :
    ∃ n : Numeral, n.Writes digits leading (plain digits leading) := by
  have some_ : digits.drop (leading.toNat + 1) ≠ [] := by
    rw [Ne, List.drop_eq_nil_iff]
    omega
  have filled : leading.toNat + 1 - digits.length = 0 := by omega
  have value : ofDigits (digits.take (leading.toNat + 1) ++ digits.drop (leading.toNat + 1)) =
      ofDigits digits := by rw [List.take_append_drop]
  have length : -((digits.drop (leading.toNat + 1)).length : Int) = leading + 1 - digits.length := by
    rw [List.length_drop]
    omega
  refine ⟨⟨digits.take (leading.toNat + 1), digits.drop (leading.toNat + 1), none⟩, ?_⟩
  rw [plain, if_neg (by omega)]
  simp only [filled, List.replicate_zero, List.append_nil, List.isEmpty_iff, if_neg some_]
  refine writes_point ?_ (fun c member => all c (List.mem_of_mem_take member)) some_
    (fun c member => all c (List.mem_of_mem_drop member)) ?_ ?_ (Or.inl value)
  · rw [Ne, List.take_eq_nil_iff]
    rintro (zero | rfl)
    · cases zero
    · cases many
  · intro c rest shape
    cases digits with
    | nil => cases many
    | cons d tail =>
      rw [List.take_succ_cons] at shape
      exact noZero (congrArg some (List.cons.inj shape).1)
  · rw [value, length]

/-- Where the digits end before the point, zeros fill them up. -/
theorem writes_plain_of_ge (all : ∀ c ∈ digits, isDigit c = true) (some_ : digits ≠ [])
    (noZero : digits.head? ≠ some '0')
    (large : 0 ≤ leading) (most : leading ≤ 15) (few : digits.length ≤ leading.toNat + 1) :
    ∃ n : Numeral, n.Writes digits leading (plain digits leading) := by
  obtain ⟨zeros, width⟩ : ∃ zeros, leading.toNat + 1 = digits.length + zeros :=
    ⟨leading.toNat + 1 - digits.length, by omega⟩
  have nothing : digits.drop (leading.toNat + 1) = [] := List.drop_of_length_le few
  have value : ofDigits (digits ++ List.replicate zeros '0' ++ ['0']) =
      ofDigits digits * 10 ^ (zeros + 1) := by
    rw [List.append_assoc, ← List.replicate_succ', ofDigits_append_zeros]
  refine ⟨⟨digits ++ List.replicate zeros '0', ['0'], none⟩, ?_⟩
  have filled : leading.toNat + 1 - digits.length = zeros := by omega
  rw [plain, if_neg (by omega)]
  simp only [nothing, List.take_of_length_le few, filled, List.isEmpty_nil, if_true]
  refine writes_point (by simp [some_]) ?_ nofun (by simp [isDigit]) ?_ ?_ (Or.inr ?_)
  · intro c member
    rcases List.mem_append.mp member with member | zero
    · exact all c member
    · exact isDigit_of_mem_zeros zero
  · intro c rest shape
    cases digits with
    | nil => exact some_ rfl
    | cons d tail => exact noZero (congrArg some (List.cons.inj shape).1)
  · have count : leading + 1 - digits.length = zeros := by omega
    rw [value, count]
    push_cast
    rw [pow_succ, zpow_natCast]
    simp
    field_simp
  · rw [value]
    calc ofDigits digits * 10 ^ (zeros + 1)
        < 10 ^ digits.length * 10 ^ (zeros + 1) :=
          Nat.mul_lt_mul_of_pos_right (ofDigits_lt all) (Nat.pow_pos (by decide))
      _ = 10 ^ (digits.length + (zeros + 1)) := (Nat.pow_add 10 _ _).symm
      _ ≤ 10 ^ 17 := Nat.pow_le_pow_right (by decide) (by omega)

/-- With an exponent, one digit stands before the point. -/
theorem writes_scientific (all : ∀ c ∈ digits, isDigit c = true) (some_ : digits ≠ [])
    (small : leading.natAbs < Numeral.exponentBound) :
    ∃ n : Numeral, n.Writes digits leading (scientific digits leading) := by
  cases digits with
  | nil => exact absurd rfl some_
  | cons first rest =>
    have size : ofDigits (toDigits leading.natAbs) = leading.natAbs := ofDigits_toDigits _
    have bounded : Numeral.exponentSize (toDigits leading.natAbs) = leading.natAbs := by
      rw [Numeral.exponentSize_eq (by omega), size]
    refine ⟨⟨[first], rest, some (decide (leading < 0), toDigits leading.natAbs)⟩, ?_⟩
    have power : ∀ count : List Char → Nat, count (toDigits leading.natAbs) = leading.natAbs →
        Numeral.power count ⟨[first], rest, some (decide (leading < 0), toDigits leading.natAbs)⟩ =
          leading := by
      intro count same
      rw [Numeral.power]
      by_cases negative : leading < 0
      · simp only [negative, decide_true, same]
        omega
      · simp only [negative, decide_false, same]
        omega
    refine ⟨⟨⟨nofun, ?_, ?_, ?_⟩, ?_, nofun, ?_⟩, ?_, ?_, Or.inl rfl⟩
    · intro c member
      exact all c (List.mem_cons.mpr (Or.inl (List.mem_singleton.mp member)))
    · exact fun c member => all c (List.mem_cons_of_mem first member)
    · rintro negative _ ⟨⟩
      exact ⟨List.ne_nil_of_length_pos Nat.length_toDigits_pos, fun c => isDigit_of_mem_toDigits⟩
    · simp [Numeral.isWhole]
    · rw [power _ bounded, power _ size]
    · cases rest with
      | nil => simp [scientific, Numeral.text, Numeral.fractionText, Numeral.exponentText]
      | cons second rest => simp [scientific, Numeral.text, Numeral.fractionText, Numeral.exponentText]
    · rw [Numeral.decimal, value, Numeral.digits, Numeral.scale, power _ bounded]
      have count : leading - rest.length = leading + 1 - (first :: rest).length := by
        rw [List.length_cons]
        omega
      rw [← count]
      rfl

/-! ## The digits of a decimal -/

variable {d : Decimal}

/-- The digits of a decimal are those that are written and zeros. -/
theorem exists_trailing (d : Decimal) :
    ∃ zeros, toDigits d.digits = d.significant ++ List.replicate zeros '0' :=
  exists_zeros (toDigits d.digits)

theorem digits_of_trailing {zeros : Nat}
    (shape : toDigits d.digits = d.significant ++ List.replicate zeros '0') :
    d.digits = ofDigits d.significant * 10 ^ zeros := by
  rw [← ofDigits_append_zeros, ← shape, ofDigits_toDigits]

theorem isDigit_of_mem_significant {c : Char} (member : c ∈ d.significant) : isDigit c = true := by
  obtain ⟨zeros, shape⟩ := d.exists_trailing
  refine isDigit_of_mem_toDigits (n := d.digits) ?_
  rw [shape]
  exact List.mem_append_left _ member

theorem significant_ne_nil (some_ : d.digits ≠ 0) : d.significant ≠ [] := by
  intro nothing
  obtain ⟨zeros, shape⟩ := d.exists_trailing
  refine some_ ?_
  rw [← ofDigits_toDigits d.digits, shape, nothing, List.nil_append, ofDigits_zeros]

theorem head_significant_ne_zero (some_ : d.digits ≠ 0) : d.significant.head? ≠ some '0' := by
  obtain ⟨zeros, shape⟩ := d.exists_trailing
  have head := head_toDigits_ne_zero some_
  rw [shape, List.head?_append_of_ne_nil _ (significant_ne_nil some_)] at head
  exact head

theorem ofDigits_significant_le (d : Decimal) : ofDigits d.significant ≤ d.digits := by
  obtain ⟨zeros, shape⟩ := d.exists_trailing
  calc ofDigits d.significant ≤ ofDigits d.significant * 10 ^ zeros :=
        Nat.le_mul_of_pos_right _ (Nat.pow_pos (by decide))
    _ = d.digits := (digits_of_trailing shape).symm

/-- The digits that are written have the value of the decimal. -/
theorem value_significant (d : Decimal) :
    (ofDigits d.significant : ℚ) * 10 ^ (d.leadingExponent + 1 - d.significant.length) = d.value := by
  obtain ⟨zeros, shape⟩ := d.exists_trailing
  have count : digitCount d.digits = d.significant.length + zeros := by
    rw [← length_toDigits, shape, List.length_append, List.length_replicate]
  have exponent : d.leadingExponent + 1 - d.significant.length = zeros + d.exponent := by
    rw [leadingExponent, count]
    push_cast
    ring
  have cast : (d.digits : ℚ) = ofDigits d.significant * 10 ^ zeros := by
    exact_mod_cast digits_of_trailing shape
  rw [exponent, zpow_add₀ (by norm_num), zpow_natCast, value, cast, mul_assoc]

/-- The decimal is written as a numeral. -/
theorem exists_writes (some_ : d.digits ≠ 0)
    (small : d.leadingExponent.natAbs < Numeral.exponentBound) :
    ∃ n : Numeral, n.Writes d.significant d.leadingExponent (d.write Double.layout) := by
  have all : ∀ c ∈ d.significant, isDigit c = true := fun c => isDigit_of_mem_significant
  have starts := significant_ne_nil some_
  have noZero := head_significant_ne_zero some_
  unfold write
  dsimp only
  split_ifs with between
  · have most : d.leadingExponent ≤ 15 := of_decide_eq_true (Bool.and_eq_true_iff.mp between).2
    rcases Int.lt_or_le d.leadingExponent 0 with below | above
    · exact writes_plain_of_neg all starts below
    · rcases Nat.lt_or_ge (d.leadingExponent.toNat + 1) d.significant.length with many | few
      · exact writes_plain_of_lt all noZero above many
      · exact writes_plain_of_ge all starts noZero above most few
  · exact writes_scientific all starts small

end Decimal

namespace Double

/-- The numeral is the text of a double without its sign. -/
structure WrittenAs (d : Double) (n : Numeral) : Prop extends n.Readable where
  text : magnitudeText d.units = n.text
  rounds : n.decimal.RoundsTo d.units
  /-- It has a digit other than zero only if the double is not zero. -/
  some_ : n.digits ≠ 0 → d.units ≠ 0
  few : n.digits ≤ 10 ^ 18
  /-- It has no more digits than the shortest decimal where zeros would follow them. -/
  short : 0 < n.scale → n.decimal.value = (shortest d.units).value ∧
    n.digits ≤ (shortest d.units).digits

theorem writtenAs_zero {d : Double} (zero : d.units = 0) : d.WrittenAs ⟨['0'], ['0'], none⟩ where
  formed := ⟨nofun, by simp [isDigit], by simp [isDigit], nofun⟩
  broken := rfl
  noZero := nofun
  power := rfl
  text := by
    rw [magnitudeText, if_pos zero]
    rfl
  rounds := by
    have nothing : (Numeral.decimal ⟨['0'], ['0'], none⟩).value * one = (0 : Nat) / (1 : Nat) := by
      have none_ : Numeral.digits ⟨['0'], ['0'], none⟩ = 0 := rfl
      rw [Decimal.value, Numeral.decimal, none_, Nat.cast_zero, zero_mul, zero_mul, zero_div]
    refine Decimal.roundsTo_of_nearest Nat.one_pos nothing ?_
    rw [nearest_zero, zero]
  some_ := fun some_ => absurd rfl some_
  few := Nat.zero_le _
  short := fun large => absurd large (by decide)

/-- Every double is written as a numeral. -/
theorem exists_writtenAs (d : Double) : ∃ n, d.WrittenAs n := by
  by_cases zero : d.units = 0
  · exact ⟨_, writtenAs_zero zero⟩
  · have rounds := roundsTo_shortest d.representable.1
    have some_ := rounds.digits_ne_zero zero
    have bounds := rounds.leadingExponent_bounds (Nat.le_refl 400)
    have least := bounds.1 zero
    have most := bounds.2 d.representable.2 some_
    have bound : 400 < Numeral.exponentBound := by decide
    obtain ⟨n, writes⟩ := Decimal.exists_writes some_ (by omega)
    have value := writes.value.trans (Decimal.value_significant _)
    have digits := Decimal.ofDigits_significant_le (shortest d.units)
    have few := digits_shortest_le d.representable.1
    refine ⟨n, writes.toReadable, ?_, rounds.of_value_eq value, fun _ => zero, ?_, fun large => ?_⟩
    · rw [magnitudeText, if_neg zero, writes.text]
    · rcases writes.few with same | ⟨-, filled⟩
      · omega
      · omega
    · rcases writes.few with same | ⟨small, -⟩
      · exact ⟨value, same.trans_le digits⟩
      · omega

/-- A double is read back from its numeral. -/
theorem WrittenAs.double? {d : Double} {n : Numeral} (written : d.WrittenAs n) :
    n.double? d.negative = some d :=
  Decimal.ofDecimal?_of_roundsTo written.rounds d.representable

/-- The numeral that the text of a double spells, without its sign. -/
def numeral (d : Double) : Numeral :=
  (Numeral.scan (magnitudeText d.units)).1

theorem writtenAs_numeral (d : Double) : d.WrittenAs d.numeral := by
  obtain ⟨n, written⟩ := d.exists_writtenAs
  have scanned := Numeral.scan_text written.formed endsDigits_nil
  rw [List.append_nil, ← written.text] at scanned
  rw [numeral, scanned]
  exact written

end Double

end Scriptlet
