import Scriptlet.Evaluation
import Scriptlet.Proofs.Number.Range
import Scriptlet.Proofs.Run.Orderly
import Scriptlet.Proofs.Text.Search
import Scriptlet.Proofs.Value.Comparison

/-!
# Texts by code points

The methods of a text count, cut and search by one unit, the code point, and each can be told by the others
(`methods_agree`). A cut between two positions answers the code points from the first up to the second, and
fails exactly where they are not in order within the text. Characters, starts, ends and occurrences are cuts
that are compared with another text.

Positions are 64-bit integers, and so is the length of every text that fits a memory: the laws say so by an
integer that has the value of the length, or by `Fits`.
-/

set_option autoImplicit false

namespace Scriptlet

namespace Text

/-- What a call of a method of a text answers. -/
def answer (s : String) (name : String) (arguments : List Value) : Except Fault Value :=
  Json.callMethod (.string s) name arguments

/-- The number of code points of a text as an integer. -/
def Counts (n : Int64) (s : String) : Prop :=
  n.toInt = s.length

/-- Two positions are in a text of this length or at its end, the second not before the first. -/
def InOrder (length : Nat) (i j : Int) : Prop :=
  0 ≤ i ∧ i ≤ j ∧ j ≤ length

/-- What a cut blames between positions that are not in order: the first of them that is not in the text, with
the length of the text, and if both are, the first one with the second. -/
def blamed (length : Nat) (i j : Int) : Int × Nat :=
  if ¬(0 ≤ i ∧ i ≤ length) then (i, length)
  else if ¬(0 ≤ j ∧ j ≤ length) then (j, length)
  else (i, j.toNat)

/-- The code points of a text from one position up to another. -/
def part (s : String) (i j : Int) : String :=
  String.ofList ((s.toList.drop i.toNat).take (j.toNat - i.toNat))

variable {s t : String} {i j n : Int64}

theorem toInt_ofNat {k : Nat} (fits : Fits k) : (Int64.ofNat k).toInt = k :=
  Int64.toInt_ofNat_of_lt (by have := fits.2; omega)

/-- A count that is an integer of 64 bits is answered as this integer. -/
theorem ofNat_eq_int_iff {k : Nat} (fits : Fits k) : Value.ofNat k = .int i ↔ i.toInt = k := by
  rw [Value.ofNat, Value.int, Json.ofNat, Json.ofInt64, Value.json.injEq, Json.number.injEq,
    Number.int.injEq, ← Int64.toInt_inj, toInt_ofNat fits, eq_comm]

theorem Counts.fits (counts : Counts n s) : Fits s.length :=
  counts ▸ fits_toInt n

/-- Equality of texts in templates is equality. -/
theorem compare_eq_string_iff (a b : String) :
    Value.compare .eq (.string a) (.string b) = .ok true ↔ a = b := by
  have ordered : Value.order? (.string a) (.string b) = some (compare a b) := rfl
  rw [Value.compare_of_order?_eq_some ordered, Except.ok.injEq]
  show (compare a b).isEq = true ↔ _
  rw [Ordering.isEq_iff_eq_eq, Std.compare_eq_iff_eq]

theorem operate_add_string (a b : String) :
    Value.operate .add (.string a) (.string b) = .ok (.string (a ++ b)) := rfl

/-! ## What the methods answer -/

theorem answer_length (s : String) : answer s "length" [] = .ok (.ofNat s.length) := by
  rw [← String.length_toList]
  rfl

theorem property_length (s : String) : Json.property (.string s) "length" = .ok (.ofNat s.length) := by
  rw [← String.length_toList]
  rfl

theorem answer_charAt_eq (s : String) (i : Int64) :
    answer s "charAt" [.int i] =
      match if 0 ≤ i.toInt then s.toList[i.toInt.toNat]? else none with
      | some c => .ok (.ofChars [c])
      | none => .error (.indexOutOfBounds i.toInt s.toList.length) := rfl

theorem answer_startsWith (s t : String) :
    answer s "startsWith" [.string t] = .ok (.bool (startsWith s.toList t.toList)) := rfl

theorem answer_endsWith (s t : String) :
    answer s "endsWith" [.string t] = .ok (.bool (endsWith s.toList t.toList)) := rfl

theorem answer_contains (s t : String) :
    answer s "contains" [.string t] = .ok (.bool (position? t.toList s.toList).isSome) := rfl

theorem answer_indexOf (s t : String) :
    answer s "indexOf" [.string t] = .ok (indexOf s.toList t.toList) := rfl

theorem answer_substring_two (s : String) (i j : Int64) :
    answer s "substring" [.int i, .int j] =
      (offset s.toList i >>= fun first => offset s.toList j >>= fun past =>
        slice s.toList first past >>= fun part => .ok (.ofChars part)) := rfl

theorem answer_substring_one (s : String) (i : Int64) :
    answer s "substring" [.int i] =
      (offset s.toList i >>= fun first =>
        slice s.toList first s.toList.length >>= fun part => .ok (.ofChars part)) := rfl

/-! ## Cuts -/

theorem offset_of_within (low : 0 ≤ i.toInt) (high : i.toInt ≤ s.length) :
    offset s.toList i = .ok i.toInt.toNat := by
  rw [offset, String.length_toList, if_pos ⟨low, high⟩]

theorem offset_of_outside (outside : ¬(0 ≤ i.toInt ∧ i.toInt ≤ s.length)) :
    offset s.toList i = .error (.indexOutOfBounds i.toInt s.length) := by
  rw [offset, String.length_toList, if_neg outside]

/-- Between positions in order a cut answers the code points there. -/
theorem answer_cut (inOrder : InOrder s.length i.toInt j.toInt) :
    answer s "substring" [.int i, .int j] = .ok (.string (part s i.toInt j.toInt)) := by
  obtain ⟨low, order, high⟩ := inOrder
  rw [answer_substring_two, offset_of_within low (by omega), offset_of_within (by omega) high]
  show (slice s.toList i.toInt.toNat j.toInt.toNat >>= _) = _
  rw [slice, if_pos (by omega), List.drop_take]
  rfl

/-- Between other positions it blames one of them, the first before the second. -/
theorem answer_misplaced (misplaced : ¬InOrder s.length i.toInt j.toInt) :
    answer s "substring" [.int i, .int j] =
      .error (.indexOutOfBounds (blamed s.length i.toInt j.toInt).1
        (blamed s.length i.toInt j.toInt).2) := by
  rw [answer_substring_two, blamed]
  by_cases first : 0 ≤ i.toInt ∧ i.toInt ≤ s.length
  · rw [if_neg (not_not_intro first), offset_of_within first.1 first.2]
    by_cases second : 0 ≤ j.toInt ∧ j.toInt ≤ s.length
    · rw [if_neg (not_not_intro second), offset_of_within second.1 second.2]
      have crossed : ¬i.toInt.toNat ≤ j.toInt.toNat := fun order =>
        misplaced ⟨first.1, by omega, second.2⟩
      show (slice s.toList i.toInt.toNat j.toInt.toNat >>= _) = _
      rw [slice, if_neg crossed, Int.toNat_of_nonneg first.1]
      rfl
    · rw [if_pos second, offset_of_outside second]
      rfl
  · rw [if_pos first, offset_of_outside first]
    rfl

/-- Without a second position a cut goes up to the end. -/
theorem answer_cut_to_end (counts : Counts n s) (i : Int64) :
    answer s "substring" [.int i] = answer s "substring" [.int i, .int n] := by
  have past : offset s.toList n = .ok s.toList.length := by
    rw [offset_of_within (counts ▸ Int.natCast_nonneg _) counts.le, counts, String.length_toList,
      Int.toNat_natCast]
  rw [answer_substring_one, answer_substring_two, past]
  rfl

/-- What is left of a text from a position in it or at its end. -/
theorem answer_rest (low : 0 ≤ i.toInt) (high : i.toInt ≤ s.length) :
    answer s "substring" [.int i] = .ok (.string (String.ofList (s.toList.drop i.toInt.toNat))) := by
  rw [answer_substring_one, offset_of_within low high]
  show (slice s.toList i.toInt.toNat s.toList.length >>= _) = _
  rw [slice, if_pos (by rw [String.length_toList]; omega), List.take_length]
  rfl

theorem answer_rest_of_outside (outside : ¬(0 ≤ i.toInt ∧ i.toInt ≤ s.length)) :
    answer s "substring" [.int i] = .error (.indexOutOfBounds i.toInt s.length) := by
  rw [answer_substring_one, offset_of_outside outside]
  rfl

/-- The two parts of a text before and after a position make the text again. -/
theorem answers_join (low : 0 ≤ i.toInt) (high : i.toInt ≤ s.length) :
    ∃ before after, answer s "substring" [.int 0, .int i] = .ok before ∧
      answer s "substring" [.int i] = .ok after ∧ Value.operate .add before after = .ok (.string s) := by
  refine ⟨_, _, answer_cut ⟨Int.le_refl 0, low, high⟩, answer_rest low high, ?_⟩
  have whole : s.toList.take i.toInt.toNat ++ s.toList.drop i.toInt.toNat = s.toList :=
    List.take_append_drop _ _
  rw [operate_add_string, part, ← String.ofList_append]
  show Except.ok (Value.string (String.ofList (s.toList.take i.toInt.toNat ++ _))) = _
  rw [whole, String.ofList_toList]

/-! ## Characters -/

/-- The character at a position is the part of one code point there. -/
theorem answer_charAt (low : 0 ≤ i.toInt) (high : i.toInt < s.length) :
    answer s "charAt" [.int i] = .ok (.string (part s i.toInt (i.toInt + 1))) := by
  have inside : i.toInt.toNat < s.toList.length := by
    rw [String.length_toList]
    omega
  have one : s.toList[i.toInt.toNat]? = some s.toList[i.toInt.toNat] := List.getElem?_eq_getElem inside
  have width : (i.toInt + 1).toNat - i.toInt.toNat = 1 := by omega
  rw [part, width, List.take_one_drop_eq_of_lt_length inside]
  rw [answer_charAt_eq, if_pos low, one]
  rfl

theorem answer_charAt_of_outside (outside : ¬(0 ≤ i.toInt ∧ i.toInt < s.length)) :
    answer s "charAt" [.int i] = .error (.indexOutOfBounds i.toInt s.length) := by
  have none_ : (if 0 ≤ i.toInt then s.toList[i.toInt.toNat]? else none) = none := by
    split
    · rename_i low
      refine List.getElem?_eq_none ?_
      rw [String.length_toList]
      omega
    · rfl
  rw [answer_charAt_eq, none_, String.length_toList]

/-! ## Occurrences -/

/-- What is left of a text from a position starts with another one. -/
def Occurs (s t : String) (k : Int64) : Prop :=
  ∃ rest, answer s "substring" [.int k] = .ok (.string rest) ∧
    answer rest "startsWith" [.string t] = .ok (.bool true)

theorem bool_eq_true_iff {b : Bool} : (Except.ok (.bool b) : Except Fault Value) = .ok (.bool true) ↔
    b = true := by
  rw [Except.ok.injEq, Value.bool, Value.bool, Value.json.injEq, Json.bool.injEq]

theorem occurs_iff {k : Int64} :
    Occurs s t k ↔ 0 ≤ k.toInt ∧ OccursAt t.toList s.toList k.toInt.toNat := by
  unfold Occurs OccursAt
  rw [String.length_toList]
  by_cases within : 0 ≤ k.toInt ∧ k.toInt ≤ s.length
  · rw [answer_rest within.1 within.2]
    constructor
    · rintro ⟨rest, same, starts⟩
      cases same
      rw [answer_startsWith, bool_eq_true_iff, String.toList_ofList] at starts
      exact ⟨within.1, by omega, starts⟩
    · rintro ⟨-, -, starts⟩
      refine ⟨_, rfl, ?_⟩
      rw [answer_startsWith, bool_eq_true_iff, String.toList_ofList]
      exact starts
  · rw [answer_rest_of_outside within]
    refine iff_of_false (by simp) fun both => within ⟨both.1, by omega⟩

/-- The integers from which a text occurs are its positions, if these are integers of 64 bits. -/
theorem forall_not_occurs_iff (fits : Fits s.length) :
    (∀ k, ¬Occurs s t k) ↔ position? t.toList s.toList = none := by
  rw [position?_eq_none_iff]
  constructor
  · intro nowhere position occurs
    have high := occurs.1
    rw [String.length_toList] at high
    have value := toInt_ofNat (k := position) ⟨by omega, by have := fits.2; omega⟩
    refine nowhere (.ofNat position) (occurs_iff.mpr ?_)
    rw [value, Int.toNat_natCast]
    exact ⟨Int.natCast_nonneg _, occurs⟩
  · exact fun nowhere k occurs => nowhere _ (occurs_iff.mp occurs).2

/-- The least of them is the position that a search finds. -/
theorem least_occurs_iff {k : Int64} (low : 0 ≤ k.toInt) :
    (Occurs s t k ∧ ∀ m, m.toInt < k.toInt → ¬Occurs s t m) ↔
      position? t.toList s.toList = some k.toInt.toNat := by
  have range := Int64.toInt_lt k
  rw [position?_eq_some_iff, occurs_iff, and_iff_right low]
  refine and_congr_right fun _ => ⟨fun least earlier before occurs => ?_, fun least m before occurs => ?_⟩
  · have value := toInt_ofNat (k := earlier) ⟨by omega, by omega⟩
    refine least (.ofNat earlier) (by omega) (occurs_iff.mpr ?_)
    rw [value, Int.toNat_natCast]
    exact ⟨Int.natCast_nonneg _, occurs⟩
  · obtain ⟨nonneg, occursAt⟩ := occurs_iff.mp occurs
    exact least _ (by omega) occursAt

/-- A search answers the least position. -/
theorem answer_indexOf_eq_iff (fits : Fits s.length) {k : Int64} (low : 0 ≤ k.toInt) :
    answer s "indexOf" [.string t] = .ok (.int k) ↔
      Occurs s t k ∧ ∀ m, m.toInt < k.toInt → ¬Occurs s t m := by
  rw [least_occurs_iff low, answer_indexOf, Except.ok.injEq, indexOf]
  cases found : position? t.toList s.toList with
  | none =>
    refine iff_of_false (fun same => ?_) nofun
    rw [Value.int, Value.int, Value.json.injEq, Json.ofInt64, Json.ofInt64, Json.number.injEq,
      Number.int.injEq] at same
    subst same
    exact absurd low (by decide)
  | some position =>
    have within := (least_of_position? found).1.1
    rw [String.length_toList] at within
    have range := fits.2
    dsimp only
    rw [ofNat_eq_int_iff ⟨by omega, by omega⟩, Option.some.injEq]
    omega

/-- It answers -1 if there is none. -/
theorem answer_indexOf_eq_neg_one_iff (fits : Fits s.length) :
    answer s "indexOf" [.string t] = .ok (.int (-1)) ↔ position? t.toList s.toList = none := by
  rw [answer_indexOf, Except.ok.injEq, indexOf]
  cases found : position? t.toList s.toList with
  | none => simp
  | some position =>
    have within := (least_of_position? found).1.1
    rw [String.length_toList] at within
    have range := fits.2
    dsimp only
    rw [ofNat_eq_int_iff ⟨by omega, by omega⟩]
    refine iff_of_false (fun negative => ?_) nofun
    have minus : (-1 : Int64).toInt = -1 := by decide
    omega

theorem answer_contains_eq_false_iff :
    answer s "contains" [.string t] = .ok (.bool false) ↔ position? t.toList s.toList = none := by
  rw [answer_contains, Except.ok.injEq, Value.bool, Value.bool, Value.json.injEq, Json.bool.injEq]
  cases position? t.toList s.toList <;> simp

/-! ## Starts and ends -/

/-- The outcome is a value that templates find equal to a text. -/
def Yields (outcome : Except Fault Value) (t : String) : Prop :=
  ∃ value, outcome = .ok value ∧ Value.compare .eq value (.string t) = .ok true

theorem yields_string_iff {a : String} : Yields (.ok (.string a)) t ↔ a.toList = t.toList := by
  constructor
  · rintro ⟨value, same, equal⟩
    cases same
    rw [(compare_eq_string_iff a t).mp equal]
  · exact fun same => ⟨_, rfl, (compare_eq_string_iff a t).mpr (String.toList_inj.mp same)⟩

/-- A text starts with another if this is what a cut at its length leaves before it. -/
theorem answer_startsWith_iff (counts : Counts n t) :
    answer s "startsWith" [.string t] = .ok (.bool true) ↔
      t.length ≤ s.length ∧ Yields (answer s "substring" [.int 0, .int n]) t := by
  unfold Counts at counts
  rw [answer_startsWith, bool_eq_true_iff, startsWith_iff, String.length_toList, String.length_toList]
  refine and_congr_right fun shorter => ?_
  have inOrder : InOrder s.length (0 : Int64).toInt n.toInt :=
    ⟨Int.le_refl 0, counts ▸ Int.natCast_nonneg _, by omega⟩
  rw [answer_cut inOrder, yields_string_iff, part, String.toList_ofList, counts]
  exact Iff.rfl

/-- A text ends with another if this is what a cut leaves after it. -/
theorem answer_endsWith_iff (start : n.toInt = s.length - t.length) :
    answer s "endsWith" [.string t] = .ok (.bool true) ↔
      t.length ≤ s.length ∧ Yields (answer s "substring" [.int n]) t := by
  rw [answer_endsWith, bool_eq_true_iff, endsWith_iff, String.length_toList, String.length_toList]
  refine and_congr_right fun shorter => ?_
  have position : n.toInt.toNat = s.length - t.length := by omega
  rw [answer_rest (by omega) (by omega), yields_string_iff, String.toList_ofList, position]

/-! ## All methods together -/

/-- What the methods of a text that count, cut and search say about it and another text. -/
structure Agree (s t : String) : Prop where
  /-- A template that calls a method of the text comes to its answer, wherever it has them from. -/
  evaluated : ∀ scope target name arguments values, (Expr.eval scope target).outcome = .ok (.string s) →
    (Expr.evalEach scope arguments).outcome = .ok values →
    ((Expr.method target name arguments).eval scope).outcome = answer s name values
  /-- The method and the property both answer the number of code points. -/
  length : answer s "length" [] = .ok (.ofNat s.length) ∧
    Json.property (.string s) "length" = .ok (.ofNat s.length)
  count : Fits s.length → ∃ n, Counts n s ∧ Value.ofNat s.length = .int n
  /-- A cut between positions in order answers the code points from the first up to the second. -/
  cut : ∀ i j : Int64, InOrder s.length i.toInt j.toInt →
    answer s "substring" [.int i, .int j] = .ok (.string (part s i.toInt j.toInt))
  /-- Between other positions it fails, and blames the first one that is wrong. -/
  misplaced : ∀ i j : Int64, ¬InOrder s.length i.toInt j.toInt →
    answer s "substring" [.int i, .int j] =
      .error (.indexOutOfBounds (blamed s.length i.toInt j.toInt).1
        (blamed s.length i.toInt j.toInt).2)
  /-- Without a second position a cut goes up to the end, and fails as one up to there. -/
  toEnd : ∀ i n : Int64, Counts n s →
    answer s "substring" [.int i] = answer s "substring" [.int i, .int n]
  /-- The two parts of a text before and after a position are joined to the text. -/
  joined : ∀ i : Int64, 0 ≤ i.toInt → i.toInt ≤ s.length →
    ∃ before after, answer s "substring" [.int 0, .int i] = .ok before ∧
      answer s "substring" [.int i] = .ok after ∧ Value.operate .add before after = .ok (.string s)
  /-- The character at a position is the cut of one code point there. -/
  character : ∀ i : Int64, 0 ≤ i.toInt → i.toInt < s.length →
    answer s "charAt" [.int i] = .ok (.string (part s i.toInt (i.toInt + 1))) ∧
      ∀ next : Int64, next.toInt = i.toInt + 1 →
        answer s "charAt" [.int i] = answer s "substring" [.int i, .int next]
  /-- There is one at every position before the end. -/
  noCharacter : ∀ i : Int64, ¬(0 ≤ i.toInt ∧ i.toInt < s.length) →
    answer s "charAt" [.int i] = .error (.indexOutOfBounds i.toInt s.length)
  /-- A search answers the least position from which the text goes on with the other one. -/
  found : Fits s.length → ∀ k : Int64, 0 ≤ k.toInt →
    (answer s "indexOf" [.string t] = .ok (.int k) ↔
      Occurs s t k ∧ ∀ m, m.toInt < k.toInt → ¬Occurs s t m)
  /-- It answers -1 if there is none. -/
  notFound : Fits s.length →
    (answer s "indexOf" [.string t] = .ok (.int (-1)) ↔ ∀ k, ¬Occurs s t k)
  /-- Only then the text does not contain the other one. -/
  contains : Fits s.length →
    (answer s "contains" [.string t] = .ok (.bool false) ↔ ∀ k, ¬Occurs s t k)
  /-- A text starts with another if this is what a cut at its length leaves before it. -/
  starts : ∀ n : Int64, Counts n t →
    (answer s "startsWith" [.string t] = .ok (.bool true) ↔
      t.length ≤ s.length ∧ Yields (answer s "substring" [.int 0, .int n]) t)
  /-- A text ends with another if this is what a cut leaves after it. -/
  ends : ∀ n : Int64, n.toInt = s.length - t.length →
    (answer s "endsWith" [.string t] = .ok (.bool true) ↔
      t.length ≤ s.length ∧ Yields (answer s "substring" [.int n]) t)
  /-- Whether a text occurs in another always has an answer. -/
  answered : ∀ name ∈ ["startsWith", "endsWith", "contains"],
    ∃ b, answer s name [.string t] = .ok (.bool b)

/-- The methods of texts count by code points and agree with one another. -/
theorem methods_agree (s t : String) : Agree s t where
  evaluated scope target name arguments values text given := by
    rw [Expr.eval, Run.outcome_bind text, Run.outcome_bind given]
    rfl
  length := ⟨answer_length s, property_length s⟩
  count fits := ⟨.ofNat s.length, toInt_ofNat fits, rfl⟩
  cut _ _ inOrder := answer_cut inOrder
  misplaced _ _ misplaced := answer_misplaced misplaced
  toEnd i _ counts := answer_cut_to_end counts i
  joined _ low high := answers_join low high
  character i low high := by
    refine ⟨answer_charAt low high, fun next after => ?_⟩
    rw [answer_charAt low high, answer_cut ⟨low, by omega, by omega⟩, after]
  noCharacter _ outside := answer_charAt_of_outside outside
  found fits _ low := answer_indexOf_eq_iff fits low
  notFound fits := (answer_indexOf_eq_neg_one_iff fits).trans (forall_not_occurs_iff fits).symm
  contains fits := answer_contains_eq_false_iff.trans (forall_not_occurs_iff fits).symm
  starts _ counts := answer_startsWith_iff counts
  ends _ start := answer_endsWith_iff start
  answered name member := by
    simp only [List.mem_cons, List.not_mem_nil, or_false] at member
    rcases member with rfl | rfl | rfl
    · exact ⟨_, answer_startsWith s t⟩
    · exact ⟨_, answer_endsWith s t⟩
    · exact ⟨_, answer_contains s t⟩

end Text

end Scriptlet
