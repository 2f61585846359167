import Scriptlet.Text.Blank
import Scriptlet.Text.Digits
import Scriptlet.Text.Names

/-!
# Classes of characters

A template is cut into lexemes by the class of its next character alone. What makes this work is
that the classes do not overlap where they must not: a blank never belongs to a name, and a digit
never starts one. Both are facts about the Unicode tables, proved here once.

A run of one class ends where another begins (`takeWhile_append_of_stop`, `dropWhile_append_of_stop`).
-/

set_option autoImplicit false

namespace Scriptlet.Text

/-- A code point before the first run of a set is not in it. -/
theorem CharSet.within_of_lt {first past code : Nat} {rest : List Nat} (before : code < first) :
    CharSet.within (first :: past :: rest) code = false := by
  rw [CharSet.within, if_pos before]

/-- A code point in the first run of a set is in it. -/
theorem CharSet.within_of_mem {first past code : Nat} {rest : List Nat} (since : first ≤ code)
    (before : code < past) : CharSet.within (first :: past :: rest) code = true := by
  rw [CharSet.within, if_neg (Nat.not_lt.mpr since), if_pos before]

/-- The code points in the runs that the bounds open and close, one by one. -/
def CharSet.codes : List Nat → List Nat
  | first :: past :: rest => List.range' first (past - first) ++ codes rest
  | _ => []

theorem CharSet.mem_codes_of_within {bounds : List Nat} {code : Nat}
    (inside : within bounds code = true) : code ∈ codes bounds := by
  fun_induction within bounds code with
  | case1 => cases inside
  | case2 first past rest code since before =>
    refine List.mem_append_left _ (List.mem_range'.mpr ⟨code - first, ?_, ?_⟩) <;> omega
  | case3 first past rest code since after ih => exact List.mem_append_right _ (ih inside)
  | case4 => cases inside

/-! ## Blanks and names -/

/-- No blank can stand in a name. -/
theorem isNamePart_eq_false_of_isBlank {c : Char} (blank : isBlank c = true) :
    isNamePart c = false := by
  have plain : ∀ n ∈ CharSet.codes blanks.bounds, n ≠ '_'.toNat ∧ n ≠ '$'.toNat ∧
      CharSet.within alphabetic.bounds n = false ∧ CharSet.within numeric.bounds n = false := by
    decide +kernel
  obtain ⟨underscore, dollar, letter, numeral⟩ := plain _ (CharSet.mem_codes_of_within blank)
  have hu : c ≠ '_' := fun h => underscore (h ▸ rfl)
  have hd : c ≠ '$' := fun h => dollar (h ▸ rfl)
  simp only [isNamePart, CharSet.contains, letter, numeral, beq_eq_false_iff_ne.mpr hu,
    beq_eq_false_iff_ne.mpr hd, Bool.or_self]

/-- What can stand in a name is no blank. -/
theorem isBlank_eq_false_of_isNamePart {c : Char} (part : isNamePart c = true) :
    isBlank c = false := by
  cases blank : isBlank c with
  | false => rfl
  | true => rw [isNamePart_eq_false_of_isBlank blank] at part; cases part

/-! ## Digits -/

theorem isDigit_iff {c : Char} : isDigit c = true ↔ 48 ≤ c.toNat ∧ c.toNat ≤ 57 := by
  simp only [isDigit, Bool.and_eq_true, decide_eq_true_eq]
  exact Iff.rfl

/-- A digit can go on a name. -/
theorem isNamePart_of_isDigit {c : Char} (digit : isDigit c = true) : isNamePart c = true := by
  have code := isDigit_iff.mp digit
  have inside : CharSet.within numeric.bounds c.toNat = true :=
    CharSet.within_of_mem code.1 (Nat.lt_succ_of_le code.2)
  simp only [isNamePart, CharSet.contains, inside, Bool.or_true]

/-- A digit never starts a name. -/
theorem isNameStart_eq_false_of_isDigit {c : Char} (digit : isDigit c = true) :
    isNameStart c = false := by
  have code := isDigit_iff.mp digit
  have hu : c ≠ '_' := by rintro rfl; revert code; decide
  have hd : c ≠ '$' := by rintro rfl; revert code; decide
  have outside : CharSet.within alphabetic.bounds c.toNat = false :=
    CharSet.within_of_lt (Nat.lt_of_le_of_lt code.2 (by decide))
  simp only [isNameStart, CharSet.contains, outside, beq_eq_false_iff_ne.mpr hu,
    beq_eq_false_iff_ne.mpr hd, Bool.or_self]

/-! ## Runs of a class -/

/-- What ends a run of characters: the text is over or goes on with a character outside the class. -/
def Stops (member : Char → Bool) (rest : List Char) : Prop :=
  ∀ c ∈ rest.head?, member c = false

theorem takeWhile_append_of_stop {member : Char → Bool} {run rest : List Char}
    (all : ∀ c ∈ run, member c = true) (stop : Stops member rest) :
    (run ++ rest).takeWhile member = run := by
  rw [List.takeWhile_append_of_pos all]
  cases rest with
  | nil => simp
  | cons c rest => simp [stop c rfl]

theorem dropWhile_append_of_stop {member : Char → Bool} {run rest : List Char}
    (all : ∀ c ∈ run, member c = true) (stop : Stops member rest) :
    (run ++ rest).dropWhile member = rest := by
  rw [List.dropWhile_append_of_pos all]
  cases rest with
  | nil => rfl
  | cons c rest => rw [List.dropWhile_cons_of_neg (by simp [stop c rfl])]

theorem stops_dropWhile {member : Char → Bool} (text : List Char) : Stops member (text.dropWhile member) := by
  intro c head
  have stop := List.head?_dropWhile_not member text
  rw [Option.mem_def.mp head] at stop
  exact stop

/-! ## Skipping blanks -/

theorem skipBlanks_cons_of_isBlank {c : Char} {rest : List Char} (blank : isBlank c = true) :
    skipBlanks (c :: rest) = skipBlanks rest :=
  List.dropWhile_cons_of_pos blank

theorem skipBlanks_cons_of_not {c : Char} {rest : List Char} (plain : isBlank c = false) :
    skipBlanks (c :: rest) = c :: rest :=
  List.dropWhile_cons_of_neg (by simp [plain])

/-- A text whose first character is no blank keeps all of it. -/
theorem skipBlanks_of_stop {rest : List Char} (stop : Stops isBlank rest) :
    skipBlanks rest = rest := by
  cases rest with
  | nil => rfl
  | cons c rest => exact skipBlanks_cons_of_not (stop c rfl)

theorem stops_skipBlanks (rest : List Char) : Stops isBlank (skipBlanks rest) :=
  stops_dropWhile rest

@[simp] theorem skipBlanks_skipBlanks (rest : List Char) :
    skipBlanks (skipBlanks rest) = skipBlanks rest :=
  skipBlanks_of_stop (stops_skipBlanks rest)

/-- Trimming takes away the blanks around a text without any. -/
theorem trim_padded {before text after : List Char} (blankBefore : ∀ c ∈ before, isBlank c = true)
    (blankAfter : ∀ c ∈ after, isBlank c = true) (plain : ∀ c ∈ text, isBlank c = false)
    (some_ : text ≠ []) : trim (before ++ text ++ after) = text := by
  have skip (blanks run rest : List Char) (blank : ∀ c ∈ blanks, isBlank c = true)
      (plain : ∀ c ∈ run, isBlank c = false) (some_ : run ≠ []) :
      skipBlanks (blanks ++ (run ++ rest)) = run ++ rest := by
    refine dropWhile_append_of_stop blank ?_
    cases run with
    | nil => exact absurd rfl some_
    | cons c tail =>
      rintro d ⟨⟩
      exact plain c List.mem_cons_self
  have back := skip after.reverse text.reverse []
    (fun c member => blankAfter c (List.mem_reverse.mp member))
    (fun c member => plain c (List.mem_reverse.mp member)) (by simpa using some_)
  rw [trim, List.append_assoc, skip _ _ _ blankBefore plain some_, List.reverse_append]
  rw [List.append_nil] at back
  rw [back, List.reverse_reverse]

end Scriptlet.Text
