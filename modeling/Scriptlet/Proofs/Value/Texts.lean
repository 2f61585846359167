import Scriptlet.Proofs.Number.Order
import Scriptlet.Proofs.Number.Spelled
import Scriptlet.Proofs.Value.Numbers
import Scriptlet.Value.Methods

/-!
# Comparing numbers with texts

A text is compared with a number as the double that it spells (`texts_compare`). The text of a number spells the
double of that number, so it stands for it in every comparison but those of two integers that merge: as numbers
they differ, and the text of one is equal to the other. A text that spells infinity, by a name of it or by more
than any double, is beyond every number. All others are refused.
-/

set_option autoImplicit false

namespace Scriptlet

namespace Number

open Value (Answers order? compare_of_order?_eq_some)
open NumericText (Spells SpellsInfinity)

/-- In templates a number and a value compare as operands that are in an order, whichever comes first. -/
def ComparedAs (a : Number) (x : Value) (order : Ordering) : Prop :=
  ∀ comparison : Comparison, Answers comparison (.json (.number a)) x (.ok (comparison.accepts order)) ∧
    Answers comparison x (.json (.number a)) (.ok (comparison.accepts order.swap))

/-- In templates two values compare alike with a number. -/
def ComparesAlike (a : Number) (x y : Value) : Prop :=
  ∃ order, a.ComparedAs x order ∧ a.ComparedAs y order

/-- In templates a number is not compared with a value: what asks for their order fails, and they are not
equal, whichever comes first. -/
structure Refuses (a : Number) (x : Value) : Prop where
  fails : ∀ comparison : Comparison, comparison.IsRelational →
    Answers comparison (.json (.number a)) x (.error (.typeMismatch (.comparison "number" x.kind))) ∧
      Answers comparison x (.json (.number a)) (.error (.typeMismatch (.comparison x.kind "number")))
  unequal : Answers .eq (.json (.number a)) x (.ok false) ∧ Answers .eq x (.json (.number a)) (.ok false)
  other : Answers .ne (.json (.number a)) x (.ok true) ∧ Answers .ne x (.json (.number a)) (.ok true)

variable {a b : Number} {text : String} {order : Ordering}

theorem comparedAs_of_order? {x : Json} (found : order? (.json (.number a)) (.json x) = some order) :
    a.ComparedAs (.json x) order := by
  have exchanged : order? (.json x) (.json (.number a)) = some order.swap := by
    rw [Value.order?_swap (.json (.number a)), found, Option.map_some]
  exact fun comparison => ⟨Value.answers_iff.mpr (compare_of_order?_eq_some found comparison),
    Value.answers_iff.mpr (compare_of_order?_eq_some exchanged comparison)⟩

theorem comparedAs_number (a b : Number) :
    a.ComparedAs (.json (.number b)) (a.quantity.order b.quantity) :=
  comparedAs_of_order? rfl

theorem comparedAs_text {spelled : NumericText} (found : Value.spelled? text = some spelled)
    (ordered : a.quantity.orderText? spelled = some order) : a.ComparedAs (.string text) order := by
  refine comparedAs_of_order? ?_
  rw [order?, found]
  exact ordered

/-- Numbers that do not merge are in the order of their doubles. -/
theorem order_of_apart (apart : ¬a.Merges b) :
    a.quantity.order b.quantity = compare a.rounded b.rounded := by
  rcases Int.lt_trichotomy a.rounded b.rounded with less | same | greater
  · rw [Int.compare_eq_lt.mpr less]
    exact order_eq_lt_iff.mpr (Or.inl less)
  · rw [Int.compare_eq_eq.mpr same]
    exact order_eq_eq_iff.mpr ⟨same, apart⟩
  · rw [Int.compare_eq_gt.mpr greater, ← Quantity.order_swap b.quantity,
      order_eq_lt_iff.mpr (Or.inl greater)]
    rfl

/-- With a double a number is in the order that its own double is in. -/
theorem order_double (a : Number) (d : Double) :
    a.quantity.order (.double d) = compare a.rounded d.signed :=
  order_of_mixed (b := .double d) (by rintro ⟨-, _, ⟨⟩⟩)

/-! ## Texts of numbers -/

/-- The text of a number, with blanks around it, compares as the double of that number. -/
theorem comparedAs_padded (a b : Number) (before after : String)
    (blankBefore : ∀ c ∈ before.toList, Text.isBlank c = true)
    (blankAfter : ∀ c ∈ after.toList, Text.isBlank c = true) :
    a.ComparedAs (.string (before ++ String.ofList b.text ++ after)) (compare a.rounded b.rounded) :=
  comparedAs_text (b.spelled?_padded blankBefore blankAfter)
    (congrArg some (a.order_double b.quantity.toDouble))

/-! ## Texts of any kind -/

theorem refuses_of_order?_eq_none (missing : order? (.json (.number a)) (.string text) = none) :
    a.Refuses (.string text) := by
  have exchanged : order? (.string text) (.json (.number a)) = none := by
    rw [Value.order?_swap (.json (.number a)), missing, Option.map_none]
  have unequal : Value.equal (.json (.number a)) (.string text) = false := by
    rw [Value.equal_eq, missing]
    rfl
  have unequal' : Value.equal (.string text) (.json (.number a)) = false := by
    rw [Value.equal_comm, unequal]
  refine ⟨fun comparison relational => ⟨?_, ?_⟩, ⟨?_, ?_⟩, ⟨?_, ?_⟩⟩ <;>
    refine Value.answers_iff.mpr ?_
  · exact Value.compare_of_order?_eq_none missing relational
  · exact Value.compare_of_order?_eq_none exchanged relational
  · exact congrArg Except.ok unequal
  · exact congrArg Except.ok unequal'
  · exact congrArg (fun equal => Except.ok !equal) unequal
  · exact congrArg (fun equal => Except.ok !equal) unequal'

/-- A text that spells neither a double nor infinity has no order with a number. -/
theorem order?_text_eq_none (finite : ∀ d, ¬Spells (Text.trim text.toList) d)
    (infinite : ∀ negative, ¬SpellsInfinity (Text.trim text.toList) negative) :
    order? (.json (.number a)) (.string text) = none := by
  show (Value.spelled? text).bind a.quantity.orderText? = none
  cases found : Value.spelled? text with
  | none => rfl
  | some spelled =>
    cases spelled with
    | finite d => exact absurd (NumericText.ofText?_eq_finite_iff.mp found) (finite d)
    | infinite negative =>
      exact absurd (NumericText.ofText?_eq_infinite_iff.mp found) (infinite negative)
    | undefined => rfl

/-- How a number is compared with texts, those of numbers among them. -/
structure TextsCompare (a b : Number) (text : String) : Prop where
  /-- The text of a number, with blanks around it, compares like that number, but where two integers merge: the
  text of one of them is equal to the other. -/
  written : ∃ written, (∀ hosts, Value.callMethod hosts (.json (.number b)) "toString" [] =
      .pure (.string written)) ∧
    ∀ before after : String, (∀ c ∈ before.toList, Text.isBlank c = true) →
      (∀ c ∈ after.toList, Text.isBlank c = true) →
      (¬a.Merges b → a.ComparesAlike (.string (before ++ written ++ after)) (.json (.number b))) ∧
        (a.Merges b → a.ComparedAs (.string (before ++ written ++ after)) .eq)
  /-- A text that spells a double compares like it. -/
  finite : ∀ d, Spells (Text.trim text.toList) d → a.ComparesAlike (.string text) (.double d)
  /-- A text that spells infinity is greater than every number, and with a minus less. -/
  infinite : ∀ negative, SpellsInfinity (Text.trim text.toList) negative →
    a.ComparedAs (.string text) (if negative then .gt else .lt)
  /-- No other text is compared with a number. -/
  other : (∀ d, ¬Spells (Text.trim text.toList) d) →
    (∀ negative, ¬SpellsInfinity (Text.trim text.toList) negative) → a.Refuses (.string text)

/-- A number is compared with a text as with the double that it spells. -/
theorem texts_compare (a b : Number) (text : String) : TextsCompare a b text where
  written := by
    refine ⟨String.ofList b.text, fun _ => rfl, fun before after blankBefore blankAfter => ?_⟩
    have compared := comparedAs_padded a b before after blankBefore blankAfter
    refine ⟨fun apart => ?_, fun merges => ?_⟩
    · rw [← order_of_apart apart] at compared
      exact ⟨_, compared, comparedAs_number a b⟩
    · rw [Int.compare_eq_eq.mpr merges.rounded_eq] at compared
      exact compared
  finite d spells :=
    ⟨_, comparedAs_text (NumericText.ofText?_eq_finite_iff.mpr spells) rfl,
      comparedAs_number a (.double d)⟩
  infinite negative spells := by
    refine comparedAs_text (NumericText.ofText?_eq_infinite_iff.mpr spells) ?_
    cases negative <;> rfl
  other finite infinite := refuses_of_order?_eq_none (order?_text_eq_none finite infinite)

/-- The text of `2 ^ 53` is equal to `2 ^ 53 + 1`, which `2 ^ 53` is not, and numbers are compared with the name
of infinity, which is no decimal numeral. -/
theorem texts_not_numbers :
    (¬∀ (a b : Number) (written : String),
      (∀ hosts, Value.callMethod hosts (.json (.number b)) "toString" [] = .pure (.string written)) →
        a.ComparesAlike (.string written) (.json (.number b))) ∧
    ¬∀ (a : Number) (text : String), (∀ d, ¬Spells (Text.trim text.toList) d) →
      a.Refuses (.string text) := by
  refine ⟨fun alike => ?_, fun refuses => ?_⟩
  · let odd : Number := .int 9007199254740993
    let power : Number := .int 9007199254740992
    have merges : odd.Merges power := ⟨⟨_, rfl⟩, ⟨_, rfl⟩, by decide, by decide +kernel⟩
    obtain ⟨order, text, number⟩ := alike odd power _ fun _ => rfl
    have equal := comparedAs_padded odd power "" "" nofun nofun
    rw [Int.compare_eq_eq.mpr merges.rounded_eq, String.append_empty, String.empty_append] at equal
    have same := (Value.answers_iff.mp (text .eq).1).symm.trans (Value.answers_iff.mp (equal .eq).1)
    have differ := (Value.answers_iff.mp (number .eq).1).trans same
    exact absurd (Except.ok.inj differ) (by decide)
  · have spelled : Value.spelled? "inf" = some (.infinite false) := rfl
    have refused := refuses (.int 1) "inf" fun d spells => by
      have found := NumericText.ofText?_eq_finite_iff.mpr spells
      rw [← Value.spelled?, spelled] at found
      cases found
    have fails := Value.answers_iff.mp (refused.fails .lt (by simp [Comparison.IsRelational])).1
    have less := comparedAs_text (a := .int 1) spelled rfl .lt
    cases fails.symm.trans (Value.answers_iff.mp less.1)

end Number

end Scriptlet
