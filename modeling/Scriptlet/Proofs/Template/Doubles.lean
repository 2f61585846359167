import Scriptlet.Proofs.Double.Written
import Scriptlet.Proofs.Template.RoundTrip
import Scriptlet.Value.Methods

/-!
# Doubles read back

A double has a text, which `toString` answers and which is joined to other texts. As a template it is the
literal of this double again (`double_reads_back`).

Without its sign, the text is that of a numeral with a fraction or an exponent. The numeral ends where the
text does, so it is read whole: as a double, and not as an integer with a property or an index behind it. A
sign directly before a numeral belongs to the literal.
-/

set_option autoImplicit false

namespace Scriptlet

namespace Numeral

open Text Template

variable {n : Numeral} {negative : Bool} {d : Double}

theorem exists_text_eq_cons (formed : n.WellFormed) :
    ∃ c tail, n.text = c :: tail ∧ isDigit c = true := by
  have all := formed.whole
  cases whole : n.whole with
  | nil => exact absurd whole formed.starts
  | cons c tail =>
    rw [whole] at all
    exact ⟨c, _, by rw [text, whole]; rfl, all c List.mem_cons_self⟩

/-- A numeral with a fraction or an exponent is read as a double, whatever follows it. -/
theorem reads_double (readable : n.Readable) (value : n.double? negative = some d)
    {rest : List Char} (ends : EndsDigits rest) :
    Reads (Template.numeral negative) (n.text ++ rest) (.double d) rest := by
  have scanned := scan_text readable.formed ends
  have digit : startsWithDigit (n.text ++ rest) = true := by
    obtain ⟨c, tail, shape, digit⟩ := exists_text_eq_cons readable.formed
    rw [shape]
    exact digit
  have number : numberOf negative n = .ok (.double d) := by
    rw [numberOf, if_neg (by simp [readable.broken]), value]
  have read := reads_of_numberOf digit (by rw [scanned]; exact number)
  rwa [scanned] at read

end Numeral

namespace Template

variable {limits : Limits} {inner : Inner}

/-- A double is spelled by its text. -/
theorem spells_double (d : Double) :
    Spells limits inner (if d.negative then 7 else 8) d.text (.literal (.number (.double d))) := by
  obtain ⟨n, written⟩ := d.exists_writtenAs
  rw [Double.text, written.text]
  exact spells_number (Numeral.exists_text_eq_cons written.formed) fun rest apart =>
    Numeral.reads_double written.toReadable written.double? apart.endsDigits

theorem parse_double_text (d : Double) :
    parse (String.ofList d.text) = .ok (.literal (.number (.double d))) := by
  have spells : Spells .standard (within .standard 127) 1 d.text (.literal (.number (.double d))) :=
    (spells_double d).loosenTo (Nat.le_refl 1) (by split <;> decide) (by split <;> decide)
  refine parse_of_spellsWhole ?_
  rw [String.toList_ofList]
  exact spells.whole

/-- The text is what a double is written as, and it stands for this double as a template. -/
structure ReadsBack (d : Double) (text : String) : Prop where
  /-- It is what the method answers that makes a text of a value. -/
  toString : ∀ hosts, Value.callMethod hosts (.double d) "toString" [] = .pure (.string text)
  /-- It is what is joined to a text, on either side. -/
  before : ∀ other, Value.operate .add (.double d) (.string other) = .ok (.string (text ++ other))
  after : ∀ other, Value.operate .add (.string other) (.double d) = .ok (.string (other ++ text))
  /-- A template with this text is the literal of the double. -/
  literal : parse text = .ok (.literal (.number (.double d)))

/-- Every double reads back from the text that it is written as. -/
theorem double_reads_back (d : Double) : ∃ text, ReadsBack d text := by
  have before (other : String) : Value.operate .add (.double d) (.string other) =
      .ok (.string (String.ofList d.text ++ other)) := rfl
  have after (other : String) : Value.operate .add (.string other) (.double d) =
      .ok (.string (other ++ String.ofList d.text)) := rfl
  exact ⟨String.ofList d.text, fun _ => rfl, before, after, parse_double_text d⟩

end Template

end Scriptlet
