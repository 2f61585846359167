import Scriptlet.Text.Letters

/-!
# Characters of names

A name starts with a letter, `_` or `$` and goes on with letters, numerals, `_` and `$`, where
letters and numerals are those of every script.
-/

set_option autoImplicit false

namespace Scriptlet.Text

/-- Whether a name may start with the character. -/
def isNameStart (c : Char) : Bool :=
  c == '_' || c == '$' || alphabetic.contains c

/-- Whether a name may go on with the character. -/
def isNamePart (c : Char) : Bool :=
  c == '_' || c == '$' || alphabetic.contains c || numeric.contains c

/-- What starts a name may also go on with it. -/
theorem isNamePart_of_isNameStart {c : Char} (h : isNameStart c = true) : isNamePart c = true := by
  simp only [isNameStart, isNamePart] at *
  simp [h]

end Scriptlet.Text
