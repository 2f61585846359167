import Scriptlet.Text.CharSet

/-!
# Blanks

Blanks are the characters with the Unicode property `White_Space`. They separate the parts of a
template, and trimming removes them at both ends of a text.
-/

set_option autoImplicit false

namespace Scriptlet.Text

/-- The characters with the property `White_Space`. -/
def blanks : CharSet where
  bounds :=
    [0x9, 0xE, 0x20, 0x21, 0x85, 0x86, 0xA0, 0xA1, 0x1680, 0x1681, 0x2000, 0x200B, 0x2028, 0x202A,
     0x202F, 0x2030, 0x205F, 0x2060, 0x3000, 0x3001]

/-- Whether a character is blank. -/
def isBlank (c : Char) : Bool :=
  blanks.contains c

/-- The text from its first character that is not blank. -/
def skipBlanks (text : List Char) : List Char :=
  text.dropWhile isBlank

/-- The text without the blanks at either end. -/
def trim (text : List Char) : List Char :=
  (skipBlanks (skipBlanks text).reverse).reverse

theorem length_skipBlanks_le (text : List Char) : (skipBlanks text).length ≤ text.length :=
  (List.dropWhile_suffix isBlank).length_le

end Scriptlet.Text
