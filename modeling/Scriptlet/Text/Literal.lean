import Scriptlet.Text.Unprintable

/-!
# Texts as logs write them

A text in a log stands between double quotes. The quote, the backslash and the usual control
characters are escaped by a letter, and every other character without a visible form of its own is
written as its code point in braces.
-/

set_option autoImplicit false

namespace Scriptlet.Text

/-- One character as it stands inside a quoted log text. -/
def literalChar (c : Char) : List Char :=
  if c = '\x00' then ['\\', '0']
  else if c = '\t' then ['\\', 't']
  else if c = '\r' then ['\\', 'r']
  else if c = '\n' then ['\\', 'n']
  else if c = '\\' then ['\\', '\\']
  else if c = '"' then ['\\', '"']
  else if unprintable.contains c then
    ['\\', 'u', '\x7b'] ++ Nat.toDigits 16 c.toNat ++ ['\x7d']
  else [c]

/-- A text as a log writes it. -/
def literal (text : String) : String :=
  String.ofList ('"' :: text.toList.flatMap literalChar ++ ['"'])

end Scriptlet.Text
