import Scriptlet.Text.Blank

/-!
# Readings

A reading takes something from the start of a text and leaves the rest. It always takes at least
one character, and says so by a proof, which is what ends every loop that reads on and on.
-/

set_option autoImplicit false

namespace Scriptlet.Text

/-- What was read at the start of a text, and the rest of the text. -/
structure Reading (α : Type) (text : List Char) where
  value : α
  rest : List Char
  shorter : rest.length < text.length

namespace Reading

variable {α β : Type} {text longer : List Char}

/-- The same reading with another value. -/
def withValue (reading : Reading α text) (value : β) : Reading β text :=
  ⟨value, reading.rest, reading.shorter⟩

/-- A reading of the end of a text as a reading of the text. -/
def widen (reading : Reading α text) (h : text.length ≤ longer.length) : Reading α longer :=
  ⟨reading.value, reading.rest, Nat.lt_of_lt_of_le reading.shorter h⟩

/-- Two readings after one another as one with the value of the second. -/
def upTo (first : Reading α text) (next : Reading β first.rest) : Reading β text :=
  next.widen (Nat.le_of_lt first.shorter)

/-- The reading together with the blanks after it. -/
def blanksAfter (reading : Reading α text) : Reading α text :=
  ⟨reading.value, skipBlanks reading.rest,
    Nat.lt_of_le_of_lt (length_skipBlanks_le _) reading.shorter⟩

/-- A reading after blanks together with these blanks. -/
def blanksBefore (reading : Reading α (skipBlanks text)) : Reading α text :=
  reading.widen (length_skipBlanks_le text)

end Reading

end Scriptlet.Text
