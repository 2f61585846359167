import Scriptlet.Json.Basic
import Scriptlet.Double.Decimal

/-!
# JSON text

Data is written in two layouts, with the members of objects in their order. The compact layout has
no blanks. The pretty layout puts every item and member on a line of its own, indented by two
blanks for each level, with a blank after the colon; empty arrays and objects stay `[]` and `{}`.
-/

set_option autoImplicit false

namespace Scriptlet

namespace Number

/-- The text of a number. -/
def text : Number → List Char
  | .int i => if i.toInt < 0 then '-' :: Text.toDigits i.toInt.natAbs
      else Text.toDigits i.toInt.natAbs
  | .wide n _ => Text.toDigits n.toNat
  | .double d => d.text

end Number

namespace Json

/-- A hexadecimal digit in lower case. -/
def hexDigit (n : Nat) : Char :=
  Nat.digitChar n

/-- One character as it stands inside a JSON string: quotes, backslashes and control characters are
escaped, the control characters without a letter of their own by four hexadecimal digits. -/
def escapeChar (c : Char) : List Char :=
  if c = '"' then ['\\', '"']
  else if c = '\\' then ['\\', '\\']
  else if c = '\x08' then ['\\', 'b']
  else if c = '\x0c' then ['\\', 'f']
  else if c = '\n' then ['\\', 'n']
  else if c = '\r' then ['\\', 'r']
  else if c = '\t' then ['\\', 't']
  else if c.toNat < 0x20 then ['\\', 'u', '0', '0', hexDigit (c.toNat / 16), hexDigit (c.toNat % 16)]
  else [c]

/-- A JSON string. -/
def quote (text : String) : List Char :=
  '"' :: text.toList.flatMap escapeChar ++ ['"']

mutual

/-- The compact text of data. -/
def compactChars : Json → List Char
  | .null => ['n', 'u', 'l', 'l']
  | .bool true => ['t', 'r', 'u', 'e']
  | .bool false => ['f', 'a', 'l', 's', 'e']
  | .number n => n.text
  | .string s => quote s
  | .array items => '[' :: compactItems items ++ [']']
  | .object members => '\x7b' :: compactMembers members ++ ['\x7d']

/-- The items of an array, separated by commas. -/
def compactItems : List Json → List Char
  | [] => []
  | [item] => compactChars item
  | item :: next :: rest => compactChars item ++ ',' :: compactItems (next :: rest)

/-- The members of an object, separated by commas. -/
def compactMembers : List (String × Json) → List Char
  | [] => []
  | [(name, item)] => quote name ++ ':' :: compactChars item
  | (name, item) :: next :: rest =>
    quote name ++ ':' :: compactChars item ++ ',' :: compactMembers (next :: rest)

end

/-- A line break, and the indentation of a level. -/
def lineBreak (level : Nat) : List Char :=
  '\n' :: List.replicate (2 * level) ' '

mutual

/-- The pretty text of data that stands at a level. -/
def prettyChars (level : Nat) : Json → List Char
  | .array (item :: items) =>
    '[' :: lineBreak (level + 1) ++ prettyItems (level + 1) (item :: items) ++ lineBreak level ++ [']']
  | .object (entry :: members) =>
    '\x7b' :: lineBreak (level + 1) ++ prettyMembers (level + 1) (entry :: members) ++
      lineBreak level ++ ['\x7d']
  | .array [] => ['[', ']']
  | .object [] => ['\x7b', '\x7d']
  | .null => ['n', 'u', 'l', 'l']
  | .bool true => ['t', 'r', 'u', 'e']
  | .bool false => ['f', 'a', 'l', 's', 'e']
  | .number n => n.text
  | .string s => quote s

/-- The items of an array, each on a line of its own. -/
def prettyItems (level : Nat) : List Json → List Char
  | [] => []
  | [item] => prettyChars level item
  | item :: next :: rest =>
    prettyChars level item ++ ',' :: lineBreak level ++ prettyItems level (next :: rest)

/-- The members of an object, each on a line of its own. -/
def prettyMembers (level : Nat) : List (String × Json) → List Char
  | [] => []
  | [(name, item)] => quote name ++ ':' :: ' ' :: prettyChars level item
  | (name, item) :: next :: rest =>
    quote name ++ ':' :: ' ' :: prettyChars level item ++ ',' :: lineBreak level ++
      prettyMembers level (next :: rest)

end

/-- The compact text of data. -/
def compact (data : Json) : String :=
  String.ofList data.compactChars

/-- The pretty text of data. -/
def pretty (data : Json) : String :=
  String.ofList (data.prettyChars 0)

end Json

end Scriptlet
