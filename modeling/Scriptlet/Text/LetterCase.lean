import Scriptlet.Text.CaseTables

/-!
# Upper and lower case

The full case mappings of Unicode, which may turn one character into several. A capital sigma has
two lower-case forms: it is final (`ς`) after a letter and not before one, where the characters that
case ignores are looked through.
-/

set_option autoImplicit false

namespace Scriptlet.Text

/-- The image of a code point under the runs of a case table. -/
def CaseRun.image (runs : List CaseRun) (code : Nat) : Nat :=
  match runs.find? (fun run => run.first ≤ code && code ≤ run.last) with
  | some run =>
    if (code - run.first) % run.step = 0 then ((code : Int) + run.shift).toNat else code
  | none => code

/-- The image of a character under a case mapping. -/
def mapCase (runs : List CaseRun) (expansions : List (Nat × List Nat)) (c : Char) : List Char :=
  match expansions.lookup c.toNat with
  | some codes => codes.map Char.ofNat
  | none => [Char.ofNat (CaseRun.image runs c.toNat)]

/-- The lower-case form of a character on its own. -/
def lowerChar (c : Char) : List Char :=
  mapCase lowerRuns lowerExpansions c

/-- The upper-case form of a character. -/
def upperChar (c : Char) : List Char :=
  mapCase upperRuns upperExpansions c

/-- Whether the first character that case does not ignore is a letter with case. -/
def meetsCased (text : List Char) : Bool :=
  match text.dropWhile caseIgnorable.contains with
  | c :: _ => cased.contains c
  | [] => false

/-- The text in lower case, given the characters before it from the nearest to the farthest. -/
def lowerAfter (before : List Char) : List Char → List Char
  | [] => []
  | c :: rest =>
    let image :=
      if c = 'Σ' then
        if meetsCased before && !meetsCased rest then ['ς'] else ['σ']
      else lowerChar c
    image ++ lowerAfter (c :: before) rest

/-- The text in lower case. -/
def lower (text : List Char) : List Char :=
  lowerAfter [] text

/-- The text in upper case. -/
def upper (text : List Char) : List Char :=
  text.flatMap upperChar

/-- The text with the letters `A` to `Z` in lower case and all else as it is. -/
def asciiLower (text : String) : String :=
  text.map Char.toLower

end Scriptlet.Text
