/-!
# Searching a text

Texts are searched code point by code point: whether one starts or ends with another, where one
first occurs in another, and replacing every occurrence. The empty text occurs before every
character and at the end.
-/

set_option autoImplicit false

namespace Scriptlet.Text

/-- What is left of a text after the given start, if it starts so. -/
def after? : List Char → List Char → Option (List Char)
  | [], text => some text
  | _ :: _, [] => none
  | p :: ps, c :: cs => if p = c then after? ps cs else none

/-- Whether a text starts with another. -/
def startsWith (text start : List Char) : Bool :=
  (after? start text).isSome

/-- Whether a text ends with another. -/
def endsWith (text ending : List Char) : Bool :=
  startsWith text.reverse ending.reverse

/-- The least position at which the sought text occurs, if it does. -/
def position? (sought : List Char) : List Char → Option Nat
  | [] => if sought = [] then some 0 else none
  | c :: cs =>
    if startsWith (c :: cs) sought then some 0
    else (position? sought cs).map (· + 1)

theorem length_after? {start text rest : List Char} (h : after? start text = some rest) :
    rest.length + start.length = text.length := by
  fun_induction after? start text with
  | case1 text => cases h; simp
  | case2 => cases h
  | case3 p ps cs ih =>
    have := ih h
    simp only [List.length_cons]
    omega
  | case4 => cases h

/-- What is left after a start that is not empty is shorter. -/
theorem shorter_of_after? {start text rest : List Char} (h : after? start text = some rest)
    (hs : 0 < start.length) : rest.length < text.length := by
  have := length_after? h
  omega

/-- The text with every occurrence of the sought text replaced, from the left and without overlap. -/
def replace (sought replacement text : List Char) : List Char :=
  match sought, text with
  | [], [] => replacement
  | [], c :: cs => replacement ++ c :: replace [] replacement cs
  | _ :: _, [] => []
  | s :: ss, c :: cs =>
    match _found : after? (s :: ss) (c :: cs) with
    | some rest => replacement ++ replace (s :: ss) replacement rest
    | none => c :: replace (s :: ss) replacement cs
termination_by text.length
decreasing_by
  · simp
  · have := length_after? _found
    simp only [List.length_cons] at *
    omega
  · simp

end Scriptlet.Text
