/-!
# Sets of characters

A set of characters is kept as the code points where membership changes, in increasing order: the
first bound opens a run of members, the second closes it, and so on. The tables of Unicode
properties are written in this form.
-/

set_option autoImplicit false

namespace Scriptlet.Text

/-- A set of characters, given by the code points at which membership starts and stops in turn. -/
structure CharSet where
  bounds : List Nat

namespace CharSet

/-- Whether a code point lies in one of the runs that the bounds open and close. -/
def within : List Nat → Nat → Bool
  | first :: past :: rest, code =>
    if code < first then false
    else if code < past then true
    else within rest code
  | _, _ => false

/-- Membership of a character. -/
def contains (set : CharSet) (c : Char) : Bool :=
  within set.bounds c.toNat

end CharSet

end Scriptlet.Text
