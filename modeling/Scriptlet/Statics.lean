import Scriptlet.Host

/-!
# Static members

Functions and constants that a template reaches as `@Class@member`. They are kept under the name of
their class and their own name joined by `@`, and one registered later replaces an earlier one under
the same joined name. A call looks the member up, checks the number of arguments and then calls it.
-/

set_option autoImplicit false

namespace Scriptlet

/-- A static member of a class. -/
structure StaticMember where
  owner : String
  name : String
  arity : Arity
  body : List Value → Except Fault Value

/-- Static members under their joined names. -/
abbrev Statics := Table StaticMember

namespace Statics

/-- The name under which a member of a class is kept. -/
def key (owner name : String) : String :=
  owner ++ "@" ++ name

/-- The members with one more, which replaces one of the same joined name. -/
def register (statics : Statics) (member : StaticMember) : Statics :=
  statics.insert (key member.owner member.name) member

/-- The member of a class with a name. -/
def member? (statics : Statics) (owner name : String) : Option StaticMember :=
  Table.find? statics (key owner name)

/-- Calling a member of a class. -/
def call (statics : Statics) (owner name : String) (arguments : List Value) : Run Value :=
  match statics.member? owner name with
  | none => .fail (.noSuchMethod ("@" ++ owner) name)
  | some member =>
    if member.arity.accepts arguments.length then
      .call (.static owner name arguments) (member.body arguments)
    else .fail (member.arity.violation ("@" ++ key owner name) arguments.length)

theorem member?_register (statics : Statics) (member : StaticMember) (owner name : String) :
    (statics.register member).member? owner name =
      if key owner name = key member.owner member.name then some member
      else statics.member? owner name :=
  Table.find?_insert _ _ _ _

end Statics

end Scriptlet
