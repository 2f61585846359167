import Scriptlet.Template.Grammar

/-!
# Templates

Reading a template. A template that cannot be read is a fault whose position counts the bytes of
the template in UTF-8 before the place of the failure.
-/

set_option autoImplicit false

namespace Scriptlet.Template

/-- How many bytes a text takes in UTF-8. -/
def byteCount (text : List Char) : Nat :=
  text.foldl (fun count c => count + c.utf8Size) 0

/-- The fault that a failure in a text is. -/
def Failure.fault (failure : Failure) (text : List Char) : Fault :=
  .unreadable (byteCount text - byteCount failure.rest) failure.reason

/-- The expression that a template spells within limits. -/
def parseWithin (limits : Limits) (template : String) : Except Fault Expr :=
  (wholeText limits template.toList).mapError (·.fault template.toList)

/-- The expression that a template spells. -/
def parse (template : String) : Except Fault Expr :=
  parseWithin .standard template

end Scriptlet.Template
