import Scriptlet.Evaluation
import Scriptlet.Statics.Math
import Scriptlet.Template

/-!
# Languages

A language gives templates a meaning: the run of a template over bindings and host objects. The
expression language of this library is `ognl`. In the language `lookup` a template is a name.
-/

set_option autoImplicit false

namespace Scriptlet

/-- A template language. -/
structure Language where
  name : String
  run : Hosts → Bindings → String → Run Value

namespace Language

/-- The expression language with the given static members. -/
def ognl (statics : Statics) : Language where
  name := "ognl"
  run hosts bindings template :=
    match Template.parse template with
    | .ok expression => expression.eval ⟨bindings, statics, hosts⟩
    | .error fault => .fail fault

/-- A language whose templates are names of variables; a template after an exclamation mark is the
reason for which it fails the job. -/
def lookup : Language where
  name := "lookup"
  run _ bindings template :=
    match template.toList with
    | '!' :: reason => .fail (.jobFailed ⟨String.ofList reason⟩)
    | _ =>
      match bindings.find? template with
      | some value => .pure value
      | none => .fail (.unknownVariable template)

end Language

end Scriptlet
