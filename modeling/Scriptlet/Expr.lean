import Scriptlet.Value.Arithmetic
import Scriptlet.Value.Order

/-!
# Expressions

The tree that a template denotes. `outline` writes a tree as nested brackets, each with the name of
its node first.
-/

set_option autoImplicit false

namespace Scriptlet

/-- The operators between two operands. `or` and `and` answer the operand that decides. -/
inductive Operator where
  | or
  | and
  | test (comparison : Comparison)
  | arith (operation : Operation)
  deriving DecidableEq

/-- An expression of the template language. -/
inductive Expr where
  | literal (value : Json)
  | var (name : String)
  | list (items : List Expr)
  | static (owner name : String) (arguments : List Expr)
  | property (target : Expr) (name : String)
  | method (target : Expr) (name : String) (arguments : List Expr)
  | index (target position : Expr)
  | neg (operand : Expr)
  | not (operand : Expr)
  | binary (operator : Operator) (left right : Expr)
  | ternary (condition yes no : Expr)

instance : Inhabited Expr := ⟨.literal .null⟩

/-- The sign of a comparison. -/
def Comparison.sign : Comparison → String
  | eq => "=="
  | ne => "!="
  | lt => "<"
  | le => "<="
  | gt => ">"
  | ge => ">="

/-- The sign of an operation. -/
def Operation.sign : Operation → String
  | add => "+"
  | sub => "-"
  | mul => "*"
  | div => "/"
  | rem => "%"

/-- The sign of an operator. -/
def Operator.sign : Operator → String
  | or => "||"
  | and => "&&"
  | test comparison => comparison.sign
  | arith operation => operation.sign

namespace Expr

mutual

/-- The height of a tree: a node without subtrees has height one. -/
def height : Expr → Nat
  | literal _ => 1
  | var _ => 1
  | list items => tallest items + 1
  | static _ _ arguments => tallest arguments + 1
  | property target _ => target.height + 1
  | method target _ arguments => max target.height (tallest arguments) + 1
  | index target position => max target.height position.height + 1
  | neg operand => operand.height + 1
  | not operand => operand.height + 1
  | binary _ left right => max left.height right.height + 1
  | ternary condition yes no => max condition.height (max yes.height no.height) + 1

/-- The height of the tallest of some trees, zero if there is none. -/
def tallest : List Expr → Nat
  | [] => 0
  | tree :: rest => max tree.height (tallest rest)

end

mutual

/-- The tree written with brackets. -/
def outline : Expr → String
  | literal value => s!"(lit {value.compact})"
  | var name => s!"(var {name})"
  | list items => "(list" ++ outlineEach items ++ ")"
  | static owner name arguments => s!"(static {owner} {name}" ++ outlineEach arguments ++ ")"
  | property target name => s!"(prop {name} " ++ target.outline ++ ")"
  | method target name arguments =>
    s!"(call {name} " ++ target.outline ++ outlineEach arguments ++ ")"
  | index target position => "(index " ++ target.outline ++ " " ++ position.outline ++ ")"
  | neg operand => "(neg " ++ operand.outline ++ ")"
  | not operand => "(not " ++ operand.outline ++ ")"
  | binary operator left right =>
    s!"({operator.sign} " ++ left.outline ++ " " ++ right.outline ++ ")"
  | ternary condition yes no =>
    "(?: " ++ condition.outline ++ " " ++ yes.outline ++ " " ++ no.outline ++ ")"

/-- Trees written with brackets, each after a blank. -/
def outlineEach : List Expr → String
  | [] => ""
  | tree :: rest => " " ++ tree.outline ++ outlineEach rest

end

end Expr

end Scriptlet
