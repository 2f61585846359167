import Scriptlet.Expr
import Scriptlet.Template.Lexeme

/-!
# The grammar of templates

From the weakest binding to the strongest: `c ? a : b`, the operators between two operands in six
groups (`precedence`), the signs `!` and `-` before an operand, what follows an operand (`.name`,
`.name(…)`, `[…]`), and the primary expressions. Operators of one group group to the left. Blanks
may stand between any two lexemes but inside `@Class@member` up to the member's name.

A minus sign directly before a numeral, up to blanks, belongs to the numeral.

Two limits bound a template: how many brackets, branches and signs may be open in one another, and
how tall the tree may be. The grammar is written level by level: a level knows how to read what is
nested in it only through the level inside (`Inner`), and at the innermost level everything is too
deep. Without a limit on nesting there is one level more than the text has characters.
-/

set_option autoImplicit false

namespace Scriptlet.Template

open Text

/-- The limits on a template, where there are any. -/
structure Limits where
  nesting : Option Nat
  height : Option Nat

namespace Limits

/-- The limits of the template language. -/
def standard : Limits := ⟨some 128, some 128⟩

/-- No limits. -/
def none : Limits := ⟨.none, .none⟩

/-- Whether a height is low enough. -/
def allows (limits : Limits) (height : Nat) : Bool :=
  match limits.height with
  | some greatest => height ≤ greatest
  | .none => true

/-- Whether a tree is low enough. -/
def admits (limits : Limits) (tree : Expr) : Bool :=
  limits.allows tree.height

end Limits

/-- The readers of what is nested in an expression. -/
structure Inner where
  expression : Reader Expr
  operand : Reader Expr

/-! ## Lists of expressions -/

/-- Expressions separated by commas, from one on, up to and with the closing character. -/
def itemsFrom (expression : Reader Expr) (close : Char) (text : List Char) :
    Except Failure (Reading (List Expr) text) :=
  match expression text with
  | .error failure => .error failure
  | .ok item =>
    match mark? ',' (skipBlanks item.rest) with
    | some comma =>
      have shorter := Nat.lt_trans comma.blanksBefore.shorter item.shorter
      match itemsFrom expression close comma.rest with
      | .error failure => .error failure
      | .ok items =>
        .ok ⟨item.value :: items.value, items.rest, Nat.lt_trans items.shorter shorter⟩
    | none =>
      match closing close item.rest with
      | .error failure => .error failure
      | .ok closed => .ok (item.upTo (closed.withValue [item.value]))
termination_by text.length

/-- Expressions separated by commas, or none, up to and with the closing character. -/
def items (expression : Reader Expr) (close : Char) : Reader (List Expr) := fun text =>
  match mark? close (skipBlanks text) with
  | some closed => .ok (closed.withValue []).blanksBefore
  | none => (itemsFrom expression close (skipBlanks text)).map Reading.blanksBefore

/-! ## Primary expressions -/

/-- What a name alone denotes. -/
def named : String → Expr
  | "true" => .literal (.bool true)
  | "false" => .literal (.bool false)
  | "null" => .literal .null
  | name => .var name

/-- The last of some names joined by dots, of which the first has been read. -/
def lastName {origin : List Char} (first : Reading String origin) :
    Except Failure (Reading String origin) :=
  match mark? '.' first.rest with
  | none => .ok first
  | some dot =>
    match name dot.rest with
    | .error failure => .error failure
    | .ok next => lastName (first.upTo (dot.upTo next))
termination_by first.rest.length
decreasing_by exact Nat.lt_trans next.shorter dot.shorter

/-- A node that is accepted if it is low enough. -/
def node (limits : Limits) {text : List Char} (reading : Reading Expr text) :
    Except Failure (Reading Expr text) :=
  if limits.admits reading.value then .ok reading else failAt .tooDeep reading.rest

/-- A reference to a static member, after its first mark. -/
def static (limits : Limits) (inner : Inner) : Reader Expr := fun text => do
  let first ← name text
  let owner ← lastName first
  let mark ← mark '@' .classMarkExpected owner.rest
  let member ← name mark.rest
  let member := (owner.upTo (mark.upTo member)).blanksAfter
  match mark? '(' member.rest with
  | some opened => do
    let arguments ← items inner.expression ')' opened.rest
    let tree := Expr.static owner.value member.value arguments.value
    node limits (member.upTo (opened.upTo (arguments.withValue tree)))
  | none => node limits (member.withValue (.static owner.value member.value []))

/-- A primary expression, after the blanks before it. -/
def primary (limits : Limits) (inner : Inner) : Reader Expr
  | [] => failAt .unexpectedEnd []
  | c :: rest =>
    have shorter : rest.length ≤ (c :: rest).length := Nat.le_succ _
    if c = '(' then do
      let expression ← inner.expression rest
      let closed ← closing ')' expression.rest
      return (expression.upTo (closed.withValue expression.value)).widen shorter
    else if c = '\x7b' then do
      let items ← items inner.expression '\x7d' rest
      node limits ((items.withValue (.list items.value)).widen shorter)
    else if c = '\'' || c = '"' then do
      let text ← quoted (c :: rest)
      return text.withValue (.literal (.string text.value))
    else if isDigit c then do
      let number ← numeral false (c :: rest)
      return number.withValue (.literal (.number number.value))
    else if c = '@' then do
      let reference ← static limits inner rest
      return reference.widen shorter
    else if isNameStart c then do
      let name ← name (c :: rest)
      return name.withValue (named name.value)
    else failAt (.unexpected c) (c :: rest)

/-! ## What follows an operand -/

/-- What may follow an operand: a property, a method call or an index. -/
inductive Suffix where
  | property (name : String)
  | method (name : String) (arguments : List Expr)
  | index (position : Expr)

/-- The expression that an operand and what follows it are together. -/
def Suffix.attach (target : Expr) : Suffix → Expr
  | property name => .property target name
  | method name arguments => .method target name arguments
  | index position => .index target position

/-- What follows an operand, at the start of a text, if anything does. -/
def suffix? (inner : Inner) (text : List Char) : Except Failure (Option (Reading Suffix text)) :=
  match mark? '.' text with
  | some dot => do
    let name ← name (skipBlanks dot.rest)
    let name := (dot.upTo name.blanksBefore).blanksAfter
    match mark? '(' name.rest with
    | some opened => do
      let arguments ← items inner.expression ')' opened.rest
      let suffix := Suffix.method name.value arguments.value
      return some (name.upTo (opened.upTo (arguments.withValue suffix)))
    | none => return some (name.withValue (.property name.value))
  | none =>
    match mark? '[' text with
    | some opened => do
      let position ← inner.expression opened.rest
      let closed ← closing ']' position.rest
      let suffix := Suffix.index position.value
      return some (opened.upTo (position.upTo (closed.withValue suffix)))
    | none => return none

/-- An operand with all that follows it, and the blanks after that. -/
def suffixes (limits : Limits) (inner : Inner) {origin : List Char} (target : Reading Expr origin) :
    Except Failure (Reading Expr origin) :=
  match suffix? inner (skipBlanks target.rest) with
  | .error failure => .error failure
  | .ok none => .ok target.blanksAfter
  | .ok (some suffix) =>
    let whole := suffix.value.attach target.value
    if limits.admits whole then
      suffixes limits inner (target.upTo (suffix.withValue whole).blanksBefore)
    else failAt .tooDeep suffix.rest
termination_by target.rest.length
decreasing_by exact suffix.blanksBefore.shorter

/-! ## Operators -/

/-- An operand at the very start of a text, with the signs before it and all that follows it. -/
def signed (limits : Limits) (inner : Inner) : Reader Expr := fun text =>
  match mark? '!' text with
  | some sign =>
    if startsWith sign.rest ['='] then failAt .operandExpected text
    else do
      let reading ← inner.operand sign.rest
      node limits (sign.upTo (reading.withValue (.not reading.value)))
  | none =>
    match mark? '-' text with
    | some sign =>
      if startsWithDigit (skipBlanks sign.rest) then do
        let number ← numeral true (skipBlanks sign.rest)
        let tree := Expr.literal (.number number.value)
        suffixes limits inner (sign.upTo (number.withValue tree).blanksBefore)
      else do
        let reading ← inner.operand (skipBlanks sign.rest)
        node limits (sign.upTo (reading.withValue (.neg reading.value)).blanksBefore)
    | none => do
      let reading ← primary limits inner text
      suffixes limits inner reading

/-- An operand with the signs before it and all that follows it, perhaps after blanks. -/
def operand (limits : Limits) (inner : Inner) : Reader Expr := fun text =>
  (signed limits inner (skipBlanks text)).map Reading.blanksBefore

/-- The groups of operators, from the weakest binding to the strongest. In a group, a sign that
another one starts with comes after it. -/
def precedence : List (List Operator) :=
  [[.or],
   [.and],
   [.test .eq, .test .ne],
   [.test .le, .test .ge, .test .lt, .test .gt],
   [.arith .add, .arith .sub],
   [.arith .mul, .arith .div, .arith .rem]]

/-- An operator at the start of a text. -/
def sign? (operator : Operator) (text : List Char) : Option (Reading Operator text) :=
  match h : after? operator.sign.toList text with
  | some rest =>
    if hs : 0 < operator.sign.toList.length then
      some ⟨operator, rest, shorter_of_after? h hs⟩
    else none
  | none => none

/-- The first of some operators whose sign is at the start of a text. -/
def operator? (operators : List Operator) (text : List Char) : Option (Reading Operator text) :=
  operators.findSome? (sign? · text)

/-- A left operand joined from the left with all the operands of its group that follow it. -/
def chain (limits : Limits) (operators : List Operator) (next : Reader Expr) {origin : List Char}
    (left : Reading Expr origin) : Except Failure (Reading Expr origin) :=
  match operator? operators (skipBlanks left.rest) with
  | none => .ok left.blanksAfter
  | some sign =>
    match next sign.rest with
    | .error failure => .error failure
    | .ok right =>
      let joined := Expr.binary sign.value left.value right.value
      if limits.admits joined then
        chain limits operators next
          (left.upTo (sign.upTo (right.withValue joined)).blanksBefore)
      else failAt .tooDeep right.rest
termination_by left.rest.length
decreasing_by exact Nat.lt_trans right.shorter sign.blanksBefore.shorter

/-- Operands joined by the operators of one group. -/
def group (limits : Limits) (operators : List Operator) (next : Reader Expr) : Reader Expr :=
  fun text => do
    let left ← next text
    chain limits operators next left

/-- Operands joined by operators of all groups. -/
def operation (limits : Limits) (inner : Inner) : Reader Expr :=
  precedence.foldr (group limits) (operand limits inner)

/-- An operation, or a choice between two expressions by it. -/
def expression (limits : Limits) (inner : Inner) : Reader Expr := fun text => do
  let condition ← operation limits inner text
  let condition := condition.blanksAfter
  match mark? '?' condition.rest with
  | none => return condition
  | some question => do
    let yes ← inner.expression question.rest
    let colon ← closing ':' yes.rest
    let no ← inner.expression colon.rest
    let tree := Expr.ternary condition.value yes.value no.value
    node limits
      (condition.upTo (question.upTo (yes.upTo (colon.upTo (no.withValue tree)))))

/-! ## Levels -/

/-- The readers for a number of levels, one in another. -/
def within (limits : Limits) : Nat → Inner
  | 0 => ⟨fun text => failAt .tooDeep text, fun text => failAt .tooDeep text⟩
  | depth + 1 =>
    let inner := within limits depth
    ⟨expression limits inner, operand limits inner⟩

/-- How many levels there are for a text. -/
def Limits.levels (limits : Limits) (text : List Char) : Nat :=
  limits.nesting.getD (text.length + 1)

/-- The expression that a whole text spells. -/
def wholeText (limits : Limits) (text : List Char) : Except Failure Expr := do
  let reading ← (within limits (limits.levels text)).expression text
  match skipBlanks reading.rest with
  | [] => return reading.value
  | rest => failAt .trailingInput rest

end Scriptlet.Template
