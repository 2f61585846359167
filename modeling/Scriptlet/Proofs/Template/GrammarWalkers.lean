import Scriptlet.Proofs.Template.LexemeWalkers
import Scriptlet.Proofs.Template.Locality

/-!
# Walkers over expressions

The grammar of templates read with a cursor. What is nested in an expression is again only known through the
level inside (`Nested`), and every loop of the grammar goes round by itself: over the expressions of a list, the
names of a class, what follows an operand, and the operands of a group of operators.

No walker looks into a tree that has been read. Each tree is handed on with a height (`Parsed`), a node adds one
to the greatest height of its parts, and it is that number which the limit is checked against (`Walker.node`).

Each walker follows the reader of its phrase and hands on the height of its tree, if what is nested is followed
(`Nested.FollowsInner`). So a whole template is followed, one level after another (`follows_wholeText`), and the
walk over it comes to the tree with its height where `parseWithin` comes to the tree, and to its fault where it
comes to a fault (`outcome_walkWithin_eq_ok_iff`, `outcome_walkWithin_eq_error_iff`).
-/

set_option autoImplicit false

namespace Scriptlet.Template

open Text

/-! ## Heights handed on -/

/-- What has been read of an expression, with the height that is handed on with it: of a tree, of the tallest of
some trees, or of the tallest tree in what follows an operand. It is zero if there is no tree. -/
structure Parsed (α : Type) where
  value : α
  height : Nat

namespace Parsed

/-- A tree without subtrees. -/
def leaf (tree : Expr) : Parsed Expr :=
  ⟨tree, 1⟩

/-- Some trees and one more. -/
def push (items : Parsed (List Expr)) (item : Parsed Expr) : Parsed (List Expr) :=
  ⟨items.value ++ [item.value], max items.height item.height⟩

end Parsed

/-- The walkers over what is nested in an expression. -/
structure Nested where
  expression : Walker (Parsed Expr)
  operand : Walker (Parsed Expr)

namespace Walker

variable {α β : Type}

/-- Expressions separated by commas behind those that have been read, up to and with the closing character. -/
def itemsFrom (expression : Walker (Parsed Expr)) (close : Char) :
    Parsed (List Expr) → Walker (Parsed (List Expr)) :=
  loop fun again items => do
    let items := items.push (← expression)
    passBlanks
    if ← pass [','] then again items
    else do
      expect close
      return items

/-- Expressions separated by commas, or none, up to and with the closing character. -/
def items (expression : Walker (Parsed Expr)) (close : Char) : Walker (Parsed (List Expr)) := do
  passBlanks
  if ← pass [close] then return ⟨[], 0⟩ else itemsFrom expression close ⟨[], 0⟩

/-- A node that is accepted if the height handed on with it is low enough. -/
def node (limits : Limits) (tree : Expr) (height : Nat) : Walker (Parsed Expr) :=
  if limits.allows height then return ⟨tree, height⟩ else reject .tooDeep

/-- A node over one part. -/
def wrap (limits : Limits) (build : α → Expr) (part : Parsed α) : Walker (Parsed Expr) :=
  node limits (build part.value) (part.height + 1)

/-- A node over two parts. -/
def join (limits : Limits) (build : α → β → Expr) (left : Parsed α) (right : Parsed β) :
    Walker (Parsed Expr) :=
  node limits (build left.value right.value) (1 + max left.height right.height)

/-- The last of some names joined by dots. -/
def lastName : String → Walker String :=
  loop fun again last => do
    if ← pass ['.'] then do again (← name) else return last

/-- A reference to a static member. -/
def static (limits : Limits) (nested : Nested) : Walker (Parsed Expr) := do
  let _ ← pass ['@']
  let owner ← lastName (← name)
  if ← pass ['@'] then do
    let member ← name
    passBlanks
    if ← pass ['('] then do
      let arguments ← items nested.expression ')'
      wrap limits (.static owner member) arguments
    else wrap limits (.static owner member) ⟨[], 0⟩
  else reject .classMarkExpected

/-- A primary expression, perhaps after blanks. -/
def primary (limits : Limits) (nested : Nested) : Walker (Parsed Expr) := do
  passBlanks
  match ← peek with
  | none => reject .unexpectedEnd
  | some c =>
    if c = '(' then do
      let _ ← pass ['(']
      let expression ← nested.expression
      expect ')'
      return expression
    else if c = '\x7b' then do
      let _ ← pass ['\x7b']
      wrap limits .list (← items nested.expression '\x7d')
    else if c = '\'' || c = '"' then return .leaf (.literal (.string (← quoted)))
    else if isDigit c then return .leaf (.literal (.number (← numeral false)))
    else if c = '@' then static limits nested
    else if isNameStart c then return .leaf (named (← name))
    else reject (.unexpected c)

/-- What follows an operand, if anything does. -/
def suffix (nested : Nested) : Walker (Option (Parsed Suffix)) := do
  if ← pass ['.'] then do
    passBlanks
    let name ← name
    passBlanks
    if ← pass ['('] then do
      let arguments ← items nested.expression ')'
      return some ⟨.method name arguments.value, arguments.height⟩
    else return some ⟨.property name, 0⟩
  else if ← pass ['['] then do
    let position ← nested.expression
    expect ']'
    return some ⟨.index position.value, position.height⟩
  else return none

/-- An operand with all that follows it. -/
def suffixes (limits : Limits) (nested : Nested) : Parsed Expr → Walker (Parsed Expr) :=
  loop fun again target => do
    passBlanks
    match ← suffix nested with
    | none => return target
    | some suffix => do again (← join limits Suffix.attach target suffix)

/-- An operand with the signs before it and all that follows it. -/
def signed (limits : Limits) (nested : Nested) : Walker (Parsed Expr) := do
  if startsWith (← ahead) ['!', '='] then reject .operandExpected
  else if ← pass ['!'] then do wrap limits .not (← nested.operand)
  else if ← pass ['-'] then do
    passBlanks
    if startsWithDigit (← ahead) then do
      suffixes limits nested (.leaf (.literal (.number (← numeral true))))
    else do wrap limits .neg (← nested.operand)
  else do suffixes limits nested (← primary limits nested)

/-- An operand with the signs before it and all that follows it, perhaps after blanks. -/
def operand (limits : Limits) (nested : Nested) : Walker (Parsed Expr) := do
  passBlanks
  signed limits nested

/-- Passes the first of some operators whose sign is at the cursor. -/
def operator : List Operator → Walker (Option Operator)
  | [] => return none
  | first :: others => do
    if ← pass first.sign.toList then return some first else operator others

/-- A left operand joined from the left with all the operands of its group that follow it. -/
def chain (limits : Limits) (operators : List Operator) (next : Walker (Parsed Expr)) :
    Parsed Expr → Walker (Parsed Expr) :=
  loop fun again left => do
    passBlanks
    match ← operator operators with
    | none => return left
    | some operator => do again (← join limits (.binary operator) left (← next))

/-- Operands joined by the operators of one group. -/
def group (limits : Limits) (operators : List Operator) (next : Walker (Parsed Expr)) :
    Walker (Parsed Expr) := do
  chain limits operators next (← next)

/-- Operands joined by operators of all groups. -/
def operation (limits : Limits) (nested : Nested) : Walker (Parsed Expr) :=
  precedence.foldr (group limits) (operand limits nested)

/-- An operation, or a choice between two expressions by it. -/
def expression (limits : Limits) (nested : Nested) : Walker (Parsed Expr) := do
  let condition ← operation limits nested
  passBlanks
  if ← pass ['?'] then do
    let yes ← nested.expression
    expect ':'
    let no ← nested.expression
    let tree := Expr.ternary condition.value yes.value no.value
    node limits tree (1 + max (max condition.height yes.height) no.height)
  else return condition

/-- The walkers for a number of levels, one in another. -/
def within (limits : Limits) : Nat → Nested
  | 0 => ⟨reject .tooDeep, reject .tooDeep⟩
  | depth + 1 =>
    let nested := within limits depth
    ⟨expression limits nested, operand limits nested⟩

/-- The expression that a whole text spells, for a number of levels. -/
def whole (limits : Limits) (levels : Nat) : Walker (Parsed Expr) := do
  let tree ← (within limits levels).expression
  passBlanks
  if ← atEnd then return tree else reject .trailingInput

end Walker

variable {text rest : List Char} {limits : Limits} {inner : Inner} {nested : Nested}

theorem takenAs_blanksBefore {α β : Type} (become : α → β)
    (answer : Except Failure (Reading α (skipBlanks rest))) :
    takenAs become (answer.map Reading.blanksBefore) = takenAs become answer := by
  cases answer <;> rfl

/-- More blanks before a closing character do not matter. -/
theorem taken_closing_skipBlanks (c : Char) (rest : List Char) :
    taken (closing c (skipBlanks rest)) = taken (closing c rest) := by
  simp only [closing, takenAs_blanksBefore]
  rw [skipBlanks_skipBlanks]

/-! ## Heights of what is read -/

/-- The height of the tallest tree in what follows an operand, zero if there is none. -/
def Suffix.height : Suffix → Nat
  | property _ => 0
  | method _ arguments => Expr.tallest arguments
  | index position => position.height

/-- An operand and what follows it are together one taller than the taller of the two. -/
theorem height_attach (target : Expr) (suffix : Suffix) :
    1 + max target.height suffix.height = (suffix.attach target).height := by
  cases suffix <;> simp only [Suffix.height, Suffix.attach, Expr.height, Nat.max_zero, Nat.add_comm 1]

namespace Parsed

/-- A tree with its height. -/
def ofTree (tree : Expr) : Parsed Expr :=
  ⟨tree, tree.height⟩

/-- Some trees with the height of the tallest. -/
def ofTrees (trees : List Expr) : Parsed (List Expr) :=
  ⟨trees, Expr.tallest trees⟩

/-- What follows an operand, with the height of the tallest tree in it. -/
def ofSuffix (suffix : Suffix) : Parsed Suffix :=
  ⟨suffix, suffix.height⟩

theorem ofTree_eq {tree : Expr} {height : Nat} (exact_ : height = tree.height) :
    ofTree tree = ⟨tree, height⟩ := by
  rw [ofTree, exact_]

theorem ofTree_named (word : String) : ofTree (named word) = leaf (named word) :=
  ofTree_eq (height_named word).symm

theorem push_ofTrees (items : List Expr) (item : Expr) :
    (ofTrees items).push (ofTree item) = ofTrees (items ++ [item]) := by
  simp only [push, ofTrees, ofTree, Expr.tallest_append, Expr.tallest, Nat.max_zero]

end Parsed

/-- What is nested is followed, and the heights of its trees are handed on. -/
structure Nested.FollowsInner (text : List Char) (nested : Nested) (inner : Inner) : Prop where
  expression : ∀ rest, Follows text rest nested.expression (takenAs .ofTree (inner.expression rest))
  operand : ∀ rest, Follows text rest nested.operand (takenAs .ofTree (inner.operand rest))

/-! ## Lists of expressions -/

theorem follows_itemsFrom {walker : Walker (Parsed Expr)} {reader : Reader Expr}
    (each : ∀ rest, Follows text rest walker (takenAs .ofTree (reader rest))) (close : Char)
    (items : List Expr) :
    Follows text rest (Walker.itemsFrom walker close (.ofTrees items))
      (takenAs (fun others => .ofTrees (items ++ others)) (itemsFrom reader close rest)) := by
  refine Follows.loop (fun k : List Expr × List Char => Parsed.ofTrees k.1) (fun k => k.2)
    (fun k => takenAs (fun others => Parsed.ofTrees (k.1 ++ others)) (itemsFrom reader close k.2))
    (fun again k ih => ?_) (items, rest)
  obtain ⟨items, rest⟩ := k
  refine (each rest).cases (fun failure read => by rw [itemsFrom, read]; rfl) fun item read => ?_
  rw [itemsFrom, read, Parsed.push_ofTrees]
  refine follows_passBlanks.bind_ok (follows_if_pass (fun comma found => ?_) fun absent => ?_)
  · have shorter := Nat.lt_trans comma.blanksBefore.shorter item.shorter
    have more := ih (items ++ [item.value], comma.rest) shorter
    simp only [found]
    cases readMore : itemsFrom reader close comma.rest with
    | error failure =>
      rw [readMore] at more
      exact more
    | ok others =>
      rw [readMore] at more
      simpa [takenAs, Except.map] using more
  · simp only [absent]
    have closed : Follows text (skipBlanks item.rest) (Walker.expect close)
        (taken (closing close item.rest)) := by
      rw [← taken_closing_skipBlanks]
      exact follows_expect close
    exact closed.cases (fun failure readClosed => by rw [readClosed]; rfl) fun mark readClosed => by
      rw [readClosed]
      exact .pure _

theorem follows_items {walker : Walker (Parsed Expr)} {reader : Reader Expr}
    (each : ∀ rest, Follows text rest walker (takenAs .ofTree (reader rest))) (close : Char) :
    Follows text rest (Walker.items walker close) (takenAs .ofTrees (items reader close rest)) := by
  refine follows_passBlanks.bind_ok (follows_if_pass (fun closed found => ?_) fun absent => ?_)
  · simp only [items, found]
    exact .pure _
  · simp only [items, absent, takenAs_blanksBefore]
    exact follows_itemsFrom each close []

/-! ## Primary expressions -/

/-- A node with its height handed on is low enough if its tree is. -/
theorem follows_node {origin : List Char} {reading : Reading Expr origin} {tree : Expr} {height : Nat}
    (value : reading.value = tree) (left : reading.rest = rest) (exact_ : height = tree.height) :
    Follows text rest (Walker.node limits tree height) (takenAs .ofTree (node limits reading)) := by
  subst value left exact_
  unfold Walker.node node Limits.admits
  split
  · exact .pure _
  · exact .reject

theorem follows_lastName {origin : List Char} (first : Reading String origin) :
    Follows text first.rest (Walker.lastName first.value) (taken (lastName first)) := by
  refine Follows.loop (fun first : Reading String origin => first.value) (fun first => first.rest)
    (fun first => taken (lastName first)) (fun again first ih => ?_) first
  rw [lastName]
  refine follows_if_pass (fun dot found => ?_) fun absent => ?_
  · simp only [found]
    refine follows_name.cases (fun failure read => by rw [read]; rfl) fun next read => ?_
    rw [read]
    exact ih (first.upTo (dot.upTo next)) (Nat.lt_trans next.shorter dot.shorter)
  · simp only [absent]
    exact .pure _

theorem follows_static (follows : nested.FollowsInner text inner) :
    Follows text ('@' :: rest) (Walker.static limits nested)
      (takenAs .ofTree (static limits inner rest)) := by
  refine follows_pass_head.bind_ok (follows_name.bind fun first _ => ?_)
  refine (follows_lastName first).bind fun owner _ => ?_
  refine follows_if_pass (fun mark found => ?_) fun absent => ?_
  · simp only [Template.mark, found, ok_bind]
    refine follows_name.bind fun member _ => follows_passBlanks.bind_ok ?_
    refine follows_if_pass (fun opened found => ?_) fun absent => ?_
    · simp only [Reading.blanksAfter, Reading.upTo, Reading.widen, found]
      exact (follows_items follows.expression ')').bind fun arguments _ => follows_node rfl rfl rfl
    · simp only [Reading.blanksAfter, Reading.upTo, Reading.widen, absent]
      exact follows_node rfl rfl rfl
  · simp only [Template.mark, absent]
    exact .reject

theorem follows_primary (follows : nested.FollowsInner text inner) (plain : skipBlanks rest = rest) :
    Follows text rest (Walker.primary limits nested) (takenAs .ofTree (primary limits inner rest)) := by
  have noBlanks : Follows text rest Walker.passBlanks (.ok ((), rest)) := by
    have passed : Follows text rest Walker.passBlanks (.ok ((), skipBlanks rest)) := follows_passBlanks
    rwa [plain] at passed
  refine noBlanks.bind_ok (follows_of_peek ?_)
  cases rest with
  | nil => exact .reject
  | cons c rest =>
    simp only [List.head?_cons, primary]
    split_ifs with isOpen isBrace isQuote digit isAt starts
    · subst isOpen
      refine follows_pass_head.bind_ok ((follows.expression rest).bind fun expression _ => ?_)
      exact (follows_expect ')').bind fun closed _ => .pure _
    · subst isBrace
      refine follows_pass_head.bind_ok ((follows_items follows.expression '\x7d').bind fun items _ => ?_)
      exact follows_node rfl rfl rfl
    · have opens : ∀ d ∈ (c :: rest).head?, d = '\'' ∨ d = '"' := by
        rintro d ⟨⟩
        simpa using isQuote
      exact (follows_quoted opens (List.cons_ne_nil c rest)).bind fun content _ => .pure _
    · have startsWithDigit_c : startsWithDigit (c :: rest) = true := digit
      exact (follows_numeral startsWithDigit_c).bind fun number _ => .pure _
    · subst isAt
      have reference : Follows text ('@' :: rest) (Walker.static limits nested)
          (takenAs .ofTree (static limits inner rest)) := follows_static follows
      cases read : static limits inner rest <;> rw [read] at reference <;> exact reference
    · refine follows_name.bind fun word _ => ?_
      rw [← Parsed.ofTree_named]
      exact .pure _
    · exact .reject

/-! ## What follows an operand -/

/-- What a reader has taken from a text, if anything, with the height handed on, and what it has left. -/
def takenIfAny (answer : Except Failure (Option (Reading Suffix rest))) :
    Except Failure (Option (Parsed Suffix) × List Char) :=
  answer.map fun found => found.elim (none, rest) fun reading => (some (.ofSuffix reading.value), reading.rest)

theorem follows_suffix (follows : nested.FollowsInner text inner) :
    Follows text rest (Walker.suffix nested) (takenIfAny (suffix? inner rest)) := by
  refine follows_if_pass (fun dot found => ?_) fun absent => ?_
  · simp only [suffix?, found]
    refine follows_passBlanks.bind_ok ?_
    refine follows_name.cases (fun failure read => by rw [read]; rfl) fun word read => ?_
    rw [read]
    refine follows_passBlanks.bind_ok (follows_if_pass (fun opened found => ?_) fun absent => ?_)
    · simp only [ok_bind, Reading.blanksAfter, Reading.upTo, Reading.blanksBefore, Reading.widen, found]
      refine (follows_items follows.expression ')').cases (fun failure read => by rw [read]; rfl)
        fun arguments read => ?_
      rw [read]
      exact .pure _
    · simp only [ok_bind, Reading.blanksAfter, Reading.upTo, Reading.blanksBefore, Reading.widen, absent]
      exact .pure _
  · refine follows_if_pass (fun opened found => ?_) fun absent' => ?_
    · simp only [suffix?, absent, found]
      refine (follows.expression opened.rest).cases (fun failure read => by rw [read]; rfl)
        fun position read => ?_
      rw [read]
      refine (follows_expect ']').cases (fun failure read => by simp only [ok_bind]; rw [read]; rfl)
        fun closed read => ?_
      simp only [ok_bind, read]
      exact .pure _
    · simp only [suffix?, absent, absent']
      exact .pure _

/-- A loop goes on with a node that is low enough. -/
theorem follows_again_node (tree : Expr) {height : Nat} {again : Parsed Expr → Walker (Parsed Expr)}
    {answer : Except Failure (Parsed Expr × List Char)} (exact_ : height = tree.height)
    (admitted : limits.admits tree = true → Follows text rest (again (.ofTree tree)) answer)
    (refused : ¬limits.admits tree = true → answer = .error ⟨.tooDeep, rest⟩) :
    Follows text rest (do again (← Walker.node limits tree height)) answer := by
  rw [Limits.admits, ← exact_] at admitted refused
  by_cases low : limits.allows height = true
  · simp only [Walker.node, if_pos low, ← Parsed.ofTree_eq exact_]
    exact (Follows.pure (Parsed.ofTree tree)).bind_ok (admitted low)
  · simp only [Walker.node, if_neg low, refused low]
    exact Follows.reject.bind_error

theorem follows_suffixes (follows : nested.FollowsInner text inner) {origin : List Char}
    (target : Reading Expr origin) :
    Follows text target.rest (Walker.suffixes limits nested (.ofTree target.value))
      (takenAs .ofTree (suffixes limits inner target)) := by
  refine Follows.loop (fun target : Reading Expr origin => Parsed.ofTree target.value)
    (fun target => target.rest) (fun target => takenAs Parsed.ofTree (suffixes limits inner target))
    (fun again target ih => ?_) target
  refine follows_passBlanks.bind_ok ?_
  have next : Follows text (skipBlanks target.rest) (Walker.suffix nested)
      (takenIfAny (suffix? inner (skipBlanks target.rest))) := follows_suffix follows
  rw [suffixes]
  cases read : suffix? inner (skipBlanks target.rest) with
  | error failure =>
    rw [read] at next
    exact next.bind_error
  | ok found =>
    rw [read] at next
    cases found with
    | none => exact next.bind_ok (.pure _)
    | some suffix =>
      have exact_ := height_attach target.value suffix.value
      refine next.bind_ok (follows_again_node (suffix.value.attach target.value) exact_ (fun low => ?_)
        fun high => ?_)
      · simp only [if_pos low]
        exact ih (target.upTo (suffix.withValue _).blanksBefore) suffix.blanksBefore.shorter
      · simp only [if_neg high]
        rfl

/-! ## Operators -/

theorem follows_signed (follows : nested.FollowsInner text inner) (plain : skipBlanks rest = rest) :
    Follows text rest (Walker.signed limits nested) (takenAs .ofTree (signed limits inner rest)) := by
  refine Follows.ahead.bind_ok ?_
  by_cases unequal : startsWith rest ['!', '='] = true
  · obtain ⟨tail, rfl⟩ := startsWith_iff_append.mp unequal
    rw [if_pos unequal]
    exact .reject
  · rw [if_neg unequal]
    refine follows_if_pass (fun sign found => ?_) fun noNot =>
      follows_if_pass (fun sign found => ?_) fun noMinus => ?_
    · have apart : startsWith rest ['!', '='] = startsWith sign.rest ['='] :=
        congrArg (startsWith · ['!', '=']) (eq_cons_of_mark? found)
      rw [apart] at unequal
      simp only [signed, found, if_neg unequal]
      exact (follows.operand sign.rest).bind fun reading _ => follows_node rfl rfl rfl
    · simp only [signed, noNot, found]
      refine follows_passBlanks.bind_ok (Follows.ahead.bind_ok ?_)
      cases digit : startsWithDigit (skipBlanks sign.rest) with
      | true =>
        refine (follows_numeral digit).bind fun number _ => ?_
        let literal := Expr.literal (.number number.value)
        exact follows_suffixes follows (sign.upTo (number.withValue literal).blanksBefore)
      | false => exact (follows.operand _).bind fun reading _ => follows_node rfl rfl rfl
    · simp only [signed, noNot, noMinus]
      exact (follows_primary follows plain).bind fun reading _ => follows_suffixes follows reading

theorem follows_operand (follows : nested.FollowsInner text inner) (rest : List Char) :
    Follows text rest (Walker.operand limits nested) (takenAs .ofTree (operand limits inner rest)) := by
  simp only [operand, takenAs_blanksBefore]
  exact follows_passBlanks.bind_ok (follows_signed follows (skipBlanks_skipBlanks rest))

theorem follows_operator (operators : List Operator) :
    Follows text rest (Walker.operator operators)
      (.ok ((operator? operators rest).elim (none, rest) fun sign => (some sign.value, sign.rest))) := by
  induction operators with
  | nil => exact .pure _
  | cons first others ih =>
    obtain ⟨c, signs, sign, -⟩ := head_sign_mem first
    have some_ : first.sign.toList ≠ [] := by rw [sign]; exact List.cons_ne_nil c signs
    rw [operator?, List.findSome?_cons]
    cases found : sign? first rest with
    | some reading =>
      obtain ⟨value, cut⟩ := sign?_eq_some_iff.mp found
      refine (follows_pass some_ cut).bind_ok ?_
      rw [if_pos rfl, ← value]
      exact .pure _
    | none =>
      refine (follows_pass_absent (sign?_eq_none_iff.mp found)).bind_ok ?_
      rw [if_neg Bool.false_ne_true]
      exact ih

theorem follows_chain {walker : Walker (Parsed Expr)} {reader : Reader Expr}
    (each : ∀ rest, Follows text rest walker (takenAs .ofTree (reader rest))) (operators : List Operator)
    {origin : List Char} (left : Reading Expr origin) :
    Follows text left.rest (Walker.chain limits operators walker (.ofTree left.value))
      (takenAs .ofTree (chain limits operators reader left)) := by
  refine Follows.loop (fun left : Reading Expr origin => Parsed.ofTree left.value) (fun left => left.rest)
    (fun left => takenAs Parsed.ofTree (chain limits operators reader left)) (fun again left ih => ?_) left
  refine follows_passBlanks.bind_ok ?_
  have next : Follows text (skipBlanks left.rest) (Walker.operator operators) _ := follows_operator operators
  rw [chain]
  cases found : operator? operators (skipBlanks left.rest) with
  | none =>
    rw [found] at next
    exact next.bind_ok (.pure _)
  | some sign =>
    rw [found] at next
    refine next.bind_ok ?_
    refine (each sign.rest).cases (fun failure read => by simp only [read]; rfl) fun right read => ?_
    simp only [read]
    refine follows_again_node (.binary sign.value left.value right.value) (Nat.add_comm 1 _)
      (fun low => ?_) fun high => ?_
    · simp only [if_pos low]
      let joined := Expr.binary sign.value left.value right.value
      exact ih (left.upTo (sign.upTo (right.withValue joined)).blanksBefore)
        (Nat.lt_trans right.shorter sign.blanksBefore.shorter)
    · simp only [if_neg high]
      rfl

theorem follows_group {walker : Walker (Parsed Expr)} {reader : Reader Expr}
    (each : ∀ rest, Follows text rest walker (takenAs .ofTree (reader rest))) (operators : List Operator)
    (rest : List Char) :
    Follows text rest (Walker.group limits operators walker)
      (takenAs .ofTree (group limits operators reader rest)) :=
  (each rest).bind fun left _ => follows_chain each operators left

theorem follows_operation (follows : nested.FollowsInner text inner) (rest : List Char) :
    Follows text rest (Walker.operation limits nested) (takenAs .ofTree (operation limits inner rest)) := by
  unfold Walker.operation operation
  induction precedence generalizing rest with
  | nil => exact follows_operand follows rest
  | cons operators groups ih => exact follows_group ih operators rest

theorem follows_expression (follows : nested.FollowsInner text inner) (rest : List Char) :
    Follows text rest (Walker.expression limits nested)
      (takenAs .ofTree (expression limits inner rest)) := by
  refine (follows_operation follows rest).bind fun condition _ => follows_passBlanks.bind_ok ?_
  refine follows_if_pass (fun question found => ?_) fun absent => ?_
  · simp only [Reading.blanksAfter, found]
    refine (follows.expression _).bind fun yes _ => (follows_expect ':').bind fun colon _ => ?_
    refine (follows.expression _).bind fun no _ => follows_node rfl rfl ?_
    simp only [Parsed.ofTree, Expr.height, Nat.max_assoc, Nat.add_comm 1]
  · simp only [Reading.blanksAfter, absent]
    exact .pure _

/-! ## Levels -/

theorem followsInner_within (limits : Limits) (depth : Nat) :
    (Walker.within limits depth).FollowsInner text (within limits depth) := by
  induction depth with
  | zero => exact ⟨fun _ => .reject, fun _ => .reject⟩
  | succ depth ih => exact ⟨follows_expression ih, follows_operand ih⟩

/-- A whole template is followed to its tree with the height of it, or to where it cannot be read. -/
theorem follows_wholeText (limits : Limits) (text : List Char) :
    Follows text text (Walker.whole limits (limits.levels text))
      ((wholeText limits text).map fun tree => (.ofTree tree, [])) := by
  have levels : Nested.FollowsInner text _ _ := followsInner_within limits (limits.levels text)
  refine (levels.expression text).cases (fun failure read => by rw [wholeText, read]; rfl)
    fun reading read => ?_
  rw [wholeText, read]
  refine follows_passBlanks.bind_ok (Follows.atEnd.bind_ok ?_)
  simp only [ok_bind]
  cases skipBlanks reading.rest with
  | nil => exact .pure _
  | cons c rest => exact .reject

/-! ## Whole templates -/

/-- The walk of a cursor over a template within limits. -/
def walkWithin (limits : Limits) (template : String) : Walk (Parsed Expr) :=
  Walker.whole limits (limits.levels template.toList) template.toList 0

variable {template : String} {tree : Expr} {fault : Fault} {height position : Nat} {reason : SyntaxFault}

theorem tracks_walkWithin (limits : Limits) (template : String) :
    Tracks template.toList 0 (walkWithin limits template)
      ((wholeText limits template.toList).map fun tree => (.ofTree tree, [])) :=
  (follows_wholeText limits template.toList).tracks (at_zero template.toList)

/-- The walk over a template that is read comes to its tree with its height, at the end. -/
theorem outcome_walkWithin_of_ok (read : parseWithin limits template = .ok tree) :
    (walkWithin limits template).outcome = .ok (⟨tree, tree.height⟩, template.utf8ByteSize) := by
  have tracked := tracks_walkWithin limits template
  unfold parseWithin at read
  cases whole : wholeText limits template.toList <;> rw [whole] at read tracked <;> cases read
  obtain ⟨last, outcome, place⟩ := tracked.outcome_ok
  rw [outcome, utf8ByteSize_toList, place.eq_sub]
  rfl

/-- The walk over a template that is not read is rejected where and for the reason that the fault says. -/
theorem outcome_walkWithin_of_error (refused : parseWithin limits template = .error fault) :
    ∃ position reason rest, fault = .unreadable position reason ∧ At template.toList position rest ∧
      (walkWithin limits template).outcome = .error (.rejected position reason) := by
  have tracked := tracks_walkWithin limits template
  unfold parseWithin at refused
  cases whole : wholeText limits template.toList <;> rw [whole] at refused tracked <;> cases refused
  obtain ⟨position, outcome, place⟩ := tracked.outcome_error
  exact ⟨position, _, _, Failure.fault_of_at place, place, outcome⟩

/-- What is handed on for a template is the tree that is read, with its height. -/
theorem outcome_walkWithin_eq_ok_iff :
    (∃ last, (walkWithin limits template).outcome = .ok (⟨tree, height⟩, last)) ↔
      parseWithin limits template = .ok tree ∧ height = tree.height := by
  constructor
  · rintro ⟨last, outcome⟩
    cases done : parseWithin limits template with
    | ok read =>
      cases outcome.symm.trans (outcome_walkWithin_of_ok done)
      exact ⟨rfl, rfl⟩
    | error fault =>
      obtain ⟨position, reason, rest, _, _, rejected⟩ := outcome_walkWithin_of_error done
      cases outcome.symm.trans rejected
  · rintro ⟨read, rfl⟩
    exact ⟨_, outcome_walkWithin_of_ok read⟩

/-- The walk is rejected with the fault with which the template is not read. -/
theorem outcome_walkWithin_eq_error_iff :
    (walkWithin limits template).outcome = .error (.rejected position reason) ↔
      parseWithin limits template = .error (.unreadable position reason) := by
  constructor
  · intro outcome
    cases done : parseWithin limits template with
    | ok read => cases outcome.symm.trans (outcome_walkWithin_of_ok done)
    | error fault =>
      obtain ⟨position, reason, rest, rfl, _, rejected⟩ := outcome_walkWithin_of_error done
      cases outcome.symm.trans rejected
      rfl
  · intro refused
    obtain ⟨position, reason, rest, same, _, rejected⟩ := outcome_walkWithin_of_error refused
    cases same
    exact rejected

end Scriptlet.Template
