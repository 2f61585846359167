import Scriptlet.Proofs.Expr.Nodes
import Scriptlet.Proofs.Template.Listing

/-!
# Numerals are numbers

The numerals of a template that is read are the number literals of its tree, one by one and in their order
(`numerals_eq`). What leaves no trace in a tree are marks and names, and no other leaf than a number has a
numeral in the listing.
-/

set_option autoImplicit false

namespace Scriptlet

namespace Expr

/-- The numeral that a number literal is, without its sign. -/
def numeral? : Expr → Option Template.Token
  | literal (.number (.int i)) => some (.integer i.toInt.natAbs)
  | literal (.number (.double d)) => some (.double d.abs)
  | _ => none

end Expr

namespace Template

/-- Whether the token is a numeral. -/
def Token.isNumeral : Token → Bool
  | integer _ | double _ => true
  | _ => false

/-- The numerals among some tokens. -/
def numeralsOf (all : List Token) : List Token :=
  all.filter Token.isNumeral

variable {first second : List Token}

@[simp] theorem numeralsOf_append : numeralsOf (first ++ second) = numeralsOf first ++ numeralsOf second :=
  List.filter_append _ _

@[simp] theorem numeralsOf_mark (sign : List Char) (rest : List Token) :
    numeralsOf (.mark sign :: rest) = numeralsOf rest :=
  rfl

@[simp] theorem numeralsOf_name (word : String) (rest : List Token) :
    numeralsOf (.name word :: rest) = numeralsOf rest :=
  rfl

@[simp] theorem numeralsOf_nil : numeralsOf [] = [] :=
  rfl

/-! ## What leaves no trace -/

theorem numeralsOf_withoutZeroSigns (due : Bool) (tokens : List Token) :
    numeralsOf (withoutZeroSigns due tokens) = numeralsOf tokens := by
  fun_induction withoutZeroSigns due tokens with
  | case1 => rfl
  | case2 due token rest dropped ih =>
    rw [ih, dropped.2.1]
    rfl
  | case3 due token rest _ ih =>
    simp only [numeralsOf, List.filter_cons] at ih ⊢
    rw [ih]

theorem numeralsOf_withoutPackages (inPath : Bool) (tokens : List Token) :
    numeralsOf (withoutPackages inPath tokens) = numeralsOf tokens := by
  fun_induction withoutPackages inPath tokens with
  | case1 _ rest ih => exact ih
  | case2 inPath rest ih => exact ih
  | case3 inPath token rest _ _ ih =>
    simp only [numeralsOf, List.filter_cons] at ih ⊢
    rw [ih]
  | case4 => rfl

theorem numeralsOf_withoutBrackets (tokens : List Token) :
    numeralsOf (withoutBrackets tokens) = numeralsOf tokens := by
  rw [numeralsOf, withoutBrackets, List.filter_filter]
  refine List.filter_congr fun token _ => ?_
  cases token <;> simp [Token.isNumeral]

/-- What an expression is made of has the numerals of the template. -/
theorem numeralsOf_significant (due : Bool) (tokens : List Token) :
    numeralsOf (significant due tokens) = numeralsOf tokens := by
  rw [significant, numeralsOf_withoutBrackets, numeralsOf_withoutPackages,
    numeralsOf_withoutZeroSigns]

/-! ## Listings -/

theorem numeralsOf_separatedTokens (lists : List (List Token)) :
    numeralsOf (separatedTokens lists) = lists.flatMap numeralsOf := by
  induction lists with
  | nil => rfl
  | cons head rest ih =>
    cases rest with
    | nil => simp [separatedTokens]
    | cons next rest =>
      rw [separatedTokens_cons_cons, numeralsOf_append, ih]
      simp

theorem numeralsOf_literalTokens (value : Json) :
    numeralsOf (literalTokens value) = [Expr.literal value].filterMap Expr.numeral? := by
  cases value with
  | bool value => cases value <;> rfl
  | number value =>
    cases value with
    | int i => rw [literalTokens, numeralsOf_append]; split <;> rfl
    | wide n past => rfl
    | double d => rw [literalTokens, numeralsOf_append]; split <;> rfl
  | _ => rfl

/-- The listings of some trees have the numerals of their literals if each of them has. -/
theorem numeralsOf_listings {trees : List Expr}
    (each : ∀ tree ∈ trees, numeralsOf tree.listing = tree.nodes.filterMap Expr.numeral?) :
    numeralsOf (separatedTokens (Expr.listings trees)) =
      (Expr.nodesEach trees).filterMap Expr.numeral? := by
  rw [numeralsOf_separatedTokens]
  induction trees with
  | nil => rfl
  | cons first rest ih =>
    rw [Expr.listings, List.flatMap_cons, each first List.mem_cons_self,
      ih fun tree member => each tree (List.mem_cons_of_mem first member), Expr.nodesEach,
      List.filterMap_append]

/-- The numerals of a listing are those of the literals in the tree. -/
theorem numeralsOf_listing (tree : Expr) :
    numeralsOf tree.listing = tree.nodes.filterMap Expr.numeral? := by
  -- Nodes other than literals are no numerals, and their own tokens are marks and names.
  induction tree with
  | literal value => exact numeralsOf_literalTokens value
  | var name => rfl
  | list items each =>
    simp [Expr.listing, Expr.nodes, Expr.numeral?, numeralsOf_listings each]
  | static owner name arguments each =>
    simp [Expr.listing, Expr.nodes, Expr.numeral?, numeralsOf_listings each]
  | property target name ih => simp [Expr.listing, Expr.nodes, Expr.numeral?, ih]
  | method target name arguments ih each =>
    simp [Expr.listing, Expr.nodes, Expr.numeral?, ih, numeralsOf_listings each]
  | index target position ih ihPosition =>
    simp [Expr.listing, Expr.nodes, Expr.numeral?, ih, ihPosition]
  | neg operand ih => simp [Expr.listing, Expr.nodes, Expr.numeral?, ih]
  | not operand ih => simp [Expr.listing, Expr.nodes, Expr.numeral?, ih]
  | binary operator left right ihLeft ihRight =>
    simp [Expr.listing, Expr.nodes, Expr.numeral?, ihLeft, ihRight]
  | ternary condition yes no ihCondition ihYes ihNo =>
    simp [Expr.listing, Expr.nodes, Expr.numeral?, ihCondition, ihYes, ihNo]

/-- Every numeral of a template that is read is a number literal of its tree, in its place among them. -/
theorem numerals_eq {template : String} {tree : Expr} (read : parse template = .ok tree) :
    ∃ all, tokens template.toList = some all ∧
      numeralsOf all = tree.nodes.filterMap Expr.numeral? := by
  obtain ⟨all, cut, left⟩ := exists_tokens read
  refine ⟨all, cut, ?_⟩
  rw [← numeralsOf_significant true, left, numeralsOf_listing]

end Template

end Scriptlet
