import Scriptlet.Proofs.CommandLine.Exits
import Scriptlet.Proofs.Double.Rescaled
import Scriptlet.Proofs.Json.RoundTrip

/-!
# Values through the command line

A template that names a binding, or a component of the container, prints the value that its user has given,
and the printed text reads back as that value (`hands_through`). Strings, names, the order of members and all
integers come out as they went in.

Doubles need not. The arguments are read by scaling, which rounds more than once, so a double comes out as
the one that scaling makes of its shortest text (`Double.rescaled`). That is the same one as long as the
significand and the power of ten of the text are doubles themselves; `7e-23` is not
(`prints_another_double`).
-/

set_option autoImplicit false

namespace Scriptlet

open Text Template

namespace CommandLine

/-- The command succeeds and prints the data on lines of its own. -/
def Prints (exit : Exit) (data : Json) : Prop :=
  exit.code = 0 ∧ exit.output = data.pretty ++ "\n"

/-- What goes into the command under a name comes out of it, but for doubles. -/
structure HandsThrough (name : String) (data : Json) : Prop where
  /-- The name of a binding prints its value. -/
  binding : Prints (run [name, "--bindings", (Json.object [(name, data)]).compact])
    (data.mapDoubles Double.rescaled)
  /-- The name of a component prints its value. -/
  component : Prints (run ["container." ++ name, "--component", name ++ "=" ++ data.compact])
    (data.mapDoubles Double.rescaled)
  /-- A reader that rounds once reads what is printed as the value that is printed. -/
  readBack : ∀ depth, data.nesting ≤ depth →
    Json.parse ⟨depth, Numeral.double?⟩ ((data.mapDoubles Double.rescaled).pretty ++ "\n") =
      .ok (data.mapDoubles Double.rescaled)
  /-- It is what went in unless one of its doubles is not read back by scaling. -/
  unchanged : (∀ d ∈ data.doubles, d.rescaled = d) → data.mapDoubles Double.rescaled = data

variable {template name text : String} {data : Json}

/-! ## Arguments -/

theorem ofChars_plain {text : List Char} (plain : ∀ c ∈ text.head?, c ≠ '-') :
    Argument.ofChars text = .plain := by
  unfold Argument.ofChars
  split
  · rfl
  · exact absurd rfl (plain '-' rfl)
  · exact absurd rfl (plain '-' rfl)
  · exact absurd rfl (plain '-' rfl)
  · rfl

theorem ofName?_name (option : ValueOption) : ValueOption.ofName? option.name.toList = some option := by
  cases option <;> rfl

/-- A template, the flag of an option and its value ask for the request of just these. -/
theorem ofArguments_option {flag : String} {option : ValueOption}
    (plain : Argument.ofChars template.toList = .plain)
    (long : Argument.ofChars flag.toList = .long option.name.toList none)
    (plainValue : Argument.ofChars text.toList = .plain) :
    Command.ofArguments [template, flag, text] =
      (Request.setOption ⟨some template, none, none, [], false⟩ option text >>= Request.finish) := by
  simp only [Command.ofArguments, read, plain, long, ofName?_name, plainValue]
  rfl

theorem run_bindings (plain : Argument.ofChars template.toList = .plain)
    (plainText : Argument.ofChars text.toList = .plain) :
    run [template, "--bindings", text] = Request.run ⟨some template, none, some text, [], false⟩ := by
  have long : Argument.ofChars "--bindings".toList = .long ValueOption.bindings.name.toList none := rfl
  rw [run, ofArguments_option plain long plainText]
  rfl

theorem run_component (plain : Argument.ofChars template.toList = .plain)
    (plainText : Argument.ofChars text.toList = .plain) :
    run [template, "--component", text] =
      Request.run ⟨some template, none, none, [text], false⟩ := by
  have long : Argument.ofChars "--component".toList = .long ValueOption.component.name.toList none :=
    rfl
  rw [run, ofArguments_option plain long plainText]
  rfl

/-! ## Requests that come to data -/

theorem printed_value (data : Json) : printed (.value (.json data)) = data.pretty := by
  rw [printed_eq]
  cases data <;> rfl

/-- A request in form whose template comes to data prints them. -/
theorem prints_of_answer {request : Request} {members : Table Json}
    {additions : List (String × Value)} (spells : SpellsObject request.bindingsText members)
    (give : List.Forall₂ Specifies request.components additions)
    (known : Text.asciiLower request.engineName = "ognl")
    (answered : ((evaluator additions).outcome request.template (some (bindingsOf members))).answer =
      .ok (.value (.json data))) : Prints request.run data := by
  obtain ⟨outcome, same, code, output⟩ := run_of_additions spells give known
  obtain rfl := Except.ok.inj (same.symm.trans answered)
  exact ⟨code, by rw [output, printed_value]⟩

/-- The name of a binding comes to its value. -/
theorem answer_var {container : Container} {statics : Statics} {hosts : Hosts} {given : Bindings}
    {value : Value} (valid : isName name = true) (free : Expr.isReserved name = false)
    (other : name ≠ Container.bindingName) (found : given.find? name = some value) :
    (Evaluator.outcome ⟨.ognl statics, container, hosts⟩ (some name) (some given)).answer =
      .ok (.value value) := by
  have parsed : Template.parse name = .ok (.var name) :=
    parse_of_text rfl (by simp [Expr.isSpellable, valid, free]) (by simp [Expr.height])
  have bound : (container.context given).find? name = some value := by
    rw [Container.context, Table.find?_insert, if_neg other, found]
  rw [Evaluator.outcome_of_parse parsed, Expr.eval, Scope.lookup, Container.scope, bound]
  rfl

/-- The command line makes of the text of a double the one that scaling makes of it. -/
theorem makes_rescaled : jsonRules.Makes Double.rescaled :=
  Double.scaled?_numeral

variable (valid : isName name = true) (sorted : data.Sorted) (shallow : data.nesting ≤ 126)

section

include valid

theorem plain_of_isName : ∀ c ∈ name.toList.head?, c ≠ '-' := by
  obtain ⟨c, rest, shape, start, -⟩ := isName_iff.mp valid
  rw [shape]
  rintro d ⟨⟩ rfl
  exact absurd start (by decide)

theorem no_equals_of_isName : '=' ∉ name.toList := by
  obtain ⟨c, rest, shape, start, parts⟩ := isName_iff.mp valid
  rw [shape, List.mem_cons]
  rintro (rfl | member)
  · exact absurd start (by decide)
  · exact absurd (parts '=' member) (by decide)

include sorted shallow

theorem prints_binding (free : Expr.isReserved name = false) (other : name ≠ Container.bindingName) :
    Prints (run [name, "--bindings", (Json.object [(name, data)]).compact])
      (data.mapDoubles Double.rescaled) := by
  have spells : SpellsObject (Json.object [(name, data)]).compact
      [(name, data.mapDoubles Double.rescaled)] := by
    refine Json.parse_compact makes_rescaled ⟨List.pairwise_singleton _ _, sorted, trivial⟩ ?_
    simp only [Json.nesting, Json.nestingOfMembers, jsonRules]
    omega
  have plainText : Argument.ofChars (Json.object [(name, data)]).compact.toList = .plain := by
    refine ofChars_plain ?_
    rw [Json.compact, String.toList_ofList, Json.compactChars]
    rintro c ⟨⟩
    decide
  rw [run_bindings (ofChars_plain (plain_of_isName valid)) plainText]
  refine prints_of_answer spells .nil asciiLower_ognl ?_
  refine answer_var valid free other ?_
  exact (Table.find?_cons _ _ _ _).trans (if_pos rfl)

theorem prints_component :
    Prints (run ["container." ++ name, "--component", name ++ "=" ++ data.compact])
      (data.mapDoubles Double.rescaled) := by
  have spells : SpellsObject "\x7b\x7d" [] := by
    unfold SpellsObject
    cbv
  have read : componentValue data.compact.toList = .json (data.mapDoubles Double.rescaled) := by
    have parsed := Json.parse_compact makes_rescaled sorted (shallow.trans (by decide))
    rw [componentValue, String.ofList_toList, parsed]
  have gives : Specifies (name ++ "=" ++ data.compact)
      (name, .json (data.mapDoubles Double.rescaled)) := by
    refine ⟨data.compact.toList, ?_, no_equals_of_isName valid, read.symm⟩
    simp
  have plainTemplate : Argument.ofChars ("container." ++ name).toList = .plain := by
    refine ofChars_plain ?_
    rw [String.toList_append]
    rintro c ⟨⟩
    decide
  have plainText : Argument.ofChars (name ++ "=" ++ data.compact).toList = .plain := by
    refine ofChars_plain fun c head => plain_of_isName valid c ?_
    obtain ⟨first, rest, shape, -, -⟩ := isName_iff.mp valid
    rw [String.toList_append, String.toList_append, shape] at head
    rw [shape]
    exact head
  rw [run_component plainTemplate plainText]
  refine prints_of_answer spells (.cons gives .nil) asciiLower_ognl ?_
  refine (Container.answer_of_isReading (Container.isReading_property valid) _ _ _ _).trans ?_
  have last : Container.AddedLast [(name, .json (data.mapDoubles Double.rescaled))] name
      (.json (data.mapDoubles Double.rescaled)) := ⟨[], [], rfl, by simp⟩
  rw [Container.property_of_component? (Container.component?_of_addedLast last)]

end

/-! ## Values that come out -/

/-- Every value goes through the command line but for its doubles, and each of these comes out with its sign
as the one that scaling makes of its text: itself, if its significand and its power of ten are doubles. -/
theorem hands_through :
    (∀ name data, isName name = true → name ∉ ["true", "false", "null", "container"] →
      data.Sorted → data.nesting ≤ 126 → HandsThrough name data) ∧
    ∀ d : Double, d.numeral.scaled? d.negative = some d.rescaled ∧
      d.rescaled.negative = d.negative ∧
      (d.numeral.digits ≤ 2 ^ 53 → d.numeral.scale.natAbs ≤ 22 → d.rescaled = d) := by
  refine ⟨fun name data valid other sorted shallow => ?_, fun d => ?_⟩
  · simp only [List.mem_cons, List.not_mem_nil, or_false, not_or] at other
    have free : Expr.isReserved name = false := by
      simp [Expr.isReserved, other.1, other.2.1, other.2.2.1]
    refine ⟨prints_binding valid sorted shallow free other.2.2.2,
      prints_component valid sorted shallow, fun depth deep => ?_, Json.mapDoubles_eq_self⟩
    have exact_ : Json.Rules.Makes ⟨depth, Numeral.double?⟩ id := fun d => d.writtenAs_numeral.double?
    have blank : Json.Blank "\n".toList := by
      intro c member
      rw [List.mem_singleton.mp member]
      rfl
    have read := Json.parse_pretty exact_ (Json.sorted_mapDoubles Double.rescaled sorted)
      ((Json.nesting_mapDoubles _ data).trans_le deep) blank
    rwa [Json.mapDoubles_id] at read
  · exact ⟨d.scaled?_numeral, d.negative_rescaled, d.rescaled_of_small⟩

/-- An integer past the signed ones, minus zero and an escape go through, in one another. -/
theorem hands_through_nested : HandsThrough "a" (.object
    [("\n", .array [.number (.wide 18446744073709551615 (by decide)), .number (.double (.zero true))]),
      ("b", .null)]) := by
  refine hands_through.1 "a" _ (by decide) (by decide) ?_ (by decide)
  simp only [Json.Sorted, Json.SortedItems, Json.SortedMembers, Table.Increasing, Table.names]
  decide

/-! ## A double that comes out as another one -/

/-- The double nearest to `7e-23`. -/
@[irreducible]
def deep : Double :=
  ⟨false, Double.nearest (7 * Double.one) (10 ^ 23), Double.gap_dvd_nearest _ _, by decide +kernel⟩

theorem negative_deep : deep.negative = false := by
  delta deep
  rfl

theorem units_deep : deep.units = Double.nearest (7 * Double.one) (10 ^ 23) := by
  delta deep
  rfl

theorem text_deep : deep.text = "7e-23".toList := by
  have written : deep.text = Decimal.write Double.layout ⟨7, -23⟩ := by
    refine Double.text_of_evaluation negative_deep ?_ (show 0 < 1051 by decide) ?_ ?_ <;>
      rw [units_deep] <;> decide +kernel
  rw [written]
  simp only [Decimal.write, Decimal.leadingExponent, ← length_toDigits]
  decide

theorem numeral_deep : deep.numeral = ⟨['7'], [], some (true, ['2', '3'])⟩ := by
  have magnitude := text_deep
  rw [Double.text, negative_deep, if_neg Bool.false_ne_true] at magnitude
  rw [Double.numeral, magnitude]
  rfl

theorem units_rescaled_deep : deep.rescaled.units =
    Double.nearest (Double.nearest (7 * Double.one) 1 * Double.one)
      (Double.nearest (10 ^ 23 * Double.one) 1) := by
  have digits : deep.numeral.digits = 7 := by rw [numeral_deep]; rfl
  have scale : deep.numeral.scale = -23 := by rw [numeral_deep]; rfl
  have power : (-deep.numeral.scale).toNat = 23 := by rw [scale]; rfl
  rw [← digits, ← power]
  exact Double.units_rescaled_of_neg (by rw [scale]; decide) (by rw [power]; decide)

theorem text_rescaled_deep : deep.rescaled.text = "7.000000000000001e-23".toList := by
  have written : deep.rescaled.text = Decimal.write Double.layout ⟨7000000000000001, -38⟩ := by
    refine Double.text_of_evaluation (deep.negative_rescaled.trans negative_deep) ?_
      (show 0 < 1051 by decide) ?_ ?_ <;>
      rw [units_rescaled_deep] <;> decide +kernel
  rw [written]
  simp only [Decimal.write, Decimal.leadingExponent, ← length_toDigits]
  decide +kernel

/-- The binding `7e-23`, which is the text of a double, comes out as the text of another one. -/
theorem prints_another_double :
    (Json.object [("a", .number (.double deep))]).compact = "\x7b\"a\":7e-23\x7d" ∧
    (run ["a", "--bindings", "\x7b\"a\":7e-23\x7d"]).output = "7.000000000000001e-23\n" ∧
    ¬Prints (run ["a", "--bindings", "\x7b\"a\":7e-23\x7d"]) (.number (.double deep)) := by
  have pretty : ∀ d : Double, (Json.number (.double d)).pretty = String.ofList d.text := fun d => by
    rw [Json.pretty, Json.prettyChars, Number.text]
  have compact : (Json.object [("a", .number (.double deep))]).compact = "\x7b\"a\":7e-23\x7d" := by
    simp only [Json.compact, Json.compactChars, Json.compactMembers, Number.text, text_deep]
    rfl
  obtain ⟨-, output⟩ := prints_binding (show isName "a" = true by decide)
    (show (Json.number (.double deep)).Sorted from trivial) (by decide) (by decide) (by decide)
  rw [compact, Json.mapDoubles, Number.mapDouble, pretty, text_rescaled_deep] at output
  refine ⟨compact, output, ?_⟩
  rintro ⟨-, same⟩
  rw [output, pretty, text_deep] at same
  exact absurd same (by decide)

end CommandLine

end Scriptlet
