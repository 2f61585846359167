import Scriptlet.Proofs.Expr.Equality
import Scriptlet.Proofs.Template.Depth
import Scriptlet.Proofs.Template.Respaced

/-!
# Blanks between lexemes

Blanks separate lexemes; how many there are, and which, does not matter. The parser skips blanks before
some lexemes and after others, and in the name of a class and before the name of its member not at all.
So this is a matter of every rule of the grammar: a rule that applies to one of two texts that are spaced
alike applies to the other and leaves texts that are spaced alike. A derivation is then repeated rule by
rule (`Derives.respaced`), with the same tree and the same measures, which is why the limits cut off both
templates or none (`parse_respaced`).
-/

set_option autoImplicit false

namespace Scriptlet.Template

open Text

variable {text other rest : List Char}

/-! ## Derivations -/

/-- The mark that closes the phrase, if there is one, is plain. -/
def Phrase.PlainClose : Phrase → Prop
  | items close _ | someItems close _ => Plain close
  | _ => True

/-- A derivation from one text can be repeated on every text that is spaced alike. -/
theorem Derives.respaced {phrase : Phrase} (derived : Derives phrase text rest)
    (close : phrase.PlainClose) (alike : Respaced text other) :
    ∃ rest', Derives phrase other rest' ∧ Respaced rest rest' := by
  induction derived generalizing other with
  | unconditional _ ends ih =>
    obtain ⟨_, whole, behind⟩ := ih trivial alike
    have ends' := behind.skipBlanks.head_ne (by decide) ends
    exact ⟨_, .unconditional whole ends', behind.skipBlanks⟩
  | choice _ question _ colon _ decides first second =>
    obtain ⟨_, decides', behind⟩ := decides trivial alike
    obtain ⟨_, question', next⟩ := behind.mark question (by decide)
    obtain ⟨_, first', last⟩ := first trivial next
    obtain ⟨_, colon', after⟩ := last.mark colon (by decide)
    obtain ⟨_, second', later⟩ := second trivial after
    exact ⟨_, .choice decides' question' first' colon' second', later⟩
  | leftmost low high _ _ first more =>
    obtain ⟨_, first', behind⟩ := first trivial alike
    obtain ⟨_, more', later⟩ := more trivial behind.skipBlanks
    exact ⟨_, .leftmost low high first' more', later⟩
  | bare _ ih =>
    obtain ⟨_, inside, later⟩ := ih trivial alike.skipBlanks
    exact ⟨_, .bare inside, later⟩
  | alone ends => exact ⟨_, .alone (alike.operator_none ends), alike⟩
  | join found _ _ second more =>
    obtain ⟨_, found', next⟩ := alike.operator found
    obtain ⟨_, second', behind⟩ := second trivial next
    obtain ⟨_, more', later⟩ := more trivial behind.skipBlanks
    exact ⟨_, .join found' second' more', later⟩
  | denied plain _ ih =>
    obtain ⟨_, rfl, next⟩ := alike.uncons (by decide)
    obtain ⟨_, inside, later⟩ := ih trivial next
    exact ⟨_, .denied (next.head_ne (by decide) plain) inside, later⟩
  | negated plain _ ih =>
    obtain ⟨_, rfl, next⟩ := alike.uncons (by decide)
    obtain ⟨_, inside, later⟩ := ih trivial next.skipBlanks
    rw [← next.skipBlanks.startsWithDigit_eq] at plain
    exact ⟨_, .negated plain inside, later⟩
  | negative digit read _ more =>
    obtain ⟨_, rfl, next⟩ := alike.uncons (by decide)
    obtain ⟨_, read', behind⟩ := next.skipBlanks.reads_numeral read
    obtain ⟨_, more', later⟩ := more trivial behind.skipBlanks
    rw [← next.skipBlanks.startsWithDigit_eq] at digit
    exact ⟨_, .negative digit read' more', later⟩
  | unsigned plain _ _ first more =>
    obtain ⟨_, first', behind⟩ := first trivial alike
    obtain ⟨_, more', later⟩ := more trivial behind.skipBlanks
    exact ⟨_, .unsigned (alike.head_ne_both (by decide) (by decide) plain) first' more', later⟩
  | complete ends => exact ⟨_, .complete (alike.head_ne_both (by decide) (by decide) ends), alike⟩
  | property read plain _ more =>
    obtain ⟨_, rfl, next⟩ := alike.uncons (by decide)
    obtain ⟨_, read', behind⟩ := next.skipBlanks.reads_name read
    have plain' := behind.skipBlanks.head_ne (by decide) plain
    obtain ⟨_, more', later⟩ := more trivial behind.skipBlanks
    exact ⟨_, .property read' plain' more', later⟩
  | method read opens _ _ each more =>
    obtain ⟨_, rfl, next⟩ := alike.uncons (by decide)
    obtain ⟨_, read', behind⟩ := next.skipBlanks.reads_name read
    obtain ⟨_, opens', first⟩ := behind.mark opens (by decide)
    have bracket : Plain ')' := by decide
    obtain ⟨_, each', after⟩ := each bracket first
    obtain ⟨_, more', later⟩ := more trivial after.skipBlanks
    exact ⟨_, .method read' opens' each' more', later⟩
  | index _ closed _ inside more =>
    obtain ⟨_, rfl, next⟩ := alike.uncons (by decide)
    obtain ⟨_, inside', behind⟩ := inside trivial next
    obtain ⟨_, closed', after⟩ := behind.mark closed (by decide)
    obtain ⟨_, more', later⟩ := more trivial after.skipBlanks
    exact ⟨_, .index inside' closed' more', later⟩
  | brackets _ closed ih =>
    obtain ⟨_, rfl, next⟩ := alike.uncons (by decide)
    obtain ⟨_, inside, behind⟩ := ih trivial next
    obtain ⟨_, closed', later⟩ := behind.mark closed (by decide)
    exact ⟨_, .brackets inside closed', later⟩
  | listed _ each =>
    obtain ⟨_, rfl, next⟩ := alike.uncons (by decide)
    have brace : Plain '\x7d' := by decide
    obtain ⟨_, each', later⟩ := each brace next
    exact ⟨_, .listed each', later⟩
  | quotedText opens read =>
    obtain ⟨_, _, rfl, read', later⟩ := alike.reads_quoted opens read
    exact ⟨_, .quotedText opens read', later⟩
  | unsignedNumeral digit read =>
    obtain ⟨_, read', later⟩ := alike.reads_numeral read
    rw [← alike.startsWithDigit_eq] at digit
    exact ⟨_, .unsignedNumeral digit read', later⟩
  | member path read plain =>
    obtain ⟨_, rfl, first⟩ := alike.uncons (by decide)
    obtain ⟨_, path', mark⟩ := first.owner path
    obtain ⟨_, rfl, next⟩ := mark.uncons (by decide)
    obtain ⟨_, read', behind⟩ := next.reads_name read
    have plain' := behind.skipBlanks.head_ne (by decide) plain
    exact ⟨_, .member path' read' plain', behind.skipBlanks⟩
  | memberCall path read opens _ each =>
    obtain ⟨_, rfl, first⟩ := alike.uncons (by decide)
    obtain ⟨_, path', mark⟩ := first.owner path
    obtain ⟨_, rfl, next⟩ := mark.uncons (by decide)
    obtain ⟨_, read', behind⟩ := next.reads_name read
    obtain ⟨_, opens', after⟩ := behind.mark opens (by decide)
    have bracket : Plain ')' := by decide
    obtain ⟨_, each', later⟩ := each bracket after
    exact ⟨_, .memberCall path' read' opens' each', later⟩
  | nameAlone read =>
    obtain ⟨_, read', later⟩ := alike.reads_name read
    exact ⟨_, .nameAlone read', later⟩
  | noItems closed =>
    obtain ⟨_, closed', later⟩ := alike.mark closed close
    exact ⟨_, .noItems closed', later⟩
  | severalItems opens _ ih =>
    have opens' := alike.skipBlanks.head_ne close opens
    obtain ⟨_, each, later⟩ := ih close alike.skipBlanks
    exact ⟨_, .severalItems opens' each, later⟩
  | lastItem _ closed last ih =>
    obtain ⟨_, inside, behind⟩ := ih trivial alike
    obtain ⟨_, closed', later⟩ := behind.mark closed close
    exact ⟨_, .lastItem inside closed' last, later⟩
  | nextItem _ comma _ inside others =>
    obtain ⟨_, inside', behind⟩ := inside trivial alike
    obtain ⟨_, comma', next⟩ := behind.mark comma (by decide)
    obtain ⟨_, others', later⟩ := others close next
    exact ⟨_, .nextItem inside' comma' others', later⟩

/-! ## Templates -/

/-- The templates are the same up to blanks outside quoted texts: blanks in one stand where there are
blanks in the other, except at either end, where there may be blanks in one only. -/
def SpacedAlike (template other : String) : Prop :=
  Respaced (skipBlanks template.toList) (skipBlanks other.toList)

/-- Blanks at either end of a template make one that is spaced alike. -/
theorem spacedAlike_padded {before after : List Char} (blankBefore : ∀ c ∈ before, isBlank c = true)
    (blankAfter : ∀ c ∈ after, isBlank c = true) (template : String) :
    SpacedAlike template (String.ofList (before ++ template.toList ++ after)) := by
  rw [SpacedAlike, String.toList_ofList, List.append_assoc, skipBlanks_blank_append blankBefore]
  exact (respaced_append blankAfter template.toList).skipBlanks

theorem Denotes.respaced {template other : String} {item : Measured} (denotes : Denotes template item)
    (alike : SpacedAlike template other) : Denotes other item := by
  obtain ⟨inside, rest, opened, derived, ends⟩ := denotes
  have skipped : Derives (.expression inside) (skipBlanks template.toList) rest :=
    derived.skip _ (skipBlanks_skipBlanks _)
  obtain ⟨rest', derived', later⟩ := skipped.respaced trivial alike
  refine ⟨inside, rest', opened, derived'.skip _ (skipBlanks_skipBlanks _).symm, ?_⟩
  have left := later.skipBlanks
  rw [ends] at left
  exact left.eq_nil (stops_skipBlanks rest')

theorem parse_of_spacedAlike {template other : String} {tree : Expr}
    (alike : SpacedAlike template other) (done : parse template = .ok tree) : parse other = .ok tree := by
  obtain ⟨item, denotes, fits⟩ := parse_eq_ok_iff.mp done
  exact parse_eq_ok_iff.mpr ⟨item, denotes.respaced alike, fits⟩

/-- White space between lexemes is free: of two templates that are spaced alike, both are read as the
same tree or neither is read. -/
theorem parse_respaced {template other : String} (alike : SpacedAlike template other) (tree : Expr) :
    parse template = .ok tree ↔ parse other = .ok tree :=
  ⟨parse_of_spacedAlike alike, parse_of_spacedAlike alike.symm⟩

/-- Blanks around a sign and at either end are free, those between quotes are not touched. -/
theorem parse_respaced_sum :
    SpacedAlike "a  + 'x  y'" "\ta +\n'x  y' " ∧
      parse "a  + 'x  y'" = .ok (.binary (.arith .add) (.var "a") (.literal (.string "x  y"))) ∧
      parse "\ta +\n'x  y' " = .ok (.binary (.arith .add) (.var "a") (.literal (.string "x  y"))) := by
  have closes : ReadsQuoted '\'' ['x', ' ', ' ', 'y', '\''] ['x', ' ', ' ', 'y'] [] := ⟨by decide, rfl⟩
  have space : Gap [' '] := by decide
  have literal : Respaced ['\'', 'x', ' ', ' ', 'y', '\''] ['\'', 'x', ' ', ' ', 'y', '\'', ' '] :=
    @Respaced.quoted _ _ _ [] [' '] (Or.inl rfl) closes (.ends (List.forall_mem_nil _) space.2)
  have sign : Respaced ('+' :: ([' '] ++ _)) ('+' :: (['\n'] ++ _)) :=
    .plain (by decide) (.gap space (by decide) literal)
  have gap : Respaced ([' ', ' '] ++ _) ([' '] ++ _) := .gap (by decide) space sign
  have alike : SpacedAlike "a  + 'x  y'" "\ta +\n'x  y' " := .plain (by decide) gap
  have read : parse "a  + 'x  y'" =
      .ok (.binary (.arith .add) (.var "a") (.literal (.string "x  y"))) := by decide +kernel
  exact ⟨alike, read, (parse_respaced alike _).mp read⟩

end Scriptlet.Template
