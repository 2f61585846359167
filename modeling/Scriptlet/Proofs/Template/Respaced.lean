import Mathlib.Data.List.TakeWhile
import Scriptlet.Proofs.Template.Locality
import Scriptlet.Proofs.Text.Search

/-!
# Texts that are spaced alike

Two texts are spaced alike (`Respaced`) if they differ in blanks outside quoted texts only, and where
one has blanks so has the other; at its end either may have none. Names, numerals, marks and signs are
made of plain characters, which are neither blanks nor quotes. A plain character at the start of one
text is at the start of the other (`Respaced.uncons`), and a quoted text is there as a whole
(`Respaced.readsQuoted`). So every lexeme is read from both texts or from neither, and leaves texts that
are spaced alike again; and what the parser looks ahead for, a mark, a digit or a sign, comes next in
both or in neither.
-/

set_option autoImplicit false

namespace Scriptlet.Template

open Text

variable {c : Char} {text other rest : List Char}

/-! ## Texts that are spaced alike -/

/-- A character that is neither a blank nor a quote. -/
def Plain (c : Char) : Prop :=
  isBlank c = false ∧ c ≠ '\'' ∧ c ≠ '"'

instance (c : Char) : Decidable (Plain c) :=
  inferInstanceAs (Decidable (_ ∧ _ ∧ _))

/-- One or more blanks, and nothing else. -/
def Gap (run : List Char) : Prop :=
  run ≠ [] ∧ ∀ c ∈ run, isBlank c = true

instance (run : List Char) : Decidable (Gap run) :=
  decidable_of_iff (run ≠ [] ∧ run.all isBlank = true) (and_congr_right fun _ => List.all_eq_true)

/-- The texts are the same up to blanks that are outside quoted texts and not at the start. Quotes are
matched from the left, each with the next one of its kind that is not escaped; a quote without such a
one keeps both texts from being read, whatever comes after it. -/
inductive Respaced : List Char → List Char → Prop where
  /-- At the end there may be blanks in either. -/
  | ends {run run' : List Char} (blank : ∀ c ∈ run, isBlank c = true)
      (blank' : ∀ c ∈ run', isBlank c = true) : Respaced run run'
  /-- Blanks in one stand where there are blanks in the other. -/
  | gap {run run' text text' : List Char} (blank : Gap run) (blank' : Gap run')
      (later : Respaced text text') : Respaced (run ++ text) (run' ++ text')
  | plain {c : Char} {text text' : List Char} (plain : Plain c) (later : Respaced text text') :
      Respaced (c :: text) (c :: text')
  /-- A quoted text is the same in both, with its blanks. -/
  | quoted {quote : Char} {inside value text text' : List Char} (opens : quote = '\'' ∨ quote = '"')
      (closes : ReadsQuoted quote inside value []) (later : Respaced text text') :
      Respaced (quote :: (inside ++ text)) (quote :: (inside ++ text'))
  /-- What a quote opens and nothing closes need not be the same. -/
  | unclosed {quote : Char} {text text' : List Char} (opens : quote = '\'' ∨ quote = '"')
      (never : quotedRest? quote text = none) (never' : quotedRest? quote text' = none) :
      Respaced (quote :: text) (quote :: text')

theorem isBlank_eq_false_of_quote {quote : Char} (opens : quote = '\'' ∨ quote = '"') :
    isBlank quote = false := by
  rcases opens with rfl | rfl <;> decide

theorem not_plain_of_quote {quote : Char} (opens : quote = '\'' ∨ quote = '"') : ¬Plain quote := by
  rcases opens with rfl | rfl <;> decide

theorem Gap.exists_cons {run : List Char} (gap : Gap run) :
    ∃ c more, run = c :: more ∧ isBlank c = true := by
  obtain ⟨some_, blank⟩ := gap
  cases run with
  | nil => exact absurd rfl some_
  | cons c more => exact ⟨c, more, rfl, blank c List.mem_cons_self⟩

theorem skipBlanks_eq_nil {run : List Char} (blank : ∀ c ∈ run, isBlank c = true) :
    skipBlanks run = [] :=
  List.dropWhile_eq_nil_iff.mpr blank

theorem skipBlanks_blank_append {run : List Char} (blank : ∀ c ∈ run, isBlank c = true)
    (text : List Char) : skipBlanks (run ++ text) = skipBlanks text :=
  List.dropWhile_append_of_pos blank

namespace Respaced

theorem symm (alike : Respaced text other) : Respaced other text := by
  induction alike with
  | ends blank blank' => exact .ends blank' blank
  | gap blank blank' _ ih => exact .gap blank' blank ih
  | plain plain _ ih => exact .plain plain ih
  | quoted opens closes _ ih => exact .quoted opens closes ih
  | unclosed opens never never' => exact .unclosed opens never' never

theorem blank (alike : Respaced text other) (blank : isBlank c = true) :
    Respaced (c :: text) (c :: other) :=
  have gap : Gap [c] := ⟨List.cons_ne_nil c [], List.forall_mem_singleton.mpr blank⟩
  .gap gap gap alike

/-- What is at the start does not matter if it is blank. -/
theorem skipBlanks (alike : Respaced text other) :
    Respaced (Text.skipBlanks text) (Text.skipBlanks other) := by
  induction alike with
  | ends blank blank' =>
    rw [skipBlanks_eq_nil blank, skipBlanks_eq_nil blank']
    exact .ends (List.forall_mem_nil _) (List.forall_mem_nil _)
  | gap blank blank' _ ih =>
    rw [skipBlanks_blank_append blank.2, skipBlanks_blank_append blank'.2]
    exact ih
  | plain plain later =>
    rw [skipBlanks_cons_of_not plain.1, skipBlanks_cons_of_not plain.1]
    exact .plain plain later
  | quoted opens closes later =>
    have blank := isBlank_eq_false_of_quote opens
    rw [skipBlanks_cons_of_not blank, skipBlanks_cons_of_not blank]
    exact .quoted opens closes later
  | unclosed opens never never' =>
    have blank := isBlank_eq_false_of_quote opens
    rw [skipBlanks_cons_of_not blank, skipBlanks_cons_of_not blank]
    exact .unclosed opens never never'

/-- A text that does not start with a blank starts with a plain character, which is at the start of the
other too, or with a quote. -/
theorem cases_cons (alike : Respaced (c :: text) other) (notBlank : isBlank c = false) :
    (Plain c ∧ ∃ text', other = c :: text' ∧ Respaced text text') ∨
      ((c = '\'' ∨ c = '"') ∧
        ((∃ inside value behind behind', text = inside ++ behind ∧ other = c :: (inside ++ behind') ∧
            ReadsQuoted c inside value [] ∧ Respaced behind behind') ∨
          quotedRest? c text = none)) := by
  generalize whole : c :: text = start at alike
  cases alike with
  | ends blank _ =>
    subst whole
    rw [blank c List.mem_cons_self] at notBlank
    cases notBlank
  | gap gap _ _ =>
    obtain ⟨d, more, rfl, blank⟩ := gap.exists_cons
    obtain ⟨rfl, -⟩ := List.cons.inj whole
    rw [blank] at notBlank
    cases notBlank
  | plain plain later =>
    cases whole
    exact Or.inl ⟨plain, _, rfl, later⟩
  | quoted opens closes later =>
    cases whole
    exact Or.inr ⟨opens, Or.inl ⟨_, _, _, _, rfl, rfl, closes, later⟩⟩
  | unclosed opens never _ =>
    cases whole
    exact Or.inr ⟨opens, Or.inr never⟩

/-- A plain character at the start of one text is at the start of the other. -/
theorem uncons (alike : Respaced (c :: text) other) (plain : Plain c) :
    ∃ text', other = c :: text' ∧ Respaced text text' := by
  rcases alike.cases_cons plain.1 with ⟨_, found⟩ | ⟨opens, _⟩
  · exact found
  · exact absurd plain (not_plain_of_quote opens)

/-- Blanks are skipped before a mark in both texts. -/
theorem mark (alike : Respaced text other) (found : Text.skipBlanks text = c :: rest)
    (plain : Plain c) : ∃ rest', Text.skipBlanks other = c :: rest' ∧ Respaced rest rest' := by
  have skipped := alike.skipBlanks
  rw [found] at skipped
  exact skipped.uncons plain

/-- What plain characters the first one is not, it is not in the other text either. -/
theorem head {member : Char → Prop} (alike : Respaced text other) (plain : ∀ c, member c → Plain c)
    (outside : ∀ c ∈ text.head?, ¬member c) : ∀ c ∈ other.head?, ¬member c := by
  intro c first inside
  obtain ⟨behind, rfl⟩ := List.head?_eq_some_iff.mp first
  obtain ⟨text', rfl, -⟩ := alike.symm.uncons (plain c inside)
  exact outside c rfl inside

theorem stops {member : Char → Bool} (alike : Respaced text other)
    (plain : ∀ c, member c = true → Plain c) (stop : Stops member text) : Stops member other := by
  intro c first
  have outside := alike.head plain (fun d start => Bool.eq_false_iff.mp (stop d start)) c first
  exact Bool.eq_false_iff.mpr outside

theorem head_ne (alike : Respaced text other) (plain : Plain c) (differs : ∀ d ∈ text.head?, d ≠ c) :
    ∀ d ∈ other.head?, d ≠ c :=
  alike.head (fun _ same => same ▸ plain) differs

theorem head_ne_both {d : Char} (alike : Respaced text other) (plain : Plain c) (plain' : Plain d)
    (differ : ∀ e ∈ text.head?, e ≠ c ∧ e ≠ d) : ∀ e ∈ other.head?, e ≠ c ∧ e ≠ d :=
  fun e first => ⟨alike.head_ne plain (fun e first => (differ e first).1) e first,
    alike.head_ne plain' (fun e first => (differ e first).2) e first⟩

/-- Plain characters at the start of one text are at the start of the other. -/
theorem unappend {start : List Char} (alike : Respaced (start ++ text) other)
    (plain : ∀ c ∈ start, Plain c) : ∃ text', other = start ++ text' ∧ Respaced text text' := by
  induction start generalizing other with
  | nil => exact ⟨other, rfl, alike⟩
  | cons c start ih =>
    obtain ⟨behind, rfl, later⟩ := alike.uncons (plain c List.mem_cons_self)
    obtain ⟨text', rfl, rest⟩ := ih later fun d member => plain d (List.mem_cons_of_mem c member)
    exact ⟨text', rfl, rest⟩

theorem eq_nil (alike : Respaced [] other) (stops : Stops isBlank other) : other = [] := by
  rw [← skipBlanks_of_stop stops]
  generalize nothing : [] = start at alike
  cases alike with
  | ends _ blank =>
    rw [skipBlanks_eq_nil blank, nothing]
  | gap gap _ _ => exact absurd (List.append_eq_nil_iff.mp nothing.symm).1 gap.1
  | plain | quoted | unclosed => cases nothing

end Respaced

/-! ## Blanks at the end -/

/-- A text without the quote does not close what the quote opens. -/
theorem quotedRest?_eq_none {quote : Char} (foreign : quote ∉ text) :
    quotedRest? quote text = none := by
  fun_induction quotedRest? quote text with
  | case1 => rfl
  | case2 escaped text ih =>
    rw [ih fun member => foreign (List.mem_cons_of_mem _ (List.mem_cons_of_mem _ member))]
    rfl
  | case3 text _ => exact absurd List.mem_cons_self foreign
  | case4 c text _ _ ih =>
    rw [ih fun member => foreign (List.mem_cons_of_mem _ member)]
    rfl

theorem quotedRest?_append_eq_none {quote : Char} {more : List Char}
    (never : quotedRest? quote text = none) (foreign : quote ∉ more) :
    quotedRest? quote (text ++ more) = none := by
  fun_induction quotedRest? quote text with
  | case1 => exact quotedRest?_eq_none foreign
  | case2 escaped text ih =>
    simp only [List.cons_append, quotedRest?, ih (Option.map_eq_none_iff.mp never), Option.map_none]
  | case3 => cases never
  | case4 c text backslash inside ih =>
    cases text with
    | nil =>
      -- the character may be a backslash, which now escapes the one after it
      refine quotedRest?_eq_none fun member => ?_
      rcases List.mem_cons.mp member with same | later
      · exact inside same.symm
      · exact foreign later
    | cons d text =>
      rw [List.cons_append, quotedRest?, if_neg inside, ih (Option.map_eq_none_iff.mp never)]
      · rfl
      · exact fun _ _ same _ => backslash d text same rfl

/-- What is quoted is over where the rest begins. -/
theorem ReadsQuoted.exists_append {quote : Char} (plain : quote ≠ '\\') {value : List Char}
    (read : ReadsQuoted quote text value rest) :
    ∃ inside, text = inside ++ rest ∧ ReadsQuoted quote inside value [] := by
  obtain ⟨shorter, found⟩ := read
  fun_induction quotedRest? quote text generalizing value rest with
  | case1 => cases found
  | case2 escaped text ih =>
    obtain ⟨tail, read, same⟩ := Option.map_eq_some_iff.mp found
    cases same
    obtain ⟨inside, whole, closes⟩ := ih tail.shorter read
    exact ⟨'\\' :: escaped :: inside, congrArg (['\\', escaped] ++ ·) whole,
      readsQuoted_escape escaped closes⟩
  | case3 text _ =>
    cases found
    exact ⟨[quote], rfl, readsQuoted_end plain []⟩
  | case4 c text backslash differs ih =>
    obtain ⟨tail, read, same⟩ := Option.map_eq_some_iff.mp found
    cases same
    have notBackslash : c ≠ '\\' := by
      intro same
      cases text with
      | nil => cases read
      | cons d text => exact backslash d text same rfl
    obtain ⟨inside, whole, closes⟩ := ih tail.shorter read
    exact ⟨c :: inside, congrArg (c :: ·) whole, readsQuoted_plain notBackslash differs closes⟩

/-- Blanks may be added at the end, also within what a quote leaves open there. -/
theorem respaced_append {after : List Char} (blank : ∀ c ∈ after, isBlank c = true) :
    (text : List Char) → Respaced text (text ++ after)
  | [] => .ends (List.forall_mem_nil _) blank
  | c :: text => by
    by_cases opens : c = '\'' ∨ c = '"'
    · have foreign : c ∉ after := by
        intro member
        have isBlank_ := blank c member
        rw [isBlank_eq_false_of_quote opens] at isBlank_
        cases isBlank_
      cases found : quotedRest? c text with
      | none => exact .unclosed opens found (quotedRest?_append_eq_none found foreign)
      | some tail =>
        have notBackslash : c ≠ '\\' := by rcases opens with rfl | rfl <;> decide
        obtain ⟨inside, whole, closes⟩ :=
          ReadsQuoted.exists_append notBackslash ⟨tail.shorter, found⟩
        have shorter := tail.shorter
        rw [whole, List.cons_append, List.append_assoc]
        exact .quoted opens closes (respaced_append blank tail.rest)
    · cases isBlank_ : isBlank c with
      | true => exact .blank (respaced_append blank text) isBlank_
      | false => exact .plain ⟨isBlank_, not_or.mp opens⟩ (respaced_append blank text)
  termination_by text => text.length
  decreasing_by all_goals simp only [List.length_cons]; omega

/-! ## Lexemes -/

theorem plain_of_isNamePart (part : isNamePart c = true) : Plain c := by
  refine ⟨isBlank_eq_false_of_isNamePart part, ?_, ?_⟩ <;>
    (rintro rfl; revert part; decide)

theorem plain_of_isDigit (digit : isDigit c = true) : Plain c :=
  plain_of_isNamePart (isNamePart_of_isDigit digit)

/-- The scanner takes the same from texts that are spaced alike, and leaves texts that are. -/
def InStep {α : Type} (scan : List Char → α × List Char) : Prop :=
  ∀ {text other : List Char}, Respaced text other →
    (scan text).1 = (scan other).1 ∧ Respaced (scan text).2 (scan other).2

theorem inStep_run {member : Char → Bool} (plain : ∀ c, member c = true → Plain c) :
    InStep fun text => (text.takeWhile member, text.dropWhile member) := by
  intro text other alike
  have all : ∀ c ∈ text.takeWhile member, member c = true := fun c => List.mem_takeWhile_imp
  have whole : text.takeWhile member ++ text.dropWhile member = text := List.takeWhile_append_dropWhile
  rw [← whole] at alike
  obtain ⟨text', rfl, later⟩ := alike.unappend fun c taken => plain c (all c taken)
  have stop' : Stops member text' := later.stops plain (stops_dropWhile text)
  refine ⟨(takeWhile_append_of_stop all stop').symm, ?_⟩
  show Respaced _ ((text.takeWhile member ++ text').dropWhile member)
  rw [dropWhile_append_of_stop all stop']
  exact later

theorem inStep_digits : InStep fun text => (text.takeWhile isDigit, text.dropWhile isDigit) :=
  inStep_run fun _ => plain_of_isDigit

theorem inStep_scanFraction : InStep Numeral.scanFraction := by
  intro text other alike
  by_cases dot : ∃ digits, text = '.' :: digits
  · obtain ⟨digits, rfl⟩ := dot
    obtain ⟨digits', rfl, later⟩ := alike.uncons (by decide)
    obtain ⟨same, left⟩ := inStep_digits later
    simp only at same left
    simp only [Numeral.scanFraction, ← same]
    split
    · exact ⟨rfl, alike⟩
    · exact ⟨rfl, left⟩
  · have plain : ∀ c ∈ text.head?, c ≠ '.' := by
      rintro c first rfl
      exact dot (List.head?_eq_some_iff.mp first)
    rw [scanFraction_of_head plain, scanFraction_of_head (alike.head_ne (by decide) plain)]
    exact ⟨rfl, alike⟩

theorem exponentSign_of_head (plain : ∀ c ∈ text.head?, c ≠ '-' ∧ c ≠ '+') :
    exponentSign text = (false, text) := by
  unfold exponentSign
  split
  · exact absurd rfl (plain '-' rfl).1
  · exact absurd rfl (plain '+' rfl).2
  · rfl

theorem inStep_exponentSign : InStep exponentSign := by
  intro text other alike
  by_cases signed : ∃ c digits, text = c :: digits ∧ (c = '-' ∨ c = '+')
  · obtain ⟨c, digits, rfl, rfl | rfl⟩ := signed
    all_goals
      obtain ⟨digits', rfl, later⟩ := alike.uncons (by decide)
      exact ⟨rfl, later⟩
  · have plain : ∀ c ∈ text.head?, c ≠ '-' ∧ c ≠ '+' := by
      intro c first
      obtain ⟨digits, whole⟩ := List.head?_eq_some_iff.mp first
      exact not_or.mp fun sign => signed ⟨c, digits, whole, sign⟩
    rw [exponentSign_of_head plain,
      exponentSign_of_head (alike.head_ne_both (by decide) (by decide) plain)]
    exact ⟨rfl, alike⟩

theorem scanExponent_of_head (plain : ∀ c ∈ text.head?, c ≠ 'e' ∧ c ≠ 'E') :
    Numeral.scanExponent text = (none, text) := by
  cases text with
  | nil => rfl
  | cons c text =>
    obtain ⟨lower, upper⟩ := plain c rfl
    rw [scanExponent_cons, if_neg (by simp [lower, upper])]

theorem inStep_scanExponent : InStep Numeral.scanExponent := by
  intro text other alike
  by_cases marked : ∃ c digits, text = c :: digits ∧ (c = 'e' ∨ c = 'E')
  · obtain ⟨c, digits, rfl, exponent⟩ := marked
    have plain : Plain c := by rcases exponent with rfl | rfl <;> decide
    obtain ⟨digits', rfl, later⟩ := alike.uncons plain
    obtain ⟨sameSign, behindSign⟩ := inStep_exponentSign later
    obtain ⟨same, left⟩ := inStep_digits behindSign
    simp only at same left
    rw [scanExponent_cons, scanExponent_cons, if_pos (by simpa using exponent),
      if_pos (by simpa using exponent), ← same, ← sameSign]
    split
    · exact ⟨rfl, alike⟩
    · exact ⟨rfl, left⟩
  · have plain : ∀ c ∈ text.head?, c ≠ 'e' ∧ c ≠ 'E' := by
      intro c first
      obtain ⟨digits, whole⟩ := List.head?_eq_some_iff.mp first
      exact not_or.mp fun exponent => marked ⟨c, digits, whole, exponent⟩
    rw [scanExponent_of_head plain,
      scanExponent_of_head (alike.head_ne_both (by decide) (by decide) plain)]
    exact ⟨rfl, alike⟩

/-- A numeral has no blanks in it, and is the same numeral in both texts. -/
theorem inStep_scan : InStep Numeral.scan := by
  intro text other alike
  obtain ⟨digits, behindDigits⟩ := inStep_digits alike
  obtain ⟨fraction, behindFraction⟩ := inStep_scanFraction behindDigits
  obtain ⟨exponent, behindExponent⟩ := inStep_scanExponent behindFraction
  simp only at digits
  simp only [Numeral.scan, digits, fraction, exponent]
  exact ⟨trivial, behindExponent⟩

namespace Respaced

theorem startsWithDigit_of (alike : Respaced text other) (digit : startsWithDigit text = true) :
    startsWithDigit other = true := by
  cases text with
  | nil => cases digit
  | cons c text =>
    obtain ⟨text', rfl, -⟩ := alike.uncons (plain_of_isDigit digit)
    exact digit

theorem startsWithDigit_eq (alike : Respaced text other) :
    startsWithDigit other = startsWithDigit text :=
  Bool.eq_iff_iff.mpr ⟨alike.symm.startsWithDigit_of, alike.startsWithDigit_of⟩

theorem reads_numeral {negative : Bool} {value : Number} (alike : Respaced text other)
    (read : Reads (numeral negative) text value rest) :
    ∃ rest', Reads (numeral negative) other value rest' ∧ Respaced rest rest' := by
  obtain ⟨digit, number, rfl⟩ := reads_numeral_iff.mp read
  obtain ⟨same, left⟩ := inStep_scan alike
  rw [← alike.startsWithDigit_eq] at digit
  rw [same] at number
  exact ⟨_, reads_of_numberOf digit number, left⟩

theorem reads_name {word : String} (alike : Respaced text other) (read : Reads name text word rest) :
    ∃ rest', Reads name other word rest' ∧ Respaced rest rest' := by
  obtain ⟨valid, rfl, stop⟩ := reads_name_iff.mp read
  obtain ⟨rest', rfl, later⟩ := alike.unappend fun c part => plain_of_isNamePart (isNamePart_of_mem valid part)
  exact ⟨rest', Template.reads_name valid (later.stops (fun _ => plain_of_isNamePart) stop), later⟩

theorem owner {owner : String} (alike : Respaced text other) (path : Owner text owner rest) :
    ∃ rest', Owner other owner rest' ∧ Respaced rest rest' := by
  induction path generalizing other with
  | last read ends =>
    obtain ⟨rest', read', later⟩ := alike.reads_name read
    exact ⟨rest', .last read' (later.head_ne (by decide) ends), later⟩
  | inside read _ ih =>
    obtain ⟨_, read', behind⟩ := alike.reads_name read
    obtain ⟨next', rfl, next⟩ := behind.uncons (by decide)
    obtain ⟨rest', path', later⟩ := ih next
    exact ⟨rest', .inside read' path', later⟩

/-- A quoted text at the start of one text is at the start of the other. -/
theorem readsQuoted {quote : Char} {value : List Char} (alike : Respaced (quote :: text) other)
    (opens : quote = '\'' ∨ quote = '"') (read : ReadsQuoted quote text value rest) :
    ∃ text' rest', other = quote :: text' ∧ ReadsQuoted quote text' value rest' ∧
      Respaced rest rest' := by
  have notBackslash : quote ≠ '\\' := by rcases opens with rfl | rfl <;> decide
  obtain ⟨_, found⟩ := read
  rcases alike.cases_cons (isBlank_eq_false_of_quote opens) with
    ⟨plain, _⟩ | ⟨_, ⟨inside, content, behind, behind', rfl, rfl, closes, later⟩ | never⟩
  · exact absurd plain (not_plain_of_quote opens)
  · obtain ⟨_, found'⟩ := readsQuoted_append notBackslash closes behind
    cases found.symm.trans found'
    exact ⟨_, _, rfl, readsQuoted_append notBackslash closes behind', later⟩
  · cases never.symm.trans found

theorem reads_quoted {quote : Char} {content : String} (alike : Respaced (quote :: text) other)
    (opens : quote = '\'' ∨ quote = '"') (read : Reads Template.quoted (quote :: text) content rest) :
    ∃ text' rest', other = quote :: text' ∧ Reads Template.quoted (quote :: text') content rest' ∧
      Respaced rest rest' := by
  obtain ⟨text', rest', rfl, read', later⟩ := alike.readsQuoted opens (reads_quoted_iff.mp read)
  exact ⟨text', rest', rfl, reads_quoted_iff.mpr read', later⟩

end Respaced

/-! ## Signs of operators -/

theorem plain_of_mem_sign {operator : Operator} : ∀ c ∈ operator.sign.toList, Plain c := by
  have all : (operator.sign.toList.all fun c => decide (Plain c)) = true :=
    Operator.forall_of_all (by decide) operator
  exact fun c member => of_decide_eq_true (List.all_eq_true.mp all c member)

namespace Respaced

theorem sign {operator : Operator} (alike : Respaced text other)
    (found : after? operator.sign.toList text = some rest) :
    ∃ rest', after? operator.sign.toList other = some rest' ∧ Respaced rest rest' := by
  rw [← after?_eq_some_iff.mp found] at alike
  obtain ⟨rest', whole, later⟩ := alike.unappend plain_of_mem_sign
  exact ⟨rest', after?_eq_some_iff.mpr whole.symm, later⟩

theorem sign_none {operator : Operator} (alike : Respaced text other)
    (absent : after? operator.sign.toList text = none) : after? operator.sign.toList other = none := by
  cases found : after? operator.sign.toList other with
  | none => rfl
  | some rest =>
    obtain ⟨rest', found', -⟩ := alike.symm.sign found
    cases absent.symm.trans found'

theorem operator_none {operators : List Operator} (alike : Respaced text other)
    (absent : operator? operators text = none) : operator? operators other = none :=
  operator?_eq_none_iff.mpr fun operator member =>
    alike.sign_none (operator?_eq_none_iff.mp absent operator member)

theorem operator {operators : List Operator} {operator : Operator} (alike : Respaced text other)
    (found : FindsOperator operators text operator rest) :
    ∃ rest', FindsOperator operators other operator rest' ∧ Respaced rest rest' := by
  obtain ⟨before, behind, list, sign, others⟩ := findsOperator_iff.mp found
  obtain ⟨rest', sign', later⟩ := alike.sign sign
  refine ⟨rest', findsOperator_iff.mpr ⟨before, behind, list, sign', ?_⟩, later⟩
  exact fun earlier member => alike.sign_none (others earlier member)

end Respaced

end Scriptlet.Template
