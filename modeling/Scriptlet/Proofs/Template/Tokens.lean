import Scriptlet.Proofs.Template.Locality

/-!
# Tokens

A template cut into its smallest parts, without regard to the grammar: names, numerals without sign,
quoted texts and marks, where blanks only separate. Names, numerals and texts end where the lexemes of the
grammar end, and of the marks the longest is taken (`finds_mark`).

Wherever a rule of the grammar reads a lexeme, the same lexeme is the next token. That is a question only
where one mark starts another: the grammar tries `<=` before `<`, and takes `!` for a sign only where no
`=` follows. `Cuts` follows the tokens from one place of the text to another.
-/

set_option autoImplicit false

namespace Scriptlet.Template

open Text

/-- A part of a template. A numeral is an integer, or the double that it denotes if it has a fraction or
an exponent. -/
inductive Token where
  | name (text : String)
  | integer (value : Nat)
  | double (value : Double)
  | text (content : String)
  | mark (sign : List Char)
  deriving DecidableEq

/-- The marks, the longer ones first. -/
def marks : List (List Char) :=
  [['|', '|'], ['&', '&'], ['=', '='], ['!', '='], ['<', '='], ['>', '='],
   ['<'], ['>'], ['+'], ['-'], ['*'], ['/'], ['%'], ['!'], ['?'], [':'], ['.'], [','], ['@'],
   ['('], [')'], ['['], [']'], ['\x7b'], ['\x7d']]

namespace Token

/-- The token that a numeral without sign is. -/
def ofNumeral? (numeral : Numeral) : Option Token :=
  if numeral.isWhole then some (.integer (ofDigits numeral.whole))
  else (numeral.double? false).map .double

/-- The token, if the rest is shorter than the text that it starts. -/
def before? (token : Token) (rest text : List Char) : Option (Reading Token text) :=
  if shorter : rest.length < text.length then some ⟨token, rest, shorter⟩ else none

end Token

/-- The token at the very start of a text. -/
def token? (text : List Char) : Option (Reading Token text) :=
  match text.head? with
  | none => none
  | some c =>
    if isNameStart c then (name text).toOption.map fun word => word.withValue (.name word.value)
    else if isDigit c then
      (Token.ofNumeral? (Numeral.scan text).1).bind (·.before? (Numeral.scan text).2 text)
    else if c = '\'' || c = '"' then
      (quoted text).toOption.map fun content => content.withValue (.text content.value)
    else marks.findSome? fun sign => (after? sign text).bind ((Token.mark sign).before? · text)

/-- The tokens of a text, if it is made of tokens and blanks. -/
def tokens (text : List Char) : Option (List Token) :=
  if skipBlanks text = [] then some []
  else
    match token? (skipBlanks text) with
    | none => none
    | some token => (tokens token.rest).map (token.value :: ·)
termination_by text.length
decreasing_by exact token.blanksBefore.shorter

variable {text rest : List Char}

/-- The text starts with the token. -/
def Finds (text : List Char) (token : Token) (rest : List Char) : Prop :=
  ∃ shorter, token? text = some ⟨token, rest, shorter⟩

/-! ## Lexemes are tokens -/

theorem finds_name {word : String} (read : Reads name text word rest) :
    Finds text (.name word) rest := by
  obtain ⟨c, tail, rfl, start⟩ := exists_start_of_reads_name read
  obtain ⟨shorter, read⟩ := read
  refine ⟨shorter, ?_⟩
  simp only [token?, List.head?_cons, if_pos start, read]
  rfl

theorem finds_quoted {mark : Char} {content : String} (opens : mark = '\'' ∨ mark = '"')
    (read : Reads quoted (mark :: text) content rest) : Finds (mark :: text) (.text content) rest := by
  obtain ⟨shorter, read⟩ := read
  have start : isNameStart mark = false := by rcases opens with rfl | rfl <;> decide
  have digit : isDigit mark = false := by rcases opens with rfl | rfl <;> decide
  have quotes : (decide (mark = '\'') || decide (mark = '"')) = true := by
    rcases opens with rfl | rfl <;> decide
  refine ⟨shorter, ?_⟩
  simp only [token?, List.head?_cons, start, digit, Bool.false_eq_true, if_false, if_pos quotes, read]
  rfl

theorem before?_eq_some (token : Token) (shorter : rest.length < text.length) :
    token.before? rest text = some ⟨token, rest, shorter⟩ :=
  dif_pos shorter

/-- A numeral is a token, whichever sign it is read with. -/
theorem finds_numeral {negative : Bool} {value : Number} (read : Reads (numeral negative) text value rest) :
    ∃ numeral : Numeral, numberOf negative numeral = .ok value ∧
      ∀ token, Token.ofNumeral? numeral = some token → Finds text token rest := by
  obtain ⟨digit, number, rfl⟩ := reads_numeral_iff.mp read
  obtain ⟨shorter, -⟩ := read
  refine ⟨(Numeral.scan text).1, number, fun token known => ⟨shorter, ?_⟩⟩
  cases text with
  | nil => cases digit
  | cons c tail =>
    have isDigit_ : isDigit c = true := digit
    have start : isNameStart c = false := isNameStart_eq_false_of_isDigit isDigit_
    simp only [token?, List.head?_cons, start, Bool.false_eq_true, if_false, if_pos isDigit_, known,
      Option.bind_some]
    exact before?_eq_some token shorter

/-- Only a numeral starts with a digit. -/
theorem startsWithDigit_of_finds_integer {value : Nat} (found : Finds text (.integer value) rest) :
    startsWithDigit text = true := by
  obtain ⟨shorter, found⟩ := found
  cases text with
  | nil => cases found
  | cons c tail =>
    simp only [token?, List.head?_cons] at found
    split at found
    · obtain ⟨word, _, same⟩ := Option.map_eq_some_iff.mp found
      cases same
    split at found
    · rename_i digit
      exact digit
    split at found
    · obtain ⟨content, _, same⟩ := Option.map_eq_some_iff.mp found
      cases same
    · obtain ⟨sign, _, same⟩ := List.exists_of_findSome?_eq_some found
      obtain ⟨behind, _, same⟩ := Option.bind_eq_some_iff.mp same
      unfold Token.before? at same
      split at same <;> cases same

/-! ## Marks -/

/-- Two starts of one text that are equally long are the same. -/
theorem eq_of_after? {start other behind : List Char} (found : after? start text = some rest)
    (also : after? other text = some behind) (same : start.length = other.length) : start = other := by
  fun_induction after? start text generalizing other behind with
  | case1 text =>
    exact (List.length_eq_zero_iff.mp same.symm).symm
  | case2 => cases found
  | case3 p start text ih =>
    cases other with
    | nil => cases same
    | cons q other =>
      rw [after?] at also
      split at also
      · rename_i head
        rw [head, ih found also (Nat.succ.inj same)]
      · cases also
  | case4 => cases found

theorem marks_plain : ∀ sign ∈ marks, ∃ c ∈ sign.head?,
    isNameStart c = false ∧ isDigit c = false ∧ (decide (c = '\'') || decide (c = '"')) = false := by
  have each : (marks.all fun sign => sign.head?.any fun c =>
      !isNameStart c && !isDigit c && !(decide (c = '\'') || decide (c = '"'))) = true := by
    decide
  intro sign member
  obtain ⟨c, head, plain⟩ := (Option.any_eq_true _ _).mp (List.all_eq_true.mp each sign member)
  simp only [Bool.and_eq_true, Bool.not_eq_true'] at plain
  exact ⟨c, head, plain.1.1, plain.1.2, plain.2⟩

theorem marks_pairwise : marks.Pairwise fun first second => second.length ≤ first.length := by
  decide

theorem head_of_after? {sign : List Char} {c : Char} (head : c ∈ sign.head?)
    (found : after? sign text = some rest) : text.head? = some c := by
  cases sign with
  | nil => cases head
  | cons d sign =>
    cases head
    cases text with
    | nil => cases found
    | cons e text =>
      rw [after?] at found
      split at found
      · rename_i same
        rw [same]
        rfl
      · cases found

/-- The longest mark that a text starts with is its first token. -/
theorem finds_mark {sign : List Char} (member : sign ∈ marks) (found : after? sign text = some rest)
    (longest : ∀ other ∈ marks, sign.length < other.length → after? other text = none) :
    Finds text (.mark sign) rest := by
  obtain ⟨c, head, name, digit, quote⟩ := marks_plain sign member
  have some_ : 0 < sign.length := by
    cases sign with
    | nil => cases head
    | cons d tail => exact Nat.succ_pos _
  have shorter := shorter_of_after? found some_
  obtain ⟨before, behind, list, first⟩ := List.eq_append_cons_of_mem member
  refine ⟨shorter, ?_⟩
  simp only [token?, head_of_after? head found, name, digit, quote, Bool.false_eq_true, if_false]
  refine List.findSome?_eq_some_iff.mpr ⟨before, sign, behind, list, ?_, fun other earlier => ?_⟩
  · rw [found]
    exact before?_eq_some (.mark sign) shorter
  · -- an earlier mark is at least as long, so it is longer or the same
    have ordered := marks_pairwise
    rw [list] at ordered
    have le := (List.pairwise_append.mp ordered).2.2 other earlier sign List.mem_cons_self
    have also : other ∈ marks := by
      rw [list]
      exact List.mem_append_left _ earlier
    cases sameText : after? other text with
    | none => rfl
    | some rest' =>
      by_cases longer : sign.length < other.length
      · rw [longest other also longer] at sameText
        cases sameText
      · have same := eq_of_after? found sameText (by omega)
        rw [same] at first
        exact absurd earlier first

/-- The marks of one character that start no other mark. -/
def loneMarks : List Char :=
  ['+', '-', '*', '/', '%', '?', ':', '.', ',', '@', '(', ')', '[', ']', '\x7b', '\x7d']

theorem lone_of_mem : ∀ c ∈ loneMarks, [c] ∈ marks ∧ isBlank c = false ∧
    ∀ other ∈ marks, 1 < other.length → other.head? ≠ some c :=
  List.all_iff_forall_prop.mp (by decide)

/-- Such a mark is a token wherever it stands. -/
theorem finds_lone {c : Char} (lone : c ∈ loneMarks) (rest : List Char) :
    Finds (c :: rest) (.mark [c]) rest := by
  obtain ⟨member, _, first⟩ := lone_of_mem c lone
  apply finds_mark member
  · rw [after?, if_pos rfl, after?]
  · intro other also longer
    cases other with
    | nil => cases longer
    | cons d other =>
      have differs : ¬d = c := fun same => first _ also longer (congrArg some same)
      rw [after?, if_neg differs]

/-- An exclamation mark is a token of its own unless it makes a mark with what follows. -/
theorem finds_deny (plain : ∀ c ∈ rest.head?, c ≠ '=') : Finds ('!' :: rest) (.mark ['!']) rest := by
  apply finds_mark (by decide)
  · rfl
  · intro other also longer
    have cases_ : other = ['!', '='] ∨ other.head? ≠ some '!' := by
      revert other
      decide
    rcases cases_ with rfl | differs
    · cases rest with
      | nil => rfl
      | cons d rest =>
        have other : ¬ '=' = d := (plain d rfl).symm
        rw [after?, if_pos rfl, after?, if_neg other]
    · cases other with
      | nil => cases longer
      | cons d other =>
        have other : ¬d = '!' := fun same => differs (congrArg some same)
        rw [after?, if_neg other]

theorem sign_mem_marks (operator : Operator) : operator.sign.toList ∈ marks :=
  Operator.forall_of_all (by decide) operator

/-- What starts with another character than a text does is not at its start. -/
theorem after?_eq_none_of_head {sign other : List Char} (found : after? sign text = some rest)
    (longer : sign.length < other.length) (some_ : sign ≠ []) (differs : other.head? ≠ sign.head?) :
    after? other text = none := by
  cases sign with
  | nil => exact absurd rfl some_
  | cons c sign =>
    cases other with
    | nil => cases longer
    | cons d other =>
      cases absent : after? (d :: other) text with
      | none => rfl
      | some behind =>
        have first : text.head? = some c := head_of_after? rfl found
        have second : text.head? = some d := head_of_after? rfl absent
        exact absurd (second.symm.trans first) differs

theorem level_of_mem {level : Nat} {operator : Operator} (member : operator ∈ operatorsAt level) :
    level = operator.level := by
  obtain _ | _ | _ | _ | _ | _ | _ | level := level
  all_goals simp [operatorsAt, precedence] at member
  · rw [member]
    rfl
  · rw [member]
    rfl
  · rcases member with rfl | rfl <;> rfl
  · rcases member with rfl | rfl | rfl | rfl <;> rfl
  · rcases member with rfl | rfl <;> rfl
  · rcases member with rfl | rfl | rfl <;> rfl

/-- No sign starts a longer mark but `<` and `>`. -/
theorem longer_mark {operator : Operator} {other : List Char} (member : other ∈ marks)
    (longer : operator.sign.toList.length < other.length)
    (same : other.head? = operator.sign.toList.head?) :
    (operator = .test .lt ∧ other = ['<', '=']) ∨ (operator = .test .gt ∧ other = ['>', '=']) := by
  revert other
  induction operator using Operator.forall_of_all with
  | each operator _ =>
    revert operator
    decide

/-- The operator that a group finds has the longest sign that is there. -/
theorem FindsOperator.longest {level : Nat} {operator : Operator}
    (found : FindsOperator (operatorsAt level) text operator rest) :
    ∀ other ∈ marks, operator.sign.toList.length < other.length → after? other text = none := by
  obtain ⟨before, behind, list, sign, others⟩ := findsOperator_iff.mp found
  obtain ⟨c, signs, chars, _⟩ := head_sign_mem operator
  intro other member longer
  by_cases same : other.head? = operator.sign.toList.head?
  · have level_ := level_of_mem (show operator ∈ operatorsAt level by
      rw [list]
      exact List.mem_append_right _ List.mem_cons_self)
    rw [level_] at list
    rcases longer_mark member longer same with ⟨rfl, rfl⟩ | ⟨rfl, rfl⟩
    · apply others (.test .le)
      obtain _ | ⟨first, before⟩ := before
      · cases list
      · obtain ⟨rfl, _⟩ := List.cons.inj list
        exact List.mem_cons_self
    · apply others (.test .ge)
      obtain _ | ⟨first, _ | ⟨second, before⟩⟩ := before
      · cases list
      · cases list
      · obtain ⟨rfl, later⟩ := List.cons.inj list
        obtain ⟨rfl, _⟩ := List.cons.inj later
        exact List.mem_cons_of_mem _ List.mem_cons_self
  · exact after?_eq_none_of_head sign longer (by rw [chars]; exact List.cons_ne_nil _ _) same

theorem finds_operator {level : Nat} {operator : Operator}
    (found : FindsOperator (operatorsAt level) text operator rest) :
    Finds text (.mark operator.sign.toList) rest := by
  obtain ⟨before, behind, list, sign, others⟩ := findsOperator_iff.mp found
  exact finds_mark (sign_mem_marks operator) sign found.longest

/-! ## From one place to another -/

/-- Between two places of a text, up to blanks, are the tokens. -/
inductive Cuts : List Char → List Token → List Char → Prop where
  | done {text rest : List Char} (place : skipBlanks text = skipBlanks rest) : Cuts text [] rest
  | next {text behind rest : List Char} {token : Token} {later : List Token}
      (found : Finds (skipBlanks text) token behind) (more : Cuts behind later rest) :
      Cuts text (token :: later) rest

namespace Cuts

variable {before behind : List Char} {first second : List Token}

theorem append (cuts : Cuts text first behind) (more : Cuts behind second rest) :
    Cuts text (first ++ second) rest := by
  induction cuts with
  | done place =>
    cases more with
    | done also => exact .done (place.trans also)
    | next found more =>
      rw [← place] at found
      exact .next found more
  | next found _ ih => exact .next found (ih more)

/-- Blanks before the first place do not matter. -/
theorem afterBlanks (cuts : Cuts (skipBlanks text) first rest) : Cuts text first rest :=
  append (.done (skipBlanks_skipBlanks text).symm) cuts

/-- Blanks before the second place do not matter. -/
theorem toBlanks (cuts : Cuts text first rest) : Cuts text first (skipBlanks rest) := by
  have whole := cuts.append (.done (skipBlanks_skipBlanks rest).symm)
  rwa [List.append_nil] at whole

/-- One token, perhaps after blanks. -/
theorem single {token : Token} (found : Finds (skipBlanks text) token rest) : Cuts text [token] rest :=
  .next found (.done rfl)

end Cuts

/-- Where nothing but blanks is left, these are all tokens. -/
theorem tokens_of_cuts {all : List Token} (cuts : Cuts text all rest) (ends : skipBlanks rest = []) :
    tokens text = some all := by
  induction cuts with
  | done place => rw [tokens, if_pos (place.trans ends)]
  | @next text behind _ token later found _ ih =>
    obtain ⟨shorter, found⟩ := found
    have some_ : skipBlanks text ≠ [] := by
      intro nothing
      rw [nothing] at shorter
      cases shorter
    rw [tokens, if_neg some_]
    simp only [found, ih ends]
    rfl

end Scriptlet.Template
