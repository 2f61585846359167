import Scriptlet.Proofs.Double.Decimals
import Scriptlet.Proofs.Expr.Equality
import Scriptlet.Proofs.Number.Range
import Scriptlet.Proofs.Template.Depth
import Scriptlet.Proofs.Template.Tokens

/-!
# Nothing is lost

The listing of an expression is its tokens from left to right, without brackets around operands and
arguments. A template that is read as an expression has the tokens of the listing, in this order and with
nothing between them but brackets and the packages of classes (`tokens_eq_listing`).

There is one exception. A minus sign before a numeral belongs to the numeral, and integers have no
negative zero: the sign before an integer that is zero leaves no trace in the tree
(`listing_without_sign`). Which minus signs are signs can be told from the token before: an operand is due
after it, or not.

`Yields` carries the induction over derivations: from one place of a text to another, an operand being due
there or not, stand tokens that leave a list. It composes, so that every rule of the grammar is a chain of
its parts (`Derives.lists`).
-/

set_option autoImplicit false

namespace Scriptlet

open Template Text

/-! ## Listings -/

/-- Lists of tokens with commas between them. -/
def separatedTokens (lists : List (List Token)) : List Token :=
  [Token.mark [',']].intercalate lists

/-- The tokens of data that stands in a template: a negative number has a sign before it. -/
def literalTokens : Json → List Token
  | .null => [.name "null"]
  | .bool true => [.name "true"]
  | .bool false => [.name "false"]
  | .string content => [.text content]
  | .number (.int i) => (if i.toInt < 0 then [.mark ['-']] else []) ++ [.integer i.toInt.natAbs]
  | .number (.double d) => (if d.negative then [.mark ['-']] else []) ++ [.double d.abs]
  | .number (.wide _ _) | .array _ | .object _ => []

namespace Expr

mutual

/-- The tokens of an expression, without brackets around operands and arguments. -/
def listing : Expr → List Token
  | literal value => literalTokens value
  | var name => [.name name]
  | list items => [.mark ['\x7b']] ++ separatedTokens (listings items) ++ [.mark ['\x7d']]
  | static owner name arguments =>
    [.mark ['@'], .name owner, .mark ['@'], .name name] ++ separatedTokens (listings arguments)
  | property target name => target.listing ++ [.mark ['.'], .name name]
  | method target name arguments =>
    target.listing ++ [.mark ['.'], .name name] ++ separatedTokens (listings arguments)
  | index target position => target.listing ++ [.mark ['[']] ++ position.listing ++ [.mark [']']]
  | neg operand => [.mark ['-']] ++ operand.listing
  | not operand => [.mark ['!']] ++ operand.listing
  | binary operator left right => left.listing ++ [.mark operator.sign.toList] ++ right.listing
  | ternary condition yes no =>
    condition.listing ++ [.mark ['?']] ++ yes.listing ++ [.mark [':']] ++ no.listing

/-- The listings of some expressions. -/
def listings : List Expr → List (List Token)
  | [] => []
  | tree :: rest => tree.listing :: listings rest

end

end Expr

namespace Template

/-! ## What leaves no trace -/

/-- Whether the token is a mark. -/
def Token.isMark : Token → Bool
  | mark _ => true
  | _ => false

/-- Whether an operand is due after the token: it is unless the token ends one. -/
def Token.asks : Token → Bool
  | mark sign => sign ≠ [')'] && sign ≠ [']'] && sign ≠ ['\x7d']
  | _ => false

/-- The tokens without the signs before integers that are zero; `due` says whether an operand is due at
the first token. -/
def withoutZeroSigns (due : Bool) : List Token → List Token
  | [] => []
  | token :: rest =>
    if due = true ∧ token = .mark ['-'] ∧ rest.head? = some (.integer 0) then withoutZeroSigns due rest
    else token :: withoutZeroSigns token.asks rest

/-- The tokens without the packages of classes: between two at-signs, of which the first makes the text
after it a path of names, only the last name is left. -/
def withoutPackages : Bool → List Token → List Token
  | true, .name _ :: .mark ['.'] :: rest => withoutPackages true rest
  | inPath, .mark ['@'] :: rest => .mark ['@'] :: withoutPackages (!inPath) rest
  | inPath, token :: rest => token :: withoutPackages inPath rest
  | _, [] => []

/-- The tokens without round brackets. -/
def withoutBrackets (tokens : List Token) : List Token :=
  tokens.filter fun token => token ≠ .mark ['('] && token ≠ .mark [')']

/-- The tokens that an expression is made of, where an operand is due at the first one or not. -/
def significant (due : Bool) (tokens : List Token) : List Token :=
  withoutBrackets (withoutPackages false (withoutZeroSigns due tokens))

variable {due ended : Bool} {token : Token} {later list : List Token}

theorem withoutZeroSigns_cons (kept : due = true → token = .mark ['-'] → later.head? ≠ some (.integer 0)) :
    withoutZeroSigns due (token :: later) = token :: withoutZeroSigns token.asks later := by
  rw [withoutZeroSigns, if_neg]
  rintro ⟨asked, minus, zero⟩
  exact kept asked minus zero

/-- Only minus signs are taken out. -/
theorem withoutZeroSigns_other (other : token ≠ .mark ['-']) :
    withoutZeroSigns due (token :: later) = token :: withoutZeroSigns token.asks later :=
  withoutZeroSigns_cons fun _ minus => absurd minus other

theorem withoutZeroSigns_name {word : String} :
    withoutZeroSigns due (.name word :: later) = .name word :: withoutZeroSigns false later :=
  withoutZeroSigns_other nofun

theorem withoutPackages_cons (plain : token ≠ .mark ['@']) :
    withoutPackages false (token :: later) = token :: withoutPackages false later := by
  rw [withoutPackages]
  · exact plain
  · intro package rest no
    cases no

/-- The marks that may leave no trace, or that begin what leaves none. -/
def fadingMarks (due : Bool) : List (List Char) :=
  if due then [['-'], ['@'], ['('], [')']] else [['@'], ['('], [')']]

/-- From a place where an operand is due, or not, to another one, the tokens leave the list, whatever
follows. -/
def Leaves (due : Bool) (tokens : List Token) (ended : Bool) (list : List Token) : Prop :=
  ∀ later, significant due (tokens ++ later) = list ++ significant ended later

namespace Leaves

variable {between : Bool} {first second more tokens : List Token}

theorem nil (due : Bool) : Leaves due [] due [] :=
  fun _ => rfl

theorem append (leaves : Leaves due first between list) (then_ : Leaves between second ended more) :
    Leaves due (first ++ second) ended (list ++ more) := by
  intro later
  rw [List.append_assoc, leaves, then_, List.append_assoc]

/-- Any other token is left as it is. -/
theorem single (stays : ∀ sign ∈ fadingMarks due, token ≠ .mark sign) :
    Leaves due [token] token.asks [token] := by
  intro later
  have at_ : token ≠ .mark ['@'] := stays _ (by cases due <;> decide)
  have opens : token ≠ .mark ['('] := stays _ (by cases due <;> decide)
  have closes : token ≠ .mark [')'] := stays _ (by cases due <;> decide)
  have kept : withoutZeroSigns due (token :: later) = token :: withoutZeroSigns token.asks later := by
    apply withoutZeroSigns_cons
    intro asked minus
    rw [asked] at stays
    exact absurd minus (stays _ (by decide))
  show withoutBrackets (withoutPackages false (withoutZeroSigns due (token :: later))) = _
  rw [kept, withoutPackages_cons at_]
  simp only [significant, withoutBrackets]
  rw [List.filter_cons_of_pos]
  · rfl
  · exact (Bool.and_eq_true _ _).mpr ⟨decide_eq_true opens, decide_eq_true closes⟩

/-- A name, a numeral or a text ends an operand. -/
theorem operand (plain : token.isMark = false) : Leaves due [token] false [token] := by
  cases token with
  | mark sign => cases plain
  | _ =>
    apply Leaves.single
    intro sign _ same
    cases same

/-- Brackets leave nothing. -/
theorem bracket {sign : List Char} (round : sign = ['('] ∨ sign = [')']) :
    Leaves due [.mark sign] (Token.mark sign).asks [] := by
  intro later
  have minus : Token.mark sign ≠ .mark ['-'] := by
    rcases round with rfl | rfl <;> decide
  have at_ : Token.mark sign ≠ .mark ['@'] := by
    rcases round with rfl | rfl <;> decide
  show withoutBrackets (withoutPackages false (withoutZeroSigns due (.mark sign :: later))) = _
  rw [withoutZeroSigns_other minus, withoutPackages_cons at_]
  simp only [significant, withoutBrackets]
  rw [List.filter_cons_of_neg]
  · rfl
  · rcases round with rfl | rfl <;> decide

/-- The sign before an operand that does not start with a zero is left. -/
theorem minus (leaves : Leaves true (token :: tokens) ended list) (other : token ≠ .integer 0) :
    Leaves true (.mark ['-'] :: token :: tokens) ended (.mark ['-'] :: list) := by
  intro later
  have kept : withoutZeroSigns true (.mark ['-'] :: (token :: tokens ++ later)) =
      .mark ['-'] :: withoutZeroSigns true (token :: tokens ++ later) :=
    withoutZeroSigns_cons fun _ _ same => other (Option.some.inj same)
  show withoutBrackets (withoutPackages false
    (withoutZeroSigns true (.mark ['-'] :: (token :: tokens ++ later)))) = _
  rw [kept, withoutPackages_cons (by decide)]
  show _ :: significant true (token :: tokens ++ later) = _
  rw [leaves later]
  rfl

/-- The sign before a zero is not. -/
theorem zero : Leaves true [.mark ['-'], .integer 0] false [.integer 0] := by
  intro later
  show withoutBrackets (withoutPackages false
    (withoutZeroSigns true (.mark ['-'] :: .integer 0 :: later))) = _
  have dropped : withoutZeroSigns true (.mark ['-'] :: .integer 0 :: later) =
      withoutZeroSigns true (.integer 0 :: later) := by
    rw [withoutZeroSigns, if_pos ⟨rfl, rfl, rfl⟩]
  have digit : Leaves true [.integer 0] false [.integer 0] := operand rfl
  rw [dropped]
  exact digit later

/-- Between two operands stands an operator, which cannot be a sign there. -/
theorem operator (operator : Operator) :
    Leaves false [.mark operator.sign.toList] true [.mark operator.sign.toList] := by
  have plain : (∀ sign ∈ fadingMarks false, Token.mark operator.sign.toList ≠ .mark sign) ∧
      (Token.mark operator.sign.toList).asks = true :=
    Operator.forall_of_all (by decide) operator
  have leaves : Leaves false [.mark operator.sign.toList] (Token.mark operator.sign.toList).asks
      [.mark operator.sign.toList] :=
    single plain.1
  rwa [plain.2] at leaves

end Leaves

/-! ## Numerals -/

/-- A decimal has the same double with either sign, but for the sign. -/
theorem ofDecimal?_sign {negative : Bool} {digits : Nat} {exponent : Int} {d : Double}
    (read : Double.ofDecimal? negative digits exponent = some d) :
    d.negative = negative ∧ Double.ofDecimal? false digits exponent = some d.abs := by
  refine ⟨Double.negative_of_ofDecimal? read, ?_⟩
  rw [Double.ofDecimal?_eq_map] at read
  obtain ⟨unsigned, found, rfl⟩ := Option.map_eq_some_iff.mp read
  rw [found, Double.abs, ← Double.negative_of_ofDecimal? found]

/-- The tokens of a number are the numeral, and the sign if it was read with one and is not zero. -/
theorem literalTokens_of_numberOf {negative : Bool} {numeral : Numeral} {value : Number}
    (denotes : numberOf negative numeral = .ok value) :
    ∃ token, Token.ofNumeral? numeral = some token ∧ token.isMark = false ∧
      literalTokens (.number value) =
        if negative = true ∧ token ≠ .integer 0 then [.mark ['-'], token] else [token] := by
  unfold numberOf at denotes
  unfold Token.ofNumeral?
  split at denotes
  · rename_i whole
    split at denotes
    · rename_i i fits
      cases denotes
      refine ⟨.integer (ofDigits numeral.whole), if_pos whole, rfl, ?_⟩
      have value := toInt_of_int64? fits
      rw [literalTokens, value, Numeral.toInt]
      cases negative with
      | false => simp
      | true =>
        by_cases zero : ofDigits numeral.whole = 0
        · simp [zero]
        · simp [zero, Nat.pos_of_ne_zero zero]
    · cases denotes
  · rename_i fraction
    split at denotes
    · rename_i d read
      cases denotes
      obtain ⟨sign, unsigned⟩ := ofDecimal?_sign read
      refine ⟨.double d.abs, ?_, rfl, ?_⟩
      · rw [if_neg fraction]
        exact congrArg (Option.map Token.double) unsigned
      · rw [literalTokens, sign]
        cases negative <;> simp
    · cases denotes

/-! ## What stands between two places -/

/-- A mark that starts no other mark, perhaps after blanks. -/
theorem cuts_lone {c : Char} {text rest : List Char} (place : skipBlanks text = c :: rest)
    (lone : c ∈ loneMarks) : Cuts text [.mark [c]] rest := by
  apply Cuts.single
  rw [place]
  exact finds_lone lone rest

theorem cuts_name {text rest : List Char} {word : String} (read : Reads name text word rest) :
    Cuts text [.name word] rest := by
  apply Cuts.single
  rw [(opens_of_reads_name read).skipBlanks_eq]
  exact finds_name read

/-- A sign of an operator starts with no blank, so it is a token where it is found. -/
theorem cuts_operator {level : Nat} {operator : Operator} {text rest : List Char}
    (found : FindsOperator (operatorsAt level) text operator rest) :
    Cuts text [.mark operator.sign.toList] rest := by
  obtain ⟨_, _, _, sign, _⟩ := findsOperator_iff.mp found
  obtain ⟨first, signs, chars, start⟩ := head_sign_mem operator
  have head : first ∈ operator.sign.toList.head? := by
    rw [chars]
    rfl
  have stop : Stops isBlank text := by
    intro c place
    rw [head_of_after? head sign] at place
    cases place
    exact (plain_of_mem_signStarts first start).1
  apply Cuts.single
  rw [skipBlanks_of_stop stop]
  exact finds_operator found

/-- Only an operand that starts with a digit starts with an integer. -/
theorem Cuts.starts {text rest : List Char} {tokens : List Token} (cuts : Cuts text tokens rest)
    (shorter : rest.length < (skipBlanks text).length)
    (plain : startsWithDigit (skipBlanks text) = false) :
    ∃ token later, tokens = token :: later ∧ token ≠ .integer 0 := by
  cases cuts with
  | done place =>
    have le := length_skipBlanks_le rest
    rw [place] at shorter
    omega
  | next found more =>
    refine ⟨_, _, rfl, ?_⟩
    intro zero
    rw [zero] at found
    rw [startsWithDigit_of_finds_integer found] at plain
    cases plain

/-- From one place of a text to another, an operand being due there or not, the tokens leave the list. -/
def Yields (due : Bool) (text : List Char) (list : List Token) (ended : Bool) (rest : List Char) : Prop :=
  ∃ tokens, Cuts text tokens rest ∧ Leaves due tokens ended list

namespace Yields

variable {between : Bool} {c : Char} {text behind rest : List Char} {more : List Token}

theorem nil (due : Bool) (text : List Char) : Yields due text [] due text :=
  ⟨[], .done rfl, .nil due⟩

theorem append (yields : Yields due text list between behind)
    (then_ : Yields between behind more ended rest) : Yields due text (list ++ more) ended rest := by
  obtain ⟨first, cuts, leaves⟩ := yields
  obtain ⟨second, cutsMore, leavesMore⟩ := then_
  exact ⟨first ++ second, cuts.append cutsMore, leaves.append leavesMore⟩

/-- Blanks before the first place do not matter. -/
theorem afterBlanks (yields : Yields due (skipBlanks text) list ended rest) :
    Yields due text list ended rest := by
  obtain ⟨tokens, cuts, leaves⟩ := yields
  exact ⟨tokens, cuts.afterBlanks, leaves⟩

/-- Blanks before the second place do not matter. -/
theorem toBlanks (yields : Yields due text list ended rest) :
    Yields due text list ended (skipBlanks rest) := by
  obtain ⟨tokens, cuts, leaves⟩ := yields
  exact ⟨tokens, cuts.toBlanks, leaves⟩

theorem mark (place : skipBlanks text = c :: rest) (lone : c ∈ loneMarks)
    (stays : ∀ sign ∈ fadingMarks due, Token.mark [c] ≠ .mark sign) :
    Yields due text [.mark [c]] (Token.mark [c]).asks rest :=
  ⟨[.mark [c]], cuts_lone place lone, .single stays⟩

theorem name {word : String} (read : Reads Template.name text word rest) :
    Yields due text [.name word] false rest :=
  ⟨[.name word], cuts_name read, .operand rfl⟩

theorem operator {level : Nat} {operator : Operator}
    (found : FindsOperator (operatorsAt level) text operator rest) :
    Yields false text [.mark operator.sign.toList] true rest :=
  ⟨[.mark operator.sign.toList], cuts_operator found, .operator operator⟩

/-- Round brackets leave what is between them, as an operand. -/
theorem round {inside : List Char} (opens : skipBlanks text = '(' :: inside)
    (yields : Yields true inside list ended behind) (closed : skipBlanks behind = ')' :: rest) :
    Yields due text list false rest := by
  obtain ⟨tokens, cuts, leaves⟩ := yields
  have leavesOpen : Leaves due [.mark ['(']] true [] := .bracket (Or.inl rfl)
  have leavesClose : Leaves ended [.mark [')']] false [] := .bracket (Or.inr rfl)
  have whole := (leavesOpen.append leaves).append leavesClose
  rw [List.nil_append, List.append_nil] at whole
  have cutsOpen := cuts_lone opens (by decide)
  have cutsClose := cuts_lone closed (by decide)
  exact ⟨_, (cutsOpen.append cuts).append cutsClose, whole⟩

/-- A minus sign before an operand that is no numeral. -/
theorem minus (yields : Yields true text list ended rest)
    (shorter : rest.length < (skipBlanks text).length)
    (plain : startsWithDigit (skipBlanks text) = false) :
    Yields true ('-' :: text) (.mark ['-'] :: list) ended rest := by
  obtain ⟨tokens, cuts, leaves⟩ := yields
  obtain ⟨token, later, rfl, other⟩ := cuts.starts shorter plain
  have cutsMinus : Cuts ('-' :: text) [.mark ['-']] text :=
    cuts_lone (skipBlanks_cons_of_not (by decide)) (by decide)
  exact ⟨_, cutsMinus.append cuts, leaves.minus other⟩

/-- A numeral, which leaves the tokens of its number. -/
theorem numeral {value : Number} (read : Reads (Template.numeral false) (skipBlanks text) value rest) :
    Yields true text (literalTokens (.number value)) false rest := by
  obtain ⟨numeral, denotes, found⟩ := finds_numeral read
  obtain ⟨token, known, plain, left⟩ := literalTokens_of_numberOf denotes
  rw [left]
  exact ⟨[token], .single (found token known), .operand plain⟩

/-- A numeral with a sign before it, which leaves the sign unless the number is a zero without sign. -/
theorem negative {value : Number} (read : Reads (Template.numeral true) (skipBlanks text) value rest) :
    Yields true ('-' :: text) (literalTokens (.number value)) false rest := by
  obtain ⟨numeral, denotes, found⟩ := finds_numeral read
  obtain ⟨token, known, plain, left⟩ := literalTokens_of_numberOf denotes
  have cutsMinus : Cuts ('-' :: text) [.mark ['-']] text :=
    cuts_lone (skipBlanks_cons_of_not (by decide)) (by decide)
  refine ⟨[.mark ['-'], token], cutsMinus.append (.single (found token known)), ?_⟩
  rw [left]
  by_cases isZero : token = .integer 0
  · rw [if_neg (fun both => both.2 isZero), isZero]
    exact .zero
  · rw [if_pos ⟨rfl, isZero⟩]
    exact .minus (.operand plain) isZero

/-- A dot and the name of a member. -/
theorem selection {member : String} (read : Reads Template.name (skipBlanks text) member rest) :
    Yields false ('.' :: text) [.mark ['.'], .name member] false rest := by
  have dot : Yields false ('.' :: text) [.mark ['.']] true text :=
    mark (skipBlanks_cons_of_not (by decide)) (by decide) (by decide)
  exact dot.append (name read).afterBlanks

end Yields

/-! ## Static members -/

/-- The tokens of a class with its packages. -/
def pathTokens (packages : List String) (owner : String) : List Token :=
  packages.flatMap (fun package => [.name package, .mark ['.']]) ++ [.name owner]

theorem pathTokens_cons (package : String) (packages : List String) (owner : String) :
    pathTokens (package :: packages) owner =
      .name package :: .mark ['.'] :: pathTokens packages owner :=
  rfl

theorem withoutZeroSigns_pathTokens (due : Bool) (packages : List String) (owner : String)
    (later : List Token) : withoutZeroSigns due (pathTokens packages owner ++ later) =
      pathTokens packages owner ++ withoutZeroSigns false later := by
  induction packages generalizing due with
  | nil => exact withoutZeroSigns_name
  | cons package packages ih =>
    rw [pathTokens_cons, List.cons_append, List.cons_append, withoutZeroSigns_name,
      withoutZeroSigns_other (by decide), ih]
    rfl

/-- Behind the first at-sign only the last name is left. -/
theorem withoutPackages_pathTokens (packages : List String) (owner : String) (later : List Token) :
    withoutPackages true (pathTokens packages owner ++ .mark ['@'] :: later) =
      .name owner :: .mark ['@'] :: withoutPackages false later := by
  induction packages with
  | nil => rfl
  | cons package packages ih => exact ih

/-- A reference to a static member leaves its class and its name. -/
theorem Leaves.static (packages : List String) (owner member : String) :
    Leaves true (.mark ['@'] :: pathTokens packages owner ++ [.mark ['@'], .name member]) false
      [.mark ['@'], .name owner, .mark ['@'], .name member] := by
  intro later
  have signs : withoutZeroSigns true
      (.mark ['@'] :: (pathTokens packages owner ++ .mark ['@'] :: .name member :: later)) =
      .mark ['@'] :: (pathTokens packages owner ++
        .mark ['@'] :: .name member :: withoutZeroSigns false later) := by
    rw [withoutZeroSigns_other (by decide), withoutZeroSigns_pathTokens,
      withoutZeroSigns_other (by decide), withoutZeroSigns_name]
  have packages_ : withoutPackages false (.mark ['@'] :: (pathTokens packages owner ++
      .mark ['@'] :: .name member :: withoutZeroSigns false later)) =
      .mark ['@'] :: .name owner :: .mark ['@'] :: .name member ::
        withoutPackages false (withoutZeroSigns false later) := by
    have last : withoutPackages false (.name member :: withoutZeroSigns false later) =
        .name member :: withoutPackages false (withoutZeroSigns false later) :=
      withoutPackages_cons nofun
    show _ :: withoutPackages true _ = _
    rw [withoutPackages_pathTokens, last]
  have shape : .mark ['@'] :: pathTokens packages owner ++ [.mark ['@'], .name member] ++ later =
      .mark ['@'] :: (pathTokens packages owner ++ .mark ['@'] :: .name member :: later) := by
    simp
  rw [shape, significant, signs, packages_]
  rfl

theorem cuts_owner {text rest : List Char} {owner : String} (path : Owner text owner rest) :
    ∃ packages, Cuts text (pathTokens packages owner) rest := by
  induction path with
  | last read _ => exact ⟨[], cuts_name read⟩
  | @inside _ next _ package _ read _ ih =>
    obtain ⟨packages, cuts⟩ := ih
    have dot : Cuts ('.' :: next) [.mark ['.']] next :=
      cuts_lone (skipBlanks_cons_of_not (by decide)) (by decide)
    exact ⟨package :: packages, ((cuts_name read).append dot).append cuts⟩

/-- A reference to a static member, with the packages of its class. -/
theorem Yields.static {text next rest : List Char} {owner member : String}
    (path : Owner text owner ('@' :: next)) (read : Reads Template.name next member rest) :
    Yields true ('@' :: text) [.mark ['@'], .name owner, .mark ['@'], .name member] false rest := by
  have at_ : ∀ behind, Cuts ('@' :: behind) [.mark ['@']] behind := by
    intro behind
    exact cuts_lone (skipBlanks_cons_of_not (by decide)) (by decide)
  obtain ⟨packages, cuts⟩ := cuts_owner path
  exact ⟨_, ((at_ text).append cuts).append ((at_ next).append (cuts_name read)),
    .static packages owner member⟩

/-! ## Every derivation -/

/-- A phrase leaves the listing of its tree; a loop leaves what it adds to the tree that it starts from,
and items leave their listings up to the mark that closes them. -/
def Phrase.Lists : Phrase → List Char → List Char → Prop
  | expression tree, text, rest | operation _ tree, text, rest | signed tree, text, rest
  | primary tree, text, rest => Yields true text tree.tree.listing false rest
  | joined _ left tree, text, rest | extended left tree, text, rest =>
    ∃ more, Yields false text more false rest ∧ tree.tree.listing = left.tree.listing ++ more
  | items close trees, text, rest | someItems close trees, text, rest =>
    ∃ ended behind,
      Yields true text (separatedTokens (Expr.listings (Measured.trees trees))) ended behind ∧
        skipBlanks behind = close :: rest

theorem separatedTokens_cons_cons (first second : List Token) (rest : List (List Token)) :
    separatedTokens (first :: second :: rest) =
      first ++ [.mark [',']] ++ separatedTokens (second :: rest) := by
  simp [separatedTokens, List.intercalate_cons_cons]

theorem listing_named (word : String) : (named word).listing = [.name word] := by
  unfold named
  split <;> rfl

theorem Derives.lists {phrase : Phrase} {text rest : List Char} (derived : Derives phrase text rest) :
    phrase.Lists text rest := by
  induction derived with
  | unconditional _ _ ih => exact ih.toBlanks
  | choice _ question _ colon _ decides first second =>
    have mark : Yields false _ [.mark ['?']] true _ := .mark question (by decide) (by decide)
    have markNo : Yields false _ [.mark [':']] true _ := .mark colon (by decide) (by decide)
    exact (((decides.append mark).append first).append markNo).append second
  | leftmost _ _ _ _ first more =>
    obtain ⟨list, yields, whole⟩ := more
    show Yields true _ _ false _
    rw [whole]
    exact first.append yields.afterBlanks
  | bare _ ih => exact ih.afterBlanks
  | @alone _ _ text _ => exact ⟨[], .nil false text, (List.append_nil _).symm⟩
  | @complete _ text _ => exact ⟨[], .nil false text, (List.append_nil _).symm⟩
  | join found _ _ second more =>
    obtain ⟨list, yields, whole⟩ := more
    refine ⟨_, ((Yields.operator found).append second).append yields.afterBlanks, ?_⟩
    rw [whole]
    simp [Measured.binary, Expr.listing]
  | @denied _ text _ plain _ ih =>
    have deny : Yields true ('!' :: text) [.mark ['!']] true text :=
      ⟨_, .single (finds_deny plain), .single (by decide)⟩
    exact deny.append ih
  | @negated _ text _ plain derived ih =>
    have shorter := derived.nests
    simp only [Phrase.Nests] at shorter
    exact ih.afterBlanks.minus (by omega) plain
  | negative _ read _ more =>
    obtain ⟨list, yields, whole⟩ := more
    show Yields true _ _ false _
    rw [whole]
    exact (Yields.negative read).append yields.afterBlanks
  | unsigned _ _ _ first more =>
    obtain ⟨list, yields, whole⟩ := more
    show Yields true _ _ false _
    rw [whole]
    exact first.append yields.afterBlanks
  | property read _ _ more =>
    obtain ⟨list, yields, whole⟩ := more
    refine ⟨_, (Yields.selection read).append yields.afterBlanks, ?_⟩
    rw [whole]
    exact List.append_assoc _ _ _
  | method read opens _ _ each more =>
    obtain ⟨list, yields, whole⟩ := more
    obtain ⟨ended, behind, arguments, closed⟩ := each
    have called := (Yields.selection read).append (arguments.round opens closed)
    refine ⟨_, called.append yields.afterBlanks, ?_⟩
    rw [whole]
    simp [Measured.method, Expr.listing]
  | @index _ _ _ text _ _ _ _ closed _ inside more =>
    obtain ⟨list, yields, whole⟩ := more
    have opens : Yields false ('[' :: text) [.mark ['[']] true text :=
      .mark (skipBlanks_cons_of_not (by decide)) (by decide) (by decide)
    have closes : Yields false _ [.mark [']']] false _ := .mark closed (by decide) (by decide)
    refine ⟨_, ((opens.append inside).append closes).append yields.afterBlanks, ?_⟩
    rw [whole]
    simp [Measured.index, Measured.opened, Expr.listing]
  | brackets _ closed ih => exact ih.round (skipBlanks_cons_of_not (by decide)) closed
  | @listed _ text _ _ each =>
    obtain ⟨ended, behind, items, closed⟩ := each
    have opens : Yields true ('\x7b' :: text) [.mark ['\x7b']] true text :=
      .mark (skipBlanks_cons_of_not (by decide)) (by decide) (by decide)
    have closes : Yields ended behind [.mark ['\x7d']] false _ :=
      .mark closed (by decide) (by cases ended <;> decide)
    exact (opens.append items).append closes
  | quotedText opens read =>
    have start := (Derives.quotedText opens read).opens
    refine ⟨_, .single ?_, .operand rfl⟩
    rw [start.skipBlanks_eq]
    exact finds_quoted opens read
  | unsignedNumeral digit read =>
    have start := (Derives.unsignedNumeral digit read).opens
    apply Yields.numeral
    rw [start.skipBlanks_eq]
    exact read
  | member path read _ => exact (Yields.static path read).toBlanks
  | memberCall path read opens _ each =>
    obtain ⟨ended, behind, arguments, closed⟩ := each
    exact (Yields.static path read).append (arguments.round opens closed)
  | @nameAlone word _ _ read =>
    show Yields true _ (named word).listing false _
    rw [listing_named]
    exact .name read
  | @noItems _ text _ closed => exact ⟨true, text, .nil true text, closed⟩
  | severalItems _ _ each =>
    obtain ⟨ended, behind, items, closed⟩ := each
    exact ⟨ended, behind, items.afterBlanks, closed⟩
  | @lastItem _ tree _ behind _ _ closed _ ih =>
    refine ⟨false, behind, ?_, closed⟩
    show Yields true _ (separatedTokens [tree.tree.listing]) false behind
    rw [separatedTokens, List.intercalate_singleton]
    exact ih
  | @nextItem _ _ trees _ _ _ _ _ comma others inside each =>
    obtain ⟨ended, behind, items, closed⟩ := each
    have mark : Yields false _ [.mark [',']] true _ := .mark comma (by decide) (by decide)
    refine ⟨ended, behind, ?_, closed⟩
    cases trees with
    | nil => cases others
    | cons second rest =>
      show Yields true _ (separatedTokens (_ :: _ :: _)) ended behind
      rw [separatedTokens_cons_cons]
      exact (inside.append mark).append items

/-- A template that is read is made of tokens, and they leave the listing of its tree. -/
theorem exists_tokens {template : String} {tree : Expr} (read : parse template = .ok tree) :
    ∃ all, tokens template.toList = some all ∧ significant true all = tree.listing := by
  obtain ⟨_, ⟨inside, rest, rfl, derived, ends⟩, rfl⟩ := denotes_of_parseWithin read
  obtain ⟨all, cuts, leaves⟩ : Yields true _ _ false _ := derived.lists
  refine ⟨all, tokens_of_cuts cuts ends, ?_⟩
  have whole := leaves []
  rw [List.append_nil] at whole
  rw [whole]
  exact List.append_nil _

/-- Nothing is lost, doubled or moved: the tokens of a template are the listing of its tree, but for
brackets, packages and the signs before zeros. -/
theorem tokens_eq_listing {template : String} {tree : Expr} (read : parse template = .ok tree) :
    (tokens template.toList).map (significant true) = some tree.listing := by
  obtain ⟨all, cut, left⟩ := exists_tokens read
  rw [cut, Option.map_some, left]

/-- A class with a package, brackets around an operand and around arguments, and a zero with a sign. -/
theorem tokens_eq_listing_call :
    parse "@a.B@c((x)-1, -0)" = .ok (.static "B" "c"
        [.binary (.arith .sub) (.var "x") (.literal (.number (.int 1))), .literal (.number (.int 0))]) ∧
      (tokens "@a.B@c((x)-1, -0)".toList).map (significant true) =
        some [.mark ['@'], .name "B", .mark ['@'], .name "c", .name "x", .mark ['-'], .integer 1,
          .mark [','], .integer 0] := by
  have read : parse "@a.B@c((x)-1, -0)" = .ok (.static "B" "c"
      [.binary (.arith .sub) (.var "x") (.literal (.number (.int 1))),
        .literal (.number (.int 0))]) := by
    decide +kernel
  exact ⟨read, tokens_eq_listing read⟩

/-- With all its minus signs, a template has tokens that its tree does not have. -/
theorem listing_without_sign :
    ¬∀ (template : String) (tree : Expr), parse template = .ok tree →
      (tokens template.toList).map (fun all => withoutBrackets (withoutPackages false all)) =
        some tree.listing := by
  intro equal
  have read : parse "-0" = .ok (.literal (.number (.int 0))) := by decide +kernel
  have cut : tokens "-0".toList = some [.mark ['-'], .integer 0] := by decide +kernel
  have same := equal "-0" _ read
  rw [cut] at same
  exact absurd same (by decide)

end Template

end Scriptlet
