import Scriptlet.Proofs.Expr.Nodes
import Scriptlet.Proofs.Template.Depth
import Scriptlet.Proofs.Template.Tokens

/-!
# Where static members are written

Every part of a template leaves an end of the text that it starts (`Derives.suffix`), so what is derived
anywhere stands somewhere in the template. Every static node of a tree that a template denotes is written
there, with its class and its own name, which are names and so have no `@` in them
(`written_of_parse`). Packages before the class are names too, and leave no trace in the tree.
-/

set_option autoImplicit false

namespace Scriptlet.Template

open Text

variable {text rest : List Char}

/-! ## Lexemes leave an end of the text -/

theorem skipBlanks_suffix (text : List Char) : skipBlanks text <:+ text :=
  List.dropWhile_suffix _

theorem name_suffix {word : String} (read : Reads name text word rest) : rest <:+ text := by
  obtain ⟨-, spelled, -⟩ := reads_name_iff.mp read
  rw [spelled]
  exact List.suffix_append _ _

theorem scanFraction_suffix (text : List Char) : (Numeral.scanFraction text).2 <:+ text := by
  unfold Numeral.scanFraction
  split
  · split
    · exact List.suffix_refl _
    · exact (List.dropWhile_suffix _).trans (List.suffix_cons _ _)
  · exact List.suffix_refl _

theorem exponentSign_suffix (text : List Char) : (exponentSign text).2 <:+ text := by
  unfold exponentSign
  split
  · exact List.suffix_cons _ _
  · exact List.suffix_cons _ _
  · exact List.suffix_refl _

theorem scanExponent_suffix (text : List Char) : (Numeral.scanExponent text).2 <:+ text := by
  cases text with
  | nil => exact List.suffix_refl _
  | cons d text =>
    rw [scanExponent_cons]
    split
    · split
      · exact List.suffix_refl _
      · exact (List.dropWhile_suffix _).trans
          ((exponentSign_suffix text).trans (List.suffix_cons _ _))
    · exact List.suffix_refl _

theorem scan_suffix (text : List Char) : (Numeral.scan text).2 <:+ text :=
  (scanExponent_suffix _).trans ((scanFraction_suffix _).trans (List.dropWhile_suffix _))

theorem numeral_suffix {negative : Bool} {value : Number}
    (read : Reads (numeral negative) text value rest) : rest <:+ text := by
  obtain ⟨-, -, rfl⟩ := reads_numeral_iff.mp read
  exact scan_suffix text

theorem quotedRest?_suffix {quote : Char} {reading : Reading (List Char) text}
    (read : quotedRest? quote text = some reading) : reading.rest <:+ text := by
  fun_induction quotedRest? quote text with
  | case1 => cases read
  | case2 escaped text ih =>
    obtain ⟨inside, found, rfl⟩ := Option.map_eq_some_iff.mp read
    exact (ih found).trans ((List.suffix_cons _ _).trans (List.suffix_cons _ _))
  | case3 text _ =>
    cases read
    exact List.suffix_cons _ _
  | case4 d text backslash other ih =>
    obtain ⟨inside, found, rfl⟩ := Option.map_eq_some_iff.mp read
    exact (ih found).trans (List.suffix_cons _ _)

theorem quoted_suffix {mark : Char} {content : String} (read : Reads quoted (mark :: text) content rest) :
    rest <:+ mark :: text := by
  obtain ⟨shorter, found⟩ := reads_quoted_iff.mp read
  exact (quotedRest?_suffix found).trans (List.suffix_cons _ _)

theorem after?_suffix {start : List Char} (found : after? start text = some rest) : rest <:+ text := by
  fun_induction after? start text with
  | case1 text =>
    cases found
    exact List.suffix_refl _
  | case2 => cases found
  | case3 p start text ih => exact (ih found).trans (List.suffix_cons _ _)
  | case4 => cases found

theorem FindsOperator.suffix {operators : List Operator} {operator : Operator}
    (found : FindsOperator operators text operator rest) : rest <:+ text := by
  obtain ⟨_, _, _, sign, _⟩ := findsOperator_iff.mp found
  exact after?_suffix sign

/-! ## Static members -/

/-- Packages before a class, with the dot after each. -/
def packagePath (packages : List String) : List Char :=
  packages.flatMap fun package => package.toList ++ ['.']

/-- The class of a static member is the last of some names joined by dots. -/
theorem Owner.spelled {owner : String} (path : Owner text owner rest) :
    ∃ packages : List String, text = packagePath packages ++ (owner.toList ++ rest) ∧
      (∀ package ∈ packages, isName package = true) ∧ isName owner = true := by
  induction path with
  | last read _ =>
    obtain ⟨valid, spelled, -⟩ := reads_name_iff.mp read
    exact ⟨[], spelled, nofun, valid⟩
  | @inside _ _ _ package _ read _ ih =>
    obtain ⟨valid, spelled, -⟩ := reads_name_iff.mp read
    obtain ⟨packages, later, validEach, validOwner⟩ := ih
    refine ⟨package :: packages, ?_, List.forall_mem_cons.mpr ⟨valid, validEach⟩, validOwner⟩
    rw [spelled, later, packagePath, packagePath, List.flatMap_cons, List.append_assoc,
      List.append_assoc, List.singleton_append]

theorem Owner.suffix {owner : String} (path : Owner text owner rest) : rest <:+ text := by
  obtain ⟨packages, spelled, -⟩ := path.spelled
  rw [spelled, ← List.append_assoc]
  exact List.suffix_append _ _

theorem suffix_of_skipBlanks {c : Char} (next : skipBlanks text = c :: rest) : rest <:+ text :=
  (List.suffix_cons c rest).trans (next ▸ skipBlanks_suffix text)

/-- Every phrase leaves an end of the text that it starts. -/
theorem Derives.suffix {phrase : Phrase} (derived : Derives phrase text rest) : rest <:+ text := by
  induction derived with
  | unconditional _ _ ih => exact (skipBlanks_suffix _).trans ih
  | choice _ question _ colon _ decides first second =>
    exact second.trans ((suffix_of_skipBlanks colon).trans (first.trans
      ((suffix_of_skipBlanks question).trans decides)))
  | leftmost _ _ _ _ first more => exact more.trans ((skipBlanks_suffix _).trans first)
  | bare _ ih => exact ih.trans (skipBlanks_suffix _)
  | alone _ => exact List.suffix_refl _
  | join found _ _ second more =>
    exact more.trans ((skipBlanks_suffix _).trans (second.trans found.suffix))
  | denied _ _ ih => exact ih.trans (List.suffix_cons _ _)
  | negated _ _ ih => exact ih.trans ((skipBlanks_suffix _).trans (List.suffix_cons _ _))
  | negative _ read _ more =>
    exact more.trans ((skipBlanks_suffix _).trans ((numeral_suffix read).trans
      ((skipBlanks_suffix _).trans (List.suffix_cons _ _))))
  | unsigned _ _ _ first more => exact more.trans ((skipBlanks_suffix _).trans first)
  | complete _ => exact List.suffix_refl _
  | property read _ _ more =>
    exact more.trans ((skipBlanks_suffix _).trans ((name_suffix read).trans
      ((skipBlanks_suffix _).trans (List.suffix_cons _ _))))
  | method read opens _ _ each more =>
    exact more.trans ((skipBlanks_suffix _).trans (each.trans ((suffix_of_skipBlanks opens).trans
      ((name_suffix read).trans ((skipBlanks_suffix _).trans (List.suffix_cons _ _))))))
  | index _ closed _ inside more =>
    exact more.trans ((skipBlanks_suffix _).trans ((suffix_of_skipBlanks closed).trans
      (inside.trans (List.suffix_cons _ _))))
  | brackets _ closed ih =>
    exact (suffix_of_skipBlanks closed).trans (ih.trans (List.suffix_cons _ _))
  | listed _ ih => exact ih.trans (List.suffix_cons _ _)
  | quotedText _ read => exact quoted_suffix read
  | unsignedNumeral _ read => exact numeral_suffix read
  | member path read _ =>
    exact (skipBlanks_suffix _).trans ((name_suffix read).trans ((List.suffix_cons _ _).trans
      (path.suffix.trans (List.suffix_cons _ _))))
  | memberCall path read opens _ each =>
    exact each.trans ((suffix_of_skipBlanks opens).trans ((name_suffix read).trans
      ((List.suffix_cons _ _).trans (path.suffix.trans (List.suffix_cons _ _)))))
  | nameAlone read => exact name_suffix read
  | noItems closed => exact suffix_of_skipBlanks closed
  | severalItems _ _ ih => exact ih.trans (skipBlanks_suffix _)
  | lastItem _ closed _ ih => exact (suffix_of_skipBlanks closed).trans ih
  | nextItem _ comma _ inside others =>
    exact others.trans ((suffix_of_skipBlanks comma).trans inside)

/-! ## Static nodes are written in their template -/

/-- The arguments that a text gives right at its start: none, or some in brackets. -/
def GivesArguments (text : List Char) (arguments : List Expr) : Prop :=
  (arguments = [] ∧ ∀ c ∈ (skipBlanks text).head?, c ≠ '(') ∨
  ∃ next items rest, skipBlanks text = '(' :: next ∧ Derives (.items ')' items) next rest ∧
    Measured.trees items = arguments

/-- The static member is written in the text, with these arguments and perhaps with packages. -/
def Written (text : List Char) (owner member : String) (arguments : List Expr) : Prop :=
  ∃ before packages after,
    text = before ++
      '@' :: (packagePath packages ++ (owner.toList ++ '@' :: (member.toList ++ after))) ∧
    (∀ package ∈ packages, isName package = true) ∧ isName owner = true ∧ isName member = true ∧
    Stops isNamePart after ∧ GivesArguments after arguments

/-- Every static node of the tree is written in the text. -/
def AllWritten (text : List Char) (tree : Expr) : Prop :=
  ∀ owner member arguments, .static owner member arguments ∈ tree.nodes →
    Written text owner member arguments

variable {whole : List Char}

theorem allWritten_of_children {tree : Expr}
    (self : ∀ owner member arguments, tree = .static owner member arguments →
      Written whole owner member arguments)
    (each : ∀ child ∈ tree.children, AllWritten whole child) : AllWritten whole tree := by
  intro owner member arguments mem
  rcases Expr.mem_nodes_iff.mp mem with same | ⟨child, below, mem⟩
  · exact self owner member arguments same.symm
  · exact each child below owner member arguments mem

theorem allWritten_pair {left right : Expr} (first : AllWritten whole left)
    (second : AllWritten whole right) : ∀ child ∈ [left, right], AllWritten whole child :=
  List.forall_mem_cons.mpr ⟨first, List.forall_mem_singleton.mpr second⟩

theorem allWritten_trees {items : List Measured} (each : ∀ item ∈ items, AllWritten whole item.tree) :
    ∀ tree ∈ Measured.trees items, AllWritten whole tree :=
  List.forall_mem_map.mpr each

theorem written_of_owner {next after : List Char} {owner member : String} {arguments : List Expr}
    (path : Owner text owner ('@' :: next)) (read : Reads name next member after)
    (gives : GivesArguments after arguments) (inside : '@' :: text <:+ whole) :
    Written whole owner member arguments := by
  obtain ⟨before, starts⟩ := inside
  obtain ⟨packages, spelled, validEach, validOwner⟩ := path.spelled
  obtain ⟨validMember, spelledMember, stop⟩ := reads_name_iff.mp read
  refine ⟨before, packages, after, ?_, validEach, validOwner, validMember, stop, gives⟩
  rw [← starts, spelled, spelledMember]

/-- The static nodes of the trees of a phrase are written in a text. -/
def Phrase.Mentions (whole : List Char) : Phrase → Prop
  | expression tree | operation _ tree | signed tree | primary tree => AllWritten whole tree.tree
  | joined _ left tree | extended left tree => AllWritten whole left.tree → AllWritten whole tree.tree
  | items _ trees | someItems _ trees => ∀ tree ∈ trees, AllWritten whole tree.tree

theorem allWritten_leaf {tree : Expr} (leaf : tree.children = [])
    (self : ∀ owner member arguments, tree ≠ .static owner member arguments) :
    AllWritten whole tree :=
  allWritten_of_children (fun owner member arguments same => absurd same (self owner member arguments))
    (by rw [leaf]; exact nofun)

theorem allWritten_named (word : String) : AllWritten whole (named word) := by
  unfold named
  split <;> exact allWritten_leaf rfl nofun

/-- The static nodes of what is derived somewhere in a text are written in it. -/
theorem Derives.mentions {phrase : Phrase} (derived : Derives phrase text rest)
    (inside : text <:+ whole) : phrase.Mentions whole := by
  induction derived with
  | unconditional _ _ ih => exact ih inside
  | choice decided question first colon _ ihDecides ihFirst ihSecond =>
    have next := (suffix_of_skipBlanks question).trans (decided.suffix.trans inside)
    have after := (suffix_of_skipBlanks colon).trans (first.suffix.trans next)
    refine allWritten_of_children nofun (List.forall_mem_cons.mpr ⟨ihDecides inside, ?_⟩)
    exact allWritten_pair (ihFirst next) (ihSecond after)
  | leftmost _ _ first _ ihFirst ihMore =>
    have behind := first.suffix.trans inside
    exact ihMore ((skipBlanks_suffix _).trans behind) (ihFirst inside)
  | bare _ ih => exact ih ((skipBlanks_suffix _).trans inside)
  | alone _ => exact id
  | join found second _ ihSecond ihMore =>
    intro left
    have next := found.suffix.trans inside
    have behind := second.suffix.trans next
    refine ihMore ((skipBlanks_suffix _).trans behind) (allWritten_of_children nofun ?_)
    exact allWritten_pair left (ihSecond next)
  | denied _ _ ih =>
    have next := (List.suffix_cons _ _).trans inside
    exact allWritten_of_children nofun (List.forall_mem_singleton.mpr (ih next))
  | negated _ _ ih =>
    have next := (skipBlanks_suffix _).trans ((List.suffix_cons _ _).trans inside)
    exact allWritten_of_children nofun (List.forall_mem_singleton.mpr (ih next))
  | negative _ read _ ih =>
    have next := (skipBlanks_suffix _).trans ((List.suffix_cons _ _).trans inside)
    have behind := (numeral_suffix read).trans next
    exact ih ((skipBlanks_suffix _).trans behind) (allWritten_leaf rfl nofun)
  | unsigned _ first _ ihFirst ihMore =>
    have behind := first.suffix.trans inside
    exact ihMore ((skipBlanks_suffix _).trans behind) (ihFirst inside)
  | complete _ => exact id
  | property read _ _ ih =>
    intro target
    have next := (skipBlanks_suffix _).trans ((List.suffix_cons _ _).trans inside)
    have behind := (name_suffix read).trans next
    refine ih ((skipBlanks_suffix _).trans behind) (allWritten_of_children nofun ?_)
    exact List.forall_mem_singleton.mpr target
  | method read opens each _ ihEach ihMore =>
    intro target
    have next := (skipBlanks_suffix _).trans ((List.suffix_cons _ _).trans inside)
    have opened := (suffix_of_skipBlanks opens).trans ((name_suffix read).trans next)
    have after := each.suffix.trans opened
    refine ihMore ((skipBlanks_suffix _).trans after) (allWritten_of_children nofun ?_)
    exact List.forall_mem_cons.mpr ⟨target, allWritten_trees (ihEach opened)⟩
  | index position closed _ ihPosition ihMore =>
    intro target
    have next := (List.suffix_cons _ _).trans inside
    have after := (suffix_of_skipBlanks closed).trans (position.suffix.trans next)
    refine ihMore ((skipBlanks_suffix _).trans after) (allWritten_of_children nofun ?_)
    exact allWritten_pair target (ihPosition next)
  | brackets _ _ ih => exact ih ((List.suffix_cons _ _).trans inside)
  | listed _ ih =>
    have next := (List.suffix_cons _ _).trans inside
    exact allWritten_of_children nofun (allWritten_trees (ih next))
  | quotedText _ _ => exact allWritten_leaf rfl nofun
  | unsignedNumeral _ _ => exact allWritten_leaf rfl nofun
  | member path read plain =>
    refine allWritten_of_children ?_ nofun
    rintro _ _ _ ⟨⟩
    exact written_of_owner path read (.inl ⟨rfl, plain⟩) inside
  | memberCall path read opens each ih =>
    have next := (List.suffix_cons _ _).trans inside
    have opened := (suffix_of_skipBlanks opens).trans ((name_suffix read).trans
      ((List.suffix_cons _ _).trans (path.suffix.trans next)))
    refine allWritten_of_children ?_ (allWritten_trees (ih opened))
    rintro _ _ _ ⟨⟩
    exact written_of_owner path read (.inr ⟨_, _, _, opens, each, rfl⟩) inside
  | nameAlone _ => exact allWritten_named _
  | noItems _ => exact nofun
  | severalItems _ _ ih => exact ih ((skipBlanks_suffix _).trans inside)
  | lastItem _ _ _ ih => exact List.forall_mem_singleton.mpr (ih inside)
  | nextItem first comma _ ihFirst ihOthers =>
    have next := (suffix_of_skipBlanks comma).trans (first.suffix.trans inside)
    exact List.forall_mem_cons.mpr ⟨ihFirst inside, ihOthers next⟩

/-- Every static node of the tree of a template is written in the template. -/
theorem written_of_parse {template : String} {tree : Expr} (parsed : parse template = .ok tree) :
    AllWritten template.toList tree := by
  obtain ⟨_, ⟨item, rest, rfl, derived, _⟩, rfl, -⟩ := parse_eq_ok_iff.mp parsed
  exact derived.mentions (List.suffix_refl _)

/-! ## Names have no mark -/

theorem not_mem_of_isName {text : String} (valid : isName text = true) : '@' ∉ text.toList := by
  obtain ⟨c, tail, chars, start, parts⟩ := isName_iff.mp valid
  rw [chars]
  intro mem
  rcases List.mem_cons.mp mem with rfl | mem
  · exact absurd start (by decide)
  · exact absurd (parts '@' mem) (by decide)

end Scriptlet.Template
