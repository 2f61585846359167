import Scriptlet.Proofs.Evaluation.Depth
import Scriptlet.Proofs.Template.GrammarWalkers
import Scriptlet.Proofs.Template.Limits

/-!
# The limits on templates

What a template denotes is a matter of the grammar alone (`Denotes`): a tree, the height that is handed
on with it, and the number of nested expressions and operands that are open at the same time, the whole
expression being the outermost. Under any limits a template that denotes something is read as that or is
too deep, and one that denotes nothing is not read (`parseWithin_eq_ok_iff`, `tooDeep_of_denotes`). So the
limits of the language cut off exactly what exceeds them and change nothing else (`limits_exact`).

The readers look at the height of a tree. A walk that hands heights on with the trees, and checks only these,
comes to the same tree and to the same fault under any limits (`ExactLimits.handed`, `ExactLimits.refused`).
-/

set_option autoImplicit false

namespace Scriptlet.Template

open Text

variable {limits : Limits} {template : String} {item other : Measured} {tree : Expr}

/-- As a whole and up to blanks at its end, the template is derived as the tree with its measures; the
expression that it is counts as open. -/
def Denotes (template : String) (item : Measured) : Prop :=
  ∃ (inside : Measured) (rest : List Char), inside.opened = item ∧
    Derives (.expression inside) template.toList rest ∧ skipBlanks rest = []

/-- No template nests deeper than it is long. -/
theorem Denotes.nesting_le (denotes : Denotes template item) :
    item.nesting ≤ template.toList.length := by
  obtain ⟨inside, rest, rfl, derived, _⟩ := denotes
  have nests := derived.nests
  simp only [Phrase.Nests, Measured.opened] at nests ⊢
  omega

/-- The height that is handed on with the tree of a template is its height. -/
theorem Denotes.exact_ (denotes : Denotes template item) : item.Exact := by
  obtain ⟨inside, rest, rfl, derived, _⟩ := denotes
  exact derived.exact_

/-- A template that denotes something has more in it than blanks. -/
theorem Denotes.opens (denotes : Denotes template item) : Opens (skipBlanks template.toList) := by
  obtain ⟨_, _, _, derived, _⟩ := denotes
  exact derived.opens

/-! ## Any limits -/

theorem admitLeaves_standard : Limits.standard.AdmitLeaves := by
  intro tree single
  show decide (tree.height ≤ 128) = true
  rw [single]
  rfl

theorem admitLeaves_of_height_eq_none (unbounded : limits.height = .none) : limits.AdmitLeaves := by
  intro tree _
  rw [Limits.admits, Limits.allows, unbounded]

/-- The outermost reader takes what a template denotes, if it fits. -/
theorem takes_of_denotes (leaves : limits.AdmitLeaves) (denotes : Denotes template item) :
    ∃ rest, skipBlanks rest = [] ∧
      Takes (item.Fits limits (limits.levels template.toList))
        (within limits (limits.levels template.toList)).expression template.toList item.tree rest := by
  obtain ⟨inside, rest, rfl, derived, ends⟩ := denotes
  exact ⟨rest, ends, takes_opened_expression (fun depth => derived.obeys leaves depth) _⟩

theorem parseWithin_of_denotes (leaves : limits.AdmitLeaves) (denotes : Denotes template item)
    (fits : item.Fits limits (limits.levels template.toList)) :
    parseWithin limits template = .ok item.tree := by
  obtain ⟨rest, ends, takes⟩ := takes_of_denotes leaves denotes
  rw [parseWithin, wholeText_of_reads (takes.reads fits) ends]
  rfl

theorem tooDeep_of_denotes (leaves : limits.AdmitLeaves) (denotes : Denotes template item)
    (exceeds : ¬item.Fits limits (limits.levels template.toList)) :
    ∃ position, parseWithin limits template = .error (.unreadable position .tooDeep) := by
  obtain ⟨rest, _, takes⟩ := takes_of_denotes leaves denotes
  obtain ⟨behind, failed⟩ := takes.deep exceeds
  refine ⟨byteCount template.toList - byteCount behind, ?_⟩
  rw [parseWithin, wholeText, failed]
  rfl

/-- Under any limits, only what a template denotes is read. -/
theorem denotes_of_parseWithin (done : parseWithin limits template = .ok tree) :
    ∃ item, Denotes template item ∧ item.tree = tree := by
  unfold parseWithin at done
  cases read : wholeText limits template.toList with
  | error failure =>
    rw [read] at done
    cases done
  | ok whole =>
    rw [read] at done
    cases done
    obtain ⟨inside, rest, value, derived, ends⟩ := derives_of_wholeText read
    exact ⟨inside.opened, ⟨inside, rest, rfl, derived, ends⟩, value⟩

/-- Under any limits, a template is read as what it denotes if that fits. -/
theorem parseWithin_eq_ok_iff (leaves : limits.AdmitLeaves) :
    parseWithin limits template = .ok tree ↔ ∃ item, Denotes template item ∧ item.tree = tree ∧
      item.Fits limits (limits.levels template.toList) := by
  constructor
  · intro done
    obtain ⟨item, denotes, value⟩ := denotes_of_parseWithin done
    refine ⟨item, denotes, value, ?_⟩
    apply Classical.byContradiction
    intro exceeds
    obtain ⟨position, failed⟩ := tooDeep_of_denotes leaves denotes exceeds
    cases done.symm.trans failed
  · rintro ⟨item, denotes, rfl, fits⟩
    exact parseWithin_of_denotes leaves denotes fits

/-! ## No limits -/

/-- Without limits everything fits. -/
theorem Denotes.fits_none (denotes : Denotes template item) :
    item.Fits .none (Limits.none.levels template.toList) :=
  ⟨Nat.le_succ_of_le denotes.nesting_le, admits_none _⟩

/-- Without limits, a template is read as what it denotes. -/
theorem parseWithin_none_eq_ok_iff :
    parseWithin .none template = .ok tree ↔ ∃ item, Denotes template item ∧ item.tree = tree := by
  rw [parseWithin_eq_ok_iff (admitLeaves_of_height_eq_none rfl)]
  refine exists_congr fun item => ⟨fun h => ⟨h.1, h.2.1⟩, fun h => ⟨h.1, h.2, h.1.fits_none⟩⟩

/-- A limit on nesting alone tells which nesting a template has. -/
theorem Denotes.nesting_le_of_denotes (denotes : Denotes template item)
    (also : Denotes template other) : other.nesting ≤ item.nesting := by
  have leaves : Limits.AdmitLeaves ⟨some item.nesting, .none⟩ := admitLeaves_of_height_eq_none rfl
  have done := parseWithin_of_denotes leaves denotes ⟨Nat.le_refl _, rfl⟩
  apply Classical.byContradiction
  intro exceeds
  obtain ⟨position, failed⟩ := tooDeep_of_denotes leaves also fun fits => exceeds fits.nesting
  cases done.symm.trans failed

/-- A template denotes one tree, with one height and one nesting. -/
theorem Denotes.unique (denotes : Denotes template item) (also : Denotes template other) :
    item = other := by
  have done := parseWithin_none_eq_ok_iff.mpr ⟨item, denotes, rfl⟩
  have doneAlso := parseWithin_none_eq_ok_iff.mpr ⟨other, also, rfl⟩
  have trees : item.tree = other.tree := Except.ok.inj (done.symm.trans doneAlso)
  have heights : item.height = other.height := by rw [denotes.exact_, also.exact_, trees]
  have nestings : item.nesting = other.nesting :=
    Nat.le_antisymm (also.nesting_le_of_denotes denotes) (denotes.nesting_le_of_denotes also)
  cases item
  cases other
  cases trees
  cases heights
  cases nestings
  rfl

/-! ## The limits of the language -/

/-- The limits of the language cut off what exceeds them, and change nothing else. -/
structure ExactLimits (template : String) : Prop where
  /-- Without limits, a template is read as what it denotes. -/
  unlimited : ∀ tree, parseWithin .none template = .ok tree ↔
    ∃ item, Denotes template item ∧ item.tree = tree
  /-- What it denotes has one height and one nesting. -/
  unique : ∀ {item other}, Denotes template item → Denotes template other → item = other
  /-- Within the limits, it is read as without them. -/
  accepted : ∀ tree, parse template = .ok tree ↔ parseWithin .none template = .ok tree ∧
    tree.height ≤ 128 ∧ ∀ item, Denotes template item → item.nesting ≤ 128
  /-- What is only too tall or too deeply nested is rejected as such. -/
  tooDeep : ∀ tree, parseWithin .none template = .ok tree →
    (128 < tree.height ∨ ∃ item, Denotes template item ∧ 128 < item.nesting) →
      ∃ position, parse template = .error (.unreadable position .tooDeep)
  /-- What cannot be read without limits cannot be read. -/
  rejected : ∀ fault, parseWithin .none template = .error fault → ∃ fault, parse template = .error fault
  /-- Every part of an expression hands on the heights of its trees. -/
  heights : ∀ {phrase text rest}, Derives phrase text rest → phrase.Exact
  /-- The walk that checks the heights handed on reads what is read, and hands on the height of it. -/
  handed : ∀ limits tree height,
    (∃ last, (walkWithin limits template).outcome = .ok (⟨tree, height⟩, last)) ↔
      parseWithin limits template = .ok tree ∧ height = tree.height
  /-- It rejects what is not read, in the same place and for the same reason. -/
  refused : ∀ limits position reason,
    (walkWithin limits template).outcome = .error (.rejected position reason) ↔
      parseWithin limits template = .error (.unreadable position reason)
  /-- No evaluation of a template goes deeper than the limit on heights. -/
  recursion : ∀ tree, parse template = .ok tree → ∀ scope, tree.recursion scope ≤ 128

theorem fits_standard {depth : Nat} :
    item.Fits .standard depth ↔ item.nesting ≤ depth ∧ item.tree.height ≤ 128 :=
  ⟨fun fits => ⟨fits.nesting, of_decide_eq_true fits.height⟩, fun h => ⟨h.1, decide_eq_true h.2⟩⟩

theorem parse_eq_ok_iff : parse template = .ok tree ↔
    ∃ item, Denotes template item ∧ item.tree = tree ∧ item.nesting ≤ 128 ∧ tree.height ≤ 128 := by
  rw [parse, parseWithin_eq_ok_iff admitLeaves_standard]
  refine exists_congr fun item => and_congr_right fun _ => and_congr_right fun value => ?_
  rw [← value]
  exact fits_standard

theorem limits_exact (template : String) : ExactLimits template where
  unlimited _ := parseWithin_none_eq_ok_iff
  unique := Denotes.unique
  accepted tree := by
    rw [parse_eq_ok_iff, parseWithin_none_eq_ok_iff]
    constructor
    · rintro ⟨item, denotes, value, nested, low⟩
      refine ⟨⟨item, denotes, value⟩, low, fun other also => ?_⟩
      rw [also.unique denotes]
      exact nested
    · rintro ⟨⟨item, denotes, value⟩, low, nested⟩
      exact ⟨item, denotes, value, nested item denotes, low⟩
  tooDeep tree read exceeds := by
    obtain ⟨item, denotes, rfl⟩ := parseWithin_none_eq_ok_iff.mp read
    refine tooDeep_of_denotes admitLeaves_standard denotes fun fits => ?_
    have within_ := fits_standard.mp fits
    rcases exceeds with tall | ⟨other, also, nested⟩
    · exact Nat.not_le_of_lt tall within_.2
    · rw [also.unique denotes] at nested
      exact Nat.not_le_of_lt nested within_.1
  rejected fault failed := by
    cases done : parse template with
    | error other => exact ⟨other, rfl⟩
    | ok tree =>
      obtain ⟨item, denotes, value, _⟩ := parse_eq_ok_iff.mp done
      cases failed.symm.trans (parseWithin_none_eq_ok_iff.mpr ⟨item, denotes, value⟩)
  heights := Derives.exact_
  handed _ _ _ := outcome_walkWithin_eq_ok_iff
  refused _ _ _ := outcome_walkWithin_eq_error_iff
  recursion tree done scope := by
    obtain ⟨_, _, _, _, low⟩ := parse_eq_ok_iff.mp done
    exact Nat.le_trans (tree.recursion_le_height scope) low

end Scriptlet.Template
