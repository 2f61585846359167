import Scriptlet.Proofs.Json.Strings

/-!
# What the JSON reader takes

`ReadsValue rules depth text value rest` says that the reader takes a value from the start of a text and
leaves the rest; it forgets the proof that the rest is shorter, so a text may be rewritten in it. What is read
depends on the first character that is no blank, so there is one lemma for each of these, and one for what
stands behind an item and behind a member.
-/

set_option autoImplicit false

namespace Scriptlet.Json

open Text

variable {rules : Rules} {depth : Nat} {text inner after rest : List Char} {value : Json} {c : Char}

/-- The reader takes the value from the start of the text and leaves the rest. -/
def ReadsValue (rules : Rules) (depth : Nat) (text : List Char) (value : Json) (rest : List Char) :
    Prop :=
  ∃ shorter, readValue rules depth text = .ok ⟨value, rest, shorter⟩

/-- The reader takes items up to the closing bracket. -/
def ReadsItems (rules : Rules) (depth : Nat) (text : List Char) (items : List Json)
    (rest : List Char) : Prop :=
  ∃ shorter, readItems rules depth text = .ok ⟨items, rest, shorter⟩

/-- The reader takes members up to the closing brace. -/
def ReadsMembers (rules : Rules) (depth : Nat) (text : List Char) (members : List (String × Json))
    (rest : List Char) : Prop :=
  ∃ shorter, readMembers rules depth text = .ok ⟨members, rest, shorter⟩

/-! ## Values by their first character -/

theorem readsValue_string {chars : List Char} (starts : skipSpace text = '"' :: inner)
    (read : ReadsString inner chars rest) :
    ReadsValue rules depth text (.string (String.ofList chars)) rest := by
  obtain ⟨shorter, found⟩ := read
  have inside := shorter_of_skipSpace starts
  refine ⟨by omega, ?_⟩
  rw [readValue]
  split
  case h_3 _ start =>
    rw [starts] at start
    cases start
    rw [found]
    rfl
  all_goals simp_all

theorem readsValue_array {items : List Json} (starts : skipSpace text = '[' :: inner)
    (more : ∀ tail, skipSpace inner ≠ ']' :: tail) (read : ReadsItems rules depth inner items rest) :
    ReadsValue rules (depth + 1) text (.array items) rest := by
  obtain ⟨shorter, found⟩ := read
  have inside := shorter_of_skipSpace starts
  refine ⟨by omega, ?_⟩
  rw [readValue]
  split
  case h_1 _ start =>
    rw [starts] at start
    cases start
    dsimp only
    split
    · rename_i closing
      exact absurd closing (more _)
    · rw [found]
      rfl
  all_goals simp_all

theorem readsValue_emptyArray (starts : skipSpace text = '[' :: inner)
    (closes : skipSpace inner = ']' :: rest) : ReadsValue rules (depth + 1) text (.array []) rest := by
  have inside := shorter_of_skipSpace starts
  have closing := shorter_of_skipSpace closes
  refine ⟨by omega, ?_⟩
  rw [readValue]
  split
  case h_1 _ start =>
    rw [starts] at start
    cases start
    dsimp only
    split
    · rename_i closing
      rw [closes] at closing
      cases closing
      rfl
    · rename_i open_
      exact absurd closes (open_ _)
  all_goals simp_all

theorem readsValue_object {members : List (String × Json)} (starts : skipSpace text = '\x7b' :: inner)
    (more : ∀ tail, skipSpace inner ≠ '\x7d' :: tail)
    (read : ReadsMembers rules depth inner members rest) :
    ReadsValue rules (depth + 1) text (.object (Table.ofList members)) rest := by
  obtain ⟨shorter, found⟩ := read
  have inside := shorter_of_skipSpace starts
  refine ⟨by omega, ?_⟩
  rw [readValue]
  split
  case h_2 _ start =>
    rw [starts] at start
    cases start
    dsimp only
    split
    · rename_i closing
      exact absurd closing (more _)
    · rw [found]
      rfl
  all_goals simp_all

theorem readsValue_emptyObject (starts : skipSpace text = '\x7b' :: inner)
    (closes : skipSpace inner = '\x7d' :: rest) :
    ReadsValue rules (depth + 1) text (.object []) rest := by
  have inside := shorter_of_skipSpace starts
  have closing := shorter_of_skipSpace closes
  refine ⟨by omega, ?_⟩
  rw [readValue]
  split
  case h_2 _ start =>
    rw [starts] at start
    cases start
    dsimp only
    split
    · rename_i closing
      rw [closes] at closing
      cases closing
      rfl
    · rename_i open_
      exact absurd closes (open_ _)
  all_goals simp_all

/-- A text that starts with a sign or a digit is a number. -/
theorem readsValue_number {digits : List Char} (starts : skipSpace text = c :: digits)
    (numeric : c = '-' ∨ isDigit c = true)
    (read : ∃ shorter, readNumber rules (skipSpace text) = .ok ⟨value, rest, shorter⟩) :
    ReadsValue rules depth text value rest := by
  obtain ⟨shorter, found⟩ := read
  refine ⟨Nat.lt_of_lt_of_le shorter (length_skipSpace_le text), ?_⟩
  rw [readValue]
  split
  case h_7 =>
    rw [found]
    rfl
  all_goals
    rename_i start
    rw [starts] at start
    cases start
    exact absurd numeric (by decide)

/-- A word is read where it stands. -/
theorem readWord_eq (word : String) (value : Json) (some_ : 0 < word.toList.length)
    (starts : after? word.toList text = some rest) :
    ∃ shorter, readWord word value text = .ok ⟨value, rest, shorter⟩ := by
  refine ⟨shorter_of_after? starts some_, ?_⟩
  unfold readWord
  split
  · rename_i found
    rw [starts] at found
    cases found
    rw [dif_pos some_]
  · rename_i missing
    rw [starts] at missing
    cases missing

theorem readsValue_null (starts : skipSpace text = 'n' :: 'u' :: 'l' :: 'l' :: rest) :
    ReadsValue rules depth text .null rest := by
  obtain ⟨shorter, found⟩ := readWord_eq "null" .null (by decide)
    (show after? _ ('n' :: 'u' :: 'l' :: 'l' :: rest) = some rest from by simp [after?])
  refine ⟨Nat.lt_of_lt_of_le shorter (starts ▸ length_skipSpace_le text), ?_⟩
  rw [readValue]
  split
  case h_4 _ start =>
    rw [starts] at start
    cases start
    rw [found]
    rfl
  case h_7 => simp_all
  all_goals
    rename_i start
    rw [starts] at start
    cases start

theorem readsValue_true (starts : skipSpace text = 't' :: 'r' :: 'u' :: 'e' :: rest) :
    ReadsValue rules depth text (.bool true) rest := by
  obtain ⟨shorter, found⟩ := readWord_eq "true" (.bool true) (by decide)
    (show after? _ ('t' :: 'r' :: 'u' :: 'e' :: rest) = some rest from by simp [after?])
  refine ⟨Nat.lt_of_lt_of_le shorter (starts ▸ length_skipSpace_le text), ?_⟩
  rw [readValue]
  split
  case h_5 _ start =>
    rw [starts] at start
    cases start
    rw [found]
    rfl
  case h_7 => simp_all
  all_goals
    rename_i start
    rw [starts] at start
    cases start

theorem readsValue_false (starts : skipSpace text = 'f' :: 'a' :: 'l' :: 's' :: 'e' :: rest) :
    ReadsValue rules depth text (.bool false) rest := by
  obtain ⟨shorter, found⟩ := readWord_eq "false" (.bool false) (by decide)
    (show after? _ ('f' :: 'a' :: 'l' :: 's' :: 'e' :: rest) = some rest from by simp [after?])
  refine ⟨Nat.lt_of_lt_of_le shorter (starts ▸ length_skipSpace_le text), ?_⟩
  rw [readValue]
  split
  case h_6 _ start =>
    rw [starts] at start
    cases start
    rw [found]
    rfl
  case h_7 => simp_all
  all_goals
    rename_i start
    rw [starts] at start
    cases start

/-! ## Items and members -/

/-- What stands behind an item: the closing bracket, or a comma and more items. -/
inductive ItemsRest (rules : Rules) (depth : Nat) : List Char → List Json → List Char → Prop
  | close {after rest : List Char} (closes : skipSpace after = ']' :: rest) :
    ItemsRest rules depth after [] rest
  | more {after inner rest : List Char} {items : List Json} (goes : skipSpace after = ',' :: inner)
    (read : ReadsItems rules depth inner items rest) : ItemsRest rules depth after items rest

/-- What stands behind a member: the closing brace, or a comma and more members. -/
inductive MembersRest (rules : Rules) (depth : Nat) :
    List Char → List (String × Json) → List Char → Prop
  | close {after rest : List Char} (closes : skipSpace after = '\x7d' :: rest) :
    MembersRest rules depth after [] rest
  | more {after inner rest : List Char} {members : List (String × Json)}
    (goes : skipSpace after = ',' :: inner) (read : ReadsMembers rules depth inner members rest) :
    MembersRest rules depth after members rest

theorem readsItems_cons {items : List Json} (item : ReadsValue rules depth text value after)
    (tail : ItemsRest rules depth after items rest) :
    ReadsItems rules depth text (value :: items) rest := by
  obtain ⟨shorter, found⟩ := item
  unfold ReadsItems
  rw [readItems, found]
  dsimp only
  cases tail with
  | close closes =>
    have inside := shorter_of_skipSpace closes
    refine ⟨by omega, ?_⟩
    split
    case h_2 _ start =>
      rw [closes] at start
      cases start
      rfl
    all_goals simp_all
  | more goes read =>
    obtain ⟨shorter', found'⟩ := read
    have inside := shorter_of_skipSpace goes
    refine ⟨by omega, ?_⟩
    split
    case h_1 _ start =>
      rw [goes] at start
      cases start
      rw [found']
      rfl
    all_goals simp_all

theorem readsMembers_cons {name colon valued : List Char} {members : List (String × Json)}
    (starts : skipSpace text = '"' :: inner) (named : ReadsString inner name colon)
    (separated : skipSpace colon = ':' :: valued) (item : ReadsValue rules depth valued value after)
    (tail : MembersRest rules depth after members rest) :
    ReadsMembers rules depth text ((String.ofList name, value) :: members) rest := by
  obtain ⟨shorterName, read⟩ := named
  obtain ⟨shorter, found⟩ := item
  have opening := shorter_of_skipSpace starts
  have middle := shorter_of_skipSpace separated
  unfold ReadsMembers
  rw [readMembers]
  split
  case h_1 _ start =>
    rw [starts] at start
    cases start
    rw [read]
    dsimp only
    split
    case h_1 _ start =>
      rw [separated] at start
      cases start
      rw [found]
      dsimp only
      cases tail with
      | close closes =>
        have inside := shorter_of_skipSpace closes
        refine ⟨by omega, ?_⟩
        split
        case h_2 _ start =>
          rw [closes] at start
          cases start
          rfl
        all_goals simp_all
      | more goes read =>
        obtain ⟨shorter', found'⟩ := read
        have inside := shorter_of_skipSpace goes
        refine ⟨by omega, ?_⟩
        split
        case h_1 _ start =>
          rw [goes] at start
          cases start
          rw [found']
          rfl
        all_goals simp_all
    all_goals simp_all
  all_goals simp_all

end Scriptlet.Json
