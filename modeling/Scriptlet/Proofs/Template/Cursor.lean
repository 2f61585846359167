import Scriptlet.Proofs.Text.Offsets
import Scriptlet.Template

/-!
# Cursors

A cursor counts bytes. It stands in a text where the characters before it take so many bytes in UTF-8 (`At`),
and these are the valid positions of the text as a string (`isValid_iff`). Any other number is past the end or
inside a character: there a text has no rest (`from?_eq_some_iff`), and no piece of it can begin or end.
-/

set_option autoImplicit false

namespace Scriptlet.Template

open Text

/-- The text from a cursor on, if a character starts there or the text ends. -/
def from? : List Char → Nat → Option (List Char)
  | text, 0 => some text
  | [], _ + 1 => none
  | c :: rest, cursor + 1 =>
    if c.utf8Size ≤ cursor + 1 then from? rest (cursor + 1 - c.utf8Size) else none

/-- The text between two cursors, if it can be cut at both. -/
def between? (text : List Char) (start stop : Nat) : Option (List Char) :=
  if start ≤ stop then (from? text start).bind (before? · (stop - start)) else none

/-- The cursor stands in the text, and the rest of the text is after it. -/
def At (text : List Char) (cursor : Nat) (rest : List Char) : Prop :=
  ∃ before, text = before ++ rest ∧ byteCount before = cursor

variable {text before rest : List Char} {c : Char} {cursor : Nat}

/-! ## Bytes -/

theorem foldl_byteCount (text : List Char) (count : Nat) :
    text.foldl (fun count c => count + c.utf8Size) count = count + byteCount text := by
  induction text generalizing count with
  | nil => rfl
  | cons c rest ih =>
    rw [byteCount, List.foldl_cons, List.foldl_cons, ih, ih (0 + c.utf8Size)]
    omega

theorem byteCount_cons (c : Char) (rest : List Char) :
    byteCount (c :: rest) = c.utf8Size + byteCount rest := by
  rw [byteCount, List.foldl_cons, foldl_byteCount, Nat.zero_add]

theorem byteCount_append (before rest : List Char) :
    byteCount (before ++ rest) = byteCount before + byteCount rest := by
  rw [byteCount, List.foldl_append, foldl_byteCount, ← byteCount]

theorem length_le_byteCount (text : List Char) : text.length ≤ byteCount text := by
  induction text with
  | nil => exact Nat.le_refl _
  | cons c rest ih =>
    have := c.utf8Size_pos
    rw [byteCount_cons, List.length_cons]
    omega

theorem utf8ByteSize_eq (text : List Char) : (String.ofList text).utf8ByteSize = byteCount text := by
  induction text with
  | nil => rfl
  | cons c rest ih =>
    have whole : String.ofList (c :: rest) = String.singleton c ++ String.ofList rest := by
      rw [String.singleton_eq_ofList, ← String.ofList_append, List.singleton_append]
    rw [whole, String.utf8ByteSize_append, String.utf8ByteSize_singleton, ih, byteCount_cons]

theorem utf8ByteSize_toList (template : String) : template.utf8ByteSize = byteCount template.toList := by
  rw [← utf8ByteSize_eq, String.ofList_toList]

/-! ## Cutting at a cursor -/

theorem from?_cons (c : Char) (rest : List Char) (cursor : Nat) :
    from? (c :: rest) (cursor + c.utf8Size) = from? rest cursor := by
  obtain ⟨size, width⟩ := Nat.exists_eq_succ_of_ne_zero (Nat.ne_of_gt c.utf8Size_pos)
  rw [width, Nat.add_succ, from?, width, if_pos (by omega)]
  congr 1
  omega

theorem before?_append (before rest : List Char) :
    before? (before ++ rest) (byteCount before) = some before := by
  induction before with
  | nil => cases rest <;> rfl
  | cons c before ih =>
    rw [byteCount_cons, Nat.add_comm, List.cons_append, before?_cons, ih]
    rfl

/-- A text has a rest from where a cursor stands in it, and from no other number. -/
theorem from?_eq_some_iff : from? text cursor = some rest ↔ At text cursor rest := by
  constructor
  · intro cut
    fun_induction from? text cursor with
    | case1 text =>
      cases cut
      exact ⟨[], rfl, rfl⟩
    | case2 => cases cut
    | case3 c tail cursor fits ih =>
      obtain ⟨before, rfl, count⟩ := ih cut
      exact ⟨c :: before, rfl, by rw [byteCount_cons]; omega⟩
    | case4 => cases cut
  · rintro ⟨before, rfl, rfl⟩
    induction before with
    | nil => cases rest <;> rfl
    | cons c before ih => rw [byteCount_cons, Nat.add_comm, List.cons_append, from?_cons, ih]

/-- The cursors that stand in a text are the valid positions of the string. -/
theorem isValid_iff :
    (String.Pos.Raw.mk cursor).IsValid (String.ofList text) ↔ ∃ rest, At text cursor rest := by
  rw [String.Pos.Raw.isValid_iff_exists_append]
  constructor
  · rintro ⟨before, rest, whole, place⟩
    refine ⟨rest.toList, before.toList, ?_, ?_⟩
    · rw [← String.toList_append, ← whole, String.toList_ofList]
    · rw [← utf8ByteSize_eq, String.ofList_toList]
      exact (congrArg String.Pos.Raw.byteIdx place).symm
  · rintro ⟨rest, before, rfl, rfl⟩
    refine ⟨String.ofList before, String.ofList rest, String.ofList_append, ?_⟩
    rw [← utf8ByteSize_eq]
    rfl

/-! ## Where a cursor stands -/

theorem at_zero (text : List Char) : At text 0 text :=
  ⟨[], rfl, rfl⟩

namespace At

/-- A cursor moves over characters by their bytes. -/
theorem append (place : At text cursor (before ++ rest)) : At text (cursor + byteCount before) rest := by
  obtain ⟨passed, rfl, rfl⟩ := place
  exact ⟨passed ++ before, (List.append_assoc ..).symm, byteCount_append ..⟩

/-- The rest fixes the cursor. -/
theorem eq_sub (place : At text cursor rest) : cursor = byteCount text - byteCount rest := by
  obtain ⟨passed, rfl, rfl⟩ := place
  rw [byteCount_append, Nat.add_sub_cancel]

theorem unique {other : Nat} (place : At text cursor rest) (again : At text other rest) : cursor = other := by
  rw [place.eq_sub, again.eq_sub]

theorem le (place : At text cursor rest) : cursor ≤ byteCount text := by
  obtain ⟨passed, rfl, rfl⟩ := place
  rw [byteCount_append]
  exact Nat.le_add_right _ _

theorem length_le (place : At text cursor rest) : rest.length ≤ byteCount text := by
  obtain ⟨passed, rfl, -⟩ := place
  have := length_le_byteCount rest
  rw [byteCount_append]
  omega

/-- What a cursor has moved over can be cut out. -/
theorem between? {stop : Nat} (start : At text cursor (before ++ rest)) (place : At text stop rest) :
    between? text cursor stop = some before := by
  have moved : stop = cursor + byteCount before := place.unique start.append
  rw [Template.between?, if_pos (by omega), from?_eq_some_iff.mpr start, moved, Nat.add_sub_cancel_left]
  exact before?_append before rest

end At

/-! ## Faults -/

/-- A fault is at the cursor before the text that the failure was reported with. -/
theorem Failure.fault_of_at {failure : Failure} {position : Nat} (place : At text position failure.rest) :
    failure.fault text = .unreadable position failure.reason := by
  rw [fault, place.eq_sub]

/-- The reader rejects the text at its first character, wherever in a template the text stands. -/
def RejectsAtStart {α : Type} (reader : Reader α) (text : List Char) (reason : SyntaxFault) : Prop :=
  ∃ failure, reader text = .error failure ∧
    ∀ before, failure.fault (before ++ text) = .unreadable (byteCount before) reason

theorem rejectsAtStart {α : Type} {reader : Reader α} {reason : SyntaxFault}
    (rejected : reader text = failAt reason text) : RejectsAtStart reader text reason :=
  ⟨_, rejected, fun before => by rw [Failure.fault, byteCount_append, Nat.add_sub_cancel]⟩

end Scriptlet.Template
