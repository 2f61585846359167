import Mathlib.Data.List.NodupEquivFin

/-!
# Storage that is copied on write

Values lie in cells, and every handle holds one cell. A copy of a handle holds the same cell. A write
through a handle goes to its cell as long as no other handle holds that one, and otherwise to a new cell,
which the handle holds from then on.

What a handle shows is only changed by writes through that handle (`view_write`), so to those who look
through handles every copy is a value of its own.
-/

set_option autoImplicit false

namespace Scriptlet

/-- Cells with values, and handles that hold one cell each. -/
structure Storage (σ : Type) where
  cells : List σ
  handles : List Nat
  valid : ∀ cell ∈ handles, cell < cells.length

namespace Storage

variable {σ : Type}

/-- The storage without handles. -/
def empty : Storage σ :=
  ⟨[], [], nofun⟩

/-- The value that a handle shows. -/
def view (storage : Storage σ) (handle : Nat) : Option σ :=
  storage.handles[handle]?.bind (storage.cells[·]?)

/-- The number of handles, which is also the next one. -/
def size (storage : Storage σ) : Nat :=
  storage.handles.length

/-- The storage with a handle more, which holds a new cell. -/
def create (storage : Storage σ) (value : σ) : Storage σ where
  cells := storage.cells ++ [value]
  handles := storage.handles ++ [storage.cells.length]
  valid := by
    intro cell held
    rw [List.length_append, List.length_singleton]
    rcases List.mem_append.mp held with held | held
    · exact Nat.lt_succ_of_lt (storage.valid cell held)
    · rw [List.mem_singleton.mp held]
      exact Nat.lt_succ_self _

/-- The storage with a copy of a handle more, if there is that handle. -/
def share (storage : Storage σ) (source : Nat) : Storage σ where
  cells := storage.cells
  handles := storage.handles ++ storage.handles[source]?.toList
  valid := by
    intro cell held
    rcases List.mem_append.mp held with held | held
    · exact storage.valid cell held
    · exact storage.valid cell (List.mem_of_getElem? (Option.mem_toList.mp held))

/-- The storage with another value in a cell. -/
def overwrite (storage : Storage σ) (cell : Nat) (value : σ) : Storage σ where
  cells := storage.cells.set cell value
  handles := storage.handles
  valid := by
    rw [List.length_set]
    exact storage.valid

/-- The storage with a handle moved to a new cell. -/
def move (storage : Storage σ) (handle : Nat) (value : σ) : Storage σ where
  cells := storage.cells ++ [value]
  handles := storage.handles.set handle storage.cells.length
  valid := by
    intro cell held
    rw [List.length_append, List.length_singleton]
    rcases List.mem_or_eq_of_mem_set held with held | rfl
    · exact Nat.lt_succ_of_lt (storage.valid cell held)
    · exact Nat.lt_succ_self _

/-- The storage after a write through a handle, if there is that handle. -/
def write (storage : Storage σ) (handle : Nat) (value : σ) : Storage σ :=
  match storage.handles[handle]? with
  | none => storage
  | some cell =>
    if storage.handles.count cell = 1 then storage.overwrite cell value
    else storage.move handle value

/-! ## What handles show -/

variable {storage : Storage σ} {handle other : Nat} {value : σ}

/-- Every handle shows a value. -/
theorem isSome_view : (storage.view handle).isSome ↔ handle < storage.size := by
  constructor
  · intro shows
    by_contra out
    rw [view, List.getElem?_eq_none (Nat.le_of_not_lt out)] at shows
    cases shows
  · intro within
    have valid := storage.valid _ (List.getElem_mem within)
    rw [view, List.getElem?_eq_getElem within, Option.bind_some, List.getElem?_eq_getElem valid]
    rfl

/-- Further cells do not change what handles show. -/
theorem cells_append {cell : Nat} (held : cell ∈ storage.handles) (value : σ) :
    (storage.cells ++ [value])[cell]? = storage.cells[cell]? :=
  List.getElem?_append_left (storage.valid cell held)

/-- A list with at most one item more has that at its end, and its other items where they were. -/
theorem getElem?_append_toList {α : Type} (items : List α) (more : Option α) (i : Nat) :
    (items ++ more.toList)[i]? = if i = items.length then more else items[i]? := by
  rcases Nat.lt_trichotomy i items.length with before | rfl | after
  · rw [if_neg (Nat.ne_of_lt before), List.getElem?_append_left before]
  · rw [if_pos rfl, List.getElem?_append_right (Nat.le_refl _), Nat.sub_self]
    cases more <;> rfl
  · rw [if_neg (Nat.ne_of_gt after), List.getElem?_eq_none (Nat.le_of_lt after)]
    have least := Option.length_toList_le (o := more)
    exact List.getElem?_eq_none (by rw [List.length_append]; omega)

theorem view_create (storage : Storage σ) (value : σ) (handle : Nat) :
    (storage.create value).view handle =
      if handle = storage.size then some value else storage.view handle := by
  have holds : (storage.create value).handles[handle]? =
      if handle = storage.size then some storage.cells.length else storage.handles[handle]? :=
    getElem?_append_toList storage.handles (some storage.cells.length) handle
  unfold view
  rw [holds]
  by_cases new : handle = storage.size
  · rw [if_pos new, if_pos new]
    exact List.getElem?_concat_length
  · rw [if_neg new, if_neg new]
    cases old : storage.handles[handle]? with
    | none => rfl
    | some cell => exact cells_append (List.mem_of_getElem? old) value

theorem view_share (storage : Storage σ) (source handle : Nat) :
    (storage.share source).view handle =
      if handle = storage.size then storage.view source else storage.view handle := by
  have holds : (storage.share source).handles[handle]? =
      if handle = storage.size then storage.handles[source]? else storage.handles[handle]? :=
    getElem?_append_toList storage.handles storage.handles[source]? handle
  unfold view
  rw [holds]
  split <;> rfl

/-- A cell that two handles hold is held more than once. -/
theorem two_le_count {cell : Nat} (apart : handle < other)
    (held : storage.handles[handle]? = some cell) (also : storage.handles[other]? = some cell) :
    2 ≤ storage.handles.count cell := by
  obtain ⟨within, rfl⟩ := List.getElem?_eq_some_iff.mp held
  obtain ⟨withinAlso, same⟩ := List.getElem?_eq_some_iff.mp also
  refine List.duplicate_iff_two_le_count.mp (List.duplicate_iff_exists_distinct_get.mpr ?_)
  exact ⟨⟨handle, within⟩, ⟨other, withinAlso⟩, apart, rfl, same.symm⟩

/-- A cell that is held once is held by no other handle. -/
theorem ne_cell_of_count_eq_one {cell : Nat} (once : storage.handles.count cell = 1)
    (held : storage.handles[handle]? = some cell) (different : other ≠ handle) :
    storage.handles[other]? ≠ some cell := by
  intro also
  rcases Nat.lt_or_gt_of_ne different with before | after
  · have := two_le_count before also held
    omega
  · have := two_le_count after held also
    omega

theorem view_overwrite {cell : Nat} (once : storage.handles.count cell = 1)
    (held : storage.handles[handle]? = some cell) (value : σ) (other : Nat) :
    (storage.overwrite cell value).view other =
      if other = handle then some value else storage.view other := by
  have valid : cell < storage.cells.length := storage.valid cell (List.mem_of_getElem? held)
  unfold view overwrite
  by_cases same : other = handle
  · rw [if_pos same, same, held]
    exact List.getElem?_set_self valid
  · rw [if_neg same]
    have elsewhere := ne_cell_of_count_eq_one once held same
    cases holds : storage.handles[other]? with
    | none => rfl
    | some otherCell =>
      rw [holds] at elsewhere
      exact List.getElem?_set_ne fun equal => elsewhere (congrArg some equal.symm)

theorem view_move (within : handle < storage.size) (value : σ) (other : Nat) :
    (storage.move handle value).view other =
      if other = handle then some value else storage.view other := by
  unfold view move
  by_cases same : other = handle
  · rw [if_pos same, same]
    dsimp only
    rw [List.getElem?_set_self within]
    exact List.getElem?_concat_length
  · rw [if_neg same]
    dsimp only
    rw [List.getElem?_set_ne (Ne.symm same)]
    cases holds : storage.handles[other]? with
    | none => rfl
    | some cell => exact cells_append (List.mem_of_getElem? holds) value

/-- A write through a handle changes what it shows, and nothing of what other handles show. -/
theorem view_write (within : handle < storage.size) (value : σ) (other : Nat) :
    (storage.write handle value).view other =
      if other = handle then some value else storage.view other := by
  unfold write
  have held : storage.handles[handle]? = some storage.handles[handle] :=
    List.getElem?_eq_getElem within
  rw [held]
  dsimp only
  split
  · rename_i once
    exact view_overwrite once held value other
  · exact view_move within value other

/-- A write after a copy leaves the copy alone, and the next write has a cell to itself. -/
example : let storage := (((empty.create 1).share 0).write 0 2).write 0 3
    storage.cells = [1, 3] ∧ storage.view 0 = some 3 ∧ storage.view 1 = some 1 := by decide

end Storage

end Scriptlet
