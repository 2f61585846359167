/-!
# Tables

A table maps names to values. It is kept as the list of its entries by increasing name, names
compared code point by code point, so that two tables with the same entries are the same list and
the order in which a table is shown is its own.

`find?_insert` says what an insertion changes: the entry of its name, and no other.
-/

set_option autoImplicit false

namespace Scriptlet

universe u

/-- Entries by increasing name. -/
abbrev Table (α : Type u) := List (String × α)

namespace Table

variable {α : Type u}

/-- The value under a name. -/
def find? (table : Table α) (name : String) : Option α :=
  table.lookup name

/-- Whether a name has an entry. -/
def contains (table : Table α) (name : String) : Bool :=
  (table.find? name).isSome

/-- The table with one entry added, in place of an earlier one of the same name. -/
def insert (table : Table α) (name : String) (value : α) : Table α :=
  match table with
  | [] => [(name, value)]
  | (key, old) :: rest =>
    if name < key then (name, value) :: (key, old) :: rest
    else if name = key then (name, value) :: rest
    else (key, old) :: insert rest name value

/-- The table without the entry of a name. -/
def erase (table : Table α) (name : String) : Table α :=
  table.filter (·.1 ≠ name)

/-- The names with an entry, increasing. -/
def names (table : Table α) : List String :=
  table.map (·.1)

/-- The table of a list of entries, where a later entry replaces an earlier one of its name. -/
def ofList (entries : List (String × α)) : Table α :=
  entries.foldl (fun table entry => table.insert entry.1 entry.2) []

@[simp] theorem find?_nil (name : String) : find? ([] : Table α) name = none := rfl

theorem find?_cons (key : String) (value : α) (rest : Table α) (name : String) :
    find? ((key, value) :: rest) name = if name = key then some value else find? rest name := by
  unfold find?
  rw [List.lookup_cons]
  by_cases h : name = key
  · simp [h]
  · simp [h, beq_eq_false_iff_ne.mpr h]

theorem find?_insert (table : Table α) (name other : String) (value : α) :
    (table.insert name value).find? other = if other = name then some value
      else table.find? other := by
  induction table with
  | nil => simp [insert, find?_cons]
  | cons entry rest ih =>
    obtain ⟨key, old⟩ := entry
    unfold insert
    split
    · simp [find?_cons]
    · split
      · rename_i h
        subst h
        by_cases ho : other = name <;> simp [find?_cons, ho]
      · rename_i hne
        rw [find?_cons, ih, find?_cons]
        by_cases ho : other = key
        · have : other ≠ name := fun h => hne (h.symm.trans ho)
          simp [ho]
          intro h
          exact absurd h.symm hne
        · simp [ho]

end Table

end Scriptlet
