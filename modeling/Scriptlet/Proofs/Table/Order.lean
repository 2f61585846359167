import Scriptlet.Table
import Mathlib.Data.String.Basic

/-!
# The order of tables

The names of a table increase, and an insertion keeps them so (`increasing_insert`). A name is one of a
table as soon as there is a value under it (`mem_names_iff`). Entries whose names increase are a table
already (`ofList_of_increasing`).
-/

set_option autoImplicit false

namespace Scriptlet.Table

variable {α : Type} {table : Table α} {name other : String} {value : α}

/-- The names of the table strictly increase. -/
def Increasing (table : Table α) : Prop :=
  table.names.Pairwise (· < ·)

theorem mem_names_iff : name ∈ table.names ↔ (table.find? name).isSome := by
  induction table with
  | nil => simp [names]
  | cons entry rest ih =>
    obtain ⟨key, old⟩ := entry
    rw [find?_cons]
    by_cases same : name = key
    · rw [if_pos same, same]
      exact iff_of_true List.mem_cons_self rfl
    · rw [if_neg same, ← ih]
      exact List.mem_cons.trans (or_iff_right same)

theorem mem_names_insert :
    other ∈ (table.insert name value).names ↔ other = name ∨ other ∈ table.names := by
  rw [mem_names_iff, find?_insert, mem_names_iff]
  by_cases same : other = name
  · rw [if_pos same]
    exact iff_of_true rfl (.inl same)
  · rw [if_neg same]
    exact (or_iff_right same).symm

/-- The entries of a table with one more are that one and entries that were there. -/
theorem mem_of_mem_insert {entry : String × α} (mem : entry ∈ table.insert name value) :
    entry = (name, value) ∨ entry ∈ table := by
  induction table with
  | nil => exact .inl (List.mem_singleton.mp mem)
  | cons first rest ih =>
    obtain ⟨key, old⟩ := first
    unfold insert at mem
    split at mem
    · exact List.mem_cons.mp mem
    · split at mem
      · exact (List.mem_cons.mp mem).imp_right (List.mem_cons_of_mem _)
      · rcases List.mem_cons.mp mem with rfl | mem
        · exact .inr List.mem_cons_self
        · exact (ih mem).imp_right (List.mem_cons_of_mem _)

/-- An insertion keeps the names increasing. -/
theorem increasing_insert (increasing : table.Increasing) (name : String) (value : α) :
    (table.insert name value).Increasing := by
  induction table with
  | nil => exact List.pairwise_singleton _ _
  | cons entry rest ih =>
    obtain ⟨key, old⟩ := entry
    obtain ⟨least, increasingRest⟩ := List.pairwise_cons.mp increasing
    unfold insert
    split
    · rename_i before
      refine List.pairwise_cons.mpr ⟨fun other mem => ?_, increasing⟩
      rcases List.mem_cons.mp mem with rfl | mem
      · exact before
      · exact before.trans (least other mem)
    · split
      · rename_i same
        exact List.pairwise_cons.mpr ⟨same ▸ least, increasingRest⟩
      · rename_i notBefore different
        refine List.pairwise_cons.mpr ⟨fun other mem => ?_, ih increasingRest⟩
        rcases mem_names_insert.mp mem with rfl | mem
        · exact lt_of_le_of_ne (not_lt.mp notBefore) (Ne.symm different)
        · exact least other mem

/-- An entry behind all others is added at the end. -/
theorem insert_of_greatest (greatest : ∀ other ∈ table.names, other < name) :
    table.insert name value = table ++ [(name, value)] := by
  induction table with
  | nil => rfl
  | cons entry rest ih =>
    obtain ⟨key, old⟩ := entry
    have before : key < name := greatest key List.mem_cons_self
    rw [insert, if_neg before.not_gt, if_neg before.ne',
      ih fun other member => greatest other (List.mem_cons_of_mem key member)]
    rfl

/-- Entries that are in order already are the table of themselves. -/
theorem ofList_of_increasing (increasing : table.Increasing) : ofList table = table := by
  have added : ∀ before after : Table α, (before ++ after).Increasing →
      after.foldl (fun table entry => table.insert entry.1 entry.2) before = before ++ after := by
    intro before after increasing
    induction after generalizing before with
    | nil => exact (List.append_nil before).symm
    | cons entry rest ih =>
      have greatest : ∀ other ∈ before.names, other < entry.1 := by
        rw [Increasing, names, List.map_append, List.pairwise_append] at increasing
        exact fun other member => increasing.2.2 other member entry.1 List.mem_cons_self
      rw [List.foldl_cons, insert_of_greatest greatest, ih]
      · rw [List.append_assoc]
        rfl
      · rw [List.append_assoc]
        exact increasing
  exact added [] table increasing

end Scriptlet.Table
