import Mathlib

/-!
# Unordered containers

A hash container promises no iteration order.  `UnorderedSet` keeps its elements in some
order, and `arrange` replaces an order by any other one, so that a statement about every
arrangement covers every iteration order the container may choose.
-/

universe u

namespace Unordered

variable {α : Type u} [DecidableEq α]

/-- The order in which an iteration visits `items`: the proposed one if it visits every
item once, and otherwise the order of the list itself. -/
def arrange (order : List α → List α) (items : List α) : List α :=
  if (order items).Perm items then order items else items

theorem arrange_perm (order : List α → List α) (items : List α) :
    (arrange order items).Perm items := by
  unfold arrange
  split
  next visits => exact visits
  next => exact List.Perm.refl items

end Unordered

/-- A finite set without a promised order. -/
@[ext] structure UnorderedSet (α : Type u) where
  items : List α
  nodup : items.Nodup
  deriving DecidableEq

namespace UnorderedSet

variable {α : Type u}

instance : Membership α (UnorderedSet α) where
  mem set item := item ∈ set.items

theorem mem_def {set : UnorderedSet α} {item : α} : item ∈ set ↔ item ∈ set.items :=
  Iff.rfl

/-- The set with no elements. -/
def empty : UnorderedSet α := ⟨[], List.nodup_nil⟩

instance : EmptyCollection (UnorderedSet α) := ⟨empty⟩

@[simp] theorem items_empty : (∅ : UnorderedSet α).items = [] := rfl

@[simp] theorem notMem_empty (item : α) : item ∉ (∅ : UnorderedSet α) := by
  simp [mem_def]

/-- Number of elements. -/
def size (set : UnorderedSet α) : Nat :=
  set.items.length

variable [DecidableEq α]

instance {item : α} {set : UnorderedSet α} : Decidable (item ∈ set) :=
  inferInstanceAs (Decidable (item ∈ set.items))

/-- Add an element; a set that has it already does not change. -/
def insert (set : UnorderedSet α) (item : α) : UnorderedSet α :=
  ⟨set.items.insert item, set.nodup.insert⟩

@[simp] theorem mem_insert {set : UnorderedSet α} {item other : α} :
    other ∈ set.insert item ↔ other = item ∨ other ∈ set := by
  simp [mem_def, insert]

theorem size_insert_le (set : UnorderedSet α) (item : α) :
    (set.insert item).size ≤ set.size + 1 := by
  unfold size insert
  by_cases member : item ∈ set.items
  · rw [List.length_insert_of_mem member]
    exact Nat.le_succ _
  · rw [List.length_insert_of_not_mem member]

/-- Remove an element; a set without it does not change. -/
def erase (set : UnorderedSet α) (item : α) : UnorderedSet α :=
  ⟨set.items.erase item, set.nodup.erase item⟩

@[simp] theorem mem_erase {set : UnorderedSet α} {item other : α} :
    other ∈ set.erase item ↔ other ≠ item ∧ other ∈ set := by
  simp [mem_def, erase, set.nodup.mem_erase_iff]

end UnorderedSet
