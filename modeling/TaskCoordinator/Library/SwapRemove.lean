import Mathlib

/-!
# Removal by swapping with the last element

A vector that need not keep its order removes an element in constant time: the last
element takes its place, and the vector gets one shorter.  This module says which elements
such a removal leaves, and where.  A new element is pushed at the end.
-/

universe u

namespace SwapRemove

variable {α : Type u} {values : List α} {index : Nat} {last : α}

/-- Positions after the removal: the last element stands at `index`, and the others where
they were. -/
theorem getElem?_removed (inside : index < values.length) (position : Nat) :
    (values.set index last).dropLast[position]? =
      if position + 1 < values.length then
        if position = index then some last else values[position]?
      else none := by
  simp only [List.getElem?_dropLast, List.length_set, List.getElem?_set]
  split_ifs <;> first | rfl | omega

/-- Positions after a push: the new element stands at the end, and the others where they
were. -/
theorem getElem?_pushed_eq_some {pushed value : α} {position : Nat} :
    (values ++ [pushed])[position]? = some value ↔
      values[position]? = some value ∨ position = values.length ∧ value = pushed := by
  rw [List.getElem?_append]
  split
  next inside => simp [Nat.ne_of_lt inside]
  next outside =>
    rw [List.getElem?_singleton, List.getElem?_eq_none (not_lt.mp outside)]
    have atEnd : position - values.length = 0 ↔ position = values.length := by omega
    simp [atEnd, eq_comm]

/-- The position of the last element. -/
theorem getElem?_last (final : values.getLast? = some last) :
    values[values.length - 1]? = some last := by
  rw [← final, List.getLast?_eq_getElem?]

variable {removed : α}

/-- The elements after the removal are all but the removed one. -/
theorem mem_removed (nodup : values.Nodup) (final : values.getLast? = some last)
    (stored : values[index]? = some removed) {value : α} :
    value ∈ (values.set index last).dropLast ↔ value ∈ values ∧ value ≠ removed := by
  have inside : index < values.length := (List.getElem?_eq_some_iff.mp stored).1
  have lastStored := getElem?_last final
  constructor
  · intro member
    obtain ⟨position, found⟩ := List.mem_iff_getElem?.mp member
    rw [getElem?_removed inside] at found
    split at found
    next bound =>
      have elsewhere : ∃ other, other < values.length ∧ other ≠ index ∧
          values[other]? = some value := by
        split at found
        next same =>
          cases found
          exact ⟨values.length - 1, by omega, by omega, lastStored⟩
        next different => exact ⟨position, by omega, different, found⟩
      obtain ⟨other, otherBound, different, foundOther⟩ := elsewhere
      refine ⟨List.mem_of_getElem? foundOther, fun equal => different ?_⟩
      apply (List.getElem?_inj otherBound nodup).mp
      rw [foundOther, stored, equal]
    next => cases found
  · rintro ⟨member, different⟩
    obtain ⟨position, found⟩ := List.mem_iff_getElem?.mp member
    have bound : position < values.length := (List.getElem?_eq_some_iff.mp found).1
    have apart : position ≠ index := by
      intro equal
      rw [equal, stored] at found
      exact different (Option.some.inj found).symm
    apply List.mem_iff_getElem?.mpr
    by_cases isLast : position + 1 = values.length
    · refine ⟨index, ?_⟩
      have equal : value = last := by
        rw [show position = values.length - 1 by omega, lastStored] at found
        exact (Option.some.inj found).symm
      rw [getElem?_removed inside, if_pos (by omega), if_pos rfl, equal]
    · refine ⟨position, ?_⟩
      rw [getElem?_removed inside, if_pos (by omega), if_neg apart, found]

end SwapRemove
