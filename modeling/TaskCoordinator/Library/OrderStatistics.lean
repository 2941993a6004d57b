import Mathlib

/-!
# Order statistics

Sorted arrangements of a list of samples and what can be read from them: the sample of a
rank, how many samples are at most as great, and the extrema, which a single pass over the
samples also finds.
-/

namespace OrderStatistics

/-- Unsigned 64-bit numbers with the comparisons, the minimum and the maximum they have. -/
scoped instance linearOrderUInt64 : LinearOrder UInt64 where
  le_refl := UInt64.le_refl
  le_trans := fun _ _ _ => UInt64.le_trans
  le_antisymm := fun _ _ => UInt64.le_antisymm
  le_total := UInt64.le_total
  lt_iff_le_not_ge := fun x y => by
    rw [UInt64.not_le]
    exact ⟨fun less => ⟨UInt64.le_of_lt less, less⟩, And.right⟩
  toDecidableLE := inferInstance
  toMin := inferInstance
  toMax := inferInstance

section

variable {α : Type*} [LinearOrder α] {samples sorted other : List α}

/-- `sorted` has the samples in increasing order. -/
def Arranges (sorted samples : List α) : Prop :=
  sorted.Perm samples ∧ sorted.Pairwise (· ≤ ·)

theorem arranges_mergeSort (samples : List α) :
    Arranges (samples.mergeSort (· ≤ ·)) samples :=
  ⟨List.mergeSort_perm _ _, List.pairwise_mergeSort' (· ≤ ·) samples⟩

theorem Arranges.unique (first : Arranges sorted samples) (second : Arranges other samples) :
    sorted = other :=
  (first.1.trans second.1.symm).eq_of_pairwise' first.2 second.2

theorem Arranges.of_perm (arranges : Arranges sorted samples) (perm : samples.Perm other) :
    Arranges sorted other :=
  ⟨arranges.1.trans perm, arranges.2⟩

/-- In increasing order, greater ranks have greater samples. -/
theorem Arranges.le_of_rank_le {i j : Nat} {x y : α} (arranges : Arranges sorted samples)
    (before : i ≤ j) (atI : sorted[i]? = some x) (atJ : sorted[j]? = some y) : x ≤ y := by
  obtain ⟨boundI, rfl⟩ := List.getElem?_eq_some_iff.mp atI
  obtain ⟨boundJ, rfl⟩ := List.getElem?_eq_some_iff.mp atJ
  rcases before.eq_or_lt with same | less
  · subst same
    exact le_rfl
  · exact List.pairwise_iff_getElem.mp arranges.2 i j boundI boundJ less

/-- More than `i` samples are at most the one of rank `i`. -/
theorem Arranges.lt_countP {i : Nat} {x : α} (arranges : Arranges sorted samples)
    (atI : sorted[i]? = some x) : i < samples.countP (· ≤ x) := by
  have bound := (List.getElem?_eq_some_iff.mp atI).1
  have all : (sorted.take (i + 1)).countP (· ≤ x) = (sorted.take (i + 1)).length := by
    rw [List.countP_eq_length]
    intro y member
    obtain ⟨j, atJ⟩ := List.mem_iff_getElem?.mp member
    rw [List.getElem?_take] at atJ
    split at atJ
    next below => exact decide_eq_true (arranges.le_of_rank_le (Nat.le_of_lt_succ below) atJ atI)
    next => cases atJ
  have counted := (List.take_sublist (i + 1) sorted).countP_le (p := (· ≤ x))
  rw [all, List.length_take, arranges.1.countP_eq, Nat.min_eq_left bound] at counted
  exact counted

theorem min?_eq_of_perm (perm : samples.Perm other) : samples.min? = other.min? := by
  cases found : other.min? with
  | none =>
      rw [List.min?_eq_none_iff] at found ⊢
      subst found
      exact List.perm_nil.mp perm
  | some least =>
      rw [List.min?_eq_some_iff] at found ⊢
      exact ⟨perm.mem_iff.mpr found.1, fun x member => found.2 x (perm.mem_iff.mp member)⟩

/-- The running minimum of a pass that starts at or above every sample. -/
theorem isLeast_foldl_min {start : α} (nonempty : samples ≠ [])
    (above : ∀ x ∈ samples, x ≤ start) :
    IsLeast {x | x ∈ samples} (samples.foldl min start) := by
  cases samples with
  | nil => exact absurd rfl nonempty
  | cons x rest =>
      rw [List.foldl_cons, min_eq_right (above x List.mem_cons_self)]
      have found : (x :: rest).min? = some (rest.foldl min x) := List.min?_cons'
      have least := List.min?_eq_some_iff.mp found
      exact ⟨least.1, fun y member => least.2 y member⟩

/-- The running maximum of a pass that starts at or below every sample. -/
theorem isGreatest_foldl_max {start : α} (nonempty : samples ≠ [])
    (below : ∀ x ∈ samples, start ≤ x) :
    IsGreatest {x | x ∈ samples} (samples.foldl max start) := by
  cases samples with
  | nil => exact absurd rfl nonempty
  | cons x rest =>
      rw [List.foldl_cons, max_eq_right (below x List.mem_cons_self)]
      have found : (x :: rest).max? = some (rest.foldl max x) := List.max?_cons'
      have greatest := List.max?_eq_some_iff.mp found
      exact ⟨greatest.1, fun y member => greatest.2 y member⟩

end

end OrderStatistics
