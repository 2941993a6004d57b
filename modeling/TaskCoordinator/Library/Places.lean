import Mathlib

/-!
# Contents of numbered places

A component that keeps its items in finitely many numbered places, such as one queue per
thread, moves an item by changing the content of one place.  This module says how such a
change shows in what all places hold together.

Contents are weighed in a commutative monoid: by their number in `ℕ`, or by the items
themselves as a multiset.
-/

universe u v w

namespace Places

variable {ι : Type u} {α : Type v} {M : Type w} [Fintype ι] [AddCommMonoid M]

/-- What all places hold together. -/
def total (weigh : α → M) (places : ι → α) : M :=
  ∑ place, weigh (places place)

section Change

variable [DecidableEq ι] {weigh : α → M} {places : ι → α} {place : ι} {content : α} {moved : M}

/-- Putting something into one place adds it to the whole. -/
theorem total_put (grown : weigh content = weigh (places place) + moved) :
    total weigh (Function.update places place content) = total weigh places + moved := by
  have others : ∑ other ∈ Finset.univ.erase place,
      weigh (Function.update places place content other) =
        ∑ other ∈ Finset.univ.erase place, weigh (places other) := by
    apply Finset.sum_congr rfl
    intro other member
    rw [Function.update_of_ne (Finset.ne_of_mem_erase member)]
  unfold total
  rw [← Finset.add_sum_erase _ _ (Finset.mem_univ place), others, Function.update_self, grown,
    ← Finset.add_sum_erase _ (fun other => weigh (places other)) (Finset.mem_univ place)]
  exact add_right_comm _ _ _

/-- Taking something out of one place takes it from the whole. -/
theorem total_take (shrunk : weigh (places place) = weigh content + moved) :
    total weigh places = total weigh (Function.update places place content) + moved := by
  have back : Function.update (Function.update places place content) place (places place) =
      places := by
    rw [Function.update_idem, Function.update_eq_self]
  conv_lhs => rw [← back]
  apply total_put
  rw [Function.update_self, shrunk]

/-- A change that keeps the weight of a place keeps that of the whole. -/
theorem total_keep (kept : weigh content = weigh (places place)) :
    total weigh (Function.update places place content) = total weigh places := by
  have put : total weigh (Function.update places place content) = total weigh places + 0 :=
    total_put (by rw [kept, add_zero])
  rw [put, add_zero]

end Change

/-- One place holds no more than all of them. -/
theorem weigh_le_total [PartialOrder M] [CanonicallyOrderedAdd M] (weigh : α → M)
    (places : ι → α) (place : ι) : weigh (places place) ≤ total weigh places :=
  Finset.single_le_sum_of_canonicallyOrdered (f := fun place => weigh (places place))
    (Finset.mem_univ place)

/-! ## Queues -/

section Queues

variable {β : Type w} (value : α → β)

/-- The values of the items in a queue. -/
def items (queue : List α) : Multiset β :=
  queue.map value

@[simp] theorem items_nil : items value [] = 0 := rfl

@[simp] theorem items_singleton (item : α) : items value [item] = {value item} := rfl

@[simp] theorem items_append (first second : List α) :
    items value (first ++ second) = items value first + items value second := by
  simp [items]

/-- The first item of a queue, set apart from the others. -/
theorem items_cons (item : α) (rest : List α) :
    items value (item :: rest) = items value rest + {value item} := by
  rw [add_comm]
  rfl

@[simp] theorem card_items (queue : List α) : (items value queue).card = queue.length := by
  simp [items]

@[simp] theorem mem_items {queue : List α} {found : β} :
    found ∈ items value queue ↔ ∃ item ∈ queue, value item = found := by
  simp [items]

/-- The items of all places are counted place by place. -/
theorem card_total (weigh : α → Multiset β) (places : ι → α) :
    (total weigh places).card = total (fun content => (weigh content).card) places :=
  Multiset.card_sum _ _

end Queues

end Places
