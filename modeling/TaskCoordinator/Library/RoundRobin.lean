import Mathlib

/-!
# Turns

Items take turns in cyclic order.  A round of as many turns as there are items is a rotation
of them, so no item has a second turn within a round and after any number of turns two items
have had the same number of them up to one.
-/

namespace RoundRobin

variable {α : Type*}

/-- The items whose turns come, from the one at position `start` on.  A position beyond the
end counts from the beginning again. -/
def turns (items : List α) : Nat → Nat → List α
  | _, 0 => []
  | start, count + 1 => items[start % items.length]?.toList ++ turns items (start + 1) count

theorem turns_congr {items : List α} {start other : Nat}
    (same : start ≡ other [MOD items.length]) (count : Nat) :
    turns items start count = turns items other count := by
  induction count generalizing start other with
  | zero => rfl
  | succ count ih =>
      have position : start % items.length = other % items.length := same
      rw [turns, turns, position, ih (same.add_right 1)]

theorem turns_add (items : List α) (start first second : Nat) :
    turns items start (first + second) =
      turns items start first ++ turns items (start + first) second := by
  induction first generalizing start with
  | zero => rw [Nat.zero_add]; rfl
  | succ first ih =>
      rw [Nat.add_right_comm, turns, turns, ih, List.append_assoc, Nat.add_assoc start 1 first,
        Nat.add_comm 1 first]

/-- At most one round of turns is a front part of a rotation. -/
theorem turns_eq_take_rotate {items : List α} {count : Nat} (start : Nat)
    (round : count ≤ items.length) :
    turns items start count = (items.rotate start).take count := by
  induction count generalizing start with
  | zero => rfl
  | succ count ih =>
      have inside : start % items.length < items.length := Nat.mod_lt _ (by omega)
      have next : items.rotate (start + 1) = (items.rotate start).rotate 1 :=
        (List.rotate_rotate items start 1).symm
      have first : (items.rotate start).head? = items[start % items.length]? := by
        rw [← List.rotate_mod, List.head?_rotate inside]
      cases rotated : items.rotate start with
      | nil =>
          rw [List.rotate_eq_nil_iff] at rotated
          rw [rotated] at round
          exact absurd round (Nat.not_succ_le_zero count)
      | cons item rest =>
          have length : rest.length + 1 = items.length := by
            rw [← List.length_rotate items start, rotated, List.length_cons]
          rw [rotated] at first next
          rw [turns, ← first, ih (start + 1) (by omega), next, List.rotate_cons_succ,
            List.rotate_zero, List.take_append_of_le_length (by omega)]
          rfl

theorem length_turns {items : List α} (nonempty : items ≠ []) (start count : Nat) :
    (turns items start count).length = count := by
  induction count generalizing start with
  | zero => rfl
  | succ count ih =>
      have inside : start % items.length < items.length :=
        Nat.mod_lt _ (List.length_pos_iff.mpr nonempty)
      rw [turns, List.length_append, ih, List.getElem?_eq_getElem inside, Nat.add_comm]
      rfl

/-- A window of turns is the turns from its first one on. -/
theorem take_drop_turns {items : List α} (nonempty : items ≠ []) (start : Nat)
    {skipped window count : Nat} (within : skipped + window ≤ count) :
    ((turns items start count).drop skipped).take window =
      turns items (start + skipped) window := by
  obtain ⟨rest, rfl⟩ := Nat.exists_eq_add_of_le within
  rw [Nat.add_assoc, turns_add, List.drop_left' (length_turns nonempty start skipped), turns_add,
    List.take_left' (length_turns nonempty _ window)]

/-- No item has two turns within a round. -/
theorem nodup_turns {items : List α} {count : Nat} (nodup : items.Nodup) (start : Nat)
    (round : count ≤ items.length) : (turns items start count).Nodup := by
  rw [turns_eq_take_rotate start round]
  exact (List.nodup_rotate.mpr nodup).sublist (List.take_sublist _ _)

theorem perm_turns_round (items : List α) (start : Nat) :
    (turns items start items.length).Perm items := by
  rw [turns_eq_take_rotate start le_rfl, ← List.length_rotate items start, List.take_length]
  exact List.rotate_perm items start

/-- After any number of turns, two items have had the same number of them up to one. -/
theorem count_turns_le [DecidableEq α] {items : List α} (nodup : items.Nodup) {item other : α}
    (there : other ∈ items) (start count : Nat) :
    (turns items start count).count item ≤ (turns items start count).count other + 1 := by
  induction count using Nat.strong_induction_on generalizing start with
  | _ count ih =>
      by_cases round : count ≤ items.length
      · have once := List.nodup_iff_count_le_one.mp (nodup_turns nodup start round) item
        omega
      · obtain ⟨rest, rfl⟩ := Nat.exists_eq_add_of_le (Nat.le_of_not_le round)
        have positive : 0 < items.length := List.length_pos_of_mem there
        have later := ih rest (by omega) (start + items.length)
        have otherOnce : (turns items start items.length).count other = 1 := by
          rw [(perm_turns_round items start).count_eq]
          exact List.count_eq_one_of_mem nodup there
        have itemOnce := List.nodup_iff_count_le_one.mp (nodup_turns nodup start le_rfl) item
        rw [turns_add, List.count_append, List.count_append]
        omega

end RoundRobin
