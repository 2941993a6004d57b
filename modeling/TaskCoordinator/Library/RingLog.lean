import Mathlib

/-!
# Bounded logs in a ring of slots

A ring log keeps its entries in a fixed number of slots between a read and a write
pointer.  One slot always stays free, so equal pointers mean an empty log.  Adding to a
full log moves the read pointer past the oldest entry.  This module relates the ring to
the list of its pending entries, oldest first.
-/

universe u

/-- A ring of `size` slots.  Both pointers name a slot of the ring. -/
@[ext] structure RingLog (α : Type u) (size : Nat) where
  slots : Nat → α
  read : Nat
  write : Nat
  read_lt : read < size
  write_lt : write < size

namespace RingLog

variable {α : Type u} {size : Nat}

/-- A ring whose slots all hold `value` and whose pointers are at the first slot. -/
def empty (value : α) (positive : 0 < size) : RingLog α size where
  slots := fun _ => value
  read := 0
  write := 0
  read_lt := positive
  write_lt := positive

/-- Both pointers return to the first slot; the slots keep their contents. -/
def reset (log : RingLog α size) : RingLog α size where
  slots := log.slots
  read := 0
  write := 0
  read_lt := Nat.zero_lt_of_lt log.read_lt
  write_lt := Nat.zero_lt_of_lt log.read_lt

/-- The oldest pending entry, meaningful when the pointers differ. -/
def head (log : RingLog α size) : α :=
  log.slots log.read

/-- Move the read pointer past the oldest entry. -/
def advance (log : RingLog α size) : RingLog α size where
  slots := log.slots
  read := (log.read + 1) % size
  write := log.write
  read_lt := Nat.mod_lt _ (Nat.zero_lt_of_lt log.read_lt)
  write_lt := log.write_lt

/-- Move the read pointer past all entries. -/
def drain (log : RingLog α size) : RingLog α size where
  slots := log.slots
  read := log.write
  write := log.write
  read_lt := log.write_lt
  write_lt := log.write_lt

/-- Store `value` at the write pointer.  When that fills the last free slot, the oldest
entry is dropped first. -/
def add (log : RingLog α size) (value : α) : RingLog α size where
  slots := Function.update log.slots log.write value
  read := if (log.write + 1) % size = log.read then (log.read + 1) % size else log.read
  write := (log.write + 1) % size
  read_lt := by
    split
    · exact Nat.mod_lt _ (Nat.zero_lt_of_lt log.read_lt)
    · exact log.read_lt
  write_lt := Nat.mod_lt _ (Nat.zero_lt_of_lt log.read_lt)

/-- Number of entries between the pointers. -/
def pendingCount (log : RingLog α size) : Nat :=
  (log.write + size - log.read) % size

/-- The entries between the pointers, oldest first. -/
def pending (log : RingLog α size) : List α :=
  (List.range log.pendingCount).map fun offset => log.slots ((log.read + offset) % size)

/-- The second log is reached from the first by adding exactly the given values, in this order,
and moving the read pointer or resetting the log in between. -/
inductive Grows (log : RingLog α size) : List α → RingLog α size → Prop where
  | refl : Grows log [] log
  | add {added : List α} {later : RingLog α size} (grows : Grows log added later) (value : α) :
      Grows log (added ++ [value]) (later.add value)
  | advance {added : List α} {later : RingLog α size} (grows : Grows log added later) :
      Grows log added later.advance
  | reset {added : List α} {later : RingLog α size} (grows : Grows log added later) :
      Grows log added later.reset

theorem Grows.trans {log middle final : RingLog α size} {first second : List α}
    (before : log.Grows first middle) (after : middle.Grows second final) :
    log.Grows (first ++ second) final := by
  induction after with
  | refl =>
      rw [List.append_nil]
      exact before
  | add _ value ih =>
      rw [← List.append_assoc]
      exact ih.add value
  | advance _ ih => exact ih.advance
  | reset _ ih => exact ih.reset

/-! ## Pointer arithmetic -/

theorem pendingCount_eq (log : RingLog α size) :
    log.pendingCount =
      if log.read ≤ log.write then log.write - log.read
      else log.write + size - log.read := by
  have readBound := log.read_lt
  have writeBound := log.write_lt
  unfold pendingCount
  split
  · rw [show log.write + size - log.read = log.write - log.read + size by omega,
      Nat.add_mod_right, Nat.mod_eq_of_lt (by omega)]
  · rw [Nat.mod_eq_of_lt (by omega)]

/-- An index less than two rounds of the ring wraps at most once. -/
theorem wrap_eq {index : Nat} (bound : index < size + size) :
    index % size = if index < size then index else index - size := by
  split
  next small => exact Nat.mod_eq_of_lt small
  next large =>
    rw [Nat.mod_eq_sub_mod (by omega), Nat.mod_eq_of_lt (by omega)]

theorem pendingCount_lt (log : RingLog α size) : log.pendingCount < size :=
  Nat.mod_lt _ (Nat.zero_lt_of_lt log.read_lt)

theorem pendingCount_eq_zero {log : RingLog α size} :
    log.pendingCount = 0 ↔ log.read = log.write := by
  have readBound := log.read_lt
  have writeBound := log.write_lt
  rw [pendingCount_eq]
  split <;> omega

@[simp] theorem length_pending (log : RingLog α size) :
    log.pending.length = log.pendingCount := by
  simp [pending]

theorem pending_eq_nil {log : RingLog α size} :
    log.pending = [] ↔ log.read = log.write := by
  rw [← List.length_eq_zero_iff, length_pending, pendingCount_eq_zero]

/-- Moving the read pointer leaves one entry less. -/
theorem pendingCount_advance {log : RingLog α size} (nonempty : log.read ≠ log.write) :
    log.pendingCount = log.advance.pendingCount + 1 := by
  have readBound := log.read_lt
  have writeBound := log.write_lt
  have wrapped : (log.read + 1) % size =
      if log.read + 1 < size then log.read + 1 else log.read + 1 - size :=
    wrap_eq (by omega)
  simp only [pendingCount_eq, advance, wrapped]
  split_ifs <;> omega

/-! ## The list of pending entries -/

@[simp] theorem pending_empty (value : α) (positive : 0 < size) :
    (empty value positive).pending = [] := by
  simp [pending_eq_nil, empty]

@[simp] theorem pending_reset (log : RingLog α size) : log.reset.pending = [] := by
  simp [pending_eq_nil, reset]

@[simp] theorem pending_drain (log : RingLog α size) : log.drain.pending = [] := by
  simp [pending_eq_nil, drain]

theorem drain_of_empty {log : RingLog α size} (empty : log.read = log.write) :
    log.drain = log := by
  simp [RingLog.ext_iff, drain, empty]

/-- An `advance` before a `drain` makes no difference. -/
theorem drain_advance (log : RingLog α size) : log.advance.drain = log.drain := rfl

/-- The head is the oldest pending entry, and `advance` removes it. -/
theorem pending_advance {log : RingLog α size} (nonempty : log.read ≠ log.write) :
    log.pending = log.head :: log.advance.pending := by
  have readBound := log.read_lt
  simp only [pending, pendingCount_advance nonempty, List.range_succ_eq_map, List.map_cons,
    List.map_map, head, Nat.add_zero, Nat.mod_eq_of_lt readBound]
  congr 1
  apply List.map_congr_left
  intro offset _
  simp only [Function.comp_apply, advance, Nat.mod_add_mod]
  congr 2
  omega

/-- The slot at the write pointer is not one of the pending entries. -/
theorem wrap_ne_write (log : RingLog α size) {offset : Nat}
    (inside : offset < log.pendingCount) : (log.read + offset) % size ≠ log.write := by
  have readBound := log.read_lt
  have writeBound := log.write_lt
  have countBound := log.pendingCount_lt
  rw [wrap_eq (by omega)]
  rw [pendingCount_eq] at inside
  split_ifs at inside ⊢ <;> omega

/-- The slot after the last pending entry is the one at the write pointer. -/
theorem wrap_pendingCount (log : RingLog α size) :
    (log.read + log.pendingCount) % size = log.write := by
  have readBound := log.read_lt
  have writeBound := log.write_lt
  have countBound := log.pendingCount_lt
  rw [wrap_eq (by omega), pendingCount_eq]
  split_ifs <;> omega

/-- Adding to a log with a free slot to spare appends the entry. -/
theorem pending_add_of_room {log : RingLog α size} (value : α)
    (room : log.pendingCount + 1 < size) :
    (log.add value).pending = log.pending ++ [value] := by
  have readBound := log.read_lt
  have writeBound := log.write_lt
  have wrapped : (log.write + 1) % size =
      if log.write + 1 < size then log.write + 1 else log.write + 1 - size :=
    wrap_eq (by omega)
  have count := log.pendingCount_eq
  have notFull : (log.write + 1) % size ≠ log.read := by
    rw [wrapped]
    split_ifs at count ⊢ <;> omega
  have counted : (log.add value).pendingCount = log.pendingCount + 1 := by
    rw [pendingCount_eq]
    simp only [add, wrapped]
    split_ifs at count ⊢ <;> omega
  simp only [pending, counted, List.range_succ, List.map_append, List.map_cons, List.map_nil]
  congr 1
  · apply List.map_congr_left
    intro offset member
    have inside := log.wrap_ne_write (List.mem_range.mp member)
    simp [add, notFull, Function.update_of_ne inside]
  · simp [add, notFull, log.wrap_pendingCount]

/-- Adding to a full log drops the oldest entry. -/
theorem pending_add_of_full {log : RingLog α size} (value : α) (two : 2 ≤ size)
    (full : log.pendingCount + 1 = size) :
    (log.add value).pending = log.pending.tail ++ [value] := by
  have readBound := log.read_lt
  have writeBound := log.write_lt
  have nonempty : log.read ≠ log.write := by
    intro equal
    have := pendingCount_eq_zero.mpr equal
    omega
  have wrapped : (log.write + 1) % size =
      if log.write + 1 < size then log.write + 1 else log.write + 1 - size :=
    wrap_eq (by omega)
  have meets : (log.write + 1) % size = log.read := by
    have count := log.pendingCount_eq
    rw [wrapped]
    split_ifs at count ⊢ <;> omega
  have room : log.advance.pendingCount + 1 < size := by
    have := pendingCount_advance nonempty
    omega
  have apart : (log.write + 1) % size ≠ log.advance.read := by
    have wrappedRead : (log.read + 1) % size =
        if log.read + 1 < size then log.read + 1 else log.read + 1 - size :=
      wrap_eq (by omega)
    simp only [advance, meets, wrappedRead]
    split_ifs <;> omega
  have same : log.add value = log.advance.add value := by
    ext1
    · rfl
    · have dropped : (log.add value).read = (log.read + 1) % size := if_pos meets
      have stayed : (log.advance.add value).read = log.advance.read := if_neg apart
      rw [dropped, stayed]
      rfl
    · rfl
  rw [same, pending_add_of_room value room, pending_advance nonempty, List.tail_cons]

end RingLog
