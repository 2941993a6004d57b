import Mathlib

/-!
# The single-producer single-consumer queue

The queue of `spsc_queue.hpp`: a buffer of `capacity_` slots and two counters that only go
up, `head_` for the consumer and `tail_` for the producer.  A counter selects a slot by its
low bits, so the capacity is a power of two.  Both counters are 64-bit numbers that wrap.

One thread calls `try_push`, another one calls `try_pop`.  Every load, test, slot access and
store is a step of its own, and the steps of the two threads interleave in any order.  Each
thread works with a copy of the other's counter that may be out of date by the time it is
used.
-/

namespace TaskCoordinator.LockFree

universe u

variable {α : Type u}

/-! ## Threads -/

/-- Where the producer is in `try_push(value)`. -/
inductive Producer (α : Type u) where
  | idle
  | loadHead (value : α)
  | loadTail (value : α) (head : UInt64)
  | test (value : α) (head tail : UInt64)
  | write (value : α) (tail : UInt64)
  | store (value : α) (tail : UInt64)

/-- Where the consumer is in `try_pop`. -/
inductive Consumer (α : Type u) where
  | idle
  | loadHead
  | loadTail (head : UInt64)
  | test (head tail : UInt64)
  | read (head : UInt64)
  | store (head : UInt64) (value : α)

/-- The queue with its two threads.  `pushed` are the values of the completed pushes and
`popped` the values that successful pops have returned, oldest first. -/
structure SpscQueue (α : Type u) where
  head : UInt64
  tail : UInt64
  buffer : Nat → α
  producer : Producer α
  consumer : Consumer α
  pushed : List α
  popped : List α

/-- What happens next: a thread calls its function, unless it is in a call already, or
takes the next step of its call. -/
inductive SpscAction (α : Type u) where
  | callPush (value : α)
  | producer
  | callPop
  | consumer

namespace SpscQueue

/-- A new queue, whatever its slots hold. -/
def create (buffer : Nat → α) : SpscQueue α where
  head := 0
  tail := 0
  buffer
  producer := .idle
  consumer := .idle
  pushed := []
  popped := []

/-- The slot that a counter selects: `counter & (capacity_ - 1)`. -/
def slot (capacity counter : UInt64) : Nat :=
  (counter &&& (capacity - 1)).toNat

/-- One step of `try_push`. -/
def stepProducer (capacity : UInt64) (q : SpscQueue α) : SpscQueue α :=
  match q.producer with
  | .idle => q
  | .loadHead value => { q with producer := .loadTail value q.head }
  | .loadTail value head => { q with producer := .test value head q.tail }
  | .test value head tail =>
      if tail - head = capacity then
        { q with producer := .idle }
      else
        { q with producer := .write value tail }
  | .write value tail =>
      { q with
        buffer := Function.update q.buffer (slot capacity tail) value
        producer := .store value tail }
  | .store value tail =>
      { q with tail := tail + 1, producer := .idle, pushed := q.pushed ++ [value] }

/-- One step of `try_pop`. -/
def stepConsumer (capacity : UInt64) (q : SpscQueue α) : SpscQueue α :=
  match q.consumer with
  | .idle => q
  | .loadHead => { q with consumer := .loadTail q.head }
  | .loadTail head => { q with consumer := .test head q.tail }
  | .test head tail =>
      if tail = head then
        { q with consumer := .idle }
      else
        { q with consumer := .read head }
  | .read head => { q with consumer := .store head (q.buffer (slot capacity head)) }
  | .store head value =>
      { q with head := head + 1, consumer := .idle, popped := q.popped ++ [value] }

def step (capacity : UInt64) (q : SpscQueue α) : SpscAction α → SpscQueue α
  | .callPush value =>
      match q.producer with
      | .idle => { q with producer := .loadHead value }
      | _ => q
  | .producer => q.stepProducer capacity
  | .callPop =>
      match q.consumer with
      | .idle => { q with consumer := .loadHead }
      | _ => q
  | .consumer => q.stepConsumer capacity

/-- The state after any interleaving of the two threads. -/
def run (capacity : UInt64) (q : SpscQueue α) (actions : List (SpscAction α)) : SpscQueue α :=
  actions.foldl (step capacity) q

/-- The number of values stored: pushed and not popped yet. -/
def stored (q : SpscQueue α) : Nat :=
  q.pushed.length - q.popped.length

/-- The values stored, oldest first. -/
def queue (q : SpscQueue α) : List α :=
  q.pushed.drop q.popped.length

/-- `size()`, when nothing happens between its two loads. -/
def size (q : SpscQueue α) : UInt64 :=
  q.tail - q.head

def full (capacity : UInt64) (q : SpscQueue α) : Bool :=
  q.tail - q.head = capacity

def empty (q : SpscQueue α) : Bool :=
  q.tail = q.head

/-- The next step of the producer returns false. -/
def PushFails (capacity : UInt64) (q : SpscQueue α) : Prop :=
  ∃ value head tail, q.producer = .test value head tail ∧ tail - head = capacity

/-- The next step of the consumer returns false. -/
def PopFails (q : SpscQueue α) : Prop :=
  ∃ head tail, q.consumer = .test head tail ∧ tail = head

/-- `PushFails` tells the steps that end a call of `try_push` and complete no push. -/
theorem pushFails_iff (capacity : UInt64) (q : SpscQueue α) :
    q.PushFails capacity ↔ q.producer ≠ .idle ∧ (q.step capacity .producer).producer = .idle ∧
      (q.step capacity .producer).pushed = q.pushed := by
  unfold PushFails step stepProducer
  cases place : q.producer with
  | test value head tail =>
      by_cases isFull : tail - head = capacity
      · simp [isFull]
      · simp [isFull]
  | _ => simp [place]

/-- `PopFails` tells the steps that end a call of `try_pop` and return no value. -/
theorem popFails_iff (capacity : UInt64) (q : SpscQueue α) :
    q.PopFails ↔ q.consumer ≠ .idle ∧ (q.step capacity .consumer).consumer = .idle ∧
      (q.step capacity .consumer).popped = q.popped := by
  unfold PopFails step stepConsumer
  cases place : q.consumer with
  | test head tail =>
      by_cases isEmpty : tail = head
      · simp [isEmpty]
      · simp [isEmpty]
  | _ => simp [place]

/-- The producer is about to write the slot that the consumer is about to read. -/
def Collides (capacity : UInt64) (q : SpscQueue α) : Prop :=
  ∃ value tail head, q.producer = .write value tail ∧ q.consumer = .read head ∧
    slot capacity tail = slot capacity head

/-- One step of a bounded FIFO: a value comes in at the end if there is room, the first value
goes out, or nothing changes. -/
inductive FifoStep (room : Nat) : List α → List α → Prop where
  | stay (values : List α) : FifoStep room values values
  | push (value : α) {values : List α} (notFull : values.length < room) :
      FifoStep room values (values ++ [value])
  | pop (value : α) (values : List α) : FifoStep room (value :: values) values

/-! ## Counters

A counter that has been incremented `n` times from 0 is `UInt64.ofNat n`.  Counts that
differ by at most the capacity are told apart by their counters. -/

variable {bits : Nat} {capacity : UInt64}

theorem slot_ofNat (isPower : capacity.toNat = 2 ^ bits) (count : Nat) :
    slot capacity (UInt64.ofNat count) = count % 2 ^ bits := by
  have bound := capacity.toNat_lt
  have positive := Nat.two_pow_pos bits
  have small : bits ≤ 64 := by
    rw [isPower] at bound
    exact ((Nat.pow_lt_pow_iff_right (by decide)).mp bound).le
  have mask : (capacity - 1).toNat = 2 ^ bits - 1 := by
    have atLeastOne : (1 : UInt64) ≤ capacity := by
      rw [UInt64.le_iff_toNat_le, isPower]
      exact positive
    rw [UInt64.toNat_sub_of_le _ _ atLeastOne, isPower]
    rfl
  rw [slot, UInt64.toNat_and, mask, Nat.and_two_pow_sub_one_eq_mod, UInt64.toNat_ofNat',
    Nat.mod_mod_of_dvd _ (Nat.pow_dvd_pow 2 small)]

theorem ofNat_add_one (count : Nat) : UInt64.ofNat count + 1 = UInt64.ofNat (count + 1) := by
  rw [UInt64.ofNat_add]
  rfl

/-- The distance of two counters is the difference of their counts. -/
theorem toNat_ofNat_sub {first second : Nat} (ordered : first ≤ second)
    (near : second - first < 2 ^ 64) :
    (UInt64.ofNat second - UInt64.ofNat first).toNat = second - first := by
  rw [UInt64.toNat_sub, UInt64.toNat_ofNat', UInt64.toNat_ofNat']
  omega

theorem ofNat_eq_iff {first second : Nat} (ordered : first ≤ second)
    (near : second - first < 2 ^ 64) :
    UInt64.ofNat second = UInt64.ofNat first ↔ second = first := by
  rw [← UInt64.toNat_inj, UInt64.toNat_ofNat', UInt64.toNat_ofNat']
  omega

/-- Two counts less than a round apart select different slots. -/
theorem mod_ne_of_near {first second : Nat} (ordered : first < second)
    (near : second - first < 2 ^ bits) : first % 2 ^ bits ≠ second % 2 ^ bits := by
  intro same
  have divides := (Nat.modEq_iff_dvd' ordered.le).mp same
  exact absurd (Nat.le_of_dvd (by omega) divides) (by omega)

/-! ## The invariant -/

/-- The producer's copy of `head_` may be old, and its copy of `tail_` is exact.  Before it
writes there is room, and before it stores the value is in its slot. -/
def ProducerSound (bits : Nat) (q : SpscQueue α) : Prop :=
  match q.producer with
  | .idle | .loadHead _ => True
  | .loadTail _ head => ∃ count, head = UInt64.ofNat count ∧ count ≤ q.popped.length ∧
      q.pushed.length ≤ count + 2 ^ bits
  | .test _ head tail => tail = UInt64.ofNat q.pushed.length ∧
      ∃ count, head = UInt64.ofNat count ∧ count ≤ q.popped.length ∧
        q.pushed.length ≤ count + 2 ^ bits
  | .write _ tail => tail = UInt64.ofNat q.pushed.length ∧
      q.pushed.length < q.popped.length + 2 ^ bits
  | .store value tail => tail = UInt64.ofNat q.pushed.length ∧
      q.pushed.length < q.popped.length + 2 ^ bits ∧
      q.buffer (q.pushed.length % 2 ^ bits) = value

/-- The consumer's copy of `head_` is exact, and its copy of `tail_` may be old.  Before it
reads there is a value, and before it stores it has the oldest one. -/
def ConsumerSound (q : SpscQueue α) : Prop :=
  match q.consumer with
  | .idle | .loadHead => True
  | .loadTail head => head = UInt64.ofNat q.popped.length
  | .test head tail => head = UInt64.ofNat q.popped.length ∧
      ∃ count, tail = UInt64.ofNat count ∧ q.popped.length ≤ count ∧ count ≤ q.pushed.length
  | .read head => head = UInt64.ofNat q.popped.length ∧ q.popped.length < q.pushed.length
  | .store head value => head = UInt64.ofNat q.popped.length ∧
      q.pushed[q.popped.length]? = some value

structure Sound (bits : Nat) (q : SpscQueue α) : Prop where
  headCounts : q.head = UInt64.ofNat q.popped.length
  tailCounts : q.tail = UInt64.ofNat q.pushed.length
  bounded : q.pushed.length ≤ q.popped.length + 2 ^ bits
  inOrder : q.popped <+: q.pushed
  contents : ∀ index, q.popped.length ≤ index → index < q.pushed.length →
    q.pushed[index]? = some (q.buffer (index % 2 ^ bits))
  producing : q.ProducerSound bits
  consuming : q.ConsumerSound

variable {q : SpscQueue α}

theorem sound_create (bits : Nat) (buffer : Nat → α) : (create buffer).Sound bits where
  headCounts := rfl
  tailCounts := rfl
  bounded := by simp [create]
  inOrder := List.prefix_rfl
  contents := by simp [create]
  producing := trivial
  consuming := trivial

/-- The values stored at any time fit into the buffer. -/
theorem Sound.near (sound : q.Sound bits) (isPower : capacity.toNat = 2 ^ bits) :
    q.pushed.length - q.popped.length < 2 ^ 64 := by
  have bound := capacity.toNat_lt
  have bounded := sound.bounded
  omega

/-! ## Steps of the producer -/

theorem Sound.callPush (sound : q.Sound bits) (value : α) :
    { q with producer := .loadHead value }.Sound bits :=
  ⟨sound.headCounts, sound.tailCounts, sound.bounded, sound.inOrder, sound.contents, trivial,
    sound.consuming⟩

/-- The test of `try_push` compares with the number of values stored when `head_` was
loaded. -/
theorem full_iff (isPower : capacity.toNat = 2 ^ bits) {first second : Nat}
    (ordered : first ≤ second) (near : second ≤ first + 2 ^ bits) :
    UInt64.ofNat second - UInt64.ofNat first = capacity ↔ second - first = 2 ^ bits := by
  have bound := capacity.toNat_lt
  rw [← UInt64.toNat_inj, toNat_ofNat_sub ordered (by omega), isPower]

/-- The new value is behind all others, in the slot that was written. -/
theorem Sound.contents_append {value : α} (sound : q.Sound bits)
    (written : q.buffer (q.pushed.length % 2 ^ bits) = value) :
    ∀ index, q.popped.length ≤ index → index < (q.pushed ++ [value]).length →
      (q.pushed ++ [value])[index]? = some (q.buffer (index % 2 ^ bits)) := by
  intro index fromHead belowTail
  rw [List.length_append, List.length_singleton] at belowTail
  by_cases last : index = q.pushed.length
  · subst last
    simp [written]
  · rw [List.getElem?_append_left (by omega)]
    exact sound.contents index fromHead (by omega)

/-- A completed push does not disturb the consumer. -/
theorem Sound.consuming_append (sound : q.Sound bits) (value : α) :
    { q with
      tail := q.tail + 1, producer := .idle, pushed := q.pushed ++ [value] }.ConsumerSound := by
  have consuming := sound.consuming
  unfold ConsumerSound at consuming ⊢
  cases place : q.consumer with
  | idle | loadHead => trivial
  | loadTail head => simpa [place] using consuming
  | test head tail =>
      simp only [place, List.length_append, List.length_singleton] at consuming ⊢
      obtain ⟨exact, count, old, fromHead, near⟩ := consuming
      exact ⟨exact, count, old, fromHead, by omega⟩
  | read head =>
      simp only [place, List.length_append, List.length_singleton] at consuming ⊢
      exact ⟨consuming.1, by omega⟩
  | store head value =>
      simp only [place] at consuming ⊢
      have inside := (List.getElem?_eq_some_iff.mp consuming.2).1
      exact ⟨consuming.1, by rw [List.getElem?_append_left inside, consuming.2]⟩

theorem Sound.stepProducer (sound : q.Sound bits) (isPower : capacity.toNat = 2 ^ bits) :
    (q.stepProducer capacity).Sound bits := by
  have producing := sound.producing
  have ordered := sound.inOrder.length_le
  unfold SpscQueue.stepProducer
  unfold ProducerSound at producing
  cases place : q.producer with
  | idle => exact sound
  | loadHead value =>
      refine ⟨sound.headCounts, sound.tailCounts, sound.bounded, sound.inOrder, sound.contents,
        ?_, sound.consuming⟩
      exact ⟨q.popped.length, sound.headCounts, le_refl _, sound.bounded⟩
  | loadTail value head =>
      simp only [place] at producing
      exact ⟨sound.headCounts, sound.tailCounts, sound.bounded, sound.inOrder, sound.contents,
        ⟨sound.tailCounts, producing⟩, sound.consuming⟩
  | test value head tail =>
      simp only [place] at producing
      obtain ⟨rfl, count, rfl, old, near⟩ := producing
      simp only
      split
      next =>
        exact ⟨sound.headCounts, sound.tailCounts, sound.bounded, sound.inOrder,
          sound.contents, trivial, sound.consuming⟩
      next notFull =>
        rw [full_iff isPower (by omega) near] at notFull
        exact ⟨sound.headCounts, sound.tailCounts, sound.bounded, sound.inOrder,
          sound.contents, ⟨rfl, by simp only; omega⟩, sound.consuming⟩
  | write value tail =>
      simp only [place] at producing
      obtain ⟨rfl, room⟩ := producing
      simp only [slot_ofNat isPower]
      refine ⟨sound.headCounts, sound.tailCounts, sound.bounded, sound.inOrder, ?_,
        ⟨rfl, room, Function.update_self ..⟩, sound.consuming⟩
      intro index fromHead belowTail
      simp only at fromHead belowTail ⊢
      rw [sound.contents index fromHead belowTail, Function.update_of_ne]
      exact mod_ne_of_near belowTail (by omega)
  | store value tail =>
      simp only [place] at producing
      obtain ⟨rfl, room, written⟩ := producing
      refine ⟨sound.headCounts, ?_, ?_, ?_, ?_, trivial, ?_⟩
      · simp only [List.length_append, List.length_singleton]
        exact ofNat_add_one _
      · simpa using room
      · exact sound.inOrder.trans (List.prefix_append _ _)
      · exact sound.contents_append written
      · exact sound.consuming_append value

/-! ## Steps of the consumer -/

theorem Sound.callPop (sound : q.Sound bits) : { q with consumer := .loadHead }.Sound bits :=
  ⟨sound.headCounts, sound.tailCounts, sound.bounded, sound.inOrder, sound.contents,
    sound.producing, trivial⟩

/-- The value read is the next one in order. -/
theorem Sound.inOrder_append {value : α} (sound : q.Sound bits)
    (next : q.pushed[q.popped.length]? = some value) : q.popped ++ [value] <+: q.pushed := by
  obtain ⟨rest, split⟩ := sound.inOrder
  rw [← split, List.getElem?_append_right (le_refl _), Nat.sub_self] at next
  cases rest with
  | nil => cases next
  | cons first rest =>
      cases next
      exact ⟨rest, by rw [← split]; simp⟩

/-- A completed pop does not disturb the producer. -/
theorem Sound.producing_append (sound : q.Sound bits) (value : α) :
    { q with
      head := q.head + 1, consumer := .idle, popped := q.popped ++ [value] }.ProducerSound bits := by
  have producing := sound.producing
  unfold ProducerSound at producing ⊢
  cases place : q.producer with
  | idle | loadHead => trivial
  | loadTail value head =>
      simp only [place, List.length_append, List.length_singleton] at producing ⊢
      obtain ⟨count, copied, old, near⟩ := producing
      exact ⟨count, copied, by omega, near⟩
  | test value head tail =>
      simp only [place, List.length_append, List.length_singleton] at producing ⊢
      obtain ⟨exact, count, copied, old, near⟩ := producing
      exact ⟨exact, count, copied, by omega, near⟩
  | write value tail =>
      simp only [place, List.length_append, List.length_singleton] at producing ⊢
      exact ⟨producing.1, by omega⟩
  | store value tail =>
      simp only [place, List.length_append, List.length_singleton] at producing ⊢
      exact ⟨producing.1, by omega, producing.2.2⟩

theorem Sound.stepConsumer (sound : q.Sound bits) (isPower : capacity.toNat = 2 ^ bits) :
    (q.stepConsumer capacity).Sound bits := by
  have consuming := sound.consuming
  have ordered := sound.inOrder.length_le
  unfold SpscQueue.stepConsumer
  unfold ConsumerSound at consuming
  cases place : q.consumer with
  | idle => exact sound
  | loadHead =>
      exact ⟨sound.headCounts, sound.tailCounts, sound.bounded, sound.inOrder, sound.contents,
        sound.producing, sound.headCounts⟩
  | loadTail head =>
      simp only [place] at consuming
      exact ⟨sound.headCounts, sound.tailCounts, sound.bounded, sound.inOrder, sound.contents,
        sound.producing, consuming, q.pushed.length, sound.tailCounts, ordered, le_refl _⟩
  | test head tail =>
      simp only [place] at consuming
      obtain ⟨rfl, count, rfl, fromHead, old⟩ := consuming
      simp only
      split
      next =>
        exact ⟨sound.headCounts, sound.tailCounts, sound.bounded, sound.inOrder,
          sound.contents, sound.producing, trivial⟩
      next notEmpty =>
        have near := sound.near isPower
        rw [ofNat_eq_iff fromHead (by omega)] at notEmpty
        exact ⟨sound.headCounts, sound.tailCounts, sound.bounded, sound.inOrder,
          sound.contents, sound.producing, rfl, by simp only; omega⟩
  | read head =>
      simp only [place] at consuming
      obtain ⟨rfl, nonempty⟩ := consuming
      refine ⟨sound.headCounts, sound.tailCounts, sound.bounded, sound.inOrder, sound.contents,
        sound.producing, rfl, ?_⟩
      rw [slot_ofNat isPower]
      exact sound.contents _ (le_refl _) nonempty
  | store head value =>
      simp only [place] at consuming
      obtain ⟨rfl, next⟩ := consuming
      have bounded := sound.bounded
      refine ⟨?_, sound.tailCounts, ?_, sound.inOrder_append next, ?_,
        sound.producing_append value, trivial⟩
      · simp only [List.length_append, List.length_singleton]
        exact ofNat_add_one _
      · simp only [List.length_append, List.length_singleton]
        omega
      · intro index fromHead belowTail
        simp only [List.length_append, List.length_singleton] at fromHead
        exact sound.contents index (by omega) belowTail

/-! ## Runs -/

theorem Sound.step (sound : q.Sound bits) (isPower : capacity.toNat = 2 ^ bits)
    (action : SpscAction α) : (q.step capacity action).Sound bits := by
  cases action with
  | callPush value =>
      simp only [SpscQueue.step]
      split
      next => exact sound.callPush value
      next => exact sound
  | producer => exact sound.stepProducer isPower
  | callPop =>
      simp only [SpscQueue.step]
      split
      next => exact sound.callPop
      next => exact sound
  | consumer => exact sound.stepConsumer isPower

theorem Sound.run (sound : q.Sound bits) (isPower : capacity.toNat = 2 ^ bits)
    (actions : List (SpscAction α)) : (q.run capacity actions).Sound bits := by
  induction actions generalizing q with
  | nil => exact sound
  | cons action rest ih => exact ih (sound.step isPower action)

/-- The slot about to be written is not the one about to be read. -/
theorem Sound.not_collides (sound : q.Sound bits) (isPower : capacity.toNat = 2 ^ bits) :
    ¬ q.Collides capacity := by
  rintro ⟨value, tail, head, writes, reads, same⟩
  have producing := sound.producing
  have consuming := sound.consuming
  simp only [ProducerSound, writes] at producing
  simp only [ConsumerSound, reads] at consuming
  obtain ⟨rfl, room⟩ := producing
  obtain ⟨rfl, nonempty⟩ := consuming
  rw [slot_ofNat isPower, slot_ofNat isPower] at same
  exact mod_ne_of_near nonempty (by omega) same.symm

/-! ## Failing calls -/

theorem run_append_singleton (q : SpscQueue α) (actions : List (SpscAction α))
    (action : SpscAction α) :
    q.run capacity (actions ++ [action]) = (q.run capacity actions).step capacity action := by
  simp [run, List.foldl_append]

/-- The steps of the consumer keep the producer's side. -/
theorem stepConsumer_frame (capacity : UInt64) (q : SpscQueue α) :
    (q.stepConsumer capacity).producer = q.producer ∧
      (q.stepConsumer capacity).pushed = q.pushed := by
  unfold stepConsumer
  cases q.consumer with
  | test head tail =>
      simp only
      split <;> exact ⟨rfl, rfl⟩
  | _ => exact ⟨rfl, rfl⟩

/-- The steps of the producer keep the consumer's side. -/
theorem stepProducer_frame (capacity : UInt64) (q : SpscQueue α) :
    (q.stepProducer capacity).consumer = q.consumer ∧
      (q.stepProducer capacity).popped = q.popped := by
  unfold stepProducer
  cases q.producer with
  | test value head tail =>
      simp only
      split <;> exact ⟨rfl, rfl⟩
  | _ => exact ⟨rfl, rfl⟩

/-- The producer's copy of `head_`, if it has one. -/
def copiedHead? (q : SpscQueue α) : Option UInt64 :=
  match q.producer with
  | .loadTail _ head | .test _ head _ => some head
  | _ => none

/-- The consumer's copy of `tail_`, if it has one. -/
def copiedTail? (q : SpscQueue α) : Option UInt64 :=
  match q.consumer with
  | .test _ tail => some tail
  | _ => none

/-- A copy of `head_` is made by the step itself or has been there before, and such a step
completes no push. -/
theorem copiedHead?_step {action : SpscAction α} {head : UInt64}
    (copied : (q.step capacity action).copiedHead? = some head) :
    (q.step capacity action).pushed = q.pushed ∧
      (head = q.head ∨ q.copiedHead? = some head) := by
  cases action with
  | callPush value =>
      simp only [step] at copied ⊢
      split at copied
      next => cases copied
      next => exact ⟨rfl, .inr copied⟩
  | callPop =>
      simp only [step] at copied ⊢
      split at copied
      next => exact ⟨rfl, .inr copied⟩
      next => exact ⟨rfl, .inr copied⟩
  | consumer =>
      obtain ⟨sameProducer, samePushed⟩ := stepConsumer_frame capacity q
      refine ⟨samePushed, .inr ?_⟩
      rw [← copied, copiedHead?, copiedHead?]
      simp only [step, sameProducer]
  | producer =>
      simp only [step, stepProducer, copiedHead?] at copied ⊢
      cases place : q.producer with
      | loadHead value =>
          simp only [place, Option.some.injEq] at copied
          exact ⟨rfl, .inl copied.symm⟩
      | loadTail value old =>
          simp only [place] at copied
          exact ⟨rfl, .inr copied⟩
      | test value old tail =>
          by_cases full : tail - old = capacity <;> simp [place, full] at copied
      | idle | write | store => simp [place] at copied

/-- So it is with copies of `tail_` and completed pops. -/
theorem copiedTail?_step {action : SpscAction α} {tail : UInt64}
    (copied : (q.step capacity action).copiedTail? = some tail) :
    (q.step capacity action).popped = q.popped ∧
      (tail = q.tail ∨ q.copiedTail? = some tail) := by
  cases action with
  | callPush value =>
      simp only [step] at copied ⊢
      split at copied
      next => exact ⟨rfl, .inr copied⟩
      next => exact ⟨rfl, .inr copied⟩
  | callPop =>
      simp only [step] at copied ⊢
      split at copied
      next => cases copied
      next => exact ⟨rfl, .inr copied⟩
  | producer =>
      obtain ⟨sameConsumer, samePopped⟩ := stepProducer_frame capacity q
      refine ⟨samePopped, .inr ?_⟩
      rw [← copied, copiedTail?, copiedTail?]
      simp only [step, sameConsumer]
  | consumer =>
      simp only [step, stepConsumer, copiedTail?] at copied ⊢
      cases place : q.consumer with
      | loadTail head =>
          simp only [place, Option.some.injEq] at copied
          exact ⟨rfl, .inl copied.symm⟩
      | test head old =>
          by_cases empty : old = head <;> simp [place, empty] at copied
      | idle | loadHead | read | store => simp [place] at copied

variable {start : SpscQueue α} {actions : List (SpscAction α)}

/-- A copy of `head_` was made at a moment since the start, and no push has been completed
after that moment. -/
theorem head_copied_during (sound : start.Sound bits) (isPower : capacity.toNat = 2 ^ bits)
    (fresh : start.copiedHead? = none) {head : UInt64}
    (copied : (start.run capacity actions).copiedHead? = some head) :
    ∃ during, during <+: actions ∧
      head = UInt64.ofNat (start.run capacity during).popped.length ∧
      (start.run capacity during).pushed = (start.run capacity actions).pushed := by
  induction actions using List.reverseRecOn with
  | nil => simp [run, fresh] at copied
  | append_singleton actions action ih =>
      rw [run_append_singleton] at copied ⊢
      obtain ⟨samePushed, isNew | isOld⟩ := copiedHead?_step copied
      · refine ⟨actions, List.prefix_append _ _, ?_, samePushed.symm⟩
        rw [isNew, (sound.run isPower actions).headCounts]
      · obtain ⟨during, isPrefix, counted, pushed⟩ := ih isOld
        exact ⟨during, isPrefix.trans (List.prefix_append _ _), counted,
          pushed.trans samePushed.symm⟩

theorem tail_copied_during (sound : start.Sound bits) (isPower : capacity.toNat = 2 ^ bits)
    (fresh : start.copiedTail? = none) {tail : UInt64}
    (copied : (start.run capacity actions).copiedTail? = some tail) :
    ∃ during, during <+: actions ∧
      tail = UInt64.ofNat (start.run capacity during).pushed.length ∧
      (start.run capacity during).popped = (start.run capacity actions).popped := by
  induction actions using List.reverseRecOn with
  | nil => simp [run, fresh] at copied
  | append_singleton actions action ih =>
      rw [run_append_singleton] at copied ⊢
      obtain ⟨samePopped, isNew | isOld⟩ := copiedTail?_step copied
      · refine ⟨actions, List.prefix_append _ _, ?_, samePopped.symm⟩
        rw [isNew, (sound.run isPower actions).tailCounts]
      · obtain ⟨during, isPrefix, counted, popped⟩ := ih isOld
        exact ⟨during, isPrefix.trans (List.prefix_append _ _), counted,
          popped.trans samePopped.symm⟩

/-- A push that fails has seen a full queue since the start. -/
theorem full_during (sound : start.Sound bits) (isPower : capacity.toNat = 2 ^ bits)
    (fresh : start.copiedHead? = none)
    (fails : (start.run capacity actions).PushFails capacity) :
    ∃ during, during <+: actions ∧ (start.run capacity during).stored = 2 ^ bits := by
  obtain ⟨value, head, tail, place, full⟩ := fails
  have copied : (start.run capacity actions).copiedHead? = some head := by
    simp [copiedHead?, place]
  obtain ⟨during, isPrefix, rfl, pushed⟩ := head_copied_during sound isPower fresh copied
  refine ⟨during, isPrefix, ?_⟩
  have earlier := sound.run isPower during
  have now := (sound.run isPower actions).producing
  simp only [ProducerSound, place] at now
  rw [now.1, ← pushed, full_iff isPower earlier.inOrder.length_le earlier.bounded] at full
  exact full

/-- A pop that fails has seen an empty queue since the start. -/
theorem empty_during (sound : start.Sound bits) (isPower : capacity.toNat = 2 ^ bits)
    (fresh : start.copiedTail? = none) (fails : (start.run capacity actions).PopFails) :
    ∃ during, during <+: actions ∧ (start.run capacity during).stored = 0 := by
  obtain ⟨head, tail, place, empty⟩ := fails
  have copied : (start.run capacity actions).copiedTail? = some tail := by
    simp [copiedTail?, place]
  obtain ⟨during, isPrefix, rfl, popped⟩ := tail_copied_during sound isPower fresh copied
  refine ⟨during, isPrefix, ?_⟩
  have earlier := sound.run isPower during
  have now := (sound.run isPower actions).consuming
  simp only [ConsumerSound, place] at now
  rw [now.1, ← popped, ofNat_eq_iff earlier.inOrder.length_le (earlier.near isPower)] at empty
  rw [stored, empty, Nat.sub_self]

/-! ## Refinement -/

theorem length_queue (q : SpscQueue α) : q.queue.length = q.stored := by
  simp [queue, stored]

theorem Sound.stored_le (sound : q.Sound bits) : q.stored ≤ 2 ^ bits :=
  Nat.sub_le_iff_le_add'.mpr sound.bounded

/-- What the observers return between the steps. -/
theorem Sound.observers (sound : q.Sound bits) (isPower : capacity.toNat = 2 ^ bits) :
    q.size.toNat = q.stored ∧ (q.full capacity = true ↔ q.stored = 2 ^ bits) ∧
      (q.empty = true ↔ q.stored = 0) := by
  have ordered := sound.inOrder.length_le
  have near := sound.near isPower
  refine ⟨?_, ?_, ?_⟩
  · rw [size, sound.tailCounts, sound.headCounts]
    exact toNat_ofNat_sub ordered near
  · rw [full, decide_eq_true_iff, sound.tailCounts, sound.headCounts]
    exact full_iff isPower ordered sound.bounded
  · rw [empty, decide_eq_true_iff, sound.tailCounts, sound.headCounts, ofNat_eq_iff ordered near,
      stored]
    omega

theorem Sound.stepProducer_refines (sound : q.Sound bits) :
    FifoStep (2 ^ bits) q.queue (q.stepProducer capacity).queue := by
  have ordered := sound.inOrder.length_le
  have producing := sound.producing
  unfold ProducerSound at producing
  unfold SpscQueue.stepProducer
  cases place : q.producer with
  | store value tail =>
      simp only [place] at producing
      have appended : (q.pushed ++ [value]).drop q.popped.length = q.queue ++ [value] :=
        List.drop_append_of_le_length ordered
      change FifoStep _ q.queue ((q.pushed ++ [value]).drop q.popped.length)
      rw [appended]
      refine .push value ?_
      rw [length_queue, stored]
      omega
  | test value head tail =>
      simp only
      split
      next => exact .stay _
      next => exact .stay _
  | _ => exact .stay _

theorem Sound.stepConsumer_refines (sound : q.Sound bits) :
    FifoStep (2 ^ bits) q.queue (q.stepConsumer capacity).queue := by
  have consuming := sound.consuming
  unfold ConsumerSound at consuming
  unfold SpscQueue.stepConsumer
  cases place : q.consumer with
  | store head value =>
      simp only [place] at consuming
      obtain ⟨inside, isValue⟩ := List.getElem?_eq_some_iff.mp consuming.2
      have removed : q.queue = value :: q.pushed.drop (q.popped ++ [value]).length := by
        rw [queue, List.drop_eq_getElem_cons inside, isValue]
        simp
      rw [removed]
      exact .pop value _
  | test head tail =>
      simp only
      split
      next => exact .stay _
      next => exact .stay _
  | _ => exact .stay _

theorem Sound.step_refines (sound : q.Sound bits) (action : SpscAction α) :
    FifoStep (2 ^ bits) q.queue (q.step capacity action).queue := by
  cases action with
  | producer => exact sound.stepProducer_refines
  | consumer => exact sound.stepConsumer_refines
  | callPush | callPop =>
      simp only [SpscQueue.step]
      split
      next => exact .stay _
      next => exact .stay _

/-- Under every interleaving of one producer and one consumer: the values popped are the
first of the values pushed, at most `capacity` values are stored, every step is a step of a
bounded FIFO, no slot is about to be written and read at once, and a call that fails has
seen a full or an empty queue since it was made. -/
theorem spscQueue_refines_fifo {α : Type u} {bits : Nat} {capacity : UInt64}
    (isPower : capacity.toNat = 2 ^ bits) (buffer : Nat → α) (actions : List (SpscAction α)) :
    ((create buffer).run capacity actions).popped <+:
      ((create buffer).run capacity actions).pushed ∧
    ((create buffer).run capacity actions).stored ≤ capacity.toNat ∧
    ¬ ((create buffer).run capacity actions).Collides capacity ∧
    (∀ action, FifoStep capacity.toNat ((create buffer).run capacity actions).queue
      (((create buffer).run capacity actions).step capacity action).queue) ∧
    (∀ before value during, actions = before ++ .callPush value :: during →
      ((create buffer).run capacity before).producer = .idle →
      ((create buffer).run capacity actions).PushFails capacity →
      ∃ moment, moment <+: during ∧
        ((create buffer).run capacity (before ++ .callPush value :: moment)).stored =
          capacity.toNat) ∧
    (∀ before during, actions = before ++ .callPop :: during →
      ((create buffer).run capacity before).consumer = .idle →
      ((create buffer).run capacity actions).PopFails →
      ∃ moment, moment <+: during ∧
        ((create buffer).run capacity (before ++ .callPop :: moment)).stored = 0) := by
  have sound := (sound_create bits buffer).run isPower actions
  rw [isPower]
  refine ⟨sound.inOrder, sound.stored_le, sound.not_collides isPower, sound.step_refines, ?_, ?_⟩
  · rintro before value during rfl isIdle fails
    have soundBefore := (sound_create bits buffer).run isPower before
    have called := soundBefore.step isPower (.callPush value)
    have split : ∀ rest, (create buffer).run capacity (before ++ .callPush value :: rest) =
        (((create buffer).run capacity before).step capacity (.callPush value)).run capacity
          rest := by
      intro rest
      simp [run]
    rw [split] at fails
    simp only [split]
    refine full_during called isPower ?_ fails
    simp [step, isIdle, copiedHead?]
  · rintro before during rfl isIdle fails
    have soundBefore := (sound_create bits buffer).run isPower before
    have called := soundBefore.step isPower .callPop
    have split : ∀ rest, (create buffer).run capacity (before ++ .callPop :: rest) =
        (((create buffer).run capacity before).step capacity .callPop).run capacity rest := by
      intro rest
      simp [run]
    rw [split] at fails
    simp only [split]
    refine empty_during called isPower ?_ fails
    simp [step, isIdle, copiedTail?]

/-- A value is pushed and popped again, with the steps of the two calls interleaved. -/
def pushedAndPopped : List (SpscAction Nat) :=
  [.callPush 7, .callPop, .producer, .producer, .producer, .producer, .producer, .consumer,
    .consumer, .consumer, .consumer, .consumer]

theorem pushed_value_popped :
    ((create fun _ => 0).run 64 pushedAndPopped).popped = [7] ∧
    ((create fun _ => 0).run 64 pushedAndPopped).popped <+:
      ((create fun _ => 0).run 64 pushedAndPopped).pushed :=
  ⟨by decide, (spscQueue_refines_fifo (by decide : (64 : UInt64).toNat = 2 ^ 6) _ _).1⟩

end SpscQueue

end TaskCoordinator.LockFree
