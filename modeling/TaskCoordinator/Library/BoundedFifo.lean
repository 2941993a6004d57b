import TaskCoordinator.Library.RingLog

/-!
# Bounded queues that drop the oldest entry

The abstract counterpart of a ring log: a list of pending entries of bounded length and the
entries that have been sent.  An entry is added at the end, and when the list is full its head
is discarded.  Entries are sent from the head on until an attempt fails.  A ring log refines
this queue step by step.
-/

universe u v

/-- What can happen to a log.  A `send` attempts to send one pending entry after the other; the
list has the outcomes of the attempts, and one beyond its end succeeds. -/
inductive LogAction (α : Type u) where
  | add (value : α)
  | send (outcomes : List Bool)
  | reset

namespace LogAction

variable {α : Type u} {β : Type v}

def add? : LogAction α → Option α
  | .add value => some value
  | .send _ | .reset => none

/-- The values added, oldest first. -/
def added (actions : List (LogAction α)) : List α :=
  actions.filterMap add?

def map (f : α → β) : LogAction α → LogAction β
  | .add value => .add (f value)
  | .send outcomes => .send outcomes
  | .reset => .reset

/-- Every value added gets the number of values added before it. -/
def number : Nat → List (LogAction α) → List (LogAction (Nat × α))
  | _, [] => []
  | n, .add value :: rest => .add (n, value) :: number (n + 1) rest
  | n, .send outcomes :: rest => .send outcomes :: number n rest
  | n, .reset :: rest => .reset :: number n rest

theorem map_number (n : Nat) (actions : List (LogAction α)) :
    (number n actions).map (map Prod.snd) = actions := by
  induction actions generalizing n with
  | nil => rfl
  | cons action rest ih => cases action <;> simp [number, map, ih]

/-- Numbers increase from the first value added to the last. -/
theorem added_number_pairwise (n : Nat) (actions : List (LogAction α)) :
    (added (number n actions)).Pairwise (fun earlier later => earlier.1 < later.1) ∧
      ∀ entry ∈ added (number n actions), n ≤ entry.1 := by
  induction actions generalizing n with
  | nil => simp [added, number]
  | cons action rest ih =>
      cases action with
      | add value =>
          obtain ⟨increasing, above⟩ := ih (n + 1)
          have unfolded : added (number n (.add value :: rest)) =
              (n, value) :: added (number (n + 1) rest) := rfl
          rw [unfolded, List.pairwise_cons]
          refine ⟨⟨fun entry member => above entry member, increasing⟩, ?_⟩
          intro entry member
          obtain rfl | member := List.mem_cons.mp member
          · exact Nat.le_refl n
          · exact Nat.le_of_succ_le (above entry member)
      | send outcomes => exact ih n
      | reset => exact ih n

end LogAction

/-! ## The abstract queue -/

/-- A queue of pending entries, with the entries that have left it by being sent. -/
structure BoundedFifo (α : Type u) where
  pending : List α := []
  sent : List α := []

namespace BoundedFifo

variable {α : Type u} {β : Type v}

/-- The entries sent, from the head on, until an attempt fails, and those that stay. -/
def split : List α → List Bool → List α × List α
  | [], _ => ([], [])
  | entry :: rest, outcomes =>
      if outcomes.headD true then
        (entry :: (split rest outcomes.tail).1, (split rest outcomes.tail).2)
      else
        ([], entry :: rest)

theorem split_append (entries : List α) (outcomes : List Bool) :
    (split entries outcomes).1 ++ (split entries outcomes).2 = entries := by
  induction entries generalizing outcomes with
  | nil => rfl
  | cons entry rest ih =>
      simp only [split]
      split
      next => simp [ih]
      next => rfl

theorem split_map (f : α → β) (entries : List α) (outcomes : List Bool) :
    split (entries.map f) outcomes =
      ((split entries outcomes).1.map f, (split entries outcomes).2.map f) := by
  induction entries generalizing outcomes with
  | nil => rfl
  | cons entry rest ih =>
      simp only [List.map_cons, split]
      split
      next => simp [ih]
      next => rfl

/-- One action on a queue for a ring of `size` slots, of which one stays free: the head is
discarded when more than `size - 1` entries would be pending. -/
def step (size : Nat) (fifo : BoundedFifo α) : LogAction α → BoundedFifo α
  | .add value =>
      { fifo with
        pending :=
          if fifo.pending.length + 1 > size - 1 then (fifo.pending ++ [value]).tail
          else fifo.pending ++ [value] }
  | .send outcomes =>
      { pending := (split fifo.pending outcomes).2
        sent := fifo.sent ++ (split fifo.pending outcomes).1 }
  | .reset => { fifo with pending := [] }

/-- The queue after a list of actions, from an empty one on. -/
def run (size : Nat) (actions : List (LogAction α)) : BoundedFifo α :=
  actions.foldl (step size) {}

theorem run_concat (size : Nat) (actions : List (LogAction α)) (action : LogAction α) :
    run size (actions ++ [action]) = step size (run size actions) action :=
  List.foldl_concat ..

def map (f : α → β) (fifo : BoundedFifo α) : BoundedFifo β where
  pending := fifo.pending.map f
  sent := fifo.sent.map f

theorem step_map (f : α → β) (size : Nat) (fifo : BoundedFifo α) (action : LogAction α) :
    step size (fifo.map f) (action.map f) = (step size fifo action).map f := by
  cases action with
  | add value =>
      simp only [LogAction.map, step, map, List.length_map]
      split <;> simp [List.map_tail]
  | send outcomes => simp [LogAction.map, step, map, split_map]
  | reset => rfl

/-- What is done to the entries does not depend on what they are. -/
theorem run_map (f : α → β) (size : Nat) (actions : List (LogAction α)) :
    run size (actions.map (LogAction.map f)) = (run size actions).map f := by
  induction actions using List.reverseRecOn with
  | nil => rfl
  | append_singleton actions action ih =>
      rw [List.map_append, List.map_singleton, run_concat, ih, step_map, run_concat]

/-! ## What becomes of the entries -/

theorem added_concat (actions : List (LogAction α)) (action : LogAction α) :
    LogAction.added (actions ++ [action]) = LogAction.added actions ++ action.add?.toList := by
  cases action <;> simp [LogAction.added, LogAction.add?]

/-- The pending entries are the ones added last, and the entries sent are some of those before
them, in the order in which they were added. -/
theorem added_eq_append_pending (size : Nat) (actions : List (LogAction α)) :
    ∃ gone, LogAction.added actions = gone ++ (run size actions).pending ∧
      (run size actions).sent.Sublist gone := by
  induction actions using List.reverseRecOn with
  | nil => exact ⟨[], rfl, List.Sublist.refl _⟩
  | append_singleton actions action ih =>
      obtain ⟨gone, entries, sent⟩ := ih
      rw [run_concat, added_concat, entries]
      cases action with
      | add value =>
          simp only [step, LogAction.add?, Option.toList_some, List.append_assoc]
          split
          next =>
            cases whole : (run size actions).pending ++ [value] with
            | nil => simp at whole
            | cons head rest =>
                exact ⟨gone ++ [head], by simp, sent.trans (List.sublist_append_left _ _)⟩
          next => exact ⟨gone, rfl, sent⟩
      | send outcomes =>
          refine ⟨gone ++ (split (run size actions).pending outcomes).1, ?_, ?_⟩
          · simp [LogAction.add?, step, split_append]
          · exact sent.append (List.Sublist.refl _)
      | reset =>
          refine ⟨gone ++ (run size actions).pending, ?_, ?_⟩
          · simp [LogAction.add?, step]
          · exact sent.trans (List.sublist_append_left _ _)

theorem sent_sublist (size : Nat) (actions : List (LogAction α)) :
    (run size actions).sent.Sublist (LogAction.added actions) := by
  obtain ⟨gone, entries, sent⟩ := added_eq_append_pending size actions
  rw [entries]
  exact sent.trans (List.sublist_append_left _ _)

theorem length_pending_le (size : Nat) (actions : List (LogAction α)) :
    (run size actions).pending.length ≤ size - 1 := by
  induction actions using List.reverseRecOn with
  | nil => exact Nat.zero_le _
  | append_singleton actions action ih =>
      rw [run_concat]
      cases action with
      | add value =>
          simp only [step]
          split
          next => simpa using ih
          next room =>
            rw [List.length_append, List.length_singleton]
            omega
      | send outcomes =>
          have whole := congrArg List.length (split_append (run size actions).pending outcomes)
          rw [List.length_append] at whole
          simp only [step]
          omega
      | reset => exact Nat.zero_le _

/-- The entry was discarded when another one was added, which left the entries `newer`
pending. -/
def Discards (size : Nat) (actions : List (LogAction α)) (entry : α) (newer : List α) : Prop :=
  ∃ before value after, actions = before ++ .add value :: after ∧
    (run size before).pending ++ [value] = entry :: newer ∧
    (run size (before ++ [.add value])).pending = newer

theorem Discards.concat {size : Nat} {actions : List (LogAction α)} {entry : α}
    {newer : List α} (discards : Discards size actions entry newer) (action : LogAction α) :
    Discards size (actions ++ [action]) entry newer := by
  obtain ⟨before, value, after, rfl, found⟩ := discards
  exact ⟨before, value, after ++ [action], by simp, found⟩

/-- A discarded entry was added before the ones that stayed. -/
theorem Discards.sublist {size : Nat} {actions : List (LogAction α)} {entry : α}
    {newer : List α} (discards : Discards size actions entry newer) :
    (entry :: newer).Sublist (LogAction.added actions) := by
  obtain ⟨before, value, after, rfl, found, _⟩ := discards
  obtain ⟨gone, entries, _⟩ := added_eq_append_pending size before
  have added : LogAction.added (before ++ .add value :: after) =
      gone ++ ((run size before).pending ++ [value]) ++ LogAction.added after := by
    rw [← List.append_assoc gone, ← entries]
    simp [LogAction.added, LogAction.add?]
  rw [added, ← found]
  exact (List.sublist_append_right _ _).trans (List.sublist_append_left _ _)

/-- When a value is added, an entry of the queue stays pending or is discarded with `size - 1`
entries left pending. -/
theorem pending_or_discards_of_add {size : Nat} {actions : List (LogAction α)} {value entry : α}
    (pending : entry ∈ (run size actions).pending ++ [value]) :
    entry ∈ (run size (actions ++ [.add value])).pending ∨
      ∃ newer, newer.length = size - 1 ∧
        Discards size (actions ++ [.add value]) entry newer := by
  by_cases full : (run size actions).pending.length + 1 > size - 1
  · -- The queue is full, and its head goes.
    have after : (run size (actions ++ [.add value])).pending =
        ((run size actions).pending ++ [value]).tail := by
      rw [run_concat]
      exact if_pos full
    cases whole : (run size actions).pending ++ [value] with
    | nil => simp at whole
    | cons head newer =>
        rw [whole, List.mem_cons] at pending
        rw [whole, List.tail_cons] at after
        have bounded := length_pending_le size actions
        have length := congrArg List.length whole
        simp only [List.length_append, List.length_cons, List.length_nil] at length
        obtain rfl | stays := pending
        · exact .inr ⟨newer, by omega, actions, value, [], rfl, whole, after⟩
        · rw [after]
          exact .inl stays
  · rw [run_concat]
    simp only [step, if_neg full]
    exact .inl pending

/-- Without a reset, an entry that was added has been sent, is pending, or was discarded with
`size - 1` entries left pending. -/
theorem sent_or_pending_or_discards (size : Nat) {actions : List (LogAction α)}
    (noReset : ∀ action ∈ actions, action ≠ .reset) {entry : α}
    (added : entry ∈ LogAction.added actions) :
    entry ∈ (run size actions).sent ∨ entry ∈ (run size actions).pending ∨
      ∃ newer, newer.length = size - 1 ∧ Discards size actions entry newer := by
  induction actions using List.reverseRecOn with
  | nil => cases added
  | append_singleton actions action ih =>
      have before := ih fun earlier member => noReset earlier (List.mem_append_left _ member)
      rw [added_concat, List.mem_append] at added
      cases action with
      | add value =>
          have sameSent : (run size (actions ++ [.add value])).sent = (run size actions).sent := by
            rw [run_concat]
            rfl
          rw [sameSent]
          obtain earlier | new := added
          · rcases before earlier with sent | pending | ⟨newer, length, discards⟩
            · exact .inl sent
            · exact .inr (pending_or_discards_of_add (List.mem_append_left _ pending))
            · exact .inr (.inr ⟨newer, length, discards.concat _⟩)
          · have isNew : entry = value := by simpa [LogAction.add?] using new
            subst isNew
            exact .inr (pending_or_discards_of_add (List.mem_append_right _ List.mem_cons_self))
      | send outcomes =>
          have earlier : entry ∈ LogAction.added actions := by
            simpa [LogAction.add?] using added
          rcases before earlier with sent | pending | ⟨newer, length, discards⟩
          · exact .inl (by rw [run_concat]; exact List.mem_append_left _ sent)
          · rw [← split_append (run size actions).pending outcomes, List.mem_append] at pending
            rw [run_concat]
            exact pending.imp (List.mem_append_right _) .inl
          · exact .inr (.inr ⟨newer, length, discards.concat _⟩)
      | reset => exact absurd rfl (noReset _ (List.mem_append_right _ (List.mem_singleton_self _)))

end BoundedFifo

/-! ## The ring -/

namespace RingLog

variable {α : Type u} {size : Nat}

/-- Send the pending entries of a ring, for at most the given number of rounds. -/
def sendRounds : Nat → RingLog α size → List Bool → List α × RingLog α size
  | 0, log, _ => ([], log)
  | rounds + 1, log, outcomes =>
      if log.read = log.write then
        ([], log)
      else if outcomes.headD true then
        (log.head :: (sendRounds rounds log.advance outcomes.tail).1,
          (sendRounds rounds log.advance outcomes.tail).2)
      else
        ([], log)

/-- A ring, with the entries that have been sent. -/
structure Sender (α : Type u) (size : Nat) where
  log : RingLog α size
  sent : List α := []

namespace Sender

def step (sender : Sender α size) : LogAction α → Sender α size
  | .add value => { sender with log := sender.log.add value }
  | .send outcomes =>
      { log := (sendRounds sender.log.pendingCount sender.log outcomes).2
        sent := sender.sent ++ (sendRounds sender.log.pendingCount sender.log outcomes).1 }
  | .reset => { sender with log := sender.log.reset }

def run (sender : Sender α size) (actions : List (LogAction α)) : Sender α size :=
  actions.foldl step sender

/-- The ring shows the pending entries of the queue and has sent the same entries. -/
def Refines (sender : Sender α size) (fifo : BoundedFifo α) : Prop :=
  sender.log.pending = fifo.pending ∧ sender.sent = fifo.sent

end Sender

theorem sendRounds_eq_split (log : RingLog α size) (outcomes : List Bool) :
    (sendRounds log.pendingCount log outcomes).1 =
        (BoundedFifo.split log.pending outcomes).1 ∧
      (sendRounds log.pendingCount log outcomes).2.pending =
        (BoundedFifo.split log.pending outcomes).2 := by
  generalize rounds : log.pendingCount = count
  induction count generalizing log outcomes with
  | zero =>
      have none : log.pending = [] := pending_eq_nil.mpr (pendingCount_eq_zero.mp rounds)
      rw [none]
      exact ⟨rfl, none⟩
  | succ count ih =>
      have nonempty : log.read ≠ log.write := by
        intro same
        rw [pendingCount_eq_zero.mpr same] at rounds
        cases rounds
      have fewer : log.advance.pendingCount = count := by
        have counted := pendingCount_advance nonempty
        omega
      rw [pending_advance nonempty]
      simp only [sendRounds, if_neg nonempty, BoundedFifo.split]
      split
      next =>
        obtain ⟨sent, left⟩ := ih log.advance outcomes.tail fewer
        exact ⟨congrArg _ sent, left⟩
      next => exact ⟨rfl, pending_advance nonempty⟩

theorem pending_add {log : RingLog α size} (two : 2 ≤ size) (value : α) :
    (log.add value).pending =
      if log.pending.length + 1 > size - 1 then (log.pending ++ [value]).tail
      else log.pending ++ [value] := by
  have bound := log.pendingCount_lt
  rw [length_pending]
  split
  next full =>
    rw [pending_add_of_full value two (by omega)]
    cases entries : log.pending with
    | nil =>
        have none := congrArg List.length entries
        rw [length_pending, List.length_nil] at none
        omega
    | cons head rest => rfl
  next room => exact pending_add_of_room value (by omega)

/-- One action keeps the refinement. -/
theorem Sender.Refines.step {sender : Sender α size} {fifo : BoundedFifo α} (two : 2 ≤ size)
    (refines : sender.Refines fifo) (action : LogAction α) :
    (sender.step action).Refines (fifo.step size action) := by
  obtain ⟨pending, sent⟩ := refines
  cases action with
  | add value => exact ⟨by rw [Sender.step, BoundedFifo.step, pending_add two, pending], sent⟩
  | send outcomes =>
      obtain ⟨sentNow, left⟩ := sendRounds_eq_split sender.log outcomes
      rw [pending] at sentNow left
      exact ⟨left, by rw [Sender.step, BoundedFifo.step, sentNow, sent]⟩
  | reset => exact ⟨pending_reset _, sent⟩

/-- An empty ring refines the queue over every list of actions. -/
theorem Sender.refines_run {sender : Sender α size} (two : 2 ≤ size)
    (empty : sender.log.pending = []) (unsent : sender.sent = [])
    (actions : List (LogAction α)) :
    (sender.run actions).Refines (BoundedFifo.run size actions) := by
  induction actions using List.reverseRecOn with
  | nil => exact ⟨empty, unsent⟩
  | append_singleton actions action ih =>
      rw [Sender.run, List.foldl_concat, BoundedFifo.run_concat]
      exact ih.step two action

end RingLog
