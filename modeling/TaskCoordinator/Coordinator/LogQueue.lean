import TaskCoordinator.Coordinator.Moves
import TaskCoordinator.Library.BoundedFifo

/-!
# The replication log as a queue

`add_to_log`, `replicate` and the reset by a snapshot are the actions of a bounded queue that
drops the oldest message when it is full.  The coordinator's functions perform these actions
on their ring of slots, and the messages that leave the ring are those appended to the
outgoing queue.
-/

namespace TaskCoordinator.Coordinator

variable {s s' : Coordinator}

/-- The event that `replicate` pushes for a message of the log. -/
def toPeer (msg : Message) : OutgoingEvent :=
  { msg }

/-- What the coordinator does to its log: `add_to_log`, `replicate` with the given outcomes of
its pushes, and the reset of `process_snapshot_event`. -/
def logStep (s : Coordinator) : LogAction Message → Coordinator
  | .add msg => { s with replicationLog := s.replicationLog.add msg }
  | .send outcomes => (s.replicate { pushes := outcomes }).1
  | .reset => { s with replicationLog := s.replicationLog.reset }

def logRun (s : Coordinator) (actions : List (LogAction Message)) : Coordinator :=
  actions.foldl logStep s

/-- The rounds of `replicate` are those of the ring, and what the ring sends is pushed. -/
theorem replicateRounds_eq_sendRounds (rounds : Nat) (s : Coordinator) (env : Env) :
    (replicateRounds rounds s env).1 =
      { s with
        outgoingQueue := s.outgoingQueue ++
          (s.replicationLog.sendRounds rounds env.pushes).1.map toPeer
        replicationLog := (s.replicationLog.sendRounds rounds env.pushes).2 } := by
  induction rounds generalizing s env with
  | zero => simp [replicateRounds, RingLog.sendRounds]
  | succ rounds ih =>
      simp only [replicateRounds, RingLog.sendRounds]
      by_cases empty : s.replicationLog.read = s.replicationLog.write
      · simp [empty]
      · rw [if_neg empty, if_neg empty]
        by_cases accepted : env.accepts = true
        · have first : env.pushes.headD true = true := accepted
          rw [if_pos accepted, if_pos first, ih]
          simp [Env.afterPush, toPeer]
        · have first : ¬env.pushes.headD true = true := accepted
          rw [if_neg accepted, if_neg first]
          simp

/-- The coordinator does to its log what the ring does, and pushes what the ring sends. -/
theorem logRun_eq (s : Coordinator) (actions : List (LogAction Message)) :
    (s.logRun actions).replicationLog =
        (RingLog.Sender.run { log := s.replicationLog } actions).log ∧
      (s.logRun actions).outgoingQueue = s.outgoingQueue ++
        (RingLog.Sender.run { log := s.replicationLog } actions).sent.map toPeer := by
  induction actions using List.reverseRecOn with
  | nil => simp [logRun, RingLog.Sender.run]
  | append_singleton actions action ih =>
      obtain ⟨log, queue⟩ := ih
      have after : s.logRun (actions ++ [action]) = (s.logRun actions).logStep action :=
        List.foldl_concat ..
      have afterRing : RingLog.Sender.run { log := s.replicationLog } (actions ++ [action]) =
          (RingLog.Sender.run { log := s.replicationLog } actions).step action :=
        List.foldl_concat ..
      rw [after, afterRing]
      cases action with
      | add msg => exact ⟨by rw [logStep, RingLog.Sender.step, log], queue⟩
      | send outcomes =>
          have sent := replicateRounds_eq_sendRounds
            (s.logRun actions).replicationLog.pendingCount (s.logRun actions)
            { pushes := outcomes }
          rw [logStep, replicate, sent, RingLog.Sender.step, ← log]
          exact ⟨rfl, by simp [queue]⟩
      | reset => exact ⟨by rw [logStep, RingLog.Sender.step, log], queue⟩

/-- A ring of any size that starts empty is a bounded queue that drops only its oldest entry.
The messages are numbered in the order in which they are added, so that each of them can be
followed. -/
structure LogSpec {α : Type} {size : Nat} (ring : RingLog.Sender α size)
    (actions : List (LogAction α)) : Prop where
  /-- Both pointers are inside of the ring. -/
  pointers : ring.log.read < size ∧ ring.log.write < size
  pending : ring.log.pending = (BoundedFifo.run size actions).pending
  sent : ring.sent = (BoundedFifo.run size actions).sent
  /-- The queue of numbered messages is the same queue. -/
  numbered : BoundedFifo.run size actions =
    (BoundedFifo.run size (LogAction.number 0 actions)).map Prod.snd
  increasing : (LogAction.added (LogAction.number 0 actions)).Pairwise
    fun earlier later => earlier.1 < later.1
  /-- What is pushed is a part of what is added, in the same order. -/
  subsequence : (BoundedFifo.run size (LogAction.number 0 actions)).sent.Sublist
    (LogAction.added (LogAction.number 0 actions))
  /-- A message that is missing was discarded with `size - 1` newer ones pending. -/
  missing : (∀ action ∈ actions, action ≠ .reset) →
    ∀ entry ∈ LogAction.added (LogAction.number 0 actions),
      entry ∉ (BoundedFifo.run size (LogAction.number 0 actions)).sent →
      entry ∉ (BoundedFifo.run size (LogAction.number 0 actions)).pending →
      ∃ newer, BoundedFifo.Discards size (LogAction.number 0 actions) entry newer ∧
        newer.length = size - 1 ∧ ∀ later ∈ newer, entry.1 < later.1

theorem logSpec_of_empty {α : Type} {size : Nat} (two : 2 ≤ size)
    {ring : RingLog.Sender α size} (empty : ring.log.pending = []) (unsent : ring.sent = [])
    (actions : List (LogAction α)) : LogSpec (ring.run actions) actions := by
  obtain ⟨pending, sent⟩ := RingLog.Sender.refines_run two empty unsent actions
  have increasing := (LogAction.added_number_pairwise 0 actions).1
  constructor
  · exact ⟨(ring.run actions).log.read_lt, (ring.run actions).log.write_lt⟩
  · exact pending
  · exact sent
  · rw [← BoundedFifo.run_map, LogAction.map_number]
  · exact increasing
  · exact BoundedFifo.sent_sublist size _
  · intro noReset entry added notSent notPending
    have stillNoReset : ∀ action ∈ LogAction.number 0 actions, action ≠ .reset := by
      intro action member isReset
      subst isReset
      have image := List.mem_map_of_mem (f := LogAction.map Prod.snd) member
      rw [LogAction.map_number] at image
      exact noReset _ image rfl
    obtain sent | pending | ⟨newer, length, discards⟩ :=
      BoundedFifo.sent_or_pending_or_discards size stillNoReset added
    · exact absurd sent notSent
    · exact absurd pending notPending
    · refine ⟨newer, discards, length, ?_⟩
      exact (List.pairwise_cons.mp (increasing.sublist discards.sublist)).1

/-- The replication log is a bounded queue that drops only its oldest message, for every size of
the ring and every sequence of additions, replications and resets, and the coordinator's own
functions work on its log in this way. -/
theorem replicationLog_is_bounded_fifo :
    (∀ (α : Type) (size : Nat) (two : 2 ≤ size) (value : α) (actions : List (LogAction α)),
      LogSpec
        (RingLog.Sender.run { log := RingLog.empty value (Nat.zero_lt_of_lt two) } actions)
        actions) ∧
    ∀ (s : Coordinator) (actions : List (LogAction Message)), s.replicationLog.pending = [] →
      ∃ ring : RingLog.Sender Message Config.maxLogSize, LogSpec ring actions ∧
        (s.logRun actions).replicationLog = ring.log ∧
        (s.logRun actions).outgoingQueue =
          s.outgoingQueue ++ ring.sent.map toPeer := by
  constructor
  · intro α size two value actions
    exact logSpec_of_empty two (RingLog.pending_empty value _) rfl actions
  · intro s actions empty
    obtain ⟨log, queue⟩ := s.logRun_eq actions
    exact ⟨_, logSpec_of_empty (by decide) empty rfl actions, log, queue⟩

/-- A ring of two slots keeps the second of two messages. -/
theorem replicationLog_of_two_slots :
    (LogSpec
        (RingLog.Sender.run ({ log := RingLog.empty 0 (by decide) } : RingLog.Sender Nat 2)
          [.add 1, .add 2, .send [true]])
        [.add 1, .add 2, .send [true]] ∧
      (RingLog.Sender.run ({ log := RingLog.empty 0 (by decide) } : RingLog.Sender Nat 2)
          [.add 1, .add 2, .send [true]]).sent = [2]) ∧
    ∃ ring : RingLog.Sender Message Config.maxLogSize, LogSpec ring [.reset] ∧
      (init.logRun [.reset]).replicationLog = ring.log := by
  refine ⟨⟨replicationLog_is_bounded_fifo.1 Nat 2 (by decide) 0 _, by decide⟩, ?_⟩
  obtain ⟨ring, spec, log, _⟩ :=
    replicationLog_is_bounded_fifo.2 init [.reset] (RingLog.pending_empty _ _)
  exact ⟨ring, spec, log⟩

end TaskCoordinator.Coordinator
