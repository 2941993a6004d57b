import TaskCoordinator.Coordinator.Effects

/-!
# Every epoch starts with its snapshot

`process_peer_reconnected` opens a new epoch: it increments `current_epoch_` and pushes a
snapshot with the new stamp.  The assignments and results of the new epoch build on that
snapshot, so it has to come before them in the sequence of messages pushed.

The epoch is incremented before the push is tried, and it stays incremented when the push
is refused.  The messages that follow then belong to an epoch that never had a snapshot.
-/

namespace TaskCoordinator

namespace Message

/-- The stamp of an `ASSIGNED_REPLICATE` or a `COMPLETED_REPLICATE`. -/
def update? (msg : Message) : Option UInt64 :=
  match msg.body with
  | .assignedReplicate _ | .completedReplicate _ => some msg.epoch
  | _ => none

/-- The stamp of a `SNAPSHOT`. -/
def snapshot? (msg : Message) : Option UInt64 :=
  match msg.body with
  | .snapshot _ => some msg.epoch
  | _ => none

end Message

namespace Coordinator

open Transition

variable {s s' : Coordinator} {event : Event}

/-- Every update of an epoch from 1 on comes after a snapshot with its stamp. -/
def SnapshotsFirst (sent : List OutgoingEvent) : Prop :=
  ∀ before update after, sent = before ++ update :: after →
    ∀ epoch, update.msg.update? = some epoch → 1 ≤ epoch →
      ∃ earlier ∈ before, earlier.msg.snapshot? = some epoch

/-- When a primary learns that its peer is back, the push of the snapshot finds room. -/
def SnapshotAccepted (s : Coordinator) : Event → Prop
  | .peerReconnected env => s.isPrimary = true → env.accepts = true
  | _ => True

instance (s : Coordinator) : (event : Event) → Decidable (s.SnapshotAccepted event)
  | .peerReconnected env => inferInstanceAs (Decidable (s.isPrimary = true → env.accepts = true))
  | .submit .. | .complete .. | .assignedReplicate .. | .completedReplicate _ | .snapshot ..
  | .topRequest .. | .heartbeat .. | .register .. | .pass _ | .backlog _ | .replicate _
  | .sweep _ => isTrue trivial

/-! ## The invariant -/

/-- The epoch needs no snapshot, or its snapshot has been pushed. -/
def Opened (s : Coordinator) (epoch : UInt64) : Prop :=
  epoch = 0 ∨ ∃ sent ∈ s.outgoingQueue, sent.msg.snapshot? = some epoch

/-- The current epoch and those of the messages in the log have been opened, and the
updates pushed so far came after the opening of their epochs. -/
structure Introduced (s : Coordinator) : Prop where
  current : s.Opened s.currentEpoch
  logged : ∀ slot epoch, (s.replicationLog.slots slot).update? = some epoch → s.Opened epoch
  ordered : SnapshotsFirst s.outgoingQueue

theorem Opened.mono {epoch : UInt64} {pushed : List OutgoingEvent} (opened : s.Opened epoch)
    (queue : s'.outgoingQueue = s.outgoingQueue ++ pushed) : s'.Opened epoch := by
  rcases opened with zero | ⟨sent, member, isSnapshot⟩
  · exact .inl zero
  · refine .inr ⟨sent, ?_, isSnapshot⟩
    rw [queue]
    exact List.mem_append_left _ member

/-- Updates of epochs opened before keep the order. -/
theorem SnapshotsFirst.append {pushed : List OutgoingEvent}
    (ordered : SnapshotsFirst s.outgoingQueue)
    (opened : ∀ sent ∈ pushed, ∀ epoch, sent.msg.update? = some epoch → s.Opened epoch) :
    SnapshotsFirst (s.outgoingQueue ++ pushed) := by
  intro before update after split epoch isUpdate positive
  rcases List.append_eq_append_iff.mp split with
    ⟨middle, rfl, rest⟩ | ⟨middle, queue, rest⟩
  · -- The update is among the messages pushed now.
    have member : update ∈ pushed := by simp [rest]
    rcases opened update member epoch isUpdate with rfl | ⟨sent, sentBefore, isSnapshot⟩
    · exact absurd positive (by decide)
    · exact ⟨sent, List.mem_append_left _ sentBefore, isSnapshot⟩
  · cases middle with
    | nil =>
        have same : update :: after = pushed := rest
        have member : update ∈ pushed := by simp [← same]
        rcases opened update member epoch isUpdate with rfl | ⟨sent, sentBefore, isSnapshot⟩
        · exact absurd positive (by decide)
        · refine ⟨sent, ?_, isSnapshot⟩
          simpa [queue] using sentBefore
    | cons first middle =>
        obtain ⟨rfl, rfl⟩ := List.cons.inj rest
        exact ordered before update middle queue epoch isUpdate positive

/-- Messages are pushed, and messages of the current epoch are added to the log. -/
theorem Introduced.advance {pushed : List OutgoingEvent} (introduced : s.Introduced)
    (queue : s'.outgoingQueue = s.outgoingQueue ++ pushed)
    (opened : ∀ sent ∈ pushed, ∀ epoch, sent.msg.update? = some epoch → s.Opened epoch)
    (epoch : s'.currentEpoch = s.currentEpoch)
    (log : ∀ slot, s'.replicationLog.slots slot = s.replicationLog.slots slot ∨
      (s'.replicationLog.slots slot).epoch = s.currentEpoch) : s'.Introduced where
  current := by
    rw [epoch]
    exact introduced.current.mono queue
  logged := by
    intro slot stamp isUpdate
    rcases log slot with same | stamped
    · rw [same] at isUpdate
      exact (introduced.logged slot stamp isUpdate).mono queue
    · have isCurrent : stamp = s.currentEpoch := by
        unfold Message.update? at isUpdate
        split at isUpdate
        next => exact (Option.some.inj isUpdate).symm.trans stamped
        next => exact (Option.some.inj isUpdate).symm.trans stamped
        next => cases isUpdate
      rw [isCurrent]
      exact introduced.current.mono queue
  ordered := by
    rw [queue]
    exact introduced.ordered.append opened

/-- Nothing is pushed or logged and the epoch stays. -/
theorem Introduced.of_same (introduced : s.Introduced)
    (queue : s'.outgoingQueue = s.outgoingQueue) (epoch : s'.currentEpoch = s.currentEpoch)
    (log : s'.replicationLog = s.replicationLog) : s'.Introduced := by
  have nothing : s'.outgoingQueue = s.outgoingQueue ++ [] := by simp [queue]
  refine introduced.advance nothing (by simp) epoch fun slot => ?_
  exact .inl (by rw [log])

/-- A message that is no update is pushed. -/
theorem Introduced.pushOther {sent : OutgoingEvent} (introduced : s.Introduced)
    (noUpdate : sent.msg.update? = none)
    (queue : s'.outgoingQueue = s.outgoingQueue ++ [sent])
    (epoch : s'.currentEpoch = s.currentEpoch)
    (log : ∀ slot, s'.replicationLog.slots slot = s.replicationLog.slots slot ∨
      (s'.replicationLog.slots slot).epoch = s.currentEpoch) : s'.Introduced := by
  refine introduced.advance queue (fun other member stamp isUpdate => ?_) epoch log
  rw [List.mem_singleton.mp member, noUpdate] at isUpdate
  cases isUpdate

/-- The slots after a message of the current epoch has been added to the log. -/
theorem slots_add_current {msg : Message} (stamped : msg.epoch = s.currentEpoch)
    (added : s'.replicationLog = s.replicationLog.add msg) (slot : Nat) :
    s'.replicationLog.slots slot = s.replicationLog.slots slot ∨
      (s'.replicationLog.slots slot).epoch = s.currentEpoch := by
  rw [added]
  by_cases written : slot = s.replicationLog.write
  · subst slot
    exact .inr (by simp [RingLog.add, stamped])
  · exact .inl (by simp [RingLog.add, Function.update_of_ne written])

/-- The oldest message of the log is pushed. -/
theorem Introduced.replicateOne (introduced : s.Introduced) : s.replicateOne.Introduced := by
  refine introduced.advance rfl (fun sent member epoch isUpdate => ?_) rfl fun slot => .inl rfl
  rw [List.mem_singleton.mp member] at isUpdate
  exact introduced.logged _ epoch isUpdate

/-- The next epoch begins with its snapshot. -/
theorem Introduced.openNext (introduced : s.Introduced) :
    ({ s with currentEpoch := s.currentEpoch + 1 }.push { msg := s.snapshotMessage }).Introduced where
  current := .inr ⟨{ msg := s.snapshotMessage }, by simp, rfl⟩
  logged := fun slot epoch isUpdate => (introduced.logged slot epoch isUpdate).mono rfl
  ordered := by
    refine introduced.ordered.append fun sent member epoch isUpdate => ?_
    rw [List.mem_singleton.mp member] at isUpdate
    cases isUpdate

/-! ## Steps and runs -/

theorem Introduced.received (introduced : s.Introduced) (unstamped : event.stamp? = none)
    (accepted : s.SnapshotAccepted event) (received : Received s event s') :
    s'.Introduced := by
  cases received with
  | submitAssigned now offers =>
      exact introduced.pushOther rfl rfl rfl (slots_add_current rfl rfl)
  | completeAnswered found held =>
      exact introduced.pushOther rfl rfl rfl (slots_add_current rfl rfl)
  | peerReconnected =>
      simp only [processPeerReconnected]
      split
      next primary =>
        rw [if_pos (accepted primary)]
        exact introduced.openNext
      next => exact introduced
  | topRequest | registerReused | registerFresh =>
      exact introduced.pushOther rfl rfl rfl fun slot => .inl rfl
  | assignedReplicate | completedReplicate | snapshot => cases unstamped
  | _ => exact introduced.of_same rfl rfl rfl

theorem Introduced.move (introduced : s.Introduced) (move : Move event s s') :
    s'.Introduced := by
  cases move with
  | replicated => exact introduced.replicateOne
  | dropped => exact introduced.of_same rfl rfl rfl
  | answered =>
      exact introduced.pushOther rfl rfl rfl (slots_add_current (s := s) rfl rfl)
  | assigned =>
      exact introduced.pushOther rfl rfl rfl (slots_add_current (s := s) rfl rfl)
  | died _ _ _ _ declared =>
      obtain ⟨_, _, frame, _⟩ := declareDead_spec declared
      rw [frame]
      exact introduced.of_same rfl rfl rfl

theorem introduced_preserved :
    Preserves step (fun s event => event.stamp? = none ∧ s.SnapshotAccepted event)
      Introduced :=
  preserves_of_moves
    (fun _ _ _ introduced admitted received =>
      introduced.received admitted.1 admitted.2 received)
    (fun _ _ _ _ _ move introduced => introduced.move move)

theorem introduced_init : init.Introduced where
  current := .inl rfl
  logged := fun _ _ isUpdate => by cases isUpdate
  ordered := fun before _ _ split => by cases before <;> cases split

/-- In every run without replication messages in which no snapshot is refused, the updates
of an epoch come after its snapshot. -/
theorem updates_follow_snapshot {events : List Event} {s : Coordinator}
    (unstamped : ∀ event ∈ events, event.stamp? = none)
    (accepted : Along step SnapshotAccepted init events) (ran : run events = .ok s) :
    SnapshotsFirst s.outgoingQueue :=
  (introduced_preserved.run introduced_init
    ((along_of_forall unstamped).and accepted) ran).ordered

/-- A worker registers and one task is handed out; then the peer reconnects, and another
task is handed out. -/
def reopenedEpoch (snapshot : Env) : List Event :=
  [.register 5 {}, .submit 9 { taskId := 1 } {}, .peerReconnected snapshot,
    .submit 9 { taskId := 2 } {}]

theorem updates_follow_accepted_snapshot :
    ∃ s, run (reopenedEpoch {}) = .ok s ∧ SnapshotsFirst s.outgoingQueue := by
  have unstamped : ∀ event ∈ reopenedEpoch {}, event.stamp? = none := by
    simp [reopenedEpoch, Event.stamp?]
  have accepted : Along step SnapshotAccepted init (reopenedEpoch {}) := by decide +kernel
  exact ⟨_, rfl, updates_follow_snapshot unstamped accepted rfl⟩

/-- The snapshot is refused: the second assignment is pushed under an epoch that no snapshot
has opened. -/
theorem update_without_snapshot :
    (∀ event ∈ reopenedEpoch { pushes := [false] }, event.stamp? = none) ∧
    ∃ s, run (reopenedEpoch { pushes := [false] }) = .ok s ∧
      (∃ sent ∈ s.outgoingQueue, sent.msg.update? = some 1) ∧
      (∀ sent ∈ s.outgoingQueue, sent.msg.snapshot? = none) ∧
      ¬ SnapshotsFirst s.outgoingQueue := by
  have evaluated : ∃ s, run (reopenedEpoch { pushes := [false] }) = .ok s ∧
      (∃ sent ∈ s.outgoingQueue, sent.msg.update? = some 1) ∧
      (∀ sent ∈ s.outgoingQueue, sent.msg.snapshot? = none) := by decide +kernel
  obtain ⟨s, ran, ⟨update, member, isUpdate⟩, none⟩ := evaluated
  refine ⟨by simp [reopenedEpoch, Event.stamp?], s, ran, ⟨update, member, isUpdate⟩, none, ?_⟩
  intro ordered
  obtain ⟨before, after, split⟩ := List.append_of_mem member
  obtain ⟨earlier, sentBefore, isSnapshot⟩ :=
    ordered before update after split 1 isUpdate (by decide)
  have isSent : earlier ∈ s.outgoingQueue := by simp [split, sentBefore]
  rw [none earlier isSent] at isSnapshot
  cases isSnapshot

end Coordinator

end TaskCoordinator
