import TaskCoordinator.Coordinator.Effects

/-!
# Epochs and stale replication messages

A replication message carries the epoch of its sender.  The handlers of
`ASSIGNED_REPLICATE` and `COMPLETED_REPLICATE` reject a message from an older epoch, while
the handler of `SNAPSHOT` takes over any epoch.  Both rejecting handlers give up the
primary role before they look at the epoch.
-/

namespace TaskCoordinator

namespace Coordinator

open Transition

variable {s s' : Coordinator} {event : Event}

/-! ## The epoch along a run -/

/-- The moves that follow an event do not touch the epoch. -/
theorem currentEpoch_of_moves (moves : Moves event s s') : s'.currentEpoch = s.currentEpoch := by
  induction moves with
  | refl => rfl
  | tail _ move ih =>
      rw [← ih]
      cases move with
      | died _ _ _ _ declared =>
          obtain ⟨_, _, frame, _⟩ := declareDead_spec declared
          rw [frame]
      | _ => rfl

/-- A `COMPLETED_REPLICATE` never lowers the epoch. -/
theorem currentEpoch_le_completeReplicate (s : Coordinator) (event : CompletedReplication) :
    s.currentEpoch ≤ (s.processCompleteReplicateEvent event).currentEpoch := by
  rcases completeReplicate_cases s event with outdated | stashed | ⟨_, _, recent, completed⟩
  · rw [outdated]
    exact UInt64.le_refl _
  · rw [stashed]
    exact UInt64.le_refl _
  · rw [completed]
    exact recent

/-- An `ASSIGNED_REPLICATE` never lowers the epoch, also when it replays a completion that
had arrived before it. -/
theorem currentEpoch_le_assignReplicate (s : Coordinator) (epoch : UInt64)
    (msg : AssignedReplicationMsg) :
    s.currentEpoch ≤ (s.processAssignReplicateEvent epoch msg).currentEpoch := by
  unfold processAssignReplicateEvent
  split
  next => exact UInt64.le_refl _
  next recent =>
    split
    next => exact UInt64.not_lt.mp recent
    next early _ =>
      refine UInt64.le_trans (UInt64.not_lt.mp recent) ?_
      exact currentEpoch_le_completeReplicate
        { s with
          isPrimary := false
          currentEpoch := epoch
          tasks := s.tasks.set msg.task
          metrics := s.metrics.recordAssignment } early

/-- The epoch of this step does not lie below the one before it, and if the step is a
replication message from an older epoch, it leaves the task table and the backlogs. -/
def EpochRespected (s : Coordinator) (event : Event) : Prop :=
  ∀ s', s.step event = .ok s' →
    s.currentEpoch ≤ s'.currentEpoch ∧
    ∀ stamp, event.stamp? = some stamp → stamp < s.currentEpoch →
      s'.tasks = s.tasks ∧ s'.queuedBacklog = s.queuedBacklog ∧
        s'.completedBacklog = s.completedBacklog

/-- A snapshot is not older than the receiver, and a primary in the last epoch sees no
reconnect. -/
def EpochAdvances (s : Coordinator) : Event → Prop
  | .snapshot epoch _ _ => s.currentEpoch ≤ epoch
  | .peerReconnected _ => s.isPrimary = true → s.currentEpoch ≠ UInt64.ofNat (2 ^ 64 - 1)
  | _ => True

theorem epoch_lt_succ {epoch : UInt64} (notLast : epoch ≠ UInt64.ofNat (2 ^ 64 - 1)) :
    epoch ≤ epoch + 1 := by
  have bound := epoch.toNat_lt
  have different : epoch.toNat ≠ 2 ^ 64 - 1 := by
    intro equal
    apply notLast
    rw [← equal, UInt64.ofNat_toNat]
  rw [UInt64.le_iff_toNat_le, UInt64.toNat_add]
  simp only [UInt64.reduceToNat] at bound ⊢
  omega

/-- A step that reads no stamp and changes no epoch respects the epoch. -/
theorem epochRespected_of_local {event : Event} (unstamped : event.stamp? = none)
    (kept : ∀ middle, Received s event middle → middle.currentEpoch = s.currentEpoch) :
    s.EpochRespected event := by
  intro s' stepped
  obtain ⟨middle, received, moves⟩ := step_spec stepped
  constructor
  · rw [currentEpoch_of_moves moves, kept middle received]
    exact UInt64.le_refl _
  · intro stamp stamped
    rw [unstamped] at stamped
    cases stamped

theorem epochRespected_iff (s : Coordinator) (event : Event) :
    s.EpochRespected event ↔ s.EpochAdvances event := by
  cases event with
  | assignedReplicate epoch msg =>
      refine ⟨fun _ => trivial, fun _ s' stepped => ?_⟩
      cases stepped
      refine ⟨currentEpoch_le_assignReplicate s epoch msg, fun stamp stamped older => ?_⟩
      cases stamped
      simp [processAssignReplicateEvent, older]
  | completedReplicate replication =>
      refine ⟨fun _ => trivial, fun _ s' stepped => ?_⟩
      cases stepped
      refine ⟨currentEpoch_le_completeReplicate s replication, fun stamp stamped older => ?_⟩
      cases stamped
      simp [processCompleteReplicateEvent, older]
  | snapshot epoch tasks env =>
      constructor
      · intro respected
        exact (respected _ rfl).1
      · intro advances s' stepped
        cases stepped
        refine ⟨advances, fun stamp stamped older => ?_⟩
        cases stamped
        exact absurd older (UInt64.not_lt.mpr advances)
  | peerReconnected env =>
      constructor
      · intro respected primary last
        have kept := (respected _ rfl).1
        simp only [processPeerReconnected, primary, if_true] at kept
        have lowered : ¬ s.currentEpoch ≤ s.currentEpoch + 1 := by
          rw [last]
          decide
        split at kept
        next => exact lowered kept
        next => exact lowered kept
      · intro advances s' stepped
        cases stepped
        refine ⟨?_, fun stamp stamped => by cases stamped⟩
        simp only [processPeerReconnected]
        split
        next primary =>
          have next := epoch_lt_succ (advances primary)
          split
          next => exact next
          next => exact next
        next => exact UInt64.le_refl _
  | submit | complete | topRequest | heartbeat | register | pass | backlog | replicate | sweep =>
      refine ⟨fun _ => trivial, fun _ => epochRespected_of_local rfl ?_⟩
      intro middle received
      cases received <;> rfl

/-- Along every run, the epoch never goes backwards and stale replication messages change
nothing exactly when every snapshot is recent and the epoch counter does not wrap. -/
theorem epochs_respected_iff (events : List Event) :
    Along step EpochRespected init events ↔ Along step EpochAdvances init events := by
  constructor
  · intro respected
    exact respected.mono fun s event => (epochRespected_iff s event).mp
  · intro advances
    exact advances.mono fun s event => (epochRespected_iff s event).mpr

/-- A snapshot of epoch 5 with one task, followed by an empty one of epoch 3. -/
def regressingSnapshots : List Event :=
  [.snapshot 5 (TaskTable.empty.set { id := 1 }) {}, .snapshot 3 .empty {}]

/-- The older snapshot is accepted: it lowers the epoch and empties the task table. -/
theorem epoch_regresses :
    regressingSnapshots.countP Event.isReconnect < 2 ^ 64 ∧
    ¬ Along step EpochRespected init regressingSnapshots ∧
    ∃ s s', run (regressingSnapshots.take 1) = .ok s ∧ run regressingSnapshots = .ok s' ∧
      s'.currentEpoch < s.currentEpoch ∧ (s.tasks.find? 1).isSome ∧ s'.tasks.find? 1 = none := by
  refine ⟨by decide, ?_, _, _, rfl, rfl, by decide, by decide, by decide⟩
  intro respected
  exact absurd (respected.2 _ rfl).1 (by
    intro kept
    exact absurd (kept _ rfl).1 (by decide))

/-! ## Stale replication messages -/

/-- An `ASSIGNED_REPLICATE` or `COMPLETED_REPLICATE` from an older epoch. -/
def Stale (s : Coordinator) : Event → Prop
  | .assignedReplicate epoch _ => epoch < s.currentEpoch
  | .completedReplicate event => event.epoch < s.currentEpoch
  | _ => False

/-- What a rejected message does. -/
theorem step_stale (stale : s.Stale event) :
    s.step event = .ok { s with isPrimary := false } := by
  cases event with
  | assignedReplicate epoch msg =>
      have older : epoch < s.currentEpoch := stale
      simp [step, processAssignReplicateEvent, older]
  | completedReplicate replication =>
      have older : replication.epoch < s.currentEpoch := stale
      simp [step, processCompleteReplicateEvent, older]
  | _ => cases stale

/-- Everything a coordinator has sent after a list of further events. -/
def sends (s : Coordinator) (later : List Event) : Except Fault (List OutgoingEvent) :=
  outgoingQueue <$> Transition.run step s later

/-- A rejected message leaves the whole state, and is invisible in all that is sent later,
exactly when the receiver was not primary. -/
theorem stale_message_invisible_iff {s s' : Coordinator} {event : Event}
    (stale : s.Stale event) (stepped : s.step event = .ok s') :
    (s' = s ↔ s.isPrimary = false) ∧
    ((∀ later, s'.sends later = s.sends later) ↔ s.isPrimary = false) := by
  have demoted : s' = { s with isPrimary := false } :=
    (Except.ok.inj ((step_stale stale).symm.trans stepped)).symm
  have unchanged : s.isPrimary = false → s' = s := by
    intro backup
    rw [demoted, ← backup]
  refine ⟨⟨fun same => ?_, unchanged⟩, fun invisible => ?_, fun backup later => ?_⟩
  · rw [← same, demoted]
  · cases role : s.isPrimary with
    | false => rfl
    | true =>
        -- A reconnect of the peer makes the primary send a snapshot.
        have visible := invisible [.peerReconnected {}]
        simp [sends, step, demoted, processPeerReconnected, role, Env.accepts, Functor.map,
          Except.map, push] at visible
  · rw [unchanged backup]

/-- A primary that has seen its peer reconnect once, and a message of the epoch before. -/
def deposedHistory : List Event :=
  [.submit 9 { taskId := 1 } {}, .peerReconnected {}]

def staleAssignment : Event :=
  .assignedReplicate 0 { taskId := 2 }

/-- A backup that has taken over epoch 1 ignores the same message completely. -/
theorem stale_message_invisible_to_backup :
    ∃ s s', run [.snapshot 1 .empty {}] = .ok s ∧ s.Stale staleAssignment ∧
      s.step staleAssignment = .ok s' ∧ s' = s ∧ ∀ later, s'.sends later = s.sends later := by
  refine ⟨_, _, rfl, ?_, rfl, ?_⟩
  · change (0 : UInt64) < 1
    decide
  · have stale : (init.processSnapshotEvent 1 .empty {}).Stale staleAssignment := by
      change (0 : UInt64) < 1
      decide
    have invisible := stale_message_invisible_iff stale rfl
    exact ⟨invisible.1.mpr rfl, invisible.2.mpr rfl⟩

/-- The rejected message demotes the primary: the next reconnect of the peer no longer
makes it send a snapshot. -/
theorem stale_message_demotes :
    ∃ s s', run deposedHistory = .ok s ∧ s.Stale staleAssignment ∧
      s.step staleAssignment = .ok s' ∧ s' ≠ s ∧
      s'.sends [.peerReconnected {}] ≠ s.sends [.peerReconnected {}] := by
  refine ⟨_, _, rfl, ?_, rfl, ?_, ?_⟩
  · change (0 : UInt64) < 0 + 1
    decide
  · intro same
    exact absurd (congrArg isPrimary same) (by decide)
  · intro same
    exact absurd (congrArg (fun sent => sent.toOption.map List.length) same) (by decide)

end Coordinator

end TaskCoordinator
