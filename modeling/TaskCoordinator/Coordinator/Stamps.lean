import TaskCoordinator.Coordinator.Epoch
import TaskCoordinator.Coordinator.Replication
import TaskCoordinator.Library.Rerouting

/-!
# Epochs as stamps

The epoch that a coordinator writes into its messages orders what its backup receives over
different connections.  A backup drops an `ASSIGNED_REPLICATE` or a `COMPLETED_REPLICATE` of an
older epoch, whereas it takes over every snapshot.

This is an instance of `Rerouting`: the stamp of a message is its epoch, the level of the backup
is the epoch it has reached, and a reset is a snapshot.
-/

namespace TaskCoordinator

/-- The message is a snapshot. -/
def Message.isSnapshot (msg : Message) : Bool :=
  match msg.body with
  | .snapshot _ => true
  | _ => false

namespace Coordinator

open Transition Mirror Rerouting

variable {s s' backup : Coordinator} {event : Event}

/-! ## Stamps of the primary -/

/-- No message that has been pushed or logged is from a later epoch. -/
structure Stamped (s : Coordinator) : Prop where
  sent : ∀ out ∈ s.outgoingQueue, out.msg.epoch ≤ s.currentEpoch
  logged : ∀ slot, (s.replicationLog.slots slot).epoch ≤ s.currentEpoch

theorem stamped_init : init.Stamped where
  sent := by simp [init]
  logged := fun _ => UInt64.le_refl _

/-- Messages of the current epoch are pushed, and at most one is logged. -/
theorem Stamped.push (stamped : s.Stamped) {sent : OutgoingEvent} {logged : Message}
    (queue : s'.outgoingQueue = s.outgoingQueue ++ [sent])
    (log : s'.replicationLog = s.replicationLog.add logged)
    (epoch : s'.currentEpoch = s.currentEpoch) (sentEpoch : sent.msg.epoch ≤ s.currentEpoch)
    (loggedEpoch : logged.epoch ≤ s.currentEpoch) : s'.Stamped where
  sent := by
    rw [queue, epoch]
    intro out member
    obtain before | isNew := List.mem_append.mp member
    · exact stamped.sent out before
    · rwa [List.mem_singleton.mp isNew]
  logged := by
    intro slot
    rw [log, epoch]
    by_cases written : slot = s.replicationLog.write
    · simpa [RingLog.add, written] using loggedEpoch
    · simpa [RingLog.add, Function.update_of_ne written] using stamped.logged slot

/-- A message is pushed, and the slots of the log stay as they are. -/
theorem Stamped.pushOnly (stamped : s.Stamped) {sent : OutgoingEvent}
    (queue : s'.outgoingQueue = s.outgoingQueue ++ [sent])
    (log : s'.replicationLog.slots = s.replicationLog.slots)
    (epoch : s.currentEpoch ≤ s'.currentEpoch) (sentEpoch : sent.msg.epoch ≤ s'.currentEpoch) :
    s'.Stamped where
  sent := by
    rw [queue]
    intro out member
    obtain before | isNew := List.mem_append.mp member
    · exact UInt64.le_trans (stamped.sent out before) epoch
    · rwa [List.mem_singleton.mp isNew]
  logged := fun slot => log ▸ UInt64.le_trans (stamped.logged slot) epoch

/-- Nothing is pushed or logged. -/
theorem Stamped.quiet (stamped : s.Stamped) (queue : s'.outgoingQueue = s.outgoingQueue)
    (log : s'.replicationLog.slots = s.replicationLog.slots)
    (epoch : s.currentEpoch ≤ s'.currentEpoch) : s'.Stamped where
  sent := fun out member =>
    UInt64.le_trans (stamped.sent out (queue ▸ member)) epoch
  logged := fun slot => log ▸ UInt64.le_trans (stamped.logged slot) epoch

theorem Stamped.move (stamped : s.Stamped) (move : Move event s s') : s'.Stamped := by
  cases move with
  | replicated =>
      exact stamped.pushOnly rfl rfl (UInt64.le_refl _) (stamped.logged _)
  | dropped => exact stamped.quiet rfl rfl (UInt64.le_refl _)
  | answered | assigned =>
      exact stamped.push rfl rfl rfl (UInt64.le_refl _) (UInt64.le_refl _)
  | died _ _ _ _ declared =>
      obtain ⟨_, _, frame, _⟩ := declareDead_spec declared
      rw [frame]
      exact stamped.quiet rfl rfl (UInt64.le_refl _)

theorem Stamped.received (stamped : s.Stamped) (unstamped : event.stamp? = none)
    (advances : s.EpochAdvances event) (received : Received s event s') : s'.Stamped := by
  cases received with
  | submitAssigned | completeAnswered =>
      exact stamped.push rfl rfl rfl (UInt64.le_refl _) (UInt64.le_refl _)
  | topRequest | registerReused | registerFresh =>
      exact stamped.pushOnly rfl rfl (UInt64.le_refl _) UInt64.zero_le
  | assignedReplicate | completedReplicate | snapshot => cases unstamped
  | peerReconnected =>
      unfold processPeerReconnected
      split_ifs with isPrimary accepted
      · have onward := epoch_lt_succ (advances isPrimary)
        exact stamped.pushOnly rfl rfl onward (UInt64.le_refl _)
      · exact stamped.quiet rfl rfl (epoch_lt_succ (advances isPrimary))
      · exact stamped
  | submitQueued | completeUnknown | completeDeferred | heartbeat =>
      exact stamped.quiet rfl rfl (UInt64.le_refl _)
  | registerRefused | pass | backlog | replicate | sweep => exact stamped

theorem stamped_preserved :
    Preserves step (fun s event => event.stamp? = none ∧ s.EpochAdvances event) Stamped :=
  preserves_of_moves
    (fun _ _ _ stamped admitted received => stamped.received admitted.1 admitted.2 received)
    (fun _ _ _ _ _ move stamped => stamped.move move)

/-! ## The instance -/

/-- What the primary handles, while its epochs do not run out. -/
def LastingEvent (s : Coordinator) (event : Event) : Prop :=
  s.PrimaryEvent event ∧ s.EpochAdvances event

instance (s : Coordinator) : (event : Event) → Decidable (s.EpochAdvances event)
  | .snapshot epoch _ _ => inferInstanceAs (Decidable (s.currentEpoch ≤ epoch))
  | .peerReconnected _ => inferInstanceAs (Decidable
      (s.isPrimary = true → s.currentEpoch ≠ UInt64.ofNat (2 ^ 64 - 1)))
  | .submit .. | .complete .. | .assignedReplicate .. | .completedReplicate _ | .topRequest ..
  | .heartbeat .. | .register .. | .pass _ | .backlog _ | .replicate _ | .sweep _ => isTrue trivial

instance (s : Coordinator) (event : Event) : Decidable (s.LastingEvent event) :=
  inferInstanceAs (Decidable (s.PrimaryEvent event ∧ s.EpochAdvances event))

theorem LastingEvent.unstamped (admitted : s.LastingEvent event) : event.stamp? = none := by
  obtain ⟨⟨traffic, _⟩, _⟩ := admitted
  cases event with
  | assignedReplicate | completedReplicate | snapshot => cases traffic
  | _ => rfl

/-- Two backups that differ at most in the role. -/
def SameButRole (first second : Coordinator) : Prop :=
  ∃ role, second = { first with isPrimary := role }

theorem receive_outdated {input : Fd × Env} {msg : Message} (notSnapshot : msg.isSnapshot = false)
    (outdated : msg.epoch < backup.currentEpoch) :
    SameButRole backup (backup.receive input msg) := by
  unfold receive
  split
  next body isAssigned =>
    refine ⟨false, ?_⟩
    unfold processAssignReplicateEvent
    exact if_pos outdated
  next body isCompleted =>
    refine ⟨false, ?_⟩
    unfold processCompleteReplicateEvent
    exact if_pos outdated
  next tasks isSnapshot => simp [Message.isSnapshot, isSnapshot] at notSnapshot
  next => exact ⟨backup.isPrimary, rfl⟩

theorem SameButRole.receive {first second : Coordinator} (same : SameButRole first second)
    (input : Fd × Env) (msg : Message) :
    SameButRole (first.receive input msg) (second.receive input msg) := by
  obtain ⟨role, rfl⟩ := same
  unfold Coordinator.receive
  split
  next => exact ⟨_, rfl⟩
  next => exact ⟨_, rfl⟩
  next => exact ⟨_, rfl⟩
  next => exact ⟨_, rfl⟩

theorem currentEpoch_le_receive {input : Fd × Env} {msg : Message}
    (recent : msg.isSnapshot = true → backup.currentEpoch ≤ msg.epoch) :
    backup.currentEpoch ≤ (backup.receive input msg).currentEpoch := by
  unfold receive
  split
  next => exact currentEpoch_le_assignReplicate _ _ _
  next => exact currentEpoch_le_completeReplicate _ _
  next tasks isSnapshot => exact recent (by simp [Message.isSnapshot, isSnapshot])
  next => exact UInt64.le_refl _

theorem toNat_epoch_succ {epoch : UInt64} (notLast : epoch ≠ UInt64.ofNat (2 ^ 64 - 1)) :
    epoch.toNat < (epoch + 1).toNat := by
  have onward := UInt64.le_iff_toNat_le.mp (epoch_lt_succ notLast)
  have different : epoch ≠ epoch + 1 := by simp
  have toNatDifferent := mt UInt64.toNat_inj.mp different
  omega

/-- A primary that is told of a reconnection sends a snapshot and nothing else. -/
theorem replications_of_reconnect {env : Env} (accepting : env.Accepting)
    (isPrimary : s.isPrimary = true) (stepped : s.step (.peerReconnected env) = .ok s') :
    s'.replications = s.replications ++ [s.snapshotMessage] := by
  have outcome := Except.ok.inj stepped
  rw [processPeerReconnected_accepting s accepting, if_pos isPrimary] at outcome
  rw [← outcome]
  simp [replications, snapshotMessage, Message.isReplication]

/-- The coordinator and its backup over successive connections. -/
theorem coordinator_reroutes :
    Reroutes stepEmitting LastingEvent Event.isReconnect receive
      (fun s => s.Leading ∧ s.Stamped) (fun s => s.isPrimary = false) Agree init
      Message.isSnapshot (fun msg => msg.epoch.toNat) (fun s => s.currentEpoch.toNat)
      (fun s => s.currentEpoch.toNat) SameButRole where
  kept := by
    intro primary event after emitted ⟨leading, stamped⟩ admitted handled
    refine ⟨coordinator_mirrors.kept leading admitted.1 handled, ?_⟩
    exact stamped_preserved primary event after stamped ⟨admitted.unstamped, admitted.2⟩
      (stepEmitting_eq_ok handled).1
  follows := fun ⟨leading, _⟩ admitted handled agree =>
    coordinator_mirrors.follows leading admitted.1 handled agree
  repairs := fun ⟨leading, _⟩ admitted resyncs handled speaks =>
    coordinator_mirrors.repairs leading admitted.1 resyncs handled speaks
  speaks := fun ⟨leading, _⟩ admitted handled =>
    coordinator_mirrors.speaks leading admitted.1 handled
  agrees := fun ⟨leading, _⟩ passive => coordinator_mirrors.agrees leading passive
  stamped := by
    intro primary event after emitted ⟨leading, stamped⟩ admitted handled
    obtain ⟨stepped, rfl⟩ := stepEmitting_eq_ok handled
    have later : after.Stamped :=
      stamped_preserved primary event after stamped ⟨admitted.unstamped, admitted.2⟩ stepped
    constructor
    · have respected := (epochRespected_iff primary event).mpr admitted.2 after stepped
      exact UInt64.le_iff_toNat_le.mp respected.1
    · intro msg member
      obtain ⟨pushed, _⟩ := List.mem_filter.mp (List.mem_of_mem_drop member)
      obtain ⟨out, isPushed, rfl⟩ := List.mem_map.mp pushed
      exact UInt64.le_iff_toNat_le.mp (later.sent out isPushed)
  renewed := by
    intro primary event after emitted ⟨leading, stamped⟩ admitted resyncs handled speaks
    obtain ⟨stepped, rfl⟩ := stepEmitting_eq_ok handled
    cases event with
    | peerReconnected env =>
        have isPrimary : primary.isPrimary = true := by simpa using speaks
        refine ⟨primary.snapshotMessage, ?_, toNat_epoch_succ (admitted.2 isPrimary), ?_⟩
        · rw [replications_of_reconnect admitted.1.2 isPrimary stepped, List.drop_left]
        · exact fun input mirror => Nat.le_refl _
    | _ => cases resyncs
  raised := by
    intro input mirror msg recent
    refine UInt64.le_iff_toNat_le.mp (currentEpoch_le_receive fun isSnapshot => ?_)
    exact UInt64.le_iff_toNat_le.mpr (recent isSnapshot)
  ignored := by
    intro input mirror msg notSnapshot outdated
    exact receive_outdated notSnapshot (UInt64.lt_iff_toNat_lt.mpr outdated)
  sameApply := fun same => same.receive _ _
  sameAgree := by
    rintro first second primary ⟨role, rfl⟩ agree
    exact ⟨agree.epoch, agree.noneEarly, agree.copied, agree.known⟩
  sameLevel := by
    rintro first second ⟨role, rfl⟩
    rfl

end Coordinator

end TaskCoordinator
