import TaskCoordinator.Coordinator.Moves
import TaskCoordinator.Library.SwapRemove

/-!
# Effects on the task table and on the running sets

For each outcome of an event and each move: which worker holds which task afterwards, and
what has become of the task table.  The invariants of the following modules are proved
from these facts.
-/

namespace TaskCoordinator.Coordinator

open Transition

variable {s s' : Coordinator} {event : Event}

/-! ## Messages sent -/

/-- An `ASSIGN` for the task has been pushed. -/
def Assigned (s : Coordinator) (id : TaskId) : Prop :=
  ∃ sent ∈ s.outgoingQueue, sent.msg.assigns? = some id

instance (s : Coordinator) (id : TaskId) : Decidable (s.Assigned id) :=
  inferInstanceAs (Decidable (∃ sent ∈ s.outgoingQueue, sent.msg.assigns? = some id))

/-- A registration has been acknowledged with this worker id. -/
def Acknowledged (s : Coordinator) (worker : WorkerId) : Prop :=
  ∃ sent ∈ s.outgoingQueue, sent.msg.acknowledges? = some worker

instance (s : Coordinator) (worker : WorkerId) : Decidable (s.Acknowledged worker) :=
  inferInstanceAs (Decidable (∃ sent ∈ s.outgoingQueue, sent.msg.acknowledges? = some worker))

@[simp] theorem assigns?_assignMessage (s : Coordinator) (task : Task) :
    (s.assignMessage task).assigns? = some task.id := by
  simp only [assignMessage, Message.assigns?]
  cases task.type <;> rfl

@[simp] theorem answers?_assignMessage (s : Coordinator) (task : Task) :
    (s.assignMessage task).answers? = none := rfl

@[simp] theorem acknowledges?_assignMessage (s : Coordinator) (task : Task) :
    (s.assignMessage task).acknowledges? = none := rfl

@[simp] theorem assigns?_resultMessage (s : Coordinator) (task : Task) :
    (s.resultMessage task).assigns? = none := rfl

@[simp] theorem answers?_resultMessage (s : Coordinator) (task : Task) :
    (s.resultMessage task).answers? = some task.id := rfl

@[simp] theorem acknowledges?_resultMessage (s : Coordinator) (task : Task) :
    (s.resultMessage task).acknowledges? = none := rfl

@[simp] theorem assigns?_acknowledgement (fd : Fd) (worker : WorkerId) :
    (acknowledgement fd worker).msg.assigns? = none := rfl

@[simp] theorem answers?_acknowledgement (fd : Fd) (worker : WorkerId) :
    (acknowledgement fd worker).msg.answers? = none := rfl

@[simp] theorem acknowledges?_acknowledgement (fd : Fd) (worker : WorkerId) :
    (acknowledgement fd worker).msg.acknowledges? = some worker := rfl

section

variable {sent : OutgoingEvent} {id : TaskId} {worker : WorkerId}

/-- After one push, an acknowledgement in the queue is the message pushed or was there before. -/
theorem acknowledged_of_push (queue : s'.outgoingQueue = s.outgoingQueue ++ [sent])
    (acknowledged : s'.Acknowledged worker) :
    s.Acknowledged worker ∨ sent.msg.acknowledges? = some worker := by
  obtain ⟨message, member, given⟩ := acknowledged
  rw [queue, List.mem_append, List.mem_singleton] at member
  obtain member | rfl := member
  · exact .inl ⟨message, member, given⟩
  · exact .inr given

/-- A message that is no `ASSIGN` has been pushed. -/
theorem assigned_before (queue : s'.outgoingQueue = s.outgoingQueue ++ [sent])
    (other : sent.msg.assigns? = none) (assigned : s'.Assigned id) : s.Assigned id := by
  obtain ⟨message, member, given⟩ := assigned
  rw [queue, List.mem_append, List.mem_singleton] at member
  obtain member | rfl := member
  · exact ⟨message, member, given⟩
  · rw [other] at given
    cases given

/-- A message that is no acknowledgement has been pushed. -/
theorem acknowledged_before (queue : s'.outgoingQueue = s.outgoingQueue ++ [sent])
    (other : sent.msg.acknowledges? = none) (acknowledged : s'.Acknowledged worker) :
    s.Acknowledged worker := by
  obtain before | given := acknowledged_of_push queue acknowledged
  · exact before
  · rw [other] at given
    cases given

end

/-- No slot of the log holds a message for a client or a worker. -/
def LogPrivate (s : Coordinator) : Prop :=
  ∀ slot, (s.replicationLog.slots slot).assigns? = none ∧
    (s.replicationLog.slots slot).answers? = none ∧
    (s.replicationLog.slots slot).acknowledges? = none

theorem logPrivate_init : init.LogPrivate :=
  fun _ => ⟨rfl, rfl, rfl⟩

/-- The message that `replicate` pushes next is for the peer. -/
theorem LogPrivate.head (logPrivate : s.LogPrivate) :
    s.replicationLog.head.assigns? = none ∧ s.replicationLog.head.answers? = none ∧
      s.replicationLog.head.acknowledges? = none :=
  logPrivate _

theorem logPrivate_of_add {msg : Message} (logPrivate : s.LogPrivate)
    (replication : msg.isReplication = true)
    (added : s'.replicationLog.slots = (s.replicationLog.add msg).slots) :
    s'.LogPrivate := by
  intro slot
  rw [added]
  by_cases written : slot = s.replicationLog.write
  · subst slot
    obtain ⟨epoch, body⟩ := msg
    cases body <;>
      simp [RingLog.add, Message.isReplication, Message.assigns?, Message.answers?,
        Message.acknowledges?] at replication ⊢
  · simpa [RingLog.add, Function.update_of_ne written] using logPrivate slot

/-! ## Running sets -/

/-- The running set of `worker` has `id` in it. -/
def Runs (s : Coordinator) (worker : WorkerId) (id : TaskId) : Prop :=
  ∃ state, s.workersStates[worker]? = some state ∧ id ∈ state.runningTasks

theorem runs_iff_of_held {worker : WorkerId} {id : TaskId} {state : WorkerState}
    (held : s.workersStates[worker]? = some state) :
    s.Runs worker id ↔ id ∈ state.runningTasks := by
  simp [Runs, held]

/-- Running sets after one worker's state has been changed. -/
theorem runs_of_modify {worker other : WorkerId} {id : TaskId}
    {change : WorkerState → WorkerState}
    (modified : s'.workersStates = s.workersStates.modify worker change) :
    s'.Runs other id ↔
      ∃ state, s.workersStates[other]? = some state ∧
        id ∈ (if worker = other then change state else state).runningTasks := by
  simp only [Runs, modified, List.getElem?_modify]
  cases s.workersStates[other]? with
  | none => simp
  | some state => simp

/-- A change of a worker's state that keeps its running set keeps every running set. -/
theorem runs_of_modify_keeps {worker other : WorkerId} {id : TaskId}
    {change : WorkerState → WorkerState}
    (modified : s'.workersStates = s.workersStates.modify worker change)
    (keeps : ∀ state, (change state).runningTasks = state.runningTasks) :
    s'.Runs other id ↔ s.Runs other id := by
  rw [runs_of_modify modified]
  unfold Runs
  split
  next => simp only [keeps]
  next => exact Iff.rfl

/-- After an assignment the chosen worker runs the task, and all else is as before. -/
theorem runs_assignTo {task : Task} {activeIdx : Nat} {worker other : WorkerId}
    {state : WorkerState} {fd : Fd} {now : Nanoseconds} {id : TaskId}
    (held : s.workersStates[worker]? = some state) :
    (s.assignTo task activeIdx worker fd now).Runs other id ↔
      (other = worker ∧ id = task.id) ∨ s.Runs other id := by
  rw [runs_of_modify (assignTo_workersStates ..)]
  unfold Runs
  split
  next same =>
    subst other
    simp [held]
  next different => simp [Ne.symm different]

/-- A completion takes the task out of the running set of the worker its record names. -/
theorem runs_finish {msg : CompleteMsg} {task : Task} {other : WorkerId} {id : TaskId} :
    (s.finish msg task).Runs other id ↔
      ¬(other = task.workerId ∧ id = task.id) ∧ s.Runs other id := by
  rw [runs_of_modify (finish_workersStates ..)]
  unfold Runs
  split
  next same =>
    subst other
    simp only [WorkerState.recordCompletion, UnorderedSet.mem_erase, true_and]
    constructor
    · rintro ⟨state, held, different, member⟩
      exact ⟨different, state, held, member⟩
    · rintro ⟨different, state, held, member⟩
      exact ⟨state, held, different, member⟩
  next different =>
    simp only [Ne.symm different, false_and, not_false_eq_true, true_and]

/-- A new worker starts with an empty running set. -/
theorem runs_registerFresh {fd : Fd} {other : WorkerId} {now : Nanoseconds} {id : TaskId} :
    (s.registerFresh fd now).Runs other id ↔ s.Runs other id := by
  unfold Runs
  simp only [registerFresh_workersStates, SwapRemove.getElem?_pushed_eq_some]
  constructor
  · rintro ⟨state, held | ⟨_, rfl⟩, member⟩
    · exact ⟨state, held, member⟩
    · simp at member
  · rintro ⟨state, held, member⟩
    exact ⟨state, .inl held, member⟩

/-! ## Death of a worker -/

/-- `markInactive` leaves the state when the worker's position is outside the active
workers, and otherwise moves the last active worker to this position. -/
theorem markInactive_spec {worker : WorkerId} (marked : s.markInactive worker = .ok s') :
    (s' = s ∧ ∀ state, s.workersStates[worker]? = some state →
      s.activeWorkers.length ≤ state.activeIndex) ∨
    ∃ last state, s.activeWorkers.getLast? = some last ∧
      s.workersStates[worker]? = some state ∧
      state.activeIndex < s.activeWorkers.length ∧
      s' = { s with
        activeWorkers := (s.activeWorkers.set state.activeIndex last).dropLast
        workersStates := s.workersStates.modify last fun moved =>
          { moved with activeIndex := state.activeIndex } } := by
  unfold markInactive at marked
  cases final : s.activeWorkers.getLast? with
  | none =>
      simp only [final] at marked
      cases marked
      refine .inl ⟨rfl, fun _ _ => ?_⟩
      simp [List.getLast?_eq_none_iff.mp final]
  | some last =>
      simp only [final, bind_eq_ok, workerAt_eq_ok] at marked
      obtain ⟨state, held, rest⟩ := marked
      split at rest
      next outside =>
        cases rest
        refine .inl ⟨rfl, fun again heldAgain => ?_⟩
        rw [held] at heldAgain
        cases heldAgain
        exact outside
      next inside =>
        obtain ⟨_, _, done⟩ := bind_eq_ok.mp rest
        cases done
        exact .inr ⟨last, state, rfl, held, not_le.mp inside, rfl⟩

/-- The loop of `requeue` puts its ids at the end of the backlog and marks their tasks
queued. -/
theorem requeue_spec {ids : List TaskId} (requeued : requeue ids s = .ok s') :
    s' = { s with tasks := s'.tasks, queuedBacklog := s.queuedBacklog ++ ids } ∧
    ∀ id, s'.tasks.find? id = (s.tasks.find? id).map fun task =>
      if id ∈ ids then task.requeued else task := by
  induction ids generalizing s with
  | nil =>
      cases requeued
      simp
  | cons first rest ih =>
      simp only [requeue, bind_eq_ok, taskAt_eq_ok] at requeued
      obtain ⟨task, found, later⟩ := requeued
      obtain ⟨frame, table⟩ := ih later
      have sameId := TaskTable.id_of_find? found
      constructor
      · rw [frame]
        simp
      · intro id
        rw [table id, TaskTable.find?_set]
        simp only [Task.requeued_id, sameId]
        by_cases isFirst : id = first
        · subst id
          by_cases again : first ∈ rest
          · simp [found, again]
          · simp [found, again]
        · simp [isFirst]

/-- Declaring a worker dead: it leaves the active workers, its id becomes available, its
state loses the connection and the running set, and its tasks are queued again. -/
theorem declareDead_spec {worker : WorkerId} {running : List TaskId} {dead : Coordinator}
    (declared : s.declareDead worker running = .ok dead) :
    ∃ inactive, s.markInactive worker = .ok inactive ∧
      dead = { s with
        tasks := dead.tasks
        queuedBacklog := s.queuedBacklog ++ running
        activeWorkers := inactive.activeWorkers
        availableIds := s.availableIds ++ [worker]
        workersStates := inactive.workersStates.modify worker fun state =>
          { state.markDead with runningTasks := ∅ } } ∧
      ∀ id, dead.tasks.find? id = (s.tasks.find? id).map fun task =>
        if id ∈ running then task.requeued else task := by
  simp only [declareDead, bind_eq_ok] at declared
  obtain ⟨inactive, marked, requeued, called, finished⟩ := declared
  cases finished
  refine ⟨inactive, marked, ?_⟩
  obtain ⟨frame, table⟩ := requeue_spec called
  have same : inactive = { s with
      activeWorkers := inactive.activeWorkers
      workersStates := inactive.workersStates } := by
    obtain ⟨rfl, _⟩ | ⟨last, state, _, _, _, rfl⟩ := markInactive_spec marked
    · rfl
    · rfl
  constructor
  · rw [frame, same]
    simp [modifyWorker, List.modify_modify_eq, Function.comp_def]
  · intro id
    have sameTable : inactive.tasks = s.tasks := by rw [same]
    rw [modifyWorker_tasks, table id, modifyWorker_tasks, sameTable]

/-- Only the running set of the dead worker changes: it becomes empty. -/
theorem runs_declareDead {worker other : WorkerId} {running : List TaskId}
    {dead : Coordinator} {id : TaskId}
    (declared : s.declareDead worker running = .ok dead) :
    dead.Runs other id ↔ other ≠ worker ∧ s.Runs other id := by
  obtain ⟨inactive, marked, frame, _⟩ := declareDead_spec declared
  have kept : inactive.Runs other id ↔ s.Runs other id := by
    obtain ⟨rfl, _⟩ | ⟨last, state, _, _, _, rfl⟩ := markInactive_spec marked
    · exact Iff.rfl
    · exact runs_of_modify_keeps rfl fun _ => rfl
  rw [runs_of_modify (congrArg workersStates frame), ← kept]
  unfold Runs
  split
  next same =>
    subst other
    simp
  next different =>
    simp only [Ne.symm different, ne_eq, not_false_eq_true, true_and]

/-! ## Replication messages -/

/-- A `COMPLETED_REPLICATE` is ignored as outdated, is stashed, or completes its task. -/
theorem completeReplicate_cases (s : Coordinator) (replication : CompletedReplication) :
    s.processCompleteReplicateEvent replication = { s with isPrimary := false } ∨
    s.processCompleteReplicateEvent replication =
      { s with
        isPrimary := false
        earlyCompleteReps :=
          s.earlyCompleteReps.insert replication.msg.taskId replication } ∨
    ∃ task, s.tasks.find? replication.msg.taskId = some task ∧
      s.currentEpoch ≤ replication.epoch ∧
      s.processCompleteReplicateEvent replication =
        { s with
          isPrimary := false
          currentEpoch := replication.epoch
          tasks := s.tasks.set (replication.msg.update task)
          metrics := s.metrics.recordCompletionSystem (replication.msg.update task) } := by
  unfold processCompleteReplicateEvent
  dsimp only
  split
  next => exact .inl rfl
  next recent =>
    split
    next => exact .inr (.inl rfl)
    next task found =>
      split
      next => exact .inr (.inl rfl)
      next => exact .inr (.inr ⟨task, found, UInt64.not_lt.mp recent, rfl⟩)

/-- A `COMPLETED_REPLICATE` touches only the role, the epoch, the task table, the stash
and the metrics. -/
theorem completeReplicate_frame (s : Coordinator) (replication : CompletedReplication) :
    s.processCompleteReplicateEvent replication =
      { s with
        isPrimary := false
        currentEpoch := (s.processCompleteReplicateEvent replication).currentEpoch
        tasks := (s.processCompleteReplicateEvent replication).tasks
        earlyCompleteReps := (s.processCompleteReplicateEvent replication).earlyCompleteReps
        metrics := (s.processCompleteReplicateEvent replication).metrics } := by
  rcases completeReplicate_cases s replication with outdated | stashed | ⟨task, _, _, completed⟩
  · rw [outdated]
  · rw [stashed]
  · rw [completed]

/-- So does an `ASSIGNED_REPLICATE`. -/
theorem assignReplicate_frame (s : Coordinator) (epoch : UInt64)
    (msg : AssignedReplicationMsg) :
    s.processAssignReplicateEvent epoch msg =
      { s with
        isPrimary := false
        currentEpoch := (s.processAssignReplicateEvent epoch msg).currentEpoch
        tasks := (s.processAssignReplicateEvent epoch msg).tasks
        earlyCompleteReps := (s.processAssignReplicateEvent epoch msg).earlyCompleteReps
        metrics := (s.processAssignReplicateEvent epoch msg).metrics } := by
  unfold processAssignReplicateEvent
  split
  next => rfl
  next =>
    split
    next => rfl
    next early _ =>
      simp only
      rw [completeReplicate_frame]

/-! ## The outgoing queue -/

/-- Receiving an event only adds to what has been sent. -/
theorem outgoing_of_received (received : Received s event s') :
    ∃ pushed, s'.outgoingQueue = s.outgoingQueue ++ pushed := by
  cases received with
  | submitAssigned | completeAnswered | topRequest | registerReused | registerFresh =>
      exact ⟨_, rfl⟩
  | assignedReplicate =>
      rw [assignReplicate_frame]
      exact ⟨[], by simp⟩
  | completedReplicate =>
      rw [completeReplicate_frame]
      exact ⟨[], by simp⟩
  | peerReconnected =>
      simp only [processPeerReconnected]
      split_ifs
      · exact ⟨_, rfl⟩
      · exact ⟨[], by simp⟩
      · exact ⟨[], by simp⟩
  | _ => exact ⟨[], by simp [processSnapshotEvent]⟩

/-- So do the moves that follow. -/
theorem outgoing_of_move (move : Move event s s') :
    ∃ pushed, s'.outgoingQueue = s.outgoingQueue ++ pushed := by
  cases move with
  | replicated | answered | assigned => exact ⟨_, rfl⟩
  | dropped => exact ⟨[], by simp⟩
  | died _ _ _ _ declared =>
      obtain ⟨_, _, frame, _⟩ := declareDead_spec declared
      rw [frame]
      exact ⟨[], by simp⟩

/-! ## The log -/

theorem LogPrivate.received (logPrivate : s.LogPrivate) (received : Received s event s') :
    s'.LogPrivate := by
  cases received with
  | submitAssigned now offers => exact logPrivate_of_add (s := s) logPrivate rfl rfl
  | completeAnswered found held => exact logPrivate_of_add (s := s) logPrivate rfl rfl
  | assignedReplicate =>
      rw [assignReplicate_frame]
      exact logPrivate
  | completedReplicate =>
      rw [completeReplicate_frame]
      exact logPrivate
  | peerReconnected =>
      simp only [LogPrivate, processPeerReconnected]
      split_ifs <;> exact logPrivate
  | _ => exact logPrivate

theorem LogPrivate.move (logPrivate : s.LogPrivate) (move : Move event s s') :
    s'.LogPrivate := by
  cases move with
  | answered _ _ _ => exact logPrivate_of_add (s := s) logPrivate rfl rfl
  | assigned now _ _ _ _ => exact logPrivate_of_add (s := s) logPrivate rfl rfl
  | died _ _ _ _ declared =>
      obtain ⟨_, _, frame, _⟩ := declareDead_spec declared
      rw [frame]
      exact logPrivate
  | _ => exact logPrivate

/-- The log of a reachable coordinator is for the peer only. -/
theorem logPrivate_preserved (guard : Coordinator → Event → Prop) :
    Preserves step guard LogPrivate :=
  preserves_of_moves
    (fun _ _ _ logPrivate _ received => logPrivate.received received)
    (fun _ _ _ _ _ move logPrivate => logPrivate.move move)

theorem logPrivate_of_run {events : List Event} (ran : run events = .ok s) : s.LogPrivate :=
  (logPrivate_preserved fun _ _ => True).run logPrivate_init (along_of_forall fun _ _ => trivial)
    ran

end TaskCoordinator.Coordinator
