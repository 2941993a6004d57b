import TaskCoordinator.Coordinator.Accepted
import TaskCoordinator.Coordinator.Lifecycle
import TaskCoordinator.Library.Mirror

/-!
# Agreement of the backup with the primary

The primary sends its backup an `ASSIGNED_REPLICATE` for every task it hands out and a
`COMPLETED_REPLICATE` for every result it sends.  When the connection has failed, messages
are dropped until the network thread has reconnected, which it reports to the primary by a
`PEER_RECONNECTED`.  The primary answers that with a snapshot of its task table in a new
epoch.

This is an instance of `Mirror`: every message keeps an agreeing backup in agreement, and a
snapshot brings any backup into agreement.  Agreement concerns what a snapshot carries.
`Task::serialize` leaves out the text of a word count, so a backup that has been repaired
by a snapshot has the tasks without their texts.
-/

namespace TaskCoordinator

/-! ## The wire -/

/-- The part of a task that a snapshot carries. -/
@[simps] def Task.onWire (task : Task) : Task :=
  { task with
    durationUs := if task.type = .synthetic then task.durationUs else 0
    words := [] }

@[simp] theorem Task.onWire_onWire (task : Task) : task.onWire.onWire = task.onWire := by
  by_cases synthetic : task.type = .synthetic <;> simp [Task.onWire, synthetic]

/-- The entries of a task table as they arrive at the other side of a snapshot. -/
def TaskTable.entriesOnWire (table : TaskTable) : AList fun _ : TaskId => Task where
  entries := table.entries.entries.map (.map id fun _ => Task.onWire)
  nodupKeys := by
    rw [List.NodupKeys, List.map₂_keys]
    exact table.entries.nodupKeys

theorem TaskTable.lookup_entriesOnWire (table : TaskTable) (id : TaskId) :
    table.entriesOnWire.lookup id = (table.find? id).map Task.onWire :=
  List.dlookup_map₂ id

def TaskTable.onWire (table : TaskTable) : TaskTable where
  entries := table.entriesOnWire
  id_eq := by
    intro id task arrived
    rw [lookup_entriesOnWire] at arrived
    obtain ⟨stored, found, rfl⟩ := Option.map_eq_some_iff.mp arrived
    exact (Task.onWire_id stored).trans (id_of_find? found)

theorem TaskTable.find?_onWire (table : TaskTable) (id : TaskId) :
    table.onWire.find? id = (table.find? id).map Task.onWire :=
  table.lookup_entriesOnWire id

namespace Coordinator

/-- The backup takes a message from its peer, on the connection and with the inputs of
`input`.  The other two kinds of replication messages arrive as they were sent. -/
def receive (input : Fd × Env) (s : Coordinator) (msg : Message) : Coordinator :=
  match msg.body with
  | .assignedReplicate body => s.processAssignReplicateEvent msg.epoch body
  | .completedReplicate body =>
      s.processCompleteReplicateEvent { fd := input.1, epoch := msg.epoch, msg := body }
  | .snapshot tasks => s.processSnapshotEvent msg.epoch tasks.onWire input.2
  | _ => s

/-- The messages for the peer among those pushed so far. -/
def replications (s : Coordinator) : List Message :=
  (s.outgoingQueue.map OutgoingEvent.msg).filter Message.isReplication

open Transition Mirror

variable {s s' backup : Coordinator} {event : Event}

/-! ## Agreement -/

/-- The backup has a copy of every task that the primary has handed out and not taken back,
and it knows no task and no completion that the primary does not know. -/
structure Agree (backup primary : Coordinator) : Prop where
  epoch : backup.currentEpoch ≤ primary.currentEpoch
  noneEarly : backup.earlyCompleteReps = ∅
  copied : ∀ id task, primary.tasks.find? id = some task → task.state ≠ .queued →
    ∃ copy, backup.tasks.find? id = some copy ∧ copy.onWire = task.onWire
  known : ∀ id copy, backup.tasks.find? id = some copy →
    ∃ task, primary.tasks.find? id = some task ∧
      (copy.state = .completed → task.state = .completed)

theorem Agree.of_same (agree : Agree backup s) (epoch : s'.currentEpoch = s.currentEpoch)
    (table : s'.tasks = s.tasks) : Agree backup s' where
  epoch := epoch ▸ agree.epoch
  noneEarly := agree.noneEarly
  copied := by
    rw [table]
    exact agree.copied
  known := by
    rw [table]
    exact agree.known

theorem state_of_onWire {copy task : Task} (same : copy.onWire = task.onWire) :
    copy.state = task.state := by
  simpa using congrArg Task.state same

/-- A new task that is not handed out yet. -/
theorem Agree.enqueue (agree : Agree backup s) {task : Task} (queued : task.state = .queued)
    (fresh : s.tasks.find? task.id = none) (epoch : s'.currentEpoch = s.currentEpoch)
    (table : s'.tasks = s.tasks.set task) : Agree backup s' where
  epoch := epoch ▸ agree.epoch
  noneEarly := agree.noneEarly
  copied := by
    intro id stored found handedOut
    rw [table, TaskTable.find?_set] at found
    split at found
    next =>
      cases found
      exact absurd queued handedOut
    next => exact agree.copied id stored found handedOut
  known := by
    intro id copy found
    obtain ⟨stored, foundStored, completed⟩ := agree.known id copy found
    refine ⟨stored, ?_, completed⟩
    rw [table, TaskTable.find?_set, if_neg, foundStored]
    rintro rfl
    rw [fresh] at foundStored
    cases foundStored

/-- The tasks of a dead worker are taken back. -/
theorem Agree.declareDead (agree : Agree backup s) (exact : s.Exact) {worker : WorkerId}
    {state : WorkerState} {running : List TaskId} {dead : Coordinator}
    (held : s.workersStates[worker]? = some state)
    (order : running.Perm state.runningTasks.items)
    (declared : s.declareDead worker running = .ok dead) : Agree backup dead := by
  obtain ⟨_, _, frame, table⟩ := declareDead_spec declared
  refine ⟨?_, agree.noneEarly, ?_, ?_⟩
  · rw [frame]
    exact agree.epoch
  · intro id task found handedOut
    rw [table id] at found
    obtain ⟨before, foundBefore, rfl⟩ := Option.map_eq_some_iff.mp found
    split at handedOut
    next => exact absurd rfl handedOut
    next absent =>
      rw [if_neg absent]
      exact agree.copied id before foundBefore handedOut
  · intro id copy found
    obtain ⟨task, foundTask, completed⟩ := agree.known id copy found
    rw [table id, foundTask]
    refine ⟨_, rfl, fun isCompleted => ?_⟩
    simp only
    rw [if_neg]
    · exact completed isCompleted
    · intro member
      have runs : s.Runs worker id := ⟨state, held, order.mem_iff.mp member⟩
      have isDone : s.Completed id := ⟨task, foundTask, completed isCompleted⟩
      exact isDone.not_running ((exact.runs_iff worker id).mp runs).running

/-! ## Messages keep agreement -/

/-- The fields that a completion fills in still have their first values. -/
structure Blank (task : Task) : Prop where
  result : task.result = 0
  success : task.success = 0
  completedAt : task.completedAt = 0

/-- The body of an `ASSIGNED_REPLICATE`. -/
theorem exists_assignedReplication (s : Coordinator) (task : Task) :
    ∃ body, s.assignedReplication task =
      { epoch := s.currentEpoch, body := .assignedReplicate body } :=
  ⟨_, rfl⟩

/-- An `ASSIGNED_REPLICATE` describes the record it was made from. -/
theorem task_of_assignedReplication {task : Task} (blank : Blank task)
    (running : task.state = .running) {body : AssignedReplicationMsg}
    (made : s.assignedReplication task =
      { epoch := s.currentEpoch, body := .assignedReplicate body }) :
    body.task.onWire = task.onWire := by
  obtain ⟨result, success, completedAt⟩ := blank
  obtain ⟨id, queuedAt, startedAt, _, clientId, workerId, _, _, type, _, durationUs, words⟩ := task
  simp only at result success completedAt running
  subst result success completedAt running
  simp only [assignedReplication, Message.mk.injEq, Body.assignedReplicate.injEq] at made
  obtain ⟨_, rfl⟩ := made
  cases type <;> simp [AssignedReplicationMsg.task, Task.onWire]

/-- A copy is written on both sides. -/
theorem Agree.set {after : Coordinator} (agree : Agree backup s) {copy task : Task}
    (same : copy.onWire = task.onWire) (epoch : after.currentEpoch ≤ s'.currentEpoch)
    (noneEarly : after.earlyCompleteReps = ∅) (copyTable : after.tasks = backup.tasks.set copy)
    (table : s'.tasks = s.tasks.set task) : Agree after s' := by
  have sameId : copy.id = task.id := by simpa using congrArg Task.id same
  refine ⟨epoch, noneEarly, ?_, ?_⟩
  · intro id stored found handedOut
    rw [table, TaskTable.find?_set] at found
    rw [copyTable, TaskTable.find?_set, sameId]
    split at found
    next isTask =>
      cases found
      exact ⟨copy, if_pos isTask, same⟩
    next different =>
      rw [if_neg different]
      exact agree.copied id stored found handedOut
  · intro id stored found
    rw [copyTable, TaskTable.find?_set, sameId] at found
    rw [table, TaskTable.find?_set]
    split at found
    next isTask =>
      cases found
      refine ⟨task, if_pos isTask, fun completed => ?_⟩
      rwa [← state_of_onWire same]
    next different =>
      rw [if_neg different]
      exact agree.known id stored found

theorem Agree.assigned (agree : Agree backup s) {task : Task} (blank : Blank task)
    (running : task.state = .running) (epoch : s'.currentEpoch = s.currentEpoch)
    (table : s'.tasks = s.tasks.set task) (input : Fd × Env) :
    Agree (backup.receive input (s.assignedReplication task)) s' := by
  obtain ⟨body, made⟩ := exists_assignedReplication s task
  have recent : ¬ s.currentEpoch < backup.currentEpoch := UInt64.not_lt.mpr agree.epoch
  have outcome : backup.receive input (s.assignedReplication task) =
      { backup with
        isPrimary := false
        currentEpoch := s.currentEpoch
        tasks := backup.tasks.set body.task
        metrics := backup.metrics.recordAssignment } := by
    simp [receive, made, processAssignReplicateEvent, recent, agree.noneEarly]
  rw [outcome]
  exact agree.set (task_of_assignedReplication blank running made)
    (epoch ▸ UInt64.le_refl _) agree.noneEarly rfl table

/-- A `COMPLETED_REPLICATE` makes of a copy what the completion made of the record. -/
theorem update_of_completedReplication {copy task : Task} (same : copy.onWire = task.onWire)
    (msg : CompleteMsg) {body : CompletedReplicationMsg}
    (made : (s.completedReplication (msg.update task)).body = .completedReplicate body) :
    (body.update copy).onWire = (msg.update task).onWire := by
  simp only [completedReplication, Body.completedReplicate.injEq] at made
  subst made
  obtain ⟨id, queuedAt, startedAt, completedAt, clientId, workerId, result, success, type, state,
    durationUs, words⟩ := task
  obtain ⟨_, _, _, _, _, _, _, _, _, _, _, _⟩ := copy
  simp only [Task.onWire, Task.mk.injEq] at same
  obtain ⟨rfl, rfl, _, _, rfl, rfl, _, _, rfl, _, duration, _⟩ := same
  rw [Task.onWire, Task.onWire]
  exact congrArg (fun durationUs => { (msg.update _) with durationUs, words := [] }) duration

/-- The completion of a running task. -/
theorem Agree.completed (agree : Agree backup s) {msg : CompleteMsg} {task : Task}
    (found : s.tasks.find? msg.taskId = some task) (running : task.state = .running)
    (epoch : s'.currentEpoch = s.currentEpoch)
    (table : s'.tasks = s.tasks.set (msg.update task)) (input : Fd × Env) :
    Agree (backup.receive input (s.completedReplication (msg.update task))) s' := by
  obtain ⟨copy, foundCopy, same⟩ := agree.copied _ task found (by simp [running])
  have recent : ¬ s.currentEpoch < backup.currentEpoch := UInt64.not_lt.mpr agree.epoch
  have unfinished : copy.state ≠ .completed := by
    rw [state_of_onWire same, running]
    decide
  have isCopy : backup.tasks.find? (msg.update task).id = some copy := by
    rw [CompleteMsg.update_id, TaskTable.id_of_find? found, foundCopy]
  have outcome : ∃ body, (s.completedReplication (msg.update task)).body =
      .completedReplicate body ∧
      backup.receive input (s.completedReplication (msg.update task)) =
        { backup with
          isPrimary := false
          currentEpoch := s.currentEpoch
          tasks := backup.tasks.set (body.update copy)
          metrics := backup.metrics.recordCompletionSystem (body.update copy) } := by
    refine ⟨_, rfl, ?_⟩
    simp only [receive, completedReplication, processCompleteReplicateEvent, recent, isCopy,
      unfinished, if_false]
  obtain ⟨body, made, outcome⟩ := outcome
  rw [outcome]
  exact agree.set (update_of_completedReplication same msg made)
    (epoch ▸ UInt64.le_refl _) agree.noneEarly rfl table

/-- A snapshot brings any backup into agreement. -/
theorem agree_of_snapshot (epoch : s'.currentEpoch = s.currentEpoch + 1)
    (table : s'.tasks = s.tasks) (backup : Coordinator) (input : Fd × Env) :
    Agree (backup.receive input s.snapshotMessage) s' where
  epoch := by
    rw [epoch]
    exact UInt64.le_refl _
  noneEarly := rfl
  copied := by
    intro id task found _
    rw [table] at found
    refine ⟨task.onWire, ?_, Task.onWire_onWire task⟩
    change s.tasks.onWire.find? id = _
    rw [TaskTable.find?_onWire, found, Option.map_some]
  known := by
    intro id copy arrived
    change s.tasks.onWire.find? id = _ at arrived
    rw [TaskTable.find?_onWire] at arrived
    obtain ⟨task, found, rfl⟩ := Option.map_eq_some_iff.mp arrived
    exact ⟨task, table ▸ found, fun completed => completed⟩

/-! ## The primary -/

/-- Clients and workers of the primary: every task is new, and completions name running
tasks. -/
def PrimaryTraffic (s : Coordinator) : Event → Prop
  | .submit _ msg _ => s.tasks.find? msg.taskId = none
  | .complete _ msg _ => s.Running msg.taskId
  | .heartbeat worker _ => worker < s.workersStates.length
  | .register .. | .pass _ | .backlog _ | .replicate _ | .sweep _ | .peerReconnected _ => True
  | _ => False

instance (s : Coordinator) : (event : Event) → Decidable (s.PrimaryTraffic event)
  | .submit _ msg _ => inferInstanceAs (Decidable (s.tasks.find? msg.taskId = none))
  | .complete _ msg _ => inferInstanceAs (Decidable (s.Running msg.taskId))
  | .heartbeat worker _ => inferInstanceAs (Decidable (worker < s.workersStates.length))
  | .register .. | .pass _ | .backlog _ | .replicate _ | .sweep _ | .peerReconnected _ =>
      isTrue trivial
  | .assignedReplicate .. | .completedReplicate _ | .snapshot .. | .topRequest .. => isFalse id

/-- What the primary handles: such traffic and reconnections, with no push refused. -/
def PrimaryEvent (s : Coordinator) (event : Event) : Prop :=
  s.PrimaryTraffic event ∧ event.env.Accepting

instance (s : Coordinator) (event : Event) : Decidable (s.PrimaryEvent event) :=
  inferInstanceAs (Decidable (s.PrimaryTraffic event ∧ event.env.Accepting))

/-- The invariant of the primary. -/
structure Leading (s : Coordinator) : Prop where
  settled : s.Settled
  drained : s.Drained
  blank : ∀ id task, s.tasks.find? id = some task → task.state ≠ .completed → Blank task
  answeredAll : s.completedBacklog = []
  passive : s.isPrimary = false → ∀ id, s.tasks.find? id = none

theorem Settled.flushed (settled : s.Settled) : s.flushed.Settled := by
  have accepting : Env.Accepting {} := by simp [Env.Accepting]
  rw [← (replicate_accepting s accepting).1]
  have kept : ∀ first second, Move (.replicate {}) first second →
      first.Settled → second.Settled := fun _ _ move settled => settled.move move
  exact kept_of_moves kept (replicate_moves s {}) settled

/-- The log and the outgoing queue do not matter to the rest of the invariant. -/
theorem Leading.of_settled (leading : s.Leading) (settled : s'.Settled)
    (table : s'.tasks = s.tasks) (backlog : s'.completedBacklog = [])
    (role : s'.isPrimary = s.isPrimary) : s'.flushed.Leading where
  settled := settled.flushed
  drained := drained_flushed s'
  blank := by
    rw [flushed_tasks, table]
    exact leading.blank
  answeredAll := backlog
  passive := by
    rw [flushed_tasks, table, flushed_isPrimary, role]
    exact leading.passive

theorem Leading.localEvent (leading : s.Leading) (admitted : s.PrimaryTraffic event)
    (notReconnect : event.isReconnect = false) : s.Orderly event := by
  cases event with
  | submit fd msg env => exact ⟨trivial, admitted, trivial⟩
  | complete fd msg env =>
      refine ⟨fun task found => ?_, trivial, admitted⟩
      obtain ⟨stored, foundStored, isRunning⟩ := admitted
      rw [found] at foundStored
      cases foundStored
      obtain ⟨state, held, _⟩ :=
        (leading.settled.exact.runs_iff task.workerId _).mpr ⟨task, found, isRunning, rfl⟩
      exact lt_of_held held
  | heartbeat worker env => exact ⟨admitted, trivial, trivial⟩
  | register | pass | backlog | replicate | sweep => exact ⟨trivial, trivial, trivial⟩
  | peerReconnected => cases notReconnect
  | assignedReplicate | completedReplicate | snapshot | topRequest => cases admitted

/-- A snapshot is for the peer only. -/
theorem Settled.pushSnapshot (settled : s.Settled) (epoch : UInt64) (msg : Message)
    (tasks : TaskTable) (isSnapshot : msg.body = .snapshot tasks) :
    ({ s with currentEpoch := epoch }.push { msg }).Settled := by
  have noAssign : msg.assigns? = none := by simp [Message.assigns?, isSnapshot]
  have noAnswer : msg.answers? = none := by simp [Message.answers?, isSnapshot]
  have noAcknowledge : msg.acknowledges? = none := by simp [Message.acknowledges?, isSnapshot]
  have sound := settled.sound
  refine ⟨?_, ?_, settled.backlogUncompleted, fun id => ?_⟩
  · refine ⟨sound.activeHeld, sound.freeHeld, sound.queuedKnown, sound.runningKnown,
      sound.recordHeld, ?_, ?_, sound.logPrivate⟩
    · intro id assigned
      exact sound.assignedHeld id (assigned_before rfl noAssign assigned)
    · intro worker acknowledged
      exact sound.acknowledgedHeld worker (acknowledged_before rfl noAcknowledge acknowledged)
  · exact settled.exact.of_same rfl rfl fun _ _ => Iff.rfl
  · refine (settled.answered id).quiet (fun completed => completed) ?_
    refine answers_of_quiet ?_ (List.Sublist.refl _)
    rw [results_push (s := s) rfl, noAnswer]
    simp

/-- A reconnection with no push refused. -/
theorem processPeerReconnected_accepting (s : Coordinator) {env : Env}
    (accepting : env.Accepting) :
    s.processPeerReconnected env =
      if s.isPrimary then
        { s with currentEpoch := s.currentEpoch + 1 }.push { msg := s.snapshotMessage }
      else s := by
  simp only [processPeerReconnected, accepting.accepts, if_true]

theorem SubmitMsg.task_blank (msg : SubmitMsg) (now : Nanoseconds) : Blank (msg.task now) := by
  unfold SubmitMsg.task
  cases msg.type <;> exact ⟨rfl, rfl, rfl⟩

/-- A record is written whose fields are filled in only if it is completed. -/
theorem blank_set {task : Task}
    (blank : ∀ id task, s.tasks.find? id = some task → task.state ≠ .completed → Blank task)
    (blankTask : task.state ≠ .completed → Blank task) (table : s'.tasks = s.tasks.set task) :
    ∀ id task, s'.tasks.find? id = some task → task.state ≠ .completed → Blank task := by
  intro id stored found unfinished
  rw [table, TaskTable.find?_set] at found
  split at found
  next =>
    cases found
    exact blankTask unfinished
  next => exact blank id stored found unfinished

theorem Leading.blank_accept (leading : s.Leading) (fd : Fd) (msg : SubmitMsg)
    (now : Nanoseconds) :
    ∀ id task, (s.accept fd msg now).tasks.find? id = some task →
      task.state ≠ .completed → Blank task :=
  blank_set leading.blank (fun _ => SubmitMsg.task_blank msg now) (accept_tasks ..)

theorem Leading.received (leading : s.Leading) (admitted : s.PrimaryEvent event)
    (received : Received s event s') : s'.flushed.Leading := by
  obtain ⟨admitted, accepting⟩ := admitted
  cases reconnect : event.isReconnect with
  | true =>
      cases received with
      | @peerReconnected env =>
          have accepts : env.Accepting := accepting
          rw [processPeerReconnected_accepting s accepts]
          split
          next =>
            have pushed := leading.settled.pushSnapshot (s.currentEpoch + 1) s.snapshotMessage
              s.tasks rfl
            exact leading.of_settled pushed rfl leading.answeredAll rfl
          next => exact leading.of_settled leading.settled rfl leading.answeredAll rfl
      | _ => cases reconnect
  | false =>
      have settled := leading.settled.received (leading.localEvent admitted reconnect) received
      cases received with
      | @submitAssigned fd msg env _ _ _ now =>
          have accepted := leading.blank_accept fd msg env.now
          refine ⟨settled.flushed, drained_flushed _, ?_, leading.answeredAll, fun role => ?_⟩
          · refine blank_set accepted (fun _ => ?_) rfl
            obtain ⟨result, success, completedAt⟩ := SubmitMsg.task_blank msg env.now
            exact ⟨result, success, completedAt⟩
          · cases role
      | @submitQueued fd msg env =>
          have accepted := leading.blank_accept fd msg env.now
          refine ⟨settled.flushed, drained_flushed _, accepted, leading.answeredAll, fun role => ?_⟩
          cases role
      | completeUnknown unknown =>
          obtain ⟨task, found, _⟩ := admitted
          rw [unknown] at found
          cases found
      | @completeAnswered _ msg _ task =>
          refine ⟨settled.flushed, drained_flushed _, ?_, leading.answeredAll, fun role => ?_⟩
          · refine blank_set leading.blank (fun unfinished => ?_) rfl
            exact absurd (CompleteMsg.update_state msg task) unfinished
          · cases role
      | completeDeferred _ _ refused =>
          have accepts := accepting.accepts
          rw [Event.env, refused] at accepts
          cases accepts
      | heartbeat | registerReused | registerFresh | registerRefused | pass | backlog | replicate
      | sweep => exact leading.of_settled settled rfl leading.answeredAll rfl
      | peerReconnected => cases reconnect
      | assignedReplicate | completedReplicate | snapshot | topRequest => cases admitted

/-- A task of the backlog that is assigned has no result yet. -/
theorem Leading.blank_assigned (leading : s.Leading) {id : TaskId} {task : Task}
    (waits : id ∈ s.queuedBacklog) (found : s.tasks.find? id = some task) (worker : WorkerId)
    (now : Nanoseconds) : Blank (task.assignedTo worker now) := by
  have uncompleted := leading.settled.backlogUncompleted id waits
  obtain ⟨result, success, completedAt⟩ := leading.blank id task found
    fun completed => uncompleted ⟨task, found, completed⟩
  exact ⟨result, success, completedAt⟩

/-- A coordinator that knows a task is primary. -/
theorem Leading.primary_of_known (leading : s.Leading) {id : TaskId} {task : Task}
    (found : s.tasks.find? id = some task) : s.isPrimary = true := by
  by_contra passive
  have unknown := leading.passive (Bool.eq_false_of_not_eq_true passive) id
  rw [found] at unknown
  cases unknown

theorem Leading.move (leading : s.Leading) (move : Move event s s') : s'.flushed.Leading := by
  have settled := leading.settled.move move
  cases move with
  | replicated pending => exact absurd (RingLog.pending_eq_nil.mp leading.drained) pending
  | dropped _ front | answered _ front =>
      rw [leading.answeredAll] at front
      cases front
  | @assigned id _ task _ worker _ now _ front found =>
      have blank := leading.blank_assigned (by simp [front]) found worker now
      refine ⟨settled.flushed, drained_flushed _, ?_, leading.answeredAll, fun role => ?_⟩
      · exact blank_set leading.blank (fun _ => blank) rfl
      · have passive : s.isPrimary = false := role
        rw [leading.primary_of_known found] at passive
        cases passive
  | @died _ worker state _ _ held _ order declared =>
      obtain ⟨_, _, frame, table⟩ := declareDead_spec declared
      refine ⟨settled.flushed, drained_flushed _, ?_, ?_, ?_⟩
      · intro id task found unfinished
        rw [flushed_tasks, table id] at found
        obtain ⟨before, foundBefore, rfl⟩ := Option.map_eq_some_iff.mp found
        split at unfinished
        next member =>
          have runs : s.Runs worker id := ⟨state, held, order.mem_iff.mp member⟩
          have running := ((leading.settled.exact.runs_iff worker id).mp runs).running
          obtain ⟨result, success, completedAt⟩ := leading.blank id before foundBefore
            fun completed => Completed.not_running ⟨before, foundBefore, completed⟩ running
          rw [if_pos member]
          exact ⟨result, success, completedAt⟩
        next absent =>
          rw [if_neg absent]
          exact leading.blank id before foundBefore unfinished
      · rw [frame]
        exact leading.answeredAll
      · intro role id
        rw [frame] at role
        rw [flushed_tasks, table id, leading.passive role id, Option.map_none]

theorem leading_init : Leading init where
  settled := settled_init
  drained := RingLog.pending_empty _ _
  blank := by simp [init]
  answeredAll := rfl
  passive := by simp [init]

theorem leading_preserved : Preserves step PrimaryEvent Leading :=
  preserves_of_posts (fun _ leading => leading.drained) (fun _ _ admitted => admitted.2)
    (fun _ _ _ leading admitted received => leading.received admitted received)
    (fun _ _ _ _ _ move leading => leading.move move)

/-! ## Messages of one step -/

/-- The step from `s` to `s'` adds messages for the peer that keep agreement.  Nothing is
sent before the coordinator is primary, and it stays primary. -/
def Relayed (s s' : Coordinator) : Prop :=
  ∃ emitted, s'.replications = s.replications ++ emitted ∧
    (s'.isPrimary = false → s.isPrimary = false ∧ emitted = []) ∧
    ∀ backup, Agree backup s → Brings receive (Agree · s') backup emitted

theorem Relayed.refl (s : Coordinator) : Relayed s s :=
  ⟨[], by simp, fun role => ⟨role, rfl⟩, fun _ agree => agree⟩

theorem Relayed.trans {s'' : Coordinator} (first : Relayed s s') (second : Relayed s' s'') :
    Relayed s s'' := by
  obtain ⟨emitted, sent, role, follows⟩ := first
  obtain ⟨more, sentMore, roleMore, followsMore⟩ := second
  refine ⟨emitted ++ more, by rw [sentMore, sent, List.append_assoc], fun passive => ?_,
    fun backup agree => ?_⟩
  · obtain ⟨passiveBetween, rfl⟩ := roleMore passive
    obtain ⟨passiveBefore, rfl⟩ := role passiveBetween
    exact ⟨passiveBefore, rfl⟩
  · exact brings_append.mpr ((follows backup agree).mono followsMore)

/-- What a flushed state has sent, when the log was empty and nothing has been added. -/
theorem replications_quiet (drained : s.Drained) (log : s'.replicationLog = s.replicationLog)
    {sent : List OutgoingEvent} (queue : s'.outgoingQueue = s.outgoingQueue ++ sent)
    (elsewhere : ∀ event ∈ sent, event.msg.isReplication = false) :
    s'.flushed.replications = s.replications := by
  have nothing : s'.replicationLog.pending = [] := log ▸ drained
  have filtered : (sent.map OutgoingEvent.msg).filter Message.isReplication = [] := by
    simpa using elsewhere
  simp [replications, nothing, queue, filtered]

/-- What it has sent, when one message has been added to the empty log. -/
theorem replications_added (drained : s.Drained) {msg : Message}
    (log : s'.replicationLog = s.replicationLog.add msg) (isReplication : msg.isReplication = true)
    {sent : OutgoingEvent} (queue : s'.outgoingQueue = s.outgoingQueue ++ [sent])
    (elsewhere : sent.msg.isReplication = false) :
    s'.flushed.replications = s.replications ++ [msg] := by
  have nothing : s.replicationLog.pending = [] := drained
  have count : s.replicationLog.pendingCount = 0 :=
    RingLog.pendingCount_eq_zero.mpr (RingLog.pending_eq_nil.mp drained)
  have one : s'.replicationLog.pending = [msg] := by
    rw [log, RingLog.pending_add_of_room msg (by rw [count]; decide), nothing, List.nil_append]
  simp [replications, one, queue, elsewhere, isReplication]

theorem relayed_quiet (sent : s'.replications = s.replications)
    (role : s'.isPrimary = false → s.isPrimary = false)
    (agree : ∀ backup, Agree backup s → Agree backup s') : Relayed s s' :=
  ⟨[], by simp [sent], fun passive => ⟨role passive, rfl⟩, agree⟩

theorem relayed_one {msg : Message} (sent : s'.replications = s.replications ++ [msg])
    (primary : s'.isPrimary = true)
    (agree : ∀ backup input, Agree backup s → Agree (backup.receive input msg) s') :
    Relayed s s' := by
  refine ⟨[msg], sent, fun passive => ?_, fun backup agreed input => agree backup input agreed⟩
  rw [primary] at passive
  cases passive

theorem Leading.relayed_move (leading : s.Leading) (move : Move event s s') :
    Relayed s s'.flushed := by
  cases move with
  | replicated pending => exact absurd (RingLog.pending_eq_nil.mp leading.drained) pending
  | dropped _ front | answered _ front =>
      rw [leading.answeredAll] at front
      cases front
  | @assigned id _ task _ worker _ now _ front found =>
      have blank := leading.blank_assigned (by simp [front]) found worker now
      have primary := leading.primary_of_known found
      refine relayed_one (replications_added leading.drained rfl rfl rfl rfl) primary ?_
      intro backup input agree
      refine agree.assigned blank rfl ?_ ?_ input
      · rfl
      · rfl
  | died _ held _ order declared =>
      obtain ⟨_, _, frame, _⟩ := declareDead_spec declared
      have queue : s'.outgoingQueue = s.outgoingQueue ++ [] := by
        rw [frame]
        simp
      refine relayed_quiet ?_ ?_ fun backup agree => ?_
      · exact replications_quiet leading.drained (by rw [frame]) queue (by simp)
      · rw [flushed_isPrimary, frame]
        exact fun passive => passive
      · exact (agree.declareDead leading.settled.exact held order declared).of_same rfl rfl

theorem Leading.relayed_received (leading : s.Leading) (admitted : s.PrimaryEvent event)
    (received : Received s event s') : Relayed s s'.flushed := by
  obtain ⟨admitted, accepting⟩ := admitted
  cases received with
  | @submitAssigned fd msg env _ worker _ now =>
      obtain ⟨result, success, completedAt⟩ := SubmitMsg.task_blank msg env.now
      have blank : Blank ((msg.task env.now).assignedTo worker now) :=
        ⟨result, success, completedAt⟩
      refine relayed_one (replications_added leading.drained rfl rfl rfl rfl) rfl ?_
      intro backup input agree
      have accepted : Agree backup (s.accept fd msg env.now) := by
        refine agree.enqueue (SubmitMsg.task_state msg env.now) ?_ rfl rfl
        rw [SubmitMsg.task_id]
        exact admitted
      refine accepted.assigned blank rfl ?_ ?_ input
      · rfl
      · rfl
  | @submitQueued fd msg env =>
      have queue : s.outgoingQueue = s.outgoingQueue ++ [] := by simp
      refine relayed_quiet (replications_quiet leading.drained rfl queue (by simp)) ?_ ?_
      · intro passive
        cases passive
      intro backup agree
      refine agree.enqueue (SubmitMsg.task_state msg env.now) ?_ rfl rfl
      rw [SubmitMsg.task_id]
      exact admitted
  | completeUnknown unknown =>
      obtain ⟨task, found, _⟩ := admitted
      rw [unknown] at found
      cases found
  | @completeAnswered _ msg _ task _ found =>
      obtain ⟨stored, foundStored, running⟩ := admitted
      rw [found] at foundStored
      cases foundStored
      refine relayed_one (replications_added leading.drained rfl rfl rfl rfl) rfl ?_
      intro backup input agree
      refine agree.completed found running ?_ ?_ input
      · rfl
      · rfl
  | completeDeferred _ _ refused =>
      have accepts := accepting.accepts
      rw [Event.env, refused] at accepts
      cases accepts
  | @peerReconnected env =>
      have accepts : env.Accepting := accepting
      have nothing : s.replicationLog.pending = [] := leading.drained
      rw [processPeerReconnected_accepting s accepts]
      split
      next primary =>
        refine @relayed_one _ _ s.snapshotMessage ?_ primary fun backup input _ => ?_
        · simp [replications, nothing, snapshotMessage, Message.isReplication]
        · refine agree_of_snapshot ?_ ?_ backup input
          · rfl
          · rfl
      next =>
        rw [flushed_of_drained leading.drained]
        exact .refl s
  | registerReused | registerFresh =>
      refine relayed_quiet (replications_quiet leading.drained rfl rfl ?_) ?_ fun _ agree => ?_
      · simp [acknowledgement, Message.isReplication]
      · exact fun passive => passive
      · exact agree.of_same rfl rfl
  | heartbeat | registerRefused | pass | backlog | replicate | sweep =>
      have queue : s.outgoingQueue = s.outgoingQueue ++ [] := by simp
      refine relayed_quiet (replications_quiet leading.drained rfl queue (by simp)) ?_ ?_
      · exact fun passive => passive
      · exact fun _ agree => agree.of_same rfl rfl
  | assignedReplicate | completedReplicate | snapshot | topRequest => cases admitted

theorem Leading.relayed (leading : s.Leading) (admitted : s.PrimaryEvent event)
    (stepped : s.step event = .ok s') : Relayed s s' := by
  obtain ⟨received, isReceived, posts⟩ :=
    step_spec_accepting leading.drained admitted.2 stepped
  have first := leading.relayed_received admitted isReceived
  have kept : ∀ before after, Post event before after →
      before.Leading ∧ Relayed s before → after.Leading ∧ Relayed s after := by
    rintro before _ ⟨moved, move, rfl⟩ ⟨leadingBefore, relayed⟩
    exact ⟨leadingBefore.move move, relayed.trans (leadingBefore.relayed_move move)⟩
  exact (kept_of_moves kept posts ⟨leading.received admitted isReceived, first⟩).2

/-! ## The system -/

/-- A step of the primary with the messages for the peer that it pushes. -/
def stepEmitting (s : Coordinator) (event : Event) : Except Fault (Coordinator × List Message) := do
  let next ← s.step event
  .ok (next, next.replications.drop s.replications.length)

theorem stepEmitting_eq_ok {emitted : List Message}
    (handled : s.stepEmitting event = .ok (s', emitted)) :
    s.step event = .ok s' ∧ emitted = s'.replications.drop s.replications.length := by
  obtain ⟨next, stepped, done⟩ := bind_eq_ok.mp handled
  cases done
  exact ⟨stepped, rfl⟩

/-- The coordinator is mirrored by its backup. -/
theorem coordinator_mirrors :
    Mirrors stepEmitting PrimaryEvent Event.isReconnect receive Leading
      (fun s => s.isPrimary = false) Agree init where
  kept := by
    intro primary event after emitted leading admitted handled
    exact leading_preserved primary event after leading admitted (stepEmitting_eq_ok handled).1
  follows := by
    intro primary event after emitted backup leading admitted handled agree
    obtain ⟨stepped, rfl⟩ := stepEmitting_eq_ok handled
    obtain ⟨emitted, sent, _, follows⟩ := leading.relayed admitted stepped
    rw [sent, List.drop_left]
    exact follows backup agree
  repairs := by
    intro primary event after emitted leading admitted resyncs handled speaks backup
    obtain ⟨stepped, rfl⟩ := stepEmitting_eq_ok handled
    cases event with
    | peerReconnected env =>
        have accepts : env.Accepting := admitted.2
        have isPrimary : primary.isPrimary = true := by simpa using speaks
        have pushed : { primary with currentEpoch := primary.currentEpoch + 1 }.push
            { msg := primary.snapshotMessage } = after := by
          have outcome := Except.ok.inj stepped
          rwa [processPeerReconnected_accepting primary accepts, if_pos isPrimary] at outcome
        have sent : after.replications = primary.replications ++ [primary.snapshotMessage] := by
          rw [← pushed]
          simp [replications, snapshotMessage, Message.isReplication]
        rw [sent, List.drop_left]
        intro input
        refine agree_of_snapshot ?_ ?_ backup input
        · rw [← pushed]
          rfl
        · rw [← pushed]
          rfl
    | _ => cases resyncs
  speaks := by
    intro primary event after emitted leading admitted handled passive
    obtain ⟨stepped, rfl⟩ := stepEmitting_eq_ok handled
    obtain ⟨emitted, sent, role, _⟩ := leading.relayed admitted stepped
    obtain ⟨passiveBefore, rfl⟩ := role passive
    exact ⟨passiveBefore, by simp [sent]⟩
  agrees := by
    intro primary leading passive
    refine ⟨UInt64.zero_le, rfl, ?_, ?_⟩
    · intro id task found
      rw [leading.passive passive id] at found
      cases found
    · intro id copy found
      cases found

/-- A primary and a backup that have both just started. -/
def pair : State Coordinator Coordinator Message where
  primary := init
  mirror := init
  queued := []
  delivered := []
  requests := 0
  lost := false

/-- One action of the primary, the network thread or the backup. -/
def pairStep : State Coordinator Coordinator Message → Action Event (Fd × Env) →
    Except Fault (State Coordinator Coordinator Message) :=
  next stepEmitting Event.isReconnect receive

theorem progress_of_leading (s : Coordinator) (event : Event) (leading : s.Leading)
    (admitted : s.PrimaryEvent event) : ∃ outcome, s.stepEmitting event = .ok outcome := by
  have progress : ∃ next, s.step event = .ok next := by
    cases reconnect : event.isReconnect with
    | true =>
        cases event with
        | peerReconnected env => exact ⟨_, rfl⟩
        | _ => cases reconnect
    | false =>
        have isLocal := (leading.localEvent admitted.1 reconnect).1
        exact sound_progresses s event leading.settled.sound isLocal
  obtain ⟨next, stepped⟩ := progress
  exact ⟨_, bind_eq_ok.mpr ⟨next, stepped, rfl⟩⟩

theorem consistent_pair :
    Consistent receive Leading (fun s => s.isPrimary = false) Agree init pair where
  primary := leading_init
  quiet := fun _ => ⟨rfl, rfl, rfl⟩
  agreed := .inr (.inr (coordinator_mirrors.agrees leading_init rfl))

/-- Every interleaving of the primary, the network thread and the backup returns.  Whenever
nothing is under way and nothing has been dropped since the last reconnection, the backup
has every task that runs or has completed at the primary, with the same record up to the
text of a word count, and it knows no task and no completion that the primary does not. -/
theorem backup_agrees_at_rest (actions : List (Action Event (Fd × Env)))
    (admitted : Along pairStep (Admits PrimaryEvent Event.isReconnect) pair actions) :
    ∃ s, Transition.run pairStep pair actions = .ok s ∧ (s.AtRest →
      (∀ id task, s.primary.tasks.find? id = some task →
        task.state = .running ∨ task.state = .completed →
        ∃ copy, s.mirror.tasks.find? id = some copy ∧ copy.onWire = task.onWire) ∧
      ∀ id copy, s.mirror.tasks.find? id = some copy →
        ∃ task, s.primary.tasks.find? id = some task ∧
          (copy.state = .completed → task.state = .completed)) := by
  obtain ⟨s, ran, consistent⟩ := (next_progresses progress_of_leading).run
    coordinator_mirrors.consistent_preserved consistent_pair admitted
  refine ⟨s, ran, fun atRest => ?_⟩
  have agree := consistent.agree_of_atRest atRest
  refine ⟨fun id task found handedOut => agree.copied id task found ?_, agree.known⟩
  obtain running | completed := handedOut
  · simp [running]
  · simp [completed]

/-- The assignment of a task is lost, its completion arrives early, a snapshot repairs the
backup, and one more task is assigned. -/
def repairedBackup : List (Action Event (Fd × Env)) :=
  [.handle (.register 5 {}), .handle (.submit 9 { taskId := 7 } {}), .drop, .request,
    .handle (.complete 5 { taskId := 7 } {}), .deliver, .apply (3, {}),
    .handle (.peerReconnected {}), .deliver, .apply (3, {}),
    .handle (.submit 9 { taskId := 8 } {}), .deliver, .apply (3, {})]

theorem repairedBackup_agrees :
    ∃ s, Transition.run pairStep pair repairedBackup = .ok s ∧ s.AtRest ∧
      s.mirror.Completed 7 ∧ s.mirror.Running 8 := by
  have admitted : Along pairStep (Admits PrimaryEvent Event.isReconnect) pair repairedBackup := by
    decide +kernel
  obtain ⟨s, ran, agrees⟩ := backup_agrees_at_rest repairedBackup admitted
  have final : ∀ s, Transition.run pairStep pair repairedBackup = .ok s →
      (s.queued = [] ∧ s.delivered = [] ∧ s.requests = 0 ∧ s.lost = false) ∧
      s.primary.Completed 7 ∧ s.primary.Running 8 := by decide +kernel
  obtain ⟨⟨queued, delivered, requests, lost⟩, completed, running⟩ := final s ran
  have atRest : s.AtRest := ⟨queued, delivered, requests, lost⟩
  obtain ⟨copied, _⟩ := agrees atRest
  refine ⟨s, ran, atRest, ?_, ?_⟩
  · obtain ⟨task, found, isCompleted⟩ := completed
    obtain ⟨copy, foundCopy, same⟩ := copied 7 task found (.inr isCompleted)
    exact ⟨copy, foundCopy, (state_of_onWire same).trans isCompleted⟩
  · obtain ⟨task, found, isRunning⟩ := running
    obtain ⟨copy, foundCopy, same⟩ := copied 8 task found (.inl isRunning)
    exact ⟨copy, foundCopy, (state_of_onWire same).trans isRunning⟩

end Coordinator

end TaskCoordinator
