import TaskCoordinator.Coordinator.Scheduling
import TaskCoordinator.Library.Transition

/-!
# Event handlers

The `process_*_event` functions and the step function of the scheduler thread.  One
iteration of `scheduler_worker` is a backlog pass guarded by the role, the events popped
from the control queue, those popped from the task queue, and possibly a sweep, so every
execution of the thread is a list of `Event`s.
-/

namespace TaskCoordinator

/-- The task that a `SUBMIT` creates. -/
def SubmitMsg.task (msg : SubmitMsg) (now : Nanoseconds) : Task :=
  let task := Task.create msg.taskId msg.clientId msg.type now
  match msg.type with
  | .synthetic => { task with durationUs := msg.durationUs }
  | .wordCount => { task with words := msg.words }
  | .other _ _ => task

@[simp] theorem SubmitMsg.task_id (msg : SubmitMsg) (now : Nanoseconds) :
    (msg.task now).id = msg.taskId := by
  unfold SubmitMsg.task
  cases msg.type <;> rfl

@[simp] theorem SubmitMsg.task_type (msg : SubmitMsg) (now : Nanoseconds) :
    (msg.task now).type = msg.type := by
  unfold SubmitMsg.task
  cases msg.type <;> rfl

@[simp] theorem SubmitMsg.task_queuedAt (msg : SubmitMsg) (now : Nanoseconds) :
    (msg.task now).queuedAt = now := by
  unfold SubmitMsg.task
  cases msg.type <;> rfl

/-- What a `COMPLETE` makes of the task it names. -/
def CompleteMsg.update (msg : CompleteMsg) (task : Task) : Task :=
  { task with
    startedAt := msg.startedAt
    completedAt := msg.completedAt
    state := .completed
    success := msg.success
    result := if task.type = .wordCount then msg.result else 0 }

/-- The task that an `ASSIGNED_REPLICATE` describes. -/
def AssignedReplicationMsg.task (msg : AssignedReplicationMsg) : Task :=
  let task : Task :=
    { id := msg.taskId, clientId := msg.clientId, type := msg.taskType,
      workerId := msg.workerId, queuedAt := msg.queuedAt, startedAt := msg.startedAt,
      state := .running }
  match msg.taskType with
  | .synthetic => { task with durationUs := msg.durationUs.toUInt32 }
  | .wordCount => { task with words := msg.words }
  | .other _ _ => task

@[simp] theorem AssignedReplicationMsg.task_id (msg : AssignedReplicationMsg) :
    msg.task.id = msg.taskId := by
  unfold AssignedReplicationMsg.task
  cases msg.taskType <;> rfl

@[simp] theorem AssignedReplicationMsg.task_state (msg : AssignedReplicationMsg) :
    msg.task.state = .running := by
  unfold AssignedReplicationMsg.task
  cases msg.taskType <;> rfl

/-- What a `COMPLETED_REPLICATE` makes of the task it names. -/
def CompletedReplicationMsg.update (msg : CompletedReplicationMsg) (task : Task) : Task :=
  { task with
    state := .completed
    workerId := msg.workerId
    startedAt := msg.startedAt
    completedAt := msg.completedAt
    success := msg.success
    result := msg.result }

namespace Coordinator

/-! ## Clients and workers -/

/-- The state in which `process_submit_event` calls `assign`. -/
@[simps] def accept (s : Coordinator) (fd : Fd) (msg : SubmitMsg) (now : Nanoseconds) : Coordinator :=
  { s with
    isPrimary := true
    clientFds := s.clientFds.insert msg.clientId fd
    tasks := s.tasks.set (msg.task now)
    metrics := s.metrics.recordEnqueue }

def processSubmitEvent (s : Coordinator) (fd : Fd) (msg : SubmitMsg) (env : Env) :
    Except Fault (Coordinator × Env) := do
  let task := msg.task env.now
  match ← (s.accept fd msg env.now).assign task env.afterNow with
  | (true, assigned, env) => .ok (assigned.replicate env)
  | (false, refused, env) =>
      .ok ({ refused with queuedBacklog := refused.queuedBacklog ++ [task.id] }.replicate env)

/-- The state in which `process_complete_event` calls `send_result`. -/
@[simps] def finish (s : Coordinator) (msg : CompleteMsg) (task : Task) : Coordinator :=
  { s with
    isPrimary := true
    tasks := s.tasks.set (msg.update task)
    metrics := s.metrics.recordCompletionSystem (msg.update task)
    workersStates := s.workersStates.modify task.workerId fun state =>
      ({ state with runningTasks := state.runningTasks.erase task.id } : WorkerState
        ).recordCompletion (msg.update task) }

def processCompleteEvent (s : Coordinator) (msg : CompleteMsg) (env : Env) :
    Except Fault (Coordinator × Env) :=
  match s.tasks.find? msg.taskId with
  | none => .ok ({ s with isPrimary := true }, env)
  | some task => do
      let _ ← s.workerAt task.workerId
      match (s.finish msg task).sendResult (msg.update task) env with
      | (true, sent, env) => .ok (sent.replicate env)
      | (false, refused, env) =>
          .ok ({ refused with
            completedBacklog := refused.completedBacklog ++ [task.id] }.replicate env)

def processHeartbeatEvent (s : Coordinator) (worker : WorkerId) (env : Env) :
    Except Fault Coordinator := do
  let _ ← s.workerAt worker
  .ok <| s.modifyWorker worker fun state =>
    { state with lastHeartbeatNs := env.now, alive := true }

/-- The acknowledgement of a registration. -/
def acknowledgement (fd : Fd) (worker : WorkerId) : OutgoingEvent :=
  { fd, msg := { body := .acknowledge worker } }

/-- Registration under an id that a dead worker has left. -/
@[simps] def registerReused (s : Coordinator) (fd : Fd) (worker : WorkerId)
    (now : Nanoseconds) : Coordinator :=
  { s with
    outgoingQueue := s.outgoingQueue ++ [acknowledgement fd worker]
    availableIds := s.availableIds.dropLast
    workersStates := s.workersStates.modify worker fun state =>
      { state with
        alive := true, lastHeartbeatNs := now, fd, activeIndex := s.activeWorkers.length }
    activeWorkers := s.activeWorkers ++ [worker] }

/-- Registration under a new id. -/
@[simps] def registerFresh (s : Coordinator) (fd : Fd) (now : Nanoseconds) : Coordinator :=
  { s with
    outgoingQueue := s.outgoingQueue ++ [acknowledgement fd s.workersStates.length]
    workersStates := s.workersStates ++
      [{ alive := true, lastHeartbeatNs := now, fd, activeIndex := s.activeWorkers.length }]
    activeWorkers := s.activeWorkers ++ [s.workersStates.length] }

def processRegisterEvent (s : Coordinator) (fd : Fd) (env : Env) : Except Fault Coordinator :=
  match s.availableIds.getLast? with
  | some worker =>
      if env.accepts then do
        let _ ← s.workerAt worker
        .ok (s.registerReused fd worker env.now)
      else
        .ok s
  | none =>
      -- The constructor of the new worker state reads the clock once before.
      .ok (if env.accepts then s.registerFresh fd env.afterNow.now else s)

/-! ## Replication messages -/

def processCompleteReplicateEvent (s : Coordinator) (event : CompletedReplication) :
    Coordinator :=
  let demoted := { s with isPrimary := false }
  if event.epoch < s.currentEpoch then
    demoted
  else
    let stashed := { demoted with
      earlyCompleteReps := s.earlyCompleteReps.insert event.msg.taskId event }
    match s.tasks.find? event.msg.taskId with
    | none => stashed
    | some task =>
        if task.state = .completed then
          stashed
        else
          let completed := event.msg.update task
          { demoted with
            currentEpoch := event.epoch
            tasks := s.tasks.set completed
            metrics := s.metrics.recordCompletionSystem completed }

def processAssignReplicateEvent (s : Coordinator) (epoch : UInt64)
    (msg : AssignedReplicationMsg) : Coordinator :=
  let demoted := { s with isPrimary := false }
  if epoch < s.currentEpoch then
    demoted
  else
    let assigned := { demoted with
      currentEpoch := epoch
      tasks := s.tasks.set msg.task
      metrics := s.metrics.recordAssignment }
    match s.earlyCompleteReps.lookup msg.taskId with
    | none => assigned
    | some early =>
        let replayed := assigned.processCompleteReplicateEvent early
        { replayed with
          earlyCompleteReps := replayed.earlyCompleteReps.erase msg.taskId }

def processSnapshotEvent (s : Coordinator) (epoch : UInt64) (tasks : TaskTable) (env : Env) :
    Coordinator :=
  let visited := (Unordered.arrange (env.order 0) tasks.ids).filterMap tasks.find?
  { s with
    isPrimary := false
    currentEpoch := epoch
    tasks
    replicationLog := s.replicationLog.reset
    queuedBacklog := []
    earlyCompleteReps := ∅
    completedBacklog := []
    metrics := Metrics.recomputeMetrics visited s.metrics }

/-- The snapshot that `process_peer_reconnected` pushes, stamped with the next epoch. -/
def snapshotMessage (s : Coordinator) : Message :=
  { epoch := s.currentEpoch + 1, body := .snapshot s.tasks }

def processPeerReconnected (s : Coordinator) (env : Env) : Coordinator :=
  if s.isPrimary then
    let advanced := { s with currentEpoch := s.currentEpoch + 1 }
    if env.accepts then advanced.push { msg := s.snapshotMessage } else advanced
  else
    s

/-! ## Monitoring -/

/-- An average in microseconds, or 0 when there is nothing to average. -/
def averageUs (totalNs count : UInt64) : UInt64 :=
  if count > 0 then totalNs / (count * 1000) else 0

/-- The counters of one worker at the time `now`. -/
def workerMetrics (state : WorkerState) (worker : WorkerId) (now : Nanoseconds) :
    WorkerMetrics :=
  { avgLatencyUs := averageUs state.totalLatencyNs state.tasksCompleted
    tasksCompleted := state.tasksCompleted
    tasksRunning := UInt64.ofNat state.runningTasks.size
    lastHeartbeatMs := (now - state.lastHeartbeatNs) / 1000000
    workerId := worker
    alive := if state.alive then 1 else 0 }

/-- `process_top_request`.  The response is pushed again and again until there is room. -/
def processTopRequest (s : Coordinator) (fd : Fd) (env : Env) : Coordinator :=
  let samples := s.metrics.latencies.mergeSort (· ≤ ·)
  let (throughput, metrics) := s.metrics.getRollingThroughput env.now
  let coordinatorMetrics : CoordinatorMetrics :=
    { p95LatencyUs := samples[samples.length * 95 / 100]?.getD 0 / 1000
      minLatencyUs := samples.head?.getD 0 / 1000
      maxLatencyUs := samples.getLast?.getD 0 / 1000
      avgLatencyUs := averageUs s.metrics.totalLatencyNs s.metrics.tasksCompleted
      tasksCompleted := s.metrics.tasksCompleted
      tasksRunning := s.metrics.tasksRunning
      tasksQueued := s.metrics.tasksQueued
      throughput
      activeWorkers := UInt32.ofNat s.activeWorkers.length
      isPrimary := if s.isPrimary then 1 else 0 }
  let workersMetrics := s.workersStates.mapIdx fun worker state =>
    workerMetrics state worker env.afterNow.now
  { s with metrics }.push
    { fd, msg := { body := .topResponse { coordinatorMetrics, workersMetrics } } }

end Coordinator

/-! ## The scheduler thread -/

/-- What the scheduler thread does next.  The kinds from `submit` to `topRequest` are the
messages that `process_task_queue` dispatches, `heartbeat` and `register` those of
`process_control_queue`; both ignore every other message.  `pass` is the backlog pass of
`scheduler_worker` under its test of the role; `backlog` and `replicate` are the calls it
guards, and `sweep` is `sweep_workers`. -/
inductive Event where
  | submit (fd : Fd) (msg : SubmitMsg) (env : Env)
  | complete (fd : Fd) (msg : CompleteMsg) (env : Env)
  | assignedReplicate (epoch : UInt64) (msg : AssignedReplicationMsg)
  | completedReplicate (event : CompletedReplication)
  | snapshot (epoch : UInt64) (tasks : TaskTable) (env : Env)
  | peerReconnected (env : Env)
  | topRequest (fd : Fd) (env : Env)
  | heartbeat (worker : WorkerId) (env : Env)
  | register (fd : Fd) (env : Env)
  | pass (env : Env)
  | backlog (env : Env)
  | replicate (env : Env)
  | sweep (env : Env)

/-- The epoch stamp of a replication message. -/
def Event.stamp? : Event → Option UInt64
  | .assignedReplicate epoch _ => some epoch
  | .completedReplicate event => some event.epoch
  | .snapshot epoch _ _ => some epoch
  | _ => none

/-- The task that a `SUBMIT` names. -/
def Event.submits? : Event → Option TaskId
  | .submit _ msg _ => some msg.taskId
  | _ => none

/-- The task that a `COMPLETE` names. -/
def Event.completes? : Event → Option TaskId
  | .complete _ msg _ => some msg.taskId
  | _ => none

def Event.isReconnect : Event → Bool
  | .peerReconnected _ => true
  | _ => false

/-- The inputs that the handling of the event takes from its surroundings. -/
def Event.env : Event → Env
  | .submit _ _ env | .complete _ _ env | .snapshot _ _ env | .peerReconnected env
  | .topRequest _ env | .heartbeat _ env | .register _ env | .pass env | .backlog env
  | .replicate env | .sweep env => env
  | .assignedReplicate .. | .completedReplicate _ => {}

namespace Coordinator

/-- One step of the scheduler thread. -/
def step (s : Coordinator) : Event → Except Fault Coordinator
  | .submit fd msg env => Prod.fst <$> s.processSubmitEvent fd msg env
  | .complete _ msg env => Prod.fst <$> s.processCompleteEvent msg env
  | .assignedReplicate epoch msg => .ok (s.processAssignReplicateEvent epoch msg)
  | .completedReplicate event => .ok (s.processCompleteReplicateEvent event)
  | .snapshot epoch tasks env => .ok (s.processSnapshotEvent epoch tasks env)
  | .peerReconnected env => .ok (s.processPeerReconnected env)
  | .topRequest fd env => .ok (s.processTopRequest fd env)
  | .heartbeat worker env => s.processHeartbeatEvent worker env
  | .register fd env => s.processRegisterEvent fd env
  | .pass env =>
      if s.isPrimary then do
        let (drained, env) ← s.processBacklog env
        .ok (drained.replicate env).1
      else
        .ok s
  | .backlog env => Prod.fst <$> s.processBacklog env
  | .replicate env => .ok (s.replicate env).1
  | .sweep env => Prod.fst <$> s.sweepWorkers env

/-- The state a fresh coordinator reaches by a list of events. -/
def run (events : List Event) : Except Fault Coordinator :=
  Transition.run step init events

end Coordinator

end TaskCoordinator
