import TaskCoordinator.Coordinator.Metrics

/-!
# Scheduling

The operations by which the scheduler moves tasks: assignment to a worker, the answer to
the client, replication to the peer, the backlog pass and the sweep over the workers.

Each function takes the inputs it has not consumed yet and returns those that are left.
-/

namespace TaskCoordinator

/-- What `assign` makes of the task it assigns. -/
@[simps] def Task.assignedTo (task : Task) (worker : WorkerId) (now : Nanoseconds) : Task :=
  { task with workerId := worker, state := .running, startedAt := now }

/-- What `is_alive` makes of a task whose worker it declares dead. -/
@[simps] def Task.requeued (task : Task) : Task :=
  { task with state := .queued }

@[simp] theorem Task.requeued_requeued (task : Task) :
    task.requeued.requeued = task.requeued := rfl

namespace Coordinator

/-! ## Replication -/

/-- One round of the loop of `replicate`: the oldest message of the log has been pushed. -/
@[simps] def replicateOne (s : Coordinator) : Coordinator :=
  { s with
    outgoingQueue := s.outgoingQueue ++ [{ msg := s.replicationLog.head }]
    replicationLog := s.replicationLog.advance }

/-- The loop of `replicate`.  Every round brings the read pointer one slot closer to the
write pointer, so as many rounds as there are pending messages are enough. -/
def replicateRounds : Nat → Coordinator → Env → Coordinator × Env
  | 0, s, env => (s, env)
  | rounds + 1, s, env =>
      if s.replicationLog.read = s.replicationLog.write then
        (s, env)
      else if env.accepts then
        replicateRounds rounds s.replicateOne env.afterPush
      else
        (s, env.afterPush)

def replicate (s : Coordinator) (env : Env) : Coordinator × Env :=
  replicateRounds s.replicationLog.pendingCount s env

/-! ## Assignment -/

/-- The search loop of `assign`: the first active worker below the depth limit, in cyclic
order from `rr_index_`, with its position among the active workers. -/
def firstAvailable (s : Coordinator) :
    Nat → Nat → Except Fault (Option (Nat × WorkerId × WorkerState))
  | 0, _ => .ok none
  | rounds + 1, i => do
      let activeIdx := (s.rrIndex + i) % s.activeWorkers.length
      match s.activeWorkers[activeIdx]? with
      | none => .error (.badIndex activeIdx)
      | some worker =>
          let state ← s.workerAt worker
          if state.runningTasks.size ≥ Config.workerMaxQueueDepth then
            firstAvailable s rounds (i + 1)
          else
            .ok (some (activeIdx, worker, state))

/-- The `ASSIGN` for a task, with the payload its type calls for. -/
def assignMessage (s : Coordinator) (task : Task) : Message :=
  let msg : AssignMsg := { taskId := task.id, type := task.type }
  { epoch := s.currentEpoch
    body := .assign <|
      match task.type with
      | .synthetic => { msg with durationUs := task.durationUs }
      | .wordCount => { msg with words := task.words }
      | .other _ _ => msg }

/-- The `ASSIGNED_REPLICATE` for a task that has just been assigned. -/
def assignedReplication (s : Coordinator) (task : Task) : Message :=
  let msg : AssignedReplicationMsg :=
    { taskId := task.id, queuedAt := task.queuedAt, startedAt := task.startedAt,
      clientId := task.clientId, workerId := task.workerId, taskType := task.type }
  { epoch := s.currentEpoch
    body := .assignedReplicate <|
      match task.type with
      | .synthetic => { msg with durationUs := task.durationUs.toUInt64 }
      | .wordCount => { msg with words := task.words }
      | .other _ _ => msg }

/-- The updates of `assign` once its push has found room: `worker`, at position
`activeIdx` among the active workers and reached through `fd`, runs the task, and the
assignment is added to the log. -/
@[simps] def assignTo (s : Coordinator) (task : Task) (activeIdx : Nat) (worker : WorkerId)
    (fd : Fd) (now : Nanoseconds) : Coordinator :=
  { s with
    outgoingQueue := s.outgoingQueue ++ [{ fd, msg := s.assignMessage task }]
    rrIndex := (activeIdx + 1) % s.activeWorkers.length
    tasks := s.tasks.set (task.assignedTo worker now)
    workersStates := s.workersStates.modify worker fun state =>
      { state with runningTasks := state.runningTasks.insert task.id }
    metrics := s.metrics.recordAssignment
    replicationLog :=
      s.replicationLog.add (s.assignedReplication (task.assignedTo worker now)) }

/-- `assign`, which reports whether the task has been assigned. -/
def assign (s : Coordinator) (task : Task) (env : Env) :
    Except Fault (Bool × Coordinator × Env) := do
  match ← s.firstAvailable s.activeWorkers.length 0 with
  | none => .ok (false, s, env)
  | some (activeIdx, worker, state) =>
      if env.accepts then
        let env := env.afterPush
        .ok (true, s.assignTo task activeIdx worker state.fd env.now, env.afterNow)
      else
        .ok (false, s, env.afterPush)

/-! ## Results -/

/-- The `RESULT` for a task.  Only a word count carries a value. -/
def resultMessage (s : Coordinator) (task : Task) : Message :=
  { epoch := s.currentEpoch
    body := .result
      { taskId := task.id
        success := task.success
        result := if task.type = .wordCount then task.result else 0 } }

/-- The `COMPLETED_REPLICATE` that goes with a result. -/
def completedReplication (s : Coordinator) (task : Task) : Message :=
  { epoch := s.currentEpoch
    body := .completedReplicate
      { taskId := task.id, startedAt := task.startedAt, completedAt := task.completedAt,
        workerId := task.workerId, result := task.result, success := task.success } }

/-- The connection on which the client of a task was last heard, or -1. -/
def clientFd (s : Coordinator) (task : Task) : Fd :=
  (s.clientFds.lookup task.clientId).getD (-1)

/-- The updates of `send_result` once its push has found room. -/
@[simps] def answer (s : Coordinator) (task : Task) : Coordinator :=
  { s with
    outgoingQueue := s.outgoingQueue ++ [{ fd := s.clientFd task, msg := s.resultMessage task }]
    replicationLog := s.replicationLog.add (s.completedReplication task) }

/-- `send_result`, which reports whether the result has been pushed. -/
def sendResult (s : Coordinator) (task : Task) (env : Env) : Bool × Coordinator × Env :=
  if env.accepts then (true, s.answer task, env.afterPush) else (false, s, env.afterPush)

/-! ## The backlog pass -/

/-- First loop of `process_backlog`.  The list is `completed_backlog_`. -/
def processCompleted : List TaskId → Coordinator → Env → Coordinator × Env
  | [], s, env => (s, env)
  | id :: rest, s, env =>
      match s.tasks.find? id with
      | none => processCompleted rest { s with completedBacklog := rest } env
      | some task =>
          match s.sendResult task env with
          | (true, sent, env) =>
              let (replicated, env) := { sent with completedBacklog := rest }.replicate env
              processCompleted rest replicated env
          | (false, refused, env) => (refused, env)

/-- Second loop of `process_backlog`.  The list is `queued_backlog_`. -/
def processQueued : List TaskId → Coordinator → Env → Except Fault (Coordinator × Env)
  | [], s, env => .ok (s, env)
  | id :: rest, s, env => do
      let task ← s.taskAt id
      match ← s.assign task env with
      | (true, assigned, env) =>
          let (replicated, env) := { assigned with queuedBacklog := rest }.replicate env
          processQueued rest replicated env
      | (false, refused, env) => .ok (refused, env)

def processBacklog (s : Coordinator) (env : Env) : Except Fault (Coordinator × Env) :=
  let (drained, env) := processCompleted s.completedBacklog s env
  processQueued drained.queuedBacklog drained env

/-! ## Worker liveness -/

/-- `mark_inactive`: the last active worker takes the place of the one that leaves. -/
def markInactive (s : Coordinator) (worker : WorkerId) : Except Fault Coordinator :=
  match s.activeWorkers.getLast? with
  | none => .ok s
  | some last => do
      let state ← s.workerAt worker
      if state.activeIndex ≥ s.activeWorkers.length then
        .ok s
      else
        let _ ← s.workerAt last
        let remaining := (s.activeWorkers.set state.activeIndex last).dropLast
        .ok <| { s with activeWorkers := remaining }.modifyWorker last fun moved =>
          { moved with activeIndex := state.activeIndex }

/-- The requeueing loop of `is_alive` over the running tasks of a dead worker. -/
def requeue : List TaskId → Coordinator → Except Fault Coordinator
  | [], s => .ok s
  | id :: rest, s => do
      let task ← s.taskAt id
      requeue rest
        { s with
          tasks := s.tasks.set task.requeued
          queuedBacklog := s.queuedBacklog ++ [id] }

/-- The part of `is_alive` that declares a worker dead.  The loop of the source takes the
ids out of `running_tasks_` one by one until the set is empty. -/
def declareDead (s : Coordinator) (worker : WorkerId) (running : List TaskId) :
    Except Fault Coordinator := do
  let inactive ← s.markInactive worker
  let freed := { inactive with availableIds := inactive.availableIds ++ [worker] }
  let dead := freed.modifyWorker worker WorkerState.markDead
  let requeued ← requeue running dead
  .ok <| requeued.modifyWorker worker fun state => { state with runningTasks := ∅ }

def isAlive (s : Coordinator) (worker : WorkerId) (env : Env) :
    Except Fault (Bool × Coordinator × Env) := do
  let state ← s.workerAt worker
  if !state.alive then
    .ok (false, s, env)
  else if env.now - state.lastHeartbeatNs ≤ Config.heartbeatTimeoutNs then
    .ok (true, s, env.afterNow)
  else
    let running := Unordered.arrange (env.order worker) state.runningTasks.items
    let dead ← s.declareDead worker running
    .ok (false, dead, env.afterNow)

/-- The loop of `sweep_workers` over the remaining worker ids. -/
def sweepFrom : List WorkerId → Coordinator → Env → Except Fault (Coordinator × Env)
  | [], s, env => .ok (s, env)
  | worker :: rest, s, env => do
      let (_, checked, env) ← s.isAlive worker env
      sweepFrom rest checked env

def sweepWorkers (s : Coordinator) (env : Env) : Except Fault (Coordinator × Env) :=
  sweepFrom (List.range s.workersStates.length) s env

end Coordinator

end TaskCoordinator
