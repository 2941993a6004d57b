import TaskCoordinator.Task

/-!
# Messages

The bodies of `message.hpp`.  The source keeps one field per body in every `Message` and
selects it by `type_`; here the selected body is the only one a message has.  The kinds
without a body are `register`, `peerReconnected` and `topRequest`.
-/

namespace TaskCoordinator

/-- Client to router to coordinator. -/
structure SubmitMsg where
  taskId : TaskId
  clientId : ClientId := 0
  durationUs : UInt32 := 0
  type : TaskType := .synthetic
  words : List UInt8 := []
  deriving DecidableEq, Repr

/-- Coordinator to worker. -/
structure AssignMsg where
  taskId : TaskId
  durationUs : UInt32 := 0
  type : TaskType := .synthetic
  words : List UInt8 := []
  deriving DecidableEq, Repr

/-- Worker to coordinator. -/
structure CompleteMsg where
  taskId : TaskId
  startedAt : Nanoseconds := 0
  completedAt : Nanoseconds := 0
  result : UInt32 := 0
  success : UInt8 := 0
  deriving DecidableEq, Repr

/-- Coordinator to router to client. -/
structure ResultMsg where
  taskId : TaskId
  result : UInt32 := 0
  success : UInt8 := 0
  deriving DecidableEq, Repr

/-- Primary coordinator to backup coordinator, when a task is assigned. -/
structure AssignedReplicationMsg where
  durationUs : UInt64 := 0
  taskId : TaskId
  queuedAt : Nanoseconds := 0
  startedAt : Nanoseconds := 0
  clientId : ClientId := 0
  workerId : WorkerId := 0
  taskType : TaskType := .synthetic
  words : List UInt8 := []
  deriving DecidableEq, Repr

/-- Primary coordinator to backup coordinator, when a task has completed. -/
structure CompletedReplicationMsg where
  taskId : TaskId
  startedAt : Nanoseconds := 0
  completedAt : Nanoseconds := 0
  workerId : WorkerId := 0
  result : UInt32 := 0
  success : UInt8 := 0
  deriving DecidableEq, Repr

/-- Counters of one coordinator for the monitoring tool. -/
structure CoordinatorMetrics where
  minLatencyUs : UInt64 := 0
  maxLatencyUs : UInt64 := 0
  avgLatencyUs : UInt64 := 0
  p95LatencyUs : UInt64 := 0
  tasksCompleted : UInt64 := 0
  tasksQueued : UInt64 := 0
  tasksRunning : UInt64 := 0
  throughput : UInt64 := 0
  activeWorkers : UInt32 := 0
  isPrimary : UInt8 := 0
  deriving DecidableEq, Repr

/-- Counters of one worker for the monitoring tool. -/
structure WorkerMetrics where
  avgLatencyUs : UInt64 := 0
  tasksCompleted : UInt64 := 0
  tasksRunning : UInt64 := 0
  lastHeartbeatMs : UInt64 := 0
  workerId : WorkerId := 0
  alive : UInt8 := 0
  deriving DecidableEq, Repr

structure TopResponseMsg where
  coordinatorMetrics : CoordinatorMetrics
  workersMetrics : List WorkerMetrics
  deriving DecidableEq, Repr

/-- The kinds of messages, each with its body.  `unknown` is a type byte without a name. -/
inductive Body where
  | submit (msg : SubmitMsg)
  | assign (msg : AssignMsg)
  | complete (msg : CompleteMsg)
  | result (msg : ResultMsg)
  | assignedReplicate (msg : AssignedReplicationMsg)
  | completedReplicate (msg : CompletedReplicationMsg)
  | heartbeat (workerId : WorkerId)
  | register
  | acknowledge (workerId : WorkerId)
  | snapshot (tasks : TaskTable)
  | peerReconnected
  | topRequest
  | topResponse (msg : TopResponseMsg)
  | unknown (byte : UInt8) (unnamed : 12 < byte)

structure Message where
  epoch : UInt64 := 0
  body : Body

namespace Message

/-- `Message::is_replication`. -/
def isReplication (msg : Message) : Bool :=
  match msg.body with
  | .assignedReplicate _ | .completedReplicate _ | .snapshot _ => true
  | _ => false

/-- The assignment in an `ASSIGN`. -/
def assign? (msg : Message) : Option AssignMsg :=
  match msg.body with
  | .assign task => some task
  | _ => none

/-- The completion in a `COMPLETE`. -/
def complete? (msg : Message) : Option CompleteMsg :=
  match msg.body with
  | .complete response => some response
  | _ => none

/-- The task an `ASSIGN` hands out. -/
def assigns? (msg : Message) : Option TaskId :=
  match msg.body with
  | .assign body => some body.taskId
  | _ => none

/-- The task a `RESULT` answers. -/
def answers? (msg : Message) : Option TaskId :=
  match msg.body with
  | .result body => some body.taskId
  | _ => none

/-- The member `submit_`, which has its default value in every message but a `SUBMIT`. -/
def submit (msg : Message) : SubmitMsg :=
  match msg.body with
  | .submit body => body
  | _ => { taskId := 0 }

/-- The member `result_`, which has its default value in every message but a `RESULT`. -/
def result (msg : Message) : ResultMsg :=
  match msg.body with
  | .result body => body
  | _ => { taskId := 0 }

/-- The worker id an `ACKNOWLEDGE` gives out. -/
def acknowledges? (msg : Message) : Option WorkerId :=
  match msg.body with
  | .acknowledge workerId => some workerId
  | _ => none

theorem assigns?_eq_map_assign? (msg : Message) :
    msg.assigns? = msg.assign?.map AssignMsg.taskId := by
  unfold assigns? assign?
  cases msg.body <;> rfl

theorem taskId_of_answers? {msg : Message} {id : TaskId} (answers : msg.answers? = some id) :
    msg.result.taskId = id := by
  unfold answers? at answers
  unfold result
  split at answers
  next => exact Option.some.inj answers
  next => cases answers

end Message

/-- A message with the connection it will go out on. -/
structure OutgoingEvent where
  fd : Fd := -1
  msg : Message

end TaskCoordinator
