import TaskCoordinator.Message
import TaskCoordinator.Library.RingLog
import TaskCoordinator.Library.Unordered

/-!
# The coordinator's state

The members of `Coordinator` that its scheduler thread reads and writes.  The threads,
the incoming queues, the peer connection and the time of the last sweep are left out:
they decide which events reach the scheduler and when, and every order of events is
allowed here.

The outgoing queue is represented by the sequence of events pushed to it so far.  Whether
a push finds room depends on the network thread, which pops concurrently, so the outcome
of each push is an input.  So are the readings of the clock and the iteration orders of
the hash containers.  `Env` collects these inputs for the handling of one event.
-/

namespace TaskCoordinator

/-! ## Constants of `system_config.hpp` -/

namespace Config

def workerQueueCapacity : Nat := 64
def workerMaxQueueDepth : Nat := workerQueueCapacity
def heartbeatTimeoutNs : UInt64 := 1000000000
def maxLogSize : Nat := 10000
def throughputWindowNs : UInt64 := 1000000000
def maxLatencySamples : Nat := 10000

end Config

/-! ## Inputs of one event -/

/-- What the surroundings of the scheduler contribute while it handles one event.

`pushes` lists the outcomes of the successive pushes to the outgoing queue; a push beyond
the end of the list is accepted.  `clock` lists the successive clock readings.  `order`
proposes the order in which a hash container with the given keys is iterated; its first
argument tells the containers apart. -/
structure Env where
  pushes : List Bool := []
  clock : List Nanoseconds := []
  order : Nat → List TaskId → List TaskId := fun _ ids => ids

namespace Env

/-- Outcome of the next push. -/
def accepts (env : Env) : Bool :=
  env.pushes.headD true

def afterPush (env : Env) : Env :=
  { env with pushes := env.pushes.tail }

/-- The next clock reading. -/
def now (env : Env) : Nanoseconds :=
  env.clock.headD 0

def afterNow (env : Env) : Env :=
  { env with clock := env.clock.tail }

/-- No push is refused. -/
def Accepting (env : Env) : Prop :=
  ∀ outcome ∈ env.pushes, outcome = true

instance (env : Env) : Decidable env.Accepting :=
  inferInstanceAs (Decidable (∀ outcome ∈ env.pushes, outcome = true))

theorem Accepting.accepts {env : Env} (accepting : env.Accepting) : env.accepts = true := by
  unfold Env.accepts
  cases outcomes : env.pushes with
  | nil => rfl
  | cons first rest => exact accepting first (by simp [outcomes])

theorem Accepting.afterPush {env : Env} (accepting : env.Accepting) :
    env.afterPush.Accepting :=
  fun outcome member => accepting outcome (List.mem_of_mem_tail member)

theorem Accepting.afterNow {env : Env} (accepting : env.Accepting) :
    env.afterNow.Accepting :=
  accepting

end Env

/-! ## State -/

/-- How the scheduler thread can fail: `tasks_.at` throws for an unknown id, and an index
outside `workers_states_` or `active_workers_` is undefined behaviour. -/
inductive Fault where
  | outOfRange (id : TaskId)
  | badIndex (index : Nat)
  deriving DecidableEq, Repr

structure WorkerState where
  tasksCompleted : UInt64 := 0
  totalLatencyNs : UInt64 := 0
  lastHeartbeatNs : Nanoseconds := 0
  activeIndex : Nat := 0
  fd : Fd := -1
  alive : Bool := true
  runningTasks : UnorderedSet TaskId := ∅
  deriving DecidableEq

/-- `WorkerState::mark_dead`. -/
def WorkerState.markDead (worker : WorkerState) : WorkerState :=
  { worker with fd := -1, alive := false }

structure Metrics where
  totalLatencyNs : UInt64 := 0
  tasksCompleted : UInt64 := 0
  tasksQueued : UInt64 := 0
  tasksRunning : UInt64 := 0
  minLatencyNs : UInt64 := 0
  maxLatencyNs : UInt64 := 0
  latencies : List UInt64 := []
  completionTimesNs : List Nanoseconds := []
  deriving DecidableEq, Repr

/-- The incoming event of a `COMPLETED_REPLICATE`, as it is stashed while its task is not
running here. -/
structure CompletedReplication where
  fd : Fd := -1
  epoch : UInt64
  msg : CompletedReplicationMsg
  deriving DecidableEq, Repr

/-- The replication log: `MAX_LOG_SIZE` slots between a read and a write pointer. -/
abbrev ReplicationLog := RingLog Message Config.maxLogSize

@[ext] structure Coordinator where
  currentEpoch : UInt64
  rrIndex : Nat
  isPrimary : Bool
  /-- Every event pushed to `outgoing_queue_` so far, oldest first. -/
  outgoingQueue : List OutgoingEvent
  tasks : TaskTable
  clientFds : AList fun _ : ClientId => Fd
  earlyCompleteReps : AList fun _ : TaskId => CompletedReplication
  replicationLog : ReplicationLog
  queuedBacklog : List TaskId
  completedBacklog : List TaskId
  workersStates : List WorkerState
  activeWorkers : List WorkerId
  availableIds : List WorkerId
  metrics : Metrics

namespace Coordinator

/-- The state after construction.  The slots of the log hold default messages, whose type
is the first of the enumeration. -/
def init : Coordinator where
  currentEpoch := 0
  rrIndex := 0
  isPrimary := false
  outgoingQueue := []
  tasks := .empty
  clientFds := ∅
  earlyCompleteReps := ∅
  replicationLog := .empty { body := .submit { taskId := 0 } } (by decide)
  queuedBacklog := []
  completedBacklog := []
  workersStates := []
  activeWorkers := []
  availableIds := []
  metrics := {}

/-- `workers_states_[worker]`. -/
def workerAt (s : Coordinator) (worker : WorkerId) : Except Fault WorkerState :=
  match s.workersStates[worker]? with
  | some state => .ok state
  | none => .error (.badIndex worker)

/-- Overwrite a worker's state in place. -/
@[simps] def modifyWorker (s : Coordinator) (worker : WorkerId) (change : WorkerState → WorkerState) :
    Coordinator :=
  { s with workersStates := s.workersStates.modify worker change }

/-- `tasks_.at(id)`. -/
def taskAt (s : Coordinator) (id : TaskId) : Except Fault Task :=
  match s.tasks.find? id with
  | some task => .ok task
  | none => .error (.outOfRange id)

/-- A push to the outgoing queue that found room. -/
@[simps] def push (s : Coordinator) (event : OutgoingEvent) : Coordinator :=
  { s with outgoingQueue := s.outgoingQueue ++ [event] }

theorem workerAt_eq_ok {s : Coordinator} {worker : WorkerId} {state : WorkerState} :
    s.workerAt worker = .ok state ↔ s.workersStates[worker]? = some state := by
  unfold workerAt
  cases s.workersStates[worker]? <;> simp

theorem taskAt_eq_ok {s : Coordinator} {id : TaskId} {task : Task} :
    s.taskAt id = .ok task ↔ s.tasks.find? id = some task := by
  unfold taskAt
  cases s.tasks.find? id <;> simp

end Coordinator

end TaskCoordinator
