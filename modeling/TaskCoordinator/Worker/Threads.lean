import TaskCoordinator.Worker.Execution
import TaskCoordinator.Coordinator.Handoff

/-!
# The threads of a worker

`network_worker` and `n` copies of `execution_worker`.  Each execution thread has a task
queue, into which the network thread pushes, and a response queue, which the network thread
drains.

A thread is cut at its socket calls, at its calls of `try_push` and `try_pop` and at the
loops around them.  The queues are first-in first-out and hold `WORKER_QUEUE_CAPACITY`
entries; a push is refused exactly when its queue is full.  The outcomes of the socket calls
and the readings of the clock are inputs.
-/

namespace TaskCoordinator

namespace Config

def heartbeatIntervalNs : UInt64 := 200000000
def workerOutBudget : Nat := 128
def workerOutPerThreadCap : Nat := 8
def registerRetryCount : Nat := 10

end Config

namespace Message

/-- The member `acknowledge_.worker_id_`, which is 0 in every message but an
`ACKNOWLEDGE`. -/
def acknowledgedId (msg : Message) : WorkerId :=
  msg.acknowledges?.getD 0

end Message

/-- Where the network thread is. -/
inductive NetworkPhase (n : Nat) where
  /-- In `connect`, before an attempt to connect and to send the `REGISTER`. -/
  | connecting (retry : Nat)
  /-- In `register_with_server`, at the receive of the acknowledgement. -/
  | registering (retry : Nat)
  /-- At the head of the loop and at `poll`. -/
  | polling
  /-- At the push of a task to the queue `idx`, after `retry` refusals. -/
  | pushing (task : AssignMsg) (idx : Fin n) (retry : Nat)
  /-- At the head of the loop over the response queues. -/
  | draining (k totalProcessed : Nat)
  /-- At the pop from a response queue. -/
  | popping (k totalProcessed localProcessed : Nat)
  /-- At the send of a response. -/
  | sending (response : CompleteMsg) (k totalProcessed localProcessed : Nat)
  /-- At the check whether a heartbeat is due. -/
  | beating
  | stopped

/-- Where an execution thread is. -/
inductive ExecutionPhase where
  /-- At the pop from its task queue. -/
  | waiting
  /-- A task has been popped. -/
  | executing (task : AssignMsg)
  /-- At the push of the response. -/
  | responding (response : CompleteMsg)
  | stopped

/-- The members of `Worker` with the positions of its threads, and the history: the messages
that the loop of the network thread has received and those that the thread has sent. -/
structure Worker (n : Nat) where
  nextWorker : Fin n
  lastHeartbeatNs : Nanoseconds
  lastStart : Fin n
  id : WorkerId
  running : Bool
  taskQueues : Fin n → List AssignMsg
  responseQueues : Fin n → List CompleteMsg
  network : NetworkPhase n
  execution : Fin n → ExecutionPhase
  received : List Message
  sent : List Message

/-- What `poll` and the receive that follows it report. -/
inductive PollOutcome where
  | quiet
  | hangUp
  | message (msg : Message)
  /-- The receive returns -3. -/
  | rejected
  /-- The receive fails or finds the connection closed. -/
  | failed

/-- The next step of one of the threads. -/
inductive WorkerAction (n : Nat) where
  /-- An attempt to connect and to send the `REGISTER`. -/
  | connect (established : Bool)
  | acknowledge (reply : Option Message) (now : Nanoseconds)
  | poll (outcome : PollOutcome)
  | push
  /-- The head of the draining loop, or the pop in it. -/
  | drain
  | send (delivered : Bool)
  /-- The check for a heartbeat at the time `now`.  A heartbeat that is due has been sent by
  the time `later`. -/
  | beat (now later : Nanoseconds) (delivered : Bool)
  /-- A step of one execution thread, with the clock readings around an execution. -/
  | execution (thread : Fin n) (startedAt completedAt : Nanoseconds)
  /-- The worker is told to stop. -/
  | stop

namespace Worker

variable {n : Nat} [NeZero n]

/-- The state in which `run` starts the threads. -/
def init (now : Nanoseconds) : Worker n where
  nextWorker := 0
  lastHeartbeatNs := now
  lastStart := 0
  id := 4294967295
  running := true
  taskQueues := fun _ => []
  responseQueues := fun _ => []
  network := .connecting 0
  execution := fun _ => .waiting
  received := []
  sent := []

/-- The network thread gives up. -/
def giveUp (w : Worker n) : Worker n :=
  { w with running := false, network := .stopped }

/-- An attempt of `connect` has failed. -/
def retryConnect (w : Worker n) (retry : Nat) : Worker n :=
  if retry + 1 < Config.registerRetryCount then
    { w with network := .connecting (retry + 1) }
  else
    w.giveUp

def connect (w : Worker n) (established : Bool) : Except Disabled (Worker n) :=
  match w.network with
  | .connecting retry =>
      if established then
        .ok { w with sent := w.sent ++ [{ body := .register }], network := .registering retry }
      else
        .ok (w.retryConnect retry)
  | _ => .error .disabled

/-- The end of `register_with_server`, which takes any reply for the acknowledgement. -/
def acknowledge (w : Worker n) (reply : Option Message) (now : Nanoseconds) :
    Except Disabled (Worker n) :=
  match w.network with
  | .registering retry =>
      match reply with
      | some msg =>
          .ok { w with id := msg.acknowledgedId, lastHeartbeatNs := now, network := .polling }
      | none => .ok (w.retryConnect retry)
  | _ => .error .disabled

/-- A message has been received.  Only an `ASSIGN` is acted on. -/
def receive (w : Worker n) (msg : Message) : Worker n :=
  match msg.assign? with
  | some task =>
      { w with received := w.received ++ [msg], network := .pushing task w.nextWorker 0 }
  | none => { w with received := w.received ++ [msg] }

def poll (w : Worker n) (outcome : PollOutcome) : Except Disabled (Worker n) :=
  match w.network with
  | .polling =>
      if w.running then
        match outcome with
        | .quiet => .ok { w with network := .draining 0 0 }
        | .hangUp => .ok { w with network := .connecting 0 }
        | .message msg => .ok (w.receive msg)
        | .rejected => .ok w
        | .failed => .ok w.giveUp
      else
        .ok { w with network := .stopped }
  | _ => .error .disabled

/-- One round of the loop that pushes a task.  A queue that has refused the task
`QUEUE_RETRY_COUNT + 1` times is passed over. -/
def push (w : Worker n) : Except Disabled (Worker n) :=
  match w.network with
  | .pushing task idx retry =>
      if (w.taskQueues idx).length < Config.workerQueueCapacity then
        .ok { w with
          taskQueues := Function.update w.taskQueues idx (w.taskQueues idx ++ [task])
          nextWorker := w.nextWorker + 1
          network := .draining 0 0 }
      else if retry + 1 > Config.queueRetryCount then
        .ok { w with
          nextWorker := w.nextWorker + 1
          network := .pushing task (w.nextWorker + 1) 0 }
      else
        .ok { w with network := .pushing task idx (retry + 1) }
  | _ => .error .disabled

/-- The response queue that round `k` of the draining loop is about. -/
def drained (w : Worker n) (k : Nat) : Fin n :=
  w.lastStart + Fin.ofNat n k

def drain (w : Worker n) : Except Disabled (Worker n) :=
  match w.network with
  | .draining k totalProcessed =>
      if k < n ∧ totalProcessed < Config.workerOutBudget then
        .ok { w with network := .popping k totalProcessed 0 }
      else
        .ok { w with lastStart := w.lastStart + 1, network := .beating }
  | .popping k totalProcessed localProcessed =>
      match w.responseQueues (w.drained k) with
      | [] => .ok { w with network := .draining (k + 1) totalProcessed }
      | response :: rest =>
          .ok { w with
            responseQueues := Function.update w.responseQueues (w.drained k) rest
            network := .sending response k totalProcessed localProcessed }
  | _ => .error .disabled

/-- Where the draining loop goes on after a response has been sent. -/
def afterSend (k totalProcessed localProcessed : Nat) : NetworkPhase n :=
  if totalProcessed ≥ Config.workerOutBudget ∨ localProcessed ≥ Config.workerOutPerThreadCap then
    .draining (k + 1) totalProcessed
  else
    .popping k totalProcessed localProcessed

def send (w : Worker n) (delivered : Bool) : Except Disabled (Worker n) :=
  match w.network with
  | .sending response k totalProcessed localProcessed =>
      if delivered then
        .ok { w with
          sent := w.sent ++ [{ body := .complete response }]
          network := afterSend k (totalProcessed + 1) (localProcessed + 1) }
      else
        .ok w.giveUp
  | _ => .error .disabled

def beat (w : Worker n) (now later : Nanoseconds) (delivered : Bool) :
    Except Disabled (Worker n) :=
  match w.network with
  | .beating =>
      if now - w.lastHeartbeatNs ≥ Config.heartbeatIntervalNs then
        if delivered then
          .ok { w with
            sent := w.sent ++ [{ body := .heartbeat w.id }]
            lastHeartbeatNs := later
            network := .polling }
        else
          .ok w.giveUp
      else
        .ok { w with network := .polling }
  | _ => .error .disabled

/-- An execution thread moves on. -/
def setExecution (w : Worker n) (thread : Fin n) (phase : ExecutionPhase) : Worker n :=
  { w with execution := Function.update w.execution thread phase }

def executionStep (w : Worker n) (thread : Fin n) (startedAt completedAt : Nanoseconds) :
    Except Disabled (Worker n) :=
  match w.execution thread with
  | .waiting =>
      if w.running then
        match w.taskQueues thread with
        | [] => .ok w
        | task :: rest =>
            .ok { w.setExecution thread (.executing task) with
              taskQueues := Function.update w.taskQueues thread rest }
      else
        .ok (w.setExecution thread .stopped)
  | .executing task =>
      if w.running then
        .ok (w.setExecution thread (.responding (execute task startedAt completedAt)))
      else
        .ok (w.setExecution thread .stopped)
  | .responding response =>
      if (w.responseQueues thread).length < Config.workerQueueCapacity then
        .ok { w.setExecution thread .waiting with
          responseQueues :=
            Function.update w.responseQueues thread (w.responseQueues thread ++ [response]) }
      else
        .ok w
  | .stopped => .error .disabled

/-- One step of a worker. -/
def step (w : Worker n) : WorkerAction n → Except Disabled (Worker n)
  | .connect established => w.connect established
  | .acknowledge reply now => w.acknowledge reply now
  | .poll outcome => w.poll outcome
  | .push => w.push
  | .drain => w.drain
  | .send delivered => w.send delivered
  | .beat now later delivered => w.beat now later delivered
  | .execution thread startedAt completedAt => w.executionStep thread startedAt completedAt
  | .stop => .ok { w with running := false }

end Worker

end TaskCoordinator
