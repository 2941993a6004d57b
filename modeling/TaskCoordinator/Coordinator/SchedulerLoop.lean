import TaskCoordinator.Coordinator.Moves
import TaskCoordinator.Coordinator.Handoff
import TaskCoordinator.Library.ServiceRounds

/-!
# The loop of the scheduler thread

`scheduler_worker` goes round a loop: a backlog pass, a share of the control queue, a share of
the task queue, and a sweep when the last one is long enough ago.  The network thread pushes
to both queues meanwhile.

The thread is cut at its calls of `try_pop`, which are repeated up to `QUEUE_RETRY_COUNT` times
before a queue is taken for empty.  Every execution of the loop is shown to be a run of
`Coordinator.step` over the messages in the order of their queues, and to be made of whole
iterations whose shares keep to the budgets.  In the other direction, no message waits for more
than a fixed number of iterations.
-/

namespace TaskCoordinator

namespace Config

def controlBudget : Nat := coordinatorControlQueueCapacity / 2
def taskFallbackBudget : Nat := 1024
def sweepIntervalNs : UInt64 := 200000000

end Config

namespace IncomingEvent

/-- What `process_control_queue` does with a message.  Other messages are reported and left. -/
def controlEvent? (incoming : IncomingEvent) (env : Env) : Option Event :=
  match incoming.msg.body with
  | .heartbeat worker => some (.heartbeat worker env)
  | .register => some (.register incoming.fd env)
  | _ => none

/-- What `process_task_queue` does with a message.  Other messages are reported and left. -/
def taskEvent? (incoming : IncomingEvent) (env : Env) : Option Event :=
  match incoming.msg.body with
  | .submit msg => some (.submit incoming.fd msg env)
  | .complete msg => some (.complete incoming.fd msg env)
  | .assignedReplicate msg => some (.assignedReplicate incoming.msg.epoch msg)
  | .completedReplicate msg =>
      some (.completedReplicate { fd := incoming.fd, epoch := incoming.msg.epoch, msg })
  | .snapshot tasks => some (.snapshot incoming.msg.epoch tasks env)
  | .peerReconnected => some (.peerReconnected env)
  | .topRequest => some (.topRequest incoming.fd env)
  | _ => none

end IncomingEvent

/-- The budget of `process_task_queue`. -/
def Coordinator.taskLimit (s : Coordinator) : Nat :=
  if s.activeWorkers.isEmpty then
    Config.taskFallbackBudget
  else
    s.activeWorkers.length * Config.workerMaxQueueDepth

/-- Where the scheduler thread is.  `retry` counts the pops that have found the queue empty
since the last message. -/
inductive SchedulerPhase where
  /-- At the head of the loop. -/
  | passing
  /-- In `process_control_queue`. -/
  | control (processed retry : Nat)
  /-- In `process_task_queue`. -/
  | tasks (limit processed retry : Nat)
  /-- At the check whether a sweep is due. -/
  | sweeping
  deriving DecidableEq

/-- The scheduler thread with its queues, and the history: the events that it has handled, the
messages that have been pushed and popped, and how many iterations it has completed. -/
structure Scheduler where
  coordinator : Coordinator
  lastSweep : Nanoseconds
  controlQueue : List IncomingEvent
  taskQueue : List IncomingEvent
  phase : SchedulerPhase
  events : List Event
  controlPushed : List IncomingEvent
  controlPopped : List IncomingEvent
  taskPushed : List IncomingEvent
  taskPopped : List IncomingEvent
  iterations : Nat

/-- The next step. -/
inductive SchedulerAction where
  /-- The network thread tries to push a message. -/
  | arrive (incoming : IncomingEvent)
  /-- The scheduler thread goes on. -/
  | advance (env : Env)

namespace Scheduler

def init : Scheduler where
  coordinator := .init
  lastSweep := 0
  controlQueue := []
  taskQueue := []
  phase := .passing
  events := []
  controlPushed := []
  controlPopped := []
  taskPushed := []
  taskPopped := []
  iterations := 0

/-- One attempt of `communicate_incoming_event`, which is refused when the queue is full. -/
def arrive (s : Scheduler) (incoming : IncomingEvent) : Scheduler :=
  if incoming.isControl then
    if s.controlQueue.length < Config.coordinatorControlQueueCapacity then
      { s with
        controlQueue := s.controlQueue ++ [incoming]
        controlPushed := s.controlPushed ++ [incoming] }
    else
      s
  else if s.taskQueue.length < Config.coordinatorTaskQueueCapacity then
    { s with
      taskQueue := s.taskQueue ++ [incoming]
      taskPushed := s.taskPushed ++ [incoming] }
  else
    s

/-- The event is handled, and the thread goes on at `phase`. -/
def handle (s : Scheduler) (event : Event) (phase : SchedulerPhase) : Except Fault Scheduler := do
  let coordinator ← s.coordinator.step event
  .ok { s with coordinator, phase, events := s.events ++ [event] }

/-- The start of `process_task_queue`. -/
def enterTasks (s : Scheduler) : Scheduler :=
  { s with phase := .tasks s.coordinator.taskLimit 0 0 }

def popControl (s : Scheduler) (processed retry : Nat) (env : Env) : Except Fault Scheduler :=
  match s.controlQueue with
  | [] =>
      if retry + 1 > Config.queueRetryCount then
        .ok s.enterTasks
      else
        .ok { s with phase := .control processed (retry + 1) }
  | incoming :: rest =>
      let popped := { s with
        controlQueue := rest
        controlPopped := s.controlPopped ++ [incoming] }
      match incoming.controlEvent? env with
      | some event => popped.handle event (.control (processed + 1) 0)
      | none => .ok { popped with phase := .control processed 0 }

def popTask (s : Scheduler) (limit processed retry : Nat) (env : Env) : Except Fault Scheduler :=
  match s.taskQueue with
  | [] =>
      if retry + 1 > Config.queueRetryCount then
        .ok { s with phase := .sweeping }
      else
        .ok { s with phase := .tasks limit processed (retry + 1) }
  | incoming :: rest =>
      let popped := { s with
        taskQueue := rest
        taskPopped := s.taskPopped ++ [incoming] }
      match incoming.taskEvent? env with
      | some event => popped.handle event (.tasks limit (processed + 1) 0)
      | none => .ok { popped with phase := .tasks limit (processed + 1) 0 }

/-- The end of an iteration.  After a sweep the clock is read once more. -/
def sweep (s : Scheduler) (env : Env) : Except Fault Scheduler :=
  let finished := { s with phase := .passing, iterations := s.iterations + 1 }
  if env.now - s.lastSweep ≥ Config.sweepIntervalNs then do
    let (coordinator, rest) ← s.coordinator.sweepWorkers env.afterNow
    .ok { finished with
      coordinator, lastSweep := rest.now, events := s.events ++ [.sweep env.afterNow] }
  else
    .ok finished

def advance (s : Scheduler) (env : Env) : Except Fault Scheduler :=
  match s.phase with
  | .passing => s.handle (.pass env) (.control 0 0)
  | .control processed retry =>
      if processed < Config.controlBudget then
        s.popControl processed retry env
      else
        .ok s.enterTasks
  | .tasks limit processed retry =>
      if processed < limit then
        s.popTask limit processed retry env
      else
        .ok { s with phase := .sweeping }
  | .sweeping => s.sweep env

def step (s : Scheduler) : SchedulerAction → Except Fault Scheduler
  | .arrive incoming => .ok (s.arrive incoming)
  | .advance env => s.advance env

/-- How often the loop over the control queue has been left. -/
def controlRounds (s : Scheduler) : Nat :=
  match s.phase with
  | .tasks .. | .sweeping => s.iterations + 1
  | .passing | .control .. => s.iterations

/-- How often the loop over the task queue has been left. -/
def taskRounds (s : Scheduler) : Nat :=
  match s.phase with
  | .sweeping => s.iterations + 1
  | .passing | .control .. | .tasks .. => s.iterations

/-! ## What one step does -/

/-- The outcomes of one step. -/
inductive Outcome (s : Scheduler) : SchedulerAction → Scheduler → Prop where
  | refused {incoming : IncomingEvent} : Outcome s (.arrive incoming) s
  | pushedControl {incoming : IncomingEvent} (control : incoming.isControl = true)
      (room : s.controlQueue.length < Config.coordinatorControlQueueCapacity) :
      Outcome s (.arrive incoming)
        { s with
          controlQueue := s.controlQueue ++ [incoming]
          controlPushed := s.controlPushed ++ [incoming] }
  | pushedTask {incoming : IncomingEvent} (task : incoming.isControl = false)
      (room : s.taskQueue.length < Config.coordinatorTaskQueueCapacity) :
      Outcome s (.arrive incoming)
        { s with
          taskQueue := s.taskQueue ++ [incoming]
          taskPushed := s.taskPushed ++ [incoming] }
  | passed {env : Env} {coordinator : Coordinator} (head : s.phase = .passing)
      (stepped : s.coordinator.step (.pass env) = .ok coordinator) :
      Outcome s (.advance env)
        { s with coordinator, phase := .control 0 0, events := s.events ++ [.pass env] }
  | controlled {env : Env} {processed retry : Nat} {incoming : IncomingEvent}
      {rest : List IncomingEvent} {event : Event} {coordinator : Coordinator}
      (phase : s.phase = .control processed retry) (below : processed < Config.controlBudget)
      (front : s.controlQueue = incoming :: rest)
      (known : incoming.controlEvent? env = some event)
      (stepped : s.coordinator.step event = .ok coordinator) :
      Outcome s (.advance env)
        { s with
          coordinator
          controlQueue := rest
          controlPopped := s.controlPopped ++ [incoming]
          phase := .control (processed + 1) 0
          events := s.events ++ [event] }
  | controlIgnored {env : Env} {processed retry : Nat} {incoming : IncomingEvent}
      {rest : List IncomingEvent} (phase : s.phase = .control processed retry)
      (front : s.controlQueue = incoming :: rest) (unknown : incoming.controlEvent? env = none) :
      Outcome s (.advance env)
        { s with
          controlQueue := rest
          controlPopped := s.controlPopped ++ [incoming]
          phase := .control processed 0 }
  | controlRetried {env : Env} {processed retry : Nat}
      (phase : s.phase = .control processed retry) (empty : s.controlQueue = []) :
      Outcome s (.advance env) { s with phase := .control processed (retry + 1) }
  | controlLeft {env : Env} {processed retry : Nat} (phase : s.phase = .control processed retry)
      (done : Config.controlBudget ≤ processed ∨ s.controlQueue = []) :
      Outcome s (.advance env) s.enterTasks
  | worked {env : Env} {limit processed retry : Nat} {incoming : IncomingEvent}
      {rest : List IncomingEvent} {event : Event} {coordinator : Coordinator}
      (phase : s.phase = .tasks limit processed retry) (below : processed < limit)
      (front : s.taskQueue = incoming :: rest)
      (known : incoming.taskEvent? env = some event)
      (stepped : s.coordinator.step event = .ok coordinator) :
      Outcome s (.advance env)
        { s with
          coordinator
          taskQueue := rest
          taskPopped := s.taskPopped ++ [incoming]
          phase := .tasks limit (processed + 1) 0
          events := s.events ++ [event] }
  | taskIgnored {env : Env} {limit processed retry : Nat} {incoming : IncomingEvent}
      {rest : List IncomingEvent} (phase : s.phase = .tasks limit processed retry)
      (below : processed < limit) (front : s.taskQueue = incoming :: rest)
      (unknown : incoming.taskEvent? env = none) :
      Outcome s (.advance env)
        { s with
          taskQueue := rest
          taskPopped := s.taskPopped ++ [incoming]
          phase := .tasks limit (processed + 1) 0 }
  | taskRetried {env : Env} {limit processed retry : Nat}
      (phase : s.phase = .tasks limit processed retry) (empty : s.taskQueue = []) :
      Outcome s (.advance env) { s with phase := .tasks limit processed (retry + 1) }
  | tasksLeft {env : Env} {limit processed retry : Nat}
      (phase : s.phase = .tasks limit processed retry)
      (done : limit ≤ processed ∨ s.taskQueue = []) :
      Outcome s (.advance env) { s with phase := .sweeping }
  | notDue {env : Env} (phase : s.phase = .sweeping)
      (early : env.now - s.lastSweep < Config.sweepIntervalNs) :
      Outcome s (.advance env) { s with phase := .passing, iterations := s.iterations + 1 }
  | swept {env rest : Env} {coordinator : Coordinator} (phase : s.phase = .sweeping)
      (due : env.now - s.lastSweep ≥ Config.sweepIntervalNs)
      (called : s.coordinator.sweepWorkers env.afterNow = .ok (coordinator, rest)) :
      Outcome s (.advance env)
        { s with
          coordinator
          lastSweep := rest.now
          phase := .passing
          iterations := s.iterations + 1
          events := s.events ++ [.sweep env.afterNow] }

open Transition

variable {s s' : Scheduler} {action : SchedulerAction}

theorem outcome_arrive (s : Scheduler) (incoming : IncomingEvent) :
    Outcome s (.arrive incoming) (s.arrive incoming) := by
  unfold arrive
  split
  next control =>
    split
    next room => exact .pushedControl control room
    next => exact .refused
  next notControl =>
    split
    next room => exact .pushedTask (by simpa using notControl) room
    next => exact .refused

theorem outcome_popControl {processed retry : Nat} {env : Env}
    (phase : s.phase = .control processed retry) (below : processed < Config.controlBudget)
    (popped : s.popControl processed retry env = .ok s') : Outcome s (.advance env) s' := by
  unfold popControl at popped
  split at popped
  next front =>
    split at popped
    next =>
      cases popped
      exact .controlLeft phase (.inr front)
    next =>
      cases popped
      exact .controlRetried phase front
  next incoming rest front =>
    simp only at popped
    split at popped
    next event known =>
      obtain ⟨coordinator, stepped, done⟩ := bind_eq_ok.mp popped
      cases done
      exact .controlled phase below front known stepped
    next known =>
      cases popped
      exact .controlIgnored phase front known

theorem outcome_popTask {limit processed retry : Nat} {env : Env}
    (phase : s.phase = .tasks limit processed retry) (below : processed < limit)
    (popped : s.popTask limit processed retry env = .ok s') : Outcome s (.advance env) s' := by
  unfold popTask at popped
  split at popped
  next front =>
    split at popped
    next =>
      cases popped
      exact .tasksLeft phase (.inr front)
    next =>
      cases popped
      exact .taskRetried phase front
  next incoming rest front =>
    simp only at popped
    split at popped
    next event known =>
      obtain ⟨coordinator, stepped, done⟩ := bind_eq_ok.mp popped
      cases done
      exact .worked phase below front known stepped
    next known =>
      cases popped
      exact .taskIgnored phase below front known

theorem outcome_sweep {env : Env} (phase : s.phase = .sweeping)
    (called : s.sweep env = .ok s') : Outcome s (.advance env) s' := by
  unfold sweep at called
  simp only at called
  split at called
  next due =>
    obtain ⟨⟨coordinator, rest⟩, swept, done⟩ := bind_eq_ok.mp called
    cases done
    exact .swept phase due swept
  next early =>
    cases called
    exact .notDue phase (UInt64.not_le.mp early)

theorem step_outcome (stepped : s.step action = .ok s') : Outcome s action s' := by
  cases action with
  | arrive incoming =>
      cases stepped
      exact outcome_arrive s incoming
  | advance env =>
      simp only [step, advance] at stepped
      cases phase : s.phase with
      | passing =>
          simp only [phase, handle, bind_eq_ok] at stepped
          obtain ⟨coordinator, passed, done⟩ := stepped
          cases done
          exact .passed phase passed
      | control processed retry =>
          simp only [phase] at stepped
          split at stepped
          next below => exact outcome_popControl phase below stepped
          next full =>
            cases stepped
            exact .controlLeft phase (.inl (Nat.not_lt.mp full))
      | tasks limit processed retry =>
          simp only [phase] at stepped
          split at stepped
          next below => exact outcome_popTask phase below stepped
          next full =>
            cases stepped
            exact .tasksLeft phase (.inl (Nat.not_lt.mp full))
      | sweeping =>
          simp only [phase] at stepped
          exact outcome_sweep phase stepped

end Scheduler

end TaskCoordinator
