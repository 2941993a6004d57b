import TaskCoordinator.Coordinator.Charges
import TaskCoordinator.Worker.Conservation

/-!
# A coordinator and its worker

One coordinator and one worker process with `n` execution threads over one connection.
Messages arrive in the order in which they were sent, and none is lost.  The coordinator may
process a `REGISTER` and a `COMPLETE` in either order, since they go through different queues
of its network thread.

The coordinator counts the tasks in the worker's running set and stops assigning at
`WORKER_MAX_QUEUE_DEPTH`.  A task leaves that set when its `COMPLETE` is processed, so that
everything in the worker and on the way to it or back is counted.  A queue of the worker has
room for as many, which is why no push of the worker is ever refused.
-/

namespace TaskCoordinator

/-- A coordinator and a worker, with the state of the connection: how many messages to the
worker it has read, and how many `REGISTER`s and `COMPLETE`s of the worker have been
processed. -/
structure WorkerLink (n : Nat) where
  coordinator : Coordinator
  worker : Worker n
  read : Nat
  registered : Nat
  processed : Nat

/-- The next step of one of the two. -/
inductive LinkAction (n : Nat) where
  /-- The coordinator handles something that does not come from the worker. -/
  | schedule (event : Event)
  /-- It processes the worker's `REGISTER`. -/
  | register (env : Env)
  /-- It processes the worker's next `COMPLETE`. -/
  | complete (env : Env)
  /-- The worker takes a step that reads no message. -/
  | act (action : WorkerAction n)
  /-- It reads the next message as the acknowledgement of its registration. -/
  | acknowledge (now : Nanoseconds)
  /-- It reads the next message. -/
  | deliver

/-- Why a step cannot be taken. -/
inductive LinkFault where
  | disabled
  | scheduler (fault : Fault)

/-- The task that a `SUBMIT` names. -/
def LinkAction.submits? {n : Nat} : LinkAction n → Option TaskId
  | .schedule event => event.submits?
  | _ => none

/-- The message is a `REGISTER`. -/
def Message.isRegister (msg : Message) : Bool :=
  match msg.body with
  | .register => true
  | _ => false

/-- How many `REGISTER`s a worker has sent. -/
def Worker.registrations {n : Nat} (w : Worker n) : Nat :=
  w.sent.countP Message.isRegister

/-! ## The worker's side -/

/-- The phases of a worker that has registered and that no push has been refused to. -/
def NetworkPhase.Prompt {n : Nat} : NetworkPhase n → Prop
  | .connecting _ => False
  | .pushing _ _ retry => retry = 0
  | _ => True

/-- The connection does not break, and no message on it is rejected. -/
def WorkerAction.Connected {n : Nat} : WorkerAction n → Prop
  | .poll .hangUp | .poll .rejected => False
  | _ => True

instance {n : Nat} : DecidablePred (WorkerAction.Connected (n := n))
  | .poll .hangUp | .poll .rejected => isFalse id
  | .poll .quiet | .poll (.message _) | .poll .failed | .connect _ | .acknowledge .. | .push
  | .drain | .send _ | .beat .. | .execution .. | .stop => isTrue trivial

/-- No socket call of the worker fails, and the connection does not break. -/
def LinkAction.Reliable {n : Nat} : LinkAction n → Prop
  | .act action => action.Undisturbed ∧ action.Connected
  | _ => True

instance {n : Nat} : DecidablePred (LinkAction.Reliable (n := n))
  | .act action => inferInstanceAs (Decidable (action.Undisturbed ∧ action.Connected))
  | .schedule _ | .register _ | .complete _ | .acknowledge _ | .deliver => isTrue trivial

/-- The message that the loop of the network thread reads in a step. -/
def WorkerAction.brings? {n : Nat} : WorkerAction n → Option Message
  | .poll (.message msg) => some msg
  | _ => none

namespace Worker

variable {n : Nat} {w w' : Worker n} {action : WorkerAction n}

/-- The worker has registered once at most, and no push has been refused to its network
thread. -/
def Punctual (w : Worker n) : Prop :=
  ((∃ retry, w.network = .connecting retry) ∧ w.registrations = 0) ∨
    (w.network.Prompt ∧ w.registrations ≤ 1)

theorem Punctual.once (punctual : w.Punctual) : w.registrations ≤ 1 := by
  obtain ⟨_, none⟩ | ⟨_, once⟩ := punctual
  · rw [none]
    exact Nat.zero_le 1
  · exact once

theorem Punctual.unrefused (punctual : w.Punctual) {task : AssignMsg} {idx : Fin n} {retry : Nat}
    (pushing : w.network = .pushing task idx retry) : retry = 0 := by
  obtain ⟨⟨_, connecting⟩, _⟩ | ⟨prompt, _⟩ := punctual
  · rw [pushing] at connecting
    cases connecting
  · rwa [pushing] at prompt

/-- What a step of a punctual worker does. -/
structure Advances (action : WorkerAction n) (w w' : Worker n) : Prop where
  sent : w.sent <+: w'.sent
  received : w'.received = w.received ++ action.brings?.toList
  punctual : w'.Punctual

/-- The network thread goes on and registers no more. -/
theorem Punctual.goOn (punctual : w.Punctual) {messages : List Message}
    (sent : w'.sent = w.sent ++ messages) (others : messages.countP Message.isRegister = 0)
    (received : w'.received = w.received ++ action.brings?.toList) (prompt : w'.network.Prompt) :
    Advances action w w' := by
  refine ⟨⟨messages, sent.symm⟩, received, .inr ⟨prompt, ?_⟩⟩
  rw [registrations, sent, List.countP_append, others]
  exact punctual.once

/-- It goes on and sends nothing. -/
theorem Punctual.quiet (punctual : w.Punctual) (sent : w'.sent = w.sent)
    (received : w'.received = w.received ++ action.brings?.toList) (prompt : w'.network.Prompt) :
    Advances action w w' :=
  punctual.goOn (sent.trans (List.append_nil _).symm) rfl received prompt

/-- The network thread stays where it is. -/
theorem Punctual.stay (punctual : w.Punctual) (sent : w'.sent = w.sent)
    (received : w'.received = w.received ++ action.brings?.toList) (network : w'.network = w.network) :
    Advances action w w' := by
  refine ⟨sent ▸ List.prefix_rfl, received, ?_⟩
  rwa [Punctual, network, registrations, sent]

theorem advances_connect (punctual : w.Punctual) {established : Bool}
    (succeeds : established = true) (stepped : w.connect established = .ok w') :
    Advances (.connect established) w w' := by
  unfold connect at stepped
  split at stepped
  next retry phase =>
    rw [if_pos succeeds] at stepped
    cases stepped
    obtain ⟨_, none⟩ | ⟨prompt, _⟩ := punctual
    · refine ⟨⟨_, rfl⟩, (List.append_nil _).symm, .inr ⟨trivial, ?_⟩⟩
      rw [registrations] at none
      simp [registrations, none, Message.isRegister]
    · rw [phase] at prompt
      cases prompt
  next => cases stepped

theorem advances_acknowledge (punctual : w.Punctual) {msg : Message} {now : Nanoseconds}
    (stepped : w.acknowledge (some msg) now = .ok w') :
    Advances (.acknowledge (some msg) now) w w' := by
  unfold acknowledge at stepped
  split at stepped
  next =>
    cases stepped
    exact punctual.quiet rfl (List.append_nil _).symm trivial
  next => cases stepped

theorem advances_poll (punctual : w.Punctual) {outcome : PollOutcome} (running : w.running = true)
    (succeeds : (WorkerAction.poll (n := n) outcome).Undisturbed)
    (connected : (WorkerAction.poll (n := n) outcome).Connected)
    (stepped : w.poll outcome = .ok w') : Advances (.poll outcome) w w' := by
  unfold poll at stepped
  split at stepped
  next phase =>
    rw [if_pos running] at stepped
    cases outcome with
    | quiet =>
        cases stepped
        exact punctual.quiet rfl (List.append_nil _).symm trivial
    | message msg =>
        cases stepped
        unfold receive
        split
        next => exact punctual.quiet rfl rfl rfl
        next => exact punctual.stay rfl rfl rfl
    | hangUp | rejected => cases connected
    | failed => cases succeeds
  next => cases stepped

theorem advances_beat (punctual : w.Punctual) {now later : Nanoseconds} {delivered : Bool}
    (succeeds : delivered = true) (stepped : w.beat now later delivered = .ok w') :
    Advances (.beat now later delivered) w w' := by
  unfold beat at stepped
  split at stepped
  next =>
    rw [if_pos succeeds] at stepped
    split_ifs at stepped
    · cases stepped
      exact punctual.goOn rfl rfl (List.append_nil _).symm trivial
    · cases stepped
      exact punctual.quiet rfl (List.append_nil _).symm trivial
  next => cases stepped

theorem advances_execution (punctual : w.Punctual) {thread : Fin n}
    {startedAt completedAt : Nanoseconds}
    (stepped : w.executionStep thread startedAt completedAt = .ok w') :
    Advances (.execution thread startedAt completedAt) w w' := by
  have frame : w'.sent = w.sent ∧ w'.received = w.received ∧ w'.network = w.network := by
    unfold executionStep at stepped
    split at stepped
    next =>
      split_ifs at stepped
      · split at stepped <;> cases stepped <;> exact ⟨rfl, rfl, rfl⟩
      · cases stepped
        exact ⟨rfl, rfl, rfl⟩
    next =>
      split_ifs at stepped <;> cases stepped <;> exact ⟨rfl, rfl, rfl⟩
    next =>
      split_ifs at stepped <;> cases stepped <;> exact ⟨rfl, rfl, rfl⟩
    next => cases stepped
  obtain ⟨sent, received, network⟩ := frame
  exact punctual.stay sent (received.trans (List.append_nil _).symm) network

theorem prompt_afterSend (k totalProcessed localProcessed : Nat) :
    (afterSend k totalProcessed localProcessed : NetworkPhase n).Prompt := by
  unfold afterSend
  split_ifs <;> trivial

theorem advances_send (punctual : w.Punctual) {delivered : Bool} (succeeds : delivered = true)
    (stepped : w.send delivered = .ok w') : Advances (.send delivered) w w' := by
  unfold send at stepped
  split at stepped
  next =>
    rw [if_pos succeeds] at stepped
    cases stepped
    exact punctual.goOn rfl rfl (List.append_nil _).symm (prompt_afterSend ..)
  next => cases stepped

variable [NeZero n]

theorem punctual_init (now : Nanoseconds) : (init now : Worker n).Punctual :=
  .inl ⟨⟨0, rfl⟩, rfl⟩

/-- A push that finds room succeeds at the first attempt. -/
theorem advances_push (punctual : w.Punctual)
    (room : ∀ task idx retry, w.network = .pushing task idx retry →
      (w.taskQueues idx).length < Config.workerQueueCapacity)
    (stepped : w.push = .ok w') : Advances .push w w' := by
  unfold push at stepped
  split at stepped
  next task idx retry phase =>
    rw [if_pos (room task idx retry phase)] at stepped
    cases stepped
    exact punctual.quiet rfl (List.append_nil _).symm trivial
  next => cases stepped

theorem advances_drain (punctual : w.Punctual) (stepped : w.drain = .ok w') :
    Advances .drain w w' := by
  unfold drain at stepped
  split at stepped
  next =>
    split_ifs at stepped <;> cases stepped <;>
      exact punctual.quiet rfl (List.append_nil _).symm trivial
  next =>
    split at stepped <;> cases stepped <;>
      exact punctual.quiet rfl (List.append_nil _).symm trivial
  next => cases stepped

theorem push_of_room {task : AssignMsg} {idx : Fin n} {retry : Nat}
    (pushing : w.network = .pushing task idx retry)
    (room : (w.taskQueues idx).length < Config.workerQueueCapacity) :
    w.step .push = .ok { w with
      taskQueues := Function.update w.taskQueues idx (w.taskQueues idx ++ [task])
      nextWorker := w.nextWorker + 1
      network := .draining 0 0 } := by
  simp only [step, push, pushing, if_pos room]

theorem respond_of_room {thread : Fin n} {response : CompleteMsg}
    {startedAt completedAt : Nanoseconds} (responding : w.execution thread = .responding response)
    (room : (w.responseQueues thread).length < Config.workerQueueCapacity) :
    w.step (.execution thread startedAt completedAt) =
      .ok { w.setExecution thread .waiting with
        responseQueues :=
          Function.update w.responseQueues thread (w.responseQueues thread ++ [response]) } := by
  simp only [step, executionStep, responding, if_pos room]

/-- Every step over a connection that does not fail, when the push under way finds room. -/
theorem advances_of_step (punctual : w.Punctual) (running : w.running = true)
    (undisturbed : action.Undisturbed) (connected : action.Connected)
    (room : ∀ task idx retry, w.network = .pushing task idx retry →
      (w.taskQueues idx).length < Config.workerQueueCapacity)
    (stepped : w.step action = .ok w') : Advances action w w' := by
  cases action with
  | connect established => exact advances_connect punctual undisturbed stepped
  | acknowledge reply now =>
      cases reply with
      | none => cases undisturbed
      | some msg => exact advances_acknowledge punctual stepped
  | poll outcome => exact advances_poll punctual running undisturbed connected stepped
  | push => exact advances_push punctual room stepped
  | drain => exact advances_drain punctual stepped
  | send delivered => exact advances_send punctual undisturbed stepped
  | beat now later delivered => exact advances_beat punctual undisturbed stepped
  | execution thread startedAt completedAt => exact advances_execution punctual stepped
  | stop => cases undisturbed

end Worker

namespace WorkerLink

open Transition

variable {n : Nat}

section Steps

variable [NeZero n]

def init (now : Nanoseconds) : WorkerLink n where
  coordinator := .init
  worker := .init now
  read := 0
  registered := 0
  processed := 0

/-- The messages for the worker's connection, in order. -/
def inbox (fd : Fd) (l : WorkerLink n) : List Message :=
  l.coordinator.outgoingQueue.filterMap fun sent => if sent.fd = fd then some sent.msg else none

/-- The scheduler thread handles an event. -/
def handle (l : WorkerLink n) (event : Event) : Except LinkFault (WorkerLink n) :=
  match l.coordinator.step event with
  | .ok coordinator => .ok { l with coordinator }
  | .error fault => .error (.scheduler fault)

/-- The worker takes a step. -/
def advance (l : WorkerLink n) (action : WorkerAction n) : Except LinkFault (WorkerLink n) :=
  match l.worker.step action with
  | .ok worker => .ok { l with worker }
  | .error _ => .error .disabled

def step (fd : Fd) (l : WorkerLink n) : LinkAction n → Except LinkFault (WorkerLink n)
  | .schedule (.register ..) | .schedule (.complete ..) => .error .disabled
  | .schedule event => l.handle event
  | .register env =>
      if l.registered < l.worker.registrations then
        { l with registered := l.registered + 1 }.handle (.register fd env)
      else
        .error .disabled
  | .complete env =>
      match l.worker.completions[l.processed]? with
      | some msg => { l with processed := l.processed + 1 }.handle (.complete fd msg env)
      | none => .error .disabled
  | .act (.poll (.message _)) | .act (.acknowledge (some _) _) => .error .disabled
  | .act action => l.advance action
  | .acknowledge now =>
      match (l.inbox fd)[l.read]? with
      | some msg => { l with read := l.read + 1 }.advance (.acknowledge (some msg) now)
      | none => .error .disabled
  | .deliver =>
      match (l.inbox fd)[l.read]? with
      | some msg => { l with read := l.read + 1 }.advance (.poll (.message msg))
      | none => .error .disabled

end Steps

/-- The worker is not declared dead, which would make its id available. -/
def Lives (l : WorkerLink n) : Prop :=
  l.coordinator.availableIds = []

instance (l : WorkerLink n) : Decidable l.Lives :=
  inferInstanceAs (Decidable (l.coordinator.availableIds = []))

/-- The worker is not declared dead in this step. -/
def StaysAlive [NeZero n] (fd : Fd) (l : WorkerLink n) (action : LinkAction n) : Prop :=
  ∀ next, l.step fd action = .ok next → next.Lives

instance [NeZero n] (fd : Fd) (l : WorkerLink n) (action : LinkAction n) :
    Decidable (l.StaysAlive fd action) :=
  inferInstanceAs (Decidable (∀ next, l.step fd action = .ok next → next.Lives))

/-! ## What is under way -/

/-- The `ASSIGN`s that the worker has not read. -/
def assignsInTransit (fd : Fd) (l : WorkerLink n) : List AssignMsg :=
  ((l.inbox fd).drop l.read).filterMap Message.assign?

/-- The `COMPLETE`s that the coordinator has not processed. -/
def completesInTransit (l : WorkerLink n) : List CompleteMsg :=
  l.worker.completions.drop l.processed

/-- How many tasks are in the worker: in its task queues, in the hands of its threads and in
its response queues. -/
def inside (l : WorkerLink n) : Nat :=
  Places.total List.length l.worker.taskQueues +
    (l.worker.network.tasks.length + l.worker.network.responses.length) +
      Places.total (fun phase => phase.tasks.length + phase.responses.length)
        l.worker.execution +
          Places.total List.length l.worker.responseQueues

/-- How many tasks are in the worker, on the way to it or on the way back. -/
def load (fd : Fd) (l : WorkerLink n) : Nat :=
  (l.assignsInTransit fd).length + l.inside + l.completesInTransit.length

/-! ## The invariant -/

variable {fd : Fd} {l l' : WorkerLink n} {action : LinkAction n} {submitted : List TaskId}

/-- What the coordinator and the worker know of each other. -/
structure Linked (fd : Fd) (submitted : List TaskId) (l : WorkerLink n) : Prop where
  lives : l.Lives
  charged : l.coordinator.Charged fd submitted l.processed
  running : l.worker.running = true
  conserved : l.worker.Conserved (fun _ => ()) (fun _ => ())
  received : l.worker.received.Sublist ((l.inbox fd).take l.read)
  counted : l.processed ≤ l.worker.completions.length
  unregistered : l.registered = 0 → l.coordinator.workersStates = []
  punctual : l.worker.Punctual

/-- The `ASSIGN`s for the worker's connection are all that the coordinator has pushed. -/
theorem assigns_inbox (addressed : ∀ order ∈ l.coordinator.orders, order.1 = fd) :
    (l.inbox fd).filterMap Message.assign? = l.coordinator.orders.map Prod.snd := by
  unfold inbox Coordinator.orders
  rw [List.filterMap_filterMap, List.map_filterMap]
  apply List.filterMap_congr
  intro sent member
  unfold OutgoingEvent.order?
  cases assigned : sent.msg.assign? with
  | none =>
      split_ifs
      · simpa using assigned
      · rfl
  | some task =>
      have isOrder : (sent.fd, task) ∈ l.coordinator.orders :=
        List.mem_filterMap.mpr ⟨sent, member, by simp [OutgoingEvent.order?, assigned]⟩
      rw [if_pos (addressed _ isOrder)]
      simpa using assigned

/-- The tasks that the worker has received, with those it has still to read, are among the
tasks pushed. -/
theorem Linked.assignments_sublist (linked : Linked fd submitted l) :
    (l.worker.assignments ++ l.assignsInTransit fd).Sublist
      (l.coordinator.orders.map Prod.snd) := by
  rw [← assigns_inbox linked.charged.addressed]
  conv_rhs => rw [← List.take_append_drop l.read (l.inbox fd), List.filterMap_append]
  exact (linked.received.filterMap Message.assign?).append (List.Sublist.refl _)

/-- The tasks received are in the worker or have been answered. -/
theorem Linked.assignments_length (linked : Linked fd submitted l) :
    l.worker.assignments.length = l.inside + l.worker.completions.length := by
  have counts := congrArg Multiset.card linked.conserved
  simpa [Worker.queued, Worker.inNetwork, Worker.inExecution, Worker.inHands, Worker.answered,
    Worker.delivered, Places.card_total, inside] using counts

/-- The load of the worker is on its running set. -/
theorem Linked.load_le (linked : Linked fd submitted l) :
    l.load fd ≤ l.coordinator.runningIds.length := by
  have received := linked.assignments_sublist.length_le
  have charge := linked.charged.charge
  have conserved := linked.assignments_length
  have counted := linked.counted
  rw [List.length_append, List.length_map] at received
  unfold load completesInTransit
  rw [List.length_drop]
  omega

theorem Linked.load_le_depth (linked : Linked fd submitted l) :
    l.load fd ≤ Config.workerMaxQueueDepth :=
  linked.load_le.trans linked.charged.depth

/-- The queue into which the network thread pushes has room. -/
theorem Linked.room_for_task (linked : Linked fd submitted l) {task : AssignMsg} {idx : Fin n}
    {retry : Nat} (pushing : l.worker.network = .pushing task idx retry) :
    (l.worker.taskQueues idx).length < Config.workerQueueCapacity := by
  have queued := Places.weigh_le_total List.length l.worker.taskQueues idx
  have hands : l.worker.network.tasks.length = 1 := by rw [pushing, NetworkPhase.tasks]; rfl
  have load := linked.load_le_depth
  change l.load fd ≤ Config.workerQueueCapacity at load
  unfold WorkerLink.load inside at load
  omega

/-- So has the queue into which an execution thread pushes. -/
theorem Linked.room_for_response (linked : Linked fd submitted l) {response : CompleteMsg}
    {thread : Fin n} (responding : l.worker.execution thread = .responding response) :
    (l.worker.responseQueues thread).length < Config.workerQueueCapacity := by
  have answered := Places.weigh_le_total List.length l.worker.responseQueues thread
  have hands := Places.weigh_le_total
    (fun phase : ExecutionPhase => phase.tasks.length + phase.responses.length)
    l.worker.execution thread
  have one : (l.worker.execution thread).responses.length = 1 := by
    rw [responding, ExecutionPhase.responses]
    rfl
  have load := linked.load_le_depth
  change l.load fd ≤ Config.workerQueueCapacity at load
  unfold WorkerLink.load inside at load
  omega

/-! ## Steps of the coordinator -/

/-- The coordinator handles an event. -/
theorem Linked.handle (linked : Linked fd submitted l) {event : Event} {next : Coordinator}
    {registered : Nat} (admitted : l.coordinator.SingleWorker fd submitted event)
    (stepped : l.coordinator.step event = .ok next) (lives : next.availableIds = [])
    (unregistered : registered = 0 → next.workersStates = [])
    (counted : l.processed + event.completeCount ≤ l.worker.completions.length) :
    Linked fd (submitted ++ event.submits?.toList)
      { l with coordinator := next, registered, processed := l.processed + event.completeCount }
      where
  lives := lives
  charged := linked.charged.step linked.lives admitted stepped lives
  running := linked.running
  conserved := linked.conserved
  received := by
    have grown := (Coordinator.outgoing_of_step stepped).filterMap
      fun sent => if sent.fd = fd then some sent.msg else none
    exact linked.received.trans (grown.take l.read).sublist
  counted := counted
  unregistered := unregistered
  punctual := linked.punctual

/-- Only a `REGISTER` brings a worker. -/
theorem Linked.still_unregistered (linked : Linked fd submitted l) {event : Event}
    {next : Coordinator} (other : ∀ origin env, event ≠ .register origin env)
    (stepped : l.coordinator.step event = .ok next) (none : l.registered = 0) :
    next.workersStates = [] := by
  apply List.length_eq_zero_iff.mp
  rw [Coordinator.length_of_step other stepped, linked.unregistered none, List.length_nil]

/-- The coordinator handles something that does not come from the worker. -/
theorem Linked.schedule (linked : Linked fd submitted l) {event : Event} {next : Coordinator}
    (fresh : ∀ id ∈ event.submits?, id ∉ submitted)
    (notRegister : ∀ origin env, event ≠ .register origin env)
    (silent : event.completes? = none) (stepped : l.coordinator.step event = .ok next)
    (lives : next.availableIds = []) :
    Linked fd (submitted ++ event.submits?.toList) { l with coordinator := next } := by
  have none : event.completeCount = 0 := by rw [Event.completeCount, silent]; rfl
  have admitted : l.coordinator.SingleWorker fd submitted event := by
    cases event with
    | submit origin msg env => exact fresh msg.taskId rfl
    | register origin env => exact absurd rfl (notRegister origin env)
    | _ => trivial
  have handled := linked.handle admitted stepped lives
    (linked.still_unregistered notRegister stepped)
    (none ▸ linked.counted)
  rwa [none] at handled

/-- It processes the registration. -/
theorem Linked.register (linked : Linked fd submitted l) {env : Env} {next : Coordinator}
    (sent : l.registered < l.worker.registrations)
    (stepped : l.coordinator.step (.register fd env) = .ok next)
    (lives : next.availableIds = []) :
    Linked fd submitted { l with coordinator := next, registered := l.registered + 1 } := by
  have none : l.registered = 0 := Nat.lt_one_iff.mp (sent.trans_le linked.punctual.once)
  have admitted : l.coordinator.SingleWorker fd submitted (.register fd env) :=
    ⟨rfl, linked.unregistered none⟩
  have handled : Linked fd (submitted ++ [])
      { l with coordinator := next, registered := l.registered + 1 } :=
    linked.handle admitted stepped lives nofun linked.counted
  rwa [List.append_nil] at handled

/-- It processes a `COMPLETE`. -/
theorem Linked.complete (linked : Linked fd submitted l) {env : Env} {msg : CompleteMsg}
    {next : Coordinator} (sent : l.worker.completions[l.processed]? = some msg)
    (stepped : l.coordinator.step (.complete fd msg env) = .ok next)
    (lives : next.availableIds = []) :
    Linked fd submitted { l with coordinator := next, processed := l.processed + 1 } := by
  have inBounds : l.processed < l.worker.completions.length :=
    (List.getElem?_eq_some_iff.mp sent).1
  have other : ∀ origin env', Event.complete fd msg env ≠ .register origin env' := by
    intro origin env' same
    cases same
  have admitted : l.coordinator.SingleWorker fd submitted (.complete fd msg env) := trivial
  have handled : Linked fd (submitted ++ [])
      { l with coordinator := next, processed := l.processed + 1 } :=
    linked.handle admitted stepped lives (linked.still_unregistered other stepped) inBounds
  rwa [List.append_nil] at handled

theorem handle_eq_ok {event : Event} :
    l.handle event = .ok l' ↔
      ∃ next, l.coordinator.step event = .ok next ∧ l' = { l with coordinator := next } := by
  unfold WorkerLink.handle
  cases l.coordinator.step event <;> simp [eq_comm]

/-- Most steps submit nothing. -/
theorem Linked.silent (linked : Linked fd submitted l') (none : action.submits? = none) :
    Linked fd (submitted ++ action.submits?.toList) l' := by
  rwa [none, Option.toList_none, List.append_nil]

/-! ## Steps of the worker -/

section Steps

variable [NeZero n]

/-- The worker takes a step. -/
theorem Linked.advance (linked : Linked fd submitted l) {action : WorkerAction n}
    {next : Worker n} {read : Nat} (undisturbed : action.Undisturbed)
    (connected : action.Connected) (stepped : l.worker.step action = .ok next)
    (onward : l.read ≤ read)
    (brought : ∀ msg ∈ action.brings?, read = l.read + 1 ∧ (l.inbox fd)[l.read]? = some msg) :
    Linked fd submitted { l with worker := next, read } := by
  have move := Worker.move_of_step linked.running undisturbed stepped
  have advances := Worker.advances_of_step linked.punctual linked.running undisturbed connected
    (fun _ _ _ pushing => linked.room_for_task pushing) stepped
  obtain ⟨more, completions⟩ : l.worker.completions <+: next.completions :=
    advances.sent.filterMap Message.complete?
  exact
    { linked with
      running := move.running.trans linked.running
      conserved := linked.conserved.move (fun _ _ _ _ _ => rfl) move
      received := by
        rw [advances.received]
        cases brings : action.brings? with
        | none =>
            rw [Option.toList_none, List.append_nil]
            exact linked.received.trans (List.take_prefix_take_left onward).sublist
        | some msg =>
            obtain ⟨rfl, next⟩ := brought msg brings
            rw [List.take_add_one]
            change List.Sublist _ ((l.inbox fd).take l.read ++ (l.inbox fd)[l.read]?.toList)
            rw [next]
            exact linked.received.append (List.Sublist.refl _)
      counted := by
        rw [← completions, List.length_append]
        exact Nat.le_add_right_of_le linked.counted
      punctual := advances.punctual }

/-- The worker reads the acknowledgement. -/
theorem Linked.acknowledge (linked : Linked fd submitted l) {msg : Message} {now : Nanoseconds}
    {next : Worker n} (stepped : l.worker.step (.acknowledge (some msg) now) = .ok next) :
    Linked fd submitted { l with worker := next, read := l.read + 1 } := by
  have undisturbed : (WorkerAction.acknowledge (n := n) (some msg) now).Undisturbed := rfl
  exact linked.advance undisturbed trivial stepped (Nat.le_succ _) nofun

/-- It reads another message. -/
theorem Linked.deliver (linked : Linked fd submitted l) {msg : Message} {next : Worker n}
    (sent : (l.inbox fd)[l.read]? = some msg)
    (stepped : l.worker.step (.poll (.message msg)) = .ok next) :
    Linked fd submitted { l with worker := next, read := l.read + 1 } := by
  have undisturbed : (WorkerAction.poll (n := n) (.message msg)).Undisturbed := trivial
  refine linked.advance undisturbed trivial stepped (Nat.le_succ _) ?_
  intro read isRead
  cases isRead
  exact ⟨rfl, sent⟩

/-- It takes a step that reads no message. -/
theorem Linked.act (linked : Linked fd submitted l) {action : WorkerAction n} {next : Worker n}
    (reliable : (LinkAction.act action).Reliable) (reads : action.brings? = none)
    (stepped : l.worker.step action = .ok next) :
    Linked fd submitted { l with worker := next } := by
  refine linked.advance reliable.1 reliable.2 stepped le_rfl ?_
  intro msg isRead
  rw [reads] at isRead
  cases isRead

theorem advance_eq_ok {action : WorkerAction n} :
    l.advance action = .ok l' ↔
      ∃ next, l.worker.step action = .ok next ∧ l' = { l with worker := next } := by
  unfold WorkerLink.advance
  cases l.worker.step action <;> simp [eq_comm]

/-! ## Every run -/

theorem linked_init (now : Nanoseconds) : Linked fd [] (init now : WorkerLink n) where
  lives := rfl
  charged := Coordinator.charged_init fd
  running := rfl
  conserved := Worker.conserved_init now
  received := List.Sublist.refl []
  counted := Nat.le_refl 0
  unregistered := fun _ => rfl
  punctual := Worker.punctual_init now

/-- One step, with a new id if it is a `SUBMIT`, after which the worker has not been declared
dead. -/
theorem Linked.step (linked : Linked fd submitted l) (reliable : action.Reliable)
    (fresh : ∀ id ∈ action.submits?, id ∉ submitted) (stepped : l.step fd action = .ok l')
    (lives : l'.Lives) : Linked fd (submitted ++ action.submits?.toList) l' := by
  unfold WorkerLink.step at stepped
  split at stepped
  next => cases stepped
  next => cases stepped
  next event notRegister notComplete =>
    obtain ⟨next, ran, rfl⟩ := handle_eq_ok.mp stepped
    have silent : event.completes? = none := by
      cases event with
      | complete origin msg env => exact absurd rfl (notComplete origin msg env)
      | _ => rfl
    exact linked.schedule fresh notRegister silent ran lives
  next env =>
    split_ifs at stepped with sent
    obtain ⟨next, ran, rfl⟩ := handle_eq_ok.mp stepped
    exact (linked.register sent ran lives).silent rfl
  next env =>
    split at stepped
    next msg sent =>
      obtain ⟨next, ran, rfl⟩ := handle_eq_ok.mp stepped
      exact (linked.complete sent ran lives).silent rfl
    next => cases stepped
  next => cases stepped
  next => cases stepped
  next action notMessage notReply =>
    obtain ⟨next, ran, rfl⟩ := advance_eq_ok.mp stepped
    have reads : action.brings? = none := by
      unfold WorkerAction.brings?
      split
      next msg => exact absurd rfl (notMessage msg)
      next => rfl
    exact (linked.act reliable reads ran).silent rfl
  next now =>
    split at stepped
    next msg sent =>
      obtain ⟨next, ran, rfl⟩ := advance_eq_ok.mp stepped
      exact (linked.acknowledge ran).silent rfl
    next => cases stepped
  next =>
    split at stepped
    next msg sent =>
      obtain ⟨next, ran, rfl⟩ := advance_eq_ok.mp stepped
      exact (linked.deliver sent ran).silent rfl
    next => cases stepped

/-- Over a connection that does not fail, with no id submitted twice and a worker that is not
declared dead, at most `WORKER_MAX_QUEUE_DEPTH` tasks are in the worker, on the way to it or
on the way back.  So every push of the network thread to a task queue and every push of an
execution thread to its response queue succeeds at the first attempt. -/
theorem worker_queues_never_full {now : Nanoseconds} {actions : List (LinkAction n)}
    (reliable : ∀ action ∈ actions, action.Reliable)
    (fresh : (actions.filterMap LinkAction.submits?).Nodup)
    (alive : Along (WorkerLink.step fd) (StaysAlive fd) (init now) actions)
    (ran : Transition.run (WorkerLink.step fd) (init now) actions = .ok l) :
    l.load fd ≤ Config.workerMaxQueueDepth ∧
    (∀ task idx retry, l.worker.network = .pushing task idx retry →
      retry = 0 ∧ ∃ next, l.worker.step .push = .ok next ∧
        next.taskQueues idx = l.worker.taskQueues idx ++ [task]) ∧
    ∀ thread response startedAt completedAt, l.worker.execution thread = .responding response →
      ∃ next, l.worker.step (.execution thread startedAt completedAt) = .ok next ∧
        next.responseQueues thread = l.worker.responseQueues thread ++ [response] := by
  -- The invariant speaks of the ids submitted so far, of which none may be repeated.
  have kept : ∀ before (l : WorkerLink n) action next,
      ((before.filterMap LinkAction.submits?).Nodup →
        Linked fd (before.filterMap LinkAction.submits?) l) →
      (action.Reliable ∧ l.StaysAlive fd action) → l.step fd action = .ok next →
      ((before ++ [action]).filterMap LinkAction.submits?).Nodup →
        Linked fd ((before ++ [action]).filterMap LinkAction.submits?) next := by
    intro before l action next linked guard stepped nodup
    have split : (before ++ [action]).filterMap LinkAction.submits? =
        before.filterMap LinkAction.submits? ++ action.submits?.toList := by
      cases submits : action.submits? <;> simp [submits]
    rw [split] at nodup ⊢
    obtain ⟨nodupBefore, _, apart⟩ := List.nodup_append.mp nodup
    refine (linked nodupBefore).step guard.1 ?_ stepped (guard.2 next stepped)
    intro id submits member
    exact apart id member id (Option.mem_toList.mpr submits) rfl
  have linked : Linked fd (actions.filterMap LinkAction.submits?) l :=
    history_run kept (fun _ => linked_init now) ((along_of_forall reliable).and alive) ran fresh
  refine ⟨linked.load_le_depth, ?_, ?_⟩
  · intro task idx retry pushing
    have room := linked.room_for_task pushing
    exact ⟨linked.punctual.unrefused pushing, _, Worker.push_of_room pushing room,
      Function.update_self ..⟩
  · intro thread response startedAt completedAt responding
    have room := linked.room_for_response responding
    exact ⟨_, Worker.respond_of_room responding room, Function.update_self ..⟩

/-- A task is completed while the next one is in the hands of the network thread. -/
theorem two_tasks_find_room :
    let submit (id : TaskId) : LinkAction 2 := .schedule (.submit 9 { taskId := id } {})
    let actions : List (LinkAction 2) :=
      [.act (.connect true), .register {}, .acknowledge 0, submit 1, .deliver, .act .push,
        .act (.execution 0 1 2), .act (.execution 0 1 2), .act (.execution 0 1 2), .act .drain,
        .act .drain, .act (.send true), .complete {}, .act .drain, .act .drain, .act .drain,
        .act .drain, .act (.beat 0 0 true), submit 2, .deliver]
    ∃ l, Transition.run (WorkerLink.step 5) (init 0) actions = .ok l ∧ l.processed = 1 ∧
      l.worker.network.tasks = [{ taskId := 2 }] ∧ l.load 5 ≤ 64 := by
  intro submit actions
  have ran : ∃ l, Transition.run (WorkerLink.step 5) (init 0) actions = .ok l ∧
      l.processed = 1 ∧ l.worker.network.tasks = [{ taskId := 2 }] := by
    decide +kernel
  obtain ⟨l, ran, processed, inHand⟩ := ran
  have reliable : ∀ action ∈ actions, action.Reliable := by decide +kernel
  have fresh : (actions.filterMap LinkAction.submits?).Nodup := by decide +kernel
  have alive : Along (WorkerLink.step 5) (StaysAlive 5) (init 0) actions := by decide +kernel
  have bounded := (worker_queues_never_full reliable fresh alive ran).1
  exact ⟨l, ran, processed, inHand, bounded⟩

end Steps

end WorkerLink

end TaskCoordinator
