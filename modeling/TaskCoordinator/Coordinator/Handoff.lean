import TaskCoordinator.Coordinator.State
import TaskCoordinator.Library.Transition

/-!
# From the network thread to the scheduler

`network_worker` receives messages and hands them to the scheduler thread through two
bounded queues.  A message that finds its queue full goes to a backlog of the network
thread, and every round of the thread begins with an attempt to flush the backlog.

A message that arrives while others wait in the backlog is pushed directly, without a look
at the backlog.  When the scheduler has made room in the meantime, it overtakes those that
wait.

The two queues are first-in first-out.  A push is refused exactly when its queue is full,
and is tried again up to `QUEUE_RETRY_COUNT` times; the scheduler may pop in between.
-/

namespace TaskCoordinator

namespace Config

def queueRetryCount : Nat := 10
def coordinatorTaskQueueCapacity : Nat := 16384
def coordinatorControlQueueCapacity : Nat := 64

/-- The local constant `backlog_budget` of `network_worker`. -/
def backlogBudget : Nat := 64

end Config

/-- A message with the descriptor it came in on.  Descriptor numbers are reused;
`connection` tells the connections apart and is not part of the source. -/
structure IncomingEvent where
  fd : Fd := -1
  msg : Message
  connection : Option Nat := none

namespace IncomingEvent

/-- `communicate_incoming_event` puts such an event into the control queue. -/
def isControl (event : IncomingEvent) : Bool :=
  match event.msg.body with
  | .heartbeat _ | .register => true
  | _ => false

/-- A message of the connection that belongs in the task queue. -/
def isTaskOf (connection : Nat) (event : IncomingEvent) : Bool :=
  event.connection = some connection ∧ event.isControl = false

theorem isTaskOf_iff {connection : Nat} {event : IncomingEvent} :
    event.isTaskOf connection = true ↔
      event.connection = some connection ∧ event.isControl = false := by
  simp [isTaskOf]

end IncomingEvent

/-- Where the network thread is.  `retry` counts the refused attempts of the push under
way. -/
inductive NetworkThread where
  | flushing (budget : Nat)
  | flushingFront (budget retry : Nat)
  | polling
  | handing (event : IncomingEvent) (retry : Nat)
  | sending
  | reporting (retry : Nat)

/-- The queues between the threads, the backlog of the network thread, and the history:
what has been received on the connections and what has been popped from the task queue. -/
structure Handoff where
  taskQueue : List IncomingEvent
  controlQueue : List IncomingEvent
  backlog : List IncomingEvent
  network : NetworkThread
  received : List IncomingEvent
  popped : List IncomingEvent

/-- The next step of one of the threads. -/
inductive HandoffAction where
  /-- The network thread goes on with the flush or with the push under way. -/
  | advance
  /-- It receives a message. -/
  | receive (connection : Nat) (fd : Fd) (msg : Message)
  /-- It has been through all descriptors that `poll` reported. -/
  | polled
  /-- It reconnects to the peer while it sends, which the scheduler is told. -/
  | reconnected
  /-- It has sent its share of outgoing messages. -/
  | sent
  /-- The scheduler pops from the task queue. -/
  | popTask
  /-- The scheduler pops from the control queue. -/
  | popControl

/-- A step that the thread cannot take where it is. -/
inductive Disabled where
  | disabled

namespace Handoff

def init : Handoff where
  taskQueue := []
  controlQueue := []
  backlog := []
  network := .flushing Config.backlogBudget
  received := []
  popped := []

/-- One attempt of `communicate_incoming_event`. -/
def tryPush (s : Handoff) (event : IncomingEvent) : Option Handoff :=
  if event.isControl then
    if s.controlQueue.length < Config.coordinatorControlQueueCapacity then
      some { s with controlQueue := s.controlQueue ++ [event] }
    else
      none
  else if s.taskQueue.length < Config.coordinatorTaskQueueCapacity then
    some { s with taskQueue := s.taskQueue ++ [event] }
  else
    none

/-- The event that `reconnect_to_peer` pushes. -/
def peerReconnected : IncomingEvent :=
  { msg := { body := .peerReconnected } }

/-- The steps of the network thread that need nothing from outside. -/
def advance (s : Handoff) : Except Disabled Handoff :=
  match s.network with
  | .flushing budget =>
      if s.backlog.isEmpty || budget = 0 then
        .ok { s with network := .polling }
      else
        .ok { s with network := .flushingFront (budget - 1) 0 }
  | .flushingFront budget retry =>
      match s.backlog with
      | [] => .error .disabled
      | front :: rest =>
          match s.tryPush front with
          | some pushed => .ok { pushed with backlog := rest, network := .flushing budget }
          | none =>
              if retry + 1 > Config.queueRetryCount then
                .ok { s with network := .polling }
              else
                .ok { s with network := .flushingFront budget (retry + 1) }
  | .handing event retry =>
      match s.tryPush event with
      | some pushed => .ok { pushed with network := .polling }
      | none =>
          if retry + 1 > Config.queueRetryCount then
            .ok { s with backlog := s.backlog ++ [event], network := .polling }
          else
            .ok { s with network := .handing event (retry + 1) }
  | .reporting retry =>
      match s.tryPush peerReconnected with
      | some pushed => .ok { pushed with network := .sending }
      | none =>
          if retry + 1 > Config.queueRetryCount then
            .ok { s with network := .sending }
          else
            .ok { s with network := .reporting (retry + 1) }
  | .polling | .sending => .error .disabled

def step (s : Handoff) : HandoffAction → Except Disabled Handoff
  | .advance => s.advance
  | .receive connection fd msg =>
      match s.network with
      | .polling =>
          let event : IncomingEvent := { fd, msg, connection := some connection }
          .ok { s with received := s.received ++ [event], network := .handing event 0 }
      | _ => .error .disabled
  | .polled =>
      match s.network with
      | .polling => .ok { s with network := .sending }
      | _ => .error .disabled
  | .reconnected =>
      match s.network with
      | .sending => .ok { s with network := .reporting 0 }
      | _ => .error .disabled
  | .sent =>
      match s.network with
      | .sending => .ok { s with network := .flushing Config.backlogBudget }
      | _ => .error .disabled
  | .popTask =>
      match s.taskQueue with
      | [] => .error .disabled
      | event :: rest => .ok { s with taskQueue := rest, popped := s.popped ++ [event] }
  | .popControl =>
      match s.controlQueue with
      | [] => .error .disabled
      | _ :: rest => .ok { s with controlQueue := rest }

/-! ## Order -/

/-- Of each connection, the messages popped from the task queue are the first of those
received. -/
def InOrder (s : Handoff) : Prop :=
  ∀ connection, s.popped.filter (IncomingEvent.isTaskOf connection) <+:
    s.received.filter (IncomingEvent.isTaskOf connection)

/-- The message that the network thread has in hand. -/
def inHand (s : Handoff) : List IncomingEvent :=
  match s.network with
  | .handing event _ => [event]
  | _ => []

/-- When a message that has just been received is pushed to the task queue, no message of
the same connection waits in the backlog for the same queue. -/
def OvertakesNone (s : Handoff) : HandoffAction → Prop
  | .advance => ∀ event ∈ s.inHand, event.isControl = false →
      s.taskQueue.length < Config.coordinatorTaskQueueCapacity →
        ∀ waiting ∈ s.backlog, waiting.isControl = false →
          waiting.connection ≠ event.connection
  | _ => True

instance (s : Handoff) : (action : HandoffAction) → Decidable (s.OvertakesNone action)
  | .advance => inferInstanceAs (Decidable (∀ event ∈ s.inHand, event.isControl = false →
      s.taskQueue.length < Config.coordinatorTaskQueueCapacity →
        ∀ waiting ∈ s.backlog, waiting.isControl = false →
          waiting.connection ≠ event.connection))
  | .receive .. | .polled | .reconnected | .sent | .popTask | .popControl => isTrue trivial

open Transition

variable {s s' : Handoff} {connection : Nat}

/-- What has been received on each connection has been popped, is in the queue, waits in the
backlog or is in hand, in this order. -/
def Conserved (s : Handoff) : Prop :=
  ∀ connection, s.received.filter (IncomingEvent.isTaskOf connection) =
    (s.popped ++ s.taskQueue ++ s.backlog ++ s.inHand).filter
      (IncomingEvent.isTaskOf connection)

theorem Conserved.inOrder (conserved : s.Conserved) : s.InOrder := by
  intro connection
  rw [conserved connection]
  simp only [List.filter_append, List.append_assoc]
  exact List.prefix_append _ _

/-- A push that finds room adds the event to its queue and leaves everything else. -/
theorem tryPush_spec {event : IncomingEvent} (pushed : s.tryPush event = some s') :
    s' = { s with taskQueue := s'.taskQueue, controlQueue := s'.controlQueue } ∧
    (event.isControl = false → s.taskQueue.length < Config.coordinatorTaskQueueCapacity) ∧
    ∀ connection, s'.taskQueue.filter (IncomingEvent.isTaskOf connection) =
      s.taskQueue.filter (IncomingEvent.isTaskOf connection) ++
        [event].filter (IncomingEvent.isTaskOf connection) := by
  unfold tryPush at pushed
  split at pushed
  next control =>
    split at pushed
    next =>
      cases pushed
      refine ⟨rfl, fun notControl => ?_, fun connection => ?_⟩
      · rw [control] at notControl
        cases notControl
      · simp [IncomingEvent.isTaskOf, control]
    next => cases pushed
  next =>
    split at pushed
    next room =>
      cases pushed
      exact ⟨rfl, fun _ => room, fun connection => List.filter_append _ _⟩
    next => cases pushed

theorem tryPush_keeps {event : IncomingEvent} (pushed : s.tryPush event = some s') :
    s'.received = s.received ∧ s'.popped = s.popped ∧ s'.backlog = s.backlog := by
  obtain ⟨frame, _, _⟩ := tryPush_spec pushed
  rw [frame]
  exact ⟨rfl, rfl, rfl⟩

/-- Only the place of the network thread changes, with the same event in hand. -/
theorem Conserved.goOn {network : NetworkThread} (conserved : s.Conserved)
    (hand : { s with network }.inHand = s.inHand) : { s with network }.Conserved := by
  intro connection
  rw [hand]
  exact conserved connection

/-- The front of the backlog moves to its queue. -/
theorem Conserved.flushFront {front : IncomingEvent} {rest : List IncomingEvent} {budget : Nat}
    (conserved : s.Conserved) (nothing : s.inHand = []) (waits : s.backlog = front :: rest)
    (pushed : s.tryPush front = some s') :
    { s' with backlog := rest, network := .flushing budget }.Conserved := by
  obtain ⟨_, _, queued⟩ := tryPush_spec pushed
  obtain ⟨sameReceived, samePopped, _⟩ := tryPush_keeps pushed
  have inFront : s.backlog = [front] ++ rest := waits
  intro connection
  have before := conserved connection
  simp only [nothing, inFront, List.filter_append] at before
  simp only [inHand, sameReceived, samePopped, List.filter_append, queued, before,
    List.append_assoc]

/-- The event in hand moves to its queue, where it must not overtake. -/
theorem Conserved.handOver {event : IncomingEvent} (conserved : s.Conserved)
    (hand : s.inHand = [event]) (pushed : s.tryPush event = some s')
    (overtakesNone : event.isControl = false →
      s.taskQueue.length < Config.coordinatorTaskQueueCapacity →
        ∀ waiting ∈ s.backlog, waiting.isControl = false →
          waiting.connection ≠ event.connection) :
    { s' with network := .polling }.Conserved := by
  obtain ⟨_, room, queued⟩ := tryPush_spec pushed
  obtain ⟨sameReceived, samePopped, sameBacklog⟩ := tryPush_keeps pushed
  intro connection
  have before := conserved connection
  simp only [hand, List.filter_append] at before
  simp only [inHand, sameReceived, samePopped, sameBacklog, List.filter_append, queued, before,
    List.append_assoc, List.append_nil, List.append_cancel_left_eq]
  by_cases isTask : event.isTaskOf connection = true
  · obtain ⟨sameConnection, notControl⟩ := IncomingEvent.isTaskOf_iff.mp isTask
    have noneWaiting : s.backlog.filter (IncomingEvent.isTaskOf connection) = [] := by
      rw [List.filter_eq_nil_iff]
      intro waiting member alsoTask
      obtain ⟨itsConnection, itsKind⟩ := IncomingEvent.isTaskOf_iff.mp alsoTask
      have different := overtakesNone notControl (room notControl) waiting member itsKind
      exact different (itsConnection.trans sameConnection.symm)
    simp [noneWaiting]
  · simp [isTask]

/-- The event in hand goes to the end of the backlog. -/
theorem Conserved.putBack {event : IncomingEvent} (conserved : s.Conserved)
    (hand : s.inHand = [event]) :
    { s with backlog := s.backlog ++ [event], network := .polling }.Conserved := by
  intro connection
  have before := conserved connection
  simp only [hand] at before
  simpa only [inHand, List.append_assoc, List.append_nil] using before

/-- A report of the network thread belongs to no connection. -/
theorem Conserved.report (conserved : s.Conserved) (nothing : s.inHand = [])
    (pushed : s.tryPush peerReconnected = some s') :
    { s' with network := .sending }.Conserved := by
  obtain ⟨_, _, queued⟩ := tryPush_spec pushed
  obtain ⟨sameReceived, samePopped, sameBacklog⟩ := tryPush_keeps pushed
  intro connection
  have before := conserved connection
  have ofNone : [peerReconnected].filter (IncomingEvent.isTaskOf connection) = [] := by
    simp [peerReconnected, IncomingEvent.isTaskOf]
  simp only [nothing, List.filter_append] at before
  simp only [inHand, sameReceived, samePopped, sameBacklog, List.filter_append, queued, before,
    ofNone, List.append_nil, List.filter_nil]

/-- The network thread is about to report a reconnection. -/
def reporting (s : Handoff) : Bool :=
  match s.network with
  | .reporting _ => true
  | _ => false

/-- What the steps of the network thread by itself do: it pushes an event to its queue, puts it
into the backlog, or moves none. -/
inductive Advanced (s : Handoff) : Handoff → Prop where
  | goOn {network : NetworkThread} (hand : { s with network }.inHand = s.inHand)
      (calm : s.reporting = false → { s with network }.reporting = false) :
      Advanced s { s with network }
  | flushFront {front : IncomingEvent} {rest : List IncomingEvent} {budget : Nat}
      {pushed : Handoff} (nothing : s.inHand = []) (waits : s.backlog = front :: rest)
      (isPushed : s.tryPush front = some pushed) :
      Advanced s { pushed with backlog := rest, network := .flushing budget }
  | handOver {event : IncomingEvent} {pushed : Handoff} (hand : s.inHand = [event])
      (isPushed : s.tryPush event = some pushed) :
      Advanced s { pushed with network := .polling }
  | putBack {event : IncomingEvent} (hand : s.inHand = [event]) :
      Advanced s { s with backlog := s.backlog ++ [event], network := .polling }
  | report {pushed : Handoff} (nothing : s.inHand = []) (reports : s.reporting = true)
      (isPushed : s.tryPush peerReconnected = some pushed) :
      Advanced s { pushed with network := .sending }

theorem advanced_of_advance (stepped : s.advance = .ok s') : Advanced s s' := by
  unfold Handoff.advance at stepped
  cases place : s.network with
  | flushing budget =>
      simp only [place] at stepped
      split at stepped
      all_goals
        cases stepped
        exact .goOn (by simp [inHand, place]) (fun _ => rfl)
  | flushingFront budget retry =>
      have nothing : s.inHand = [] := by simp [inHand, place]
      simp only [place] at stepped
      split at stepped
      next => cases stepped
      next front rest waits =>
        split at stepped
        next pushed isPushed =>
          cases stepped
          exact .flushFront nothing waits isPushed
        next =>
          split at stepped
          all_goals
            cases stepped
            exact .goOn nothing.symm (fun _ => rfl)
  | handing event retry =>
      have hand : s.inHand = [event] := by simp [inHand, place]
      simp only [place] at stepped
      split at stepped
      next pushed isPushed =>
        cases stepped
        exact .handOver hand isPushed
      next =>
        split at stepped
        next =>
          cases stepped
          exact .putBack hand
        next =>
          cases stepped
          exact .goOn hand.symm (fun _ => rfl)
  | reporting retry =>
      have nothing : s.inHand = [] := by simp [inHand, place]
      have reports : s.reporting = true := by simp [reporting, place]
      simp only [place] at stepped
      split at stepped
      next pushed isPushed =>
        cases stepped
        exact .report nothing reports isPushed
      next =>
        split at stepped
        next =>
          cases stepped
          exact .goOn nothing.symm (fun _ => rfl)
        next =>
          cases stepped
          exact .goOn nothing.symm (fun calm => absurd (reports.symm.trans calm) (by decide))
  | polling => simp [place] at stepped
  | sending => simp [place] at stepped

theorem Conserved.advance (conserved : s.Conserved) (overtakesNone : s.OvertakesNone .advance)
    (stepped : s.advance = .ok s') : s'.Conserved := by
  cases advanced_of_advance stepped with
  | goOn hand => exact conserved.goOn hand
  | flushFront nothing waits isPushed => exact conserved.flushFront nothing waits isPushed
  | handOver hand isPushed =>
      exact conserved.handOver hand isPushed (overtakesNone _ (by simp [hand]))
  | putBack hand => exact conserved.putBack hand
  | report nothing _ isPushed => exact conserved.report nothing isPushed

theorem conserved_preserved : Preserves step OvertakesNone Conserved := by
  intro s action s' conserved overtakesNone stepped
  cases action with
  | advance => exact conserved.advance overtakesNone stepped
  | receive connection fd msg =>
      simp only [step] at stepped
      split at stepped
      next place =>
        cases stepped
        intro other
        have before := conserved other
        simp only [inHand, place, List.append_nil] at before
        simp only [inHand, List.filter_append, before]
      next => cases stepped
  | polled | reconnected | sent =>
      simp only [step] at stepped
      split at stepped
      next place =>
        cases stepped
        exact conserved.goOn (by simp [inHand, place])
      next => cases stepped
  | popTask =>
      simp only [step] at stepped
      split at stepped
      next => cases stepped
      next event rest front =>
        cases stepped
        have inFront : s.taskQueue = [event] ++ rest := front
        intro connection
        have before := conserved connection
        simp only [inFront, List.filter_append, List.append_assoc] at before
        simp only [List.filter_append, List.append_assoc]
        exact before
  | popControl =>
      simp only [step] at stepped
      split at stepped
      next => cases stepped
      next =>
        cases stepped
        exact conserved

theorem conserved_init : init.Conserved :=
  fun _ => rfl

/-- The messages of a connection that have been received and not been popped. -/
def waiting (s : Handoff) (connection : Nat) : List IncomingEvent :=
  (s.taskQueue ++ s.backlog ++ s.inHand).filter (IncomingEvent.isTaskOf connection)

theorem Conserved.waiting (conserved : s.Conserved) (connection : Nat) :
    s.received.filter (IncomingEvent.isTaskOf connection) =
      s.popped.filter (IncomingEvent.isTaskOf connection) ++ s.waiting connection := by
  rw [conserved connection, Handoff.waiting, ← List.filter_append]
  simp only [List.append_assoc]

/-- The network thread by itself changes nothing of what waits. -/
theorem waiting_advance (conserved : s.Conserved) (overtakesNone : s.OvertakesNone .advance)
    (stepped : s.advance = .ok s') : s'.waiting = s.waiting := by
  have kept : s'.received = s.received ∧ s'.popped = s.popped := by
    cases advanced_of_advance stepped with
    | goOn | putBack => exact ⟨rfl, rfl⟩
    | flushFront _ _ isPushed | handOver _ isPushed | report _ _ isPushed =>
        obtain ⟨received, popped, _⟩ := tryPush_keeps isPushed
        exact ⟨received, popped⟩
  funext connection
  have before := conserved.waiting connection
  have after := (conserved.advance overtakesNone stepped).waiting connection
  rw [kept.1, kept.2, before] at after
  exact (List.append_cancel_left after).symm

/-- A message that is received waits last. -/
theorem waiting_receive {fd : Fd} {msg : Message}
    (stepped : s.step (.receive connection fd msg) = .ok s') (other : Nat) :
    s'.waiting other = s.waiting other ++
      [({ fd, msg, connection := some connection } : IncomingEvent)].filter
        (IncomingEvent.isTaskOf other) := by
  simp only [step] at stepped
  split at stepped
  next place =>
    cases stepped
    simp [waiting, inHand, place]
  next => cases stepped

/-- The event that is popped has waited first. -/
theorem waiting_popTask {event : IncomingEvent} {rest : List IncomingEvent}
    (front : s.taskQueue = event :: rest) (other : Nat) :
    s.waiting other = [event].filter (IncomingEvent.isTaskOf other) ++
      waiting { s with taskQueue := rest, popped := s.popped ++ [event] } other := by
  have inFront : s.taskQueue = [event] ++ rest := front
  simp only [waiting, inFront, List.append_assoc, List.filter_append]
  rfl

/-- The events that the scheduler is still to handle are messages of connections that belong in
the task queue. -/
structure TasksOnly (s : Handoff) : Prop where
  queued : ∀ event ∈ s.taskQueue, ∃ connection, event.isTaskOf connection = true
  backlog : ∀ event ∈ s.backlog, ∃ connection, event.isTaskOf connection = true
  inHand : ∀ event ∈ s.inHand, ∃ connection, event.isTaskOf connection = true
  calm : s.reporting = false

theorem tryPush_taskQueue {event : IncomingEvent} (pushed : s.tryPush event = some s') :
    ∀ other ∈ s'.taskQueue, other ∈ s.taskQueue ∨ other = event := by
  unfold tryPush at pushed
  split at pushed
  next =>
    split at pushed
    next =>
      cases pushed
      exact fun _ member => .inl member
    next => cases pushed
  next =>
    split at pushed
    next =>
      cases pushed
      exact fun other member => by simpa using member
    next => cases pushed

theorem TasksOnly.advance (tasks : s.TasksOnly) (stepped : s.advance = .ok s') :
    s'.TasksOnly := by
  have queued {event : IncomingEvent} {pushed : Handoff} (isPushed : s.tryPush event = some pushed)
      (isTask : ∃ connection, event.isTaskOf connection = true) :
      ∀ other ∈ pushed.taskQueue, ∃ connection, other.isTaskOf connection = true := by
    intro other member
    obtain before | rfl := tryPush_taskQueue isPushed other member
    · exact tasks.queued other before
    · exact isTask
  cases advanced_of_advance stepped with
  | goOn hand calm => exact { tasks with inHand := hand ▸ tasks.inHand, calm := calm tasks.calm }
  | flushFront _ waits isPushed =>
      have backlog := tasks.backlog
      rw [waits, List.forall_mem_cons] at backlog
      have pushed := queued isPushed backlog.1
      exact ⟨pushed, backlog.2, List.forall_mem_nil _, rfl⟩
  | handOver hand isPushed =>
      have isTask := tasks.inHand _ (hand ▸ List.mem_singleton_self _)
      have pushed := queued isPushed isTask
      obtain ⟨_, _, backlog⟩ := tryPush_keeps isPushed
      exact ⟨pushed, backlog ▸ tasks.backlog, List.forall_mem_nil _, rfl⟩
  | putBack hand =>
      have isTask := tasks.inHand _ (hand ▸ List.mem_singleton_self _)
      have backlog := List.forall_mem_append.mpr
        ⟨tasks.backlog, List.forall_mem_singleton.mpr isTask⟩
      exact ⟨tasks.queued, backlog, List.forall_mem_nil _, rfl⟩
  | report _ reports => exact absurd (reports.symm.trans tasks.calm) (by decide)

theorem TasksOnly.receive (tasks : s.TasksOnly) {fd : Fd} {msg : Message}
    (isTask : ({ fd, msg } : IncomingEvent).isControl = false)
    (stepped : s.step (.receive connection fd msg) = .ok s') : s'.TasksOnly := by
  simp only [step] at stepped
  split at stepped
  next =>
    cases stepped
    refine ⟨tasks.queued, tasks.backlog, List.forall_mem_singleton.mpr ?_, rfl⟩
    exact ⟨connection, IncomingEvent.isTaskOf_iff.mpr ⟨rfl, isTask⟩⟩
  next => cases stepped

theorem TasksOnly.popTask (tasks : s.TasksOnly) {event : IncomingEvent}
    {rest : List IncomingEvent} (front : s.taskQueue = event :: rest) :
    (∃ connection, event.isTaskOf connection = true) ∧
      TasksOnly { s with taskQueue := rest, popped := s.popped ++ [event] } := by
  have queued := tasks.queued
  rw [front, List.forall_mem_cons] at queued
  exact ⟨queued.1, queued.2, tasks.backlog, tasks.inHand, tasks.calm⟩

/-- Between its poll and its sends, and between two rounds, the network thread pushes nothing. -/
theorem step_turn {action : HandoffAction} (turns : action = .polled ∨ action = .sent)
    (stepped : s.step action = .ok s') :
    ∃ network, s' = { s with network } ∧ { s with network }.inHand = s.inHand ∧
      { s with network }.reporting = false := by
  obtain rfl | rfl := turns
  all_goals
    simp only [step] at stepped
    split at stepped
    next place =>
      cases stepped
      exact ⟨_, rfl, by simp [inHand, place], rfl⟩
    next => cases stepped

theorem tasksOnly_init : init.TasksOnly :=
  ⟨List.forall_mem_nil _, List.forall_mem_nil _, List.forall_mem_nil _, rfl⟩

/-- In every interleaving in which no direct push overtakes the backlog, the hand-off keeps
the order of every connection. -/
theorem handoff_in_order {actions : List HandoffAction} {s : Handoff}
    (overtakesNone : Along step OvertakesNone init actions)
    (ran : Transition.run step init actions = .ok s) : s.InOrder :=
  (conserved_preserved.run conserved_init overtakesNone ran).inOrder

/-! ## Overtaking -/

/-- A `SUBMIT` on a connection. -/
def submitted (connection : Nat) (id : TaskId) : IncomingEvent :=
  { fd := connection, msg := { body := .submit { taskId := id } }, connection := some connection }

def receiveSubmit (connection : Nat) (id : TaskId) : HandoffAction :=
  .receive connection connection { body := .submit { taskId := id } }

/-- The network thread at its poll, with `count` messages of connection 0 in the task
queue. -/
def filled (count : Nat) : Handoff where
  taskQueue := List.replicate count (submitted 0 0)
  controlQueue := []
  backlog := []
  network := .polling
  received := List.replicate count (submitted 0 0)
  popped := []

/-- A round in which one message of connection 0 is received and finds room. -/
def fillingRound : List HandoffAction :=
  [receiveSubmit 0 0, .advance, .polled, .sent, .advance]

theorem run_fillingRound {count : Nat} (room : count < Config.coordinatorTaskQueueCapacity) :
    Transition.run step (filled count) fillingRound = .ok (filled (count + 1)) := by
  simp [fillingRound, receiveSubmit, filled, submitted, Transition.run, step, Handoff.advance,
    tryPush, IncomingEvent.isControl, room, bind, Except.bind, List.replicate_succ']

theorem run_fillingRounds (count : Nat) (bound : count ≤ Config.coordinatorTaskQueueCapacity) :
    Transition.run step (filled 0) (List.replicate count fillingRound).flatten =
      .ok (filled count) := by
  induction count with
  | zero => rfl
  | succ count ih =>
      rw [List.replicate_succ', List.flatten_append]
      refine run_append_eq_ok.mpr ⟨filled count, ih (by omega), ?_⟩
      simpa using @run_fillingRound count (by omega)

/-- All that is in the task queue is popped. -/
theorem run_popAll (s : Handoff) :
    Transition.run step s (List.replicate s.taskQueue.length .popTask) =
      .ok { s with taskQueue := [], popped := s.popped ++ s.taskQueue } := by
  obtain ⟨queue, control, backlog, network, received, popped⟩ := s
  induction queue generalizing popped with
  | nil => simp
  | cons event rest ih =>
      simp only [List.length_cons, List.replicate_succ]
      refine run_cons_eq_ok.mpr ⟨_, rfl, ?_⟩
      rw [ih]
      simp

/-- Two messages of connection 1 are received in two rounds, and the first one is popped. -/
def twoMessages : List HandoffAction :=
  [.advance, receiveSubmit 1 1, .advance, .polled, .sent, .advance, receiveSubmit 1 2, .advance,
    .popTask]

theorem twoMessages_in_order :
    ∃ s, Transition.run step init twoMessages = .ok s ∧ s.popped.length = 1 ∧ s.InOrder := by
  have overtakesNone : Along step OvertakesNone init twoMessages := by decide +kernel
  exact ⟨_, rfl, rfl, handoff_in_order overtakesNone rfl⟩

/-- Refused attempts for the event in hand, until it goes to the backlog. -/
theorem run_refused_handing {event : IncomingEvent} (task : event.isControl = false)
    (full : ¬ s.taskQueue.length < Config.coordinatorTaskQueueCapacity)
    (place : s.network = .handing event 0) :
    Transition.run step s (List.replicate 11 .advance) =
      .ok { s with backlog := s.backlog ++ [event], network := .polling } := by
  simp [List.replicate, Transition.run, step, Handoff.advance, place, tryPush, task, full, bind,
    Except.bind, Config.queueRetryCount]

/-- Refused attempts for the front of the backlog, until the flush gives up. -/
theorem run_refused_front {front : IncomingEvent} {rest : List IncomingEvent} {budget : Nat}
    (task : front.isControl = false)
    (full : ¬ s.taskQueue.length < Config.coordinatorTaskQueueCapacity)
    (waits : s.backlog = front :: rest) (place : s.network = .flushingFront budget 0) :
    Transition.run step s (List.replicate 11 .advance) = .ok { s with network := .polling } := by
  simp [List.replicate, Transition.run, step, Handoff.advance, place, waits, tryPush, task, full,
    bind, Except.bind, Config.queueRetryCount]

/-- The task queue is full, and a message of connection 1 waits in the backlog. -/
def congested (capacity : Nat) : Handoff :=
  { filled capacity with
    backlog := [submitted 1 1]
    received := (filled capacity).received ++ [submitted 1 1] }

/-- A message of connection 1 that finds the task queue full goes to the backlog. -/
theorem run_congest :
    Transition.run step (filled Config.coordinatorTaskQueueCapacity)
      (receiveSubmit 1 1 :: List.replicate 11 .advance) =
        .ok (congested Config.coordinatorTaskQueueCapacity) := by
  refine run_cons_eq_ok.mpr ⟨_, rfl, ?_⟩
  exact run_refused_handing rfl (by simp [filled]) rfl

/-- The next flush finds the task queue full. -/
theorem run_flush :
    Transition.run step (congested Config.coordinatorTaskQueueCapacity)
      (.polled :: .sent :: .advance :: List.replicate 11 .advance) =
        .ok (congested Config.coordinatorTaskQueueCapacity) := by
  refine run_cons_eq_ok.mpr ⟨_, rfl, run_cons_eq_ok.mpr ⟨_, rfl, run_cons_eq_ok.mpr ⟨_, rfl, ?_⟩⟩⟩
  exact run_refused_front rfl (by simp [congested, filled]) rfl rfl

/-- The scheduler makes room, and the next message of connection 1 is pushed directly. -/
theorem run_overtake {capacity : Nat}
    (isCapacity : capacity + 1 = Config.coordinatorTaskQueueCapacity) :
    Transition.run step (congested (capacity + 1))
      [.popTask, receiveSubmit 1 2, .advance] = .ok
        { congested (capacity + 1) with
          taskQueue := List.replicate capacity (submitted 0 0) ++ [submitted 1 2]
          received := (congested (capacity + 1)).received ++ [submitted 1 2]
          popped := [submitted 0 0] } := by
  have room : capacity < Config.coordinatorTaskQueueCapacity := by omega
  simp [congested, filled, List.replicate_succ, receiveSubmit, submitted, Transition.run, step,
    Handoff.advance, tryPush, IncomingEvent.isControl, room, bind, Except.bind]

/-- The task queue fills up.  A message of connection 1 goes to the backlog, the next one is
pushed directly when the scheduler has made room, and the scheduler pops all messages. -/
def overtaking : List HandoffAction :=
  List.flatten
    [[.advance], (List.replicate Config.coordinatorTaskQueueCapacity fillingRound).flatten,
      receiveSubmit 1 1 :: List.replicate 11 .advance,
      .polled :: .sent :: .advance :: List.replicate 11 .advance,
      [.popTask, receiveSubmit 1 2, .advance],
      List.replicate Config.coordinatorTaskQueueCapacity .popTask]

/-- The second message of connection 1 is popped, and the first one is not. -/
theorem message_overtakes_backlog :
    ∃ s, Transition.run step init overtaking = .ok s ∧
      s.received.filter (IncomingEvent.isTaskOf 1) = [submitted 1 1, submitted 1 2] ∧
      s.popped.filter (IncomingEvent.isTaskOf 1) = [submitted 1 2] ∧ ¬ s.InOrder := by
  obtain ⟨capacity, isCapacity⟩ : ∃ capacity, Config.coordinatorTaskQueueCapacity = capacity + 1 :=
    ⟨16383, rfl⟩
  have filling := run_fillingRounds _ (le_refl _)
  have congest := run_congest
  have flush := run_flush
  have overtake := run_overtake isCapacity.symm
  have popping := run_popAll
    { congested (capacity + 1) with
      taskQueue := List.replicate capacity (submitted 0 0) ++ [submitted 1 2]
      received := (congested (capacity + 1)).received ++ [submitted 1 2]
      popped := [submitted 0 0] }
  rw [isCapacity] at filling congest flush
  simp only [List.length_append, List.length_replicate, List.length_singleton] at popping
  have ofOther : ∀ count, (List.replicate count (submitted 0 0)).filter
      (IncomingEvent.isTaskOf 1) = [] := by
    intro count
    rw [List.filter_eq_nil_iff]
    intro event member
    rw [List.eq_of_mem_replicate member]
    decide
  have received : ((congested (capacity + 1)).received ++ [submitted 1 2]).filter
      (IncomingEvent.isTaskOf 1) = [submitted 1 1, submitted 1 2] := by
    simp only [congested, filled, List.filter_append, ofOther]
    rfl
  have popped : ([submitted 0 0] ++ (List.replicate capacity (submitted 0 0) ++ [submitted 1 2])
      ).filter (IncomingEvent.isTaskOf 1) = [submitted 1 2] := by
    simp only [List.filter_append, ofOther]
    rfl
  refine ⟨{ congested (capacity + 1) with
      taskQueue := []
      received := (congested (capacity + 1)).received ++ [submitted 1 2]
      popped := [submitted 0 0] ++ (List.replicate capacity (submitted 0 0) ++ [submitted 1 2]) },
    ?_, received, popped, fun inOrder => ?_⟩
  · rw [overtaking, isCapacity]
    simp only [List.flatten_cons, List.flatten_nil, List.append_nil]
    refine run_append_eq_ok.mpr ⟨filled 0, rfl, ?_⟩
    refine run_append_eq_ok.mpr ⟨_, filling, ?_⟩
    refine run_append_eq_ok.mpr ⟨_, congest, ?_⟩
    refine run_append_eq_ok.mpr ⟨_, flush, ?_⟩
    exact run_append_eq_ok.mpr ⟨_, overtake, popping⟩
  · have isPrefix := inOrder 1
    simp only [received, popped] at isPrefix
    have first := (List.cons_prefix_cons.mp isPrefix).1
    have sameBody := congrArg (fun event => event.msg.body) first
    simp [submitted] at sameBody

end Handoff

end TaskCoordinator
