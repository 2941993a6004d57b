import TaskCoordinator.Coordinator.Effects

/-!
# Outstanding work and the addressees of messages

A task occupies the scheduler while it waits in a backlog or stands in a running set.
Only a `SUBMIT` or a `COMPLETE` that names the task can make it occupy the scheduler anew.
Every message that a step pushes is for the peer, answers the event of the step, hands an
occupying task to a worker or answers it to a client.
-/

namespace TaskCoordinator

/-- The task that a `SUBMIT` or a `COMPLETE` names. -/
def Event.names? : Event → Option TaskId
  | .submit _ msg _ => some msg.taskId
  | .complete _ msg _ => some msg.taskId
  | _ => none

/-- The connection that the event itself asks to be answered on. -/
def Event.replyFd? : Event → Option Fd
  | .topRequest fd _ | .register fd _ => some fd
  | _ => none

/-- The connections of the clients after the event. -/
def Event.clientFds (event : Event) (before : AList fun _ : ClientId => Fd) :
    AList fun _ : ClientId => Fd :=
  match event with
  | .submit fd msg _ => before.insert msg.clientId fd
  | _ => before

namespace Coordinator

open Transition

variable {s s' middle : Coordinator} {event : Event}

/-- The tasks that wait in a backlog or stand in a running set. -/
def occupied (s : Coordinator) : List TaskId :=
  s.queuedBacklog ++ s.completedBacklog ++
    s.workersStates.flatMap fun state => state.runningTasks.items

theorem mem_occupied {id : TaskId} :
    id ∈ s.occupied ↔
      id ∈ s.queuedBacklog ∨ id ∈ s.completedBacklog ∨ ∃ worker, s.Runs worker id := by
  have running : id ∈ (s.workersStates.flatMap fun state => state.runningTasks.items) ↔
      ∃ worker, s.Runs worker id := by
    rw [List.mem_flatMap]
    constructor
    · rintro ⟨state, held, member⟩
      obtain ⟨worker, held⟩ := List.mem_iff_getElem?.mp held
      exact ⟨worker, state, held, member⟩
    · rintro ⟨worker, state, held, member⟩
      exact ⟨state, List.mem_of_getElem? held, member⟩
  rw [occupied, List.mem_append, List.mem_append, running, or_assoc]

/-- The task occupies the scheduler, or the event names it. -/
def Due (s : Coordinator) (event : Event) (id : TaskId) : Prop :=
  id ∈ s.occupied ∨ event.names? = some id

/-- Some worker is reached through this connection. -/
def WorkerOn (s : Coordinator) (fd : Fd) : Prop :=
  ∃ state ∈ s.workersStates, state.fd = fd

instance (s : Coordinator) (fd : Fd) : Decidable (s.WorkerOn fd) :=
  inferInstanceAs (Decidable (∃ state ∈ s.workersStates, state.fd = fd))

/-- A connection through which a worker may be reached after the event. -/
def Reaches (s : Coordinator) (event : Event) (fd : Fd) : Prop :=
  s.WorkerOn fd ∨ event.replyFd? = some fd ∨ fd = -1

/-- Why a message is pushed while an event is handled in the state `s`. -/
inductive Pushed (s : Coordinator) (event : Event) (out : OutgoingEvent) : Prop where
  | peer (fd : out.fd = -1) (assigns : out.msg.assigns? = none)
      (answers : out.msg.answers? = none)
  | reply (fd : event.replyFd? = some out.fd) (assigns : out.msg.assigns? = none)
      (answers : out.msg.answers? = none)
  | assign (id : TaskId) (assigns : out.msg.assigns? = some id) (due : s.Due event id)
      (answers : out.msg.answers? = none) (fd : s.Reaches event out.fd)
  | result (id : TaskId) (answers : out.msg.answers? = some id) (due : s.Due event id)
      (assigns : out.msg.assigns? = none)
      (fd : out.fd = -1 ∨
        ∃ client, (event.clientFds s.clientFds).lookup client = some out.fd)

/-- What handling the event in the state `s` has led to so far. -/
structure Progress (s : Coordinator) (event : Event) (s' : Coordinator) : Prop where
  occupied : ∀ id ∈ s'.occupied, s.Due event id
  workers : ∀ fd, s'.WorkerOn fd → s.Reaches event fd
  clients : s'.clientFds = event.clientFds s.clientFds
  outgoing : ∃ pushed, s'.outgoingQueue = s.outgoingQueue ++ pushed ∧
    ∀ out ∈ pushed, s.Pushed event out

/-! ## Workers and their connections -/

/-- A change of a worker's state that keeps its connection, or sets it to `given`. -/
theorem workerOn_of_modify {worker : WorkerId} {change : WorkerState → WorkerState}
    {fd given : Fd} (modified : s'.workersStates = s.workersStates.modify worker change)
    (kept : ∀ state, (change state).fd = state.fd ∨ (change state).fd = given)
    (reached : s'.WorkerOn fd) : s.WorkerOn fd ∨ fd = given := by
  obtain ⟨state, member, rfl⟩ := reached
  rw [modified] at member
  obtain ⟨position, held⟩ := List.mem_iff_getElem?.mp member
  rw [List.getElem?_modify] at held
  obtain ⟨before, heldBefore, rfl⟩ := Option.map_eq_some_iff.mp held
  have memberBefore := List.mem_of_getElem? heldBefore
  split
  next =>
    obtain same | changed := kept before
    · exact .inl ⟨before, memberBefore, same.symm⟩
    · exact .inr changed
  next => exact .inl ⟨before, memberBefore, rfl⟩

theorem workerOn_declareDead {worker : WorkerId} {running : List TaskId} {dead : Coordinator}
    {fd : Fd} (declared : s.declareDead worker running = .ok dead)
    (reached : dead.WorkerOn fd) : s.WorkerOn fd ∨ fd = -1 := by
  obtain ⟨inactive, marked, frame, _⟩ := declareDead_spec declared
  have cut : inactive.WorkerOn fd ∨ fd = -1 :=
    workerOn_of_modify (congrArg workersStates frame) (fun _ => .inr rfl) reached
  obtain ⟨rfl, _⟩ | ⟨last, state, _, _, _, rfl⟩ := markInactive_spec marked
  · exact cut
  · obtain reached | none := cut
    · have modified := modifyWorker_workersStates s last
        fun moved => { moved with activeIndex := state.activeIndex }
      exact workerOn_of_modify (s := s) modified (fun _ => .inl rfl) reached
    · exact .inr none

/-! ## One step -/

/-- An event that changes nothing but the role, the table and the counters. -/
theorem Progress.of_same (occupied : s'.occupied = s.occupied)
    (workers : s'.workersStates = s.workersStates)
    (clients : s'.clientFds = event.clientFds s.clientFds)
    (outgoing : s'.outgoingQueue = s.outgoingQueue) : s.Progress event s' where
  occupied id member := .inl (occupied ▸ member)
  workers fd reached := by
    obtain ⟨state, member, rfl⟩ := reached
    exact .inl ⟨state, workers ▸ member, rfl⟩
  clients := clients
  outgoing := ⟨[], by simp [outgoing], by simp⟩

/-- An event after which nothing has been pushed. -/
theorem Progress.of_silent (occupied : ∀ id ∈ s'.occupied, s.Due event id)
    (workers : ∀ fd, s'.WorkerOn fd → s.Reaches event fd)
    (clients : s'.clientFds = event.clientFds s.clientFds)
    (outgoing : s'.outgoingQueue = s.outgoingQueue) : s.Progress event s' :=
  ⟨occupied, workers, clients, [], by rw [outgoing, List.append_nil], List.forall_mem_nil _⟩

/-- An event after which one message has been pushed. -/
theorem Progress.of_push (occupied : ∀ id ∈ s'.occupied, s.Due event id)
    (workers : ∀ fd, s'.WorkerOn fd → s.Reaches event fd)
    (clients : s'.clientFds = event.clientFds s.clientFds) {out : OutgoingEvent}
    (outgoing : s'.outgoingQueue = s.outgoingQueue ++ [out]) (reason : s.Pushed event out) :
    s.Progress event s' :=
  ⟨occupied, workers, clients, [out], outgoing, List.forall_mem_singleton.mpr reason⟩

/-- A `RESULT` goes out on the connection of some client, or on none. -/
theorem clientFd_spec (s : Coordinator) (task : Task) :
    s.clientFd task = -1 ∨ ∃ client, s.clientFds.lookup client = some (s.clientFd task) := by
  unfold clientFd
  cases found : s.clientFds.lookup task.clientId with
  | none => exact .inl rfl
  | some fd => exact .inr ⟨task.clientId, found⟩

/-- The tasks that stand in the backlogs and running sets of `s'` are due in `s`. -/
theorem due_of_occupied
    (queued : ∀ id ∈ s'.queuedBacklog, id ∈ s.queuedBacklog ∨ event.names? = some id)
    (completed : ∀ id ∈ s'.completedBacklog, id ∈ s.completedBacklog ∨ event.names? = some id)
    (running : ∀ worker id, s'.Runs worker id →
      s.Runs worker id ∨ event.names? = some id) :
    ∀ id ∈ s'.occupied, s.Due event id := by
  intro id member
  rcases mem_occupied.mp member with inQueue | inCompleted | ⟨worker, runs⟩
  · exact (queued id inQueue).imp_left fun before => mem_occupied.mpr (.inl before)
  · exact (completed id inCompleted).imp_left fun before => mem_occupied.mpr (.inr (.inl before))
  · exact (running worker id runs).imp_left fun before =>
      mem_occupied.mpr (.inr (.inr ⟨worker, before⟩))

theorem reaches_of_modify {worker : WorkerId} {change : WorkerState → WorkerState} {fd : Fd}
    (modified : s'.workersStates = s.workersStates.modify worker change)
    (kept : ∀ state, (change state).fd = state.fd) (reached : s'.WorkerOn fd) :
    s.Reaches event fd := by
  obtain before | none := workerOn_of_modify modified (fun state => .inl (kept state)) reached
  · exact .inl before
  · exact .inr (.inr none)

theorem progress_of_received (received : Received s event s') : s.Progress event s' := by
  cases received with
  | @submitAssigned fd msg env activeIdx worker state now offers =>
      refine .of_push (due_of_occupied (fun _ => .inl) (fun _ => .inl) ?_)
        (fun _ => reaches_of_modify rfl fun _ => rfl) rfl rfl ?_
      · intro other id runs
        obtain ⟨_, rfl⟩ | before := (@runs_assignTo (s.accept fd msg env.now) _ _ _ _ _ _ _ _
          offers.held).mp runs
        · exact .inr (congrArg some (SubmitMsg.task_id ..).symm)
        · exact .inl before
      · refine .assign _ (assigns?_assignMessage ..) ?_ (answers?_assignMessage ..) ?_
        · exact .inr (congrArg some (SubmitMsg.task_id ..).symm)
        · exact .inl ⟨state, List.mem_of_getElem? offers.held, rfl⟩
  | submitQueued =>
      refine .of_silent (due_of_occupied ?_ (fun _ => .inl) (fun _ _ => .inl))
        (fun _ => .inl) rfl rfl
      intro id member
      obtain before | added := List.mem_append.mp member
      · exact .inl before
      · exact .inr (congrArg some (List.mem_singleton.mp added).symm)
  | completeUnknown => exact .of_same rfl rfl rfl rfl
  | @completeAnswered fd msg env task state found held =>
      refine .of_push (due_of_occupied (fun _ => .inl) (fun _ => .inl) ?_)
        (fun _ => reaches_of_modify rfl fun _ => rfl) rfl rfl ?_
      · intro other id runs
        exact .inl (runs_finish.mp runs).2
      · refine .result _ (answers?_resultMessage ..) ?_ (assigns?_resultMessage ..)
          (clientFd_spec (s.finish msg task) _)
        exact .inr (congrArg some (TaskTable.id_of_find? found).symm)
  | @completeDeferred fd msg env task state found held =>
      refine .of_silent (due_of_occupied (fun _ => .inl) ?_ ?_)
        (fun _ => reaches_of_modify rfl fun _ => rfl) rfl rfl
      · intro id member
        obtain before | added := List.mem_append.mp member
        · exact .inl before
        · rw [List.mem_singleton.mp added]
          exact .inr (congrArg some (TaskTable.id_of_find? found).symm)
      · intro other id runs
        exact .inl (runs_finish.mp runs).2
  | assignedReplicate =>
      rw [assignReplicate_frame]
      exact .of_same rfl rfl rfl rfl
  | completedReplicate =>
      rw [completeReplicate_frame]
      exact .of_same rfl rfl rfl rfl
  | snapshot =>
      refine .of_silent (due_of_occupied ?_ ?_ (fun _ _ => .inl)) (fun _ => .inl) rfl rfl
      · simp [processSnapshotEvent]
      · simp [processSnapshotEvent]
  | peerReconnected =>
      simp only [processPeerReconnected]
      split_ifs
      · exact .of_push (fun _ => .inl) (fun _ => .inl) rfl rfl (.peer rfl rfl rfl)
      · exact .of_same rfl rfl rfl rfl
      · exact .of_same rfl rfl rfl rfl
  | topRequest =>
      exact .of_push (fun _ => .inl) (fun _ => .inl) rfl rfl (.reply rfl rfl rfl)
  | @heartbeat worker env state held =>
      refine .of_silent (due_of_occupied (fun _ => .inl) (fun _ => .inl) ?_)
        (fun _ => reaches_of_modify rfl fun _ => rfl) rfl rfl
      intro other id runs
      have modified := modifyWorker_workersStates s worker
        fun state => { state with lastHeartbeatNs := env.now, alive := true }
      exact .inl ((runs_of_modify_keeps modified fun _ => rfl).mp runs)
  | @registerReused fd env worker state accepted free held now =>
      refine .of_push (due_of_occupied (fun _ => .inl) (fun _ => .inl) ?_) ?_ rfl rfl
        (.reply rfl rfl rfl)
      · intro other id runs
        exact .inl ((runs_of_modify_keeps (registerReused_workersStates ..)
          fun _ => rfl).mp runs)
      · intro other reached
        obtain before | rfl := workerOn_of_modify (registerReused_workersStates s fd worker now)
          (fun _ => .inr rfl) reached
        · exact .inl before
        · exact .inr (.inl rfl)
  | registerFresh =>
      refine .of_push (due_of_occupied (fun _ => .inl) (fun _ => .inl) ?_) ?_ rfl rfl
        (.reply rfl rfl rfl)
      · intro other id runs
        exact .inl (runs_registerFresh.mp runs)
      · rintro other ⟨state, member, rfl⟩
        obtain before | added := List.mem_append.mp member
        · exact .inl ⟨state, before, rfl⟩
        · rw [List.mem_singleton.mp added]
          exact .inr (.inl rfl)
  | registerRefused | pass | backlog | replicate | sweep => exact .of_same rfl rfl rfl rfl

/-- What is due in the course of handling an event was due from the start. -/
theorem Progress.due (progress : s.Progress event middle) {id : TaskId}
    (member : id ∈ middle.queuedBacklog ∨ id ∈ middle.completedBacklog ∨
      ∃ worker, middle.Runs worker id) : s.Due event id :=
  progress.occupied id (mem_occupied.mpr member)

/-- The first entry of the completed backlog is taken out. -/
theorem Progress.due_of_popped (progress : s.Progress event middle) {id : TaskId}
    {rest : List TaskId} (front : middle.completedBacklog = id :: rest)
    (queued : s'.queuedBacklog = middle.queuedBacklog) (popped : s'.completedBacklog = rest)
    (workers : s'.workersStates = middle.workersStates) :
    ∀ other ∈ s'.occupied, s.Due event other := by
  intro other member
  apply progress.due
  rcases mem_occupied.mp member with inQueue | inCompleted | ⟨worker, state, held, runs⟩
  · exact .inl (queued ▸ inQueue)
  · rw [popped] at inCompleted
    exact .inr (.inl (front ▸ List.mem_cons_of_mem id inCompleted))
  · exact .inr (.inr ⟨worker, state, workers ▸ held, runs⟩)

theorem Progress.pushed (progress : s.Progress event middle) {out : OutgoingEvent}
    (pushed : s'.outgoingQueue = middle.outgoingQueue ++ [out]) (reason : s.Pushed event out) :
    ∃ pushed, s'.outgoingQueue = s.outgoingQueue ++ pushed ∧
      ∀ out ∈ pushed, s.Pushed event out := by
  obtain ⟨before, queue, reasons⟩ := progress.outgoing
  refine ⟨before ++ [out], by rw [pushed, queue, List.append_assoc], ?_⟩
  intro other member
  obtain earlier | last := List.mem_append.mp member
  · exact reasons other earlier
  · rw [List.mem_singleton.mp last]
    exact reason

theorem Progress.move (progress : s.Progress event middle) (logPrivate : middle.LogPrivate)
    (move : Move event middle s') : s.Progress event s' := by
  cases move with
  | replicated pending =>
      refine ⟨progress.occupied, progress.workers, progress.clients,
        progress.pushed rfl (.peer rfl logPrivate.head.1 logPrivate.head.2.1)⟩
  | @dropped id rest drains front unknown =>
      exact ⟨progress.due_of_popped front rfl rfl rfl, progress.workers, progress.clients,
        progress.outgoing⟩
  | @answered id rest task drains front found =>
      have due : s.Due event task.id := by
        rw [TaskTable.id_of_find? found]
        exact progress.due (.inr (.inl (front ▸ List.mem_cons_self)))
      have addressed := clientFd_spec middle task
      rw [progress.clients] at addressed
      exact ⟨progress.due_of_popped front rfl rfl rfl, progress.workers, progress.clients,
        progress.pushed rfl (.result _ (answers?_resultMessage ..) due
          (assigns?_resultMessage ..) addressed)⟩
  | @assigned id rest task activeIdx worker state now drains front found offers =>
      have due : s.Due event task.id := by
        rw [TaskTable.id_of_find? found]
        exact progress.due (.inl (front ▸ List.mem_cons_self))
      refine ⟨?_, ?_, progress.clients, progress.pushed rfl (.assign _
        (assigns?_assignMessage ..) due (answers?_assignMessage ..)
        (progress.workers _ ⟨state, List.mem_of_getElem? offers.held, rfl⟩))⟩
      · intro other member
        rcases mem_occupied.mp member with queued | completed | ⟨holder, runs⟩
        · exact progress.due (.inl (front ▸ List.mem_cons_of_mem id queued))
        · exact progress.due (.inr (.inl completed))
        · obtain ⟨_, rfl⟩ | before := (@runs_assignTo middle _ activeIdx _ _ _ state.fd now _
            offers.held).mp runs
          · exact due
          · exact progress.due (.inr (.inr ⟨holder, before⟩))
      · intro fd reached
        obtain before | none := workerOn_of_modify (assignTo_workersStates middle task activeIdx
          worker state.fd now) (fun _ => .inl rfl) reached
        · exact progress.workers fd before
        · exact .inr (.inr none)
  | @died _ worker state running sweeps held alive order declared =>
      obtain ⟨inactive, marked, frame, table⟩ := declareDead_spec declared
      refine ⟨?_, ?_, ?_, ?_⟩
      · intro id member
        rcases mem_occupied.mp member with queued | completed | ⟨holder, runs⟩
        · rw [frame] at queued
          obtain before | requeued := List.mem_append.mp queued
          · exact progress.due (.inl before)
          · exact progress.due (.inr (.inr ⟨worker, state, held, order.mem_iff.mp requeued⟩))
        · rw [frame] at completed
          exact progress.due (.inr (.inl completed))
        · exact progress.due (.inr (.inr ⟨holder, ((runs_declareDead declared).mp runs).2⟩))
      · intro fd reached
        obtain before | none := workerOn_declareDead declared reached
        · exact progress.workers fd before
        · exact .inr (.inr none)
      · rw [frame]
        exact progress.clients
      · rw [frame]
        exact progress.outgoing

/-- Handling an event only pushes what it is due to push. -/
theorem progress_of_step (logPrivate : s.LogPrivate) (stepped : s.step event = .ok s') :
    s.Progress event s' := by
  obtain ⟨received, isReceived, moves⟩ := step_spec stepped
  have kept : ∀ first second, Move event first second →
      s.Progress event first ∧ first.LogPrivate → s.Progress event second ∧ second.LogPrivate :=
    fun _ _ move before => ⟨before.1.move before.2 move, before.2.move move⟩
  exact (kept_of_moves kept moves
    ⟨progress_of_received isReceived, logPrivate.received isReceived⟩).1

end Coordinator

end TaskCoordinator
