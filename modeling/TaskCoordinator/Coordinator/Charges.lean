import TaskCoordinator.Coordinator.Safety

/-!
# The charge of a single worker

While one worker is registered and it is not declared dead, every `ASSIGN` pushed is either
matched by a `COMPLETE` that has been processed or has its task in the worker's running set.
The running set is what `assign` compares with the depth limit, so at most
`WORKER_MAX_QUEUE_DEPTH` assignments are without their `COMPLETE` at any time.

This rests on two facts.  A `COMPLETE` takes one task out of the running set at most.  And a
task is assigned only when it is not in the running set: a `SUBMIT` brings a new id, and what
waits in the backlog does not run.  Replication messages change the table of the tasks and
may clear the backlog, but they do not reach the running set.
-/

namespace TaskCoordinator

/-- The connection and the assignment of an `ASSIGN`. -/
def OutgoingEvent.order? (sent : OutgoingEvent) : Option (Fd × AssignMsg) :=
  sent.msg.assign?.map fun task => (sent.fd, task)

theorem OutgoingEvent.order?_eq_none {sent : OutgoingEvent} (silent : sent.msg.assigns? = none) :
    sent.order? = none := by
  rw [Message.assigns?_eq_map_assign?, Option.map_eq_none_iff] at silent
  rw [order?, silent, Option.map_none]

/-- How many `COMPLETE`s an event processes. -/
def Event.completeCount (event : Event) : Nat :=
  event.completes?.toList.length

namespace Coordinator

open Transition

variable {s s' : Coordinator} {event : Event} {fd : Fd} {submitted : List TaskId}
  {processed : Nat} {id : TaskId}

/-- The `ASSIGN`s pushed so far. -/
def orders (s : Coordinator) : List (Fd × AssignMsg) :=
  s.outgoingQueue.filterMap OutgoingEvent.order?

/-- The ids in the running sets. -/
def runningIds (s : Coordinator) : List TaskId :=
  s.workersStates.flatMap fun state => state.runningTasks.items

/-- One worker is registered at most, on the connection `fd`.  What it has been sent is in its
running set or among the `processed` tasks whose `COMPLETE` has been processed.  Every task in
the running set or in the backlog has been submitted. -/
structure Charged (fd : Fd) (submitted : List TaskId) (processed : Nat) (s : Coordinator) :
    Prop where
  single : s.workersStates.length ≤ 1
  connection : ∀ state ∈ s.workersStates, state.fd = fd
  depth : s.runningIds.length ≤ Config.workerMaxQueueDepth
  charge : s.orders.length ≤ s.runningIds.length + processed
  addressed : ∀ order ∈ s.orders, order.1 = fd
  runningSubmitted : ∀ id ∈ s.runningIds, id ∈ submitted
  queuedSubmitted : ∀ id ∈ s.queuedBacklog, id ∈ submitted
  backlogNodup : s.queuedBacklog.Nodup
  backlogIdle : ∀ id ∈ s.queuedBacklog, id ∉ s.runningIds
  logPrivate : s.LogPrivate

/-- A `SUBMIT` brings a new id, and a `REGISTER` is the first one and comes in on `fd`. -/
def SingleWorker (fd : Fd) (submitted : List TaskId) (s : Coordinator) : Event → Prop
  | .submit _ msg _ => msg.taskId ∉ submitted
  | .register origin _ => origin = fd ∧ s.workersStates = []
  | _ => True

theorem charged_init (fd : Fd) : Charged fd [] 0 init where
  single := by simp [init]
  connection := by simp [init]
  depth := by simp [init, runningIds]
  charge := by simp [init, orders]
  addressed := by simp [init, orders]
  runningSubmitted := by simp [init, runningIds]
  queuedSubmitted := by simp [init]
  backlogNodup := by simp [init]
  backlogIdle := by simp [init]
  logPrivate := logPrivate_init

/-! ## Changes of the parts -/

/-- The worker that is there is the only one. -/
theorem Charged.only (charged : s.Charged fd submitted processed) {worker : WorkerId}
    {state : WorkerState} (held : s.workersStates[worker]? = some state) :
    worker = 0 ∧ s.workersStates = [state] := by
  have inBounds := lt_of_held held
  have single := charged.single
  have first : worker = 0 := Nat.lt_one_iff.mp (inBounds.trans_le single)
  obtain ⟨only, same⟩ :=
    List.length_eq_one_iff.mp (single.antisymm (Nat.one_le_of_lt inBounds))
  rw [same, first, List.getElem?_cons_zero, Option.some.injEq] at held
  exact ⟨first, by rw [same, held]⟩

theorem orders_push {sent : OutgoingEvent}
    (pushed : s'.outgoingQueue = s.outgoingQueue ++ [sent]) :
    s'.orders = s.orders ++ sent.order?.toList := by
  rw [orders, pushed, List.filterMap_append]
  cases order : sent.order? <;> simp [orders, order]

theorem orders_silent {sent : OutgoingEvent}
    (pushed : s'.outgoingQueue = s.outgoingQueue ++ [sent]) (silent : sent.msg.assigns? = none) :
    s'.orders = s.orders := by
  simp [orders_push pushed, OutgoingEvent.order?_eq_none silent]

/-- A change that keeps the backlog, the running set and the connection of the worker. -/
theorem Charged.same (charged : s.Charged fd submitted processed)
    (single : s'.workersStates.length ≤ 1) (connection : ∀ state ∈ s'.workersStates, state.fd = fd)
    (running : s'.runningIds = s.runningIds) (orders : s'.orders = s.orders)
    (backlog : s'.queuedBacklog = s.queuedBacklog) (logPrivate : s'.LogPrivate) :
    s'.Charged fd submitted processed where
  single := single
  connection := connection
  depth := running ▸ charged.depth
  charge := by
    rw [running, orders]
    exact charged.charge
  addressed := orders ▸ charged.addressed
  runningSubmitted := running ▸ charged.runningSubmitted
  queuedSubmitted := backlog ▸ charged.queuedSubmitted
  backlogNodup := backlog ▸ charged.backlogNodup
  backlogIdle := by
    rw [backlog, running]
    exact charged.backlogIdle
  logPrivate := logPrivate

/-- A change that does not concern the worker. -/
theorem Charged.quiet (charged : s.Charged fd submitted processed)
    (workers : s'.workersStates = s.workersStates) (orders : s'.orders = s.orders)
    (backlog : s'.queuedBacklog = s.queuedBacklog) (logPrivate : s'.LogPrivate) :
    s'.Charged fd submitted processed := by
  refine charged.same ?_ ?_ ?_ orders backlog logPrivate
  · exact workers ▸ charged.single
  · exact workers ▸ charged.connection
  · rw [runningIds, workers, runningIds]

/-- More may have been submitted, and more may have been processed. -/
theorem Charged.mono (charged : s.Charged fd submitted processed) (more : List TaskId)
    (count : Nat) : s.Charged fd (submitted ++ more) (processed + count) :=
  { charged with
    charge := charged.charge.trans (Nat.add_le_add_left (Nat.le_add_right _ _) _)
    runningSubmitted := fun id member =>
      List.mem_append_left more (charged.runningSubmitted id member)
    queuedSubmitted := fun id member =>
      List.mem_append_left more (charged.queuedSubmitted id member) }

/-- Entries may leave the backlog. -/
theorem Charged.sublist (charged : s.Charged fd submitted processed) {rest : List TaskId}
    (sublist : rest.Sublist s.queuedBacklog) :
    Charged fd submitted processed { s with queuedBacklog := rest } :=
  { charged with
    queuedSubmitted := fun id member => charged.queuedSubmitted id (sublist.subset member)
    backlogNodup := charged.backlogNodup.sublist sublist
    backlogIdle := fun id member => charged.backlogIdle id (sublist.subset member) }

/-- A task that does not run joins the backlog. -/
theorem Charged.enqueue (charged : s.Charged fd submitted processed) (isSubmitted : id ∈ submitted)
    (idle : id ∉ s.runningIds) (absent : id ∉ s.queuedBacklog) :
    Charged fd submitted processed { s with queuedBacklog := s.queuedBacklog ++ [id] } :=
  { charged with
    queuedSubmitted := by
      intro other member
      obtain member | rfl := List.mem_append.mp member |>.imp_right List.mem_singleton.mp
      · exact charged.queuedSubmitted other member
      · exact isSubmitted
    backlogNodup := by
      rw [List.nodup_append]
      refine ⟨charged.backlogNodup, List.nodup_singleton id, ?_⟩
      intro other member last isLast same
      rw [List.mem_singleton] at isLast
      exact absent (isLast ▸ same ▸ member)
    backlogIdle := by
      intro other member
      obtain member | rfl := List.mem_append.mp member |>.imp_right List.mem_singleton.mp
      · exact charged.backlogIdle other member
      · exact idle }

/-- A task that neither runs nor waits is handed out. -/
theorem Charged.assignTo (charged : s.Charged fd submitted processed) {task : Task}
    {activeIdx : Nat} {worker : WorkerId} {state : WorkerState} {now : Nanoseconds}
    (offers : s.Offers activeIdx worker state) (isSubmitted : task.id ∈ submitted)
    (idle : task.id ∉ s.runningIds) (absent : task.id ∉ s.queuedBacklog) :
    (s.assignTo task activeIdx worker state.fd now).Charged fd submitted processed := by
  obtain ⟨rfl, workers⟩ := charged.only offers.held
  have before : s.runningIds = state.runningTasks.items := by simp [runningIds, workers]
  have fresh : task.id ∉ state.runningTasks.items := before ▸ idle
  have running : (s.assignTo task activeIdx 0 state.fd now).runningIds =
      task.id :: s.runningIds := by
    rw [before]
    simp [runningIds, workers, UnorderedSet.insert, List.insert_of_not_mem fresh]
  obtain ⟨msg, assigned⟩ : ∃ msg, (s.assignMessage task).assign? = some msg := ⟨_, rfl⟩
  have orders : (s.assignTo task activeIdx 0 state.fd now).orders =
      s.orders ++ [(state.fd, msg)] := by
    rw [orders_push (s := s) rfl, OutgoingEvent.order?, assigned]
    rfl
  have connected : state.fd = fd := charged.connection state (by simp [workers])
  exact
    { charged with
      single := by simp [workers]
      connection := by simp [workers, connected]
      depth := by
        rw [running, before]
        exact offers.room
      charge := by
        have charge := charged.charge
        rw [running, orders, List.length_append, List.length_singleton, List.length_cons]
        omega
      addressed := by
        rw [orders]
        intro order member
        obtain member | rfl := List.mem_append.mp member |>.imp_right List.mem_singleton.mp
        · exact charged.addressed order member
        · exact connected
      runningSubmitted := by
        rw [running]
        intro id member
        obtain rfl | member := List.mem_cons.mp member
        · exact isSubmitted
        · exact charged.runningSubmitted id member
      backlogIdle := by
        rw [running]
        intro id member isRunning
        obtain rfl | isRunning := List.mem_cons.mp isRunning
        · exact absent member
        · exact charged.backlogIdle id member isRunning
      logPrivate := logPrivate_of_add (s := s) charged.logPrivate rfl rfl }

/-- A `COMPLETE` takes one task out of the running set at most. -/
theorem Charged.finish (charged : s.Charged fd submitted processed) (msg : CompleteMsg)
    {task : Task} {state : WorkerState}
    (held : s.workersStates[task.workerId]? = some state) :
    (s.finish msg task).Charged fd submitted (processed + 1) := by
  obtain ⟨first, workers⟩ := charged.only held
  have before : s.runningIds = state.runningTasks.items := by simp [runningIds, workers]
  have after : (s.finish msg task).runningIds = s.runningIds.erase task.id := by
    rw [before]
    simp [runningIds, workers, first, UnorderedSet.erase, WorkerState.recordCompletion]
  have fewer : ∀ id ∈ (s.finish msg task).runningIds, id ∈ s.runningIds := by
    rw [after]
    exact fun id member => List.mem_of_mem_erase member
  exact
    { charged with
      single := by simp [workers]
      connection := by
        simpa [workers, first, WorkerState.recordCompletion] using charged.connection state
      depth := by
        rw [after]
        exact List.length_erase_le.trans charged.depth
      charge := by
        have charge := charged.charge
        have one : s.runningIds.length ≤ (s.runningIds.erase task.id).length + 1 :=
          Nat.sub_le_iff_le_add.mp (List.le_length_erase)
        rw [after]
        change s.orders.length ≤ _
        omega
      runningSubmitted := fun id member => charged.runningSubmitted id (fewer id member)
      backlogIdle := fun id member isRunning =>
        charged.backlogIdle id member (fewer id isRunning) }

/-- The only worker is registered. -/
theorem Charged.registerFresh (charged : s.Charged fd submitted processed)
    (none : s.workersStates = []) (now : Nanoseconds) :
    (s.registerFresh fd now).Charged fd submitted processed := by
  refine charged.same ?_ ?_ ?_ (orders_silent (s := s) rfl rfl) rfl charged.logPrivate
  · simp [none]
  · simp [none]
  · simp [runningIds, none]

/-- A change of the only worker that concerns neither its tasks nor its connection. -/
theorem Charged.modify (charged : s.Charged fd submitted processed) {worker : WorkerId}
    {state : WorkerState} {change : WorkerState → WorkerState}
    (held : s.workersStates[worker]? = some state)
    (running : (change state).runningTasks = state.runningTasks)
    (connection : (change state).fd = state.fd) :
    (s.modifyWorker worker change).Charged fd submitted processed := by
  obtain ⟨rfl, workers⟩ := charged.only held
  refine charged.same ?_ ?_ ?_ rfl rfl charged.logPrivate
  · simp [workers]
  · simpa [workers, connection] using charged.connection state
  · simp [runningIds, workers, running]

/-! ## Events -/

/-- An id that has not been submitted neither runs nor waits. -/
theorem Charged.unscheduled (charged : s.Charged fd submitted processed) (fresh : id ∉ submitted) :
    id ∉ s.runningIds ∧ id ∉ s.queuedBacklog :=
  ⟨fun member => fresh (charged.runningSubmitted id member),
    fun member => fresh (charged.queuedSubmitted id member)⟩

theorem Charged.received (charged : s.Charged fd submitted processed)
    (free : s.availableIds = []) (admitted : s.SingleWorker fd submitted event)
    (received : Received s event s') :
    s'.Charged fd (submitted ++ event.submits?.toList) (processed + event.completeCount) := by
  have logPrivate := charged.logPrivate.received received
  have later := charged.mono event.submits?.toList event.completeCount
  cases received with
  | @submitAssigned origin msg env activeIdx worker state now offers =>
      obtain ⟨idle, absent⟩ := charged.unscheduled admitted
      rw [← SubmitMsg.task_id msg env.now] at idle absent
      have accepted : (s.accept origin msg env.now).Charged fd (submitted ++ [msg.taskId])
          (processed + 0) := later.quiet rfl rfl rfl charged.logPrivate
      exact accepted.assignTo ⟨offers.active, offers.held, offers.room⟩ (by simp) idle absent
  | @submitQueued origin msg env =>
      obtain ⟨idle, absent⟩ := charged.unscheduled admitted
      have accepted : (s.accept origin msg env.now).Charged fd (submitted ++ [msg.taskId])
          (processed + 0) := later.quiet rfl rfl rfl charged.logPrivate
      exact accepted.enqueue (by simp) idle absent
  | @completeAnswered _ msg _ task _ found held =>
      have finished := (charged.finish msg held).mono [] 0
      exact finished.quiet rfl (orders_silent (s := s.finish msg task) rfl rfl) rfl logPrivate
  | @completeDeferred _ msg _ _ _ found held refused =>
      have finished := (charged.finish msg held).mono [] 0
      exact finished.quiet rfl rfl rfl logPrivate
  | assignedReplicate =>
      rw [assignReplicate_frame]
      exact later.quiet rfl rfl rfl charged.logPrivate
  | completedReplicate =>
      rw [completeReplicate_frame]
      exact later.quiet rfl rfl rfl charged.logPrivate
  | snapshot =>
      have cleared := later.sublist (List.nil_sublist s.queuedBacklog)
      exact cleared.quiet rfl rfl rfl logPrivate
  | peerReconnected =>
      unfold processPeerReconnected
      split_ifs
      · exact later.quiet rfl (orders_silent (s := s) rfl rfl) rfl charged.logPrivate
      · exact later.quiet rfl rfl rfl charged.logPrivate
      · exact later
  | topRequest => exact later.quiet rfl (orders_silent (s := s) rfl rfl) rfl logPrivate
  | heartbeat held => exact later.modify held rfl rfl
  | registerReused accepted isFree => simp [free] at isFree
  | registerFresh accepted none now =>
      obtain ⟨rfl, noWorker⟩ := admitted
      exact later.registerFresh noWorker now
  | completeUnknown => exact later.quiet rfl rfl rfl logPrivate
  | registerRefused | pass | backlog | replicate | sweep => exact later

/-- The moves keep the charge, except for the death of a worker. -/
theorem Charged.move (charged : s.Charged fd submitted processed) (move : Move event s s')
    (free : s'.availableIds = []) : s'.Charged fd submitted processed := by
  have logPrivate := charged.logPrivate.move move
  cases move with
  | replicated =>
      exact charged.quiet rfl (orders_silent (s := s) rfl charged.logPrivate.head.1) rfl logPrivate
  | dropped => exact charged.quiet rfl rfl rfl logPrivate
  | answered => exact charged.quiet rfl (orders_silent (s := s) rfl rfl) rfl logPrivate
  | @assigned id rest task _ _ _ now _ front found offers =>
      have isSubmitted := charged.queuedSubmitted id (by simp [front])
      have idle := charged.backlogIdle id (by simp [front])
      have absent : id ∉ rest := (List.nodup_cons.mp (front ▸ charged.backlogNodup)).1
      have shorter : rest.Sublist s.queuedBacklog := by
        rw [front]
        exact List.sublist_cons_self id rest
      have remaining := charged.sublist shorter
      rw [← TaskTable.id_of_find? found] at isSubmitted idle absent
      exact remaining.assignTo ⟨offers.active, offers.held, offers.room⟩ isSubmitted idle absent
  | died _ _ _ _ declared =>
      obtain ⟨_, _, frame, _⟩ := declareDead_spec declared
      rw [frame] at free
      simp at free

/-- An id that has become free stays free during the moves. -/
theorem availableIds_of_move (move : Move event s s') (free : s'.availableIds = []) :
    s.availableIds = [] := by
  cases move with
  | died _ _ _ _ declared =>
      obtain ⟨_, _, frame, _⟩ := declareDead_spec declared
      rw [frame] at free
      simp at free
  | _ => exact free

/-- One event, after which the worker has not been declared dead. -/
theorem Charged.step (charged : s.Charged fd submitted processed) (free : s.availableIds = [])
    (admitted : s.SingleWorker fd submitted event) (stepped : s.step event = .ok s')
    (stillFree : s'.availableIds = []) :
    s'.Charged fd (submitted ++ event.submits?.toList) (processed + event.completeCount) := by
  obtain ⟨middle, received, moves⟩ := step_spec stepped
  have after := charged.received free admitted received
  have kept : ∀ first second, Move event first second →
      (first.availableIds = [] → first.Charged fd (submitted ++ event.submits?.toList)
        (processed + event.completeCount)) →
      second.availableIds = [] → second.Charged fd (submitted ++ event.submits?.toList)
        (processed + event.completeCount) :=
    fun _ _ move before free => (before (availableIds_of_move move free)).move move free
  exact kept_of_moves kept moves (fun _ => after) stillFree

/-- A step only adds to what has been sent. -/
theorem outgoing_of_step (stepped : s.step event = .ok s') :
    s.outgoingQueue <+: s'.outgoingQueue := by
  obtain ⟨middle, received, moves⟩ := step_spec stepped
  obtain ⟨pushed, grown⟩ := outgoing_of_received received
  have kept : ∀ first second, Move event first second →
      s.outgoingQueue <+: first.outgoingQueue → s.outgoingQueue <+: second.outgoingQueue := by
    intro first second move before
    obtain ⟨pushed, grown⟩ := outgoing_of_move move
    exact before.trans ⟨pushed, grown.symm⟩
  exact kept_of_moves kept moves ⟨pushed, grown.symm⟩

/-- Only a `REGISTER` changes the number of workers. -/
theorem length_of_step (other : ∀ origin env, event ≠ .register origin env)
    (stepped : s.step event = .ok s') : s'.workersStates.length = s.workersStates.length := by
  obtain ⟨middle, received, moves⟩ := step_spec stepped
  rw [length_of_moves moves]
  cases received with
  | submitAssigned | completeAnswered | completeDeferred | heartbeat => simp
  | assignedReplicate => rw [assignReplicate_frame]
  | completedReplicate => rw [completeReplicate_frame]
  | peerReconnected =>
      unfold processPeerReconnected
      split_ifs <;> rfl
  | registerRefused | registerReused | registerFresh => exact absurd rfl (other _ _)
  | _ => rfl

end Coordinator

end TaskCoordinator
