import TaskCoordinator.Coordinator.Effects

/-!
# The scheduler does not fault on local traffic

`Sound` collects what the handlers rely on when they index `workers_states_` or look up a
task by `tasks_.at`.  It is an invariant of a coordinator that receives no replication
messages, and it excludes every fault.
-/

namespace TaskCoordinator

theorem TaskTable.known_set {table : TaskTable} {task : Task} {id : TaskId}
    (known : ∃ stored, table.find? id = some stored) :
    ∃ stored, (table.set task).find? id = some stored := by
  obtain ⟨stored, found⟩ := known
  rw [find?_set]
  split
  next => exact ⟨task, rfl⟩
  next => exact ⟨stored, found⟩

@[simp] theorem SubmitMsg.task_workerId (msg : SubmitMsg) (now : Nanoseconds) :
    (msg.task now).workerId = 0 := by
  unfold SubmitMsg.task
  cases msg.type <;> rfl

@[simp] theorem SubmitMsg.task_state (msg : SubmitMsg) (now : Nanoseconds) :
    (msg.task now).state = .queued := by
  unfold SubmitMsg.task
  cases msg.type <;> rfl

@[simp] theorem CompleteMsg.update_id (msg : CompleteMsg) (task : Task) :
    (msg.update task).id = task.id := rfl

@[simp] theorem CompleteMsg.update_state (msg : CompleteMsg) (task : Task) :
    (msg.update task).state = .completed := rfl

namespace Coordinator

open Transition

/-- Everything the scheduler indexes or looks up exists. -/
structure Sound (s : Coordinator) : Prop where
  activeHeld : ∀ worker ∈ s.activeWorkers, worker < s.workersStates.length
  freeHeld : ∀ worker ∈ s.availableIds, worker < s.workersStates.length
  queuedKnown : ∀ id ∈ s.queuedBacklog, ∃ task, s.tasks.find? id = some task
  runningKnown : ∀ worker id, s.Runs worker id → ∃ task, s.tasks.find? id = some task
  recordHeld : ∀ id task, s.tasks.find? id = some task →
    task.workerId = 0 ∨ task.workerId < s.workersStates.length
  assignedHeld : ∀ id, s.Assigned id → 0 < s.workersStates.length
  acknowledgedHeld : ∀ worker, s.Acknowledged worker → worker < s.workersStates.length
  logPrivate : s.LogPrivate

/-- The traffic of clients and workers: a completion names a task whose record names a
worker that exists, and a heartbeat comes under the id of such a worker. -/
def LocalEvent (s : Coordinator) : Event → Prop
  | .submit .. | .register .. | .pass _ | .backlog _ | .replicate _ | .sweep _ => True
  | .complete _ msg _ => ∀ task, s.tasks.find? msg.taskId = some task →
      task.workerId < s.workersStates.length
  | .heartbeat worker _ => worker < s.workersStates.length
  | _ => False

variable {s s' : Coordinator} {event : Event} {env env' : Env}

/-- Local traffic has no replication messages in it. -/
theorem LocalEvent.unstamped (admitted : s.LocalEvent event) : event.stamp? = none := by
  cases event with
  | assignedReplicate | completedReplicate | snapshot => cases admitted
  | _ => rfl

theorem lt_of_held {worker : WorkerId} {state : WorkerState}
    (held : s.workersStates[worker]? = some state) : worker < s.workersStates.length :=
  (List.getElem?_eq_some_iff.mp held).1

theorem held_of_lt {worker : WorkerId} (bound : worker < s.workersStates.length) :
    ∃ state, s.workersStates[worker]? = some state :=
  ⟨_, List.getElem?_eq_getElem bound⟩

/-! ## Preservation -/

theorem sound_init : Sound init where
  activeHeld := by simp [init]
  freeHeld := by simp [init]
  queuedKnown := by simp [init]
  runningKnown := by simp [init, Runs]
  recordHeld := by simp [init]
  assignedHeld := by simp [init, Assigned]
  acknowledgedHeld := by simp [init, Acknowledged]
  logPrivate := logPrivate_init

theorem Sound.accept (sound : s.Sound) (fd : Fd) (msg : SubmitMsg) (now : Nanoseconds) :
    (s.accept fd msg now).Sound where
  activeHeld := sound.activeHeld
  freeHeld := sound.freeHeld
  queuedKnown := fun id member => TaskTable.known_set (sound.queuedKnown id member)
  runningKnown := fun worker id runs => TaskTable.known_set (sound.runningKnown worker id runs)
  recordHeld := by
    intro id task found
    rw [accept_tasks, TaskTable.find?_set] at found
    split at found
    next =>
      cases found
      exact .inl (SubmitMsg.task_workerId msg now)
    next => exact sound.recordHeld id task found
  assignedHeld := sound.assignedHeld
  acknowledgedHeld := sound.acknowledgedHeld
  logPrivate := sound.logPrivate

theorem Sound.assignTo (sound : s.Sound) {activeIdx : Nat} {worker : WorkerId}
    {state : WorkerState} (offers : s.Offers activeIdx worker state) (task : Task)
    (now : Nanoseconds) : (s.assignTo task activeIdx worker state.fd now).Sound where
  activeHeld := by simpa using sound.activeHeld
  freeHeld := by simpa using sound.freeHeld
  queuedKnown := fun id member => TaskTable.known_set (sound.queuedKnown id member)
  runningKnown := by
    intro other id runs
    obtain ⟨rfl, rfl⟩ | runs := (runs_assignTo offers.held).mp runs
    · exact ⟨task.assignedTo other now, TaskTable.find?_set_self _ _⟩
    · exact TaskTable.known_set (sound.runningKnown other id runs)
  recordHeld := by
    intro id stored found
    rw [assignTo_tasks, TaskTable.find?_set] at found
    simp only [assignTo_workersStates, List.length_modify]
    split at found
    next =>
      cases found
      exact .inr (lt_of_held offers.held)
    next => exact sound.recordHeld id stored found
  assignedHeld := by
    intro id _
    simpa using Nat.zero_lt_of_lt (lt_of_held offers.held)
  acknowledgedHeld := by
    intro other acknowledged
    simpa using sound.acknowledgedHeld other (acknowledged_before rfl rfl acknowledged)
  logPrivate := logPrivate_of_add (s := s) sound.logPrivate rfl rfl

theorem Sound.finish (sound : s.Sound) (msg : CompleteMsg) {id : TaskId} {task : Task}
    (found : s.tasks.find? id = some task) : (s.finish msg task).Sound where
  activeHeld := by simpa using sound.activeHeld
  freeHeld := by simpa using sound.freeHeld
  queuedKnown := fun id member => TaskTable.known_set (sound.queuedKnown id member)
  runningKnown := fun worker id runs =>
    TaskTable.known_set (sound.runningKnown worker id (runs_finish.mp runs).2)
  recordHeld := by
    intro other stored foundOther
    rw [finish_tasks, TaskTable.find?_set] at foundOther
    simp only [finish_workersStates, List.length_modify]
    split at foundOther
    next =>
      cases foundOther
      exact sound.recordHeld id task found
    next => exact sound.recordHeld other stored foundOther
  assignedHeld := by simpa [Assigned] using sound.assignedHeld
  acknowledgedHeld := by simpa [Acknowledged] using sound.acknowledgedHeld
  logPrivate := sound.logPrivate

theorem Sound.answer (sound : s.Sound) (task : Task) : (s.answer task).Sound where
  activeHeld := sound.activeHeld
  freeHeld := sound.freeHeld
  queuedKnown := sound.queuedKnown
  runningKnown := sound.runningKnown
  recordHeld := sound.recordHeld
  assignedHeld := fun id assigned => sound.assignedHeld id (assigned_before rfl rfl assigned)
  acknowledgedHeld := fun worker acknowledged =>
    sound.acknowledgedHeld worker (acknowledged_before rfl rfl acknowledged)
  logPrivate := logPrivate_of_add (s := s) sound.logPrivate rfl rfl

theorem Sound.replicateOne (sound : s.Sound) : s.replicateOne.Sound where
  activeHeld := sound.activeHeld
  freeHeld := sound.freeHeld
  queuedKnown := sound.queuedKnown
  runningKnown := sound.runningKnown
  recordHeld := sound.recordHeld
  assignedHeld := by
    intro id assigned
    obtain ⟨noAssign, _, _⟩ := sound.logPrivate.head
    exact sound.assignedHeld id (assigned_before rfl noAssign assigned)
  acknowledgedHeld := by
    intro worker acknowledged
    obtain ⟨_, _, noAcknowledge⟩ := sound.logPrivate.head
    exact sound.acknowledgedHeld worker (acknowledged_before rfl noAcknowledge acknowledged)
  logPrivate := sound.logPrivate

/-- Entries may leave the backlogs, and known ids may join the queued one. -/
theorem Sound.withBacklogs (sound : s.Sound) {queued completed : List TaskId}
    (known : ∀ id ∈ queued, ∃ task, s.tasks.find? id = some task) :
    { s with queuedBacklog := queued, completedBacklog := completed }.Sound where
  activeHeld := sound.activeHeld
  freeHeld := sound.freeHeld
  queuedKnown := known
  runningKnown := sound.runningKnown
  recordHeld := sound.recordHeld
  assignedHeld := sound.assignedHeld
  acknowledgedHeld := sound.acknowledgedHeld
  logPrivate := sound.logPrivate

theorem Sound.heartbeat (sound : s.Sound) (worker : WorkerId) (now : Nanoseconds) :
    (s.modifyWorker worker fun state =>
      { state with lastHeartbeatNs := now, alive := true }).Sound where
  activeHeld := by simpa using sound.activeHeld
  freeHeld := by simpa using sound.freeHeld
  queuedKnown := sound.queuedKnown
  runningKnown := by
    intro other id runs
    refine sound.runningKnown other id ((runs_of_modify_keeps rfl ?_).mp runs)
    exact fun _ => rfl
  recordHeld := by simpa using sound.recordHeld
  assignedHeld := by simpa [Assigned] using sound.assignedHeld
  acknowledgedHeld := by simpa [Acknowledged] using sound.acknowledgedHeld
  logPrivate := sound.logPrivate

/-- A registration sends one acknowledgement. -/
theorem acknowledged_of_registered {fd : Fd} {worker other : WorkerId}
    (sent : s'.outgoingQueue = s.outgoingQueue ++ [acknowledgement fd worker])
    (acknowledged : s'.Acknowledged other) : other = worker ∨ s.Acknowledged other := by
  obtain before | given := acknowledged_of_push sent acknowledged
  · exact .inr before
  · rw [acknowledges?_acknowledgement, Option.some.injEq] at given
    exact .inl given.symm

theorem Sound.registerReused (sound : s.Sound) {worker : WorkerId} (fd : Fd)
    (now : Nanoseconds) (free : s.availableIds.getLast? = some worker) :
    (s.registerReused fd worker now).Sound where
  activeHeld := by
    intro other member
    simp only [registerReused_activeWorkers, List.mem_append, List.mem_singleton] at member
    simp only [registerReused_workersStates, List.length_modify]
    obtain member | rfl := member
    · exact sound.activeHeld other member
    · exact sound.freeHeld other (List.mem_of_getLast? free)
  freeHeld := by
    intro other member
    simpa using sound.freeHeld other (List.mem_of_mem_dropLast member)
  queuedKnown := sound.queuedKnown
  runningKnown := by
    intro other id runs
    refine sound.runningKnown other id ((runs_of_modify_keeps rfl ?_).mp runs)
    exact fun _ => rfl
  recordHeld := by simpa using sound.recordHeld
  assignedHeld := by
    intro id assigned
    simpa using sound.assignedHeld id (assigned_before rfl rfl assigned)
  acknowledgedHeld := by
    intro other acknowledged
    simp only [registerReused_workersStates, List.length_modify]
    obtain rfl | acknowledged := acknowledged_of_registered rfl acknowledged
    · exact sound.freeHeld other (List.mem_of_getLast? free)
    · exact sound.acknowledgedHeld other acknowledged
  logPrivate := sound.logPrivate

theorem Sound.registerFresh (sound : s.Sound) (fd : Fd) (now : Nanoseconds) :
    (s.registerFresh fd now).Sound where
  activeHeld := by
    intro other member
    simp only [registerFresh_activeWorkers, List.mem_append, List.mem_singleton] at member
    simp only [registerFresh_workersStates, List.length_append, List.length_singleton]
    obtain member | rfl := member
    · exact Nat.lt_succ_of_lt (sound.activeHeld other member)
    · exact Nat.lt_succ_self _
  freeHeld := by
    intro other member
    simpa using Nat.lt_succ_of_lt (sound.freeHeld other member)
  queuedKnown := sound.queuedKnown
  runningKnown := fun other id runs =>
    sound.runningKnown other id (runs_registerFresh.mp runs)
  recordHeld := by
    intro id task found
    obtain zero | held := sound.recordHeld id task found
    · exact .inl zero
    · exact .inr (by simpa using Nat.lt_succ_of_lt held)
  assignedHeld := by simp
  acknowledgedHeld := by
    intro other acknowledged
    simp only [registerFresh_workersStates, List.length_append, List.length_singleton]
    obtain rfl | acknowledged := acknowledged_of_registered rfl acknowledged
    · exact Nat.lt_succ_self _
    · exact Nat.lt_succ_of_lt (sound.acknowledgedHeld other acknowledged)
  logPrivate := sound.logPrivate

/-- Marking a worker inactive removes an element of the active workers and keeps the
number of workers. -/
theorem markInactive_held {worker : WorkerId} {inactive : Coordinator}
    (marked : s.markInactive worker = .ok inactive) :
    inactive.workersStates.length = s.workersStates.length ∧
      ∀ other ∈ inactive.activeWorkers, other ∈ s.activeWorkers := by
  obtain ⟨rfl, _⟩ | ⟨last, state, final, _, _, rfl⟩ := markInactive_spec marked
  · exact ⟨rfl, fun other member => member⟩
  · refine ⟨by simp, fun other member => ?_⟩
    obtain member | rfl := List.mem_or_eq_of_mem_set (List.mem_of_mem_dropLast member)
    · exact member
    · exact List.mem_of_getLast? final

theorem Sound.declareDead (sound : s.Sound) {worker : WorkerId} {state : WorkerState}
    {running : List TaskId} {dead : Coordinator}
    (held : s.workersStates[worker]? = some state)
    (order : running.Perm state.runningTasks.items)
    (declared : s.declareDead worker running = .ok dead) : dead.Sound := by
  obtain ⟨inactive, marked, frame, table⟩ := declareDead_spec declared
  obtain ⟨sameLength, activeKept⟩ := markInactive_held marked
  have length : dead.workersStates.length = s.workersStates.length := by
    rw [frame]
    simpa using sameLength
  have known : ∀ id, (∃ task, s.tasks.find? id = some task) →
      ∃ task, dead.tasks.find? id = some task := by
    rintro id ⟨task, found⟩
    rw [table id, found]
    exact ⟨_, rfl⟩
  exact {
    activeHeld := by
      intro other member
      rw [frame] at member
      rw [length]
      exact sound.activeHeld other (activeKept other member)
    freeHeld := by
      intro other member
      rw [frame] at member
      rw [length]
      obtain member | rfl := List.mem_append.mp member |>.imp_right List.mem_singleton.mp
      · exact sound.freeHeld other member
      · exact lt_of_held held
    queuedKnown := by
      intro id member
      rw [frame] at member
      obtain member | member := List.mem_append.mp member
      · exact known id (sound.queuedKnown id member)
      · exact known id (sound.runningKnown worker id ⟨state, held, order.mem_iff.mp member⟩)
    runningKnown := fun other id runs =>
      known id (sound.runningKnown other id ((runs_declareDead declared).mp runs).2)
    recordHeld := by
      intro id task found
      rw [table id] at found
      obtain ⟨before, foundBefore, rfl⟩ := Option.map_eq_some_iff.mp found
      rw [length]
      have heldBefore := sound.recordHeld id before foundBefore
      split
      next => simpa using heldBefore
      next => exact heldBefore
    assignedHeld := by
      intro id assigned
      rw [length]
      rw [frame] at assigned
      exact sound.assignedHeld id assigned
    acknowledgedHeld := by
      intro other acknowledged
      rw [length]
      rw [frame] at acknowledged
      exact sound.acknowledgedHeld other acknowledged
    logPrivate := by
      rw [frame]
      exact sound.logPrivate }

theorem Sound.move (sound : s.Sound) (move : Move event s s') : s'.Sound := by
  cases move with
  | replicated => exact sound.replicateOne
  | dropped => exact sound.withBacklogs sound.queuedKnown
  | @answered _ _ task =>
      have answered := sound.answer task
      exact answered.withBacklogs answered.queuedKnown
  | @assigned _ _ task _ _ _ now _ front _ offers =>
      have assigned := sound.assignTo offers task now
      refine assigned.withBacklogs fun id member => assigned.queuedKnown id ?_
      simpa [front] using Or.inr member
  | died _ held _ order declared => exact sound.declareDead held order declared

theorem Sound.moves (sound : s.Sound) (moves : Moves event s s') : s'.Sound := by
  refine kept_of_moves ?_ moves sound
  intro first second move sound
  exact sound.move move

theorem Sound.received (sound : s.Sound) (admitted : s.LocalEvent event)
    (received : Received s event s') : s'.Sound := by
  cases received with
  | submitAssigned now offers =>
      exact (sound.accept _ _ _).assignTo ⟨offers.active, offers.held, offers.room⟩ _ now
  | @submitQueued fd msg env =>
      have accepted := sound.accept fd msg env.now
      refine accepted.withBacklogs fun id member => ?_
      obtain member | rfl := List.mem_append.mp member |>.imp_right List.mem_singleton.mp
      · exact accepted.queuedKnown id member
      · exact ⟨_, by rw [accept_tasks, ← SubmitMsg.task_id msg env.now,
          TaskTable.find?_set_self]⟩
  | completeUnknown => exact { sound with }
  | @completeAnswered _ msg _ _ _ found => exact (sound.finish msg found).answer _
  | @completeDeferred _ msg _ _ _ found =>
      have finished := sound.finish msg found
      exact finished.withBacklogs finished.queuedKnown
  | heartbeat => exact sound.heartbeat _ _
  | registerRefused => exact sound
  | registerReused _ free _ now => exact sound.registerReused _ now free
  | registerFresh _ _ now => exact sound.registerFresh _ now
  | pass | backlog | replicate | sweep => exact sound
  | assignedReplicate | completedReplicate | snapshot | peerReconnected | topRequest =>
      cases admitted

theorem sound_preserved : Preserves step LocalEvent Sound :=
  preserves_of_moves (fun _ _ _ sound admitted => sound.received admitted)
    (fun _ _ _ _ _ move sound => sound.move move)

/-! ## Progress -/

theorem firstAvailable_ok (sound : s.Sound) (rounds i : Nat)
    (nonempty : rounds = 0 ∨ 0 < s.activeWorkers.length) :
    ∃ found, s.firstAvailable rounds i = .ok found := by
  induction rounds generalizing i with
  | zero => exact ⟨none, rfl⟩
  | succ rounds ih =>
      have positive : 0 < s.activeWorkers.length := by
        obtain none | some := nonempty
        · cases none
        · exact some
      have inside := Nat.mod_lt (s.rrIndex + i) positive
      have active := List.getElem?_eq_getElem inside
      obtain ⟨state, held⟩ := held_of_lt (sound.activeHeld _ (List.getElem_mem inside))
      simp only [firstAvailable, active, workerAt_eq_ok.mpr held, bind, Except.bind]
      split
      next => exact ih (i + 1) (.inr positive)
      next => exact ⟨_, rfl⟩

theorem assign_ok (sound : s.Sound) (task : Task) (env : Env) :
    ∃ assigned next remaining, s.assign task env = .ok (assigned, next, remaining) := by
  obtain ⟨found, searched⟩ := firstAvailable_ok sound s.activeWorkers.length 0
    (Nat.eq_zero_or_pos _)
  simp only [assign, searched, bind, Except.bind]
  cases found with
  | none => exact ⟨_, _, _, rfl⟩
  | some choice =>
      simp only
      split
      next => exact ⟨_, _, _, rfl⟩
      next => exact ⟨_, _, _, rfl⟩

theorem processQueued_ok (drains : event.Drains) (backlog : List TaskId) (sound : s.Sound)
    (env : Env) (same : s.queuedBacklog = backlog) :
    ∃ next remaining, processQueued backlog s env = .ok (next, remaining) := by
  induction backlog generalizing s env with
  | nil => exact ⟨s, env, rfl⟩
  | cons id rest ih =>
      obtain ⟨task, found⟩ := sound.queuedKnown id (by simp [same])
      obtain ⟨assigned, next, remaining, called⟩ := assign_ok sound task env
      simp only [processQueued, taskAt_eq_ok.mpr found, called, bind, Except.bind]
      obtain ⟨rfl, activeIdx, worker, state, now, offers, rfl⟩ | ⟨rfl, rfl⟩ :=
        assign_spec called
      · have moved := sound.move (Move.assigned now drains same found offers)
        have replicated := moved.moves (@replicate_moves event _ remaining)
        exact ih replicated _ (replicateRounds_keeps queuedBacklog (fun _ => rfl) _ _ _)
      · exact ⟨_, _, rfl⟩

theorem processBacklog_ok (drains : event.Drains) (sound : s.Sound) (env : Env) :
    ∃ next remaining, s.processBacklog env = .ok (next, remaining) := by
  have drained := sound.moves (processCompleted_moves drains _ s env rfl)
  exact processQueued_ok drains _ drained _ rfl

theorem markInactive_ok
    (activeHeld : ∀ active ∈ s.activeWorkers, active < s.workersStates.length)
    {worker : WorkerId} {state : WorkerState}
    (held : s.workersStates[worker]? = some state) :
    ∃ inactive, s.markInactive worker = .ok inactive := by
  unfold markInactive
  cases final : s.activeWorkers.getLast? with
  | none => exact ⟨s, rfl⟩
  | some last =>
      obtain ⟨lastState, lastHeld⟩ :=
        held_of_lt (activeHeld last (List.mem_of_getLast? final))
      simp only [workerAt_eq_ok.mpr held, workerAt_eq_ok.mpr lastHeld, bind, Except.bind]
      split
      next => exact ⟨_, rfl⟩
      next => exact ⟨_, rfl⟩

theorem requeue_ok (ids : List TaskId)
    (known : ∀ id ∈ ids, ∃ task, s.tasks.find? id = some task) :
    ∃ requeued, requeue ids s = .ok requeued := by
  induction ids generalizing s with
  | nil => exact ⟨s, rfl⟩
  | cons id rest ih =>
      obtain ⟨task, found⟩ := known id List.mem_cons_self
      simp only [requeue, taskAt_eq_ok.mpr found, bind, Except.bind]
      apply ih
      intro other member
      exact TaskTable.known_set (known other (List.mem_cons_of_mem id member))

/-- Declaring a worker dead succeeds when the active workers have states and its tasks have
records. -/
theorem declareDead_ok
    (activeHeld : ∀ active ∈ s.activeWorkers, active < s.workersStates.length)
    {worker : WorkerId} {state : WorkerState} {running : List TaskId}
    (held : s.workersStates[worker]? = some state)
    (known : ∀ id ∈ running, ∃ task, s.tasks.find? id = some task) :
    ∃ dead, s.declareDead worker running = .ok dead := by
  obtain ⟨inactive, marked⟩ := markInactive_ok activeHeld held
  have sameTable : inactive.tasks = s.tasks := by
    obtain ⟨rfl, _⟩ | ⟨_, _, _, _, _, rfl⟩ := markInactive_spec marked
    · rfl
    · rfl
  simp only [declareDead, marked, bind, Except.bind]
  obtain ⟨requeued, called⟩ := requeue_ok (s := { inactive with
      availableIds := inactive.availableIds ++ [worker] }.modifyWorker worker
        WorkerState.markDead) running (by
    intro id member
    rw [modifyWorker_tasks, sameTable]
    exact known id member)
  rw [called]
  exact ⟨_, rfl⟩

theorem isAlive_ok (sound : s.Sound) {worker : WorkerId}
    (bound : worker < s.workersStates.length) (env : Env) :
    ∃ alive next remaining, s.isAlive worker env = .ok (alive, next, remaining) := by
  obtain ⟨state, held⟩ := held_of_lt bound
  simp only [isAlive, workerAt_eq_ok.mpr held, bind, Except.bind]
  split
  next => exact ⟨_, _, _, rfl⟩
  next =>
    split
    next => exact ⟨_, _, _, rfl⟩
    next =>
      have order := Unordered.arrange_perm (env.order worker) state.runningTasks.items
      obtain ⟨dead, declared⟩ := declareDead_ok sound.activeHeld held fun id member =>
        sound.runningKnown worker id ⟨state, held, order.mem_iff.mp member⟩
      rw [declared]
      exact ⟨_, _, _, rfl⟩

/-- No move changes the number of workers. -/
theorem length_of_moves (moves : Moves event s s') :
    s'.workersStates.length = s.workersStates.length := by
  induction moves with
  | refl => rfl
  | tail _ move ih =>
      rw [← ih]
      cases move with
      | assigned => simp
      | died _ _ _ _ declared =>
          obtain ⟨_, marked, frame, _⟩ := declareDead_spec declared
          rw [frame]
          simpa using (markInactive_held marked).1
      | _ => rfl

theorem sweepFrom_ok (sweeps : event.Sweeps) (workers : List WorkerId) (sound : s.Sound)
    (bounds : ∀ worker ∈ workers, worker < s.workersStates.length) (env : Env) :
    ∃ next remaining, sweepFrom workers s env = .ok (next, remaining) := by
  induction workers generalizing s env with
  | nil => exact ⟨s, env, rfl⟩
  | cons worker rest ih =>
      obtain ⟨alive, next, remaining, called⟩ :=
        isAlive_ok sound (bounds worker List.mem_cons_self) env
      have moves := isAlive_moves sweeps called
      simp only [sweepFrom, called, bind, Except.bind]
      apply ih (sound.moves moves)
      intro other member
      rw [length_of_moves moves]
      exact bounds other (List.mem_cons_of_mem worker member)

theorem processHeartbeatEvent_ok {worker : WorkerId} {state : WorkerState}
    (held : s.workersStates[worker]? = some state) (env : Env) :
    s.processHeartbeatEvent worker env = .ok (s.modifyWorker worker fun state =>
      { state with lastHeartbeatNs := env.now, alive := true }) := by
  simp only [processHeartbeatEvent, workerAt_eq_ok.mpr held, bind, Except.bind]

/-- On the traffic of clients and workers the scheduler never faults. -/
theorem sound_progresses : Progresses step LocalEvent Sound := by
  intro s event sound admitted
  cases event with
  | submit fd msg env =>
      obtain ⟨assigned, next, remaining, called⟩ :=
        assign_ok (sound.accept fd msg env.now) (msg.task env.now) env.afterNow
      simp only [step, processSubmitEvent, called, bind, Except.bind]
      cases assigned with
      | true => exact ⟨_, rfl⟩
      | false => exact ⟨_, rfl⟩
  | complete fd msg env =>
      simp only [step, processCompleteEvent]
      cases found : s.tasks.find? msg.taskId with
      | none => exact ⟨_, rfl⟩
      | some task =>
          obtain ⟨state, held⟩ := held_of_lt (admitted task found)
          simp only [workerAt_eq_ok.mpr held, bind, Except.bind, sendResult]
          cases env.accepts with
          | true => exact ⟨_, rfl⟩
          | false => exact ⟨_, rfl⟩
  | heartbeat worker env =>
      obtain ⟨state, held⟩ := held_of_lt admitted
      exact ⟨_, processHeartbeatEvent_ok held env⟩
  | register fd env =>
      simp only [step, processRegisterEvent]
      cases free : s.availableIds.getLast? with
      | none => exact ⟨_, rfl⟩
      | some worker =>
          obtain ⟨state, held⟩ := held_of_lt (sound.freeHeld worker (List.mem_of_getLast? free))
          simp only [workerAt_eq_ok.mpr held, bind, Except.bind]
          split
          next => exact ⟨_, rfl⟩
          next => exact ⟨_, rfl⟩
  | pass env =>
      have drains : Event.Drains (.pass env) := trivial
      obtain ⟨next, remaining, called⟩ := processBacklog_ok drains sound env
      simp only [step, called, bind, Except.bind]
      split
      next => exact ⟨_, rfl⟩
      next => exact ⟨_, rfl⟩
  | backlog env =>
      have drains : Event.Drains (.backlog env) := trivial
      obtain ⟨next, remaining, called⟩ := processBacklog_ok drains sound env
      exact ⟨next, map_fst_eq_ok.mpr ⟨remaining, called⟩⟩
  | replicate env => exact ⟨_, rfl⟩
  | sweep env =>
      have sweeps : Event.Sweeps (.sweep env) := trivial
      obtain ⟨next, remaining, called⟩ := sweepFrom_ok sweeps
        (List.range s.workersStates.length) sound (fun _ => List.mem_range.mp) env
      exact ⟨next, map_fst_eq_ok.mpr ⟨remaining, called⟩⟩
  | assignedReplicate | completedReplicate | snapshot | peerReconnected | topRequest =>
      cases admitted

/-! ## Traffic under ids that have been given out -/

/-- Traffic in which a completion names a task that has been assigned, and a heartbeat
carries an id that has been acknowledged. -/
def Traffic (s : Coordinator) : Event → Prop
  | .submit .. | .register .. | .pass _ | .backlog _ | .replicate _ | .sweep _ => True
  | .complete _ msg _ => s.Assigned msg.taskId
  | .heartbeat worker _ => s.Acknowledged worker
  | _ => False

instance (s : Coordinator) : (event : Event) → Decidable (s.Traffic event)
  | .submit .. | .register .. | .pass _ | .backlog _ | .replicate _ | .sweep _ => isTrue trivial
  | .complete _ msg _ => inferInstanceAs (Decidable (s.Assigned msg.taskId))
  | .heartbeat worker _ => inferInstanceAs (Decidable (s.Acknowledged worker))
  | .assignedReplicate .. | .completedReplicate _ | .snapshot .. | .peerReconnected _
  | .topRequest .. => isFalse id

theorem Sound.localEvent (sound : s.Sound) (admitted : s.Traffic event) :
    s.LocalEvent event := by
  cases event with
  | complete fd msg env =>
      intro task found
      obtain zero | held := sound.recordHeld _ task found
      · rw [zero]
        exact sound.assignedHeld _ admitted
      · exact held
  | heartbeat worker env => exact sound.acknowledgedHeld worker admitted
  | _ => exact admitted

theorem sound_preserved_traffic : Preserves step Traffic Sound :=
  sound_preserved.weaken fun _ _ sound admitted => sound.localEvent admitted

theorem sound_progresses_traffic : Progresses step Traffic Sound :=
  sound_progresses.weaken fun _ _ sound admitted => sound.localEvent admitted

end Coordinator

end TaskCoordinator
