import TaskCoordinator.Coordinator.Faults

/-!
# Indices into the worker table

The ids in `active_workers_` and `available_ids_` are positions of `workers_states_`, and so
are the ids that registrations have been acknowledged with.  The `worker_id_` of a task is one
if the task has been assigned here.  Otherwise it is the default 0, or it has come with a
replication message from the peer, which counts its own workers, and
`process_complete_event` uses it unchecked.
-/

namespace TaskCoordinator

@[simp] theorem AssignedReplicationMsg.task_workerId (msg : AssignedReplicationMsg) :
    msg.task.workerId = msg.workerId := by
  unfold AssignedReplicationMsg.task
  cases msg.taskType <;> rfl

/-- The event is a replication message that carries the worker id for the task. -/
def Event.Brings (event : Event) (id : TaskId) (worker : WorkerId) : Prop :=
  match event with
  | .assignedReplicate _ msg => msg.taskId = id ∧ msg.workerId = worker
  | .completedReplicate replication =>
      replication.msg.taskId = id ∧ replication.msg.workerId = worker
  | .snapshot _ tasks _ => ∃ task, tasks.find? id = some task ∧ task.workerId = worker
  | _ => False

def Event.isRegister : Event → Bool
  | .register .. => true
  | _ => false

namespace Coordinator

open Transition

/-- One of the events is a replication message that carries the worker id for the task. -/
def Brought (events : List Event) (id : TaskId) (worker : WorkerId) : Prop :=
  ∃ event ∈ events, event.Brings id worker

/-- Heartbeats carry ids that have been acknowledged, and completions come on connections on
which a registration has been. -/
def FromRegistered (s : Coordinator) : Event → Prop
  | .heartbeat worker _ => s.Acknowledged worker
  | .complete fd _ _ =>
      ∃ sent ∈ s.outgoingQueue, sent.fd = fd ∧ sent.msg.acknowledges?.isSome = true
  | _ => True

variable {s s' : Coordinator} {event : Event} {before events : List Event} {id : TaskId}

theorem Brought.append {worker : WorkerId} (brought : Brought before id worker) :
    Brought (before ++ [event]) id worker := by
  obtain ⟨earlier, member, brings⟩ := brought
  exact ⟨earlier, List.mem_append_left _ member, brings⟩

theorem brought_last {worker : WorkerId} (brings : event.Brings id worker) :
    Brought (before ++ [event]) id worker :=
  ⟨event, by simp, brings⟩

/-! ## The ids of workers -/

/-- The ids that the coordinator keeps and has given out are positions of the worker table. -/
structure Pooled (s : Coordinator) : Prop where
  activeHeld : ∀ worker ∈ s.activeWorkers, worker < s.workersStates.length
  freeHeld : ∀ worker ∈ s.availableIds, worker < s.workersStates.length
  acknowledgedHeld : ∀ worker, s.Acknowledged worker → worker < s.workersStates.length
  logPrivate : s.LogPrivate

theorem pooled_init : Pooled init where
  activeHeld := by simp [init]
  freeHeld := by simp [init]
  acknowledgedHeld := by simp [init, Acknowledged]
  logPrivate := logPrivate_init

/-- The table does not shrink, and every new id is a position of it. -/
theorem Pooled.of_grown (pooled : s.Pooled)
    (length : s.workersStates.length ≤ s'.workersStates.length)
    (active : ∀ worker ∈ s'.activeWorkers,
      worker ∈ s.activeWorkers ∨ worker < s'.workersStates.length)
    (free : ∀ worker ∈ s'.availableIds,
      worker ∈ s.availableIds ∨ worker < s'.workersStates.length)
    (acknowledged : ∀ worker, s'.Acknowledged worker →
      s.Acknowledged worker ∨ worker < s'.workersStates.length)
    (logPrivate : s'.LogPrivate) : s'.Pooled where
  activeHeld := fun worker member =>
    (active worker member).elim (fun old => (pooled.activeHeld worker old).trans_le length) id
  freeHeld := fun worker member =>
    (free worker member).elim (fun old => (pooled.freeHeld worker old).trans_le length) id
  acknowledgedHeld := fun worker given =>
    (acknowledged worker given).elim
      (fun old => (pooled.acknowledgedHeld worker old).trans_le length) id
  logPrivate := logPrivate

/-- No id is new. -/
theorem Pooled.of_same (pooled : s.Pooled)
    (length : s'.workersStates.length = s.workersStates.length)
    (active : s'.activeWorkers = s.activeWorkers) (free : s'.availableIds = s.availableIds)
    (acknowledged : ∀ worker, s'.Acknowledged worker → s.Acknowledged worker)
    (logPrivate : s'.LogPrivate) : s'.Pooled :=
  pooled.of_grown length.ge (fun _ member => .inl (active ▸ member))
    (fun _ member => .inl (free ▸ member)) (fun worker given => .inl (acknowledged worker given))
    logPrivate

theorem Pooled.received (pooled : s.Pooled) (received : Received s event s') : s'.Pooled := by
  have logPrivate := pooled.logPrivate.received received
  cases received with
  | submitAssigned | completeAnswered =>
      exact pooled.of_same (by simp) rfl rfl (fun _ => acknowledged_before rfl rfl) logPrivate
  | completeDeferred | heartbeat =>
      exact pooled.of_same (by simp) rfl rfl (fun _ given => given) logPrivate
  | topRequest =>
      exact pooled.of_same rfl rfl rfl (fun _ => acknowledged_before rfl rfl) logPrivate
  | assignedReplicate =>
      rw [assignReplicate_frame] at logPrivate ⊢
      exact pooled.of_same rfl rfl rfl (fun _ given => given) logPrivate
  | completedReplicate =>
      rw [completeReplicate_frame] at logPrivate ⊢
      exact pooled.of_same rfl rfl rfl (fun _ given => given) logPrivate
  | peerReconnected =>
      unfold processPeerReconnected at logPrivate ⊢
      split_ifs
      · exact pooled.of_same rfl rfl rfl (fun _ => acknowledged_before rfl rfl) pooled.logPrivate
      · exact pooled.of_same rfl rfl rfl (fun _ given => given) pooled.logPrivate
      · exact pooled
  | @registerReused _ _ worker _ _ free =>
      have held := pooled.freeHeld worker (List.mem_of_getLast? free)
      refine pooled.of_grown (by simp) (fun other member => ?_) (fun other member => ?_)
        (fun other given => ?_) logPrivate
      · simp only [registerReused_activeWorkers, List.mem_append, List.mem_singleton] at member
        obtain member | rfl := member
        · exact .inl member
        · exact .inr (by simpa using held)
      · exact .inl (List.mem_of_mem_dropLast member)
      · obtain rfl | given := acknowledged_of_registered rfl given
        · exact .inr (by simpa using held)
        · exact .inl given
  | registerFresh =>
      refine pooled.of_grown (by simp) (fun other member => ?_) (fun _ => .inl)
        (fun other given => ?_) logPrivate
      · simp only [registerFresh_activeWorkers, List.mem_append, List.mem_singleton] at member
        obtain member | rfl := member
        · exact .inl member
        · exact .inr (by simp)
      · obtain rfl | given := acknowledged_of_registered rfl given
        · exact .inr (by simp)
        · exact .inl given
  | submitQueued | completeUnknown | snapshot | registerRefused | pass | backlog | replicate
  | sweep => exact pooled.of_same rfl rfl rfl (fun _ given => given) logPrivate

theorem Pooled.move (pooled : s.Pooled) (move : Move event s s') : s'.Pooled := by
  have logPrivate := pooled.logPrivate.move move
  cases move with
  | replicated =>
      have notAck := pooled.logPrivate.head.2.2
      exact pooled.of_same rfl rfl rfl (fun _ => acknowledged_before rfl notAck) logPrivate
  | dropped => exact pooled.of_same rfl rfl rfl (fun _ given => given) logPrivate
  | answered =>
      exact pooled.of_same rfl rfl rfl (fun _ => acknowledged_before rfl rfl) logPrivate
  | assigned =>
      exact pooled.of_same (by simp) rfl rfl (fun _ => acknowledged_before rfl rfl) logPrivate
  | @died dead worker _ _ _ held _ _ declared =>
      obtain ⟨inactive, marked, frame, _⟩ := declareDead_spec declared
      obtain ⟨sameLength, activeKept⟩ := markInactive_held marked
      have length : s'.workersStates.length = s.workersStates.length := by
        rw [frame]
        simpa using sameLength
      refine pooled.of_grown length.ge (fun other member => ?_) (fun other member => ?_)
        (fun other given => ?_) logPrivate
      · rw [frame] at member
        exact .inl (activeKept other member)
      · rw [frame] at member
        obtain member | rfl := List.mem_append.mp member |>.imp_right List.mem_singleton.mp
        · exact .inl member
        · exact .inr (length ▸ lt_of_held held)
      · rw [frame] at given
        exact .inl given

/-! ## The ids in the records -/

/-- Where the worker id of a record can come from. -/
def Sourced (before : List Event) (s : Coordinator) (id : TaskId) (worker : WorkerId) : Prop :=
  worker = 0 ∨ worker < s.workersStates.length ∨ Brought before id worker

/-- The ids in the records are explained by what has happened, and so are those of the
completions that wait for their assignment. -/
structure Indexed (before : List Event) (s : Coordinator) : Prop where
  pooled : s.Pooled
  recorded : ∀ id task, s.tasks.find? id = some task → Sourced before s id task.workerId
  stashed : ∀ id early, s.earlyCompleteReps.lookup id = some early →
    Brought before early.msg.taskId early.msg.workerId

theorem indexed_init : Indexed [] init where
  pooled := pooled_init
  recorded := by simp [init]
  stashed := by simp [init]

theorem Sourced.grown {worker : WorkerId} (sourced : Sourced before s id worker)
    (length : s.workersStates.length ≤ s'.workersStates.length) : Sourced before s' id worker :=
  sourced.imp_right (.imp_left fun held => held.trans_le length)

theorem Sourced.append {worker : WorkerId} (sourced : Sourced before s id worker) :
    Sourced (before ++ [event]) s id worker :=
  sourced.imp_right (.imp_right Brought.append)

theorem Indexed.append (indexed : Indexed before s) : Indexed (before ++ [event]) s where
  pooled := indexed.pooled
  recorded := fun id task found => (indexed.recorded id task found).append
  stashed := fun id early found => (indexed.stashed id early found).append

/-- Records keep their worker ids, or get one that is explained. -/
theorem Indexed.of_table (indexed : Indexed before s) (pooled : s'.Pooled)
    (length : s.workersStates.length ≤ s'.workersStates.length)
    (recorded : ∀ id task, s'.tasks.find? id = some task →
      (∃ stored, s.tasks.find? id = some stored ∧ stored.workerId = task.workerId) ∨
        Sourced before s' id task.workerId)
    (stash : s'.earlyCompleteReps = s.earlyCompleteReps) : Indexed before s' where
  pooled := pooled
  recorded := by
    intro id task found
    obtain ⟨stored, foundStored, same⟩ | sourced := recorded id task found
    · exact same ▸ (indexed.recorded id stored foundStored).grown length
    · exact sourced
  stashed := by
    rw [stash]
    exact indexed.stashed

/-- One record is written. -/
theorem recorded_of_set {task : Task} (table : s'.tasks = s.tasks.set task)
    (sourced : (∃ stored, s.tasks.find? task.id = some stored ∧ stored.workerId = task.workerId) ∨
      Sourced before s' task.id task.workerId) {stored : Task}
    (found : s'.tasks.find? id = some stored) :
    (∃ old, s.tasks.find? id = some old ∧ old.workerId = stored.workerId) ∨
      Sourced before s' id stored.workerId := by
  rw [table, TaskTable.find?_set] at found
  split at found
  next same =>
    cases found
    rw [same]
    exact sourced
  next => exact .inl ⟨stored, found, rfl⟩

theorem recorded_of_same (table : s'.tasks = s.tasks) {stored : Task}
    (found : s'.tasks.find? id = some stored) :
    (∃ old, s.tasks.find? id = some old ∧ old.workerId = stored.workerId) ∨
      Sourced before s' id stored.workerId :=
  .inl ⟨stored, table ▸ found, rfl⟩

theorem Indexed.accept (indexed : Indexed before s) (fd : Fd) (msg : SubmitMsg)
    (now : Nanoseconds) : Indexed before (s.accept fd msg now) := by
  have pooled := indexed.pooled
  refine indexed.of_table
    (pooled.of_same rfl rfl rfl (fun _ given => given) pooled.logPrivate) le_rfl ?_ rfl
  intro id task
  exact recorded_of_set rfl (.inr (.inl (SubmitMsg.task_workerId msg now)))

theorem Indexed.assignTo (indexed : Indexed before s) {activeIdx : Nat} {worker : WorkerId}
    {state : WorkerState} (offers : s.Offers activeIdx worker state) (task : Task)
    (now : Nanoseconds) :
    Indexed before (s.assignTo task activeIdx worker state.fd now) := by
  have pooled := indexed.pooled
  refine indexed.of_table (pooled.of_same (by simp) rfl rfl
    (fun _ => acknowledged_before rfl rfl)
    (logPrivate_of_add (s := s) pooled.logPrivate rfl rfl)) (by simp) ?_ rfl
  intro id stored
  refine recorded_of_set rfl (.inr (.inr (.inl ?_)))
  simpa using lt_of_held offers.held

theorem Indexed.finish (indexed : Indexed before s) (msg : CompleteMsg) {task : Task}
    (found : s.tasks.find? msg.taskId = some task) : Indexed before (s.finish msg task) := by
  have pooled := indexed.pooled
  refine indexed.of_table (pooled.of_same (by simp) rfl rfl (fun _ given => given)
    pooled.logPrivate) (by simp) ?_ rfl
  intro id stored
  refine recorded_of_set (finish_tasks s msg task) (.inl ⟨task, ?_, rfl⟩)
  rwa [CompleteMsg.update_id, TaskTable.id_of_find? found]

/-! ## Replication messages -/

/-- A `COMPLETED_REPLICATE` writes its worker id into the record of its task or is stashed. -/
theorem Indexed.completeReplicate {replication : CompletedReplication}
    (indexed : Indexed before s)
    (brought : Brought before replication.msg.taskId replication.msg.workerId) :
    Indexed before (s.processCompleteReplicateEvent replication) := by
  have old := indexed.pooled
  rcases completeReplicate_cases s replication with outdated | stashed | ⟨stored, found, _, completed⟩
  · rw [outdated]
    exact indexed.of_table (old.of_same rfl rfl rfl (fun _ given => given) old.logPrivate) le_rfl
      (fun _ _ => recorded_of_same rfl) rfl
  · rw [stashed]
    refine ⟨old.of_same rfl rfl rfl (fun _ given => given) old.logPrivate, indexed.recorded, ?_⟩
    intro id early foundEarly
    by_cases same : id = replication.msg.taskId
    · rw [same, AList.lookup_insert] at foundEarly
      cases foundEarly
      exact brought
    · rw [AList.lookup_insert_ne same] at foundEarly
      exact indexed.stashed id early foundEarly
  · rw [completed]
    refine indexed.of_table (old.of_same rfl rfl rfl (fun _ given => given) old.logPrivate) le_rfl
      (fun id task => recorded_of_set rfl (.inr (.inr (.inr ?_)))) rfl
    change Brought before stored.id replication.msg.workerId
    rw [TaskTable.id_of_find? found]
    exact brought

theorem Indexed.assignReplicate {epoch : UInt64} {msg : AssignedReplicationMsg}
    (indexed : Indexed before s) (brought : Brought before msg.taskId msg.workerId) :
    Indexed before (s.processAssignReplicateEvent epoch msg) := by
  have old := indexed.pooled
  unfold processAssignReplicateEvent
  dsimp only
  split
  next =>
    exact indexed.of_table (old.of_same rfl rfl rfl (fun _ given => given) old.logPrivate) le_rfl
      (fun _ _ => recorded_of_same rfl) rfl
  next =>
    have assigned : Indexed before { s with
        isPrimary := false, currentEpoch := epoch, tasks := s.tasks.set msg.task
        metrics := s.metrics.recordAssignment } := by
      refine indexed.of_table (old.of_same rfl rfl rfl (fun _ given => given) old.logPrivate)
        le_rfl (fun id task => recorded_of_set rfl (.inr (.inr (.inr ?_)))) rfl
      rw [AssignedReplicationMsg.task_id, AssignedReplicationMsg.task_workerId]
      exact brought
    split
    next => exact assigned
    next early found =>
      have replayed := assigned.completeReplicate (indexed.stashed _ early found)
      refine ⟨replayed.pooled.of_same rfl rfl rfl (fun _ given => given)
        replayed.pooled.logPrivate, replayed.recorded, fun id kept foundKept => ?_⟩
      by_cases same : id = msg.taskId
      · rw [same, AList.lookup_erase] at foundKept
        cases foundKept
      · rw [AList.lookup_erase_ne same] at foundKept
        exact replayed.stashed id kept foundKept

/-! ## Runs -/

theorem Indexed.received (indexed : Indexed before s) (received : Received s event s') :
    Indexed (before ++ [event]) s' := by
  have old : Indexed (before ++ [event]) s := indexed.append
  have pooled := indexed.pooled.received received
  cases received with
  | submitAssigned now offers =>
      exact (old.accept _ _ _).assignTo ⟨offers.active, offers.held, offers.room⟩ _ now
  | @submitQueued fd msg env =>
      exact (old.accept fd msg env.now).of_table pooled le_rfl (fun _ _ => recorded_of_same rfl) rfl
  | @completeAnswered _ msg _ _ _ found | @completeDeferred _ msg _ _ _ found =>
      exact (old.finish msg found).of_table pooled le_rfl (fun _ _ => recorded_of_same rfl) rfl
  | assignedReplicate => exact old.assignReplicate (brought_last ⟨rfl, rfl⟩)
  | completedReplicate => exact old.completeReplicate (brought_last ⟨rfl, rfl⟩)
  | snapshot =>
      refine ⟨pooled, fun id task found => ?_, fun id early found => ?_⟩
      · exact .inr (.inr (brought_last ⟨task, found, rfl⟩))
      · cases found
  | peerReconnected =>
      unfold processPeerReconnected at pooled ⊢
      split_ifs at pooled ⊢
      · exact old.of_table pooled le_rfl (fun _ _ => recorded_of_same rfl) rfl
      · exact old.of_table pooled le_rfl (fun _ _ => recorded_of_same rfl) rfl
      · exact old
  | heartbeat | registerReused | registerFresh =>
      exact old.of_table pooled (by simp) (fun _ _ => recorded_of_same rfl) rfl
  | completeUnknown | topRequest | registerRefused | pass | backlog | replicate | sweep =>
      exact old.of_table pooled le_rfl (fun _ _ => recorded_of_same rfl) rfl

theorem Indexed.move (indexed : Indexed before s) (move : Move event s s') :
    Indexed before s' := by
  have pooled := indexed.pooled.move move
  cases move with
  | replicated | dropped | answered =>
      exact indexed.of_table pooled le_rfl (fun _ _ => recorded_of_same rfl) rfl
  | @assigned _ _ task _ _ _ now _ _ _ offers =>
      exact (indexed.assignTo offers task now).of_table pooled le_rfl
        (fun _ _ => recorded_of_same rfl) rfl
  | @died _ _ _ _ _ _ _ _ declared =>
      obtain ⟨_, marked, frame, table⟩ := declareDead_spec declared
      have length : s'.workersStates.length = s.workersStates.length := by
        rw [frame]
        simpa using (markInactive_held marked).1
      refine indexed.of_table pooled length.ge (fun id task found => .inl ?_) (by rw [frame])
      rw [table id] at found
      obtain ⟨stored, foundStored, rfl⟩ := Option.map_eq_some_iff.mp found
      refine ⟨stored, foundStored, ?_⟩
      split
      next => rfl
      next => rfl

theorem indexed_of_run (ran : run events = .ok s) : Indexed events s := by
  have every : Along step (fun _ _ => True) init events := along_of_forall fun _ _ => trivial
  exact history_of_moves (fun _ _ _ _ indexed _ received => indexed.received received)
    (fun _ _ _ _ move indexed => indexed.move move) indexed_init every ran

/-! ## No number wraps -/

/-- How far the tables and the cursor have come after some registrations. -/
structure Reached (registrations : Nat) (s : Coordinator) : Prop where
  states : s.workersStates.length ≤ registrations
  active : s.activeWorkers.length ≤ registrations
  cursor : s.rrIndex ≤ registrations

theorem Reached.mono {fewer more : Nat} (reached : Reached fewer s) (grows : fewer ≤ more) :
    Reached more s :=
  ⟨reached.states.trans grows, reached.active.trans grows, reached.cursor.trans grows⟩

/-- The cursor of an assignment is a position among the active workers. -/
theorem cursor_of_offers {registrations activeIdx : Nat} {worker : WorkerId} {state : WorkerState}
    (active : s.activeWorkers.length ≤ registrations) (offers : s.Offers activeIdx worker state) :
    (activeIdx + 1) % s.activeWorkers.length ≤ registrations := by
  obtain ⟨inside, _⟩ := List.getElem?_eq_some_iff.mp offers.active
  exact (Nat.mod_lt (activeIdx + 1) (Nat.zero_lt_of_lt inside)).le.trans active

theorem Reached.received {registrations : Nat} (reached : Reached registrations s)
    (received : Received s event s') :
    Reached (registrations + event.isRegister.toNat) s' := by
  have ⟨states, active, cursor⟩ := reached
  cases received with
  | submitAssigned _ offers =>
      have next := cursor_of_offers active offers
      exact ⟨by simpa [Event.isRegister] using states, active, next⟩
  | registerReused =>
      refine ⟨?_, ?_, Nat.le_succ_of_le cursor⟩
      · simpa [Event.isRegister] using Nat.le_succ_of_le states
      · simpa [Event.isRegister] using Nat.succ_le_succ active
  | registerFresh =>
      refine ⟨?_, ?_, Nat.le_succ_of_le cursor⟩
      · simpa [Event.isRegister] using Nat.succ_le_succ states
      · simpa [Event.isRegister] using Nat.succ_le_succ active
  | completeAnswered | completeDeferred | heartbeat =>
      exact ⟨by simpa [Event.isRegister] using states, active, cursor⟩
  | assignedReplicate =>
      rw [assignReplicate_frame]
      exact ⟨states, active, cursor⟩
  | completedReplicate =>
      rw [completeReplicate_frame]
      exact ⟨states, active, cursor⟩
  | peerReconnected =>
      simp only [processPeerReconnected]
      split_ifs <;> exact ⟨states, active, cursor⟩
  | registerRefused => exact reached.mono (Nat.le_succ _)
  | submitQueued | completeUnknown | snapshot | topRequest | pass | backlog | replicate | sweep =>
      exact ⟨states, active, cursor⟩

theorem Reached.move {registrations : Nat} (reached : Reached registrations s)
    (move : Move event s s') : Reached registrations s' := by
  have ⟨states, active, cursor⟩ := reached
  cases move with
  | replicated | dropped | answered => exact ⟨states, active, cursor⟩
  | assigned _ _ _ _ offers =>
      exact ⟨by simpa using states, active, cursor_of_offers active offers⟩
  | died _ _ _ _ declared =>
      obtain ⟨inactive, marked, frame, _⟩ := declareDead_spec declared
      obtain ⟨sameLength, _⟩ := markInactive_held marked
      have fewer : inactive.activeWorkers.length ≤ s.activeWorkers.length := by
        obtain ⟨rfl, _⟩ | ⟨last, state, _, _, _, rfl⟩ := markInactive_spec marked
        · exact le_rfl
        · simp
      rw [frame]
      exact ⟨by simpa [sameLength] using states, fewer.trans active, cursor⟩

/-- The tables have a place for each registration at most, and the cursor stays within them. -/
theorem reached_of_run (ran : run events = .ok s) :
    Reached (events.countP Event.isRegister) s := by
  have every : Along step (fun _ _ => True) init events := along_of_forall fun _ _ => trivial
  refine @history_of_moves (fun _ _ => True)
    (fun before s => Reached (before.countP Event.isRegister) s)
    (fun before s event s' reached _ received => ?_) (fun _ _ _ _ move reached => reached.move move)
    _ _ ⟨le_rfl, le_rfl, le_rfl⟩ every ran
  have counted : [event].countP Event.isRegister = event.isRegister.toNat := by
    cases registers : event.isRegister <;> simp [registers]
  rw [List.countP_append, counted]
  exact reached.received received

/-- With fewer than 2 ^ 32 registrations in a run, every worker id fits into the 32 bits of the
source, and so does the number of active workers that `assign` takes; the sums that it forms with
`rr_index_` fit into 64 bits.  Natural numbers in their place make no difference. -/
theorem no_index_wraps (ran : run events = .ok s)
    (few : events.countP Event.isRegister < 2 ^ 32) :
    (∀ worker, worker ∈ s.activeWorkers ∨ worker ∈ s.availableIds ∨ s.Acknowledged worker →
      worker < 2 ^ 32) ∧
    s.workersStates.length < 2 ^ 32 ∧ s.activeWorkers.length < 2 ^ 32 ∧
    ∀ i < s.activeWorkers.length, s.rrIndex + i < 2 ^ 64 := by
  have pooled := (indexed_of_run ran).pooled
  have reached := reached_of_run ran
  have states : s.workersStates.length < 2 ^ 32 := reached.states.trans_lt few
  have active : s.activeWorkers.length < 2 ^ 32 := reached.active.trans_lt few
  refine ⟨fun worker kept => ?_, states, active, fun i inside => ?_⟩
  · obtain isActive | free | acknowledged := kept
    · exact (pooled.activeHeld worker isActive).trans states
    · exact (pooled.freeHeld worker free).trans states
    · exact (pooled.acknowledgedHeld worker acknowledged).trans states
  · have cursor : s.rrIndex < 2 ^ 32 := reached.cursor.trans_lt few
    omega

/-- Whenever a `COMPLETE` meets a record whose worker id has come with a replication message,
the id is a position of the worker table. -/
def BroughtIdsHeld (events : List Event) : Prop :=
  ∀ before fd msg env after s task, events = before ++ .complete fd msg env :: after →
    run before = .ok s → s.tasks.find? msg.taskId = some task →
    Brought before msg.taskId task.workerId → task.workerId < s.workersStates.length

/-- A completion that meets a record with a worker id outside the table. -/
theorem complete_faults {fd : Fd} {msg : CompleteMsg} {env : Env} {task : Task}
    (found : s.tasks.find? msg.taskId = some task)
    (missing : s.workersStates.length ≤ task.workerId) :
    s.step (.complete fd msg env) = .error (.badIndex task.workerId) := by
  have failed : s.workerAt task.workerId = .error (.badIndex task.workerId) :=
    workerAt_eq_error.mpr ⟨missing, rfl⟩
  simp [step, processCompleteEvent, found, failed, bind, Except.bind, Functor.map, Except.map]

/-- Over any run of all kinds of events with heartbeats and completions from registered workers,
no index is outside the worker table exactly when the worker ids that replication messages have
brought into the records are positions of the table by the time the tasks are completed here. -/
theorem indices_held_iff {events : List Event} (registered : Along step FromRegistered init events) :
    (∀ index, run events ≠ .error (.badIndex index)) ↔ BroughtIdsHeld events := by
  constructor
  · rintro noFault before fd msg env after s task rfl ran found _
    by_contra missing
    refine noFault task.workerId (run_eq_error.mpr ⟨before, _, after, s, rfl, ran, ?_⟩)
    exact complete_faults found (not_lt.mp missing)
  · intro held index failed
    obtain ⟨before, event, after, s, rfl, ran, failedThere⟩ := run_eq_error.mp failed
    have indexed := indexed_of_run ran
    have premise := along_iff.mp registered before event after s rfl ran
    obtain ⟨reached, moves, faults⟩ := step_faults failedThere
    have pooled : reached.Pooled :=
      kept_of_moves (fun _ _ move pooled => pooled.move move) moves indexed.pooled
    have length := length_of_moves moves
    cases faults with
    | active member missing => exact absurd (pooled.activeHeld _ member) (not_lt.mpr missing)
    | free member missing => exact absurd (pooled.freeHeld _ member) (not_lt.mpr missing)
    | heartbeat missing =>
        rw [length] at missing
        exact absurd (indexed.pooled.acknowledgedHeld index premise) (not_lt.mpr missing)
    | @record fd msg env task found missing =>
        have sameTable : reached.tasks = s.tasks :=
          keeps_of_quiet_moves tasks (fun _ => rfl) id id moves
        rw [sameTable] at found
        rw [length] at missing
        -- Some worker has been acknowledged, so the default id is in the table.
        obtain ⟨sent, member, _, acknowledges⟩ := premise
        obtain ⟨worker, given⟩ := Option.isSome_iff_exists.mp acknowledges
        have inside := indexed.pooled.acknowledgedHeld worker ⟨sent, member, given⟩
        rcases indexed.recorded _ task found with zero | present | brought
        · rw [zero] at missing
          exact absurd (Nat.zero_lt_of_lt inside) (not_lt.mpr missing)
        · exact absurd present (not_lt.mpr missing)
        · have present := held before fd msg env after s task rfl ran found brought
          exact absurd present (not_lt.mpr missing)

/-- A backup with one worker takes over task 1 of the peer's worker 0, completes it and runs
task 2 of its own. -/
def takeover : List Event :=
  [.assignedReplicate 1 { taskId := 1, workerId := 0 }, .register 3 {}, .complete 3 { taskId := 1 } {},
    .submit 5 { taskId := 2 } {}, .heartbeat 0 {}, .complete 3 { taskId := 2 } {}, .sweep {}]

instance (s : Coordinator) : (event : Event) → Decidable (s.FromRegistered event)
  | .heartbeat worker _ => inferInstanceAs (Decidable (s.Acknowledged worker))
  | .complete fd _ _ => inferInstanceAs (Decidable (∃ sent ∈ s.outgoingQueue, sent.fd = fd ∧
      sent.msg.acknowledges?.isSome = true))
  | .submit .. | .assignedReplicate .. | .completedReplicate _ | .snapshot .. | .peerReconnected _
  | .topRequest .. | .register .. | .pass _ | .backlog _ | .replicate _ | .sweep _ => isTrue trivial

theorem takeover_held : Along step FromRegistered init takeover ∧ BroughtIdsHeld takeover := by
  have registered : Along step FromRegistered init takeover := by decide +kernel
  have returns : ∃ s, run takeover = .ok s ∧ s.workersStates.length = 1 := by decide +kernel
  refine ⟨registered, (indices_held_iff registered).mp fun index failed => ?_⟩
  obtain ⟨s, ran, _⟩ := returns
  rw [ran] at failed
  cases failed

/-- The peer has assigned task 1 to its worker 7.  After the failover the worker that has
registered here completes it. -/
theorem replicated_id_out_of_bounds :
    Along step FromRegistered init
      [.assignedReplicate 1 { taskId := 1, workerId := 7 }, .register 3 {},
        .complete 3 { taskId := 1 } {}] ∧
    run [.assignedReplicate 1 { taskId := 1, workerId := 7 }, .register 3 {},
      .complete 3 { taskId := 1 } {}] = .error (.badIndex 7) := by
  decide +kernel

end Coordinator

end TaskCoordinator
