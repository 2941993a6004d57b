import TaskCoordinator.Coordinator.Faults
import TaskCoordinator.Coordinator.Lifecycle

/-!
# What the scheduler tracks is in the task table

`process_backlog` and `is_alive` look up the tasks of `queued_backlog_` and of the running sets
by `tasks_.at`, which throws for an id without a record.  Every event either keeps all records
or, like a `SNAPSHOT`, replaces the table.  A `SNAPSHOT` also clears `queued_backlog_`, but it
leaves the running sets as they are, so it has to contain every running task.
-/

namespace TaskCoordinator.Coordinator

open Transition

/-- Every queued and every running task has a record. -/
structure Tracked (s : Coordinator) : Prop where
  queued : ∀ id ∈ s.queuedBacklog, s.Known id
  running : ∀ worker id, s.Runs worker id → s.Known id

/-- A `SNAPSHOT` contains every task that is running here. -/
def CoversRunning (s : Coordinator) : Event → Prop
  | .snapshot _ tasks _ => ∀ worker id, s.Runs worker id → ∃ task, tasks.find? id = some task
  | _ => True

variable {s s' : Coordinator} {event : Event} {id : TaskId}

/-! ## Preservation -/

theorem tracked_init : Tracked init where
  queued := by simp [init]
  running := by simp [init, Runs]

/-- Records stay, and whatever is tracked anew has one. -/
theorem Tracked.of_grown (tracked : s.Tracked) (known : ∀ id, s.Known id → s'.Known id)
    (queued : ∀ id ∈ s'.queuedBacklog, id ∈ s.queuedBacklog ∨ s'.Known id)
    (running : ∀ worker id, s'.Runs worker id → s.Runs worker id ∨ s'.Known id) :
    s'.Tracked where
  queued := by
    intro id member
    obtain member | isKnown := queued id member
    · exact known id (tracked.queued id member)
    · exact isKnown
  running := by
    intro worker id runs
    obtain runs | isKnown := running worker id runs
    · exact known id (tracked.running worker id runs)
    · exact isKnown

/-- Neither the backlog nor the running sets change. -/
theorem Tracked.of_table (tracked : s.Tracked) (known : ∀ id, s.Known id → s'.Known id)
    (queued : s'.queuedBacklog = s.queuedBacklog) (workers : s'.workersStates = s.workersStates) :
    s'.Tracked := by
  refine tracked.of_grown known (fun id member => .inl (queued ▸ member)) ?_
  rintro worker id ⟨state, held, member⟩
  exact .inl ⟨state, workers ▸ held, member⟩

theorem known_of_set {task : Task} (table : s'.tasks = s.tasks.set task) (known : s.Known id) :
    s'.Known id := by
  rw [Known, table]
  exact TaskTable.known_set known

theorem Tracked.assignTo (tracked : s.Tracked) {activeIdx : Nat} {worker : WorkerId}
    {state : WorkerState} (offers : s.Offers activeIdx worker state) (task : Task)
    (now : Nanoseconds) : (s.assignTo task activeIdx worker state.fd now).Tracked := by
  refine tracked.of_grown (fun id => known_of_set rfl) (fun id member => .inl member) ?_
  intro other id runs
  obtain ⟨rfl, rfl⟩ | runs := (runs_assignTo offers.held).mp runs
  · exact .inr ⟨task.assignedTo other now, TaskTable.find?_set_self _ _⟩
  · exact .inl runs

theorem Tracked.finish (tracked : s.Tracked) (msg : CompleteMsg) (task : Task) :
    (s.finish msg task).Tracked := by
  refine tracked.of_grown (fun id => known_of_set rfl) (fun id member => .inl member) ?_
  intro worker id runs
  exact .inl (runs_finish.mp runs).2

theorem known_completeReplicate (replication : CompletedReplication) (known : s.Known id) :
    (s.processCompleteReplicateEvent replication).Known id := by
  rcases completeReplicate_cases s replication with outdated | stashed | ⟨_, _, _, completed⟩
  · rw [outdated]
    exact known
  · rw [stashed]
    exact known
  · rw [completed]
    exact known_of_set (s := s) rfl known

theorem known_assignReplicate (epoch : UInt64) (msg : AssignedReplicationMsg)
    (known : s.Known id) : (s.processAssignReplicateEvent epoch msg).Known id := by
  unfold processAssignReplicateEvent
  dsimp only
  split
  next => exact known
  next =>
    split
    next => exact known_of_set (s := s) rfl known
    next early _ => exact known_completeReplicate early (known_of_set (s := s) rfl known)

theorem known_declareDead {worker : WorkerId} {running : List TaskId} {dead : Coordinator}
    (declared : s.declareDead worker running = .ok dead) (known : s.Known id) :
    dead.Known id := by
  obtain ⟨_, _, _, table⟩ := declareDead_spec declared
  obtain ⟨task, found⟩ := known
  rw [Known, table id, found]
  exact ⟨_, rfl⟩

theorem Tracked.received (tracked : s.Tracked) (covers : s.CoversRunning event)
    (received : Received s event s') : s'.Tracked := by
  cases received with
  | @submitAssigned fd msg env _ _ _ now offers =>
      have accepted : (s.accept fd msg env.now).Tracked :=
        tracked.of_table (fun id => known_of_set rfl) rfl rfl
      exact accepted.assignTo ⟨offers.active, offers.held, offers.room⟩ _ now
  | @submitQueued fd msg env =>
      have accepted : (s.accept fd msg env.now).Tracked :=
        tracked.of_table (fun id => known_of_set rfl) rfl rfl
      refine accepted.of_grown (fun _ known => known) (fun id member => ?_) fun _ _ => .inl
      obtain member | isNew := List.mem_append.mp member |>.imp_right List.mem_singleton.mp
      · exact .inl member
      · rw [isNew, ← SubmitMsg.task_id msg env.now]
        exact .inr ⟨msg.task env.now, TaskTable.find?_set_self _ _⟩
  | completeUnknown | topRequest => exact tracked.of_table (fun _ known => known) rfl rfl
  | @completeAnswered _ msg _ task =>
      exact (tracked.finish msg task).of_table (fun _ known => known) rfl rfl
  | @completeDeferred _ msg _ task =>
      exact (tracked.finish msg task).of_table (fun _ known => known) rfl rfl
  | @assignedReplicate epoch msg =>
      refine tracked.of_table (fun id => known_assignReplicate epoch msg) ?_ ?_
      · rw [assignReplicate_frame]
      · rw [assignReplicate_frame]
  | @completedReplicate replication =>
      refine tracked.of_table (fun id => known_completeReplicate replication) ?_ ?_
      · rw [completeReplicate_frame]
      · rw [completeReplicate_frame]
  | snapshot =>
      refine ⟨fun id member => ?_, covers⟩
      cases member
  | peerReconnected =>
      unfold processPeerReconnected
      split_ifs <;> exact tracked.of_table (fun _ known => known) rfl rfl
  | heartbeat =>
      refine tracked.of_grown (fun _ known => known) (fun _ => .inl) fun worker id runs => ?_
      refine .inl ((runs_of_modify_keeps rfl ?_).mp runs)
      exact fun _ => rfl
  | registerReused =>
      refine tracked.of_grown (fun _ known => known) (fun _ => .inl) fun worker id runs => ?_
      refine .inl ((runs_of_modify_keeps rfl ?_).mp runs)
      exact fun _ => rfl
  | registerFresh =>
      refine tracked.of_grown (fun _ known => known) (fun _ => .inl) fun worker id runs => ?_
      exact .inl (runs_registerFresh.mp runs)
  | registerRefused | pass | backlog | replicate | sweep => exact tracked

theorem Tracked.move (tracked : s.Tracked) (move : Move event s s') : s'.Tracked := by
  cases move with
  | replicated | dropped | answered => exact tracked.of_table (fun _ known => known) rfl rfl
  | @assigned _ _ task _ _ _ now _ front _ offers =>
      have assigned := tracked.assignTo offers task now
      refine assigned.of_grown (fun _ known => known) (fun id member => .inl ?_) fun _ _ => .inl
      simpa [front] using Or.inr member
  | @died dead worker state running _ held _ order declared =>
      obtain ⟨_, _, frame, _⟩ := declareDead_spec declared
      refine tracked.of_grown (fun id => known_declareDead declared) (fun id member => ?_)
        fun other id runs => .inl ((runs_declareDead declared).mp runs).2
      rw [frame] at member
      obtain member | member := List.mem_append.mp member
      · exact .inl member
      · have runs : s.Runs worker id := ⟨state, held, order.mem_iff.mp member⟩
        exact .inr (known_declareDead declared (tracked.running worker id runs))

theorem tracked_preserved : Preserves step CoversRunning Tracked :=
  preserves_of_moves (fun _ _ _ tracked covers => tracked.received covers)
    (fun _ _ _ _ _ move tracked => tracked.move move)

/-! ## Lookups -/

/-- No lookup fails while everything tracked is known. -/
theorem Tracked.step_ne (tracked : s.Tracked) (event : Event) (id : TaskId) :
    s.step event ≠ .error (.outOfRange id) := by
  intro failed
  obtain ⟨reached, moves, faults⟩ := step_faults failed
  have stillTracked : reached.Tracked :=
    kept_of_moves (fun _ _ move tracked => tracked.move move) moves tracked
  cases faults with
  | queued _ member unknown =>
      obtain ⟨task, found⟩ := stillTracked.queued id member
      rw [unknown] at found
      cases found
  | running _ runs unknown =>
      obtain ⟨task, found⟩ := stillTracked.running _ id runs
      rw [unknown] at found
      cases found

/-- Over any run of all kinds of events, everything tracked has a record in every state and no
lookup throws, exactly when every `SNAPSHOT` contains all tasks that are running when it is
processed. -/
theorem tracked_iff_snapshots_cover (events : List Event) :
    ((∀ before after s, events = before ++ after → run before = .ok s → s.Tracked) ∧
      ∀ id, run events ≠ .error (.outOfRange id)) ↔
    Along step CoversRunning init events := by
  constructor
  · rintro ⟨tracked, _⟩
    rw [along_iff]
    rintro before event after middle rfl ran
    cases event with
    | snapshot epoch tasks env =>
        have ranOn : run (before ++ [.snapshot epoch tasks env]) =
            .ok (middle.processSnapshotEvent epoch tasks env) :=
          run_append_eq_ok.mpr ⟨middle, ran, run_singleton⟩
        exact (tracked _ after _ (by simp) ranOn).running
    | _ => trivial
  · intro covers
    have tracked : ∀ before after s, events = before ++ after → run before = .ok s →
        s.Tracked := by
      rintro before after s rfl ran
      exact tracked_preserved.run tracked_init (along_append.mp covers).1 ran
    refine ⟨tracked, fun id failed => ?_⟩
    obtain ⟨before, event, after, middle, rfl, ran, failedThere⟩ := run_eq_error.mp failed
    exact (tracked before _ middle rfl ran).step_ne event id failedThere

/-- Task 1 runs on worker 0 when a snapshot without it arrives.  The sweep that declares the
worker dead does not find the task. -/
theorem snapshot_loses_running_task :
    ∃ s, run [.register 3 {}, .submit 5 { taskId := 1 } {}, .snapshot 1 .empty {}] = .ok s ∧
      ¬ s.Tracked ∧
      run [.register 3 {}, .submit 5 { taskId := 1 } {}, .snapshot 1 .empty {},
        .sweep { clock := [2000000000] }] = .error (.outOfRange 1) := by
  have evaluated : ∃ s, run [.register 3 {}, .submit 5 { taskId := 1 } {},
        .snapshot 1 .empty {}] = .ok s ∧
      s.step (.sweep { clock := [2000000000] }) = .error (.outOfRange 1) := by
    decide +kernel
  obtain ⟨s, ran, failed⟩ := evaluated
  refine ⟨s, ran, fun tracked => tracked.step_ne _ 1 failed, ?_⟩
  exact run_eq_error.mpr ⟨_, _, [], s, rfl, ran, failed⟩

end TaskCoordinator.Coordinator
