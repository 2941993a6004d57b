import TaskCoordinator.Coordinator.Safety

/-!
# Running sets

A worker takes no more than `WORKER_MAX_QUEUE_DEPTH` tasks at a time, counted by its running
set.  The set is exact when it has those tasks in it whose records say that they run on
this worker.

A `SUBMIT` overwrites the record of a task that is already there without looking at it.
When that task was running, its old worker is forgotten and the slot is never released.
When it was waiting in the backlog, it is handed out twice.  As long as no such `SUBMIT`
arrives, the running sets are exact, also when workers die.
-/

namespace TaskCoordinator.Coordinator

open Transition

variable {s s' : Coordinator} {event : Event}

/-- The record of the task says that it runs on this worker. -/
def RunningOn (s : Coordinator) (worker : WorkerId) (id : TaskId) : Prop :=
  ∃ task, s.tasks.find? id = some task ∧ task.state = .running ∧ task.workerId = worker

/-- The record of the task says that it runs. -/
def Running (s : Coordinator) (id : TaskId) : Prop :=
  ∃ task, s.tasks.find? id = some task ∧ task.state = .running

instance (s : Coordinator) (id : TaskId) : Decidable (s.Running id) :=
  decidable_of_iff (∃ task ∈ s.tasks.find? id, task.state = .running) (by simp [Running])

instance (s : Coordinator) (worker : WorkerId) (id : TaskId) :
    Decidable (s.RunningOn worker id) :=
  decidable_of_iff
    (∃ task ∈ s.tasks.find? id, task.state = .running ∧ task.workerId = worker)
    (by simp [RunningOn])

instance (s : Coordinator) (worker : WorkerId) (id : TaskId) : Decidable (s.Runs worker id) :=
  decidable_of_iff (∃ state ∈ s.workersStates[worker]?, id ∈ state.runningTasks)
    (by simp [Runs])

theorem RunningOn.running {worker : WorkerId} {id : TaskId} (runningOn : s.RunningOn worker id) :
    s.Running id := by
  obtain ⟨task, found, isRunning, _⟩ := runningOn
  exact ⟨task, found, isRunning⟩

/-- Running sets and records agree.  For this to last, a task in the backlog must not be
running, nor be listed twice. -/
structure Exact (s : Coordinator) : Prop where
  runs_iff : ∀ worker id, s.Runs worker id ↔ s.RunningOn worker id
  backlogNodup : s.queuedBacklog.Nodup
  backlogIdle : ∀ id ∈ s.queuedBacklog, ¬ s.Running id

/-- A submitted task neither runs nor waits in the backlog. -/
def Unscheduled (s : Coordinator) : Event → Prop
  | .submit _ msg _ => ¬ s.Running msg.taskId ∧ msg.taskId ∉ s.queuedBacklog
  | _ => True

instance (s : Coordinator) : (event : Event) → Decidable (s.Unscheduled event)
  | .submit _ msg _ =>
      inferInstanceAs (Decidable (¬ s.Running msg.taskId ∧ msg.taskId ∉ s.queuedBacklog))
  | .complete .. | .heartbeat .. | .register .. | .pass _ | .backlog _ | .replicate _ | .sweep _
  | .assignedReplicate .. | .completedReplicate _ | .snapshot .. | .peerReconnected _
  | .topRequest .. => isTrue trivial

/-! ## Records after an update of the table -/

/-- Where the task that is written runs, and where every other task runs. -/
theorem runningOn_set {task : Task} {worker : WorkerId} {id : TaskId}
    (table : s'.tasks = s.tasks.set task) :
    s'.RunningOn worker id ↔
      if id = task.id then task.state = .running ∧ task.workerId = worker
      else s.RunningOn worker id := by
  unfold RunningOn
  rw [table, TaskTable.find?_set]
  split
  next => simp
  next => rfl

theorem running_set {task : Task} {id : TaskId} (table : s'.tasks = s.tasks.set task) :
    s'.Running id ↔ if id = task.id then task.state = .running else s.Running id := by
  unfold Running
  rw [table, TaskTable.find?_set]
  split
  next => simp
  next => rfl

/-! ## Preservation -/

theorem exact_init : Exact init where
  runs_iff := by simp [init, Runs, RunningOn]
  backlogNodup := by simp [init]
  backlogIdle := by simp [init]

/-- A change that keeps the table, the backlog and the running sets. -/
theorem Exact.of_same (exact : s.Exact) (table : s'.tasks = s.tasks)
    (backlog : s'.queuedBacklog = s.queuedBacklog)
    (runs : ∀ worker id, s'.Runs worker id ↔ s.Runs worker id) : s'.Exact where
  runs_iff := by
    intro worker id
    rw [runs, exact.runs_iff, RunningOn, RunningOn, table]
  backlogNodup := backlog ▸ exact.backlogNodup
  backlogIdle := by
    intro id member
    rw [backlog] at member
    rw [Running, table]
    exact exact.backlogIdle id member

/-- Entries may leave the backlog. -/
theorem Exact.sublist (exact : s.Exact) {rest : List TaskId}
    (sublist : rest.Sublist s.queuedBacklog) : { s with queuedBacklog := rest }.Exact where
  runs_iff := exact.runs_iff
  backlogNodup := exact.backlogNodup.sublist sublist
  backlogIdle := fun id member => exact.backlogIdle id (sublist.subset member)

/-- A task that does not run may join the backlog once. -/
theorem Exact.enqueue (exact : s.Exact) {id : TaskId} (idle : ¬ s.Running id)
    (absent : id ∉ s.queuedBacklog) :
    { s with queuedBacklog := s.queuedBacklog ++ [id] }.Exact where
  runs_iff := exact.runs_iff
  backlogNodup := by
    rw [List.nodup_append]
    refine ⟨exact.backlogNodup, List.nodup_singleton id, fun first member second same => ?_⟩
    rw [List.mem_singleton] at same
    rintro rfl
    exact absent (same ▸ member)
  backlogIdle := by
    intro other member
    obtain member | rfl := List.mem_append.mp member |>.imp_right List.mem_singleton.mp
    · exact exact.backlogIdle other member
    · exact idle

/-- A record that does not run may be replaced by another that does not. -/
theorem Exact.accept (exact : s.Exact) {fd : Fd} {msg : SubmitMsg} {now : Nanoseconds}
    (idle : ¬ s.Running msg.taskId) : (s.accept fd msg now).Exact where
  runs_iff := by
    intro worker id
    rw [runningOn_set (accept_tasks ..), SubmitMsg.task_id, SubmitMsg.task_state]
    change s.Runs worker id ↔ _
    rw [exact.runs_iff]
    split
    next same =>
      subst same
      constructor
      · exact fun runningOn => absurd runningOn.running idle
      · rintro ⟨running, _⟩
        cases running
    next => rfl
  backlogNodup := exact.backlogNodup
  backlogIdle := by
    intro id member
    rw [running_set (accept_tasks ..), SubmitMsg.task_id, SubmitMsg.task_state]
    split
    next => simp
    next => exact exact.backlogIdle id member

/-- Handing out a task that neither runs nor waits. -/
theorem Exact.assignTo (exact : s.Exact) {task : Task} {activeIdx : Nat} {worker : WorkerId}
    {state : WorkerState} {fd : Fd} {now : Nanoseconds}
    (held : s.workersStates[worker]? = some state) (idle : ¬ s.Running task.id)
    (absent : task.id ∉ s.queuedBacklog) :
    (s.assignTo task activeIdx worker fd now).Exact where
  runs_iff := by
    intro other id
    rw [runs_assignTo held, runningOn_set (assignTo_tasks ..), Task.assignedTo_id,
      exact.runs_iff]
    split
    next same =>
      subst same
      constructor
      · rintro (⟨rfl, _⟩ | runningOn)
        · exact ⟨rfl, rfl⟩
        · exact absurd runningOn.running idle
      · rintro ⟨_, rfl⟩
        exact .inl ⟨rfl, rfl⟩
    next different => simp [different]
  backlogNodup := exact.backlogNodup
  backlogIdle := by
    intro id member
    rw [assignTo_queuedBacklog] at member
    rw [running_set (assignTo_tasks ..), Task.assignedTo_id, if_neg]
    · exact exact.backlogIdle id member
    · rintro rfl
      exact absent member

theorem Exact.finish (exact : s.Exact) {msg : CompleteMsg} {task : Task}
    (found : s.tasks.find? msg.taskId = some task) : (s.finish msg task).Exact where
  runs_iff := by
    intro worker id
    rw [runs_finish, runningOn_set (finish_tasks ..), CompleteMsg.update_id,
      CompleteMsg.update_state, exact.runs_iff]
    split
    next same =>
      subst same
      constructor
      · rintro ⟨elsewhere, stored, foundStored, _, onWorker⟩
        rw [TaskTable.id_of_find? found, found] at foundStored
        cases foundStored
        exact absurd ⟨onWorker.symm, rfl⟩ elsewhere
      · rintro ⟨completed, _⟩
        cases completed
    next different => simp [different]
  backlogNodup := exact.backlogNodup
  backlogIdle := by
    intro id member
    rw [running_set (finish_tasks ..), CompleteMsg.update_state]
    split
    next => simp
    next => exact exact.backlogIdle id member

/-- The tasks of a dead worker no longer run, and no other task is affected. -/
theorem Exact.declareDead (exact : s.Exact) {worker : WorkerId} {state : WorkerState}
    {running : List TaskId} {dead : Coordinator}
    (held : s.workersStates[worker]? = some state)
    (order : running.Perm state.runningTasks.items)
    (declared : s.declareDead worker running = .ok dead) : dead.Exact := by
  obtain ⟨_, _, frame, table⟩ := declareDead_spec declared
  have backlog : dead.queuedBacklog = s.queuedBacklog ++ running := by rw [frame]
  have member_iff : ∀ id, id ∈ running ↔ s.RunningOn worker id := by
    intro id
    rw [order.mem_iff, ← exact.runs_iff]
    exact (runs_iff_of_held held).symm
  have runningOn_iff : ∀ other id, dead.RunningOn other id ↔
      id ∉ running ∧ s.RunningOn other id := by
    intro other id
    unfold RunningOn
    rw [table id]
    cases s.tasks.find? id with
    | none => simp
    | some task => by_cases member : id ∈ running <;> simp [member]
  constructor
  · intro other id
    rw [runs_declareDead declared, runningOn_iff, exact.runs_iff, member_iff]
    refine and_congr_left fun runningOn => ?_
    obtain ⟨task, found, isRunning, onOther⟩ := runningOn
    constructor
    · rintro different ⟨again, foundAgain, _, onWorker⟩
      rw [found] at foundAgain
      cases foundAgain
      exact different (onOther.symm.trans onWorker)
    · rintro elsewhere rfl
      exact elsewhere ⟨task, found, isRunning, onOther⟩
  · rw [backlog, List.nodup_append]
    refine ⟨exact.backlogNodup, order.nodup_iff.mpr state.runningTasks.nodup, ?_⟩
    rintro id waiting other member rfl
    exact exact.backlogIdle id waiting ((member_iff id).mp member).running
  · intro id member
    rintro ⟨task, found, isRunning⟩
    have runningOn : dead.RunningOn task.workerId id := ⟨task, found, isRunning, rfl⟩
    obtain ⟨absent, before⟩ := (runningOn_iff _ _).mp runningOn
    rw [backlog, List.mem_append] at member
    exact exact.backlogIdle id (member.resolve_right absent) before.running

theorem Exact.move (exact : s.Exact) (move : Move event s s') : s'.Exact := by
  cases move with
  | replicated | dropped | answered => exact exact.of_same rfl rfl fun _ _ => Iff.rfl
  | @assigned id rest task _ _ _ now _ front found offers =>
      have sameId := TaskTable.id_of_find? found
      have idle := exact.backlogIdle id (by simp [front])
      have absent : id ∉ rest := (List.nodup_cons.mp (front ▸ exact.backlogNodup)).1
      have remaining : { s with queuedBacklog := rest }.Exact :=
        exact.sublist (by rw [front]; exact List.sublist_cons_self id rest)
      rw [← sameId] at idle absent
      exact remaining.assignTo offers.held idle absent
  | died _ held _ order declared => exact exact.declareDead held order declared

theorem Exact.received (exact : s.Exact) (admitted : s.LocalEvent event)
    (unscheduled : s.Unscheduled event) (received : Received s event s') : s'.Exact := by
  cases received with
  | @submitAssigned fd msg env _ _ _ now offers =>
      obtain ⟨idle, absent⟩ := unscheduled
      have accepted : (s.accept fd msg env.now).Exact := exact.accept idle
      refine accepted.assignTo offers.held ?_ ?_
      · simp [running_set (accept_tasks ..)]
      · simpa using absent
  | @submitQueued fd msg env =>
      obtain ⟨idle, absent⟩ := unscheduled
      have accepted : (s.accept fd msg env.now).Exact := exact.accept idle
      refine accepted.enqueue ?_ absent
      simp [running_set (accept_tasks ..)]
  | completeAnswered found | completeDeferred found =>
      exact (exact.finish found).of_same rfl rfl fun _ _ => Iff.rfl
  | heartbeat | registerReused =>
      exact exact.of_same rfl rfl fun _ _ => runs_of_modify_keeps rfl fun _ => rfl
  | registerFresh => exact exact.of_same rfl rfl fun _ _ => runs_registerFresh
  | completeUnknown | registerRefused | pass | backlog | replicate | sweep =>
      exact exact.of_same rfl rfl fun _ _ => Iff.rfl
  | assignedReplicate | completedReplicate | snapshot | peerReconnected | topRequest =>
      cases admitted

theorem exact_preserved :
    Preserves step (fun s event => s.LocalEvent event ∧ s.Unscheduled event) Exact :=
  preserves_of_moves (fun _ _ _ exact admitted => exact.received admitted.1 admitted.2)
    (fun _ _ _ _ _ move exact => exact.move move)

/-- Every run returns.  If no `SUBMIT` names a task that runs or waits in the backlog, every
running set is exact at its end. -/
theorem running_sets_exact (events : List Event) (traffic : Along step Traffic init events)
    (unscheduled : Along step Unscheduled init events) :
    ∃ s, run events = .ok s ∧ ∀ worker state, s.workersStates[worker]? = some state →
      ∀ id, id ∈ state.runningTasks ↔
        ∃ task, s.tasks.find? id = some task ∧ task.state = .running ∧
          task.workerId = worker := by
  have isLocal : Along step LocalEvent init events := sound_preserved_traffic.along sound_init
    traffic fun _ _ sound admitted => sound.localEvent admitted
  obtain ⟨s, ran, _⟩ := sound_progresses_traffic.run sound_preserved_traffic sound_init traffic
  have exact := exact_preserved.run exact_init (isLocal.and unscheduled) ran
  refine ⟨s, ran, fun worker state held id => ?_⟩
  rw [← RunningOn, ← exact.runs_iff]
  exact (runs_iff_of_held held).symm

/-- A task completes and is submitted again. -/
theorem running_sets_exact_of_repetition :
    let events : List Event := [.register 5 {}, .submit 9 { taskId := 7 } {},
      .complete 5 { taskId := 7 } {}, .submit 9 { taskId := 7 } {}, .register 6 {},
      .submit 9 { taskId := 8 } {}]
    ∃ s, run events = .ok s ∧ ∀ worker state, s.workersStates[worker]? = some state →
      ∀ id, id ∈ state.runningTasks ↔
        ∃ task, s.tasks.find? id = some task ∧ task.state = .running ∧
          task.workerId = worker :=
  running_sets_exact _ (by decide +kernel) (by decide +kernel)

/-- A task is submitted again while it runs. -/
def resubmission : List Event :=
  [.register 5 {}, .register 6 {}, .submit 9 { taskId := 7 } {}, .submit 9 { taskId := 7 } {},
    .complete 6 { taskId := 7 } {}]

/-- The second submission moves the task to the second worker, and its completion releases
the slot there.  The first worker keeps a slot for a task that has completed. -/
theorem resubmission_leaks_slot :
    Along step Traffic init resubmission ∧
    ∃ s, run resubmission = .ok s ∧ s.Runs 0 7 ∧ ¬ s.RunningOn 0 7 ∧
      (s.tasks.find? 7).map Task.state = some .completed := by
  constructor
  · decide +kernel
  · decide +kernel

end TaskCoordinator.Coordinator
