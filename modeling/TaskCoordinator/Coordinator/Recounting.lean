import TaskCoordinator.Coordinator.Counters
import TaskCoordinator.Coordinator.RunningSets
import TaskCoordinator.Coordinator.Sweeps

/-!
# Counters of the coordinator

The coordinator keeps its counters up to date when a task is submitted, assigned or
completed.  A backup that installs a snapshot recomputes them from the table.  Both ways
agree as long as no task goes back from its worker into the queue: `is_alive` changes the
record of such a task and leaves the counters alone.
-/

namespace TaskCoordinator.Coordinator

open Transition

variable {s s' : Coordinator} {event : Event}

/-! ## Counters and table in step -/

/-- The counters are those of the table.  For this to last, the tasks in the backlog must be
queued, each of them once. -/
structure Balanced (s : Coordinator) : Prop where
  few : s.tasks.ids.length < 2 ^ 64
  backlogNodup : s.queuedBacklog.Nodup
  backlogQueued : ∀ id ∈ s.queuedBacklog,
    ∃ task, s.tasks.find? id = some task ∧ task.state = .queued
  counted : s.metrics.counters = tally s.tasks.records

theorem balanced_init : Balanced init where
  few := by decide
  backlogNodup := List.nodup_nil
  backlogQueued := by simp [init]
  counted := rfl

theorem Balanced.of_same (balanced : s.Balanced) (table : s'.tasks = s.tasks)
    (backlog : s'.queuedBacklog = s.queuedBacklog)
    (metrics : s'.metrics.counters = s.metrics.counters) : s'.Balanced where
  few := table ▸ balanced.few
  backlogNodup := backlog ▸ balanced.backlogNodup
  backlogQueued := by
    rw [backlog, table]
    exact balanced.backlogQueued
  counted := by rw [metrics, table, balanced.counted]

/-- A change of the record of one task, which leaves the backlog if it was there, with the
change of the counters that goes with it. -/
theorem Balanced.update (balanced : s.Balanced) {before after : Task}
    (found : s.tasks.find? after.id = some before) (table : s'.tasks = s.tasks.set after)
    (backlog : s'.queuedBacklog.Sublist s.queuedBacklog) (left : after.id ∉ s'.queuedBacklog)
    (counted : ∀ rest : List Task, rest.length + 1 < 2 ^ 64 →
      s.metrics.counters = tally (before :: rest) →
      s'.metrics.counters = tally (after :: rest)) : s'.Balanced := by
  have perm := TaskTable.records_perm_cons found
  have length := perm.length_eq
  rw [TaskTable.length_records, List.length_cons] at length
  have few : (s.tasks.recordsWithout after.id).length + 1 < 2 ^ 64 := length ▸ balanced.few
  constructor
  · rw [table, ← TaskTable.length_records, TaskTable.records_set]
    exact few
  · exact balanced.backlogNodup.sublist backlog
  · intro id member
    obtain ⟨task, foundTask, queued⟩ := balanced.backlogQueued id (backlog.subset member)
    have other : id ≠ after.id := fun same => left (same ▸ member)
    exact ⟨task, by rw [table, TaskTable.find?_set, if_neg other, foundTask], queued⟩
  · rw [table, TaskTable.records_set]
    exact counted _ few (balanced.counted.trans (tally_perm perm))

/-! ## Submission, assignment, completion -/

/-- A task that has no record is not in the backlog. -/
theorem Balanced.notMem_backlog (balanced : s.Balanced) {id : TaskId}
    (fresh : s.tasks.find? id = none) : id ∉ s.queuedBacklog := by
  intro member
  obtain ⟨task, found, _⟩ := balanced.backlogQueued id member
  rw [fresh] at found
  cases found

theorem Balanced.accept (balanced : s.Balanced) (fd : Fd) {msg : SubmitMsg}
    (now : Nanoseconds) (fresh : s.tasks.find? msg.taskId = none)
    (few : s.tasks.ids.length + 1 < 2 ^ 64) : (s.accept fd msg now).Balanced := by
  have absent : s.tasks.find? (msg.task now).id = none := by rwa [SubmitMsg.task_id]
  have records : (s.accept fd msg now).tasks.records = msg.task now :: s.tasks.records := by
    rw [accept_tasks, TaskTable.records_set, TaskTable.recordsWithout_of_fresh absent]
  constructor
  · rw [← TaskTable.length_records, records, List.length_cons, TaskTable.length_records]
    exact few
  · exact balanced.backlogNodup
  · intro id member
    have other : id ≠ (msg.task now).id := by
      rw [SubmitMsg.task_id]
      intro same
      exact balanced.notMem_backlog fresh (same ▸ member)
    rw [accept_tasks, TaskTable.find?_set, if_neg other]
    exact balanced.backlogQueued id member
  · rw [records]
    refine counters_recordEnqueue ?_ balanced.counted (SubmitMsg.task_state msg now)
    rw [TaskTable.length_records]
    exact balanced.few

theorem Balanced.enqueue (balanced : s.Balanced) {task : Task}
    (found : s.tasks.find? task.id = some task) (queued : task.state = .queued)
    (absent : task.id ∉ s.queuedBacklog) :
    { s with queuedBacklog := s.queuedBacklog ++ [task.id] }.Balanced where
  few := balanced.few
  backlogNodup := by
    rw [List.nodup_append]
    refine ⟨balanced.backlogNodup, List.nodup_singleton _, fun id member other isNew same => ?_⟩
    rw [List.mem_singleton] at isNew
    exact absent (isNew ▸ same ▸ member)
  backlogQueued := by
    intro id member
    obtain old | new := List.mem_append.mp member
    · exact balanced.backlogQueued id old
    · rw [List.mem_singleton.mp new]
      exact ⟨task, found, queued⟩
  counted := balanced.counted

theorem Balanced.assignTo (balanced : s.Balanced) {task : Task} {activeIdx : Nat}
    {worker : WorkerId} {fd : Fd} {now : Nanoseconds} {backlog : List TaskId}
    (found : s.tasks.find? task.id = some task) (queued : task.state = .queued)
    (sublist : backlog.Sublist s.queuedBacklog) (left : task.id ∉ backlog) :
    { s.assignTo task activeIdx worker fd now with queuedBacklog := backlog }.Balanced := by
  have stored : s.tasks.find? (task.assignedTo worker now).id = some task := found
  refine balanced.update stored rfl sublist left ?_
  intro rest few counted
  exact counters_recordAssignment few counted queued rfl

theorem Balanced.finish (balanced : s.Balanced) {msg : CompleteMsg} {task : Task}
    (found : s.tasks.find? msg.taskId = some task) (running : task.state = .running) :
    (s.finish msg task).Balanced := by
  have stored : s.tasks.find? (msg.update task).id = some task :=
    TaskTable.id_of_find? found ▸ found
  refine balanced.update stored rfl (List.Sublist.refl _) ?_ ?_
  · intro member
    obtain ⟨again, foundAgain, queued⟩ := balanced.backlogQueued _ member
    rw [stored] at foundAgain
    cases foundAgain
    rw [running] at queued
    cases queued
  · intro rest few counted
    exact counters_recordCompletionSystem few counted running rfl

/-! ## Events -/

/-- Traffic in which the ids of submitted tasks are fresh and a completion finds its task
running. -/
def CountedEvent (s : Coordinator) : Event → Prop
  | .submit _ msg _ => s.tasks.find? msg.taskId = none
  | .complete _ msg _ => s.Running msg.taskId
  | .register .. | .heartbeat .. | .pass _ | .backlog _ | .replicate _ | .sweep _ => True
  | .assignedReplicate .. | .completedReplicate _ | .snapshot .. | .peerReconnected _
  | .topRequest .. => False

instance (s : Coordinator) : (event : Event) → Decidable (s.CountedEvent event)
  | .submit _ msg _ => inferInstanceAs (Decidable (s.tasks.find? msg.taskId = none))
  | .complete _ msg _ => inferInstanceAs (Decidable (s.Running msg.taskId))
  | .register .. | .heartbeat .. | .pass _ | .backlog _ | .replicate _ | .sweep _ =>
      isTrue trivial
  | .assignedReplicate .. | .completedReplicate _ | .snapshot .. | .peerReconnected _
  | .topRequest .. => isFalse id

/-- A sweep with these readings declares the worker dead: it is alive, and the 64-bit difference
of its reading and its last heartbeat exceeds the timeout. -/
def expires (s : Coordinator) (clock : List Nanoseconds) (worker : WorkerId) : Bool :=
  s.workersStates[worker]?.any fun state =>
    state.alive && !decide
      ((s.readingOf clock worker).getD 0 - state.lastHeartbeatNs ≤ Config.heartbeatTimeoutNs)

/-- A sweep declares no worker dead that runs a task. -/
def IdleDeaths (s : Coordinator) : Event → Prop
  | .sweep env => ∀ worker, s.expires env.clock worker = true → s.runningOf worker = []
  | _ => True

theorem idleDeaths_sweep_iff {env : Env} :
    s.IdleDeaths (.sweep env) ↔ ∀ worker ∈ List.range s.workersStates.length,
      s.expires env.clock worker = true → s.runningOf worker = [] := by
  constructor
  · exact fun idle worker _ => idle worker
  · intro idle worker expires
    obtain ⟨state, held, _⟩ := (Option.any_eq_true _ _).mp expires
    exact idle worker (List.mem_range.mpr (lt_of_held held)) expires

instance (s : Coordinator) : (event : Event) → Decidable (s.IdleDeaths event)
  | .sweep _ => decidable_of_iff _ idleDeaths_sweep_iff.symm
  | .submit .. | .complete .. | .heartbeat .. | .register .. | .pass _ | .backlog _
  | .replicate _ | .assignedReplicate .. | .completedReplicate _ | .snapshot ..
  | .peerReconnected _ | .topRequest .. => isTrue trivial

/-- A sweep declares no worker dead that runs a task, and the table does not fill up with all
2 ^ 64 ids. -/
def KeepsCounts (s : Coordinator) (event : Event) : Prop :=
  s.IdleDeaths event ∧ s.tasks.ids.length + 1 < 2 ^ 64

instance (s : Coordinator) (event : Event) : Decidable (s.KeepsCounts event) :=
  inferInstanceAs (Decidable (s.IdleDeaths event ∧ s.tasks.ids.length + 1 < 2 ^ 64))

theorem Balanced.received (balanced : s.Balanced) (admitted : s.CountedEvent event)
    (few : s.tasks.ids.length + 1 < 2 ^ 64) (received : Received s event s') :
    s'.Balanced := by
  cases received with
  | @submitAssigned fd msg env activeIdx worker state now offers =>
      have accepted := balanced.accept fd env.now admitted few
      have stored := TaskTable.find?_set_self s.tasks (msg.task env.now)
      refine accepted.assignTo stored (SubmitMsg.task_state msg env.now) (List.Sublist.refl _) ?_
      rw [SubmitMsg.task_id]
      exact balanced.notMem_backlog admitted
  | @submitQueued fd msg env =>
      have accepted := balanced.accept fd env.now admitted few
      have stored := TaskTable.find?_set_self s.tasks (msg.task env.now)
      have queued := accepted.enqueue stored (SubmitMsg.task_state msg env.now) (by
        rw [SubmitMsg.task_id]
        exact balanced.notMem_backlog admitted)
      rwa [SubmitMsg.task_id] at queued
  | completeAnswered found | completeDeferred found =>
      obtain ⟨task, foundTask, running⟩ := admitted
      rw [found] at foundTask
      cases foundTask
      exact (balanced.finish found running).of_same rfl rfl rfl
  | assignedReplicate | completedReplicate | snapshot | peerReconnected | topRequest =>
      exact admitted.elim
  | completeUnknown | heartbeat | registerRefused | registerReused | registerFresh | pass
  | backlog | replicate | sweep => exact balanced.of_same rfl rfl rfl

theorem Balanced.move (balanced : s.Balanced) (notSweeps : ¬event.Sweeps)
    (move : Move event s s') : s'.Balanced := by
  cases move with
  | replicated | dropped | answered => exact balanced.of_same rfl rfl rfl
  | @assigned id rest task _ _ _ now _ front found _ =>
      have sameId := TaskTable.id_of_find? found
      have nodup := front ▸ balanced.backlogNodup
      obtain ⟨again, foundAgain, queued⟩ := balanced.backlogQueued id (front ▸ List.mem_cons_self)
      rw [found] at foundAgain
      cases foundAgain
      refine balanced.assignTo (sameId ▸ found) queued ?_ ?_
      · rw [front]
        exact List.sublist_cons_self id rest
      · rw [sameId]
        exact (List.nodup_cons.mp nodup).1
  | died sweeps => exact absurd sweeps notSweeps

/-! ## Sweeps -/

/-- What a sweep looks at when it comes to the worker. -/
def view (s : Coordinator) (worker : WorkerId) :
    Option (Bool × Nanoseconds × UnorderedSet TaskId) :=
  s.workersStates[worker]?.map fun state =>
    (state.alive, state.lastHeartbeatNs, state.runningTasks)

theorem view_markInactive {worker : WorkerId} (marked : s.markInactive worker = .ok s')
    (other : WorkerId) : s'.view other = s.view other := by
  obtain ⟨rfl, _⟩ | ⟨last, state, _, _, _, rfl⟩ := markInactive_spec marked
  · rfl
  · simp only [view, List.getElem?_modify]
    cases s.workersStates[other]? with
    | none => rfl
    | some found =>
        simp only [Option.map_some]
        split <;> rfl

/-- The death of a worker is not seen at the others. -/
theorem view_declareDead {worker other : WorkerId} {running : List TaskId}
    (declared : s.declareDead worker running = .ok s') (different : other ≠ worker) :
    s'.view other = s.view other := by
  obtain ⟨inactive, marked, frame, _⟩ := declareDead_spec declared
  rw [← view_markInactive marked other, frame, view, view,
    List.getElem?_modify_ne _ _ (Ne.symm different)]

/-- The death of a worker without tasks leaves the table, the backlog and the metrics. -/
theorem declareDead_nil {worker : WorkerId} (declared : s.declareDead worker [] = .ok s') :
    s'.tasks = s.tasks ∧ s'.queuedBacklog = s.queuedBacklog ∧ s'.metrics = s.metrics := by
  simp only [declareDead, requeue, bind_eq_ok] at declared
  obtain ⟨inactive, marked, requeued, called, finished⟩ := declared
  cases called
  cases finished
  obtain ⟨rfl, _⟩ | ⟨last, state, _, _, _, rfl⟩ := markInactive_spec marked
  · exact ⟨rfl, rfl, rfl⟩
  · exact ⟨rfl, rfl, rfl⟩

/-- The state before the check of worker `k` in a sweep that has met no death of a busy worker,
compared with the state `s` before the sweep. -/
structure SweptIdle (s : Coordinator) (clock : List Nanoseconds) (k : Nat) (s' : Coordinator)
    (remaining : List Nanoseconds) : Prop where
  readings : remaining = clock.drop ((List.range k).countP s.aliveFlag)
  later : ∀ worker, k ≤ worker → s'.view worker = s.view worker
  kept : s'.tasks = s.tasks ∧ s'.queuedBacklog = s.queuedBacklog ∧ s'.metrics = s.metrics

section

variable {clock remaining : List Nanoseconds} {k : Nat} {state current : WorkerState}

/-- Before its check a worker is seen as it was before the sweep. -/
theorem SweptIdle.unchecked (swept : s.SweptIdle clock k s' remaining)
    (heldCurrent : s'.workersStates[k]? = some current) :
    ∃ state, s.workersStates[k]? = some state ∧ state.alive = current.alive ∧
      state.lastHeartbeatNs = current.lastHeartbeatNs ∧
      state.runningTasks = current.runningTasks := by
  have seen := swept.later k (Nat.le_refl k)
  simp only [view, heldCurrent, Option.map_some] at seen
  obtain ⟨state, held, same⟩ := Option.map_eq_some_iff.mp seen.symm
  exact ⟨state, held, by simpa using same⟩

/-- A check that declares nobody dead. -/
theorem SweptIdle.spared (swept : s.SweptIdle clock k s' remaining)
    (held : s.workersStates[k]? = some state) :
    s.SweptIdle clock (k + 1) s' (if state.alive then remaining.tail else remaining) where
  readings := readings_succ held swept.readings
  later := fun worker after => swept.later worker (Nat.le_of_succ_le after)
  kept := swept.kept

/-- A check that declares a worker without tasks dead. -/
theorem SweptIdle.died (swept : s.SweptIdle clock k s' remaining)
    (held : s.workersStates[k]? = some state) (alive : state.alive = true)
    {dead : Coordinator} (declared : s'.declareDead k [] = .ok dead) :
    s.SweptIdle clock (k + 1) dead remaining.tail := by
  obtain ⟨table, backlog, metrics⟩ := declareDead_nil declared
  obtain ⟨sameTable, sameBacklog, sameMetrics⟩ := swept.kept
  constructor
  · rw [← readings_succ held swept.readings, alive]
    rfl
  · intro worker after
    rw [view_declareDead declared (Nat.ne_of_gt after)]
    exact swept.later worker (Nat.le_of_succ_le after)
  · exact ⟨table.trans sameTable, backlog.trans sameBacklog, metrics.trans sameMetrics⟩

/-- One check. -/
theorem SweptIdle.step {env next : Env} {alive : Bool} {checked : Coordinator}
    (swept : s.SweptIdle clock k s' env.clock)
    (idle : s.expires clock k = true → s.runningOf k = [])
    (returned : s'.isAlive k env = .ok (alive, checked, next)) :
    s.SweptIdle clock (k + 1) checked next.clock := by
  simp only [isAlive, bind_eq_ok, workerAt_eq_ok] at returned
  obtain ⟨current, heldCurrent, outcome⟩ := returned
  obtain ⟨state, held, flag, heartbeat, running⟩ := swept.unchecked heldCurrent
  rw [← flag, ← heartbeat] at outcome
  cases isUp : state.alive with
  | false =>
      simp only [isUp, Bool.not_false, if_true] at outcome
      cases outcome
      have spared := swept.spared held
      rwa [isUp] at spared
  | true =>
      simp only [isUp, Bool.not_true, Bool.false_eq_true, if_false] at outcome
      split at outcome
      next =>
        cases outcome
        have spared := swept.spared held
        rwa [isUp] at spared
      next expired =>
        obtain ⟨dead, declared, finished⟩ := bind_eq_ok.mp outcome
        cases finished
        have expires : s.expires clock k = true := by
          rw [Coordinator.expires, held, Option.any_some, isUp, ← now_eq_readingOf swept.readings]
          simpa using expired
        have none : current.runningTasks.items = [] := by
          have empty := idle expires
          rwa [runningOf, held, Option.map_some, Option.getD_some, running] at empty
        have order := Unordered.arrange_perm (env.order k) current.runningTasks.items
        rw [none] at order declared
        rw [List.perm_nil.mp order] at declared
        exact swept.died held isUp declared

/-- The loop from worker `k` on. -/
theorem SweptIdle.loop (rounds : Nat) {env next : Env}
    {final : Coordinator} (swept : s.SweptIdle clock k s' env.clock)
    (idle : ∀ worker, s.expires clock worker = true → s.runningOf worker = [])
    (returned : sweepFrom (List.range' k rounds) s' env = .ok (final, next)) :
    final.tasks = s.tasks ∧ final.queuedBacklog = s.queuedBacklog ∧
      final.metrics = s.metrics := by
  induction rounds generalizing k s' env with
  | zero =>
      cases returned
      exact swept.kept
  | succ rounds ih =>
      rw [List.range'_succ, sweepFrom, bind_eq_ok] at returned
      obtain ⟨⟨alive, checked, remaining⟩, called, rest⟩ := returned
      exact ih (swept.step (idle k) called) rest

end

theorem Balanced.sweep {env next : Env} (balanced : s.Balanced)
    (idle : s.IdleDeaths (.sweep env)) (returned : s.sweepWorkers env = .ok (s', next)) :
    s'.Balanced := by
  have start : s.SweptIdle env.clock 0 s env.clock :=
    ⟨rfl, fun _ _ => rfl, rfl, rfl, rfl⟩
  rw [sweepWorkers, List.range_eq_range'] at returned
  obtain ⟨table, backlog, metrics⟩ := start.loop s.workersStates.length idle returned
  exact balanced.of_same table backlog (congrArg Metrics.counters metrics)

/-! ## Runs -/

theorem balanced_preserved :
    Preserves step (fun s event => s.CountedEvent event ∧ s.KeepsCounts event) Balanced := by
  intro s event s' balanced admitted stepped
  obtain ⟨counted, idle, few⟩ := admitted
  by_cases sweeps : event.Sweeps
  · cases event with
    | sweep env =>
        obtain ⟨rest, called⟩ := map_fst_eq_ok.mp stepped
        exact balanced.sweep idle called
    | _ => exact sweeps.elim
  · obtain ⟨middle, received, moves⟩ := step_spec stepped
    have moved : ∀ first second : Coordinator, Move event first second → first.Balanced →
        second.Balanced := fun _ _ move kept => kept.move sweeps move
    exact kept_of_moves moved moves (balanced.received counted few received)

/-- The counters of the coordinator are the recomputed ones, in whatever order the table is
iterated, and a backup that installs the table has them as well. -/
def Recounted (s : Coordinator) : Prop :=
  (∀ (visited : List Task) (metrics : Metrics), visited.Perm s.tasks.records →
    (Metrics.recomputeMetrics visited metrics).counters = s.metrics.counters) ∧
  ∀ (backup : Coordinator) (epoch : UInt64) (env : Env),
    (backup.processSnapshotEvent epoch s.tasks env).metrics.counters = s.metrics.counters

theorem Balanced.recounted (balanced : s.Balanced) : s.Recounted := by
  have recomputed : ∀ (visited : List Task) (metrics : Metrics),
      visited.Perm s.tasks.records →
      (Metrics.recomputeMetrics visited metrics).counters = s.metrics.counters := by
    intro visited metrics perm
    rw [counters_of_visits perm, balanced.counted]
  refine ⟨recomputed, fun backup epoch env => ?_⟩
  exact recomputed _ backup.metrics
    ((Unordered.arrange_perm (env.order 0) s.tasks.ids).filterMap s.tasks.find?)

/-- In a run whose sweeps declare no worker dead that runs a task, the counters of the
coordinator are the recomputed ones. -/
theorem counters_match_recomputed (events : List Event)
    (traffic : Along step CountedEvent init events)
    (condition : Along step KeepsCounts init events) (ran : run events = .ok s) :
    s.Recounted :=
  (balanced_preserved.run balanced_init (traffic.and condition) ran).recounted

/-- A worker completes a task and dies after that. -/
theorem counters_match_after_idle_death :
    ∃ s, run [.register 3 {}, .submit 4 { taskId := 1 } {}, .complete 3 { taskId := 1 } {},
      .sweep { clock := [2000000000] }] = .ok s ∧ s.Recounted := by
  have returns : ∃ s, run [.register 3 {}, .submit 4 { taskId := 1 } {},
      .complete 3 { taskId := 1 } {}, .sweep { clock := [2000000000] }] = .ok s ∧
      s.activeWorkers = [] := by decide +kernel
  obtain ⟨s, ran, _⟩ := returns
  exact ⟨s, ran, counters_match_recomputed _ (by decide +kernel) (by decide +kernel) ran⟩

/-- A worker dies while it runs a task.  The record of the task says that it is queued, and the
counters say that it is running. -/
theorem requeue_spoils_counters :
    ¬∀ (events : List Event) (s : Coordinator), Along step CountedEvent init events →
      run events = .ok s → s.Recounted := by
  intro always
  have spoiled : ∃ s, run [.register 3 {}, .submit 4 { taskId := 1 } {},
      .sweep { clock := [2000000000] }] = .ok s ∧ s.metrics.tasksRunning = 1 ∧
      (Metrics.recomputeMetrics s.tasks.records {}).counters ≠ s.metrics.counters := by
    decide +kernel
  obtain ⟨s, ran, _, differs⟩ := spoiled
  have recounted := always _ s (by decide +kernel) ran
  exact differs (recounted.1 s.tasks.records {} (List.Perm.refl _))

end TaskCoordinator.Coordinator
