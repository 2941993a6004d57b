import TaskCoordinator.Coordinator.Safety

/-!
# Where the scheduler can fault

A step that fails has made some moves and then met something that does not exist: a queued or
a running task without a record, or a worker id outside `workers_states_`.  `Faults` lists
these meetings with one constructor per access of the source, so that an invariant that
survives the moves excludes a kind of fault by excluding its constructors.
-/

namespace TaskCoordinator.Coordinator

open Transition

/-- What the handling of `event` meets in a state in which it fails. -/
inductive Faults (s : Coordinator) : Event → Fault → Prop where
  | queued {event : Event} {id : TaskId} (drains : event.Drains) (member : id ∈ s.queuedBacklog)
      (unknown : s.tasks.find? id = none) : Faults s event (.outOfRange id)
  | running {event : Event} {worker : WorkerId} {id : TaskId} (sweeps : event.Sweeps)
      (runs : s.Runs worker id) (unknown : s.tasks.find? id = none) :
      Faults s event (.outOfRange id)
  | active {event : Event} {worker : WorkerId} (member : worker ∈ s.activeWorkers)
      (missing : s.workersStates.length ≤ worker) : Faults s event (.badIndex worker)
  | free {fd : Fd} {env : Env} {worker : WorkerId} (member : worker ∈ s.availableIds)
      (missing : s.workersStates.length ≤ worker) : Faults s (.register fd env) (.badIndex worker)
  | record {fd : Fd} {msg : CompleteMsg} {env : Env} {task : Task}
      (found : s.tasks.find? msg.taskId = some task)
      (missing : s.workersStates.length ≤ task.workerId) :
      Faults s (.complete fd msg env) (.badIndex task.workerId)
  | heartbeat {worker : WorkerId} {env : Env} (missing : s.workersStates.length ≤ worker) :
      Faults s (.heartbeat worker env) (.badIndex worker)

variable {s s' : Coordinator} {event : Event} {env env' : Env} {fault : Fault}

theorem workerAt_eq_error {worker : WorkerId} :
    s.workerAt worker = .error fault ↔
      s.workersStates.length ≤ worker ∧ fault = .badIndex worker := by
  rw [← List.getElem?_eq_none_iff]
  unfold workerAt
  cases s.workersStates[worker]? <;> simp [eq_comm]

theorem taskAt_eq_error {id : TaskId} :
    s.taskAt id = .error fault ↔ s.tasks.find? id = none ∧ fault = .outOfRange id := by
  unfold taskAt
  cases s.tasks.find? id <;> simp [eq_comm]

/-! ## Assignment -/

theorem firstAvailable_faults {rounds i : Nat}
    (nonempty : rounds = 0 ∨ 0 < s.activeWorkers.length)
    (failed : s.firstAvailable rounds i = .error fault) : Faults s event fault := by
  induction rounds generalizing i with
  | zero => cases failed
  | succ rounds ih =>
      have positive : 0 < s.activeWorkers.length := nonempty.resolve_left (by simp)
      have inside := Nat.mod_lt (s.rrIndex + i) positive
      simp only [firstAvailable, List.getElem?_eq_getElem inside, bind_eq_error] at failed
      rcases failed with failed | ⟨state, _, failed⟩
      · obtain ⟨missing, rfl⟩ := workerAt_eq_error.mp failed
        exact .active (List.getElem_mem inside) missing
      · split at failed
        next => exact ih (.inr positive) failed
        next => cases failed

theorem assign_faults {task : Task} (failed : s.assign task env = .error fault) :
    Faults s event fault := by
  simp only [assign, bind_eq_error] at failed
  rcases failed with failed | ⟨search, _, failed⟩
  · exact firstAvailable_faults (Nat.eq_zero_or_pos _) failed
  · cases search with
    | none => cases failed
    | some choice =>
        simp only at failed
        split at failed
        next => cases failed
        next => cases failed

/-! ## The backlog pass -/

theorem processQueued_faults (drains : event.Drains) (backlog : List TaskId) (s : Coordinator)
    (env : Env) (same : s.queuedBacklog = backlog)
    (failed : processQueued backlog s env = .error fault) :
    ∃ reached, Moves event s reached ∧ Faults reached event fault := by
  induction backlog generalizing s env with
  | nil => cases failed
  | cons id rest ih =>
      simp only [processQueued, bind_eq_error] at failed
      rcases failed with failed | ⟨task, found, failed | ⟨attempt, attempted, failed⟩⟩
      · obtain ⟨unknown, rfl⟩ := taskAt_eq_error.mp failed
        exact ⟨s, .refl, .queued drains (by simp [same]) unknown⟩
      · exact ⟨s, .refl, assign_faults failed⟩
      · obtain ⟨assigned, next, remaining⟩ := attempt
        obtain ⟨rfl, activeIdx, worker, state, now, offers, rfl⟩ | ⟨rfl, rfl⟩ :=
          assign_spec attempted
        · obtain ⟨reached, moves, faults⟩ :=
            ih _ _ (replicateRounds_keeps queuedBacklog (fun _ => rfl) _ _ _) failed
          have handedOut := Move.assigned now drains same (taskAt_eq_ok.mp found) offers
          exact ⟨reached, .head handedOut ((replicate_moves _ _).trans moves), faults⟩
        · cases failed

theorem processBacklog_faults (drains : event.Drains)
    (failed : s.processBacklog env = .error fault) :
    ∃ reached, Moves event s reached ∧ Faults reached event fault := by
  obtain ⟨reached, moves, faults⟩ := processQueued_faults drains _ _ _ rfl failed
  exact ⟨reached, (processCompleted_moves drains _ s env rfl).trans moves, faults⟩

/-! ## Sweeps -/

theorem markInactive_faults {worker : WorkerId} {state : WorkerState}
    (held : s.workersStates[worker]? = some state)
    (failed : s.markInactive worker = .error fault) : Faults s event fault := by
  unfold markInactive at failed
  cases final : s.activeWorkers.getLast? with
  | none =>
      simp only [final] at failed
      cases failed
  | some last =>
      simp only [final, workerAt_eq_ok.mpr held, bind, Except.bind] at failed
      split at failed
      next => cases failed
      next =>
        rcases bind_eq_error.mp failed with failed | ⟨_, _, failed⟩
        · obtain ⟨missing, rfl⟩ := workerAt_eq_error.mp failed
          exact .active (List.mem_of_getLast? final) missing
        · cases failed

/-- The loop of `requeue` changes records and removes none. -/
theorem requeue_faults {ids : List TaskId} (failed : requeue ids s = .error fault) :
    ∃ id ∈ ids, s.tasks.find? id = none ∧ fault = .outOfRange id := by
  induction ids generalizing s with
  | nil => cases failed
  | cons first rest ih =>
      simp only [requeue, bind_eq_error] at failed
      rcases failed with failed | ⟨task, found, failed⟩
      · obtain ⟨unknown, rfl⟩ := taskAt_eq_error.mp failed
        exact ⟨first, by simp, unknown, rfl⟩
      · obtain ⟨id, member, unknown, rfl⟩ := ih failed
        refine ⟨id, List.mem_cons_of_mem first member, ?_, rfl⟩
        by_contra known
        obtain ⟨stored, foundLater⟩ : ∃ stored, (s.tasks.set task.requeued).find? id = some stored :=
          TaskTable.known_set (Option.ne_none_iff_exists'.mp known)
        rw [foundLater] at unknown
        cases unknown

theorem isAlive_faults (sweeps : event.Sweeps) {worker : WorkerId}
    (bound : worker < s.workersStates.length)
    (failed : s.isAlive worker env = .error fault) : Faults s event fault := by
  obtain ⟨state, held⟩ := held_of_lt bound
  simp only [isAlive, workerAt_eq_ok.mpr held, bind, Except.bind] at failed
  split at failed
  next => cases failed
  next =>
    split at failed
    next => cases failed
    next =>
      rcases bind_eq_error.mp failed with failed | ⟨_, _, failed⟩
      · simp only [declareDead, bind_eq_error] at failed
        rcases failed with failed | ⟨inactive, marked, failed | ⟨_, _, failed⟩⟩
        · exact markInactive_faults held failed
        · obtain ⟨id, member, unknown, rfl⟩ := requeue_faults failed
          have sameTable : inactive.tasks = s.tasks := by
            obtain ⟨rfl, _⟩ | ⟨_, _, _, _, _, rfl⟩ := markInactive_spec marked
            · rfl
            · rfl
          rw [modifyWorker_tasks, sameTable] at unknown
          have runs : s.Runs worker id :=
            ⟨state, held, (Unordered.arrange_perm _ _).mem_iff.mp member⟩
          exact .running sweeps runs unknown
        · cases failed
      · cases failed

theorem sweepFrom_faults (sweeps : event.Sweeps) (workers : List WorkerId)
    (bounds : ∀ worker ∈ workers, worker < s.workersStates.length)
    (failed : sweepFrom workers s env = .error fault) :
    ∃ reached, Moves event s reached ∧ Faults reached event fault := by
  induction workers generalizing s env with
  | nil => cases failed
  | cons worker rest ih =>
      simp only [sweepFrom, bind_eq_error] at failed
      rcases failed with failed | ⟨⟨alive, checked, remaining⟩, called, failed⟩
      · exact ⟨s, .refl, isAlive_faults sweeps (bounds worker (by simp)) failed⟩
      · have moves := isAlive_moves sweeps called
        have boundsLater : ∀ other ∈ rest, other < checked.workersStates.length := by
          intro other member
          rw [length_of_moves moves]
          exact bounds other (List.mem_cons_of_mem worker member)
        obtain ⟨reached, later, faults⟩ := ih boundsLater failed
        exact ⟨reached, moves.trans later, faults⟩

/-! ## The step function -/

theorem map_fst_eq_error {α β φ : Type} {called : Except φ (α × β)} {fault : φ} :
    Prod.fst <$> called = .error fault ↔ called = .error fault := by
  cases called <;> simp [Functor.map, Except.map]

/-- A step that fails has made moves and then met what is missing. -/
theorem step_faults (failed : s.step event = .error fault) :
    ∃ reached, Moves event s reached ∧ Faults reached event fault := by
  cases event with
  | submit fd msg env =>
      refine ⟨s, .refl, ?_⟩
      have called := map_fst_eq_error.mp failed
      simp only [processSubmitEvent, bind_eq_error] at called
      rcases called with called | ⟨⟨assigned, next, remaining⟩, _, called⟩
      · cases @assign_faults _ (.submit fd msg env) _ _ _ called with
        | active member missing => exact .active member missing
        | queued drains => cases drains
        | running sweeps => cases sweeps
      · cases assigned <;> cases called
  | complete fd msg env =>
      refine ⟨s, .refl, ?_⟩
      have called := map_fst_eq_error.mp failed
      unfold processCompleteEvent at called
      split at called
      next => cases called
      next task found =>
        rcases bind_eq_error.mp called with called | ⟨state, _, called⟩
        · obtain ⟨missing, rfl⟩ := workerAt_eq_error.mp called
          exact .record found missing
        · simp only [sendResult] at called
          cases accepted : env.accepts <;> simp [accepted] at called
  | heartbeat worker env =>
      refine ⟨s, .refl, ?_⟩
      simp only [step, processHeartbeatEvent, bind_eq_error] at failed
      rcases failed with failed | ⟨_, _, failed⟩
      · obtain ⟨missing, rfl⟩ := workerAt_eq_error.mp failed
        exact .heartbeat missing
      · cases failed
  | register fd env =>
      refine ⟨s, .refl, ?_⟩
      simp only [step, processRegisterEvent] at failed
      split at failed
      next worker free =>
        split at failed
        next =>
          rcases bind_eq_error.mp failed with failed | ⟨_, _, failed⟩
          · obtain ⟨missing, rfl⟩ := workerAt_eq_error.mp failed
            exact .free (List.mem_of_getLast? free) missing
          · cases failed
        next => cases failed
      next => cases failed
  | pass env =>
      simp only [step] at failed
      split at failed
      next =>
        rcases bind_eq_error.mp failed with failed | ⟨_, _, failed⟩
        · exact processBacklog_faults trivial failed
        · cases failed
      next => cases failed
  | backlog env => exact processBacklog_faults trivial (map_fst_eq_error.mp failed)
  | sweep env =>
      exact sweepFrom_faults trivial _ (fun _ => List.mem_range.mp) (map_fst_eq_error.mp failed)
  | assignedReplicate | completedReplicate | snapshot | peerReconnected | topRequest | replicate =>
      cases failed

end TaskCoordinator.Coordinator
