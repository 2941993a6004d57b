import TaskCoordinator.Coordinator.Events

/-!
# What one event does to the state

Handling an event changes the state in two stages.  First the event itself is received,
which `Received` describes with one constructor per outcome of a handler.  Then the state
goes through any number of `Move`s: messages of the log are pushed, entries of the two
backlogs are worked off, or workers are declared dead.

Every handler is shown to decompose in this way.  An invariant of the scheduler thread is
proved once for the outcomes of `Received` and once for the moves, and no later proof
unfolds a handler.
-/

namespace TaskCoordinator

/-- Events that work off the backlogs. -/
def Event.Drains : Event → Prop
  | .pass _ | .backlog _ => True
  | _ => False

/-- Events that check the liveness of the workers. -/
def Event.Sweeps : Event → Prop
  | .sweep _ => True
  | _ => False

namespace Coordinator

open Transition

/-- `worker` is active at position `activeIdx`, has the given state and takes more work. -/
structure Offers (s : Coordinator) (activeIdx : Nat) (worker : WorkerId)
    (state : WorkerState) : Prop where
  active : s.activeWorkers[activeIdx]? = some worker
  held : s.workersStates[worker]? = some state
  room : state.runningTasks.size < Config.workerMaxQueueDepth

/-- The outcomes of receiving one event, before the moves that follow it. -/
inductive Received (s : Coordinator) : Event → Coordinator → Prop where
  | submitAssigned {fd : Fd} {msg : SubmitMsg} {env : Env} {activeIdx : Nat}
      {worker : WorkerId} {state : WorkerState} (now : Nanoseconds)
      (offers : s.Offers activeIdx worker state) :
      Received s (.submit fd msg env)
        ((s.accept fd msg env.now).assignTo (msg.task env.now) activeIdx worker state.fd now)
  | submitQueued {fd : Fd} {msg : SubmitMsg} {env : Env} :
      Received s (.submit fd msg env)
        { s.accept fd msg env.now with queuedBacklog := s.queuedBacklog ++ [msg.taskId] }
  | completeUnknown {fd : Fd} {msg : CompleteMsg} {env : Env}
      (unknown : s.tasks.find? msg.taskId = none) :
      Received s (.complete fd msg env) { s with isPrimary := true }
  | completeAnswered {fd : Fd} {msg : CompleteMsg} {env : Env} {task : Task}
      {state : WorkerState} (found : s.tasks.find? msg.taskId = some task)
      (held : s.workersStates[task.workerId]? = some state) :
      Received s (.complete fd msg env) ((s.finish msg task).answer (msg.update task))
  | completeDeferred {fd : Fd} {msg : CompleteMsg} {env : Env} {task : Task}
      {state : WorkerState} (found : s.tasks.find? msg.taskId = some task)
      (held : s.workersStates[task.workerId]? = some state)
      (refused : env.accepts = false) :
      Received s (.complete fd msg env)
        { s.finish msg task with completedBacklog := s.completedBacklog ++ [task.id] }
  | assignedReplicate {epoch : UInt64} {msg : AssignedReplicationMsg} :
      Received s (.assignedReplicate epoch msg) (s.processAssignReplicateEvent epoch msg)
  | completedReplicate {event : CompletedReplication} :
      Received s (.completedReplicate event) (s.processCompleteReplicateEvent event)
  | snapshot {epoch : UInt64} {tasks : TaskTable} {env : Env} :
      Received s (.snapshot epoch tasks env) (s.processSnapshotEvent epoch tasks env)
  | peerReconnected {env : Env} :
      Received s (.peerReconnected env) (s.processPeerReconnected env)
  | topRequest {fd : Fd} {env : Env} :
      Received s (.topRequest fd env) (s.processTopRequest fd env)
  | heartbeat {worker : WorkerId} {env : Env} {state : WorkerState}
      (held : s.workersStates[worker]? = some state) :
      Received s (.heartbeat worker env)
        (s.modifyWorker worker fun state =>
          { state with lastHeartbeatNs := env.now, alive := true })
  | registerRefused {fd : Fd} {env : Env} (refused : env.accepts = false) :
      Received s (.register fd env) s
  | registerReused {fd : Fd} {env : Env} {worker : WorkerId} {state : WorkerState}
      (accepted : env.accepts = true) (free : s.availableIds.getLast? = some worker)
      (held : s.workersStates[worker]? = some state) (now : Nanoseconds) :
      Received s (.register fd env) (s.registerReused fd worker now)
  | registerFresh {fd : Fd} {env : Env} (accepted : env.accepts = true)
      (none : s.availableIds = []) (now : Nanoseconds) :
      Received s (.register fd env) (s.registerFresh fd now)
  | pass {env : Env} : Received s (.pass env) s
  | backlog {env : Env} : Received s (.backlog env) s
  | replicate {env : Env} : Received s (.replicate env) s
  | sweep {env : Env} : Received s (.sweep env) s

/-- The changes that handling `event` can make after it has been received. -/
inductive Move (event : Event) : Coordinator → Coordinator → Prop where
  | replicated {s : Coordinator}
      (pending : s.replicationLog.read ≠ s.replicationLog.write) :
      Move event s s.replicateOne
  | dropped {s : Coordinator} {id : TaskId} {rest : List TaskId} (drains : event.Drains)
      (front : s.completedBacklog = id :: rest) (unknown : s.tasks.find? id = none) :
      Move event s { s with completedBacklog := rest }
  | answered {s : Coordinator} {id : TaskId} {rest : List TaskId} {task : Task}
      (drains : event.Drains) (front : s.completedBacklog = id :: rest)
      (found : s.tasks.find? id = some task) :
      Move event s { s.answer task with completedBacklog := rest }
  | assigned {s : Coordinator} {id : TaskId} {rest : List TaskId} {task : Task}
      {activeIdx : Nat} {worker : WorkerId} {state : WorkerState} (now : Nanoseconds)
      (drains : event.Drains) (front : s.queuedBacklog = id :: rest)
      (found : s.tasks.find? id = some task) (offers : s.Offers activeIdx worker state) :
      Move event s
        { s.assignTo task activeIdx worker state.fd now with queuedBacklog := rest }
  | died {s dead : Coordinator} {worker : WorkerId} {state : WorkerState}
      {running : List TaskId} (sweeps : event.Sweeps)
      (held : s.workersStates[worker]? = some state) (alive : state.alive = true)
      (order : running.Perm state.runningTasks.items)
      (declared : s.declareDead worker running = .ok dead) :
      Move event s dead

/-- Any number of moves. -/
abbrev Moves (event : Event) : Coordinator → Coordinator → Prop :=
  Relation.ReflTransGen (Move event)

variable {s s' : Coordinator} {event : Event} {env env' : Env}

/-! ## Replication and assignment -/

theorem replicateRounds_moves (rounds : Nat) (s : Coordinator) (env : Env) :
    Moves event s (replicateRounds rounds s env).1 := by
  induction rounds generalizing s env with
  | zero => exact .refl
  | succ rounds ih =>
      simp only [replicateRounds]
      split
      next => exact .refl
      next pending =>
        split
        next => exact .head (.replicated pending) (ih _ _)
        next => exact .refl

theorem replicate_moves (s : Coordinator) (env : Env) :
    Moves event s (s.replicate env).1 :=
  replicateRounds_moves _ s env

/-- The search of `assign` returns an active worker below the depth limit. -/
theorem offers_of_firstAvailable {rounds i activeIdx : Nat} {worker : WorkerId}
    {state : WorkerState}
    (found : s.firstAvailable rounds i = .ok (some (activeIdx, worker, state))) :
    s.Offers activeIdx worker state := by
  induction rounds generalizing i with
  | zero => cases found
  | succ rounds ih =>
      simp only [firstAvailable] at found
      cases active : s.activeWorkers[(s.rrIndex + i) % s.activeWorkers.length]? with
      | none => simp [active] at found
      | some candidate =>
          simp only [active, bind_eq_ok, workerAt_eq_ok] at found
          obtain ⟨candidateState, held, chosen⟩ := found
          split at chosen
          next => exact ih chosen
          next room =>
            cases chosen
            exact ⟨active, held, not_le.mp room⟩

/-- `assign` either hands the task to a worker that offers room or leaves the state. -/
theorem assign_spec {task : Task} {assigned : Bool}
    (called : s.assign task env = .ok (assigned, s', env')) :
    (assigned = true ∧ ∃ activeIdx worker state now, s.Offers activeIdx worker state ∧
      s' = s.assignTo task activeIdx worker state.fd now) ∨
    (assigned = false ∧ s' = s) := by
  simp only [assign, bind_eq_ok] at called
  obtain ⟨search, found, rest⟩ := called
  cases search with
  | none =>
      cases rest
      exact .inr ⟨rfl, rfl⟩
  | some choice =>
      obtain ⟨activeIdx, worker, state⟩ := choice
      simp only at rest
      split at rest
      next =>
        cases rest
        exact .inl ⟨rfl, activeIdx, worker, state, _, offers_of_firstAvailable found, rfl⟩
      next =>
        cases rest
        exact .inr ⟨rfl, rfl⟩

theorem assign_accepting {task : Task} {assigned : Bool} (accepting : env.Accepting)
    (called : s.assign task env = .ok (assigned, s', env')) : env'.Accepting := by
  simp only [assign, bind_eq_ok] at called
  obtain ⟨search, _, rest⟩ := called
  cases search with
  | none =>
      cases rest
      exact accepting
  | some choice =>
      simp only [accepting.accepts, if_true] at rest
      cases rest
      exact accepting.afterPush.afterNow

/-! ## The backlog pass -/

/-- Replication keeps every part of the state that one of its rounds keeps. -/
theorem replicateRounds_keeps {α : Type} (part : Coordinator → α)
    (keeps : ∀ s : Coordinator, part s.replicateOne = part s) (rounds : Nat)
    (s : Coordinator) (env : Env) : part (replicateRounds rounds s env).1 = part s := by
  induction rounds generalizing s env with
  | zero => rfl
  | succ rounds ih =>
      simp only [replicateRounds]
      split_ifs
      · rfl
      · rw [ih, keeps]
      · rfl

theorem processCompleted_moves (drains : event.Drains) (backlog : List TaskId)
    (s : Coordinator) (env : Env) (same : s.completedBacklog = backlog) :
    Moves event s (processCompleted backlog s env).1 := by
  induction backlog generalizing s env with
  | nil => exact .refl
  | cons id rest ih =>
      simp only [processCompleted]
      cases found : s.tasks.find? id with
      | none => exact .head (.dropped drains same found) (ih _ _ rfl)
      | some task =>
          simp only [sendResult]
          cases env.accepts with
          | false => exact .refl
          | true =>
              refine .head (.answered drains same found) ?_
              exact (replicate_moves _ _).trans
                (ih _ _ (replicateRounds_keeps completedBacklog (fun _ => rfl) _ _ _))

theorem processQueued_moves (drains : event.Drains) (backlog : List TaskId)
    (s : Coordinator) (env : Env) (same : s.queuedBacklog = backlog)
    (called : processQueued backlog s env = .ok (s', env')) : Moves event s s' := by
  induction backlog generalizing s env with
  | nil =>
      cases called
      exact .refl
  | cons id rest ih =>
      simp only [processQueued, bind_eq_ok, taskAt_eq_ok] at called
      obtain ⟨task, found, ⟨assigned, next, remaining⟩, attempted, rest⟩ := called
      obtain ⟨rfl, activeIdx, worker, state, now, offers, rfl⟩ | ⟨rfl, rfl⟩ :=
        assign_spec attempted
      · refine .head (.assigned now drains same found offers) ?_
        exact (replicate_moves _ _).trans
          (ih _ _ (replicateRounds_keeps queuedBacklog (fun _ => rfl) _ _ _) rest)
      · cases rest
        exact .refl

theorem processBacklog_moves (drains : event.Drains)
    (called : s.processBacklog env = .ok (s', env')) : Moves event s s' :=
  (processCompleted_moves drains _ s env rfl).trans
    (processQueued_moves drains _ _ _ rfl called)

/-! ## Sweeps -/

theorem isAlive_moves (sweeps : event.Sweeps) {worker : WorkerId} {alive : Bool}
    (called : s.isAlive worker env = .ok (alive, s', env')) : Moves event s s' := by
  simp only [isAlive, bind_eq_ok, workerAt_eq_ok] at called
  obtain ⟨state, held, checked⟩ := called
  split at checked
  next =>
    cases checked
    exact .refl
  next notDead =>
    have stillAlive : state.alive = true := by simpa using notDead
    split at checked
    next =>
      cases checked
      exact .refl
    next =>
      obtain ⟨dead, declared, finished⟩ := bind_eq_ok.mp checked
      cases finished
      exact .single (.died sweeps held stillAlive (Unordered.arrange_perm _ _) declared)

theorem sweepFrom_moves (sweeps : event.Sweeps) (workers : List WorkerId)
    (called : sweepFrom workers s env = .ok (s', env')) : Moves event s s' := by
  induction workers generalizing s env with
  | nil =>
      cases called
      exact .refl
  | cons worker rest ih =>
      simp only [sweepFrom, bind_eq_ok] at called
      obtain ⟨⟨alive, checked, remaining⟩, called, swept⟩ := called
      exact (isAlive_moves sweeps called).trans (ih swept)

/-! ## The step function -/

theorem map_fst_eq_ok {α β : Type} {φ : Type} {called : Except φ (α × β)} {value : α} :
    Prod.fst <$> called = .ok value ↔ ∃ rest, called = .ok (value, rest) := by
  cases called with
  | error fault => simp [Functor.map, Except.map]
  | ok pair =>
      obtain ⟨first, second⟩ := pair
      simp [Functor.map, Except.map]

/-- A `SUBMIT` is received, and `replicate` is called with the inputs that remain. -/
theorem processSubmitEvent_spec {fd : Fd} {msg : SubmitMsg}
    (called : s.processSubmitEvent fd msg env = .ok (s', env')) :
    ∃ received remaining, Received s (.submit fd msg env) received ∧
      (env.Accepting → remaining.Accepting) ∧ s' = (received.replicate remaining).1 := by
  simp only [processSubmitEvent, bind_eq_ok] at called
  obtain ⟨⟨assigned, next, remaining⟩, attempted, rest⟩ := called
  have accepted : env.Accepting → remaining.Accepting :=
    fun accepting => assign_accepting accepting.afterNow attempted
  obtain ⟨rfl, activeIdx, worker, state, now, offers, rfl⟩ | ⟨rfl, rfl⟩ :=
    assign_spec attempted
  · refine ⟨_, remaining, .submitAssigned now ⟨offers.active, offers.held, offers.room⟩,
      accepted, ?_⟩
    exact (congrArg Prod.fst (Except.ok.inj rest)).symm
  · refine ⟨_, remaining, .submitQueued, accepted, ?_⟩
    rw [← SubmitMsg.task_id msg env.now]
    exact (congrArg Prod.fst (Except.ok.inj rest)).symm

/-- So is a `COMPLETE`, unless it names an unknown task. -/
theorem processCompleteEvent_spec {fd : Fd} {msg : CompleteMsg}
    (called : s.processCompleteEvent msg env = .ok (s', env')) :
    (s.tasks.find? msg.taskId = none ∧ s' = { s with isPrimary := true }) ∨
    ∃ received remaining, Received s (.complete fd msg env) received ∧
      (env.Accepting → remaining.Accepting) ∧ s' = (received.replicate remaining).1 := by
  unfold processCompleteEvent at called
  cases found : s.tasks.find? msg.taskId with
  | none =>
      simp only [found] at called
      cases called
      exact .inl ⟨rfl, rfl⟩
  | some task =>
      simp only [found, bind_eq_ok, workerAt_eq_ok] at called
      obtain ⟨state, held, rest⟩ := called
      simp only [sendResult] at rest
      cases accepted : env.accepts with
      | true =>
          simp only [accepted, if_true] at rest
          refine .inr ⟨_, _, .completeAnswered found held, Env.Accepting.afterPush, ?_⟩
          exact (congrArg Prod.fst (Except.ok.inj rest)).symm
      | false =>
          simp only [accepted, Bool.false_eq_true, if_false] at rest
          refine .inr ⟨_, _, .completeDeferred found held accepted, Env.Accepting.afterPush, ?_⟩
          exact (congrArg Prod.fst (Except.ok.inj rest)).symm

theorem processRegisterEvent_spec {fd : Fd}
    (called : s.processRegisterEvent fd env = .ok s') :
    Received s (.register fd env) s' := by
  unfold processRegisterEvent at called
  cases free : s.availableIds.getLast? with
  | some worker =>
      simp only [free] at called
      cases accepted : env.accepts with
      | true =>
          simp only [accepted, if_true, bind_eq_ok, workerAt_eq_ok] at called
          obtain ⟨state, held, rest⟩ := called
          cases rest
          exact .registerReused accepted free held _
      | false =>
          simp only [accepted, Bool.false_eq_true, if_false] at called
          cases called
          exact .registerRefused accepted
  | none =>
      simp only [free] at called
      cases accepted : env.accepts with
      | true =>
          simp only [accepted, if_true] at called
          cases called
          exact .registerFresh accepted (List.getLast?_eq_none_iff.mp free) _
      | false =>
          simp only [accepted, Bool.false_eq_true, if_false] at called
          cases called
          exact .registerRefused accepted

/-- Every step receives its event and then makes moves. -/
theorem step_spec (stepped : s.step event = .ok s') :
    ∃ middle, Received s event middle ∧ Moves event middle s' := by
  cases event with
  | submit fd msg env =>
      obtain ⟨rest, called⟩ := map_fst_eq_ok.mp stepped
      obtain ⟨received, remaining, isReceived, _, replicated⟩ := processSubmitEvent_spec called
      exact ⟨received, isReceived, replicated ▸ replicate_moves received remaining⟩
  | complete fd msg env =>
      obtain ⟨rest, called⟩ := map_fst_eq_ok.mp stepped
      obtain ⟨unknown, rfl⟩ | ⟨received, remaining, isReceived, _, replicated⟩ :=
        @processCompleteEvent_spec _ _ _ _ fd _ called
      · exact ⟨_, .completeUnknown unknown, .refl⟩
      · exact ⟨received, isReceived, replicated ▸ replicate_moves received remaining⟩
  | assignedReplicate epoch msg =>
      cases stepped
      exact ⟨_, .assignedReplicate, .refl⟩
  | completedReplicate event =>
      cases stepped
      exact ⟨_, .completedReplicate, .refl⟩
  | snapshot epoch tasks env =>
      cases stepped
      exact ⟨_, .snapshot, .refl⟩
  | peerReconnected env =>
      cases stepped
      exact ⟨_, .peerReconnected, .refl⟩
  | topRequest fd env =>
      cases stepped
      exact ⟨_, .topRequest, .refl⟩
  | heartbeat worker env =>
      simp only [step, processHeartbeatEvent, bind_eq_ok, workerAt_eq_ok] at stepped
      obtain ⟨state, held, rest⟩ := stepped
      cases rest
      exact ⟨_, .heartbeat held, .refl⟩
  | register fd env => exact ⟨_, processRegisterEvent_spec stepped, .refl⟩
  | pass env =>
      refine ⟨s, .pass, ?_⟩
      simp only [step] at stepped
      split at stepped
      next =>
        obtain ⟨⟨drained, remaining⟩, called, rest⟩ := bind_eq_ok.mp stepped
        cases rest
        have drains : Event.Drains (.pass env) := trivial
        exact (processBacklog_moves drains called).trans (replicate_moves _ _)
      next =>
        cases stepped
        exact .refl
  | backlog env =>
      obtain ⟨rest, called⟩ := map_fst_eq_ok.mp stepped
      exact ⟨s, .backlog, processBacklog_moves trivial called⟩
  | replicate env =>
      cases stepped
      exact ⟨s, .replicate, replicate_moves _ _⟩
  | sweep env =>
      obtain ⟨rest, called⟩ := map_fst_eq_ok.mp stepped
      exact ⟨s, .sweep, sweepFrom_moves trivial _ called⟩

/-- A property is preserved by the scheduler when receiving an admitted event keeps it and
the moves that follow keep it. -/
theorem preserves_of_moves {guard : Coordinator → Event → Prop} {holds : Coordinator → Prop}
    (received : ∀ s event middle, holds s → guard s event → Received s event middle →
      holds middle)
    (moved : ∀ start event s s', guard start event → Move event s s' → holds s → holds s') :
    Preserves step guard holds := by
  intro s event s' holdsBefore admitted stepped
  obtain ⟨middle, received', moves⟩ := step_spec stepped
  exact kept_of_moves (fun first second => moved s event first second admitted) moves
    (received s event middle holdsBefore admitted received')

/-- A property of the state and of the events so far holds after every run when receiving an
admitted event keeps it, with the event added, and the moves that follow keep it. -/
theorem history_of_moves {guard : Coordinator → Event → Prop}
    {holds : List Event → Coordinator → Prop}
    (received : ∀ before s event middle, holds before s → guard s event →
      Received s event middle → holds (before ++ [event]) middle)
    (moved : ∀ before event s s', Move event s s' → holds (before ++ [event]) s →
      holds (before ++ [event]) s')
    {events : List Event} {final : Coordinator} (initially : holds [] init)
    (along : Along step guard init events) (ran : run events = .ok final) :
    holds events final := by
  refine history_run (fun before s event next holdsBefore admitted stepped => ?_) initially along
    ran
  obtain ⟨middle, received', moves⟩ := step_spec stepped
  exact kept_of_moves (fun first second => moved before event first second) moves
    (received before s event middle holdsBefore admitted received')

/-- After an event that neither drains the backlogs nor sweeps, messages of the log are pushed
and nothing else happens. -/
theorem keeps_of_quiet_moves {α : Type} (part : Coordinator → α)
    (keeps : ∀ s : Coordinator, part s.replicateOne = part s) (notDrains : ¬ event.Drains)
    (notSweeps : ¬ event.Sweeps) (moves : Moves event s s') : part s' = part s := by
  induction moves with
  | refl => rfl
  | tail _ move ih =>
      rw [← ih]
      cases move with
      | replicated => exact keeps _
      | dropped drains | answered drains | assigned _ drains => exact absurd drains notDrains
      | died sweeps => exact absurd sweeps notSweeps

end Coordinator

end TaskCoordinator
