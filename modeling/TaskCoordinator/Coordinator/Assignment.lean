import TaskCoordinator.Coordinator.Pool
import TaskCoordinator.Library.RoundRobin

/-!
# Assignment of tasks to workers

The search of `assign` goes once around the active workers, from the position that
`rr_index_` points to, and stops at the first worker below the depth limit.  In a pool every
active worker has a state, so the search ends with a worker or with none.  What `assign`
changes is stated here as a whole, together with what it leaves alone.

When no active worker is at its limit the search never goes on, and successive assignments
take turns among the workers.
-/

namespace TaskCoordinator.Coordinator

open Transition

variable {s s' : Coordinator} {event : Event}

/-! ## The search -/

/-- The worker runs fewer tasks than the depth limit. -/
def hasRoom (s : Coordinator) (worker : WorkerId) : Bool :=
  s.workersStates[worker]?.any fun state =>
    state.runningTasks.size < Config.workerMaxQueueDepth

/-- The active workers in the order in which `assign` considers them. -/
def searchOrder (s : Coordinator) : List WorkerId :=
  s.activeWorkers.rotate (s.rrIndex % s.activeWorkers.length)

theorem searchOrder_getElem? {i : Nat} (inside : i < s.activeWorkers.length) :
    s.searchOrder[i]? = s.activeWorkers[(s.rrIndex + i) % s.activeWorkers.length]? := by
  rw [searchOrder, List.rotate_mod, List.getElem?_rotate inside, Nat.add_comm]

/-- The search finds the first worker with room in its order, and none if there is none. -/
theorem Pool.firstAvailable (pool : s.Pool) {rounds i : Nat}
    (whole : i + rounds = s.activeWorkers.length) :
    (∃ activeIdx worker state,
      s.firstAvailable rounds i = .ok (some (activeIdx, worker, state)) ∧
      (s.searchOrder.drop i).find? s.hasRoom = some worker ∧
      s.Offers activeIdx worker state) ∨
    (s.firstAvailable rounds i = .ok none ∧
      (s.searchOrder.drop i).find? s.hasRoom = none) := by
  have length : s.searchOrder.length = s.activeWorkers.length := List.length_rotate _ _
  induction rounds generalizing i with
  | zero =>
      refine .inr ⟨rfl, ?_⟩
      rw [List.drop_eq_nil_of_le (by omega)]
      rfl
  | succ rounds ih =>
      have inside : i < s.activeWorkers.length := by omega
      have bound : (s.rrIndex + i) % s.activeWorkers.length < s.activeWorkers.length :=
        Nat.mod_lt _ (by omega)
      obtain ⟨worker, active⟩ : ∃ worker,
          s.activeWorkers[(s.rrIndex + i) % s.activeWorkers.length]? = some worker :=
        ⟨_, List.getElem?_eq_getElem bound⟩
      obtain ⟨state, held, _⟩ := pool.indexed _ worker active
      have split : s.searchOrder.drop i = worker :: s.searchOrder.drop (i + 1) := by
        have here := searchOrder_getElem? inside
        rw [active] at here
        obtain ⟨_, rfl⟩ := List.getElem?_eq_some_iff.mp here
        exact List.drop_eq_getElem_cons _
      have search : s.firstAvailable (rounds + 1) i =
          if state.runningTasks.size ≥ Config.workerMaxQueueDepth then
            s.firstAvailable rounds (i + 1)
          else
            .ok (some ((s.rrIndex + i) % s.activeWorkers.length, worker, state)) := by
        simp only [Coordinator.firstAvailable, active, workerAt_eq_ok.mpr held]
        rfl
      rw [search, split]
      by_cases full : state.runningTasks.size ≥ Config.workerMaxQueueDepth
      · have noRoom : s.hasRoom worker = false := by simp [hasRoom, held, full]
        rw [if_pos full, List.find?_cons, noRoom]
        exact ih (by omega)
      · have room : s.hasRoom worker = true := by simpa [hasRoom, held] using full
        rw [if_neg full, List.find?_cons, room]
        exact .inl ⟨_, worker, state, rfl, rfl, active, held, not_le.mp full⟩

/-- Some active worker has room if and only if the search finds one. -/
theorem exists_hasRoom_iff :
    (∃ worker ∈ s.activeWorkers, s.hasRoom worker = true) ↔
      (s.searchOrder.find? s.hasRoom).isSome = true := by
  simp [searchOrder]

/-! ## One call -/

/-- The assignment that the `ASSIGN` for a task carries has the id and type of the task, and the
payload of its type. -/
theorem assign?_assignMessage (s : Coordinator) (task : Task) :
    ∃ order : AssignMsg, s.assignMessage task = { epoch := s.currentEpoch, body := .assign order } ∧
      order.taskId = task.id ∧ order.type = task.type ∧
      (task.type = .synthetic → order.durationUs = task.durationUs) ∧
      (task.type = .wordCount → order.words = task.words) := by
  unfold assignMessage
  refine ⟨_, rfl, ?_⟩
  cases task.type <;> simp

/-- The `ASSIGNED_REPLICATE` for a task carries its record, and the payload of its type. -/
theorem assignedReplicate_assignedReplication (s : Coordinator) (task : Task) :
    ∃ update : AssignedReplicationMsg,
      s.assignedReplication task =
        { epoch := s.currentEpoch, body := .assignedReplicate update } ∧
      update.taskId = task.id ∧ update.queuedAt = task.queuedAt ∧
      update.startedAt = task.startedAt ∧ update.clientId = task.clientId ∧
      update.workerId = task.workerId ∧ update.taskType = task.type ∧
      (task.type = .synthetic → update.durationUs = task.durationUs.toUInt64) ∧
      (task.type = .wordCount → update.words = task.words) := by
  unfold assignedReplication
  refine ⟨_, rfl, ?_⟩
  cases task.type <;> simp

/-- What an assignment of `task` to `worker` changes, and what it leaves alone. -/
structure HandsOver (s : Coordinator) (task : Task) (worker : WorkerId) (s' : Coordinator) :
    Prop where
  /-- The worker is the first one with room in cyclic order. -/
  chosen : s.searchOrder.find? s.hasRoom = some worker
  /-- One `ASSIGN` with the task has been pushed to the connection of the worker. -/
  pushed : ∃ (state : WorkerState) (order : AssignMsg),
    s.workersStates[worker]? = some state ∧
    s'.outgoingQueue = s.outgoingQueue ++
      [{ fd := state.fd, msg := { epoch := s.currentEpoch, body := .assign order } }] ∧
    order.taskId = task.id ∧ order.type = task.type ∧
    (task.type = .synthetic → order.durationUs = task.durationUs) ∧
    (task.type = .wordCount → order.words = task.words)
  /-- The task is running on the worker, and one `ASSIGNED_REPLICATE` that says so has been added
  to the log. -/
  running : ∃ (now : Nanoseconds) (update : AssignedReplicationMsg),
    s'.tasks.find? task.id =
      some { task with workerId := worker, state := .running, startedAt := now } ∧
    s'.replicationLog = s.replicationLog.add
      { epoch := s.currentEpoch, body := .assignedReplicate update } ∧
    update.taskId = task.id ∧ update.queuedAt = task.queuedAt ∧ update.startedAt = now ∧
    update.clientId = task.clientId ∧ update.workerId = worker ∧ update.taskType = task.type ∧
    (task.type = .synthetic → update.durationUs = task.durationUs.toUInt64) ∧
    (task.type = .wordCount → update.words = task.words)
  charged : ∃ state, s.workersStates[worker]? = some state ∧
    s'.workersStates[worker]? =
      some { state with runningTasks := state.runningTasks.insert task.id }
  otherTasks : ∀ id, id ≠ task.id → s'.tasks.find? id = s.tasks.find? id
  otherWorkers : ∀ other, other ≠ worker → s'.workersStates[other]? = s.workersStates[other]?
  /-- The cursor and the metrics are all that changes besides. -/
  rest : s' = { s with
    outgoingQueue := s'.outgoingQueue, rrIndex := s'.rrIndex, tasks := s'.tasks
    workersStates := s'.workersStates, metrics := s.metrics.recordAssignment
    replicationLog := s'.replicationLog }

theorem Offers.handsOver {activeIdx : Nat} {worker : WorkerId} {state : WorkerState}
    (offers : s.Offers activeIdx worker state)
    (chosen : s.searchOrder.find? s.hasRoom = some worker) (task : Task) (now : Nanoseconds) :
    s.HandsOver task worker (s.assignTo task activeIdx worker state.fd now) := by
  have stored : (s.tasks.set (task.assignedTo worker now)).find? task.id =
      some (task.assignedTo worker now) := TaskTable.find?_set_self _ _
  obtain ⟨order, message, carried⟩ := assign?_assignMessage s task
  obtain ⟨update, logged, recorded⟩ :=
    assignedReplicate_assignedReplication s (task.assignedTo worker now)
  constructor
  · exact chosen
  · exact ⟨state, order, offers.held, by rw [assignTo_outgoingQueue, message], carried⟩
  · exact ⟨now, update, stored, by rw [← logged]; rfl, recorded⟩
  · refine ⟨state, offers.held, ?_⟩
    rw [assignTo_workersStates, List.getElem?_modify_eq, offers.held]
    rfl
  · intro id different
    rw [assignTo_tasks, TaskTable.find?_set]
    exact if_neg different
  · intro other different
    rw [assignTo_workersStates, List.getElem?_modify_ne _ _ (Ne.symm different)]
  · rfl

/-- In a pool, `assign` returns, with success exactly if some active worker has room and the
push is accepted, and otherwise without any change. -/
theorem Pool.assign (pool : s.Pool) (task : Task) (env : Env) :
    ∃ assigned s' rest, s.assign task env = .ok (assigned, s', rest) ∧
      (assigned = true ↔
        (∃ worker ∈ s.activeWorkers, s.hasRoom worker = true) ∧ env.accepts = true) ∧
      (assigned = true → ∃ worker, s.HandsOver task worker s') ∧
      (assigned = false → s' = s) := by
  have search := pool.firstAvailable (Nat.zero_add s.activeWorkers.length)
  rw [List.drop_zero] at search
  rw [exists_hasRoom_iff]
  unfold Coordinator.assign
  obtain ⟨activeIdx, worker, state, found, chosen, offers⟩ | ⟨found, nobody⟩ := search
  · rw [found, chosen]
    cases accepted : env.accepts with
    | true =>
        refine ⟨true, s.assignTo task activeIdx worker state.fd env.afterPush.now,
          env.afterPush.afterNow, ?_, by simp, fun _ => ?_, nofun⟩
        · simp [bind, Except.bind]
        · exact ⟨worker, offers.handsOver chosen task _⟩
    | false =>
        refine ⟨false, s, env.afterPush, ?_, by simp, nofun,
          fun _ => rfl⟩
        simp [bind, Except.bind]
  · rw [found, nobody]
    exact ⟨false, s, env, rfl, by simp, nofun, fun _ => rfl⟩

/-! ## The depth limit -/

/-- No worker runs more tasks than the depth limit. -/
def WithinDepth (s : Coordinator) : Prop :=
  ∀ (worker : WorkerId) state, s.workersStates[worker]? = some state →
    state.runningTasks.size ≤ Config.workerMaxQueueDepth

theorem WithinDepth.modify {worker : WorkerId} {change : WorkerState → WorkerState}
    (within : s.WithinDepth)
    (modified : s'.workersStates = s.workersStates.modify worker change)
    (bounded : ∀ state, s.workersStates[worker]? = some state →
      (change state).runningTasks.size ≤ Config.workerMaxQueueDepth) : s'.WithinDepth := by
  intro other state held
  rw [modified, List.getElem?_modify] at held
  obtain ⟨before, heldBefore, rfl⟩ := Option.map_eq_some_iff.mp held
  split
  next same =>
    subst other
    exact bounded before heldBefore
  next => exact within other before heldBefore

theorem WithinDepth.of_same (within : s.WithinDepth)
    (states : s'.workersStates = s.workersStates) : s'.WithinDepth := by
  intro worker state held
  rw [states] at held
  exact within worker state held

theorem WithinDepth.assignTo {activeIdx : Nat} {worker : WorkerId} {state : WorkerState}
    (within : s.WithinDepth) (offers : s.Offers activeIdx worker state) (task : Task) (fd : Fd)
    (now : Nanoseconds) : (s.assignTo task activeIdx worker fd now).WithinDepth := by
  refine within.modify rfl ?_
  intro before held
  rw [offers.held] at held
  cases held
  exact (UnorderedSet.size_insert_le _ _).trans offers.room

theorem WithinDepth.finish (within : s.WithinDepth) (msg : CompleteMsg) (task : Task) :
    (s.finish msg task).WithinDepth := by
  refine within.modify rfl ?_
  intro before held
  exact (List.length_erase_le).trans (within _ before held)

theorem WithinDepth.markInactive {worker : WorkerId} (within : s.WithinDepth)
    (marked : s.markInactive worker = .ok s') : s'.WithinDepth := by
  obtain ⟨rfl, _⟩ | ⟨last, state, _, _, _, rfl⟩ := markInactive_spec marked
  · exact within
  · exact within.modify rfl fun before held => within last before held

theorem WithinDepth.declareDead {worker : WorkerId} {running : List TaskId}
    (within : s.WithinDepth) (declared : s.declareDead worker running = .ok s') :
    s'.WithinDepth := by
  obtain ⟨inactive, marked, frame, _⟩ := declareDead_spec declared
  refine (within.markInactive marked).modify (by rw [frame]) ?_
  intro _ _
  exact Nat.zero_le _

theorem WithinDepth.registerFresh (within : s.WithinDepth) (fd : Fd) (now : Nanoseconds) :
    (s.registerFresh fd now).WithinDepth := by
  intro worker state held
  rw [registerFresh_workersStates, SwapRemove.getElem?_pushed_eq_some] at held
  obtain old | ⟨_, rfl⟩ := held
  · exact within worker state old
  · exact Nat.zero_le _

theorem WithinDepth.received (within : s.WithinDepth) (received : Received s event s') :
    s'.WithinDepth := by
  cases received with
  | @submitAssigned fd msg env _ _ state now offers =>
      have accepted : (s.accept fd msg env.now).WithinDepth := within.of_same rfl
      exact accepted.assignTo ⟨offers.active, offers.held, offers.room⟩ _ state.fd now
  | completeAnswered | completeDeferred => exact (within.finish _ _).of_same rfl
  | heartbeat | registerReused =>
      exact within.modify rfl fun before held => within _ before held
  | registerFresh _ _ now => exact within.registerFresh _ now
  | assignedReplicate =>
      rw [assignReplicate_frame]
      exact within.of_same rfl
  | completedReplicate =>
      rw [completeReplicate_frame]
      exact within.of_same rfl
  | peerReconnected =>
      simp only [processPeerReconnected]
      split_ifs <;> exact within.of_same rfl
  | submitQueued | completeUnknown | snapshot | topRequest | registerRefused | pass | backlog
  | replicate | sweep => exact within.of_same rfl

theorem WithinDepth.move (within : s.WithinDepth) (move : Move event s s') :
    s'.WithinDepth := by
  cases move with
  | replicated | dropped | answered => exact within.of_same rfl
  | @assigned _ _ task _ _ state now _ _ _ offers =>
      exact (within.assignTo offers task state.fd now).of_same rfl
  | died _ _ _ _ declared => exact within.declareDead declared

/-- No run takes a worker above the depth limit. -/
theorem withinDepth_of_run {events : List Event} (ran : run events = .ok s) :
    s.WithinDepth := by
  have preserved : Preserves step (fun _ _ => True) WithinDepth :=
    preserves_of_moves (fun _ _ _ within _ received => within.received received)
      (fun _ _ _ _ _ move within => within.move move)
  have initially : init.WithinDepth := by
    intro worker state held
    simp [init] at held
  exact preserved.run initially (along_of_forall fun _ _ => trivial) ran

/-- `assign` hands the task to the first active worker with room, from the cursor on, if there
is one and its push is accepted, and changes nothing otherwise; no run takes a worker above the
depth limit. -/
theorem assign_picks_first_with_room :
    (∀ (s : Coordinator) (task : Task) (env : Env), s.Pool →
      ∃ assigned s' rest, s.assign task env = .ok (assigned, s', rest) ∧
        (assigned = true ↔
          (∃ worker ∈ s.activeWorkers, s.hasRoom worker = true) ∧ env.accepts = true) ∧
        (assigned = true → ∃ worker, s.HandsOver task worker s') ∧
        (assigned = false → s' = s)) ∧
    ∀ (events : List Event) (final : Coordinator), run events = .ok final →
      final.WithinDepth :=
  ⟨fun _ task env pool => pool.assign task env, fun _ _ ran => withinDepth_of_run ran⟩

/-- A worker that has just registered gets the first task. -/
theorem assign_picks_only_worker :
    ∃ s' rest, (init.registerFresh 5 7).assign { id := 1 } {} = .ok (true, s', rest) ∧
      (∃ worker, (init.registerFresh 5 7).HandsOver { id := 1 } worker s') ∧
      ∀ final, run [.register 5 {}, .submit 6 { taskId := 1 } {}] = .ok final →
        final.WithinDepth := by
  have pool : (init.registerFresh 5 7).Pool := pool_init.registerFresh rfl 5 7
  obtain ⟨assigned, s', rest, returned, success, handsOver, _⟩ :=
    assign_picks_first_with_room.1 (init.registerFresh 5 7) { id := 1 } {} pool
  have isAssigned : assigned = true := success.mpr ⟨⟨0, by decide, by decide⟩, rfl⟩
  subst isAssigned
  exact ⟨s', rest, returned, handsOver rfl, assign_picks_first_with_room.2 _⟩

/-! ## Taking turns -/

/-- A call of `assign`, with the states and inputs before and after it. -/
structure AssignCall where
  before : Coordinator
  task : Task
  env : Env
  after : Coordinator
  rest : Env

/-- The worker that the task of the call is running on afterwards. -/
def AssignCall.worker? (call : AssignCall) : Option WorkerId :=
  (call.after.tasks.find? call.task.id).map Task.workerId

/-- Successful calls, from the given value of `rr_index_` on, with the same active workers at
all of them and none of these at its depth limit.  Without registrations and deaths in
between, a call finds the active workers and the cursor as the one before has left them; the
rest of the state is arbitrary at every call. -/
inductive Uninterrupted (active : List WorkerId) : Nat → List AssignCall → Prop where
  | nil {cursor : Nat} : Uninterrupted active cursor []
  | cons {call : AssignCall} {rest : List AssignCall}
      (workers : call.before.activeWorkers = active)
      (returned : call.before.assign call.task call.env = .ok (true, call.after, call.rest))
      (room : ∀ worker ∈ active, call.before.hasRoom worker = true)
      (later : Uninterrupted active call.after.rrIndex rest) :
      Uninterrupted active call.before.rrIndex (call :: rest)

/-- When no active worker is at its limit, the one at the cursor gets the task and the cursor
moves to the next one. -/
theorem assign_at_cursor {task : Task} {env rest : Env}
    (room : ∀ worker ∈ s.activeWorkers, s.hasRoom worker = true)
    (returned : s.assign task env = .ok (true, s', rest)) :
    ∃ worker, s.activeWorkers[s.rrIndex % s.activeWorkers.length]? = some worker ∧
      (s'.tasks.find? task.id).map Task.workerId = some worker ∧
      s'.rrIndex = (s.rrIndex % s.activeWorkers.length + 1) % s.activeWorkers.length := by
  simp only [assign, bind_eq_ok] at returned
  obtain ⟨search, found, answer⟩ := returned
  have someWorker : s.activeWorkers.length ≠ 0 := by
    intro none
    rw [none] at found
    cases found
    cases answer
  obtain ⟨fewer, rounds⟩ := Nat.exists_eq_succ_of_ne_zero someWorker
  obtain ⟨worker, active⟩ : ∃ worker,
      s.activeWorkers[s.rrIndex % s.activeWorkers.length]? = some worker :=
    ⟨_, List.getElem?_eq_getElem (Nat.mod_lt _ (Nat.pos_of_ne_zero someWorker))⟩
  have hasRoom := room worker (List.mem_of_getElem? active)
  obtain ⟨state, held, below⟩ : ∃ state, s.workersStates[worker]? = some state ∧
      state.runningTasks.size < Config.workerMaxQueueDepth := by
    simpa [Coordinator.hasRoom, Option.any_eq_true] using hasRoom
  have first : s.firstAvailable s.activeWorkers.length 0 =
      .ok (some (s.rrIndex % s.activeWorkers.length, worker, state)) := by
    have search : s.firstAvailable (fewer + 1) 0 =
        .ok (some (s.rrIndex % s.activeWorkers.length, worker, state)) := by
      simp only [firstAvailable, Nat.add_zero, active, workerAt_eq_ok.mpr held]
      exact if_neg (not_le.mpr below)
    rw [← search, rounds]
  rw [first] at found
  cases found
  simp only at answer
  split at answer
  next =>
    cases answer
    refine ⟨worker, active, ?_, rfl⟩
    have stored := TaskTable.find?_set_self s.tasks (task.assignedTo worker env.afterPush.now)
    exact congrArg (Option.map Task.workerId) stored
  next => cases answer

/-- Uninterrupted assignments go around the active workers. -/
theorem Uninterrupted.workers_eq_turns {active : List WorkerId} {cursor : Nat}
    {calls : List AssignCall} (uninterrupted : Uninterrupted active cursor calls) :
    calls.map AssignCall.worker? =
      (RoundRobin.turns active cursor calls.length).map some := by
  induction uninterrupted with
  | nil => rfl
  | @cons call rest workers returned room later ih =>
      subst workers
      obtain ⟨worker, atCursor, assigned, cursor⟩ := assign_at_cursor room returned
      have next : call.after.rrIndex ≡ call.before.rrIndex + 1
          [MOD call.before.activeWorkers.length] := by
        rw [cursor]
        exact (Nat.mod_modEq _ _).trans ((Nat.mod_modEq _ _).add_right 1)
      rw [List.map_cons, ih, RoundRobin.turns_congr next, List.length_cons, RoundRobin.turns,
        atCursor]
      exact congrArg (· :: _) assigned

/-- In any sequence of uninterrupted assignments to `k` active workers, any `k` consecutive ones
go to different workers, and two workers get the same number of tasks up to one. -/
theorem roundRobin_fair {active : List WorkerId} (different : active.Nodup) {cursor : Nat}
    {calls : List AssignCall} (uninterrupted : Uninterrupted active cursor calls) :
    ∃ workers : List WorkerId, calls.map AssignCall.worker? = workers.map some ∧
      (∀ first, first + active.length ≤ calls.length →
        ((workers.drop first).take active.length).Nodup) ∧
      ∀ worker ∈ active, ∀ other ∈ active, workers.count worker ≤ workers.count other + 1 := by
  refine ⟨_, uninterrupted.workers_eq_turns, ?_, ?_⟩
  · intro first within
    by_cases none : active = []
    · simp [none]
    · rw [RoundRobin.take_drop_turns none cursor within]
      exact RoundRobin.nodup_turns different (cursor + first) le_rfl
  · intro worker _ other member
    exact RoundRobin.count_turns_le different member cursor calls.length

/-- Two workers, and a cursor that is out of range. -/
def twoWorkers : Coordinator :=
  { (init.registerFresh 5 7).registerFresh 6 8 with rrIndex := 3 }

/-- Two assignments to two workers. -/
theorem roundRobin_fair_two :
    ∃ calls : List AssignCall, Uninterrupted [0, 1] 3 calls ∧
      ∃ workers : List WorkerId, calls.map AssignCall.worker? = workers.map some ∧
        workers.length = 2 ∧ (workers.take 2).Nodup := by
  have first : twoWorkers.assign { id := 1 } {} =
      .ok (true, twoWorkers.assignTo { id := 1 } 1 1 6 0, {}) := rfl
  have second : (twoWorkers.assignTo { id := 1 } 1 1 6 0).assign { id := 2 } {} =
      .ok (true, (twoWorkers.assignTo { id := 1 } 1 1 6 0).assignTo { id := 2 } 0 0 5 0, {}) := rfl
  have room : ∀ worker ∈ [0, 1], twoWorkers.hasRoom worker = true := by decide
  have stillRoom : ∀ worker ∈ [0, 1],
      (twoWorkers.assignTo { id := 1 } 1 1 6 0).hasRoom worker = true := by decide
  have uninterrupted : Uninterrupted [0, 1] 3 [⟨_, _, _, _, _⟩, ⟨_, _, _, _, _⟩] :=
    @Uninterrupted.cons [0, 1] ⟨_, _, _, _, _⟩ _ rfl first room
      (@Uninterrupted.cons [0, 1] ⟨_, _, _, _, _⟩ _ rfl second stillRoom .nil)
  obtain ⟨workers, same, apart, _⟩ := roundRobin_fair (by decide) uninterrupted
  refine ⟨_, uninterrupted, workers, same, ?_, apart 0 le_rfl⟩
  have lengths := congrArg List.length same
  simpa using lengths.symm

end TaskCoordinator.Coordinator
