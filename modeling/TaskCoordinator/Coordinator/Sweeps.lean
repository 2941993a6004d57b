import TaskCoordinator.Coordinator.Pool

/-!
# One sweep over the workers

`sweep_workers` checks the workers in the order of their ids.  Each live worker takes one
reading of the clock, and is declared dead when its last heartbeat lies too far before it.
The death of a worker changes the task table, the backlog, the active workers and the
position of another worker while the loop goes on.

The invariant of the loop compares the state before the `k`-th check with the state before
the sweep.  It says which workers have been declared dead so far, and that their tasks and
no others have been put back into the queue.
-/

namespace TaskCoordinator.Coordinator

variable {s s' : Coordinator}

/-! ## Overdue workers -/

/-- The flag of the worker. -/
def aliveFlag (s : Coordinator) (worker : WorkerId) : Bool :=
  s.workersStates[worker]?.any fun state => state.alive

/-- The ids in the running set of the worker. -/
def runningOf (s : Coordinator) (worker : WorkerId) : List TaskId :=
  (s.workersStates[worker]?.map fun state => state.runningTasks.items).getD []

theorem mem_runningOf {worker : WorkerId} {id : TaskId} :
    id ∈ s.runningOf worker ↔ s.Runs worker id := by
  unfold runningOf Runs
  cases s.workersStates[worker]? with
  | none => simp
  | some state => simp [UnorderedSet.mem_def]

/-- The reading that a sweep takes for a live worker: every live worker before it has taken
one. -/
def readingOf (s : Coordinator) (clock : List Nanoseconds) (worker : WorkerId) :
    Option Nanoseconds :=
  clock[(List.range worker).countP s.aliveFlag]?

/-- The worker is alive, and its last heartbeat was more than `HEARTBEAT_TIMEOUT_NS` before its
reading. -/
def overdue (s : Coordinator) (clock : List Nanoseconds) (worker : WorkerId) : Bool :=
  s.workersStates[worker]?.any fun state =>
    state.alive && (s.readingOf clock worker).any fun now =>
      state.lastHeartbeatNs.toNat + Config.heartbeatTimeoutNs.toNat < now.toNat

/-- What a sweep expects: a pool in which every running task has a record, and a reading for
every live worker, none of them earlier than a recorded heartbeat. -/
structure SweepReady (s : Coordinator) (clock : List Nanoseconds) : Prop where
  pool : s.Pool
  known : ∀ worker id, s.Runs worker id → ∃ task, s.tasks.find? id = some task
  enough : (List.range s.workersStates.length).countP s.aliveFlag ≤ clock.length
  past : ∀ (worker : WorkerId) state, s.workersStates[worker]? = some state →
    ∀ now ∈ clock, state.lastHeartbeatNs ≤ now

/-- What has become of the state of a worker; `fell` says that it has been declared dead. -/
structure Outcome (fell : Prop) (before after : WorkerState) : Prop where
  heartbeat : after.lastHeartbeatNs = before.lastHeartbeatNs
  fallen : fell → after.alive = false ∧ after.runningTasks = ∅
  standing : ¬fell → after.alive = before.alive ∧ after.runningTasks = before.runningTasks

theorem Outcome.congr {fell other : Prop} {before after : WorkerState}
    (outcome : Outcome fell before after) (same : other ↔ fell) :
    Outcome other before after where
  heartbeat := outcome.heartbeat
  fallen := fun now => outcome.fallen (same.mp now)
  standing := fun now => outcome.standing (mt same.mpr now)

/-- The state before the check of worker `k`, compared with the state `s` before the sweep. -/
structure SweptTo (s : Coordinator) (clock : List Nanoseconds) (k : Nat) (s' : Coordinator)
    (remaining : List Nanoseconds) : Prop where
  pool : s'.Pool
  readings : remaining = clock.drop ((List.range k).countP s.aliveFlag)
  length : s'.workersStates.length = s.workersStates.length
  workers : ∀ (worker : WorkerId) state, s.workersStates[worker]? = some state →
    ∃ after, s'.workersStates[worker]? = some after ∧
      Outcome (worker < k ∧ s.overdue clock worker = true) state after
  requeued : ∃ appended, s'.queuedBacklog = s.queuedBacklog ++ appended ∧
    appended.Perm (((List.range k).filter (s.overdue clock)).flatMap s.runningOf) ∧
    ∀ id, s'.tasks.find? id = (s.tasks.find? id).map fun task =>
      if id ∈ appended then task.requeued else task

theorem sweptTo_zero {clock : List Nanoseconds} (ready : s.SweepReady clock) :
    s.SweptTo clock 0 s clock where
  pool := ready.pool
  readings := rfl
  length := rfl
  workers := by
    intro worker state held
    exact ⟨state, held, rfl, fun fell => absurd fell.1 (Nat.not_lt_zero worker),
      fun _ => ⟨rfl, rfl⟩⟩
  requeued := ⟨[], by simp, List.Perm.refl _, by simp⟩

/-! ## One check -/

section

variable {clock remaining : List Nanoseconds} {k : Nat} {state : WorkerState}

theorem aliveFlag_eq (held : s.workersStates[k]? = some state) : s.aliveFlag k = state.alive := by
  simp [aliveFlag, held]

/-- One more worker has been checked. -/
theorem countP_aliveFlag_succ (held : s.workersStates[k]? = some state) :
    (List.range (k + 1)).countP s.aliveFlag =
      (List.range k).countP s.aliveFlag + if state.alive then 1 else 0 := by
  rw [List.range_succ, List.countP_append, List.countP_singleton, aliveFlag_eq held]

/-- The readings that are left after the check of worker `k`. -/
theorem readings_succ (held : s.workersStates[k]? = some state)
    (readings : remaining = clock.drop ((List.range k).countP s.aliveFlag)) :
    (if state.alive then remaining.tail else remaining) =
      clock.drop ((List.range (k + 1)).countP s.aliveFlag) := by
  rw [countP_aliveFlag_succ held, readings]
  cases state.alive with
  | true => exact List.tail_drop
  | false => rfl

/-- The next reading is the one for worker `k`. -/
theorem now_eq_readingOf {env : Env}
    (readings : env.clock = clock.drop ((List.range k).countP s.aliveFlag)) :
    env.now = (s.readingOf clock k).getD 0 := by
  rw [Env.now, readings, List.headD_eq_head?_getD, List.head?_drop]
  rfl

/-- A live worker has a reading. -/
theorem SweepReady.reading (ready : s.SweepReady clock)
    (held : s.workersStates[k]? = some state) (alive : state.alive = true) :
    ∃ now, s.readingOf clock k = some now ∧ now ∈ clock := by
  have inside : k + 1 ≤ s.workersStates.length := lt_of_held held
  have fewer : (List.range (k + 1)).countP s.aliveFlag ≤
      (List.range s.workersStates.length).countP s.aliveFlag :=
    (List.range_sublist.mpr inside).countP_le
  rw [countP_aliveFlag_succ held, alive, if_pos rfl] at fewer
  have bound : (List.range k).countP s.aliveFlag < clock.length :=
    Nat.lt_of_lt_of_le fewer ready.enough
  have taken : s.readingOf clock k = some clock[(List.range k).countP s.aliveFlag] :=
    List.getElem?_eq_getElem bound
  exact ⟨_, taken, List.getElem_mem bound⟩

/-- The 64-bit comparison of `is_alive` tells the overdue workers. -/
theorem SweepReady.overdue_iff (ready : s.SweepReady clock)
    (held : s.workersStates[k]? = some state) (alive : state.alive = true)
    {now : Nanoseconds} (reading : s.readingOf clock k = some now) (taken : now ∈ clock) :
    s.overdue clock k = true ↔ ¬now - state.lastHeartbeatNs ≤ Config.heartbeatTimeoutNs := by
  have past := ready.past k state held now taken
  have difference := UInt64.toNat_sub_of_le _ _ past
  rw [UInt64.not_le, UInt64.lt_iff_toNat_lt, difference, overdue, held, reading,
    Option.any_some, Option.any_some, alive, Bool.true_and, decide_eq_true_iff]
  exact Nat.lt_sub_iff_add_lt'.symm

/-- Before its check a worker is as it was before the sweep. -/
theorem SweptTo.unchecked (swept : s.SweptTo clock k s' remaining)
    (held : s.workersStates[k]? = some state) :
    ∃ current, s'.workersStates[k]? = some current ∧
      current.lastHeartbeatNs = state.lastHeartbeatNs ∧ current.alive = state.alive ∧
      current.runningTasks = state.runningTasks := by
  obtain ⟨current, heldCurrent, outcome⟩ := swept.workers k state held
  exact ⟨current, heldCurrent, outcome.heartbeat,
    outcome.standing fun fell => absurd fell.1 (Nat.lt_irrefl k)⟩

/-- Only the check of worker `k` can make a difference for it. -/
theorem fell_succ_iff {worker : WorkerId} (other : worker ≠ k) {late : Prop} :
    worker < k + 1 ∧ late ↔ worker < k ∧ late := by
  rw [Nat.lt_succ_iff_lt_or_eq]
  simp [other]

/-- A check that declares nobody dead. -/
theorem SweptTo.spared (swept : s.SweptTo clock k s' remaining)
    (held : s.workersStates[k]? = some state) (spared : s.overdue clock k = false) :
    s.SweptTo clock (k + 1) s' (if state.alive then remaining.tail else remaining) := by
  obtain ⟨appended, backlog, perm, table⟩ := swept.requeued
  constructor
  · exact swept.pool
  · exact readings_succ held swept.readings
  · exact swept.length
  · intro worker before heldBefore
    obtain ⟨after, heldAfter, outcome⟩ := swept.workers worker before heldBefore
    refine ⟨after, heldAfter, outcome.congr ?_⟩
    by_cases same : worker = k
    · simp [same, spared]
    · exact fell_succ_iff same
  · refine ⟨appended, backlog, ?_, table⟩
    rw [List.range_succ, List.filter_append, List.filter_singleton, spared]
    simpa using perm

/-- A check that declares its worker dead. -/
theorem SweptTo.died (swept : s.SweptTo clock k s' remaining)
    (held : s.workersStates[k]? = some state) (late : s.overdue clock k = true)
    {current : WorkerState} (heldCurrent : s'.workersStates[k]? = some current)
    (alive : current.alive = true) {running : List TaskId}
    (order : running.Perm current.runningTasks.items) {dead : Coordinator}
    (declared : s'.declareDead k running = .ok dead) :
    s.SweptTo clock (k + 1) dead remaining.tail := by
  obtain ⟨appended, backlog, perm, table⟩ := swept.requeued
  obtain ⟨again, heldAgain, _, sameFlag, sameRunning⟩ := swept.unchecked held
  rw [heldCurrent] at heldAgain
  cases heldAgain
  obtain ⟨last, _, _, frame, length, states⟩ :=
    swept.pool.declareDead_spec heldCurrent alive declared
  obtain ⟨_, _, _, deadTable⟩ := declareDead_spec declared
  constructor
  · exact swept.pool.declareDead heldCurrent alive declared
  · rw [← readings_succ held swept.readings, ← sameFlag, alive]
    rfl
  · exact length.trans swept.length
  · intro worker before heldBefore
    obtain ⟨after, heldAfter, outcome⟩ := swept.workers worker before heldBefore
    refine ⟨_, by rw [states, heldAfter]; rfl, ?_⟩
    by_cases same : worker = k
    · subst same
      simp only [if_true]
      refine ⟨?_, fun _ => ⟨rfl, rfl⟩, fun stands => absurd ⟨Nat.lt_succ_self _, late⟩ stands⟩
      rw [← outcome.heartbeat]
      simp only [WorkerState.markDead]
      split <;> rfl
    · simp only [if_neg (Ne.symm same)]
      have moved := outcome.congr (fell_succ_iff same)
      split
      · exact ⟨moved.heartbeat, moved.fallen, moved.standing⟩
      · exact moved
  · refine ⟨appended ++ running, ?_, ?_, ?_⟩
    · rw [frame, ← List.append_assoc, ← backlog]
    · have items : s.runningOf k = current.runningTasks.items := by
        simp [runningOf, held, sameRunning]
      rw [List.range_succ, List.filter_append, List.filter_singleton, late, List.flatMap_append]
      simpa [items] using perm.append order
    · intro id
      rw [deadTable, table, Option.map_map]
      congr 1
      funext task
      simp only [Function.comp_apply, List.mem_append]
      by_cases first : id ∈ appended <;> by_cases second : id ∈ running <;> simp [first, second]

/-- The check of worker `k` returns and takes the invariant to the next worker. -/
theorem SweptTo.step (ready : s.SweepReady clock) {env : Env}
    (swept : s.SweptTo clock k s' env.clock) (inside : k < s.workersStates.length) :
    ∃ alive checked next, s'.isAlive k env = .ok (alive, checked, next) ∧
      s.SweptTo clock (k + 1) checked next.clock := by
  obtain ⟨state, held⟩ := held_of_lt inside
  obtain ⟨current, heldCurrent, heartbeat, sameFlag, sameRunning⟩ := swept.unchecked held
  simp only [isAlive, workerAt_eq_ok.mpr heldCurrent, bind, Except.bind]
  cases flag : current.alive with
  | false =>
      have spared : s.overdue clock k = false := by
        simp [overdue, held, ← sameFlag, flag]
      have next := swept.spared held spared
      rw [← sameFlag, flag] at next
      exact ⟨false, s', env, rfl, next⟩
  | true =>
      have alive : state.alive = true := sameFlag.symm.trans flag
      obtain ⟨now, reading, taken⟩ := ready.reading held alive
      have lateIff := ready.overdue_iff held alive reading taken
      have first : env.now = now := by
        rw [now_eq_readingOf swept.readings, reading]
        rfl
      rw [first, heartbeat]
      by_cases fresh : now - state.lastHeartbeatNs ≤ Config.heartbeatTimeoutNs
      · have spared : s.overdue clock k = false := by
          rw [Bool.eq_false_iff]
          exact fun late => lateIff.mp late fresh
        have next := swept.spared held spared
        rw [alive, if_pos rfl] at next
        exact ⟨true, s', env.afterNow, by simp [fresh], next⟩
      · have order := Unordered.arrange_perm (env.order k) current.runningTasks.items
        have known : ∀ id ∈ Unordered.arrange (env.order k) current.runningTasks.items,
            ∃ task, s'.tasks.find? id = some task := by
          intro id member
          obtain ⟨appended, _, _, table⟩ := swept.requeued
          have runs : s.Runs k id := ⟨state, held, sameRunning ▸ order.mem_iff.mp member⟩
          obtain ⟨task, found⟩ := ready.known k id runs
          exact ⟨_, by rw [table, found]; rfl⟩
        have activeHeld : ∀ active ∈ s'.activeWorkers, active < s'.workersStates.length :=
          fun active member => (swept.pool.covers active).mpr (.inl member)
        obtain ⟨dead, declared⟩ := declareDead_ok activeHeld heldCurrent known
        refine ⟨false, dead, env.afterNow, by simp [fresh, declared], ?_⟩
        exact swept.died held (lateIff.mpr fresh) heldCurrent flag order declared

/-- The loop from worker `k` on returns and takes the invariant to its end. -/
theorem SweptTo.loop (ready : s.SweepReady clock) (rounds : Nat) {env : Env}
    (swept : s.SweptTo clock k s' env.clock) (whole : k + rounds = s.workersStates.length) :
    ∃ final next, sweepFrom (List.range' k rounds) s' env = .ok (final, next) ∧
      s.SweptTo clock s.workersStates.length final next.clock := by
  induction rounds generalizing k s' env with
  | zero => exact ⟨s', env, rfl, whole ▸ swept⟩
  | succ rounds ih =>
      obtain ⟨alive, checked, next, returned, sweptNext⟩ := swept.step ready (by omega)
      obtain ⟨final, rest, ended, sweptAll⟩ := ih sweptNext (by omega)
      refine ⟨final, rest, ?_, sweptAll⟩
      rw [List.range'_succ, sweepFrom, returned]
      exact ended

end

/-! ## The whole sweep -/

/-- A sweep returns.  It declares dead the overdue workers and no others, empties their running
sets, and puts exactly the tasks that were in these back into the queue. -/
theorem sweep_requeues_tasks_of_dead (s : Coordinator) (env : Env)
    (ready : s.SweepReady env.clock) :
    ∃ s' rest, s.sweepWorkers env = .ok (s', rest) ∧
      s'.workersStates.length = s.workersStates.length ∧
      (∀ (worker : WorkerId) state, s.workersStates[worker]? = some state →
        ∃ after, s'.workersStates[worker]? = some after ∧
          (after.alive = false ↔ state.alive = false ∨ s.overdue env.clock worker = true) ∧
          (s.overdue env.clock worker = true → after.runningTasks = ∅) ∧
          (s.overdue env.clock worker = false → after.runningTasks = state.runningTasks)) ∧
      ∃ appended, s'.queuedBacklog = s.queuedBacklog ++ appended ∧
        appended.Perm (((List.range s.workersStates.length).filter
          (s.overdue env.clock)).flatMap s.runningOf) ∧
        (∀ id ∈ appended, ∃ task, s.tasks.find? id = some task ∧
          s'.tasks.find? id = some { task with state := .queued }) ∧
        ∀ id, id ∉ appended → s'.tasks.find? id = s.tasks.find? id := by
  obtain ⟨s', rest, returned, swept⟩ :=
    (sweptTo_zero ready).loop ready s.workersStates.length (Nat.zero_add _)
  rw [← List.range_eq_range'] at returned
  obtain ⟨appended, backlog, perm, table⟩ := swept.requeued
  refine ⟨s', rest, returned, swept.length, ?_, appended, backlog, perm, ?_, ?_⟩
  · intro worker state held
    obtain ⟨after, heldAfter, outcome⟩ := swept.workers worker state held
    have bound : worker < s.workersStates.length := lt_of_held held
    refine ⟨after, heldAfter, ?_, ?_, ?_⟩
    · cases late : s.overdue env.clock worker with
      | true => simp [(outcome.fallen ⟨bound, late⟩).1]
      | false =>
          have stands := outcome.standing fun fell => by simp [late] at fell
          simp [stands.1]
    · intro late
      exact (outcome.fallen ⟨bound, late⟩).2
    · intro spared
      exact (outcome.standing fun fell => by simp [spared] at fell).2
  · intro id member
    obtain ⟨worker, _, running⟩ := List.mem_flatMap.mp (perm.mem_iff.mp member)
    obtain ⟨task, found⟩ := ready.known worker id (mem_runningOf.mp running)
    refine ⟨task, found, ?_⟩
    rw [table, found, Option.map_some, if_pos member]
    rfl
  · intro id absent
    rw [table]
    simp [absent]

/-- Three workers register and get four tasks.  Only the second worker is heard of again. -/
def threeBusyWorkers : List Event :=
  [.register 5 {}, .register 6 {}, .register 7 {}, .submit 9 { taskId := 1 } {},
    .submit 9 { taskId := 2 } {}, .submit 9 { taskId := 3 } {}, .submit 9 { taskId := 4 } {},
    .heartbeat 1 { clock := [2000000000] }]

/-- A sweep two seconds later declares the first and the third worker dead.  Their three tasks are
queued again, and the second worker keeps its task. -/
theorem sweep_requeues_tasks_of_threeBusyWorkers :
    ∃ s s' rest, run threeBusyWorkers = .ok s ∧
      s.sweepWorkers { clock := [2000000000, 2000000000, 2000000000] } = .ok (s', rest) ∧
      s'.queuedBacklog.Perm [4, 1, 3] ∧ s'.tasks.find? 2 = s.tasks.find? 2 ∧
      ∃ kept, s'.workersStates[1]? = some kept ∧ kept.runningTasks.items = [2] := by
  have traffic : Transition.Along step PoolEvent init threeBusyWorkers := by
    decide +kernel
  obtain ⟨s, ran, sound, pool⟩ := sound_and_pool threeBusyWorkers traffic
  have final : ∀ s, run threeBusyWorkers = .ok s →
      (List.range s.workersStates.length).countP s.aliveFlag ≤ 3 ∧
      (∀ state ∈ s.workersStates, state.lastHeartbeatNs ≤ 2000000000) ∧
      s.queuedBacklog = [] ∧
      ((List.range s.workersStates.length).filter
        (s.overdue [2000000000, 2000000000, 2000000000])).flatMap s.runningOf = [4, 1, 3] ∧
      s.overdue [2000000000, 2000000000, 2000000000] 1 = false ∧
      (s.workersStates[1]?.map fun state => state.runningTasks.items) = some [2] := by
    decide +kernel
  obtain ⟨enough, past, noneQueued, requeued, spared, running⟩ := final s ran
  have ready : s.SweepReady [2000000000, 2000000000, 2000000000] := by
    refine ⟨pool, sound.runningKnown, enough, fun worker state held now member => ?_⟩
    have reading : now = 2000000000 := by simpa using member
    subst reading
    exact past state (List.mem_of_getElem? held)
  obtain ⟨s', rest, returned, _, workers, appended, backlog, perm, _, others⟩ :=
    sweep_requeues_tasks_of_dead s { clock := [2000000000, 2000000000, 2000000000] } ready
  have tasks : appended.Perm [4, 1, 3] := requeued ▸ perm
  obtain ⟨state, held, itsTasks⟩ := Option.map_eq_some_iff.mp running
  obtain ⟨kept, keptHeld, _, _, untouched⟩ := workers 1 state held
  have absent : (2 : TaskId) ∉ appended := by
    rw [tasks.mem_iff]
    decide
  refine ⟨s, s', rest, ran, returned, ?_, others 2 absent, kept, keptHeld, ?_⟩
  · rw [backlog, noneQueued, List.nil_append]
    exact tasks
  · rw [untouched spared]
    exact itsTasks

end TaskCoordinator.Coordinator
