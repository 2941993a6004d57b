import TaskCoordinator.Coordinator.Safety

/-!
# No accepted task is dropped

A task in the table is always somewhere: a queued one is listed in the queued backlog, a
running one is in the running set of the worker its record names, and a completed one has
been answered or is listed in the completed backlog.  There are no other states.  Stale entries may remain in either
backlog and in the running sets, and a task may be listed more than once.

The first two facts about a task hold from its submission on, whatever the rest of the
state looks like.  The third one is relative to a point of the run, namely the last
completion of the task.
-/

namespace TaskCoordinator

namespace Coordinator

open Transition

variable {s s' : Coordinator} {event : Event} {id : TaskId}

/-! ## Queued and running tasks -/

/-- A queued task is in the backlog, and a running one in the running set of its worker.  Only a
replication message can bring a task in a state without a name. -/
def Scheduled (s : Coordinator) (id : TaskId) : Prop :=
  ∀ task, s.tasks.find? id = some task → task.state.Named ∧
    (task.state = .queued → id ∈ s.queuedBacklog) ∧
    (task.state = .running → s.Runs task.workerId id)

/-- Handing a task to a worker keeps every other task where it is. -/
theorem Scheduled.assignTo {task : Task} {activeIdx : Nat} {worker : WorkerId}
    {state : WorkerState} {fd : Fd} {now : Nanoseconds}
    (scheduled : task.id ≠ id → s.Scheduled id)
    (held : s.workersStates[worker]? = some state) :
    (s.assignTo task activeIdx worker fd now).Scheduled id := by
  intro stored found
  rw [assignTo_tasks, TaskTable.find?_set] at found
  split at found
  next same =>
    cases found
    refine ⟨trivial, fun queued => ?_, fun _ => ?_⟩
    · cases queued
    · exact (runs_assignTo held).mpr (.inl ⟨rfl, same⟩)
  next different =>
    obtain ⟨named, queued, running⟩ := scheduled (Ne.symm different) stored found
    exact ⟨named, queued, fun isRunning => (runs_assignTo held).mpr (.inr (running isRunning))⟩

theorem Scheduled.finish (scheduled : s.Scheduled id) (msg : CompleteMsg) (task : Task) :
    (s.finish msg task).Scheduled id := by
  intro stored found
  rw [finish_tasks, TaskTable.find?_set] at found
  split at found
  next =>
    cases found
    refine ⟨trivial, fun queued => ?_, fun running => ?_⟩
    · cases queued
    · cases running
  next different =>
    obtain ⟨named, queued, running⟩ := scheduled stored found
    refine ⟨named, queued, fun isRunning => runs_finish.mpr ⟨?_, running isRunning⟩⟩
    exact fun released => different released.2

theorem Scheduled.declareDead (scheduled : s.Scheduled id) {worker : WorkerId}
    {state : WorkerState} {running : List TaskId} {dead : Coordinator}
    (held : s.workersStates[worker]? = some state)
    (order : running.Perm state.runningTasks.items)
    (declared : s.declareDead worker running = .ok dead) : dead.Scheduled id := by
  obtain ⟨_, _, frame, table⟩ := declareDead_spec declared
  have backlog : dead.queuedBacklog = s.queuedBacklog ++ running := by rw [frame]
  intro stored found
  rw [table id] at found
  obtain ⟨before, foundBefore, rfl⟩ := Option.map_eq_some_iff.mp found
  obtain ⟨named, queued, runs⟩ := scheduled before foundBefore
  rw [backlog, List.mem_append]
  split
  next member => exact ⟨trivial, fun _ => .inr member, fun isRunning => by cases isRunning⟩
  next notRunning =>
    refine ⟨named, fun isQueued => .inl (queued isQueued), fun isRunning => ?_⟩
    refine (runs_declareDead declared).mpr ⟨?_, runs isRunning⟩
    -- The record names another worker, since the dead one did not run the task.
    rintro rfl
    obtain ⟨other, heldOther, member⟩ := runs isRunning
    rw [held] at heldOther
    cases heldOther
    exact notRunning (order.mem_iff.mpr member)

theorem Scheduled.move (scheduled : s.Scheduled id) (move : Move event s s') :
    s'.Scheduled id := by
  cases move with
  | replicated | dropped | answered => exact scheduled
  | @assigned first rest task activeIdx worker state now drains front found offers =>
      have sameId := TaskTable.id_of_find? found
      have assigned : (s.assignTo task activeIdx worker state.fd now).Scheduled id :=
        Scheduled.assignTo (fun _ => scheduled) offers.held
      intro stored foundStored
      obtain ⟨named, queued, running⟩ := assigned stored foundStored
      refine ⟨named, fun isQueued => ?_, running⟩
      have listed : id ∈ first :: rest := front ▸ queued isQueued
      refine (List.mem_cons.mp listed).resolve_left ?_
      -- The task that has just been assigned is running.
      rintro rfl
      simp only [assignTo_tasks, TaskTable.find?_set, Task.assignedTo_id, sameId,
        if_true, Option.some.injEq] at foundStored
      subst foundStored
      cases isQueued
  | died _ held _ order declared => exact scheduled.declareDead held order declared

/-- A change that keeps the table, the backlog and the running sets. -/
theorem Scheduled.of_same (scheduled : s.Scheduled id) (table : s'.tasks = s.tasks)
    (backlog : s'.queuedBacklog = s.queuedBacklog)
    (runs : ∀ worker, s'.Runs worker id ↔ s.Runs worker id) : s'.Scheduled id := by
  intro stored found
  rw [table] at found
  obtain ⟨named, queued, running⟩ := scheduled stored found
  rw [backlog, runs]
  exact ⟨named, queued, running⟩

theorem Scheduled.accept {fd : Fd} {msg : SubmitMsg} {now : Nanoseconds}
    (scheduled : s.Scheduled id) (different : msg.taskId ≠ id) :
    (s.accept fd msg now).Scheduled id := by
  intro stored found
  rw [accept_tasks, TaskTable.find?_set, SubmitMsg.task_id, if_neg (Ne.symm different)] at found
  exact scheduled stored found

/-- A task is scheduled once it has been submitted, and stays so until a replication
message arrives. -/
theorem Scheduled.received (unstamped : event.stamp? = none)
    (scheduled : event.submits? = some id ∨ s.Scheduled id)
    (received : Received s event s') : s'.Scheduled id := by
  cases received with
  | @submitAssigned fd msg env _ _ _ now offers =>
      refine Scheduled.assignTo (fun different => ?_) (s := s.accept fd msg env.now) offers.held
      rw [SubmitMsg.task_id] at different
      refine Scheduled.accept (scheduled.resolve_left ?_) different
      simpa [Event.submits?] using different
  | @submitQueued fd msg env =>
      by_cases same : msg.taskId = id
      · subst same
        intro stored found
        rw [accept_tasks, TaskTable.find?_set, SubmitMsg.task_id, if_pos rfl] at found
        cases found
        refine ⟨by rw [SubmitMsg.task_state]; trivial,
          fun _ => List.mem_append_right _ List.mem_cons_self, fun running => ?_⟩
        simp at running
      · have accepted : (s.accept fd msg env.now).Scheduled id := by
          refine Scheduled.accept (scheduled.resolve_left ?_) same
          simpa [Event.submits?] using same
        intro stored found
        obtain ⟨named, queued, running⟩ := accepted stored found
        exact ⟨named, fun isQueued => List.mem_append_left _ (queued isQueued), running⟩
  | completeAnswered | completeDeferred =>
      exact (scheduled.resolve_left (by simp [Event.submits?])).finish _ _
  | heartbeat | registerReused =>
      have before := scheduled.resolve_left (by simp [Event.submits?])
      exact before.of_same rfl rfl fun _ => runs_of_modify_keeps rfl fun _ => rfl
  | registerFresh =>
      have before := scheduled.resolve_left (by simp [Event.submits?])
      exact before.of_same rfl rfl fun _ => runs_registerFresh
  | peerReconnected =>
      have before := scheduled.resolve_left (by simp [Event.submits?])
      simp only [processPeerReconnected]
      split_ifs <;> exact before
  | completeUnknown | topRequest | registerRefused | pass | backlog | replicate | sweep =>
      exact scheduled.resolve_left (by simp [Event.submits?])
  | assignedReplicate | completedReplicate | snapshot => cases unstamped

/-! ## Completed tasks -/

/-- The task is in the table and completed. -/
def Completed (s : Coordinator) (id : TaskId) : Prop :=
  ∃ task, s.tasks.find? id = some task ∧ task.state = .completed

instance (s : Coordinator) (id : TaskId) : Decidable (s.Completed id) :=
  decidable_of_iff (∃ task ∈ s.tasks.find? id, task.state = .completed) (by simp [Completed])

/-- No move completes a task. -/
theorem completed_of_move (move : Move event s s') (completed : s'.Completed id) :
    s.Completed id := by
  obtain ⟨task, found, isCompleted⟩ := completed
  cases move with
  | replicated | dropped | answered => exact ⟨task, found, isCompleted⟩
  | assigned =>
      rw [assignTo_tasks, TaskTable.find?_set] at found
      split at found
      next =>
        cases found
        cases isCompleted
      next => exact ⟨task, found, isCompleted⟩
  | died _ _ _ _ declared =>
      obtain ⟨_, _, _, table⟩ := declareDead_spec declared
      rw [table id] at found
      obtain ⟨before, foundBefore, rfl⟩ := Option.map_eq_some_iff.mp found
      split at isCompleted
      next => cases isCompleted
      next => exact ⟨before, foundBefore, isCompleted⟩

/-- Without replication messages a task is completed by a `COMPLETE` only. -/
theorem completed_of_received (unstamped : event.stamp? = none)
    (received : Received s event s') (completed : s'.Completed id) :
    event.completes? = some id ∨ s.Completed id := by
  obtain ⟨task, found, isCompleted⟩ := completed
  cases received with
  | submitAssigned =>
      rw [assignTo_tasks, TaskTable.find?_set, accept_tasks, TaskTable.find?_set] at found
      split at found
      next =>
        cases found
        cases isCompleted
      next different =>
        rw [Task.assignedTo_id] at different
        rw [if_neg different] at found
        exact .inr ⟨task, found, isCompleted⟩
  | submitQueued =>
      rw [accept_tasks, TaskTable.find?_set] at found
      split at found
      next =>
        cases found
        simp at isCompleted
      next => exact .inr ⟨task, found, isCompleted⟩
  | completeAnswered foundTask | completeDeferred foundTask =>
      simp only [answer_tasks, finish_tasks, TaskTable.find?_set, CompleteMsg.update_id,
        TaskTable.id_of_find? foundTask] at found
      split at found
      next same => exact .inl (congrArg some same.symm)
      next => exact .inr ⟨task, found, isCompleted⟩
  | peerReconnected =>
      simp only [processPeerReconnected] at found
      split_ifs at found <;> exact .inr ⟨task, found, isCompleted⟩
  | assignedReplicate | completedReplicate | snapshot => cases unstamped
  | _ => exact .inr ⟨task, found, isCompleted⟩

/-- Relative to a point of the run at which `sent` had been sent: if the task is completed,
its result has been sent since, or it is waiting to be sent. -/
def AnsweredSince (sent : List OutgoingEvent) (s : Coordinator) (id : TaskId) : Prop :=
  ∃ pushed, s.outgoingQueue = sent ++ pushed ∧
    (s.Completed id → id ∈ s.completedBacklog ∨
      ∃ result ∈ pushed, result.msg.answers? = some id)

variable {sent : List OutgoingEvent}

/-- A change that sends more and completes nothing. -/
theorem AnsweredSince.grow (answered : AnsweredSince sent s id)
    (grown : ∃ more, s'.outgoingQueue = s.outgoingQueue ++ more)
    (completed : s'.Completed id → s.Completed id)
    (listed : s'.Completed id → id ∈ s.completedBacklog → id ∈ s'.completedBacklog) :
    AnsweredSince sent s' id := by
  obtain ⟨pushed, queue, accounted⟩ := answered
  obtain ⟨more, grown⟩ := grown
  refine ⟨pushed ++ more, by rw [grown, queue, List.append_assoc], fun isCompleted => ?_⟩
  obtain waiting | ⟨result, member, answers⟩ := accounted (completed isCompleted)
  · exact .inl (listed isCompleted waiting)
  · exact .inr ⟨result, List.mem_append_left _ member, answers⟩

/-- A change that sends the result. -/
theorem answeredSince_of_answer {fd : Fd} {task : Task}
    (earlier : ∃ pushed, s.outgoingQueue = sent ++ pushed) (same : task.id = id)
    (grown : s'.outgoingQueue = s.outgoingQueue ++ [{ fd, msg := s.resultMessage task }]) :
    AnsweredSince sent s' id := by
  obtain ⟨pushed, queue⟩ := earlier
  refine ⟨pushed ++ [{ fd, msg := s.resultMessage task }],
    by rw [grown, queue, List.append_assoc], fun _ => .inr ?_⟩
  exact ⟨_, List.mem_append_right _ List.mem_cons_self, congrArg some same⟩

theorem AnsweredSince.move (answered : AnsweredSince sent s id) (move : Move event s s') :
    AnsweredSince sent s' id := by
  have grown := outgoing_of_move move
  have completed := @completed_of_move s s' event id move
  cases move with
  | replicated | assigned => exact answered.grow grown completed fun _ listed => listed
  | @dropped first rest _ front unknown =>
      refine answered.grow grown completed fun isCompleted listed => ?_
      rw [front] at listed
      refine (List.mem_cons.mp listed).resolve_left ?_
      rintro rfl
      obtain ⟨task, found, _⟩ := isCompleted
      rw [unknown] at found
      cases found
  | @answered first rest task _ front found =>
      by_cases same : first = id
      · obtain ⟨pushed, queue, _⟩ := answered
        have sameId := (TaskTable.id_of_find? found).trans same
        exact answeredSince_of_answer ⟨pushed, queue⟩ sameId rfl
      · refine answered.grow grown completed fun _ listed => ?_
        rw [front] at listed
        exact (List.mem_cons.mp listed).resolve_left (Ne.symm same)
  | died _ _ _ _ declared =>
      obtain ⟨_, _, frame, _⟩ := declareDead_spec declared
      refine answered.grow grown completed fun _ listed => ?_
      rw [frame]
      exact listed

/-- A `COMPLETE` of the task sends its result or lists it. -/
theorem answeredSince_of_complete (earlier : ∃ pushed, s.outgoingQueue = sent ++ pushed)
    (completes : event.completes? = some id) (received : Received s event s') :
    AnsweredSince sent s' id := by
  cases received with
  | completeUnknown unknown =>
      cases completes
      obtain ⟨pushed, queue⟩ := earlier
      refine ⟨pushed, queue, fun completed => ?_⟩
      obtain ⟨task, found, _⟩ := completed
      rw [unknown] at found
      cases found
  | @completeAnswered _ msg _ task _ found =>
      cases completes
      have sameId : (msg.update task).id = msg.taskId := by
        rw [CompleteMsg.update_id, TaskTable.id_of_find? found]
      exact answeredSince_of_answer (s := s.finish msg task) earlier sameId rfl
  | completeDeferred found =>
      cases completes
      obtain ⟨pushed, queue⟩ := earlier
      refine ⟨pushed, queue, fun _ => .inl ?_⟩
      rw [TaskTable.id_of_find? found]
      exact List.mem_append_right _ List.mem_cons_self
  | _ => cases completes

theorem AnsweredSince.received (answered : AnsweredSince sent s id)
    (unstamped : event.stamp? = none) (received : Received s event s') :
    AnsweredSince sent s' id := by
  by_cases completes : event.completes? = some id
  · obtain ⟨pushed, queue, _⟩ := answered
    exact answeredSince_of_complete ⟨pushed, queue⟩ completes received
  · refine answered.grow (outgoing_of_received received) ?_ fun _ listed => ?_
    · intro completed
      exact (completed_of_received unstamped received completed).resolve_left completes
    · cases received with
      | completeDeferred => exact List.mem_append_left _ listed
      | peerReconnected =>
          simp only [processPeerReconnected]
          split_ifs <;> exact listed
      | assignedReplicate | completedReplicate | snapshot => cases unstamped
      | _ => exact listed

/-! ## Whole runs -/

theorem scheduled_preserved (id : TaskId) :
    Preserves step (fun _ event => event.stamp? = none) fun s => s.Scheduled id :=
  preserves_of_moves
    (fun _ _ _ scheduled unstamped => Scheduled.received unstamped (.inr scheduled))
    (fun _ _ _ _ _ move scheduled => scheduled.move move)

theorem answeredSince_preserved (sent : List OutgoingEvent) (id : TaskId) :
    Preserves step (fun _ event => event.stamp? = none) fun s => AnsweredSince sent s id :=
  preserves_of_moves (fun _ _ _ answered unstamped => answered.received unstamped)
    (fun _ _ _ _ _ move answered => answered.move move)

/-- The step that handles a `COMPLETE` of the task. -/
theorem answeredSince_of_step (completes : event.completes? = some id)
    (stepped : s.step event = .ok s') : AnsweredSince s.outgoingQueue s' id := by
  obtain ⟨middle, received, moves⟩ := step_spec stepped
  have kept : ∀ first second, Move event first second →
      AnsweredSince s.outgoingQueue first id → AnsweredSince s.outgoingQueue second id :=
    fun _ _ move answered => answered.move move
  exact kept_of_moves kept moves (answeredSince_of_complete ⟨[], by simp⟩ completes received)

/-- A run without a `COMPLETE` of the task does not complete it. -/
theorem uncompleted_preserved (id : TaskId) :
    Preserves step (fun _ event => event.stamp? = none ∧ event.completes? ≠ some id)
      fun s => ¬ s.Completed id :=
  preserves_of_moves
    (fun _ _ _ uncompleted admitted received completed =>
      uncompleted ((completed_of_received admitted.1 received completed).resolve_left admitted.2))
    (fun _ _ _ _ _ move uncompleted completed => uncompleted (completed_of_move move completed))

/-- Since the last `COMPLETE` of the task in the run, its result has been pushed. -/
def AnsweredInRun (events : List Event) (s : Coordinator) (id : TaskId) : Prop :=
  ∃ before event after s₀ pushed, events = before ++ event :: after ∧
    event.completes? = some id ∧ (∀ later ∈ after, later.completes? ≠ some id) ∧
    run before = .ok s₀ ∧ s.outgoingQueue = s₀.outgoingQueue ++ pushed ∧
    ∃ result ∈ pushed, result.msg.answers? = some id

theorem answered_of_run {events : List Event}
    (unstamped : Along step (fun _ event => event.stamp? = none) init events)
    (ran : run events = .ok s) (completed : s.Completed id) :
    id ∈ s.completedBacklog ∨ AnsweredInRun events s id := by
  obtain never | ⟨before, event, after, rfl, completes, last⟩ :=
    never_or_last (fun event => event.completes? = some id) events
  · have uncompleted : ¬ init.Completed id := by
      rintro ⟨task, found, _⟩
      cases found
    exact absurd completed ((uncompleted_preserved id).run uncompleted
      (unstamped.and (along_of_forall never)) ran)
  · obtain ⟨s₀, ran₀, rest⟩ := run_append_eq_ok.mp ran
    obtain ⟨s₁, stepped, ranAfter⟩ := run_cons_eq_ok.mp rest
    have later := ((along_append.mp unstamped).2 s₀ ran₀).2 s₁ stepped
    obtain ⟨pushed, queue, accounted⟩ := (answeredSince_preserved s₀.outgoingQueue id).run
      (answeredSince_of_step completes stepped) later ranAfter
    obtain waiting | answered := accounted completed
    · exact .inl waiting
    · exact .inr ⟨before, event, after, s₀, pushed, rfl, completes, last, ran₀, queue, answered⟩

/-- Every run of local traffic returns, and every task of the table is accounted for at
its end. -/
theorem accounted_of_run (events : List Event) (traffic : Along step Traffic init events) :
    ∃ s, run events = .ok s ∧ ∀ id task, s.tasks.find? id = some task → task.state.Named ∧
      (task.state = .queued → id ∈ s.queuedBacklog) ∧
      (task.state = .running →
        task.workerId < s.workersStates.length ∧ s.Runs task.workerId id) ∧
      (task.state = .completed → id ∈ s.completedBacklog ∨ AnsweredInRun events s id) := by
  obtain ⟨s, ran, _⟩ := sound_progresses_traffic.run sound_preserved_traffic sound_init traffic
  have unstamped : Along step (fun _ event => event.stamp? = none) init events :=
    sound_preserved_traffic.along sound_init traffic
      fun _ _ sound admitted => (sound.localEvent admitted).unstamped
  refine ⟨s, ran, fun id task found => ?_⟩
  have initially : init.Scheduled id := by
    intro stored foundStored
    cases foundStored
  obtain ⟨named, queued, running⟩ :=
    (scheduled_preserved id).run initially unstamped ran task found
  refine ⟨named, queued, fun isRunning => ?_, fun isCompleted => ?_⟩
  · obtain ⟨state, held, member⟩ := running isRunning
    exact ⟨lt_of_held held, state, held, member⟩
  · exact answered_of_run unstamped ran ⟨task, found, isCompleted⟩

/-- The worker of a task dies, its completion arrives late and cannot be answered at once,
and the next backlog pass answers it and hands the task out again. -/
def lateCompletion : List Event :=
  [.register 5 {}, .submit 9 { taskId := 7 } {}, .sweep { clock := [2000000000] },
    .complete 5 { taskId := 7 } { pushes := [false] }, .heartbeat 0 {}, .register 6 {},
    .backlog {}]

theorem accounted_of_lateCompletion :
    ∃ s, run lateCompletion = .ok s ∧ s.queuedBacklog = [] ∧ s.completedBacklog = [] ∧
      ∃ task, s.tasks.find? 7 = some task ∧ s.Runs task.workerId 7 := by
  have traffic : Along step Traffic init lateCompletion := by decide +kernel
  obtain ⟨s, ran, accounted⟩ := accounted_of_run lateCompletion traffic
  have final : ∀ s, run lateCompletion = .ok s → s.queuedBacklog = [] ∧
      s.completedBacklog = [] ∧ ((s.tasks.find? 7).map Task.state) = some .running := by
    decide +kernel
  obtain ⟨noneQueued, noneCompleted, state⟩ := final s ran
  obtain ⟨task, found, isRunning⟩ := Option.map_eq_some_iff.mp state
  exact ⟨s, ran, noneQueued, noneCompleted, task, found,
    ((accounted 7 task found).2.2.1 isRunning).2⟩

end Coordinator

end TaskCoordinator
