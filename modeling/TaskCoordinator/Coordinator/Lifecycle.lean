import TaskCoordinator.Coordinator.Accounting
import TaskCoordinator.Coordinator.RunningSets

/-!
# The lifecycle of a task

A task is queued, runs and completes.  When its worker is declared dead, it is queued again
while the worker may still send its completion.  That completion is accepted in any state:
it leaves the entry in the backlog behind, so that the task is handed out again although it
is completed, and it does not keep the next worker's completion from being answered too.

As long as every `COMPLETE` arrives while its task runs, a completed task stays completed,
is never handed out again and is answered at most once.
-/

namespace TaskCoordinator

/-- A worker's connection and the task that a `COMPLETE` from it names. -/
def Event.completion? : Event → Option (Fd × TaskId)
  | .complete fd msg _ => some (fd, msg.taskId)
  | _ => none

/-- A worker's connection and the task that an `ASSIGN` to it names. -/
def OutgoingEvent.assignment? (sent : OutgoingEvent) : Option (Fd × TaskId) :=
  sent.msg.assigns?.map fun id => (sent.fd, id)

namespace Coordinator

open Transition

variable {s s' : Coordinator} {event : Event} {id : TaskId}

/-- How many `RESULT`s for the task have been pushed. -/
def results (s : Coordinator) (id : TaskId) : Nat :=
  s.outgoingQueue.countP fun sent => sent.msg.answers? = some id

/-- How many `ASSIGN`s for the task have been pushed. -/
def assignments (s : Coordinator) (id : TaskId) : Nat :=
  s.outgoingQueue.countP fun sent => sent.msg.assigns? = some id

/-- A `COMPLETE` arrives while its task runs. -/
def CompletesRunning (s : Coordinator) : Event → Prop
  | .complete _ msg _ => s.Running msg.taskId
  | _ => True

/-- A `SUBMIT` brings a new task. -/
def SubmitsFresh (s : Coordinator) : Event → Prop
  | .submit _ msg _ => s.tasks.find? msg.taskId = none
  | _ => True

instance (s : Coordinator) : (event : Event) → Decidable (s.CompletesRunning event)
  | .complete _ msg _ => inferInstanceAs (Decidable (s.Running msg.taskId))
  | .submit .. | .heartbeat .. | .register .. | .pass _ | .backlog _ | .replicate _ | .sweep _
  | .assignedReplicate .. | .completedReplicate _ | .snapshot .. | .peerReconnected _
  | .topRequest .. => isTrue trivial

/-! ## Tasks that have been submitted -/

/-- The task is in the table. -/
def Known (s : Coordinator) (id : TaskId) : Prop :=
  ∃ task, s.tasks.find? id = some task

theorem known_of_move (move : Move event s s') (known : s'.Known id) : s.Known id := by
  obtain ⟨task, found⟩ := known
  cases move with
  | replicated | dropped | answered => exact ⟨task, found⟩
  | assigned _ _ _ foundTask =>
      rw [assignTo_tasks, TaskTable.find?_set, Task.assignedTo_id,
        TaskTable.id_of_find? foundTask] at found
      split at found
      next same => exact ⟨_, same ▸ foundTask⟩
      next => exact ⟨task, found⟩
  | died _ _ _ _ declared =>
      obtain ⟨_, _, _, table⟩ := declareDead_spec declared
      rw [table id] at found
      obtain ⟨before, foundBefore, _⟩ := Option.map_eq_some_iff.mp found
      exact ⟨before, foundBefore⟩

/-- Without replication messages the table gets new tasks from `SUBMIT`s only. -/
theorem known_of_received (unstamped : event.stamp? = none) (received : Received s event s')
    (known : s'.Known id) : event.submits? = some id ∨ s.Known id := by
  obtain ⟨task, found⟩ := known
  cases received with
  | submitAssigned =>
      simp only [assignTo_tasks, accept_tasks, TaskTable.find?_set, Task.assignedTo_id,
        SubmitMsg.task_id] at found
      split at found
      next same => exact .inl (congrArg some same.symm)
      next => exact .inr ⟨task, found⟩
  | submitQueued =>
      simp only [accept_tasks, TaskTable.find?_set, SubmitMsg.task_id] at found
      split at found
      next same => exact .inl (congrArg some same.symm)
      next => exact .inr ⟨task, found⟩
  | completeAnswered foundTask | completeDeferred foundTask =>
      simp only [answer_tasks, finish_tasks, TaskTable.find?_set, CompleteMsg.update_id,
        TaskTable.id_of_find? foundTask] at found
      split at found
      next same => exact .inr ⟨_, same ▸ foundTask⟩
      next => exact .inr ⟨task, found⟩
  | peerReconnected =>
      simp only [processPeerReconnected] at found
      split_ifs at found <;> exact .inr ⟨task, found⟩
  | assignedReplicate | completedReplicate | snapshot => cases unstamped
  | _ => exact .inr ⟨task, found⟩

theorem known_of_run {events : List Event}
    (unstamped : Along step (fun _ event => event.stamp? = none) s events)
    (ran : Transition.run step s events = .ok s') (known : s'.Known id) :
    id ∈ events.filterMap Event.submits? ∨ s.Known id := by
  induction events generalizing s with
  | nil =>
      cases ran
      exact .inr known
  | cons event rest ih =>
      obtain ⟨next, stepped, ranRest⟩ := run_cons_eq_ok.mp ran
      obtain ⟨middle, received, moves⟩ := step_spec stepped
      obtain later | knownNext := ih (unstamped.2 next stepped) ranRest
      · left
        rw [List.mem_filterMap] at later ⊢
        obtain ⟨submission, member, submits⟩ := later
        exact ⟨submission, List.mem_cons_of_mem event member, submits⟩
      · have knownMiddle : middle.Known id := by
          by_contra unknown
          have kept : ∀ first second, Move event first second →
              ¬ first.Known id → ¬ second.Known id :=
            fun _ _ move unknown known => unknown (known_of_move move known)
          exact kept_of_moves kept moves unknown knownNext
        obtain submits | before := known_of_received unstamped.1 received knownMiddle
        · left
          exact List.mem_filterMap.mpr ⟨event, List.mem_cons_self, submits⟩
        · exact .inr before

/-- When no id is submitted twice, every `SUBMIT` brings a new task. -/
theorem submitsFresh_of_nodup {events : List Event}
    (unstamped : Along step (fun _ event => event.stamp? = none) init events)
    (once : (events.filterMap Event.submits?).Nodup) : Along step SubmitsFresh init events := by
  rw [along_iff]
  rintro before event after s rfl ran
  cases event with
  | submit fd msg env =>
      change s.tasks.find? msg.taskId = none
      cases found : s.tasks.find? msg.taskId with
      | none => rfl
      | some task =>
          have known := known_of_run (along_append.mp unstamped).1 ran ⟨task, found⟩
          have earlier : msg.taskId ∈ before.filterMap Event.submits? := by
            refine known.resolve_right ?_
            rintro ⟨stored, foundStored⟩
            cases foundStored
          rw [List.filterMap_append, List.nodup_append] at once
          exact absurd rfl (once.2.2 _ earlier msg.taskId (by simp [Event.submits?]))
  | _ => trivial

/-! ## Results and assignments sent -/

theorem results_push {sent : OutgoingEvent}
    (pushed : s'.outgoingQueue = s.outgoingQueue ++ [sent]) (id : TaskId) :
    s'.results id = s.results id + if sent.msg.answers? = some id then 1 else 0 := by
  simp [results, pushed, List.countP_append, List.countP_singleton]

theorem assignments_push {sent : OutgoingEvent}
    (pushed : s'.outgoingQueue = s.outgoingQueue ++ [sent]) (id : TaskId) :
    s'.assignments id = s.assignments id + if sent.msg.assigns? = some id then 1 else 0 := by
  simp [assignments, pushed, List.countP_append, List.countP_singleton]

/-- How many `RESULT`s for the task have been pushed or wait to be pushed. -/
def answers (s : Coordinator) (id : TaskId) : Nat :=
  s.results id + s.completedBacklog.count id

/-- The task is answered at most once, and not before it is completed. -/
structure AnsweredOnce (s : Coordinator) (id : TaskId) : Prop where
  unanswered : ¬ s.Completed id → s.answers id = 0
  once : s.answers id ≤ 1

/-- A change that does not answer the task and does not undo its completion. -/
theorem AnsweredOnce.quiet (answered : s.AnsweredOnce id)
    (completed : s.Completed id → s'.Completed id) (silent : s'.answers id ≤ s.answers id) :
    s'.AnsweredOnce id where
  unanswered := by
    intro uncompleted
    have none := answered.unanswered fun before => uncompleted (completed before)
    exact Nat.le_zero.mp (none ▸ silent)
  once := silent.trans answered.once

/-- The completion of a task that has not been answered. -/
theorem AnsweredOnce.complete (unanswered : s.answers id = 0) (completed : s'.Completed id)
    (answers : s'.answers id ≤ s.answers id + 1) : s'.AnsweredOnce id where
  unanswered := fun uncompleted => absurd completed uncompleted
  once := by rwa [unanswered] at answers

theorem answers_of_quiet (silent : s'.results id = s.results id)
    (backlog : s'.completedBacklog.Sublist s.completedBacklog) :
    s'.answers id ≤ s.answers id := by
  rw [answers, answers, silent]
  exact Nat.add_le_add_left (backlog.count_le id) _

/-- A result that is sent from the completed backlog leaves it. -/
theorem answers_answer {first : TaskId} {rest : List TaskId} {task : Task}
    (front : s.completedBacklog = first :: rest) (found : s.tasks.find? first = some task) :
    ({ s.answer task with completedBacklog := rest } : Coordinator).answers id =
      s.answers id := by
  rw [answers, answers, front, results_push (s := s) rfl, answers?_resultMessage,
    TaskTable.id_of_find? found, List.count_cons]
  simp only [Option.some.injEq, beq_iff_eq]
  omega

/-- A completion is answered or deferred. -/
theorem answers_complete {msg : CompleteMsg} {task : Task} {env : Env} {fd : Fd}
    (found : s.tasks.find? msg.taskId = some task)
    (received : Received s (.complete fd msg env) s') :
    s'.answers id = s.answers id + if msg.taskId = id then 1 else 0 := by
  cases received with
  | completeUnknown unknown =>
      rw [found] at unknown
      cases unknown
  | @completeAnswered _ _ _ other _ foundOther =>
      rw [answers, results_push (s := s.finish msg other) rfl, answers?_resultMessage,
        CompleteMsg.update_id, TaskTable.id_of_find? foundOther]
      simp only [Option.some.injEq]
      change s.results id + _ + s.completedBacklog.count id = _
      rw [answers]
      omega
  | completeDeferred foundOther =>
      simp only [answers, TaskTable.id_of_find? foundOther, List.count_append,
        List.count_singleton, beq_iff_eq]
      change s.results id + _ = _
      omega

/-! ## The invariant -/

/-- Everything exists, the running sets are exact, no completed task waits to be handed out,
and no task is answered twice. -/
structure Settled (s : Coordinator) : Prop where
  sound : s.Sound
  exact : s.Exact
  backlogUncompleted : ∀ id ∈ s.queuedBacklog, ¬ s.Completed id
  answered : ∀ id, s.AnsweredOnce id

/-- Local traffic of new tasks in which only running tasks are completed. -/
def Orderly (s : Coordinator) (event : Event) : Prop :=
  s.LocalEvent event ∧ s.SubmitsFresh event ∧ s.CompletesRunning event

theorem settled_init : Settled init where
  sound := sound_init
  exact := exact_init
  backlogUncompleted := by simp [init]
  answered := by
    intro id
    constructor
    · simp [init, answers, results]
    · simp [init, answers, results]

theorem Completed.not_running (completed : s.Completed id) : ¬ s.Running id := by
  obtain ⟨task, found, isCompleted⟩ := completed
  rintro ⟨again, foundAgain, isRunning⟩
  rw [found] at foundAgain
  cases foundAgain
  rw [isCompleted] at isRunning
  cases isRunning

/-- A task that is written under another id does not affect this one. -/
theorem Completed.of_set (completed : s.Completed id) {task : Task}
    (table : s'.tasks = s.tasks.set task) (different : task.id ≠ id) : s'.Completed id := by
  obtain ⟨stored, found, isCompleted⟩ := completed
  refine ⟨stored, ?_, isCompleted⟩
  rw [table, TaskTable.find?_set, if_neg (Ne.symm different), found]

/-- Moves do not undo completions. -/
theorem Settled.completed_move (settled : s.Settled) (move : Move event s s')
    (completed : s.Completed id) : s'.Completed id := by
  cases move with
  | replicated | dropped | answered => exact completed
  | @assigned first rest task _ _ _ _ _ front found _ =>
      have sameId := TaskTable.id_of_find? found
      have uncompleted := settled.backlogUncompleted first (by simp [front])
      refine completed.of_set (s := s) rfl ?_
      rw [Task.assignedTo_id, sameId]
      rintro rfl
      exact uncompleted completed
  | @died dead worker state running _ held _ order declared =>
      obtain ⟨_, _, _, table⟩ := declareDead_spec declared
      have absent : id ∉ running := by
        intro member
        have runs : s.Runs worker id := ⟨state, held, order.mem_iff.mp member⟩
        exact completed.not_running ((settled.exact.runs_iff worker id).mp runs).running
      obtain ⟨task, found, isCompleted⟩ := completed
      exact ⟨task, by rw [table id, found]; simp [absent], isCompleted⟩

/-- A `COMPLETE` completes the task it names. -/
theorem completed_complete {msg : CompleteMsg} {task : Task} {env : Env} {fd : Fd}
    (found : s.tasks.find? msg.taskId = some task)
    (received : Received s (.complete fd msg env) s') : s'.Completed msg.taskId := by
  cases received with
  | completeUnknown unknown =>
      rw [found] at unknown
      cases unknown
  | @completeAnswered _ _ _ other _ foundOther | @completeDeferred _ _ _ other _ foundOther =>
      refine ⟨msg.update other, ?_, rfl⟩
      simp [TaskTable.find?_set, TaskTable.id_of_find? foundOther]

/-- Neither does receiving a new task or the completion of a task. -/
theorem completed_received (unstamped : event.stamp? = none) (fresh : s.SubmitsFresh event)
    (received : Received s event s') (completed : s.Completed id) : s'.Completed id := by
  have known : s.Known id := ⟨_, completed.choose_spec.1⟩
  have outcome := received
  cases received with
  | @submitAssigned fd msg env =>
      have different : msg.taskId ≠ id := by
        rintro rfl
        obtain ⟨task, found⟩ := known
        rw [fresh] at found
        cases found
      refine Completed.of_set (s := s.accept fd msg env.now) ?_ rfl (by simpa using different)
      exact completed.of_set rfl (by simpa using different)
  | @submitQueued fd msg env =>
      refine completed.of_set rfl ?_
      rw [SubmitMsg.task_id]
      rintro rfl
      obtain ⟨task, found⟩ := known
      rw [fresh] at found
      cases found
  | @completeAnswered _ msg _ task _ found | @completeDeferred _ msg _ task _ found =>
      by_cases same : msg.taskId = id
      · exact same ▸ completed_complete found outcome
      · refine completed.of_set (s := s) rfl ?_
        rwa [CompleteMsg.update_id, TaskTable.id_of_find? found]
  | peerReconnected =>
      simp only [processPeerReconnected]
      split_ifs <;> exact completed
  | assignedReplicate | completedReplicate | snapshot => cases unstamped
  | _ => exact completed

theorem Settled.move (settled : s.Settled) (move : Move event s s') : s'.Settled where
  sound := settled.sound.move move
  exact := settled.exact.move move
  backlogUncompleted := by
    intro id member completed
    have before := completed_of_move move completed
    cases move with
    | replicated | dropped | answered => exact settled.backlogUncompleted id member before
    | assigned _ _ front =>
        exact settled.backlogUncompleted id (front ▸ List.mem_cons_of_mem _ member) before
    | @died _ worker state _ _ held _ order declared =>
        obtain ⟨_, _, frame, _⟩ := declareDead_spec declared
        rw [frame] at member
        obtain member | member := List.mem_append.mp member
        · exact settled.backlogUncompleted id member before
        · have runs : s.Runs worker id := ⟨state, held, order.mem_iff.mp member⟩
          exact before.not_running ((settled.exact.runs_iff worker id).mp runs).running
  answered := by
    intro id
    have completed := @Settled.completed_move s s' event id settled move
    have before := settled.answered id
    cases move with
    | replicated =>
        refine before.quiet completed (answers_of_quiet ?_ (List.Sublist.refl _))
        rw [results_push (s := s) rfl, settled.sound.logPrivate.head.2.1]
        simp
    | dropped _ front =>
        exact before.quiet completed
          (answers_of_quiet rfl (front ▸ List.sublist_cons_self _ _))
    | answered _ front found =>
        exact before.quiet completed (answers_answer front found).le
    | assigned =>
        refine before.quiet completed (answers_of_quiet ?_ (List.Sublist.refl _))
        rw [results_push (s := s) rfl, answers?_assignMessage]
        simp
    | died _ _ _ _ declared =>
        obtain ⟨_, _, frame, _⟩ := declareDead_spec declared
        refine before.quiet completed (answers_of_quiet ?_ ?_)
        · rw [results, frame]
          rfl
        · rw [frame]

theorem Settled.unscheduled (settled : s.Settled) (fresh : s.SubmitsFresh event) :
    s.Unscheduled event := by
  cases event with
  | submit fd msg env =>
      change s.tasks.find? msg.taskId = none at fresh
      constructor
      · rintro ⟨task, found, _⟩
        rw [fresh] at found
        cases found
      · intro member
        obtain ⟨task, found⟩ := settled.sound.queuedKnown _ member
        rw [fresh] at found
        cases found
  | _ => trivial

theorem Settled.received (settled : s.Settled) (orderly : s.Orderly event)
    (received : Received s event s') : s'.Settled := by
  obtain ⟨admitted, fresh, running⟩ := orderly
  have unstamped := admitted.unstamped
  have completed := fun id => @completed_received s s' event id unstamped fresh received
  refine ⟨settled.sound.received admitted received,
    settled.exact.received admitted (settled.unscheduled fresh) received, ?_, ?_⟩
  · intro id member isCompleted
    obtain completes | before := completed_of_received unstamped received isCompleted
    · -- A running task is not in the backlog.
      cases received with
      | completeAnswered | completeDeferred =>
          cases completes
          exact settled.exact.backlogIdle _ member running
      | completeUnknown => exact settled.backlogUncompleted id member isCompleted
      | _ => cases completes
    · cases received with
      | submitQueued =>
          obtain member | rfl := List.mem_append.mp member |>.imp_right List.mem_singleton.mp
          · exact settled.backlogUncompleted id member before
          · obtain ⟨task, found, _⟩ := before
            rw [fresh] at found
            cases found
      | assignedReplicate | completedReplicate | snapshot | peerReconnected => cases admitted
      | _ => exact settled.backlogUncompleted id member before
  · intro id
    have before := settled.answered id
    have outcome := received
    cases received with
    | @completeAnswered _ msg _ _ _ found | @completeDeferred _ msg _ _ _ found =>
        have counted := @answers_complete s _ id _ _ _ _ found outcome
        by_cases same : msg.taskId = id
        · subst same
          rw [if_pos rfl] at counted
          have unanswered := before.unanswered fun completed => completed.not_running running
          exact .complete unanswered (completed_complete found outcome) counted.le
        · rw [if_neg same] at counted
          exact before.quiet (completed id) counted.le
    | submitAssigned =>
        refine before.quiet (completed id) (answers_of_quiet ?_ (List.Sublist.refl _))
        rw [results_push (s := s) rfl, answers?_assignMessage]
        simp
    | registerReused | registerFresh =>
        refine before.quiet (completed id) (answers_of_quiet ?_ (List.Sublist.refl _))
        rw [results_push (s := s) rfl, answers?_acknowledgement]
        simp
    | assignedReplicate | completedReplicate | snapshot | peerReconnected | topRequest =>
        cases admitted
    | _ => exact before.quiet (completed id) (answers_of_quiet rfl (List.Sublist.refl _))

theorem settled_preserved : Preserves step Orderly Settled :=
  preserves_of_moves (fun _ _ _ settled orderly => settled.received orderly)
    (fun _ _ _ _ _ move settled => settled.move move)

/-! ## Completed tasks are done -/

/-- The task is completed, and `count` `ASSIGN`s for it have been pushed. -/
def Done (id : TaskId) (count : Nat) (s : Coordinator) : Prop :=
  s.Completed id ∧ s.assignments id = count

theorem Done.move {count : Nat} (done : Done id count s) (settled : s.Settled)
    (move : Move event s s') : Done id count s' := by
  obtain ⟨completed, counted⟩ := done
  refine ⟨settled.completed_move move completed, ?_⟩
  rw [← counted]
  cases move with
  | replicated =>
      rw [assignments_push (s := s) rfl, settled.sound.logPrivate.head.1]
      simp
  | dropped => rfl
  | answered =>
      rw [assignments_push (s := s) rfl, assigns?_resultMessage]
      simp
  | @assigned first _ _ _ _ _ _ _ front found =>
      have uncompleted := settled.backlogUncompleted first (by simp [front])
      rw [assignments_push (s := s) rfl, assigns?_assignMessage, TaskTable.id_of_find? found,
        if_neg, Nat.add_zero]
      intro same
      cases same
      exact uncompleted completed
  | died _ _ _ _ declared =>
      obtain ⟨_, _, frame, _⟩ := declareDead_spec declared
      rw [assignments, frame]
      rfl

theorem Done.received {count : Nat} (done : Done id count s) (orderly : s.Orderly event)
    (received : Received s event s') : Done id count s' := by
  obtain ⟨completed, counted⟩ := done
  obtain ⟨admitted, fresh, _⟩ := orderly
  refine ⟨completed_received admitted.unstamped fresh received completed, ?_⟩
  rw [← counted]
  cases received with
  | @submitAssigned fd msg env =>
      rw [assignments_push (s := s) rfl, assigns?_assignMessage, SubmitMsg.task_id, if_neg,
        Nat.add_zero]
      intro same
      cases same
      obtain ⟨task, found, _⟩ := completed
      rw [fresh] at found
      cases found
  | @completeAnswered _ msg _ task =>
      rw [assignments_push (s := s.finish msg task) rfl, assigns?_resultMessage]
      simp [assignments]
  | registerReused | registerFresh =>
      rw [assignments_push (s := s) rfl, assigns?_acknowledgement]
      simp
  | assignedReplicate | completedReplicate | snapshot | peerReconnected | topRequest =>
      cases admitted
  | _ => rfl

theorem settled_done_preserved (id : TaskId) (count : Nat) :
    Preserves step Orderly fun s => s.Settled ∧ Done id count s :=
  preserves_of_moves
    (fun _ _ _ holds orderly received =>
      ⟨holds.1.received orderly received, holds.2.received orderly received⟩)
    (fun _ _ _ _ _ move holds => ⟨holds.1.move move, holds.2.move holds.1 move⟩)

/-- Every run of local traffic returns.  If no id is submitted twice and every `COMPLETE`
arrives while its task runs, no task is answered twice, and a task that is completed at some
point stays completed and is not handed out again. -/
theorem completed_stays_completed (events : List Event)
    (traffic : Along step Traffic init events)
    (once : (events.filterMap Event.submits?).Nodup)
    (running : Along step CompletesRunning init events) :
    ∃ s, run events = .ok s ∧ (∀ id, s.results id ≤ 1) ∧
      ∀ before after s₀ id, events = before ++ after → run before = .ok s₀ →
        s₀.Completed id → s.Completed id ∧ s.assignments id = s₀.assignments id := by
  have isLocal : Along step LocalEvent init events := sound_preserved_traffic.along sound_init
    traffic fun _ _ sound admitted => sound.localEvent admitted
  have fresh := submitsFresh_of_nodup (isLocal.mono fun _ _ => LocalEvent.unstamped) once
  have orderly : Along step Orderly init events := isLocal.and (fresh.and running)
  obtain ⟨s, ran, _⟩ := sound_progresses_traffic.run sound_preserved_traffic sound_init traffic
  refine ⟨s, ran, fun id => ?_, ?_⟩
  · have settled := settled_preserved.run settled_init orderly ran
    exact (Nat.le_add_right _ _).trans (settled.answered id).once
  · rintro before after s₀ id rfl ran₀ completed
    obtain ⟨orderlyBefore, orderlyAfter⟩ := along_append.mp orderly
    have settled₀ := settled_preserved.run settled_init orderlyBefore ran₀
    obtain ⟨middle, ranBefore, ranAfter⟩ := run_append_eq_ok.mp ran
    rw [← run, ran₀] at ranBefore
    cases ranBefore
    exact ((settled_done_preserved id (s₀.assignments id)).run ⟨settled₀, completed, rfl⟩
      (orderlyAfter s₀ ran₀) ranAfter).2

/-- The worker of a task dies, and the task completes on another one. -/
theorem completed_stays_completed_after_death :
    let events : List Event := [.register 5 {}, .register 6 {}, .submit 9 { taskId := 7 } {},
      .heartbeat 1 { clock := [2000000000] }, .sweep { clock := [2000000000, 2000000000] },
      .backlog {}, .complete 6 { taskId := 7 } {}, .backlog {}]
    ∃ s, run events = .ok s ∧ s.results 7 ≤ 1 ∧ s.Completed 7 ∧ s.assignments 7 = 2 := by
  intro events
  obtain ⟨s, ran, once, stays⟩ :=
    completed_stays_completed events (by decide +kernel) (by decide +kernel) (by decide +kernel)
  have before : ∃ s₀, run (events.take 7) = .ok s₀ ∧ s₀.Completed 7 ∧ s₀.assignments 7 = 2 := by
    decide +kernel
  obtain ⟨s₀, ran₀, completed, counted⟩ := before
  obtain ⟨still, same⟩ := stays (events.take 7) [.backlog {}] s₀ 7 rfl ran₀ completed
  exact ⟨s, ran, once 7, still, same.trans counted⟩

/-- Every `COMPLETE` of the run that a worker sends for a task comes after more `ASSIGN`s of
this task to this worker than there were such `COMPLETE`s before. -/
def OneCompletePerAssign (events : List Event) : Prop :=
  ∀ n < events.length, ∀ completion ∈ events[n]?.bind Event.completion?,
    ∀ s, run (events.take n) = .ok s →
      (events.take n).countP (fun event => event.completion? = some completion) <
        s.outgoingQueue.countP fun sent => sent.assignment? = some completion

instance (events : List Event) : Decidable (OneCompletePerAssign events) :=
  inferInstanceAs (Decidable (∀ n < events.length,
    ∀ completion ∈ events[n]?.bind Event.completion?, ∀ s, run (events.take n) = .ok s →
      (events.take n).countP (fun event => event.completion? = some completion) <
        s.outgoingQueue.countP fun sent => sent.assignment? = some completion))

/-- The worker of a task dies, and its completion arrives before the next backlog pass. -/
def revivedTask : List Event :=
  [.register 5 {}, .register 6 {}, .submit 9 { taskId := 7 } {},
    .heartbeat 1 { clock := [2000000000] }, .sweep { clock := [2000000000, 2000000000] },
    .complete 5 { taskId := 7 } {}, .backlog {}, .complete 6 { taskId := 7 } {}]

/-- The completed task is handed out once more, and it is answered twice. -/
theorem completed_task_revived :
    Along step Traffic init revivedTask ∧ (revivedTask.filterMap Event.submits?).Nodup ∧
    OneCompletePerAssign revivedTask ∧
    (∃ s, run (revivedTask.take 6) = .ok s ∧ s.Completed 7 ∧ s.assignments 7 = 1) ∧
    (∃ s, run (revivedTask.take 7) = .ok s ∧ ¬ s.Completed 7 ∧ s.assignments 7 = 2) ∧
    ∃ s, run revivedTask = .ok s ∧ s.results 7 = 2 := by
  refine ⟨?_, ?_, ?_, ?_, ?_, ?_⟩ <;> decide +kernel

end Coordinator

end TaskCoordinator
