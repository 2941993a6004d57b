import TaskCoordinator.Coordinator.Safety

/-!
# Results and where they go

`send_result` is called by `process_complete_event` for the task that has just been completed
and by `process_backlog` for the tasks of `completed_backlog_`.  Each successful call pushes a
`RESULT` to the client and adds a `COMPLETED_REPLICATE` to the log.  For every step, the list
of these calls accounts for all results pushed and for all completions logged.

The destination of a result is looked up by the client id of the task when the result is sent.
A result thus goes to the connection on which that client id has submitted last, which need
not be the connection on which the task was submitted.
-/

namespace TaskCoordinator

open Transition

/-- The event is a `RESULT`. -/
def OutgoingEvent.isResult (sent : OutgoingEvent) : Bool :=
  sent.msg.answers?.isSome

def Message.isCompletion (msg : Message) : Bool :=
  match msg.body with
  | .completedReplicate _ => true
  | _ => false

namespace Coordinator

/-- One successful call of `send_result`: the state in which it was made and the task. -/
structure Answer where
  state : Coordinator
  task : Task

namespace Answer

/-- The `RESULT` that has been pushed. -/
def result (answer : Answer) : OutgoingEvent :=
  { fd := answer.state.clientFd answer.task, msg := answer.state.resultMessage answer.task }

/-- The `COMPLETED_REPLICATE` that has been added to the log. -/
def completion (answer : Answer) : Message :=
  answer.state.completedReplication answer.task

end Answer

/-- The calls account for all results pushed and all completions logged on the way from one
state to another. -/
structure Answered (s s' : Coordinator) (answers : List Answer) : Prop where
  results : ∃ pushed, s'.outgoingQueue = s.outgoingQueue ++ pushed ∧
    pushed.filter OutgoingEvent.isResult = answers.map Answer.result
  completions : ∃ added, s.replicationLog.Grows added s'.replicationLog ∧
    added.filter Message.isCompletion = answers.map Answer.completion

/-- Where a call of `send_result` is made while an event is handled. -/
inductive Made (s : Coordinator) (event : Event) : Answer → Prop where
  | completed {fd : Fd} {msg : CompleteMsg} {env : Env} {task : Task}
      (isComplete : event = .complete fd msg env)
      (found : s.tasks.find? msg.taskId = some task) :
      Made s event ⟨s.finish msg task, msg.update task⟩
  | drained {reached : Coordinator} {id : TaskId} {task : Task} (drains : event.Drains)
      (moves : Moves event s reached) (waits : id ∈ reached.completedBacklog)
      (found : reached.tasks.find? id = some task) : Made s event ⟨reached, task⟩

variable {s s' s'' : Coordinator} {event : Event} {answers : List Answer}

/-! ## The calls of one step -/

theorem answered_refl (s : Coordinator) : Answered s s [] :=
  ⟨⟨[], by simp, rfl⟩, ⟨[], .refl, rfl⟩⟩

theorem Answered.trans {later : List Answer} (before : Answered s s' answers)
    (after : Answered s' s'' later) : Answered s s'' (answers ++ later) := by
  obtain ⟨⟨pushed, queue, results⟩, ⟨added, grows, completions⟩⟩ := before
  obtain ⟨⟨pushedLater, queueLater, resultsLater⟩, ⟨addedLater, growsLater, completionsLater⟩⟩ :=
    after
  refine ⟨⟨pushed ++ pushedLater, ?_, ?_⟩, ⟨added ++ addedLater, grows.trans growsLater, ?_⟩⟩
  · rw [queueLater, queue, List.append_assoc]
  · rw [List.filter_append, results, resultsLater, List.map_append]
  · rw [List.filter_append, completions, completionsLater, List.map_append]

/-- Neither the queue nor the log changes. -/
theorem answered_of_same (queue : s'.outgoingQueue = s.outgoingQueue)
    (log : s'.replicationLog = s.replicationLog) : Answered s s' [] :=
  ⟨⟨[], by simpa using queue, rfl⟩, ⟨[], log ▸ .refl, rfl⟩⟩

/-- Something else than a result has been pushed. -/
theorem answered_of_push {sent : OutgoingEvent}
    (queue : s'.outgoingQueue = s.outgoingQueue ++ [sent])
    (noResult : sent.msg.answers? = none) (log : s'.replicationLog = s.replicationLog) :
    Answered s s' [] := by
  refine ⟨⟨[sent], queue, ?_⟩, ⟨[], log ▸ .refl, rfl⟩⟩
  simp [OutgoingEvent.isResult, noResult]

/-- An assignment has been pushed and logged. -/
theorem answered_assignTo (s : Coordinator) (task : Task) (activeIdx : Nat) (worker : WorkerId)
    (fd : Fd) (now : Nanoseconds) : Answered s (s.assignTo task activeIdx worker fd now) [] :=
  ⟨⟨_, rfl, rfl⟩, ⟨_, .add .refl _, rfl⟩⟩

theorem answered_answer (s : Coordinator) (task : Task) :
    Answered s (s.answer task) [⟨s, task⟩] :=
  ⟨⟨_, rfl, rfl⟩, ⟨_, .add .refl _, rfl⟩⟩

/-- Where no call is made there is nothing to say about the calls. -/
theorem unanswered {holds : Answer → Prop} (quiet : Answered s s' []) :
    ∃ answers, Answered s s' answers ∧ ∀ answer ∈ answers, holds answer :=
  ⟨[], quiet, List.forall_mem_nil holds⟩

theorem answered_received (received : Received s event s') :
    ∃ answers, Answered s s' answers ∧ ∀ answer ∈ answers, Made s event answer := by
  cases received with
  | @submitAssigned fd msg env _ _ _ now offers =>
      have accepted : Answered s (s.accept fd msg env.now) [] := answered_of_same rfl rfl
      exact unanswered (accepted.trans (answered_assignTo ..))
  | @completeAnswered fd msg env task _ found =>
      have finished : Answered s (s.finish msg task) [] := answered_of_same rfl rfl
      refine ⟨_, finished.trans (answered_answer _ _), fun answer member => ?_⟩
      rw [List.nil_append, List.mem_singleton] at member
      rw [member]
      exact .completed rfl found
  | assignedReplicate =>
      rw [assignReplicate_frame]
      exact unanswered (answered_of_same rfl rfl)
  | completedReplicate =>
      rw [completeReplicate_frame]
      exact unanswered (answered_of_same rfl rfl)
  | snapshot =>
      refine unanswered ⟨⟨[], ?_, rfl⟩, ⟨[], .reset .refl, rfl⟩⟩
      simp [processSnapshotEvent]
  | peerReconnected =>
      apply unanswered
      unfold processPeerReconnected
      split_ifs
      · exact answered_of_push rfl rfl rfl
      · exact answered_of_same rfl rfl
      · exact answered_refl s
  | topRequest | registerReused | registerFresh => exact unanswered (answered_of_push rfl rfl rfl)
  | submitQueued | completeUnknown | completeDeferred | heartbeat | registerRefused | pass
  | backlog | replicate | sweep => exact unanswered (answered_of_same rfl rfl)

theorem answered_move {start : Coordinator} (logPrivate : s.LogPrivate)
    (moves : Moves event start s) (move : Move event s s') :
    ∃ answers, Answered s s' answers ∧
      ∀ answer ∈ answers, event.Drains ∧ Made start event answer := by
  cases move with
  | replicated =>
      have noResult := logPrivate.head.2.1
      refine unanswered ⟨⟨_, rfl, ?_⟩, ⟨[], .advance .refl, rfl⟩⟩
      simp [OutgoingEvent.isResult, noResult]
  | dropped => exact unanswered (answered_of_same rfl rfl)
  | @answered id rest task drains front found =>
      have removed : Answered (s.answer task)
          { s.answer task with completedBacklog := rest } [] := answered_of_same rfl rfl
      refine ⟨_, (answered_answer s task).trans removed, fun answer member => ?_⟩
      rw [List.append_nil, List.mem_singleton] at member
      rw [member]
      exact ⟨drains, .drained drains moves (by simp [front]) found⟩
  | assigned =>
      exact unanswered ⟨⟨_, rfl, rfl⟩, ⟨_, .add .refl _, rfl⟩⟩
  | died _ _ _ _ declared =>
      obtain ⟨_, _, frame, _⟩ := declareDead_spec declared
      rw [frame]
      exact unanswered (answered_of_same rfl rfl)

theorem answered_moves (logPrivate : s.LogPrivate) (moves : Moves event s s') :
    ∃ answers, Answered s s' answers ∧
      ∀ answer ∈ answers, event.Drains ∧ Made s event answer := by
  induction moves with
  | refl => exact unanswered (answered_refl s)
  | @tail reached next moves move ih =>
      obtain ⟨earlier, answeredEarlier, madeEarlier⟩ := ih
      have stillPrivate : reached.LogPrivate :=
        kept_of_moves (fun _ _ move logPrivate => logPrivate.move move) moves logPrivate
      obtain ⟨later, answeredLater, madeLater⟩ := answered_move stillPrivate moves move
      refine ⟨earlier ++ later, answeredEarlier.trans answeredLater, fun answer member => ?_⟩
      obtain member | member := List.mem_append.mp member
      · exact madeEarlier answer member
      · exact madeLater answer member

/-- Every step is accounted for by calls of `send_result` at these two places. -/
theorem answered_step (logPrivate : s.LogPrivate) (stepped : s.step event = .ok s') :
    ∃ answers, Answered s s' answers ∧ ∀ answer ∈ answers, Made s event answer := by
  obtain ⟨middle, received, moves⟩ := step_spec stepped
  obtain ⟨first, answeredFirst, madeFirst⟩ := answered_received received
  obtain ⟨later, answeredLater, madeLater⟩ :=
    answered_moves (logPrivate.received received) moves
  refine ⟨first ++ later, answeredFirst.trans answeredLater, fun answer member => ?_⟩
  obtain member | member := List.mem_append.mp member
  · exact madeFirst answer member
  · obtain ⟨drains, made⟩ := madeLater answer member
    cases received with
    | pass | backlog => exact made
    | _ => cases drains

/-- A result that a step has pushed comes from one of the calls. -/
theorem Answered.exists_of_pushed (answered : Answered s s' answers) {sent : OutgoingEvent}
    (pushed : sent ∈ s'.outgoingQueue.drop s.outgoingQueue.length)
    (isResult : sent.isResult = true) : ∃ answer ∈ answers, answer.result = sent := by
  obtain ⟨⟨events, queue, results⟩, _⟩ := answered
  rw [queue, List.drop_left] at pushed
  have member : sent ∈ events.filter OutgoingEvent.isResult :=
    List.mem_filter.mpr ⟨pushed, isResult⟩
  rw [results] at member
  exact List.mem_map.mp member

end Coordinator

/-! ## What becomes of the records -/

/-- A record without the fields that say where its task runs. -/
@[simps] def Task.job (task : Task) : Task :=
  { task with workerId := 0, state := .queued, startedAt := 0 }

@[simp] theorem Task.job_assignedTo (task : Task) (worker : WorkerId) (now : Nanoseconds) :
    (task.assignedTo worker now).job = task.job := rfl

@[simp] theorem Task.job_requeued (task : Task) : task.requeued.job = task.job := rfl

namespace Coordinator

/-- How a record that is there after an event has got its job. -/
inductive Written (s : Coordinator) (event : Event) (id : TaskId) (task : Task) : Prop where
  | submitted {fd : Fd} {msg : SubmitMsg} {env : Env} (isSubmit : event = .submit fd msg env)
      (same : msg.taskId = id) (job : task.job = (msg.task env.now).job)
  | completed {fd : Fd} {msg : CompleteMsg} {env : Env} {old : Task}
      (isComplete : event = .complete fd msg env) (same : msg.taskId = id)
      (found : s.tasks.find? id = some old) (updated : task = msg.update old)
  | kept {old : Task} (notSubmitted : event.submits? ≠ some id)
      (notCompleted : event.completes? ≠ some id) (found : s.tasks.find? id = some old)
      (job : task.job = old.job)

theorem written_finish {fd : Fd} {msg : CompleteMsg} {env : Env} {stored task : Task} {id : TaskId}
    (isComplete : event = .complete fd msg env)
    (foundStored : s.tasks.find? msg.taskId = some stored)
    (found : (s.tasks.set (msg.update stored)).find? id = some task) :
    Written s event id task := by
  rw [TaskTable.find?_set, CompleteMsg.update_id, TaskTable.id_of_find? foundStored] at found
  split at found
  next same =>
    cases found
    exact .completed isComplete same.symm (same ▸ foundStored) rfl
  next different =>
    subst isComplete
    exact .kept nofun (by simpa [Event.completes?] using Ne.symm different) found rfl

/-- Without replication messages a record is written by the `SUBMIT`s and `COMPLETE`s of its
task, and otherwise its job stays. -/
theorem written_of_received {id : TaskId} {task : Task} (unstamped : event.stamp? = none)
    (received : Received s event s') (found : s'.tasks.find? id = some task) :
    Written s event id task := by
  cases received with
  | @submitAssigned fd msg env _ _ _ now =>
      rw [assignTo_tasks, accept_tasks, TaskTable.find?_set] at found
      simp only [Task.assignedTo_id, SubmitMsg.task_id] at found
      split at found
      next same =>
        cases found
        exact .submitted rfl same.symm (Task.job_assignedTo ..)
      next different =>
        rw [TaskTable.find?_set, SubmitMsg.task_id, if_neg different] at found
        exact .kept (by simpa [Event.submits?] using Ne.symm different) nofun found rfl
  | @submitQueued fd msg env =>
      have found : (s.tasks.set (msg.task env.now)).find? id = some task := found
      rw [TaskTable.find?_set, SubmitMsg.task_id] at found
      split at found
      next same =>
        cases found
        exact .submitted rfl same.symm rfl
      next different =>
        exact .kept (by simpa [Event.submits?] using Ne.symm different) nofun found rfl
  | completeUnknown unknown =>
      refine .kept nofun (fun isId => ?_) found rfl
      cases isId
      rw [unknown] at found
      cases found
  | completeAnswered foundStored => exact written_finish rfl foundStored found
  | completeDeferred foundStored => exact written_finish rfl foundStored found
  | assignedReplicate | completedReplicate | snapshot => cases unstamped
  | peerReconnected =>
      refine .kept nofun nofun ?_ rfl
      unfold processPeerReconnected at found
      split_ifs at found <;> exact found
  | _ => exact .kept nofun nofun found rfl

/-- The moves that follow an event keep every job. -/
theorem records_of_move {id : TaskId} {task : Task} (move : Move event s s')
    (found : s'.tasks.find? id = some task) :
    ∃ old, s.tasks.find? id = some old ∧ task.job = old.job := by
  cases move with
  | replicated | dropped | answered => exact ⟨task, found, rfl⟩
  | @assigned other _ stored _ _ _ now _ _ foundStored =>
      have found : (s.tasks.set (stored.assignedTo _ now)).find? id = some task := found
      rw [TaskTable.find?_set] at found
      split at found
      next same =>
        cases found
        refine ⟨stored, ?_, rfl⟩
        rw [same, Task.assignedTo_id, TaskTable.id_of_find? foundStored]
        exact foundStored
      next => exact ⟨task, found, rfl⟩
  | died _ _ _ _ declared =>
      obtain ⟨_, _, _, table⟩ := declareDead_spec declared
      rw [table id] at found
      obtain ⟨old, foundOld, rfl⟩ := Option.map_eq_some_iff.mp found
      refine ⟨old, foundOld, ?_⟩
      split
      next => rfl
      next => rfl

theorem records_of_moves {id : TaskId} {task : Task} (moves : Moves event s s')
    (found : s'.tasks.find? id = some task) :
    ∃ old, s.tasks.find? id = some old ∧ task.job = old.job := by
  induction moves generalizing task with
  | refl => exact ⟨task, found, rfl⟩
  | tail _ move ih =>
      obtain ⟨middle, foundMiddle, sameMiddle⟩ := records_of_move move found
      obtain ⟨old, foundOld, sameOld⟩ := ih foundMiddle
      exact ⟨old, foundOld, sameMiddle.trans sameOld⟩

/-! ## Destinations -/

end Coordinator

/-- The connection and the message of a `SUBMIT`. -/
def Event.submission? : Event → Option (Fd × SubmitMsg)
  | .submit fd msg _ => some (fd, msg)
  | _ => none

/-- The last `SUBMIT` of a task. -/
def lastSubmission (events : List Event) (id : TaskId) : Option (Fd × SubmitMsg) :=
  ((events.filterMap Event.submission?).filter fun given => given.2.taskId = id).getLast?

/-- The connection of the last `SUBMIT` under a client id. -/
def lastConnection (events : List Event) (client : ClientId) : Option Fd :=
  (((events.filterMap Event.submission?).filter fun given => given.2.clientId = client).getLast?).map
    Prod.fst

section Histories

variable {before : List Event} {event : Event}

theorem lastSubmission_append_submit (before : List Event) (fd : Fd) (msg : SubmitMsg) (env : Env)
    (id : TaskId) :
    lastSubmission (before ++ [.submit fd msg env]) id =
      if id = msg.taskId then some (fd, msg) else lastSubmission before id := by
  unfold lastSubmission
  by_cases same : msg.taskId = id
  · simp [Event.submission?, same]
  · simp [Event.submission?, same, Ne.symm same]

theorem lastConnection_append_submit (before : List Event) (fd : Fd) (msg : SubmitMsg) (env : Env)
    (client : ClientId) :
    lastConnection (before ++ [.submit fd msg env]) client =
      if client = msg.clientId then some fd else lastConnection before client := by
  unfold lastConnection
  by_cases same : msg.clientId = client
  · simp [Event.submission?, same]
  · simp [Event.submission?, same, Ne.symm same]

theorem lastSubmission_append_other (none_ : event.submission? = none) (id : TaskId) :
    lastSubmission (before ++ [event]) id = lastSubmission before id := by
  simp [lastSubmission, none_]

theorem lastSubmission_append_of_ne {id : TaskId} (notSubmitted : event.submits? ≠ some id) :
    lastSubmission (before ++ [event]) id = lastSubmission before id := by
  cases event with
  | submit fd msg env =>
      rw [lastSubmission_append_submit, if_neg]
      simpa [Event.submits?, eq_comm] using notSubmitted
  | _ => exact lastSubmission_append_other rfl id

/-- The client of a task that has been submitted has a last connection. -/
theorem exists_lastConnection {id : TaskId} {fd : Fd} {msg : SubmitMsg}
    (submitted : lastSubmission before id = some (fd, msg)) :
    ∃ last, lastConnection before msg.clientId = some last := by
  have member := List.mem_of_getLast? submitted
  have isSubmission := (List.mem_filter.mp member).1
  have sameClient : (fd, msg) ∈ (before.filterMap Event.submission?).filter
      fun given => given.2.clientId = msg.clientId :=
    List.mem_filter.mpr ⟨isSubmission, by simp⟩
  obtain ⟨last, isLast⟩ := Option.isSome_iff_exists.mp
    (List.getLast?_isSome.mpr (List.ne_nil_of_mem sameClient))
  exact ⟨last.1, by rw [lastConnection, isLast]; rfl⟩

theorem lastConnection_append_other (none_ : event.submission? = none) (client : ClientId) :
    lastConnection (before ++ [event]) client = lastConnection before client := by
  simp [lastConnection, none_]

end Histories

@[simp] theorem SubmitMsg.task_clientId (msg : SubmitMsg) (now : Nanoseconds) :
    (msg.task now).clientId = msg.clientId := by
  unfold SubmitMsg.task
  cases msg.type <;> rfl

namespace Coordinator

/-- Records name the clients of the last submissions, and the map of clients has their last
connections. -/
structure Addressed (before : List Event) (s : Coordinator) : Prop where
  clients : ∀ id task, s.tasks.find? id = some task →
    ∃ fd msg, lastSubmission before id = some (fd, msg) ∧ task.clientId = msg.clientId
  connections : ∀ client, s.clientFds.lookup client = lastConnection before client

variable {before : List Event}

theorem addressed_init : Addressed [] init where
  clients := by simp [init]
  connections := fun _ => rfl

theorem Addressed.received (addressed : Addressed before s) (unstamped : event.stamp? = none)
    (received : Received s event s') : Addressed (before ++ [event]) s' where
  clients := by
    intro id task found
    cases written_of_received unstamped received found with
    | @submitted fd msg env isSubmit same job =>
        refine ⟨fd, msg, ?_, ?_⟩
        · rw [isSubmit, lastSubmission_append_submit, if_pos same.symm]
        · simpa using congrArg Task.clientId job
    | @completed fd msg env old isComplete same foundOld updated =>
        obtain ⟨submittedOn, submission, isLast, client⟩ := addressed.clients id old foundOld
        refine ⟨submittedOn, submission, ?_, ?_⟩
        · rw [lastSubmission_append_of_ne (by rw [isComplete]; nofun), isLast]
        · rw [updated]
          exact client
    | @kept old notSubmitted _ foundOld job =>
        obtain ⟨submittedOn, submission, isLast, client⟩ := addressed.clients id old foundOld
        refine ⟨submittedOn, submission, ?_, ?_⟩
        · rw [lastSubmission_append_of_ne notSubmitted, isLast]
        · rw [← client]
          simpa using congrArg Task.clientId job
  connections := by
    intro client
    have old := addressed.connections client
    have ofSame : ∀ {other : Event}, other.submission? = none →
        s.clientFds.lookup client = lastConnection (before ++ [other]) client := by
      intro other notSubmit
      rw [lastConnection_append_other notSubmit, old]
    have ofSubmit : ∀ {fd msg env}, (s.clientFds.insert msg.clientId fd).lookup client =
        lastConnection (before ++ [.submit fd msg env]) client := by
      intro fd msg env
      rw [lastConnection_append_submit]
      split
      next same => rw [same, AList.lookup_insert]
      next different => rw [AList.lookup_insert_ne different, old]
    cases received with
    | submitAssigned => exact ofSubmit
    | submitQueued => exact ofSubmit
    | assignedReplicate | completedReplicate | snapshot => cases unstamped
    | peerReconnected =>
        unfold processPeerReconnected
        split_ifs <;> exact ofSame rfl
    | _ => exact ofSame rfl

theorem Addressed.move (addressed : Addressed before s) (move : Move event s s') :
    Addressed before s' where
  clients := by
    intro id task found
    obtain ⟨old, foundOld, job⟩ := records_of_move move found
    obtain ⟨fd, msg, isLast, client⟩ := addressed.clients id old foundOld
    refine ⟨fd, msg, isLast, client ▸ ?_⟩
    simpa using congrArg Task.clientId job
  connections := by
    have same : s'.clientFds = s.clientFds := by
      cases move with
      | died _ _ _ _ declared =>
          obtain ⟨_, _, frame, _⟩ := declareDead_spec declared
          rw [frame]
      | _ => rfl
    rw [same]
    exact addressed.connections

theorem addressed_of_run (unstamped : ∀ event ∈ before, event.stamp? = none)
    (ran : run before = .ok s) : Addressed before s :=
  history_of_moves (fun _ _ _ _ addressed unstamped received => addressed.received unstamped received)
    (fun _ _ _ _ move addressed => addressed.move move) addressed_init
    (along_of_forall unstamped) ran

/-- A known task is answered on the last connection of its client. -/
theorem Addressed.clientFd (addressed : Addressed before s) {id : TaskId} {task : Task}
    (found : s.tasks.find? id = some task) :
    ∃ fd msg, lastSubmission before id = some (fd, msg) ∧
      lastConnection before msg.clientId = some (s.clientFd task) := by
  obtain ⟨fd, msg, isLast, client⟩ := addressed.clients id task found
  obtain ⟨last, connected⟩ := exists_lastConnection isLast
  refine ⟨fd, msg, isLast, ?_⟩
  rw [Coordinator.clientFd, client, addressed.connections, connected]
  rfl

/-- Every result that a step of a run pushes goes to the connection of the last `SUBMIT` that
carried the client id of the last `SUBMIT` of the task. -/
theorem results_reach_last_connection
    (unstamped : ∀ earlier ∈ before ++ [event], earlier.stamp? = none)
    (ran : run before = .ok s) (stepped : s.step event = .ok s') {sent : OutgoingEvent}
    (pushed : sent ∈ s'.outgoingQueue.drop s.outgoingQueue.length) {id : TaskId}
    (answers : sent.msg.answers? = some id) :
    ∃ fd msg, lastSubmission before id = some (fd, msg) ∧
      lastConnection before msg.clientId = some sent.fd := by
  have addressed : Addressed before s :=
    addressed_of_run (fun earlier member => unstamped earlier (by simp [member])) ran
  obtain ⟨calls, answered, made⟩ := answered_step (logPrivate_of_run ran) stepped
  have isResult : sent.isResult = true := by simp [OutgoingEvent.isResult, answers]
  obtain ⟨answer, member, rfl⟩ := answered.exists_of_pushed pushed isResult
  have isTask : answer.task.id = id := Option.some.inj answers
  cases made answer member with
  | @completed fd msg env task _ found =>
      have sameId : msg.taskId = id := (TaskTable.id_of_find? found).symm.trans isTask
      rw [sameId] at found
      obtain ⟨submittedOn, submission, isLast, connected⟩ := addressed.clientFd found
      exact ⟨submittedOn, submission, isLast, connected⟩
  | @drained reached other task _ moves _ found =>
      have stillAddressed : Addressed before reached :=
        kept_of_moves (fun _ _ move addressed => addressed.move move) moves addressed
      have sameId : other = id := (TaskTable.id_of_find? found).symm.trans isTask
      rw [sameId] at found
      exact stillAddressed.clientFd found

/-- Client 7 submits task 1 on connection 5 and task 2 on connection 6. -/
def twoConnections : List Event :=
  [.register 3 {}, .submit 5 { taskId := 1, clientId := 7 } {},
    .submit 6 { taskId := 2, clientId := 7 } {}]

theorem result_reaches_connection_six :
    ∃ s s', run twoConnections = .ok s ∧ s.step (.complete 3 { taskId := 1 } {}) = .ok s' ∧
      ∃ sent ∈ s'.outgoingQueue.drop s.outgoingQueue.length, sent.msg.answers? = some 1 ∧
        ∃ fd msg, lastSubmission twoConnections 1 = some (fd, msg) ∧
          lastConnection twoConnections msg.clientId = some sent.fd := by
  have evaluated : ∃ s, run twoConnections = .ok s ∧
      ∃ s', s.step (.complete 3 { taskId := 1 } {}) = .ok s' ∧
        ∃ sent ∈ s'.outgoingQueue.drop s.outgoingQueue.length, sent.msg.answers? = some 1 := by
    decide +kernel
  obtain ⟨s, ran, s', stepped, sent, pushed, answers⟩ := evaluated
  have unstamped : ∀ earlier ∈ twoConnections ++ [.complete 3 { taskId := 1 } {}],
      earlier.stamp? = none := by
    decide +kernel
  exact ⟨s, s', ran, stepped, sent, pushed, answers,
    results_reach_last_connection unstamped ran stepped pushed answers⟩

/-- The result of task 1 is sent on connection 6, and the task was submitted on connection 5. -/
theorem result_misses_submitting_connection :
    (lastSubmission twoConnections 1).map Prod.fst = some 5 ∧
    ∃ s, run twoConnections = .ok s ∧
      ∃ s', s.step (.complete 3 { taskId := 1 } {}) = .ok s' ∧
        ∃ sent ∈ s'.outgoingQueue.drop s.outgoingQueue.length,
          sent.msg.answers? = some 1 ∧ sent.fd = 6 := by
  decide +kernel

end Coordinator

end TaskCoordinator
