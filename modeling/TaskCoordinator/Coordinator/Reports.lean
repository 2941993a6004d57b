import TaskCoordinator.Coordinator.Answers

/-!
# What results report

A result that could not be pushed waits in `completed_backlog_` as a bare id, and the backlog
pass rebuilds it from the record of the task.  Between the two, only a `SUBMIT` of the same id
replaces what the last `COMPLETE` has written: a second `COMPLETE` writes its own values, and
assignments and requeues leave them.
-/

namespace TaskCoordinator

open Transition

/-- The message of a `COMPLETE`. -/
def Event.completeMsg? : Event → Option CompleteMsg
  | .complete _ msg _ => some msg
  | _ => none

/-- The last `COMPLETE` of a task. -/
def lastCompletion (events : List Event) (id : TaskId) : Option CompleteMsg :=
  ((events.filterMap Event.completeMsg?).filter fun msg => msg.taskId = id).getLast?

def Event.concerns (event : Event) (id : TaskId) : Bool :=
  event.submits? = some id ∨ event.completes? = some id

/-- The last `SUBMIT` or `COMPLETE` of a task is a `SUBMIT`. -/
def Resubmitted (events : List Event) (id : TaskId) : Prop :=
  ∃ event, (events.filter fun event => event.concerns id).getLast? = some event ∧
    event.submits? = some id

instance (events : List Event) (id : TaskId) : Decidable (Resubmitted events id) :=
  match last : (events.filter fun event => event.concerns id).getLast? with
  | some event => decidable_of_iff (event.submits? = some id) (by simp [Resubmitted, last])
  | none => isFalse (by simp [Resubmitted, last])

section Histories

variable {before : List Event} {event : Event} {id : TaskId}

theorem lastCompletion_append_complete (before : List Event) (fd : Fd) (msg : CompleteMsg)
    (env : Env) : lastCompletion (before ++ [.complete fd msg env]) msg.taskId = some msg := by
  simp [lastCompletion, Event.completeMsg?]

theorem lastCompletion_append_other (notCompleted : event.completes? ≠ some id) :
    lastCompletion (before ++ [event]) id = lastCompletion before id := by
  have ofNone : event.completeMsg? = none →
      lastCompletion (before ++ [event]) id = lastCompletion before id := by
    intro none_
    simp [lastCompletion, none_]
  cases event with
  | complete fd msg env =>
      have different : msg.taskId ≠ id := by simpa [Event.completes?] using notCompleted
      simp [lastCompletion, Event.completeMsg?, different]
  | _ => exact ofNone rfl

theorem resubmitted_of_submit (submitted : event.submits? = some id) :
    Resubmitted (before ++ [event]) id := by
  refine ⟨event, ?_, submitted⟩
  simp [Event.concerns, submitted]

theorem resubmitted_append_other (notSubmitted : event.submits? ≠ some id)
    (notCompleted : event.completes? ≠ some id) :
    Resubmitted (before ++ [event]) id ↔ Resubmitted before id := by
  have unconcerned : [event].filter (fun event => event.concerns id) = [] := by
    simp [Event.concerns, notSubmitted, notCompleted]
  unfold Resubmitted
  rw [List.filter_append, unconcerned, List.append_nil]

end Histories

namespace Coordinator

variable {s s' : Coordinator} {event : Event} {before : List Event} {id : TaskId}

/-- The record has the values of the last completion. -/
structure Reflects (completion : CompleteMsg) (task : Task) : Prop where
  success : task.success = completion.success
  completedAt : task.completedAt = completion.completedAt
  result : task.type = .wordCount → task.result = completion.result

/-- Records have the types of the last submissions and, unless the task has been submitted
again, the values of the last completions.  Results that wait have been completed. -/
structure Recorded (before : List Event) (s : Coordinator) : Prop where
  types : ∀ id task, s.tasks.find? id = some task →
    ∃ fd msg, lastSubmission before id = some (fd, msg) ∧ task.type = msg.type
  values : ∀ id task, s.tasks.find? id = some task → ¬ Resubmitted before id →
    ∃ completion, lastCompletion before id = some completion ∧ Reflects completion task
  waiting : ∀ id ∈ s.completedBacklog, ∃ completion, lastCompletion before id = some completion

theorem recorded_init : Recorded [] init where
  types := by simp [init]
  values := by simp [init]
  waiting := by simp [init]

theorem Reflects.of_job {completion : CompleteMsg} {task old : Task}
    (reflects : Reflects completion old) (job : task.job = old.job) :
    Reflects completion task where
  success := (congrArg Task.success job).trans reflects.success
  completedAt := (congrArg Task.completedAt job).trans reflects.completedAt
  result := by
    intro wordCount
    have sameType : task.job.type = old.job.type := congrArg Task.type job
    exact (congrArg Task.result job).trans (reflects.result (sameType ▸ wordCount))

theorem reflects_update (msg : CompleteMsg) (task : Task) : Reflects msg (msg.update task) where
  success := rfl
  completedAt := rfl
  result := fun wordCount => if_pos wordCount

theorem completion_append (event : Event)
    (completed : ∃ completion, lastCompletion before id = some completion) :
    ∃ completion, lastCompletion (before ++ [event]) id = some completion := by
  by_cases completes : event.completes? = some id
  · cases event with
    | complete fd msg env =>
        obtain rfl : msg.taskId = id := Option.some.inj completes
        exact ⟨msg, lastCompletion_append_complete before fd msg env⟩
    | _ => cases completes
  · rw [lastCompletion_append_other completes]
    exact completed

theorem Recorded.received (recorded : Recorded before s) (unstamped : event.stamp? = none)
    (received : Received s event s') : Recorded (before ++ [event]) s' where
  types := by
    intro id task found
    cases written_of_received unstamped received found with
    | @submitted fd msg env isSubmit same job =>
        refine ⟨fd, msg, ?_, ?_⟩
        · rw [isSubmit, lastSubmission_append_submit, if_pos same.symm]
        · simpa using congrArg Task.type job
    | @completed fd msg env old isComplete same foundOld updated =>
        obtain ⟨submittedOn, submission, isLast, type⟩ := recorded.types id old foundOld
        refine ⟨submittedOn, submission, ?_, updated ▸ type⟩
        rw [lastSubmission_append_of_ne (by rw [isComplete]; nofun), isLast]
    | @kept old notSubmitted _ foundOld job =>
        obtain ⟨submittedOn, submission, isLast, type⟩ := recorded.types id old foundOld
        refine ⟨submittedOn, submission, ?_, ?_⟩
        · rw [lastSubmission_append_of_ne notSubmitted, isLast]
        · rw [← type]
          simpa using congrArg Task.type job
  values := by
    intro id task found stands
    cases written_of_received unstamped received found with
    | @submitted fd msg env isSubmit same job =>
        refine absurd (resubmitted_of_submit ?_) stands
        rw [isSubmit, ← same]
        rfl
    | @completed fd msg env old isComplete same foundOld updated =>
        refine ⟨msg, ?_, updated ▸ reflects_update msg old⟩
        rw [isComplete, ← same, lastCompletion_append_complete]
    | @kept old notSubmitted notCompleted foundOld job =>
        rw [resubmitted_append_other notSubmitted notCompleted] at stands
        obtain ⟨completion, isLast, reflects⟩ := recorded.values id old foundOld stands
        refine ⟨completion, ?_, reflects.of_job job⟩
        rw [lastCompletion_append_other notCompleted, isLast]
  waiting := by
    intro id member
    have ofOld : id ∈ s.completedBacklog →
        ∃ completion, lastCompletion (before ++ [event]) id = some completion :=
      fun old => completion_append event (recorded.waiting id old)
    cases received with
    | @completeDeferred fd msg env task _ found =>
        obtain member | isNew := List.mem_append.mp member |>.imp_right List.mem_singleton.mp
        · exact ofOld member
        · rw [isNew, TaskTable.id_of_find? found]
          exact ⟨msg, lastCompletion_append_complete before fd msg env⟩
    | assignedReplicate | completedReplicate | snapshot => cases unstamped
    | peerReconnected =>
        unfold processPeerReconnected at member
        split_ifs at member <;> exact ofOld member
    | _ => exact ofOld member

/-- Moves take results out of the backlog and put none in. -/
theorem waiting_of_move (move : Move event s s') (waits : id ∈ s'.completedBacklog) :
    id ∈ s.completedBacklog := by
  cases move with
  | dropped _ front | answered _ front =>
      rw [front]
      exact List.mem_cons_of_mem _ waits
  | died _ _ _ _ declared =>
      obtain ⟨_, _, frame, _⟩ := declareDead_spec declared
      rw [frame] at waits
      exact waits
  | _ => exact waits

theorem Recorded.move (recorded : Recorded before s) (move : Move event s s') :
    Recorded before s' where
  types := by
    intro id task found
    obtain ⟨old, foundOld, job⟩ := records_of_move move found
    obtain ⟨fd, msg, isLast, type⟩ := recorded.types id old foundOld
    refine ⟨fd, msg, isLast, type ▸ ?_⟩
    simpa using congrArg Task.type job
  values := by
    intro id task found stands
    obtain ⟨old, foundOld, job⟩ := records_of_move move found
    obtain ⟨completion, isLast, reflects⟩ := recorded.values id old foundOld stands
    exact ⟨completion, isLast, reflects.of_job job⟩
  waiting := fun id waits => recorded.waiting id (waiting_of_move move waits)

theorem recorded_of_run (unstamped : ∀ event ∈ before, event.stamp? = none)
    (ran : run before = .ok s) : Recorded before s :=
  history_of_moves (fun _ _ _ _ recorded unstamped received => recorded.received unstamped received)
    (fun _ _ _ _ move recorded => recorded.move move) recorded_init
    (along_of_forall unstamped) ran

/-! ## Results and completions -/

/-- The event works off the backlogs in this state: the scheduler thread does so only as the
primary. -/
def WorksOff (s : Coordinator) : Event → Prop
  | .pass _ => s.isPrimary = true
  | .backlog _ => True
  | _ => False

instance (s : Coordinator) : (event : Event) → Decidable (s.WorksOff event)
  | .pass _ => inferInstanceAs (Decidable (s.isPrimary = true))
  | .backlog _ => isTrue trivial
  | .submit .. | .complete .. | .assignedReplicate .. | .completedReplicate _ | .snapshot ..
  | .peerReconnected _ | .topRequest .. | .heartbeat .. | .register .. | .replicate _
  | .sweep _ => isFalse not_false

/-- A backup leaves its backlogs alone. -/
theorem step_of_not_worksOff (drains : event.Drains) (idle : ¬ s.WorksOff event)
    (stepped : s.step event = .ok s') : s' = s := by
  cases event with
  | pass env =>
      have backup : ¬ s.isPrimary = true := idle
      rw [step, if_neg backup] at stepped
      exact (Except.ok.inj stepped).symm
  | backlog env => exact absurd trivial idle
  | _ => cases drains

/-- The values are those of the last `COMPLETE` of the task; the result only matters for a
word count. -/
def Reports (events : List Event) (id : TaskId) (success : UInt8) (result : UInt32) : Prop :=
  ∃ fd submission completion, lastSubmission events id = some (fd, submission) ∧
    lastCompletion events id = some completion ∧ success = completion.success ∧
    (submission.type = .wordCount → result = completion.result)

/-- The time of completion is that of the last `COMPLETE` of the task. -/
def ReportsTime (events : List Event) (id : TaskId) (completedAt : Nanoseconds) : Prop :=
  ∃ completion, lastCompletion events id = some completion ∧ completedAt = completion.completedAt

/-- Every result that the step pushes and every completion that it logs report the last
`COMPLETE` of their task. -/
structure StepReports (events : List Event) (s s' : Coordinator) : Prop where
  results : ∀ sent ∈ s'.outgoingQueue.drop s.outgoingQueue.length, ∀ id,
    sent.msg.answers? = some id →
      Reports events id sent.msg.result.success sent.msg.result.result
  completions : ∃ added, s.replicationLog.Grows added s'.replicationLog ∧
    ∀ msg ∈ added, ∀ body, msg.body = .completedReplicate body →
      Reports events body.taskId body.success body.result ∧
        ReportsTime events body.taskId body.completedAt

/-- A call of `send_result` sends the values of the last completion. -/
def Answer.Reporting (answer : Answer) (events : List Event) : Prop :=
  ∃ fd submission completion, lastSubmission events answer.task.id = some (fd, submission) ∧
    answer.task.type = submission.type ∧
    lastCompletion events answer.task.id = some completion ∧ Reflects completion answer.task

/-- Every call that a step makes reports the last completion, if no waiting task has been
submitted again. -/
theorem Made.reporting {answer : Answer} (made : Made s event answer)
    (recorded : Recorded before s)
    (fresh : event.Drains → ∀ id ∈ s.completedBacklog, ¬ Resubmitted before id) :
    answer.Reporting (before ++ [event]) := by
  cases made with
  | @completed fd msg env task isComplete found =>
      have sameId := TaskTable.id_of_find? found
      obtain ⟨submittedOn, submission, isLast, type⟩ := recorded.types _ task found
      refine ⟨submittedOn, submission, msg, ?_, type, ?_, reflects_update msg task⟩
      · rw [lastSubmission_append_of_ne (by rw [isComplete]; nofun)]
        exact sameId ▸ isLast
      · rw [isComplete, CompleteMsg.update_id, sameId, lastCompletion_append_complete]
  | @drained reached id task drains moves waits found =>
      have sameId := TaskTable.id_of_find? found
      have stillRecorded : Recorded before reached :=
        kept_of_moves (fun _ _ move recorded => recorded.move move) moves recorded
      have waitedBefore : id ∈ s.completedBacklog := by
        clear stillRecorded found
        induction moves with
        | refl => exact waits
        | tail _ move ih => exact ih (waiting_of_move move waits)
      obtain ⟨submittedOn, submission, isLast, type⟩ := stillRecorded.types id task found
      obtain ⟨completion, completed, reflects⟩ :=
        stillRecorded.values id task found (fresh drains id waitedBefore)
      have neither : event.submits? ≠ some id ∧ event.completes? ≠ some id := by
        cases event with
        | pass | backlog => exact ⟨nofun, nofun⟩
        | _ => cases drains
      refine ⟨submittedOn, submission, completion, ?_, type, ?_, reflects⟩
      · rw [sameId, lastSubmission_append_of_ne neither.1, isLast]
      · rw [sameId, lastCompletion_append_other neither.2, completed]

theorem stepReports_of_answered {events : List Event} {answers : List Answer}
    (answered : Answered s s' answers)
    (reporting : ∀ answer ∈ answers, answer.Reporting events) : StepReports events s s' where
  results := by
    intro sent pushed id isAnswer
    have isResult : sent.isResult = true := by simp [OutgoingEvent.isResult, isAnswer]
    obtain ⟨answer, member, rfl⟩ := answered.exists_of_pushed pushed isResult
    obtain rfl : answer.task.id = id := Option.some.inj isAnswer
    obtain ⟨fd, submission, completion, submitted, type, completed, reflects⟩ :=
      reporting answer member
    refine ⟨fd, submission, completion, submitted, completed, reflects.success, ?_⟩
    intro wordCount
    have isWordCount : answer.task.type = .wordCount := type.trans wordCount
    exact (if_pos isWordCount).trans (reflects.result isWordCount)
  completions := by
    obtain ⟨_, ⟨added, grows, completions⟩⟩ := answered
    refine ⟨added, grows, fun msg member body isBody => ?_⟩
    have isCompletion : msg ∈ added.filter Message.isCompletion := by
      refine List.mem_filter.mpr ⟨member, ?_⟩
      simp [Message.isCompletion, isBody]
    rw [completions] at isCompletion
    obtain ⟨answer, called, rfl⟩ := List.mem_map.mp isCompletion
    cases isBody
    obtain ⟨fd, submission, completion, submitted, type, completed, reflects⟩ :=
      reporting answer called
    refine ⟨⟨fd, submission, completion, submitted, completed, reflects.success, ?_⟩,
      ⟨completion, completed, reflects.completedAt⟩⟩
    exact fun wordCount => reflects.result (type.trans wordCount)

/-- In every run without replication messages, every result pushed and every completion logged
reports the last `COMPLETE` of its task, if no task that waits in `completed_backlog_` when the
backlogs are worked off has been submitted again since its last `COMPLETE`. -/
theorem results_report_last_completion {events : List Event}
    (unstamped : ∀ event ∈ events, event.stamp? = none)
    (fresh : ∀ before event after s, events = before ++ event :: after → run before = .ok s →
      s.WorksOff event → ∀ id ∈ s.completedBacklog, ¬ Resubmitted before id) :
    ∀ before event after s s', events = before ++ event :: after → run before = .ok s →
      s.step event = .ok s' → StepReports (before ++ [event]) s s' := by
  rintro before event after s s' rfl ran stepped
  by_cases idle : event.Drains ∧ ¬ s.WorksOff event
  · obtain rfl := step_of_not_worksOff idle.1 idle.2 stepped
    exact stepReports_of_answered (answered_refl s') nofun
  · have recorded : Recorded before s :=
      recorded_of_run (fun earlier member => unstamped earlier (by simp [member])) ran
    obtain ⟨answers, answered, made⟩ := answered_step (logPrivate_of_run ran) stepped
    refine stepReports_of_answered answered fun answer member => ?_
    refine (made answer member).reporting recorded fun drains => ?_
    exact fresh before event after s rfl ran (not_not.mp fun isIdle => idle ⟨drains, isIdle⟩)

/-- The result of task 1, a word count of 4, is refused at first and waits for the next pass. -/
def deferredOnce : List Event :=
  [.register 3 {}, .submit 5 { taskId := 1, type := .wordCount } {},
    .complete 3 { taskId := 1, completedAt := 9, result := 4, success := 1 } { pushes := [false] }]

theorem deferred_result_reported :
    ∃ s, run deferredOnce = .ok s ∧ ∃ s', s.step (.pass {}) = .ok s' ∧
      (∃ sent ∈ s'.outgoingQueue.drop s.outgoingQueue.length, sent.msg.answers? = some 1) ∧
      StepReports (deferredOnce ++ [.pass {}]) s s' := by
  have evaluated : ∃ s, run deferredOnce = .ok s ∧ s.completedBacklog = [1] ∧
      ∃ s', s.step (.pass {}) = .ok s' ∧
        ∃ sent ∈ s'.outgoingQueue.drop s.outgoingQueue.length, sent.msg.answers? = some 1 := by
    decide +kernel
  obtain ⟨s, ran, waiting, s', stepped, pushed⟩ := evaluated
  refine ⟨s, ran, s', stepped, pushed, ?_⟩
  have unstamped : ∀ event ∈ deferredOnce ++ [.pass {}], event.stamp? = none := by
    decide +kernel
  refine results_report_last_completion unstamped ?_ _ _ [] s s' rfl ran stepped
  intro before event after state split ranBefore works
  -- Only the last event works off the backlogs.
  obtain ⟨rfl, rfl, rfl⟩ : before = deferredOnce ∧ event = .pass {} ∧ after = [] := by
    match before, split with
    | [], split | [_], split | [_, _], split =>
        cases split
        cases works
    | [_, _, _], split =>
        cases split
        exact ⟨rfl, rfl, rfl⟩
    | _ :: _ :: _ :: _ :: _, split => simp [deferredOnce] at split
  rw [ran] at ranBefore
  cases ranBefore
  intro id waits
  rw [waiting, List.mem_singleton] at waits
  rw [waits]
  decide +kernel

/-- Task 1 is submitted again while its result waits.  The pass reports a failure, and the only
`COMPLETE` of the task was a success. -/
theorem resubmission_spoils_waiting_result :
    ∃ s, run (deferredOnce ++ [.submit 5 { taskId := 1, type := .wordCount } {}]) = .ok s ∧
      ∃ s', s.step (.pass {}) = .ok s' ∧
        (lastCompletion (deferredOnce ++ [.submit 5 { taskId := 1, type := .wordCount } {}] ++
          [.pass {}]) 1).map CompleteMsg.success = some 1 ∧
        ∃ sent ∈ s'.outgoingQueue.drop s.outgoingQueue.length,
          sent.msg.answers? = some 1 ∧ sent.msg.result.success = 0 := by
  decide +kernel

end Coordinator

end TaskCoordinator
