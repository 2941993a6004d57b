import TaskCoordinator.Coordinator.RunningSets
import TaskCoordinator.Serialization.Bodies
import TaskCoordinator.Worker.Execution

/-!
# Interference between tasks

A client's task goes through four encodings: the `SUBMIT` is decoded by the coordinator, the
`ASSIGN` made of it is encoded there and decoded by the worker, and the `COMPLETE` takes the
way back.  The byte that gives the type of the task is not checked on the way.

The switch of `execution_worker` does nothing for a type without a name, and the response it
sends is the one it has initialised, with task id 0.  The coordinator takes it for the
completion of task 0.  A response to a task of a known type names the task, and processing it
leaves every other task alone.
-/

namespace TaskCoordinator

open Wire Serialization Transition

/-- The completion that the coordinator reads after it has made an `ASSIGN` of a `SUBMIT` and
a worker has executed the task that it has read from this `ASSIGN`. -/
def SubmitMsg.relay (msg : SubmitMsg) (s : Coordinator)
    (now startedAt completedAt : Nanoseconds) : Option CompleteMsg := do
  let order ← (s.assignMessage (msg.task now)).assign?
  let (task, _) ← AssignMsg.deserialize.run order.serialize
  let (complete, _) ←
    CompleteMsg.deserialize.run (Worker.execute task startedAt completedAt).serialize
  pure complete

namespace Coordinator

variable {s s' : Coordinator} {event : Event} {id : TaskId}

/-- The `RESULT`s for a task that have been pushed. -/
def resultsFor (s : Coordinator) (id : TaskId) : List OutgoingEvent :=
  s.outgoingQueue.filter fun sent => sent.msg.answers? = some id

/-- The record of a task, its places in the running sets, the results sent for it and those
waiting to be sent are the same in both states. -/
structure Untouched (id : TaskId) (s s' : Coordinator) : Prop where
  record : s'.tasks.find? id = s.tasks.find? id
  slots : ∀ worker, s'.Runs worker id ↔ s.Runs worker id
  results : s'.resultsFor id = s.resultsFor id
  waiting : s'.completedBacklog.count id = s.completedBacklog.count id

theorem Untouched.trans {middle : Coordinator} (first : Untouched id s middle)
    (second : Untouched id middle s') : Untouched id s s' where
  record := second.record.trans first.record
  slots := fun worker => (second.slots worker).trans (first.slots worker)
  results := second.results.trans first.results
  waiting := second.waiting.trans first.waiting

/-- A message that does not answer the task is pushed. -/
theorem resultsFor_push {sent : OutgoingEvent}
    (pushed : s'.outgoingQueue = s.outgoingQueue ++ [sent])
    (others : sent.msg.answers? ≠ some id) : s'.resultsFor id = s.resultsFor id := by
  simp [resultsFor, pushed, others]

/-- What a `COMPLETE` does to the coordinator leaves every other task alone. -/
theorem untouched_received {fd : Fd} {msg : CompleteMsg} {env : Env} (different : id ≠ msg.taskId)
    (received : Received s (.complete fd msg env) s') : Untouched id s s' := by
  cases received with
  | completeUnknown => exact ⟨rfl, fun _ => Iff.rfl, rfl, rfl⟩
  | @completeAnswered _ _ _ task _ found held =>
      have sameId := TaskTable.id_of_find? found
      refine ⟨?_, fun worker => ?_, ?_, rfl⟩
      · simp [TaskTable.find?_set, sameId, different]
      · change (s.finish msg task).Runs worker id ↔ _
        simp [runs_finish, sameId, different]
      · refine resultsFor_push (s := s) rfl ?_
        simpa [sameId] using Ne.symm different
  | @completeDeferred _ _ _ task _ found held refused =>
      have sameId := TaskTable.id_of_find? found
      refine ⟨?_, fun worker => ?_, rfl, ?_⟩
      · simp [TaskTable.find?_set, sameId, different]
      · change (s.finish msg task).Runs worker id ↔ _
        simp [runs_finish, sameId, different]
      · simp [sameId, Ne.symm different]

/-- So do the messages of the log that are pushed afterwards. -/
theorem untouched_moves (logPrivate : s.LogPrivate) (notDrains : ¬ event.Drains)
    (notSweeps : ¬ event.Sweeps) (moves : Moves event s s') : Untouched id s s' := by
  have kept : ∀ first second, Move event first second →
      first.LogPrivate ∧ Untouched id s first → second.LogPrivate ∧ Untouched id s second := by
    intro first second move before
    refine ⟨before.1.move move, before.2.trans ?_⟩
    cases move with
    | replicated =>
        refine ⟨rfl, fun _ => Iff.rfl, resultsFor_push (s := first) rfl ?_, rfl⟩
        simp [before.1.head.2.1]
    | dropped drains | answered drains | assigned _ drains => exact absurd drains notDrains
    | died sweeps => exact absurd sweeps notSweeps
  have unchanged : Untouched id s s := ⟨rfl, fun _ => Iff.rfl, rfl, rfl⟩
  exact (kept_of_moves kept moves ⟨logPrivate, unchanged⟩).2

/-- Processing a `COMPLETE` leaves every task alone that it does not name. -/
theorem untouched_complete (logPrivate : s.LogPrivate) {fd : Fd} {msg : CompleteMsg} {env : Env}
    (different : id ≠ msg.taskId) (stepped : s.step (.complete fd msg env) = .ok s') :
    Untouched id s s' := by
  obtain ⟨middle, received, moves⟩ := step_spec stepped
  have notDrains : ¬ (Event.complete fd msg env).Drains := fun drains => drains
  have notSweeps : ¬ (Event.complete fd msg env).Sweeps := fun sweeps => sweeps
  exact (untouched_received different received).trans
    (untouched_moves (logPrivate.received received) notDrains notSweeps moves)

/-! ## The way of a task -/

/-- The `ASSIGN` made of a `SUBMIT` that has been decoded has the id and the type of it, and it
is read back as it was written. -/
theorem assignment_read_back {msg : SubmitMsg}
    (payload : PayloadOnly msg.type msg.durationUs msg.words) (now : Nanoseconds) :
    ∃ order : AssignMsg, (s.assignMessage (msg.task now)).assign? = some order ∧
      order.taskId = msg.taskId ∧ order.type = msg.type ∧
      AssignMsg.deserialize.run order.serialize = some (order, []) := by
  have readBack : ∀ order : AssignMsg, PayloadOnly order.type order.durationUs order.words →
      AssignMsg.deserialize.run order.serialize = some (order, []) := by
    intro order isPayload
    simpa using AssignMsg.reads.run_encode isPayload []
  obtain ⟨taskId, clientId, durationUs, type, words⟩ := msg
  cases type with
  | synthetic => exact ⟨_, rfl, rfl, rfl, readBack _ (.ofOther nofun)⟩
  | wordCount => exact ⟨_, rfl, rfl, rfl, readBack _ (.ofText rfl (payload.1 rfl).2)⟩
  | other byte unnamed => exact ⟨_, rfl, rfl, rfl, readBack _ (.ofOther nofun)⟩

/-- What comes back is the response to a task with the id and the type of the `SUBMIT`. -/
theorem relay_eq_some {msg : SubmitMsg}
    (payload : PayloadOnly msg.type msg.durationUs msg.words)
    (now startedAt completedAt : Nanoseconds) :
    ∃ task : AssignMsg, task.taskId = msg.taskId ∧ task.type = msg.type ∧
      msg.relay s now startedAt completedAt =
        some (Worker.execute task startedAt completedAt) := by
  obtain ⟨order, assigned, sameId, sameType, read⟩ := assignment_read_back (s := s) payload now
  have answered : CompleteMsg.deserialize.run
      ((Worker.execute order startedAt completedAt).serialize ++ []) =
        some (Worker.execute order startedAt completedAt, []) :=
    CompleteMsg.reads.run_encode trivial []
  rw [List.append_nil] at answered
  refine ⟨order, sameId, sameType, ?_⟩
  simp [SubmitMsg.relay, assigned, read, answered]

/-- The response names the task exactly if its type is known, or if it is task 0. -/
theorem execute_taskId_iff (task : AssignMsg) (startedAt completedAt : Nanoseconds) :
    (Worker.execute task startedAt completedAt).taskId = task.taskId ↔
      task.type.Known ∨ task.taskId = 0 := by
  cases kind : task.type with
  | synthetic => simp [Worker.execute, kind, Worker.executeSynthetic, TaskType.Known]
  | wordCount => simp [Worker.execute, kind, Worker.executeWordCount, TaskType.Known]
  | other byte unnamed => simp [Worker.execute, kind, TaskType.Known, eq_comm]

/-- A `SUBMIT` that has been decoded, in whatever state its `ASSIGN` is made and in whatever
state the completion is processed: the completion names the task and the processing leaves
every other task alone if and only if the type of the task is known or its id is 0. -/
theorem tasks_do_not_interfere_iff {input rest : Bytes} {msg : SubmitMsg}
    (decoded : SubmitMsg.deserialize.run input = some (msg, rest)) {events : List Event}
    (reached : run events = .ok s) (origin : Coordinator)
    (now startedAt completedAt : Nanoseconds) (fd : Fd) (env : Env) :
    (∃ complete, msg.relay origin now startedAt completedAt = some complete ∧
      complete.taskId = msg.taskId ∧
      ∀ next, s.step (.complete fd complete env) = .ok next →
        ∀ other, other ≠ msg.taskId → Untouched other s next) ↔
      msg.type.Known ∨ msg.taskId = 0 := by
  have payload := ((SubmitMsg.reads _ _ _).mp decoded).1
  obtain ⟨task, sameId, sameType, relayed⟩ :=
    relay_eq_some (s := origin) payload now startedAt completedAt
  rw [relayed, ← sameType, ← sameId, ← execute_taskId_iff task startedAt completedAt]
  constructor
  · rintro ⟨complete, isComplete, names, _⟩
    cases isComplete
    exact names
  · intro names
    refine ⟨_, rfl, names, fun next stepped other different => ?_⟩
    rw [← names] at different
    exact untouched_complete (logPrivate_of_run reached) different stepped

/-- A `SUBMIT` of task 7 with a type byte that has no name. -/
def unnamedSubmit : SubmitMsg :=
  { taskId := 7, clientId := 2, type := .other 2 (by decide) }

/-- A worker runs task 0 and task 7. -/
def twoRunning : List Event :=
  [.register 5 {}, .submit 8 { taskId := 0, clientId := 1 } {}, .submit 9 unnamedSubmit {}]

/-- In this state, a task with the id 7 and a known type does not interfere. -/
theorem known_type_does_not_interfere :
    let msg : SubmitMsg := { taskId := 7, type := .synthetic }
    ∃ complete, msg.relay init 0 1 2 = some complete ∧ complete.taskId = 7 ∧
      ∃ s, run twoRunning = .ok s ∧ ∀ next, s.step (.complete 5 complete {}) = .ok next →
        ∀ other, other ≠ 7 → Untouched other s next := by
  intro msg
  have reached : ∃ s, run twoRunning = .ok s ∧ s.isPrimary = true := by decide +kernel
  obtain ⟨s, reached, _⟩ := reached
  have decoded : SubmitMsg.deserialize.run msg.serialize = some (msg, []) := by decide +kernel
  obtain ⟨complete, relayed, names, others⟩ :=
    (tasks_do_not_interfere_iff decoded reached init 0 1 2 5 {}).mpr (.inl trivial)
  exact ⟨complete, relayed, names, s, reached, others⟩

/-- The bytes are accepted as the `SUBMIT` of task 7.  The completion that comes back names
task 0, which is completed by it although its worker still executes it: it leaves the running
set, its record changes and its client is told that it has failed. -/
theorem unnamed_type_completes_other_task :
    SubmitMsg.deserialize.run [0, 0, 0, 0, 0, 0, 0, 7, 0, 0, 0, 2, 2, 0, 0, 0, 0] =
      some (unnamedSubmit, []) ∧
    ∃ complete, unnamedSubmit.relay init 0 1 2 = some complete ∧ complete.taskId = 0 ∧
      ∃ s, run twoRunning = .ok s ∧ s.RunningOn 0 0 ∧ s.Runs 0 0 ∧ (s.resultsFor 0).length = 0 ∧
        ∃ next, s.step (.complete 5 complete {}) = .ok next ∧ ¬ next.RunningOn 0 0 ∧
          ¬ next.Runs 0 0 ∧ (next.resultsFor 0).map (fun sent => (sent.fd, sent.msg.result)) =
            [(8, { taskId := 0, success := 0 })] := by
  refine ⟨by decide +kernel, { taskId := 0 }, by decide +kernel, rfl, ?_⟩
  decide +kernel

end Coordinator

end TaskCoordinator
