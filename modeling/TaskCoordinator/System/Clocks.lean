import TaskCoordinator.Coordinator.Answers
import TaskCoordinator.Worker.Execution

/-!
# Timestamps of different processes

A coordinator and its workers read one clock.  The coordinator stamps a task with `queued_at_`
when it is submitted, a worker takes `started_at_` and `completed_at_` when it executes the
task, and the coordinator subtracts them when the `COMPLETE` arrives.

Any assignment that has been pushed may be executed, by any thread of any worker and at any
time, and any response may be on its way for as long as it likes or get lost.  Only the readings
that the latencies are computed from have to come in the order of the steps.  The other readings
of a step of the coordinator are left open, so that a worker may read the clock between them.

A task that is submitted anew gets a new `queued_at_`, and a `COMPLETE` of its former execution
that is still on its way carries an older `completed_at_`.
-/

namespace TaskCoordinator

open Transition

/-- The latencies that are recorded for a task are its true latencies. -/
def Task.LatenciesExact (task : Task) : Prop :=
  task.queuedAt ≤ task.completedAt ∧ task.startedAt ≤ task.completedAt ∧
    ((task.completedAt - task.queuedAt).toNat : Int) =
      task.completedAt.toNat - task.queuedAt.toNat ∧
    ((task.completedAt - task.startedAt).toNat : Int) =
      task.completedAt.toNat - task.startedAt.toNat

instance (task : Task) : Decidable task.LatenciesExact :=
  inferInstanceAs (Decidable (_ ∧ _ ∧ _ ∧ _))

/-- A task that a thread of a worker executes. -/
structure Execution where
  order : AssignMsg
  startedAt : Nanoseconds
  deriving DecidableEq

/-- A coordinator with its workers: the last reading of the clock, the assignments that have
been pushed and not begun, the executions in progress, and the `COMPLETE`s on their way. -/
structure TimedSystem where
  coordinator : Coordinator
  now : Nanoseconds
  waiting : List AssignMsg
  executing : List Execution
  responses : List CompleteMsg

/-- The next step of one of the processes. -/
inductive TimedAction where
  /-- The scheduler of the coordinator handles something that does not come from a worker's
  execution of a task. -/
  | schedule (event : Event)
  /-- A worker begins with an assignment and reads the clock. -/
  | start (position : Nat) (reading : Nanoseconds)
  /-- It is done, reads the clock and sends the response. -/
  | finish (position : Nat) (reading : Nanoseconds)
  /-- The coordinator processes a response. -/
  | deliver (position : Nat) (fd : Fd) (env : Env)

/-- The reading that becomes a timestamp. -/
def TimedAction.reading? : TimedAction → Option Nanoseconds
  | .schedule (.submit _ _ env) => some env.now
  | .start _ reading | .finish _ reading => some reading
  | _ => none

/-- The coordinator has no peer, and every `COMPLETE` is the response of a worker. -/
def TimedAction.Alone : TimedAction → Prop
  | .schedule event => event.stamp? = none ∧ event.completes? = none
  | _ => True

instance : DecidablePred TimedAction.Alone
  | .schedule event => inferInstanceAs (Decidable (event.stamp? = none ∧ event.completes? = none))
  | .start .. | .finish .. | .deliver .. => isTrue trivial

namespace TimedSystem

def init : TimedSystem where
  coordinator := .init
  now := 0
  waiting := []
  executing := []
  responses := []

/-- The scheduler handles an event, and the assignments that it pushes are on their way. -/
def handle (t : TimedSystem) (event : Event) : Except Fault TimedSystem := do
  let next ← t.coordinator.step event
  .ok { t with
    coordinator := next
    waiting := t.waiting ++ (next.outgoingQueue.drop t.coordinator.outgoingQueue.length).filterMap
      fun sent => sent.msg.assign? }

/-- One step of the system.  Nothing happens at a position where there is nothing. -/
def step (t : TimedSystem) (action : TimedAction) : Except Fault TimedSystem :=
  let timed := { t with now := action.reading?.getD t.now }
  match action with
  | .schedule event => timed.handle event
  | .start position reading =>
      match t.waiting[position]? with
      | none => .ok timed
      | some order =>
          .ok { timed with
            waiting := t.waiting.eraseIdx position
            executing := t.executing ++ [{ order, startedAt := reading }] }
  | .finish position reading =>
      match t.executing[position]? with
      | none => .ok timed
      | some execution =>
          .ok { timed with
            executing := t.executing.eraseIdx position
            responses := t.responses ++
              [Worker.execute execution.order execution.startedAt reading] }
  | .deliver position fd env =>
      match t.responses[position]? with
      | none => .ok timed
      | some response =>
          handle { timed with responses := t.responses.eraseIdx position }
            (.complete fd response env)

/-- The task to which a step applies `record_completion_system` and
`record_completion_worker`. -/
def recorded? (t : TimedSystem) : TimedAction → Option Task
  | .deliver position _ _ => do
      let response ← t.responses[position]?
      let task ← t.coordinator.tasks.find? response.taskId
      pure (response.update task)
  | _ => none

/-- The clock is not set back. -/
def Monotone (t : TimedSystem) (action : TimedAction) : Prop :=
  t.now ≤ action.reading?.getD t.now

instance (t : TimedSystem) (action : TimedAction) : Decidable (t.Monotone action) :=
  inferInstanceAs (Decidable (_ ≤ _))

/-- No task is submitted later than the end of an execution of it whose `COMPLETE` is on its
way.  No execution of a task whose type has no name ends while the table has a task 0 that was
queued after time 0, since its `COMPLETE` names task 0 with all times 0. -/
def Settled (t : TimedSystem) : TimedAction → Prop
  | .schedule (.submit _ msg env) =>
      ∀ response ∈ t.responses, response.taskId = msg.taskId → env.now ≤ response.completedAt
  | .finish position _ =>
      ∀ execution ∈ t.executing[position]?, ¬ execution.order.type.Known →
        ∀ task ∈ t.coordinator.tasks.find? 0, task.queuedAt = 0
  | _ => True

instance (t : TimedSystem) : DecidablePred t.Settled
  | .schedule (.submit ..) => inferInstanceAs (Decidable (∀ _ ∈ _, _ → _))
  | .finish .. => inferInstanceAs (Decidable (∀ _ ∈ _, _ → ∀ _ ∈ _, _))
  | .schedule (.complete ..) | .schedule (.assignedReplicate ..)
  | .schedule (.completedReplicate ..) | .schedule (.snapshot ..)
  | .schedule (.peerReconnected ..) | .schedule (.topRequest ..) | .schedule (.heartbeat ..)
  | .schedule (.register ..) | .schedule (.pass ..) | .schedule (.backlog ..)
  | .schedule (.replicate ..) | .schedule (.sweep ..) | .start .. | .deliver .. => isTrue trivial

/-! ## The invariant -/

/-- Every timestamp is in the past, and no task has been queued after the end of an execution
of it whose `COMPLETE` is on its way. -/
structure Timely (t : TimedSystem) : Prop where
  queued : ∀ id task, t.coordinator.tasks.find? id = some task → task.queuedAt ≤ t.now
  begun : ∀ execution ∈ t.executing, execution.startedAt ≤ t.now
  lasted : ∀ response ∈ t.responses, response.startedAt ≤ response.completedAt
  awaited : ∀ response ∈ t.responses, ∀ task,
    t.coordinator.tasks.find? response.taskId = some task →
      task.queuedAt ≤ response.completedAt

variable {t t' : TimedSystem} {action : TimedAction} {event : Event}

theorem timely_init : init.Timely where
  queued := fun _ _ found => nomatch found
  begun := fun _ member => nomatch member
  lasted := fun _ member => nomatch member
  awaited := fun _ member => nomatch member

/-- The clock goes on. -/
theorem Timely.tick (timely : t.Timely) {reading : Nanoseconds} (later : t.now ≤ reading) :
    Timely { t with now := reading } where
  queued := fun id task found => UInt64.le_trans (timely.queued id task found) later
  begun := fun execution member => UInt64.le_trans (timely.begun execution member) later
  lasted := timely.lasted
  awaited := timely.awaited

theorem handle_eq_ok (handled : t.handle event = .ok t') :
    t.coordinator.step event = .ok t'.coordinator ∧ t'.now = t.now ∧
      t'.executing = t.executing ∧ t'.responses = t.responses := by
  obtain ⟨next, stepped, rest⟩ := bind_eq_ok.mp handled
  cases rest
  exact ⟨stepped, rfl, rfl, rfl⟩

end TimedSystem

theorem Task.queuedAt_of_job {task other : Task} (same : task.job = other.job) :
    task.queuedAt = other.queuedAt := by
  have sameTime := congrArg Task.queuedAt same
  rwa [Task.job_queuedAt, Task.job_queuedAt] at sameTime

/-- A record that is there after an event has been queued by this event or before it. -/
theorem Coordinator.queuedAt_of_step {s s' : Coordinator} {event : Event} {id : TaskId}
    {task : Task} (unstamped : event.stamp? = none) (stepped : s.step event = .ok s')
    (found : s'.tasks.find? id = some task) :
    (∃ fd msg env, event = .submit fd msg env ∧ msg.taskId = id ∧ task.queuedAt = env.now) ∨
      ∃ old, s.tasks.find? id = some old ∧ task.queuedAt = old.queuedAt := by
  obtain ⟨middle, received, moves⟩ := step_spec stepped
  obtain ⟨before, foundBefore, sameJob⟩ := records_of_moves moves found
  rw [Task.queuedAt_of_job sameJob]
  cases written_of_received unstamped received foundBefore with
  | @submitted fd msg env isSubmit same job =>
      refine .inl ⟨fd, msg, env, isSubmit, same, ?_⟩
      rw [Task.queuedAt_of_job job, SubmitMsg.task_queuedAt]
  | completed _ _ foundOld updated =>
      subst updated
      exact .inr ⟨_, foundOld, rfl⟩
  | kept _ _ foundOld job => exact .inr ⟨_, foundOld, Task.queuedAt_of_job job⟩

namespace TimedSystem

variable {t t' : TimedSystem} {action : TimedAction} {event : Event}

/-- An event of the scheduler, if a task that it queues is queued now and not after the end of
an execution whose `COMPLETE` is on its way. -/
theorem Timely.handle (timely : t.Timely) (unstamped : event.stamp? = none)
    (inTime : ∀ fd msg env, event = .submit fd msg env → env.now ≤ t.now ∧
      ∀ response ∈ t.responses, response.taskId = msg.taskId → env.now ≤ response.completedAt)
    (handled : t.handle event = .ok t') : t'.Timely := by
  obtain ⟨stepped, now, executing, responses⟩ := handle_eq_ok handled
  refine ⟨fun id task found => ?_, ?_, ?_, fun response member task found => ?_⟩
  · rw [now]
    obtain ⟨fd, msg, env, isSubmit, _, queuedNow⟩ | ⟨old, foundOld, same⟩ :=
      Coordinator.queuedAt_of_step unstamped stepped found
    · rw [queuedNow]
      exact (inTime fd msg env isSubmit).1
    · rw [same]
      exact timely.queued id old foundOld
  · rw [executing, now]
    exact timely.begun
  · rw [responses]
    exact timely.lasted
  · rw [responses] at member
    obtain ⟨fd, msg, env, isSubmit, names, queuedNow⟩ | ⟨old, foundOld, same⟩ :=
      Coordinator.queuedAt_of_step unstamped stepped found
    · rw [queuedNow]
      exact (inTime fd msg env isSubmit).2 response member names.symm
    · rw [same]
      exact timely.awaited response member old foundOld

/-- A response is sent. -/
theorem Timely.respond (timely : t.Timely) {response : CompleteMsg}
    (lasted : response.startedAt ≤ response.completedAt)
    (awaited : ∀ task, t.coordinator.tasks.find? response.taskId = some task →
      task.queuedAt ≤ response.completedAt) :
    Timely { t with responses := t.responses ++ [response] } where
  queued := timely.queued
  begun := timely.begun
  lasted := by
    rw [List.forall_mem_append, List.forall_mem_singleton]
    exact ⟨timely.lasted, lasted⟩
  awaited := by
    rw [List.forall_mem_append, List.forall_mem_singleton]
    exact ⟨timely.awaited, awaited⟩

/-- Executions and responses may disappear. -/
theorem Timely.shrink (timely : t.Timely) {executing : List Execution}
    {responses : List CompleteMsg} (fewer : executing ⊆ t.executing)
    (fewerResponses : responses ⊆ t.responses) : Timely { t with executing, responses } where
  queued := timely.queued
  begun := fun execution member => timely.begun execution (fewer member)
  lasted := fun response member => timely.lasted response (fewerResponses member)
  awaited := fun response member => timely.awaited response (fewerResponses member)

/-- A response that a worker makes at the end of an execution. -/
theorem Timely.finish (timely : t.Timely) {execution : Execution}
    (executed : execution.startedAt ≤ t.now)
    (nameless : ¬ execution.order.type.Known →
      ∀ task ∈ t.coordinator.tasks.find? 0, task.queuedAt = 0) :
    Timely { t with
      responses := t.responses ++
        [Worker.execute execution.order execution.startedAt t.now] } := by
  cases kind : execution.order.type with
  | synthetic | wordCount =>
      rw [Worker.execute, kind]
      exact timely.respond executed (fun task found => timely.queued _ task found)
  | other byte unnamed =>
      rw [Worker.execute, kind]
      rw [kind] at nameless
      refine timely.respond (UInt64.le_refl 0) (fun task found => ?_)
      rw [nameless id task found]
      exact UInt64.le_refl 0

/-- Every step that meets the conditions keeps the invariant. -/
theorem timely_preserved :
    Preserves step (fun t action => action.Alone ∧ t.Monotone action ∧ t.Settled action)
      Timely := by
  rintro t action t' timely ⟨alone, monotone, settled⟩ stepped
  have ticked := timely.tick monotone
  cases action with
  | schedule event =>
      refine ticked.handle alone.1 (fun fd msg env isSubmit => ?_) stepped
      subst isSubmit
      exact ⟨UInt64.le_refl _, settled⟩
  | start position reading =>
      simp only [step] at stepped
      split at stepped
      next =>
        cases stepped
        exact ticked
      next order found =>
        cases stepped
        refine ⟨ticked.queued, ?_, ticked.lasted, ticked.awaited⟩
        rw [List.forall_mem_append, List.forall_mem_singleton]
        exact ⟨ticked.begun, UInt64.le_refl _⟩
  | finish position reading =>
      simp only [step] at stepped
      split at stepped
      next =>
        cases stepped
        exact ticked
      next execution found =>
        cases stepped
        have begun := ticked.begun execution (List.mem_of_getElem? found)
        have finished := ticked.finish begun (settled execution found)
        exact finished.shrink (List.eraseIdx_subset) (List.Subset.refl _)
  | deliver position fd env =>
      simp only [step] at stepped
      split at stepped
      next =>
        cases stepped
        exact ticked
      next response found =>
        have received := ticked.shrink (List.Subset.refl _)
          (List.eraseIdx_subset (l := t.responses) (k := position))
        refine received.handle rfl (fun _ _ _ isSubmit => ?_) stepped
        cases isSubmit

/-- The latencies of a task whose timestamps are in order. -/
theorem latenciesExact_of_le {task : Task} (queued : task.queuedAt ≤ task.completedAt)
    (started : task.startedAt ≤ task.completedAt) : task.LatenciesExact := by
  refine ⟨queued, started, ?_, ?_⟩
  · rw [UInt64.toNat_sub_of_le _ _ queued]
    exact Nat.cast_sub (UInt64.le_iff_toNat_le.mp queued)
  · rw [UInt64.toNat_sub_of_le _ _ started]
    exact Nat.cast_sub (UInt64.le_iff_toNat_le.mp started)

theorem Timely.recorded (timely : t.Timely) {task : Task}
    (recorded : t.recorded? action = some task) : task.LatenciesExact := by
  cases action with
  | schedule | start | finish => cases recorded
  | deliver position fd env =>
      simp only [recorded?, Option.bind_eq_bind, Option.bind_eq_some_iff, Option.pure_def,
        Option.some.injEq] at recorded
      obtain ⟨response, found, old, foundOld, rfl⟩ := recorded
      have member := List.mem_of_getElem? found
      exact latenciesExact_of_le (timely.awaited response member old foundOld)
        (timely.lasted response member)

/-- A coordinator and its workers over one clock: in every run in which no task is submitted
while the `COMPLETE` of an execution that has ended earlier is on its way, and in which no task
without a named type ends while there is a task 0, every latency recorded is the true one. -/
theorem latencies_never_wrap {actions : List TimedAction}
    (alone : ∀ action ∈ actions, action.Alone) (monotone : Along step Monotone init actions)
    (settled : Along step Settled init actions) :
    Along step (fun t action => ∀ task, t.recorded? action = some task → task.LatenciesExact)
      init actions :=
  timely_preserved.along timely_init ((along_of_forall alone).and (monotone.and settled))
    fun _ _ timely _ _ recorded => timely.recorded recorded

/-- Task 1 is submitted, assigned and executed.  Its `COMPLETE` is on its way. -/
def executed : List TimedAction :=
  [.schedule (.register 5 { clock := [1, 1] }),
    .schedule (.submit 8 { taskId := 1, clientId := 1 } { clock := [2, 2] }),
    .start 0 2, .finish 0 3]

/-- The `COMPLETE` arrives. -/
theorem latencies_exact_after_execution :
    Along step (fun t action => ∀ task, t.recorded? action = some task → task.LatenciesExact)
      init (executed ++ [.deliver 0 5 {}]) ∧
    ∃ t, run step init executed = .ok t ∧
      (t.recorded? (.deliver 0 5 {})).map (fun task => task.completedAt - task.queuedAt) =
        some 1 := by
  refine ⟨latencies_never_wrap ?_ ?_ ?_, ?_⟩
  · decide
  · decide +kernel
  · decide +kernel
  · decide +kernel

/-- While it is on its way the client submits task 1 again.  The completion is recorded with
the new `queued_at_` 10 and the old `completed_at_` 3. -/
theorem resubmission_wraps_latency :
    let actions := executed ++
      [.schedule (.submit 8 { taskId := 1, clientId := 1 } { clock := [10, 10] })]
    (∀ action ∈ actions, action.Alone) ∧ Along step Monotone init actions ∧
    ∃ t, run step init actions = .ok t ∧
      (∃ task, t.recorded? (.deliver 0 5 {}) = some task ∧ ¬ task.LatenciesExact) ∧
      ∃ t', t.step (.deliver 0 5 {}) = .ok t' ∧
        t'.coordinator.metrics.maxLatencyNs = 18446744073709551609 := by
  decide +kernel

end TimedSystem

end TaskCoordinator
