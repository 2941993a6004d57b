import TaskCoordinator.Coordinator.Working
import TaskCoordinator.System.Clocks

/-!
# Every task completes

A coordinator and its workers, as in `Clocks`: the workers execute what they have been assigned,
their responses are delivered, and the scheduler makes its backlog passes.  Nothing else is needed
to complete every task that has been submitted.

A step of this kind that finds something to do lowers the amount of work that is left, so that
there is no infinite sequence of such steps.  And if none of them finds anything to do while a
worker is active, every task has completed and every result has been sent.

The running sets have to be exact for this, since a slot that is never released could leave no
room for the tasks that wait.
-/

namespace TaskCoordinator

open Transition

namespace TimedSystem

variable {t t' : TimedSystem} {action : TimedAction} {event : Event}

/-- The tasks of what is on its way to a worker, in its hands, or on its way back. -/
def transit (t : TimedSystem) : List TaskId :=
  t.waiting.map AssignMsg.taskId ++ t.executing.map (fun execution => execution.order.taskId) ++
    t.responses.map CompleteMsg.taskId

/-- The amount of work that is left. -/
def work (t : TimedSystem) : Nat :=
  5 * t.coordinator.queuedBacklog.length + t.coordinator.completedBacklog.length +
    4 * t.waiting.length + 3 * t.executing.length + 2 * t.responses.length

/-- Clients submit tasks of known types, and none that runs or waits.  Heartbeats come from live
workers, and every `COMPLETE` is the response of a worker. -/
def Regular (t : TimedSystem) : TimedAction → Prop
  | .schedule event => t.coordinator.Behaves event ∧ event.completes? = none
  | .start .. | .finish .. | .deliver .. => True

instance (t : TimedSystem) : DecidablePred t.Regular
  | .schedule (.submit fd msg env) =>
      decidable_of_iff (t.coordinator.Unscheduled (.submit fd msg env) ∧ msg.type.Known)
        ⟨fun given => ⟨⟨trivial, given.1, given.2⟩, rfl⟩, fun regular => regular.1.2⟩
  | .schedule (.heartbeat worker _) =>
      decidable_of_iff (t.coordinator.Alive worker)
        ⟨fun alive => ⟨⟨alive, trivial, trivial⟩, rfl⟩, fun regular => regular.1.1⟩
  | .schedule (.complete ..) => isFalse fun regular => nomatch regular.2
  | .schedule (.register ..) | .schedule (.pass _) | .schedule (.backlog _)
  | .schedule (.replicate _) | .schedule (.sweep _) => isTrue ⟨⟨trivial, trivial, trivial⟩, rfl⟩
  | .schedule (.assignedReplicate ..) | .schedule (.completedReplicate _)
  | .schedule (.snapshot ..) | .schedule (.peerReconnected _) | .schedule (.topRequest ..) =>
      isFalse fun regular => regular.1.1
  | .start .. | .finish .. | .deliver .. => isTrue trivial

/-- A step of a worker, a delivery or a backlog pass that finds something to do. -/
def Useful (t : TimedSystem) : TimedAction → Prop
  | .schedule (.pass env) => env.Accepting ∧ (t.coordinator.completedBacklog ≠ [] ∨
      t.coordinator.queuedBacklog ≠ [] ∧
        ∃ worker ∈ t.coordinator.activeWorkers, t.coordinator.hasRoom worker = true)
  | .schedule _ => False
  | .start position _ => position < t.waiting.length
  | .finish position _ => position < t.executing.length
  | .deliver position _ _ => position < t.responses.length

/-- An assignment that the coordinator has made. -/
structure Ordered (s : Coordinator) (order : AssignMsg) : Prop where
  asked : Asked SubmitMsg.HasKnownType order.taskId order.type order.words
  assigned : s.Assigned order.taskId

/-- Everything that is under way has been assigned. -/
structure InOrder (t : TimedSystem) : Prop where
  working : t.coordinator.Working
  waiting : ∀ order ∈ t.waiting, Ordered t.coordinator order
  executing : ∀ execution ∈ t.executing, Ordered t.coordinator execution.order
  responses : ∀ response ∈ t.responses, t.coordinator.Assigned response.taskId ∧
    Computed SubmitMsg.HasKnownType response.taskId response.success response.result

/-- And every task that runs is under way. -/
structure Live (t : TimedSystem) : Prop extends InOrder t where
  underWay : ∀ worker id, t.coordinator.Runs worker id → id ∈ t.transit

theorem live_init : init.Live where
  working := Coordinator.working_init
  waiting := fun _ member => nomatch member
  executing := fun _ member => nomatch member
  responses := fun _ member => nomatch member
  underWay := by
    rintro worker id ⟨state, held, _⟩
    cases held

theorem mem_transit {id : TaskId} :
    id ∈ t.transit ↔ (∃ order ∈ t.waiting, order.taskId = id) ∨
      (∃ execution ∈ t.executing, execution.order.taskId = id) ∨
      ∃ response ∈ t.responses, response.taskId = id := by
  simp [transit]

/-- What is not at a position stays when this is erased. -/
theorem eq_or_mem_eraseIdx {α : Type} {items : List α} {position : Nat} {found item : α}
    (isThere : items[position]? = some found) (member : item ∈ items) :
    item = found ∨ item ∈ items.eraseIdx position := by
  obtain ⟨index, isItem⟩ := List.mem_iff_getElem?.mp member
  by_cases same : index = position
  · subst index
    rw [isThere] at isItem
    exact .inl (Option.some.inj isItem).symm
  · exact .inr (List.mem_eraseIdx_iff_getElem?.mpr ⟨index, same, isItem⟩)

/-! ### Events of the coordinator -/

/-- What handling an event does to the assignments that wait. -/
theorem handle_spec (handled : t.handle event = .ok t') :
    ∃ next pushed, t.coordinator.step event = .ok next ∧
      next.outgoingQueue = t.coordinator.outgoingQueue ++ pushed ∧
      (∀ worker id, next.Runs worker id → t.coordinator.Runs worker id ∨
        ∃ out ∈ pushed, out.msg.assigns? = some id) ∧
      t' = { t with
        coordinator := next
        waiting := t.waiting ++ pushed.filterMap fun sent => sent.msg.assign? } := by
  obtain ⟨next, stepped, done⟩ := bind_eq_ok.mp handled
  obtain ⟨pushed, queue, runs⟩ := Coordinator.hands_of_step stepped
  rw [queue, List.drop_left] at done
  exact ⟨next, pushed, stepped, queue, runs, (Except.ok.inj done).symm⟩

theorem InOrder.handle (inOrder : t.InOrder) (behaves : t.coordinator.Behaves event)
    (handled : t.handle event = .ok t') : t'.InOrder := by
  obtain ⟨next, pushed, stepped, queue, _, rfl⟩ := handle_spec handled
  have working := Coordinator.working_preserved _ event next inOrder.working behaves stepped
  have stillAssigned : ∀ id, t.coordinator.Assigned id → next.Assigned id := by
    rintro id ⟨sent, member, assigns⟩
    exact ⟨sent, queue ▸ List.mem_append_left _ member, assigns⟩
  refine
    { working
      waiting := ?_
      executing := fun execution member =>
        ⟨(inOrder.executing execution member).asked,
          stillAssigned _ (inOrder.executing execution member).assigned⟩
      responses := fun response member =>
        (inOrder.responses response member).imp_left (stillAssigned response.taskId) }
  intro order member
  obtain before | isNew := List.mem_append.mp member
  · exact ⟨(inOrder.waiting order before).asked,
      stillAssigned _ (inOrder.waiting order before).assigned⟩
  · obtain ⟨sent, sentNow, carries⟩ := List.mem_filterMap.mp isNew
    have inQueue : sent ∈ next.outgoingQueue := queue ▸ List.mem_append_right _ sentNow
    refine ⟨?_, sent, inQueue, ?_⟩
    · exact (working.genuine.sent sent inQueue).asked carries
    · rw [Message.assigns?_eq_map_assign?, carries]
      rfl

/-- A task that runs after an event ran before it or has been assigned by it. -/
theorem underWay_of_handle (handled : t.handle event = .ok t') {worker : WorkerId} {id : TaskId}
    (runs : t'.coordinator.Runs worker id) :
    t.coordinator.Runs worker id ∨ id ∈ t'.transit := by
  obtain ⟨next, pushed, _, _, hands, rfl⟩ := handle_spec handled
  obtain before | ⟨out, member, assigns⟩ := hands worker id runs
  · exact .inl before
  · refine .inr (mem_transit.mpr (.inl ?_))
    rw [Message.assigns?_eq_map_assign?] at assigns
    obtain ⟨order, carries, isId⟩ := Option.map_eq_some_iff.mp assigns
    exact ⟨order, List.mem_append_right _ (List.mem_filterMap.mpr ⟨out, member, carries⟩), isId⟩

theorem transit_of_handle (handled : t.handle event = .ok t') {id : TaskId}
    (member : id ∈ t.transit) : id ∈ t'.transit := by
  obtain ⟨next, pushed, _, _, _, rfl⟩ := handle_spec handled
  rw [mem_transit] at member ⊢
  refine member.imp_left fun ⟨order, waits, isId⟩ => ?_
  exact ⟨order, List.mem_append_left _ waits, isId⟩

theorem Live.handle (live : t.Live) (behaves : t.coordinator.Behaves event)
    (handled : t.handle event = .ok t') : t'.Live where
  toInOrder := live.toInOrder.handle behaves handled
  underWay := by
    intro worker id runs
    obtain before | isNew := underWay_of_handle handled runs
    · exact transit_of_handle handled (live.underWay worker id before)
    · exact isNew

/-! ### Workers and responses -/

/-- A worker begins with an assignment. -/
theorem Live.start (live : t.Live) {position : Nat} {order : AssignMsg}
    (found : t.waiting[position]? = some order) (startedAt : Nanoseconds) :
    Live { t with
      waiting := t.waiting.eraseIdx position
      executing := t.executing ++ [{ order, startedAt }] } := by
  have ordered := live.waiting order (List.mem_of_getElem? found)
  refine
    { working := live.working
      waiting := fun other member => live.waiting other (List.mem_of_mem_eraseIdx member)
      executing := ?_
      responses := live.responses
      underWay := fun worker id runs => ?_ }
  · rw [List.forall_mem_append, List.forall_mem_singleton]
    exact ⟨live.executing, ordered⟩
  · have before := live.underWay worker id runs
    rw [mem_transit] at before ⊢
    obtain ⟨other, waits, isId⟩ | ⟨execution, executes, isId⟩ | answered := before
    · obtain rfl | stillWaits := eq_or_mem_eraseIdx found waits
      · exact .inr (.inl ⟨{ order := other, startedAt }, by simp, isId⟩)
      · exact .inl ⟨other, stillWaits, isId⟩
    · exact .inr (.inl ⟨execution, List.mem_append_left _ executes, isId⟩)
    · exact .inr (.inr answered)

/-- A worker is done with an assignment. -/
theorem Live.finish (live : t.Live) {position : Nat} {execution : Execution}
    (found : t.executing[position]? = some execution) (completedAt : Nanoseconds) :
    Live { t with
      executing := t.executing.eraseIdx position
      responses := t.responses ++
        [Worker.execute execution.order execution.startedAt completedAt] } := by
  have ordered := live.executing execution (List.mem_of_getElem? found)
  have sameTask := Worker.execute_taskId ordered.asked.known execution.startedAt completedAt
  refine
    { working := live.working
      waiting := live.waiting
      executing := fun other member => live.executing other (List.mem_of_mem_eraseIdx member)
      responses := ?_
      underWay := fun worker id runs => ?_ }
  · rw [List.forall_mem_append, List.forall_mem_singleton]
    refine ⟨live.responses, sameTask.symm ▸ ordered.assigned, ?_⟩
    exact ordered.asked.computed execution.startedAt completedAt
  · have before := live.underWay worker id runs
    rw [mem_transit] at before ⊢
    obtain waits | ⟨other, executes, isId⟩ | ⟨response, answered, isId⟩ := before
    · exact .inl waits
    · obtain rfl | stillExecutes := eq_or_mem_eraseIdx found executes
      · exact .inr (.inr ⟨_, List.mem_append_right _ (List.mem_singleton_self _),
          sameTask.trans isId⟩)
      · exact .inr (.inl ⟨other, stillExecutes, isId⟩)
    · exact .inr (.inr ⟨response, List.mem_append_left _ answered, isId⟩)

/-- A response is delivered.  Its task runs no more. -/
theorem Live.deliver (live : t.Live) {position : Nat} {response : CompleteMsg} {fd : Fd} {env : Env}
    (found : t.responses[position]? = some response)
    (handled : TimedSystem.handle { t with responses := t.responses.eraseIdx position }
      (.complete fd response env) = .ok t') : t'.Live := by
  obtain ⟨assigned, computed⟩ := live.responses response (List.mem_of_getElem? found)
  have inOrder : InOrder { t with responses := t.responses.eraseIdx position } :=
    { live.toInOrder with
      responses := fun other member => live.responses other (List.mem_of_mem_eraseIdx member) }
  have behaves : t.coordinator.Behaves (.complete fd response env) := ⟨assigned, trivial, computed⟩
  have inOrderAfter := inOrder.handle behaves handled
  refine { inOrderAfter with underWay := fun worker id runs => ?_ }
  obtain ⟨next, _, stepped, _, _, isNext⟩ := handle_spec handled
  have completes := Coordinator.completes_of_step live.working.sound.logPrivate stepped
  have running : t'.coordinator.Running id :=
    ((inOrderAfter.working.exact.runs_iff worker id).mp runs).running
  have different : response.taskId ≠ id := by
    rintro rfl
    rw [isNext] at running
    exact completes.notRunning running
  obtain before | isNew := underWay_of_handle handled runs
  · refine transit_of_handle handled ?_
    have wasUnderWay := live.underWay worker id before
    rw [mem_transit] at wasUnderWay ⊢
    refine wasUnderWay.imp_right (Or.imp_right fun ⟨other, answered, isId⟩ => ?_)
    obtain rfl | stillAnswered := eq_or_mem_eraseIdx found answered
    · exact absurd isId different
    · exact ⟨other, stillAnswered, isId⟩
  · exact isNew

theorem Live.tick (live : t.Live) (now : Nanoseconds) : Live { t with now } :=
  { live with }

theorem live_preserved : Preserves step Regular Live := by
  intro t action t' live regular stepped
  have ticked := live.tick (action.reading?.getD t.now)
  cases action with
  | schedule event => exact ticked.handle regular.1 stepped
  | start position reading =>
      simp only [step] at stepped
      split at stepped
      next =>
        cases stepped
        exact ticked
      next order found =>
        cases stepped
        exact ticked.start found reading
  | finish position reading =>
      simp only [step] at stepped
      split at stepped
      next =>
        cases stepped
        exact ticked
      next execution found =>
        cases stepped
        exact ticked.finish found reading
  | deliver position fd env =>
      simp only [step] at stepped
      split at stepped
      next =>
        cases stepped
        exact ticked
      next response found => exact ticked.deliver found stepped

theorem handle_ok (working : t.coordinator.Working) (behaves : t.coordinator.Behaves event) :
    ∃ t', t.handle event = .ok t' := by
  obtain ⟨next, stepped⟩ := Coordinator.working_progresses _ event working behaves
  exact ⟨_, bind_eq_ok.mpr ⟨next, stepped, rfl⟩⟩

theorem live_progresses : Progresses step Regular Live := by
  intro t action live regular
  cases action with
  | schedule event => exact handle_ok live.working regular.1
  | start position reading =>
      simp only [step]
      split <;> exact ⟨_, rfl⟩
  | finish position reading =>
      simp only [step]
      split <;> exact ⟨_, rfl⟩
  | deliver position fd env =>
      simp only [step]
      split
      next => exact ⟨_, rfl⟩
      next response found =>
        obtain ⟨assigned, computed⟩ := live.responses response (List.mem_of_getElem? found)
        have behaves : t.coordinator.Behaves (.complete fd response env) :=
          ⟨assigned, trivial, computed⟩
        exact handle_ok live.working behaves

/-! ## Useful steps -/

theorem regular_of_useful (useful : t.Useful action) : t.Regular action := by
  cases action with
  | schedule event =>
      cases event with
      | pass env => exact ⟨⟨trivial, trivial, trivial⟩, rfl⟩
      | _ => cases useful
  | start | finish | deliver => trivial

/-- Handling an event changes the work by as much as it changes the potential. -/
theorem work_of_handle (handled : t.handle event = .ok t') :
    t'.work + t.coordinator.potential = t.work + t'.coordinator.potential := by
  obtain ⟨next, pushed, _, queue, _, rfl⟩ := handle_spec handled
  simp only [work, Coordinator.potential, Coordinator.pushedOrders, queue, List.filterMap_append,
    List.length_append]
  omega

theorem length_eraseIdx_succ {α : Type} {items : List α} {position : Nat} {found : α}
    (isThere : items[position]? = some found) :
    (items.eraseIdx position).length + 1 = items.length := by
  obtain ⟨inside, _⟩ := List.getElem?_eq_some_iff.mp isThere
  exact List.length_eraseIdx_add_one inside

/-- A useful step leaves less work. -/
theorem work_decreases (live : t.Live) (useful : t.Useful action)
    (stepped : t.step action = .ok t') : t'.work < t.work := by
  cases action with
  | schedule event =>
      cases event with
      | pass env =>
          obtain ⟨accepting, due⟩ := useful
          have changes := work_of_handle stepped
          obtain ⟨next, _, handled, _, _, rfl⟩ := handle_spec stepped
          have isPrimary := live.working.isPrimary (due.imp_right And.left)
          have lowered := Coordinator.pass_lowers_potential live.working.sound live.working.pool
            isPrimary accepting due handled
          simp only [work] at changes ⊢
          omega
      | _ => cases useful
  | start position reading =>
      obtain ⟨order, found⟩ : ∃ order, t.waiting[position]? = some order :=
        ⟨_, List.getElem?_eq_getElem useful⟩
      simp only [step, found] at stepped
      cases stepped
      have shorter := length_eraseIdx_succ found
      simp only [work, List.length_append, List.length_singleton]
      omega
  | finish position reading =>
      obtain ⟨execution, found⟩ : ∃ execution, t.executing[position]? = some execution :=
        ⟨_, List.getElem?_eq_getElem useful⟩
      simp only [step, found] at stepped
      cases stepped
      have shorter := length_eraseIdx_succ found
      simp only [work, List.length_append, List.length_singleton]
      omega
  | deliver position fd env =>
      obtain ⟨response, found⟩ : ∃ response, t.responses[position]? = some response :=
        ⟨_, List.getElem?_eq_getElem useful⟩
      simp only [step, found] at stepped
      have changes := work_of_handle stepped
      obtain ⟨next, _, handled, _, _, rfl⟩ := handle_spec stepped
      have completes := Coordinator.completes_of_step live.working.sound.logPrivate handled
      have shorter := length_eraseIdx_succ found
      have queued := congrArg List.length completes.queued
      have completed := completes.completed
      have orders := completes.orders
      simp only [work, Coordinator.potential] at changes ⊢
      omega

/-- Useful steps leave the active workers alone. -/
theorem active_of_useful (live : t.Live) (useful : t.Useful action)
    (stepped : t.step action = .ok t') :
    t'.coordinator.activeWorkers = t.coordinator.activeWorkers := by
  cases action with
  | schedule event =>
      cases event with
      | pass env =>
          obtain ⟨next, _, handled, _, _, rfl⟩ := handle_spec stepped
          exact Coordinator.activeWorkers_of_pass handled
      | _ => cases useful
  | start position reading | finish position reading =>
      simp only [step] at stepped
      split at stepped <;> cases stepped <;> rfl
  | deliver position fd env =>
      simp only [step] at stepped
      split at stepped
      next =>
        cases stepped
        rfl
      next =>
        obtain ⟨next, _, handled, _, _, rfl⟩ := handle_spec stepped
        exact (Coordinator.completes_of_step live.working.sound.logPrivate handled).active

/-- Nothing useful can be done, and a worker is active. -/
theorem Live.completed_of_idle (live : t.Live) (active : t.coordinator.activeWorkers ≠ [])
    (idle : ∀ action, ¬ t.Useful action) :
    t.coordinator.completedBacklog = [] ∧
      ∀ id task, t.coordinator.tasks.find? id = some task → task.state = .completed := by
  have noneWaiting : t.waiting = [] :=
    List.eq_nil_iff_length_eq_zero.mpr (Nat.eq_zero_of_not_pos (idle (.start 0 0)))
  have noneExecuting : t.executing = [] :=
    List.eq_nil_iff_length_eq_zero.mpr (Nat.eq_zero_of_not_pos (idle (.finish 0 0)))
  have noneAnswered : t.responses = [] :=
    List.eq_nil_iff_length_eq_zero.mpr (Nat.eq_zero_of_not_pos (idle (.deliver 0 0 {})))
  have nothingRuns : ∀ worker id, ¬ t.coordinator.Runs worker id := by
    intro worker id runs
    have underWay := live.underWay worker id runs
    simp [transit, noneWaiting, noneExecuting, noneAnswered] at underWay
  have accepting : Env.Accepting {} := by simp [Env.Accepting]
  have noPass : ¬ (t.coordinator.completedBacklog ≠ [] ∨ t.coordinator.queuedBacklog ≠ [] ∧
      ∃ worker ∈ t.coordinator.activeWorkers, t.coordinator.hasRoom worker = true) :=
    fun due => idle (.schedule (.pass {})) ⟨accepting, due⟩
  obtain ⟨noneCompleted, noRoom⟩ := not_or.mp noPass
  refine ⟨not_not.mp noneCompleted, fun id task found => ?_⟩
  -- Every active worker has room, since none runs a task.
  have noneQueued : t.coordinator.queuedBacklog = [] := by
    by_contra queued
    obtain ⟨worker, isActive⟩ := List.exists_mem_of_ne_nil _ active
    obtain ⟨state, held⟩ := Coordinator.held_of_lt (live.working.sound.activeHeld worker isActive)
    have empty : state.runningTasks.items = [] := by
      refine List.eq_nil_iff_forall_not_mem.mpr fun id member => ?_
      exact nothingRuns worker id ⟨state, held, member⟩
    refine noRoom ⟨queued, worker, isActive, ?_⟩
    simp [Coordinator.hasRoom, held, UnorderedSet.size, empty, Config.workerMaxQueueDepth,
      Config.workerQueueCapacity]
  obtain ⟨named, queued, running⟩ := live.working.scheduled id task found
  cases state : task.state with
  | queued =>
      have waits := queued state
      rw [noneQueued] at waits
      cases waits
  | running => exact absurd (running state) (nothingRuns _ id)
  | completed => rfl
  | other => exact (state ▸ named : TaskState.Named (.other ..)).elim

/-- What holds while useful steps are made. -/
def Going (t s : TimedSystem) : Prop :=
  s.Live ∧ s.coordinator.activeWorkers = t.coordinator.activeWorkers

theorem going_preserved (t : TimedSystem) : Preserves step Useful t.Going := by
  intro s action s' going useful stepped
  exact ⟨live_preserved s action s' going.1 (regular_of_useful useful) stepped,
    (active_of_useful going.1 useful stepped).trans going.2⟩

theorem going_progresses (t : TimedSystem) : Progresses step Useful t.Going :=
  fun s action going useful => live_progresses s action going.1 (regular_of_useful useful)

/-- Useful steps can be made until there is none left. -/
theorem Live.exists_idle (live : t.Live) :
    ∃ more t', Along TimedSystem.step Useful t more ∧ run TimedSystem.step t more = .ok t' ∧
      ∀ action, ¬ t'.Useful action := by
  induction left : t.work using Nat.strong_induction_on generalizing t with
  | _ work ih =>
      by_cases idle : ∀ action, ¬ t.Useful action
      · exact ⟨[], t, trivial, rfl, idle⟩
      · obtain ⟨action, useful⟩ := not_forall_not.mp idle
        obtain ⟨next, stepped⟩ := live_progresses t action live (regular_of_useful useful)
        have liveNext := live_preserved t action next live (regular_of_useful useful) stepped
        obtain ⟨more, t', along, ran, idleAfter⟩ :=
          ih next.work (left ▸ work_decreases live useful stepped) liveNext rfl
        refine ⟨action :: more, t', ⟨useful, fun other again => ?_⟩,
          run_cons_eq_ok.mpr ⟨next, stepped, ran⟩, idleAfter⟩
        rw [stepped] at again
        cases again
        exact along

/-- A coordinator and its workers, in every state that they reach.  A sequence of steps in which
workers execute what they have been assigned, their responses are delivered and the backlogs are
worked off comes to an end after at most as many useful steps as there is work, in whatever order
these are done.  If a worker is active, every task has completed then, and no result is left to
send. -/
theorem useful_work_completes (actions : List TimedAction)
    (regular : Along step Regular init actions) (ran : run step init actions = .ok t) :
    (∀ more, Along step Useful t more →
      ∃ t', run step t more = .ok t' ∧ more.length + t'.work ≤ t.work ∧
        (t.coordinator.activeWorkers ≠ [] → (∀ action, ¬ t'.Useful action) →
          t'.coordinator.completedBacklog = [] ∧
          ∀ id task, t'.coordinator.tasks.find? id = some task → task.state = .completed)) ∧
    ∃ more t', Along step Useful t more ∧ run step t more = .ok t' ∧
      ∀ action, ¬ t'.Useful action := by
  have live := live_preserved.run live_init regular ran
  refine ⟨fun more useful => ?_, live.exists_idle⟩
  obtain ⟨t', ranMore, liveAfter, sameActive⟩ :=
    (going_progresses t).run (going_preserved t) ⟨live, rfl⟩ useful
  refine ⟨t', ranMore, ?_, fun active idle => ?_⟩
  · exact length_le_measure (going_preserved t)
      (fun s action s' going useful stepped => work_decreases going.1 useful stepped)
      ⟨live, rfl⟩ useful ranMore
  · exact liveAfter.completed_of_idle (sameActive ▸ active) idle

/-- The first worker dies with one task in its hands, and a second one registers. -/
def orphanedTasks : List TimedAction :=
  [.schedule (.register 5 {}), .schedule (.submit 9 { taskId := 1 } {}), .start 0 10,
    .schedule (.submit 9 { taskId := 2, type := .wordCount, words := [97] } {}),
    .schedule (.sweep { clock := List.replicate 3 3000000000 }),
    .schedule (.register 6 { clock := List.replicate 3 3000000000 })]

theorem orphanedTasks_complete :
    ∃ t, run step init orphanedTasks = .ok t ∧ t.coordinator.queuedBacklog.length = 2 ∧
      ∃ more t', run step t more = .ok t' ∧ more.length ≤ t.work ∧
        ∀ id task, t'.coordinator.tasks.find? id = some task → task.state = .completed := by
  have regular : Along step Regular init orphanedTasks := by decide +kernel
  have runs : ∃ t, run step init orphanedTasks = .ok t ∧
      t.coordinator.queuedBacklog.length = 2 ∧ t.coordinator.activeWorkers ≠ [] := by
    decide +kernel
  obtain ⟨t, ran, queued, active⟩ := runs
  obtain ⟨completes, more, t', useful, ranMore, idle⟩ :=
    useful_work_completes orphanedTasks regular ran
  obtain ⟨final, ranFinal, short, completed⟩ := completes more useful
  rw [ranMore] at ranFinal
  cases ranFinal
  exact ⟨t, ran, queued, more, t', ranMore, by omega, (completed active idle).2⟩

end TimedSystem

end TaskCoordinator
