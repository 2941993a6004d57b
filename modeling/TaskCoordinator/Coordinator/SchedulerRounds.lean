import TaskCoordinator.Coordinator.SchedulerLoop

/-!
# Iterations of the scheduler thread

The loop of `SchedulerLoop` is compared with two descriptions that have no retries and no
arrivals in them: the run of `Coordinator.step` over the messages in the order of their queues,
and the sequence of whole iterations.  Then the bounded queues and the budgets are put together
to a bound on how long a message waits.
-/

namespace TaskCoordinator

/-! ## Messages and events -/

/-- The handling of a message from the control queue. -/
def Event.isControl : Event → Bool
  | .heartbeat .. | .register .. => true
  | _ => false

/-- The handling of a message from the task queue. -/
def Event.isTask : Event → Bool
  | .submit .. | .complete .. | .assignedReplicate .. | .completedReplicate _ | .snapshot ..
  | .peerReconnected _ | .topRequest .. => true
  | _ => false

namespace IncomingEvent

/-- `process_task_queue` acts on the message. -/
def isKnownTask (incoming : IncomingEvent) : Bool :=
  (incoming.taskEvent? {}).isSome

/-- The event is the handling of the message with some inputs. -/
def HandledAs (incoming : IncomingEvent) (event : Event) : Prop :=
  ∃ env, incoming.controlEvent? env = some event ∨ incoming.taskEvent? env = some event

variable {incoming : IncomingEvent} {env : Env} {event : Event}

theorem isControl_of_controlEvent? (known : incoming.controlEvent? env = some event) :
    event.isControl = true ∧ event.isTask = false := by
  unfold controlEvent? at known
  split at known
  next =>
    cases known
    exact ⟨rfl, rfl⟩
  next =>
    cases known
    exact ⟨rfl, rfl⟩
  next => cases known

theorem isTask_of_taskEvent? (known : incoming.taskEvent? env = some event) :
    event.isTask = true ∧ event.isControl = false := by
  unfold taskEvent? at known
  split at known
  any_goals
    cases known
    exact ⟨rfl, rfl⟩
  next => cases known

/-- The network thread puts only messages into the control queue that are known there. -/
theorem controlEvent?_of_isControl (control : incoming.isControl = true) (env : Env) :
    incoming.controlEvent? env ≠ none := by
  unfold isControl at control
  unfold controlEvent?
  cases body : incoming.msg.body with
  | heartbeat | register => exact Option.some_ne_none _
  | _ =>
      rw [body] at control
      cases control

theorem isKnownTask_iff (env : Env) :
    incoming.isKnownTask = (incoming.taskEvent? env).isSome := by
  unfold isKnownTask taskEvent?
  cases incoming.msg.body <;> rfl

end IncomingEvent

namespace Coordinator

theorem run_snoc {s s' : Coordinator} {events : List Event} {event : Event}
    (ran : run events = .ok s) (stepped : s.step event = .ok s') :
    run (events ++ [event]) = .ok s' := by
  refine Transition.run_append_eq_ok.mpr ⟨s, ran, ?_⟩
  rwa [Transition.run_singleton]

end Coordinator

namespace Scheduler

open Transition

variable {s s' : Scheduler} {action : SchedulerAction}

/-! ## Order -/

/-- The loop so far is a run over the popped messages, and these are the first of those
pushed. -/
structure InOrder (s : Scheduler) : Prop where
  ran : Coordinator.run s.events = .ok s.coordinator
  routed : ∀ incoming ∈ s.controlQueue, incoming.isControl = true
  control : s.controlPushed = s.controlPopped ++ s.controlQueue
  tasks : s.taskPushed = s.taskPopped ++ s.taskQueue
  controlHandled : List.Forall₂ IncomingEvent.HandledAs s.controlPopped
    (s.events.filter Event.isControl)
  tasksHandled : List.Forall₂ IncomingEvent.HandledAs
    (s.taskPopped.filter IncomingEvent.isKnownTask) (s.events.filter Event.isTask)

theorem inOrder_init : init.InOrder where
  ran := rfl
  routed := by simp [init]
  control := rfl
  tasks := rfl
  controlHandled := .nil
  tasksHandled := .nil

/-- An event that is not the handling of a message. -/
theorem InOrder.own (inOrder : s.InOrder) {event : Event} {coordinator : Coordinator}
    (stepped : s.coordinator.step event = .ok coordinator) (notControl : event.isControl = false)
    (notTask : event.isTask = false) (lastSweep : Nanoseconds) (phase : SchedulerPhase)
    (iterations : Nat) :
    { s with coordinator, lastSweep, phase, iterations,
             events := s.events ++ [event] }.InOrder where
  ran := Coordinator.run_snoc inOrder.ran stepped
  routed := inOrder.routed
  control := inOrder.control
  tasks := inOrder.tasks
  controlHandled := by simpa [notControl] using inOrder.controlHandled
  tasksHandled := by simpa [notTask] using inOrder.tasksHandled

/-- Only the phase changes. -/
theorem InOrder.goOn (inOrder : s.InOrder) (phase : SchedulerPhase) (iterations : Nat) :
    { s with phase, iterations }.InOrder where
  ran := inOrder.ran
  routed := inOrder.routed
  control := inOrder.control
  tasks := inOrder.tasks
  controlHandled := inOrder.controlHandled
  tasksHandled := inOrder.tasksHandled

theorem inOrder_preserved : Preserves step (fun _ _ => True) InOrder := by
  intro s action s' inOrder _ stepped
  cases step_outcome stepped with
  | refused => exact inOrder
  | pushedControl control room =>
      refine { inOrder with routed := ?_, control := ?_ }
      · intro incoming member
        obtain before | isNew := List.mem_append.mp member
        · exact inOrder.routed incoming before
        · rwa [List.mem_singleton.mp isNew]
      · simp [inOrder.control]
  | pushedTask task room =>
      refine { inOrder with tasks := ?_ }
      simp [inOrder.tasks]
  | passed head passed => exact inOrder.own passed rfl rfl _ _ _
  | @controlled env processed retry incoming rest event coordinator phase below front known
      handled =>
      obtain ⟨isControl, notTask⟩ := IncomingEvent.isControl_of_controlEvent? known
      have routed := inOrder.routed
      rw [front, List.forall_mem_cons] at routed
      refine
        { ran := Coordinator.run_snoc inOrder.ran handled
          routed := routed.2
          control := ?_
          tasks := inOrder.tasks
          controlHandled := ?_
          tasksHandled := ?_ }
      · simp [inOrder.control, front]
      · simp only [List.filter_append, List.filter_cons, isControl, List.filter_nil, if_true]
        exact List.rel_append inOrder.controlHandled (.cons ⟨env, .inl known⟩ .nil)
      · simpa [notTask] using inOrder.tasksHandled
  | @controlIgnored env processed retry incoming rest phase front unknown =>
      have control := inOrder.routed incoming (by simp [front])
      exact absurd unknown (IncomingEvent.controlEvent?_of_isControl control env)
  | controlRetried phase empty => exact inOrder.goOn _ _
  | controlLeft phase done => exact inOrder.goOn _ _
  | @worked env limit processed retry incoming rest event coordinator phase below front known
      handled =>
      obtain ⟨isTask, notControl⟩ := IncomingEvent.isTask_of_taskEvent? known
      have isKnown : incoming.isKnownTask = true := by
        simp [IncomingEvent.isKnownTask_iff env, known]
      refine
        { ran := Coordinator.run_snoc inOrder.ran handled
          routed := inOrder.routed
          control := inOrder.control
          tasks := ?_
          controlHandled := ?_
          tasksHandled := ?_ }
      · simp [inOrder.tasks, front]
      · simpa [notControl] using inOrder.controlHandled
      · simp only [List.filter_append, List.filter_cons, isTask, isKnown, List.filter_nil,
          if_true]
        exact List.rel_append inOrder.tasksHandled (.cons ⟨env, .inr known⟩ .nil)
  | @taskIgnored env limit processed retry incoming rest phase below front unknown =>
      have notKnown : incoming.isKnownTask = false := by
        simp [IncomingEvent.isKnownTask_iff env, unknown]
      refine { inOrder with tasks := ?_, tasksHandled := ?_ }
      · simp [inOrder.tasks, front]
      · simpa [notKnown] using inOrder.tasksHandled
  | taskRetried phase empty => exact inOrder.goOn _ _
  | tasksLeft phase done => exact inOrder.goOn _ _
  | notDue phase early => exact inOrder.goOn _ _
  | @swept env rest coordinator phase due called =>
      have handled : s.coordinator.step (.sweep env.afterNow) = .ok coordinator :=
        Coordinator.map_fst_eq_ok.mpr ⟨rest, called⟩
      exact inOrder.own handled rfl rfl _ _ _

theorem inOrder_of_run {actions : List SchedulerAction}
    (ran : Transition.run step init actions = .ok s) : s.InOrder :=
  inOrder_preserved.run inOrder_init (along_of_forall fun _ _ => trivial) ran

/-- Whatever arrives and whenever it arrives, the loop has the effect of handling the messages
one after the other: those of each queue in the order in which they were pushed, every message
of the control queue, and every message of the task queue whose type is known there. -/
theorem loop_handles_queues_in_order (actions : List SchedulerAction)
    (ran : Transition.run step init actions = .ok s) :
    Coordinator.run s.events = .ok s.coordinator ∧
    s.controlPushed = s.controlPopped ++ s.controlQueue ∧
    s.taskPushed = s.taskPopped ++ s.taskQueue ∧
    List.Forall₂ IncomingEvent.HandledAs s.controlPopped (s.events.filter Event.isControl) ∧
    List.Forall₂ IncomingEvent.HandledAs (s.taskPopped.filter IncomingEvent.isKnownTask)
      (s.events.filter Event.isTask) := by
  have inOrder := inOrder_of_run ran
  exact ⟨inOrder.ran, inOrder.control, inOrder.tasks, inOrder.controlHandled,
    inOrder.tasksHandled⟩

/-- A client's request and a registration arrive, and the registration is handled first. -/
def requestAndRegistration : List SchedulerAction :=
  [.arrive { fd := 9, msg := { body := .submit { taskId := 7 } } },
    .arrive { fd := 5, msg := { body := .register } }] ++ List.replicate 14 (.advance {})

theorem requestAndRegistration_in_order :
    ∃ s, Transition.run step init requestAndRegistration = .ok s ∧
      Coordinator.run s.events = .ok s.coordinator ∧ s.coordinator.activeWorkers = [0] ∧
      s.coordinator.outgoingQueue.length = 3 := by
  have runs : ∃ s, Transition.run step init requestAndRegistration = .ok s ∧
      s.coordinator.activeWorkers = [0] ∧ s.coordinator.outgoingQueue.length = 3 := by
    decide +kernel
  obtain ⟨s, ran, active, pushed⟩ := runs
  exact ⟨s, ran, (loop_handles_queues_in_order requestAndRegistration ran).1, active, pushed⟩

/-! ## Iterations -/

/-- A share of one queue, taken in one iteration. -/
structure Share (kind : Event → Bool) (limit : Nat) (before after : Coordinator) : Prop where
  intro ::
  taken : ∃ events, Transition.run Coordinator.step before events = .ok after ∧
    (∀ event ∈ events, kind event = true) ∧ events.length ≤ limit

theorem Share.refl (kind : Event → Bool) (limit : Nat) (coordinator : Coordinator) :
    Share kind limit coordinator coordinator :=
  ⟨[], rfl, by simp, Nat.zero_le limit⟩

theorem Share.mono {kind : Event → Bool} {limit more : Nat} {before after : Coordinator}
    (share : Share kind limit before after) (within : limit ≤ more) :
    Share kind more before after := by
  obtain ⟨events, ran, kinds, bounded⟩ := share.taken
  exact ⟨events, ran, kinds, bounded.trans within⟩

theorem Share.snoc {kind : Event → Bool} {limit : Nat} {before middle after : Coordinator}
    {event : Event} (share : Share kind limit before middle) (isKind : kind event = true)
    (stepped : middle.step event = .ok after) : Share kind (limit + 1) before after := by
  obtain ⟨events, ran, kinds, bounded⟩ := share.taken
  refine ⟨events ++ [event], ?_, ?_, ?_⟩
  · refine run_append_eq_ok.mpr ⟨middle, ran, ?_⟩
    rwa [run_singleton]
  · intro other member
    obtain earlier | isLast := List.mem_append.mp member
    · exact kinds other earlier
    · rwa [List.mem_singleton.mp isLast]
  · simpa using bounded

/-- The first part of an iteration: the backlog pass and at most `limit` control messages. -/
def Opening (limit : Nat) (head coordinator : Coordinator) : Prop :=
  ∃ env passed, head.step (.pass env) = .ok passed ∧
    Share Event.isControl limit passed coordinator

/-- An iteration up to the check for the sweep, with at most `limit` task messages. -/
def Working (taskLimit limit : Nat) (head coordinator : Coordinator) : Prop :=
  ∃ opened, Opening Config.controlBudget head opened ∧ opened.taskLimit = taskLimit ∧
    Share Event.isTask limit opened coordinator

/-- A whole iteration, in which the budgets are kept. -/
def Iteration (head next : Coordinator) : Prop :=
  ∃ worked, (∃ limit, Working limit limit head worked) ∧
    (next = worked ∨ ∃ env, worked.step (.sweep env) = .ok next)

/-- How far the iteration that started in the state `head` has come. -/
def Within (head : Coordinator) (s : Scheduler) : Prop :=
  match s.phase with
  | .passing => s.coordinator = head
  | .control processed _ =>
      processed ≤ Config.controlBudget ∧ Opening processed head s.coordinator
  | .tasks limit processed _ => processed ≤ limit ∧ Working limit processed head s.coordinator
  | .sweeping => ∃ limit, Working limit limit head s.coordinator

/-- The state is reached by whole iterations and a part of one more. -/
def Iterated (s : Scheduler) : Prop :=
  ∃ head, Relation.ReflTransGen Iteration .init head ∧ Within head s

theorem iterated_init : init.Iterated :=
  ⟨.init, .refl, rfl⟩

theorem iterated_preserved : Preserves step (fun _ _ => True) Iterated := by
  intro s action s' ⟨head, iterations, within⟩ _ stepped
  cases step_outcome stepped with
  | refused => exact ⟨head, iterations, within⟩
  | pushedControl control room => exact ⟨head, iterations, within⟩
  | pushedTask task room => exact ⟨head, iterations, within⟩
  | @passed env coordinator atHead passed =>
      simp only [Within, atHead] at within
      rw [within] at passed
      exact ⟨head, iterations, Nat.zero_le _, env, coordinator, passed, Share.refl _ _ _⟩
  | controlled phase below front known handled =>
      simp only [Within, phase] at within
      obtain ⟨_, env, passed, atHead, share⟩ := within
      obtain ⟨isControl, _⟩ := IncomingEvent.isControl_of_controlEvent? known
      exact ⟨head, iterations, below, env, passed, atHead, share.snoc isControl handled⟩
  | controlIgnored phase front unknown =>
      simp only [Within, phase] at within
      exact ⟨head, iterations, within⟩
  | controlRetried phase empty =>
      simp only [Within, phase] at within
      exact ⟨head, iterations, within⟩
  | controlLeft phase done =>
      simp only [Within, phase] at within
      obtain ⟨kept, env, passed, atHead, share⟩ := within
      exact ⟨head, iterations, Nat.zero_le _, s.coordinator,
        ⟨env, passed, atHead, share.mono kept⟩, rfl, Share.refl _ _ _⟩
  | worked phase below front known handled =>
      simp only [Within, phase] at within
      obtain ⟨_, opened, opening, limit, share⟩ := within
      obtain ⟨isTask, _⟩ := IncomingEvent.isTask_of_taskEvent? known
      exact ⟨head, iterations, below, opened, opening, limit, share.snoc isTask handled⟩
  | taskIgnored phase below front unknown =>
      simp only [Within, phase] at within
      obtain ⟨_, opened, opening, limit, share⟩ := within
      exact ⟨head, iterations, below, opened, opening, limit, share.mono (Nat.le_succ _)⟩
  | taskRetried phase empty =>
      simp only [Within, phase] at within
      exact ⟨head, iterations, within⟩
  | @tasksLeft env limit processed retry phase done =>
      simp only [Within, phase] at within
      obtain ⟨kept, opened, opening, isLimit, share⟩ := within
      exact ⟨head, iterations, limit, opened, opening, isLimit, share.mono kept⟩
  | notDue phase early =>
      simp only [Within, phase] at within
      exact ⟨s.coordinator, iterations.tail ⟨s.coordinator, within, .inl rfl⟩, rfl⟩
  | @swept env rest coordinator phase due called =>
      simp only [Within, phase] at within
      have handled : s.coordinator.step (.sweep env.afterNow) = .ok coordinator :=
        Coordinator.map_fst_eq_ok.mpr ⟨rest, called⟩
      exact ⟨coordinator, iterations.tail ⟨s.coordinator, within, .inr ⟨_, handled⟩⟩, rfl⟩

/-- Every state of the loop is reached by whole iterations and a part of one more.  An
iteration handles at most `CONTROL_BUDGET` messages of the control queue, and of the task queue
at most as many as the workers that are active then can hold, or `TASK_FALLBACK_BUDGET` if none
is. -/
theorem loop_keeps_budgets (actions : List SchedulerAction)
    (ran : Transition.run step init actions = .ok s) :
    ∃ head, Relation.ReflTransGen Iteration .init head ∧ Within head s :=
  iterated_preserved.run iterated_init (along_of_forall fun _ _ => trivial) ran

theorem requestAndRegistration_keeps_budgets :
    ∃ s, Transition.run step init requestAndRegistration = .ok s ∧
      s.coordinator.outgoingQueue.length = 3 ∧
      ∃ head, Relation.ReflTransGen Iteration .init head ∧ Within head s := by
  have runs : ∃ s, Transition.run step init requestAndRegistration = .ok s ∧
      s.coordinator.outgoingQueue.length = 3 := by decide +kernel
  obtain ⟨s, ran, pushed⟩ := runs
  exact ⟨s, ran, pushed, loop_keeps_budgets requestAndRegistration ran⟩

/-! ## Waiting -/

/-- No queue holds more than its capacity. -/
structure Bounded (s : Scheduler) : Prop where
  control : s.controlQueue.length ≤ Config.coordinatorControlQueueCapacity
  tasks : s.taskQueue.length ≤ Config.coordinatorTaskQueueCapacity

theorem Bounded.popControl (bounded : s.Bounded) {incoming : IncomingEvent}
    {rest : List IncomingEvent} (front : s.controlQueue = incoming :: rest) :
    rest.length ≤ Config.coordinatorControlQueueCapacity := by
  have before := bounded.control
  rw [front, List.length_cons] at before
  exact (Nat.le_succ _).trans before

theorem Bounded.popTask (bounded : s.Bounded) {incoming : IncomingEvent}
    {rest : List IncomingEvent} (front : s.taskQueue = incoming :: rest) :
    rest.length ≤ Config.coordinatorTaskQueueCapacity := by
  have before := bounded.tasks
  rw [front, List.length_cons] at before
  exact (Nat.le_succ _).trans before

theorem bounded_preserved : Preserves step (fun _ _ => True) Bounded := by
  intro s action s' bounded _ stepped
  cases step_outcome stepped with
  | pushedControl control room => exact ⟨by simpa using room, bounded.tasks⟩
  | pushedTask task room => exact ⟨bounded.control, by simpa using room⟩
  | controlled phase below front known handled => exact ⟨bounded.popControl front, bounded.tasks⟩
  | controlIgnored phase front unknown => exact ⟨bounded.popControl front, bounded.tasks⟩
  | worked phase below front known handled => exact ⟨bounded.control, bounded.popTask front⟩
  | taskIgnored phase below front unknown => exact ⟨bounded.control, bounded.popTask front⟩
  | refused | passed | controlRetried | controlLeft | taskRetried | tasksLeft | notDue | swept =>
      exact ⟨bounded.control, bounded.tasks⟩

/-- What the reachable states of the loop have in common. -/
def Regular (s : Scheduler) : Prop :=
  (s.InOrder ∧ s.Iterated) ∧ s.Bounded

theorem regular_init : init.Regular :=
  ⟨⟨inOrder_init, iterated_init⟩, ⟨Nat.zero_le _, Nat.zero_le _⟩⟩

theorem regular_preserved : Preserves step (fun _ _ => True) Regular :=
  (inOrder_preserved.and iterated_preserved).and bounded_preserved

/-- The control queue as a queue that is served in rounds. -/
def controlService (s : Scheduler) : ServiceRounds.State IncomingEvent where
  queue := s.controlQueue
  served := s.controlPopped
  rounds := s.controlRounds
  current :=
    match s.phase with
    | .control processed _ => some processed
    | _ => none

/-- The task queue as a queue that is served in rounds. -/
def taskService (s : Scheduler) : ServiceRounds.State IncomingEvent where
  queue := s.taskQueue
  served := s.taskPopped
  rounds := s.taskRounds
  current :=
    match s.phase with
    | .tasks _ processed _ => some processed
    | _ => none

/-- The loop serves the control queue in rounds of `CONTROL_BUDGET` messages. -/
theorem controlService_step (regular : s.Regular) (stepped : s.step action = .ok s') :
    Relation.ReflGen (ServiceRounds.Step Config.controlBudget) s.controlService
      s'.controlService := by
  cases step_outcome stepped with
  | refused => exact .refl
  | pushedControl control room => exact .single (.arrive _)
  | pushedTask task room => exact .refl
  | passed head passed =>
      have start : ServiceRounds.Step Config.controlBudget s.controlService
          { s.controlService with current := some 0 } :=
        .start (by simp [controlService, head])
      simpa [controlService, controlRounds, head] using Relation.ReflGen.single start
  | @controlled env processed retry incoming rest event coordinator phase below front known
      handled =>
      have serve : ServiceRounds.Step Config.controlBudget s.controlService
          { s.controlService with
            queue := rest
            served := s.controlService.served ++ [incoming]
            current := some (processed + 1) } :=
        .serve (by simp [controlService, phase]) front
      simpa [controlService, controlRounds, phase] using Relation.ReflGen.single serve
  | @controlIgnored env processed retry incoming rest phase front unknown =>
      have control := regular.1.1.routed incoming (by simp [front])
      exact absurd unknown (IncomingEvent.controlEvent?_of_isControl control env)
  | controlRetried phase empty =>
      simpa [controlService, controlRounds, phase] using Relation.ReflGen.refl
  | @controlLeft env processed retry phase done =>
      have current : s.controlService.current = some processed := by
        simp [controlService, phase]
      have finish : ServiceRounds.Step Config.controlBudget s.controlService
          { s.controlService with
            rounds := s.controlService.rounds + 1
            current := none } :=
        .finish current done
      simpa [controlService, controlRounds, enterTasks, phase] using
        Relation.ReflGen.single finish
  | worked phase | taskIgnored phase | taskRetried phase | tasksLeft phase | notDue phase
  | swept phase => simpa [controlService, controlRounds, phase] using Relation.ReflGen.refl

theorem workerMaxQueueDepth_le_taskLimit (coordinator : Coordinator) :
    Config.workerMaxQueueDepth ≤ coordinator.taskLimit := by
  unfold Coordinator.taskLimit
  split
  next => decide
  next some =>
    refine Nat.le_mul_of_pos_left _ (List.length_pos_of_ne_nil ?_)
    simpa using some

/-- It serves the task queue in rounds of `WORKER_MAX_QUEUE_DEPTH` messages at least. -/
theorem taskService_step (regular : s.Regular) (stepped : s.step action = .ok s') :
    Relation.ReflGen (ServiceRounds.Step Config.workerMaxQueueDepth) s.taskService
      s'.taskService := by
  have serve : ∀ {limit processed retry incoming rest},
      s.phase = .tasks limit processed retry → s.taskQueue = incoming :: rest →
      ServiceRounds.Step Config.workerMaxQueueDepth s.taskService
        { s.taskService with
          queue := rest
          served := s.taskService.served ++ [incoming]
          current := some (processed + 1) } :=
    fun phase front => .serve (by simp [taskService, phase]) front
  cases step_outcome stepped with
  | refused => exact .refl
  | pushedControl control room => exact .refl
  | pushedTask task room => exact .single (.arrive _)
  | passed phase | controlled phase | controlIgnored phase | controlRetried phase =>
      simpa [taskService, taskRounds, phase] using Relation.ReflGen.refl
  | controlLeft phase done =>
      have start : ServiceRounds.Step Config.workerMaxQueueDepth s.taskService
          { s.taskService with current := some 0 } :=
        .start (by simp [taskService, phase])
      simpa [taskService, taskRounds, enterTasks, phase] using Relation.ReflGen.single start
  | worked phase below front known handled =>
      simpa [taskService, taskRounds, phase] using Relation.ReflGen.single (serve phase front)
  | taskIgnored phase below front unknown =>
      simpa [taskService, taskRounds, phase] using Relation.ReflGen.single (serve phase front)
  | taskRetried phase empty =>
      simpa [taskService, taskRounds, phase] using Relation.ReflGen.refl
  | @tasksLeft env limit processed retry phase done =>
      obtain ⟨head, _, within⟩ := regular.1.2
      simp only [Within, phase] at within
      obtain ⟨_, opened, _, isLimit, _⟩ := within
      have enough : Config.workerMaxQueueDepth ≤ limit :=
        isLimit ▸ workerMaxQueueDepth_le_taskLimit opened
      have current : s.taskService.current = some processed := by simp [taskService, phase]
      have finish : ServiceRounds.Step Config.workerMaxQueueDepth s.taskService
          { s.taskService with
            rounds := s.taskService.rounds + 1
            current := none } :=
        .finish current (done.imp_left enough.trans)
      simpa [taskService, taskRounds, phase] using Relation.ReflGen.single finish
  | notDue phase | swept phase => simpa [taskService, taskRounds, phase] using Relation.ReflGen.refl

/-- Every run of the loop is a run of both services. -/
theorem services_of_run {actions : List SchedulerAction} (regular : s.Regular)
    (ran : Transition.run step s actions = .ok s') :
    Relation.ReflTransGen (ServiceRounds.Step Config.controlBudget) s.controlService
      s'.controlService ∧
    Relation.ReflTransGen (ServiceRounds.Step Config.workerMaxQueueDepth) s.taskService
      s'.taskService := by
  induction actions generalizing s with
  | nil =>
      cases ran
      exact ⟨.refl, .refl⟩
  | cons action rest ih =>
      obtain ⟨next, stepped, ranRest⟩ := run_cons_eq_ok.mp ran
      have control := controlService_step regular stepped
      have tasks := taskService_step regular stepped
      have regularNext := regular_preserved s action next regular trivial stepped
      obtain ⟨restControl, restTasks⟩ := ih regularNext ranRest
      exact ⟨control.to_reflTransGen.trans restControl, tasks.to_reflTransGen.trans restTasks⟩

/-- A message that is in the control queue has been handled when the loop over that queue has
been left three more times, and a message in the task queue when the loop over that queue has
been left 257 more times.  This holds for every state of the loop and whatever arrives
later. -/
theorem messages_handled_within_rounds (before after : List SchedulerAction)
    (reached : Transition.run step init before = .ok s)
    (ran : Transition.run step s after = .ok s') :
    (s.controlRounds + 3 ≤ s'.controlRounds →
      s.controlPopped ++ s.controlQueue <+: s'.controlPopped) ∧
    (s.taskRounds + 257 ≤ s'.taskRounds →
      s.taskPopped ++ s.taskQueue <+: s'.taskPopped) := by
  have regular := regular_preserved.run regular_init (along_of_forall fun _ _ => trivial) reached
  obtain ⟨control, tasks⟩ := services_of_run regular ran
  constructor
  · intro ended
    have short : s.controlService.queue.length ≤ Config.controlBudget * 2 := regular.2.control
    exact ServiceRounds.served_within control short ended
  · intro ended
    have short : s.taskService.queue.length ≤ Config.workerMaxQueueDepth * 256 :=
      regular.2.tasks
    exact ServiceRounds.served_within tasks short ended

/-- A registration that arrives first of all. -/
def registrationArrives : List SchedulerAction :=
  [.arrive { fd := 5, msg := { body := .register } }]

/-- Three iterations, in which the two queues are found empty for the most part. -/
def threeIterations : List SchedulerAction :=
  List.replicate 73 (.advance {})

theorem registration_handled_within_rounds :
    ∃ s s', Transition.run step init registrationArrives = .ok s ∧
      Transition.run step s threeIterations = .ok s' ∧ s.controlQueue.length = 1 ∧
      s.controlPopped ++ s.controlQueue <+: s'.controlPopped := by
  have runs : ∃ s, Transition.run step init registrationArrives = .ok s ∧
      ∃ s', Transition.run step s threeIterations = .ok s' ∧
        s.controlQueue.length = 1 ∧ s.controlRounds + 3 ≤ s'.controlRounds := by
    decide +kernel
  obtain ⟨s, reached, s', ran, waiting, ended⟩ := runs
  have within := messages_handled_within_rounds registrationArrives threeIterations reached ran
  exact ⟨s, s', reached, ran, waiting, within.1 ended⟩

end Scheduler

end TaskCoordinator
