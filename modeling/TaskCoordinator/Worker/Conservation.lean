import TaskCoordinator.Worker.Threads
import TaskCoordinator.Library.Places

/-!
# Every assignment is answered exactly once

A task that a worker has received is in one place at a time: in a task queue, in the hands
of a thread, or, as the response that answers it, in a response queue or among the messages
sent.  A push that is refused leaves the task in the hands of the network thread, and the
budgets of the draining loop only decide when a response is popped.

The places are weighed by the multiset of what is in them, each task by a value of its own
and each response by the value of the task it answers.
-/

namespace TaskCoordinator

namespace NetworkPhase

variable {n : Nat}

/-- The task in the hands of the network thread. -/
def tasks : NetworkPhase n → List AssignMsg
  | .pushing task _ _ => [task]
  | _ => []

/-- The response in its hands. -/
def responses : NetworkPhase n → List CompleteMsg
  | .sending response _ _ _ => [response]
  | _ => []

end NetworkPhase

namespace ExecutionPhase

/-- The task in the hands of an execution thread. -/
def tasks : ExecutionPhase → List AssignMsg
  | .executing task => [task]
  | _ => []

/-- The response in its hands. -/
def responses : ExecutionPhase → List CompleteMsg
  | .responding response => [response]
  | _ => []

end ExecutionPhase

namespace WorkerAction

variable {n : Nat}

/-- No socket call fails and the worker is not stopped. -/
def Undisturbed : WorkerAction n → Prop
  | .connect established => established = true
  | .acknowledge reply _ => reply.isSome = true
  | .poll .failed => False
  | .send delivered => delivered = true
  | .beat _ _ delivered => delivered = true
  | .stop => False
  | .poll _ | .push | .drain | .execution .. => True

/-- An assignment that is received has one of the two known types. -/
def BringsKnown : WorkerAction n → Prop
  | .poll (.message msg) => ∀ task ∈ msg.assign?, task.type.Known
  | _ => True

instance : DecidablePred (Undisturbed (n := n))
  | .connect established => inferInstanceAs (Decidable (established = true))
  | .acknowledge reply _ => inferInstanceAs (Decidable (reply.isSome = true))
  | .poll .failed => isFalse id
  | .send delivered => inferInstanceAs (Decidable (delivered = true))
  | .beat _ _ delivered => inferInstanceAs (Decidable (delivered = true))
  | .stop => isFalse id
  | .poll .quiet | .poll .hangUp | .poll (.message _) | .poll .rejected | .push | .drain
  | .execution .. => isTrue trivial

instance : DecidablePred (BringsKnown (n := n))
  | .poll (.message msg) => inferInstanceAs (Decidable (∀ task ∈ msg.assign?, task.type.Known))
  | .poll .quiet | .poll .hangUp | .poll .rejected | .poll .failed | .connect _
  | .acknowledge .. | .push | .drain | .send _ | .beat .. | .execution .. | .stop =>
      isTrue trivial

end WorkerAction

namespace Worker

open Transition

variable {n : Nat} {w w' : Worker n}

/-- The tasks received, in order. -/
def assignments (w : Worker n) : List AssignMsg :=
  w.received.filterMap Message.assign?

/-- The responses sent, in order. -/
def completions (w : Worker n) : List CompleteMsg :=
  w.sent.filterMap Message.complete?

/-- Nothing has changed place. -/
structure SameItems (w w' : Worker n) : Prop where
  running : w'.running = w.running
  taskQueues : w'.taskQueues = w.taskQueues
  responseQueues : w'.responseQueues = w.responseQueues
  execution : w'.execution = w.execution
  tasks : w'.network.tasks = w.network.tasks
  responses : w'.network.responses = w.network.responses
  assignments : w'.assignments = w.assignments
  completions : w'.completions = w.completions

/-! ## Where everything is -/

section Accounts

variable {β : Type} (ofTask : AssignMsg → β) (ofResponse : CompleteMsg → β)

/-- What is in the task queues. -/
def queued (w : Worker n) : Multiset β :=
  Places.total (Places.items ofTask) w.taskQueues

/-- What the network thread has in its hands. -/
def inNetwork (w : Worker n) : Multiset β :=
  Places.items ofTask w.network.tasks + Places.items ofResponse w.network.responses

/-- What an execution thread has in its hands. -/
def inHands (phase : ExecutionPhase) : Multiset β :=
  Places.items ofTask phase.tasks + Places.items ofResponse phase.responses

/-- What the execution threads have in their hands. -/
def inExecution (w : Worker n) : Multiset β :=
  Places.total (inHands ofTask ofResponse) w.execution

/-- What is in the response queues. -/
def answered (w : Worker n) : Multiset β :=
  Places.total (Places.items ofResponse) w.responseQueues

/-- What has been sent. -/
def delivered (w : Worker n) : Multiset β :=
  Places.items ofResponse w.completions

/-- What has been received is in one of these places. -/
def Conserved (w : Worker n) : Prop :=
  Places.items ofTask w.assignments = w.queued ofTask + w.inNetwork ofTask ofResponse +
    w.inExecution ofTask ofResponse + w.answered ofResponse + w.delivered ofResponse

end Accounts

section Accounts

variable {β : Type} {ofTask : AssignMsg → β} {ofResponse : CompleteMsg → β}

theorem Conserved.quiet (conserved : w.Conserved ofTask ofResponse) (same : SameItems w w') :
    w'.Conserved ofTask ofResponse := by
  unfold Conserved queued inNetwork inExecution answered delivered at conserved ⊢
  rw [same.assignments, same.taskQueues, same.tasks, same.responses, same.execution,
    same.responseQueues, same.completions, conserved]

/-- A task that is received is in the hands of the network thread. -/
theorem Conserved.receive (conserved : w.Conserved ofTask ofResponse) {msg : Message}
    {task : AssignMsg} (polling : w.network = .polling) (assigned : msg.assign? = some task) :
    Conserved ofTask ofResponse
      { w with received := w.received ++ [msg], network := .pushing task w.nextWorker 0 } := by
  have grown : (w.received ++ [msg]).filterMap Message.assign? = w.assignments ++ [task] := by
    simp [assignments, assigned]
  have hands : w.inNetwork ofTask ofResponse = 0 := by
    simp [inNetwork, polling, NetworkPhase.tasks, NetworkPhase.responses]
  change Places.items ofTask ((w.received ++ [msg]).filterMap Message.assign?) =
    w.queued ofTask + ({ofTask task} + 0) + w.inExecution ofTask ofResponse +
      w.answered ofResponse + w.delivered ofResponse
  rw [grown, Places.items_append, Places.items_singleton, conserved, hands]
  abel

/-- It goes on to a task queue. -/
theorem Conserved.push (conserved : w.Conserved ofTask ofResponse) {task : AssignMsg}
    {idx nextWorker : Fin n} {retry : Nat} (pushing : w.network = .pushing task idx retry) :
    Conserved ofTask ofResponse
      { w with
        taskQueues := Function.update w.taskQueues idx (w.taskQueues idx ++ [task])
        nextWorker
        network := .draining 0 0 } := by
  have hands : w.inNetwork ofTask ofResponse = {ofTask task} := by
    simp [inNetwork, pushing, NetworkPhase.tasks, NetworkPhase.responses]
  have put : Places.total (Places.items ofTask)
      (Function.update w.taskQueues idx (w.taskQueues idx ++ [task])) =
        w.queued ofTask + {ofTask task} :=
    Places.total_put (by simp)
  change Places.items ofTask w.assignments =
    Places.total _ (Function.update w.taskQueues idx (w.taskQueues idx ++ [task])) + (0 + 0) +
      w.inExecution ofTask ofResponse + w.answered ofResponse + w.delivered ofResponse
  rw [put, conserved, hands]
  abel

/-- From there it comes into the hands of an execution thread. -/
theorem Conserved.take (conserved : w.Conserved ofTask ofResponse) {thread : Fin n}
    {task : AssignMsg} {rest : List AssignMsg} (waiting : w.execution thread = .waiting)
    (front : w.taskQueues thread = task :: rest) :
    Conserved ofTask ofResponse
      { w.setExecution thread (.executing task) with
        taskQueues := Function.update w.taskQueues thread rest } := by
  have take : w.queued ofTask = Places.total (Places.items ofTask)
      (Function.update w.taskQueues thread rest) + {ofTask task} :=
    Places.total_take (by rw [front, Places.items_cons])
  have put : Places.total (inHands ofTask ofResponse)
      (Function.update w.execution thread (.executing task)) =
        w.inExecution ofTask ofResponse + {ofTask task} :=
    Places.total_put (by
      simp [inHands, waiting, ExecutionPhase.tasks, ExecutionPhase.responses])
  change Places.items ofTask w.assignments =
    Places.total _ (Function.update w.taskQueues thread rest) + w.inNetwork ofTask ofResponse +
      Places.total _ (Function.update w.execution thread (.executing task)) +
        w.answered ofResponse + w.delivered ofResponse
  rw [put, conserved, take]
  abel

/-- The thread has the response in its place when it has executed the task. -/
theorem Conserved.execute (conserved : w.Conserved ofTask ofResponse) {thread : Fin n}
    {task : AssignMsg} {response : CompleteMsg} (executing : w.execution thread = .executing task)
    (answers : ofResponse response = ofTask task) :
    (w.setExecution thread (.responding response)).Conserved ofTask ofResponse := by
  have keep : Places.total (inHands ofTask ofResponse)
      (Function.update w.execution thread (.responding response)) =
        w.inExecution ofTask ofResponse :=
    Places.total_keep (by
      simp [inHands, executing, ExecutionPhase.tasks, ExecutionPhase.responses, answers])
  change Places.items ofTask w.assignments = w.queued ofTask + w.inNetwork ofTask ofResponse +
    Places.total _ (Function.update w.execution thread _) + w.answered ofResponse +
      w.delivered ofResponse
  rw [keep, conserved]

/-- The response goes to a response queue. -/
theorem Conserved.respond (conserved : w.Conserved ofTask ofResponse) {thread : Fin n}
    {response : CompleteMsg} (responding : w.execution thread = .responding response) :
    Conserved ofTask ofResponse
      { w.setExecution thread .waiting with
        responseQueues :=
          Function.update w.responseQueues thread (w.responseQueues thread ++ [response]) } := by
  have take : w.inExecution ofTask ofResponse = Places.total (inHands ofTask ofResponse)
      (Function.update w.execution thread .waiting) + {ofResponse response} :=
    Places.total_take (by
      simp [inHands, responding, ExecutionPhase.tasks, ExecutionPhase.responses])
  have put : Places.total (Places.items ofResponse)
      (Function.update w.responseQueues thread (w.responseQueues thread ++ [response])) =
        w.answered ofResponse + {ofResponse response} :=
    Places.total_put (by simp)
  change Places.items ofTask w.assignments = w.queued ofTask + w.inNetwork ofTask ofResponse +
    Places.total _ (Function.update w.execution thread .waiting) +
      Places.total _ (Function.update w.responseQueues thread _) + w.delivered ofResponse
  rw [put, conserved, take]
  abel

/-- From there it comes into the hands of the network thread. -/
theorem Conserved.pop (conserved : w.Conserved ofTask ofResponse)
    {k totalProcessed localProcessed : Nat} {queue : Fin n} {response : CompleteMsg}
    {rest : List CompleteMsg} (popping : w.network = .popping k totalProcessed localProcessed)
    (front : w.responseQueues queue = response :: rest) :
    Conserved ofTask ofResponse
      { w with
        responseQueues := Function.update w.responseQueues queue rest
        network := .sending response k totalProcessed localProcessed } := by
  have hands : w.inNetwork ofTask ofResponse = 0 := by
    simp [inNetwork, popping, NetworkPhase.tasks, NetworkPhase.responses]
  have take : w.answered ofResponse = Places.total (Places.items ofResponse)
      (Function.update w.responseQueues queue rest) + {ofResponse response} :=
    Places.total_take (by rw [front, Places.items_cons])
  change Places.items ofTask w.assignments = w.queued ofTask + (0 + {ofResponse response}) +
    w.inExecution ofTask ofResponse +
      Places.total _ (Function.update w.responseQueues queue rest) + w.delivered ofResponse
  rw [conserved, hands, take]
  abel

/-- It is sent. -/
theorem Conserved.send (conserved : w.Conserved ofTask ofResponse)
    {k totalProcessed localProcessed : Nat} {response : CompleteMsg} {phase : NetworkPhase n}
    (sending : w.network = .sending response k totalProcessed localProcessed)
    (noTasks : phase.tasks = []) (noResponses : phase.responses = []) :
    Conserved ofTask ofResponse
      { w with sent := w.sent ++ [{ body := .complete response }], network := phase } := by
  have before : w.inNetwork ofTask ofResponse = {ofResponse response} := by
    simp [inNetwork, sending, NetworkPhase.tasks, NetworkPhase.responses]
  have after : Places.items ofTask phase.tasks + Places.items ofResponse phase.responses = 0 := by
    simp [noTasks, noResponses]
  have grown : List.filterMap Message.complete? (w.sent ++ [{ body := .complete response }]) =
      w.completions ++ [response] := by
    simp [completions, Message.complete?]
  change Places.items ofTask w.assignments = w.queued ofTask +
    (Places.items ofTask phase.tasks + Places.items ofResponse phase.responses) +
      w.inExecution ofTask ofResponse + w.answered ofResponse + Places.items ofResponse
        (List.filterMap Message.complete? (w.sent ++ [{ body := .complete response }]))
  rw [grown, after, Places.items_append, Places.items_singleton, conserved, before, delivered]
  abel

end Accounts

/-- The types of all these tasks are known. -/
def AllKnown (tasks : List AssignMsg) : Prop :=
  ∀ task ∈ tasks, task.type.Known

/-- The worker has not been stopped, and the type of every task in it is known. -/
structure Sound (w : Worker n) : Prop where
  running : w.running = true
  queued : ∀ thread, AllKnown (w.taskQueues thread)
  network : AllKnown w.network.tasks
  execution : ∀ thread, AllKnown (w.execution thread).tasks

@[simp] theorem tasks_afterSend (k totalProcessed localProcessed : Nat) :
    (afterSend k totalProcessed localProcessed : NetworkPhase n).tasks = [] := by
  unfold afterSend
  split_ifs <;> rfl

@[simp] theorem responses_afterSend (k totalProcessed localProcessed : Nat) :
    (afterSend k totalProcessed localProcessed : NetworkPhase n).responses = [] := by
  unfold afterSend
  split_ifs <;> rfl

/-- The queues keep known tasks when one queue changes to known tasks. -/
theorem Sound.setQueue (sound : w.Sound) {thread : Fin n} {queue : List AssignMsg}
    (known : AllKnown queue) (other : Fin n) :
    AllKnown (Function.update w.taskQueues thread queue other) :=
  (Function.forall_update_iff w.taskQueues fun _ => AllKnown).mpr
    ⟨known, fun other _ => sound.queued other⟩ other

/-- So do the execution threads. -/
theorem Sound.setExecution (sound : w.Sound) {thread : Fin n} {phase : ExecutionPhase}
    (known : AllKnown phase.tasks) (other : Fin n) :
    AllKnown (Function.update w.execution thread phase other).tasks :=
  (Function.forall_update_iff w.execution fun _ phase => AllKnown phase.tasks).mpr
    ⟨known, fun other _ => sound.execution other⟩ other

/-! ## What a step moves -/

variable [NeZero n] {action : WorkerAction n}

/-- The changes of place that a step of an undisturbed worker can make. -/
inductive Move (action : WorkerAction n) : Worker n → Worker n → Prop where
  | quiet {w w' : Worker n} (same : SameItems w w') : Move action w w'
  | received {w : Worker n} {msg : Message} {task : AssignMsg}
      (polled : action = .poll (.message msg)) (polling : w.network = .polling)
      (assigned : msg.assign? = some task) :
      Move action w
        { w with received := w.received ++ [msg], network := .pushing task w.nextWorker 0 }
  | pushed {w : Worker n} {task : AssignMsg} {idx : Fin n} {retry : Nat}
      (pushing : w.network = .pushing task idx retry) :
      Move action w
        { w with
          taskQueues := Function.update w.taskQueues idx (w.taskQueues idx ++ [task])
          nextWorker := w.nextWorker + 1
          network := .draining 0 0 }
  | taken {w : Worker n} {thread : Fin n} {task : AssignMsg} {rest : List AssignMsg}
      (waiting : w.execution thread = .waiting) (front : w.taskQueues thread = task :: rest) :
      Move action w
        { w.setExecution thread (.executing task) with
          taskQueues := Function.update w.taskQueues thread rest }
  | executed {w : Worker n} {thread : Fin n} {task : AssignMsg}
      (startedAt completedAt : Nanoseconds) (executing : w.execution thread = .executing task) :
      Move action w (w.setExecution thread (.responding (execute task startedAt completedAt)))
  | responded {w : Worker n} {thread : Fin n} {response : CompleteMsg}
      (responding : w.execution thread = .responding response) :
      Move action w
        { w.setExecution thread .waiting with
          responseQueues :=
            Function.update w.responseQueues thread (w.responseQueues thread ++ [response]) }
  | popped {w : Worker n} {k totalProcessed localProcessed : Nat} {response : CompleteMsg}
      {rest : List CompleteMsg} (popping : w.network = .popping k totalProcessed localProcessed)
      (front : w.responseQueues (w.drained k) = response :: rest) :
      Move action w
        { w with
          responseQueues := Function.update w.responseQueues (w.drained k) rest
          network := .sending response k totalProcessed localProcessed }
  | sent {w : Worker n} {k totalProcessed localProcessed : Nat} {response : CompleteMsg}
      (sending : w.network = .sending response k totalProcessed localProcessed) :
      Move action w
        { w with
          sent := w.sent ++ [{ body := .complete response }]
          network := afterSend k (totalProcessed + 1) (localProcessed + 1) }

/-- The network thread moves on with the same in its hands. -/
theorem Move.goOn {before : NetworkPhase n} (phase : w.network = before)
    (tasks : w'.network.tasks = before.tasks := by rfl)
    (responses : w'.network.responses = before.responses := by rfl)
    (assignments : w'.assignments = w.assignments := by rfl)
    (completions : w'.completions = w.completions := by rfl)
    (running : w'.running = w.running := by rfl)
    (taskQueues : w'.taskQueues = w.taskQueues := by rfl)
    (responseQueues : w'.responseQueues = w.responseQueues := by rfl)
    (execution : w'.execution = w.execution := by rfl) : Move action w w' := by
  rw [← phase] at tasks responses
  exact .quiet ⟨running, taskQueues, responseQueues, execution, tasks, responses, assignments,
    completions⟩

theorem Move.refl (w : Worker n) : Move action w w :=
  .goOn rfl

theorem move_connect {established : Bool} (succeeds : established = true)
    (stepped : w.connect established = .ok w') :
    Move (.connect established) w w' := by
  unfold connect at stepped
  split at stepped
  next retry phase =>
    rw [if_pos succeeds] at stepped
    cases stepped
    exact .goOn phase rfl rfl rfl (by simp [completions, Message.complete?])
  next => cases stepped

theorem move_acknowledge {reply : Option Message} {now : Nanoseconds}
    (succeeds : reply.isSome = true) (stepped : w.acknowledge reply now = .ok w') :
    Move (.acknowledge reply now) w w' := by
  unfold acknowledge at stepped
  split at stepped
  next retry phase =>
    cases reply with
    | none => cases succeeds
    | some msg =>
        cases stepped
        exact .goOn phase
  next => cases stepped

theorem move_receive (phase : w.network = .polling) (msg : Message) :
    Move (.poll (.message msg)) w (w.receive msg) := by
  unfold receive
  split
  next task assigned => exact .received rfl phase assigned
  next other =>
    refine .goOn phase ?_ ?_ ?_
    · rw [phase]
    · rw [phase]
    · simp [assignments, other]

theorem move_poll {outcome : PollOutcome} (running : w.running = true)
    (succeeds : (WorkerAction.poll (n := n) outcome).Undisturbed)
    (stepped : w.poll outcome = .ok w') : Move (.poll outcome) w w' := by
  unfold poll at stepped
  split at stepped
  next phase =>
    rw [if_pos running] at stepped
    cases outcome with
    | failed => cases succeeds
    | quiet | hangUp =>
        cases stepped
        exact .goOn phase
    | rejected =>
        cases stepped
        exact .refl w
    | message msg =>
        cases stepped
        exact move_receive phase msg
  next => cases stepped

theorem move_push (stepped : w.push = .ok w') : Move .push w w' := by
  unfold push at stepped
  split at stepped
  next task idx retry phase =>
    split_ifs at stepped
    · cases stepped
      exact .pushed phase
    · cases stepped
      exact .goOn phase
    · cases stepped
      exact .goOn phase
  next => cases stepped

theorem move_drain (stepped : w.drain = .ok w') : Move .drain w w' := by
  unfold drain at stepped
  split at stepped
  next phase =>
    split_ifs at stepped
    · cases stepped
      exact .goOn phase
    · cases stepped
      exact .goOn phase
  next phase =>
    split at stepped
    next =>
      cases stepped
      exact .goOn phase
    next front =>
      cases stepped
      exact .popped phase front
  next => cases stepped

theorem move_send {delivered : Bool} (succeeds : delivered = true)
    (stepped : w.send delivered = .ok w') :
    Move (.send delivered) w w' := by
  unfold send at stepped
  split at stepped
  next phase =>
    rw [if_pos succeeds] at stepped
    cases stepped
    exact .sent phase
  next => cases stepped

theorem move_beat {now later : Nanoseconds} {delivered : Bool} (succeeds : delivered = true)
    (stepped : w.beat now later delivered = .ok w') :
    Move (.beat now later delivered) w w' := by
  unfold beat at stepped
  split at stepped
  next phase =>
    rw [if_pos succeeds] at stepped
    split_ifs at stepped
    · cases stepped
      exact .goOn phase rfl rfl rfl (by simp [completions, Message.complete?])
    · cases stepped
      exact .goOn phase
  next => cases stepped

theorem move_execution {thread : Fin n} {startedAt completedAt : Nanoseconds}
    (running : w.running = true)
    (stepped : w.executionStep thread startedAt completedAt = .ok w') :
    Move (.execution thread startedAt completedAt) w w' := by
  unfold executionStep at stepped
  split at stepped
  next waiting =>
    rw [if_pos running] at stepped
    split at stepped
    next =>
      cases stepped
      exact .refl w
    next front =>
      cases stepped
      exact .taken waiting front
  next executing =>
    rw [if_pos running] at stepped
    cases stepped
    exact .executed startedAt completedAt executing
  next responding =>
    split_ifs at stepped
    · cases stepped
      exact .responded responding
    · cases stepped
      exact .refl w
  next => cases stepped

theorem Move.running (move : Move action w w') : w'.running = w.running := by
  cases move with
  | quiet same => exact same.running
  | _ => rfl

/-- Every step of an undisturbed worker is one of the moves. -/
theorem move_of_step (running : w.running = true) (undisturbed : action.Undisturbed)
    (stepped : w.step action = .ok w') : Move action w w' := by
  cases action with
  | connect established => exact move_connect undisturbed stepped
  | acknowledge reply now => exact move_acknowledge undisturbed stepped
  | poll outcome => exact move_poll running undisturbed stepped
  | push => exact move_push stepped
  | drain => exact move_drain stepped
  | send delivered => exact move_send undisturbed stepped
  | beat now later delivered => exact move_beat undisturbed stepped
  | execution thread startedAt completedAt => exact move_execution running stepped
  | stop => cases undisturbed

theorem sound_init (now : Nanoseconds) : (init now : Worker n).Sound where
  running := rfl
  queued := by simp [init, AllKnown]
  network := by simp [init, NetworkPhase.tasks, AllKnown]
  execution := by simp [init, ExecutionPhase.tasks, AllKnown]

theorem Sound.move (sound : w.Sound) (known : action.BringsKnown) (move : Move action w w') :
    w'.Sound := by
  have ⟨running, queued, network, execution⟩ := sound
  cases move with
  | quiet same =>
      refine ⟨same.running.trans running, ?_, ?_, ?_⟩
      · rwa [same.taskQueues]
      · rwa [same.tasks]
      · rwa [same.execution]
  | @received msg task polled polling assigned =>
      refine ⟨running, queued, ?_, execution⟩
      rw [polled] at known
      simpa [AllKnown, NetworkPhase.tasks] using known task assigned
  | @pushed task idx retry pushing =>
      refine ⟨running, sound.setQueue ?_, by simp [AllKnown, NetworkPhase.tasks], execution⟩
      intro other member
      obtain before | rfl := List.mem_append.mp member |>.imp_right List.mem_singleton.mp
      · exact queued idx other before
      · exact network other (by simp [pushing, NetworkPhase.tasks])
  | @taken thread task rest waiting front =>
      refine ⟨running, sound.setQueue ?_, network, sound.setExecution ?_⟩
      · intro other member
        exact queued thread other (by simp [front, member])
      · simpa [AllKnown, ExecutionPhase.tasks] using queued thread task (by simp [front])
  | executed startedAt completedAt executing =>
      refine ⟨running, queued, network, sound.setExecution ?_⟩
      simp [AllKnown, ExecutionPhase.tasks]
  | responded responding =>
      refine ⟨running, queued, network, sound.setExecution ?_⟩
      simp [AllKnown, ExecutionPhase.tasks]
  | popped popping front =>
      exact ⟨running, queued, by simp [AllKnown, NetworkPhase.tasks], execution⟩
  | sent sending =>
      exact ⟨running, queued, by simp [AllKnown], execution⟩

section Accounts

variable {β : Type} {ofTask : AssignMsg → β} {ofResponse : CompleteMsg → β}

theorem conserved_init (now : Nanoseconds) :
    (init now : Worker n).Conserved ofTask ofResponse := by
  simp [Conserved, init, assignments, completions, queued, inNetwork, inExecution, inHands,
    answered, delivered, Places.total, NetworkPhase.tasks, NetworkPhase.responses,
    ExecutionPhase.tasks, ExecutionPhase.responses]

/-- Nothing is lost and nothing is made up, if the response to a task in execution counts for
the task. -/
theorem Conserved.move (conserved : w.Conserved ofTask ofResponse)
    (answers : ∀ thread task startedAt completedAt, w.execution thread = .executing task →
      ofResponse (Worker.execute task startedAt completedAt) = ofTask task)
    (move : Move action w w') : w'.Conserved ofTask ofResponse := by
  cases move with
  | quiet same => exact conserved.quiet same
  | received polled polling assigned => exact conserved.receive polling assigned
  | pushed pushing => exact conserved.push pushing
  | taken waiting front => exact conserved.take waiting front
  | @executed thread task startedAt completedAt executing =>
      exact conserved.execute executing (answers thread task startedAt completedAt executing)
  | responded responding => exact conserved.respond responding
  | popped popping front => exact conserved.pop popping front
  | sent sending => exact conserved.send sending (tasks_afterSend ..) (responses_afterSend ..)

/-- The admitted steps of a worker. -/
def Admitted (_ : Worker n) (action : WorkerAction n) : Prop :=
  action.Undisturbed ∧ action.BringsKnown

theorem sound_conserved_preserved
    (answers : ∀ (task : AssignMsg) (startedAt completedAt : Nanoseconds), task.type.Known →
      ofResponse (Worker.execute task startedAt completedAt) = ofTask task) :
    Preserves step Admitted fun w : Worker n => w.Sound ∧ w.Conserved ofTask ofResponse := by
  intro w action w' holds admitted stepped
  have move := move_of_step holds.1.running admitted.1 stepped
  refine ⟨holds.1.move admitted.2 move, holds.2.move ?_ move⟩
  intro thread task startedAt completedAt executing
  apply answers
  exact holds.1.execution thread task (by simp [executing, ExecutionPhase.tasks])

end Accounts

/-! ## Every run -/

/-- What a response reports besides its times. -/
def report (response : CompleteMsg) : TaskId × UInt32 × UInt8 :=
  (response.taskId, response.result, response.success)

/-- What the response to a task should report. -/
def expected (task : AssignMsg) : TaskId × UInt32 × UInt8 :=
  (task.taskId, if task.type = .wordCount then countWords task.words else 0, 1)

theorem report_execute (task : AssignMsg) (startedAt completedAt : Nanoseconds)
    (known : task.type.Known) : report (execute task startedAt completedAt) = expected task := by
  unfold execute expected
  cases kind : task.type with
  | synthetic => rfl
  | wordCount => rfl
  | other byte unnamed =>
      rw [kind] at known
      exact known.elim

/-- As long as no socket call fails and the worker is not stopped, every id that it has
received is in one place, with the multiplicity with which it was received.  The responses
sent are among those expected for the tasks received, again with multiplicity, so that the
response to a word count reports the count of a text received under its id. -/
theorem every_assignment_answered_once {now : Nanoseconds} {actions : List (WorkerAction n)}
    (undisturbed : ∀ action ∈ actions, action.Undisturbed)
    (known : ∀ action ∈ actions, action.BringsKnown)
    (ran : Transition.run step (init now) actions = .ok w) :
    Places.items AssignMsg.taskId w.assignments =
      w.queued AssignMsg.taskId + w.inNetwork AssignMsg.taskId CompleteMsg.taskId +
        w.inExecution AssignMsg.taskId CompleteMsg.taskId + w.answered CompleteMsg.taskId +
          w.delivered CompleteMsg.taskId ∧
    w.delivered report ≤ Places.items expected w.assignments ∧
    ∀ response ∈ w.completions, ∃ task ∈ w.assignments, task.taskId = response.taskId ∧
      (task.type = .wordCount → response.result = countWords task.words) := by
  have admitted : Along step Admitted (init now) actions :=
    (along_of_forall undisturbed).and (along_of_forall known)
  have ids := ((sound_conserved_preserved fun _ startedAt completedAt known =>
    execute_taskId known startedAt completedAt).run ⟨sound_init now, conserved_init now⟩
      admitted ran).2
  have reports := ((sound_conserved_preserved report_execute).run
    ⟨sound_init now, conserved_init now⟩ admitted ran).2
  have among : w.delivered report ≤ Places.items expected w.assignments := by
    rw [reports]
    exact Multiset.le_add_left _ _
  refine ⟨ids, among, fun response sent => ?_⟩
  have reported : report response ∈ w.delivered report :=
    (Places.mem_items report).mpr ⟨response, sent, rfl⟩
  obtain ⟨task, member, same⟩ :=
    (Places.mem_items expected).mp (Multiset.mem_of_le among reported)
  obtain ⟨sameId, sameResult, _⟩ := by simpa [expected, report] using same
  refine ⟨task, member, sameId, fun wordCount => ?_⟩
  rw [← sameResult, if_pos wordCount]

/-- Two threads: a word count is answered while a synthetic task of the same id waits. -/
theorem word_count_answered_once :
    let assign (task : AssignMsg) : WorkerAction 2 :=
      .poll (.message { body := .assign task })
    let actions : List (WorkerAction 2) :=
      [.connect true, .acknowledge (some { body := .acknowledge 0 }) 0,
        assign { taskId := 7, type := .wordCount, words := [97, 32, 98] }, .push,
        .drain, .drain, .drain, .drain, .drain, .beat 0 0 true, assign { taskId := 7 }, .push,
        .execution 0 1 2, .execution 0 1 2, .execution 0 1 2, .drain, .drain, .drain, .drain,
        .send true]
    ∃ w, Transition.run step (init 0) actions = .ok w ∧
      w.completions = [⟨7, 1, 2, 2, 1⟩] ∧
      {7, 7} = w.queued AssignMsg.taskId +
        w.inNetwork AssignMsg.taskId CompleteMsg.taskId +
          w.inExecution AssignMsg.taskId CompleteMsg.taskId + w.answered CompleteMsg.taskId +
            w.delivered CompleteMsg.taskId := by
  intro assign actions
  have ran : ∃ w, Transition.run step (init 0) actions = .ok w ∧
      w.completions = [⟨7, 1, 2, 2, 1⟩] ∧ w.assignments.map AssignMsg.taskId = [7, 7] := by
    decide +kernel
  obtain ⟨w, ran, completions, assignments⟩ := ran
  have undisturbed : ∀ action ∈ actions, action.Undisturbed := by decide +kernel
  have known : ∀ action ∈ actions, action.BringsKnown := by decide +kernel
  have ids := (every_assignment_answered_once undisturbed known ran).1
  rw [Places.items, assignments] at ids
  exact ⟨w, ran, completions, ids⟩

end Worker

end TaskCoordinator
