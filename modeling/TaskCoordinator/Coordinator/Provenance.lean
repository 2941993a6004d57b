import TaskCoordinator.Coordinator.Stamps
import TaskCoordinator.Worker.Execution

/-!
# Where results come from

A value that a coordinator reports to a client has been computed by some worker, from a text that
some request has brought.  On its way it passes through the record of the task, through the log
and, at a backup, through replication messages and the stash of early completions.

This module follows types, texts and values through all of these.  A snapshot leaves the texts
out.  A record that has been taken from one is good for reporting a value and not for assigning
the task, so that only the tasks that wait or run have to be complete.
-/

namespace TaskCoordinator

open Transition

/-- What a request asks for. -/
def SubmitMsg.value (msg : SubmitMsg) : UInt32 :=
  if msg.type = .wordCount then Worker.countWords msg.words else 0

/-! ## Requests behind data -/

section Requests

variable (requested : SubmitMsg → Prop)

/-- There was a request for the task with this type. -/
def Typed (id : TaskId) (type : TaskType) : Prop :=
  ∃ msg, requested msg ∧ msg.taskId = id ∧ msg.type = type

/-- There was a request for the task with this type and, if it is a word count, this text. -/
def Asked (id : TaskId) (type : TaskType) (words : List UInt8) : Prop :=
  ∃ msg, requested msg ∧ msg.taskId = id ∧ msg.type = type ∧
    (type = .wordCount → msg.words = words)

/-- A successful value is what some request for the task asks for. -/
def Computed (id : TaskId) (success : UInt8) (value : UInt32) : Prop :=
  success ≠ 0 → ∃ msg, requested msg ∧ msg.taskId = id ∧ msg.value = value

/-- The record is good for reporting its value. -/
structure Task.Genuine (task : Task) : Prop where
  typed : Typed requested task.id task.type
  computed : Computed requested task.id task.success task.result

/-- Whatever the message says about a task comes from a request. -/
def Message.Genuine (msg : Message) : Prop :=
  match msg.body with
  | .assign order => Asked requested order.taskId order.type order.words
  | .result result => Computed requested result.taskId result.success result.result
  | .assignedReplicate copy => Asked requested copy.taskId copy.taskType copy.words
  | .completedReplicate copy => Computed requested copy.taskId copy.success copy.result
  | .snapshot tasks => ∀ id task, tasks.find? id = some task → task.Genuine requested
  | _ => True

/-- Everything that a coordinator holds or has sent comes from requests.  The tasks that may be
assigned later have their texts. -/
structure Coordinator.Genuine (s : Coordinator) : Prop where
  records : ∀ id task, s.tasks.find? id = some task → task.Genuine requested
  complete : ∀ id task, s.tasks.find? id = some task →
    (id ∈ s.queuedBacklog ∨ ∃ worker, s.Runs worker id) →
    Asked requested id task.type task.words
  early : ∀ id replication, s.earlyCompleteReps.lookup id = some replication →
    Computed requested replication.msg.taskId replication.msg.success replication.msg.result
  sent : ∀ out ∈ s.outgoingQueue, out.msg.Genuine requested
  logged : ∀ slot, (s.replicationLog.slots slot).Genuine requested

/-- The event brings a request, or a value that comes from one. -/
def Event.Genuine : Event → Prop
  | .submit _ msg _ => requested msg
  | .complete _ msg _ => Computed requested msg.taskId msg.success msg.result
  | _ => True

end Requests

variable {requested : SubmitMsg → Prop}

theorem Asked.typed {id : TaskId} {type : TaskType} {words : List UInt8}
    (asked : Asked requested id type words) : Typed requested id type := by
  obtain ⟨msg, isRequested, isId, isType, _⟩ := asked
  exact ⟨msg, isRequested, isId, isType⟩

/-- A task that is no word count has the value 0. -/
theorem Typed.computed {id : TaskId} {type : TaskType} (typed : Typed requested id type)
    (other : type ≠ .wordCount) (success : UInt8) : Computed requested id success 0 := by
  obtain ⟨msg, isRequested, isId, rfl⟩ := typed
  exact fun _ => ⟨msg, isRequested, isId, if_neg other⟩

/-- What is reported or stored depends on the type of the record. -/
theorem Typed.computed_ite {id : TaskId} {type : TaskType} (typed : Typed requested id type)
    {success : UInt8} {value : UInt32} (computed : Computed requested id success value) :
    Computed requested id success (if type = .wordCount then value else 0) := by
  split_ifs with wordCount
  · exact computed
  · exact typed.computed wordCount success

/-- The assignment in a genuine `ASSIGN`. -/
theorem Message.Genuine.asked {msg : Message} (genuine : msg.Genuine requested) {order : AssignMsg}
    (carries : msg.assign? = some order) :
    Asked requested order.taskId order.type order.words := by
  unfold Message.Genuine at genuine
  unfold Message.assign? at carries
  split at carries
  next body kind =>
    cases carries
    rw [kind] at genuine
    exact genuine
  next => cases carries

/-- A worker executes what it has been asked to. -/
theorem Asked.computed {order : AssignMsg}
    (asked : Asked requested order.taskId order.type order.words)
    (startedAt completedAt : Nanoseconds) :
    Computed requested (Worker.execute order startedAt completedAt).taskId
      (Worker.execute order startedAt completedAt).success
      (Worker.execute order startedAt completedAt).result := by
  obtain ⟨msg, isRequested, isId, isType, isText⟩ := asked
  unfold Worker.execute
  cases kind : order.type with
  | synthetic =>
      refine fun _ => ⟨msg, isRequested, isId, if_neg ?_⟩
      rw [isType, kind]
      nofun
  | wordCount =>
      refine fun _ => ⟨msg, isRequested, isId, ?_⟩
      rw [SubmitMsg.value, if_pos (isType.trans kind), isText kind]
      rfl
  | other => exact fun success => absurd rfl success

/-! ## Records -/

theorem asked_of_request {msg : SubmitMsg} (isRequested : requested msg) (now : Nanoseconds) :
    Asked requested msg.taskId (msg.task now).type (msg.task now).words := by
  refine ⟨msg, isRequested, rfl, (msg.task_type now).symm, fun wordCount => ?_⟩
  rw [SubmitMsg.task_type] at wordCount
  simp [SubmitMsg.task, wordCount]

theorem SubmitMsg.task_success (msg : SubmitMsg) (now : Nanoseconds) :
    (msg.task now).success = 0 := by
  unfold SubmitMsg.task
  cases msg.type <;> rfl

namespace Task

theorem genuine_of_request {msg : SubmitMsg} (isRequested : requested msg) (now : Nanoseconds) :
    (msg.task now).Genuine requested where
  typed := ⟨msg, isRequested, (msg.task_id now).symm, (msg.task_type now).symm⟩
  computed := fun success => absurd (msg.task_success now) success

theorem Genuine.update {task : Task} (genuine : task.Genuine requested) {msg : CompleteMsg}
    (same : msg.taskId = task.id)
    (computed : Computed requested msg.taskId msg.success msg.result) :
    (msg.update task).Genuine requested where
  typed := genuine.typed
  computed := genuine.typed.computed_ite (same ▸ computed)

theorem Genuine.onWire {task : Task} (genuine : task.Genuine requested) :
    task.onWire.Genuine requested :=
  ⟨genuine.typed, genuine.computed⟩

theorem genuine_of_replication {msg : AssignedReplicationMsg}
    (asked : Asked requested msg.taskId msg.taskType msg.words) : msg.task.Genuine requested := by
  have sameType : msg.task.type = msg.taskType := by
    unfold AssignedReplicationMsg.task
    cases msg.taskType <;> rfl
  have noSuccess : msg.task.success = 0 := by
    unfold AssignedReplicationMsg.task
    cases msg.taskType <;> rfl
  refine ⟨?_, fun success => absurd noSuccess success⟩
  rw [AssignedReplicationMsg.task_id, sameType]
  exact asked.typed

theorem asked_of_replication {msg : AssignedReplicationMsg}
    (asked : Asked requested msg.taskId msg.taskType msg.words) :
    Asked requested msg.taskId msg.task.type msg.task.words := by
  obtain ⟨request, isRequested, isId, isType, isText⟩ := asked
  unfold AssignedReplicationMsg.task
  cases kind : msg.taskType with
  | synthetic => exact ⟨request, isRequested, isId, isType.trans kind, nofun⟩
  | wordCount => exact ⟨request, isRequested, isId, isType.trans kind, fun _ => isText kind⟩
  | other => exact ⟨request, isRequested, isId, isType.trans kind, nofun⟩

end Task

namespace Coordinator

variable {s s' : Coordinator} {event : Event}

/-! ## Messages -/

theorem assignMessage_genuine {task : Task} (asked : Asked requested task.id task.type task.words) :
    (s.assignMessage task).Genuine requested := by
  obtain ⟨request, isRequested, isId, isType, isText⟩ := asked
  unfold assignMessage Message.Genuine
  cases kind : task.type with
  | synthetic => exact ⟨request, isRequested, isId, isType.trans kind, nofun⟩
  | wordCount => exact ⟨request, isRequested, isId, isType.trans kind, fun _ => isText kind⟩
  | other => exact ⟨request, isRequested, isId, isType.trans kind, nofun⟩

theorem assignedReplication_genuine {task : Task}
    (asked : Asked requested task.id task.type task.words) :
    (s.assignedReplication task).Genuine requested := by
  obtain ⟨request, isRequested, isId, isType, isText⟩ := asked
  unfold assignedReplication Message.Genuine
  cases kind : task.type with
  | synthetic => exact ⟨request, isRequested, isId, isType.trans kind, nofun⟩
  | wordCount => exact ⟨request, isRequested, isId, isType.trans kind, fun _ => isText kind⟩
  | other => exact ⟨request, isRequested, isId, isType.trans kind, nofun⟩

theorem resultMessage_genuine {task : Task} (genuine : task.Genuine requested) :
    (s.resultMessage task).Genuine requested :=
  genuine.typed.computed_ite genuine.computed

/-! ## Steps -/

theorem genuine_init : init.Genuine requested where
  records := by simp [init]
  complete := by simp [init]
  early := by simp [init]
  sent := by simp [init]
  logged := fun _ => trivial

/-- What is new in the queue and in the log is genuine. -/
structure Adds (requested : SubmitMsg → Prop) (s s' : Coordinator) : Prop where
  sent : ∀ out ∈ s'.outgoingQueue, out ∈ s.outgoingQueue ∨ out.msg.Genuine requested
  logged : ∀ slot, s'.replicationLog.slots slot = s.replicationLog.slots slot ∨
    (s'.replicationLog.slots slot).Genuine requested

theorem adds_nothing (queue : s'.outgoingQueue = s.outgoingQueue)
    (log : s'.replicationLog.slots = s.replicationLog.slots) : Adds requested s s' where
  sent := fun _ member => .inl (queue ▸ member)
  logged := fun slot => .inl (congrFun log slot)

theorem sent_of_push {sent out : OutgoingEvent}
    (queue : s'.outgoingQueue = s.outgoingQueue ++ [sent]) (genuine : sent.msg.Genuine requested)
    (member : out ∈ s'.outgoingQueue) : out ∈ s.outgoingQueue ∨ out.msg.Genuine requested := by
  rw [queue, List.mem_append, List.mem_singleton] at member
  obtain before | rfl := member
  · exact .inl before
  · exact .inr genuine

theorem adds_push {sent : OutgoingEvent} (queue : s'.outgoingQueue = s.outgoingQueue ++ [sent])
    (genuine : sent.msg.Genuine requested)
    (log : s'.replicationLog.slots = s.replicationLog.slots) : Adds requested s s' where
  sent := fun _ => sent_of_push queue genuine
  logged := fun slot => .inl (congrFun log slot)

theorem adds_pushAndLog {sent : OutgoingEvent} {logged : Message}
    (queue : s'.outgoingQueue = s.outgoingQueue ++ [sent])
    (genuine : sent.msg.Genuine requested)
    (log : s'.replicationLog.slots = (s.replicationLog.add logged).slots)
    (genuineLogged : logged.Genuine requested) : Adds requested s s' where
  sent := fun _ => sent_of_push queue genuine
  logged := by
    intro slot
    rw [log]
    by_cases written : slot = s.replicationLog.write
    · exact .inr (by simpa [RingLog.add, written] using genuineLogged)
    · exact .inl (by simp [RingLog.add, Function.update_of_ne written])

theorem Adds.sent_genuine (adds : Adds requested s s') (genuine : s.Genuine requested) :
    ∀ out ∈ s'.outgoingQueue, out.msg.Genuine requested :=
  fun out member => (adds.sent out member).elim (genuine.sent out) id

theorem Adds.logged_genuine (adds : Adds requested s s') (genuine : s.Genuine requested)
    (slot : Nat) : (s'.replicationLog.slots slot).Genuine requested := by
  obtain same | isNew := adds.logged slot
  · rw [same]
    exact genuine.logged slot
  · exact isNew

/-- Nothing changes for the tasks. -/
theorem Genuine.of_same (genuine : s.Genuine requested) (tasks : s'.tasks = s.tasks)
    (fewer : ∀ id ∈ s'.queuedBacklog, id ∈ s.queuedBacklog)
    (runs : ∀ worker id, s'.Runs worker id → s.Runs worker id)
    (early : s'.earlyCompleteReps = s.earlyCompleteReps) (adds : Adds requested s s') :
    s'.Genuine requested where
  records := by
    rw [tasks]
    exact genuine.records
  complete := by
    intro id task found waits
    rw [tasks] at found
    refine genuine.complete id task found (waits.imp (fewer id) ?_)
    exact fun ⟨worker, running⟩ => ⟨worker, runs worker id running⟩
  early := by
    rw [early]
    exact genuine.early
  sent := adds.sent_genuine genuine
  logged := adds.logged_genuine genuine

/-- A record is written, and its task is complete or does not wait. -/
theorem Genuine.set (genuine : s.Genuine requested) {task : Task}
    (isGenuine : task.Genuine requested) (tasks : s'.tasks = s.tasks.set task)
    (complete : (task.id ∈ s'.queuedBacklog ∨ ∃ worker, s'.Runs worker task.id) →
      Asked requested task.id task.type task.words)
    (backlog : ∀ id ∈ s'.queuedBacklog, id ≠ task.id → id ∈ s.queuedBacklog)
    (runs : ∀ worker id, s'.Runs worker id → id ≠ task.id → s.Runs worker id)
    (early : s'.earlyCompleteReps = s.earlyCompleteReps) (adds : Adds requested s s') :
    s'.Genuine requested where
  records := by
    intro id stored found
    rw [tasks, TaskTable.find?_set] at found
    split at found
    next =>
      cases found
      exact isGenuine
    next => exact genuine.records id stored found
  complete := by
    intro id stored found waits
    rw [tasks, TaskTable.find?_set] at found
    split at found
    next same =>
      cases found
      subst id
      exact complete waits
    next different =>
      refine genuine.complete id stored found (waits.imp (backlog id · different) ?_)
      exact fun ⟨worker, running⟩ => ⟨worker, runs worker id running different⟩
  early := by
    rw [early]
    exact genuine.early
  sent := adds.sent_genuine genuine
  logged := adds.logged_genuine genuine

theorem Genuine.accept (genuine : s.Genuine requested) (fd : Fd) {msg : SubmitMsg}
    (isRequested : requested msg) (now : Nanoseconds) :
    (s.accept fd msg now).Genuine requested := by
  refine genuine.set (Task.genuine_of_request isRequested now) rfl ?_ (fun _ member _ => member)
    (fun _ _ running _ => running) rfl (adds_nothing rfl rfl)
  rw [SubmitMsg.task_id]
  exact fun _ => asked_of_request isRequested now

theorem Genuine.assignTo (genuine : s.Genuine requested) {task : Task}
    (isGenuine : task.Genuine requested) (asked : Asked requested task.id task.type task.words)
    {activeIdx : Nat} {worker : WorkerId} {state : WorkerState}
    (offers : s.Offers activeIdx worker state) (fd : Fd) (now : Nanoseconds) :
    (s.assignTo task activeIdx worker fd now).Genuine requested := by
  have stillGenuine : (task.assignedTo worker now).Genuine requested :=
    ⟨isGenuine.typed, isGenuine.computed⟩
  refine genuine.set stillGenuine rfl (fun _ => asked) (fun _ member _ => member) ?_ rfl
    (adds_pushAndLog rfl (assignMessage_genuine asked) rfl (assignedReplication_genuine asked))
  intro other id running different
  obtain ⟨_, same⟩ | before := (runs_assignTo offers.held).mp running
  · exact absurd same different
  · exact before

theorem Genuine.finish (genuine : s.Genuine requested) {msg : CompleteMsg} {task : Task}
    (found : s.tasks.find? msg.taskId = some task)
    (computed : Computed requested msg.taskId msg.success msg.result) :
    (s.finish msg task).Genuine requested := by
  have isId : task.id = msg.taskId := TaskTable.id_of_find? found
  refine genuine.set ((genuine.records _ task found).update isId.symm computed) rfl ?_
    (fun _ member _ => member) (fun _ _ running _ => (runs_finish.mp running).2) rfl
    (adds_nothing rfl rfl)
  intro waits
  rw [CompleteMsg.update_id, isId] at waits ⊢
  refine genuine.complete msg.taskId task found (waits.imp_right ?_)
  exact fun ⟨worker, running⟩ => ⟨worker, (runs_finish.mp running).2⟩

theorem Genuine.answer (genuine : s.Genuine requested) {task : Task}
    (isGenuine : task.Genuine requested) : (s.answer task).Genuine requested :=
  genuine.of_same rfl (fun _ member => member) (fun _ _ running => running) rfl
    (adds_pushAndLog rfl (resultMessage_genuine isGenuine) rfl isGenuine.computed)

theorem Genuine.received (genuine : s.Genuine requested) (unstamped : event.stamp? = none)
    (brings : event.Genuine requested) (received : Received s event s') :
    s'.Genuine requested := by
  cases received with
  | @submitAssigned fd msg env _ _ _ now offers =>
      have accepted := genuine.accept fd brings env.now
      have stillOffers : (s.accept fd msg env.now).Offers _ _ _ :=
        ⟨offers.active, offers.held, offers.room⟩
      refine accepted.assignTo (Task.genuine_of_request brings env.now) ?_ stillOffers _ now
      rw [SubmitMsg.task_id]
      exact asked_of_request brings env.now
  | @submitQueued fd msg env =>
      have isGenuine := Task.genuine_of_request brings env.now
      refine genuine.set isGenuine rfl ?_ ?_ (fun _ _ running _ => running) rfl
        (adds_nothing rfl rfl)
      · rw [SubmitMsg.task_id]
        exact fun _ => asked_of_request brings env.now
      · intro id member different
        rw [SubmitMsg.task_id] at different
        obtain before | isNew := List.mem_append.mp member
        · exact before
        · exact absurd (List.mem_singleton.mp isNew) different
  | completeAnswered found =>
      have finished := genuine.finish found brings
      refine finished.answer ?_
      have isId := TaskTable.id_of_find? found
      exact (genuine.records _ _ found).update isId.symm brings
  | completeDeferred found => exact { genuine.finish found brings with }
  | assignedReplicate | completedReplicate | snapshot => cases unstamped
  | peerReconnected =>
      unfold processPeerReconnected
      split_ifs
      · exact genuine.of_same rfl (fun _ member => member) (fun _ _ running => running) rfl
          (adds_push rfl genuine.records rfl)
      · exact { genuine with }
      · exact genuine
  | topRequest =>
      exact genuine.of_same rfl (fun _ member => member) (fun _ _ running => running) rfl
        (adds_push rfl trivial rfl)
  | heartbeat =>
      refine genuine.of_same rfl (fun _ member => member) (fun worker id running => ?_) rfl
        (adds_nothing rfl rfl)
      refine (runs_of_modify_keeps rfl ?_).mp running
      exact fun _ => rfl
  | registerReused =>
      refine genuine.of_same rfl (fun _ member => member) (fun worker id running => ?_) rfl
        (adds_push rfl trivial rfl)
      refine (runs_of_modify_keeps rfl ?_).mp running
      exact fun _ => rfl
  | registerFresh =>
      exact genuine.of_same rfl (fun _ member => member)
        (fun _ _ running => runs_registerFresh.mp running) rfl (adds_push rfl trivial rfl)
  | completeUnknown => exact { genuine with }
  | registerRefused | pass | backlog | replicate | sweep => exact genuine

theorem Genuine.died (genuine : s.Genuine requested) {dead : Coordinator} {worker : WorkerId}
    {state : WorkerState} {running : List TaskId} (held : s.workersStates[worker]? = some state)
    (order : running.Perm state.runningTasks.items)
    (declared : s.declareDead worker running = .ok dead) : dead.Genuine requested := by
  obtain ⟨inactive, _, frame, table⟩ := declareDead_spec declared
  have before : ∀ id task, dead.tasks.find? id = some task →
      ∃ old, s.tasks.find? id = some old ∧ (task = old ∨ task = old.requeued) := by
    intro id task found
    rw [table id] at found
    obtain ⟨old, foundOld, rfl⟩ := Option.map_eq_some_iff.mp found
    refine ⟨old, foundOld, ?_⟩
    split
    next => exact .inr rfl
    next => exact .inl rfl
  refine ⟨fun id task found => ?_, fun id task found waits => ?_, ?_, ?_, ?_⟩
  · obtain ⟨old, foundOld, rfl | rfl⟩ := before id task found
    · exact genuine.records id task foundOld
    · exact ⟨(genuine.records id old foundOld).typed, (genuine.records id old foundOld).computed⟩
  · -- A task that has been taken from the worker had its text, since it ran.
    have waited : id ∈ s.queuedBacklog ∨ ∃ worker, s.Runs worker id := by
      obtain queued | ⟨other, runs⟩ := waits
      · rw [frame] at queued
        obtain queuedBefore | requeued := List.mem_append.mp queued
        · exact .inl queuedBefore
        · exact .inr ⟨worker, (runs_iff_of_held held).mpr (order.mem_iff.mp requeued)⟩
      · exact .inr ⟨other, ((runs_declareDead declared).mp runs).2⟩
    obtain ⟨old, foundOld, rfl | rfl⟩ := before id task found
    · exact genuine.complete id task foundOld waited
    · exact genuine.complete id old foundOld waited
  · rw [frame]
    exact genuine.early
  · rw [frame]
    exact genuine.sent
  · rw [frame]
    exact genuine.logged

theorem Genuine.move (genuine : s.Genuine requested) (move : Move event s s') :
    s'.Genuine requested := by
  cases move with
  | replicated =>
      exact genuine.of_same rfl (fun _ member => member) (fun _ _ running => running) rfl
        (adds_push rfl (genuine.logged _) rfl)
  | dropped => exact { genuine with }
  | answered _ _ found => exact { genuine.answer (genuine.records _ _ found) with }
  | @assigned id _ task _ _ state now _ front found offers =>
      have isId := TaskTable.id_of_find? found
      have asked := genuine.complete id task found (.inl (by simp [front]))
      have assigned :=
        genuine.assignTo (genuine.records id task found) (isId.symm ▸ asked) offers state.fd now
      refine assigned.of_same rfl (fun id member => ?_) (fun _ _ running => running) rfl
        (adds_nothing rfl rfl)
      rw [assignTo_queuedBacklog, front]
      exact List.mem_cons_of_mem _ member
  | died _ held _ order declared => exact genuine.died held order declared

/-- What a coordinator says about tasks comes from requests, if what it is told does. -/
theorem genuine_preserved :
    Preserves step (fun _ event => event.stamp? = none ∧ event.Genuine requested)
      (Genuine requested) :=
  preserves_of_moves
    (fun _ _ _ genuine admitted received => genuine.received admitted.1 admitted.2 received)
    (fun _ _ _ _ _ move genuine => genuine.move move)

/-! ## Replication messages -/

theorem Genuine.completeReplicate (genuine : s.Genuine requested)
    {replication : CompletedReplication}
    (computed : Computed requested replication.msg.taskId replication.msg.success
      replication.msg.result) :
    (s.processCompleteReplicateEvent replication).Genuine requested := by
  obtain outdated | stashed | ⟨task, found, _, completed⟩ := completeReplicate_cases s replication
  · rw [outdated]
    exact { genuine with }
  · rw [stashed]
    refine { genuine with early := ?_ }
    intro id early isEarly
    by_cases same : id = replication.msg.taskId
    · subst id
      rw [AList.lookup_insert] at isEarly
      cases isEarly
      exact computed
    · rw [AList.lookup_insert_ne same] at isEarly
      exact genuine.early id early isEarly
  · rw [completed]
    have isId := TaskTable.id_of_find? found
    have isGenuine : (replication.msg.update task).Genuine requested :=
      ⟨(genuine.records _ _ found).typed, isId.symm ▸ computed⟩
    refine genuine.set isGenuine rfl ?_ (fun _ member _ => member) (fun _ _ running _ => running)
      rfl (adds_nothing rfl rfl)
    intro waits
    have asked := genuine.complete _ task found (isId ▸ waits)
    exact isId.symm ▸ asked

theorem Genuine.assignReplicate (genuine : s.Genuine requested) (epoch : UInt64)
    {msg : AssignedReplicationMsg} (asked : Asked requested msg.taskId msg.taskType msg.words) :
    (s.processAssignReplicateEvent epoch msg).Genuine requested := by
  have assigned : Genuine requested
      { s with
        isPrimary := false
        currentEpoch := epoch
        tasks := s.tasks.set msg.task
        metrics := s.metrics.recordAssignment } := by
    refine genuine.set (Task.genuine_of_replication asked) rfl ?_ (fun _ member _ => member)
      (fun _ _ running _ => running) rfl (adds_nothing rfl rfl)
    rw [AssignedReplicationMsg.task_id]
    exact fun _ => Task.asked_of_replication asked
  unfold processAssignReplicateEvent
  split
  next => exact { genuine with }
  next =>
    split
    next => exact assigned
    next early isEarly =>
      have replayed := assigned.completeReplicate (genuine.early _ early isEarly)
      refine { replayed with early := ?_ }
      intro id replication found
      refine replayed.early id replication ?_
      by_cases same : id = msg.taskId
      · subst id
        simp at found
      · rwa [AList.lookup_erase_ne same] at found

theorem Genuine.snapshot (genuine : s.Genuine requested) (epoch : UInt64) {tasks : TaskTable}
    (records : ∀ id task, tasks.find? id = some task → task.Genuine requested)
    (idle : ∀ worker id, ¬ s.Runs worker id) (env : Env) :
    (s.processSnapshotEvent epoch tasks env).Genuine requested where
  records := records
  complete := by
    rintro id task _ (queued | ⟨worker, running⟩)
    · cases queued
    · exact absurd running (idle worker id)
  early := by simp [processSnapshotEvent]
  sent := genuine.sent
  logged := genuine.logged

/-- A coordinator takes a message from its peer.  When it takes a snapshot, none of its workers
runs a task. -/
theorem Genuine.receive (genuine : s.Genuine requested) (input : Fd × Env) {msg : Message}
    (isGenuine : msg.Genuine requested)
    (idle : msg.isSnapshot = true → ∀ worker id, ¬ s.Runs worker id) :
    (s.receive input msg).Genuine requested := by
  unfold Message.Genuine at isGenuine
  unfold Coordinator.receive
  cases kind : msg.body with
  | assignedReplicate copy =>
      rw [kind] at isGenuine
      exact genuine.assignReplicate msg.epoch isGenuine
  | completedReplicate copy =>
      rw [kind] at isGenuine
      exact genuine.completeReplicate isGenuine
  | snapshot tasks =>
      rw [kind] at isGenuine
      refine genuine.snapshot msg.epoch (fun id task found => ?_)
        (idle (by simp [Message.isSnapshot, kind])) input.2
      rw [TaskTable.find?_onWire] at found
      obtain ⟨stored, foundStored, rfl⟩ := Option.map_eq_some_iff.mp found
      exact (isGenuine id stored foundStored).onWire
  | _ => exact genuine

end Coordinator

end TaskCoordinator
