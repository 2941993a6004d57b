import TaskCoordinator.Coordinator.Replication

/-!
# Replay of the log at the backup

The primary logs an `ASSIGNED_REPLICATE` for every task it hands out and a
`COMPLETED_REPLICATE` for every result it sends.  The same task can run more than once: it
is handed out again when its worker has died, and its id is used again by a later run of
the client.  The backup is up to date when it has replayed the log and shows, for each task,
what the last message about the task says.

The backup stashes a completion of a task that it has as completed, in the expectation that
the completion belongs to the next run and its assignment is still under way.  A completion
that is logged without an assignment since the last one thus waits for the next run of the
task and completes it at once.
-/

namespace TaskCoordinator

namespace Message

/-- The task that an `ASSIGNED_REPLICATE` or a `COMPLETED_REPLICATE` is about. -/
def about? (msg : Message) : Option TaskId :=
  match msg.body with
  | .assignedReplicate body => some body.taskId
  | .completedReplicate body => some body.taskId
  | _ => none

/-- The message is an `ASSIGNED_REPLICATE`. -/
def isAssignment (msg : Message) : Bool :=
  match msg.body with
  | .assignedReplicate _ => true
  | _ => false

/-- The messages whose push adds a message to the log: `ASSIGN` and `RESULT`. -/
def isLogged (msg : Message) : Bool :=
  msg.assigns?.isSome || msg.answers?.isSome

end Message

namespace Coordinator

open Transition

variable {s s' backup : Coordinator} {event : Event} {history : List Message} {id : TaskId}

/-! ## The logged messages -/

/-- The messages that have gone through the log, oldest first: those pushed to the outgoing
queue and those still pending. -/
def logged (s : Coordinator) : List Message :=
  (s.outgoingQueue.map OutgoingEvent.msg).filter (fun msg => msg.about?.isSome) ++
    s.replicationLog.pending

/-- The number of messages ever added to the log, one with every `ASSIGN` and `RESULT`. -/
def addedToLog (s : Coordinator) : Nat :=
  (s.outgoingQueue.map OutgoingEvent.msg).countP Message.isLogged

/-- The log has never been full when a message was added, so that none was overwritten. -/
def NoneOverwritten (s : Coordinator) : Prop :=
  s.logged.length = s.addedToLog

/-- The last message about a task. -/
def lastAbout (history : List Message) (id : TaskId) : Option Message :=
  (history.filter fun msg => msg.about? = some id).getLast?

/-- The last message about a task is its assignment. -/
def AssignedLast (history : List Message) (id : TaskId) : Prop :=
  ∃ last, lastAbout history id = some last ∧ last.isAssignment = true

instance (history : List Message) (id : TaskId) : Decidable (AssignedLast history id) :=
  match found : lastAbout history id with
  | some last =>
      decidable_of_iff (last.isAssignment = true) (by simp [AssignedLast, found])
  | none => isFalse (by simp [AssignedLast, found])

theorem lastAbout_append_same {msg : Message} (about : msg.about? = some id) :
    lastAbout (history ++ [msg]) id = some msg := by
  simp [lastAbout, List.filter_append, about]

theorem lastAbout_append_other {msg : Message} (other : msg.about? ≠ some id) :
    lastAbout (history ++ [msg]) id = lastAbout history id := by
  simp [lastAbout, List.filter_append, other]

/-- Every completion of a history comes after an assignment of its task, with no other
completion of the task in between. -/
inductive Alternating : List Message → Prop where
  | nil : Alternating []
  | assigned {history : List Message} (epoch : UInt64) (body : AssignedReplicationMsg)
      (alternating : Alternating history) :
      Alternating (history ++ [{ epoch, body := .assignedReplicate body }])
  | completed {history : List Message} (epoch : UInt64) (body : CompletedReplicationMsg)
      (alternating : Alternating history) (assigned : AssignedLast history body.taskId) :
      Alternating (history ++ [{ epoch, body := .completedReplicate body }])

/-! ## The backup -/

/-- The backup takes messages from its peer, each on a connection and with inputs of its
own. -/
def receiveAll (backup : Coordinator) (deliveries : List ((Fd × Env) × Message)) :
    Coordinator :=
  deliveries.foldl (fun backup delivery => backup.receive delivery.1 delivery.2) backup

/-- The backup shows what the message says about the task: it runs, or it has completed
with the times, the success and the result of the message. -/
def Shows (backup : Coordinator) (id : TaskId) (msg : Message) : Prop :=
  ∃ task, backup.tasks.find? id = some task ∧
    match msg.body with
    | .assignedReplicate _ => task.state = .running
    | .completedReplicate body =>
        task.state = .completed ∧ task.startedAt = body.startedAt ∧
          task.completedAt = body.completedAt ∧ task.success = body.success ∧
          task.result = body.result
    | _ => False

/-- A task of which an assignment is shown is running. -/
theorem Shows.running {msg : Message} (shows : backup.Shows id msg)
    (isAssignment : msg.isAssignment = true) :
    (backup.tasks.find? id).map Task.state = some .running := by
  obtain ⟨task, found, content⟩ := shows
  unfold Message.isAssignment at isAssignment
  split at isAssignment
  next isBody => simpa [found, isBody] using content
  next => cases isAssignment

/-- The backup shows the last message about every task. -/
def ShowsLast (backup : Coordinator) (history : List Message) : Prop :=
  ∀ id msg, lastAbout history id = some msg → backup.Shows id msg

/-- A backup that has replayed a history without keeping back a completion. -/
structure Replayed (backup : Coordinator) (epoch : UInt64) (history : List Message) : Prop where
  recent : backup.currentEpoch ≤ epoch
  noneEarly : backup.earlyCompleteReps = ∅
  shows : backup.ShowsLast history

/-- The record of one task is replaced by what the new message says about it. -/
theorem ShowsLast.append {after : Coordinator} {msg : Message} {task : Task}
    (shows : backup.ShowsLast history) (about : msg.about? = some task.id)
    (table : after.tasks = backup.tasks.set task) (shown : after.Shows task.id msg) :
    after.ShowsLast (history ++ [msg]) := by
  intro id last isLast
  by_cases same : id = task.id
  · subst same
    rw [lastAbout_append_same about] at isLast
    cases isLast
    exact shown
  · have other : msg.about? ≠ some id := by
      rw [about]
      exact fun equal => same (Option.some.inj equal).symm
    rw [lastAbout_append_other other] at isLast
    obtain ⟨stored, found, content⟩ := shows id last isLast
    refine ⟨stored, ?_, content⟩
    rw [table, TaskTable.find?_set, if_neg same, found]

/-- An assignment starts the task at the backup. -/
theorem Replayed.assigned {epoch : UInt64} (replayed : backup.Replayed epoch history)
    (body : AssignedReplicationMsg) (input : Fd × Env) :
    (backup.receive input { epoch, body := .assignedReplicate body }).Replayed epoch
      (history ++ [{ epoch, body := .assignedReplicate body }]) := by
  have recent : ¬ epoch < backup.currentEpoch := UInt64.not_lt.mpr replayed.recent
  have outcome : backup.receive input { epoch, body := .assignedReplicate body } =
      { backup with
        isPrimary := false
        currentEpoch := epoch
        tasks := backup.tasks.set body.task
        metrics := backup.metrics.recordAssignment } := by
    simp [receive, processAssignReplicateEvent, recent, replayed.noneEarly]
  rw [outcome]
  refine ⟨UInt64.le_refl _, replayed.noneEarly, replayed.shows.append ?_ rfl ?_⟩
  · exact congrArg some body.task_id.symm
  · exact ⟨body.task, TaskTable.find?_set_self _ _, body.task_state⟩

/-- A completion that comes after the assignment completes the task at the backup. -/
theorem Replayed.completed {epoch : UInt64} {body : CompletedReplicationMsg}
    (replayed : backup.Replayed epoch history) (assigned : AssignedLast history body.taskId)
    (input : Fd × Env) :
    (backup.receive input { epoch, body := .completedReplicate body }).Replayed epoch
      (history ++ [{ epoch, body := .completedReplicate body }]) := by
  have recent : ¬ epoch < backup.currentEpoch := UInt64.not_lt.mpr replayed.recent
  obtain ⟨last, isLast, isAssignment⟩ := assigned
  obtain ⟨task, found, running⟩ := Option.map_eq_some_iff.mp
    ((replayed.shows _ last isLast).running isAssignment)
  have unfinished : task.state ≠ .completed := by simp [running]
  have outcome : backup.receive input { epoch, body := .completedReplicate body } =
      { backup with
        isPrimary := false
        currentEpoch := epoch
        tasks := backup.tasks.set (body.update task)
        metrics := backup.metrics.recordCompletionSystem (body.update task) } := by
    simp only [receive, processCompleteReplicateEvent, recent, found, unfinished, if_false]
  rw [outcome]
  have sameId : task.id = body.taskId := TaskTable.id_of_find? found
  refine ⟨UInt64.le_refl _, replayed.noneEarly, replayed.shows.append ?_ rfl ?_⟩
  · exact congrArg some sameId.symm
  · exact ⟨body.update task, TaskTable.find?_set_self _ _, rfl, rfl, rfl, rfl, rfl⟩

theorem split_last_delivery {msg : Message} {deliveries : List ((Fd × Env) × Message)}
    (inOrder : deliveries.map Prod.snd = history ++ [msg]) :
    ∃ earlier input, deliveries = earlier ++ [(input, msg)] ∧ earlier.map Prod.snd = history := by
  obtain ⟨earlier, rest, split, earlierInOrder, lastOne⟩ := List.map_eq_append_iff.mp inOrder
  obtain ⟨⟨input, last⟩, isLast, sameMsg⟩ := List.map_eq_singleton_iff.mp lastOne
  cases sameMsg
  exact ⟨earlier, input, by rw [split, isLast], earlierInOrder⟩

/-- A backup with an empty stash replays an alternating history of one epoch. -/
theorem replayed_of_alternating {epoch : UInt64} (alternating : Alternating history)
    (noneEarly : backup.earlyCompleteReps = ∅) (older : backup.currentEpoch ≤ epoch)
    (stamped : ∀ msg ∈ history, msg.epoch = epoch)
    {deliveries : List ((Fd × Env) × Message)} (inOrder : deliveries.map Prod.snd = history) :
    (backup.receiveAll deliveries).Replayed epoch history := by
  induction alternating generalizing deliveries with
  | nil =>
      rw [List.map_eq_nil_iff.mp inOrder]
      exact ⟨older, noneEarly, fun id msg isLast => by simp [lastAbout] at isLast⟩
  | assigned stamp body alternating ih =>
      obtain ⟨earlier, input, rfl, earlierInOrder⟩ := split_last_delivery inOrder
      have replayed := ih (fun msg member => stamped msg (by simp [member])) earlierInOrder
      have sameEpoch : stamp = epoch :=
        stamped { epoch := stamp, body := .assignedReplicate body } (by simp)
      subst stamp
      rw [receiveAll, List.foldl_append]
      exact replayed.assigned body input
  | completed stamp body alternating assigned ih =>
      obtain ⟨earlier, input, rfl, earlierInOrder⟩ := split_last_delivery inOrder
      have replayed := ih (fun msg member => stamped msg (by simp [member])) earlierInOrder
      have sameEpoch : stamp = epoch :=
        stamped { epoch := stamp, body := .completedReplicate body } (by simp)
      subst stamp
      rw [receiveAll, List.foldl_append]
      exact replayed.completed assigned input

/-! ## The primary -/

/-- A `COMPLETE` for a known task arrives while the last message logged about the task is
its assignment and no result for the task is waiting to be sent. -/
def CompletionDue (s : Coordinator) : Event → Prop
  | .complete _ msg _ => (s.tasks.find? msg.taskId).isSome →
      AssignedLast s.logged msg.taskId ∧ msg.taskId ∉ s.completedBacklog
  | _ => True

instance (s : Coordinator) : (event : Event) → Decidable (s.CompletionDue event)
  | .complete _ msg _ => inferInstanceAs (Decidable ((s.tasks.find? msg.taskId).isSome →
      AssignedLast s.logged msg.taskId ∧ msg.taskId ∉ s.completedBacklog))
  | .submit .. | .assignedReplicate .. | .completedReplicate _ | .snapshot ..
  | .peerReconnected _ | .topRequest .. | .heartbeat .. | .register .. | .pass _ | .backlog _
  | .replicate _ | .sweep _ => isTrue trivial

/-- The log alternates, and every result that waits to be sent belongs to a task whose
assignment is the last message about it. -/
structure Traced (s : Coordinator) : Prop where
  alternating : Alternating s.logged
  waiting : ∀ id ∈ s.completedBacklog, AssignedLast s.logged id
  distinct : s.completedBacklog.Nodup

/-- The log holds messages about tasks, and if it has lost none of them it is traced. -/
structure Ledger (s : Coordinator) : Prop where
  updates : ∀ msg ∈ s.replicationLog.pending, msg.about?.isSome = true
  bounded : s.logged.length ≤ s.addedToLog
  traced : s.NoneOverwritten → s.Traced

theorem isLogged_of_about {msg : Message} (about : msg.about?.isSome = true) :
    msg.isLogged = false := by
  obtain ⟨epoch, body⟩ := msg
  cases body <;> simp_all [Message.about?, Message.isLogged, Message.assigns?, Message.answers?]

/-- A message that is not about a task is pushed. -/
theorem logged_push {sent : OutgoingEvent} (notAbout : sent.msg.about? = none)
    (queue : s'.outgoingQueue = s.outgoingQueue ++ [sent])
    (log : s'.replicationLog = s.replicationLog) : s'.logged = s.logged := by
  simp [logged, queue, log, notAbout]

theorem addedToLog_push {sent : OutgoingEvent}
    (queue : s'.outgoingQueue = s.outgoingQueue ++ [sent]) :
    s'.addedToLog = s.addedToLog + if sent.msg.isLogged then 1 else 0 := by
  simp [addedToLog, queue, List.countP_append, List.countP_singleton]

/-- Pushing the oldest pending message moves it from one part of the history to the other. -/
theorem Ledger.logged_replicateOne (ledger : s.Ledger)
    (pending : s.replicationLog.read ≠ s.replicationLog.write) :
    s.replicateOne.logged = s.logged ∧ s.replicateOne.addedToLog = s.addedToLog := by
  have split := RingLog.pending_advance pending
  have about := ledger.updates s.replicationLog.head (by simp [split])
  constructor
  · simp [logged, split, about]
  · rw [addedToLog_push (s := s) rfl, isLogged_of_about about]
    rfl

/-- The history stays as it is. -/
theorem Ledger.quiet (ledger : s.Ledger) (same : s'.logged = s.logged)
    (added : s'.addedToLog = s.addedToLog)
    (pending : s'.replicationLog.pending ⊆ s.replicationLog.pending)
    (traced : s.Traced → s'.Traced) : s'.Ledger where
  updates := fun msg member => ledger.updates msg (pending member)
  bounded := by
    rw [same, added]
    exact ledger.bounded
  traced := by
    intro intact
    rw [NoneOverwritten, same, added] at intact
    exact traced (ledger.traced intact)

/-- A message is added to the log.  When the log is full the oldest pending message is lost,
and the history stays shorter than the number of messages added. -/
theorem Ledger.add {sent : OutgoingEvent} {msg : Message} (ledger : s.Ledger)
    (notAbout : sent.msg.about? = none) (counted : sent.msg.isLogged = true)
    (about : msg.about?.isSome = true)
    (queue : s'.outgoingQueue = s.outgoingQueue ++ [sent])
    (log : s'.replicationLog = s.replicationLog.add msg)
    (traced : s.Traced → s'.logged = s.logged ++ [msg] → s'.Traced) : s'.Ledger := by
  have added : s'.addedToLog = s.addedToLog + 1 := by
    rw [addedToLog_push queue, counted]
    rfl
  have pushed : s'.logged =
      (s.outgoingQueue.map OutgoingEvent.msg).filter (fun msg => msg.about?.isSome) ++
        (s.replicationLog.add msg).pending := by
    simp [logged, queue, log, notAbout]
  by_cases room : s.replicationLog.pendingCount + 1 < Config.maxLogSize
  · have appended : s'.logged = s.logged ++ [msg] := by
      rw [pushed, RingLog.pending_add_of_room msg room, logged, List.append_assoc]
    refine ⟨fun other member => ?_, ?_, fun intact => ?_⟩
    · rw [log, RingLog.pending_add_of_room msg room] at member
      rcases List.mem_append.mp member with member | member
      · exact ledger.updates other member
      · rw [List.mem_singleton.mp member]
        exact about
    · have bounded := ledger.bounded
      rw [appended, added, List.length_append]
      simpa using bounded
    · refine traced (ledger.traced ?_) appended
      rw [NoneOverwritten, appended, added, List.length_append] at intact
      simpa [NoneOverwritten] using intact
  · have countBound := s.replicationLog.pendingCount_lt
    have full : s.replicationLog.pendingCount + 1 = Config.maxLogSize := by omega
    have overwritten := RingLog.pending_add_of_full msg (by decide) full
    have lost : s'.logged.length = s.logged.length := by
      have positive : 0 < s.replicationLog.pending.length := by
        rw [RingLog.length_pending]
        have : 1 < Config.maxLogSize := by decide
        omega
      rw [pushed, overwritten, logged]
      simp only [List.length_append, List.length_tail, List.length_singleton]
      omega
    have bounded := ledger.bounded
    refine ⟨fun other member => ?_, by omega, fun intact => ?_⟩
    · rw [log, overwritten] at member
      rcases List.mem_append.mp member with member | member
      · exact ledger.updates other (List.mem_of_mem_tail member)
      · rw [List.mem_singleton.mp member]
        exact about
    · rw [NoneOverwritten] at intact
      omega

theorem AssignedLast.append {msg : Message} (assigned : AssignedLast history id)
    (harmless : msg.about? = some id → msg.isAssignment = true) :
    AssignedLast (history ++ [msg]) id := by
  by_cases about : msg.about? = some id
  · exact ⟨msg, lastAbout_append_same about, harmless about⟩
  · obtain ⟨last, isLast, isAssignment⟩ := assigned
    exact ⟨last, by rw [lastAbout_append_other about, isLast], isAssignment⟩

/-- An assignment is logged. -/
theorem Traced.assign (traced : s.Traced) {task : Task}
    (appended : s'.logged = s.logged ++ [s.assignedReplication task])
    (backlog : s'.completedBacklog = s.completedBacklog) : s'.Traced := by
  obtain ⟨body, made⟩ := exists_assignedReplication s task
  rw [made] at appended
  refine ⟨?_, ?_, backlog ▸ traced.distinct⟩
  · rw [appended]
    exact traced.alternating.assigned s.currentEpoch body
  · intro id member
    rw [backlog] at member
    rw [appended]
    exact (traced.waiting id member).append fun _ => rfl

/-- The completion of a task is logged that waits for nothing else. -/
theorem Traced.complete (traced : s.Traced) {task : Task}
    (assigned : AssignedLast s.logged task.id)
    (appended : s'.logged = s.logged ++ [s.completedReplication task])
    (backlog : s'.completedBacklog.Sublist s.completedBacklog)
    (sent : task.id ∉ s'.completedBacklog) : s'.Traced := by
  refine ⟨?_, ?_, traced.distinct.sublist backlog⟩
  · rw [appended]
    exact traced.alternating.completed s.currentEpoch _ assigned
  · intro id member
    rw [appended]
    refine (traced.waiting id (backlog.subset member)).append fun about => ?_
    have same : task.id = id := Option.some.inj about
    exact absurd (same ▸ member) sent

theorem Traced.of_same (traced : s.Traced) (same : s'.logged = s.logged)
    (backlog : s'.completedBacklog = s.completedBacklog) : s'.Traced where
  alternating := by
    rw [same]
    exact traced.alternating
  waiting := by
    rw [same, backlog]
    exact traced.waiting
  distinct := by
    rw [backlog]
    exact traced.distinct

/-- Neither the history nor the results that wait are touched. -/
theorem Ledger.frame (ledger : s.Ledger) (queue : s'.outgoingQueue = s.outgoingQueue)
    (log : s'.replicationLog = s.replicationLog)
    (backlog : s'.completedBacklog = s.completedBacklog) : s'.Ledger := by
  have same : s'.logged = s.logged := by rw [logged, logged, queue, log]
  refine ledger.quiet same (by rw [addedToLog, addedToLog, queue]) ?_ fun traced =>
    traced.of_same same backlog
  rw [log]
  exact List.Subset.refl _

/-- A message is pushed that neither comes from the log nor adds to it. -/
theorem Ledger.push {sent : OutgoingEvent} (ledger : s.Ledger)
    (notAbout : sent.msg.about? = none) (notCounted : sent.msg.isLogged = false)
    (queue : s'.outgoingQueue = s.outgoingQueue ++ [sent])
    (log : s'.replicationLog = s.replicationLog)
    (backlog : s'.completedBacklog = s.completedBacklog) : s'.Ledger := by
  have same := logged_push notAbout queue log
  have added : s'.addedToLog = s.addedToLog := by
    rw [addedToLog_push queue, notCounted]
    rfl
  refine ledger.quiet same added ?_ fun traced => traced.of_same same backlog
  rw [log]
  exact List.Subset.refl _

/-- A task is handed out. -/
theorem Ledger.assign {task : Task} {worker : WorkerId} {fd : Fd} {now : Nanoseconds}
    (ledger : s.Ledger)
    (queue : s'.outgoingQueue = s.outgoingQueue ++ [{ fd, msg := s.assignMessage task }])
    (log : s'.replicationLog =
      s.replicationLog.add (s.assignedReplication (task.assignedTo worker now)))
    (backlog : s'.completedBacklog = s.completedBacklog) : s'.Ledger := by
  refine ledger.add rfl ?_ rfl queue log fun traced appended => traced.assign appended backlog
  simp [Message.isLogged]

/-- A result is sent for a task whose assignment is the last message about it. -/
theorem Ledger.answer {task : Task} {fd : Fd} (ledger : s.Ledger)
    (assigned : s.Traced → AssignedLast s.logged task.id)
    (queue : s'.outgoingQueue = s.outgoingQueue ++ [{ fd, msg := s.resultMessage task }])
    (log : s'.replicationLog = s.replicationLog.add (s.completedReplication task))
    (backlog : s'.completedBacklog.Sublist s.completedBacklog)
    (sent : s.Traced → task.id ∉ s'.completedBacklog) : s'.Ledger :=
  ledger.add rfl rfl rfl queue log fun traced appended =>
    traced.complete (assigned traced) appended backlog (sent traced)

/-! ## Steps and runs -/

theorem Ledger.received (ledger : s.Ledger) (unstamped : event.stamp? = none)
    (due : s.CompletionDue event) (received : Received s event s') : s'.Ledger := by
  cases received with
  | submitAssigned now offers => exact ledger.assign rfl rfl rfl
  | @completeAnswered fd msg env task state found held =>
      obtain ⟨assigned, notWaiting⟩ := due (by simp [found])
      have sameId : task.id = msg.taskId := TaskTable.id_of_find? found
      refine ledger.answer (fun _ => ?_) rfl rfl (.refl _) fun _ => ?_
      · rw [CompleteMsg.update_id, sameId]
        exact assigned
      · rw [CompleteMsg.update_id, sameId]
        exact notWaiting
  | @completeDeferred fd msg env task state found held refused =>
      obtain ⟨assigned, notWaiting⟩ := due (by simp [found])
      have sameId := TaskTable.id_of_find? found
      refine ledger.quiet rfl rfl (List.Subset.refl _) fun traced => ?_
      refine ⟨traced.alternating, fun id member => ?_, ?_⟩
      · rcases List.mem_append.mp member with member | member
        · exact traced.waiting id member
        · rw [List.mem_singleton.mp member, sameId]
          exact assigned
      · have apart : s.completedBacklog.Disjoint [task.id] := by
          rw [List.disjoint_singleton, sameId]
          exact notWaiting
        exact traced.distinct.append (List.nodup_singleton _) apart
  | peerReconnected =>
      simp only [processPeerReconnected]
      split
      next =>
        split
        next => exact ledger.push rfl rfl rfl rfl rfl
        next => exact ledger.frame rfl rfl rfl
      next => exact ledger
  | topRequest | registerReused | registerFresh => exact ledger.push rfl rfl rfl rfl rfl
  | assignedReplicate | completedReplicate | snapshot => cases unstamped
  | _ => exact ledger.frame rfl rfl rfl

theorem Ledger.move (ledger : s.Ledger) (move : Move event s s') : s'.Ledger := by
  cases move with
  | replicated pending =>
      obtain ⟨same, added⟩ := ledger.logged_replicateOne pending
      refine ledger.quiet same added ?_ fun traced => traced.of_same same rfl
      rw [RingLog.pending_advance pending]
      exact List.subset_cons_self _ _
  | dropped drains front unknown =>
      refine ledger.quiet rfl rfl (List.Subset.refl _) fun traced => ?_
      have waiting := traced.waiting
      have distinct := traced.distinct
      rw [front] at waiting distinct
      exact ⟨traced.alternating, fun id member => waiting id (.tail _ member), distinct.of_cons⟩
  | @answered id rest task drains front found =>
      have sameId := TaskTable.id_of_find? found
      refine ledger.answer (fun traced => ?_) rfl rfl ?_ fun traced => ?_
      · rw [sameId]
        exact traced.waiting id (by simp [front])
      · rw [front]
        exact List.sublist_cons_self _ _
      · have distinct := traced.distinct
        rw [front, List.nodup_cons] at distinct
        rw [sameId]
        exact distinct.1
  | assigned => exact ledger.assign rfl rfl rfl
  | died _ _ _ _ declared =>
      obtain ⟨_, _, frame, _⟩ := declareDead_spec declared
      rw [frame]
      exact ledger.frame rfl rfl rfl

theorem ledger_preserved :
    Preserves step (fun s event => event.stamp? = none ∧ s.CompletionDue event) Ledger :=
  preserves_of_moves
    (fun _ _ _ ledger admitted received => ledger.received admitted.1 admitted.2 received)
    (fun _ _ _ _ _ move ledger => ledger.move move)

theorem ledger_init : init.Ledger where
  updates := by simp [init]
  bounded := by simp [logged, addedToLog, init]
  traced := by
    intro _
    refine ⟨?_, by simp [init], by simp [init]⟩
    have empty : init.logged = [] := by simp [logged, init]
    rw [empty]
    exact .nil

/-- A backup that receives all logged messages in order and under one epoch shows the last
message about each task, if every completion was due when the primary received it. -/
theorem backup_shows_last_message {events : List Event} {s backup : Coordinator}
    {epoch : UInt64} {deliveries : List ((Fd × Env) × Message)}
    (unstamped : ∀ event ∈ events, event.stamp? = none)
    (due : Along step CompletionDue init events) (ran : run events = .ok s)
    (intact : s.NoneOverwritten) (stamped : ∀ msg ∈ s.logged, msg.epoch = epoch)
    (noneEarly : backup.earlyCompleteReps = ∅) (older : backup.currentEpoch ≤ epoch)
    (inOrder : deliveries.map Prod.snd = s.logged) :
    (backup.receiveAll deliveries).ShowsLast s.logged := by
  have ledger := ledger_preserved.run ledger_init ((along_of_forall unstamped).and due) ran
  have alternating := (ledger.traced intact).alternating
  exact (replayed_of_alternating alternating noneEarly older stamped inOrder).shows

/-- Task 7 is handed out to one worker, which dies, and then to another. -/
def reassignedTask : List Event :=
  [.register 5 {}, .register 6 {}, .submit 9 { taskId := 7 } {},
    .heartbeat 1 { clock := [2000000000] }, .sweep { clock := [2000000000, 2000000000] },
    .pass {}]

/-- One of the workers completes the task, and the client submits it again. -/
def completedOnce : List Event :=
  reassignedTask ++
    [.complete 6 { taskId := 7, startedAt := 10, completedAt := 20, success := 1 } {},
      .submit 9 { taskId := 7 } {}]

/-- Both workers complete the task before the client submits it again. -/
def completedTwice : List Event :=
  reassignedTask ++
    [.complete 6 { taskId := 7, startedAt := 10, completedAt := 20, success := 1 } {},
      .complete 5 { taskId := 7, startedAt := 1, completedAt := 30, success := 1 } {},
      .submit 9 { taskId := 7 } {}]

/-- The messages all arrive on one connection. -/
def deliver (history : List Message) : List ((Fd × Env) × Message) :=
  history.map fun msg => ((3, {}), msg)

theorem map_snd_deliver (history : List Message) :
    (deliver history).map Prod.snd = history := by
  simp [deliver]

theorem backup_shows_reassigned_task :
    ∃ s, run completedOnce = .ok s ∧ s.logged.length = 4 ∧
      (init.receiveAll (deliver s.logged)).ShowsLast s.logged := by
  have evaluated : ∃ s, run completedOnce = .ok s ∧ s.logged.length = 4 ∧
      s.NoneOverwritten ∧ ∀ msg ∈ s.logged, msg.epoch = 0 := by
    unfold NoneOverwritten
    decide +kernel
  obtain ⟨s, ran, length, intact, stamped⟩ := evaluated
  have unstamped : ∀ event ∈ completedOnce, event.stamp? = none := by
    simp [completedOnce, reassignedTask, Event.stamp?]
  have due : Along step CompletionDue init completedOnce := by decide +kernel
  exact ⟨s, ran, length, backup_shows_last_message unstamped due ran intact stamped rfl
    (UInt64.le_refl _) (map_snd_deliver _)⟩

/-- The second completion waits in the stash of the backup and completes the next run of
the task as soon as it is assigned. -/
theorem stashed_completion_reaches_next_run :
    (∀ event ∈ completedTwice, event.stamp? = none) ∧
    ∃ s, run completedTwice = .ok s ∧ s.NoneOverwritten ∧
      (∀ msg ∈ s.logged, msg.epoch = 0) ∧ AssignedLast s.logged 7 ∧
      ((init.receiveAll (deliver s.logged)).tasks.find? 7).map Task.state = some .completed ∧
      ¬ (init.receiveAll (deliver s.logged)).ShowsLast s.logged := by
  have evaluated : ∃ s, run completedTwice = .ok s ∧ s.NoneOverwritten ∧
      (∀ msg ∈ s.logged, msg.epoch = 0) ∧ AssignedLast s.logged 7 ∧
      ((init.receiveAll (deliver s.logged)).tasks.find? 7).map Task.state =
        some .completed := by
    unfold NoneOverwritten
    decide +kernel
  obtain ⟨s, ran, intact, stamped, assigned, completed⟩ := evaluated
  refine ⟨by simp [completedTwice, reassignedTask, Event.stamp?], s, ran, intact, stamped,
    assigned, completed, fun shows => ?_⟩
  obtain ⟨last, isLast, isAssignment⟩ := assigned
  have running := (shows 7 last isLast).running isAssignment
  rw [running] at completed
  cases completed

end Coordinator

end TaskCoordinator
