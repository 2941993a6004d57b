import TaskCoordinator.Coordinator.Effects

/-!
# Replay in any order

The assignment and the completion of a task reach the backup as two messages, and a
completion may overtake its assignment.  It is stashed then and replayed when the assignment
arrives.  This module describes the state of the backup after it has processed any part of
the messages about a set of new tasks, in terms of which tasks are running, which have an
early completion and which are done.  When all messages have been processed, nothing in the
description depends on their order.

The counters are unsigned 64-bit numbers.  `record_completion_system` takes the latency of
the task that brings `tasks_completed_` to 1 for the first sample, and the guard of
`tasks_running_` takes 0 for "nothing runs".  Either is order dependent once its counter
wraps.
-/

namespace TaskCoordinator

/-! ## Metrics -/

namespace Metrics

/-- The counters `after` some of `limit` tasks have been assigned and completed: `running`
tasks still run, and those that are done took the given latencies. -/
structure Advanced (before : Metrics) (limit running : Nat) (latencies : Multiset UInt64)
    (after : Metrics) : Prop where
  completed : after.tasksCompleted = before.tasksCompleted + UInt64.ofNat latencies.card
  queued : after.tasksQueued.toNat = before.tasksQueued.toNat - (running + latencies.card)
  total : after.totalLatencyNs = before.totalLatencyNs + latencies.sum
  maximum : after.maxLatencyNs.toNat =
    (latencies.map UInt64.toNat).fold max before.maxLatencyNs.toNat
  stillRunning : before.tasksRunning.toNat + limit < 2 ^ 64 →
    after.tasksRunning.toNat = before.tasksRunning.toNat + running
  noneRunning : running + latencies.card = 0 → after.tasksRunning = before.tasksRunning
  wrapped : before.tasksRunning.toNat + 1 = 2 ^ 64 → running + latencies.card ≠ 0 →
    after.tasksRunning.toNat ≤ running
  minimum : before.tasksCompleted.toNat + limit ≤ 2 ^ 64 → latencies ≠ 0 →
    after.minLatencyNs.toNat = (latencies.map UInt64.toNat).fold min
      (if before.tasksCompleted = 0 then 2 ^ 64 else before.minLatencyNs.toNat)
  noMinimum : latencies = 0 → after.minLatencyNs = before.minLatencyNs

variable {before after : Metrics} {limit running : Nat} {latencies : Multiset UInt64}

theorem advanced_refl (metrics : Metrics) (limit : Nat) : metrics.Advanced limit 0 0 metrics where
  completed := by simp
  queued := by simp
  total := by simp
  maximum := by simp
  stillRunning := by simp
  noneRunning := by simp
  wrapped := by simp
  minimum := by simp
  noMinimum := by simp

/-- A guarded decrement. -/
theorem toNat_decrement (count : UInt64) :
    (count - if count > 0 then 1 else 0).toNat = count.toNat - 1 := by
  split
  next positive =>
    have bound : 0 < count.toNat := positive
    have atLeastOne : (1 : UInt64) ≤ count := UInt64.le_iff_toNat_le.mpr bound
    rw [UInt64.toNat_sub_of_le _ _ atLeastOne]
    rfl
  next zero =>
    have isZero : ¬ 0 < count.toNat := zero
    simp
    omega

theorem toNat_increment {count : UInt64} (room : count.toNat + 1 < 2 ^ 64) :
    (count + 1).toNat = count.toNat + 1 := by
  rw [UInt64.toNat_add]
  exact Nat.mod_eq_of_lt room

theorem Advanced.assign (advanced : before.Advanced limit running latencies after)
    (room : running < limit) :
    before.Advanced limit (running + 1) latencies after.recordAssignment where
  completed := advanced.completed
  queued := by
    simp only [recordAssignment, toNat_decrement, advanced.queued]
    omega
  total := advanced.total
  maximum := advanced.maximum
  stillRunning := by
    intro small
    have counted := advanced.stillRunning small
    simp only [recordAssignment]
    rw [toNat_increment (by omega), counted]
    omega
  noneRunning := by
    intro none
    omega
  wrapped := by
    intro last _
    simp only [recordAssignment, UInt64.toNat_add, UInt64.toNat_one]
    by_cases none : running + latencies.card = 0
    · rw [advanced.noneRunning none, last]
      simp
    · exact (Nat.mod_le _ _).trans (Nat.succ_le_succ (advanced.wrapped last none))
  minimum := advanced.minimum
  noMinimum := advanced.noMinimum

/-- The completion counter reaches 1 with the first completion only, as long as it does not
wrap. -/
theorem Advanced.first_iff (advanced : before.Advanced limit running latencies after)
    (small : before.tasksCompleted.toNat + latencies.card < 2 ^ 64) :
    after.tasksCompleted + 1 = 1 ↔ before.tasksCompleted = 0 ∧ latencies = 0 := by
  have counted : after.tasksCompleted.toNat = before.tasksCompleted.toNat + latencies.card := by
    rw [advanced.completed, UInt64.toNat_add, UInt64.toNat_ofNat', Nat.add_mod_mod]
    exact Nat.mod_eq_of_lt small
  have isZero : after.tasksCompleted + 1 = 1 ↔ after.tasksCompleted.toNat = 0 := by
    rw [← UInt64.toNat_inj, UInt64.toNat_add]
    have bound := after.tasksCompleted.toNat_lt
    simp only [UInt64.toNat_one]
    omega
  rw [isZero, counted, ← UInt64.toNat_inj, UInt64.toNat_zero, ← Multiset.card_eq_zero]
  omega

theorem Advanced.complete {task : Task}
    (advanced : before.Advanced limit (running + 1) latencies after)
    (room : latencies.card < limit) :
    before.Advanced limit running ((task.completedAt - task.queuedAt) ::ₘ latencies)
      (after.recordCompletionSystem task) where
  completed := by
    simp only [recordCompletionSystem, advanced.completed, Multiset.card_cons, UInt64.ofNat_add]
    rw [UInt64.add_assoc]
    rfl
  queued := by
    simp only [recordCompletionSystem, advanced.queued, Multiset.card_cons]
    omega
  total := by
    simp only [recordCompletionSystem, advanced.total, Multiset.sum_cons]
    rw [UInt64.add_assoc, UInt64.add_comm latencies.sum]
  maximum := by
    simp only [recordCompletionSystem, UInt64.toNat_max, advanced.maximum, Multiset.map_cons,
      Multiset.fold_cons_left]
    exact max_comm _ _
  stillRunning := by
    intro small
    simp only [recordCompletionSystem, toNat_decrement, advanced.stillRunning small]
    omega
  noneRunning := by
    intro none
    rw [Multiset.card_cons] at none
    omega
  wrapped := by
    intro last _
    have counted := advanced.wrapped last (by omega)
    simp only [recordCompletionSystem, toNat_decrement]
    omega
  minimum := by
    intro small _
    simp only [recordCompletionSystem, advanced.first_iff (by omega), Multiset.map_cons,
      Multiset.fold_cons_left]
    split
    next first =>
      simp only [first.1, first.2, if_true, Multiset.map_zero, Multiset.fold_zero]
      exact (min_eq_left (UInt64.toNat_lt _).le).symm
    next notFirst =>
      rw [UInt64.toNat_min, min_comm]
      congr 1
      by_cases none : latencies = 0
      · have notZero : before.tasksCompleted ≠ 0 := fun zero => notFirst ⟨zero, none⟩
        simp [none, notZero, advanced.noMinimum none]
      · exact advanced.minimum small none
  noMinimum := by simp

/-- The number of running tasks, once none of the tasks runs any more. -/
theorem Advanced.tasksRunning_eq {first second : Metrics}
    (one : before.Advanced limit 0 latencies first)
    (other : before.Advanced limit 0 latencies second)
    (counts : before.tasksRunning.toNat + limit < 2 ^ 64 ∨
      before.tasksRunning.toNat + 1 = 2 ^ 64) :
    first.tasksRunning = second.tasksRunning := by
  apply UInt64.toNat_inj.mp
  rcases counts with small | last
  · rw [one.stillRunning small, other.stillRunning small]
  · by_cases none : 0 + latencies.card = 0
    · rw [one.noneRunning none, other.noneRunning none]
    · rw [Nat.le_zero.mp (one.wrapped last none), Nat.le_zero.mp (other.wrapped last none)]

end Metrics

/-! ## The messages about one task -/

/-- The assignment and the completion of one task, as the peer sends them. -/
structure ReplicatedTask where
  assigned : AssignedReplicationMsg
  completed : CompletedReplicationMsg
  fd : Fd := -1
  sameTask : completed.taskId = assigned.taskId

namespace ReplicatedTask

def id (pair : ReplicatedTask) : TaskId :=
  pair.assigned.taskId

/-- The `ASSIGNED_REPLICATE`. -/
def assignment (epoch : UInt64) (pair : ReplicatedTask) : Event :=
  .assignedReplicate epoch pair.assigned

/-- The `COMPLETED_REPLICATE`, as it is stashed when it comes first. -/
def replication (epoch : UInt64) (pair : ReplicatedTask) : CompletedReplication :=
  { fd := pair.fd, epoch, msg := pair.completed }

def completion (epoch : UInt64) (pair : ReplicatedTask) : Event :=
  .completedReplicate (pair.replication epoch)

/-- The task once both messages have been processed. -/
def task (pair : ReplicatedTask) : Task :=
  pair.completed.update pair.assigned.task

def latency (pair : ReplicatedTask) : UInt64 :=
  pair.task.completedAt - pair.task.queuedAt

@[simp] theorem task_id (pair : ReplicatedTask) : pair.task.id = pair.id :=
  pair.assigned.task_id

/-- The messages about a list of tasks, one after another. -/
def messages (epoch : UInt64) (pairs : List ReplicatedTask) : List Event :=
  pairs.flatMap fun pair => [pair.assignment epoch, pair.completion epoch]

theorem coe_messages (epoch : UInt64) (pairs : List ReplicatedTask) :
    (messages epoch pairs : Multiset Event) =
      (pairs : Multiset ReplicatedTask).map (assignment epoch) +
        (pairs : Multiset ReplicatedTask).map (completion epoch) := by
  induction pairs with
  | nil => rfl
  | cons pair rest ih =>
      have split : messages epoch (pair :: rest) =
          pair.assignment epoch :: pair.completion epoch :: messages epoch rest := rfl
      rw [split, ← Multiset.cons_coe, ← Multiset.cons_coe, ih, ← Multiset.cons_coe]
      simp only [Multiset.map_cons, Multiset.cons_add, Multiset.add_cons]
      exact Multiset.cons_swap _ _ _

end ReplicatedTask

namespace Coordinator

open Transition ReplicatedTask

variable {s s' : Coordinator} {epoch : UInt64} {limit : Nat}
  {running early done : Multiset ReplicatedTask} {pair : ReplicatedTask}

/-! ## The state in between -/

/-- The state `s'` that `s` has reached by some of the messages about `limit` new tasks.
The tasks of which only the assignment has arrived are `running`, those of which only the
completion has arrived are `early`, and the others it has heard of are `done`. -/
structure Replaying (s : Coordinator) (epoch : UInt64) (limit : Nat)
    (running early done : Multiset ReplicatedTask) (s' : Coordinator) : Prop where
  runningTable : ∀ pair ∈ running, s'.tasks.find? pair.id = some pair.assigned.task
  doneTable : ∀ pair ∈ done, s'.tasks.find? pair.id = some pair.task
  otherTable : ∀ id, (∀ pair ∈ running + done, pair.id ≠ id) →
    s'.tasks.find? id = s.tasks.find? id
  stashed : ∀ pair ∈ early,
    s'.earlyCompleteReps.lookup pair.id = some (pair.replication epoch)
  otherStash : ∀ id, (∀ pair ∈ early, pair.id ≠ id) →
    s'.earlyCompleteReps.lookup id = s.earlyCompleteReps.lookup id
  unassigned : running + done = 0 → s'.currentEpoch = s.currentEpoch
  assigned : running + done ≠ 0 → s'.currentEpoch = epoch
  counted : s.metrics.Advanced limit running.card (done.map latency) s'.metrics

theorem replaying_refl (s : Coordinator) (epoch : UInt64) (limit : Nat) :
    s.Replaying epoch limit 0 0 0 s where
  runningTable := by simp
  doneTable := by simp
  otherTable := by simp
  stashed := by simp
  otherStash := by simp
  unassigned := by simp
  assigned := by simp
  counted := Metrics.advanced_refl s.metrics limit

theorem Replaying.recent (replaying : s.Replaying epoch limit running early done s')
    (recent : s.currentEpoch ≤ epoch) : ¬ epoch < s'.currentEpoch := by
  rw [UInt64.not_lt]
  by_cases none : running + done = 0
  · rw [replaying.unassigned none]
    exact recent
  · rw [replaying.assigned none]
    exact UInt64.le_refl _

/-- The record of a task is written that runs. -/
theorem Replaying.assign {after : Coordinator}
    (replaying : s.Replaying epoch limit running early done s')
    (apart : ∀ other ∈ running + done, other.id ≠ pair.id)
    (room : (running + done).card < limit)
    (table : after.tasks = s'.tasks.set pair.assigned.task)
    (stash : after.earlyCompleteReps = s'.earlyCompleteReps)
    (stamped : after.currentEpoch = epoch)
    (metrics : after.metrics = s'.metrics.recordAssignment) :
    s.Replaying epoch limit (pair ::ₘ running) early done after := by
  have written : ∀ id, after.tasks.find? id =
      if id = pair.id then some pair.assigned.task else s'.tasks.find? id := by
    intro id
    rw [table, TaskTable.find?_set, AssignedReplicationMsg.task_id]
    rfl
  refine ⟨?_, ?_, ?_, ?_, ?_, by simp, fun _ => stamped, ?_⟩
  · intro other member
    rw [written]
    rcases Multiset.mem_cons.mp member with rfl | member
    · exact if_pos rfl
    · rw [if_neg (apart other (Multiset.mem_add.mpr (.inl member)))]
      exact replaying.runningTable other member
  · intro other member
    rw [written, if_neg (apart other (Multiset.mem_add.mpr (.inr member)))]
    exact replaying.doneTable other member
  · intro id absent
    rw [Multiset.cons_add] at absent
    rw [written, if_neg fun same => absent pair (Multiset.mem_cons_self _ _) same.symm]
    exact replaying.otherTable id fun other member =>
      absent other (Multiset.mem_cons_of_mem member)
  · rw [stash]
    exact replaying.stashed
  · rw [stash]
    exact replaying.otherStash
  · rw [metrics, Multiset.card_cons]
    rw [Multiset.card_add] at room
    exact replaying.counted.assign (by omega)

/-- The record of a running task is completed. -/
theorem Replaying.complete {after : Coordinator}
    (replaying : s.Replaying epoch limit (pair ::ₘ running) early done s')
    (apart : ∀ other ∈ running + done, other.id ≠ pair.id)
    (room : (running + done).card < limit)
    (table : after.tasks = s'.tasks.set pair.task)
    (stash : after.earlyCompleteReps = s'.earlyCompleteReps)
    (stamped : after.currentEpoch = epoch)
    (metrics : after.metrics = s'.metrics.recordCompletionSystem pair.task) :
    s.Replaying epoch limit running early (pair ::ₘ done) after := by
  have written : ∀ id, after.tasks.find? id =
      if id = pair.id then some pair.task else s'.tasks.find? id := by
    intro id
    rw [table, TaskTable.find?_set, ReplicatedTask.task_id]
  refine ⟨?_, ?_, ?_, ?_, ?_, by simp, fun _ => stamped, ?_⟩
  · intro other member
    rw [written, if_neg (apart other (Multiset.mem_add.mpr (.inl member)))]
    exact replaying.runningTable other (Multiset.mem_cons_of_mem member)
  · intro other member
    rw [written]
    rcases Multiset.mem_cons.mp member with rfl | member
    · exact if_pos rfl
    · rw [if_neg (apart other (Multiset.mem_add.mpr (.inr member)))]
      exact replaying.doneTable other member
  · intro id absent
    rw [Multiset.add_cons, ← Multiset.cons_add] at absent
    rw [written, if_neg fun same => absent pair (by simp) same.symm]
    exact replaying.otherTable id absent
  · rw [stash]
    exact replaying.stashed
  · rw [stash]
    exact replaying.otherStash
  · have counted := replaying.counted
    rw [Multiset.card_cons] at counted
    rw [Multiset.card_add] at room
    rw [metrics, Multiset.map_cons]
    exact counted.complete (by simpa using by omega)

/-- The completion of a task is put into the stash. -/
theorem Replaying.keep {after : Coordinator}
    (replaying : s.Replaying epoch limit running early done s')
    (apart : ∀ other ∈ early, other.id ≠ pair.id)
    (table : after.tasks = s'.tasks)
    (stash : after.earlyCompleteReps =
      s'.earlyCompleteReps.insert pair.id (pair.replication epoch))
    (kept : after.currentEpoch = s'.currentEpoch) (metrics : after.metrics = s'.metrics) :
    s.Replaying epoch limit running (pair ::ₘ early) done after := by
  refine ⟨table ▸ replaying.runningTable, table ▸ replaying.doneTable,
    table ▸ replaying.otherTable, ?_, ?_, kept ▸ replaying.unassigned,
    kept ▸ replaying.assigned, metrics ▸ replaying.counted⟩
  · intro other member
    rw [stash]
    rcases Multiset.mem_cons.mp member with rfl | member
    · exact AList.lookup_insert _
    · rw [AList.lookup_insert_ne (apart other member)]
      exact replaying.stashed other member
  · intro id absent
    have different : id ≠ pair.id := fun same => absent pair (by simp) same.symm
    rw [stash, AList.lookup_insert_ne different]
    exact replaying.otherStash id fun other member =>
      absent other (Multiset.mem_cons_of_mem member)

/-- A stashed completion is taken out of the stash. -/
theorem Replaying.discard {after : Coordinator}
    (replaying : s.Replaying epoch limit running (pair ::ₘ early) done s')
    (apart : ∀ other ∈ early, other.id ≠ pair.id)
    (fresh : s.earlyCompleteReps.lookup pair.id = none)
    (table : after.tasks = s'.tasks)
    (stash : after.earlyCompleteReps = s'.earlyCompleteReps.erase pair.id)
    (kept : after.currentEpoch = s'.currentEpoch) (metrics : after.metrics = s'.metrics) :
    s.Replaying epoch limit running early done after := by
  refine ⟨table ▸ replaying.runningTable, table ▸ replaying.doneTable,
    table ▸ replaying.otherTable, ?_, ?_, kept ▸ replaying.unassigned,
    kept ▸ replaying.assigned, metrics ▸ replaying.counted⟩
  · intro other member
    rw [stash, AList.lookup_erase_ne (apart other member)]
    exact replaying.stashed other (Multiset.mem_cons_of_mem member)
  · intro id absent
    rw [stash]
    by_cases same : id = pair.id
    · subst same
      rw [AList.lookup_erase, fresh]
    · rw [AList.lookup_erase_ne same]
      refine replaying.otherStash id fun other member => ?_
      rcases Multiset.mem_cons.mp member with rfl | member
      · exact Ne.symm same
      · exact absent other member

/-! ## The four cases of a message -/

theorem apart_of_subset (apart : ∀ other ∈ running + early + done, other.id ≠ pair.id) :
    ∀ other ∈ running + done, other.id ≠ pair.id := by
  intro other member
  apply apart other
  rcases Multiset.mem_add.mp member with isRunning | isDone
  · simp [isRunning]
  · simp [isDone]

/-- The assignment of a task arrives first. -/
theorem Replaying.assignment_first (replaying : s.Replaying epoch limit running early done s')
    (recent : s.currentEpoch ≤ epoch)
    (apart : ∀ other ∈ running + early + done, other.id ≠ pair.id)
    (fresh : s.earlyCompleteReps.lookup pair.id = none)
    (room : (running + done).card < limit) :
    s.Replaying epoch limit (pair ::ₘ running) early done
      (s'.processAssignReplicateEvent epoch pair.assigned) := by
  have notEarly : s'.earlyCompleteReps.lookup pair.assigned.taskId = none := by
    rw [← fresh]
    exact replaying.otherStash _ fun other member => apart other (by simp [member])
  have outcome : s'.processAssignReplicateEvent epoch pair.assigned =
      { s' with
        isPrimary := false
        currentEpoch := epoch
        tasks := s'.tasks.set pair.assigned.task
        metrics := s'.metrics.recordAssignment } := by
    simp [processAssignReplicateEvent, replaying.recent recent, notEarly]
  rw [outcome]
  exact replaying.assign (apart_of_subset apart) room rfl rfl rfl rfl

/-- The completion of a running task arrives, or is replayed. -/
theorem Replaying.completion_second
    (replaying : s.Replaying epoch limit (pair ::ₘ running) early done s')
    (recent : s.currentEpoch ≤ epoch)
    (apart : ∀ other ∈ running + done, other.id ≠ pair.id)
    (room : (running + done).card < limit) :
    s.Replaying epoch limit running early (pair ::ₘ done)
      (s'.processCompleteReplicateEvent (pair.replication epoch)) := by
  have found : s'.tasks.find? pair.completed.taskId = some pair.assigned.task := by
    rw [pair.sameTask]
    exact replaying.runningTable pair (by simp)
  have outcome : s'.processCompleteReplicateEvent (pair.replication epoch) =
      { s' with
        isPrimary := false
        currentEpoch := epoch
        tasks := s'.tasks.set pair.task
        metrics := s'.metrics.recordCompletionSystem pair.task } := by
    simp [processCompleteReplicateEvent, replication, replaying.recent recent, found,
      ReplicatedTask.task]
  rw [outcome]
  exact replaying.complete apart room rfl rfl rfl rfl

/-- The completion of a task arrives first. -/
theorem Replaying.completion_first (replaying : s.Replaying epoch limit running early done s')
    (recent : s.currentEpoch ≤ epoch)
    (apart : ∀ other ∈ running + early + done, other.id ≠ pair.id)
    (fresh : s.tasks.find? pair.id = none) :
    s.Replaying epoch limit running (pair ::ₘ early) done
      (s'.processCompleteReplicateEvent (pair.replication epoch)) := by
  have unknown : s'.tasks.find? pair.completed.taskId = none := by
    rw [pair.sameTask, ← fresh]
    exact replaying.otherTable _ (apart_of_subset apart)
  have outcome : s'.processCompleteReplicateEvent (pair.replication epoch) =
      { s' with
        isPrimary := false
        earlyCompleteReps :=
          s'.earlyCompleteReps.insert pair.completed.taskId (pair.replication epoch) } := by
    have recent := replaying.recent recent
    simp only [processCompleteReplicateEvent, replication, recent, unknown, if_false]
  rw [outcome, pair.sameTask]
  exact replaying.keep (fun other member => apart other (by simp [member])) rfl rfl rfl rfl

/-- The assignment of a task arrives whose completion has been stashed. -/
theorem Replaying.assignment_second
    (replaying : s.Replaying epoch limit running (pair ::ₘ early) done s')
    (recent : s.currentEpoch ≤ epoch)
    (apart : ∀ other ∈ running + early + done, other.id ≠ pair.id)
    (fresh : s.earlyCompleteReps.lookup pair.id = none)
    (room : (running + done).card < limit) :
    s.Replaying epoch limit running early (pair ::ₘ done)
      (s'.processAssignReplicateEvent epoch pair.assigned) := by
  have isEarly : s'.earlyCompleteReps.lookup pair.assigned.taskId =
      some (pair.replication epoch) := replaying.stashed pair (by simp)
  have outside := apart_of_subset apart
  let assigned : Coordinator := { s' with
    isPrimary := false
    currentEpoch := epoch
    tasks := s'.tasks.set pair.assigned.task
    metrics := s'.metrics.recordAssignment }
  have started : s.Replaying epoch limit (pair ::ₘ running) (pair ::ₘ early) done assigned :=
    replaying.assign outside room rfl rfl rfl rfl
  have finished := started.completion_second recent outside room
  have outcome : s'.processAssignReplicateEvent epoch pair.assigned =
      { assigned.processCompleteReplicateEvent (pair.replication epoch) with
        earlyCompleteReps := (assigned.processCompleteReplicateEvent
          (pair.replication epoch)).earlyCompleteReps.erase pair.id } := by
    have recent := replaying.recent recent
    simp only [processAssignReplicateEvent, recent, isEarly, if_false]
    rfl
  rw [outcome]
  exact finished.discard (fun other member => apart other (by simp [member])) fresh
    rfl rfl rfl rfl

/-! ## Whole runs -/

/-- The tasks have different ids, none of which the coordinator has heard of. -/
structure Unheard (s : Coordinator) (pairs : Multiset ReplicatedTask) : Prop where
  distinct : (pairs.map ReplicatedTask.id).Nodup
  noTask : ∀ pair ∈ pairs, s.tasks.find? pair.id = none
  noCompletion : ∀ pair ∈ pairs, s.earlyCompleteReps.lookup pair.id = none

/-- One of the tasks and all the others. -/
theorem Unheard.apart {pairs others : Multiset ReplicatedTask} (unheard : s.Unheard pairs)
    (split : pair ::ₘ others = pairs) : ∀ other ∈ others, other.id ≠ pair.id := by
  have distinct := unheard.distinct
  rw [← split, Multiset.map_cons, Multiset.nodup_cons] at distinct
  intro other member same
  exact distinct.1 (Multiset.mem_map.mpr ⟨other, member, same⟩)

/-- One of the tasks has an id of its own, and there is room for it among those that have been
assigned. -/
theorem Unheard.singleOut {pairs waiting : Multiset ReplicatedTask} (unheard : s.Unheard pairs)
    (total : pair ::ₘ (waiting + running + early + done) = pairs) :
    pair ∈ pairs ∧ (∀ other ∈ running + early + done, other.id ≠ pair.id) ∧
      (running + done).card < pairs.card := by
  refine ⟨?_, fun other member => ?_, ?_⟩
  · rw [← total]
    exact Multiset.mem_cons_self _ _
  · apply unheard.apart total other
    rw [Multiset.add_assoc waiting running early, Multiset.add_assoc waiting]
    exact Multiset.mem_add.mpr (.inr member)
  · rw [← total]
    simp only [Multiset.card_cons, Multiset.card_add]
    omega

/-- In a state in between, whichever of the missing messages arrives next leads to another
state in between. -/
theorem Replaying.step {pairs waiting : Multiset ReplicatedTask} {event : Event}
    {rest : Multiset Event} (recent : s.currentEpoch ≤ epoch) (unheard : s.Unheard pairs)
    (replaying : s.Replaying epoch pairs.card running early done s')
    (total : waiting + running + early + done = pairs)
    (missing : event ::ₘ rest =
      (waiting + early).map (assignment epoch) + (waiting + running).map (completion epoch)) :
    ∃ after waiting running early done, s'.step event = .ok after ∧
      s.Replaying epoch pairs.card running early done after ∧
      waiting + running + early + done = pairs ∧
      rest = (waiting + early).map (assignment epoch) +
        (waiting + running).map (completion epoch) := by
  have member : event ∈ (waiting + early).map (assignment epoch) +
      (waiting + running).map (completion epoch) := by
    rw [← missing]
    exact Multiset.mem_cons_self _ _
  rcases Multiset.mem_add.mp member with member | member
  · obtain ⟨pair, among, rfl⟩ := Multiset.mem_map.mp member
    rcases Multiset.mem_add.mp among with isWaiting | isEarly
    · obtain ⟨waiting, rfl⟩ := Multiset.exists_cons_of_mem isWaiting
      simp only [Multiset.cons_add] at total
      obtain ⟨isOne, apart, room⟩ := unheard.singleOut total
      refine ⟨_, waiting, pair ::ₘ running, early, done, rfl,
        replaying.assignment_first recent apart (unheard.noCompletion pair isOne) room, ?_, ?_⟩
      · simpa only [Multiset.cons_add, Multiset.add_cons] using total
      · apply (Multiset.cons_inj_right _).mp
        rw [missing]
        simp only [Multiset.cons_add, Multiset.add_cons, Multiset.map_cons]
        exact Multiset.cons_swap _ _ _
    · obtain ⟨early, rfl⟩ := Multiset.exists_cons_of_mem isEarly
      simp only [Multiset.cons_add, Multiset.add_cons] at total
      obtain ⟨isOne, apart, room⟩ := unheard.singleOut total
      refine ⟨_, waiting, running, early, pair ::ₘ done, rfl,
        replaying.assignment_second recent apart (unheard.noCompletion pair isOne) room, ?_, ?_⟩
      · simpa only [Multiset.cons_add, Multiset.add_cons] using total
      · apply (Multiset.cons_inj_right _).mp
        rw [missing]
        simp only [Multiset.cons_add, Multiset.add_cons, Multiset.map_cons]
  · obtain ⟨pair, among, rfl⟩ := Multiset.mem_map.mp member
    rcases Multiset.mem_add.mp among with isWaiting | isRunning
    · obtain ⟨waiting, rfl⟩ := Multiset.exists_cons_of_mem isWaiting
      simp only [Multiset.cons_add] at total
      obtain ⟨isOne, apart, _⟩ := unheard.singleOut total
      refine ⟨_, waiting, running, pair ::ₘ early, done, rfl,
        replaying.completion_first recent apart (unheard.noTask pair isOne), ?_, ?_⟩
      · simpa only [Multiset.cons_add, Multiset.add_cons] using total
      · apply (Multiset.cons_inj_right _).mp
        rw [missing]
        simp only [Multiset.cons_add, Multiset.add_cons, Multiset.map_cons]
    · obtain ⟨running, rfl⟩ := Multiset.exists_cons_of_mem isRunning
      simp only [Multiset.cons_add, Multiset.add_cons] at total
      obtain ⟨_, apart, room⟩ := unheard.singleOut total
      refine ⟨_, waiting, running, early, pair ::ₘ done, rfl,
        replaying.completion_second recent (apart_of_subset apart) room, ?_, ?_⟩
      · simpa only [Multiset.cons_add, Multiset.add_cons] using total
      · apply (Multiset.cons_inj_right _).mp
        rw [missing]
        simp only [Multiset.add_cons, Multiset.map_cons]

/-- From any state in between, the messages that are missing complete all tasks, in
whatever order they arrive. -/
theorem Replaying.run {pairs waiting : Multiset ReplicatedTask} {order : List Event}
    (recent : s.currentEpoch ≤ epoch) (unheard : s.Unheard pairs)
    (replaying : s.Replaying epoch pairs.card running early done s')
    (total : waiting + running + early + done = pairs)
    (missing : (order : Multiset Event) =
      (waiting + early).map (assignment epoch) + (waiting + running).map (completion epoch)) :
    ∃ final, Transition.run Coordinator.step s' order = .ok final ∧
      s.Replaying epoch pairs.card 0 0 pairs final := by
  induction order generalizing s' waiting running early done with
  | nil =>
      have nothing : (waiting + early).card + (waiting + running).card = 0 := by
        have cards := congrArg Multiset.card missing
        simpa using cards.symm
      simp only [Multiset.card_add] at nothing
      have noneWaiting : waiting = 0 := Multiset.card_eq_zero.mp (by omega)
      have noneRunning : running = 0 := Multiset.card_eq_zero.mp (by omega)
      have noneEarly : early = 0 := Multiset.card_eq_zero.mp (by omega)
      subst noneWaiting noneRunning noneEarly
      have allDone : done = pairs := by simpa using total
      exact ⟨s', rfl, allDone ▸ replaying⟩
  | cons event rest ih =>
      rw [← Multiset.cons_coe] at missing
      obtain ⟨after, waiting, running, early, done, stepped, next, total, missing⟩ :=
        replaying.step recent unheard total missing
      obtain ⟨final, ran, finished⟩ := ih next total missing
      exact ⟨final, run_cons_eq_ok.mpr ⟨after, stepped, ran⟩, finished⟩

/-! ## Independence of the order -/

/-- `first` and `second`, both reached from `s` by messages about `count` tasks, have the
same task table, epoch and metrics, and no completion is left in the stash.  The number of
running tasks and the least latency are the same unless their counters wrap. -/
structure SameReplay (s : Coordinator) (count : Nat) (first second : Coordinator) : Prop where
  tasks : ∀ id, first.tasks.find? id = second.tasks.find? id
  currentEpoch : first.currentEpoch = second.currentEpoch
  stash : ∀ id, first.earlyCompleteReps.lookup id = s.earlyCompleteReps.lookup id ∧
    second.earlyCompleteReps.lookup id = s.earlyCompleteReps.lookup id
  tasksCompleted : first.metrics.tasksCompleted = second.metrics.tasksCompleted
  tasksQueued : first.metrics.tasksQueued = second.metrics.tasksQueued
  totalLatency : first.metrics.totalLatencyNs = second.metrics.totalLatencyNs
  maxLatency : first.metrics.maxLatencyNs = second.metrics.maxLatencyNs
  tasksRunning : (s.metrics.tasksRunning.toNat + count < 2 ^ 64 ∨
      s.metrics.tasksRunning.toNat + 1 = 2 ^ 64) →
    first.metrics.tasksRunning = second.metrics.tasksRunning
  minLatency : s.metrics.tasksCompleted.toNat + count ≤ 2 ^ 64 →
    first.metrics.minLatencyNs = second.metrics.minLatencyNs

theorem Replaying.sameReplay {pairs : Multiset ReplicatedTask} {first second : Coordinator}
    (one : s.Replaying epoch limit 0 0 pairs first)
    (other : s.Replaying epoch limit 0 0 pairs second) : s.SameReplay limit first second where
  tasks := by
    intro id
    by_cases known : ∃ pair ∈ pairs, pair.id = id
    · obtain ⟨pair, member, rfl⟩ := known
      rw [one.doneTable pair member, other.doneTable pair member]
    · have absent : ∀ pair ∈ 0 + pairs, pair.id ≠ id := by simpa using known
      rw [one.otherTable id absent, other.otherTable id absent]
  currentEpoch := by
    by_cases none : 0 + pairs = 0
    · rw [one.unassigned none, other.unassigned none]
    · rw [one.assigned none, other.assigned none]
  stash := fun id => ⟨one.otherStash id (by simp), other.otherStash id (by simp)⟩
  tasksCompleted := by rw [one.counted.completed, other.counted.completed]
  tasksQueued := UInt64.toNat_inj.mp (by rw [one.counted.queued, other.counted.queued])
  totalLatency := by rw [one.counted.total, other.counted.total]
  maxLatency := UInt64.toNat_inj.mp (by rw [one.counted.maximum, other.counted.maximum])
  tasksRunning := one.counted.tasksRunning_eq other.counted
  minLatency := by
    intro small
    by_cases none : pairs.map latency = 0
    · rw [one.counted.noMinimum none, other.counted.noMinimum none]
    · apply UInt64.toNat_inj.mp
      rw [one.counted.minimum small none, other.counted.minimum small none]

/-- All messages about a list of new tasks, in any order. -/
theorem replaying_all {pairs : List ReplicatedTask} {order : List Event}
    (recent : s.currentEpoch ≤ epoch) (unheard : s.Unheard pairs)
    (arranged : order.Perm (messages epoch pairs)) :
    ∃ final, Transition.run step s order = .ok final ∧
      s.Replaying epoch pairs.length 0 0 pairs final := by
  have missing : (order : Multiset Event) =
      ((pairs : Multiset ReplicatedTask) + 0).map (assignment epoch) +
        ((pairs : Multiset ReplicatedTask) + 0).map (completion epoch) := by
    rw [Multiset.coe_eq_coe.mpr arranged, coe_messages, add_zero]
  exact (replaying_refl s epoch _).run recent unheard (by simp) missing

/-- The backup reaches the same state from the messages about a list of new tasks, in
whatever order they arrive. -/
theorem replay_independent_of_order {s : Coordinator} {epoch : UInt64}
    {pairs : List ReplicatedTask} {first second : List Event}
    (recent : s.currentEpoch ≤ epoch) (unheard : s.Unheard pairs)
    (oneOrder : first.Perm (messages epoch pairs))
    (otherOrder : second.Perm (messages epoch pairs)) :
    ∃ one other, Transition.run step s first = .ok one ∧
      Transition.run step s second = .ok other ∧ s.SameReplay pairs.length one other := by
  obtain ⟨one, ran, replayed⟩ := replaying_all recent unheard oneOrder
  obtain ⟨other, otherRan, otherReplayed⟩ := replaying_all recent unheard otherOrder
  exact ⟨one, other, ran, otherRan, replayed.sameReplay otherReplayed⟩

/-- Two tasks, one of which takes 5 ns and the other 3 ns. -/
def slowAndFast : List ReplicatedTask :=
  [{ assigned := { taskId := 1, queuedAt := 10 }
     completed := { taskId := 1, completedAt := 15 }
     sameTask := rfl },
   { assigned := { taskId := 2, queuedAt := 10 }
     completed := { taskId := 2, completedAt := 13 }
     sameTask := rfl }]

/-- The messages about the two tasks, the completions in the opposite order. -/
def fastFirst (epoch : UInt64) : List Event :=
  (slowAndFast.map (assignment epoch)) ++ (slowAndFast.reverse.map (completion epoch))

theorem fastFirst_perm (epoch : UInt64) :
    (fastFirst epoch).Perm (messages epoch slowAndFast) := by
  apply Multiset.coe_eq_coe.mp
  rw [coe_messages, fastFirst, ← Multiset.coe_add, ← Multiset.map_coe, ← Multiset.map_coe,
    Multiset.coe_reverse]

/-- Such a backup has not heard of the two tasks. -/
theorem slowAndFast_unheard (metrics : Metrics) :
    { init with metrics }.Unheard slowAndFast where
  distinct := by simp [slowAndFast, ReplicatedTask.id]
  noTask := fun _ _ => rfl
  noCompletion := fun _ _ => rfl

theorem replay_of_two_tasks :
    ∃ one other, Transition.run step init (messages 0 slowAndFast) = .ok one ∧
      Transition.run step init (fastFirst 0) = .ok other ∧ init.SameReplay 2 one other :=
  replay_independent_of_order (UInt64.le_refl _) (slowAndFast_unheard {}) (.refl _)
    (fastFirst_perm 0)

/-- Counters that wrap during the replay of two tasks. -/
def nearlyWrapped : Metrics :=
  { tasksRunning := 18446744073709551614, tasksCompleted := 18446744073709551615 }

/-- With counters that wrap, the order of the messages decides on the number of running
tasks and on the least latency. -/
theorem wrapped_replay_depends_on_order :
    { init with metrics := nearlyWrapped }.currentEpoch ≤ 0 ∧
    { init with metrics := nearlyWrapped }.Unheard slowAndFast ∧
    (fastFirst 0).Perm (messages 0 slowAndFast) ∧
    ∃ one other,
      Transition.run step { init with metrics := nearlyWrapped } (messages 0 slowAndFast) =
        .ok one ∧
      Transition.run step { init with metrics := nearlyWrapped } (fastFirst 0) = .ok other ∧
      one.metrics.tasksRunning ≠ other.metrics.tasksRunning ∧
      one.metrics.minLatencyNs ≠ other.metrics.minLatencyNs := by
  refine ⟨UInt64.le_refl _, slowAndFast_unheard _, fastFirst_perm 0, _, _, rfl, rfl, ?_, ?_⟩
  · decide +kernel
  · decide +kernel

end Coordinator

end TaskCoordinator
