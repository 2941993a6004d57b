import TaskCoordinator.Coordinator.Metrics
import TaskCoordinator.Library.OrderStatistics

/-!
# Counters of a task table

`recompute_metrics` goes through a task table in the order of its hash map and counts.  What
it finds does not depend on this order: `tally` writes the counters down as numbers of tasks,
a sum and two extrema.  The functions that keep the counters up to date while tasks change
their states are compared with the same numbers, and so is `record_completion_system` when it
is applied to the completed tasks of a table one after another.

All arithmetic is on unsigned 64-bit numbers.  The first completion sets the minimum, and it
is told by the counter of completions, which has come back to its start after 2 ^ 64 of them.
A table has no more tasks than that, since the ids have 64 bits.
-/

namespace TaskCoordinator

open OrderStatistics

/-- The counters that `recompute_metrics` recomputes. -/
@[ext] structure Counters where
  tasksCompleted : UInt64
  tasksRunning : UInt64
  tasksQueued : UInt64
  totalLatencyNs : UInt64
  minLatencyNs : UInt64
  maxLatencyNs : UInt64
  deriving DecidableEq, Repr

def Metrics.counters (metrics : Metrics) : Counters where
  tasksCompleted := metrics.tasksCompleted
  tasksRunning := metrics.tasksRunning
  tasksQueued := metrics.tasksQueued
  totalLatencyNs := metrics.totalLatencyNs
  minLatencyNs := metrics.minLatencyNs
  maxLatencyNs := metrics.maxLatencyNs

/-- The time from submission to completion. -/
def Task.latency (task : Task) : UInt64 :=
  task.completedAt - task.queuedAt

/-- The latencies of the completed tasks. -/
def latencies (tasks : List Task) : List UInt64 :=
  (tasks.filter fun task => task.state = .completed).map Task.latency

/-- The counters of a collection of tasks, in no order. -/
def tally (tasks : List Task) : Counters where
  tasksCompleted := UInt64.ofNat (latencies tasks).length
  tasksRunning := UInt64.ofNat (tasks.countP fun task => task.state = .running)
  tasksQueued := UInt64.ofNat (tasks.countP fun task => task.state = .queued)
  totalLatencyNs := (latencies tasks).foldl (· + ·) 0
  minLatencyNs := (latencies tasks).min?.getD 0
  maxLatencyNs := (latencies tasks).foldl max 0

/-- One more task, as a round of `recompute_metrics` counts it. -/
def Counters.add (counters : Counters) (task : Task) : Counters :=
  match task.state with
  | .completed =>
      { counters with
        tasksCompleted := counters.tasksCompleted + 1
        totalLatencyNs := counters.totalLatencyNs + task.latency
        minLatencyNs :=
          if counters.tasksCompleted + 1 = 1 then task.latency
          else min counters.minLatencyNs task.latency
        maxLatencyNs := max counters.maxLatencyNs task.latency }
  | .running => { counters with tasksRunning := counters.tasksRunning + 1 }
  | .queued => { counters with tasksQueued := counters.tasksQueued + 1 }
  | .other _ _ => counters

theorem counters_recomputeTask (metrics : Metrics) (task : Task) :
    (metrics.recomputeTask task).counters = metrics.counters.add task := by
  unfold Metrics.recomputeTask Counters.add
  cases task.state <;> rfl

/-! ## The order does not matter -/

theorem perm_latencies {tasks others : List Task} (perm : tasks.Perm others) :
    (latencies tasks).Perm (latencies others) :=
  (perm.filter _).map _

theorem tally_perm {tasks others : List Task} (perm : tasks.Perm others) :
    tally tasks = tally others := by
  have same := perm_latencies perm
  apply Counters.ext
  · exact congrArg UInt64.ofNat same.length_eq
  · exact congrArg UInt64.ofNat (perm.countP_eq _)
  · exact congrArg UInt64.ofNat (perm.countP_eq _)
  · exact same.foldl_op_eq
  · exact congrArg (Option.getD · 0) (min?_eq_of_perm same)
  · exact same.foldl_op_eq

/-- A counter tells the first completion as long as it has not wrapped. -/
theorem ofNat_succ_eq_one {count : Nat} (bound : count < 2 ^ 64) :
    UInt64.ofNat count + 1 = 1 ↔ count = 0 := by
  constructor
  · intro first
    have none : UInt64.ofNat count = 0 := by
      rw [← UInt64.add_left_inj 1, first, UInt64.zero_add]
    have exact : (UInt64.ofNat count).toNat = count := UInt64.toNat_ofNat_of_lt' bound
    rw [none] at exact
    exact exact.symm
  · intro none
    rw [none]
    rfl

theorem latencies_concat (tasks : List Task) (task : Task) :
    latencies (tasks ++ [task]) =
      if task.state = .completed then latencies tasks ++ [task.latency] else latencies tasks := by
  cases kind : task.state <;> simp [latencies, kind]

theorem length_latencies_le (tasks : List Task) : (latencies tasks).length ≤ tasks.length := by
  rw [latencies, List.length_map]
  exact List.length_filter_le _ _

/-- The tally grows with every task as the counters of `recompute_metrics` do. -/
theorem tally_concat {tasks : List Task} (few : tasks.length < 2 ^ 64) (task : Task) :
    tally (tasks ++ [task]) = (tally tasks).add task := by
  unfold Counters.add
  cases kind : task.state with
  | queued => simp [tally, latencies, kind]
  | running => simp [tally, latencies, kind]
  | other => simp [tally, latencies, kind]
  | completed =>
      have appended : latencies (tasks ++ [task]) = latencies tasks ++ [task.latency] := by
        rw [latencies_concat, if_pos kind]
      have fewer : (latencies tasks).length < 2 ^ 64 :=
        Nat.lt_of_le_of_lt (length_latencies_le tasks) few
      apply Counters.ext
      · simp [tally, appended]
      · simp [tally, kind]
      · simp [tally, kind]
      · simp [tally, appended]
      · simp only [tally, appended, ofNat_succ_eq_one fewer]
        cases first : latencies tasks with
        | nil => rfl
        | cons latency rest =>
            rw [List.cons_append, List.min?_cons', List.min?_cons', List.foldl_concat,
              if_neg (by simp)]
            rfl
      · simp [tally, appended]

/-- In every order of the tasks, `recompute_metrics` finds their tally. -/
theorem counters_recomputeMetrics {tasks : List Task} (few : tasks.length ≤ 2 ^ 64)
    (metrics : Metrics) : (Metrics.recomputeMetrics tasks metrics).counters = tally tasks := by
  induction tasks using List.reverseRecOn with
  | nil => rfl
  | append_singleton tasks task ih =>
      rw [List.length_append, List.length_singleton] at few
      rw [tally_concat few, ← ih (Nat.le_of_lt few), ← counters_recomputeTask]
      exact congrArg Metrics.counters (List.foldl_concat ..)

/-! ## Counters kept up to date -/

theorem tally_cons {tasks : List Task} (few : tasks.length < 2 ^ 64) (task : Task) :
    tally (task :: tasks) = (tally tasks).add task := by
  rw [← tally_concat few]
  exact tally_perm (List.perm_append_singleton task tasks).symm

/-- A new task in the queue. -/
theorem counters_recordEnqueue {metrics : Metrics} {task : Task} {rest : List Task}
    (few : rest.length < 2 ^ 64) (counted : metrics.counters = tally rest)
    (queued : task.state = .queued) : metrics.recordEnqueue.counters = tally (task :: rest) := by
  rw [tally_cons few, ← counted, Counters.add, queued]
  rfl

/-- A guarded decrement undoes an increment that does not wrap. -/
theorem guarded_decrement {count : Nat} (bound : count + 1 < 2 ^ 64) :
    UInt64.ofNat count + 1 - (if UInt64.ofNat count + 1 > 0 then 1 else 0) =
      UInt64.ofNat count := by
  have positive : UInt64.ofNat count + 1 > 0 := by
    have next : UInt64.ofNat count + 1 = UInt64.ofNat (count + 1) := by
      rw [UInt64.ofNat_add]
      rfl
    rw [next, gt_iff_lt, UInt64.lt_iff_toNat_lt, UInt64.toNat_ofNat_of_lt' bound]
    exact Nat.succ_pos count
  rw [if_pos positive]
  exact UInt64.add_sub_cancel _ _

/-- A task leaves the queue for a worker. -/
theorem counters_recordAssignment {metrics : Metrics} {before after : Task} {rest : List Task}
    (few : rest.length + 1 < 2 ^ 64) (counted : metrics.counters = tally (before :: rest))
    (queued : before.state = .queued) (running : after.state = .running) :
    metrics.recordAssignment.counters = tally (after :: rest) := by
  have fewer : rest.length < 2 ^ 64 := Nat.lt_of_succ_lt few
  have bound : (rest.countP fun task => task.state = .queued) + 1 < 2 ^ 64 :=
    Nat.lt_of_le_of_lt (Nat.succ_le_succ List.countP_le_length) few
  rw [tally_cons fewer, Counters.add, queued, Counters.ext_iff] at counted
  obtain ⟨completed, runningCount, queuedCount, total, least, greatest⟩ := counted
  rw [tally_cons fewer, Counters.add, running]
  apply Counters.ext
  · exact completed
  · exact congrArg (· + 1) runningCount
  · have waiting : metrics.tasksQueued =
        UInt64.ofNat (rest.countP fun task => task.state = .queued) + 1 := queuedCount
    simp only [Metrics.counters, Metrics.recordAssignment, waiting]
    exact guarded_decrement bound
  · exact total
  · exact least
  · exact greatest

/-- A task leaves its worker completed. -/
theorem counters_recordCompletionSystem {metrics : Metrics} {before after : Task}
    {rest : List Task} (few : rest.length + 1 < 2 ^ 64)
    (counted : metrics.counters = tally (before :: rest)) (running : before.state = .running)
    (completed : after.state = .completed) :
    (metrics.recordCompletionSystem after).counters = tally (after :: rest) := by
  have fewer : rest.length < 2 ^ 64 := Nat.lt_of_succ_lt few
  have bound : (rest.countP fun task => task.state = .running) + 1 < 2 ^ 64 :=
    Nat.lt_of_le_of_lt (Nat.succ_le_succ List.countP_le_length) few
  rw [tally_cons fewer, Counters.add, running, Counters.ext_iff] at counted
  obtain ⟨completedCount, runningCount, queuedCount, total, least, greatest⟩ := counted
  rw [tally_cons fewer, Counters.add, completed]
  have count : metrics.tasksCompleted = (tally rest).tasksCompleted := completedCount
  apply Counters.ext
  · exact congrArg (· + 1) completedCount
  · have busy : metrics.tasksRunning =
        UInt64.ofNat (rest.countP fun task => task.state = .running) + 1 := runningCount
    simp only [Metrics.counters, Metrics.recordCompletionSystem, busy]
    exact guarded_decrement bound
  · exact queuedCount
  · exact congrArg (· + after.latency) total
  · have minimum : metrics.minLatencyNs = (tally rest).minLatencyNs := least
    simp only [Metrics.counters, Metrics.recordCompletionSystem, count, minimum]
    rfl
  · exact congrArg (max · after.latency) greatest

/-! ## Completions recorded one after another -/

/-- The samples of `recompute_metrics` are the latencies in the order of the iteration. -/
theorem latencies_recomputeMetrics (tasks : List Task) (metrics : Metrics) :
    (Metrics.recomputeMetrics tasks metrics).latencies = latencies tasks := by
  induction tasks using List.reverseRecOn with
  | nil => rfl
  | append_singleton tasks task ih =>
      rw [latencies_concat, ← ih, Metrics.recomputeMetrics, List.foldl_concat]
      unfold Metrics.recomputeTask
      cases task.state <;> rfl

/-- The oldest samples may be forgotten early. -/
theorem trimLatencies_concat (samples : List UInt64) (sample : UInt64) :
    Metrics.trimLatencies (Metrics.trimLatencies samples ++ [sample]) =
      Metrics.trimLatencies (samples ++ [sample]) := by
  unfold Metrics.trimLatencies
  generalize Config.maxLatencySamples = limit
  have counts : samples.length - limit + (samples.length + 1 - (samples.length - limit) - limit) =
      samples.length + 1 - limit := by omega
  rw [← List.drop_append_of_le_length (Nat.sub_le _ _), List.drop_drop, List.length_drop,
    List.length_append, List.length_singleton, counts]

theorem trimLatencies_of_few {samples : List UInt64}
    (few : samples.length ≤ Config.maxLatencySamples) :
    Metrics.trimLatencies samples = samples := by
  rw [Metrics.trimLatencies, Nat.sub_eq_zero_of_le few, List.drop_zero]

/-- The metrics after the completions of some tasks, from fresh metrics. -/
def recordCompletions (tasks : List Task) : Metrics :=
  tasks.foldl Metrics.recordCompletionSystem {}

theorem recordCompletions_concat (tasks : List Task) (task : Task) :
    recordCompletions (tasks ++ [task]) = (recordCompletions tasks).recordCompletionSystem task :=
  List.foldl_concat ..

/-- The newest samples have been kept. -/
theorem latencies_recordCompletions {tasks : List Task}
    (completed : ∀ task ∈ tasks, task.state = .completed) :
    (recordCompletions tasks).latencies = Metrics.trimLatencies (latencies tasks) := by
  induction tasks using List.reverseRecOn with
  | nil => rfl
  | append_singleton tasks task ih =>
      rw [List.forall_mem_append, List.forall_mem_singleton] at completed
      rw [latencies_concat, if_pos completed.2, recordCompletions_concat, ← trimLatencies_concat,
        ← ih completed.1]
      simp only [Metrics.recordCompletionSystem, Task.latency]

/-- No task is running in metrics that only know completions. -/
theorem tasksRunning_recordCompletions (tasks : List Task) :
    (recordCompletions tasks).tasksRunning = 0 := by
  induction tasks using List.reverseRecOn with
  | nil => rfl
  | append_singleton tasks task ih =>
      rw [recordCompletions_concat]
      simp [Metrics.recordCompletionSystem, ih]

/-- They have the tally of the completed tasks. -/
theorem counters_recordCompletions {tasks : List Task} (few : tasks.length ≤ 2 ^ 64)
    (completed : ∀ task ∈ tasks, task.state = .completed) :
    (recordCompletions tasks).counters = tally tasks := by
  induction tasks using List.reverseRecOn with
  | nil => rfl
  | append_singleton tasks task ih =>
      rw [List.forall_mem_append, List.forall_mem_singleton] at completed
      rw [List.length_append, List.length_singleton] at few
      rw [tally_concat few, ← ih (Nat.le_of_lt few) completed.1, Counters.add, completed.2,
        recordCompletions_concat]
      apply Counters.ext
      · rfl
      · have none := tasksRunning_recordCompletions tasks
        simp [Metrics.counters, Metrics.recordCompletionSystem, none]
      · rfl
      · rfl
      · rfl
      · rfl

/-! ## Tables -/

namespace TaskTable

/-- The tasks of a table. -/
def records (table : TaskTable) : List Task :=
  table.ids.filterMap table.find?

/-- The tasks of a table but one. -/
def recordsWithout (table : TaskTable) (id : TaskId) : List Task :=
  (table.ids.erase id).filterMap table.find?

variable {table : TaskTable}

theorem nodup_ids (table : TaskTable) : table.ids.Nodup :=
  table.entries.nodupKeys

/-- There are as many ids as 64-bit numbers. -/
theorem length_ids_le (table : TaskTable) : table.ids.length ≤ 2 ^ 64 := by
  have different : (table.ids.map UInt64.toNat).Nodup :=
    table.nodup_ids.map fun _ _ => UInt64.toNat_inj.mp
  have numbers : table.ids.map UInt64.toNat ⊆ List.range (2 ^ 64) := by
    intro number member
    obtain ⟨id, _, rfl⟩ := List.mem_map.mp member
    exact List.mem_range.mpr id.toNat_lt
  have fewer := (different.subperm numbers).length_le
  rwa [List.length_map, List.length_range] at fewer

theorem length_filterMap_find? {ids : List TaskId} (known : ∀ id ∈ ids, id ∈ table.ids) :
    (ids.filterMap table.find?).length = ids.length := by
  induction ids with
  | nil => rfl
  | cons id rest ih =>
      obtain ⟨task, found⟩ := mem_ids.mp (known id List.mem_cons_self)
      rw [List.filterMap_cons_some found, List.length_cons, List.length_cons,
        ih fun other member => known other (List.mem_cons_of_mem id member)]

theorem length_records (table : TaskTable) : table.records.length = table.ids.length :=
  length_filterMap_find? fun _ member => member

/-- A write replaces the record of its task. -/
theorem records_set (table : TaskTable) (task : Task) :
    (table.set task).records = task :: table.recordsWithout task.id := by
  have keys : (table.set task).ids = task.id :: table.ids.erase task.id :=
    AList.keys_insert table.entries
  rw [records, keys, List.filterMap_cons_some (find?_set_self table task), recordsWithout]
  congr 1
  apply List.filterMap_congr
  intro id member
  rw [find?_set, if_neg]
  intro same
  rw [same] at member
  exact (table.nodup_ids.not_mem_erase) member

theorem recordsWithout_of_fresh {id : TaskId} (fresh : table.find? id = none) :
    table.recordsWithout id = table.records := by
  have absent : id ∉ table.ids := by
    simp [fresh]
  rw [recordsWithout, List.erase_of_not_mem absent]
  rfl

theorem records_perm_cons {id : TaskId} {task : Task} (found : table.find? id = some task) :
    table.records.Perm (task :: table.recordsWithout id) := by
  have member : id ∈ table.ids := mem_ids.mpr ⟨task, found⟩
  have split := (List.perm_cons_erase member).filterMap table.find?
  rwa [List.filterMap_cons_some found] at split

/-- The completed tasks of a table. -/
def completions (table : TaskTable) : List Task :=
  table.records.filter fun task => task.state = .completed

theorem latencies_completions (table : TaskTable) :
    latencies table.completions = latencies table.records := by
  simp [latencies, completions, List.filter_filter]

end TaskTable

/-! ## Recomputed and recorded statistics -/

section

variable {table : TaskTable} {visited recorded : List Task}

theorem counters_of_visits (visits : visited.Perm table.records) (metrics : Metrics) :
    (Metrics.recomputeMetrics visited metrics).counters = tally table.records := by
  have few : visited.length ≤ 2 ^ 64 := by
    rw [visits.length_eq, TaskTable.length_records]
    exact table.length_ids_le
  rw [counters_recomputeMetrics few, tally_perm visits]

theorem completed_of_records (records : recorded.Perm table.completions) :
    ∀ task ∈ recorded, task.state = .completed := by
  intro task member
  have kept := records.mem_iff.mp member
  rw [TaskTable.completions, List.mem_filter, decide_eq_true_iff] at kept
  exact kept.2

theorem counters_of_records (records : recorded.Perm table.completions) :
    (recordCompletions recorded).counters = tally table.completions := by
  have few : recorded.length ≤ 2 ^ 64 := by
    rw [records.length_eq]
    apply Nat.le_trans (List.length_filter_le _ _)
    rw [TaskTable.length_records]
    exact table.length_ids_le
  rw [counters_recordCompletions few (completed_of_records records), tally_perm records]

/-- The tally of the completed tasks is that of all tasks, apart from the tasks that are running
or queued. -/
theorem tally_completions (table : TaskTable) :
    (tally table.completions).tasksCompleted = (tally table.records).tasksCompleted ∧
    (tally table.completions).totalLatencyNs = (tally table.records).totalLatencyNs ∧
    (tally table.completions).minLatencyNs = (tally table.records).minLatencyNs ∧
    (tally table.completions).maxLatencyNs = (tally table.records).maxLatencyNs := by
  simp only [tally, TaskTable.latencies_completions, and_self]

end

/-- Whatever the order in which a table is iterated and whatever the metrics were before,
`recompute_metrics` finds the same counters and the same samples up to their order.  Recording
the completed tasks one after another, in any order, gives the same statistics of the
completions, and the same samples as long as none of them has to be forgotten. -/
theorem statistics_independent_of_order (table : TaskTable) {visited other recorded : List Task}
    (visits : visited.Perm table.records) (visitsAgain : other.Perm table.records)
    (records : recorded.Perm table.completions) (before earlier : Metrics) :
    (Metrics.recomputeMetrics visited before).counters =
      (Metrics.recomputeMetrics other earlier).counters ∧
    (Metrics.recomputeMetrics visited before).latencies.Perm
      (Metrics.recomputeMetrics other earlier).latencies ∧
    (recordCompletions recorded).tasksCompleted =
      (Metrics.recomputeMetrics visited before).tasksCompleted ∧
    (recordCompletions recorded).totalLatencyNs =
      (Metrics.recomputeMetrics visited before).totalLatencyNs ∧
    (recordCompletions recorded).minLatencyNs =
      (Metrics.recomputeMetrics visited before).minLatencyNs ∧
    (recordCompletions recorded).maxLatencyNs =
      (Metrics.recomputeMetrics visited before).maxLatencyNs ∧
    (table.completions.length ≤ Config.maxLatencySamples →
      (recordCompletions recorded).latencies.Perm
        (Metrics.recomputeMetrics visited before).latencies) := by
  have recomputed := counters_of_visits visits before
  have incremental := counters_of_records records
  obtain ⟨completed, total, least, greatest⟩ := tally_completions table
  refine ⟨?_, ?_, ?_, ?_, ?_, ?_, ?_⟩
  · rw [recomputed, counters_of_visits visitsAgain earlier]
  · rw [latencies_recomputeMetrics, latencies_recomputeMetrics]
    exact perm_latencies (visits.trans visitsAgain.symm)
  · rw [← recomputed, ← incremental] at completed
    exact completed
  · rw [← recomputed, ← incremental] at total
    exact total
  · rw [← recomputed, ← incremental] at least
    exact least
  · rw [← recomputed, ← incremental] at greatest
    exact greatest
  · intro few
    have samples : (latencies recorded).Perm (latencies visited) := by
      refine (perm_latencies records).trans ?_
      rw [TaskTable.latencies_completions]
      exact perm_latencies visits.symm
    have fewSamples : (latencies recorded).length ≤ Config.maxLatencySamples := by
      apply Nat.le_trans (length_latencies_le recorded)
      rw [records.length_eq]
      exact few
    rw [latencies_recordCompletions (completed_of_records records),
      trimLatencies_of_few fewSamples, latencies_recomputeMetrics]
    exact samples

/-- Two completed tasks and one in the queue. -/
def threeTasks : TaskTable :=
  ((TaskTable.empty.set { id := 1, queuedAt := 2, completedAt := 9, state := .completed }).set
    { id := 2, queuedAt := 3, completedAt := 5, state := .completed }).set { id := 3 }

/-- They are iterated in two orders, and the completions are recorded in a third one. -/
theorem statistics_of_threeTasks :
    (Metrics.recomputeMetrics threeTasks.records {}).counters =
      (Metrics.recomputeMetrics threeTasks.records.reverse {}).counters ∧
    (recordCompletions threeTasks.completions.reverse).minLatencyNs = 2 := by
  have statistics := statistics_independent_of_order threeTasks (List.Perm.refl _)
    (List.reverse_perm _) (List.reverse_perm _) {} {}
  obtain ⟨counters, _, _, _, least, _⟩ := statistics
  refine ⟨counters, least.trans ?_⟩
  decide +kernel

end TaskCoordinator
