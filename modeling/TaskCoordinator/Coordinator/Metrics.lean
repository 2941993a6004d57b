import TaskCoordinator.Coordinator.State

/-!
# Metrics

The static `record_*` functions of the coordinator, its rolling throughput and the
recomputation of all counters from a task table.  Counters and latencies are unsigned
64-bit numbers that wrap.
-/

namespace TaskCoordinator

namespace Metrics

def recordEnqueue (metrics : Metrics) : Metrics :=
  { metrics with tasksQueued := metrics.tasksQueued + 1 }

def recordAssignment (metrics : Metrics) : Metrics :=
  { metrics with
    tasksQueued := metrics.tasksQueued - (if metrics.tasksQueued > 0 then 1 else 0)
    tasksRunning := metrics.tasksRunning + 1 }

/-- Keep the newest `MAX_LATENCY_SAMPLES` samples. -/
def trimLatencies (latencies : List UInt64) : List UInt64 :=
  latencies.drop (latencies.length - Config.maxLatencySamples)

def recordCompletionSystem (metrics : Metrics) (task : Task) : Metrics :=
  let completed := metrics.tasksCompleted + 1
  let latency := task.completedAt - task.queuedAt
  { metrics with
    tasksRunning := metrics.tasksRunning - (if metrics.tasksRunning > 0 then 1 else 0)
    tasksCompleted := completed
    latencies := trimLatencies (metrics.latencies ++ [latency])
    totalLatencyNs := metrics.totalLatencyNs + latency
    minLatencyNs := if completed = 1 then latency else min metrics.minLatencyNs latency
    maxLatencyNs := max metrics.maxLatencyNs latency
    completionTimesNs := metrics.completionTimesNs ++ [task.completedAt] }

/-- Forget the completions that left the window, and count the others. -/
def getRollingThroughput (metrics : Metrics) (now : Nanoseconds) : UInt64 × Metrics :=
  let recent := metrics.completionTimesNs.dropWhile
    fun completedAt => decide (now - completedAt > Config.throughputWindowNs)
  (UInt64.ofNat recent.length, { metrics with completionTimesNs := recent })

/-- One round of the loop of `recompute_metrics`. -/
def recomputeTask (metrics : Metrics) (task : Task) : Metrics :=
  match task.state with
  | .completed =>
      let completed := metrics.tasksCompleted + 1
      let latency := task.completedAt - task.queuedAt
      { metrics with
        tasksCompleted := completed
        totalLatencyNs := metrics.totalLatencyNs + latency
        minLatencyNs := if completed = 1 then latency else min metrics.minLatencyNs latency
        maxLatencyNs := max metrics.maxLatencyNs latency
        latencies := metrics.latencies ++ [latency] }
  | .running => { metrics with tasksRunning := metrics.tasksRunning + 1 }
  | .queued => { metrics with tasksQueued := metrics.tasksQueued + 1 }
  | .other _ _ => metrics

/-- `recompute_metrics` over the tasks in the order in which the table is iterated.  The
completion times of the rolling throughput are kept. -/
def recomputeMetrics (tasks : List Task) (metrics : Metrics) : Metrics :=
  tasks.foldl recomputeTask { completionTimesNs := metrics.completionTimesNs }

end Metrics

/-- `record_completion_worker`. -/
def WorkerState.recordCompletion (worker : WorkerState) (task : Task) : WorkerState :=
  { worker with
    tasksCompleted := worker.tasksCompleted + 1
    totalLatencyNs := worker.totalLatencyNs + (task.completedAt - task.startedAt) }

end TaskCoordinator
