import TaskCoordinator.Library.Transition
import TaskCoordinator.Library.RingLog
import TaskCoordinator.Library.Unordered
import TaskCoordinator.Library.SwapRemove
import TaskCoordinator.Library.Mirror
import TaskCoordinator.Library.Wire
import TaskCoordinator.Library.Transfer
import TaskCoordinator.Library.Places
import TaskCoordinator.Library.Attempts
import TaskCoordinator.Library.ServiceRounds
import TaskCoordinator.Library.Rerouting
import TaskCoordinator.Task
import TaskCoordinator.Message
import TaskCoordinator.Coordinator.State
import TaskCoordinator.Coordinator.Metrics
import TaskCoordinator.Coordinator.Scheduling
import TaskCoordinator.Coordinator.Events
import TaskCoordinator.Coordinator.Moves
import TaskCoordinator.Coordinator.Effects
import TaskCoordinator.Coordinator.Accepted
import TaskCoordinator.Coordinator.Outstanding
import TaskCoordinator.Coordinator.Epoch
import TaskCoordinator.Coordinator.Safety
import TaskCoordinator.Coordinator.Pool
import TaskCoordinator.Coordinator.Accounting
import TaskCoordinator.Coordinator.RunningSets
import TaskCoordinator.Coordinator.Lifecycle
import TaskCoordinator.Coordinator.Promotion
import TaskCoordinator.Coordinator.Replication
import TaskCoordinator.Coordinator.Replay
import TaskCoordinator.Coordinator.Reordering
import TaskCoordinator.Coordinator.Snapshots
import TaskCoordinator.Coordinator.Faults
import TaskCoordinator.Coordinator.Tracking
import TaskCoordinator.Coordinator.Indexing
import TaskCoordinator.Coordinator.Answers
import TaskCoordinator.Coordinator.Reports
import TaskCoordinator.Coordinator.Charges
import TaskCoordinator.Coordinator.Assignment
import TaskCoordinator.Coordinator.Sweeps
import TaskCoordinator.Coordinator.Counters
import TaskCoordinator.Coordinator.Recounting
import TaskCoordinator.Coordinator.Throughput
import TaskCoordinator.Coordinator.LogQueue
import TaskCoordinator.LockFree.SpscQueue
import TaskCoordinator.Coordinator.Handoff
import TaskCoordinator.Coordinator.SchedulerLoop
import TaskCoordinator.Coordinator.SchedulerRounds
import TaskCoordinator.Coordinator.Detection
import TaskCoordinator.Coordinator.Stamps
import TaskCoordinator.Coordinator.Draining
import TaskCoordinator.Serialization.Buffer
import TaskCoordinator.Serialization.Bodies
import TaskCoordinator.Serialization.Snapshot
import TaskCoordinator.Serialization.Messages
import TaskCoordinator.Net.Framing
import TaskCoordinator.Net.Receiving
import TaskCoordinator.Net.SnapshotFrames
import TaskCoordinator.Worker.Execution
import TaskCoordinator.Worker.WordCount
import TaskCoordinator.Worker.Threads
import TaskCoordinator.Worker.Conservation
import TaskCoordinator.Worker.Draining
import TaskCoordinator.Client
import TaskCoordinator.Client.Workload
import TaskCoordinator.Client.Statistics
import TaskCoordinator.Router
import TaskCoordinator.Router.Serving
import TaskCoordinator.Router.Agreement
import TaskCoordinator.Router.Failover
import TaskCoordinator.Router.Distribution
import TaskCoordinator.System.Node
import TaskCoordinator.System.Deployment
import TaskCoordinator.System.Matching
import TaskCoordinator.System.WorkerLink
import TaskCoordinator.System.Interference
import TaskCoordinator.System.Clocks
import TaskCoordinator.System.PeerLink
import TaskCoordinator.System.Descriptors
import TaskCoordinator.Coordinator.Provenance
import TaskCoordinator.Coordinator.Working
import TaskCoordinator.System.WordCounts
import TaskCoordinator.System.Completion
import TaskCoordinator.CommandLine.Mains
