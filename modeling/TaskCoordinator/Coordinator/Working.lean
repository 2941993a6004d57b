import TaskCoordinator.Coordinator.Draining
import TaskCoordinator.Coordinator.Lifecycle
import TaskCoordinator.Coordinator.Provenance

/-!
# A coordinator at work

The invariants of a coordinator whose clients submit tasks of known types and none that still runs
or waits, and whose workers answer what they have been assigned.  Under these every handler
returns, and every unfinished task is in the backlog or in a running set.

A task gets into a running set only together with an `ASSIGN` that is pushed for it, and the
`COMPLETE` of a task takes it out.
-/

namespace TaskCoordinator

open Transition

/-- The type of the request has a name. -/
def SubmitMsg.HasKnownType (msg : SubmitMsg) : Prop :=
  msg.type.Known

theorem Asked.known {id : TaskId} {type : TaskType} {words : List UInt8}
    (asked : Asked SubmitMsg.HasKnownType id type words) : type.Known := by
  obtain ⟨msg, known, _, rfl, _⟩ := asked
  exact known

namespace Coordinator

variable {s s' : Coordinator} {event : Event}

/-! ## The invariant -/

/-- A coordinator that is no primary has nothing to do. -/
def Passive (s : Coordinator) : Prop :=
  s.isPrimary = false → (∀ id, s.tasks.find? id = none) ∧ s.completedBacklog = []

/-- What is known about a coordinator whose clients and workers behave. -/
structure Working (s : Coordinator) : Prop where
  sound : s.Sound
  pool : s.Pool
  exact : s.Exact
  scheduled : ∀ id, s.Scheduled id
  genuine : s.Genuine SubmitMsg.HasKnownType
  passive : s.Passive

/-- A task is submitted with a known type and while it neither runs nor waits, a completion comes
from a worker that was asked to execute the task, and a heartbeat from a live worker. -/
def Behaves (s : Coordinator) (event : Event) : Prop :=
  s.PoolEvent event ∧ s.Unscheduled event ∧ event.Genuine SubmitMsg.HasKnownType

theorem Behaves.unstamped (behaves : s.Behaves event) : event.stamp? = none := by
  cases event with
  | assignedReplicate | completedReplicate | snapshot => cases behaves.1
  | _ => rfl

theorem working_init : init.Working where
  sound := sound_init
  pool := pool_init
  exact := exact_init
  scheduled := by simp [Scheduled, init]
  genuine := genuine_init
  passive := by simp [Passive, init]

theorem passive_preserved : Preserves step (fun _ event => event.stamp? = none) Passive := by
  refine preserves_of_moves ?_ ?_
  · intro s event s' passive unstamped received isBackup
    cases received with
    | submitAssigned | submitQueued | completeUnknown | completeAnswered | completeDeferred =>
        cases isBackup
    | assignedReplicate | completedReplicate | snapshot => cases unstamped
    | peerReconnected =>
        unfold processPeerReconnected at isBackup ⊢
        split_ifs at isBackup ⊢
        · exact passive isBackup
        · exact passive isBackup
        · exact passive isBackup
    | _ => exact passive isBackup
  · intro _ event s s' _ move passive isBackup
    cases move with
    | replicated => exact passive isBackup
    | dropped _ front | answered _ front =>
        rw [(passive isBackup).2] at front
        cases front
    | assigned _ _ _ found =>
        rw [(passive isBackup).1] at found
        cases found
    | died _ _ _ _ declared =>
        obtain ⟨_, _, frame, table⟩ := declareDead_spec declared
        rw [frame] at isBackup
        obtain ⟨unknown, nothing⟩ := passive isBackup
        refine ⟨fun id => ?_, frame ▸ nothing⟩
        rw [table id, unknown id]
        rfl

theorem working_preserved : Preserves step Behaves Working := by
  intro s event s' working behaves stepped
  have unstamped := behaves.unstamped
  have isLocal := behaves.1.localEvent working.sound
  exact
    { sound := sound_preserved s event s' working.sound isLocal stepped
      pool := pool_preserved s event s' working.pool behaves.1.live stepped
      exact := exact_preserved s event s' working.exact ⟨isLocal, behaves.2.1⟩ stepped
      scheduled := fun id =>
        scheduled_preserved id s event s' (working.scheduled id) unstamped stepped
      genuine := genuine_preserved s event s' working.genuine ⟨unstamped, behaves.2.2⟩ stepped
      passive := passive_preserved s event s' working.passive unstamped stepped }

/-- A coordinator that has something in a backlog is a primary. -/
theorem Working.isPrimary (working : s.Working)
    (due : s.completedBacklog ≠ [] ∨ s.queuedBacklog ≠ []) : s.isPrimary = true := by
  cases role : s.isPrimary with
  | true => rfl
  | false =>
      obtain ⟨unknown, nothing⟩ := working.passive role
      obtain completed | queued := due
      · exact absurd nothing completed
      · obtain ⟨id, member⟩ := List.exists_mem_of_ne_nil _ queued
        obtain ⟨task, found⟩ := working.sound.queuedKnown id member
        rw [unknown id] at found
        cases found

theorem working_progresses : Progresses step Behaves Working :=
  fun s event working behaves =>
    sound_progresses s event working.sound (behaves.1.localEvent working.sound)

/-! ## Running sets and assignments -/

/-- Messages have been pushed, and the tasks that run now ran before or are assigned by these. -/
def Hands (s s' : Coordinator) : Prop :=
  ∃ pushed, s'.outgoingQueue = s.outgoingQueue ++ pushed ∧
    ∀ worker id, s'.Runs worker id → s.Runs worker id ∨
      ∃ out ∈ pushed, out.msg.assigns? = some id

theorem hands_of_quiet (queue : ∃ pushed, s'.outgoingQueue = s.outgoingQueue ++ pushed)
    (runs : ∀ worker id, s'.Runs worker id → s.Runs worker id) : Hands s s' := by
  obtain ⟨pushed, grown⟩ := queue
  exact ⟨pushed, grown, fun worker id running => .inl (runs worker id running)⟩

theorem Hands.trans {middle : Coordinator} (first : Hands s middle) (second : Hands middle s') :
    Hands s s' := by
  obtain ⟨pushed, queue, runs⟩ := first
  obtain ⟨more, queueMore, runsMore⟩ := second
  refine ⟨pushed ++ more, by rw [queueMore, queue, List.append_assoc], fun worker id running => ?_⟩
  obtain before | ⟨out, member, assigns⟩ := runsMore worker id running
  · refine (runs worker id before).imp_right fun ⟨out, member, assigns⟩ => ?_
    exact ⟨out, List.mem_append_left _ member, assigns⟩
  · exact .inr ⟨out, List.mem_append_right _ member, assigns⟩

theorem hands_assignTo {task : Task} {activeIdx : Nat} {worker : WorkerId} {state : WorkerState}
    (offers : s.Offers activeIdx worker state) (fd : Fd) (now : Nanoseconds) :
    Hands s (s.assignTo task activeIdx worker fd now) := by
  refine ⟨_, rfl, fun other id running => ?_⟩
  obtain ⟨_, rfl⟩ | before := (runs_assignTo offers.held).mp running
  · exact .inr ⟨_, List.mem_singleton_self _, assigns?_assignMessage s task⟩
  · exact .inl before

theorem hands_of_received (received : Received s event s') : Hands s s' := by
  have queue := outgoing_of_received received
  cases received with
  | @submitAssigned fd msg env _ _ state now offers =>
      have accepted : Hands s (s.accept fd msg env.now) :=
        hands_of_quiet ⟨[], by simp⟩ fun _ _ running => running
      have stillOffers : (s.accept fd msg env.now).Offers _ _ _ :=
        ⟨offers.active, offers.held, offers.room⟩
      exact accepted.trans (hands_assignTo stillOffers state.fd now)
  | completeAnswered | completeDeferred =>
      exact hands_of_quiet queue fun _ _ running => (runs_finish.mp running).2
  | assignedReplicate =>
      rw [assignReplicate_frame] at queue ⊢
      exact hands_of_quiet queue fun _ _ running => running
  | completedReplicate =>
      rw [completeReplicate_frame] at queue ⊢
      exact hands_of_quiet queue fun _ _ running => running
  | peerReconnected =>
      unfold processPeerReconnected at queue ⊢
      split_ifs at queue ⊢ <;> exact hands_of_quiet queue fun _ _ running => running
  | heartbeat | registerReused =>
      refine hands_of_quiet queue fun worker id running => ?_
      refine (runs_of_modify_keeps rfl ?_).mp running
      exact fun _ => rfl
  | registerFresh => exact hands_of_quiet queue fun _ _ running => runs_registerFresh.mp running
  | _ => exact hands_of_quiet queue fun _ _ running => running

theorem hands_of_move (move : Move event s s') : Hands s s' := by
  have queue := outgoing_of_move move
  cases move with
  | @assigned _ _ task activeIdx worker state now _ _ _ offers =>
      have assigned : Hands s (s.assignTo task activeIdx worker state.fd now) :=
        hands_assignTo offers state.fd now
      exact assigned
  | died _ _ _ _ declared =>
      exact hands_of_quiet queue fun _ _ running => ((runs_declareDead declared).mp running).2
  | _ => exact hands_of_quiet queue fun _ _ running => running

theorem hands_of_step (stepped : s.step event = .ok s') : Hands s s' := by
  obtain ⟨middle, received, moves⟩ := step_spec stepped
  have first := hands_of_received received
  clear stepped received
  induction moves with
  | refl => exact first
  | tail _ move ih => exact ih.trans (hands_of_move move)

/-- A completion adds at most a result to send, and it takes its task out of the running sets. -/
structure Completes (s : Coordinator) (id : TaskId) (s' : Coordinator) : Prop where
  queued : s'.queuedBacklog = s.queuedBacklog
  completed : s'.completedBacklog.length ≤ s.completedBacklog.length + 1
  orders : s'.pushedOrders.length = s.pushedOrders.length
  active : s'.activeWorkers = s.activeWorkers
  notRunning : ¬ s'.Running id

theorem Completes.move {id : TaskId} {middle : Coordinator} (completes : Completes s id middle)
    {fd : Fd} {msg : CompleteMsg} {env : Env} (logPrivate : middle.LogPrivate)
    (move : Move (.complete fd msg env) middle s') : Completes s id s' := by
  cases move with
  | replicated =>
      have same := pushedOrders_push (replicateOne_outgoingQueue middle)
      rw [logPrivate.head.1] at same
      exact ⟨completes.queued, completes.completed, same.trans completes.orders, completes.active,
        completes.notRunning⟩
  | dropped drains | answered drains | assigned _ drains => cases drains
  | died sweeps => cases sweeps

theorem notRunning_of_received {fd : Fd} {msg : CompleteMsg} {env : Env}
    (received : Received s (.complete fd msg env) s') : ¬ s'.Running msg.taskId := by
  cases found : s.tasks.find? msg.taskId with
  | some task => exact (completed_complete found received).not_running
  | none =>
      cases received with
      | completeUnknown =>
          rintro ⟨task, foundAfter, _⟩
          rw [found] at foundAfter
          cases foundAfter
      | completeAnswered known | completeDeferred known =>
          rw [found] at known
          cases known

theorem completes_of_step {fd : Fd} {msg : CompleteMsg} {env : Env} (logPrivate : s.LogPrivate)
    (stepped : s.step (.complete fd msg env) = .ok s') : Completes s msg.taskId s' := by
  obtain ⟨middle, received, moves⟩ := step_spec stepped
  have stillPrivate := logPrivate.received received
  have notRunning := notRunning_of_received received
  have first : Completes s msg.taskId middle := by
    cases received with
    | completeUnknown => exact ⟨rfl, Nat.le_succ _, rfl, rfl, notRunning⟩
    | @completeAnswered _ _ _ task =>
        have same := pushedOrders_push (answer_outgoingQueue (s.finish msg task) (msg.update task))
        exact ⟨rfl, Nat.le_succ _, same, rfl, notRunning⟩
    | completeDeferred => exact ⟨rfl, by simp, rfl, rfl, notRunning⟩
  have kept : ∀ before after, Move (.complete fd msg env) before after →
      Completes s msg.taskId before ∧ before.LogPrivate →
      Completes s msg.taskId after ∧ after.LogPrivate :=
    fun _ _ move ⟨completes, isPrivate⟩ => ⟨completes.move isPrivate move, isPrivate.move move⟩
  exact (kept_of_moves kept moves ⟨first, stillPrivate⟩).1

theorem activeWorkers_of_pass {env : Env} (stepped : s.step (.pass env) = .ok s') :
    s'.activeWorkers = s.activeWorkers := by
  obtain ⟨middle, received, moves⟩ := step_spec stepped
  cases received
  have kept : ∀ before after, Move (.pass env) before after →
      before.activeWorkers = s.activeWorkers → after.activeWorkers = s.activeWorkers := by
    intro before after move same
    cases move with
    | died sweeps => cases sweeps
    | _ => exact same
  exact kept_of_moves kept moves rfl

end Coordinator

end TaskCoordinator
