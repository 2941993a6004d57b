import TaskCoordinator.Coordinator.Accounting
import TaskCoordinator.Coordinator.Pool

/-!
# Promotion of a backup

A backup learns tasks from replication messages, and a `SUBMIT` makes it the primary.  The
messages write the task table only: the backlog stays empty, and the workers that
replicated records name are those of the other coordinator.  So a replicated task is not
scheduled here before a client submits it again, while every task that has been submitted
is, from then on.
-/

namespace TaskCoordinator

/-- The events of clients, of workers and of the scheduler itself. -/
def Event.isLocal : Event → Bool
  | .submit .. | .complete .. | .heartbeat .. | .register .. | .pass _ | .backlog _
  | .replicate _ | .sweep _ => true
  | _ => false

theorem Event.unstamped_of_isLocal {event : Event} (isLocal : event.isLocal = true) :
    event.stamp? = none := by
  cases event with
  | assignedReplicate | completedReplicate | snapshot => cases isLocal
  | _ => rfl

namespace Coordinator

open Transition

variable {s s' : Coordinator} {event : Event} {id : TaskId}

/-- The task can be executed without a new `SUBMIT`: it waits in the backlog, or a live
worker of this coordinator has it. -/
def Executable (s : Coordinator) (id : TaskId) : Prop :=
  id ∈ s.queuedBacklog ∨ ∃ worker, s.Alive worker ∧ s.Runs worker id

instance (s : Coordinator) (id : TaskId) : Decidable (s.Executable id) :=
  decidable_of_iff (id ∈ s.queuedBacklog ∨
      ∃ state ∈ s.workersStates, state.alive = true ∧ id ∈ state.runningTasks) <| by
    refine or_congr_right ⟨?_, ?_⟩
    · rintro ⟨state, member, alive, running⟩
      obtain ⟨worker, held⟩ := List.mem_iff_getElem?.mp member
      exact ⟨worker, ⟨state, held, alive⟩, state, held, running⟩
    · rintro ⟨worker, ⟨state, held, alive⟩, other, heldOther, running⟩
      rw [held] at heldOther
      cases heldOther
      exact ⟨state, List.mem_of_getElem? held, alive, running⟩

/-- In a pool only live workers have tasks. -/
theorem Pool.alive_of_runs (pool : s.Pool) {worker : WorkerId} (runs : s.Runs worker id) :
    s.Alive worker := by
  obtain ⟨state, held, member⟩ := runs
  refine ⟨state, held, (pool.alive worker state held).mpr ?_⟩
  refine ((pool.covers worker).mp (lt_of_held held)).resolve_right fun free => ?_
  rw [(pool.idle worker free state held).2] at member
  simp at member

theorem scheduled_of_step (unstamped : event.stamp? = none) (submits : event.submits? = some id)
    (stepped : s.step event = .ok s') : s'.Scheduled id := by
  obtain ⟨middle, received, moves⟩ := step_spec stepped
  have kept : ∀ first second, Move event first second →
      first.Scheduled id → second.Scheduled id := fun _ _ move scheduled => scheduled.move move
  exact kept_of_moves kept moves (Scheduled.received unstamped (.inl submits) received)

/-- A task is scheduled at the end of every local run in which it has been submitted. -/
theorem scheduled_of_submitted {later : List Event}
    (isLocal : ∀ event ∈ later, event.isLocal = true)
    (ran : Transition.run step s later = .ok s')
    (submitted : id ∈ later.filterMap Event.submits?) : s'.Scheduled id := by
  obtain ⟨event, member, submits⟩ := List.mem_filterMap.mp submitted
  obtain ⟨before, after, rfl⟩ := List.append_of_mem member
  obtain ⟨s₀, _, rest⟩ := run_append_eq_ok.mp ran
  obtain ⟨s₁, stepped, ranAfter⟩ := run_cons_eq_ok.mp rest
  have unstamped : ∀ other ∈ before ++ event :: after, other.stamp? = none :=
    fun other member => Event.unstamped_of_isLocal (isLocal other member)
  have scheduled := scheduled_of_step (unstamped event (by simp)) submits stepped
  refine (scheduled_preserved id).run scheduled ?_ ranAfter
  exact along_of_forall fun other member => unstamped other (by simp [member])

/-- Whatever came before, in every state reached by local events with heartbeats of live
workers only, each unfinished task that has been submitted since is executable. -/
theorem submitted_executable (earlier later : List Event)
    (isLocal : ∀ event ∈ later, event.isLocal = true)
    (live : Along step LiveHeartbeat init (earlier ++ later))
    (ran : run (earlier ++ later) = .ok s) :
    ∀ id ∈ later.filterMap Event.submits?, ∀ task, s.tasks.find? id = some task →
      task.state ≠ .completed → s.Executable id := by
  intro id submitted task found unfinished
  obtain ⟨s₀, _, ranLater⟩ := run_append_eq_ok.mp ran
  obtain ⟨named, queued, running⟩ := scheduled_of_submitted isLocal ranLater submitted task found
  have pool := pool_preserved.run pool_init live ran
  cases state : task.state with
  | queued => exact .inl (queued state)
  | running => exact .inr ⟨task.workerId, pool.alive_of_runs (running state), running state⟩
  | completed => exact absurd state unfinished
  | other => exact (state ▸ named : TaskState.Named (.other ..)).elim

/-- A backup that knows one running task is promoted by the `SUBMIT` of another one. -/
def promotion : List Event × List Event :=
  ([.assignedReplicate 0 { taskId := 7, workerId := 2 }],
    [.submit 9 { taskId := 8 } {}, .register 5 {}, .backlog {}])

theorem submitted_executable_after_promotion :
    ∃ s, run (promotion.1 ++ promotion.2) = .ok s ∧ s.isPrimary = true ∧ s.Executable 8 := by
  have reached : ∃ s, run (promotion.1 ++ promotion.2) = .ok s ∧ s.isPrimary = true ∧
      (s.tasks.find? 8).map Task.state = some .running := by decide +kernel
  obtain ⟨s, ran, primary, running⟩ := reached
  obtain ⟨task, found, isRunning⟩ := Option.map_eq_some_iff.mp running
  refine ⟨s, ran, primary, ?_⟩
  refine submitted_executable promotion.1 promotion.2 (by decide +kernel) (by decide +kernel)
    ran 8 (by decide +kernel) task found ?_
  rw [isRunning]
  decide

/-- The replicated task is unfinished, and nothing will execute it. -/
theorem replicated_task_not_executable :
    (∀ event ∈ promotion.1, event.stamp? ≠ none) ∧
    Along step LiveHeartbeat init (promotion.1 ++ promotion.2) ∧
    ∃ s, run (promotion.1 ++ promotion.2) = .ok s ∧ s.isPrimary = true ∧
      (s.tasks.find? 7).map Task.state = some .running ∧ ¬ s.Executable 7 := by
  refine ⟨?_, ?_, ?_⟩ <;> decide +kernel

end Coordinator

end TaskCoordinator
