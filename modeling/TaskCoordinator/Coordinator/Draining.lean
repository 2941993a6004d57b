import TaskCoordinator.Coordinator.Accepted
import TaskCoordinator.Coordinator.Assignment

/-!
# Backlog passes make progress

A pass of `process_backlog` whose pushes all find room empties `completed_backlog_`, and it
assigns tasks of `queued_backlog_` until there are none left or no active worker has room.

The steps of the scheduler that only work off what is there lower a potential, in which a queued
task weighs more than the assignment it is turned into.
-/

namespace TaskCoordinator.Coordinator

open Transition

variable {s s' : Coordinator} {event : Event} {env env' : Env}

/-- The assignments that have been pushed. -/
def pushedOrders (s : Coordinator) : List AssignMsg :=
  s.outgoingQueue.filterMap fun sent => sent.msg.assign?

/-- What is left to do.  A queued task has five stages before it: it is assigned, begun, executed,
completed, and perhaps its result waits. -/
def potential (s : Coordinator) : Nat :=
  5 * s.queuedBacklog.length + s.completedBacklog.length + 4 * s.pushedOrders.length

/-! ## The loops of a pass -/

theorem processCompleted_empties (backlog : List TaskId) (s : Coordinator) (env : Env)
    (accepting : env.Accepting) (same : s.completedBacklog = backlog) :
    (processCompleted backlog s env).1.completedBacklog = [] ∧
      (processCompleted backlog s env).2.Accepting := by
  induction backlog generalizing s env with
  | nil => exact ⟨same, accepting⟩
  | cons id rest ih =>
      simp only [processCompleted]
      cases found : s.tasks.find? id with
      | none => exact ih _ _ accepting rfl
      | some task =>
          simp only [sendResult, accepting.accepts, if_true]
          refine ih _ _ ?_ (replicateRounds_keeps completedBacklog (fun _ => rfl) _ _ _)
          exact (replicate_accepting _ accepting.afterPush).2

theorem processQueued_fills (drains : event.Drains) (backlog : List TaskId) (pool : s.Pool)
    (accepting : env.Accepting) (same : s.queuedBacklog = backlog)
    (called : processQueued backlog s env = .ok (s', env')) :
    s'.completedBacklog = s.completedBacklog ∧
      (s'.queuedBacklog = [] ∨ ∀ worker ∈ s'.activeWorkers, s'.hasRoom worker = false) := by
  induction backlog generalizing s env with
  | nil =>
      cases called
      exact ⟨rfl, .inl same⟩
  | cons id rest ih =>
      simp only [processQueued, bind_eq_ok, taskAt_eq_ok] at called
      obtain ⟨task, found, ⟨assigned, next, remaining⟩, attempted, later⟩ := called
      have accepted := assign_accepting accepting attempted
      have outcome := assign_spec attempted
      obtain ⟨rfl, activeIdx, worker, state, now, offers, rfl⟩ | ⟨rfl, rfl⟩ := outcome
      · have poolNext := pool.move (Move.assigned now drains same found offers)
        have poolReplicated := kept_of_moves (fun _ _ move pool => Pool.move pool move)
          (@replicate_moves event _ remaining) poolNext
        have backlogs := ih poolReplicated (replicate_accepting _ accepted).2
          (replicateRounds_keeps queuedBacklog (fun _ => rfl) _ _ _) later
        have kept : ((({ s.assignTo task activeIdx worker state.fd now with
            queuedBacklog := rest } : Coordinator).replicate remaining).1).completedBacklog =
            s.completedBacklog :=
          replicateRounds_keeps completedBacklog (fun _ => rfl) _ _ _
        exact ⟨backlogs.1.trans kept, backlogs.2⟩
      · cases later
        refine ⟨rfl, .inr fun worker active => ?_⟩
        obtain ⟨assigned, _, _, again, iff, _⟩ := pool.assign task env
        rw [attempted] at again
        cases again
        cases room : s'.hasRoom worker with
        | false => rfl
        | true =>
            have isAssigned := iff.mpr ⟨⟨worker, active, room⟩, accepting.accepts⟩
            cases isAssigned

/-! ## The potential -/

theorem pushedOrders_push {sent : OutgoingEvent} (queue : s'.outgoingQueue = s.outgoingQueue ++ [sent]) :
    s'.pushedOrders.length = s.pushedOrders.length + (if sent.msg.assigns?.isSome then 1 else 0) := by
  unfold pushedOrders
  rw [queue, List.filterMap_append, List.length_append, Message.assigns?_eq_map_assign?]
  cases carried : sent.msg.assign? with
  | none => simp [carried]
  | some order => simp [carried]

theorem potential_lt_of_push {sent : OutgoingEvent}
    (queue : s'.outgoingQueue = s.outgoingQueue ++ [sent])
    (fewer : 5 * s'.queuedBacklog.length + s'.completedBacklog.length +
        4 * (if sent.msg.assigns?.isSome then 1 else 0) <
      5 * s.queuedBacklog.length + s.completedBacklog.length) : s'.potential < s.potential := by
  have pushed := pushedOrders_push queue
  unfold potential
  omega

/-- Working off the backlogs lowers the potential, and while it stays nothing has been done. -/
structure Lowers (s s' : Coordinator) : Prop where
  onward : s'.potential ≤ s.potential
  idle : s'.potential = s.potential → s'.queuedBacklog = s.queuedBacklog ∧
    s'.completedBacklog = s.completedBacklog ∧ s'.activeWorkers = s.activeWorkers ∧
    s'.workersStates = s.workersStates

theorem Lowers.refl (s : Coordinator) : Lowers s s :=
  ⟨Nat.le_refl _, fun _ => ⟨rfl, rfl, rfl, rfl⟩⟩

theorem Lowers.of_lt (smaller : s'.potential < s.potential) : Lowers s s' :=
  ⟨Nat.le_of_lt smaller, fun same => absurd same (Nat.ne_of_lt smaller)⟩

theorem Lowers.trans {middle : Coordinator} (first : Lowers s middle)
    (second : Lowers middle s') : Lowers s s' where
  onward := second.onward.trans first.onward
  idle := by
    intro same
    have sameFirst : middle.potential = s.potential :=
      Nat.le_antisymm first.onward (same ▸ second.onward)
    obtain ⟨queued, completed, active, states⟩ := first.idle sameFirst
    obtain ⟨queued', completed', active', states'⟩ := second.idle (same.trans sameFirst.symm)
    exact ⟨queued'.trans queued, completed'.trans completed, active'.trans active,
      states'.trans states⟩

theorem lowers_of_move (drains : event.Drains) (logPrivate : s.LogPrivate)
    (move : Move event s s') : Lowers s s' := by
  cases move with
  | replicated =>
      have same := pushedOrders_push (replicateOne_outgoingQueue s)
      rw [logPrivate.head.1] at same
      refine ⟨Nat.le_of_eq ?_, fun _ => ⟨rfl, rfl, rfl, rfl⟩⟩
      simp only [potential, same]
      rfl
  | dropped _ front =>
      refine .of_lt ?_
      simp [potential, pushedOrders, front]
  | answered _ front =>
      refine .of_lt (potential_lt_of_push rfl ?_)
      simp [front, resultMessage, Message.assigns?]
  | assigned _ _ front =>
      refine .of_lt (potential_lt_of_push rfl ?_)
      simp only [assigns?_assignMessage, front, assignTo_completedBacklog, Option.isSome_some,
        if_true, List.length_cons]
      omega
  | died sweeps =>
      cases event with
      | pass | backlog => cases sweeps
      | _ => cases drains

theorem lowers_of_moves (drains : event.Drains) (logPrivate : s.LogPrivate)
    (moves : Moves event s s') : Lowers s s' := by
  induction moves with
  | refl => exact .refl s
  | tail moves move ih =>
      have stillPrivate := kept_of_moves (fun _ _ move logPrivate => LogPrivate.move logPrivate move)
        moves logPrivate
      exact ih.trans (lowers_of_move drains stillPrivate move)

/-- A pass of a primary lowers the potential, if there is a result to send, or a task to assign and
a worker that has room. -/
theorem pass_lowers_potential (sound : s.Sound) (pool : s.Pool) (isPrimary : s.isPrimary = true)
    (accepting : env.Accepting)
    (due : s.completedBacklog ≠ [] ∨
      s.queuedBacklog ≠ [] ∧ ∃ worker ∈ s.activeWorkers, s.hasRoom worker = true)
    (stepped : s.step (.pass env) = .ok s') : s'.potential < s.potential := by
  have drains : (Event.pass env).Drains := trivial
  simp only [step, if_pos isPrimary, bind_eq_ok] at stepped
  obtain ⟨⟨drained, remaining⟩, called, done⟩ := stepped
  have lowers := lowers_of_moves drains sound.logPrivate (processBacklog_moves drains called)
  have sent := lowers_of_moves drains
    (kept_of_moves (fun _ _ move logPrivate => LogPrivate.move logPrivate move)
      (processBacklog_moves drains called) sound.logPrivate)
    (@replicate_moves (.pass env) drained remaining)
  cases done
  refine Nat.lt_of_le_of_lt sent.onward (Nat.lt_of_le_of_ne lowers.onward fun same => ?_)
  obtain ⟨queued, completed, active, states⟩ := lowers.idle same
  unfold processBacklog at called
  obtain ⟨emptied, accepted⟩ := processCompleted_empties _ s env accepting rfl
  have poolMiddle := kept_of_moves (fun _ _ move pool => Pool.move pool move)
    (processCompleted_moves drains _ s env rfl) pool
  obtain ⟨kept, filled⟩ := processQueued_fills drains _ poolMiddle accepted rfl called
  obtain waiting | ⟨waiting, worker, isActive, room⟩ := due
  · exact waiting (completed.symm.trans (kept.trans emptied))
  · obtain none | full := filled
    · exact waiting (queued.symm.trans none)
    · have noRoom := full worker (active ▸ isActive)
      unfold hasRoom at noRoom room
      rw [states, room] at noRoom
      cases noRoom

end TaskCoordinator.Coordinator
