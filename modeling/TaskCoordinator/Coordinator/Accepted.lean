import TaskCoordinator.Coordinator.Effects

/-!
# Steps without refused pushes

When the outgoing queue has room for every push, `replicate` empties the log each time it
is called.  A step that starts with an empty log then takes the form of `Moves` with the
log flushed after each move, so that no more than one message is ever in the log and none
is overwritten.
-/

namespace TaskCoordinator

namespace Coordinator

open Transition

variable {s s' : Coordinator} {event : Event} {env env' : Env}

/-! ## Flushing the log -/

/-- All that is pending in the log has been pushed. -/
@[simps] def flushed (s : Coordinator) : Coordinator :=
  { s with
    outgoingQueue :=
      s.outgoingQueue ++ s.replicationLog.pending.map fun msg => ({ msg } : OutgoingEvent)
    replicationLog := s.replicationLog.drain }

/-- Nothing is pending in the log. -/
def Drained (s : Coordinator) : Prop :=
  s.replicationLog.pending = []

theorem drained_flushed (s : Coordinator) : s.flushed.Drained :=
  RingLog.pending_drain _

theorem flushed_of_drained (drained : s.Drained) : s.flushed = s := by
  have nothing : s.replicationLog.pending = [] := drained
  have empty := RingLog.drain_of_empty (RingLog.pending_eq_nil.mp nothing)
  ext1 <;> simp [nothing, empty]

theorem replicateRounds_accepting (rounds : Nat) (s : Coordinator) (env : Env)
    (accepting : env.Accepting) (enough : s.replicationLog.pendingCount = rounds) :
    (replicateRounds rounds s env).1 = s.flushed ∧
      (replicateRounds rounds s env).2.Accepting := by
  induction rounds generalizing s env with
  | zero =>
      have drained : s.Drained :=
        RingLog.pending_eq_nil.mpr (RingLog.pendingCount_eq_zero.mp enough)
      exact ⟨(flushed_of_drained drained).symm, accepting⟩
  | succ rounds ih =>
      have pending : s.replicationLog.read ≠ s.replicationLog.write := by
        intro same
        rw [RingLog.pendingCount_eq_zero.mpr same] at enough
        cases enough
      have fewer : s.replicateOne.replicationLog.pendingCount = rounds := by
        have count := RingLog.pendingCount_advance pending
        rw [replicateOne_replicationLog]
        omega
      have same : s.replicateOne.flushed = s.flushed := by
        ext1 <;> simp [RingLog.pending_advance pending, RingLog.drain_advance]
      simp only [replicateRounds, pending, if_false, accepting.accepts, if_true]
      rw [← same]
      exact ih _ _ accepting.afterPush fewer

theorem replicate_accepting (s : Coordinator) (accepting : env.Accepting) :
    (s.replicate env).1 = s.flushed ∧ (s.replicate env).2.Accepting :=
  replicateRounds_accepting _ s env accepting rfl

/-! ## Moves with the log flushed -/

/-- A move after which the log is flushed. -/
def Post (event : Event) (s s' : Coordinator) : Prop :=
  ∃ moved, Move event s moved ∧ s' = moved.flushed

/-- Any number of such moves. -/
abbrev Posts (event : Event) : Coordinator → Coordinator → Prop :=
  Relation.ReflTransGen (Post event)

theorem drained_of_posts (drained : s.Drained) (posts : Posts event s s') : s'.Drained := by
  refine kept_of_moves ?_ posts drained
  rintro first second ⟨moved, _, rfl⟩ _
  exact drained_flushed moved

theorem processCompleted_posts (drains : event.Drains) (backlog : List TaskId)
    (s : Coordinator) (env : Env) (drained : s.Drained) (accepting : env.Accepting)
    (same : s.completedBacklog = backlog) :
    Posts event s (processCompleted backlog s env).1 ∧
      (processCompleted backlog s env).2.Accepting := by
  induction backlog generalizing s env with
  | nil => exact ⟨.refl, accepting⟩
  | cons id rest ih =>
      simp only [processCompleted]
      cases found : s.tasks.find? id with
      | none =>
          have unchanged := flushed_of_drained (s := { s with completedBacklog := rest }) drained
          obtain ⟨posts, accepted⟩ := ih { s with completedBacklog := rest } env drained
            accepting rfl
          exact ⟨.head ⟨_, .dropped drains same found, unchanged.symm⟩ posts, accepted⟩
      | some task =>
          simp only [sendResult, accepting.accepts, if_true]
          obtain ⟨flushes, accepted⟩ := replicate_accepting
            ({ s.answer task with completedBacklog := rest } : Coordinator) accepting.afterPush
          rw [flushes]
          obtain ⟨posts, acceptedRest⟩ := ih
            ({ s.answer task with completedBacklog := rest } : Coordinator).flushed _
            (drained_flushed _) accepted rfl
          exact ⟨.head ⟨_, .answered drains same found, rfl⟩ posts, acceptedRest⟩

theorem processQueued_posts (drains : event.Drains) (backlog : List TaskId)
    (s : Coordinator) (env : Env) (accepting : env.Accepting)
    (same : s.queuedBacklog = backlog)
    (called : processQueued backlog s env = .ok (s', env')) :
    Posts event s s' ∧ env'.Accepting := by
  induction backlog generalizing s env with
  | nil =>
      cases called
      exact ⟨.refl, accepting⟩
  | cons id rest ih =>
      simp only [processQueued, bind_eq_ok, taskAt_eq_ok] at called
      obtain ⟨task, found, ⟨assigned, next, remaining⟩, attempted, rest⟩ := called
      have accepted := assign_accepting accepting attempted
      obtain ⟨rfl, activeIdx, worker, state, now, offers, rfl⟩ | ⟨rfl, rfl⟩ :=
        assign_spec attempted
      · simp only at rest
        obtain ⟨flushes, acceptedRest⟩ := replicate_accepting
          ({ s.assignTo task activeIdx worker state.fd now with
            queuedBacklog := _ } : Coordinator) accepted
        rw [flushes] at rest
        obtain ⟨posts, final⟩ := ih _ _ acceptedRest rfl rest
        exact ⟨.head ⟨_, .assigned now drains same found offers, rfl⟩ posts, final⟩
      · cases rest
        exact ⟨.refl, accepted⟩

theorem processBacklog_posts (drains : event.Drains) (drained : s.Drained)
    (accepting : env.Accepting) (called : s.processBacklog env = .ok (s', env')) :
    Posts event s s' ∧ env'.Accepting := by
  obtain ⟨posts, accepted⟩ := processCompleted_posts drains _ s env drained accepting rfl
  obtain ⟨later, final⟩ := processQueued_posts drains _ _ _ accepted rfl called
  exact ⟨posts.trans later, final⟩

/-- A sweep does not touch the log. -/
theorem posts_of_moves (sweeps : event.Sweeps) (drained : s.Drained)
    (moves : Moves event s s') : Posts event s s' := by
  induction moves with
  | refl => exact .refl
  | @tail middle final _ move ih =>
      refine ih.tail ⟨final, move, (flushed_of_drained ?_).symm⟩
      have drainedMiddle := drained_of_posts drained ih
      cases move with
      | replicated pending =>
          exact absurd (RingLog.pending_eq_nil.mp drainedMiddle) pending
      | dropped drains | answered drains | assigned _ drains =>
          cases event with
          | sweep => cases drains
          | _ => cases sweeps
      | died _ _ _ _ declared =>
          obtain ⟨_, _, frame, _⟩ := declareDead_spec declared
          rw [frame]
          exact drainedMiddle

/-! ## The step function -/

/-- Receiving an event from a state with an empty log, when no push is refused, is followed
by moves with the log flushed. -/
theorem step_spec_accepting (drained : s.Drained) (accepting : event.env.Accepting)
    (stepped : s.step event = .ok s') :
    ∃ received, Received s event received ∧ Posts event received.flushed s' := by
  have still : ∀ {received}, Received s event received → received.Drained →
      Posts event received s' →
      ∃ received, Received s event received ∧ Posts event received.flushed s' := by
    intro received isReceived drainedReceived posts
    refine ⟨received, isReceived, ?_⟩
    rwa [flushed_of_drained drainedReceived]
  cases event with
  | submit fd msg env =>
      obtain ⟨rest, called⟩ := map_fst_eq_ok.mp stepped
      obtain ⟨received, remaining, isReceived, accepted, replicated⟩ :=
        processSubmitEvent_spec called
      refine ⟨received, isReceived, ?_⟩
      rw [replicated, (replicate_accepting received (accepted accepting)).1]
  | complete fd msg env =>
      obtain ⟨rest, called⟩ := map_fst_eq_ok.mp stepped
      obtain ⟨unknown, rfl⟩ | ⟨received, remaining, isReceived, accepted, replicated⟩ :=
        @processCompleteEvent_spec _ _ _ _ fd _ called
      · exact still (.completeUnknown unknown) drained .refl
      · refine ⟨received, isReceived, ?_⟩
        rw [replicated, (replicate_accepting received (accepted accepting)).1]
  | pass env =>
      refine still .pass drained ?_
      simp only [step] at stepped
      split at stepped
      next =>
        obtain ⟨⟨passed, remaining⟩, called, rest⟩ := bind_eq_ok.mp stepped
        cases rest
        have drains : Event.Drains (.pass env) := trivial
        obtain ⟨posts, accepted⟩ := processBacklog_posts drains drained accepting called
        rw [(replicate_accepting passed accepted).1,
          flushed_of_drained (drained_of_posts drained posts)]
        exact posts
      next =>
        cases stepped
        exact .refl
  | backlog env =>
      obtain ⟨rest, called⟩ := map_fst_eq_ok.mp stepped
      have drains : Event.Drains (.backlog env) := trivial
      exact still .backlog drained (processBacklog_posts drains drained accepting called).1
  | replicate env =>
      cases stepped
      refine still .replicate drained ?_
      have flushes : (s.replicate env).1 = s.flushed := (replicate_accepting s accepting).1
      rw [flushes, flushed_of_drained drained]
  | sweep env =>
      obtain ⟨rest, called⟩ := map_fst_eq_ok.mp stepped
      have sweeps : Event.Sweeps (.sweep env) := trivial
      exact still .sweep drained (posts_of_moves sweeps drained (sweepFrom_moves sweeps _ called))
  | assignedReplicate epoch msg =>
      cases stepped
      refine still .assignedReplicate ?_ .refl
      rw [assignReplicate_frame]
      exact drained
  | completedReplicate event =>
      cases stepped
      refine still .completedReplicate ?_ .refl
      rw [completeReplicate_frame]
      exact drained
  | snapshot epoch tasks env =>
      cases stepped
      exact still .snapshot (RingLog.pending_reset _) .refl
  | peerReconnected env =>
      cases stepped
      refine still .peerReconnected ?_ .refl
      simp only [processPeerReconnected]
      split_ifs <;> exact drained
  | topRequest fd env =>
      cases stepped
      exact still .topRequest drained .refl
  | heartbeat worker env =>
      simp only [step, processHeartbeatEvent, bind_eq_ok, workerAt_eq_ok] at stepped
      obtain ⟨state, held, rest⟩ := stepped
      cases rest
      exact still (.heartbeat held) drained .refl
  | register fd env =>
      have registered := processRegisterEvent_spec stepped
      refine still registered ?_ .refl
      cases registered <;> exact drained

/-- The rule for invariants that hold when the log is empty: receiving an event with the log
flushed after it keeps the property, and so do the moves that follow. -/
theorem preserves_of_posts {guard : Coordinator → Event → Prop} {holds : Coordinator → Prop}
    (drained : ∀ s, holds s → s.Drained)
    (accepting : ∀ s event, guard s event → event.env.Accepting)
    (received : ∀ s event received, holds s → guard s event → Received s event received →
      holds received.flushed)
    (moved : ∀ start event s moved, guard start event → Move event s moved → holds s →
      holds moved.flushed) :
    Preserves step guard holds := by
  intro s event s' holdsBefore admitted stepped
  obtain ⟨middle, isReceived, posts⟩ :=
    step_spec_accepting (drained s holdsBefore) (accepting s event admitted) stepped
  refine kept_of_moves ?_ posts (received s event middle holdsBefore admitted isReceived)
  rintro first second ⟨moved', move, rfl⟩ holdsFirst
  exact moved s event first moved' admitted move holdsFirst

end Coordinator

end TaskCoordinator
