import TaskCoordinator.Coordinator.Safety
import TaskCoordinator.Library.SwapRemove

/-!
# The worker pool

The coordinator keeps its workers in four structures: the vector of worker states, the
vector of active ids with a back-pointer in each state, the list of ids free for reuse and
the liveness flags.  `Pool` says how they fit together.  It survives registrations, deaths
and assignments in any order, as long as only live workers send heartbeats.  A heartbeat
from a dead worker raises its flag alone and breaks the pool at once.
-/

namespace TaskCoordinator.Coordinator

open Transition

variable {s s' : Coordinator} {event : Event}

/-- The representation invariant of the worker pool. -/
structure Pool (s : Coordinator) : Prop where
  /-- Back-pointers point back. -/
  indexed : ∀ (position : Nat) (worker : WorkerId), s.activeWorkers[position]? = some worker →
    ∃ state, s.workersStates[worker]? = some state ∧ state.activeIndex = position
  freeNodup : s.availableIds.Nodup
  disjoint : ∀ worker ∈ s.activeWorkers, worker ∉ s.availableIds
  covers : ∀ worker : WorkerId, worker < s.workersStates.length ↔
    worker ∈ s.activeWorkers ∨ worker ∈ s.availableIds
  alive : ∀ (worker : WorkerId) state, s.workersStates[worker]? = some state →
    (state.alive = true ↔ worker ∈ s.activeWorkers)
  idle : ∀ worker ∈ s.availableIds, ∀ state, s.workersStates[worker]? = some state →
    state.fd = -1 ∧ state.runningTasks = ∅

theorem Pool.activeNodup (pool : s.Pool) : s.activeWorkers.Nodup := by
  rw [List.nodup_iff_getElem?_ne_getElem?]
  intro first second less bound equal
  obtain ⟨state, held, firstIndex⟩ :=
    pool.indexed first _ (List.getElem?_eq_getElem (by omega))
  obtain ⟨other, otherHeld, secondIndex⟩ :=
    pool.indexed second _ (List.getElem?_eq_getElem bound)
  have same : s.activeWorkers[first] = s.activeWorkers[second] := by
    rw [List.getElem?_eq_getElem (by omega), List.getElem?_eq_getElem bound] at equal
    exact Option.some.inj equal
  rw [same, otherHeld] at held
  cases held
  omega

/-- The position of an active worker is the one its state records. -/
theorem Pool.position (pool : s.Pool) {worker : WorkerId} {state : WorkerState}
    (active : worker ∈ s.activeWorkers) (held : s.workersStates[worker]? = some state) :
    s.activeWorkers[state.activeIndex]? = some worker := by
  obtain ⟨position, found⟩ := List.mem_iff_getElem?.mp active
  obtain ⟨other, otherHeld, index⟩ := pool.indexed position worker found
  rw [held] at otherHeld
  cases otherHeld
  rw [index, found]

/-! ## Preservation -/

theorem pool_init : Pool init where
  indexed := by simp [init]
  freeNodup := by simp [init]
  disjoint := by simp [init]
  covers := by simp [init]
  alive := by simp [init]
  idle := by simp [init]

/-- A change of one worker's state that keeps its place, its connection and its flag keeps
the pool, provided it does not give work to a free id. -/
theorem Pool.modify (pool : s.Pool) {worker : WorkerId} {change : WorkerState → WorkerState}
    (active : s'.activeWorkers = s.activeWorkers)
    (free : s'.availableIds = s.availableIds)
    (modified : s'.workersStates = s.workersStates.modify worker change)
    (keeps : ∀ state, s.workersStates[worker]? = some state →
      (change state).activeIndex = state.activeIndex ∧ (change state).fd = state.fd ∧
        (change state).alive = state.alive)
    (stillIdle : worker ∈ s.availableIds → ∀ state, state.runningTasks = ∅ →
      (change state).runningTasks = ∅) : s'.Pool := by
  have states : ∀ other state, s'.workersStates[other]? = some state →
      ∃ before, s.workersStates[other]? = some before ∧
        state.activeIndex = before.activeIndex ∧ state.fd = before.fd ∧
        state.alive = before.alive ∧
        (other ∈ s.availableIds → before.runningTasks = ∅ → state.runningTasks = ∅) := by
    intro other state held
    rw [modified, List.getElem?_modify] at held
    obtain ⟨before, heldBefore, rfl⟩ := Option.map_eq_some_iff.mp held
    refine ⟨before, heldBefore, ?_⟩
    split
    next same =>
      subst other
      obtain ⟨index, fd, flag⟩ := keeps before heldBefore
      exact ⟨index, fd, flag, fun isFree idle => stillIdle isFree before idle⟩
    next => exact ⟨rfl, rfl, rfl, fun _ idle => idle⟩
  have length : s'.workersStates.length = s.workersStates.length := by
    rw [modified, List.length_modify]
  constructor
  · intro position other found
    rw [active] at found
    obtain ⟨before, heldBefore, index⟩ := pool.indexed position other found
    obtain ⟨state, held⟩ := held_of_lt (s := s') (by rw [length]; exact lt_of_held heldBefore)
    obtain ⟨again, heldAgain, sameIndex, _⟩ := states other state held
    rw [heldBefore] at heldAgain
    cases heldAgain
    exact ⟨state, held, sameIndex.trans index⟩
  · rw [free]
    exact pool.freeNodup
  · rw [active, free]
    exact pool.disjoint
  · rw [active, free, length]
    exact pool.covers
  · intro other state held
    obtain ⟨before, heldBefore, _, _, flag, _⟩ := states other state held
    rw [flag, active]
    exact pool.alive other before heldBefore
  · intro other member state held
    rw [free] at member
    obtain ⟨before, heldBefore, _, fd, _, idle⟩ := states other state held
    obtain ⟨disconnected, empty⟩ := pool.idle other member before heldBefore
    exact ⟨fd.trans disconnected, idle member empty⟩

theorem Pool.assignTo (pool : s.Pool) {activeIdx : Nat} {worker : WorkerId}
    {state : WorkerState} (offers : s.Offers activeIdx worker state) (task : Task) (fd : Fd)
    (now : Nanoseconds) : (s.assignTo task activeIdx worker fd now).Pool := by
  refine pool.modify rfl rfl rfl (fun _ _ => ⟨rfl, rfl, rfl⟩) ?_
  intro isFree
  exact absurd isFree (pool.disjoint worker (List.mem_of_getElem? offers.active))

theorem Pool.finish (pool : s.Pool) (msg : CompleteMsg) (task : Task) :
    (s.finish msg task).Pool := by
  refine pool.modify rfl rfl rfl (fun _ _ => ⟨rfl, rfl, rfl⟩) ?_
  intro _ state empty
  simp only [WorkerState.recordCompletion, empty]
  rfl

/-- A heartbeat of a live worker. -/
theorem Pool.heartbeat (pool : s.Pool) {worker : WorkerId} {state : WorkerState}
    (held : s.workersStates[worker]? = some state) (alive : state.alive = true)
    (now : Nanoseconds) :
    (s.modifyWorker worker fun state =>
      { state with lastHeartbeatNs := now, alive := true }).Pool := by
  refine pool.modify rfl rfl rfl ?_ (fun _ _ empty => empty)
  intro other heldOther
  rw [held] at heldOther
  cases heldOther
  exact ⟨rfl, rfl, alive.symm⟩

theorem Pool.registerFresh (pool : s.Pool) (none : s.availableIds = []) (fd : Fd)
    (now : Nanoseconds) : (s.registerFresh fd now).Pool := by
  have unused : s.workersStates.length ∉ s.activeWorkers := by
    intro member
    exact absurd ((pool.covers _).mpr (.inl member)) (lt_irrefl _)
  constructor
  · intro position worker found
    simp only [registerFresh_activeWorkers, registerFresh_workersStates,
      SwapRemove.getElem?_pushed_eq_some] at found ⊢
    obtain old | ⟨rfl, rfl⟩ := found
    · obtain ⟨state, held, index⟩ := pool.indexed position worker old
      exact ⟨state, .inl held, index⟩
    · exact ⟨_, .inr ⟨rfl, rfl⟩, rfl⟩
  · exact pool.freeNodup
  · intro worker _
    simp [none]
  · intro worker
    have covered := pool.covers worker
    simp only [registerFresh_activeWorkers, registerFresh_workersStates,
      registerFresh_availableIds, List.length_append, List.length_singleton, List.mem_append,
      List.mem_singleton]
    constructor
    · intro bound
      obtain old | new := Nat.lt_succ_iff_lt_or_eq.mp bound
      · exact (covered.mp old).imp_left .inl
      · exact .inl (.inr new)
    · rintro ((active | rfl) | free)
      · exact Nat.lt_succ_of_lt (covered.mpr (.inl active))
      · exact Nat.lt_succ_self _
      · exact Nat.lt_succ_of_lt (covered.mpr (.inr free))
  · intro worker state held
    simp only [registerFresh_activeWorkers, registerFresh_workersStates,
      SwapRemove.getElem?_pushed_eq_some, List.mem_append, List.mem_singleton] at held ⊢
    obtain old | ⟨rfl, rfl⟩ := held
    · rw [pool.alive worker state old]
      simp [Nat.ne_of_lt (lt_of_held old)]
    · simp
  · intro worker member
    simp [none] at member

theorem Pool.registerReused (pool : s.Pool) {worker : WorkerId}
    (free : s.availableIds.getLast? = some worker) (fd : Fd) (now : Nanoseconds) :
    (s.registerReused fd worker now).Pool := by
  have isFree : worker ∈ s.availableIds := List.mem_of_getLast? free
  have inactive : worker ∉ s.activeWorkers := fun member => pool.disjoint worker member isFree
  have split : s.availableIds = s.availableIds.dropLast ++ [worker] :=
    (List.dropLast_append_getLast? worker free).symm
  have nodup : (s.availableIds.dropLast ++ [worker]).Nodup := split ▸ pool.freeNodup
  have remaining : ∀ other, other ∈ s.availableIds.dropLast ↔
      other ∈ s.availableIds ∧ other ≠ worker := by
    intro other
    rw [List.nodup_append] at nodup
    constructor
    · intro member
      refine ⟨List.mem_of_mem_dropLast member, ?_⟩
      exact nodup.2.2 other member worker List.mem_cons_self
    · rintro ⟨member, different⟩
      rw [split, List.mem_append, List.mem_singleton] at member
      exact member.resolve_right different
  constructor
  · intro position other found
    simp only [registerReused_activeWorkers, registerReused_workersStates,
      List.getElem?_modify, SwapRemove.getElem?_pushed_eq_some] at found ⊢
    obtain old | ⟨rfl, rfl⟩ := found
    · obtain ⟨state, held, index⟩ := pool.indexed position other old
      have different : worker ≠ other := by
        rintro rfl
        exact inactive (List.mem_of_getElem? old)
      exact ⟨state, by simp [held, different], index⟩
    · obtain ⟨state, held⟩ := held_of_lt ((pool.covers other).mpr (.inr isFree))
      refine ⟨_, by rw [held]; rfl, ?_⟩
      simp only [if_true]
  · exact pool.freeNodup.sublist (List.dropLast_sublist _)
  · intro other active
    simp only [registerReused_activeWorkers, registerReused_availableIds, List.mem_append,
      List.mem_singleton, remaining] at active ⊢
    obtain active | rfl := active
    · exact fun both => pool.disjoint other active both.1
    · exact fun both => both.2 rfl
  · intro other
    simp only [registerReused_activeWorkers, registerReused_workersStates,
      registerReused_availableIds, List.length_modify, List.mem_append, List.mem_singleton,
      remaining, pool.covers other]
    by_cases same : other = worker
    · simp [same, isFree]
    · simp [same]
  · intro other state held
    simp only [registerReused_workersStates, registerReused_activeWorkers,
      List.getElem?_modify, List.mem_append, List.mem_singleton] at held ⊢
    obtain ⟨before, heldBefore, rfl⟩ := Option.map_eq_some_iff.mp held
    split
    next same => simp [same]
    next different =>
      rw [pool.alive other before heldBefore]
      simp [Ne.symm different]
  · intro other member state held
    simp only [registerReused_workersStates, registerReused_availableIds, remaining,
      List.getElem?_modify] at member held
    obtain ⟨before, heldBefore, rfl⟩ := Option.map_eq_some_iff.mp held
    rw [if_neg (Ne.symm member.2)]
    exact pool.idle other member.1 before heldBefore

/-- In a pool, a dying worker is found at its position and removed by a swap. -/
theorem Pool.markInactive (pool : s.Pool) {worker : WorkerId} {state : WorkerState}
    {inactive : Coordinator} (held : s.workersStates[worker]? = some state)
    (alive : state.alive = true) (marked : s.markInactive worker = .ok inactive) :
    ∃ last, s.activeWorkers.getLast? = some last ∧
      s.activeWorkers[state.activeIndex]? = some worker ∧
      inactive = { s with
        activeWorkers := (s.activeWorkers.set state.activeIndex last).dropLast
        workersStates := s.workersStates.modify last fun moved =>
          { moved with activeIndex := state.activeIndex } } := by
  have active := (pool.alive worker state held).mp alive
  have found := pool.position active held
  obtain ⟨_, outside⟩ | ⟨last, again, final, heldAgain, _, rfl⟩ := markInactive_spec marked
  · exact absurd (List.getElem?_eq_some_iff.mp found).1 (not_lt.mpr (outside state held))
  · rw [held] at heldAgain
    cases heldAgain
    exact ⟨last, final, found, rfl⟩

/-- After a removal by a swap, the last worker stands at the position that has become free and
every other one where it stood. -/
theorem Pool.index_removed (pool : s.Pool) {last worker other : WorkerId}
    {removed position : Nat} (final : s.activeWorkers.getLast? = some last)
    (found : s.activeWorkers[removed]? = some worker)
    (foundOther : (s.activeWorkers.set removed last).dropLast[position]? = some other) :
    ∃ before, s.workersStates[other]? = some before ∧
      (if last = other then removed else before.activeIndex) = position := by
  have inside := (List.getElem?_eq_some_iff.mp found).1
  rw [SwapRemove.getElem?_removed inside] at foundOther
  obtain ⟨lastState, lastHeld, lastIndex⟩ := pool.indexed _ last (SwapRemove.getElem?_last final)
  split at foundOther
  next bound =>
    split at foundOther
    next same =>
      cases foundOther
      exact ⟨lastState, lastHeld, by rw [if_pos rfl, same]⟩
    next different =>
      obtain ⟨before, heldBefore, index⟩ := pool.indexed position other foundOther
      refine ⟨before, heldBefore, ?_⟩
      rw [if_neg, index]
      rintro rfl
      rw [lastHeld] at heldBefore
      cases heldBefore
      omega
  next => cases foundOther

/-- What the death of a worker does in a pool: the last active worker gets its position, and the
dead worker loses its connection and its tasks. -/
theorem Pool.declareDead_spec (pool : s.Pool) {worker : WorkerId} {state : WorkerState}
    {running : List TaskId} {dead : Coordinator}
    (held : s.workersStates[worker]? = some state) (alive : state.alive = true)
    (declared : s.declareDead worker running = .ok dead) :
    ∃ last, s.activeWorkers.getLast? = some last ∧
      s.activeWorkers[state.activeIndex]? = some worker ∧
      dead = { s with
        tasks := dead.tasks
        queuedBacklog := s.queuedBacklog ++ running
        activeWorkers := (s.activeWorkers.set state.activeIndex last).dropLast
        availableIds := s.availableIds ++ [worker]
        workersStates := dead.workersStates } ∧
      dead.workersStates.length = s.workersStates.length ∧
      ∀ other, dead.workersStates[other]? =
        (s.workersStates[other]?).map fun before =>
          let moved := if last = other then { before with activeIndex := state.activeIndex }
            else before
          if worker = other then { moved.markDead with runningTasks := ∅ } else moved := by
  obtain ⟨inactive, marked, frame, _⟩ := Coordinator.declareDead_spec declared
  obtain ⟨last, final, found, rfl⟩ := pool.markInactive held alive marked
  refine ⟨last, final, found, ?_, ?_, ?_⟩
  · rw [frame]
  · rw [frame]
    simp
  · intro other
    rw [frame]
    simp only [List.getElem?_modify]
    cases s.workersStates[other]? <;> rfl

theorem Pool.declareDead (pool : s.Pool) {worker : WorkerId} {state : WorkerState}
    {running : List TaskId} {dead : Coordinator}
    (held : s.workersStates[worker]? = some state) (alive : state.alive = true)
    (declared : s.declareDead worker running = .ok dead) : dead.Pool := by
  obtain ⟨last, final, found, frame, length, states⟩ := pool.declareDead_spec held alive declared
  have active : worker ∈ s.activeWorkers := List.mem_of_getElem? found
  have remaining : ∀ other, other ∈ dead.activeWorkers ↔
      other ∈ s.activeWorkers ∧ other ≠ worker := by
    intro other
    rw [frame]
    exact SwapRemove.mem_removed pool.activeNodup final found
  have free : dead.availableIds = s.availableIds ++ [worker] := by rw [frame]
  constructor
  · intro position other foundOther
    rw [frame] at foundOther
    obtain ⟨before, heldBefore, index⟩ := pool.index_removed final found foundOther
    refine ⟨_, by rw [states, heldBefore]; rfl, ?_⟩
    rw [← index]
    simp only [WorkerState.markDead]
    split_ifs <;> rfl
  · rw [free, List.nodup_append]
    refine ⟨pool.freeNodup, List.nodup_singleton _, fun other member dying isDying equal => ?_⟩
    rw [List.mem_singleton] at isDying
    rw [equal, isDying] at member
    exact pool.disjoint worker active member
  · intro other member
    obtain ⟨stillActive, different⟩ := (remaining other).mp member
    rw [free, List.mem_append, List.mem_singleton]
    rintro (isFree | same)
    · exact pool.disjoint other stillActive isFree
    · exact different same
  · intro other
    rw [length, remaining, free, List.mem_append, List.mem_singleton, pool.covers]
    by_cases same : other = worker
    · simp [same, active]
    · simp [same]
  · intro other after heldAfter
    rw [states] at heldAfter
    obtain ⟨before, heldBefore, rfl⟩ := Option.map_eq_some_iff.mp heldAfter
    rw [remaining, ← pool.alive other before heldBefore]
    by_cases same : worker = other
    · simp [same, WorkerState.markDead]
    · simp only [same, if_false, ne_eq, Ne.symm same, not_false_eq_true, and_true]
      split_ifs <;> rfl
  · intro other member after heldAfter
    rw [states] at heldAfter
    obtain ⟨before, heldBefore, rfl⟩ := Option.map_eq_some_iff.mp heldAfter
    by_cases same : worker = other
    · simp [same, WorkerState.markDead]
    · rw [free, List.mem_append, List.mem_singleton] at member
      obtain idle := pool.idle other (member.resolve_right (Ne.symm same)) before heldBefore
      simp only [same, if_false]
      split_ifs <;> exact idle

/-- The pool is a matter of three members only. -/
theorem Pool.of_same (pool : s.Pool) (states : s'.workersStates = s.workersStates)
    (active : s'.activeWorkers = s.activeWorkers) (free : s'.availableIds = s.availableIds) :
    s'.Pool := by
  have unchanged : s'.workersStates = s.workersStates.modify 0 id := by
    rw [states, List.modify_id]
  exact pool.modify active free unchanged (fun _ _ => ⟨rfl, rfl, rfl⟩) (fun _ _ empty => empty)

theorem Pool.move (pool : s.Pool) (move : Move event s s') : s'.Pool := by
  cases move with
  | replicated | dropped | answered => exact pool.of_same rfl rfl rfl
  | @assigned _ _ task _ _ state now _ _ _ offers =>
      exact (pool.assignTo offers task state.fd now).of_same rfl rfl rfl
  | died _ held alive _ declared => exact pool.declareDead held alive declared

/-- The worker exists and its flag says that it is alive. -/
def Alive (s : Coordinator) (worker : WorkerId) : Prop :=
  ∃ state, s.workersStates[worker]? = some state ∧ state.alive = true

instance (s : Coordinator) (worker : WorkerId) : Decidable (s.Alive worker) :=
  decidable_of_iff (∃ state ∈ s.workersStates[worker]?, state.alive = true) (by simp [Alive])

/-- A heartbeat comes from a worker that is not marked dead. -/
def LiveHeartbeat (s : Coordinator) : Event → Prop
  | .heartbeat worker _ => s.Alive worker
  | _ => True

instance (s : Coordinator) : (event : Event) → Decidable (s.LiveHeartbeat event)
  | .heartbeat worker _ => inferInstanceAs (Decidable (s.Alive worker))
  | .submit .. | .complete .. | .register .. | .pass _ | .backlog _ | .replicate _ | .sweep _
  | .assignedReplicate .. | .completedReplicate _ | .snapshot .. | .peerReconnected _
  | .topRequest .. => isTrue trivial

theorem Pool.received (pool : s.Pool) (live : s.LiveHeartbeat event)
    (received : Received s event s') : s'.Pool := by
  cases received with
  | @submitAssigned fd msg env _ _ state now offers =>
      have accepted : (s.accept fd msg env.now).Pool := pool.of_same rfl rfl rfl
      exact accepted.assignTo ⟨offers.active, offers.held, offers.room⟩ _ state.fd now
  | completeAnswered | completeDeferred => exact (pool.finish _ _).of_same rfl rfl rfl
  | heartbeat =>
      obtain ⟨state, held, alive⟩ := live
      exact pool.heartbeat held alive _
  | registerReused _ free _ now => exact pool.registerReused free _ now
  | registerFresh _ none now => exact pool.registerFresh none _ now
  | assignedReplicate =>
      rw [assignReplicate_frame]
      exact pool.of_same rfl rfl rfl
  | completedReplicate =>
      rw [completeReplicate_frame]
      exact pool.of_same rfl rfl rfl
  | peerReconnected =>
      simp only [processPeerReconnected]
      split_ifs <;> exact pool.of_same rfl rfl rfl
  | submitQueued | completeUnknown | snapshot | topRequest | registerRefused | pass | backlog
  | replicate | sweep => exact pool.of_same rfl rfl rfl

/-- Traffic in which a completion names a task that has been assigned, and a heartbeat
comes from a worker that is alive. -/
def PoolEvent (s : Coordinator) : Event → Prop
  | .submit .. | .register .. | .pass _ | .backlog _ | .replicate _ | .sweep _ => True
  | .complete _ msg _ => s.Assigned msg.taskId
  | .heartbeat worker _ => s.Alive worker
  | _ => False

instance (s : Coordinator) : (event : Event) → Decidable (s.PoolEvent event)
  | .submit .. | .register .. | .pass _ | .backlog _ | .replicate _ | .sweep _ => isTrue trivial
  | .complete _ msg _ => inferInstanceAs (Decidable (s.Assigned msg.taskId))
  | .heartbeat worker _ => inferInstanceAs (Decidable (s.Alive worker))
  | .assignedReplicate .. | .completedReplicate _ | .snapshot .. | .peerReconnected _
  | .topRequest .. => isFalse id

theorem PoolEvent.live (admitted : s.PoolEvent event) : s.LiveHeartbeat event := by
  cases event with
  | heartbeat => exact admitted
  | _ => trivial

theorem PoolEvent.localEvent (admitted : s.PoolEvent event) (sound : s.Sound) :
    s.LocalEvent event := by
  cases event with
  | heartbeat worker env =>
      obtain ⟨state, held, _⟩ := admitted
      exact lt_of_held held
  | complete fd msg env =>
      have traffic : s.Traffic (.complete fd msg env) := admitted
      exact sound.localEvent traffic
  | _ => exact admitted

theorem pool_preserved : Preserves step LiveHeartbeat Pool :=
  preserves_of_moves (fun _ _ _ pool live => pool.received live)
    (fun _ _ _ _ _ move pool => pool.move move)

theorem sound_and_pool (events : List Event) (traffic : Along step PoolEvent init events) :
    ∃ s, run events = .ok s ∧ s.Sound ∧ s.Pool := by
  have preserved : Preserves step PoolEvent fun s => s.Sound ∧ s.Pool :=
    (sound_preserved.weaken fun _ _ sound admitted => admitted.localEvent sound).and
      (pool_preserved.weaken fun _ _ _ admitted => admitted.live)
  have progress : Progresses step PoolEvent fun s => s.Sound ∧ s.Pool := by
    intro s event holds admitted
    exact sound_progresses s event holds.1 (admitted.localEvent holds.1)
  exact progress.run preserved ⟨sound_init, pool_init⟩ traffic

/-- Every run of local traffic in which only live workers send heartbeats returns, and the
pool is in order at its end.  A registration whose acknowledgement finds no room changes
nothing. -/
theorem pool_of_run (events : List Event) (traffic : Along step PoolEvent init events) :
    ∃ s, run events = .ok s ∧ s.activeWorkers.Nodup ∧ s.Pool ∧
      ∀ fd env, env.accepts = false → s.step (.register fd env) = .ok s := by
  obtain ⟨s, ran, _, pool⟩ := sound_and_pool events traffic
  refine ⟨s, ran, pool.activeNodup, pool, fun fd env refused => ?_⟩
  simp only [step, processRegisterEvent, refused]
  split
  next => rfl
  next => rfl

/-- Two workers register, the first one falls silent and is declared dead, and a third
worker takes over its id. -/
def replacedWorker : List Event :=
  [.register 5 {}, .register 6 {}, .submit 9 { taskId := 7 } {},
    .heartbeat 1 { clock := [2000000000] }, .sweep { clock := [2000000000, 2000000000] },
    .register 8 { clock := [2000000000] }]

theorem pool_of_replacedWorker :
    ∃ s, run replacedWorker = .ok s ∧ s.Pool ∧ s.activeWorkers = [1, 0] := by
  have traffic : Along step PoolEvent init replacedWorker := by
    decide +kernel
  obtain ⟨s, ran, _, pool, _⟩ := pool_of_run replacedWorker traffic
  have final : ∀ s, run replacedWorker = .ok s → s.activeWorkers = [1, 0] := by
    decide +kernel
  exact ⟨s, ran, pool, final s ran⟩

/-! ## Late heartbeats -/

/-- Registrations, sweeps, and heartbeats under ids that have been given out. -/
def WorkerTraffic (s : Coordinator) : Event → Prop
  | .register .. | .sweep _ => True
  | .heartbeat worker _ => s.Acknowledged worker
  | _ => False

instance (s : Coordinator) : (event : Event) → Decidable (s.WorkerTraffic event)
  | .register .. | .sweep _ => isTrue trivial
  | .heartbeat worker _ => inferInstanceAs (Decidable (s.Acknowledged worker))
  | .submit .. | .complete .. | .pass _ | .backlog _ | .replicate _
  | .assignedReplicate .. | .completedReplicate _ | .snapshot .. | .peerReconnected _
  | .topRequest .. => isFalse id

/-- No id is active or free twice or both, and the active workers are the live ones. -/
structure UniqueIds (s : Coordinator) : Prop where
  activeNodup : s.activeWorkers.Nodup
  freeNodup : s.availableIds.Nodup
  disjoint : ∀ worker ∈ s.activeWorkers, worker ∉ s.availableIds
  alive : ∀ worker, s.Alive worker ↔ worker ∈ s.activeWorkers

/-- The registration is acknowledged with this id. -/
def RegistersAs (s : Coordinator) (event : Event) (worker : WorkerId) (s' : Coordinator) : Prop :=
  ∃ fd env, event = .register fd env ∧ s.step event = .ok s' ∧
    s'.outgoingQueue = s.outgoingQueue ++ [acknowledgement fd worker]

/-- The worker is alive before the event and dead after it. -/
def Dies (s : Coordinator) (event : Event) (worker : WorkerId) : Prop :=
  s.Alive worker ∧ ∃ s', s.step event = .ok s' ∧ ¬ s'.Alive worker

/-- Whenever two registrations of the run are acknowledged with one id, the first worker
has died in between. -/
def FreshAcknowledgements (events : List Event) : Prop :=
  ∀ before first between second after s₀ s₁ s₂ s₃ worker,
    events = before ++ first :: between ++ second :: after →
    run before = .ok s₀ → RegistersAs s₀ first worker s₁ →
    Transition.run step s₁ between = .ok s₂ → RegistersAs s₂ second worker s₃ →
    ¬ Along step (fun s event => ¬ Dies s event worker) s₁ between

theorem Pool.uniqueIds (pool : s.Pool) : s.UniqueIds where
  activeNodup := pool.activeNodup
  freeNodup := pool.freeNodup
  disjoint := pool.disjoint
  alive := by
    intro worker
    constructor
    · rintro ⟨state, held, alive⟩
      exact (pool.alive worker state held).mp alive
    · intro active
      obtain ⟨state, held⟩ := held_of_lt ((pool.covers worker).mpr (.inl active))
      exact ⟨state, held, (pool.alive worker state held).mpr active⟩

/-- A registration that is acknowledged makes the worker active; its id was free or new. -/
theorem RegistersAs.spec {worker : WorkerId} (registers : RegistersAs s event worker s') :
    worker ∈ s'.activeWorkers ∧
      (worker ∈ s.availableIds ∨ worker = s.workersStates.length) := by
  obtain ⟨fd, env, rfl, stepped, acknowledged⟩ := registers
  have received := processRegisterEvent_spec stepped
  cases received with
  | registerRefused => simp at acknowledged
  | registerReused _ free =>
      simp [acknowledgement] at acknowledged
      subst acknowledged
      exact ⟨by simp, .inl (List.mem_of_getLast? free)⟩
  | registerFresh =>
      simp [acknowledgement] at acknowledged
      subst acknowledged
      exact ⟨by simp, .inr rfl⟩

/-- A worker that registers while an id is free gets the id freed last. -/
theorem registersAs_free {worker : WorkerId} {fd : Fd} {env : Env}
    (free : s.availableIds.getLast? = some worker) (known : worker < s.workersStates.length)
    (accepted : env.accepts = true) :
    RegistersAs s (.register fd env) worker (s.registerReused fd worker env.now) := by
  obtain ⟨state, held⟩ := held_of_lt known
  refine ⟨fd, env, rfl, ?_, rfl⟩
  simp only [step, processRegisterEvent, free, accepted, if_true, workerAt_eq_ok.mpr held, bind,
    Except.bind]

/-- A worker that does not die during a run stays alive. -/
theorem alive_of_run {worker : WorkerId} {events : List Event} (alive : s.Alive worker)
    (survives : Along step (fun s event => ¬ Dies s event worker) s events)
    (ran : Transition.run step s events = .ok s') : s'.Alive worker := by
  have preserved : Preserves step (fun s event => ¬ Dies s event worker)
      (fun s => s.Alive worker) := by
    intro s event next alive survives stepped
    by_contra dead
    exact survives ⟨alive, next, stepped, dead⟩
  exact preserved.run alive survives ran

theorem traffic_of_workerTraffic (admitted : s.WorkerTraffic event) : s.Traffic event := by
  cases event with
  | heartbeat | register | sweep => exact admitted
  | _ => cases admitted

/-- In a run in which only live workers send heartbeats, two registrations get one id only
if the first worker has died in between. -/
theorem freshAcknowledgements_of_live {events : List Event}
    (live : Along step LiveHeartbeat init events) : FreshAcknowledgements events := by
  rintro before first between second after s₀ s₁ s₂ s₃ worker rfl ran₀ registers₁ ran₂
    registers₃ survives
  have active₁ := registers₁.spec.1
  obtain ⟨fd, env, _, stepped, _⟩ := registers₁
  have reached : run (before ++ first :: between) = .ok s₂ :=
    run_append_eq_ok.mpr ⟨s₀, ran₀, run_cons_eq_ok.mpr ⟨s₁, stepped, ran₂⟩⟩
  have reachedFirst : run (before ++ [first]) = .ok s₁ :=
    run_append_eq_ok.mpr ⟨s₀, ran₀, by rw [run_singleton, stepped]⟩
  have poolAt : ∀ events later s, before ++ first :: between ++ second :: after =
      events ++ later → run events = .ok s → s.Pool := by
    intro events later s split ran
    rw [split] at live
    exact pool_preserved.run pool_init (along_append.mp live).1 ran
  have pool₁ : s₁.Pool := 
    poolAt (before ++ [first]) (between ++ second :: after) s₁ (by simp) reachedFirst
  have pool₂ : s₂.Pool := poolAt _ _ s₂ rfl reached
  have alive₂ : s₂.Alive worker :=
    alive_of_run ((pool₁.uniqueIds.alive worker).mpr active₁) survives ran₂
  have active₂ : worker ∈ s₂.activeWorkers := (pool₂.uniqueIds.alive worker).mp alive₂
  obtain free | new := registers₃.spec.2
  · exact pool₂.disjoint worker active₂ free
  · exact absurd ((pool₂.covers worker).mpr (.inl active₂)) (by simp [new])

/-- Every run of registrations, sweeps and heartbeats returns.  All its states have unique
ids, and no id is given out twice without a death in between, exactly when every heartbeat
comes from a worker that is not marked dead. -/
theorem unique_ids_iff (events : List Event) (traffic : Along step WorkerTraffic init events) :
    (∃ final, run events = .ok final) ∧
    ((∀ before after s, events = before ++ after → run before = .ok s → s.UniqueIds) ∧
        FreshAcknowledgements events ↔
      Along step LiveHeartbeat init events) := by
  have isLocal : Along step LocalEvent init events :=
    sound_preserved_traffic.along sound_init
      (traffic.mono fun _ _ => traffic_of_workerTraffic)
      fun _ _ sound admitted => sound.localEvent admitted
  constructor
  · obtain ⟨final, ran, _⟩ := sound_progresses.run sound_preserved sound_init isLocal
    exact ⟨final, ran⟩
  constructor
  · rintro ⟨unique, _⟩
    rw [along_iff]
    rintro before event after s rfl ran
    cases event with
    | heartbeat worker env =>
        obtain ⟨state, held⟩ := held_of_lt ((along_append.mp isLocal).2 s ran).1
        have stepped := processHeartbeatEvent_ok held env
        have next := unique (before ++ [.heartbeat worker env]) after _ (by simp)
          (run_append_eq_ok.mpr ⟨s, ran, by rw [run_singleton]; exact stepped⟩)
        have beats : (s.modifyWorker worker fun state =>
            { state with lastHeartbeatNs := env.now, alive := true }).Alive worker := by
          simp [Alive, held]
        exact ((unique before _ s rfl ran).alive worker).mpr ((next.alive worker).mp beats)
    | _ => trivial
  · intro live
    refine ⟨?_, freshAcknowledgements_of_live live⟩
    rintro before after s rfl ran
    exact (pool_preserved.run pool_init (along_append.mp live).1 ran).uniqueIds

/-- A worker that beats in time is joined by a second one. -/
theorem unique_ids_of_live_heartbeat :
    let events : List Event := [.register 5 { clock := [0, 0] }, .heartbeat 0 { clock := [2] },
      .sweep { clock := [3] }, .register 6 { clock := [4, 4] }]
    Along step WorkerTraffic init events ∧ FreshAcknowledgements events := by
  intro events
  have traffic : Along step WorkerTraffic init events := by decide +kernel
  have live : Along step LiveHeartbeat init events := by decide +kernel
  exact ⟨traffic, ((unique_ids_iff events traffic).2.mpr live).2⟩

/-- Two workers register, and the first one is declared dead but sends a heartbeat
afterwards.  The next sweep declares it dead once more. -/
def lateHeartbeat : List Event :=
  [.register 5 { clock := [0, 0] }, .register 6 { clock := [0, 0] },
    .heartbeat 1 { clock := [2000000000] }, .sweep { clock := [2000000000, 2000000000] },
    .heartbeat 0 { clock := [2000000000] }, .heartbeat 1 { clock := [4000000000] },
    .sweep { clock := [4000000000, 4000000000] }]

/-- The second death removes the other worker from the active ones and frees the dead
worker's id twice, so that the next two workers register under one id. -/
theorem late_heartbeat_duplicates_id :
    let joining : List Event :=
      [.register 7 { clock := [4000000000] }, .register 8 { clock := [4000000000] }]
    Along step WorkerTraffic init (lateHeartbeat ++ joining) ∧
    ((lateHeartbeat ++ joining).flatMap fun event => event.env.clock).Pairwise (· ≤ ·) ∧
    (∃ s, run (lateHeartbeat.take 5) = .ok s ∧ s.Alive 0 ∧ 0 ∉ s.activeWorkers) ∧
    (∃ s, run lateHeartbeat = .ok s ∧ s.availableIds = [0, 0] ∧ s.activeWorkers = [] ∧
      s.Alive 1) ∧
    ¬ FreshAcknowledgements (lateHeartbeat ++ joining) := by
  intro joining
  refine ⟨by decide +kernel, by decide +kernel, by decide +kernel, by decide +kernel, ?_⟩
  intro fresh
  have reached : ∃ s, run lateHeartbeat = .ok s ∧ s.availableIds = [0, 0] ∧
      0 < s.workersStates.length := by decide +kernel
  obtain ⟨s, ran, free, known⟩ := reached
  have first : RegistersAs s (.register 7 { clock := [4000000000] }) 0 _ :=
    registersAs_free (by simp [free]) known rfl
  have second : RegistersAs (s.registerReused 7 0 4000000000)
      (.register 8 { clock := [4000000000] }) 0 _ :=
    registersAs_free (by simp [free]) (by simpa using known) rfl
  exact fresh lateHeartbeat _ [] _ [] s _ _ _ 0 rfl ran first rfl second trivial

end TaskCoordinator.Coordinator
