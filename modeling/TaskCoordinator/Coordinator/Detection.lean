import TaskCoordinator.Coordinator.SchedulerLoop
import TaskCoordinator.Coordinator.Effects

/-!
# Detection of dead workers

A worker counts as dead when a sweep finds its last heartbeat more than `HEARTBEAT_TIMEOUT_NS`
old.  Sweeps are made by the loop of the scheduler thread, at most one per iteration, and not
before `SWEEP_INTERVAL_NS` have passed since the end of the last one.  Heartbeats and
registrations are recorded in between with the time at which they are handled.

This module follows the clock through the whole loop.  What matters of a worker is its pulse:
the time of its last heartbeat and the flag that it is alive.
-/

namespace TaskCoordinator

open Transition

/-- The event tells that a worker is there. -/
def Event.Vital : Event → Prop
  | .heartbeat .. | .register .. => True
  | _ => False

namespace Coordinator

/-- The last heartbeat of every worker and whether it counts as alive. -/
def pulses (s : Coordinator) : List (Nanoseconds × Bool) :=
  s.workersStates.map fun state => (state.lastHeartbeatNs, state.alive)

variable {s s' : Coordinator} {event : Event} {env env' : Env}

theorem getElem?_pulses (s : Coordinator) (worker : WorkerId) :
    s.pulses[worker]? =
      s.workersStates[worker]?.map fun state => (state.lastHeartbeatNs, state.alive) :=
  List.getElem?_map

/-! ## Events that leave the pulses alone -/

/-- A worker state is overwritten in a way that keeps its pulse. -/
theorem pulses_of_modify {worker : WorkerId} {change : WorkerState → WorkerState}
    (states : s'.workersStates = s.workersStates.modify worker change)
    (heartbeat : ∀ state, (change state).lastHeartbeatNs = state.lastHeartbeatNs)
    (alive : ∀ state, (change state).alive = state.alive) : s'.pulses = s.pulses := by
  apply List.ext_getElem?
  intro other
  rw [getElem?_pulses, getElem?_pulses, states, List.getElem?_modify]
  split
  next => simp [heartbeat, alive, Function.comp_def]
  next => simp

theorem pulses_of_states (states : s'.workersStates = s.workersStates) : s'.pulses = s.pulses :=
  congrArg (List.map _) states

theorem pulses_of_move (notSweeps : ¬event.Sweeps) (move : Move event s s') :
    s'.pulses = s.pulses := by
  cases move with
  | replicated | dropped | answered => exact pulses_of_states rfl
  | assigned => exact pulses_of_modify rfl (fun _ => rfl) fun _ => rfl
  | died sweeps => exact absurd sweeps notSweeps

theorem pulses_of_received (notVital : ¬event.Vital) (received : Received s event s') :
    s'.pulses = s.pulses := by
  cases received with
  | heartbeat | registerRefused | registerReused | registerFresh => exact absurd trivial notVital
  | submitAssigned | completeAnswered | completeDeferred =>
      exact pulses_of_modify rfl (fun _ => rfl) fun _ => rfl
  | assignedReplicate =>
      rw [assignReplicate_frame]
      exact pulses_of_states rfl
  | completedReplicate =>
      rw [completeReplicate_frame]
      exact pulses_of_states rfl
  | peerReconnected =>
      unfold processPeerReconnected
      split_ifs
      · exact pulses_of_states rfl
      · exact pulses_of_states rfl
      · rfl
  | submitQueued | completeUnknown | snapshot | topRequest | pass | backlog | replicate
  | sweep => exact pulses_of_states rfl

theorem pulses_of_step (notVital : ¬event.Vital) (notSweeps : ¬event.Sweeps)
    (stepped : s.step event = .ok s') : s'.pulses = s.pulses := by
  obtain ⟨middle, received, moves⟩ := step_spec stepped
  rw [← pulses_of_received notVital received]
  clear stepped received
  induction moves with
  | refl => rfl
  | tail _ move ih => exact (pulses_of_move notSweeps move).trans ih

/-! ## Heartbeats and registrations -/

theorem now_mem_clock (some : 0 < env.clock.length) : env.now ∈ env.clock := by
  unfold Env.now
  cases readings : env.clock with
  | nil => simp [readings] at some
  | cons first rest => exact List.mem_cons_self

theorem now_afterNow_mem_clock (two : 1 < env.clock.length) : env.afterNow.now ∈ env.clock := by
  have rest : 0 < env.afterNow.clock.length := by
    simp only [Env.afterNow, List.length_tail]
    omega
  exact List.mem_of_mem_tail (now_mem_clock rest)

/-- A worker that is heard gets a new pulse. -/
theorem mem_pulses_of_modify {worker : WorkerId} {change : WorkerState → WorkerState}
    {now : Nanoseconds} {pulse : Nanoseconds × Bool} (member : pulse ∈ s'.pulses)
    (states : s'.workersStates = s.workersStates.modify worker change)
    (heartbeat : ∀ state, (change state).lastHeartbeatNs = now)
    (alive : ∀ state, (change state).alive = true) : pulse ∈ s.pulses ∨ pulse = (now, true) := by
  obtain ⟨other, held⟩ := List.mem_iff_getElem?.mp member
  rw [getElem?_pulses, states, List.getElem?_modify] at held
  split at held
  next =>
    obtain ⟨state, changed, rfl⟩ := Option.map_eq_some_iff.mp held
    obtain ⟨before, _, rfl⟩ := Option.map_eq_some_iff.mp changed
    exact .inr (by rw [heartbeat, alive])
  next =>
    refine .inl (List.mem_iff_getElem?.mpr ⟨other, ?_⟩)
    rw [getElem?_pulses]
    simpa using held

theorem mem_pulses_of_vital (vital : event.Vital) (readings : 1 < event.env.clock.length)
    (stepped : s.step event = .ok s') {pulse : Nanoseconds × Bool} (member : pulse ∈ s'.pulses) :
    pulse ∈ s.pulses ∨ ∃ now ∈ event.env.clock, pulse = (now, true) := by
  cases event with
  | heartbeat worker env =>
      simp only [step, processHeartbeatEvent, bind_eq_ok] at stepped
      obtain ⟨state, _, done⟩ := stepped
      cases done
      have heard := mem_pulses_of_modify member (modifyWorker_workersStates ..)
        (fun _ => rfl) fun _ => rfl
      refine heard.imp_right fun isNew => ?_
      exact ⟨env.now, now_mem_clock (Nat.lt_of_succ_lt readings), isNew⟩
  | register fd env =>
      simp only [step, processRegisterEvent] at stepped
      split at stepped
      next worker _ =>
        split at stepped
        next =>
          obtain ⟨state, _, done⟩ := bind_eq_ok.mp stepped
          cases done
          have heard := mem_pulses_of_modify member (registerReused_workersStates ..)
            (fun _ => rfl) fun _ => rfl
          refine heard.imp_right fun isNew => ?_
          exact ⟨env.now, now_mem_clock (Nat.lt_of_succ_lt readings), isNew⟩
        next =>
          cases stepped
          exact .inl member
      next =>
        cases stepped
        split at member
        next =>
          simp only [pulses, registerFresh_workersStates, List.map_append, List.mem_append,
            List.map_cons, List.map_nil, List.mem_singleton] at member
          refine member.imp_right fun isNew => ?_
          exact ⟨env.afterNow.now, now_afterNow_mem_clock readings, isNew⟩
        next => exact .inl member
  | submit | complete | assignedReplicate | completedReplicate | snapshot | peerReconnected
  | topRequest | pass | backlog | replicate | sweep => exact absurd vital id

/-! ## A sweep -/

/-- What a check at one of the given times makes of a pulse. -/
structure Judged (clock : List Nanoseconds) (before after : Nanoseconds × Bool) : Prop where
  heartbeat : after.1 = before.1
  verdict : (before.2 = false ∧ after.2 = false) ∨ ∃ now ∈ clock,
    (after.2 = true ∧ now.toNat ≤ before.1.toNat + Config.heartbeatTimeoutNs.toNat) ∨
    (after.2 = false ∧ before.1.toNat + Config.heartbeatTimeoutNs.toNat < now.toNat)

theorem Judged.mono {clock later : List Nanoseconds} {before after : Nanoseconds × Bool}
    (judged : Judged later before after) (within : ∀ now ∈ later, now ∈ clock) :
    Judged clock before after := by
  refine ⟨judged.heartbeat, judged.verdict.imp_right ?_⟩
  rintro ⟨now, member, verdict⟩
  exact ⟨now, within now member, verdict⟩

/-- The comparison in `is_alive`, for a heartbeat that is not in the future. -/
theorem sub_le_heartbeatTimeoutNs_iff {heartbeat now : Nanoseconds} (past : heartbeat ≤ now) :
    now - heartbeat ≤ Config.heartbeatTimeoutNs ↔
      now.toNat ≤ heartbeat.toNat + Config.heartbeatTimeoutNs.toNat := by
  have order := UInt64.le_iff_toNat_le.mp past
  rw [UInt64.le_iff_toNat_le, UInt64.toNat_sub_of_le _ _ past]
  omega

theorem getElem?_pulses_declareDead {worker : WorkerId} {running : List TaskId}
    {dead : Coordinator} (declared : s.declareDead worker running = .ok dead) (other : WorkerId) :
    dead.pulses[other]? =
      if worker = other then s.pulses[other]?.map fun pulse => (pulse.1, false)
      else s.pulses[other]? := by
  obtain ⟨inactive, marked, frame, _⟩ := declareDead_spec declared
  have kept : inactive.pulses = s.pulses := by
    obtain ⟨rfl, _⟩ | ⟨last, state, _, _, _, rfl⟩ := markInactive_spec marked
    · rfl
    · exact pulses_of_modify rfl (fun _ => rfl) fun _ => rfl
  have states := congrArg workersStates frame
  simp only at states
  rw [← kept, getElem?_pulses, getElem?_pulses, states, List.getElem?_modify]
  split
  next => simp [WorkerState.markDead, Function.comp_def]
  next => simp

/-- The check of one worker. -/
theorem isAlive_pulses {worker : WorkerId} {alive : Bool}
    (past : ∀ pulse ∈ s.pulses, ∀ now ∈ env.clock, pulse.1 ≤ now)
    (readings : 0 < env.clock.length) (called : s.isAlive worker env = .ok (alive, s', env'))
    (other : WorkerId) (after : Nanoseconds × Bool) (held : s'.pulses[other]? = some after) :
    ∃ before, s.pulses[other]? = some before ∧
      (other ≠ worker → after = before) ∧ (other = worker → Judged env.clock before after) := by
  simp only [isAlive, bind_eq_ok, workerAt_eq_ok] at called
  obtain ⟨state, heldState, checked⟩ := called
  have pulse : s.pulses[worker]? = some (state.lastHeartbeatNs, state.alive) := by
    rw [getElem?_pulses, heldState, Option.map_some]
  have isPast : state.lastHeartbeatNs ≤ env.now :=
    past _ (List.mem_of_getElem? pulse) _ (now_mem_clock readings)
  split at checked
  next dead =>
    cases checked
    refine ⟨after, held, fun _ => rfl, ?_⟩
    rintro rfl
    rw [pulse] at held
    cases held
    have notAlive : state.alive = false := by simpa using dead
    exact ⟨rfl, .inl ⟨notAlive, notAlive⟩⟩
  next living =>
    split at checked
    next recent =>
      cases checked
      refine ⟨after, held, fun _ => rfl, ?_⟩
      rintro rfl
      rw [pulse] at held
      cases held
      have isAlive : state.alive = true := by simpa using living
      refine ⟨rfl, .inr ⟨env.now, now_mem_clock readings, .inl ⟨isAlive, ?_⟩⟩⟩
      exact (sub_le_heartbeatTimeoutNs_iff isPast).mp recent
    next overdue =>
      obtain ⟨dead, declared, done⟩ := bind_eq_ok.mp checked
      cases done
      rw [getElem?_pulses_declareDead declared] at held
      split at held
      next same =>
        subst same
        rw [pulse] at held
        cases held
        refine ⟨_, pulse, fun different => absurd rfl different, fun _ => ⟨rfl, .inr ?_⟩⟩
        refine ⟨env.now, now_mem_clock readings, .inr ⟨rfl, ?_⟩⟩
        exact Nat.lt_of_not_le fun recent =>
          overdue ((sub_le_heartbeatTimeoutNs_iff isPast).mpr recent)
      next different =>
        exact ⟨after, held, fun _ => rfl, fun same => absurd same.symm different⟩

/-- A check takes one reading at most. -/
theorem isAlive_clock {worker : WorkerId} {alive : Bool}
    (called : s.isAlive worker env = .ok (alive, s', env')) :
    env'.clock = env.clock ∨ env'.clock = env.clock.tail := by
  simp only [isAlive, bind_eq_ok] at called
  obtain ⟨state, _, checked⟩ := called
  split at checked
  next =>
    cases checked
    exact .inl rfl
  next =>
    split at checked
    next =>
      cases checked
      exact .inr rfl
    next =>
      obtain ⟨dead, _, done⟩ := bind_eq_ok.mp checked
      cases done
      exact .inr rfl

/-- The loop of `sweep_workers` judges every worker in its list once. -/
theorem sweepFrom_pulses {workers : List WorkerId} (distinct : workers.Nodup)
    (past : ∀ pulse ∈ s.pulses, ∀ now ∈ env.clock, pulse.1 ≤ now)
    (readings : workers.length < env.clock.length)
    (called : sweepFrom workers s env = .ok (s', env')) :
    env'.clock <:+ env.clock ∧ 0 < env'.clock.length ∧
    ∀ other after, s'.pulses[other]? = some after → ∃ before, s.pulses[other]? = some before ∧
      (other ∉ workers → after = before) ∧ (other ∈ workers → Judged env.clock before after) := by
  induction workers generalizing s env with
  | nil =>
      cases called
      exact ⟨List.suffix_rfl, readings,
        fun other after held => ⟨after, held, fun _ => rfl, by simp⟩⟩
  | cons worker rest ih =>
      simp only [sweepFrom, bind_eq_ok] at called
      obtain ⟨⟨alive, checked, remaining⟩, calledFirst, swept⟩ := called
      obtain ⟨notAgain, distinctRest⟩ := List.nodup_cons.mp distinct
      have some : 0 < env.clock.length := Nat.zero_lt_of_lt readings
      have first := isAlive_pulses past some calledFirst
      have suffix : remaining.clock <:+ env.clock := by
        obtain same | tail := isAlive_clock calledFirst
        · rw [same]
        · rw [tail]
          exact List.tail_suffix _
      have enough : rest.length < remaining.clock.length := by
        rw [List.length_cons] at readings
        obtain same | tail := isAlive_clock calledFirst
        · rw [same]
          omega
        · rw [tail, List.length_tail]
          omega
      have stillPast : ∀ pulse ∈ checked.pulses, ∀ now ∈ remaining.clock, pulse.1 ≤ now := by
        intro pulse member now reading
        obtain ⟨other, held⟩ := List.mem_iff_getElem?.mp member
        obtain ⟨before, heldBefore, unchanged, judged⟩ := first other pulse held
        have same : pulse.1 = before.1 := by
          by_cases isChecked : other = worker
          · exact (judged isChecked).heartbeat
          · rw [unchanged isChecked]
        rw [same]
        exact past before (List.mem_of_getElem? heldBefore) now (suffix.subset reading)
      obtain ⟨suffixRest, left, later⟩ := ih distinctRest stillPast enough swept
      refine ⟨suffixRest.trans suffix, left, fun other after held => ?_⟩
      obtain ⟨middle, heldMiddle, unchangedLater, judgedLater⟩ := later other after held
      obtain ⟨before, heldBefore, unchangedFirst, judgedFirst⟩ := first other middle heldMiddle
      refine ⟨before, heldBefore, ?_, ?_⟩
      · intro unchecked
        obtain ⟨notFirst, notLater⟩ := not_or.mp (mt List.mem_cons.mpr unchecked)
        rw [unchangedLater notLater, unchangedFirst notFirst]
      · intro isChecked
        obtain rfl | isLater := List.mem_cons.mp isChecked
        · rw [unchangedLater notAgain]
          exact judgedFirst rfl
        · have notFirst : other ≠ worker := fun same => notAgain (same ▸ isLater)
          rw [← unchangedFirst notFirst]
          exact (judgedLater isLater).mono suffix.subset

/-- A sweep judges every worker, and at least one reading is left. -/
theorem sweepWorkers_pulses (past : ∀ pulse ∈ s.pulses, ∀ now ∈ env.clock, pulse.1 ≤ now)
    (readings : s.workersStates.length < env.clock.length)
    (called : s.sweepWorkers env = .ok (s', env')) :
    env'.now ∈ env.clock ∧
    ∀ after ∈ s'.pulses, ∃ before ∈ s.pulses, Judged env.clock before after := by
  have enough : (List.range s.workersStates.length).length < env.clock.length := by
    rwa [List.length_range]
  obtain ⟨suffix, left, judged⟩ := sweepFrom_pulses List.nodup_range past enough called
  refine ⟨suffix.subset (now_mem_clock left), fun after member => ?_⟩
  obtain ⟨worker, held⟩ := List.mem_iff_getElem?.mp member
  obtain ⟨before, heldBefore, _, verdict⟩ := judged worker after held
  refine ⟨before, List.mem_of_getElem? heldBefore, verdict (List.mem_range.mpr ?_)⟩
  obtain ⟨below, _⟩ := List.getElem?_eq_some_iff.mp heldBefore
  simpa [pulses] using below

end Coordinator

/-! ## The clock of the loop -/

theorem IncomingEvent.vital_of_controlEvent? {incoming : IncomingEvent} {env : Env}
    {event : Event} (known : incoming.controlEvent? env = some event) :
    event.Vital ∧ event.env = env := by
  unfold controlEvent? at known
  split at known
  next =>
    cases known
    exact ⟨trivial, rfl⟩
  next =>
    cases known
    exact ⟨trivial, rfl⟩
  next => cases known

theorem IncomingEvent.quiet_of_taskEvent? {incoming : IncomingEvent} {env : Env}
    {event : Event} (known : incoming.taskEvent? env = some event) :
    ¬event.Vital ∧ ¬event.Sweeps := by
  unfold taskEvent? at known
  split at known
  any_goals
    cases known
    exact ⟨id, id⟩
  next => cases known

/-- The loop with the last reading of the clock, the reading at the last check for a sweep, and
the reading with which the last sweep began. -/
structure TimedScheduler where
  scheduler : Scheduler
  now : Nanoseconds
  checked : Nanoseconds
  swept : Nanoseconds

namespace TimedScheduler

def init : TimedScheduler where
  scheduler := .init
  now := 0
  checked := 0
  swept := 0

def step (t : TimedScheduler) (action : SchedulerAction) : Except Fault TimedScheduler := do
  let scheduler ← t.scheduler.step action
  match action with
  | .arrive _ => .ok { t with scheduler }
  | .advance env =>
      let timed := { t with scheduler, now := env.clock.getLastD t.now }
      match t.scheduler.phase with
      | .sweeping =>
          if env.now - t.scheduler.lastSweep ≥ Config.sweepIntervalNs then
            .ok { timed with checked := env.now, swept := env.now }
          else
            .ok { timed with checked := env.now }
      | _ => .ok timed

/-- The clock is not set back and is read as often as needed, and no sweep takes longer than
`duration`. -/
def Clocked (duration : Nat) (t : TimedScheduler) : SchedulerAction → Prop
  | .arrive _ => True
  | .advance env =>
      t.now ≤ env.now ∧ env.clock.Pairwise (· ≤ ·) ∧
      t.scheduler.coordinator.workersStates.length + 2 ≤ env.clock.length ∧
      (t.scheduler.phase = .sweeping →
        (env.clock.getLastD t.now).toNat ≤ env.now.toNat + duration)

instance (duration : Nat) (t : TimedScheduler) : DecidablePred (t.Clocked duration)
  | .arrive _ => isTrue trivial
  | .advance _ => inferInstanceAs (Decidable (_ ∧ _ ∧ _ ∧ _))

/-- The pulses at the time `now`, if the last sweep began at the time `swept`. -/
structure UpToDate (swept now : Nanoseconds) (pulse : Nanoseconds × Bool) : Prop where
  past : pulse.1 ≤ now
  heard : pulse.2 = true → swept.toNat ≤ pulse.1.toNat + Config.heartbeatTimeoutNs.toNat
  silent : pulse.2 = false → pulse.1.toNat + Config.heartbeatTimeoutNs.toNat < now.toNat

structure Current (duration : Nat) (t : TimedScheduler) : Prop where
  began : t.swept ≤ t.now
  lastSweep : t.scheduler.lastSweep ≤ t.now
  ended : t.scheduler.lastSweep.toNat ≤ t.swept.toNat + duration
  checked : t.checked.toNat < t.swept.toNat + duration + Config.sweepIntervalNs.toNat
  pulses : ∀ pulse ∈ t.scheduler.coordinator.pulses, UpToDate t.swept t.now pulse

variable {duration : Nat} {t t' : TimedScheduler} {env : Env} {scheduler : Scheduler}

theorem UpToDate.later {swept now later : Nanoseconds} {pulse : Nanoseconds × Bool}
    (upToDate : UpToDate swept now pulse) (passed : now ≤ later) :
    UpToDate swept later pulse where
  past := UInt64.le_trans upToDate.past passed
  heard := upToDate.heard
  silent := fun dead =>
    Nat.lt_of_lt_of_le (upToDate.silent dead) (UInt64.le_iff_toNat_le.mp passed)

/-- The readings of a step lie between the first and the last one of it. -/
theorem Clocked.readings (clocked : t.Clocked duration (.advance env)) :
    ∀ reading ∈ env.clock, env.now ≤ reading ∧ reading ≤ env.clock.getLastD t.now := by
  obtain ⟨_, sorted, _, _⟩ := clocked
  intro reading member
  have nonempty := List.ne_nil_of_mem member
  constructor
  · unfold Env.now
    cases readings : env.clock with
    | nil => exact absurd readings nonempty
    | cons first rest =>
        rw [readings] at member sorted
        obtain rfl | later := List.mem_cons.mp member
        · exact UInt64.le_refl _
        · exact List.rel_of_pairwise_cons sorted later
  · rw [List.getLastD_eq_getLast?, List.getLast?_eq_some_getLast nonempty, Option.getD_some]
    exact sorted.rel_getLast_of_rel_getLast_getLast member (UInt64.le_refl _)

theorem Clocked.now_mem (clocked : t.Clocked duration (.advance env)) : env.now ∈ env.clock := by
  obtain ⟨_, _, readings, _⟩ := clocked
  exact Coordinator.now_mem_clock (by omega)

/-- A step that makes no sweep. -/
theorem Current.goOn (current : t.Current duration) (clocked : t.Clocked duration (.advance env))
    (lastSweep : scheduler.lastSweep = t.scheduler.lastSweep)
    (heard : ∀ pulse ∈ scheduler.coordinator.pulses, pulse ∈ t.scheduler.coordinator.pulses ∨
      ∃ now ∈ env.clock, pulse = (now, true)) :
    Current duration { t with scheduler, now := env.clock.getLastD t.now } := by
  have onward : t.now ≤ env.now := clocked.1
  have passed : t.now ≤ env.clock.getLastD t.now :=
    UInt64.le_trans onward (clocked.readings _ clocked.now_mem).2
  refine
    { began := UInt64.le_trans current.began passed
      lastSweep := ?_
      ended := ?_
      checked := current.checked
      pulses := ?_ }
  · rw [lastSweep]
    exact UInt64.le_trans current.lastSweep passed
  · rw [lastSweep]
    exact current.ended
  · intro pulse member
    obtain before | ⟨now, reading, rfl⟩ := heard pulse member
    · exact (current.pulses pulse before).later passed
    · obtain ⟨notBefore, notAfter⟩ := clocked.readings now reading
      refine ⟨notAfter, fun _ => ?_, nofun⟩
      have order : t.swept ≤ now :=
        UInt64.le_trans current.began (UInt64.le_trans onward notBefore)
      exact (UInt64.le_iff_toNat_le.mp order).trans (Nat.le_add_right _ _)

/-- A check that finds no sweep due. -/
theorem Current.notDue (current : t.Current duration)
    (clocked : t.Clocked duration (.advance env))
    (early : env.now - t.scheduler.lastSweep < Config.sweepIntervalNs)
    (lastSweep : scheduler.lastSweep = t.scheduler.lastSweep)
    (coordinator : scheduler.coordinator = t.scheduler.coordinator) :
    Current duration
      { t with scheduler, now := env.clock.getLastD t.now, checked := env.now } := by
  have later := current.goOn clocked lastSweep (fun pulse member => .inl (coordinator ▸ member))
  refine { later with checked := ?_ }
  have order : t.scheduler.lastSweep ≤ env.now := UInt64.le_trans current.lastSweep clocked.1
  have within := UInt64.lt_iff_toNat_lt.mp early
  rw [UInt64.toNat_sub_of_le _ _ order] at within
  have ended := current.ended
  simp only
  omega

/-- A check that makes a sweep. -/
theorem Current.sweep {rest : Env} {coordinator : Coordinator} (current : t.Current duration)
    (clocked : t.Clocked duration (.advance env)) (phase : t.scheduler.phase = .sweeping)
    (called : t.scheduler.coordinator.sweepWorkers env.afterNow = .ok (coordinator, rest))
    (isCoordinator : scheduler.coordinator = coordinator)
    (lastSweep : scheduler.lastSweep = rest.now) :
    Current duration { scheduler, now := env.clock.getLastD t.now, checked := env.now,
                       swept := env.now } := by
  have onward : t.now ≤ env.now := clocked.1
  have later := (clocked.readings _ clocked.now_mem).2
  have tail : ∀ now ∈ env.afterNow.clock, now ∈ env.clock := fun _ => List.mem_of_mem_tail
  have past : ∀ pulse ∈ t.scheduler.coordinator.pulses, ∀ now ∈ env.afterNow.clock,
      pulse.1 ≤ now := by
    intro pulse member now reading
    have notBefore := (clocked.readings now (tail now reading)).1
    exact UInt64.le_trans (current.pulses pulse member).past (UInt64.le_trans onward notBefore)
  have readings : t.scheduler.coordinator.workersStates.length < env.afterNow.clock.length := by
    obtain ⟨_, _, enough, _⟩ := clocked
    simp only [Env.afterNow, List.length_tail]
    omega
  obtain ⟨ends, judged⟩ := Coordinator.sweepWorkers_pulses past readings called
  have endsBy := (clocked.readings rest.now (tail _ ends)).2
  refine
    { began := later
      lastSweep := lastSweep ▸ endsBy
      ended := ?_
      checked := ?_
      pulses := ?_ }
  · rw [lastSweep]
    obtain ⟨_, _, _, lasts⟩ := clocked
    exact (UInt64.le_iff_toNat_le.mp endsBy).trans (lasts phase)
  · have positive : 0 < Config.sweepIntervalNs.toNat := by decide
    simp only
    omega
  · intro after member
    rw [isCoordinator] at member
    obtain ⟨before, wasThere, heartbeat, verdict⟩ := judged after member
    have upToDate := (current.pulses before wasThere).later (UInt64.le_trans onward later)
    refine ⟨heartbeat ▸ upToDate.past, ?_, ?_⟩
    · intro alive
      obtain ⟨_, dead⟩ | ⟨now, reading, ⟨_, recent⟩ | ⟨dead, _⟩⟩ := verdict
      · rw [alive] at dead
        cases dead
      · have notBefore := UInt64.le_iff_toNat_le.mp (clocked.readings now (tail now reading)).1
        rw [heartbeat]
        exact notBefore.trans recent
      · rw [alive] at dead
        cases dead
    · intro dead
      rw [heartbeat]
      obtain ⟨wasDead, _⟩ | ⟨now, reading, ⟨alive, _⟩ | ⟨_, overdue⟩⟩ := verdict
      · exact upToDate.silent wasDead
      · rw [dead] at alive
        cases alive
      · have notAfter := UInt64.le_iff_toNat_le.mp (clocked.readings now (tail now reading)).2
        exact Nat.lt_of_lt_of_le overdue notAfter

theorem current_preserved (duration : Nat) :
    Preserves step (Clocked duration) (Current duration) := by
  intro t action t' current clocked stepped
  obtain ⟨scheduler, advanced, done⟩ := bind_eq_ok.mp stepped
  cases Scheduler.step_outcome advanced with
  | refused | pushedControl | pushedTask =>
      cases done
      exact ⟨current.began, current.lastSweep, current.ended, current.checked, current.pulses⟩
  | passed phase passed =>
      simp only [phase] at done
      cases done
      refine current.goOn clocked rfl fun pulse member => .inl ?_
      exact Coordinator.pulses_of_step id id passed ▸ member
  | controlled phase below front known handled =>
      simp only [phase] at done
      cases done
      obtain ⟨vital, isEnv⟩ := IncomingEvent.vital_of_controlEvent? known
      obtain ⟨_, _, readings, _⟩ := id clocked
      refine current.goOn clocked rfl fun pulse member => ?_
      have heard := Coordinator.mem_pulses_of_vital vital (by rw [isEnv]; omega) handled member
      rwa [isEnv] at heard
  | worked phase below front known handled =>
      simp only [phase] at done
      cases done
      obtain ⟨notVital, notSweeps⟩ := IncomingEvent.quiet_of_taskEvent? known
      refine current.goOn clocked rfl fun pulse member => .inl ?_
      exact Coordinator.pulses_of_step notVital notSweeps handled ▸ member
  | controlIgnored phase | controlRetried phase | controlLeft phase | taskIgnored phase
  | taskRetried phase | tasksLeft phase =>
      simp only [phase] at done
      cases done
      exact current.goOn clocked rfl fun pulse member => .inl member
  | notDue phase early =>
      simp only [phase, if_neg (UInt64.not_le.mpr early)] at done
      cases done
      exact current.notDue clocked early rfl rfl
  | swept phase due called =>
      simp only [phase, if_pos due] at done
      cases done
      exact current.sweep clocked phase called rfl rfl

theorem current_init (duration : Nat) : Current duration init where
  began := UInt64.le_refl _
  lastSweep := UInt64.le_refl _
  ended := Nat.zero_le _
  checked := by
    have positive : 0 < Config.sweepIntervalNs.toNat := by decide
    simp only [init, UInt64.toNat_zero]
    omega
  pulses := by
    intro pulse member
    cases member

/-- The sweeps of the loop are a failure detector with a bounded delay.  At every check of the
loop, a worker that counts as alive has been heard within `HEARTBEAT_TIMEOUT_NS`,
`SWEEP_INTERVAL_NS` and the duration of a sweep, and a worker that counts as dead has not been
heard for more than `HEARTBEAT_TIMEOUT_NS`. -/
theorem workers_judged_in_time (duration : Nat) (actions : List SchedulerAction)
    (clocked : Along step (Clocked duration) init actions)
    (ran : Transition.run step init actions = .ok t) (worker : WorkerId) (state : WorkerState)
    (held : t.scheduler.coordinator.workersStates[worker]? = some state) :
    (state.alive = true → t.checked.toNat < state.lastHeartbeatNs.toNat +
      Config.heartbeatTimeoutNs.toNat + Config.sweepIntervalNs.toNat + duration) ∧
    (state.alive = false →
      state.lastHeartbeatNs.toNat + Config.heartbeatTimeoutNs.toNat < t.now.toNat) := by
  have current := (current_preserved duration).run (current_init duration) clocked ran
  have pulse : (state.lastHeartbeatNs, state.alive) ∈ t.scheduler.coordinator.pulses :=
    List.mem_map.mpr ⟨state, List.mem_of_getElem? held, rfl⟩
  have upToDate := current.pulses _ pulse
  refine ⟨fun alive => ?_, upToDate.silent⟩
  have heard := upToDate.heard alive
  have checked := current.checked
  simp only at heard
  omega

/-- One iteration in which a worker registers, and one more than a second later in which a
sweep finds it silent. -/
def silentWorker : List SchedulerAction :=
  .arrive { fd := 5, msg := { body := .register } } ::
    (List.replicate 26 (.advance { clock := List.replicate 3 300000000 }) ++
      List.replicate 25 (.advance { clock := List.replicate 3 1400000000 }))

theorem silentWorker_judged :
    ∃ t, Transition.run step init silentWorker = .ok t ∧
      ∃ state, t.scheduler.coordinator.workersStates[0]? = some state ∧ state.alive = false ∧
        state.lastHeartbeatNs.toNat + Config.heartbeatTimeoutNs.toNat < t.now.toNat := by
  have clocked : Along step (Clocked 0) init silentWorker := by decide +kernel
  have runs : ∃ t, Transition.run step init silentWorker = .ok t ∧
      (t.scheduler.coordinator.workersStates[0]?.map fun state => state.alive) = some false := by
    decide +kernel
  obtain ⟨t, ran, dead⟩ := runs
  obtain ⟨state, held, notAlive⟩ := Option.map_eq_some_iff.mp dead
  have judged := workers_judged_in_time 0 silentWorker clocked ran 0 state held
  exact ⟨t, ran, state, held, notAlive, judged.2 notAlive⟩

end TimedScheduler

end TaskCoordinator
