import TaskCoordinator.CommandLine.Utils
import TaskCoordinator.Library.ServiceRounds
import TaskCoordinator.Library.Transition
import TaskCoordinator.Worker.Threads

/-!
# Draining the response queues

Between two polls the network thread of a worker goes once through the response queues.  It starts
with another queue each time, takes at most `WORKER_OUT_PER_THREAD_CAP` responses from each of them
and at most `WORKER_OUT_BUDGET` in all.

With as many execution threads as the command line admits, the second limit is never reached before
the first one, so every pass serves every queue.  For one queue the network thread is then a server
that works in rounds, as in `ServiceRounds`, which bounds how many passes a response waits for.
-/

namespace TaskCoordinator

open Relation Transition

/-- A worker with what its network thread has done: the responses of each execution thread that it
has sent, and how often it has gone through the queues. -/
structure DrainedWorker (n : Nat) where
  worker : Worker n
  sentOf : Fin n → List CompleteMsg
  passes : Nat

namespace DrainedWorker

variable {n : Nat}

/-! ## One queue -/

/-- The round of a pass that is about the queue of the thread. -/
def turn (w : Worker n) (thread : Fin n) : Nat :=
  (thread - w.lastStart).val

/-- The response that the network thread has taken from the queue whose turn is at `turn`. -/
def inHand (turn : Nat) : NetworkPhase n → List CompleteMsg
  | .sending response k _ _ => if k = turn then [response] else []
  | _ => []

/-- This turn is over. -/
def turnOver (turn : Nat) : NetworkPhase n → Bool
  | .draining k _ | .popping k _ _ | .sending _ k _ _ => turn < k
  | _ => false

/-- How many responses have been sent in this turn. -/
def current (turn : Nat) : NetworkPhase n → Option Nat
  | .popping k _ localProcessed | .sending _ k _ localProcessed =>
      if k = turn then some localProcessed else none
  | _ => none

/-- The responses of a thread that have not been sent. -/
def pending (d : DrainedWorker n) (thread : Fin n) : List CompleteMsg :=
  inHand (turn d.worker thread) d.worker.network ++ d.worker.responseQueues thread

/-- The network thread as the server of one queue. -/
def view (thread : Fin n) (d : DrainedWorker n) : ServiceRounds.State CompleteMsg where
  queue := d.pending thread
  served := d.sentOf thread
  rounds := d.passes + (turnOver (turn d.worker thread) d.worker.network).toNat
  current := current (turn d.worker thread) d.worker.network

/-! ## The limits -/

/-- How much has been sent in the pass so far. -/
def Paced : NetworkPhase n → Prop
  | .draining k totalProcessed =>
      k ≤ n ∧ totalProcessed ≤ Config.workerOutPerThreadCap * k
  | .popping k totalProcessed localProcessed | .sending _ k totalProcessed localProcessed =>
      k < n ∧ totalProcessed ≤ Config.workerOutPerThreadCap * k + localProcessed ∧
        localProcessed < Config.workerOutPerThreadCap
  | _ => True

/-- The thread is not in its pass over the queues. -/
def Elsewhere : NetworkPhase n → Prop
  | .draining _ _ | .popping _ _ _ | .sending _ _ _ _ => False
  | _ => True

/-- The thread is not in its pass over the queues, or at the very beginning of it. -/
def Outside : NetworkPhase n → Prop
  | .draining k totalProcessed => k = 0 ∧ totalProcessed = 0
  | .popping _ _ _ | .sending _ _ _ _ => False
  | _ => True

theorem Elsewhere.outside {phase : NetworkPhase n} (elsewhere : Elsewhere phase) :
    Outside phase := by
  cases phase with
  | draining | popping | sending => exact elsewhere.elim
  | _ => trivial

theorem Outside.paced {phase : NetworkPhase n} (outside : Outside phase) : Paced phase := by
  cases phase with
  | draining k totalProcessed =>
      obtain ⟨rfl, rfl⟩ := outside
      exact ⟨Nat.zero_le n, Nat.zero_le _⟩
  | popping | sending => exact outside.elim
  | _ => trivial

theorem Outside.view_parts {phase : NetworkPhase n} (outside : Outside phase) (turn : Nat) :
    inHand turn phase = [] ∧ turnOver turn phase = false ∧ current turn phase = none := by
  cases phase with
  | draining k totalProcessed =>
      obtain ⟨rfl, rfl⟩ := outside
      exact ⟨rfl, by simp [turnOver], rfl⟩
  | popping | sending => exact outside.elim
  | _ => exact ⟨rfl, rfl, rfl⟩

variable {d : DrainedWorker n}

theorem view_draining {k total : Nat} (thread : Fin n)
    (phase : d.worker.network = .draining k total) :
    d.view thread = ⟨d.worker.responseQueues thread, d.sentOf thread,
      d.passes + (decide (turn d.worker thread < k)).toNat, none⟩ := by
  rw [view, pending, phase]
  rfl

theorem view_popping {k total localTotal : Nat} (thread : Fin n)
    (phase : d.worker.network = .popping k total localTotal) :
    d.view thread = ⟨d.worker.responseQueues thread, d.sentOf thread,
      d.passes + (decide (turn d.worker thread < k)).toNat,
      if k = turn d.worker thread then some localTotal else none⟩ := by
  rw [view, pending, phase]
  rfl

theorem view_sending {response : CompleteMsg} {k total localTotal : Nat} (thread : Fin n)
    (phase : d.worker.network = .sending response k total localTotal) :
    d.view thread =
      ⟨(if k = turn d.worker thread then [response] else []) ++ d.worker.responseQueues thread,
        d.sentOf thread, d.passes + (decide (turn d.worker thread < k)).toNat,
        if k = turn d.worker thread then some localTotal else none⟩ := by
  rw [view, pending, phase]
  rfl

theorem view_elsewhere (thread : Fin n) (elsewhere : Elsewhere d.worker.network) :
    d.view thread = ⟨d.worker.responseQueues thread, d.sentOf thread, d.passes, none⟩ := by
  obtain ⟨hand, isOver, count⟩ := elsewhere.outside.view_parts (turn d.worker thread)
  rw [view, pending, hand, isOver, count]
  rfl

/-! ## The passes -/

variable [NeZero n]

def init (now : Nanoseconds) : DrainedWorker n where
  worker := .init now
  sentOf := fun _ => []
  passes := 0

/-- The responses that are sent in a step: the one that the network thread has in hand. -/
def sends (w : Worker n) : WorkerAction n → Option (Fin n × CompleteMsg)
  | .send true =>
      match w.network with
      | .sending response k _ _ => some (w.drained k, response)
      | _ => none
  | _ => none

/-- The step from `w` to `w'` ends a pass over the queues. -/
def endsPass (w w' : Worker n) : Bool :=
  match w.network, w'.network with
  | .draining _ _, .beating => true
  | _, _ => false

def step (d : DrainedWorker n) (action : WorkerAction n) : Except Disabled (DrainedWorker n) := do
  let worker ← d.worker.step action
  let sentOf :=
    match sends d.worker action with
    | some (thread, response) =>
        Function.update d.sentOf thread (d.sentOf thread ++ [response])
    | none => d.sentOf
  .ok { worker, sentOf, passes := if endsPass d.worker worker then d.passes + 1 else d.passes }

variable {w w' : Worker n} {d' : DrainedWorker n} {action : WorkerAction n}

/-- The queue of the thread is the one that is drained in its turn. -/
theorem drained_eq_iff {k : Nat} (inside : k < n) (thread : Fin n) :
    w.drained k = thread ↔ k = turn w thread := by
  have number : (Fin.ofNat n k).val = k := Nat.mod_eq_of_lt inside
  rw [Worker.drained, turn, add_comm, ← eq_sub_iff_add_eq, Fin.ext_iff, number]

/-- What a step of the worker does to the ghosts. -/
theorem step_eq_ok (stepped : d.step action = .ok d') :
    d.worker.step action = .ok d'.worker ∧
    (d'.sentOf = match sends d.worker action with
      | some (thread, response) =>
          Function.update d.sentOf thread (d.sentOf thread ++ [response])
      | none => d.sentOf) ∧
    d'.passes = if endsPass d.worker d'.worker then d.passes + 1 else d.passes := by
  obtain ⟨worker, taken, done⟩ := bind_eq_ok.mp stepped
  cases done
  exact ⟨taken, rfl, rfl⟩

/-- The actions in which the network thread does not go on with its pass. -/
def Apart : WorkerAction n → Prop
  | .drain | .send _ => False
  | _ => True

/-- A step from `w` to `w'` of another thread. -/
structure Beside (w w' : Worker n) : Prop where
  network : w'.network = w.network
  lastStart : w'.lastStart = w.lastStart
  sent : w'.sent = w.sent
  queues : ∀ thread, w'.responseQueues thread = w.responseQueues thread ∨
    (w.responseQueues thread).length < Config.workerQueueCapacity ∧
      ∃ response, w'.responseQueues thread = w.responseQueues thread ++ [response]

/-- A step from `w` to `w'` of the network thread outside of its pass, in which it leaves the
response queues alone. -/
structure Beyond (w w' : Worker n) : Prop where
  elsewhere : Elsewhere w.network
  outside : Outside w'.network
  sent : w.sent <+: w'.sent
  queues : w'.responseQueues = w.responseQueues

omit [NeZero n] in
theorem outside_retryConnect (w : Worker n) (retry : Nat) :
    Outside (w.retryConnect retry).network ∧ (w.retryConnect retry).sent = w.sent ∧
      (w.retryConnect retry).responseQueues = w.responseQueues := by
  unfold Worker.retryConnect
  split
  next => exact ⟨trivial, rfl, rfl⟩
  next => exact ⟨trivial, rfl, rfl⟩

omit [NeZero n] in
theorem beyond_retryConnect (elsewhere : Elsewhere w.network) (retry : Nat) :
    Beyond w (w.retryConnect retry) := by
  obtain ⟨outside, sent, queues⟩ := outside_retryConnect w retry
  exact ⟨elsewhere, outside, sent ▸ List.prefix_rfl, queues⟩

omit [NeZero n] in
theorem beyond_connect {established : Bool} (stepped : w.connect established = .ok w') :
    Beyond w w' := by
  unfold Worker.connect at stepped
  split at stepped
  next retry phase =>
    have elsewhere : Elsewhere w.network := by rw [phase]; trivial
    cases established with
    | true =>
        cases stepped
        exact ⟨elsewhere, trivial, List.prefix_append _ _, rfl⟩
    | false =>
        cases stepped
        exact beyond_retryConnect elsewhere retry
  next => cases stepped

omit [NeZero n] in
theorem beyond_acknowledge {reply : Option Message} {now : Nanoseconds}
    (stepped : w.acknowledge reply now = .ok w') : Beyond w w' := by
  unfold Worker.acknowledge at stepped
  split at stepped
  next retry phase =>
    have elsewhere : Elsewhere w.network := by rw [phase]; trivial
    cases reply with
    | some msg =>
        cases stepped
        exact ⟨elsewhere, trivial, List.prefix_rfl, rfl⟩
    | none =>
        cases stepped
        exact beyond_retryConnect elsewhere retry
  next => cases stepped

omit [NeZero n] in
theorem beyond_poll {outcome : PollOutcome} (stepped : w.poll outcome = .ok w') :
    Beyond w w' := by
  unfold Worker.poll at stepped
  split at stepped
  next phase =>
    have elsewhere : Elsewhere w.network := by rw [phase]; trivial
    split at stepped
    next =>
      cases outcome with
      | quiet =>
          cases stepped
          exact ⟨elsewhere, ⟨rfl, rfl⟩, List.prefix_rfl, rfl⟩
      | hangUp | failed =>
          cases stepped
          exact ⟨elsewhere, trivial, List.prefix_rfl, rfl⟩
      | rejected =>
          cases stepped
          exact ⟨elsewhere, elsewhere.outside, List.prefix_rfl, rfl⟩
      | message msg =>
          cases stepped
          unfold Worker.receive
          split
          next => exact ⟨elsewhere, trivial, List.prefix_rfl, rfl⟩
          next => exact ⟨elsewhere, elsewhere.outside, List.prefix_rfl, rfl⟩
    next =>
      cases stepped
      exact ⟨elsewhere, trivial, List.prefix_rfl, rfl⟩
  next => cases stepped

theorem beyond_push (stepped : w.push = .ok w') : Beyond w w' := by
  unfold Worker.push at stepped
  split at stepped
  next task idx retry phase =>
    have elsewhere : Elsewhere w.network := by rw [phase]; trivial
    split_ifs at stepped
    · cases stepped
      exact ⟨elsewhere, ⟨rfl, rfl⟩, List.prefix_rfl, rfl⟩
    · cases stepped
      exact ⟨elsewhere, trivial, List.prefix_rfl, rfl⟩
    · cases stepped
      exact ⟨elsewhere, trivial, List.prefix_rfl, rfl⟩
  next => cases stepped

omit [NeZero n] in
theorem beyond_beat {now later : Nanoseconds} {delivered : Bool}
    (stepped : w.beat now later delivered = .ok w') : Beyond w w' := by
  unfold Worker.beat at stepped
  split at stepped
  next phase =>
    have elsewhere : Elsewhere w.network := by rw [phase]; trivial
    split_ifs at stepped
    · cases stepped
      exact ⟨elsewhere, trivial, List.prefix_append _ _, rfl⟩
    · cases stepped
      exact ⟨elsewhere, trivial, List.prefix_rfl, rfl⟩
    · cases stepped
      exact ⟨elsewhere, trivial, List.prefix_rfl, rfl⟩
  next => cases stepped

omit [NeZero n] in
theorem beside_execution {thread : Fin n} {startedAt completedAt : Nanoseconds}
    (stepped : w.executionStep thread startedAt completedAt = .ok w') : Beside w w' := by
  unfold Worker.executionStep at stepped
  split at stepped
  next =>
    split_ifs at stepped
    · split at stepped
      all_goals
        cases stepped
        exact ⟨rfl, rfl, rfl, fun _ => .inl rfl⟩
    · cases stepped
      exact ⟨rfl, rfl, rfl, fun _ => .inl rfl⟩
  next =>
    split_ifs at stepped
    all_goals
      cases stepped
      exact ⟨rfl, rfl, rfl, fun _ => .inl rfl⟩
  next response _ =>
    split_ifs at stepped with room
    · cases stepped
      refine ⟨rfl, rfl, rfl, fun other => ?_⟩
      by_cases same : other = thread
      · subst same
        exact .inr ⟨room, response, Function.update_self ..⟩
      · exact .inl (Function.update_of_ne same ..)
    · cases stepped
      exact ⟨rfl, rfl, rfl, fun _ => .inl rfl⟩
  next => cases stepped

theorem apart_cases (apart : Apart action) (stepped : w.step action = .ok w') :
    Beside w w' ∨ Beyond w w' := by
  cases action with
  | drain | send => exact apart.elim
  | connect established => exact .inr (beyond_connect stepped)
  | acknowledge reply now => exact .inr (beyond_acknowledge stepped)
  | poll outcome => exact .inr (beyond_poll stepped)
  | push => exact .inr (beyond_push stepped)
  | beat now later delivered => exact .inr (beyond_beat stepped)
  | execution thread startedAt completedAt => exact .inl (beside_execution stepped)
  | stop =>
      cases stepped
      exact .inl ⟨rfl, rfl, rfl, fun _ => .inl rfl⟩

theorem sends_of_apart (apart : Apart action) : sends w action = none := by
  cases action with
  | drain | send => exact apart.elim
  | _ => rfl

theorem view_apart {thread : Fin n} (apart : Apart action) (stepped : d.step action = .ok d') :
    ReflTransGen (ServiceRounds.Step Config.workerOutPerThreadCap) (d.view thread)
      (d'.view thread) := by
  obtain ⟨moved, sentOf, passes⟩ := step_eq_ok stepped
  rw [sends_of_apart apart] at sentOf
  dsimp only at sentOf
  obtain ⟨network, lastStart, _, queues⟩ | ⟨elsewhere, outside, _, queues⟩ :=
    apart_cases apart moved
  · have sameTurn : turn d'.worker thread = turn d.worker thread := by
      rw [turn, turn, lastStart]
    have samePasses : d'.passes = d.passes := by
      have goesOn : endsPass d.worker d'.worker = false := by
        rw [endsPass, network]
        cases d.worker.network <;> rfl
      rw [passes, goesOn]
      rfl
    obtain same | ⟨_, response, grown⟩ := queues thread
    · have sameView : d'.view thread = d.view thread := by
        rw [view, view, pending, pending, sameTurn, network, same, sentOf, samePasses]
      rw [sameView]
    · have grownView : d'.view thread =
          { d.view thread with queue := (d.view thread).queue ++ [response] } := by
        rw [view, view, pending, pending, sameTurn, network, grown, sentOf, samePasses,
          List.append_assoc]
      rw [grownView]
      exact .single (.arrive response)
  · obtain ⟨hand, isOver, count⟩ := elsewhere.outside.view_parts (turn d.worker thread)
    obtain ⟨hand', isOver', count'⟩ := outside.view_parts (turn d'.worker thread)
    have samePasses : d'.passes = d.passes := by
      have goesOn : endsPass d.worker d'.worker = false := by
        unfold endsPass
        split
        next before _ =>
          rw [before] at elsewhere
          exact elsewhere.elim
        next => rfl
      rw [passes, goesOn]
      rfl
    have sameView : d'.view thread = d.view thread := by
      rw [view, view, pending, pending, hand, hand', isOver, isOver', count, count', queues, sentOf,
        samePasses]
    rw [sameView]

/-! ## The loop over the queues -/

omit [NeZero n] in
/-- The turn of a thread stays the same as long as the pass goes on. -/
theorem turn_of_lastStart (lastStart : w'.lastStart = w.lastStart) (thread : Fin n) :
    turn w' thread = turn w thread := by
  rw [turn, turn, lastStart]

/-- The head of the loop over the response queues. -/
theorem view_head {k total : Nat}
    (affordable : Config.workerOutPerThreadCap * n ≤ Config.workerOutBudget) (phase : d.worker.network = .draining k total)
    (paced : Paced d.worker.network) (stepped : d.step .drain = .ok d') (thread : Fin n) :
    ReflTransGen (ServiceRounds.Step Config.workerOutPerThreadCap) (d.view thread)
      (d'.view thread) ∧ Paced d'.worker.network := by
  obtain ⟨moved, sentOf, passes⟩ := step_eq_ok stepped
  change d'.sentOf = d.sentOf at sentOf
  rw [phase] at paced
  obtain ⟨bounded, slow⟩ := paced
  rw [view_draining thread phase]
  simp only [Worker.step, Worker.drain, phase] at moved
  split_ifs at moved with goesOn
  · have worker := (Except.ok.inj moved).symm
    have network : d'.worker.network = .popping k total 0 := by rw [worker]
    have same : turn d'.worker thread = turn d.worker thread :=
      turn_of_lastStart (by rw [worker]) thread
    have queues : d'.worker.responseQueues = d.worker.responseQueues := by rw [worker]
    rw [endsPass, phase, network] at passes
    change d'.passes = d.passes at passes
    rw [network, view_popping thread network, same, queues, sentOf, passes]
    refine ⟨?_, goesOn.1, slow, by decide⟩
    split
    next => exact .single (.start rfl)
    next => exact .refl
  · have worker := (Except.ok.inj moved).symm
    have network : d'.worker.network = .beating := by rw [worker]
    have queues : d'.worker.responseQueues = d.worker.responseQueues := by rw [worker]
    have last : k = n := by
      by_contra inside
      have room : k < n := by omega
      refine goesOn ⟨room, ?_⟩
      simp only [Config.workerOutPerThreadCap, Config.workerOutBudget] at affordable slow ⊢
      omega
    have ended : turn d.worker thread < k := last ▸ (thread - d.worker.lastStart).isLt
    rw [endsPass, phase, network] at passes
    change d'.passes = d.passes + 1 at passes
    have elsewhere : Elsewhere d'.worker.network := by
      rw [network]
      trivial
    rw [view_elsewhere thread elsewhere, network, queues, sentOf, passes]
    simp only [ended, decide_true, Bool.toNat_true]
    exact ⟨.refl, trivial⟩

/-- The pop in the loop over the response queues. -/
theorem view_pop {k total localTotal : Nat}
    (phase : d.worker.network = .popping k total localTotal) (paced : Paced d.worker.network)
    (stepped : d.step .drain = .ok d') (thread : Fin n) :
    ReflTransGen (ServiceRounds.Step Config.workerOutPerThreadCap) (d.view thread)
      (d'.view thread) ∧ Paced d'.worker.network := by
  obtain ⟨moved, sentOf, passes⟩ := step_eq_ok stepped
  change d'.sentOf = d.sentOf at sentOf
  rw [phase] at paced
  obtain ⟨inside, slow, short⟩ := paced
  have place := drained_eq_iff (w := d.worker) inside thread
  rw [view_popping thread phase]
  simp only [Worker.step, Worker.drain, phase] at moved
  split at moved
  next empty =>
    have worker := (Except.ok.inj moved).symm
    have network : d'.worker.network = .draining (k + 1) total := by rw [worker]
    have same : turn d'.worker thread = turn d.worker thread :=
      turn_of_lastStart (by rw [worker]) thread
    have queues : d'.worker.responseQueues = d.worker.responseQueues := by rw [worker]
    rw [endsPass, phase] at passes
    change d'.passes = d.passes at passes
    rw [network, view_draining thread network, same, queues, sentOf, passes]
    refine ⟨?_, inside, ?_⟩
    · by_cases here : k = turn d.worker thread
      · rw [place.mpr here] at empty
        have before : ¬ turn d.worker thread < k := by omega
        have after : turn d.worker thread < k + 1 := by omega
        rw [if_pos here, decide_eq_false before, decide_eq_true after]
        exact .single (.finish rfl (.inr empty))
      · have still : turn d.worker thread < k + 1 ↔ turn d.worker thread < k := by omega
        simp only [if_neg here, still]
        exact .refl
    · rw [Nat.mul_succ]
      omega
  next response rest front =>
    have worker := (Except.ok.inj moved).symm
    have network : d'.worker.network = .sending response k total localTotal := by rw [worker]
    have same : turn d'.worker thread = turn d.worker thread :=
      turn_of_lastStart (by rw [worker]) thread
    rw [endsPass, phase] at passes
    change d'.passes = d.passes at passes
    have queue : (if k = turn d.worker thread then [response] else []) ++
        d'.worker.responseQueues thread = d.worker.responseQueues thread := by
      rw [worker]
      by_cases here : k = turn d.worker thread
      · have served := place.mpr here
        rw [served] at front
        rw [if_pos here, front]
        simp only [served, Function.update_self, List.singleton_append]
      · have other : thread ≠ d.worker.drained k := fun same => here (place.mp same.symm)
        rw [if_neg here, List.nil_append]
        exact Function.update_of_ne other ..
    rw [network, view_sending thread network, same, queue, sentOf, passes]
    exact ⟨.refl, inside, slow, short⟩

/-- The send in the loop over the response queues, when it succeeds. -/
theorem view_send {response : CompleteMsg} {k total localTotal : Nat}
    (affordable : Config.workerOutPerThreadCap * n ≤ Config.workerOutBudget)
    (phase : d.worker.network = .sending response k total localTotal)
    (paced : Paced d.worker.network) (stepped : d.step (.send true) = .ok d') (thread : Fin n) :
    ReflTransGen (ServiceRounds.Step Config.workerOutPerThreadCap) (d.view thread)
      (d'.view thread) ∧ Paced d'.worker.network := by
  obtain ⟨moved, sentOf, passes⟩ := step_eq_ok stepped
  rw [phase] at paced
  obtain ⟨inside, slow, short⟩ := paced
  have place := drained_eq_iff (w := d.worker) inside thread
  rw [view_sending thread phase]
  simp only [Worker.step, Worker.send, phase, if_true] at moved
  have worker := (Except.ok.inj moved).symm
  have same : turn d'.worker thread = turn d.worker thread :=
    turn_of_lastStart (by rw [worker]) thread
  have queues : d'.worker.responseQueues = d.worker.responseQueues := by rw [worker]
  rw [endsPass, phase] at passes
  change d'.passes = d.passes at passes
  simp only [sends, phase] at sentOf
  by_cases done : total + 1 ≥ Config.workerOutBudget ∨
      localTotal + 1 ≥ Config.workerOutPerThreadCap
  · have network : d'.worker.network = .draining (k + 1) (total + 1) := by
      rw [worker]
      exact if_pos done
    have full : Config.workerOutPerThreadCap ≤ localTotal + 1 := by
      simp only [Config.workerOutPerThreadCap, Config.workerOutBudget]
        at affordable slow done ⊢
      omega
    have next : total + 1 ≤ Config.workerOutPerThreadCap * (k + 1) := by
      rw [Nat.mul_succ]
      omega
    rw [network, view_draining thread network, same, queues, passes, sentOf]
    refine ⟨?_, inside, next⟩
    by_cases here : k = turn d.worker thread
    · have before : ¬ turn d.worker thread < k := by omega
      have after : turn d.worker thread < k + 1 := by omega
      rw [if_pos here, if_pos here, decide_eq_false before, decide_eq_true after, place.mpr here,
        Function.update_self]
      exact (ReflTransGen.single (.serve rfl rfl)).tail (.finish rfl (.inl full))
    · have other : thread ≠ d.worker.drained k := fun same => here (place.mp same.symm)
      have still : turn d.worker thread < k + 1 ↔ turn d.worker thread < k := by omega
      rw [if_neg here, if_neg here, Function.update_of_ne other]
      simp only [still]
      exact .refl
  · have network : d'.worker.network = .popping k (total + 1) (localTotal + 1) := by
      rw [worker]
      exact if_neg done
    rw [network, view_popping thread network, same, queues, passes, sentOf]
    refine ⟨?_, inside, by omega, by omega⟩
    by_cases here : k = turn d.worker thread
    · rw [if_pos here, if_pos here, if_pos here, place.mpr here, Function.update_self]
      exact .single (.serve rfl rfl)
    · have other : thread ≠ d.worker.drained k := fun same => here (place.mp same.symm)
      rw [if_neg here, if_neg here, if_neg here, Function.update_of_ne other]
      exact .refl

/-! ## Whole runs -/

/-- The message in which a response is sent. -/
def report (response : CompleteMsg) : Message :=
  { body := .complete response }

/-- What holds of a worker at all times. -/
structure Regular (d : DrainedWorker n) : Prop where
  paced : Paced d.worker.network
  short : ∀ thread, (d.worker.responseQueues thread).length ≤ Config.workerQueueCapacity
  sent : ∀ thread, ((d.sentOf thread).map report).Sublist d.worker.sent

omit [NeZero n] in
/-- No queue holds more than its capacity, and one more response may be in hand. -/
theorem Regular.length_pending (regular : Regular d) (thread : Fin n) :
    (d.pending thread).length ≤ Config.workerQueueCapacity + 1 := by
  have short := regular.short thread
  have hand : (inHand (turn d.worker thread) d.worker.network).length ≤ 1 := by
    unfold inHand
    split
    next => split <;> simp
    next => exact Nat.zero_le 1
  rw [pending, List.length_append]
  omega

theorem regular_init (now : Nanoseconds) : Regular (init now : DrainedWorker n) where
  paced := trivial
  short := fun _ => Nat.zero_le _
  sent := fun _ => List.Sublist.slnil

theorem Regular.apart (regular : Regular d) (apart : Apart action)
    (stepped : d.step action = .ok d') : Regular d' := by
  obtain ⟨moved, sentOf, _⟩ := step_eq_ok stepped
  rw [sends_of_apart apart] at sentOf
  change d'.sentOf = d.sentOf at sentOf
  obtain ⟨network, _, sent, queues⟩ | ⟨_, outside, sent, queues⟩ := apart_cases apart moved
  · refine ⟨network ▸ regular.paced, fun thread => ?_, fun thread => ?_⟩
    · obtain same | ⟨room, response, grown⟩ := queues thread
      · rw [same]
        exact regular.short thread
      · rw [grown, List.length_append]
        exact room
    · rw [sentOf, sent]
      exact regular.sent thread
  · refine ⟨outside.paced, fun thread => ?_, fun thread => ?_⟩
    · rw [queues]
      exact regular.short thread
    · rw [sentOf]
      exact (regular.sent thread).trans sent.sublist

theorem drain_frame (stepped : w.drain = .ok w') :
    w'.sent = w.sent ∧ ∀ thread, w'.responseQueues thread <:+ w.responseQueues thread := by
  unfold Worker.drain at stepped
  split at stepped
  next =>
    split_ifs at stepped
    all_goals
      cases stepped
      exact ⟨rfl, fun _ => List.suffix_rfl⟩
  next k _ _ _ =>
    split at stepped
    next =>
      cases stepped
      exact ⟨rfl, fun _ => List.suffix_rfl⟩
    next response rest front =>
      cases stepped
      refine ⟨rfl, fun thread => ?_⟩
      by_cases here : thread = w.drained k
      · subst here
        simp only [Function.update_self, front]
        exact List.suffix_cons _ _
      · have kept : Function.update w.responseQueues (w.drained k) rest thread =
            w.responseQueues thread := Function.update_of_ne here ..
        simp only [kept]
        exact List.suffix_rfl
  next => cases stepped

/-- A step of the pass over the queues. -/
theorem regular_drain (affordable : Config.workerOutPerThreadCap * n ≤ Config.workerOutBudget)
    (regular : Regular d) (stepped : d.step .drain = .ok d') (thread : Fin n) :
    ReflTransGen (ServiceRounds.Step Config.workerOutPerThreadCap) (d.view thread)
      (d'.view thread) ∧ Regular d' := by
  obtain ⟨moved, sentOf, _⟩ := step_eq_ok stepped
  change d'.sentOf = d.sentOf at sentOf
  obtain ⟨sent, queues⟩ := drain_frame moved
  have short : ∀ other, (d'.worker.responseQueues other).length ≤ Config.workerQueueCapacity :=
    fun other => (queues other).length_le.trans (regular.short other)
  have recorded : ∀ other, ((d'.sentOf other).map report).Sublist d'.worker.sent := by
    rw [sentOf, sent]
    exact regular.sent
  have pass : ReflTransGen (ServiceRounds.Step Config.workerOutPerThreadCap) (d.view thread)
      (d'.view thread) ∧ Paced d'.worker.network := by
    cases phase : d.worker.network with
    | draining => exact view_head affordable phase regular.paced stepped thread
    | popping => exact view_pop phase regular.paced stepped thread
    | _ =>
        simp only [Worker.step, Worker.drain, phase] at moved
        cases moved
  exact ⟨pass.1, pass.2, short, recorded⟩

/-- A response has been sent. -/
theorem regular_send (affordable : Config.workerOutPerThreadCap * n ≤ Config.workerOutBudget)
    (regular : Regular d) (stepped : d.step (.send true) = .ok d') (thread : Fin n) :
    ReflTransGen (ServiceRounds.Step Config.workerOutPerThreadCap) (d.view thread)
      (d'.view thread) ∧ Regular d' := by
  obtain ⟨moved, sentOf, _⟩ := step_eq_ok stepped
  cases phase : d.worker.network with
  | sending response k total localTotal =>
      obtain ⟨pass, paced⟩ := view_send affordable phase regular.paced stepped thread
      simp only [Worker.step, Worker.send, phase, if_true] at moved
      have worker := (Except.ok.inj moved).symm
      have queues : d'.worker.responseQueues = d.worker.responseQueues := by rw [worker]
      have sent : d'.worker.sent = d.worker.sent ++ [report response] := by
        rw [worker]
        rfl
      simp only [sends, phase] at sentOf
      refine ⟨pass, paced, queues ▸ regular.short, fun other => ?_⟩
      rw [sentOf, sent]
      by_cases here : other = d.worker.drained k
      · subst here
        rw [Function.update_self, List.map_append]
        exact (regular.sent _).append_right _
      · rw [Function.update_of_ne here]
        exact (regular.sent other).trans (List.sublist_append_left _ _)
  | _ =>
      simp only [Worker.step, Worker.send, phase] at moved
      cases moved

/-- The network thread has come to an end, with the ghosts as they were. -/
structure Ended (d d' : DrainedWorker n) : Prop where
  stopped : d'.worker.network = .stopped
  sentOf : d'.sentOf = d.sentOf
  passes : d'.passes = d.passes

/-- A response could not be sent: it is lost, and the network thread gives up. -/
theorem regular_giveUp (regular : Regular d) (stepped : d.step (.send false) = .ok d') :
    Ended d d' ∧ Regular d' := by
  obtain ⟨moved, sentOf, passes⟩ := step_eq_ok stepped
  change d'.sentOf = d.sentOf at sentOf
  cases phase : d.worker.network with
  | sending response k total localTotal =>
      simp only [Worker.step, Worker.send, phase] at moved
      have worker : d'.worker = d.worker.giveUp := (Except.ok.inj moved).symm
      rw [endsPass, phase] at passes
      refine ⟨⟨by rw [worker]; rfl, sentOf, passes⟩, ?_⟩
      refine ⟨by rw [worker]; trivial, by rw [worker]; exact regular.short, ?_⟩
      rw [worker, sentOf]
      exact regular.sent
  | _ =>
      simp only [Worker.step, Worker.send, phase] at moved
      cases moved

/-- A network thread that has come to an end stays there. -/
theorem ended_of_stopped (phase : d.worker.network = .stopped)
    (stepped : d.step action = .ok d') : Ended d d' := by
  obtain ⟨moved, sentOf, passes⟩ := step_eq_ok stepped
  rw [endsPass, phase] at passes
  have silent : sends d.worker action = none := by
    unfold sends
    split
    next => rw [phase]
    next => rfl
  rw [silent] at sentOf
  refine ⟨?_, sentOf, passes⟩
  cases action with
  | execution => exact (beside_execution moved).network.trans phase
  | stop =>
      rw [← Except.ok.inj moved]
      exact phase
  | _ =>
      simp only [Worker.step, Worker.connect, Worker.acknowledge, Worker.poll, Worker.push,
        Worker.drain, Worker.send, Worker.beat, phase] at moved
      cases moved

/-- The service of one queue since `start`, as far as the network thread has come. -/
structure Serviced (thread : Fin n) (start : ServiceRounds.State CompleteMsg)
    (d : DrainedWorker n) : Prop where
  regular : Regular d
  service : ∃ s, ReflTransGen (ServiceRounds.Step Config.workerOutPerThreadCap) start s ∧
    s.served = d.sentOf thread ∧ d.passes ≤ s.rounds ∧
    (d.worker.network ≠ .stopped → s = d.view thread)

variable {thread : Fin n} {start : ServiceRounds.State CompleteMsg}

omit [NeZero n] in
theorem Serviced.advance (serviced : Serviced thread start d) (regular : Regular d')
    (going : d.worker.network ≠ .stopped)
    (steps : ReflTransGen (ServiceRounds.Step Config.workerOutPerThreadCap) (d.view thread)
      (d'.view thread)) : Serviced thread start d' := by
  obtain ⟨s, reached, _, _, same⟩ := serviced.service
  rw [same going] at reached
  exact ⟨regular, d'.view thread, reached.trans steps, rfl, Nat.le_add_right _ _, fun _ => rfl⟩

omit [NeZero n] in
theorem Serviced.ended (serviced : Serviced thread start d) (regular : Regular d')
    (ended : Ended d d') : Serviced thread start d' := by
  obtain ⟨s, reached, served, rounds, _⟩ := serviced.service
  refine ⟨regular, s, reached, ?_, ?_, fun going => (going ended.stopped).elim⟩
  · rw [ended.sentOf]
    exact served
  · rw [ended.passes]
    exact rounds

theorem Serviced.step (affordable : Config.workerOutPerThreadCap * n ≤ Config.workerOutBudget)
    (serviced : Serviced thread start d) (stepped : d.step action = .ok d') :
    Serviced thread start d' := by
  have moves (going : ReflTransGen (ServiceRounds.Step Config.workerOutPerThreadCap)
      (d.view thread) (d'.view thread)) (regular : Regular d') : Serviced thread start d' := by
    by_cases stopped : d.worker.network = .stopped
    · exact serviced.ended regular (ended_of_stopped stopped stepped)
    · exact serviced.advance regular stopped going
  by_cases apart : Apart action
  · exact moves (view_apart apart stepped) (serviced.regular.apart apart stepped)
  cases action with
  | drain =>
      obtain ⟨steps, regular⟩ := regular_drain affordable serviced.regular stepped thread
      exact moves steps regular
  | send delivered =>
      cases delivered with
      | true =>
          obtain ⟨steps, regular⟩ := regular_send affordable serviced.regular stepped thread
          exact moves steps regular
      | false =>
          obtain ⟨ended, regular⟩ := regular_giveUp serviced.regular stepped
          exact serviced.ended regular ended
  | _ => exact (apart trivial).elim

/-- The command line admits no more execution threads than the two limits allow for. -/
theorem affordable_of_validateWorkers (workers : UInt64)
    (valid : CommandLine.validateWorkers workers = .ok ()) :
    Config.workerOutPerThreadCap * workers.toNat ≤ Config.workerOutBudget := by
  have most : workers.toNat ≤ 8 :=
    UInt64.le_iff_toNat_le.mp (CommandLine.validateCount_eq_ok.mp valid).2
  calc Config.workerOutPerThreadCap * workers.toNat
    _ ≤ Config.workerOutPerThreadCap * 8 := Nat.mul_le_mul_left _ most
    _ ≤ Config.workerOutBudget := by decide

/-- The number of passes for a full queue and one response in hand: the pass that is under way, the
one after it, and nine in which eight responses are sent. -/
def passesToDrain : Nat := 11

/-- All responses that wait for the network thread have been sent once it has ended eleven more
passes, in the order in which the execution thread has produced them.  This holds in every state
of a worker whose execution threads are few enough for the limits, as `validate_workers` makes
sure: they are eight at most. -/
theorem responses_sent_within_passes {now : Nanoseconds} {before after : List (WorkerAction n)}
    (affordable : Config.workerOutPerThreadCap * n ≤ Config.workerOutBudget)
    (reached : Transition.run step (init now) before = .ok d)
    (ran : Transition.run step d after = .ok d') (thread : Fin n)
    (passed : d.passes + passesToDrain ≤ d'.passes) :
    d.sentOf thread ++ d.pending thread <+: d'.sentOf thread ∧
      ((d'.sentOf thread).map report).Sublist d'.worker.sent := by
  have always (start : ServiceRounds.State CompleteMsg) :
      Preserves step (fun (_ : DrainedWorker n) _ => True) (Serviced thread start) :=
    fun _ _ _ serviced _ stepped => serviced.step affordable stepped
  have regular : Regular d := by
    have fresh : Serviced thread ((init now).view thread) (init now : DrainedWorker n) :=
      ⟨regular_init now, _, .refl, rfl, Nat.le_add_right _ _, fun _ => rfl⟩
    exact ((always _).run fresh (along_of_forall fun _ _ => trivial) reached).regular
  have begun : Serviced thread (d.view thread) d :=
    ⟨regular, _, .refl, rfl, Nat.le_add_right _ _, fun _ => rfl⟩
  have done := (always _).run begun (along_of_forall fun _ _ => trivial) ran
  obtain ⟨s, steps, served, rounds, _⟩ := done.service
  have short : (d.view thread).queue.length ≤ Config.workerOutPerThreadCap * 9 :=
    (regular.length_pending thread).trans (by decide)
  have started : (d.view thread).rounds ≤ d.passes + 1 :=
    Nat.add_le_add_left (Bool.toNat_le _) _
  have ended : (d.view thread).rounds + 1 + 9 ≤ s.rounds := by
    rw [passesToDrain] at passed
    omega
  have within := ServiceRounds.served_within steps short ended
  rw [served] at within
  exact ⟨within, done.regular.sent thread⟩

/-- A pass of a worker with two execution threads in which so many responses of each are sent. -/
def passSending (count : Nat) : List (WorkerAction 2) :=
  let responses := (List.replicate count [.drain, .send true]).flatten
  -- Below the limit the loop over a queue ends when the queue is found to be empty.
  let queue := [.drain] ++ responses ++
    if count < Config.workerOutPerThreadCap then [.drain] else []
  queue ++ queue ++ [.drain, .beat 0 0 true]

/-- Each thread has executed ten synthetic tasks, and none of the responses has been sent.  One
pass sends eight of each, and the next one sends the others. -/
theorem twenty_responses_sent_within_passes :
    let assigned (k : Nat) : List (WorkerAction 2) :=
      [.poll (.message { body := .assign { taskId := .ofNat k } }), .push] ++ passSending 0
    let executed (thread : Fin 2) : List (WorkerAction 2) :=
      List.replicate 30 (.execution thread 1 2)
    let answers := [.connect true, .acknowledge (some { body := .acknowledge 0 }) 0] ++
      (List.range 20).flatMap assigned ++ executed 0 ++ executed 1
    let firstPass := .poll .quiet :: passSending 8
    let otherPasses := .poll .quiet :: passSending 2 ++
      (List.replicate 9 (.poll .quiet :: passSending 0)).flatten
    ∃ d between d', Transition.run step (init 0) answers = .ok d ∧
      Transition.run step d firstPass = .ok between ∧
      Transition.run step d (firstPass ++ otherPasses) = .ok d' ∧
      ∀ thread, (d.pending thread).length = 10 ∧ (between.pending thread).length = 2 ∧
        d.sentOf thread ++ d.pending thread <+: d'.sentOf thread := by
  intro assigned executed answers firstPass otherPasses
  have runs : ∃ d, Transition.run step (init 0) answers = .ok d ∧
      ∃ between, Transition.run step d firstPass = .ok between ∧
        ∃ d', Transition.run step d (firstPass ++ otherPasses) = .ok d' ∧
          (∀ thread, (d.pending thread).length = 10 ∧ (between.pending thread).length = 2) ∧
          d.passes + passesToDrain ≤ d'.passes := by
    decide +kernel
  obtain ⟨d, reached, between, begun, d', ran, waiting, passed⟩ := runs
  refine ⟨d, between, d', reached, begun, ran, fun thread => ?_⟩
  have affordable : Config.workerOutPerThreadCap * 2 ≤ Config.workerOutBudget :=
    affordable_of_validateWorkers 2 rfl
  have within := responses_sent_within_passes affordable reached ran thread passed
  exact ⟨(waiting thread).1, (waiting thread).2, within.1⟩

end DrainedWorker

end TaskCoordinator
