import TaskCoordinator.Library.Failover
import TaskCoordinator.Router.Agreement

/-!
# Failover of the router

All threads of a router share the `active_target_` of each shard.  A thread loads it, tries that
coordinator and then the other one, and moves `active_target_` by `compare_exchange_strong` if
the other one has answered.  Between its load, the response and the exchange, other threads load
and move it too, so a thread may carry out an exchange that has been overtaken.

Here the threads of `TaskCoordinator.Router` run side by side, with a step of its own for the
exchange.  From the moment at which one coordinator of a shard answers and the other one does not,
the threads are processes of `Failover`.  This bounds how often the router can still change its
mind about the shard, and how many attempts of a thread are still wasted on the coordinator that
does not answer.
-/

namespace TaskCoordinator

namespace Router

open Transition Failover

/-! ## The threads of a router -/

/-- A thread of the router. -/
inductive PoolThread where
  | serving (thread : RouterThread)
  /-- The fallback has answered, and `compare_exchange_strong` comes next. -/
  | exchanging (thread : RouterThread) (attempt : Attempt) (response : Message)

/-- The next call of a thread, with its outcome. -/
inductive Call where
  /-- The receive from the client. -/
  | receive (request : Option Message)
  /-- The load of `active_target_`. -/
  | load
  /-- `connect` in `try_connection`. -/
  | connect (accepted : Bool)
  /-- The send in `try_connection`. -/
  | send (sent : Bool)
  /-- The receive in `try_connection`. -/
  | await (response : Option Message)
  | exchange
  /-- The send to the client. -/
  | answer (sent : Bool)

/-- `shards_`, of which only `active_target_` changes, and the threads in `workers_`. -/
structure RouterPool where
  activeTarget : Nat → ActiveTarget
  threads : List PoolThread

inductive PoolEvent where
  /-- A client connects; the argument is the hash of the id of its thread. -/
  | accept (hash : Nat)
  | call (thread : Nat) (call : Call)

variable (numShards : Nat)

/-- `try_connection` returns true: what follows depends on whether it was the second call. -/
def afterSuccess (thread : RouterThread) (attempt : Attempt) (response : Message) : PoolThread :=
  if attempt.fallback then
    .exchanging thread attempt response
  else
    .serving (thread.succeeded numShards response)

/-- A call of a thread that is not at its exchange.  Most calls are made in one phase only. -/
def serve (thread : RouterThread) (activeTarget : Nat → ActiveTarget) : Call → Option PoolThread
  | .receive request =>
      match thread.phase with
      | .receiving =>
          match request with
          | some request => some (.serving (thread.begin request.submit))
          | none => some (.serving thread.stop)
      | _ => none
  | .load =>
      match thread.phase with
      | .loading request retry attempt =>
          let shard := (thread.routingIndex + attempt) % numShards
          some (.serving (thread.loaded request retry attempt (activeTarget shard)))
      | _ => none
  | .connect accepted =>
      match thread.phase with
      | .trying attempt _ =>
          let endpoint := thread.endpoint numShards attempt
          if thread.links endpoint then
            none
          else if accepted then
            some (.serving (thread.setLink endpoint true))
          else
            some (.serving (thread.failed numShards attempt))
      | _ => none
  | .send sent =>
      match thread.phase with
      | .trying attempt again =>
          let endpoint := thread.endpoint numShards attempt
          if thread.links endpoint then
            if sent then
              some (.serving (thread.sent attempt))
            else
              some (.serving
                ((thread.setLink endpoint false).sendFailed numShards attempt again))
          else
            none
      | _ => none
  | .await response =>
      match thread.phase with
      | .awaiting attempt =>
          match response with
          | some response => some (afterSuccess numShards thread attempt response)
          | none =>
              let endpoint := thread.endpoint numShards attempt
              some (.serving ((thread.setLink endpoint false).failed numShards attempt))
      | _ => none
  | .exchange => none
  | .answer sent =>
      match thread.phase with
      | .answering _ =>
          if sent then some (.serving thread.answered) else some (.serving thread.stop)
      | _ => none

/-- `compare_exchange_strong`. -/
def exchange (activeTarget : Nat → ActiveTarget) (shard : Nat) (expected : ActiveTarget) :
    Nat → ActiveTarget :=
  if activeTarget shard = expected then
    Function.update activeTarget shard expected.other
  else
    activeTarget

/-- A call of a thread: what becomes of `active_target_` and of the thread. -/
def PoolThread.call (activeTarget : Nat → ActiveTarget) :
    PoolThread → Call → Option ((Nat → ActiveTarget) × PoolThread)
  | .serving thread, call =>
      (serve numShards thread activeTarget call).map (activeTarget, ·)
  | .exchanging thread attempt response, .exchange =>
      let shard := (thread.endpoint numShards attempt).shard
      some (exchange activeTarget shard attempt.current,
        .serving (thread.succeeded numShards response))
  | .exchanging _ _ _, _ => none

namespace RouterPool

/-- One step of the router: a client connects, or a thread makes its next call.  A call that is
not the next one of the thread is refused. -/
def step (pool : RouterPool) : PoolEvent → Except Unit RouterPool
  | .accept hash =>
      .ok { pool with
        threads := pool.threads ++ [.serving (RouterThread.start (hash % numShards))] }
  | .call index call =>
      match pool.threads[index]? with
      | some thread =>
          match thread.call numShards pool.activeTarget call with
          | some (activeTarget, thread') =>
              .ok { activeTarget, threads := pool.threads.set index thread' }
          | none => .error ()
      | none => .error ()

end RouterPool

/-! ## The thread by itself -/

/-- The thread without the step for the exchange, which changes nothing of the thread. -/
def PoolThread.base : PoolThread → RouterThread
  | .serving thread => thread
  | .exchanging thread _ response => thread.succeeded numShards response

theorem base_afterSuccess (thread : RouterThread) (attempt : Attempt) (response : Message) :
    (afterSuccess numShards thread attempt response).base numShards =
      thread.succeeded numShards response := by
  unfold afterSuccess
  split <;> rfl

/-- Between the receive of a request and the send of its answer a thread of the router takes the
steps of `ThreadStep`, and its exchange is a step of `active_target_` alone. -/
theorem call_base {activeTarget activeTarget' : Nat → ActiveTarget} {thread thread' : PoolThread}
    {call : Call} (called : thread.call numShards activeTarget call = some (activeTarget', thread'))
    (notReceive : ∀ request, call ≠ .receive request) (notAnswer : ∀ sent, call ≠ .answer sent) :
    ThreadStep numShards (thread.base numShards) (thread'.base numShards) ∨
      call = .exchange ∧ thread'.base numShards = thread.base numShards := by
  cases thread with
  | exchanging thread attempt response =>
      cases call with
      | exchange =>
          cases called
          exact .inr ⟨rfl, rfl⟩
      | _ => cases called
  | serving thread =>
      obtain ⟨thread', served, made⟩ := Option.map_eq_some_iff.mp called
      cases made
      refine .inl ?_
      cases call with
      | receive request => exact absurd rfl (notReceive request)
      | answer sent => exact absurd rfl (notAnswer sent)
      | exchange => cases served
      | load =>
          simp only [serve] at served
          split at served
          next phase =>
            cases served
            exact .load phase _
          next => cases served
      | connect accepted =>
          simp only [serve] at served
          split at served
          next phase =>
            split_ifs at served with isOpen made <;> cases served
            · exact .connect phase (Bool.eq_false_iff.mpr isOpen)
            · exact .connectFailed phase (Bool.eq_false_iff.mpr isOpen)
          next => cases served
      | send sent =>
          simp only [serve] at served
          split at served
          next phase =>
            split_ifs at served with isOpen made <;> cases served
            · exact .send phase isOpen
            · exact .sendFailed phase isOpen
          next => cases served
      | await response =>
          simp only [serve] at served
          split at served
          next phase =>
            cases response with
            | some response =>
                cases served
                rw [base_afterSuccess]
                exact .receive phase response
            | none =>
                cases served
                exact .receiveFailed phase
          next => cases served

/-! ## Calls of `try_connection` -/

/-- The return of `try_connection` that a call of a thread leads to, with its coordinator. -/
def returned (thread : RouterThread) : Call → Option (Endpoint × Bool)
  | .connect accepted =>
      match thread.phase with
      | .trying attempt _ =>
          if accepted then none else some (thread.endpoint numShards attempt, false)
      | _ => none
  | .send sent =>
      match thread.phase with
      | .trying attempt again =>
          if again && !sent then some (thread.endpoint numShards attempt, false) else none
      | _ => none
  | .await response =>
      match thread.phase with
      | .awaiting attempt => some (thread.endpoint numShards attempt, response.isSome)
      | _ => none
  | .receive _ | .load | .exchange | .answer _ => none

/-- A thread between its load and the end of the two attempts or the exchange that follow, as a
process that fails over between the coordinators of a shard. -/
def place (shard : Nat) (thread : RouterThread) : Place ActiveTarget :=
  match thread.phase with
  | .trying attempt _ | .awaiting attempt =>
      if (thread.endpoint numShards attempt).shard = shard then
        if attempt.fallback then .second attempt.current else .first attempt.current
      else
        .idle
  | _ => .idle

def PoolThread.returned : PoolThread → Call → Option (Endpoint × Bool)
  | .serving thread, call => Router.returned numShards thread call
  | .exchanging _ _ _, _ => none

def PoolThread.place (shard : Nat) : PoolThread → Place ActiveTarget
  | .serving thread => Router.place numShards shard thread
  | .exchanging thread attempt _ =>
      if (thread.endpoint numShards attempt).shard = shard then
        .exchanging attempt.current
      else
        .idle

namespace RouterPool

/-- The thread, the coordinator and the result of the call of `try_connection` that returns. -/
def returned (pool : RouterPool) : PoolEvent → Option (Nat × Endpoint × Bool)
  | .accept _ => none
  | .call index call => do
      let thread ← pool.threads[index]?
      let (endpoint, success) ← thread.returned numShards call
      return (index, endpoint, success)

/-- Of the two coordinators of the shard, the live one answers every request and the other one
answers none. -/
def Serves (shard : Nat) (live : ActiveTarget) (pool : RouterPool) (event : PoolEvent) : Prop :=
  ∀ ended ∈ pool.returned numShards event,
    ended.2.1.shard = shard → (ended.2.2 = true ↔ ended.2.1.target = live)

instance (shard : Nat) (live : ActiveTarget) (pool : RouterPool) (event : PoolEvent) :
    Decidable (Serves numShards shard live pool event) :=
  inferInstanceAs (Decidable (∀ ended ∈ pool.returned numShards event,
    ended.2.1.shard = shard → (ended.2.2 = true ↔ ended.2.1.target = live)))

/-- The step moves the `active_target_` of the shard. -/
def moves (shard : Nat) (pool : RouterPool) (_ : PoolEvent) (next : RouterPool) : Nat :=
  if next.activeTarget shard = pool.activeTarget shard then 0 else 1

/-- The step ends an attempt of a thread that the coordinator has not answered. -/
def wasted (endpoint : Endpoint) (index : Nat) (pool : RouterPool) (event : PoolEvent)
    (_ : RouterPool) : Nat :=
  if pool.returned numShards event = some (index, endpoint, false) then 1 else 0

/-- The threads that are about to move `active_target_` away from a coordinator. -/
def overtaken (shard : Nat) (live : ActiveTarget) (pool : RouterPool) : Nat :=
  (pool.threads.map (PoolThread.place numShards shard)).count (.exchanging live)

end RouterPool

/-! ## The router fails over -/

/-- The two coordinators of a shard. -/
def coordinators : Pair ActiveTarget where
  other := ActiveTarget.other
  other_ne target := by cases target <;> decide
  eq_or_eq_other target choice := by cases target <;> cases choice <;> decide

variable {numShards}

/-- The router as a system that fails over between the coordinators of a shard. -/
def RouterPool.view (numShards shard : Nat) (pool : RouterPool) : Failover.State ActiveTarget where
  active := pool.activeTarget shard
  places := pool.threads.map (PoolThread.place numShards shard)

/-- The place of a thread in an attempt: `here` if the attempt is about the shard. -/
def placed (numShards shard : Nat) (thread : RouterThread) (attempt : Attempt)
    (here : Place ActiveTarget) : Place ActiveTarget :=
  if (thread.endpoint numShards attempt).shard = shard then here else .idle

variable {shard : Nat} {thread : RouterThread} {attempt : Attempt}

/-- Where a thread is while it makes an attempt. -/
def attempting (attempt : Attempt) : Place ActiveTarget :=
  if attempt.fallback then .second attempt.current else .first attempt.current

/-- Where it is when the attempt has ended. -/
def attempted (attempt : Attempt) : Bool → Place ActiveTarget
  | true => if attempt.fallback then .exchanging attempt.current else .idle
  | false => if attempt.fallback then .idle else .second attempt.current

theorem place_nextRound (request : SubmitMsg) (retry index : Nat) :
    place numShards shard (thread.nextRound numShards request retry index) = .idle := by
  unfold RouterThread.nextRound
  split_ifs <;> rfl

/-- Where a thread is after an attempt that has failed. -/
theorem place_failed :
    place numShards shard (thread.failed numShards attempt) =
      placed numShards shard thread attempt (attempted attempt false) := by
  unfold RouterThread.failed placed attempted
  cases attempt.fallback with
  | true =>
      simp only [if_true, ite_self]
      exact place_nextRound attempt.request attempt.retry attempt.attempt
  | false => rfl

/-- Where a thread is after an attempt that has succeeded. -/
theorem place_afterSuccess (response : Message) :
    (afterSuccess numShards thread attempt response).place numShards shard =
      placed numShards shard thread attempt (attempted attempt true) := by
  unfold afterSuccess placed attempted
  cases attempt.fallback with
  | true => rfl
  | false =>
      simp only [Bool.false_eq_true, if_false, ite_self]
      rfl

/-- What a call of a thread does to its place, with the return of `try_connection` that it leads
to. -/
inductive Moved (numShards shard : Nat) (thread : RouterThread) (active : ActiveTarget) :
    Option (Endpoint × Bool) → Place ActiveTarget → Prop where
  | stays : Moved numShards shard thread active none (place numShards shard thread)
  | loads (idle : place numShards shard thread = .idle) :
      Moved numShards shard thread active none (.first active)
  | returns (attempt : Attempt) (success : Bool)
      (tries : place numShards shard thread =
        placed numShards shard thread attempt (attempting attempt)) :
      Moved numShards shard thread active (some (thread.endpoint numShards attempt, success))
        (placed numShards shard thread attempt (attempted attempt success))

theorem place_trying {again : Bool} (phase : thread.phase = .trying attempt again) :
    place numShards shard thread = placed numShards shard thread attempt (attempting attempt) := by
  rw [place, phase]
  rfl

theorem place_awaiting (phase : thread.phase = .awaiting attempt) :
    place numShards shard thread = placed numShards shard thread attempt (attempting attempt) := by
  rw [place, phase]
  rfl

variable {active : ActiveTarget} {activeTarget : Nat → ActiveTarget} {thread' : PoolThread}

theorem Moved.of_eq (same : thread'.place numShards shard = place numShards shard thread) :
    Moved numShards shard thread active none (thread'.place numShards shard) := by
  rw [same]
  exact .stays

theorem moved_load (served : serve numShards thread activeTarget .load = some thread') :
    Moved numShards shard thread (activeTarget shard) none (thread'.place numShards shard) := by
  simp only [serve] at served
  split at served
  next request retry index phase =>
    cases served
    have idle : place numShards shard thread = .idle := by rw [place, phase]
    by_cases here : (thread.routingIndex + index) % numShards = shard
    · have loaded : (PoolThread.serving (thread.loaded request retry index
          (activeTarget ((thread.routingIndex + index) % numShards)))).place numShards shard =
            .first (activeTarget shard) := by
        rw [← here]
        exact if_pos rfl
      rw [loaded]
      exact .loads idle
    · refine .of_eq ?_
      rw [idle]
      exact if_neg here
  next => simp at served

theorem moved_connect {accepted : Bool}
    (served : serve numShards thread activeTarget (.connect accepted) = some thread') :
    Moved numShards shard thread active (returned numShards thread (.connect accepted))
      (thread'.place numShards shard) := by
  simp only [serve] at served
  split at served
  next attempt again phase =>
    split at served
    next => simp at served
    next =>
      simp only [returned, phase]
      cases accepted with
      | true =>
          cases served
          refine .of_eq ?_
          exact (place_trying phase).trans (place_trying phase).symm
      | false =>
          cases served
          change Moved _ _ _ _ _ (place numShards shard (thread.failed numShards attempt))
          rw [place_failed]
          exact .returns attempt false (place_trying phase)
  next => simp at served

theorem moved_send {sent : Bool}
    (served : serve numShards thread activeTarget (.send sent) = some thread') :
    Moved numShards shard thread active (returned numShards thread (.send sent))
      (thread'.place numShards shard) := by
  simp only [serve] at served
  split at served
  next attempt again phase =>
    split at served
    next =>
      simp only [returned, phase]
      cases sent with
      | true =>
          cases served
          simp only [Bool.not_true, Bool.and_false, Bool.false_eq_true, if_false]
          exact .of_eq (place_trying phase).symm
      | false =>
          cases served
          cases again with
          | true =>
              change Moved _ _ _ _ _ (place numShards shard
                ((thread.setLink _ false).failed numShards attempt))
              rw [place_failed]
              exact .returns attempt false (place_trying phase)
          | false => exact .of_eq (place_trying phase).symm
    next => simp at served
  next => simp at served

theorem moved_await {response : Option Message}
    (served : serve numShards thread activeTarget (.await response) = some thread') :
    Moved numShards shard thread active (returned numShards thread (.await response))
      (thread'.place numShards shard) := by
  simp only [serve] at served
  split at served
  next attempt phase =>
    simp only [returned, phase]
    cases response with
    | some response =>
        cases served
        rw [place_afterSuccess]
        exact .returns attempt true (place_awaiting phase)
    | none =>
        cases served
        change Moved _ _ _ _ _ (place numShards shard
          ((thread.setLink _ false).failed numShards attempt))
        rw [place_failed]
        exact .returns attempt false (place_awaiting phase)
  next => simp at served

theorem moved_of_served {call : Call}
    (served : serve numShards thread activeTarget call = some thread') :
    Moved numShards shard thread (activeTarget shard) (returned numShards thread call)
      (thread'.place numShards shard) := by
  cases call with
  | receive request =>
      simp only [serve] at served
      split at served
      next phase =>
        have idle : place numShards shard thread = .idle := by rw [place, phase]
        refine .of_eq ?_
        rw [idle]
        cases request <;> cases served <;> rfl
      next => simp at served
  | load => exact moved_load served
  | connect accepted => exact moved_connect served
  | send sent => exact moved_send served
  | await response => exact moved_await served
  | exchange => simp [serve] at served
  | answer sent =>
      simp only [serve] at served
      split at served
      next response phase =>
        have idle : place numShards shard thread = .idle := by rw [place, phase]
        refine .of_eq ?_
        rw [idle]
        cases sent <;> cases served <;> rfl
      next => simp at served

/-! ## The steps of the router -/

namespace RouterPool

/-- The thread of which an attempt on the shard fails in this step. -/
def failing (numShards shard : Nat) (pool : RouterPool) (event : PoolEvent) : Option Nat :=
  match pool.returned numShards event with
  | some (index, endpoint, false) => if endpoint.shard = shard then some index else none
  | _ => none

variable {live : ActiveTarget} {pool next : RouterPool} {event : PoolEvent} {index : Nat}

theorem view_getElem? {poolThread : PoolThread} (found : pool.threads[index]? = some poolThread) :
    (pool.view numShards shard).places[index]? = some (poolThread.place numShards shard) := by
  simp [view, found]

theorem view_set (poolThread : PoolThread) :
    view numShards shard { pool with threads := pool.threads.set index poolThread } =
      (pool.view numShards shard).put index (poolThread.place numShards shard) := by
  simp [view, State.put]

/-- An attempt on the shard ends. -/
theorem step_returns {attempt : Attempt} {success : Bool} {s : Failover.State ActiveTarget}
    (answers : success = true ↔
      (if attempt.fallback then attempt.current.other else attempt.current) = live)
    (found : s.places[index]? = some (attempting attempt)) :
    Failover.Step coordinators live s (if success then none else some index)
      (s.put index (attempted attempt success)) := by
  obtain ⟨request, retry, round, current, fallback⟩ := attempt
  obtain same | same := coordinators.eq_or_eq_other live current
  · subst same
    cases fallback with
    | false =>
        cases answers.mpr rfl
        exact .succeedFirst found
    | true =>
        cases success with
        | true => exact absurd (answers.mp rfl) (coordinators.other_ne current)
        | false => exact .failSecond found
  · subst same
    cases fallback with
    | false =>
        cases success with
        | true => exact absurd (answers.mp rfl) (coordinators.other_ne live)
        | false => exact .failFirst found
    | true =>
        cases answers.mpr (coordinators.other_other live)
        exact .succeedSecond found

/-- What the step of a thread is made of. -/
theorem step_call {call : Call} (stepped : pool.step numShards (.call index call) = .ok next) :
    ∃ poolThread activeTarget thread', pool.threads[index]? = some poolThread ∧
      poolThread.call numShards pool.activeTarget call = some (activeTarget, thread') ∧
      next = { activeTarget, threads := pool.threads.set index thread' } := by
  simp only [step] at stepped
  split at stepped
  next poolThread found =>
    split at stepped
    next activeTarget thread' called =>
      cases stepped
      exact ⟨poolThread, activeTarget, thread', found, called, rfl⟩
    next => cases stepped
  next => cases stepped

/-- The step concerns the shard, or the failover between its coordinators does not see it. -/
def Follows (numShards shard : Nat) (live : ActiveTarget) (pool : RouterPool) (event : PoolEvent)
    (next : RouterPool) : Prop :=
  (next.view numShards shard = pool.view numShards shard ∧
    pool.failing numShards shard event = none) ∨
  Failover.Step coordinators live (pool.view numShards shard)
    (pool.failing numShards shard event) (next.view numShards shard)

theorem returned_serving (call : Call)
    (found : pool.threads[index]? = some (.serving thread)) :
    pool.returned numShards (.call index call) =
      (Router.returned numShards thread call).map fun ended => (index, ended) := by
  simp only [returned, found, Option.bind_eq_bind, Option.bind_some, PoolThread.returned]
  cases Router.returned numShards thread call <;> rfl

theorem follows_serving {call : Call}
    (serves : Serves numShards shard live pool (.call index call))
    (found : pool.threads[index]? = some (.serving thread))
    (served : serve numShards thread pool.activeTarget call = some thread') :
    Follows numShards shard live pool (.call index call)
      { pool with threads := pool.threads.set index thread' } := by
  have here : (pool.view numShards shard).places[index]? = some (place numShards shard thread) :=
    view_getElem? found
  have moved : Moved numShards shard thread (pool.activeTarget shard) _ _ := moved_of_served served
  have reported : pool.returned numShards _ = _ := returned_serving call found
  unfold Follows failing
  rw [view_set, reported]
  generalize thread'.place numShards shard = place' at moved ⊢
  generalize Router.returned numShards thread call = ended at moved reported ⊢
  cases moved with
  | stays => exact .inl ⟨State.put_self here, rfl⟩
  | loads idle =>
      rw [idle] at here
      exact .inr (.load here)
  | returns attempt success tries =>
      rw [tries] at here
      by_cases concerned : (thread.endpoint numShards attempt).shard = shard
      · rw [placed, if_pos concerned] at here ⊢
        have answers := serves _ reported concerned
        refine .inr ?_
        have stepped := step_returns answers here
        cases success with
        | true => exact stepped
        | false => simpa [concerned] using stepped
      · rw [placed, if_neg concerned] at here ⊢
        refine .inl ⟨State.put_self here, ?_⟩
        cases success with
        | true => rfl
        | false => exact if_neg concerned

/-- The exchange of another shard leaves `active_target_` as it is. -/
theorem exchange_of_ne {other : Nat} (activeTarget : Nat → ActiveTarget) (expected : ActiveTarget)
    (differs : other ≠ shard) : exchange activeTarget other expected shard = activeTarget shard := by
  unfold exchange
  split
  next => exact Function.update_of_ne differs.symm _ _
  next => rfl

theorem exchange_self (activeTarget : Nat → ActiveTarget) (expected : ActiveTarget) :
    exchange activeTarget shard expected shard =
      exchanged coordinators (activeTarget shard) expected := by
  unfold exchange exchanged
  split
  next => exact Function.update_self shard _ _
  next => rfl

theorem follows_exchange {attempt : Attempt} {response : Message}
    (found : pool.threads[index]? = some (.exchanging thread attempt response)) :
    Follows numShards shard live pool (.call index .exchange)
      { activeTarget :=
          exchange pool.activeTarget (thread.endpoint numShards attempt).shard attempt.current
        threads := pool.threads.set index (.serving (thread.succeeded numShards response)) } := by
  have here : (pool.view numShards shard).places[index]? = _ := view_getElem? found
  have silent : pool.failing numShards shard (.call index .exchange) = none := by
    simp [failing, returned, found, PoolThread.returned]
  have viewed (activeTarget : Nat → ActiveTarget) :
      view numShards shard ⟨activeTarget,
          pool.threads.set index (.serving (thread.succeeded numShards response))⟩ =
        { (pool.view numShards shard).put index .idle with active := activeTarget shard } := by
    simp [view, State.put, PoolThread.place, place, RouterThread.succeeded]
  unfold Follows
  rw [silent, viewed]
  by_cases concerned : (thread.endpoint numShards attempt).shard = shard
  · rw [PoolThread.place, if_pos concerned] at here
    rw [concerned, exchange_self]
    exact .inr (.exchange here)
  · rw [PoolThread.place, if_neg concerned] at here
    rw [exchange_of_ne _ _ concerned, State.put_self here]
    exact .inl ⟨rfl, rfl⟩

/-- A step of the router is a step of the failover between the coordinators of a shard, or does
not concern the shard. -/
theorem step_view (serves : Serves numShards shard live pool event)
    (stepped : pool.step numShards event = .ok next) :
    Follows numShards shard live pool event next := by
  cases event with
  | accept hash =>
      cases stepped
      refine .inr ?_
      have joined : view numShards shard { pool with
          threads := pool.threads ++ [.serving (RouterThread.start (hash % numShards))] } =
            { pool.view numShards shard with
              places := (pool.view numShards shard).places ++ [.idle] } := by
        simp [view, PoolThread.place, place, RouterThread.start]
      rw [joined]
      exact .join
  | call index call =>
      obtain ⟨poolThread, activeTarget, thread', found, called, rfl⟩ := step_call stepped
      cases poolThread with
      | serving thread =>
          obtain ⟨thread', served, made⟩ := Option.map_eq_some_iff.mp called
          cases made
          exact follows_serving serves found served
      | exchanging thread attempt response =>
          cases call with
          | exchange =>
              cases called
              exact follows_exchange found
          | _ => cases called

/-! ## Runs of the router -/

theorem moves_pay (serves : Serves numShards shard live pool event)
    (stepped : pool.step numShards event = .ok next) :
    moves shard pool event next + (next.view numShards shard).swings live ≤
      (pool.view numShards shard).swings live := by
  obtain ⟨same, _⟩ | step := step_view serves stepped
  · have unmoved : next.activeTarget shard = pool.activeTarget shard := congrArg State.active same
    simp [moves, unmoved, same]
  · exact step.swings_le

theorem wasted_pay (serves : Serves numShards shard live pool event)
    (stepped : pool.step numShards event = .ok next) :
    wasted numShards ⟨shard, live.other⟩ index pool event next +
        (next.view numShards shard).failures coordinators live index ≤
      (pool.view numShards shard).failures coordinators live index := by
  have counted : wasted numShards ⟨shard, live.other⟩ index pool event next ≤
      if pool.failing numShards shard event = some index then 1 else 0 := by
    unfold wasted failing
    split
    next ended => simp [ended]
    next => exact Nat.zero_le _
  obtain ⟨same, silent⟩ | step := step_view serves stepped
  · simp only [silent, reduceCtorEq, if_false] at counted
    rw [same]
    omega
  · have paid := step.failures_le index
    omega

/-- The place of a thread; one that has not been started is idle. -/
def place (numShards shard index : Nat) (pool : RouterPool) : Place ActiveTarget :=
  (pool.view numShards shard).place index

/-- From the moment at which one coordinator of a shard answers every request and the other one
answers none, whatever the threads of the router are doing and however their calls interleave,
`active_target_` moves at most twice for each exchange that is under way in the wrong direction,
and once more if it names the wrong coordinator.  On the coordinator that does not answer, a thread
wastes at most one attempt for each of these exchanges, and two more; if it is not at an attempt
on this shard to begin with, it wastes one more at most, and none if `active_target_` is right. -/
theorem failover_settles (numShards shard : Nat) (live : ActiveTarget) (pool : RouterPool)
    (events : List PoolEvent)
    (serves : Along (RouterPool.step numShards) (Serves numShards shard live) pool events) :
    runCost (RouterPool.step numShards) (moves shard) pool events ≤
        2 * pool.overtaken numShards shard live +
          (if pool.activeTarget shard = live then 0 else 1) ∧
      ∀ index,
        runCost (RouterPool.step numShards) (wasted numShards ⟨shard, live.other⟩ index) pool
            events ≤ pool.overtaken numShards shard live + 2 ∧
        (pool.place numShards shard index = .idle →
          runCost (RouterPool.step numShards) (wasted numShards ⟨shard, live.other⟩ index) pool
              events ≤ pool.overtaken numShards shard live +
                (if pool.activeTarget shard = live then 0 else 1)) := by
  refine ⟨runCost_le_potential (fun _ _ _ => moves_pay) serves, fun index => ?_⟩
  have bounded : runCost _ (wasted numShards ⟨shard, live.other⟩ index) pool events ≤ _ :=
    runCost_le_potential (fun _ _ _ => wasted_pay) serves
  constructor
  · exact bounded.trans (Nat.add_le_add_left (Place.debt_le_two coordinators _ _ _) _)
  · intro idle
    refine bounded.trans (Nat.add_le_add_left ?_ _)
    change (pool.place numShards shard index).debt _ _ _ ≤ _
    rw [idle]
    exact (Place.debt_idle coordinators _ _).le

/-- A router with one shard, right after its primary has failed.  The first and the third thread
have loaded `BACKUP` at a time when the backup did not answer.  The primary has answered the first
one since, and the third one is about to try it. -/
def afterCrash : RouterPool :=
  let request : SubmitMsg := { taskId := 1 }
  let attempt : Attempt :=
    { request, retry := 0, attempt := 0, current := .backup, fallback := true }
  let response := RouterThread.failMessage request
  let thread := RouterThread.start 0
  { activeTarget := fun _ => .primary
    threads :=
      [.exchanging thread attempt response, .serving thread,
        .serving { thread with phase := .trying attempt false }] }

/-- The calls of a thread that finds the primary not answering. -/
def failsOnce : List Call :=
  [.load, .connect false]

/-- Its calls when the backup answers it next, with those for the connection to the backup if it
is not open. -/
def fallsBack (isOpen : Bool) : List Call :=
  let response : Message := { body := .result { taskId := 2, success := 1, result := 5 } }
  (if isOpen then [] else [.connect true]) ++
    [.send true, .await (some response), .exchange, .answer true]

/-- The second and the third thread fall back, the first one undoes their exchange, and they have
to fall back again.  All bounds are attained: the second thread, which was idle, has wasted two
attempts, and the third one, which was at its attempt on the primary, has wasted three. -/
theorem afterCrash_settles :
    let receive : Call := .receive (some { body := .submit { taskId := 2 } })
    let events :=
      (receive :: failsOnce).map (.call 1) ++
        (.connect false :: failsOnce ++ fallsBack false).map (.call 2) ++
        (fallsBack false).map (.call 1) ++ [.call 0 .exchange] ++
        (receive :: failsOnce).map (.call 1) ++ (receive :: failsOnce).map (.call 2) ++
        (fallsBack true).map (.call 1) ++ (fallsBack true).map (.call 2)
    (runCost (step 1) (moves 0) afterCrash events = 3 ∧
      runCost (step 1) (moves 0) afterCrash events ≤ 3) ∧
    (runCost (step 1) (wasted 1 ⟨0, .primary⟩ 2) afterCrash events = 3 ∧
      runCost (step 1) (wasted 1 ⟨0, .primary⟩ 2) afterCrash events ≤ 3) ∧
    (runCost (step 1) (wasted 1 ⟨0, .primary⟩ 1) afterCrash events = 2 ∧
      runCost (step 1) (wasted 1 ⟨0, .primary⟩ 1) afterCrash events ≤ 2) := by
  intro receive events
  have settled := failover_settles 1 0 .backup afterCrash events (by decide +kernel)
  exact ⟨⟨by decide +kernel, settled.1⟩, ⟨by decide +kernel, (settled.2 2).1⟩,
    by decide +kernel, (settled.2 1).2 (by decide)⟩

end RouterPool

end Router

end TaskCoordinator
