import TaskCoordinator.Library.RoundRobin
import TaskCoordinator.Router.Failover

/-!
# Distribution of requests over the shards

A thread of the router starts with the shard at its `routing_index`, which it advances after every
request that has been answered.  While one coordinator of every shard answers, its requests
therefore go to the shards in turn, whatever the other threads do to `active_target_`, and the
client is sent what the coordinators have answered and nothing that the router has made up.
-/

namespace TaskCoordinator

namespace Router

open Transition RoundRobin

/-! ## What the client and the coordinators see -/

inductive Observation where
  /-- A coordinator has answered the thread. -/
  | answered (endpoint : Endpoint) (response : Message)
  /-- A message has been passed to the client. -/
  | passed (response : Message)

def Observation.answered? : Observation → Option (Endpoint × Message)
  | .answered endpoint response => some (endpoint, response)
  | .passed _ => none

def Observation.passed? : Observation → Option Message
  | .answered _ _ => none
  | .passed response => some response

/-- The answers of the coordinators. -/
def answers (observed : List Observation) : List (Endpoint × Message) :=
  observed.filterMap Observation.answered?

def responses (observed : List Observation) : List Message :=
  (answers observed).map Prod.snd

/-- The messages that the client has been sent. -/
def passed (observed : List Observation) : List Message :=
  observed.filterMap Observation.passed?

variable (numShards : Nat)

def PoolThread.observe : PoolThread → Call → List Observation
  | .serving thread, .await (some response) =>
      match thread.phase with
      | .awaiting attempt => [.answered (thread.endpoint numShards attempt) response]
      | _ => []
  | .serving thread, .answer true =>
      match thread.phase with
      | .answering response => [.passed response]
      | _ => []
  | _, _ => []

namespace RouterPool

/-- What is observed of a thread in a step of the router. -/
def observe (index : Nat) (pool : RouterPool) : PoolEvent → List Observation
  | .accept _ => []
  | .call caller call =>
      if caller = index then
        match pool.threads[index]? with
        | some thread => thread.observe numShards call
        | none => []
      else
        []

/-- In every shard the live coordinator answers every request and the other one answers none. -/
def ServesAll (live : Nat → ActiveTarget) (pool : RouterPool) (event : PoolEvent) : Prop :=
  ∀ shard < numShards, Serves numShards shard (live shard) pool event

instance (live : Nat → ActiveTarget) (pool : RouterPool) (event : PoolEvent) :
    Decidable (ServesAll numShards live pool event) :=
  inferInstanceAs (Decidable (∀ shard < numShards, Serves numShards shard (live shard) pool event))

end RouterPool

/-! ## A thread in its first round -/

/-- The thread is in the first round of its loops, and the fallback is the live coordinator. -/
def FirstRound (live : Nat → ActiveTarget) (thread : RouterThread) (attempt : Attempt) : Prop :=
  attempt.retry = 0 ∧ attempt.attempt = 0 ∧
    (attempt.fallback = true →
      attempt.current = (live (thread.endpoint numShards attempt).shard).other)

/-- Where a thread stands that has received the responses and has passed on these messages. -/
def Direct (live : Nat → ActiveTarget) (responses passed : List Message) : PoolThread → Prop
  | .exchanging _ _ response => responses = passed ++ [response]
  | .serving thread =>
      match thread.phase with
      | .receiving => responses = passed
      | .loading _ retry attempt => retry = 0 ∧ attempt = 0 ∧ responses = passed
      | .trying attempt _ | .awaiting attempt =>
          FirstRound numShards live thread attempt ∧ responses = passed
      | .answering response => responses = passed ++ [response]
      | .stopped => passed <+: responses ∧ responses.length ≤ passed.length + 1

/-- The thread has gone through the shards in turn, from the one at `start` on. -/
structure Rotates (live : Nat → ActiveTarget) (start : Nat) (observed : List Observation)
    (thread : PoolThread) : Prop where
  turns : (answers observed).map Prod.fst =
    (RoundRobin.turns (List.range numShards) start (answers observed).length).map
      fun shard => ⟨shard, live shard⟩
  next : (thread.base numShards).routingIndex % numShards =
    (start + (answers observed).length) % numShards
  direct : Direct numShards live (responses observed) (passed observed) thread

variable {numShards} {live : Nat → ActiveTarget} {start : Nat} {observed : List Observation}
variable {thread : RouterThread} {thread' : PoolThread} {attempt : Attempt}

/-! ## The calls of a thread -/

/-- The live coordinator answers and the other one does not, if the call ends an attempt. -/
def Answers (numShards : Nat) (live : Nat → ActiveTarget) (thread : RouterThread) (call : Call) :
    Prop :=
  ∀ ended ∈ returned numShards thread call, ended.2 = true ↔ ended.1.target = live ended.1.shard

theorem Answers.target_ne {call : Call} {endpoint : Endpoint}
    (answers : Answers numShards live thread call)
    (fails : returned numShards thread call = some (endpoint, false)) :
    endpoint.target ≠ live endpoint.shard := by
  intro reached
  exact Bool.false_ne_true ((answers _ fails).mpr reached)

theorem Answers.target_eq {call : Call} {endpoint : Endpoint}
    (answers : Answers numShards live thread call)
    (succeeds : returned numShards thread call = some (endpoint, true)) :
    endpoint.target = live endpoint.shard :=
  (answers _ succeeds).mp rfl

/-- An attempt that fails is the first one of its round, so the fallback is tried. -/
theorem direct_failed {received delivered : List Message}
    (first : FirstRound numShards live thread attempt ∧ received = delivered)
    (fails : (thread.endpoint numShards attempt).target ≠
      live (thread.endpoint numShards attempt).shard) :
    Direct numShards live received delivered (.serving (thread.failed numShards attempt)) := by
  obtain ⟨request, retry, round, current, fallback⟩ := attempt
  obtain ⟨⟨rfl, rfl, other⟩, same⟩ := first
  cases fallback with
  | true =>
      have reached := (congrArg ActiveTarget.other (other rfl)).trans
        (coordinators.other_other _)
      exact absurd reached fails
  | false =>
      refine ⟨⟨rfl, rfl, fun _ => ?_⟩, same⟩
      exact (coordinators.eq_or_eq_other _ current).resolve_left fails

/-- A response is passed on next, before or after the exchange. -/
theorem direct_afterSuccess {delivered : List Message} (response : Message) :
    Direct numShards live (delivered ++ [response]) delivered
      (afterSuccess numShards thread attempt response) := by
  unfold afterSuccess
  split <;> rfl

theorem failed_routingIndex (numShards : Nat) (thread : RouterThread) (attempt : Attempt) :
    (thread.failed numShards attempt).routingIndex = thread.routingIndex := by
  unfold RouterThread.failed RouterThread.nextRound
  split_ifs <;> rfl

variable {activeTarget : Nat → ActiveTarget} {received delivered : List Message}

theorem direct_connect {accepted : Bool}
    (answers : Answers numShards live thread (.connect accepted))
    (served : serve numShards thread activeTarget (.connect accepted) = some thread')
    (direct : Direct numShards live received delivered (.serving thread)) :
    Direct numShards live received delivered thread' := by
  simp only [serve] at served
  split at served
  next attempt again phase =>
    simp only [Direct, phase] at direct
    split_ifs at served with isOpen made <;> cases served
    · simp only [Direct, RouterThread.setLink, phase]
      exact direct
    · have fails : returned numShards thread (.connect accepted) =
          some (thread.endpoint numShards attempt, false) := by
        simp [returned, phase, made]
      exact direct_failed direct (answers.target_ne fails)
  next => cases served

theorem direct_send {sent : Bool}
    (answers : Answers numShards live thread (.send sent))
    (served : serve numShards thread activeTarget (.send sent) = some thread')
    (direct : Direct numShards live received delivered (.serving thread)) :
    Direct numShards live received delivered thread' := by
  simp only [serve] at served
  split at served
  next attempt again phase =>
    simp only [Direct, phase] at direct
    split_ifs at served with isOpen made <;> cases served
    · exact direct
    · cases again with
      | true =>
          have fails : returned numShards thread (.send sent) =
              some (thread.endpoint numShards attempt, false) := by
            simp [returned, phase, made]
          change Direct _ _ _ _ (.serving ((thread.setLink _ false).failed numShards attempt))
          exact direct_failed direct (answers.target_ne fails)
      | false => exact direct
  next => cases served

@[simp] theorem answers_answered (endpoint : Endpoint) (response : Message) :
    answers (observed ++ [.answered endpoint response]) =
      answers observed ++ [(endpoint, response)] := by
  simp [answers, Observation.answered?]

@[simp] theorem answers_passed (response : Message) :
    answers (observed ++ [.passed response]) = answers observed := by
  simp [answers, Observation.answered?]

@[simp] theorem passed_answered (endpoint : Endpoint) (response : Message) :
    passed (observed ++ [.answered endpoint response]) = passed observed := by
  simp [passed, Observation.passed?]

@[simp] theorem passed_passed (response : Message) :
    passed (observed ++ [.passed response]) = passed observed ++ [response] := by
  simp [passed, Observation.passed?]

@[simp] theorem responses_answered (endpoint : Endpoint) (response : Message) :
    responses (observed ++ [.answered endpoint response]) =
      responses observed ++ [response] := by
  simp [responses]

@[simp] theorem responses_passed (response : Message) :
    responses (observed ++ [.passed response]) = responses observed := by
  simp [responses]

/-- A call in which nothing is observed leaves the turn of the thread as it is. -/
theorem Rotates.silent {poolThread : PoolThread}
    (rotates : Rotates numShards live start observed poolThread)
    (index : (thread'.base numShards).routingIndex = (poolThread.base numShards).routingIndex)
    (direct : Direct numShards live (responses observed) (passed observed) thread') :
    Rotates numShards live start observed thread' where
  turns := rotates.turns
  next := by rw [index, rotates.next]
  direct := direct

/-- A call in which a coordinator answers. -/
theorem Rotates.answered {poolThread : PoolThread} {endpoint : Endpoint} {response : Message}
    (positive : 0 < numShards) (rotates : Rotates numShards live start observed poolThread)
    (shard : endpoint.shard = (poolThread.base numShards).routingIndex % numShards)
    (target : endpoint.target = live endpoint.shard)
    (index : (thread'.base numShards).routingIndex =
      ((poolThread.base numShards).routingIndex + 1) % numShards)
    (direct : Direct numShards live (responses observed ++ [response])
      (passed observed) thread') :
    Rotates numShards live start (observed ++ [.answered endpoint response]) thread' := by
  refine ⟨?_, ?_, ?_⟩
  · have turn : RoundRobin.turns (List.range numShards) (start + (answers observed).length) 1 =
        [endpoint.shard] := by
      have inside : endpoint.shard < numShards := by
        rw [shard]
        exact Nat.mod_lt _ positive
      simp [RoundRobin.turns, ← rotates.next, ← shard, inside]
    rw [answers_answered, List.map_append, rotates.turns, List.length_append,
      List.length_singleton, turns_add, List.map_append, turn, List.map_singleton,
      List.map_singleton, ← target]
  · rw [index, answers_answered, List.length_append, List.length_singleton, Nat.mod_mod,
      ← Nat.add_assoc, Nat.add_mod, rotates.next, ← Nat.add_mod]
  · simpa using direct

theorem rotates_receive {request : Option Message}
    (served : serve numShards thread activeTarget (.receive request) = some thread')
    (rotates : Rotates numShards live start observed (.serving thread)) :
    Rotates numShards live start observed thread' := by
  have direct := rotates.direct
  simp only [serve] at served
  split at served
  next phase =>
    simp only [Direct, phase] at direct
    cases request with
    | some request =>
        cases served
        exact rotates.silent rfl ⟨rfl, rfl, direct⟩
    | none =>
        cases served
        refine rotates.silent rfl ⟨?_, ?_⟩
        · rw [direct]
        · rw [direct]
          exact Nat.le_succ _
  next => cases served

theorem rotates_load (served : serve numShards thread activeTarget .load = some thread')
    (rotates : Rotates numShards live start observed (.serving thread)) :
    Rotates numShards live start observed thread' := by
  have direct := rotates.direct
  simp only [serve] at served
  split at served
  next request retry index phase =>
    simp only [Direct, phase] at direct
    cases served
    refine rotates.silent rfl ⟨⟨direct.1, direct.2.1, fun fallback => ?_⟩, direct.2.2⟩
    exact absurd fallback Bool.false_ne_true
  next => cases served

theorem rotates_await (positive : 0 < numShards) {response : Option Message}
    (answers : Answers numShards live thread (.await response))
    (served : serve numShards thread activeTarget (.await response) = some thread')
    (rotates : Rotates numShards live start observed (.serving thread)) :
    Rotates numShards live start
      (observed ++ (PoolThread.serving thread).observe numShards (.await response)) thread' := by
  have direct := rotates.direct
  simp only [serve] at served
  split at served
  next attempt phase =>
    simp only [Direct, phase] at direct
    cases response with
    | some response =>
        cases served
        have succeeds : returned numShards thread (.await (some response)) =
            some (thread.endpoint numShards attempt, true) := by
          simp [returned, phase]
        have seen : (PoolThread.serving thread).observe numShards (.await (some response)) =
            [.answered (thread.endpoint numShards attempt) response] := by
          simp [PoolThread.observe, phase]
        rw [seen]
        refine rotates.answered positive ?_ (answers.target_eq succeeds) ?_ ?_
        · rw [RouterThread.endpoint, direct.1.2.1]
          rfl
        · rw [base_afterSuccess]
          rfl
        · rw [direct.2]
          exact direct_afterSuccess response
    | none =>
        cases served
        have fails : returned numShards thread (.await none) =
            some (thread.endpoint numShards attempt, false) := by
          simp [returned, phase]
        have silent : (PoolThread.serving thread).observe numShards (.await none) = [] := rfl
        rw [silent, List.append_nil]
        refine rotates.silent ?_ ?_
        · exact failed_routingIndex numShards (thread.setLink _ false) attempt
        · exact direct_failed direct (answers.target_ne fails)
  next => cases served

theorem rotates_answer {sent : Bool}
    (served : serve numShards thread activeTarget (.answer sent) = some thread')
    (rotates : Rotates numShards live start observed (.serving thread)) :
    Rotates numShards live start
      (observed ++ (PoolThread.serving thread).observe numShards (.answer sent)) thread' := by
  have direct := rotates.direct
  simp only [serve] at served
  split at served
  next response phase =>
    simp only [Direct, phase] at direct
    cases sent with
    | true =>
        cases served
        have seen : (PoolThread.serving thread).observe numShards (.answer true) =
            [.passed response] := by
          simp [PoolThread.observe, phase]
        rw [seen]
        refine ⟨?_, ?_, ?_⟩
        · rw [answers_passed, rotates.turns]
        · rw [answers_passed]
          exact rotates.next
        · rw [responses_passed, passed_passed]
          exact direct
    | false =>
        cases served
        have silent : (PoolThread.serving thread).observe numShards (.answer false) = [] := rfl
        rw [silent, List.append_nil]
        refine rotates.silent rfl ⟨?_, ?_⟩
        · rw [direct]
          exact List.prefix_append _ _
        · rw [direct, List.length_append]
          exact le_rfl
  next => cases served

/-- A connect or a send does not advance `routing_index`. -/
theorem served_routingIndex {call : Call}
    (served : serve numShards thread activeTarget call = some thread')
    (attempts : (∃ accepted, call = .connect accepted) ∨ ∃ sent, call = .send sent) :
    (thread'.base numShards).routingIndex = thread.routingIndex := by
  obtain ⟨accepted, rfl⟩ | ⟨sent, rfl⟩ := attempts
  · simp only [serve] at served
    split at served
    next attempt again phase =>
      split_ifs at served <;> cases served
      · rfl
      · exact failed_routingIndex numShards thread attempt
    next => cases served
  · simp only [serve] at served
    split at served
    next attempt again phase =>
      split_ifs at served <;> cases served
      · rfl
      · cases again with
        | true => exact failed_routingIndex numShards (thread.setLink _ false) attempt
        | false => rfl
    next => cases served

theorem rotates_serve (positive : 0 < numShards) {call : Call}
    (answers : Answers numShards live thread call)
    (served : serve numShards thread activeTarget call = some thread')
    (rotates : Rotates numShards live start observed (.serving thread)) :
    Rotates numShards live start (observed ++ (PoolThread.serving thread).observe numShards call)
      thread' := by
  cases call with
  | await response => exact rotates_await positive answers served rotates
  | answer sent => exact rotates_answer served rotates
  | receive request =>
      have silent : (PoolThread.serving thread).observe numShards (.receive request) = [] := rfl
      rw [silent, List.append_nil]
      exact rotates_receive served rotates
  | load =>
      have silent : (PoolThread.serving thread).observe numShards .load = [] := rfl
      rw [silent, List.append_nil]
      exact rotates_load served rotates
  | connect accepted =>
      have silent : (PoolThread.serving thread).observe numShards (.connect accepted) = [] := rfl
      rw [silent, List.append_nil]
      exact rotates.silent (served_routingIndex served (.inl ⟨accepted, rfl⟩))
        (direct_connect answers served rotates.direct)
  | send sent =>
      have silent : (PoolThread.serving thread).observe numShards (.send sent) = [] := rfl
      rw [silent, List.append_nil]
      exact rotates.silent (served_routingIndex served (.inr ⟨sent, rfl⟩))
        (direct_send answers served rotates.direct)
  | exchange => cases served

/-- A call of a thread keeps its rotation. -/
theorem rotates_call (positive : 0 < numShards) {poolThread : PoolThread} {call : Call}
    {activeTarget' : Nat → ActiveTarget}
    (answers : ∀ ended ∈ poolThread.returned numShards call,
      ended.2 = true ↔ ended.1.target = live ended.1.shard)
    (called : poolThread.call numShards activeTarget call = some (activeTarget', thread'))
    (rotates : Rotates numShards live start observed poolThread) :
    Rotates numShards live start (observed ++ poolThread.observe numShards call) thread' := by
  cases poolThread with
  | serving thread =>
      obtain ⟨thread', served, made⟩ := Option.map_eq_some_iff.mp called
      cases made
      exact rotates_serve positive answers served rotates
  | exchanging thread attempt response =>
      cases call with
      | exchange =>
          cases called
          have silent : (PoolThread.exchanging thread attempt response).observe numShards
              .exchange = [] := rfl
          rw [silent, List.append_nil]
          exact rotates.silent rfl rotates.direct
      | _ => cases called

/-- At the end of a run the client has been sent what the coordinators have answered, in this
order, up to one response that is on its way or is lost with the connection. -/
theorem passed_prefix {poolThread : PoolThread} {received delivered : List Message}
    (direct : Direct numShards live received delivered poolThread) :
    delivered <+: received ∧ received.length ≤ delivered.length + 1 := by
  have same (equal : received = delivered) :
      delivered <+: received ∧ received.length ≤ delivered.length + 1 := by
    simp [equal]
  have one {response : Message} (equal : received = delivered ++ [response]) :
      delivered <+: received ∧ received.length ≤ delivered.length + 1 := by
    simp [equal]
  cases poolThread with
  | exchanging thread attempt response => exact one direct
  | serving thread =>
      simp only [Direct] at direct
      split at direct
      next => exact same direct
      next => exact same direct.2.2
      next => exact same direct.2
      next => exact same direct.2
      next => exact one direct
      next => exact direct

namespace RouterPool

variable {pool next : RouterPool} {event : PoolEvent} {index : Nat}

theorem returned_shard_lt (positive : 0 < numShards) {poolThread : PoolThread} {call : Call}
    {ended : Endpoint × Bool} (returns : ended ∈ poolThread.returned numShards call) :
    ended.1.shard < numShards := by
  have inside (thread : RouterThread) (attempt : Attempt) :
      (thread.endpoint numShards attempt).shard < numShards := Nat.mod_lt _ positive
  cases poolThread with
  | exchanging thread attempt response => cases returns
  | serving thread =>
      simp only [PoolThread.returned, Router.returned, Option.mem_def] at returns
      split at returns
      · split at returns
        · split_ifs at returns
          cases returns
          exact inside thread _
        · cases returns
      · split at returns
        · split_ifs at returns
          cases returns
          exact inside thread _
        · cases returns
      · split at returns
        · cases returns
          exact inside thread _
        · cases returns
      all_goals cases returns

/-- The thread is there and goes through the shards in turn. -/
def ThreadRotates (numShards : Nat) (live : Nat → ActiveTarget) (start index : Nat)
    (observed : List Observation) (pool : RouterPool) : Prop :=
  ∃ thread, pool.threads[index]? = some thread ∧ Rotates numShards live start observed thread

theorem rotates_step (positive : 0 < numShards)
    (serves : ServesAll numShards live pool event)
    (stepped : pool.step numShards event = .ok next)
    (rotates : ThreadRotates numShards live start index observed pool) :
    ThreadRotates numShards live start index
      (observed ++ pool.observe numShards index event) next := by
  obtain ⟨thread, found, turns⟩ := rotates
  cases event with
  | accept hash =>
      cases stepped
      refine ⟨thread, ?_, ?_⟩
      · obtain ⟨inside, _⟩ := List.getElem?_eq_some_iff.mp found
        rw [List.getElem?_append_left inside, found]
      · simpa [observe] using turns
  | call caller call =>
      obtain ⟨other, activeTarget, thread', reached, called, rfl⟩ := step_call stepped
      by_cases same : caller = index
      · subst same
        obtain rfl := Option.some.inj (found.symm.trans reached)
        obtain ⟨inside, _⟩ := List.getElem?_eq_some_iff.mp found
        refine ⟨thread', List.getElem?_set_self inside, ?_⟩
        have seen : pool.observe numShards caller (.call caller call) =
            thread.observe numShards call := by
          simp [observe, found]
        rw [seen]
        refine rotates_call positive (fun ended returns => ?_) called turns
        have reported : pool.returned numShards (.call caller call) = some (caller, ended) := by
          simp [returned, found, Option.mem_def.mp returns]
        exact serves _ (returned_shard_lt positive returns) _ reported rfl
      · refine ⟨thread, ?_, ?_⟩
        · simpa [List.getElem?_set, same] using found
        · simpa [observe, same] using turns

/-- While one coordinator of every shard answers and the other one does not, whatever the threads
of the router do to `active_target_` meanwhile, the requests of a client are answered by the live
coordinators of the shards in turn, so that two shards get the same number of them up to one.  The
client is sent these answers in their order and nothing else, and at most one of them is missing. -/
theorem requests_take_turns (positive : 0 < numShards) (live : Nat → ActiveTarget)
    {pool final : RouterPool} {events : List PoolEvent} {index : Nat} {thread : RouterThread}
    (started : pool.threads[index]? = some (.serving thread)) (ready : thread.phase = .receiving)
    (serves : Along (step numShards) (ServesAll numShards live) pool events)
    (ran : run (step numShards) pool events = .ok final) :
    let observed := trace (step numShards) (observe numShards index) pool events
    (answers observed).map Prod.fst =
        (turns (List.range numShards) thread.routingIndex (answers observed).length).map
          (fun shard => ⟨shard, live shard⟩) ∧
      (∀ shard, ∀ other < numShards,
        ((answers observed).map (·.1.shard)).count shard ≤
          ((answers observed).map (·.1.shard)).count other + 1) ∧
      passed observed <+: responses observed ∧
      (responses observed).length ≤ (passed observed).length + 1 := by
  intro observed
  have initially : ThreadRotates numShards live thread.routingIndex index [] pool := by
    refine ⟨_, started, rfl, rfl, ?_⟩
    simp only [Direct, ready]
    rfl
  obtain ⟨_, _, rotates⟩ := trace_run
    (fun _ _ _ _ rotates serves stepped => rotates_step positive serves stepped rotates)
    initially serves ran
  rw [List.nil_append] at rotates
  refine ⟨rotates.turns, ?_, passed_prefix rotates.direct⟩
  have shards := congrArg (List.map Endpoint.shard) rotates.turns
  simp only [List.map_map, Function.comp_def, List.map_id'] at shards
  intro shard other inside
  rw [shards]
  exact count_turns_le List.nodup_range (List.mem_range.mpr inside) _ _

/-- A router with two shards and two clients. -/
def twoShards : RouterPool where
  activeTarget := fun _ => .primary
  threads := [.serving (RouterThread.start 0), .serving (RouterThread.start 0)]

/-- The primary of the first shard does not answer.  Both threads fall back, and only the exchange
of the first one has an effect; its next request goes to the second shard. -/
def twoRequests : List PoolEvent :=
  let request : Message := { body := .submit { taskId := 7 } }
  let response : Message := { body := .result { taskId := 7, success := 1, result := 5 } }
  let both (call : Call) : List PoolEvent := [.call 0 call, .call 1 call]
  both (.receive (some request)) ++ both .load ++ both (.connect false) ++ both (.connect true) ++
    both (.send true) ++ both (.await (some response)) ++ both .exchange ++
    [.call 0 (.answer true), .call 0 (.receive (some request)), .call 0 .load,
      .call 0 (.connect true), .call 0 (.send true), .call 0 (.await (some response))]

theorem twoRequests_take_turns :
    let live : Nat → ActiveTarget := fun shard => if shard = 0 then .backup else .primary
    let observed := trace (step 2) (observe 2 0) twoShards twoRequests
    (answers observed).length = 2 ∧
      (answers observed).map Prod.fst =
        (turns (List.range 2) 0 (answers observed).length).map
          (fun shard => ⟨shard, live shard⟩) := by
  intro live observed
  have serves : Along (step 2) (ServesAll 2 live) twoShards twoRequests := by decide +kernel
  have started : twoShards.threads[0]? = some (.serving (RouterThread.start 0)) := rfl
  exact ⟨by decide +kernel, (requests_take_turns (by decide) live started rfl serves rfl).1⟩

end RouterPool

end Router

end TaskCoordinator
