import TaskCoordinator.Message

/-!
# The router thread

`Router::worker` with `Router::try_connection`: one thread serves one client connection.
For each request it goes through the shards, `RETRY_SHARDS + 1` times, and tries the active
endpoint of a shard and then the other one, until one of them has returned a response.  The
response is passed to the client as it is; if every attempt fails, the client is sent a
`RESULT` that reports failure.

The thread is cut at its socket calls and at the load of `active_target_`.  A send or a
receive transfers a whole message or nothing.
-/

namespace TaskCoordinator

namespace Config

def retryShards : Nat := 2

end Config

inductive ActiveTarget where
  | primary
  | backup
  deriving DecidableEq, Repr

def ActiveTarget.other : ActiveTarget → ActiveTarget
  | .primary => .backup
  | .backup => .primary

/-- A coordinator, by its shard and its place in the shard. -/
structure Endpoint where
  shard : Nat
  target : ActiveTarget
  deriving DecidableEq, Repr

/-- A call of `try_connection`: the counters of the loops around it, the active target
loaded in this round, and whether the other endpoint is tried. -/
structure Attempt where
  request : SubmitMsg
  retry : Nat
  attempt : Nat
  current : ActiveTarget
  fallback : Bool
  deriving DecidableEq, Repr

/-- Where the router thread stands. -/
inductive RouterPhase where
  /-- At the receive of the next request. -/
  | receiving
  /-- At the load of `active_target_`. -/
  | loading (request : SubmitMsg) (retry attempt : Nat)
  /-- In `try_connection` before the request is sent, for the second time if `again`. -/
  | trying (attempt : Attempt) (again : Bool)
  /-- In `try_connection` at the receive of the response. -/
  | awaiting (attempt : Attempt)
  /-- At the send to the client. -/
  | answering (response : Message)
  | stopped

/-- The request that is being worked on. -/
def RouterPhase.request? : RouterPhase → Option SubmitMsg
  | .loading request _ _ => some request
  | .trying attempt _ | .awaiting attempt => some attempt.request
  | .receiving | .answering _ | .stopped => none

structure RouterThread where
  routingIndex : Nat
  /-- The coordinators to which a connection is open at this end. -/
  links : Endpoint → Bool
  phase : RouterPhase

namespace RouterThread

/-- A thread that has just been started. -/
def start (routingIndex : Nat) : RouterThread where
  routingIndex
  links := fun _ => false
  phase := .receiving

/-- The coordinator that an attempt is about. -/
def endpoint (thread : RouterThread) (numShards : Nat) (attempt : Attempt) : Endpoint where
  shard := (thread.routingIndex + attempt.attempt) % numShards
  target := if attempt.fallback then attempt.current.other else attempt.current

/-- The `RESULT` for a request that every attempt has failed on. -/
def failMessage (request : SubmitMsg) : Message :=
  { body := .result { taskId := request.taskId, success := 0, result := 0 } }

def begin (thread : RouterThread) (request : SubmitMsg) : RouterThread :=
  { thread with phase := .loading request 0 0 }

/-- The next round of the two loops, or the end of both. -/
def nextRound (thread : RouterThread) (numShards : Nat) (request : SubmitMsg)
    (retry attempt : Nat) : RouterThread :=
  if attempt + 1 < numShards then
    { thread with phase := .loading request retry (attempt + 1) }
  else if retry + 1 ≤ Config.retryShards then
    { thread with phase := .loading request (retry + 1) 0 }
  else
    { thread with phase := .answering (failMessage request) }

def loaded (thread : RouterThread) (request : SubmitMsg) (retry attempt : Nat)
    (current : ActiveTarget) : RouterThread :=
  { thread with
    phase := .trying { request, retry, attempt, current, fallback := false } false }

def setLink (thread : RouterThread) (endpoint : Endpoint) (isOpen : Bool) : RouterThread :=
  { thread with links := Function.update thread.links endpoint isOpen }

/-- The request has been sent. -/
def sent (thread : RouterThread) (attempt : Attempt) : RouterThread :=
  { thread with phase := .awaiting attempt }

/-- `try_connection` returns false. -/
def failed (thread : RouterThread) (numShards : Nat) (attempt : Attempt) : RouterThread :=
  if attempt.fallback then
    thread.nextRound numShards attempt.request attempt.retry attempt.attempt
  else
    { thread with phase := .trying { attempt with fallback := true } false }

/-- The send in `try_connection` has failed and the connection is closed. -/
def sendFailed (thread : RouterThread) (numShards : Nat) (attempt : Attempt) (again : Bool) :
    RouterThread :=
  if again then
    thread.failed numShards attempt
  else
    { thread with phase := .trying attempt true }

/-- `try_connection` returns true. -/
def succeeded (thread : RouterThread) (numShards : Nat) (response : Message) : RouterThread :=
  { thread with
    routingIndex := (thread.routingIndex + 1) % numShards
    phase := .answering response }

/-- The response has been passed to the client. -/
def answered (thread : RouterThread) : RouterThread :=
  { thread with phase := .receiving }

/-- The thread leaves its loop and closes its connections. -/
def stop (thread : RouterThread) : RouterThread :=
  { thread with phase := .stopped, links := fun _ => false }

/-! ## Failed attempts -/

/-- The thread is still at work on the request, or is about to report its failure. -/
def WorksOn (thread : RouterThread) (request : SubmitMsg) : Prop :=
  (thread.phase.request? = some request ∧ ∀ attempt, thread.phase ≠ .awaiting attempt) ∨
    thread.phase = .answering (failMessage request)

variable (thread : RouterThread) (numShards : Nat) (attempt : Attempt)

theorem worksOn_nextRound (request : SubmitMsg) (retry index : Nat) :
    (thread.nextRound numShards request retry index).WorksOn request := by
  unfold nextRound
  split_ifs
  · exact .inl ⟨rfl, by simp⟩
  · exact .inl ⟨rfl, by simp⟩
  · exact .inr rfl

theorem worksOn_failed : (thread.failed numShards attempt).WorksOn attempt.request := by
  unfold failed
  split
  next => exact worksOn_nextRound thread numShards attempt.request _ _
  next => exact .inl ⟨rfl, by simp⟩

theorem worksOn_sendFailed (again : Bool) :
    (thread.sendFailed numShards attempt again).WorksOn attempt.request := by
  unfold sendFailed
  split
  next => exact worksOn_failed thread numShards attempt
  next => exact .inl ⟨rfl, by simp⟩

@[simp] theorem failed_links : (thread.failed numShards attempt).links = thread.links := by
  unfold failed nextRound
  split_ifs <;> rfl

@[simp] theorem sendFailed_links (again : Bool) :
    (thread.sendFailed numShards attempt again).links = thread.links := by
  unfold sendFailed
  split
  next => exact failed_links thread numShards attempt
  next => rfl

end RouterThread

end TaskCoordinator
