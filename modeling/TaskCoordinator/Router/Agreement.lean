import Mathlib.Logic.Relation
import TaskCoordinator.Router.Serving

/-!
# The loops and the thread

The router thread of `TaskCoordinator.Router` is cut at its socket calls, so that other
parties can take steps between them; `Connections.route` handles a request without a break.
Here the second is shown to be a run of the first, with the same connections open.
-/

namespace TaskCoordinator

namespace Router

/-- The steps of a router thread between the receive of a request and the send of its
answer. -/
inductive ThreadStep (numShards : Nat) : RouterThread → RouterThread → Prop where
  | load {thread : RouterThread} {request : SubmitMsg} {retry attempt : Nat}
      (phase : thread.phase = .loading request retry attempt) (current : ActiveTarget) :
      ThreadStep numShards thread (thread.loaded request retry attempt current)
  | connect {thread : RouterThread} {attempt : Attempt} {again : Bool}
      (phase : thread.phase = .trying attempt again)
      (closed : thread.links (thread.endpoint numShards attempt) = false) :
      ThreadStep numShards thread (thread.setLink (thread.endpoint numShards attempt) true)
  | connectFailed {thread : RouterThread} {attempt : Attempt} {again : Bool}
      (phase : thread.phase = .trying attempt again)
      (closed : thread.links (thread.endpoint numShards attempt) = false) :
      ThreadStep numShards thread (thread.failed numShards attempt)
  | send {thread : RouterThread} {attempt : Attempt} {again : Bool}
      (phase : thread.phase = .trying attempt again)
      (isOpen : thread.links (thread.endpoint numShards attempt) = true) :
      ThreadStep numShards thread (thread.sent attempt)
  | sendFailed {thread : RouterThread} {attempt : Attempt} {again : Bool}
      (phase : thread.phase = .trying attempt again)
      (isOpen : thread.links (thread.endpoint numShards attempt) = true) :
      ThreadStep numShards thread
        ((thread.setLink (thread.endpoint numShards attempt) false).sendFailed numShards attempt
          again)
  | receive {thread : RouterThread} {attempt : Attempt}
      (phase : thread.phase = .awaiting attempt) (response : Message) :
      ThreadStep numShards thread (thread.succeeded numShards response)
  | receiveFailed {thread : RouterThread} {attempt : Attempt}
      (phase : thread.phase = .awaiting attempt) :
      ThreadStep numShards thread
        ((thread.setLink (thread.endpoint numShards attempt) false).failed numShards attempt)

/-- Any number of steps. -/
def ThreadRun (numShards : Nat) : RouterThread → RouterThread → Prop :=
  Relation.ReflTransGen (ThreadStep numShards)

theorem ThreadRun.refl (numShards : Nat) (thread : RouterThread) :
    ThreadRun numShards thread thread :=
  Relation.ReflTransGen.refl

theorem ThreadRun.trans {numShards : Nat} {first second third : RouterThread}
    (run : ThreadRun numShards first second) (run' : ThreadRun numShards second third) :
    ThreadRun numShards first third :=
  Relation.ReflTransGen.trans run run'

theorem ThreadRun.single {numShards : Nat} {first second : RouterThread}
    (step : ThreadStep numShards first second) : ThreadRun numShards first second :=
  Relation.ReflTransGen.single step

namespace Connections

/-- The coordinators to which a connection is open. -/
def links (s : Connections) : Endpoint → Bool :=
  fun endpoint => (s.fd endpoint).isSome

theorem links_closeConnection (s : Connections) (endpoint : Endpoint) :
    (s.closeConnection endpoint).links = Function.update s.links endpoint false := by
  funext other
  simp only [links, closeConnection, Function.update_apply]
  split <;> rfl

theorem links_connect (s : Connections) (endpoint : Endpoint) :
    (s.connect endpoint true).1.links = Function.update s.links endpoint true := by
  funext other
  simp only [links, connect, closeConnection, if_true, Function.update_apply]
  split <;> rfl

/-- The thread with these connections. -/
def thread (s : Connections) (routingIndex : Nat) (phase : RouterPhase) : RouterThread where
  routingIndex
  links := s.links
  phase

variable {s : Connections} {routingIndex numShards : Nat} {attempt : Attempt} {again : Bool}
variable {endpoint : Endpoint} {connection : Nat} {request : Message}

theorem setLink_false (phase : RouterPhase) :
    (s.thread routingIndex phase).setLink endpoint false =
      (s.closeConnection endpoint).thread routingIndex phase := by
  simp only [thread, RouterThread.setLink, links_closeConnection]

theorem setLink_true (phase : RouterPhase) :
    (s.thread routingIndex phase).setLink endpoint true =
      (s.connect endpoint true).1.thread routingIndex phase := by
  simp only [thread, RouterThread.setLink, links_connect]

/-- Where the thread stands after a call of `try_connection`. -/
def ended (numShards routingIndex : Nat) (attempt : Attempt)
    (out : Connections × Option Message) : RouterThread :=
  match out.2 with
  | none => (out.1.thread routingIndex (.awaiting attempt)).failed numShards attempt
  | some response =>
      (out.1.thread routingIndex (.awaiting attempt)).succeeded numShards response

/-- The endpoint that an attempt is about does not depend on the connections. -/
def target (numShards routingIndex : Nat) (attempt : Attempt) : Endpoint where
  shard := (routingIndex + attempt.attempt) % numShards
  target := if attempt.fallback then attempt.current.other else attempt.current

theorem awaitResponse_run (isOpen : s.fd (target numShards routingIndex attempt) = some connection)
    (received : Option Message) :
    ThreadRun numShards (s.thread routingIndex (.awaiting attempt))
      (ended numShards routingIndex attempt
        (s.awaitResponse (target numShards routingIndex attempt) received)) := by
  unfold awaitResponse receiveWithRetry
  rw [isOpen]
  cases received with
  | none =>
      apply ThreadRun.single
      dsimp only [ended]
      rw [← setLink_false]
      exact .receiveFailed rfl
  | some response =>
      apply ThreadRun.single
      exact .receive rfl response

theorem closeConnection_closeConnection (s : Connections) (endpoint : Endpoint) :
    (s.closeConnection endpoint).closeConnection endpoint = s.closeConnection endpoint := by
  simp only [closeConnection, Function.update_idem]

theorem connect_closeConnection (s : Connections) (endpoint : Endpoint) (accepted : Bool) :
    (s.closeConnection endpoint).connect endpoint accepted = s.connect endpoint accepted := by
  simp only [connect, closeConnection_closeConnection]
  rfl

theorem links_of_open (isOpen : s.fd endpoint = some connection) : s.links endpoint = true := by
  rw [links, isOpen]
  rfl

theorem links_of_closed (closed : s.fd endpoint = none) : s.links endpoint = false := by
  rw [links, closed]
  rfl

theorem fd_closeConnection (s : Connections) (endpoint : Endpoint) :
    (s.closeConnection endpoint).fd endpoint = none := by
  simp [closeConnection]

theorem fd_connect (s : Connections) (endpoint : Endpoint) :
    (s.connect endpoint true).1.fd endpoint = some s.opened := by
  simp [connect]

theorem send_run (isOpen : s.fd (target numShards routingIndex attempt) = some connection) :
    ThreadRun numShards (s.thread routingIndex (.trying attempt again))
      ((s.record (.sent connection request)).thread routingIndex (.awaiting attempt)) := by
  apply ThreadRun.single
  exact .send rfl (links_of_open isOpen)

theorem sendFailed_run
    (isOpen : s.fd (target numShards routingIndex attempt) = some connection) :
    ThreadRun numShards (s.thread routingIndex (.trying attempt again))
      (((s.closeConnection (target numShards routingIndex attempt)).thread routingIndex
        (.trying attempt again)).sendFailed numShards attempt again) := by
  apply ThreadRun.single
  rw [← setLink_false]
  exact .sendFailed rfl (links_of_open isOpen)

theorem connectFailed_run (again : Bool)
    (closed : s.fd (target numShards routingIndex attempt) = none) :
    ThreadRun numShards (s.thread routingIndex (.trying attempt again))
      ((s.thread routingIndex (.awaiting attempt)).failed numShards attempt) := by
  apply ThreadRun.single
  exact .connectFailed rfl (links_of_closed closed)

theorem connect_run (again : Bool)
    (closed : s.fd (target numShards routingIndex attempt) = none) :
    ThreadRun numShards (s.thread routingIndex (.trying attempt again))
      ((s.connect (target numShards routingIndex attempt) true).1.thread routingIndex
        (.trying attempt again)) := by
  apply ThreadRun.single
  rw [← setLink_true]
  exact .connect rfl (links_of_closed closed)

/-- Where the thread gets from `first` when it sends a request: to the receive of the
response, or to the end of the attempt. -/
def Sends (numShards routingIndex : Nat) (attempt : Attempt) (first : RouterThread)
    (out : Connections × Bool) : Prop :=
  match out.2 with
  | false => ThreadRun numShards first
      ((out.1.thread routingIndex (.awaiting attempt)).failed numShards attempt)
  | true => (∃ connection, out.1.fd (target numShards routingIndex attempt) = some connection) ∧
      ThreadRun numShards first (out.1.thread routingIndex (.awaiting attempt))

theorem Sends.after {first second : RouterThread} {out : Connections × Bool}
    (run : ThreadRun numShards first second)
    (sends : Sends numShards routingIndex attempt second out) :
    Sends numShards routingIndex attempt first out := by
  obtain ⟨s', sent⟩ := out
  cases sent with
  | false => exact run.trans sends
  | true => exact ⟨sends.1, run.trans sends.2⟩

/-- A send on an open connection, the second one of an attempt. -/
theorem sends_again (isOpen : s.fd (target numShards routingIndex attempt) = some connection)
    (request : Message) (sent : Bool) :
    Sends numShards routingIndex attempt (s.thread routingIndex (.trying attempt true))
      (match s.sendWithRetry (target numShards routingIndex attempt) request sent with
        | (s', false) => (s'.closeConnection (target numShards routingIndex attempt), false)
        | (s', true) => (s', true)) := by
  unfold sendWithRetry
  rw [isOpen]
  cases sent with
  | false => exact sendFailed_run isOpen
  | true => exact ⟨⟨connection, isOpen⟩, send_run isOpen⟩

theorem reconnectAndSend_run (s : Connections) (request : Message) (calls : Calls) :
    Sends numShards routingIndex attempt
      ((s.closeConnection (target numShards routingIndex attempt)).thread routingIndex
        (.trying attempt true))
      (s.reconnectAndSend (target numShards routingIndex attempt) request calls) := by
  have closed := fd_closeConnection s (target numShards routingIndex attempt)
  unfold reconnectAndSend
  cases calls.reconnect with
  | false =>
      change ThreadRun numShards _ ((((s.closeConnection _).closeConnection _).thread routingIndex
        (.awaiting attempt)).failed numShards attempt)
      rw [closeConnection_closeConnection]
      exact connectFailed_run true closed
  | true =>
      have connected := connect_run true closed
      rw [connect_closeConnection] at connected
      exact (sends_again (fd_connect s _) request calls.resend).after connected

theorem sendOrReconnect_run
    (isOpen : s.fd (target numShards routingIndex attempt) = some connection)
    (request : Message) (calls : Calls) :
    Sends numShards routingIndex attempt (s.thread routingIndex (.trying attempt false))
      (s.sendOrReconnect (target numShards routingIndex attempt) request calls) := by
  unfold sendOrReconnect sendWithRetry
  rw [isOpen]
  cases calls.send with
  | false => exact (reconnectAndSend_run s request calls).after (sendFailed_run isOpen)
  | true => exact ⟨⟨connection, isOpen⟩, send_run isOpen⟩

theorem sendAndAwait_run
    (isOpen : s.fd (target numShards routingIndex attempt) = some connection)
    (request : Message) (calls : Calls) :
    ThreadRun numShards (s.thread routingIndex (.trying attempt false))
      (ended numShards routingIndex attempt
        (s.sendAndAwait (target numShards routingIndex attempt) request calls)) := by
  have sends := sendOrReconnect_run isOpen request calls
  unfold sendAndAwait
  generalize s.sendOrReconnect (target numShards routingIndex attempt) request calls = out
    at sends ⊢
  obtain ⟨s', sent⟩ := out
  cases sent with
  | false => exact sends
  | true =>
      obtain ⟨⟨connection', isOpen'⟩, run⟩ := sends
      exact run.trans (awaitResponse_run isOpen' calls.receive)

theorem attemptConnection_run (s : Connections) (request : Message) (calls : Calls) :
    ThreadRun numShards (s.thread routingIndex (.trying attempt false))
      (ended numShards routingIndex attempt
        (s.attemptConnection (target numShards routingIndex attempt) request calls)) := by
  unfold attemptConnection ensureOpen
  cases reached : s.fd (target numShards routingIndex attempt) with
  | some connection => exact sendAndAwait_run reached request calls
  | none =>
      dsimp only
      cases calls.connect with
      | false =>
          have same : s.closeConnection (target numShards routingIndex attempt) = s := by
            rw [closeConnection, ← reached, Function.update_eq_self]
          change ThreadRun numShards _ (((s.closeConnection _).thread routingIndex
            (.awaiting attempt)).failed numShards attempt)
          rw [same]
          exact connectFailed_run false reached
      | true =>
          exact (connect_run false reached).trans
            (sendAndAwait_run (fd_connect s _) request calls)

/-- A call of `try_connection`. -/
theorem tryConnection_run (numShards routingIndex : Nat) (attempt : Attempt)
    (s : Connections) (request : Message) (calls : Calls) :
    ThreadRun numShards (s.thread routingIndex (.trying attempt false))
      (ended numShards routingIndex attempt
        (s.tryConnection (target numShards routingIndex attempt) request calls)) :=
  attemptConnection_run s request calls

/-! ## The loops over the shards -/

/-- Where the thread stands after a round, or after several rounds of which this is the last:
at `next` if none of them has succeeded. -/
def continued (numShards routingIndex : Nat) (next : RouterThread → RouterThread)
    (out : Connections × Option Message) : RouterThread :=
  match out.2 with
  | none => next (out.1.thread routingIndex .receiving)
  | some response => (out.1.thread routingIndex .receiving).succeeded numShards response

variable {rounds : Nat → Nat → Round} {retry : Nat}

/-- A round of the inner loop. -/
theorem tryShard_run (s : Connections) (index : Nat) :
    ThreadRun numShards (s.thread routingIndex (.loading request.submit retry index))
      (continued numShards routingIndex (·.nextRound numShards request.submit retry index)
        (tryShard numShards routingIndex request (rounds retry) index s)) := by
  let attempt (fallback : Bool) : Attempt :=
    ⟨request.submit, retry, index, (rounds retry index).current, fallback⟩
  have load : ThreadRun numShards (s.thread routingIndex (.loading request.submit retry index))
      (s.thread routingIndex (.trying (attempt false) false)) := .single (.load rfl _)
  have active := load.trans (tryConnection_run numShards routingIndex (attempt false) s request
    (rounds retry index).first)
  simp only [tryShard]
  split
  next s' response made =>
    change s.tryConnection (target numShards routingIndex (attempt false)) request _ = _ at made
    rw [made] at active
    exact active
  next s' made =>
    change s.tryConnection (target numShards routingIndex (attempt false)) request _ = _ at made
    rw [made] at active
    exact active.trans (tryConnection_run numShards routingIndex (attempt true) s' request
      (rounds retry index).second)

/-- A round, and the rounds after it if it fails. -/
theorem continued_cons {attempt : Nat → Connections → Connections × Option Message}
    {index : Nat} {rest : List Nat} {first : RouterThread}
    {next next' : RouterThread → RouterThread}
    (round : ThreadRun numShards first
      (continued numShards routingIndex next (attempt index s)))
    (others : ∀ s' : Connections, ThreadRun numShards (next (s'.thread routingIndex .receiving))
      (continued numShards routingIndex next' (Attempts.firstSuccess attempt rest s'))) :
    ThreadRun numShards first (continued numShards routingIndex next'
      (Attempts.firstSuccess attempt (index :: rest) s)) := by
  rw [Attempts.firstSuccess]
  split
  next s' response made =>
    rw [made] at round
    exact round
  next s' made =>
    rw [made] at round
    exact round.trans (others s')

/-- The rounds of the inner loop from `index` on. -/
theorem tryShards_run_from {last count index : Nat} (s : Connections)
    (shards : last + 1 = numShards) (reaches : index + count = last) :
    ThreadRun numShards (s.thread routingIndex (.loading request.submit retry index))
      (continued numShards routingIndex (·.nextRound numShards request.submit retry last)
        (Attempts.firstSuccess (tryShard numShards routingIndex request (rounds retry))
          (List.range' index (count + 1)) s)) := by
  induction count generalizing index s with
  | zero =>
      rw [← reaches]
      exact continued_cons (tryShard_run s index) fun s' => .refl numShards _
  | succ count ih =>
      refine continued_cons (tryShard_run s index) fun s' => ?_
      have more : index + 1 < numShards := by omega
      rw [RouterThread.nextRound, if_pos more]
      exact ih s' (by omega)

/-- The inner loop. -/
theorem tryShards_run {last : Nat} (shards : last + 1 = numShards) (s : Connections)
    (retry : Nat) :
    ThreadRun numShards (s.thread routingIndex (.loading request.submit retry 0))
      (continued numShards routingIndex (·.nextRound numShards request.submit retry last)
        (tryShards numShards routingIndex request rounds retry s)) := by
  rw [tryShards, List.range_eq_range', ← shards]
  exact tryShards_run_from s rfl (Nat.zero_add last)

/-- The rounds of the outer loop from `retry` on. -/
theorem route_run_from {last count retry : Nat} (s : Connections)
    (shards : last + 1 = numShards) (reaches : retry + count = Config.retryShards) :
    ThreadRun numShards (s.thread routingIndex (.loading request.submit retry 0))
      (continued numShards routingIndex
        (fun thread =>
          { thread with phase := .answering (RouterThread.failMessage request.submit) })
        (Attempts.firstSuccess (tryShards numShards routingIndex request rounds)
          (List.range' retry (count + 1)) s)) := by
  have noMore : ¬ last + 1 < numShards := by omega
  induction count generalizing retry s with
  | zero =>
      refine continued_cons (tryShards_run shards s retry) fun s' => ?_
      have done : ¬ retry + 1 ≤ Config.retryShards := by omega
      rw [RouterThread.nextRound, if_neg noMore, if_neg done]
      exact .refl numShards _
  | succ count ih =>
      refine continued_cons (tryShards_run shards s retry) fun s' => ?_
      have more : retry + 1 ≤ Config.retryShards := by omega
      rw [RouterThread.nextRound, if_neg noMore, if_pos more]
      exact ih s' (by omega)

/-- What is done for a request from its receive to the send of its answer is a run of the
thread, which ends with the same connections and the same answer. -/
theorem route_run (shards : 0 < numShards) (s : Connections) (routingIndex : Nat)
    (request : Message) (rounds : Nat → Nat → Round) :
    ThreadRun numShards ((s.thread routingIndex .receiving).begin request.submit)
      (continued numShards routingIndex
        (fun thread =>
          { thread with phase := .answering (RouterThread.failMessage request.submit) })
        (s.route numShards routingIndex request rounds)) := by
  rw [route, List.range_eq_range']
  exact route_run_from s (Nat.sub_add_cancel shards) (Nat.zero_add Config.retryShards)

end Connections

end Router

end TaskCoordinator
