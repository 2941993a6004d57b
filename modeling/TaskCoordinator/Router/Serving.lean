import TaskCoordinator.Library.Attempts
import TaskCoordinator.Router

/-!
# The requests of one client

`Router::worker` from its first request to its end, as a function of the requests and of what
the thread observes: the values of `active_target_` it loads and the outcomes of its socket
calls.  Both loops over the shards end after finitely many rounds, so the function is total.

The log keeps what the thread does at its sockets, in order.  The connections to the
coordinators are numbered in the order in which they are opened, so that a connection that
was opened again is another one.  A call that fails transfers nothing.
-/

namespace TaskCoordinator

namespace Router

/-- What the thread does, as far as the client and the coordinators can tell, and the end of
every call of `try_connection`. -/
inductive RouterEvent where
  /-- A request of the client is read. -/
  | read (request : Message)
  | sent (connection : Nat) (request : Message)
  | received (connection : Nat) (response : Message)
  | returned (endpoint : Endpoint) (success : Bool)
  /-- A message is passed to the connection of the client, which may fail to deliver it. -/
  | passed (answer : Message) (delivered : Bool)

/-- The outcomes of the socket calls in one call of `try_connection`, as far as they are
made. -/
structure Calls where
  connect : Bool
  send : Bool
  reconnect : Bool
  resend : Bool
  receive : Option Message

/-- What the outcomes come to, on a connection that is open before or not: the response, if there
is a connection, one of the sends on it succeeds and so does the receive. -/
def Calls.response (calls : Calls) (isOpen : Bool) : Option Message :=
  if (isOpen || calls.connect) && (calls.send || calls.reconnect && calls.resend) then
    calls.receive
  else
    none

/-- What one round of the inner loop observes.  The thread itself moves `active_target_` after
a success of the second call; since other threads do so too, every load may see any value. -/
structure Round where
  current : ActiveTarget
  first : Calls
  second : Calls

/-- A request of the client, with the observations for every `retry` and `attempt` and the
outcome of the send of the answer. -/
structure Turn where
  request : Message
  rounds : Nat → Nat → Round
  delivered : Bool

/-- The `rpc::Client` objects of the thread. -/
structure Connections where
  /-- The number of the connection to a coordinator, if `sock_fd_` is not negative. -/
  fd : Endpoint → Option Nat := fun _ => none
  /-- How many connections have been opened. -/
  opened : Nat := 0
  log : List RouterEvent := []

namespace Connections

def record (s : Connections) (event : RouterEvent) : Connections :=
  { s with log := s.log ++ [event] }

/-! ## `rpc::Client` -/

def closeConnection (s : Connections) (endpoint : Endpoint) : Connections :=
  { s with fd := Function.update s.fd endpoint none }

def connect (s : Connections) (endpoint : Endpoint) (accepted : Bool) : Connections × Bool :=
  let closed := s.closeConnection endpoint
  if accepted then
    ({ closed with
        fd := Function.update closed.fd endpoint (some s.opened), opened := s.opened + 1 }, true)
  else
    (closed, false)

def sendWithRetry (s : Connections) (endpoint : Endpoint) (request : Message) (sent : Bool) :
    Connections × Bool :=
  match s.fd endpoint, sent with
  | some connection, true => (s.record (.sent connection request), true)
  | _, _ => (s, false)

def receiveWithRetry (s : Connections) (endpoint : Endpoint) (received : Option Message) :
    Connections × Option Message :=
  match s.fd endpoint, received with
  | some connection, some response => (s.record (.received connection response), some response)
  | _, _ => (s, none)

/-! ## `Router::try_connection` -/

/-- The connection is open, or it is opened now. -/
def ensureOpen (s : Connections) (endpoint : Endpoint) (accepted : Bool) : Connections × Bool :=
  match s.fd endpoint with
  | none => s.connect endpoint accepted
  | some _ => (s, true)

/-- The request is sent over a new connection. -/
def reconnectAndSend (s : Connections) (endpoint : Endpoint) (request : Message)
    (calls : Calls) : Connections × Bool :=
  match s.connect endpoint calls.reconnect with
  | (s', false) => (s'.closeConnection endpoint, false)
  | (s', true) =>
      match s'.sendWithRetry endpoint request calls.resend with
      | (s'', false) => (s''.closeConnection endpoint, false)
      | (s'', true) => (s'', true)

/-- The request is sent, if need be over a new connection. -/
def sendOrReconnect (s : Connections) (endpoint : Endpoint) (request : Message)
    (calls : Calls) : Connections × Bool :=
  match s.sendWithRetry endpoint request calls.send with
  | (s', true) => (s', true)
  | (s', false) => s'.reconnectAndSend endpoint request calls

/-- The response is received, or the connection is closed. -/
def awaitResponse (s : Connections) (endpoint : Endpoint) (received : Option Message) :
    Connections × Option Message :=
  match s.receiveWithRetry endpoint received with
  | (s', some response) => (s', some response)
  | (s', none) => (s'.closeConnection endpoint, none)

/-- From the first send to the end. -/
def sendAndAwait (s : Connections) (endpoint : Endpoint) (request : Message)
    (calls : Calls) : Connections × Option Message :=
  match s.sendOrReconnect endpoint request calls with
  | (s', false) => (s', none)
  | (s', true) => s'.awaitResponse endpoint calls.receive

/-- The body of `try_connection`; a response stands for `true`. -/
def attemptConnection (s : Connections) (endpoint : Endpoint) (request : Message)
    (calls : Calls) : Connections × Option Message :=
  match s.ensureOpen endpoint calls.connect with
  | (s', false) => (s', none)
  | (s', true) => s'.sendAndAwait endpoint request calls

def tryConnection (s : Connections) (endpoint : Endpoint) (request : Message)
    (calls : Calls) : Connections × Option Message :=
  let (s', response) := s.attemptConnection endpoint request calls
  (s'.record (.returned endpoint response.isSome), response)

/-! ## `Router::worker` -/

/-- A round of the inner loop: the active endpoint of a shard, then the other one. -/
def tryShard (numShards routingIndex : Nat) (request : Message) (rounds : Nat → Round)
    (attempt : Nat) (s : Connections) : Connections × Option Message :=
  let idx := (routingIndex + attempt) % numShards
  let round := rounds attempt
  match s.tryConnection ⟨idx, round.current⟩ request round.first with
  | (s', some response) => (s', some response)
  | (s', none) => s'.tryConnection ⟨idx, round.current.other⟩ request round.second

/-- The inner loop. -/
def tryShards (numShards routingIndex : Nat) (request : Message)
    (rounds : Nat → Nat → Round) (retry : Nat) (s : Connections) :
    Connections × Option Message :=
  Attempts.firstSuccess (tryShard numShards routingIndex request (rounds retry))
    (List.range numShards) s

/-- Both loops. -/
def route (numShards routingIndex : Nat) (request : Message) (rounds : Nat → Nat → Round)
    (s : Connections) : Connections × Option Message :=
  Attempts.firstSuccess (tryShards numShards routingIndex request rounds)
    (List.range (Config.retryShards + 1)) s

/-- All connections are closed at the end. -/
def closeConnections (s : Connections) : Connections :=
  { s with fd := fun _ => none }

/-- The loop of `worker` over the requests.  It ends when a request cannot be received, when
an answer cannot be sent, or when the router is stopped. -/
def serve (numShards : Nat) : List Turn → Nat → Connections → Connections
  | [], _, s => s.closeConnections
  | turn :: rest, routingIndex, s =>
      match (s.record (.read turn.request)).route numShards routingIndex turn.request
          turn.rounds with
      | (s', none) =>
          let failMsg := RouterThread.failMessage turn.request.submit
          let s'' := s'.record (.passed failMsg turn.delivered)
          if turn.delivered then serve numShards rest routingIndex s'' else s''.closeConnections
      | (s', some response) =>
          let s'' := s'.record (.passed response turn.delivered)
          if turn.delivered then
            serve numShards rest ((routingIndex + 1) % numShards) s''
          else
            s''.closeConnections

end Connections

/-- `Router::worker`, with the hash of the thread's id. -/
def worker (numShards hash : Nat) (turns : List Turn) : Connections :=
  Connections.serve numShards turns (hash % numShards) {}

/-! ## The traffic on a connection -/

/-- A message on a connection to a coordinator. -/
inductive Traffic where
  | request (msg : Message)
  | response (msg : Message)

/-- The message that an event puts on a connection or takes from it. -/
def RouterEvent.on? (connection : Nat) : RouterEvent → Option Traffic
  | .sent other request => if other = connection then some (.request request) else none
  | .received other response => if other = connection then some (.response response) else none
  | .read _ | .returned _ _ | .passed _ _ => none

def traffic (connection : Nat) (log : List RouterEvent) : List Traffic :=
  log.filterMap (RouterEvent.on? connection)

/-- Every request on the connection has been followed by exactly one response, before the
next request. -/
def Settled (connection : Nat) (log : List RouterEvent) : Prop :=
  ∃ exchanges : List (Message × Message),
    traffic connection log = exchanges.flatMap fun exchange =>
      [.request exchange.1, .response exchange.2]

/-- Whenever a request is sent, all earlier requests on its connection have been answered. -/
def NeverPipelines (log : List RouterEvent) : Prop :=
  ∀ before connection request after,
    log = before ++ .sent connection request :: after → Settled connection before

/-- The event is neither a send nor a receive of the thread at a coordinator. -/
def RouterEvent.Quiet (event : RouterEvent) : Prop :=
  ∀ connection, event.on? connection = none

variable {log : List RouterEvent} {event : RouterEvent} {connection other : Nat}
variable {request response : Message}

theorem traffic_append_of_quiet (quiet : event.Quiet) :
    traffic connection (log ++ [event]) = traffic connection log := by
  simp [traffic, quiet connection]

@[simp] theorem traffic_append_sent_self :
    traffic connection (log ++ [.sent connection request]) =
      traffic connection log ++ [.request request] := by
  simp [traffic, RouterEvent.on?]

@[simp] theorem traffic_append_received_self :
    traffic connection (log ++ [.received connection response]) =
      traffic connection log ++ [.response response] := by
  simp [traffic, RouterEvent.on?]

theorem traffic_append_sent_of_ne (ne : connection ≠ other) :
    traffic other (log ++ [.sent connection request]) = traffic other log := by
  simp [traffic, RouterEvent.on?, ne]

theorem traffic_append_received_of_ne (ne : connection ≠ other) :
    traffic other (log ++ [.received connection response]) = traffic other log := by
  simp [traffic, RouterEvent.on?, ne]

/-- Without any traffic there is nothing to be answered. -/
theorem settled_of_traffic_eq_nil (unused : traffic connection log = []) :
    Settled connection log :=
  ⟨[], unused⟩

theorem Settled.of_traffic_eq {log' : List RouterEvent} (settled : Settled connection log)
    (same : traffic connection log' = traffic connection log) : Settled connection log' := by
  obtain ⟨exchanges, eq⟩ := settled
  exact ⟨exchanges, same.trans eq⟩

/-- A request and its response settle a connection again. -/
theorem Settled.exchange (settled : Settled connection log) (request response : Message) :
    Settled connection
      (log ++ [.sent connection request] ++ [.received connection response]) := by
  obtain ⟨exchanges, eq⟩ := settled
  refine ⟨exchanges ++ [(request, response)], ?_⟩
  rw [traffic_append_received_self, traffic_append_sent_self, eq]
  simp

/-- One more event keeps the property if, in case it is a send, its connection is settled. -/
theorem NeverPipelines.append (never : NeverPipelines log)
    (settled : ∀ connection request, event = .sent connection request → Settled connection log) :
    NeverPipelines (log ++ [event]) := by
  intro before connection request after eq
  rcases List.eq_nil_or_concat after with rfl | ⟨earlier, last, rfl⟩
  · obtain ⟨rfl, same⟩ := List.append_inj' eq rfl
    exact settled connection request (List.singleton_inj.mp same)
  · have regrouped : log ++ [event] = (before ++ .sent connection request :: earlier) ++ [last] := by
      simpa using eq
    obtain ⟨rfl, -⟩ := List.append_inj' regrouped rfl
    exact never before connection request earlier rfl

namespace Connections

/-! ## The connections between two attempts -/

/-- What holds whenever no attempt is under way: an open connection is settled, and no number
is in use twice. -/
structure Sound (s : Connections) : Prop where
  bounded : ∀ endpoint connection, s.fd endpoint = some connection → connection < s.opened
  fresh : ∀ connection, s.opened ≤ connection → traffic connection s.log = []
  apart : ∀ endpoint endpoint' connection,
    s.fd endpoint = some connection → s.fd endpoint' = some connection → endpoint = endpoint'
  settled : ∀ endpoint connection,
    s.fd endpoint = some connection → Settled connection s.log
  neverPipelines : NeverPipelines s.log

variable {s : Connections} {endpoint : Endpoint}

/-- Closing connections keeps the rest. -/
theorem Sound.of_fewer {fd : Endpoint → Option Nat} (sound : s.Sound)
    (fewer : ∀ endpoint connection, fd endpoint = some connection →
      s.fd endpoint = some connection) : Sound { s with fd } where
  bounded := fun endpoint connection isOpen =>
    sound.bounded endpoint connection (fewer _ _ isOpen)
  fresh := sound.fresh
  apart := fun endpoint endpoint' connection isOpen isOpen' =>
    sound.apart endpoint endpoint' connection (fewer _ _ isOpen) (fewer _ _ isOpen')
  settled := fun endpoint connection isOpen =>
    sound.settled endpoint connection (fewer _ _ isOpen)
  neverPipelines := sound.neverPipelines

theorem fd_of_closed {other : Endpoint} {connection : Nat}
    (isOpen : (s.closeConnection endpoint).fd other = some connection) :
    other ≠ endpoint ∧ s.fd other = some connection := by
  simp only [closeConnection, Function.update_apply] at isOpen
  split at isOpen
  next => cases isOpen
  next ne => exact ⟨ne, isOpen⟩

theorem Sound.closeConnection (sound : s.Sound) (endpoint : Endpoint) :
    (s.closeConnection endpoint).Sound :=
  sound.of_fewer fun _ _ isOpen => (fd_of_closed isOpen).2

theorem Sound.closeConnections (sound : s.Sound) : s.closeConnections.Sound :=
  sound.of_fewer fun _ _ isOpen => by cases isOpen

/-- A new connection has not been used. -/
theorem Sound.connect (sound : s.Sound) (endpoint : Endpoint) (accepted : Bool) :
    (s.connect endpoint accepted).1.Sound := by
  have closed := sound.closeConnection endpoint
  cases accepted with
  | false => exact closed
  | true =>
      have opened : ∀ other connection, (s.connect endpoint true).1.fd other = some connection →
          (other = endpoint ∧ connection = s.opened) ∨
            (s.closeConnection endpoint).fd other = some connection := by
        intro other connection isOpen
        simp only [Connections.connect, if_true, Function.update_apply] at isOpen
        split at isOpen
        next same => exact .inl ⟨same, (Option.some.inj isOpen).symm⟩
        next => exact .inr isOpen
      refine ⟨?_, ?_, ?_, ?_, closed.neverPipelines⟩
      · intro other connection isOpen
        rcases opened other connection isOpen with ⟨-, rfl⟩ | before
        · exact Nat.lt_succ_self _
        · exact Nat.lt_succ_of_lt (closed.bounded other connection before)
      · intro connection beyond
        exact sound.fresh connection (Nat.le_of_succ_le beyond)
      · intro first second connection isOpen isOpen'
        rcases opened first connection isOpen with ⟨rfl, rfl⟩ | before
        · rcases opened second _ isOpen' with ⟨rfl, -⟩ | before'
          · rfl
          · exact absurd (closed.bounded second _ before') (Nat.lt_irrefl _)
        · rcases opened second connection isOpen' with ⟨rfl, rfl⟩ | before'
          · exact absurd (closed.bounded first _ before) (Nat.lt_irrefl _)
          · exact closed.apart first second connection before before'
      · intro other connection isOpen
        rcases opened other connection isOpen with ⟨-, rfl⟩ | before
        · exact settled_of_traffic_eq_nil (sound.fresh _ (Nat.le_refl _))
        · exact closed.settled other connection before

/-- An event that is no traffic changes nothing. -/
theorem Sound.record_of_quiet (sound : s.Sound) (quiet : event.Quiet) :
    (s.record event).Sound where
  bounded := sound.bounded
  fresh := fun connection beyond => by
    rw [record, traffic_append_of_quiet quiet]
    exact sound.fresh connection beyond
  apart := sound.apart
  settled := fun endpoint connection isOpen =>
    (sound.settled endpoint connection isOpen).of_traffic_eq (traffic_append_of_quiet quiet)
  neverPipelines := sound.neverPipelines.append fun connection request same => by
    have silent := quiet connection
    simp [same, RouterEvent.on?] at silent

/-- A request whose response is not received, on a connection that is then closed. -/
theorem Sound.unanswered (sound : s.Sound) (isOpen : s.fd endpoint = some connection)
    (request : Message) :
    ((s.record (.sent connection request)).closeConnection endpoint).Sound where
  bounded := fun other number stillOpen =>
    sound.bounded other number (fd_of_closed stillOpen).2
  fresh := fun number beyond => by
    have used := sound.bounded endpoint connection isOpen
    have ne : connection ≠ number := fun same =>
      absurd used (Nat.not_lt.mpr (same ▸ beyond))
    exact (traffic_append_sent_of_ne ne).trans (sound.fresh number beyond)
  apart := fun first second number stillOpen stillOpen' =>
    sound.apart first second number (fd_of_closed stillOpen).2 (fd_of_closed stillOpen').2
  settled := fun other number stillOpen => by
    obtain ⟨elsewhere, before⟩ := fd_of_closed stillOpen
    have ne : connection ≠ number := fun same =>
      elsewhere (sound.apart other endpoint number before (same ▸ isOpen))
    exact (sound.settled other number before).of_traffic_eq (traffic_append_sent_of_ne ne)
  neverPipelines := sound.neverPipelines.append fun number sent same => by
    cases same
    exact sound.settled endpoint connection isOpen

/-- A request and its response. -/
theorem Sound.exchange (sound : s.Sound) (isOpen : s.fd endpoint = some connection)
    (request response : Message) :
    ((s.record (.sent connection request)).record (.received connection response)).Sound where
  bounded := sound.bounded
  fresh := fun number beyond => by
    have used := sound.bounded endpoint connection isOpen
    have ne : connection ≠ number := fun same =>
      absurd used (Nat.not_lt.mpr (same ▸ beyond))
    exact (traffic_append_received_of_ne ne).trans
      ((traffic_append_sent_of_ne ne).trans (sound.fresh number beyond))
  apart := sound.apart
  settled := fun other number stillOpen => by
    by_cases same : connection = number
    · subst same
      exact (sound.settled endpoint connection isOpen).exchange request response
    · exact (sound.settled other number stillOpen).of_traffic_eq
        ((traffic_append_received_of_ne same).trans (traffic_append_sent_of_ne same))
  neverPipelines := by
    have sent : NeverPipelines (s.log ++ [.sent connection request]) :=
      sound.neverPipelines.append fun number msg same => by
        cases same
        exact sound.settled endpoint connection isOpen
    exact sent.append fun number msg same => by cases same

/-! ## What one attempt does -/

/-- Connections have been opened or closed, and nothing has been transferred. -/
structure Reopened (s s' : Connections) : Prop where
  log : s'.log = s.log
  sound : s.Sound → s'.Sound

theorem Reopened.refl (s : Connections) : s.Reopened s :=
  ⟨rfl, id⟩

theorem Reopened.trans {s s' s'' : Connections} (first : s.Reopened s')
    (second : s'.Reopened s'') : s.Reopened s'' :=
  ⟨second.log.trans first.log, second.sound ∘ first.sound⟩

theorem reopened_closeConnection (s : Connections) (endpoint : Endpoint) :
    s.Reopened (s.closeConnection endpoint) :=
  ⟨rfl, fun sound => sound.closeConnection endpoint⟩

theorem reopened_connect (s : Connections) (endpoint : Endpoint) (accepted : Bool) :
    s.Reopened (s.connect endpoint accepted).1 where
  log := by cases accepted <;> rfl
  sound := fun sound => sound.connect endpoint accepted

theorem reopened_ensureOpen (s : Connections) (endpoint : Endpoint) (accepted : Bool) :
    s.Reopened (s.ensureOpen endpoint accepted).1 := by
  unfold ensureOpen
  split
  next => exact reopened_connect s endpoint accepted
  next => exact Reopened.refl s

theorem sendWithRetry_cases (s : Connections) (endpoint : Endpoint) (request : Message)
    (sent : Bool) :
    (∃ connection, s.fd endpoint = some connection ∧
        s.sendWithRetry endpoint request sent =
          (s.record (.sent connection request), true)) ∨
      s.sendWithRetry endpoint request sent = (s, false) := by
  unfold sendWithRetry
  split
  next connection isOpen => exact .inl ⟨connection, isOpen, rfl⟩
  next => exact .inr rfl

/-- The request has gone out on the new connection, or has not gone out. -/
theorem reconnectAndSend_cases (s : Connections) (endpoint : Endpoint) (request : Message)
    (calls : Calls) :
    ∃ ready, s.Reopened ready ∧
      ((∃ connection, ready.fd endpoint = some connection ∧
          s.reconnectAndSend endpoint request calls =
            (ready.record (.sent connection request), true)) ∨
        s.reconnectAndSend endpoint request calls = (ready, false)) := by
  unfold reconnectAndSend
  have reopened := reopened_connect s endpoint calls.reconnect
  generalize s.connect endpoint calls.reconnect = reconnected at reopened ⊢
  obtain ⟨s', connected⟩ := reconnected
  have closed := reopened.trans (reopened_closeConnection s' endpoint)
  cases connected with
  | false => exact ⟨_, closed, .inr rfl⟩
  | true =>
      rcases sendWithRetry_cases s' endpoint request calls.resend with
        ⟨connection, isOpen, sent⟩ | refused
      · simp only [sent]
        exact ⟨s', reopened, .inl ⟨connection, isOpen, rfl⟩⟩
      · simp only [refused]
        exact ⟨_, closed, .inr rfl⟩

/-- The request has gone out on an open connection, or has not gone out. -/
theorem sendOrReconnect_cases (s : Connections) (endpoint : Endpoint) (request : Message)
    (calls : Calls) :
    ∃ ready, s.Reopened ready ∧
      ((∃ connection, ready.fd endpoint = some connection ∧
          s.sendOrReconnect endpoint request calls =
            (ready.record (.sent connection request), true)) ∨
        s.sendOrReconnect endpoint request calls = (ready, false)) := by
  unfold sendOrReconnect
  rcases sendWithRetry_cases s endpoint request calls.send with
    ⟨connection, isOpen, sent⟩ | refused
  · rw [sent]
    exact ⟨s, .refl s, .inl ⟨connection, isOpen, rfl⟩⟩
  · rw [refused]
    exact reconnectAndSend_cases s endpoint request calls

/-- The response has come in on the connection, or the connection is closed. -/
theorem awaitResponse_cases {s : Connections} (isOpen : s.fd endpoint = some connection)
    (received : Option Message) :
    (∃ response, s.awaitResponse endpoint received =
        (s.record (.received connection response), some response)) ∨
      s.awaitResponse endpoint received = (s.closeConnection endpoint, none) := by
  unfold awaitResponse receiveWithRetry
  rw [isOpen]
  cases received with
  | none => exact .inr rfl
  | some response => exact .inl ⟨response, rfl⟩

/-- An attempt transfers nothing, or a request without a response, after which the connection
is closed, or a request and its response. -/
theorem attemptConnection_cases (s : Connections) (endpoint : Endpoint) (request : Message)
    (calls : Calls) :
    ∃ ready, s.Reopened ready ∧
      (s.attemptConnection endpoint request calls = (ready, none) ∨
        ∃ connection, ready.fd endpoint = some connection ∧
          (s.attemptConnection endpoint request calls =
              ((ready.record (.sent connection request)).closeConnection endpoint, none) ∨
            ∃ response, s.attemptConnection endpoint request calls =
              ((ready.record (.sent connection request)).record
                (.received connection response), some response))) := by
  unfold attemptConnection sendAndAwait
  have ensured := reopened_ensureOpen s endpoint calls.connect
  generalize s.ensureOpen endpoint calls.connect = opening at ensured ⊢
  obtain ⟨s', isOpen⟩ := opening
  cases isOpen with
  | false => exact ⟨s', ensured, .inl rfl⟩
  | true =>
      obtain ⟨ready, reopened, ⟨connection, isOpen, sent⟩ | refused⟩ :=
        sendOrReconnect_cases s' endpoint request calls
      · simp only [sent]
        refine ⟨ready, ensured.trans reopened, .inr ⟨connection, isOpen, ?_⟩⟩
        have stillOpen : (ready.record (.sent connection request)).fd endpoint =
            some connection := isOpen
        exact (awaitResponse_cases stillOpen calls.receive).symm
      · simp only [refused]
        exact ⟨ready, ensured.trans reopened, .inl rfl⟩

theorem Sound.attemptConnection (sound : s.Sound) (endpoint : Endpoint) (request : Message)
    (calls : Calls) : (s.attemptConnection endpoint request calls).1.Sound := by
  obtain ⟨ready, reopened, none | ⟨connection, isOpen, lost | ⟨response, answered⟩⟩⟩ :=
    attemptConnection_cases s endpoint request calls
  · rw [none]
    exact reopened.sound sound
  · rw [lost]
    exact (reopened.sound sound).unanswered isOpen request
  · rw [answered]
    exact (reopened.sound sound).exchange isOpen request response

theorem Sound.tryConnection (sound : s.Sound) (endpoint : Endpoint) (request : Message)
    (calls : Calls) : (s.tryConnection endpoint request calls).1.Sound :=
  (sound.attemptConnection endpoint request calls).record_of_quiet fun _ => rfl

theorem Sound.tryShard {numShards routingIndex : Nat} {rounds : Nat → Round}
    (sound : s.Sound) (attempt : Nat) :
    (tryShard numShards routingIndex request rounds attempt s).1.Sound := by
  have first := sound.tryConnection
    ⟨(routingIndex + attempt) % numShards, (rounds attempt).current⟩ request
    (rounds attempt).first
  simp only [Connections.tryShard]
  split
  next s' response made =>
    rw [made] at first
    exact first
  next s' made =>
    rw [made] at first
    exact first.tryConnection _ request _

theorem Sound.route {numShards routingIndex : Nat} {rounds : Nat → Nat → Round}
    (sound : s.Sound) : (s.route numShards routingIndex request rounds).1.Sound := by
  apply Attempts.firstSuccess_preserves _ _ sound
  intro retry s' sound'
  apply Attempts.firstSuccess_preserves _ _ sound'
  intro attempt s'' sound''
  exact sound''.tryShard attempt

/-- A round of the loop over the requests: the answer is the response, or the report that
every attempt has failed. -/
theorem serve_cons (numShards : Nat) (turn : Turn) (rest : List Turn) (routingIndex : Nat)
    (s : Connections) :
    ∃ s' answer routingIndex',
      ((s.record (.read turn.request)).route numShards routingIndex turn.request turn.rounds =
          (s', some answer) ∨
        (s.record (.read turn.request)).route numShards routingIndex turn.request turn.rounds =
          (s', none) ∧ answer = RouterThread.failMessage turn.request.submit) ∧
      serve numShards (turn :: rest) routingIndex s =
        if turn.delivered then
          serve numShards rest routingIndex' (s'.record (.passed answer turn.delivered))
        else
          (s'.record (.passed answer turn.delivered)).closeConnections := by
  rw [serve]
  split
  next s' made => exact ⟨s', _, routingIndex, .inr ⟨made, rfl⟩, rfl⟩
  next s' response made =>
    exact ⟨s', response, (routingIndex + 1) % numShards, .inl made, rfl⟩

theorem Sound.serve {numShards : Nat} (turns : List Turn) (routingIndex : Nat)
    (sound : s.Sound) : (serve numShards turns routingIndex s).Sound := by
  induction turns generalizing routingIndex s with
  | nil => exact sound.closeConnections
  | cons turn rest ih =>
      have reading : (s.record (.read turn.request)).Sound :=
        sound.record_of_quiet fun _ => rfl
      have routed : ((s.record (.read turn.request)).route numShards routingIndex turn.request
          turn.rounds).1.Sound := reading.route
      obtain ⟨s', answer, routingIndex', made, eq⟩ :=
        serve_cons numShards turn rest routingIndex s
      have sound' : s'.Sound := by
        rcases made with made | ⟨made, -⟩
        · rw [made] at routed
          exact routed
        · rw [made] at routed
          exact routed
      have passed : (s'.record (.passed answer turn.delivered)).Sound :=
        sound'.record_of_quiet fun _ => rfl
      rw [eq]
      split
      next => exact ih routingIndex' passed
      next => exact passed.closeConnections

end Connections

/-! ## The answer to a request -/

/-- The events of attempts that do not succeed: sends of the request, and returns of
`false`. -/
def RouterEvent.Fruitless (request : Message) : RouterEvent → Prop
  | .sent _ msg => msg = request
  | .returned _ success => success = false
  | .read _ | .received _ _ | .passed _ _ => False

def RouterEvent.isReturn : RouterEvent → Bool
  | .returned _ _ => true
  | _ => false

/-- A request that has been read, what was done for it, and its answer. -/
structure Service where
  request : Message
  attempts : List RouterEvent
  answer : Message
  delivered : Bool

/-- The requests that are read: none after an answer that could not be delivered. -/
def reached : List Turn → List Turn
  | [] => []
  | turn :: rest => turn :: if turn.delivered then reached rest else []

/-- From the request to the answer. -/
def Service.events (service : Service) : List RouterEvent :=
  .read service.request :: (service.attempts ++ [.passed service.answer service.delivered])

namespace Connections

/-- What the given number of calls of `try_connection` may lead to, if the last of them
succeeds or all of them fail. -/
def Outcome (request : Message) (attempts : Nat) (s : Connections)
    (out : Connections × Option Message) : Prop :=
  ∃ failed : List RouterEvent, (∀ event ∈ failed, event.Fruitless request) ∧
    match out.2 with
    | none => out.1.log = s.log ++ failed ∧ failed.countP RouterEvent.isReturn = attempts
    | some response => ∃ connection endpoint,
        out.1.log = s.log ++ (failed ++ [.sent connection request, .received connection response,
          .returned endpoint true])

variable {s s' : Connections} {out : Connections × Option Message} {first second : Nat}

end Connections

-- The primary of the only shard is down; its backup answers.
example (request response : Message) :
    (worker 1 0 [{
      request
      rounds := fun _ _ => {
        current := .primary
        first := ⟨false, false, false, false, none⟩
        second := ⟨true, true, false, false, some response⟩ }
      delivered := true }]).log =
    [.read request, .returned ⟨0, .primary⟩ false, .sent 0 request, .received 0 response,
      .returned ⟨0, .backup⟩ true, .passed response true] := rfl

end Router

end TaskCoordinator
