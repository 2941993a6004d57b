import TaskCoordinator.Coordinator.Handoff
import TaskCoordinator.Coordinator.Stamps

/-!
# The connection to the peer

A primary with its network thread, and a backup with both of its threads.  The network thread of
the primary keeps one connection to the peer, in `peer_`.  A replication message that it cannot
send is dropped, and so is every one that it pops while it has no connection.  After each of these
it tries to connect again and, when it succeeds, puts a `PEER_RECONNECTED` into the task queue
before it uses the connection.

A connection that has been given up is not called back: what was sent on it may arrive late, and
the backup reads all its connections side by side.  A send transfers a whole message or nothing,
and the messages of one connection reach the backup in order.  There its network thread hands them
to the scheduler as in `Handoff`, and keeps this order as long as none of them overtakes others
that wait in the backlog.  The backup receives nothing else here.

When a receive on the connection fails, its descriptor is closed and yet stays in `peer_`.  What
is sent after that fails, or goes to the connection that has got the same descriptor since.

The link is shown to refine `Rerouting`, with the connections for the lines.
-/

namespace TaskCoordinator

/-- `PeerNode`.  A connection is known by a number that is never given out again. -/
structure PeerNode where
  alive : Bool
  connection : Option Nat

/-- A primary, its backup, and what stands between the two. -/
structure PeerLink where
  primary : Coordinator
  /-- How many events the network thread has popped from the outgoing queue. -/
  popped : Nat
  /-- How many `PEER_RECONNECTED`s are in the task queue. -/
  reports : Nat
  peer : PeerNode
  /-- How many connections have been opened. -/
  opened : Nat
  /-- The descriptor of the connection has been closed. -/
  closed : Nat → Bool
  /-- Messages that have been sent on the connection and not been read by the backup. -/
  underWay : Nat → List Message
  /-- A message that was meant for the connection has been lost. -/
  lossy : Nat → Bool
  /-- What stands between the threads of the backup. -/
  handoff : Handoff
  backup : Coordinator

/-- The next step of one of the threads, or of the network. -/
inductive PeerAction where
  /-- The scheduler thread of the primary handles an event. -/
  | handle (event : Event)
  /-- The network thread pops an outgoing event.  If it is for the peer, the arguments tell
  whether a send, a `connect` and a push to the task queue succeed. -/
  | send (delivered connected reported : Bool)
  /-- `poll` reports an error on the connection. -/
  | pollError
  /-- The receive on the connection fails. -/
  | endOfFile
  /-- One of the messages that are under way on a connection is lost. -/
  | lose (connection index : Nat)
  /-- The network thread of the backup receives the next message of a connection. -/
  | receive (connection : Nat) (fd : Fd)
  /-- It goes on with a flush or a push. -/
  | advance
  /-- It has been through all descriptors that `poll` reported. -/
  | polled
  /-- It begins its next round. -/
  | sent
  /-- The scheduler thread of the backup pops an event and handles it. -/
  | pop (env : Env)

namespace PeerLink

/-- The state in which `network_worker` enters its loop.  The first connection is not
reported. -/
def start (connected : Bool) : PeerLink where
  primary := .init
  popped := 0
  reports := 0
  peer := if connected then { alive := true, connection := some 0 }
    else { alive := false, connection := none }
  opened := if connected then 1 else 0
  closed := fun _ => false
  underWay := fun _ => []
  lossy := fun _ => false
  handoff := .init
  backup := .init

/-- `connect_to_peer`, which gives up the connection there is. -/
def connectToPeer (l : PeerLink) (connected : Bool) : Bool × PeerLink :=
  if connected then
    (true, { l with
      peer := { l.peer with connection := some l.opened }
      opened := l.opened + 1 })
  else
    (false, { l with peer := { alive := false, connection := none } })

def reconnectToPeer (l : PeerLink) (connected reported : Bool) : PeerLink :=
  match l.connectToPeer connected with
  | (true, connected) =>
      if reported then
        { connected with
          reports := connected.reports + 1
          peer := { connected.peer with alive := true } }
      else
        connected
  | (false, down) => down

def sendReplicationMessage (l : PeerLink) (msg : Message)
    (delivered connected reported : Bool) : PeerLink :=
  match l.peer.alive, l.peer.connection with
  | true, some connection =>
      if delivered then
        if l.closed connection then
          { l with lossy := Function.update l.lossy connection true }
        else
          { l with
            underWay := Function.update l.underWay connection (l.underWay connection ++ [msg]) }
      else
        { l with peer := { alive := false, connection := none } }.reconnectToPeer connected reported
  | _, _ => l.reconnectToPeer connected reported

/-- One round of the loop of `network_worker` over the outgoing queue. -/
def send (l : PeerLink) (delivered connected reported : Bool) : PeerLink :=
  match l.primary.outgoingQueue[l.popped]? with
  | some out =>
      let taken := { l with popped := l.popped + 1 }
      if out.msg.isReplication then
        taken.sendReplicationMessage out.msg delivered connected reported
      else
        taken
  | none => l

/-- An error that `poll` reports on the connection.  It is polled while the peer is alive. -/
def pollError (l : PeerLink) : PeerLink :=
  match l.peer.alive, l.peer.connection with
  | true, some _ => { l with peer := { alive := false, connection := none } }
  | _, _ => l

/-- A failed receive closes the descriptor and leaves `peer_` as it is. -/
def endOfFile (l : PeerLink) : PeerLink :=
  match l.peer.alive, l.peer.connection with
  | true, some connection => { l with closed := Function.update l.closed connection true }
  | _, _ => l

def lose (l : PeerLink) (connection index : Nat) : PeerLink :=
  if connection < l.opened then
    { l with
      underWay := Function.update l.underWay connection ((l.underWay connection).eraseIdx index)
      lossy := Function.update l.lossy connection true }
  else
    l

/-- A step of the network thread of the backup, if it is its next one. -/
def handOff (l : PeerLink) (action : HandoffAction) : PeerLink :=
  match l.handoff.step action with
  | .ok handoff => { l with handoff }
  | .error _ => l

def receive (l : PeerLink) (connection : Nat) (fd : Fd) : PeerLink :=
  match l.underWay connection with
  | [] => l
  | msg :: rest =>
      match l.handoff.step (.receive connection fd msg) with
      | .ok handoff =>
          { l with handoff, underWay := Function.update l.underWay connection rest }
      | .error _ => l

def pop (l : PeerLink) (env : Env) : PeerLink :=
  match l.handoff.taskQueue with
  | [] => l
  | event :: _ =>
      { l.handOff .popTask with backup := l.backup.receive (event.fd, env) event.msg }

def step (l : PeerLink) : PeerAction → Except Fault PeerLink
  | .handle event => do
      let primary ← l.primary.step event
      .ok { l with
        primary
        reports := if event.isReconnect then l.reports - 1 else l.reports }
  | .send delivered connected reported => .ok (l.send delivered connected reported)
  | .pollError => .ok l.pollError
  | .endOfFile => .ok l.endOfFile
  | .lose connection index => .ok (l.lose connection index)
  | .receive connection fd => .ok (l.receive connection fd)
  | .advance => .ok (l.handOff .advance)
  | .polled => .ok (l.handOff .polled)
  | .sent => .ok (l.handOff .sent)
  | .pop env => .ok (l.pop env)

/-- The primary handles what clients and workers send, and a `PEER_RECONNECTED` that is in its
queue.  At the backup no message overtakes one of the same connection that waits in the backlog,
and no snapshot is applied that is older than the epoch the backup has reached. -/
def Admits (l : PeerLink) : PeerAction → Prop
  | .handle event => l.primary.LastingEvent event ∧ (event.isReconnect = true → 0 < l.reports)
  | .advance => l.handoff.OvertakesNone .advance
  | .pop _ => ∀ event ∈ l.handoff.taskQueue.head?, event.msg.isSnapshot = true →
      l.backup.currentEpoch.toNat ≤ event.msg.epoch.toNat
  | .send .. | .pollError | .endOfFile | .lose .. | .receive .. | .polled | .sent => True

instance (l : PeerLink) : DecidablePred l.Admits
  | .handle event => inferInstanceAs (Decidable
      (l.primary.LastingEvent event ∧ (event.isReconnect = true → 0 < l.reports)))
  | .advance => inferInstanceAs (Decidable (l.handoff.OvertakesNone .advance))
  | .pop _ => inferInstanceAs (Decidable (∀ event ∈ l.handoff.taskQueue.head?,
      event.msg.isSnapshot = true → l.backup.currentEpoch.toNat ≤ event.msg.epoch.toNat))
  | .send .. | .pollError | .endOfFile | .lose .. | .receive .. | .polled | .sent => isTrue trivial

/-- The messages for the peer that the network thread has not popped. -/
def unsent (l : PeerLink) : List Message :=
  ((l.primary.outgoingQueue.drop l.popped).map OutgoingEvent.msg).filter Message.isReplication

/-- The messages of a connection that the backup has received and not handled. -/
def waiting (l : PeerLink) (connection : Nat) : List Message :=
  (l.handoff.waiting connection).map IncomingEvent.msg

/-- The messages that have been sent on a connection and not been handled, in their order. -/
def line (l : PeerLink) (connection : Nat) : List Message :=
  l.waiting connection ++ l.underWay connection

/-! ## Refinement -/

open Transition Rerouting

/-- The system of which the link is an instance. -/
abbrev Abstract := Rerouting.State Coordinator Coordinator Message

abbrev abstractNext : Abstract → Rerouting.Action Event (Fd × Env) → Except Fault Abstract :=
  Rerouting.next Coordinator.stepEmitting Event.isReconnect Coordinator.receive

abbrev AbstractAdmits : Abstract → Rerouting.Action Event (Fd × Env) → Prop :=
  Rerouting.Admits Coordinator.LastingEvent Event.isReconnect Message.isSnapshot
    (fun msg => msg.epoch.toNat) (fun s => s.currentEpoch.toNat)

/-- The connection that the network thread uses. -/
def inUse (l : PeerLink) : Option Nat :=
  if l.peer.alive then l.peer.connection else none

/-- The abstract state shows what the link is like, and connections that have not been opened
have carried nothing. -/
structure Simulates (l : PeerLink) (a : Abstract) : Prop where
  primary : a.primary = l.primary
  mirror : a.mirror = l.backup
  queued : a.queued = l.unsent
  lines : a.lines = l.line
  current : a.current = l.inUse
  intact : ∀ connection, a.current = some connection → a.intact = !l.lossy connection
  requests : a.requests = l.reports
  popped : l.popped ≤ l.primary.outgoingQueue.length
  wired : l.peer.alive = true → l.peer.connection.isSome = true
  opened : ∀ connection, l.peer.connection = some connection → connection < l.opened
  lossless : ∀ connection, l.opened ≤ connection → l.lossy connection = false
  replications : ∀ connection, ∀ msg ∈ l.underWay connection, msg.isReplication = true
  conserved : l.handoff.Conserved
  tasks : l.handoff.TasksOnly

variable {l l' : PeerLink} {a : Abstract}

theorem outgoing_of_step {s s' : Coordinator} {event : Event} (stepped : s.step event = .ok s') :
    ∃ pushed, s'.outgoingQueue = s.outgoingQueue ++ pushed := by
  obtain ⟨middle, received, moves⟩ := Coordinator.step_spec stepped
  obtain ⟨first, afterFirst⟩ := Coordinator.outgoing_of_received received
  clear stepped received
  induction moves with
  | refl => exact ⟨first, afterFirst⟩
  | tail _ move ih =>
      obtain ⟨pushed, before⟩ := ih
      obtain ⟨more, after⟩ := Coordinator.outgoing_of_move move
      exact ⟨pushed ++ more, by rw [after, before, List.append_assoc]⟩

/-- Whatever is under way on a connection is a replication. -/
theorem Simulates.replications_update (simulates : Simulates l a) {connection : Nat}
    {messages : List Message} (replications : ∀ msg ∈ messages, msg.isReplication = true) :
    ∀ other, ∀ msg ∈ Function.update l.underWay connection messages other,
      msg.isReplication = true :=
  (Function.forall_update_iff l.underWay
    fun _ messages => ∀ msg ∈ messages, msg.isReplication = true).mpr
      ⟨replications, fun other _ => simulates.replications other⟩

/-- A step of the primary adds what it emits to the unsent messages. -/
theorem unsent_of_step {event : Event} {primary : Coordinator}
    (below : l.popped ≤ l.primary.outgoingQueue.length)
    (stepped : l.primary.step event = .ok primary) (reports : Nat) :
    unsent { l with primary, reports } =
      l.unsent ++ primary.replications.drop l.primary.replications.length := by
  obtain ⟨pushed, queue⟩ := outgoing_of_step stepped
  unfold unsent Coordinator.replications
  rw [queue, List.drop_append_of_le_length below, List.map_append, List.filter_append,
    List.map_append, List.filter_append, List.drop_left]

/-- The messages that are under way on a connection change. -/
theorem line_update (l : PeerLink) (connection : Nat) (messages : List Message) :
    Function.update l.line connection (l.waiting connection ++ messages) = fun other =>
      l.waiting other ++ Function.update l.underWay connection messages other := by
  funext other
  by_cases isConnection : other = connection
  · subst other
    simp only [Function.update_self]
  · simp only [Function.update_of_ne isConnection]
    rfl

theorem unsent_of_next {out : OutgoingEvent}
    (next : l.primary.outgoingQueue[l.popped]? = some out) :
    l.unsent = if out.msg.isReplication then
        out.msg :: unsent { l with popped := l.popped + 1 }
      else unsent { l with popped := l.popped + 1 } := by
  obtain ⟨below, rfl⟩ := List.getElem?_eq_some_iff.mp next
  simp only [unsent, List.drop_eq_getElem_cons below, List.map_cons, List.filter_cons]

theorem Simulates.handle (simulates : Simulates l a) {event : Event} {primary : Coordinator}
    (stepped : l.primary.step event = .ok primary) :
    ∃ a', abstractNext a (.handle event) = .ok a' ∧
      Simulates
        { l with primary, reports := if event.isReconnect then l.reports - 1 else l.reports }
        a' := by
  refine ⟨_, bind_eq_ok.mpr ⟨_, bind_eq_ok.mpr ⟨primary, ?_, rfl⟩, rfl⟩, ?_⟩
  · rw [simulates.primary]
    exact stepped
  · obtain ⟨pushed, queue⟩ := outgoing_of_step stepped
    refine
      { primary := rfl
        mirror := simulates.mirror
        queued := ?_
        lines := simulates.lines
        current := simulates.current
        intact := simulates.intact
        requests := ?_
        popped := ?_
        wired := simulates.wired
        opened := simulates.opened
        lossless := simulates.lossless
        replications := simulates.replications
        conserved := simulates.conserved
        tasks := simulates.tasks }
    · simp only [simulates.queued, simulates.primary]
      exact (unsent_of_step simulates.popped stepped _).symm
    · simp only [simulates.requests]
    · simp only [queue, List.length_append]
      exact simulates.popped.trans (Nat.le_add_right _ _)

/-- The abstract system can go on to a state that shows what the link is like. -/
def Follows (a : Abstract) (l : PeerLink) : Prop :=
  ∃ actions a', Transition.run abstractNext a actions = .ok a' ∧
    Along abstractNext AbstractAdmits a actions ∧ Simulates l a'

theorem Simulates.follows (simulates : Simulates l a) : Follows a l :=
  ⟨[], a, rfl, trivial, simulates⟩

theorem follows_of_step {action : Rerouting.Action Event (Fd × Env)} {a' : Abstract}
    (stepped : abstractNext a action = .ok a') (admitted : AbstractAdmits a action)
    (follows : Follows a' l) : Follows a l := by
  obtain ⟨actions, final, ran, along, simulates⟩ := follows
  refine ⟨action :: actions, final, run_cons_eq_ok.mpr ⟨a', stepped, ran⟩, ⟨admitted, ?_⟩,
    simulates⟩
  intro next steppedAgain
  rw [stepped] at steppedAgain
  cases steppedAgain
  exact along

/-! ### The network thread -/

theorem inUse_of_down (down : l.peer.alive = false) : l.inUse = none := by
  simp [inUse, down]

/-- `reconnect_to_peer`, called while the peer is not alive. -/
theorem Simulates.reconnect (simulates : Simulates l a) (down : l.peer.alive = false)
    (connected reported : Bool) : Follows a (l.reconnectToPeer connected reported) := by
  have notInUse : a.current = none := simulates.current.trans (inUse_of_down down)
  have lossless : ∀ connection, l.opened + 1 ≤ connection → l.lossy connection = false :=
    fun connection above => simulates.lossless connection (Nat.le_of_succ_le above)
  have opened : ∀ connection, some l.opened = some connection → connection < l.opened + 1 := by
    intro connection isOpened
    cases isOpened
    exact Nat.lt_succ_self _
  cases connected with
  | false =>
      refine Simulates.follows { simulates with current := ?_, wired := nofun, opened := nofun }
      exact notInUse.trans (inUse_of_down rfl).symm
  | true =>
      cases reported with
      | false =>
          refine Simulates.follows
            { simulates with current := ?_, wired := fun _ => rfl, opened, lossless }
          have stillDown : (l.reconnectToPeer true false).peer.alive = false := down
          exact notInUse.trans (inUse_of_down stillDown).symm
      | true =>
          have reopened : abstractNext a (.reopen l.opened) = .ok { a with
              current := some l.opened, intact := true, requests := a.requests + 1 } := rfl
          refine follows_of_step reopened trivial (Simulates.follows ?_)
          refine
            { simulates with
              current := rfl
              intact := ?_
              requests := congrArg (· + 1) simulates.requests
              wired := fun _ => rfl
              opened
              lossless }
          intro connection isOpened
          cases isOpened
          exact congrArg (! ·) (simulates.lossless l.opened (Nat.le_refl _)).symm

/-- The next message is popped, and the network thread has no connection any more. -/
theorem Simulates.drop (simulates : Simulates l a) {out : OutgoingEvent}
    (next : l.primary.outgoingQueue[l.popped]? = some out)
    (isReplication : out.msg.isReplication = true) {peer : PeerNode} (down : peer.alive = false)
    (opened : ∀ connection, peer.connection = some connection → connection < l.opened) :
    Simulates { l with popped := l.popped + 1, peer }
      { a with queued := a.queued.tail, current := none } := by
  refine
    { simulates with
      queued := ?_
      current := (inUse_of_down down).symm
      intact := nofun
      popped := (List.getElem?_eq_some_iff.mp next).1
      wired := ?_
      opened }
  · simp only [simulates.queued, unsent_of_next next, isReplication, if_true, List.tail_cons]
    rfl
  · intro alive
    rw [down] at alive
    cases alive

/-- A message is dropped, and the network thread tries to connect again. -/
theorem Simulates.dropReconnect (simulates : Simulates l a) {out : OutgoingEvent}
    (next : l.primary.outgoingQueue[l.popped]? = some out)
    (isReplication : out.msg.isReplication = true) {peer : PeerNode} (down : peer.alive = false)
    (opened : ∀ connection, peer.connection = some connection → connection < l.opened)
    (connected reported : Bool) :
    Follows a ({ l with popped := l.popped + 1, peer }.reconnectToPeer connected reported) := by
  have dropped : abstractNext a .drop = .ok { a with queued := a.queued.tail, current := none } :=
    rfl
  refine follows_of_step dropped trivial ?_
  exact (simulates.drop next isReplication down opened).reconnect down connected reported

/-- The next message is for a worker or a client. -/
theorem Simulates.skip (simulates : Simulates l a) {out : OutgoingEvent}
    (next : l.primary.outgoingQueue[l.popped]? = some out)
    (isReply : out.msg.isReplication = false) : Simulates { l with popped := l.popped + 1 } a :=
  { simulates with
    queued := by rw [simulates.queued, unsent_of_next next, isReply]; rfl
    popped := (List.getElem?_eq_some_iff.mp next).1 }

/-- The next message is put on the connection in use. -/
theorem Simulates.deliver (simulates : Simulates l a) {out : OutgoingEvent} {connection : Nat}
    (next : l.primary.outgoingQueue[l.popped]? = some out)
    (isReplication : out.msg.isReplication = true) (inUse : l.inUse = some connection) :
    ∃ a', abstractNext a .send = .ok a' ∧
      Simulates
        { l with
          popped := l.popped + 1
          underWay := Function.update l.underWay connection (l.underWay connection ++ [out.msg]) }
        a' := by
  have queue : a.queued = out.msg :: unsent { l with popped := l.popped + 1 } := by
    rw [simulates.queued, unsent_of_next next, if_pos isReplication]
  have current : a.current = some connection := simulates.current.trans inUse
  have sent : abstractNext a .send = .ok { a with
      queued := unsent { l with popped := l.popped + 1 }
      lines := Function.update a.lines connection (a.lines connection ++ [out.msg]) } := by
    simp only [abstractNext, Rerouting.next, queue, current]
  refine ⟨_, sent, ?_⟩
  exact
    { simulates with
      queued := rfl
      lines := by
        rw [simulates.lines]
        refine Eq.trans ?_ (line_update l connection _)
        exact congrArg (Function.update l.line connection) (List.append_assoc _ _ _)
      popped := (List.getElem?_eq_some_iff.mp next).1
      replications := simulates.replications_update (List.forall_mem_append.mpr
        ⟨simulates.replications connection, List.forall_mem_singleton.mpr isReplication⟩) }

/-- A message that is under way on a connection is lost. -/
theorem Simulates.lose (simulates : Simulates l a) {connection : Nat}
    (opened : connection < l.opened) (index : Nat) :
    ∃ a', abstractNext a (.lose connection ((l.waiting connection).length + index)) = .ok a' ∧
      Simulates
        { l with
          underWay := Function.update l.underWay connection ((l.underWay connection).eraseIdx index)
          lossy := Function.update l.lossy connection true }
        a' := by
  refine ⟨_, rfl, ?_⟩
  refine
    { simulates with
      lines := ?_
      intact := ?_
      lossless := ?_
      replications := simulates.replications_update fun msg member =>
        simulates.replications connection msg (List.mem_of_mem_eraseIdx member) }
  · rw [simulates.lines]
    refine Eq.trans (congrArg (Function.update l.line connection) ?_)
      (line_update l connection _)
    rw [line, List.eraseIdx_append_of_length_le (Nat.le_add_right _ _), Nat.add_sub_cancel_left]
  · intro other inUse
    simp only at inUse
    by_cases isLost : other = connection
    · subst other
      simp [inUse]
    · simp only [inUse, Option.some.injEq, if_neg isLost, Function.update_of_ne isLost]
      exact simulates.intact other inUse
  · intro other above
    have different : other ≠ connection := Nat.ne_of_gt (Nat.lt_of_lt_of_le opened above)
    exact (Function.update_of_ne different _ _).trans (simulates.lossless other above)

/-- The next message is sent to a stranger. -/
theorem Simulates.misdeliver (simulates : Simulates l a) {out : OutgoingEvent} {connection : Nat}
    (next : l.primary.outgoingQueue[l.popped]? = some out)
    (isReplication : out.msg.isReplication = true) (inUse : l.inUse = some connection)
    (opened : connection < l.opened) :
    Follows a { l with
      popped := l.popped + 1
      lossy := Function.update l.lossy connection true } := by
  obtain ⟨middle, sent, delivered⟩ := simulates.deliver next isReplication inUse
  refine follows_of_step sent trivial ?_
  obtain ⟨final, lost, simulatesFinal⟩ := delivered.lose opened (l.underWay connection).length
  refine follows_of_step lost trivial ?_
  simp only [Function.update_self, Function.update_idem] at simulatesFinal
  rw [List.eraseIdx_append_of_length_le (Nat.le_refl _)] at simulatesFinal
  simpa using simulatesFinal.follows

theorem Simulates.send (simulates : Simulates l a) (delivered connected reported : Bool) :
    Follows a (l.send delivered connected reported) := by
  unfold PeerLink.send
  split
  next out next =>
    simp only
    split_ifs with isReplication
    · unfold sendReplicationMessage
      split
      next connection alive isConnection =>
        have inUse : l.inUse = some connection := (if_pos alive).trans isConnection
        have opened := simulates.opened connection isConnection
        split_ifs
        · exact simulates.misdeliver next isReplication inUse opened
        · obtain ⟨final, sent, simulatesFinal⟩ := simulates.deliver next isReplication inUse
          exact follows_of_step sent trivial simulatesFinal.follows
        · exact simulates.dropReconnect next isReplication rfl (by simp) connected reported
      next notBoth =>
        have down : l.peer.alive = false := by
          cases alive : l.peer.alive with
          | false => rfl
          | true =>
              obtain ⟨connection, isConnection⟩ :=
                Option.isSome_iff_exists.mp (simulates.wired alive)
              exact absurd isConnection (notBoth connection alive)
        exact simulates.dropReconnect next isReplication down simulates.opened connected reported
    · exact (simulates.skip next (Bool.not_eq_true _ ▸ isReplication)).follows
  next => exact simulates.follows

theorem Simulates.pollError (simulates : Simulates l a) : Follows a l.pollError := by
  unfold PeerLink.pollError
  split
  next =>
    have failed : abstractNext a .fail = .ok { a with current := none } := rfl
    refine follows_of_step failed trivial (Simulates.follows ?_)
    exact
      { simulates with
        current := (inUse_of_down rfl).symm
        intact := nofun
        wired := nofun
        opened := nofun }
  next => exact simulates.follows

theorem Simulates.endOfFile (simulates : Simulates l a) : Simulates l.endOfFile a := by
  unfold PeerLink.endOfFile
  split
  next => exact { simulates with }
  next => exact simulates

/-! ### The backup -/

/-- A step of the hand-off in which no message comes in or goes out. -/
theorem Simulates.handOff (simulates : Simulates l a) {action : HandoffAction}
    (kept : ∀ handoff, l.handoff.step action = .ok handoff →
      handoff.waiting = l.handoff.waiting ∧ handoff.Conserved ∧ handoff.TasksOnly) :
    Simulates (l.handOff action) a := by
  unfold PeerLink.handOff
  split
  next handoff stepped =>
    obtain ⟨waiting, conserved, tasks⟩ := kept handoff stepped
    refine { simulates with lines := ?_, conserved, tasks }
    unfold line PeerLink.waiting
    rw [waiting]
    exact simulates.lines
  next => exact simulates

theorem Simulates.advance (simulates : Simulates l a)
    (overtakesNone : l.handoff.OvertakesNone .advance) : Simulates (l.handOff .advance) a :=
  simulates.handOff fun _ stepped =>
    ⟨Handoff.waiting_advance simulates.conserved overtakesNone stepped,
      simulates.conserved.advance overtakesNone stepped, simulates.tasks.advance stepped⟩

theorem Simulates.turn (simulates : Simulates l a) {action : HandoffAction}
    (turns : action = .polled ∨ action = .sent) : Simulates (l.handOff action) a := by
  refine simulates.handOff fun _ stepped => ?_
  obtain ⟨network, rfl, hand, calm⟩ := Handoff.step_turn turns stepped
  refine ⟨?_, simulates.conserved.goOn hand, { simulates.tasks with inHand := ?_, calm }⟩
  · funext connection
    rw [Handoff.waiting, hand]
    rfl
  · rw [hand]
    exact simulates.tasks.inHand

theorem isControl_of_isReplication {msg : Message} (isReplication : msg.isReplication = true)
    (fd : Fd) : ({ fd, msg } : IncomingEvent).isControl = false := by
  obtain ⟨epoch, body⟩ := msg
  cases body with
  | heartbeat | register => cases isReplication
  | _ => rfl

/-- A message that is received has been sent before and not been handled since. -/
theorem line_receive {connection : Nat} {fd : Fd} {msg : Message} {rest : List Message}
    {handoff : Handoff} (front : l.underWay connection = msg :: rest)
    (isTask : ({ fd, msg } : IncomingEvent).isControl = false)
    (stepped : l.handoff.step (.receive connection fd msg) = .ok handoff) :
    line { l with handoff, underWay := Function.update l.underWay connection rest } = l.line := by
  funext other
  unfold line PeerLink.waiting
  rw [Handoff.waiting_receive stepped other]
  by_cases isConnection : other = connection
  · subst other
    have own : IncomingEvent.isTaskOf connection
        { fd, msg, connection := some connection } = true :=
      IncomingEvent.isTaskOf_iff.mpr ⟨rfl, isTask⟩
    simp [front, own]
  · have foreign : IncomingEvent.isTaskOf other
        { fd, msg, connection := some connection } = false := by
      simp [IncomingEvent.isTaskOf, Ne.symm isConnection]
    simp [Function.update_of_ne isConnection, foreign]

/-- The backup receives a message, which is not handled yet. -/
theorem Simulates.receive (simulates : Simulates l a) (connection : Nat) (fd : Fd) :
    Simulates (l.receive connection fd) a := by
  unfold PeerLink.receive
  split
  next => exact simulates
  next msg rest front =>
    split
    next handoff stepped =>
      have replications := simulates.replications connection
      rw [front, List.forall_mem_cons] at replications
      have isTask := isControl_of_isReplication replications.1 fd
      exact
        { simulates with
          lines := simulates.lines.trans (line_receive front isTask stepped).symm
          replications := simulates.replications_update replications.2
          conserved := Handoff.conserved_preserved _ (.receive connection fd msg) _
            simulates.conserved trivial stepped
          tasks := simulates.tasks.receive isTask stepped }
    next => exact simulates

/-- The event that the backup pops has been at the front of the line of its connection. -/
theorem line_popTask {event : IncomingEvent} {rest : List IncomingEvent} {connection : Nat}
    (front : l.handoff.taskQueue = event :: rest)
    (isTask : event.isTaskOf connection = true) :
    let next := { l with handoff :=
      { l.handoff with taskQueue := rest, popped := l.handoff.popped ++ [event] } }
    l.line = Function.update next.line connection (event.msg :: next.line connection) := by
  intro next
  have before := Handoff.waiting_popTask front
  funext other
  by_cases isConnection : other = connection
  · subst other
    rw [Function.update_self, line, PeerLink.waiting, before]
    simp [isTask, next, line, PeerLink.waiting]
  · have isFrom := (IncomingEvent.isTaskOf_iff.mp isTask).1
    have foreign : event.isTaskOf other = false := by
      simp [IncomingEvent.isTaskOf, isFrom, Ne.symm isConnection]
    rw [Function.update_of_ne isConnection, line, PeerLink.waiting, before]
    simp [foreign, next, line, PeerLink.waiting]

/-- The backup handles the first of the messages that wait. -/
theorem Simulates.pop (simulates : Simulates l a) {env : Env} (admitted : l.Admits (.pop env)) :
    Follows a (l.pop env) := by
  unfold PeerLink.pop
  split
  next => exact simulates.follows
  next event rest front =>
    have stepped : l.handoff.step .popTask = .ok
        { l.handoff with taskQueue := rest, popped := l.handoff.popped ++ [event] } := by
      simp only [Handoff.step, front]
    simp only [PeerLink.handOff, stepped]
    obtain ⟨⟨connection, isTask⟩, tasks⟩ := simulates.tasks.popTask front
    have conserved := Handoff.conserved_preserved _ .popTask _ simulates.conserved trivial stepped
    have lines := simulates.lines.trans (line_popTask front isTask)
    generalize { l.handoff with taskQueue := rest, popped := l.handoff.popped ++ [event] } = handoff
      at tasks conserved lines ⊢
    have own : a.lines connection = event.msg :: line { l with handoff } connection := by
      rw [lines, Function.update_self]
    have received : abstractNext a (.receive connection (event.fd, env)) = .ok { a with
        mirror := a.mirror.receive (event.fd, env) event.msg
        lines := Function.update a.lines connection (line { l with handoff } connection) } := by
      simp only [abstractNext, Rerouting.next, own]
    refine follows_of_step received ?_ (Simulates.follows ?_)
    · intro msg isNext isSnapshot
      rw [own] at isNext
      cases isNext
      rw [simulates.mirror]
      exact admitted event (by simp [front]) isSnapshot
    · exact
        { simulates with
          mirror := by rw [simulates.mirror]
          lines := by rw [lines, Function.update_idem, Function.update_eq_self]; rfl
          conserved
          tasks }

theorem Simulates.step (simulates : Simulates l a) {action : PeerAction}
    (admitted : l.Admits action) (stepped : l.step action = .ok l') : Follows a l' := by
  cases action with
  | handle event =>
      obtain ⟨primary, handled, done⟩ := bind_eq_ok.mp stepped
      cases done
      obtain ⟨a', next, simulatesNext⟩ := simulates.handle handled
      refine follows_of_step next ?_ simulatesNext.follows
      unfold AbstractAdmits Rerouting.Admits
      rw [simulates.primary, simulates.requests]
      exact admitted
  | send delivered connected reported =>
      cases stepped
      exact simulates.send delivered connected reported
  | pollError =>
      cases stepped
      exact simulates.pollError
  | endOfFile =>
      cases stepped
      exact simulates.endOfFile.follows
  | lose connection index =>
      cases stepped
      unfold PeerLink.lose
      split_ifs with opened
      · obtain ⟨a', lost, simulatesNext⟩ := simulates.lose opened index
        exact follows_of_step lost trivial simulatesNext.follows
      · exact simulates.follows
  | receive connection fd =>
      cases stepped
      exact (simulates.receive connection fd).follows
  | advance =>
      cases stepped
      exact (simulates.advance admitted).follows
  | polled =>
      cases stepped
      exact (simulates.turn (.inl rfl)).follows
  | sent =>
      cases stepped
      exact (simulates.turn (.inr rfl)).follows
  | pop env =>
      cases stepped
      exact simulates.pop admitted

/-! ## Runs -/

/-- The abstract state at the start. -/
def abstractStart (connected : Bool) : Abstract where
  primary := .init
  mirror := .init
  queued := []
  lines := fun _ => []
  current := (start connected).inUse
  intact := true
  requests := 0

theorem simulates_start (connected : Bool) :
    Simulates (start connected) (abstractStart connected) where
  primary := rfl
  mirror := rfl
  queued := rfl
  lines := rfl
  current := rfl
  intact := fun _ _ => rfl
  requests := rfl
  popped := Nat.le_refl _
  wired := by cases connected <;> simp [start]
  opened := by cases connected <;> simp [start]
  lossless := fun _ _ => rfl
  replications := fun _ => List.forall_mem_nil _
  conserved := Handoff.conserved_init
  tasks := Handoff.tasksOnly_init

theorem Follows.trans {middle final : PeerLink} (first : Follows a middle)
    (second : ∀ {a'}, Simulates middle a' → Follows a' final) : Follows a final := by
  obtain ⟨before, a', ranBefore, alongBefore, simulates⟩ := first
  obtain ⟨after, a'', ranAfter, alongAfter, simulatesFinal⟩ := second simulates
  refine ⟨before ++ after, a'', run_append_eq_ok.mpr ⟨a', ranBefore, ranAfter⟩, ?_, simulatesFinal⟩
  refine along_append.mpr ⟨alongBefore, fun reached ran => ?_⟩
  rw [ranBefore] at ran
  cases ran
  exact alongAfter

theorem Simulates.run (simulates : Simulates l a) {actions : List PeerAction}
    (admitted : Along PeerLink.step Admits l actions)
    (ran : Transition.run PeerLink.step l actions = .ok l') :
    Follows a l' := by
  induction actions generalizing l a with
  | nil =>
      cases ran
      exact simulates.follows
  | cons action rest ih =>
      obtain ⟨next, stepped, ranRest⟩ := run_cons_eq_ok.mp ran
      refine Follows.trans (simulates.step admitted.1 stepped) fun simulatesNext => ?_
      exact ih simulatesNext (admitted.2 next stepped) ranRest

/-- What holds of the abstract system in every state. -/
abbrev AbstractConsistent : Abstract → Prop :=
  Rerouting.Consistent Coordinator.receive (fun s => s.Leading ∧ s.Stamped)
    (fun s => s.isPrimary = false) Coordinator.Agree .init (fun msg => msg.epoch.toNat)
    (fun s => s.currentEpoch.toNat) (fun s => s.currentEpoch.toNat)

theorem consistent_start (connected : Bool) : AbstractConsistent (abstractStart connected) where
  primary := ⟨Coordinator.leading_init, Coordinator.stamped_init⟩
  queuedStamps := by simp [abstractStart]
  lineStamps := by simp [abstractStart]
  quiet := fun _ => ⟨rfl, fun _ => rfl, rfl⟩
  agreed := by
    cases connected with
    | false => exact .inl rfl
    | true =>
        refine .inr (.inr (.inr (.inr ⟨?_, ?_⟩)))
        · exact Coordinator.coordinator_mirrors.agrees Coordinator.leading_init rfl
        · rintro msg ⟨connection, _, member⟩
          cases member

/-- The link shows a consistent state. -/
def Consistent (l : PeerLink) : Prop :=
  ∃ a, Simulates l a ∧ AbstractConsistent a

theorem consistent_preserved : Preserves step Admits Consistent := by
  intro l action l' consistent admitted stepped
  obtain ⟨a, simulates, consistent⟩ := consistent
  obtain ⟨actions, final, ran, along, simulatesFinal⟩ := simulates.step admitted stepped
  refine ⟨final, simulatesFinal, ?_⟩
  exact Coordinator.coordinator_reroutes.consistent_preserved.run consistent along ran

theorem consistent_progresses : Progresses step Admits Consistent := by
  intro l action consistent admitted
  cases action with
  | handle event =>
      obtain ⟨a, simulates, consistent⟩ := consistent
      have leading : l.primary.Leading := simulates.primary ▸ consistent.primary.1
      obtain ⟨outcome, handled⟩ := Coordinator.progress_of_leading _ _ leading admitted.1.1
      obtain ⟨primary, stepped, _⟩ := bind_eq_ok.mp handled
      exact ⟨_, bind_eq_ok.mpr ⟨primary, stepped, rfl⟩⟩
  | send | pollError | endOfFile | lose | receive | advance | polled | sent | pop =>
      exact ⟨_, rfl⟩

/-- Whatever was sent on the connection in use has been handled, and none of it was lost, nothing
is left to send, and no reconnection is unhandled. -/
structure AtRest (l : PeerLink) : Prop where
  connection : ∃ connection, l.inUse = some connection ∧ l.line connection = [] ∧
    l.lossy connection = false
  unsent : l.unsent = []
  reports : l.reports = 0

theorem Simulates.atRest (simulates : Simulates l a) (atRest : l.AtRest) : a.AtRest := by
  obtain ⟨connection, inUse, empty, lossless⟩ := atRest.connection
  have current : a.current = some connection := simulates.current.trans inUse
  refine
    { queued := simulates.queued.trans atRest.unsent
      line := ⟨connection, current, by rw [simulates.lines, empty]⟩
      intact := ?_
      requests := simulates.requests.trans atRest.reports }
  rw [simulates.intact connection current, lossless]
  rfl

/-- Every admitted run of the primary, its network thread and the threads of the backup returns, and
what it leads to is shown by an admitted run of the abstract system. -/
theorem link_refines_rerouting (connected : Bool) (actions : List PeerAction)
    (admitted : Along step Admits (start connected) actions) :
    ∃ l, Transition.run step (start connected) actions = .ok l ∧
      ∃ abstractActions a,
        Transition.run abstractNext (abstractStart connected) abstractActions = .ok a ∧
        Along abstractNext AbstractAdmits (abstractStart connected) abstractActions ∧
        Simulates l a := by
  have initially : Consistent (start connected) :=
    ⟨_, simulates_start connected, consistent_start connected⟩
  obtain ⟨l, ran, _⟩ := consistent_progresses.run consistent_preserved initially admitted
  exact ⟨l, ran, (simulates_start connected).run admitted ran⟩

/-- In an admitted run connections to the peer may fail and be replaced, and what was sent on a
former connection may arrive between what comes later.  Whenever the link is at rest, the backup
has every task that runs or has completed at the primary, and it knows no task and no completion
that the primary does not. -/
theorem backup_agrees_across_connections (connected : Bool) (actions : List PeerAction)
    (admitted : Along step Admits (start connected) actions) :
    ∃ l, Transition.run step (start connected) actions = .ok l ∧ (l.AtRest →
      (∀ id task, l.primary.tasks.find? id = some task →
        task.state = .running ∨ task.state = .completed →
        ∃ copy, l.backup.tasks.find? id = some copy ∧ copy.onWire = task.onWire) ∧
      ∀ id copy, l.backup.tasks.find? id = some copy →
        ∃ task, l.primary.tasks.find? id = some task ∧
          (copy.state = .completed → task.state = .completed)) := by
  have initially : Consistent (start connected) :=
    ⟨_, simulates_start connected, consistent_start connected⟩
  obtain ⟨l, ran, a, simulates, consistent⟩ :=
    consistent_progresses.run consistent_preserved initially admitted
  refine ⟨l, ran, fun atRest => ?_⟩
  have agree := consistent.agree_of_atRest (simulates.atRest atRest)
  rw [simulates.mirror, simulates.primary] at agree
  refine ⟨fun id task found handedOut => agree.copied id task found ?_, agree.known⟩
  obtain running | completed := handedOut
  · simp [running]
  · simp [completed]

/-- An assignment is under way when the connection breaks, and the completion is lost.  The
snapshot arrives on a new connection before the assignment does. -/
def lateAssignment : List PeerAction :=
  [.handle (.register 5 {}), .handle (.submit 9 { taskId := 7 } {}), .send true true true,
    .send true true true, .send true true true, .pollError,
    .handle (.complete 5 { taskId := 7 } {}), .send true true true, .send false true true,
    .handle (.peerReconnected {}), .send true true true,
    .advance, .receive 1 3, .advance, .polled, .sent,
    .advance, .receive 0 4, .advance, .pop {}, .pop {}]

theorem lateAssignment_refines :
    ∃ l, Transition.run step (start true) lateAssignment = .ok l ∧ l.opened = 2 ∧
      ∃ a : Abstract, Simulates l a := by
  have admitted : Along step Admits (start true) lateAssignment := by decide +kernel
  have final : ∀ l, Transition.run step (start true) lateAssignment = .ok l → l.opened = 2 := by
    decide +kernel
  obtain ⟨l, ran, _, a, _, _, simulates⟩ := link_refines_rerouting true lateAssignment admitted
  exact ⟨l, ran, final l ran, a, simulates⟩

theorem lateAssignment_agrees :
    ∃ l, Transition.run step (start true) lateAssignment = .ok l ∧ l.AtRest ∧
      l.backup.Completed 7 := by
  have admitted : Along step Admits (start true) lateAssignment := by decide +kernel
  have final : ∀ l, Transition.run step (start true) lateAssignment = .ok l →
      l.inUse = some 1 ∧ l.line 1 = [] ∧ l.lossy 1 = false ∧ l.unsent = [] ∧ l.reports = 0 ∧
      l.primary.Completed 7 := by decide +kernel
  obtain ⟨l, ran, agrees⟩ := backup_agrees_across_connections true lateAssignment admitted
  obtain ⟨inUse, empty, lossless, unsent, reports, task, found, completed⟩ := final l ran
  have atRest : l.AtRest := ⟨⟨1, inUse, empty, lossless⟩, unsent, reports⟩
  refine ⟨l, ran, atRest, ?_⟩
  obtain ⟨copy, foundCopy, same⟩ := (agrees atRest).1 7 task found (.inr completed)
  exact ⟨copy, foundCopy, (Coordinator.state_of_onWire same).trans completed⟩

end PeerLink

end TaskCoordinator
