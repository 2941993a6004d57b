import TaskCoordinator.Coordinator.Outstanding

/-!
# A coordinator with its connections

The scheduler thread of a coordinator together with what stands around it: the connections
of the router threads, the requests and responses on their way, the part of the outgoing
queue that the network thread has popped, and the tasks that workers have in hand.

A descriptor number names at most one open connection of the coordinator and is given out
again after the connection is closed.  `client_fds_`, the worker states and the queues keep
such numbers across a close, so each end of a connection is known by the router thread that
opened it and the number serves as an address only.

A worker sends one `COMPLETE` per `ASSIGN` it has received, under the id it was given: both
kinds of work that a client submits are known to `execution_worker`.
-/

namespace TaskCoordinator

structure Node where
  state : Coordinator := .init
  /-- How many events the network thread has popped from the outgoing queue. -/
  popped : Nat := 0
  /-- The open connections of router threads: the descriptor and the thread. -/
  connections : List (Fd × Nat) := []
  /-- `SUBMIT`s that the scheduler has not handled yet. -/
  requests : List (Fd × SubmitMsg) := []
  /-- Messages that a router thread has not read yet. -/
  responses : List (Nat × Message) := []
  /-- Tasks that workers have in hand. -/
  executing : List TaskId := []

namespace Node

/-- What the network thread has still to send. -/
def unsent (node : Node) : List OutgoingEvent :=
  node.state.outgoingQueue.drop node.popped

/-! ## Steps -/

/-- The network thread accepts a connection under the number `fd`. -/
def accept (node : Node) (fd : Fd) (peer : Nat) : Node :=
  { node with connections := (fd, peer) :: node.connections }

/-- A router thread closes its end.  What is on its way to it is lost. -/
def close (node : Node) (peer : Nat) : Node :=
  { node with
    connections := node.connections.filter (·.2 ≠ peer)
    responses := node.responses.filter (·.1 ≠ peer) }

/-- The network thread closes a connection.  A request on it may have been read before. -/
def hangUp (node : Node) (fd : Fd) (lost : Bool) : Node :=
  { node with
    connections := node.connections.filter (·.1 ≠ fd)
    requests := if lost then node.requests.filter (·.1 ≠ fd) else node.requests }

/-- A request is sent.  It is lost if the coordinator has closed the connection. -/
def request (node : Node) (peer : Nat) (msg : SubmitMsg) : Node :=
  match node.connections.find? (·.2 = peer) with
  | some (fd, _) => { node with requests := node.requests ++ [(fd, msg)] }
  | none => node

/-- The process ends and is started again.  Its connections are closed. -/
def crash (node : Node) : Node :=
  { node with state := .init, popped := 0, connections := [], requests := [] }

/-- The scheduler thread handles an event.  A fault ends the process. -/
def handle (node : Node) (event : Event) : Node :=
  match node.state.step event with
  | .ok state => { node with state }
  | .error _ => node.crash

/-- The scheduler thread handles a request. -/
def submit (node : Node) (index : Nat) (fd : Fd) (msg : SubmitMsg) (env : Env) : Node :=
  { node with requests := node.requests.eraseIdx index }.handle (.submit fd msg env)

/-- A worker sends the `COMPLETE` for a task it has in hand. -/
def complete (node : Node) (fd : Fd) (msg : CompleteMsg) (env : Env) : Node :=
  { node with executing := node.executing.erase msg.taskId }.handle (.complete fd msg env)

/-- The task is lost with its worker. -/
def lose (node : Node) (id : TaskId) : Node :=
  { node with executing := node.executing.erase id }

/-- A message leaves on the connection it is addressed to.  An `ASSIGN` that is not
addressed to a router thread reaches a worker. -/
def transmit (node : Node) (out : OutgoingEvent) : Node :=
  match node.connections.find? (·.1 = out.fd) with
  | some (_, peer) => { node with responses := node.responses ++ [(peer, out.msg)] }
  | none => { node with executing := node.executing ++ out.msg.assigns?.toList }

/-- The network thread pops one event of the outgoing queue.  The send may fail, and there
is none without a descriptor. -/
def deliver (node : Node) (out : OutgoingEvent) (arrives : Bool) : Node :=
  let taken := { node with popped := node.popped + 1 }
  if arrives ∧ 0 ≤ out.fd then taken.transmit out else taken

/-! ## Outstanding tasks -/

/-- The tasks that the coordinator or its workers have in hand. -/
def working (node : Node) : List TaskId :=
  node.state.occupied ++ node.executing ++ node.unsent.filterMap (·.msg.assigns?)

/-- The tasks that may still be answered. -/
def owed (node : Node) : List TaskId :=
  node.requests.map (·.2.taskId) ++ node.working

theorem mem_working {node : Node} {id : TaskId} :
    id ∈ node.working ↔
      id ∈ node.state.occupied ∨ id ∈ node.executing ∨
        ∃ out ∈ node.unsent, out.msg.assigns? = some id := by
  simp [working]

theorem mem_owed {node : Node} {id : TaskId} :
    id ∈ node.owed ↔ (∃ request ∈ node.requests, request.2.taskId = id) ∨ id ∈ node.working := by
  simp [owed]

/-! ## Invariants -/

/-- What holds of a coordinator that never owes answers for two tasks at once. -/
structure Orderly (node : Node) (client : ClientId) : Prop where
  logPrivate : node.state.LogPrivate
  popped : node.popped ≤ node.state.outgoingQueue.length
  single : ∃ id, ∀ other ∈ node.owed, other = id
  /-- No worker is reached through the connection of a router thread. -/
  descriptors : ∀ fd peer, (fd, peer) ∈ node.connections →
    0 ≤ fd ∧ ¬ node.state.WorkerOn fd
  onePeer : ∀ fd first second, (fd, first) ∈ node.connections →
    (fd, second) ∈ node.connections → first = second
  oneDescriptor : ∀ first second peer, (first, peer) ∈ node.connections →
    (second, peer) ∈ node.connections → first = second
  requestClient : ∀ fd msg, (fd, msg) ∈ node.requests → msg.clientId = client
  clients : ∀ other fd, node.state.clientFds.lookup other = some fd → other = client

/-- Whatever still reaches the thread `peer` from this coordinator answers the task. -/
structure Serves (node : Node) (peer : Nat) (id : TaskId) : Prop where
  responses : ∀ msg, (peer, msg) ∈ node.responses → msg.answers? = some id
  unsent : ∀ fd, (fd, peer) ∈ node.connections → ∀ out ∈ node.unsent, out.fd = fd →
    out.msg.answers? = some id
  requests : ∀ fd, (fd, peer) ∈ node.connections → ∀ msg, (fd, msg) ∈ node.requests →
    msg.taskId = id
  working : ∀ fd, (fd, peer) ∈ node.connections →
    (∃ client, node.state.clientFds.lookup client = some fd) →
    ∀ other ∈ node.working, other = id

variable {node node' : Node} {client : ClientId} {peer : Nat} {id : TaskId}

theorem orderly_start (client : ClientId) : Orderly {} client where
  logPrivate := Coordinator.logPrivate_init
  popped := Nat.zero_le _
  single := ⟨0, by simp [owed, working, unsent, Coordinator.occupied, Coordinator.init]⟩
  descriptors := by simp
  onePeer := by simp
  oneDescriptor := by simp
  requestClient := by simp
  clients := by simp [Coordinator.init]

/-- Nothing is added but to the responses: connections, requests and executions may be
lost, and messages may have been sent. -/
structure Shrinks (node node' : Node) : Prop where
  state : node'.state = node.state
  popped : node.popped ≤ node.state.outgoingQueue.length →
    node'.popped ≤ node.state.outgoingQueue.length
  connections : ∀ entry ∈ node'.connections, entry ∈ node.connections
  requests : ∀ request ∈ node'.requests, request ∈ node.requests
  executing : ∀ id ∈ node'.executing, id ∈ node.working
  unsent : ∀ out ∈ node'.unsent, out ∈ node.unsent

theorem Shrinks.working (shrinks : Shrinks node node') :
    ∀ id ∈ node'.working, id ∈ node.working := by
  intro id member
  rcases mem_working.mp member with occupied | executing | ⟨out, queued, assigns⟩
  · exact mem_working.mpr (.inl (shrinks.state ▸ occupied))
  · exact shrinks.executing id executing
  · exact mem_working.mpr (.inr (.inr ⟨out, shrinks.unsent out queued, assigns⟩))

theorem Shrinks.owed (shrinks : Shrinks node node') : ∀ id ∈ node'.owed, id ∈ node.owed := by
  intro id member
  obtain ⟨request, pending, rfl⟩ | working := mem_owed.mp member
  · exact mem_owed.mpr (.inl ⟨request, shrinks.requests request pending, rfl⟩)
  · exact mem_owed.mpr (.inr (shrinks.working id working))

theorem Orderly.shrink (orderly : node.Orderly client) (shrinks : Shrinks node node') :
    node'.Orderly client where
  logPrivate := shrinks.state ▸ orderly.logPrivate
  popped := by
    rw [shrinks.state]
    exact shrinks.popped orderly.popped
  single := by
    obtain ⟨id, same⟩ := orderly.single
    exact ⟨id, fun other member => same other (shrinks.owed other member)⟩
  descriptors fd peer linked := by
    rw [shrinks.state]
    exact orderly.descriptors fd peer (shrinks.connections _ linked)
  onePeer fd first second one two :=
    orderly.onePeer fd first second (shrinks.connections _ one) (shrinks.connections _ two)
  oneDescriptor first second peer one two :=
    orderly.oneDescriptor first second peer (shrinks.connections _ one)
      (shrinks.connections _ two)
  requestClient fd msg pending :=
    orderly.requestClient fd msg (shrinks.requests _ pending)
  clients := shrinks.state ▸ orderly.clients

theorem Serves.shrink (serves : node.Serves peer id) (shrinks : Shrinks node node')
    (responses : ∀ msg, (peer, msg) ∈ node'.responses → msg.answers? = some id) :
    node'.Serves peer id where
  responses := responses
  unsent fd linked out member :=
    serves.unsent fd (shrinks.connections _ linked) out (shrinks.unsent out member)
  requests fd linked msg pending :=
    serves.requests fd (shrinks.connections _ linked) msg (shrinks.requests _ pending)
  working fd linked addressed other member := by
    rw [shrinks.state] at addressed
    exact serves.working fd (shrinks.connections _ linked) addressed other
      (shrinks.working other member)

theorem mem_working_of_executing (executing : id ∈ node.executing) : id ∈ node.working :=
  mem_working.mpr (.inr (.inl executing))

theorem shrinks_close (node : Node) (peer : Nat) : Shrinks node (node.close peer) where
  state := rfl
  popped := id
  connections _ := List.mem_of_mem_filter
  requests _ := id
  executing _ := mem_working_of_executing
  unsent _ := id

theorem shrinks_hangUp (node : Node) (fd : Fd) (lost : Bool) :
    Shrinks node (node.hangUp fd lost) where
  state := rfl
  popped := id
  connections _ := List.mem_of_mem_filter
  requests request member := by
    cases lost with
    | true => exact List.mem_of_mem_filter member
    | false => exact member
  executing _ := mem_working_of_executing
  unsent _ := id

theorem shrinks_lose (node : Node) (id : TaskId) : Shrinks node (node.lose id) where
  state := rfl
  popped below := below
  connections _ member := member
  requests _ member := member
  executing _ member := mem_working_of_executing (List.mem_of_mem_erase member)
  unsent _ member := member

theorem shrinks_eraseIdx (node : Node) (index : Nat) :
    Shrinks node { node with requests := node.requests.eraseIdx index } where
  state := rfl
  popped := id
  connections _ := id
  requests _ := List.mem_of_mem_eraseIdx
  executing _ := mem_working_of_executing
  unsent _ := id

/-- A router thread reads its next response. -/
theorem shrinks_read (node : Node) (responses : List (Nat × Message)) :
    Shrinks node { node with responses } where
  state := rfl
  popped := id
  connections _ := id
  requests _ := id
  executing _ := mem_working_of_executing
  unsent _ := id

/-! ## Sending -/

theorem unsent_eq_cons {out : OutgoingEvent}
    (next : node.state.outgoingQueue[node.popped]? = some out) :
    node.unsent = out :: { node with popped := node.popped + 1 }.unsent := by
  obtain ⟨below, rfl⟩ := List.getElem?_eq_some_iff.mp next
  exact List.drop_eq_getElem_cons below

/-- A message goes to the thread whose connection it is addressed to, or to a worker. -/
theorem transmit_spec (node : Node) (out : OutgoingEvent) :
    (∃ peer, (out.fd, peer) ∈ node.connections ∧
      node.transmit out = { node with responses := node.responses ++ [(peer, out.msg)] }) ∨
    node.transmit out = { node with executing := node.executing ++ out.msg.assigns?.toList } := by
  unfold transmit
  cases found : node.connections.find? (·.1 = out.fd) with
  | none => exact .inr rfl
  | some connection =>
      have addressed : connection.1 = out.fd := by simpa using List.find?_some found
      refine .inl ⟨connection.2, ?_, rfl⟩
      rw [← addressed]
      exact List.mem_of_find?_eq_some found

theorem shrinks_deliver {out : OutgoingEvent} (arrives : Bool)
    (next : node.state.outgoingQueue[node.popped]? = some out) :
    Shrinks node (node.deliver out arrives) := by
  have queue := unsent_eq_cons next
  have taken : Shrinks node { node with popped := node.popped + 1 } :=
    { state := rfl
      popped := fun _ => (List.getElem?_eq_some_iff.mp next).1
      connections := fun _ => id
      requests := fun _ => id
      executing := fun _ member => mem_working_of_executing member
      unsent := fun other member => queue ▸ List.mem_cons_of_mem out member }
  unfold deliver
  split
  next =>
    obtain ⟨peer, _, sent⟩ | sent :=
      transmit_spec { node with popped := node.popped + 1 } out
    · rw [sent]
      exact { taken with }
    · rw [sent]
      refine { taken with executing := ?_ }
      intro id member
      obtain before | added := List.mem_append.mp member
      · exact mem_working_of_executing before
      · refine mem_working.mpr (.inr (.inr ⟨out, queue ▸ List.mem_cons_self, ?_⟩))
        exact Option.mem_toList.mp added
  next => exact taken

theorem Serves.deliver {out : OutgoingEvent} {arrives : Bool} (serves : node.Serves peer id)
    (next : node.state.outgoingQueue[node.popped]? = some out) :
    (node.deliver out arrives).Serves peer id := by
  refine serves.shrink (shrinks_deliver arrives next) ?_
  intro msg member
  unfold Node.deliver at member
  split at member
  next =>
    obtain ⟨receiver, linked, sent⟩ | sent :=
      transmit_spec { node with popped := node.popped + 1 } out
    · rw [sent] at member
      obtain before | added := List.mem_append.mp member
      · exact serves.responses msg before
      · cases List.mem_singleton.mp added
        refine serves.unsent out.fd linked out ?_ rfl
        rw [unsent_eq_cons next]
        exact List.mem_cons_self
    · rw [sent] at member
      exact serves.responses msg member
  next => exact serves.responses msg member

/-! ## The end of the process -/

theorem Orderly.crash (orderly : node.Orderly client) : node.crash.Orderly client where
  logPrivate := Coordinator.logPrivate_init
  popped := Nat.zero_le _
  single := by
    obtain ⟨id, same⟩ := orderly.single
    refine ⟨id, fun other member => same other (mem_owed.mpr (.inr (mem_working.mpr ?_)))⟩
    have executing : other ∈ node.executing := by
      simpa [owed, working, unsent, Node.crash, Coordinator.occupied, Coordinator.init]
        using member
    exact .inr (.inl executing)
  descriptors := by simp [Node.crash]
  onePeer := by simp [Node.crash]
  oneDescriptor := by simp [Node.crash]
  requestClient := by simp [Node.crash]
  clients := by simp [Node.crash, Coordinator.init]

theorem Serves.crash (serves : node.Serves peer id) : node.crash.Serves peer id where
  responses := serves.responses
  unsent := by simp [Node.crash]
  requests := by simp [Node.crash]
  working := by simp [Node.crash]

/-! ## Connections and requests -/

theorem Orderly.accept {fd : Fd} (orderly : node.Orderly client) (valid : 0 ≤ fd)
    (free : ∀ other, (fd, other) ∉ node.connections)
    (closed : ∀ other, (other, peer) ∉ node.connections)
    (unused : ¬ node.state.WorkerOn fd) : (node.accept fd peer).Orderly client where
  logPrivate := orderly.logPrivate
  popped := orderly.popped
  single := orderly.single
  descriptors other holder linked := by
    obtain same | before := List.mem_cons.mp linked
    · cases same
      exact ⟨valid, unused⟩
    · exact orderly.descriptors other holder before
  onePeer other first second one two := by
    obtain sameOne | beforeOne := List.mem_cons.mp one
    · cases sameOne
      obtain sameTwo | beforeTwo := List.mem_cons.mp two
      · cases sameTwo
        rfl
      · exact absurd beforeTwo (free second)
    · obtain sameTwo | beforeTwo := List.mem_cons.mp two
      · cases sameTwo
        exact absurd beforeOne (free first)
      · exact orderly.onePeer other first second beforeOne beforeTwo
  oneDescriptor first second holder one two := by
    obtain sameOne | beforeOne := List.mem_cons.mp one
    · cases sameOne
      obtain sameTwo | beforeTwo := List.mem_cons.mp two
      · cases sameTwo
        rfl
      · exact absurd beforeTwo (closed second)
    · obtain sameTwo | beforeTwo := List.mem_cons.mp two
      · cases sameTwo
        exact absurd beforeOne (closed first)
      · exact orderly.oneDescriptor first second holder beforeOne beforeTwo
  requestClient := orderly.requestClient
  clients := orderly.clients

theorem mem_accept_of_ne {fd other : Fd} {opened : Nat} (different : peer ≠ opened)
    (linked : (other, peer) ∈ (node.accept fd opened).connections) :
    (other, peer) ∈ node.connections := by
  obtain same | before := List.mem_cons.mp linked
  · cases same
    exact absurd rfl different
  · exact before

theorem Serves.accept {fd : Fd} {opened : Nat} (serves : node.Serves peer id)
    (different : peer ≠ opened) : (node.accept fd opened).Serves peer id where
  responses := serves.responses
  unsent other linked := serves.unsent other (mem_accept_of_ne different linked)
  requests other linked := serves.requests other (mem_accept_of_ne different linked)
  working other linked := serves.working other (mem_accept_of_ne different linked)

/-- The coordinator owes no answer for another task, and no message for another task is on
its way to the thread `peer`. -/
def Clear (node : Node) (peer : Nat) (id : TaskId) : Prop :=
  (∀ other ∈ node.owed, other = id) ∧
  (∀ response ∈ node.responses, response.1 = peer → response.2.answers? = some id) ∧
  ∀ connection ∈ node.connections, connection.2 = peer →
    ∀ out ∈ node.unsent, out.fd = connection.1 → out.msg.answers? = some id

-- Task ids form a finite type, over which an instance for `∀` would enumerate.
instance (node : Node) (peer : Nat) (id : TaskId) : Decidable (node.Clear peer id) :=
  have _ : Decidable (∀ other ∈ node.owed, other = id) := List.decidableBAll _ _
  inferInstanceAs (Decidable (_ ∧ _ ∧ _))

/-- A request is put on the connection of its sender, or it is lost. -/
theorem request_spec (node : Node) (peer : Nat) (msg : SubmitMsg) :
    node.request peer msg = node ∨
      ∃ fd, (fd, peer) ∈ node.connections ∧
        node.request peer msg = { node with requests := node.requests ++ [(fd, msg)] } := by
  unfold request
  cases found : node.connections.find? (·.2 = peer) with
  | none => exact .inl rfl
  | some connection =>
      have holder : connection.2 = peer := by simpa using List.find?_some found
      refine .inr ⟨connection.1, ?_, rfl⟩
      rw [← holder]
      exact List.mem_of_find?_eq_some found

@[simp] theorem request_connections (node : Node) (peer : Nat) (msg : SubmitMsg) :
    (node.request peer msg).connections = node.connections := by
  obtain lost | ⟨fd, _, sent⟩ := request_spec node peer msg
  · rw [lost]
  · rw [sent]

theorem owed_of_request {fd : Fd} {msg : SubmitMsg} {other : TaskId}
    (member : other ∈ { node with requests := node.requests ++ [(fd, msg)] }.owed) :
    other ∈ node.owed ∨ other = msg.taskId := by
  obtain ⟨request, pending, rfl⟩ | working := mem_owed.mp member
  · obtain before | added := List.mem_append.mp pending
    · exact .inl (mem_owed.mpr (.inl ⟨request, before, rfl⟩))
    · rw [List.mem_singleton.mp added]
      exact .inr rfl
  · exact .inl (mem_owed.mpr (.inr working))

theorem Orderly.request {msg : SubmitMsg} (orderly : node.Orderly client)
    (clear : node.Clear peer msg.taskId) (own : msg.clientId = client) :
    (node.request peer msg).Orderly client := by
  obtain lost | ⟨fd, linked, sent⟩ := request_spec node peer msg
  · rw [lost]
    exact orderly
  · rw [sent]
    refine { orderly with single := ⟨msg.taskId, ?_⟩, requestClient := ?_ }
    · intro other member
      obtain before | same := owed_of_request member
      · exact clear.1 other before
      · exact same
    · intro other pendingMsg pending
      obtain before | added := List.mem_append.mp pending
      · exact orderly.requestClient other pendingMsg before
      · cases List.mem_singleton.mp added
        exact own

/-- The sender of a request is served its answer. -/
theorem Clear.serves {msg : SubmitMsg} (clear : node.Clear peer msg.taskId) :
    (node.request peer msg).Serves peer msg.taskId := by
  have before : node.Serves peer msg.taskId :=
    { responses := fun response member => clear.2.1 _ member rfl
      unsent := fun fd linked => clear.2.2 _ linked rfl
      requests := fun fd _ pending member =>
        clear.1 _ (mem_owed.mpr (.inl ⟨_, member, rfl⟩))
      working := fun _ _ _ other member => clear.1 other (mem_owed.mpr (.inr member)) }
  obtain lost | ⟨fd, linked, sent⟩ := request_spec node peer msg
  · rw [lost]
    exact before
  · rw [sent]
    refine { before with requests := ?_ }
    intro other _ pendingMsg pending
    obtain earlier | added := List.mem_append.mp pending
    · exact clear.1 _ (mem_owed.mpr (.inl ⟨_, earlier, rfl⟩))
    · cases List.mem_singleton.mp added
      rfl

/-- Requests of other threads do not get in the way. -/
theorem Serves.request {sender : Nat} {msg : SubmitMsg} (serves : node.Serves peer id)
    (orderly : node.Orderly client) (different : peer ≠ sender) :
    (node.request sender msg).Serves peer id := by
  obtain lost | ⟨fd, linked, sent⟩ := request_spec node sender msg
  · rw [lost]
    exact serves
  · rw [sent]
    refine { serves with requests := ?_ }
    intro other own pendingMsg pending
    obtain before | added := List.mem_append.mp pending
    · exact serves.requests other own pendingMsg before
    · cases List.mem_singleton.mp added
      exact absurd (orderly.onePeer _ _ _ own linked) different

/-! ## Events -/

/-- What a step of the scheduler adds to the messages that are still to be sent. -/
theorem unsent_of_step {event : Event} {state : Coordinator} (orderly : node.Orderly client)
    (stepped : node.state.step event = .ok state) {out : OutgoingEvent}
    (member : out ∈ { node with state }.unsent) :
    out ∈ node.unsent ∨ node.state.Pushed event out := by
  obtain ⟨pushed, queue, reasons⟩ :=
    (Coordinator.progress_of_step orderly.logPrivate stepped).outgoing
  simp only [unsent, queue, List.drop_append_of_le_length orderly.popped] at member
  exact (List.mem_append.mp member).imp_right (reasons out)

theorem working_of_step {event : Event} {state : Coordinator} (orderly : node.Orderly client)
    (stepped : node.state.step event = .ok state) {other : TaskId}
    (member : other ∈ { node with state }.working) :
    other ∈ node.working ∨ event.names? = some other := by
  have due : ∀ {id : TaskId}, node.state.Due event id →
      id ∈ node.working ∨ event.names? = some id :=
    fun due => due.imp_left fun occupied => mem_working.mpr (.inl occupied)
  rcases mem_working.mp member with occupied | executing | ⟨out, queued, assigns⟩
  · exact due ((Coordinator.progress_of_step orderly.logPrivate stepped).occupied _ occupied)
  · exact .inl (mem_working.mpr (.inr (.inl executing)))
  · obtain before | reason := unsent_of_step orderly stepped queued
    · exact .inl (mem_working.mpr (.inr (.inr ⟨out, before, assigns⟩)))
    · cases reason with
      | peer _ silent | reply _ silent | result _ _ _ silent =>
          rw [silent] at assigns
          cases assigns
      | assign task named isDue =>
          rw [named] at assigns
          cases assigns
          exact due isDue

/-- The event names no second task, asks for no reply on the connection of a router thread
and comes, if it is a `SUBMIT`, from the client. -/
structure Fits (node : Node) (client : ClientId) (event : Event) : Prop where
  single : ∃ id, (∀ other ∈ node.owed, other = id) ∧
    ∀ named, event.names? = some named → named = id
  reply : ∀ fd, event.replyFd? = some fd → ∀ peer, (fd, peer) ∉ node.connections
  clients : ∀ other fd, (event.clientFds node.state.clientFds).lookup other = some fd →
    other = client

theorem Orderly.handle {event : Event} (orderly : node.Orderly client)
    (fits : node.Fits client event) : (node.handle event).Orderly client := by
  unfold Node.handle
  cases stepped : node.state.step event with
  | error fault => exact orderly.crash
  | ok state =>
      have progress := Coordinator.progress_of_step orderly.logPrivate stepped
      obtain ⟨pushed, queue, _⟩ := progress.outgoing
      refine { orderly with
        logPrivate := ?_, popped := ?_, single := ?_, descriptors := ?_, clients := ?_ }
      · exact Coordinator.logPrivate_preserved (fun _ _ => True) _ _ _ orderly.logPrivate
          trivial stepped
      · show node.popped ≤ state.outgoingQueue.length
        rw [queue, List.length_append]
        exact Nat.le_add_right_of_le orderly.popped
      · obtain ⟨id, same, named⟩ := fits.single
        refine ⟨id, fun other member => ?_⟩
        obtain pending | working := mem_owed.mp member
        · exact same other (mem_owed.mpr (.inl pending))
        · obtain before | isNamed := working_of_step orderly stepped working
          · exact same other (mem_owed.mpr (.inr before))
          · exact named other isNamed
      · intro fd peer linked
        obtain ⟨valid, unused⟩ := orderly.descriptors fd peer linked
        refine ⟨valid, fun reached => ?_⟩
        rcases progress.workers fd reached with before | replied | none
        · exact unused before
        · exact fits.reply fd replied peer linked
        · rw [none] at valid
          exact absurd valid (by decide)
      · rw [show state.clientFds = event.clientFds node.state.clientFds from progress.clients]
        exact fits.clients

theorem Serves.handle {event : Event} (serves : node.Serves peer id)
    (orderly : node.Orderly client) (fits : node.Fits client event)
    (due : ∀ fd, (fd, peer) ∈ node.connections →
      (∃ other, (event.clientFds node.state.clientFds).lookup other = some fd) →
      ∀ other, other ∈ node.working ∨ event.names? = some other → other = id) :
    (node.handle event).Serves peer id := by
  unfold Node.handle
  cases stepped : node.state.step event with
  | error fault => exact serves.crash
  | ok state =>
      have progress := Coordinator.progress_of_step orderly.logPrivate stepped
      refine { serves with unsent := ?_, working := ?_ }
      · intro fd linked out member addressed
        obtain ⟨valid, unused⟩ := orderly.descriptors fd peer linked
        obtain before | reason := unsent_of_step orderly stepped member
        · exact serves.unsent fd linked out before addressed
        · have distinct : out.fd ≠ -1 := by
            rw [addressed]
            exact fun none => absurd (none ▸ valid) (by decide)
          cases reason with
          | peer none => exact absurd none distinct
          | reply replied => exact absurd linked (fits.reply fd (addressed ▸ replied) peer)
          | assign _ _ _ _ reached =>
              rcases reached with worker | replied | none
              · exact absurd (addressed ▸ worker) unused
              · exact absurd linked (fits.reply fd (addressed ▸ replied) peer)
              · exact absurd none distinct
          | result task answers isDue _ target =>
              obtain none | ⟨holder, found⟩ := target
              · exact absurd none distinct
              · rw [answers, due fd linked ⟨holder, addressed ▸ found⟩ task]
                exact isDue.imp_left fun occupied => mem_working.mpr (.inl occupied)
      · intro fd linked addressed other member
        refine due fd linked ?_ other (working_of_step orderly stepped member)
        rw [← progress.clients]
        exact addressed

/-- An event opens no connection. -/
theorem mem_connections_of_handle {event : Event} {connection : Fd × Nat}
    (linked : connection ∈ (node.handle event).connections) :
    connection ∈ node.connections := by
  unfold handle at linked
  split at linked
  next => exact linked
  next => cases linked

/-- The scheduler handles a request that is due. -/
theorem fits_submit {index : Nat} {fd : Fd} {msg : SubmitMsg} {env : Env}
    (orderly : node.Orderly client) (pending : (fd, msg) ∈ node.requests) :
    Fits { node with requests := node.requests.eraseIdx index } client
      (.submit fd msg env) where
  single := by
    obtain ⟨id, same⟩ := orderly.single
    refine ⟨id, fun other member => same other ((shrinks_eraseIdx node index).owed _ member), ?_⟩
    rintro named isNamed
    cases isNamed
    exact same _ (mem_owed.mpr (.inl ⟨_, pending, rfl⟩))
  reply := by simp [Event.replyFd?]
  clients other fd' found := by
    by_cases isSender : other = msg.clientId
    · rw [isSender]
      exact orderly.requestClient fd msg pending
    · rw [Event.clientFds, AList.lookup_insert_ne isSender] at found
      exact orderly.clients other fd' found

theorem Orderly.submit {index : Nat} {fd : Fd} {msg : SubmitMsg} {env : Env}
    (orderly : node.Orderly client) (pending : (fd, msg) ∈ node.requests) :
    (node.submit index fd msg env).Orderly client :=
  (orderly.shrink (shrinks_eraseIdx node index)).handle (fits_submit orderly pending)

theorem Serves.submit {index : Nat} {fd : Fd} {msg : SubmitMsg} {env : Env}
    (serves : node.Serves peer id) (orderly : node.Orderly client)
    (pending : (fd, msg) ∈ node.requests) : (node.submit index fd msg env).Serves peer id := by
  have shrinks := shrinks_eraseIdx node index
  have fits : Fits { node with requests := node.requests.eraseIdx index } client
      (.submit fd msg env) := fits_submit orderly pending
  refine (serves.shrink shrinks serves.responses).handle (orderly.shrink shrinks) fits ?_
  rintro own linked ⟨holder, found⟩ other isDue
  have sender := orderly.requestClient fd msg pending
  -- Answers go to the connection of this request from now on, so `peer` is its sender.
  have isSender : holder = msg.clientId := by
    rw [sender]
    exact fits.clients holder own found
  rw [isSender, Event.clientFds, AList.lookup_insert] at found
  cases found
  have wanted := serves.requests fd linked msg pending
  obtain ⟨only, same⟩ := orderly.single
  have isOnly : msg.taskId = only := same _ (mem_owed.mpr (.inl ⟨_, pending, rfl⟩))
  obtain working | named := isDue
  · rw [same other (shrinks.owed other (mem_owed.mpr (.inr working))), ← isOnly, wanted]
  · cases named
    exact wanted

/-- A worker completes a task that it has in hand. -/
theorem fits_complete {fd : Fd} {msg : CompleteMsg} {env : Env} (orderly : node.Orderly client)
    (held : msg.taskId ∈ node.executing) :
    (node.lose msg.taskId).Fits client (.complete fd msg env) where
  single := by
    obtain ⟨id, same⟩ := orderly.single
    refine ⟨id, fun other member => same other ((shrinks_lose node _).owed _ member), ?_⟩
    rintro named isNamed
    cases isNamed
    exact same _ (mem_owed.mpr (.inr (mem_working_of_executing held)))
  reply := by simp [Event.replyFd?]
  clients := orderly.clients

theorem Orderly.complete {fd : Fd} {msg : CompleteMsg} {env : Env}
    (orderly : node.Orderly client) (held : msg.taskId ∈ node.executing) :
    (node.complete fd msg env).Orderly client :=
  (orderly.shrink (shrinks_lose node _)).handle (fits_complete orderly held)

theorem Serves.complete {fd : Fd} {msg : CompleteMsg} {env : Env}
    (serves : node.Serves peer id) (orderly : node.Orderly client)
    (held : msg.taskId ∈ node.executing) : (node.complete fd msg env).Serves peer id := by
  have shrinks := shrinks_lose node msg.taskId
  refine (serves.shrink shrinks serves.responses).handle (orderly.shrink shrinks)
    (fits_complete orderly held) ?_
  intro own linked addressed other isDue
  obtain working | named := isDue
  · exact serves.working own linked addressed other (shrinks.working other working)
  · cases named
    exact serves.working own linked addressed _ (mem_working_of_executing held)

/-- Any other event names no task. -/
theorem fits_unnamed {event : Event} (orderly : node.Orderly client)
    (unnamed : event.names? = none)
    (reply : ∀ fd, event.replyFd? = some fd → ∀ peer, (fd, peer) ∉ node.connections) :
    node.Fits client event where
  single := by
    obtain ⟨id, same⟩ := orderly.single
    exact ⟨id, same, by simp [unnamed]⟩
  reply := reply
  clients := by
    cases event with
    | submit => cases unnamed
    | _ => exact orderly.clients

theorem Serves.handle_unnamed {event : Event} (serves : node.Serves peer id)
    (orderly : node.Orderly client) (unnamed : event.names? = none)
    (reply : ∀ fd, event.replyFd? = some fd → ∀ peer, (fd, peer) ∉ node.connections) :
    (node.handle event).Serves peer id := by
  refine serves.handle orderly (fits_unnamed orderly unnamed reply) ?_
  intro own linked addressed other isDue
  have before : ∃ holder, node.state.clientFds.lookup holder = some own := by
    cases event with
    | submit => cases unnamed
    | _ => exact addressed
  obtain working | named := isDue
  · exact serves.working own linked before other working
  · rw [unnamed] at named
    cases named

end Node

end TaskCoordinator
