import TaskCoordinator.System.Node
import TaskCoordinator.Client
import TaskCoordinator.Router

/-!
# One client, its router threads, the coordinators and their workers

The parts of the program run concurrently and every one of them may take the next step.  An
`Action` is such a step together with the outcome of the socket calls in it.  An action that
is not possible in the current state is not taken: the step function returns `NotEnabled`.

Each connection of the client to the router is served by a router thread of its own, which
outlives the connection.  The coordinators take events from other parties too: registrations,
heartbeats and monitoring requests, and replication messages of any content.  The active
target of a shard may be changed by router threads of other clients.
-/

namespace TaskCoordinator

/-- A router thread with its connection to the client. -/
structure Session where
  thread : RouterThread
  /-- Requests that the thread has not read yet. -/
  inbox : List SubmitMsg := []
  /-- Responses that the client has not read yet. -/
  outbox : List Message := []

structure System where
  numShards : Nat
  client : ClientThread
  sessions : List Session := []
  activeTarget : Nat → ActiveTarget := fun _ => .primary
  nodes : Endpoint → Node := fun _ => {}
  /-- For every response of a coordinator that a router thread forwards, the task of the
  request and the task of the response. -/
  forwarded : List (TaskId × TaskId) := []

inductive Action where
  /-- The client calls `connect`; a router thread is started if the call succeeds. -/
  | clientConnect (accepted : Option Nat)
  | clientPrepare (work : Work)
  | clientSend (sent : Bool)
  | clientReceive (arrives : Bool)
  | routerReceive (peer : Nat) (arrives : Bool)
  | routerLoad (peer : Nat)
  /-- The router thread calls `connect`; the coordinator accepts under a descriptor. -/
  | routerConnect (peer : Nat) (accepted : Option Fd)
  | routerSend (peer : Nat) (sent : Bool)
  | routerAwait (peer : Nat) (arrives : Bool)
  | routerAnswer (peer : Nat) (sent : Bool)
  /-- A router thread of another client moves the active target. -/
  | retarget (shard : Nat) (target : ActiveTarget)
  | hangUp (endpoint : Endpoint) (fd : Fd) (lost : Bool)
  | crash (endpoint : Endpoint)
  /-- The scheduler handles one of the pending requests. -/
  | submit (endpoint : Endpoint) (index : Nat) (env : Env)
  | complete (endpoint : Endpoint) (fd : Fd) (msg : CompleteMsg) (env : Env)
  /-- The scheduler handles an event that is neither of the two. -/
  | handle (endpoint : Endpoint) (event : Event)
  | deliver (endpoint : Endpoint) (arrives : Bool)
  /-- A worker ends with a task in hand. -/
  | lose (endpoint : Endpoint) (id : TaskId)

inductive NotEnabled where
  | notEnabled

namespace System

def disabled : Except NotEnabled System := .error .notEnabled

def setNode (s : System) (endpoint : Endpoint) (node : Node) : System :=
  { s with nodes := Function.update s.nodes endpoint node }

def setSession (s : System) (peer : Nat) (session : Session) : System :=
  { s with sessions := s.sessions.set peer session }

def setThread (s : System) (peer : Nat) (session : Session) (thread : RouterThread) : System :=
  s.setSession peer { session with thread }

/-! ## The client -/

/-- The router accepts a connection and starts a thread whose routing index is arbitrary. -/
def openSession (s : System) (routingIndex : Nat) : System :=
  { s with sessions := s.sessions ++ [{ thread := .start routingIndex }] }

def clientConnect (s : System) (accepted : Option Nat) : Except NotEnabled System :=
  let opened := accepted.elim s s.openSession
  let connection := accepted.map fun _ => s.sessions.length
  match s.client.phase with
  | .connecting => .ok { opened with client := s.client.start connection }
  | .reconnecting request =>
      .ok { opened with client := s.client.reconnected request connection }
  | _ => disabled

def clientPrepare (s : System) (work : Work) : Except NotEnabled System :=
  match s.client.phase with
  | .preparing => .ok { s with client := s.client.prepare work }
  | _ => disabled

/-- A send without a connection fails. -/
def clientSend (s : System) (sent : Bool) : Except NotEnabled System :=
  match s.client.phase with
  | .sending request again =>
      match sent, s.client.connection with
      | true, some peer =>
          match s.sessions[peer]? with
          | some session =>
              .ok { s.setSession peer { session with inbox := session.inbox ++ [request] } with
                client := s.client.sent request }
          | none => disabled
      | _, _ => .ok { s with client := s.client.sendFailed request again }
  | _ => disabled

def clientReceive (s : System) (arrives : Bool) : Except NotEnabled System :=
  match s.client.phase with
  | .receiving request =>
      if arrives then
        match s.client.connection with
        | some peer =>
            match s.sessions[peer]? with
            | some session =>
                match session.outbox with
                | response :: rest =>
                    .ok { s.setSession peer { session with outbox := rest } with
                      client := s.client.received request response }
                | [] => disabled
            | none => disabled
        | none => disabled
      else
        .ok { s with client := s.client.nextRetry }
  | _ => disabled

/-! ## Router threads -/

/-- A router thread leaves its loop and closes all of its connections. -/
def stopThread (s : System) (peer : Nat) (session : Session) : System :=
  { s.setThread peer session session.thread.stop with
    nodes := fun endpoint => (s.nodes endpoint).close peer }

def routerReceive (s : System) (peer : Nat) (arrives : Bool) : Except NotEnabled System :=
  match s.sessions[peer]? with
  | some session =>
      match session.thread.phase with
      | .receiving =>
          if arrives then
            match session.inbox with
            | request :: rest =>
                .ok (s.setSession peer
                  { session with thread := session.thread.begin request, inbox := rest })
            | [] => disabled
          else
            .ok (s.stopThread peer session)
      | _ => disabled
  | none => disabled

def routerLoad (s : System) (peer : Nat) : Except NotEnabled System :=
  match s.sessions[peer]? with
  | some session =>
      match session.thread.phase with
      | .loading request retry attempt =>
          let shard := (session.thread.routingIndex + attempt) % s.numShards
          .ok (s.setThread peer session
            (session.thread.loaded request retry attempt (s.activeTarget shard)))
      | _ => disabled
  | none => disabled

/-- `connect` in `try_connection`, on a connection that is closed. -/
def routerConnect (s : System) (peer : Nat) (accepted : Option Fd) :
    Except NotEnabled System :=
  match s.sessions[peer]? with
  | some session =>
      match session.thread.phase with
      | .trying attempt _ =>
          let endpoint := session.thread.endpoint s.numShards attempt
          if session.thread.links endpoint then
            disabled
          else
            match accepted with
            | some fd =>
                if 0 ≤ fd ∧ ∀ connection ∈ (s.nodes endpoint).connections, connection.1 ≠ fd then
                  .ok ((s.setThread peer session (session.thread.setLink endpoint true)).setNode
                    endpoint ((s.nodes endpoint).accept fd peer))
                else
                  disabled
            | none =>
                .ok (s.setThread peer session (session.thread.failed s.numShards attempt))
      | _ => disabled
  | none => disabled

/-- The send in `try_connection`; a connection on which it fails is closed. -/
def routerSend (s : System) (peer : Nat) (sent : Bool) : Except NotEnabled System :=
  match s.sessions[peer]? with
  | some session =>
      match session.thread.phase with
      | .trying attempt again =>
          let endpoint := session.thread.endpoint s.numShards attempt
          if session.thread.links endpoint then
            if sent then
              .ok ((s.setThread peer session (session.thread.sent attempt)).setNode endpoint
                ((s.nodes endpoint).request peer attempt.request))
            else
              let thread := session.thread.setLink endpoint false
              .ok ((s.setThread peer session
                (thread.sendFailed s.numShards attempt again)).setNode endpoint
                  ((s.nodes endpoint).close peer))
          else
            disabled
      | _ => disabled
  | none => disabled

/-- The first unread message for a router thread. -/
def nextResponse (node : Node) (peer : Nat) : Option Message :=
  (node.responses.find? (·.1 = peer)).map (·.2)

/-- `compare_exchange_strong` after the fallback has succeeded. -/
def exchange (s : System) (shard : Nat) (attempt : Attempt) : System :=
  if attempt.fallback ∧ s.activeTarget shard = attempt.current then
    { s with activeTarget := Function.update s.activeTarget shard attempt.current.other }
  else
    s

theorem exchange_spec (s : System) (shard : Nat) (attempt : Attempt) :
    ∃ activeTarget, s.exchange shard attempt = { s with activeTarget } := by
  unfold exchange
  split
  next => exact ⟨_, rfl⟩
  next => exact ⟨s.activeTarget, rfl⟩

/-- The receive in `try_connection`; a connection on which it fails is closed. -/
def routerAwait (s : System) (peer : Nat) (arrives : Bool) : Except NotEnabled System :=
  match s.sessions[peer]? with
  | some session =>
      match session.thread.phase with
      | .awaiting attempt =>
          let endpoint := session.thread.endpoint s.numShards attempt
          let node := s.nodes endpoint
          if arrives then
            match nextResponse node peer with
            | some response =>
                let read := { node with
                  responses := node.responses.eraseP fun entry => entry.1 = peer }
                .ok { ((s.exchange endpoint.shard attempt).setThread peer session
                    (session.thread.succeeded s.numShards response)).setNode endpoint read with
                  forwarded := s.forwarded ++
                    [(attempt.request.taskId, response.result.taskId)] }
            | none => disabled
          else
            let thread := session.thread.setLink endpoint false
            .ok ((s.setThread peer session (thread.failed s.numShards attempt)).setNode endpoint
              (node.close peer))
      | _ => disabled
  | none => disabled

def routerAnswer (s : System) (peer : Nat) (sent : Bool) : Except NotEnabled System :=
  match s.sessions[peer]? with
  | some session =>
      match session.thread.phase with
      | .answering response =>
          if sent then
            .ok (s.setSession peer
              { session with
                thread := session.thread.answered, outbox := session.outbox ++ [response] })
          else
            .ok (s.stopThread peer session)
      | _ => disabled
  | none => disabled

/-! ## Coordinators and workers -/

def submit (s : System) (endpoint : Endpoint) (index : Nat) (env : Env) :
    Except NotEnabled System :=
  match (s.nodes endpoint).requests[index]? with
  | some (fd, msg) => .ok (s.setNode endpoint ((s.nodes endpoint).submit index fd msg env))
  | none => disabled

def complete (s : System) (endpoint : Endpoint) (fd : Fd) (msg : CompleteMsg) (env : Env) :
    Except NotEnabled System :=
  if msg.taskId ∈ (s.nodes endpoint).executing then
    .ok (s.setNode endpoint ((s.nodes endpoint).complete fd msg env))
  else
    disabled

/-- A descriptor on which the event asks for a reply is not that of a router thread. -/
def handle (s : System) (endpoint : Endpoint) (event : Event) : Except NotEnabled System :=
  let node := s.nodes endpoint
  if event.names? = none ∧
      ∀ connection ∈ node.connections, event.replyFd? ≠ some connection.1 then
    .ok (s.setNode endpoint (node.handle event))
  else
    disabled

def deliver (s : System) (endpoint : Endpoint) (arrives : Bool) : Except NotEnabled System :=
  let node := s.nodes endpoint
  match node.state.outgoingQueue[node.popped]? with
  | some out => .ok (s.setNode endpoint (node.deliver out arrives))
  | none => disabled

/-- One step of the system. -/
def step (s : System) : Action → Except NotEnabled System
  | .clientConnect accepted => s.clientConnect accepted
  | .clientPrepare work => s.clientPrepare work
  | .clientSend sent => s.clientSend sent
  | .clientReceive arrives => s.clientReceive arrives
  | .routerReceive peer arrives => s.routerReceive peer arrives
  | .routerLoad peer => s.routerLoad peer
  | .routerConnect peer accepted => s.routerConnect peer accepted
  | .routerSend peer sent => s.routerSend peer sent
  | .routerAwait peer arrives => s.routerAwait peer arrives
  | .routerAnswer peer sent => s.routerAnswer peer sent
  | .retarget shard target =>
      .ok { s with activeTarget := Function.update s.activeTarget shard target }
  | .hangUp endpoint fd lost =>
      .ok (s.setNode endpoint ((s.nodes endpoint).hangUp fd lost))
  | .crash endpoint => .ok (s.setNode endpoint (s.nodes endpoint).crash)
  | .submit endpoint index env => s.submit endpoint index env
  | .complete endpoint fd msg env => s.complete endpoint fd msg env
  | .handle endpoint event => s.handle endpoint event
  | .deliver endpoint arrives => s.deliver endpoint arrives
  | .lose endpoint id => .ok (s.setNode endpoint ((s.nodes endpoint).lose id))

end System

end TaskCoordinator
