import TaskCoordinator.System.Deployment
import TaskCoordinator.Library.SwapRemove
import TaskCoordinator.Library.Transition

/-!
# Responses belong to their requests

Neither the router nor the client looks at the task of a response, and a coordinator answers
a task on the connection on which its client was heard last.  After a timeout and a second
submission of the same task two answers are under way, and the later one is taken for the
answer to the next task.

A response belongs to its request as long as every request is sent to a receiver that owes
no answer for another task, however many receives have timed out, connections have been
closed and coordinators have been tried before.
-/

namespace TaskCoordinator

namespace Session

/-- The responses that the client has still to read. -/
def unread (session : Session) : List Message :=
  match session.thread.phase with
  | .answering response => session.outbox ++ [response]
  | _ => session.outbox

/-- The requests that the thread has still to answer. -/
def requests (session : Session) : List SubmitMsg :=
  session.inbox ++ session.thread.phase.request?.toList

/-- The tasks of requests that are still to be answered and of responses that the client
would still count. -/
def owed (session : Session) : List TaskId :=
  session.requests.map (·.taskId) ++
    (session.unread.filter fun response => response.result.success ≠ 0).map (·.result.taskId)

variable {session : Session} {id : TaskId}

theorem mem_owed :
    id ∈ session.owed ↔
      (∃ request ∈ session.requests, request.taskId = id) ∨
        ∃ response ∈ session.unread,
          response.result.success ≠ 0 ∧ response.result.taskId = id := by
  simp [owed, and_assoc]

/-- What is owed after a change, given where its requests and responses come from. -/
theorem owed_subset {session' : Session}
    (requests : ∀ request ∈ session'.requests, request ∈ session.requests)
    (unread : ∀ response ∈ session'.unread, response.result.success ≠ 0 →
      response ∈ session.unread ∨
        ∃ request ∈ session.requests, request.taskId = response.result.taskId) :
    ∀ id ∈ session'.owed, id ∈ session.owed := by
  intro id member
  obtain ⟨request, pending, rfl⟩ | ⟨response, waiting, success, rfl⟩ := mem_owed.mp member
  · exact mem_owed.mpr (.inl ⟨request, requests request pending, rfl⟩)
  · obtain before | asked := unread response waiting success
    · exact mem_owed.mpr (.inr ⟨response, before, success, rfl⟩)
    · exact mem_owed.mpr (.inl asked)

theorem mem_unread_of_outbox {response : Message} (member : response ∈ session.outbox) :
    response ∈ session.unread := by
  unfold unread
  split
  next => exact List.mem_append_left _ member
  next => exact member

theorem unread_of_request {request : SubmitMsg}
    (working : session.thread.phase.request? = some request) :
    session.unread = session.outbox := by
  unfold unread
  split
  next answering =>
    rw [answering] at working
    cases working
  next => rfl

/-- A thread that goes on working on its request owes nothing new. -/
theorem requests_of_worksOn {request : SubmitMsg} {thread : RouterThread}
    (working : session.thread.phase.request? = some request)
    (continues : thread.WorksOn request) :
    ∀ other ∈ { session with thread }.requests, other ∈ session.requests := by
  intro other member
  simp only [requests, working, List.mem_append] at member ⊢
  obtain ⟨same, _⟩ | reports := continues
  · rwa [same] at member
  · rw [reports] at member
    exact member.imp_right (by simp [RouterPhase.request?])

theorem owed_of_worksOn {request : SubmitMsg} {thread : RouterThread}
    (working : session.thread.phase.request? = some request)
    (continues : thread.WorksOn request) :
    ∀ id ∈ { session with thread }.owed, id ∈ session.owed := by
  refine owed_subset (requests_of_worksOn working continues) ?_
  intro response member success
  refine .inl (mem_unread_of_outbox ?_)
  obtain ⟨same, _⟩ | reports := continues
  · rwa [unread_of_request same] at member
  · simp only [unread, reports, List.mem_append, List.mem_singleton] at member
    obtain before | rfl := member
    · exact before
    · exact absurd rfl success

end Session

namespace System

open Transition

/-- Every response that a router thread forwards or the client counts answers its request. -/
def Matched (s : System) : Prop :=
  (∀ pair ∈ s.forwarded, pair.2 = pair.1) ∧ ∀ pair ∈ s.client.counted, pair.2 = pair.1

instance (s : System) : Decidable s.Matched :=
  have _ (pairs : List (TaskId × TaskId)) : Decidable (∀ pair ∈ pairs, pair.2 = pair.1) :=
    List.decidableBAll _ _
  inferInstanceAs (Decidable (_ ∧ _))

/-- The router thread to which the client is about to send, and the task of the request. -/
def sending? (s : System) : Option (Session × TaskId) :=
  match s.client.phase, s.client.connection with
  | .sending request _, some peer =>
      s.sessions[peer]?.map fun session => (session, request.taskId)
  | _, _ => none

/-- The coordinator that a router thread is about to try, and the task of the request. -/
def trying? (s : System) (peer : Nat) : Option (Endpoint × TaskId) :=
  match s.sessions[peer]? with
  | some session =>
      match session.thread.phase with
      | .trying attempt _ =>
          some (session.thread.endpoint s.numShards attempt, attempt.request.taskId)
      | _ => none
  | none => none

theorem trying?_eq {s : System} {peer : Nat} {session : Session} {attempt : Attempt}
    {again : Bool} (held : s.sessions[peer]? = some session)
    (trying : session.thread.phase = .trying attempt again) :
    s.trying? peer =
      some (session.thread.endpoint s.numShards attempt, attempt.request.taskId) := by
  simp [trying?, held, trying]

/-- A request is sent only while its receiver owes no answer for another task, and a
connection is not accepted under a descriptor through which a worker is still addressed. -/
def Settled (s : System) : Action → Prop
  | .clientSend true => ∀ target ∈ s.sending?, ∀ id ∈ target.1.owed, id = target.2
  | .routerConnect peer (some fd) =>
      ∀ target ∈ s.trying? peer, ¬ (s.nodes target.1).state.WorkerOn fd
  | .routerSend peer true =>
      ∀ target ∈ s.trying? peer, (s.nodes target.1).Clear peer target.2
  | _ => True

instance (s : System) : (action : Action) → Decidable (s.Settled action)
  | .clientSend true =>
      have _ (target : Session × TaskId) : Decidable (∀ id ∈ target.1.owed, id = target.2) :=
        List.decidableBAll _ _
      inferInstanceAs (Decidable (∀ target ∈ s.sending?, ∀ id ∈ target.1.owed, id = target.2))
  | .routerConnect peer (some fd) =>
      inferInstanceAs (Decidable
        (∀ target ∈ s.trying? peer, ¬ (s.nodes target.1).state.WorkerOn fd))
  | .routerSend peer true =>
      inferInstanceAs (Decidable
        (∀ target ∈ s.trying? peer, (s.nodes target.1).Clear peer target.2))
  | .clientSend false | .routerConnect _ none | .routerSend _ false
  | .clientConnect _ | .clientPrepare _ | .clientReceive _ | .routerReceive .. | .routerLoad _
  | .routerAwait .. | .routerAnswer .. | .retarget .. | .hangUp .. | .crash _ | .submit ..
  | .complete .. | .handle .. | .deliver .. | .lose .. => isTrue trivial

/-- The system before its first step. -/
def start (numShards : Nat) (id : ClientId) (numTasks : UInt64) : System where
  numShards
  client := { id, numTasks }

/-! ## The invariant -/

/-- The requests that the client thread holds. -/
def clientRequest? (s : System) : Option SubmitMsg :=
  match s.client.phase with
  | .sending request _ | .reconnecting request => some request
  | _ => none

structure Matching (s : System) : Prop where
  nodes : ∀ endpoint, (s.nodes endpoint).Orderly s.client.id
  /-- Every connection is open at the router's end. -/
  links : ∀ endpoint fd peer, (fd, peer) ∈ (s.nodes endpoint).connections →
    ∃ session, s.sessions[peer]? = some session ∧ session.thread.links endpoint = true
  /-- A thread that waits for a response can get no other. -/
  awaiting : ∀ (peer : Nat) session attempt, s.sessions[peer]? = some session →
    session.thread.phase = .awaiting attempt →
    (s.nodes (session.thread.endpoint s.numShards attempt)).Serves peer attempt.request.taskId
  senders : ∀ (peer : Nat) session, s.sessions[peer]? = some session →
    ∀ request ∈ session.requests, request.clientId = s.client.id
  sender : ∀ request ∈ s.clientRequest?, request.clientId = s.client.id
  /-- The client can count no other response than the one it waits for. -/
  receiving : ∀ request (peer : Nat) session, s.client.phase = .receiving request →
    s.client.connection = some peer → s.sessions[peer]? = some session →
    ∀ id ∈ session.owed, id = request.taskId
  matched : s.Matched

theorem matching_start (numShards : Nat) (id : ClientId) (numTasks : UInt64) :
    (start numShards id numTasks).Matching where
  nodes _ := Node.orderly_start id
  links := by simp [start]
  awaiting := by simp [start]
  senders := by simp [start]
  sender := by simp [start, clientRequest?]
  receiving := by simp [start]
  matched := by simp [start, Matched]

variable {s s' : System} {peer : Nat} {session session' : Session} {endpoint : Endpoint}
  {node : Node}

/-- A step of one coordinator. -/
theorem Matching.setNode (matching : s.Matching) (orderly : node.Orderly s.client.id)
    (connections : ∀ entry ∈ node.connections, entry ∈ (s.nodes endpoint).connections)
    (serves : ∀ peer id, (s.nodes endpoint).Serves peer id → node.Serves peer id) :
    (s.setNode endpoint node).Matching where
  nodes other := by
    by_cases same : other = endpoint
    · subst other
      simpa [System.setNode] using orderly
    · simpa [System.setNode, same] using matching.nodes other
  links other fd peer linked := by
    by_cases same : other = endpoint
    · subst other
      simp only [System.setNode, Function.update_self] at linked
      exact matching.links endpoint fd peer (connections _ linked)
    · simp only [System.setNode, Function.update_of_ne same] at linked
      exact matching.links other fd peer linked
  awaiting peer session attempt held waits := by
    have before := matching.awaiting peer session attempt held waits
    simp only [System.setNode]
    by_cases same : session.thread.endpoint s.numShards attempt = endpoint
    · rw [same, Function.update_self]
      rw [same] at before
      exact serves _ _ before
    · rw [Function.update_of_ne same]
      exact before
  senders := matching.senders
  sender := matching.sender
  receiving := matching.receiving
  matched := matching.matched

/-- A step of one router thread. -/
theorem Matching.router (matching : s.Matching) (held : s.sessions[peer]? = some session)
    (client : s'.client = s.client) (numShards : s'.numShards = s.numShards)
    (sessions : s'.sessions = s.sessions.set peer session')
    (orderly : ∀ endpoint, (s'.nodes endpoint).Orderly s.client.id)
    (connections : ∀ endpoint fd other, (fd, other) ∈ (s'.nodes endpoint).connections →
      (other = peer ∧ session'.thread.links endpoint = true) ∨
      (other ≠ peer ∧ (fd, other) ∈ (s.nodes endpoint).connections))
    (others : ∀ endpoint other id, other ≠ peer → (s.nodes endpoint).Serves other id →
      (s'.nodes endpoint).Serves other id)
    (awaiting : ∀ attempt, session'.thread.phase = .awaiting attempt →
      (s'.nodes (session'.thread.endpoint s.numShards attempt)).Serves peer
        attempt.request.taskId)
    (requests : ∀ request ∈ session'.requests, request ∈ session.requests)
    (owed : ∀ id ∈ session'.owed, id ∈ session.owed)
    (forwarded : ∀ pair ∈ s'.forwarded, pair.2 = pair.1) : s'.Matching := by
  have bound : peer < s.sessions.length := (List.getElem?_eq_some_iff.mp held).1
  have own : s'.sessions[peer]? = some session' := by
    rw [sessions, List.getElem?_set_self bound]
  have rest : ∀ other, other ≠ peer → s'.sessions[other]? = s.sessions[other]? := by
    intro other different
    rw [sessions, List.getElem?_set_ne different.symm]
  constructor
  · rw [client]
    exact orderly
  · intro endpoint fd other linked
    obtain ⟨rfl, opened⟩ | ⟨different, before⟩ := connections endpoint fd other linked
    · exact ⟨session', own, opened⟩
    · rw [rest other different]
      exact matching.links endpoint fd other before
  · intro other found attempt heldOther waits
    rw [numShards]
    by_cases same : other = peer
    · subst other
      rw [own] at heldOther
      cases heldOther
      exact awaiting attempt waits
    · rw [rest other same] at heldOther
      exact others _ other _ same (matching.awaiting other found attempt heldOther waits)
  · intro other found heldOther request member
    rw [client]
    by_cases same : other = peer
    · subst other
      rw [own] at heldOther
      cases heldOther
      exact matching.senders peer session held request (requests request member)
    · rw [rest other same] at heldOther
      exact matching.senders other found heldOther request member
  · simp only [clientRequest?, client]
    exact matching.sender
  · intro request other found waits connected heldOther id member
    rw [client] at waits connected
    by_cases same : other = peer
    · subst other
      rw [own] at heldOther
      cases heldOther
      exact matching.receiving request peer session waits connected held id (owed id member)
    · rw [rest other same] at heldOther
      exact matching.receiving request other found waits connected heldOther id member
  · refine ⟨forwarded, ?_⟩
    rw [client]
    exact matching.matched.2

/-- A step of one router thread that leaves its connections to the coordinators. -/
theorem Matching.setSession (matching : s.Matching) (held : s.sessions[peer]? = some session)
    (links : session'.thread.links = session.thread.links)
    (idle : ∀ attempt, session'.thread.phase ≠ .awaiting attempt)
    (requests : ∀ request ∈ session'.requests, request ∈ session.requests)
    (owed : ∀ id ∈ session'.owed, id ∈ session.owed) :
    (s.setSession peer session').Matching := by
  refine matching.router held rfl rfl rfl matching.nodes ?_ (fun _ _ _ _ serves => serves)
    (fun attempt waits => absurd waits (idle attempt)) requests owed matching.matched.1
  intro endpoint fd other linked
  by_cases same : other = peer
  · subst other
    obtain ⟨found, heldFound, opened⟩ := matching.links endpoint fd peer linked
    rw [held] at heldFound
    cases heldFound
    exact .inl ⟨rfl, links ▸ opened⟩
  · exact .inr ⟨same, linked⟩

/-! ## Steps of the client -/

/-- The sessions of `s'` are those of `s` with the same threads, and new ones. -/
structure SameThreads (s s' : System) : Prop where
  kept : ∀ (peer : Nat) session, s.sessions[peer]? = some session →
    ∃ session', s'.sessions[peer]? = some session' ∧ session'.thread = session.thread
  requests : ∀ (peer : Nat) session', s'.sessions[peer]? = some session' →
    ∀ request ∈ session'.requests, request.clientId = s.client.id
  awaiting : ∀ (peer : Nat) session' attempt, s'.sessions[peer]? = some session' →
    session'.thread.phase = .awaiting attempt →
    ∃ session, s.sessions[peer]? = some session ∧ session.thread = session'.thread

theorem Matching.sameThreads (matching : s.Matching) (same : s'.sessions = s.sessions) :
    SameThreads s s' where
  kept peer session held := ⟨session, by rw [same, held], rfl⟩
  requests peer session' held := matching.senders peer session' (same ▸ held)
  awaiting peer session' attempt held _ := ⟨session', same ▸ held, rfl⟩

theorem Matching.sameThreads_open (matching : s.Matching) {routingIndex : Nat}
    (opened : s'.sessions = s.sessions ++ [{ thread := .start routingIndex }]) :
    SameThreads s s' := by
  have split : ∀ (peer : Nat) session', s'.sessions[peer]? = some session' →
      s.sessions[peer]? = some session' ∨ session' = { thread := .start routingIndex } := by
    intro peer session' held
    rw [opened, SwapRemove.getElem?_pushed_eq_some] at held
    exact held.imp_right And.right
  refine ⟨?_, ?_, ?_⟩
  · intro peer session held
    refine ⟨session, ?_, rfl⟩
    rw [opened, List.getElem?_append_left (List.getElem?_eq_some_iff.mp held).1, held]
  · intro peer session' held
    obtain before | rfl := split peer session' held
    · exact matching.senders peer session' before
    · simp [Session.requests, RouterThread.start, RouterPhase.request?]
  · intro peer session' attempt held waits
    obtain before | rfl := split peer session' held
    · exact ⟨session', before, rfl⟩
    · cases waits

theorem Matching.sameThreads_set (matching : s.Matching)
    (held : s.sessions[peer]? = some session)
    (changed : s'.sessions = s.sessions.set peer session')
    (thread : session'.thread = session.thread)
    (requests : ∀ request ∈ session'.requests, request.clientId = s.client.id) :
    SameThreads s s' := by
  have bound : peer < s.sessions.length := (List.getElem?_eq_some_iff.mp held).1
  have own : s'.sessions[peer]? = some session' := by
    rw [changed, List.getElem?_set_self bound]
  have rest : ∀ other, other ≠ peer → s'.sessions[other]? = s.sessions[other]? := by
    intro other different
    rw [changed, List.getElem?_set_ne different.symm]
  refine ⟨?_, ?_, ?_⟩
  · intro other found heldOther
    by_cases same : other = peer
    · subst other
      rw [held] at heldOther
      cases heldOther
      exact ⟨session', own, thread⟩
    · exact ⟨found, by rw [rest other same, heldOther], rfl⟩
  · intro other found heldOther
    by_cases same : other = peer
    · subst other
      rw [own] at heldOther
      cases heldOther
      exact requests
    · exact matching.senders other found (rest other same ▸ heldOther)
  · intro other found attempt heldOther _
    by_cases same : other = peer
    · subst other
      rw [own] at heldOther
      cases heldOther
      exact ⟨session, held, thread.symm⟩
    · exact ⟨found, rest other same ▸ heldOther, rfl⟩

/-- A step of the client thread. -/
theorem Matching.client (matching : s.Matching) (nodes : s'.nodes = s.nodes)
    (numShards : s'.numShards = s.numShards) (forwarded : s'.forwarded = s.forwarded)
    (threads : SameThreads s s') (id : s'.client.id = s.client.id)
    (sender : ∀ request ∈ s'.clientRequest?, request.clientId = s.client.id)
    (receiving : ∀ request (peer : Nat) session, s'.client.phase = .receiving request →
      s'.client.connection = some peer → s'.sessions[peer]? = some session →
      ∀ id ∈ session.owed, id = request.taskId)
    (counted : ∀ pair ∈ s'.client.counted, pair.2 = pair.1) : s'.Matching where
  nodes endpoint := by
    rw [nodes, id]
    exact matching.nodes endpoint
  links endpoint fd peer linked := by
    rw [nodes] at linked
    obtain ⟨session, held, opened⟩ := matching.links endpoint fd peer linked
    obtain ⟨session', held', thread⟩ := threads.kept peer session held
    exact ⟨session', held', thread ▸ opened⟩
  awaiting peer session' attempt held waits := by
    obtain ⟨session, heldBefore, thread⟩ := threads.awaiting peer session' attempt held waits
    rw [nodes, numShards, ← thread]
    exact matching.awaiting peer session attempt heldBefore (thread ▸ waits)
  senders := by
    rw [id]
    exact threads.requests
  sender := by
    rw [id]
    exact sender
  receiving := receiving
  matched := by
    refine ⟨?_, counted⟩
    rw [forwarded]
    exact matching.matched.1

/-- A step of the client thread by which it becomes idle. -/
theorem Matching.idle (matching : s.Matching) (nodes : s'.nodes = s.nodes)
    (numShards : s'.numShards = s.numShards) (forwarded : s'.forwarded = s.forwarded)
    (threads : SameThreads s s') (idle : s'.client.Idle) (id : s'.client.id = s.client.id)
    (counted : ∀ pair ∈ s'.client.counted, pair.2 = pair.1) : s'.Matching := by
  refine matching.client nodes numShards forwarded threads id ?_ ?_ counted
  · obtain preparing | finished := idle
    · simp [clientRequest?, preparing]
    · simp [clientRequest?, finished]
  · intro request peer session receiving
    obtain preparing | finished := idle
    · simp [preparing] at receiving
    · simp [finished] at receiving

theorem Matching.clientConnect {accepted : Option Nat} (matching : s.Matching)
    (stepped : s.clientConnect accepted = .ok s') : s'.Matching := by
  have threads : ∀ client : ClientThread,
      SameThreads s { accepted.elim s s.openSession with client } := by
    intro client
    cases accepted with
    | none => exact matching.sameThreads rfl
    | some routingIndex => exact matching.sameThreads_open rfl
  have nodes : (accepted.elim s s.openSession).nodes = s.nodes := by cases accepted <;> rfl
  have shards : (accepted.elim s s.openSession).numShards = s.numShards := by
    cases accepted <;> rfl
  have forwarded : (accepted.elim s s.openSession).forwarded = s.forwarded := by
    cases accepted <;> rfl
  unfold System.clientConnect at stepped
  split at stepped
  next =>
    cases stepped
    obtain ⟨idle, id, counted⟩ :=
      s.client.start_spec (accepted.map fun _ => s.sessions.length)
    exact matching.idle nodes shards forwarded (threads _) idle id
      (counted ▸ matching.matched.2)
  next request reconnecting =>
    cases stepped
    cases accepted with
    | none =>
        obtain ⟨idle, id, counted⟩ := { s.client with connection := none }.nextRetry_spec
        exact matching.idle nodes shards forwarded (threads _) idle id
          (counted ▸ matching.matched.2)
    | some routingIndex =>
        refine matching.client nodes shards forwarded (threads _) rfl ?_ ?_ matching.matched.2
        · have own := matching.sender
          simpa [clientRequest?, reconnecting, ClientThread.reconnected] using own
        · intro other peer session receiving
          cases receiving
  next => cases stepped

theorem Matching.clientPrepare {work : Work} (matching : s.Matching)
    (stepped : s.clientPrepare work = .ok s') : s'.Matching := by
  unfold System.clientPrepare at stepped
  split at stepped
  next =>
    cases stepped
    refine matching.client rfl rfl rfl (matching.sameThreads rfl) rfl ?_ ?_ matching.matched.2
    · simp [clientRequest?, ClientThread.prepare]
    · intro other peer session receiving
      cases receiving
  next => cases stepped

theorem Matching.clientSendFailed {request : SubmitMsg} {again : Bool} (matching : s.Matching)
    (sending : s.client.phase = .sending request again) :
    { s with client := s.client.sendFailed request again }.Matching := by
  cases again with
  | true =>
      obtain ⟨idle, id, counted⟩ := s.client.nextRetry_spec
      exact matching.idle rfl rfl rfl (matching.sameThreads rfl) idle id
        (counted ▸ matching.matched.2)
  | false =>
      refine matching.client rfl rfl rfl (matching.sameThreads rfl) rfl ?_ ?_
        matching.matched.2
      · have own := matching.sender
        simpa [clientRequest?, sending, ClientThread.sendFailed] using own
      · intro other peer session receiving
        cases receiving

theorem Matching.clientSend {sent : Bool} (matching : s.Matching)
    (settled : s.Settled (.clientSend sent)) (stepped : s.clientSend sent = .ok s') :
    s'.Matching := by
  unfold System.clientSend at stepped
  split at stepped
  next request again sending =>
    have own : request.clientId = s.client.id := matching.sender request (by
      simp [clientRequest?, sending])
    split at stepped
    next peer connected =>
      split at stepped
      next session held =>
        cases stepped
        have clear : ∀ id ∈ session.owed, id = request.taskId :=
          settled (session, request.taskId) (by simp [sending?, sending, connected, held])
        have bound : peer < s.sessions.length := (List.getElem?_eq_some_iff.mp held).1
        refine matching.client rfl rfl rfl
          (matching.sameThreads_set held rfl rfl ?_) rfl ?_ ?_ matching.matched.2
        · intro other member
          have senders := matching.senders peer session held
          simp only [Session.requests, List.mem_append, List.mem_singleton] at member senders
          rcases member with (before | rfl) | working
          · exact senders other (.inl before)
          · exact own
          · exact senders other (.inr working)
        · simp [clientRequest?, ClientThread.sent]
        · intro waiting other found receiving connectedTo heldOther id member
          cases receiving
          have isPeer : other = peer := by
            have : s.client.connection = some other := connectedTo
            rw [connected] at this
            exact (Option.some.inj this).symm
          subst other
          simp only [System.setSession, List.getElem?_set_self bound] at heldOther
          cases heldOther
          simp only [Session.owed, Session.requests, Session.unread, List.mem_append,
            List.map_append, List.map_cons, List.map_nil, List.mem_singleton] at member clear
          rcases member with ((before | rfl) | working) | unread
          · exact clear id (.inl (.inl before))
          · rfl
          · exact clear id (.inl (.inr working))
          · exact clear id (.inr unread)
      next => cases stepped
    next =>
      cases stepped
      exact matching.clientSendFailed sending
  next => cases stepped

theorem Matching.clientReceive {arrives : Bool} (matching : s.Matching)
    (stepped : s.clientReceive arrives = .ok s') : s'.Matching := by
  unfold System.clientReceive at stepped
  split at stepped
  next request receiving =>
    split at stepped
    next =>
      split at stepped
      next peer connected =>
        split at stepped
        next session held =>
          split at stepped
          next response rest unread =>
            cases stepped
            have threads : ∀ client : ClientThread, SameThreads s
                { s.setSession peer { session with outbox := rest } with client } :=
              fun client => matching.sameThreads_set held rfl rfl
                (matching.senders peer session held)
            have wanted := matching.receiving request peer session receiving connected held
            unfold ClientThread.received
            split
            next =>
              obtain ⟨idle, id, counted⟩ := s.client.nextRetry_spec
              exact matching.idle rfl rfl rfl (threads _) idle id (counted ▸ matching.matched.2)
            next success =>
              obtain ⟨idle, id, counted⟩ := { s.client with
                counted := s.client.counted ++
                  [(request.taskId, response.result.taskId)] }.nextTask_spec
              refine matching.idle rfl rfl rfl (threads _) idle id ?_
              intro pair member
              simp only [counted, List.mem_append, List.mem_singleton] at member
              obtain before | rfl := member
              · exact matching.matched.2 pair before
              · refine wanted _ (Session.mem_owed.mpr (.inr ⟨response, ?_, success, rfl⟩))
                exact Session.mem_unread_of_outbox (unread ▸ List.mem_cons_self)
          next => cases stepped
        next => cases stepped
      next => cases stepped
    next =>
      cases stepped
      obtain ⟨idle, id, counted⟩ := s.client.nextRetry_spec
      exact matching.idle rfl rfl rfl (matching.sameThreads rfl) idle id
        (counted ▸ matching.matched.2)
  next => cases stepped

/-! ## Steps of a router thread -/

theorem Matching.stopThread (matching : s.Matching) (held : s.sessions[peer]? = some session) :
    (s.stopThread peer session).Matching := by
  have requests : ∀ request ∈ { session with thread := session.thread.stop }.requests,
      request ∈ session.requests := by
    intro request member
    simp only [Session.requests, RouterThread.stop, RouterPhase.request?, Option.toList_none,
      List.append_nil] at member
    exact List.mem_append_left _ member
  refine matching.router held rfl rfl rfl ?_ ?_ ?_ ?_ requests ?_ matching.matched.1
  · exact fun endpoint => (matching.nodes endpoint).shrink (Node.shrinks_close _ _)
  · intro endpoint fd other linked
    obtain ⟨before, different⟩ := List.mem_filter.mp linked
    exact .inr ⟨by simpa using different, before⟩
  · intro endpoint other id _ serves
    exact serves.shrink (Node.shrinks_close _ _)
      fun msg member => serves.responses msg (List.mem_of_mem_filter member)
  · intro attempt waits
    cases waits
  · exact Session.owed_subset requests
      fun response member _ => .inl (Session.mem_unread_of_outbox member)

theorem Matching.routerReceive {arrives : Bool} (matching : s.Matching)
    (stepped : s.routerReceive peer arrives = .ok s') : s'.Matching := by
  unfold System.routerReceive at stepped
  split at stepped
  next session held =>
    split at stepped
    next receiving =>
      split at stepped
      next =>
        split at stepped
        next request rest inbox =>
          cases stepped
          have requests : ∀ other ∈
              { session with thread := session.thread.begin request, inbox := rest }.requests,
              other ∈ session.requests := by
            intro other member
            simp only [Session.requests, RouterThread.begin, RouterPhase.request?, inbox,
              receiving, Option.toList_some, Option.toList_none, List.mem_append,
              List.append_nil, List.mem_cons, List.not_mem_nil, or_false] at member ⊢
            exact member.symm
          refine matching.setSession held rfl (by simp [RouterThread.begin]) requests ?_
          exact Session.owed_subset requests
            fun response member _ => .inl (Session.mem_unread_of_outbox member)
        next => cases stepped
      next =>
        cases stepped
        exact matching.stopThread held
    next => cases stepped
  next => cases stepped

/-- A thread goes on with its request and keeps its connections. -/
theorem Matching.worksOn {request : SubmitMsg} {thread : RouterThread} (matching : s.Matching)
    (held : s.sessions[peer]? = some session)
    (working : session.thread.phase.request? = some request)
    (continues : thread.WorksOn request) (links : thread.links = session.thread.links) :
    (s.setThread peer session thread).Matching := by
  refine matching.setSession held links ?_ (Session.requests_of_worksOn working continues)
    (Session.owed_of_worksOn working continues)
  intro attempt waits
  obtain ⟨_, idle⟩ | reports := continues
  · exact idle attempt waits
  · rw [reports] at waits
    cases waits

theorem Matching.routerLoad (matching : s.Matching) (stepped : s.routerLoad peer = .ok s') :
    s'.Matching := by
  unfold System.routerLoad at stepped
  split at stepped
  next session held =>
    split at stepped
    next request retry attempt loading =>
      cases stepped
      have working : session.thread.phase.request? = some request := by
        rw [loading]
        rfl
      exact matching.worksOn held working (.inl ⟨rfl, by simp [RouterThread.loaded]⟩) rfl
    next => cases stepped
  next => cases stepped

theorem Matching.routerAnswer {sent : Bool} (matching : s.Matching)
    (stepped : s.routerAnswer peer sent = .ok s') : s'.Matching := by
  unfold System.routerAnswer at stepped
  split at stepped
  next session held =>
    split at stepped
    next response answering =>
      split at stepped
      next =>
        cases stepped
        have requests : ∀ other ∈ { session with
            thread := session.thread.answered, outbox := session.outbox ++ [response] }.requests,
            other ∈ session.requests := by
          simp [Session.requests, RouterThread.answered, RouterPhase.request?, answering]
        refine matching.setSession held rfl (by simp [RouterThread.answered]) requests ?_
        refine Session.owed_subset requests fun other member _ => .inl ?_
        simpa [Session.unread, answering, RouterThread.answered] using member
      next =>
        cases stepped
        exact matching.stopThread held
    next => cases stepped
  next => cases stepped

theorem Matching.linked {fd : Fd} (matching : s.Matching)
    (held : s.sessions[peer]? = some session)
    (linked : (fd, peer) ∈ (s.nodes endpoint).connections) :
    session.thread.links endpoint = true := by
  obtain ⟨found, heldFound, opened⟩ := matching.links endpoint fd peer linked
  rw [held] at heldFound
  cases heldFound
  exact opened

/-- A connection is that of the thread, whose flag is set then, or that of another one. -/
theorem Matching.linked_or_other {fd : Fd} {holder : Nat} (matching : s.Matching)
    (held : s.sessions[peer]? = some session)
    (linked : (fd, holder) ∈ (s.nodes endpoint).connections) :
    (holder = peer ∧ session.thread.links endpoint = true) ∨
      (holder ≠ peer ∧ (fd, holder) ∈ (s.nodes endpoint).connections) := by
  by_cases isPeer : holder = peer
  · subst holder
    exact .inl ⟨rfl, matching.linked held linked⟩
  · exact .inr ⟨isPeer, linked⟩

/-- A step of one router thread at one of the coordinators. -/
theorem Matching.routerAt {node : Node} (matching : s.Matching)
    (held : s.sessions[peer]? = some session) (client : s'.client = s.client)
    (numShards : s'.numShards = s.numShards)
    (sessions : s'.sessions = s.sessions.set peer session')
    (nodes : s'.nodes = Function.update s.nodes endpoint node)
    (orderly : node.Orderly s.client.id)
    (connections : ∀ fd other, (fd, other) ∈ node.connections →
      (other = peer ∧ session'.thread.links endpoint = true) ∨
      (other ≠ peer ∧ (fd, other) ∈ (s.nodes endpoint).connections))
    (links : ∀ other, other ≠ endpoint →
      session'.thread.links other = session.thread.links other)
    (others : ∀ other id, other ≠ peer → (s.nodes endpoint).Serves other id →
      node.Serves other id)
    (awaiting : ∀ attempt, session'.thread.phase = .awaiting attempt →
      session'.thread.endpoint s.numShards attempt = endpoint ∧
        node.Serves peer attempt.request.taskId)
    (requests : ∀ request ∈ session'.requests, request ∈ session.requests)
    (owed : ∀ id ∈ session'.owed, id ∈ session.owed)
    (forwarded : ∀ pair ∈ s'.forwarded, pair.2 = pair.1) : s'.Matching := by
  have here : s'.nodes endpoint = node := by rw [nodes, Function.update_self]
  have elsewhere : ∀ other, other ≠ endpoint → s'.nodes other = s.nodes other := by
    intro other different
    rw [nodes, Function.update_of_ne different]
  refine matching.router held client numShards sessions ?_ ?_ ?_ ?_ requests owed forwarded
  · intro other
    by_cases same : other = endpoint
    · rw [same, here]
      exact orderly
    · rw [elsewhere other same]
      exact matching.nodes other
  · intro other fd holder linked
    by_cases same : other = endpoint
    · rw [same, here] at linked
      rw [same]
      exact connections fd holder linked
    · rw [elsewhere other same] at linked
      rw [links other same]
      exact matching.linked_or_other held linked
  · intro other holder id different serves
    by_cases same : other = endpoint
    · rw [same] at serves
      rw [same, here]
      exact others holder id different serves
    · rw [elsewhere other same]
      exact serves
  · intro attempt waits
    obtain ⟨target, serves⟩ := awaiting attempt waits
    rw [target, here]
    exact serves

/-- A thread closes its connection to one of the coordinators. -/
theorem Matching.closeLink {request : SubmitMsg} {thread : RouterThread}
    (matching : s.Matching) (held : s.sessions[peer]? = some session)
    (working : session.thread.phase.request? = some request)
    (continues : thread.WorksOn request)
    (links : thread.links = Function.update session.thread.links endpoint false) :
    ((s.setThread peer session thread).setNode endpoint
      ((s.nodes endpoint).close peer)).Matching := by
  refine matching.routerAt held rfl rfl rfl rfl
    ((matching.nodes endpoint).shrink (Node.shrinks_close _ _)) ?_ ?_ ?_ ?_
    (Session.requests_of_worksOn working continues) (Session.owed_of_worksOn working continues)
    matching.matched.1
  · intro fd holder linked
    obtain ⟨before, different⟩ := List.mem_filter.mp linked
    exact .inr ⟨by simpa using different, before⟩
  · intro other different
    rw [links, Function.update_of_ne different]
  · intro holder id _ serves
    exact serves.shrink (Node.shrinks_close _ _)
      fun msg member => serves.responses msg (List.mem_of_mem_filter member)
  · intro attempt waits
    obtain ⟨_, idle⟩ | reports := continues
    · exact absurd waits (idle attempt)
    · rw [reports] at waits
      cases waits

/-- A thread opens the connection to the coordinator it is about to try. -/
theorem Matching.openLink {attempt : Attempt} {again : Bool} {fd : Fd}
    (matching : s.Matching) (held : s.sessions[peer]? = some session)
    (trying : session.thread.phase = .trying attempt again)
    (closed : session.thread.links endpoint = false) (valid : 0 ≤ fd)
    (free : ∀ connection ∈ (s.nodes endpoint).connections, connection.1 ≠ fd)
    (unused : ¬ (s.nodes endpoint).state.WorkerOn fd) :
    ((s.setThread peer session (session.thread.setLink endpoint true)).setNode endpoint
      ((s.nodes endpoint).accept fd peer)).Matching := by
  have unlinked : ∀ other, (other, peer) ∉ (s.nodes endpoint).connections := by
    intro other linked
    rw [matching.linked held linked] at closed
    cases closed
  have working : session.thread.phase.request? = some attempt.request := by
    rw [trying]
    rfl
  have continues : (session.thread.setLink endpoint true).WorksOn attempt.request := by
    refine .inl ⟨working, fun other waits => ?_⟩
    rw [RouterThread.setLink, trying] at waits
    cases waits
  refine matching.routerAt held rfl rfl rfl rfl ((matching.nodes endpoint).accept valid
    (fun holder linked => free _ linked rfl) unlinked unused) ?_ ?_ ?_ ?_
    (Session.requests_of_worksOn working continues) (Session.owed_of_worksOn working continues)
    matching.matched.1
  · intro number holder linked
    by_cases isPeer : holder = peer
    · exact .inl ⟨isPeer, by simp [RouterThread.setLink]⟩
    · exact .inr ⟨isPeer, Node.mem_accept_of_ne isPeer linked⟩
  · intro other different
    simp only [RouterThread.setLink, Function.update_of_ne different]
  · exact fun holder id different serves => serves.accept different
  · intro other waits
    rw [RouterThread.setLink, trying] at waits
    cases waits

theorem Matching.routerConnect {accepted : Option Fd} (matching : s.Matching)
    (settled : s.Settled (.routerConnect peer accepted))
    (stepped : s.routerConnect peer accepted = .ok s') : s'.Matching := by
  unfold System.routerConnect at stepped
  split at stepped
  next session held =>
    split at stepped
    next attempt again trying =>
      have working : session.thread.phase.request? = some attempt.request := by
        rw [trying]
        rfl
      simp only at stepped
      split at stepped
      next => cases stepped
      next closed =>
        split at stepped
        next fd =>
          split at stepped
          next free =>
            cases stepped
            exact matching.openLink held trying (by simpa using closed) free.1 free.2
              (settled _ (trying?_eq held trying))
          next => cases stepped
        next =>
          cases stepped
          exact matching.worksOn held working (RouterThread.worksOn_failed ..)
            (RouterThread.failed_links ..)
    next => cases stepped
  next => cases stepped

/-- A thread sends its request to a coordinator that owes nothing else. -/
theorem Matching.sendRequest {attempt : Attempt} {again : Bool} (matching : s.Matching)
    (held : s.sessions[peer]? = some session)
    (trying : session.thread.phase = .trying attempt again)
    (clear : (s.nodes (session.thread.endpoint s.numShards attempt)).Clear peer
      attempt.request.taskId) :
    ((s.setThread peer session (session.thread.sent attempt)).setNode
      (session.thread.endpoint s.numShards attempt)
      ((s.nodes (session.thread.endpoint s.numShards attempt)).request peer
        attempt.request)).Matching := by
  have own : attempt.request.clientId = s.client.id := by
    apply matching.senders peer session held
    simp [Session.requests, trying, RouterPhase.request?]
  have requests : ∀ request ∈ { session with thread := session.thread.sent attempt }.requests,
      request ∈ session.requests := by
    simp [Session.requests, RouterThread.sent, RouterPhase.request?, trying]
  refine matching.routerAt held rfl rfl rfl rfl ((matching.nodes _).request clear own) ?_
    (fun _ _ => rfl) ?_ ?_ requests ?_ matching.matched.1
  · intro fd holder linked
    rw [Node.request_connections] at linked
    have split := matching.linked_or_other held linked
    exact split
  · exact fun holder id different serves => serves.request (matching.nodes _) different
  · intro other waits
    cases waits
    exact ⟨rfl, clear.serves⟩
  · exact Session.owed_subset requests
      fun response member _ => .inl (Session.mem_unread_of_outbox member)

theorem Matching.routerSend {sent : Bool} (matching : s.Matching)
    (settled : s.Settled (.routerSend peer sent))
    (stepped : s.routerSend peer sent = .ok s') : s'.Matching := by
  unfold System.routerSend at stepped
  split at stepped
  next session held =>
    split at stepped
    next attempt again trying =>
      have working : session.thread.phase.request? = some attempt.request := by
        rw [trying]
        rfl
      simp only at stepped
      split at stepped
      next =>
        split at stepped
        next isSent =>
          subst isSent
          cases stepped
          exact matching.sendRequest held trying (settled _ (trying?_eq held trying))
        next =>
          cases stepped
          exact matching.closeLink held working (RouterThread.worksOn_sendFailed ..)
            (RouterThread.sendFailed_links ..)
      next => cases stepped
    next => cases stepped
  next => cases stepped

theorem mem_of_nextResponse {response : Message}
    (arrived : nextResponse node peer = some response) : (peer, response) ∈ node.responses := by
  obtain ⟨entry, found, rfl⟩ := Option.map_eq_some_iff.mp arrived
  have addressed : entry.1 = peer := by simpa using List.find?_some found
  rw [← addressed]
  exact List.mem_of_find?_eq_some found

/-- A thread reads the response it has been waiting for. -/
theorem Matching.readResponse {attempt : Attempt} {response : Message}
    {activeTarget : Nat → ActiveTarget} {responses : List (Nat × Message)}
    (matching : s.Matching) (held : s.sessions[peer]? = some session)
    (awaiting : session.thread.phase = .awaiting attempt)
    (arrived : nextResponse (s.nodes (session.thread.endpoint s.numShards attempt)) peer =
      some response)
    (fewer : ∀ entry ∈ responses,
      entry ∈ (s.nodes (session.thread.endpoint s.numShards attempt)).responses) :
    { ({ s with activeTarget }.setThread peer session
        (session.thread.succeeded s.numShards response)).setNode
        (session.thread.endpoint s.numShards attempt)
        { s.nodes (session.thread.endpoint s.numShards attempt) with responses } with
      forwarded := s.forwarded ++
        [(attempt.request.taskId, response.result.taskId)] }.Matching := by
  have serves := matching.awaiting peer session attempt held awaiting
  have answers : response.result.taskId = attempt.request.taskId :=
    Message.taskId_of_answers? (serves.responses response (mem_of_nextResponse arrived))
  have asked : attempt.request ∈ session.requests := by
    simp [Session.requests, awaiting, RouterPhase.request?]
  have requests : ∀ request ∈
      { session with thread := session.thread.succeeded s.numShards response }.requests,
      request ∈ session.requests := by
    intro request member
    simp only [Session.requests, RouterThread.succeeded, RouterPhase.request?,
      Option.toList_none, List.append_nil] at member
    exact List.mem_append_left _ member
  refine matching.routerAt held rfl rfl rfl rfl
    ((matching.nodes _).shrink (Node.shrinks_read _ responses)) ?_ (fun _ _ => rfl) ?_ ?_
    requests ?_ ?_
  · intro fd holder linked
    have split := matching.linked_or_other held linked
    exact split
  · intro holder id _ servesOther
    exact servesOther.shrink (Node.shrinks_read _ responses)
      fun msg member => servesOther.responses msg (fewer _ member)
  · intro other waits
    cases waits
  · refine Session.owed_subset requests fun other member _ => ?_
    simp only [Session.unread, RouterThread.succeeded, List.mem_append,
      List.mem_singleton] at member
    obtain before | rfl := member
    · exact .inl (Session.mem_unread_of_outbox before)
    · exact .inr ⟨attempt.request, asked, answers.symm⟩
  · intro pair member
    obtain before | added := List.mem_append.mp member
    · exact matching.matched.1 pair before
    · cases List.mem_singleton.mp added
      exact answers

theorem Matching.routerAwait {arrives : Bool} (matching : s.Matching)
    (stepped : s.routerAwait peer arrives = .ok s') : s'.Matching := by
  unfold System.routerAwait at stepped
  split at stepped
  next session held =>
    split at stepped
    next attempt awaiting =>
      have working : session.thread.phase.request? = some attempt.request := by
        rw [awaiting]
        rfl
      simp only at stepped
      split at stepped
      next =>
        split at stepped
        next response arrived =>
          cases stepped
          obtain ⟨activeTarget, exchanged⟩ := s.exchange_spec
            (session.thread.endpoint s.numShards attempt).shard attempt
          rw [exchanged]
          exact matching.readResponse held awaiting arrived fun _ => List.mem_of_mem_eraseP
        next => cases stepped
      next =>
        cases stepped
        exact matching.closeLink held working (RouterThread.worksOn_failed ..)
          (RouterThread.failed_links ..)
    next => cases stepped
  next => cases stepped

/-! ## Steps of a coordinator -/

theorem Matching.submit {index : Nat} {env : Env} (matching : s.Matching)
    (stepped : s.submit endpoint index env = .ok s') : s'.Matching := by
  unfold System.submit at stepped
  split at stepped
  next fd msg found =>
    cases stepped
    have pending := List.mem_of_getElem? found
    have orderly := matching.nodes endpoint
    refine matching.setNode (orderly.submit pending) ?_
      fun _ _ serves => serves.submit orderly pending
    exact fun _ => Node.mem_connections_of_handle
  next => cases stepped

theorem Matching.complete {fd : Fd} {msg : CompleteMsg} {env : Env} (matching : s.Matching)
    (stepped : s.complete endpoint fd msg env = .ok s') : s'.Matching := by
  unfold System.complete at stepped
  split at stepped
  next executing =>
    cases stepped
    have orderly := matching.nodes endpoint
    refine matching.setNode (orderly.complete executing) ?_
      fun _ _ serves => serves.complete orderly executing
    exact fun _ => Node.mem_connections_of_handle
  next => cases stepped

theorem Matching.handle {event : Event} (matching : s.Matching)
    (stepped : s.handle endpoint event = .ok s') : s'.Matching := by
  unfold System.handle at stepped
  simp only at stepped
  split at stepped
  next free =>
    cases stepped
    have orderly := matching.nodes endpoint
    have reply : ∀ fd, event.replyFd? = some fd → ∀ peer,
        (fd, peer) ∉ (s.nodes endpoint).connections :=
      fun fd replied peer linked => free.2 _ linked replied
    refine matching.setNode (orderly.handle (Node.fits_unnamed orderly free.1 reply)) ?_
      fun _ _ serves => serves.handle_unnamed orderly free.1 reply
    exact fun _ => Node.mem_connections_of_handle
  next => cases stepped

theorem Matching.deliver {arrives : Bool} (matching : s.Matching)
    (stepped : s.deliver endpoint arrives = .ok s') : s'.Matching := by
  unfold System.deliver at stepped
  simp only at stepped
  split at stepped
  next out next =>
    cases stepped
    have shrinks := Node.shrinks_deliver arrives next
    exact matching.setNode ((matching.nodes endpoint).shrink shrinks) shrinks.connections
      fun _ _ serves => serves.deliver next
  next => cases stepped

theorem Matching.shrink (matching : s.Matching)
    (shrinks : Node.Shrinks (s.nodes endpoint) node)
    (responses : node.responses = (s.nodes endpoint).responses) :
    (s.setNode endpoint node).Matching :=
  matching.setNode ((matching.nodes endpoint).shrink shrinks) shrinks.connections
    fun _ _ serves => serves.shrink shrinks (responses ▸ serves.responses)

/-! ## Runs -/

/-- Every step in which requests are sent to receivers that owe nothing else keeps the
invariant. -/
theorem matching_preserved : Preserves step Settled Matching := by
  intro s action s' matching settled stepped
  cases action with
  | clientConnect accepted => exact matching.clientConnect stepped
  | clientPrepare work => exact matching.clientPrepare stepped
  | clientSend sent => exact matching.clientSend settled stepped
  | clientReceive arrives => exact matching.clientReceive stepped
  | routerReceive peer arrives => exact matching.routerReceive stepped
  | routerLoad peer => exact matching.routerLoad stepped
  | routerConnect peer accepted => exact matching.routerConnect settled stepped
  | routerSend peer sent => exact matching.routerSend settled stepped
  | routerAwait peer arrives => exact matching.routerAwait stepped
  | routerAnswer peer sent => exact matching.routerAnswer stepped
  | retarget shard target =>
      cases stepped
      exact { matching with }
  | hangUp endpoint fd lost =>
      cases stepped
      exact matching.shrink (Node.shrinks_hangUp _ fd lost) rfl
  | crash endpoint =>
      cases stepped
      exact matching.setNode (matching.nodes endpoint).crash (by simp [Node.crash])
        fun _ _ serves => serves.crash
  | submit endpoint index env => exact matching.submit stepped
  | complete endpoint fd msg env => exact matching.complete stepped
  | handle endpoint event => exact matching.handle stepped
  | deliver endpoint arrives => exact matching.deliver stepped
  | lose endpoint id =>
      cases stepped
      exact matching.shrink (Node.shrinks_lose _ id) rfl

/-- In every run in which each request is sent to a receiver that owes no answer for another
task, every response that is forwarded or counted answers its request. -/
theorem responses_match_requests (numShards : Nat) (id : ClientId) (numTasks : UInt64)
    (actions : List Action)
    (settled : Along step Settled (start numShards id numTasks) actions) {s : System}
    (ran : run step (start numShards id numTasks) actions = .ok s) : s.Matched :=
  (matching_preserved.run (matching_start numShards id numTasks) settled ran).matched

/-! ## Example runs -/

/-- A worker registers with a coordinator on the descriptor 5. -/
def register (endpoint : Endpoint) : List Action :=
  [.handle endpoint (.register 5 { clock := [1] }), .deliver endpoint true]

/-- The client sends the current task. -/
def clientRequest : List Action :=
  [.clientPrepare (.synthetic 100), .clientSend true]

/-- The coordinator takes a request and hands it to its worker.  The network thread also
pops the message for the peer. -/
def takeRequest (endpoint : Endpoint) : List Action :=
  [.submit endpoint 0 {}, .deliver endpoint true, .deliver endpoint true]

/-- The worker completes a task and the coordinator answers it. -/
def completeTask (endpoint : Endpoint) (id : TaskId) : List Action :=
  [.complete endpoint 5 { taskId := id, success := 1 } {}, .deliver endpoint true,
    .deliver endpoint true]

/-- The response goes to the client. -/
def passResponse : List Action :=
  [.routerAwait 0 true, .routerAnswer 0 true, .clientReceive true]

/-- The router thread times out at the primary and takes the task to the backup, which
answers it.  The primary completes the task later.  Task 1 goes to the backup at once. -/
def failover : List Action :=
  List.flatten [
    register ⟨0, .primary⟩, register ⟨0, .backup⟩, [.clientConnect (some 0)], clientRequest,
    [.routerReceive 0 true, .routerLoad 0, .routerConnect 0 (some 7), .routerSend 0 true],
    takeRequest ⟨0, .primary⟩,
    [.routerAwait 0 false, .routerConnect 0 (some 7), .routerSend 0 true],
    takeRequest ⟨0, .backup⟩, completeTask ⟨0, .backup⟩ 0, passResponse,
    completeTask ⟨0, .primary⟩ 0, clientRequest,
    [.routerReceive 0 true, .routerLoad 0, .routerSend 0 true],
    takeRequest ⟨0, .backup⟩, completeTask ⟨0, .backup⟩ 1, passResponse]

theorem failover_matched :
    ∃ s, run step (start 1 0 2) failover = .ok s ∧ s.client.counted = [(0, 0), (1, 1)] ∧
      s.Matched := by
  have evaluated : Along step Settled (start 1 0 2) failover ∧
      ∃ s, run step (start 1 0 2) failover = .ok s ∧ s.client.counted = [(0, 0), (1, 1)] := by
    decide +kernel
  obtain ⟨settled, s, ran, counted⟩ := evaluated
  exact ⟨s, ran, counted, responses_match_requests 1 0 2 failover settled ran⟩

/-- The router thread times out while task 0 is executed, finds the backup down and sends
the task to the primary again.  Both executions are answered on the new connection.  The
second answer is still to come when the client, served by the first one, sends task 1. -/
def lateAnswer : List Action :=
  List.flatten [
    register ⟨0, .primary⟩, [.clientConnect (some 0)], clientRequest,
    [.routerReceive 0 true, .routerLoad 0, .routerConnect 0 (some 7), .routerSend 0 true],
    takeRequest ⟨0, .primary⟩,
    [.routerAwait 0 false, .routerConnect 0 none, .routerLoad 0, .routerConnect 0 (some 8),
      .routerSend 0 true],
    takeRequest ⟨0, .primary⟩, completeTask ⟨0, .primary⟩ 0, passResponse, clientRequest,
    [.routerReceive 0 true, .routerLoad 0, .routerSend 0 true],
    takeRequest ⟨0, .primary⟩, completeTask ⟨0, .primary⟩ 0, passResponse]

theorem late_answer_taken_for_next_task :
    ∃ s, run step (start 1 0 2) lateAnswer = .ok s ∧ s.forwarded = [(0, 0), (1, 0)] ∧
      s.client.counted = [(0, 0), (1, 0)] ∧ ¬ s.Matched := by
  have evaluated : ∃ s, run step (start 1 0 2) lateAnswer = .ok s ∧
      s.forwarded = [(0, 0), (1, 0)] ∧ s.client.counted = [(0, 0), (1, 0)] := by
    decide +kernel
  obtain ⟨s, ran, forwarded, counted⟩ := evaluated
  refine ⟨s, ran, forwarded, counted, fun matched => ?_⟩
  have same := matched.1 (1, 0) (by simp [forwarded])
  exact absurd same (by decide)

end System

end TaskCoordinator
