import TaskCoordinator.Coordinator.State
import TaskCoordinator.Library.Transition

/-!
# The descriptors of the network thread

`network_worker` opens its listening socket, one connection to the peer and the connections that
it accepts, and it closes them again when `poll` or a receive reports a failure.  The numbers that
it keeps in `conns`, in `peer_` and in the set that it has given to `poll` are only names: the
system gives out the number of a closed descriptor again.

The thread is cut at its calls to the system.  Sockets are numbered in the order in which they are
opened, so that a descriptor that was given out again is told apart; these numbers, the list of
the wrong closes and the list of what was acted on are not part of the source.  The loop is not
left here: what the thread closes after the last pass, when `running_` is false, is not modelled.

No descriptor is lost in any run.  As long as no receive on the connection to the peer fails and
`poll` reports no error on the listening socket, every descriptor also has one owner only, none is
closed twice, and what is done about a descriptor concerns the socket that `poll` has reported on.
-/

namespace TaskCoordinator

/-- What `poll` reports on a descriptor. -/
inductive Revents where
  | quiet
  | readable
  /-- `POLLERR`, `POLLHUP` or `POLLNVAL`. -/
  | failed
  deriving DecidableEq, Repr

/-- The value of `receive_message_with_retry` as far as the thread looks at it. -/
inductive ReceiveResult where
  /-- It is -1. -/
  | closed
  /-- It is -3. -/
  | rejected
  | received
  deriving DecidableEq, Repr

/-- An entry of `pfds` after `poll`, with the socket that the descriptor stood for. -/
structure PollEntry where
  fd : Fd
  socket : Option Nat
  revents : Revents
  deriving DecidableEq, Repr

/-- `peer_`, with the descriptor of its `rpc::Client`. -/
structure PeerDescriptor where
  alive : Bool
  connection : Option Fd
  deriving DecidableEq, Repr

inductive LoopPhase where
  /-- At the call of `poll`. -/
  | polling
  /-- In the loop over `pfds`. -/
  | handling (pending : List PollEntry)
  /-- In the loop over the outgoing queue. -/
  | sending
  deriving DecidableEq, Repr

/-- The locals of `network_worker` and `peer_`, with the open descriptors of the thread. -/
structure NetworkLoop where
  listenFd : Fd
  peer : PeerDescriptor
  conns : List Fd
  phase : LoopPhase
  /-- The sockets that the open descriptors stand for. -/
  socket : Fd → Option Nat
  /-- How many sockets have been opened. -/
  opened : Nat
  /-- Descriptors that were closed when they were not open. -/
  misclosed : List Fd
  /-- For every entry of `pfds` that was acted on, the socket that it was about and the one that
  its descriptor stood for by then. -/
  acted : List (Option Nat × Option Nat)

/-- The next call of the thread, with its outcome. -/
inductive LoopAction where
  | poll (revents : Fd → Revents)
  /-- An entry of `pfds` that needs no call but `close`. -/
  | skip
  | accept (accepted : Option Fd)
  | receive (result : ReceiveResult)
  /-- The thread has been through `pfds`. -/
  | polled
  /-- A replication message is popped.  The arguments are the outcomes of the send, of `connect`
  and of the push to the task queue, as far as they are needed. -/
  | replicate (delivered : Bool) (connected : Option Fd) (reported : Bool)
  /-- The thread has sent its share of outgoing messages. -/
  | sent

namespace NetworkLoop

/-! ## Opening and closing -/

/-- The system gives out a descriptor that is not open. -/
def Fresh (s : NetworkLoop) (fd : Fd) : Prop :=
  0 ≤ fd ∧ s.socket fd = none

instance (s : NetworkLoop) (fd : Fd) : Decidable (s.Fresh fd) :=
  inferInstanceAs (Decidable (0 ≤ fd ∧ s.socket fd = none))

def openSocket (s : NetworkLoop) (fd : Fd) : NetworkLoop :=
  { s with socket := Function.update s.socket fd (some s.opened), opened := s.opened + 1 }

/-- `close`, which fails on a descriptor that is not open. -/
def close (s : NetworkLoop) (fd : Fd) : NetworkLoop :=
  match s.socket fd with
  | some _ => { s with socket := Function.update s.socket fd none }
  | none => { s with misclosed := s.misclosed ++ [fd] }

/-- `close` with the removal of the descriptor from `conns`. -/
def dropConnection (s : NetworkLoop) (fd : Fd) : NetworkLoop :=
  { s.close fd with conns := s.conns.filter (· ≠ fd) }

/-- `peer_.connection_.reset()`: the destructor of `rpc::Client` closes its descriptor. -/
def resetPeer (s : NetworkLoop) : NetworkLoop :=
  match s.peer.connection with
  | some fd => { s.close fd with peer := { s.peer with connection := none } }
  | none => s

/-- `peer_.alive_ = false` with the reset. -/
def losePeer (s : NetworkLoop) : NetworkLoop :=
  { s with peer := { s.peer with alive := false } }.resetPeer

/-! ## The connection to the peer -/

/-- `connect_to_peer`, with the descriptor of the connection if there is one. -/
def connectToPeer (s : NetworkLoop) (connected : Option Fd) : Option (Bool × NetworkLoop) :=
  let s := s.resetPeer
  match connected with
  | some fd =>
      if s.Fresh fd then
        some (true, { s.openSocket fd with peer := { s.peer with connection := some fd } })
      else
        none
  | none => some (false, { s with peer := { alive := false, connection := none } })

def reconnectToPeer (s : NetworkLoop) (connected : Option Fd) (reported : Bool) :
    Option NetworkLoop := do
  let (succeeded, s) ← s.connectToPeer connected
  if succeeded && reported then
    return { s with peer := { s.peer with alive := true } }
  else
    return s

/-- Nothing can be sent on a descriptor that is not open. -/
def sendReplicationMessage (s : NetworkLoop) (delivered : Bool) (connected : Option Fd)
    (reported : Bool) : Option NetworkLoop :=
  match s.peer.alive, s.peer.connection with
  | true, some fd =>
      if delivered then
        if (s.socket fd).isSome then some s else none
      else
        s.losePeer.reconnectToPeer connected reported
  | _, _ => s.reconnectToPeer connected reported

/-! ## The loop -/

/-- The descriptors that the thread passes to `poll`, in the order of `pfds`. -/
def pollSet (s : NetworkLoop) : List Fd :=
  s.listenFd :: ((if s.peer.alive then s.peer.connection.toList else []) ++ s.conns)

/-- `poll` reports `POLLNVAL` on a descriptor that is not open. -/
def pollEntry (s : NetworkLoop) (revents : Fd → Revents) (fd : Fd) : PollEntry where
  fd
  socket := s.socket fd
  revents := if (s.socket fd).isSome then revents fd else .failed

def poll (s : NetworkLoop) (revents : Fd → Revents) : NetworkLoop :=
  { s with phase := .handling (s.pollSet.map (s.pollEntry revents)) }

/-- The entry is taken up, and something is done about its descriptor. -/
def act (s : NetworkLoop) (entry : PollEntry) (rest : List PollEntry) : NetworkLoop :=
  { s with
    phase := .handling rest
    acted := s.acted ++ [(entry.socket, s.socket entry.fd)] }

/-- The branch for `POLLERR`, `POLLHUP` and `POLLNVAL`. -/
def hangUp (s : NetworkLoop) (fd : Fd) : NetworkLoop :=
  if s.peer.connection = some fd then s.losePeer else s.dropConnection fd

/-- The entry at the front needs no call but `close`. -/
def skip (s : NetworkLoop) : Option NetworkLoop :=
  match s.phase with
  | .handling (entry :: rest) =>
      match entry.revents with
      | .failed => some ((s.act entry rest).hangUp entry.fd)
      | .quiet => some { s with phase := .handling rest }
      | .readable => none
  | _ => none

def accept (s : NetworkLoop) (accepted : Option Fd) : Option NetworkLoop :=
  match s.phase with
  | .handling (entry :: rest) =>
      if entry.revents = .readable ∧ entry.fd = s.listenFd then
        match accepted with
        | some fd =>
            if s.Fresh fd then
              let s := (s.act entry rest).openSocket fd
              some { s with conns := s.conns ++ [fd] }
            else
              none
        | none => some (s.act entry rest)
      else
        none
  | _ => none

/-- A receive on a descriptor that is not open fails. -/
def receive (s : NetworkLoop) (result : ReceiveResult) : Option NetworkLoop :=
  match s.phase with
  | .handling (entry :: rest) =>
      if entry.revents = .readable ∧ entry.fd ≠ s.listenFd ∧
          ((s.socket entry.fd).isSome ∨ result = .closed) then
        match result with
        | .closed => some ((s.act entry rest).dropConnection entry.fd)
        | .rejected | .received => some (s.act entry rest)
      else
        none
  | _ => none

def next (s : NetworkLoop) : LoopAction → Option NetworkLoop
  | .poll revents => if s.phase = .polling then some (s.poll revents) else none
  | .skip => s.skip
  | .accept accepted => s.accept accepted
  | .receive result => s.receive result
  | .polled => if s.phase = .handling [] then some { s with phase := .sending } else none
  | .replicate delivered connected reported =>
      if s.phase = .sending then
        s.sendReplicationMessage delivered connected reported
      else
        none
  | .sent => if s.phase = .sending then some { s with phase := .polling } else none

/-- One step of the thread.  A call that is not its next one is refused. -/
def step (s : NetworkLoop) (action : LoopAction) : Except Unit NetworkLoop :=
  match s.next action with
  | some next => .ok next
  | none => .error ()

/-- The loop begins with the listening socket and, if `connect_to_peer` has succeeded, with the
connection to the peer. -/
def start (listenFd : Fd) (connected : Option Fd) : Option NetworkLoop := do
  let listening : NetworkLoop :=
    { listenFd
      peer := { alive := false, connection := none }
      conns := []
      phase := .polling
      socket := fun fd => if fd = listenFd then some 0 else none
      opened := 1
      misclosed := []
      acted := [] }
  let (succeeded, s) ← listening.connectToPeer connected
  if succeeded then
    return { s with peer := { s.peer with alive := true } }
  else
    return s

/-! ## Owners -/

/-- Where the thread keeps descriptors. -/
def owners (s : NetworkLoop) : List Fd :=
  s.listenFd :: (s.peer.connection.toList ++ s.conns)

/-- Every open descriptor is kept somewhere. -/
def NoLeak (s : NetworkLoop) : Prop :=
  ∀ fd, (s.socket fd).isSome → fd ∈ s.owners

variable {s s' : NetworkLoop} {fd : Fd} {connected : Option Fd}

theorem socket_close (s : NetworkLoop) (fd : Fd) :
    (s.close fd).socket = Function.update s.socket fd none := by
  unfold close
  split
  next => rfl
  next closed => rw [← closed, Function.update_eq_self]

theorem close_eq (s : NetworkLoop) (fd : Fd) :
    ∃ misclosed, s.close fd =
      { s with socket := Function.update s.socket fd none, misclosed } := by
  unfold close
  split
  next => exact ⟨_, rfl⟩
  next closed => exact ⟨_, by rw [← closed, Function.update_eq_self]⟩

/-- What closing a descriptor leaves is kept where it was. -/
theorem NoLeak.close (noLeak : s.NoLeak) (fd : Fd)
    (socket : s'.socket = Function.update s.socket fd none)
    (kept : ∀ other ∈ s.owners, other ≠ fd → other ∈ s'.owners) : s'.NoLeak := by
  intro other isOpen
  rw [socket] at isOpen
  have differs : other ≠ fd := by
    rintro rfl
    rw [Function.update_self] at isOpen
    cases isOpen
  rw [Function.update_of_ne differs] at isOpen
  exact kept other (noLeak other isOpen) differs

theorem NoLeak.openSocket (noLeak : s.NoLeak) (fd : Fd)
    (socket : s'.socket = (s.openSocket fd).socket) (kept : ∀ other ∈ s.owners, other ∈ s'.owners)
    (owned : fd ∈ s'.owners) : s'.NoLeak := by
  intro other isOpen
  by_cases same : other = fd
  · rw [same]
    exact owned
  · rw [socket, NetworkLoop.openSocket] at isOpen
    simp only [Function.update_of_ne same] at isOpen
    exact kept other (noLeak other isOpen)

theorem NoLeak.dropConnection (noLeak : s.NoLeak) (fd : Fd) : (s.dropConnection fd).NoLeak := by
  obtain ⟨misclosed, closed⟩ := close_eq s fd
  refine noLeak.close fd ?_ ?_
  · rw [NetworkLoop.dropConnection, closed]
  · intro other kept differs
    simp only [NetworkLoop.dropConnection, closed, owners, List.mem_cons, List.mem_append,
      List.mem_filter] at kept ⊢
    simpa [differs] using kept

theorem NoLeak.resetPeer (noLeak : s.NoLeak) : s.resetPeer.NoLeak := by
  unfold NetworkLoop.resetPeer
  split
  next fd reached =>
    obtain ⟨misclosed, closed⟩ := close_eq s fd
    refine noLeak.close fd ?_ ?_
    · rw [closed]
    · intro other kept differs
      simp only [closed, owners, reached, List.mem_cons, List.mem_append, Option.toList_some,
        Option.toList_none] at kept ⊢
      simpa [differs] using kept
  next => exact noLeak

theorem NoLeak.losePeer (noLeak : s.NoLeak) : s.losePeer.NoLeak :=
  NoLeak.resetPeer (s := { s with peer := { s.peer with alive := false } }) noLeak

@[simp] theorem connection_resetPeer (s : NetworkLoop) : s.resetPeer.peer.connection = none := by
  unfold resetPeer
  split
  next => rfl
  next none => exact none

theorem NoLeak.connectToPeer (noLeak : s.NoLeak) {succeeded : Bool}
    (made : s.connectToPeer connected = some (succeeded, s')) : s'.NoLeak := by
  have reset := noLeak.resetPeer
  have given := connection_resetPeer s
  unfold NetworkLoop.connectToPeer at made
  cases connected with
  | some fd =>
      dsimp only at made
      split at made
      next fresh =>
        cases made
        refine reset.openSocket fd rfl ?_ ?_
        · intro other kept
          simp only [owners, given, NetworkLoop.openSocket, List.mem_cons, List.mem_append,
            Option.toList_none, Option.toList_some] at kept ⊢
          tauto
        · simp [owners]
      next => cases made
  | none =>
      cases made
      intro other isOpen
      simpa [owners, given] using reset other isOpen

theorem NoLeak.reconnectToPeer {reported : Bool} (noLeak : s.NoLeak)
    (made : s.reconnectToPeer connected reported = some s') : s'.NoLeak := by
  unfold NetworkLoop.reconnectToPeer at made
  obtain ⟨⟨succeeded, reconnected⟩, connects, rest⟩ := Option.bind_eq_some_iff.mp made
  have kept := noLeak.connectToPeer connects
  dsimp only at rest
  split at rest
  all_goals
    cases rest
    exact kept

theorem NoLeak.sendReplicationMessage {delivered reported : Bool} (noLeak : s.NoLeak)
    (made : s.sendReplicationMessage delivered connected reported = some s') : s'.NoLeak := by
  unfold NetworkLoop.sendReplicationMessage at made
  split at made
  next fd alive reached =>
    split_ifs at made
    · cases made
      exact noLeak
    · exact noLeak.losePeer.reconnectToPeer made
  next => exact noLeak.reconnectToPeer made

theorem NoLeak.skip (noLeak : s.NoLeak) (made : s.skip = some s') : s'.NoLeak := by
  unfold NetworkLoop.skip at made
  split at made
  next entry rest phase =>
    split at made
    next =>
      cases made
      have acted : (s.act entry rest).NoLeak := noLeak
      unfold hangUp
      split
      next => exact acted.losePeer
      next => exact acted.dropConnection entry.fd
    next =>
      cases made
      exact noLeak
    next => cases made
  next => cases made

theorem NoLeak.accept {accepted : Option Fd} (noLeak : s.NoLeak)
    (made : s.accept accepted = some s') : s'.NoLeak := by
  unfold NetworkLoop.accept at made
  split at made
  next entry rest phase =>
    split at made
    next =>
      cases accepted with
      | some fd =>
          dsimp only at made
          split at made
          next fresh =>
            cases made
            refine NoLeak.openSocket noLeak fd rfl ?_ ?_
            · intro other kept
              simp only [owners, NetworkLoop.openSocket, act, List.mem_cons, List.mem_append]
                at kept ⊢
              tauto
            · simp [owners]
          next => cases made
      | none =>
          cases made
          exact noLeak
    next => cases made
  next => cases made

theorem NoLeak.receive {result : ReceiveResult} (noLeak : s.NoLeak)
    (made : s.receive result = some s') : s'.NoLeak := by
  unfold NetworkLoop.receive at made
  split at made
  next entry rest phase =>
    split at made
    next =>
      cases result with
      | closed =>
          cases made
          have acted : (s.act entry rest).NoLeak := noLeak
          exact acted.dropConnection entry.fd
      | rejected =>
          cases made
          exact noLeak
      | received =>
          cases made
          exact noLeak
    next => cases made
  next => cases made

theorem step_eq_ok {action : LoopAction} :
    s.step action = .ok s' ↔ s.next action = some s' := by
  unfold step
  cases s.next action <;> simp

theorem NoLeak.step {action : LoopAction} (noLeak : s.NoLeak)
    (stepped : s.step action = .ok s') : s'.NoLeak := by
  have made := step_eq_ok.mp stepped
  cases action with
  | skip => exact noLeak.skip made
  | accept accepted => exact noLeak.accept made
  | receive result => exact noLeak.receive made
  | replicate delivered connected reported =>
      simp only [next] at made
      split at made
      next => exact noLeak.sendReplicationMessage made
      next => cases made
  | poll revents | polled | sent =>
      simp only [next] at made
      split at made
      next =>
        cases made
        exact noLeak
      next => cases made

/-! ## One owner for every descriptor -/

/-- The descriptors that the thread keeps are open and different from each other, and it has
closed none that was not open. -/
structure Owned (s : NetworkLoop) : Prop where
  distinct : s.owners.Nodup
  isOpen : ∀ fd ∈ s.owners, (s.socket fd).isSome
  misclosed : s.misclosed = []

/-- A descriptor has been closed, and it is not kept anywhere. -/
structure Released (s : NetworkLoop) (fd : Fd) (s' : NetworkLoop) : Prop where
  socket : s'.socket = Function.update s.socket fd none
  misclosed : s'.misclosed = s.misclosed
  owners : s'.owners.Sublist s.owners
  kept : ∀ other, other ∈ s'.owners ↔ other ∈ s.owners ∧ other ≠ fd
  phase : s'.phase = s.phase
  acted : s'.acted = s.acted

theorem close_of_open (isOpen : (s.socket fd).isSome) :
    s.close fd = { s with socket := Function.update s.socket fd none } := by
  obtain ⟨socket, found⟩ := Option.isSome_iff_exists.mp isOpen
  rw [close, found]

theorem Owned.release (owned : s.Owned) (released : Released s fd s') : s'.Owned where
  distinct := owned.distinct.sublist released.owners
  isOpen other kept := by
    obtain ⟨kept, differs⟩ := (released.kept other).mp kept
    rw [released.socket, Function.update_of_ne differs]
    exact owned.isOpen other kept
  misclosed := released.misclosed.trans owned.misclosed

theorem Owned.dropConnection (owned : s.Owned) (kept : fd ∈ s.conns) :
    Released s fd (s.dropConnection fd) := by
  have isOpen := owned.isOpen fd (by simp [owners, kept])
  have distinct := owned.distinct
  rw [NetworkLoop.dropConnection, close_of_open isOpen]
  refine ⟨rfl, rfl, ?_, ?_, rfl, rfl⟩
  · exact List.Sublist.cons_cons _ (List.Sublist.append_left List.filter_sublist _)
  · intro other
    simp only [owners, List.nodup_cons, List.nodup_append, List.mem_append, List.mem_cons,
      List.mem_filter, decide_eq_true_eq] at distinct ⊢
    grind

theorem Owned.resetPeer (owned : s.Owned) (reached : s.peer.connection = some fd) :
    Released s fd s.resetPeer := by
  have isOpen := owned.isOpen fd (by simp [owners, reached])
  have distinct := owned.distinct
  have reset : s.resetPeer =
      { s with
        socket := Function.update s.socket fd none
        peer := { s.peer with connection := none } } := by
    rw [NetworkLoop.resetPeer, reached]
    dsimp only
    rw [close_of_open isOpen]
  rw [reset]
  refine ⟨rfl, rfl, ?_, ?_, rfl, rfl⟩
  · simp [owners, reached]
  · intro other
    simp only [owners, reached, Option.toList_some, Option.toList_none, List.nodup_cons,
      List.mem_cons, List.nil_append, List.cons_append] at distinct ⊢
    grind

theorem Owned.losePeer (owned : s.Owned) (reached : s.peer.connection = some fd) :
    Released s fd s.losePeer := by
  have marked : Owned { s with peer := { s.peer with alive := false } } :=
    ⟨owned.distinct, owned.isOpen, owned.misclosed⟩
  have released := marked.resetPeer reached
  exact ⟨released.socket, released.misclosed, released.owners, released.kept, released.phase,
    released.acted⟩

theorem Owned.openSocket (owned : s.Owned) (fresh : s.Fresh fd)
    (socket : s'.socket = (s.openSocket fd).socket) (misclosed : s'.misclosed = s.misclosed)
    (owners : s'.owners.Perm (fd :: s.owners)) : s'.Owned where
  distinct := by
    refine owners.nodup_iff.mpr (List.nodup_cons.mpr ⟨fun kept => ?_, owned.distinct⟩)
    have isOpen := owned.isOpen fd kept
    rw [fresh.2] at isOpen
    cases isOpen
  isOpen other kept := by
    rw [socket, NetworkLoop.openSocket]
    by_cases same : other = fd
    · simp [same]
    · obtain found | kept := List.mem_cons.mp (owners.mem_iff.mp kept)
      · exact absurd found same
      · simpa [Function.update_of_ne same] using owned.isOpen other kept
  misclosed := misclosed.trans owned.misclosed

/-! ## What is done about a descriptor -/

/-- The entries of `pfds` that are left name different descriptors, each of which still stands for
the socket that `poll` has reported on, and whatever was done about an entry concerned its
socket. -/
structure Sound (s : NetworkLoop) : Prop extends Owned s where
  distinctEntries : ∀ pending, s.phase = .handling pending →
    (pending.map PollEntry.fd).Nodup
  upToDate : ∀ pending, s.phase = .handling pending →
    ∀ entry ∈ pending, entry.socket = s.socket entry.fd ∧ entry.fd ∈ s.owners
  acted : ∀ report ∈ s.acted, report.1 = report.2 ∧ report.2.isSome

/-- The entry of `pfds` that comes next. -/
def nextEntry (s : NetworkLoop) : Option PollEntry :=
  match s.phase with
  | .handling (entry :: _) => some entry
  | _ => none

/-- No receive on the connection to the peer fails, and `poll` reports no error on the listening
socket. -/
def Untroubled (s : NetworkLoop) : LoopAction → Prop
  | .receive .closed => ∀ entry ∈ s.nextEntry, s.peer.connection ≠ some entry.fd
  | .skip => ∀ entry ∈ s.nextEntry, entry.fd = s.listenFd → entry.revents ≠ .failed
  | _ => True

instance (s : NetworkLoop) (action : LoopAction) : Decidable (s.Untroubled action) :=
  match action with
  | .receive .closed =>
      inferInstanceAs (Decidable (∀ entry ∈ s.nextEntry, s.peer.connection ≠ some entry.fd))
  | .skip =>
      inferInstanceAs (Decidable (∀ entry ∈ s.nextEntry,
        entry.fd = s.listenFd → entry.revents ≠ .failed))
  | .receive .rejected | .receive .received | .poll _ | .accept _ | .polled | .replicate .. |
    .sent => isTrue trivial

theorem nextEntry_of_phase {entry : PollEntry} {rest : List PollEntry}
    (phase : s.phase = .handling (entry :: rest)) : entry ∈ s.nextEntry := by
  rw [nextEntry, phase]
  rfl

/-- An entry is passed over. -/
theorem Sound.pass {entry : PollEntry} {rest : List PollEntry} (sound : s.Sound)
    (phase : s.phase = .handling (entry :: rest)) :
    Sound { s with phase := .handling rest } where
  distinct := sound.distinct
  isOpen := sound.isOpen
  misclosed := sound.misclosed
  distinctEntries := by
    rintro pending ⟨⟩
    exact (List.nodup_cons.mp (sound.distinctEntries _ phase)).2
  upToDate := by
    rintro pending ⟨⟩ other waits
    exact sound.upToDate _ phase other (List.mem_cons_of_mem entry waits)
  acted := sound.acted

/-- The next entry is taken up. -/
theorem Sound.act {entry : PollEntry} {rest : List PollEntry} (sound : s.Sound)
    (phase : s.phase = .handling (entry :: rest)) : (s.act entry rest).Sound where
  toOwned := ⟨sound.distinct, sound.isOpen, sound.misclosed⟩
  distinctEntries := (sound.pass phase).distinctEntries
  upToDate := (sound.pass phase).upToDate
  acted := by
    obtain ⟨same, kept⟩ := sound.upToDate _ phase entry List.mem_cons_self
    intro report made
    obtain earlier | now := List.mem_append.mp made
    · exact sound.acted report earlier
    · rw [List.mem_singleton.mp now]
      exact ⟨same, sound.isOpen _ kept⟩

theorem mem_conns (kept : fd ∈ s.owners) (notListening : fd ≠ s.listenFd)
    (notPeer : s.peer.connection ≠ some fd) : fd ∈ s.conns := by
  simpa [owners, notListening, notPeer] using kept

/-- The descriptor of an entry that has been taken up is closed. -/
theorem Sound.release (sound : s.Sound) (released : Released s fd s')
    (absent : ∀ pending, s.phase = .handling pending → fd ∉ pending.map PollEntry.fd) :
    s'.Sound where
  toOwned := sound.toOwned.release released
  distinctEntries pending phase := by
    rw [released.phase] at phase
    exact sound.distinctEntries pending phase
  upToDate pending phase entry waits := by
    rw [released.phase] at phase
    obtain ⟨same, kept⟩ := sound.upToDate pending phase entry waits
    have differs : entry.fd ≠ fd := by
      rintro rfl
      exact absent pending phase (List.mem_map_of_mem waits)
    refine ⟨?_, (released.kept entry.fd).mpr ⟨kept, differs⟩⟩
    rw [released.socket, Function.update_of_ne differs, same]
  acted := by
    rw [released.acted]
    exact sound.acted

/-- A socket is opened while entries are left. -/
theorem Sound.openSocket (sound : s.Sound) (fresh : s.Fresh fd)
    (socket : s'.socket = (s.openSocket fd).socket) (misclosed : s'.misclosed = s.misclosed)
    (owners : s'.owners.Perm (fd :: s.owners)) (phase : s'.phase = s.phase)
    (acted : s'.acted = s.acted) : s'.Sound where
  toOwned := sound.toOwned.openSocket fresh socket misclosed owners
  distinctEntries pending phase' := sound.distinctEntries pending (phase ▸ phase')
  upToDate pending phase' entry waits := by
    obtain ⟨same, kept⟩ := sound.upToDate pending (phase ▸ phase') entry waits
    have differs : entry.fd ≠ fd := by
      intro equal
      have isOpen := sound.isOpen _ kept
      rw [equal, fresh.2] at isOpen
      cases isOpen
    refine ⟨?_, owners.mem_iff.mpr (List.mem_cons_of_mem fd kept)⟩
    rw [socket, NetworkLoop.openSocket]
    simpa [Function.update_of_ne differs] using same
  acted := by
    rw [acted]
    exact sound.acted

/-- An entry about which something is done is not about a descriptor of a later entry. -/
theorem Sound.absent {entry : PollEntry} {rest : List PollEntry} (sound : s.Sound)
    (phase : s.phase = .handling (entry :: rest)) (pending : List PollEntry)
    (phase' : (s.act entry rest).phase = .handling pending) :
    entry.fd ∉ pending.map PollEntry.fd := by
  cases phase'
  exact (List.nodup_cons.mp (sound.distinctEntries _ phase)).1

theorem Sound.skip (sound : s.Sound) (untroubled : s.Untroubled .skip)
    (made : s.skip = some s') : s'.Sound := by
  unfold NetworkLoop.skip at made
  split at made
  next entry rest phase =>
    have acted := sound.act phase
    have absent := sound.absent phase
    have kept := (sound.upToDate _ phase entry List.mem_cons_self).2
    split at made
    next revents =>
      cases made
      unfold hangUp
      split
      next reached => exact acted.release (acted.losePeer reached) absent
      next notPeer =>
        have notListening : entry.fd ≠ s.listenFd := fun same =>
          untroubled entry (nextEntry_of_phase phase) same revents
        have inConns := mem_conns kept notListening notPeer
        exact acted.release (acted.dropConnection inConns) absent
    next =>
      cases made
      exact sound.pass phase
    next => cases made
  next => cases made

theorem Sound.accept {accepted : Option Fd} (sound : s.Sound)
    (made : s.accept accepted = some s') : s'.Sound := by
  unfold NetworkLoop.accept at made
  split at made
  next entry rest phase =>
    have acted := sound.act phase
    split at made
    next =>
      cases accepted with
      | some fd =>
          dsimp only at made
          split at made
          next fresh =>
            cases made
            refine acted.openSocket fresh rfl rfl ?_ rfl rfl
            have appended (s : NetworkLoop) :
                owners { s with conns := s.conns ++ [fd] } = s.owners ++ [fd] := by
              simp [owners]
            rw [appended]
            exact List.perm_append_singleton fd _
          next => cases made
      | none =>
          cases made
          exact acted
    next => cases made
  next => cases made

theorem Sound.receive {result : ReceiveResult} (sound : s.Sound)
    (untroubled : s.Untroubled (.receive result)) (made : s.receive result = some s') :
    s'.Sound := by
  unfold NetworkLoop.receive at made
  split at made
  next entry rest phase =>
    have acted := sound.act phase
    have absent := sound.absent phase
    have kept := (sound.upToDate _ phase entry List.mem_cons_self).2
    split at made
    next served =>
      cases result with
      | closed =>
          cases made
          have notPeer := untroubled entry (nextEntry_of_phase phase)
          have inConns := mem_conns kept served.2.1 notPeer
          exact acted.release (acted.dropConnection inConns) absent
      | rejected =>
          cases made
          exact acted
      | received =>
          cases made
          exact acted
    next => cases made
  next => cases made

/-- The thread is not in the loop over `pfds`. -/
def Idle (s : NetworkLoop) : Prop :=
  ∀ pending, s.phase ≠ .handling pending

theorem Sound.resetPeer (sound : s.Sound) (idle : s.Idle) : s.resetPeer.Sound ∧ s.resetPeer.Idle := by
  cases reached : s.peer.connection with
  | some fd =>
      have released := sound.toOwned.resetPeer reached
      refine ⟨sound.release released fun pending phase => absurd phase (idle pending), ?_⟩
      intro pending phase
      exact idle pending (released.phase ▸ phase)
  | none =>
      have same : s.resetPeer = s := by
        rw [NetworkLoop.resetPeer, reached]
      rw [same]
      exact ⟨sound, idle⟩

theorem Sound.setAlive (sound : s.Sound) (alive : Bool) :
    Sound { s with peer := { s.peer with alive } } :=
  ⟨⟨sound.distinct, sound.isOpen, sound.misclosed⟩, sound.distinctEntries, sound.upToDate,
    sound.acted⟩

theorem Sound.connectToPeer (sound : s.Sound) (idle : s.Idle) {succeeded : Bool}
    (made : s.connectToPeer connected = some (succeeded, s')) : s'.Sound := by
  obtain ⟨reset, _⟩ := sound.resetPeer idle
  have given := connection_resetPeer s
  unfold NetworkLoop.connectToPeer at made
  cases connected with
  | some fd =>
      dsimp only at made
      split at made
      next fresh =>
        cases made
        refine reset.openSocket fresh rfl rfl ?_ rfl rfl
        simp only [owners, given, Option.toList_some, Option.toList_none, List.nil_append,
          List.cons_append]
        exact List.Perm.swap fd _ _
      next => cases made
  | none =>
      cases made
      have lost := reset.setAlive false
      dsimp only at lost
      rwa [given] at lost

theorem Sound.reconnectToPeer {reported : Bool} (sound : s.Sound) (idle : s.Idle)
    (made : s.reconnectToPeer connected reported = some s') : s'.Sound := by
  unfold NetworkLoop.reconnectToPeer at made
  obtain ⟨⟨succeeded, reconnected⟩, connects, rest⟩ := Option.bind_eq_some_iff.mp made
  have kept := sound.connectToPeer idle connects
  dsimp only at rest
  split at rest
  next =>
    cases rest
    exact kept.setAlive true
  next =>
    cases rest
    exact kept

theorem Sound.sendReplicationMessage {delivered reported : Bool} (sound : s.Sound)
    (idle : s.Idle)
    (made : s.sendReplicationMessage delivered connected reported = some s') : s'.Sound := by
  unfold NetworkLoop.sendReplicationMessage at made
  split at made
  next fd alive reached =>
    split_ifs at made
    · cases made
      exact sound
    · have idle' : Idle { s with peer := { s.peer with alive := false } } := idle
      obtain ⟨lost, idle''⟩ := (sound.setAlive false).resetPeer idle'
      exact lost.reconnectToPeer idle'' made
  next => exact sound.reconnectToPeer idle made

theorem pollSet_sublist (s : NetworkLoop) : s.pollSet.Sublist s.owners := by
  unfold pollSet owners
  split
  next => exact List.Sublist.refl _
  next => simp

theorem Sound.poll (sound : s.Sound) (revents : Fd → Revents) : (s.poll revents).Sound where
  toOwned := ⟨sound.distinct, sound.isOpen, sound.misclosed⟩
  distinctEntries := by
    rintro pending ⟨⟩
    have same : (s.pollSet.map (s.pollEntry revents)).map PollEntry.fd = s.pollSet := by
      rw [List.map_map]
      exact List.map_id _
    rw [same]
    exact sound.distinct.sublist (pollSet_sublist s)
  upToDate := by
    rintro pending ⟨⟩ entry waits
    obtain ⟨fd, polled, rfl⟩ := List.mem_map.mp waits
    exact ⟨rfl, (pollSet_sublist s).subset polled⟩
  acted := sound.acted

/-- The thread goes from one loop to the next. -/
theorem Sound.leave (sound : s.Sound) {phase : LoopPhase}
    (idle : ∀ pending, phase ≠ .handling pending) : Sound { s with phase } where
  toOwned := ⟨sound.distinct, sound.isOpen, sound.misclosed⟩
  distinctEntries pending phase' := absurd phase' (idle pending)
  upToDate pending phase' := absurd phase' (idle pending)
  acted := sound.acted

theorem Sound.step {action : LoopAction} (sound : s.Sound) (untroubled : s.Untroubled action)
    (stepped : s.step action = .ok s') : s'.Sound := by
  have made := step_eq_ok.mp stepped
  cases action with
  | skip => exact sound.skip untroubled made
  | accept accepted => exact sound.accept made
  | receive result => exact sound.receive untroubled made
  | replicate delivered connected reported =>
      simp only [next] at made
      split at made
      next sending => exact sound.sendReplicationMessage (by simp [Idle, sending]) made
      next => cases made
  | poll revents =>
      simp only [next] at made
      split at made
      next =>
        cases made
        exact sound.poll revents
      next => cases made
  | polled | sent =>
      simp only [next] at made
      split at made
      next =>
        cases made
        exact sound.leave (by simp)
      next => cases made

/-! ## Runs of the network thread -/

/-- What `start` makes of the listening socket alone. -/
theorem start_eq {listenFd : Fd} {first : NetworkLoop}
    (started : start listenFd connected = some first) :
    ∃ listening : NetworkLoop, listening.Sound ∧ listening.NoLeak ∧ listening.Idle ∧
      ∃ succeeded middle, listening.connectToPeer connected = some (succeeded, middle) ∧
        (first = middle ∨ first = { middle with peer := { middle.peer with alive := true } }) := by
  obtain ⟨⟨succeeded, middle⟩, connects, rest⟩ := Option.bind_eq_some_iff.mp started
  refine ⟨_, ?_, ?_, ?_, succeeded, middle, connects, ?_⟩
  · refine ⟨⟨?_, ?_, rfl⟩, ?_, ?_, ?_⟩
    · simp [owners]
    · simp [owners]
    · rintro pending ⟨⟩
    · rintro pending ⟨⟩
    · simp
  · intro fd isOpen
    dsimp only at isOpen
    split at isOpen
    next same => simp [owners, same]
    next => cases isOpen
  · rintro pending ⟨⟩
  · dsimp only at rest
    split at rest
    all_goals
      cases rest
      simp

/-- No descriptor is lost: in every run of the network thread every open descriptor is its
listening socket, the connection to the peer or in `conns`.  As long as no receive on the connection
to the peer fails and `poll` reports no error on the listening socket, these are open and different
from each other, no descriptor is closed that is not open, and whatever is done about an entry of
`pfds` is done about the socket that `poll` has reported on, although descriptor numbers are given
out again while the thread goes through `pfds`. -/
theorem descriptors_owned {listenFd : Fd} {first final : NetworkLoop} {actions : List LoopAction}
    (started : start listenFd connected = some first)
    (ran : Transition.run step first actions = .ok final) :
    (∀ fd, (final.socket fd).isSome → fd ∈ final.owners) ∧
      (Transition.Along step Untroubled first actions →
        final.owners.Nodup ∧ (∀ fd ∈ final.owners, (final.socket fd).isSome) ∧
          final.misclosed = [] ∧
          ∀ report ∈ final.acted, report.1 = report.2 ∧ report.2.isSome) := by
  obtain ⟨listening, sound, noLeak, idle, succeeded, middle, connects, opened⟩ := start_eq started
  have noLeak := noLeak.connectToPeer connects
  have sound := sound.connectToPeer idle connects
  have begun : first.NoLeak ∧ first.Sound := by
    obtain rfl | rfl := opened
    · exact ⟨noLeak, sound⟩
    · exact ⟨noLeak, sound.setAlive true⟩
  constructor
  · have kept : Transition.Preserves step (fun _ _ => True) NoLeak :=
      fun _ _ _ noLeak _ stepped => noLeak.step stepped
    have always : Transition.Along step (fun _ _ => True) first actions :=
      Transition.along_of_forall fun _ _ => trivial
    exact kept.run begun.1 always ran
  · intro along
    have kept : Transition.Preserves step Untroubled Sound :=
      fun _ _ _ sound untroubled stepped => sound.step untroubled stepped
    have sound := kept.run begun.2 along ran
    exact ⟨sound.distinct, sound.isOpen, sound.misclosed, sound.acted⟩

/-- `poll` finds the listed descriptors readable. -/
def finds (readable : List Fd) : LoopAction :=
  .poll fun fd => if fd ∈ readable then .readable else .quiet

/-- A client connects, a send to the peer fails and its connection is opened again under the same
number, the client hangs up, and another one gets the number of the client. -/
def twoClients : List LoopAction :=
  [finds [3], .accept (some 5), .skip, .polled, .replicate false (some 4) true, .sent,
    finds [5], .skip, .skip, .receive .closed, .polled, .sent,
    finds [3], .accept (some 5), .skip, .polled, .sent]

/-- The thread with its listening socket 3 and the connection 4 to the peer. -/
def peerConnected : NetworkLoop :=
  (start 3 (some 4)).get rfl

theorem twoClients_owned :
    ∃ final, Transition.run step peerConnected twoClients = .ok final ∧
      final.owners = [3, 4, 5] ∧ final.opened = 5 ∧ final.owners.Nodup ∧ final.misclosed = [] := by
  have started : start 3 (some 4) = some peerConnected := rfl
  have untroubled : Transition.Along step Untroubled peerConnected twoClients := by
    decide +kernel
  have owned := (descriptors_owned started rfl).2 untroubled
  exact ⟨_, rfl, rfl, rfl, owned.1, owned.2.2.1⟩

/-- A receive on the connection to the peer fails, which leaves its number in `peer_`.  The next
`poll` reports `POLLNVAL` on it, and a client gets the number before the thread takes this up. -/
def peerLost : List LoopAction :=
  [finds [4], .skip, .receive .closed, .polled, .sent, finds [3], .accept (some 4), .skip]

/-- The condition of `descriptors_owned` is needed: once the connection to the peer has been lost
in a receive, a number can have two owners.  The error that was reported on the former connection
closes the one of the client, and `conns` keeps its number. -/
theorem descriptors_not_owned_of_peerLost :
    ∃ final, Transition.run step peerConnected peerLost = .ok final ∧
      ¬ Transition.Along step Untroubled peerConnected peerLost ∧
      final.conns = [4] ∧ final.socket 4 = none ∧
      ∃ report ∈ final.acted, report.1 ≠ report.2 := by
  refine ⟨_, rfl, by decide +kernel, rfl, rfl, (none, some 2), ?_, by decide⟩
  decide

end NetworkLoop

end TaskCoordinator
