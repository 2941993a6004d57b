import TaskCoordinator.Coordinator.Provenance
import TaskCoordinator.Worker.WordCount

/-!
# Word counts from the client and back

Two coordinators that replicate to each other, and the workers of both.  Every message that a
coordinator has pushed may be read at any time, any number of times and in any order, or never:
an `ASSIGN` by a worker that executes it, a replication message by the other coordinator.  So
may every `COMPLETE`, by either coordinator.  Clients may submit a task again, with another text
too, and to either coordinator.

Whatever happens, the value of a successful `RESULT` is the word count of a text that a client
has submitted for this task.  The only condition is on snapshots, which leave the texts out and
yet replace the records of tasks that run: none is taken while a worker runs a task.
-/

namespace TaskCoordinator

open Transition

/-- The two coordinators, and the `COMPLETE`s that workers have sent. -/
structure Shard where
  nodes : Bool → Coordinator
  responses : List CompleteMsg

/-- The next step in one of the processes. -/
inductive ShardAction where
  /-- The scheduler of a coordinator handles something that comes neither from a worker's
  execution nor from its peer. -/
  | schedule (node : Bool) (event : Event)
  /-- A worker executes the `ASSIGN` at a position of the messages that a coordinator has
  pushed. -/
  | execute (node : Bool) (position : Nat) (startedAt completedAt : Nanoseconds)
  /-- A coordinator processes one of the responses. -/
  | complete (node : Bool) (position : Nat) (fd : Fd) (env : Env)
  /-- A coordinator processes the message at a position of those that its peer has pushed. -/
  | replicate (node : Bool) (position : Nat) (input : Fd × Env)

/-- The request that a step brings. -/
def ShardAction.request? : ShardAction → Option SubmitMsg
  | .schedule _ (.submit _ msg _) => some msg
  | _ => none

namespace Shard

def init : Shard where
  nodes := fun _ => .init
  responses := []

/-- The scheduler of one coordinator handles an event. -/
def handle (t : Shard) (node : Bool) (event : Event) : Except Fault Shard := do
  let next ← (t.nodes node).step event
  .ok { t with nodes := Function.update t.nodes node next }

/-- One step of the system.  Nothing happens at a position where there is nothing. -/
def step (t : Shard) : ShardAction → Except Fault Shard
  | .schedule node event => t.handle node event
  | .execute node position startedAt completedAt =>
      match (t.nodes node).outgoingQueue[position]?.bind fun sent => sent.msg.assign? with
      | none => .ok t
      | some order =>
          .ok { t with
            responses := t.responses ++ [Worker.execute order startedAt completedAt] }
  | .complete node position fd env =>
      match t.responses[position]? with
      | none => .ok t
      | some response => t.handle node (.complete fd response env)
  | .replicate node position input =>
      match (t.nodes !node).outgoingQueue[position]? with
      | none => .ok t
      | some sent =>
          .ok { t with
            nodes := Function.update t.nodes node ((t.nodes node).receive input sent.msg) }

/-- No worker of the coordinator runs a task. -/
def Idle (s : Coordinator) : Prop :=
  ∀ state ∈ s.workersStates, state.runningTasks.items = []

/-- `COMPLETE`s come from workers and replication messages from the peer.  A snapshot finds no
task running. -/
def Admits (t : Shard) : ShardAction → Prop
  | .schedule _ event => event.stamp? = none ∧ event.completes? = none
  | .replicate node position _ => ∀ sent ∈ (t.nodes !node).outgoingQueue[position]?,
      sent.msg.isSnapshot = true → Idle (t.nodes node)
  | .execute .. | .complete .. => True

instance (s : Coordinator) : Decidable (Idle s) :=
  inferInstanceAs (Decidable (∀ _ ∈ _, _))

instance (t : Shard) : DecidablePred t.Admits
  | .schedule _ event => inferInstanceAs (Decidable (event.stamp? = none ∧ event.completes? = none))
  | .replicate node position _ => inferInstanceAs (Decidable
      (∀ sent ∈ (t.nodes !node).outgoingQueue[position]?, sent.msg.isSnapshot = true →
        Idle (t.nodes node)))
  | .execute .. | .complete .. => isTrue trivial

theorem not_runs_of_idle {s : Coordinator} (idle : Idle s) (worker : WorkerId) (id : TaskId) :
    ¬ s.Runs worker id := by
  rintro ⟨state, held, member⟩
  have none := idle state (List.mem_of_getElem? held)
  rw [UnorderedSet.mem_def, none] at member
  cases member

end Shard

theorem Message.body_of_answers? {msg : Message} {id : TaskId} (answers : msg.answers? = some id) :
    msg.body = .result msg.result := by
  unfold Message.answers? at answers
  unfold Message.result
  cases kind : msg.body with
  | result body => rfl
  | _ => simp [kind] at answers

namespace Shard

/-! ## The invariant -/

/-- What both coordinators hold and what workers have answered comes from requests. -/
structure Genuine (requested : SubmitMsg → Prop) (t : Shard) : Prop where
  nodes : ∀ node, (t.nodes node).Genuine requested
  responses : ∀ response ∈ t.responses,
    Computed requested response.taskId response.success response.result

variable {requested : SubmitMsg → Prop} {t t' : Shard} {action : ShardAction}

theorem genuine_init : init.Genuine requested where
  nodes := fun _ => Coordinator.genuine_init
  responses := fun _ member => nomatch member

/-- One of the coordinators has gone on. -/
theorem Genuine.setNode (genuine : t.Genuine requested) (node : Bool) {next : Coordinator}
    (isGenuine : next.Genuine requested) :
    Genuine requested { t with nodes := Function.update t.nodes node next } where
  nodes := by
    intro other
    by_cases same : other = node
    · subst other
      simpa using isGenuine
    · simpa [Function.update_of_ne same] using genuine.nodes other
  responses := genuine.responses

theorem Genuine.handle (genuine : t.Genuine requested) {node : Bool} {event : Event}
    (unstamped : event.stamp? = none) (brings : event.Genuine requested)
    (handled : t.handle node event = .ok t') : t'.Genuine requested := by
  obtain ⟨next, stepped, done⟩ := bind_eq_ok.mp handled
  cases done
  refine genuine.setNode node ?_
  exact Coordinator.genuine_preserved _ event next (genuine.nodes node) ⟨unstamped, brings⟩ stepped

theorem Genuine.execute (genuine : t.Genuine requested) {node : Bool} {position : Nat}
    {order : AssignMsg}
    (found : ((t.nodes node).outgoingQueue[position]?.bind fun sent => sent.msg.assign?) =
      some order) (startedAt completedAt : Nanoseconds) :
    Genuine requested
      { t with responses := t.responses ++ [Worker.execute order startedAt completedAt] } := by
  refine ⟨genuine.nodes, ?_⟩
  rw [List.forall_mem_append, List.forall_mem_singleton]
  refine ⟨genuine.responses, Asked.computed ?_ startedAt completedAt⟩
  obtain ⟨sent, pushed, isOrder⟩ := Option.bind_eq_some_iff.mp found
  exact ((genuine.nodes node).sent sent (List.mem_of_getElem? pushed)).asked isOrder

theorem genuine_preserved :
    Preserves step
      (fun t action => t.Admits action ∧ ∀ msg, action.request? = some msg → requested msg)
      (Genuine requested) := by
  rintro t action t' genuine ⟨admitted, requests⟩ stepped
  cases action with
  | schedule node event =>
      refine genuine.handle admitted.1 ?_ stepped
      cases event with
      | submit fd msg env => exact requests msg rfl
      | complete => cases admitted.2
      | _ => trivial
  | execute node position startedAt completedAt =>
      simp only [step] at stepped
      split at stepped
      next =>
        cases stepped
        exact genuine
      next order found =>
        cases stepped
        exact genuine.execute found startedAt completedAt
  | complete node position fd env =>
      simp only [step] at stepped
      split at stepped
      next =>
        cases stepped
        exact genuine
      next response found =>
        have brings : Event.Genuine requested (.complete fd response env) :=
          genuine.responses response (List.mem_of_getElem? found)
        exact genuine.handle rfl brings stepped
  | replicate node position input =>
      simp only [step] at stepped
      split at stepped
      next =>
        cases stepped
        exact genuine
      next sent pushed =>
        cases stepped
        have isGenuine := (genuine.nodes !node).sent sent (List.mem_of_getElem? pushed)
        refine genuine.setNode node ((genuine.nodes node).receive input isGenuine ?_)
        exact fun isSnapshot => not_runs_of_idle (admitted sent pushed isSnapshot)

/-- Both coordinators and all workers, in any order of their steps: the value of every successful
`RESULT` is the number of words in a text that has been submitted for this task, or 0 if the
request was for a task of another type. -/
theorem results_count_submitted_words (actions : List ShardAction)
    (admitted : Along step Admits init actions) (ran : Transition.run step init actions = .ok t)
    (node : Bool) (sent : OutgoingEvent) (pushed : sent ∈ (t.nodes node).outgoingQueue)
    (result : ResultMsg) (isResult : sent.msg.body = .result result)
    (success : result.success ≠ 0) :
    ∃ action ∈ actions, ∃ msg, action.request? = some msg ∧ msg.taskId = result.taskId ∧
      (msg.type = .wordCount → msg.words.length < 2 ^ 32 →
        result.result.toNat = Worker.wordStarts msg.words) ∧
      (msg.type ≠ .wordCount → result.result = 0) := by
  let requested (msg : SubmitMsg) : Prop := ∃ action ∈ actions, action.request? = some msg
  have requests : ∀ action ∈ actions, ∀ msg, action.request? = some msg → requested msg :=
    fun action member msg isRequest => ⟨action, member, isRequest⟩
  have genuine : t.Genuine requested :=
    genuine_preserved.run genuine_init (admitted.and (along_of_forall requests)) ran
  have isGenuine := (genuine.nodes node).sent sent pushed
  unfold Message.Genuine at isGenuine
  rw [isResult] at isGenuine
  obtain ⟨msg, ⟨action, member, isRequest⟩, isId, isValue⟩ := isGenuine success
  refine ⟨action, member, msg, isRequest, isId, fun wordCount short => ?_, fun other => ?_⟩
  · rw [← isValue, SubmitMsg.value, if_pos wordCount, Worker.countWords_eq]
    have small := Nat.lt_of_le_of_lt (Worker.wordStarts_le_length msg.words) short
    exact UInt32.toNat_ofNat_of_lt' small
  · rw [← isValue, SubmitMsg.value, if_neg other]

/-- The text `don't 's'` is submitted to one coordinator and, when nothing comes back, to the
other one, which has got the replication of the first assignment. -/
def submittedTwice : List ShardAction :=
  let request : SubmitMsg :=
    { taskId := 7, type := .wordCount, words := [100, 111, 110, 39, 116, 32, 39, 115, 39] }
  [.schedule false (.register 5 {}), .schedule false (.submit 9 request {}),
    .replicate true 2 (3, {}), .execute false 1 10 20, .schedule true (.register 6 {}),
    .schedule true (.submit 4 request {}), .execute true 1 30 40, .complete true 1 6 {}]

theorem submittedTwice_counts_two :
    ∃ t, Transition.run step init submittedTwice = .ok t ∧
      ∃ sent ∈ (t.nodes true).outgoingQueue, ∃ result, sent.msg.body = .result result ∧
        ∃ action ∈ submittedTwice, ∃ msg, action.request? = some msg ∧
          result.result.toNat = Worker.wordStarts msg.words := by
  have admitted : Along step Admits init submittedTwice := by decide +kernel
  have runs : ∃ t, Transition.run step init submittedTwice = .ok t ∧
      ∃ sent ∈ (t.nodes true).outgoingQueue, sent.msg.answers? = some 7 ∧
        sent.msg.result.success ≠ 0 := by decide +kernel
  obtain ⟨t, ran, sent, pushed, answers, success⟩ := runs
  have isResult := Message.body_of_answers? answers
  obtain ⟨action, member, msg, isRequest, _, counts, _⟩ :=
    results_count_submitted_words submittedTwice admitted ran true sent pushed _ isResult success
  have all : ∀ action ∈ submittedTwice, ∀ msg, action.request? = some msg →
      msg.type = .wordCount ∧ msg.words.length < 2 ^ 32 := by decide
  obtain ⟨wordCount, short⟩ := all action member msg isRequest
  exact ⟨t, ran, sent, pushed, _, isResult, action, member, msg, isRequest, counts wordCount short⟩

/-- A snapshot arrives at a coordinator that has a task running.  The worker dies, and the task is
assigned again without its text. -/
example :
    let request : SubmitMsg := { taskId := 7, type := .wordCount, words := [100] }
    ∃ t, Transition.run step init
        [.schedule false (.register 5 {}), .schedule false (.submit 9 request {}),
          .schedule true (.submit 4 request {}), .schedule true (.peerReconnected {}),
          .replicate false 0 (3, {}),
          .schedule false (.sweep { clock := List.replicate 3 3000000000 }),
          .schedule false (.register 8 {}), .schedule false (.submit 9 { taskId := 8 } {}),
          .schedule false (.pass {}), .execute false 6 10 20, .complete false 0 8 {}] = .ok t ∧
      ∃ sent ∈ (t.nodes false).outgoingQueue, sent.msg.answers? = some 7 ∧
        sent.msg.result.success ≠ 0 ∧ sent.msg.result.result = 0 := by
  decide +kernel

end Shard

end TaskCoordinator
