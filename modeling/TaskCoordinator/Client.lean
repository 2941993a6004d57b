import TaskCoordinator.Message

/-!
# The client thread

`ClientRunner::worker`: one thread sends its tasks one after the other, each up to
`RETRY_TASK + 1` times, and counts a response that reports success as the completion of the
task it is waiting for.  The thread keeps one connection.  It opens a new one when a send
fails, and goes on with the old one when a receive fails.

The thread is cut at its socket calls; the outcome of each call is an argument of the
function that follows it.  A send or a receive transfers a whole message or nothing.
Latencies are left out, and so is the assertion that ends the process when a word count
differs from the expected one.
-/

namespace TaskCoordinator

namespace Config

def retryTask : Nat := 2

end Config

/-- The work that `create_synthetic_task` or `create_word_count_task` puts into a request. -/
inductive Work where
  | synthetic (durationUs : UInt32)
  | wordCount (words : List UInt8)
  deriving DecidableEq, Repr

/-- Where the client thread stands. -/
inductive ClientPhase where
  /-- Before the first `connect`. -/
  | connecting
  /-- At the head of the retry loop. -/
  | preparing
  /-- At a send of the request, the second one if `again`. -/
  | sending (request : SubmitMsg) (again : Bool)
  /-- At the `connect` after a failed send. -/
  | reconnecting (request : SubmitMsg)
  /-- At the receive. -/
  | receiving (request : SubmitMsg)
  | finished
  deriving DecidableEq, Repr

structure ClientThread where
  id : ClientId
  numTasks : UInt64
  task : UInt64 := 0
  retry : Nat := 0
  /-- The open connection, if any. -/
  connection : Option Nat := none
  phase : ClientPhase := .connecting
  /-- For every counted response the task of the request and the task of the response. -/
  counted : List (TaskId × TaskId) := []
  deriving DecidableEq, Repr

namespace ClientThread

def taskId (client : ClientThread) : TaskId :=
  client.numTasks * client.id.toUInt64 + client.task

/-- The request for the current task. -/
def request (client : ClientThread) (work : Work) : SubmitMsg :=
  let msg : SubmitMsg := { taskId := client.taskId, clientId := client.id }
  match work with
  | .synthetic durationUs => { msg with type := .synthetic, durationUs }
  | .wordCount words => { msg with type := .wordCount, words }

/-- The thread returns and closes its connection. -/
def finish (client : ClientThread) : ClientThread :=
  { client with phase := .finished, connection := none }

/-- After the first `connect`, which may have failed. -/
def start (client : ClientThread) (connection : Option Nat) : ClientThread :=
  if 0 < client.numTasks then
    { client with connection, phase := .preparing }
  else
    client.finish

/-- `continue` in the retry loop. -/
def nextRetry (client : ClientThread) : ClientThread :=
  if client.retry + 1 ≤ Config.retryTask then
    { client with retry := client.retry + 1, phase := .preparing }
  else
    client.finish

/-- The task is completed. -/
def nextTask (client : ClientThread) : ClientThread :=
  if client.task + 1 < client.numTasks then
    { client with task := client.task + 1, retry := 0, phase := .preparing }
  else
    client.finish

def prepare (client : ClientThread) (work : Work) : ClientThread :=
  { client with phase := .sending (client.request work) false }

/-- After a send of the request. -/
def sent (client : ClientThread) (request : SubmitMsg) : ClientThread :=
  { client with phase := .receiving request }

/-- After a send that failed. -/
def sendFailed (client : ClientThread) (request : SubmitMsg) (again : Bool) : ClientThread :=
  if again then client.nextRetry else { client with phase := .reconnecting request }

/-- After the `connect` that follows a failed send; the old connection is closed first. -/
def reconnected (client : ClientThread) (request : SubmitMsg) : Option Nat → ClientThread
  | some connection =>
      { client with connection := some connection, phase := .sending request true }
  | none => { client with connection := none }.nextRetry

/-- After a receive that brought `response`. -/
def received (client : ClientThread) (request : SubmitMsg) (response : Message) :
    ClientThread :=
  if response.result.success = 0 then
    client.nextRetry
  else
    { client with
      counted := client.counted ++ [(request.taskId, response.result.taskId)] }.nextTask

variable (client : ClientThread)

@[simp] theorem request_clientId (work : Work) :
    (client.request work).clientId = client.id := by
  cases work <;> rfl

/-- The thread is between two requests, or done. -/
def Idle : Prop :=
  client.phase = .preparing ∨ client.phase = .finished

theorem start_spec (connection : Option Nat) :
    (client.start connection).Idle ∧ (client.start connection).id = client.id ∧
      (client.start connection).counted = client.counted := by
  unfold start
  split
  · exact ⟨.inl rfl, rfl, rfl⟩
  · exact ⟨.inr rfl, rfl, rfl⟩

theorem nextRetry_spec :
    client.nextRetry.Idle ∧ client.nextRetry.id = client.id ∧
      client.nextRetry.counted = client.counted := by
  unfold nextRetry
  split
  · exact ⟨.inl rfl, rfl, rfl⟩
  · exact ⟨.inr rfl, rfl, rfl⟩

theorem nextTask_spec :
    client.nextTask.Idle ∧ client.nextTask.id = client.id ∧
      client.nextTask.counted = client.counted := by
  unfold nextTask
  split
  · exact ⟨.inl rfl, rfl, rfl⟩
  · exact ⟨.inr rfl, rfl, rfl⟩

end ClientThread

end TaskCoordinator
