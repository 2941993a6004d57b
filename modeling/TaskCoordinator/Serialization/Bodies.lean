import TaskCoordinator.Message
import TaskCoordinator.Serialization.Buffer

/-!
# Message bodies on the wire

The pairs `serialize` and `deserialize` of the message bodies and of the records in them.  A
reader starts from a default body and fills in what the writer has put out.  A body with a
payload that depends on the task type writes one of its payload fields only; `payloadOnly`
is the body with the other field at its default.

Every pair is shown to be exact: the reader returns a body precisely on those inputs that
start with what the writer puts out for it.
-/

namespace TaskCoordinator

open Wire Serialization

variable {input rest : Bytes}

/-! ## Fields -/

def TaskType.toByte : TaskType → UInt8
  | .synthetic => 0
  | .wordCount => 1
  | .other byte _ => byte

/-- The cast of a byte to the enumeration. -/
def TaskType.ofByte (byte : UInt8) : TaskType :=
  if unnamed : 1 < byte then .other byte unnamed
  else if byte = 0 then .synthetic
  else .wordCount

@[simp] theorem TaskType.ofByte_toByte (type : TaskType) : ofByte type.toByte = type := by
  cases type with
  | synthetic => rfl
  | wordCount => rfl
  | other byte unnamed => simp [toByte, ofByte, unnamed]

@[simp] theorem TaskType.toByte_ofByte (byte : UInt8) : (ofByte byte).toByte = byte := by
  unfold ofByte
  split
  next => rfl
  next named =>
    split
    next isZero => exact isZero.symm
    next notZero =>
      rw [UInt8.lt_iff_toNat_lt] at named
      rw [← UInt8.toNat_inj] at notZero ⊢
      simp only [UInt8.toNat_one, UInt8.toNat_zero] at named notZero
      change 1 = byte.toNat
      omega

def TaskType.serialize (type : TaskType) : Bytes :=
  writeU8 type.toByte

def TaskType.deserialize : BufferReader TaskType :=
  TaskType.ofByte <$> readU8

theorem TaskType.run_deserialize {type : TaskType} :
    TaskType.deserialize.run input = some (type, rest) ↔ input = type.serialize ++ rest := by
  simp only [TaskType.deserialize, TaskType.serialize, run_map_eq_some, run_readU8]
  constructor
  · rintro ⟨byte, rfl, rfl⟩
    rw [TaskType.toByte_ofByte]
  · rintro rfl
    exact ⟨type.toByte, rfl, TaskType.ofByte_toByte type⟩

/-- Worker ids are 32 bits wide. -/
def writeWorkerId (worker : WorkerId) : Bytes :=
  writeU32 (UInt32.ofNat worker)

def readWorkerId : BufferReader WorkerId :=
  UInt32.toNat <$> readU32

theorem run_readWorkerId {worker : WorkerId} :
    readWorkerId.run input = some (worker, rest) ↔
      worker < 2 ^ 32 ∧ input = writeWorkerId worker ++ rest := by
  simp only [readWorkerId, writeWorkerId, run_map_eq_some, run_readU32]
  constructor
  · rintro ⟨word, rfl, rfl⟩
    exact ⟨word.toNat_lt, by rw [UInt32.ofNat_toNat]⟩
  · rintro ⟨fits, rfl⟩
    exact ⟨UInt32.ofNat worker, rfl, UInt32.toNat_ofNat_of_lt' fits⟩

/-! ## Bodies with a payload -/

/-- The payload of a `SUBMIT` or an `ASSIGN`: the text of a word count, the duration of any
other task. -/
def writePayload (type : TaskType) (durationUs : UInt32) (words : Bytes) : Bytes :=
  if type = .wordCount then writeString words else writeU32 durationUs

/-- The duration and the text that are read back, of which one has its default. -/
def readPayload (type : TaskType) : BufferReader (UInt32 × Bytes) :=
  if type = .wordCount then do
    let words ← readString
    pure (0, words)
  else do
    let durationUs ← readU32
    pure (durationUs, [])

/-- A payload as it is read back: the field that is not written has its default. -/
def PayloadOnly (type : TaskType) (durationUs : UInt32) (words : Bytes) : Prop :=
  (type = .wordCount → durationUs = 0 ∧ words.length < 2 ^ 32) ∧
    (type ≠ .wordCount → words = [])

theorem PayloadOnly.ofText {type : TaskType} {words : Bytes} (isText : type = .wordCount)
    (short : words.length < 2 ^ 32) : PayloadOnly type 0 words :=
  ⟨fun _ => ⟨rfl, short⟩, fun other => absurd isText other⟩

theorem PayloadOnly.ofOther {type : TaskType} {durationUs : UInt32}
    (isOther : type ≠ .wordCount) : PayloadOnly type durationUs [] :=
  ⟨fun isText => absurd isText isOther, fun _ => rfl⟩

theorem run_readPayload {type : TaskType} {durationUs : UInt32} {words : Bytes} :
    (readPayload type).run input = some ((durationUs, words), rest) ↔
      PayloadOnly type durationUs words ∧ input = writePayload type durationUs words ++ rest := by
  by_cases isText : type = .wordCount
  · simp only [readPayload, writePayload, PayloadOnly, isText, if_true, run_bind_eq_some, run_readString,
      run_pure_eq_some, Prod.mk.injEq]
    constructor
    · rintro ⟨text, middle, ⟨short, rfl⟩, ⟨rfl, rfl⟩, rfl⟩
      exact ⟨⟨fun _ => ⟨rfl, short⟩, fun other => absurd rfl other⟩, rfl⟩
    · rintro ⟨⟨payload, _⟩, rfl⟩
      obtain ⟨rfl, short⟩ := payload trivial
      exact ⟨words, rest, ⟨short, rfl⟩, ⟨rfl, rfl⟩, rfl⟩
  · simp only [readPayload, writePayload, PayloadOnly, isText, if_false, run_bind_eq_some, run_readU32,
      run_pure_eq_some, Prod.mk.injEq]
    constructor
    · rintro ⟨duration, middle, rfl, ⟨rfl, rfl⟩, rfl⟩
      simp
    · rintro ⟨⟨_, payload⟩, rfl⟩
      obtain rfl := payload isText
      exact ⟨durationUs, rest, rfl, ⟨rfl, rfl⟩, rfl⟩

namespace SubmitMsg

def serialize (msg : SubmitMsg) : Bytes :=
  List.flatten
    [writeU64 msg.taskId, writeU32 msg.clientId, msg.type.serialize,
      writePayload msg.type msg.durationUs msg.words]

def deserialize : BufferReader SubmitMsg := do
  let taskId ← readU64
  let clientId ← readU32
  let type ← TaskType.deserialize
  let payload ← readPayload type
  pure { taskId, clientId, type, durationUs := payload.1, words := payload.2 }

theorem reads : Reads deserialize serialize
    fun msg => PayloadOnly msg.type msg.durationUs msg.words := by
  intro input msg rest
  simp only [deserialize, serialize, run_bind_eq_some, run_pure_eq_some, run_readU64, run_readU32,
    TaskType.run_deserialize, Prod.exists, run_readPayload, List.flatten_cons, List.flatten_nil,
    List.append_nil, List.append_assoc]
  constructor
  · rintro ⟨taskId, _, rfl, clientId, _, rfl, type, _, rfl, durationUs, words, _,
      ⟨payload, rfl⟩, rfl, rfl⟩
    exact ⟨payload, rfl⟩
  · rintro ⟨payload, rfl⟩
    exact ⟨_, _, rfl, _, _, rfl, _, _, rfl, _, _, _, ⟨payload, rfl⟩, rfl, rfl⟩

end SubmitMsg

namespace AssignMsg

def serialize (msg : AssignMsg) : Bytes :=
  List.flatten
    [writeU64 msg.taskId, msg.type.serialize, writePayload msg.type msg.durationUs msg.words]

def deserialize : BufferReader AssignMsg := do
  let taskId ← readU64
  let type ← TaskType.deserialize
  let payload ← readPayload type
  pure { taskId, type, durationUs := payload.1, words := payload.2 }

theorem reads : Reads deserialize serialize
    fun msg => PayloadOnly msg.type msg.durationUs msg.words := by
  intro input msg rest
  simp only [deserialize, serialize, run_bind_eq_some, run_pure_eq_some, run_readU64,
    TaskType.run_deserialize, Prod.exists, run_readPayload, List.flatten_cons, List.flatten_nil,
    List.append_nil, List.append_assoc]
  constructor
  · rintro ⟨taskId, _, rfl, type, _, rfl, durationUs, words, _, ⟨payload, rfl⟩, rfl, rfl⟩
    exact ⟨payload, rfl⟩
  · rintro ⟨payload, rfl⟩
    exact ⟨_, _, rfl, _, _, rfl, _, _, _, ⟨payload, rfl⟩, rfl, rfl⟩

end AssignMsg

/-! ## Bodies of fixed size -/

namespace CompleteMsg

def serialize (msg : CompleteMsg) : Bytes :=
  List.flatten
    [writeU64 msg.taskId, writeU64 msg.startedAt, writeU64 msg.completedAt, writeU32 msg.result,
      writeU8 msg.success]

def deserialize : BufferReader CompleteMsg := do
  let taskId ← readU64
  let startedAt ← readU64
  let completedAt ← readU64
  let result ← readU32
  let success ← readU8
  pure { taskId, startedAt, completedAt, result, success }

theorem reads : Reads deserialize serialize fun _ => True := by
  intro input msg rest
  simp only [deserialize, serialize, run_bind_eq_some, run_pure_eq_some, run_readU64, run_readU32,
    run_readU8, List.flatten_cons, List.flatten_nil, List.append_nil, List.append_assoc,
    true_and]
  constructor
  · rintro ⟨_, _, rfl, _, _, rfl, _, _, rfl, _, _, rfl, _, _, rfl, rfl, rfl⟩
    rfl
  · rintro rfl
    exact ⟨_, _, rfl, _, _, rfl, _, _, rfl, _, _, rfl, _, _, rfl, rfl, rfl⟩

end CompleteMsg

namespace ResultMsg

def serialize (msg : ResultMsg) : Bytes :=
  List.flatten [writeU64 msg.taskId, writeU32 msg.result, writeU8 msg.success]

def deserialize : BufferReader ResultMsg := do
  let taskId ← readU64
  let result ← readU32
  let success ← readU8
  pure { taskId, result, success }

theorem reads : Reads deserialize serialize fun _ => True := by
  intro input msg rest
  simp only [deserialize, serialize, run_bind_eq_some, run_pure_eq_some, run_readU64, run_readU32,
    run_readU8, List.flatten_cons, List.flatten_nil, List.append_nil, List.append_assoc,
    true_and]
  constructor
  · rintro ⟨_, _, rfl, _, _, rfl, _, _, rfl, rfl, rfl⟩
    rfl
  · rintro rfl
    exact ⟨_, _, rfl, _, _, rfl, _, _, rfl, rfl, rfl⟩

end ResultMsg

namespace CompletedReplicationMsg

def serialize (msg : CompletedReplicationMsg) : Bytes :=
  List.flatten
    [writeU64 msg.taskId, writeU64 msg.startedAt, writeU64 msg.completedAt,
      writeWorkerId msg.workerId, writeU32 msg.result, writeU8 msg.success]

def deserialize : BufferReader CompletedReplicationMsg := do
  let taskId ← readU64
  let startedAt ← readU64
  let completedAt ← readU64
  let workerId ← readWorkerId
  let result ← readU32
  let success ← readU8
  pure { taskId, startedAt, completedAt, workerId, result, success }

theorem reads : Reads deserialize serialize fun msg => msg.workerId < 2 ^ 32 := by
  intro input msg rest
  simp only [deserialize, serialize, run_bind_eq_some, run_pure_eq_some, run_readU64, run_readU32,
    run_readU8, run_readWorkerId, List.flatten_cons, List.flatten_nil, List.append_nil,
    List.append_assoc]
  constructor
  · rintro ⟨_, _, rfl, _, _, rfl, _, _, rfl, _, _, ⟨fits, rfl⟩, _, _, rfl, _, _, rfl, rfl, rfl⟩
    exact ⟨fits, rfl⟩
  · rintro ⟨fits, rfl⟩
    exact ⟨_, _, rfl, _, _, rfl, _, _, rfl, _, _, ⟨fits, rfl⟩, _, _, rfl, _, _, rfl, rfl, rfl⟩

end CompletedReplicationMsg

/-! ## Assignments for the backup -/

namespace AssignedReplicationMsg

/-- A payload with a duration of 64 bits, and none for a type without a name. -/
def writePayload (msg : AssignedReplicationMsg) : Bytes :=
  match msg.taskType with
  | .synthetic => writeU64 msg.durationUs
  | .wordCount => writeString msg.words
  | .other _ _ => []

def readPayload : TaskType → BufferReader (UInt64 × Bytes)
  | .synthetic => do
      let durationUs ← readU64
      pure (durationUs, [])
  | .wordCount => do
      let words ← readString
      pure (0, words)
  | .other _ _ => pure (0, [])

def serialize (msg : AssignedReplicationMsg) : Bytes :=
  List.flatten
    [writeU64 msg.taskId, writeU64 msg.queuedAt, writeU64 msg.startedAt, writeU32 msg.clientId,
      writeWorkerId msg.workerId, msg.taskType.serialize, msg.writePayload]

def deserialize : BufferReader AssignedReplicationMsg := do
  let taskId ← readU64
  let queuedAt ← readU64
  let startedAt ← readU64
  let clientId ← readU32
  let workerId ← readWorkerId
  let taskType ← TaskType.deserialize
  let payload ← readPayload taskType
  pure { taskId, queuedAt, startedAt, clientId, workerId, taskType, durationUs := payload.1,
         words := payload.2 }

/-- The payload fields that are not written have their defaults. -/
def PayloadOnly (msg : AssignedReplicationMsg) : Prop :=
  (msg.taskType ≠ .synthetic → msg.durationUs = 0) ∧
    (msg.taskType = .wordCount → msg.words.length < 2 ^ 32) ∧
    (msg.taskType ≠ .wordCount → msg.words = [])

theorem run_readPayload {msg : AssignedReplicationMsg} :
    (readPayload msg.taskType).run input = some ((msg.durationUs, msg.words), rest) ↔
      msg.PayloadOnly ∧ input = msg.writePayload ++ rest := by
  unfold readPayload PayloadOnly writePayload
  cases type : msg.taskType with
  | synthetic =>
      simp only [run_bind_eq_some, run_pure_eq_some, run_readU64, Prod.mk.injEq, ne_eq,
        not_true_eq_false, false_implies, reduceCtorEq, not_false_eq_true, true_implies, true_and]
      constructor
      · rintro ⟨_, _, rfl, ⟨rfl, same⟩, rfl⟩
        exact ⟨same.symm, rfl⟩
      · rintro ⟨same, rfl⟩
        exact ⟨_, _, rfl, ⟨rfl, same.symm⟩, rfl⟩
  | wordCount =>
      simp only [run_bind_eq_some, run_pure_eq_some, run_readString, Prod.mk.injEq, ne_eq,
        not_true_eq_false, false_implies, reduceCtorEq, not_false_eq_true, true_implies, and_true]
      constructor
      · rintro ⟨_, _, ⟨short, rfl⟩, ⟨same, rfl⟩, rfl⟩
        exact ⟨⟨same.symm, short⟩, rfl⟩
      · rintro ⟨⟨same, short⟩, rfl⟩
        exact ⟨_, _, ⟨short, rfl⟩, ⟨same.symm, rfl⟩, rfl⟩
  | other byte unnamed =>
      simp only [run_pure_eq_some, Prod.mk.injEq, ne_eq, reduceCtorEq, not_false_eq_true,
        true_implies, false_implies, true_and, List.nil_append]
      constructor
      · rintro ⟨⟨noDuration, noWords⟩, rfl⟩
        exact ⟨⟨noDuration.symm, noWords.symm⟩, rfl⟩
      · rintro ⟨⟨noDuration, noWords⟩, rfl⟩
        exact ⟨⟨noDuration.symm, noWords.symm⟩, rfl⟩

theorem reads : Reads deserialize serialize
    fun msg => msg.workerId < 2 ^ 32 ∧ msg.PayloadOnly := by
  intro input msg rest
  simp only [deserialize, serialize, run_bind_eq_some, run_pure_eq_some, run_readU64, run_readU32,
    run_readWorkerId, TaskType.run_deserialize, Prod.exists, List.flatten_cons,
    List.flatten_nil, List.append_nil, List.append_assoc]
  constructor
  · rintro ⟨_, _, rfl, _, _, rfl, _, _, rfl, _, _, rfl, _, _, ⟨fits, rfl⟩, _, middle, rfl, _, _, left,
      payload, isMsg, rfl⟩
    have ofMsg : (readPayload msg.taskType).run middle =
        some ((msg.durationUs, msg.words), left) := by
      rw [← isMsg]
      exact payload
    obtain ⟨payloadOnly, rfl⟩ := run_readPayload.mp ofMsg
    subst isMsg
    exact ⟨⟨fits, payloadOnly⟩, rfl⟩
  · rintro ⟨⟨fits, payloadOnly⟩, rfl⟩
    exact ⟨_, _, rfl, _, _, rfl, _, _, rfl, _, _, rfl, _, _, ⟨fits, rfl⟩, _, _, rfl, _, _, _,
      run_readPayload.mpr ⟨payloadOnly, rfl⟩, rfl, rfl⟩

end AssignedReplicationMsg

/-! ## Metrics -/

namespace CoordinatorMetrics

def serialize (metrics : CoordinatorMetrics) : Bytes :=
  List.flatten
    [writeU64 metrics.minLatencyUs, writeU64 metrics.maxLatencyUs, writeU64 metrics.avgLatencyUs,
      writeU64 metrics.p95LatencyUs, writeU64 metrics.tasksCompleted,
      writeU64 metrics.tasksQueued, writeU64 metrics.tasksRunning, writeU64 metrics.throughput,
      writeU32 metrics.activeWorkers, writeU8 metrics.isPrimary]

def deserialize : BufferReader CoordinatorMetrics := do
  let minLatencyUs ← readU64
  let maxLatencyUs ← readU64
  let avgLatencyUs ← readU64
  let p95LatencyUs ← readU64
  let tasksCompleted ← readU64
  let tasksQueued ← readU64
  let tasksRunning ← readU64
  let throughput ← readU64
  let activeWorkers ← readU32
  let isPrimary ← readU8
  pure { minLatencyUs, maxLatencyUs, avgLatencyUs, p95LatencyUs, tasksCompleted, tasksQueued,
         tasksRunning, throughput, activeWorkers, isPrimary }

theorem reads : Reads deserialize serialize fun _ => True := by
  intro input metrics rest
  simp only [deserialize, serialize, run_bind_eq_some, run_pure_eq_some, run_readU64, run_readU32,
    run_readU8, List.flatten_cons, List.flatten_nil, List.append_nil, List.append_assoc,
    true_and]
  constructor
  · rintro ⟨_, _, rfl, _, _, rfl, _, _, rfl, _, _, rfl, _, _, rfl, _, _, rfl, _, _, rfl, _, _, rfl,
      _, _, rfl, _, _, rfl, rfl, rfl⟩
    rfl
  · rintro rfl
    exact ⟨_, _, rfl, _, _, rfl, _, _, rfl, _, _, rfl, _, _, rfl, _, _, rfl, _, _, rfl, _, _, rfl,
      _, _, rfl, _, _, rfl, rfl, rfl⟩

end CoordinatorMetrics

namespace WorkerMetrics

def serialize (metrics : WorkerMetrics) : Bytes :=
  List.flatten
    [writeU64 metrics.avgLatencyUs, writeU64 metrics.tasksCompleted, writeU64 metrics.tasksRunning,
      writeU64 metrics.lastHeartbeatMs, writeWorkerId metrics.workerId, writeU8 metrics.alive]

theorem length_serialize_pos (metrics : WorkerMetrics) : 0 < metrics.serialize.length := by
  simp [serialize]

def deserialize : BufferReader WorkerMetrics := do
  let avgLatencyUs ← readU64
  let tasksCompleted ← readU64
  let tasksRunning ← readU64
  let lastHeartbeatMs ← readU64
  let workerId ← readWorkerId
  let alive ← readU8
  pure { avgLatencyUs, tasksCompleted, tasksRunning, lastHeartbeatMs, workerId, alive }

theorem reads : Reads deserialize serialize fun metrics => metrics.workerId < 2 ^ 32 := by
  intro input metrics rest
  simp only [deserialize, serialize, run_bind_eq_some, run_pure_eq_some, run_readU64,
    run_readU8, run_readWorkerId, List.flatten_cons, List.flatten_nil, List.append_nil,
    List.append_assoc]
  constructor
  · rintro ⟨_, _, rfl, _, _, rfl, _, _, rfl, _, _, rfl, _, _, ⟨fits, rfl⟩, _, _, rfl, rfl, rfl⟩
    exact ⟨fits, rfl⟩
  · rintro ⟨fits, rfl⟩
    exact ⟨_, _, rfl, _, _, rfl, _, _, rfl, _, _, rfl, _, _, ⟨fits, rfl⟩, _, _, rfl, rfl, rfl⟩

end WorkerMetrics

namespace TopResponseMsg

def serialize (msg : TopResponseMsg) : Bytes :=
  List.flatten
    [msg.coordinatorMetrics.serialize, writeU32 (UInt32.ofNat msg.workersMetrics.length),
      msg.workersMetrics.flatMap WorkerMetrics.serialize]

def deserialize : BufferReader TopResponseMsg := do
  let coordinatorMetrics ← CoordinatorMetrics.deserialize
  let numWorkers ← readU32
  let workersMetrics ← many WorkerMetrics.deserialize numWorkers.toNat
  pure { coordinatorMetrics, workersMetrics }

theorem reads : Reads deserialize serialize fun msg => msg.workersMetrics.length < 2 ^ 32 ∧
    ∀ metrics ∈ msg.workersMetrics, metrics.workerId < 2 ^ 32 := by
  intro input msg rest
  simp only [deserialize, serialize, run_bind_eq_some, run_pure_eq_some, run_readU32,
    CoordinatorMetrics.reads _ _ _, WorkerMetrics.reads.many _ _ _ _, List.flatten_cons,
    List.flatten_nil, List.append_nil, List.append_assoc, true_and]
  constructor
  · rintro ⟨_, _, rfl, count, _, rfl, workers, _, ⟨⟨counted, fit⟩, rfl⟩, rfl, rfl⟩
    refine ⟨⟨counted ▸ count.toNat_lt, fit⟩, ?_⟩
    rw [counted, UInt32.ofNat_toNat]
  · rintro ⟨⟨short, fit⟩, rfl⟩
    exact ⟨_, _, rfl, _, _, rfl, _, _, ⟨⟨(UInt32.toNat_ofNat_of_lt' short).symm, fit⟩, rfl⟩, rfl,
      rfl⟩

end TopResponseMsg

end TaskCoordinator
