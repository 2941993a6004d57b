import TaskCoordinator.Serialization.Snapshot

/-!
# Messages on the wire

`Message::serialize` and `Message::deserialize`: the epoch, the type as one byte, and the
body that the type selects.  The reader starts from a default message, and whatever the
writer does not put out has its default afterwards.

For every kind other than a snapshot the format is canonical: the reader returns a message
on those inputs only that start with what the writer puts out for it.  A snapshot has one
encoding for every order of its tasks.
-/

namespace TaskCoordinator

open Wire Serialization

/-! ## Types -/

/-- The kinds of messages.  The source casts any byte to this enumeration, so a byte without
a name is kept as it is. -/
inductive MessageType where
  | submit
  | assign
  | complete
  | result
  | assignedReplicate
  | completedReplicate
  | heartbeat
  | register
  | acknowledge
  | snapshot
  | peerReconnected
  | topRequest
  | topResponse
  | other (byte : UInt8) (unnamed : 12 < byte)
  deriving DecidableEq, Repr

namespace MessageType

def toByte : MessageType → UInt8
  | .submit => 0
  | .assign => 1
  | .complete => 2
  | .result => 3
  | .assignedReplicate => 4
  | .completedReplicate => 5
  | .heartbeat => 6
  | .register => 7
  | .acknowledge => 8
  | .snapshot => 9
  | .peerReconnected => 10
  | .topRequest => 11
  | .topResponse => 12
  | .other byte _ => byte

/-- The cast of a byte to the enumeration. -/
def ofByte (byte : UInt8) : MessageType :=
  if unnamed : 12 < byte then .other byte unnamed
  else
    match byte.toNat with
    | 0 => .submit
    | 1 => .assign
    | 2 => .complete
    | 3 => .result
    | 4 => .assignedReplicate
    | 5 => .completedReplicate
    | 6 => .heartbeat
    | 7 => .register
    | 8 => .acknowledge
    | 9 => .snapshot
    | 10 => .peerReconnected
    | 11 => .topRequest
    | _ => .topResponse

theorem ofByte_toByte (type : MessageType) : ofByte type.toByte = type := by
  cases type with
  | other byte unnamed => simp [toByte, ofByte, unnamed]
  | _ => rfl

theorem toByte_ofByte (byte : UInt8) : (ofByte byte).toByte = byte := by
  unfold ofByte
  split
  next => rfl
  next named =>
    have bound : byte.toNat ≤ 12 := by
      rw [UInt8.lt_iff_toNat_lt] at named
      exact Nat.not_lt.mp named
    apply UInt8.toNat_inj.mp
    interval_cases value : byte.toNat <;> rfl

theorem toByte_injective : Function.Injective toByte :=
  Function.LeftInverse.injective ofByte_toByte

def serialize (type : MessageType) : Bytes :=
  writeU8 type.toByte

def deserialize : BufferReader MessageType :=
  ofByte <$> readU8

theorem run_deserialize {type : MessageType} {input rest : Bytes} :
    deserialize.run input = some (type, rest) ↔ input = type.serialize ++ rest := by
  simp only [deserialize, serialize, run_map_eq_some, run_readU8]
  constructor
  · rintro ⟨byte, rfl, rfl⟩
    rw [toByte_ofByte]
  · rintro rfl
    exact ⟨type.toByte, rfl, ofByte_toByte type⟩

end MessageType

/-! ## Bodies -/

namespace Body

def type : Body → MessageType
  | .submit _ => .submit
  | .assign _ => .assign
  | .complete _ => .complete
  | .result _ => .result
  | .assignedReplicate _ => .assignedReplicate
  | .completedReplicate _ => .completedReplicate
  | .heartbeat _ => .heartbeat
  | .register => .register
  | .acknowledge _ => .acknowledge
  | .snapshot _ => .snapshot
  | .peerReconnected => .peerReconnected
  | .topRequest => .topRequest
  | .topResponse _ => .topResponse
  | .unknown byte unnamed => .other byte unnamed

/-- What follows the type.  The tasks of a snapshot go out in the given order. -/
def serialize (order : List TaskId → List TaskId) : Body → Bytes
  | .submit msg => msg.serialize
  | .assign msg => msg.serialize
  | .complete msg => msg.serialize
  | .result msg => msg.serialize
  | .assignedReplicate msg => msg.serialize
  | .completedReplicate msg => msg.serialize
  | .heartbeat workerId => writeWorkerId workerId
  | .acknowledge workerId => writeWorkerId workerId
  | .snapshot tasks => tasks.serialize order
  | .topResponse msg => msg.serialize
  | .register | .peerReconnected | .topRequest | .unknown _ _ => []

def deserialize : MessageType → BufferReader Body
  | .submit => Body.submit <$> SubmitMsg.deserialize
  | .assign => Body.assign <$> AssignMsg.deserialize
  | .complete => Body.complete <$> CompleteMsg.deserialize
  | .result => Body.result <$> ResultMsg.deserialize
  | .assignedReplicate => Body.assignedReplicate <$> AssignedReplicationMsg.deserialize
  | .completedReplicate => Body.completedReplicate <$> CompletedReplicationMsg.deserialize
  | .heartbeat => Body.heartbeat <$> readWorkerId
  | .acknowledge => Body.acknowledge <$> readWorkerId
  | .snapshot => Body.snapshot <$> TaskTable.deserialize
  | .topResponse => Body.topResponse <$> TopResponseMsg.deserialize
  | .register => pure .register
  | .peerReconnected => pure .peerReconnected
  | .topRequest => pure .topRequest
  | .other byte unnamed => pure (.unknown byte unnamed)

/-- The fields have the widths of the source, and counts and lengths fit their prefixes. -/
def Fits : Body → Prop
  | .submit msg => msg.words.length < 2 ^ 32
  | .assign msg => msg.words.length < 2 ^ 32
  | .assignedReplicate msg => msg.workerId < 2 ^ 32 ∧ msg.words.length < 2 ^ 32
  | .completedReplicate msg => msg.workerId < 2 ^ 32
  | .heartbeat workerId => workerId < 2 ^ 32
  | .acknowledge workerId => workerId < 2 ^ 32
  | .snapshot tasks => tasks.ids.length < 2 ^ 32 ∧
      ∀ id task, tasks.find? id = some task → task.workerId < 2 ^ 32
  | .topResponse msg => msg.workersMetrics.length < 2 ^ 32 ∧
      ∀ metrics ∈ msg.workersMetrics, metrics.workerId < 2 ^ 32
  | .complete _ | .result _ | .register | .peerReconnected | .topRequest | .unknown _ _ => True

/-- The body with the fields that mean something for its task type only; the others have
their defaults. -/
def payloadOnly : Body → Body
  | .submit msg =>
      if msg.type = .wordCount then .submit { msg with durationUs := 0 }
      else .submit { msg with words := [] }
  | .assign msg =>
      if msg.type = .wordCount then .assign { msg with durationUs := 0 }
      else .assign { msg with words := [] }
  | .assignedReplicate msg =>
      match msg.taskType with
      | .synthetic => .assignedReplicate { msg with words := [] }
      | .wordCount => .assignedReplicate { msg with durationUs := 0 }
      | .other _ _ => .assignedReplicate { msg with durationUs := 0, words := [] }
  | body => body

/-- A body that a reader returns: it fits, and fields that are not written have their
defaults. -/
def Received : Body → Prop
  | .submit msg => PayloadOnly msg.type msg.durationUs msg.words
  | .assign msg => PayloadOnly msg.type msg.durationUs msg.words
  | .assignedReplicate msg => msg.workerId < 2 ^ 32 ∧ msg.PayloadOnly
  | body => body.Fits

variable (order : List TaskId → List TaskId) {body : Body} {input rest : Bytes}

theorem type_payloadOnly (body : Body) : body.payloadOnly.type = body.type := by
  cases body with
  | submit msg =>
      simp only [payloadOnly]
      split <;> rfl
  | assign msg =>
      simp only [payloadOnly]
      split <;> rfl
  | assignedReplicate msg =>
      simp only [payloadOnly]
      split <;> rfl
  | _ => rfl

/-- Only the meaningful fields are written. -/
theorem serialize_payloadOnly (body : Body) :
    body.payloadOnly.serialize order = body.serialize order := by
  cases body with
  | submit msg =>
      simp only [payloadOnly]
      split
      next isText => simp [serialize, SubmitMsg.serialize, writePayload, isText]
      next isText => simp [serialize, SubmitMsg.serialize, writePayload, isText]
  | assign msg =>
      simp only [payloadOnly]
      split
      next isText => simp [serialize, AssignMsg.serialize, writePayload, isText]
      next isText => simp [serialize, AssignMsg.serialize, writePayload, isText]
  | assignedReplicate msg =>
      simp only [payloadOnly]
      split
      all_goals
        next type =>
          simp [serialize, AssignedReplicationMsg.serialize, AssignedReplicationMsg.writePayload,
            type]
  | _ => rfl

theorem received_payloadOnly (fits : body.Fits) : body.payloadOnly.Received := by
  cases body with
  | submit msg =>
      simp only [payloadOnly]
      split
      next isText => exact .ofText isText fits
      next isOther => exact .ofOther isOther
  | assign msg =>
      simp only [payloadOnly]
      split
      next isText => exact .ofText isText fits
      next isOther => exact .ofOther isOther
  | assignedReplicate msg =>
      simp only [payloadOnly]
      split
      next type => exact ⟨fits.1, by simp [AssignedReplicationMsg.PayloadOnly, type]⟩
      next type =>
        exact ⟨fits.1, fun _ => rfl, fun _ => fits.2, fun other => absurd type other⟩
      next type => exact ⟨fits.1, by simp [AssignedReplicationMsg.PayloadOnly, type]⟩
  | _ => exact fits

/-- All worker ids have the width of the source. -/
def WorkersFit : Body → Prop
  | .assignedReplicate msg => msg.workerId < 2 ^ 32
  | .completedReplicate msg => msg.workerId < 2 ^ 32
  | .heartbeat workerId => workerId < 2 ^ 32
  | .acknowledge workerId => workerId < 2 ^ 32
  | .snapshot tasks => ∀ id task, tasks.find? id = some task → task.workerId < 2 ^ 32
  | .topResponse msg => ∀ metrics ∈ msg.workersMetrics, metrics.workerId < 2 ^ 32
  | .submit _ | .assign _ | .complete _ | .result _ | .register | .peerReconnected | .topRequest
  | .unknown _ _ => True

/-- What goes out in fewer than `2 ^ 32` bytes has no text and no list that is longer. -/
theorem fits_payloadOnly (workers : body.WorkersFit)
    (short : (body.serialize order).length < 2 ^ 32) : body.payloadOnly.Fits := by
  cases body with
  | submit msg =>
      simp only [payloadOnly]
      split
      next isText =>
        simp only [serialize, SubmitMsg.serialize, writePayload, isText, if_true, writeString,
          List.length_flatten, List.map_cons, List.length_append, List.sum_cons] at short
        simp only [Fits]
        omega
      next => exact Nat.two_pow_pos 32
  | assign msg =>
      simp only [payloadOnly]
      split
      next isText =>
        simp only [serialize, AssignMsg.serialize, writePayload, isText, if_true, writeString,
          List.length_flatten, List.map_cons, List.length_append, List.sum_cons] at short
        simp only [Fits]
        omega
      next => exact Nat.two_pow_pos 32
  | assignedReplicate msg =>
      simp only [payloadOnly]
      split
      next => exact ⟨workers, Nat.two_pow_pos 32⟩
      next isText =>
        simp only [serialize, AssignedReplicationMsg.serialize,
          AssignedReplicationMsg.writePayload, isText, writeString, List.length_flatten,
          List.map_cons, List.length_append, List.sum_cons] at short
        refine ⟨workers, ?_⟩
        simp only
        omega
      next => exact ⟨workers, Nat.two_pow_pos 32⟩
  | snapshot tasks =>
      refine ⟨?_, workers⟩
      have counted := length_le_length_flatMap Task.length_serialize_pos (tasks.visited order)
      rw [TaskTable.length_visited] at counted
      simp only [serialize, TaskTable.serialize, List.length_flatten, List.map_cons,
        List.sum_cons] at short
      omega
  | topResponse msg =>
      refine ⟨?_, workers⟩
      have counted :=
        length_le_length_flatMap WorkerMetrics.length_serialize_pos msg.workersMetrics
      simp only [serialize, TopResponseMsg.serialize, List.length_flatten, List.map_cons,
        List.sum_cons] at short
      omega
  | _ => exact workers

/-- The reader of a type returns bodies of that type. -/
theorem type_of_run {type : MessageType} (ran : (deserialize type).run input = some (body, rest)) :
    body.type = type := by
  cases type with
  | register | peerReconnected | topRequest =>
      obtain ⟨rfl, _⟩ := run_pure_eq_some.mp ran
      rfl
  | other byte unnamed =>
      obtain ⟨rfl, _⟩ := run_pure_eq_some.mp ran
      rfl
  | _ =>
      obtain ⟨msg, _, rfl⟩ := run_map_eq_some.mp ran
      rfl

/-- A body that a reader can return is read back from its encoding. -/
theorem run_serialize (notSnapshot : body.type ≠ .snapshot) (received : body.Received)
    (rest : Bytes) :
    (deserialize body.type).run (body.serialize order ++ rest) = some (body, rest) := by
  cases body with
  | submit msg => exact run_map_eq_some.mpr ⟨msg, SubmitMsg.reads.run_encode received rest, rfl⟩
  | assign msg => exact run_map_eq_some.mpr ⟨msg, AssignMsg.reads.run_encode received rest, rfl⟩
  | complete msg =>
      exact run_map_eq_some.mpr ⟨msg, CompleteMsg.reads.run_encode received rest, rfl⟩
  | result msg => exact run_map_eq_some.mpr ⟨msg, ResultMsg.reads.run_encode received rest, rfl⟩
  | assignedReplicate msg =>
      exact run_map_eq_some.mpr ⟨msg, AssignedReplicationMsg.reads.run_encode received rest, rfl⟩
  | completedReplicate msg =>
      exact run_map_eq_some.mpr ⟨msg, CompletedReplicationMsg.reads.run_encode received rest, rfl⟩
  | heartbeat workerId | acknowledge workerId =>
      exact run_map_eq_some.mpr ⟨workerId, run_readWorkerId.mpr ⟨received, rfl⟩, rfl⟩
  | snapshot tasks => exact absurd rfl notSnapshot
  | topResponse msg =>
      exact run_map_eq_some.mpr ⟨msg, TopResponseMsg.reads.run_encode received rest, rfl⟩
  | register | peerReconnected | topRequest => rfl
  | unknown byte unnamed => rfl

/-- A reader returns nothing but what starts its input. -/
theorem eq_of_run {type : MessageType} (notSnapshot : type ≠ .snapshot)
    (ran : (deserialize type).run input = some (body, rest)) :
    body.Received ∧ input = body.serialize order ++ rest := by
  cases type with
  | submit =>
      obtain ⟨msg, ranBody, rfl⟩ := run_map_eq_some.mp ran
      exact (SubmitMsg.reads _ _ _).mp ranBody
  | assign =>
      obtain ⟨msg, ranBody, rfl⟩ := run_map_eq_some.mp ran
      exact (AssignMsg.reads _ _ _).mp ranBody
  | complete =>
      obtain ⟨msg, ranBody, rfl⟩ := run_map_eq_some.mp ran
      exact (CompleteMsg.reads _ _ _).mp ranBody
  | result =>
      obtain ⟨msg, ranBody, rfl⟩ := run_map_eq_some.mp ran
      exact (ResultMsg.reads _ _ _).mp ranBody
  | assignedReplicate =>
      obtain ⟨msg, ranBody, rfl⟩ := run_map_eq_some.mp ran
      exact (AssignedReplicationMsg.reads _ _ _).mp ranBody
  | completedReplicate =>
      obtain ⟨msg, ranBody, rfl⟩ := run_map_eq_some.mp ran
      exact (CompletedReplicationMsg.reads _ _ _).mp ranBody
  | heartbeat | acknowledge =>
      obtain ⟨workerId, ranBody, rfl⟩ := run_map_eq_some.mp ran
      exact run_readWorkerId.mp ranBody
  | snapshot => exact absurd rfl notSnapshot
  | topResponse =>
      obtain ⟨msg, ranBody, rfl⟩ := run_map_eq_some.mp ran
      exact (TopResponseMsg.reads _ _ _).mp ranBody
  | register | peerReconnected | topRequest =>
      obtain ⟨rfl, rfl⟩ := run_pure_eq_some.mp ran
      exact ⟨trivial, rfl⟩
  | other byte unnamed =>
      obtain ⟨rfl, rfl⟩ := run_pure_eq_some.mp ran
      exact ⟨trivial, rfl⟩

end Body

/-! ## Messages -/

namespace Message

/-- `Message::type_`. -/
def type (msg : Message) : MessageType :=
  msg.body.type

def serialize (order : List TaskId → List TaskId) (msg : Message) : Bytes :=
  List.flatten [writeU64 msg.epoch, msg.type.serialize, msg.body.serialize order]

def deserialize : BufferReader Message := do
  let epoch ← readU64
  let type ← MessageType.deserialize
  let body ← Body.deserialize type
  pure { epoch, body }

/-- The message with the fields that mean something for its task type only. -/
def payloadOnly (msg : Message) : Message :=
  { msg with body := msg.body.payloadOnly }

variable (order : List TaskId → List TaskId) {msg : Message} {input rest : Bytes}

/-- A message is read header first. -/
theorem run_deserialize : deserialize.run input = some (msg, rest) ↔
    ∃ bytes, input = writeU64 msg.epoch ++ (msg.type.serialize ++ bytes) ∧
      (Body.deserialize msg.type).run bytes = some (msg.body, rest) := by
  simp only [deserialize, run_bind_eq_some, run_pure_eq_some, run_readU64,
    MessageType.run_deserialize]
  constructor
  · rintro ⟨epoch, _, rfl, type, bytes, rfl, body, _, ranBody, rfl, rfl⟩
    obtain rfl := Body.type_of_run ranBody
    exact ⟨bytes, rfl, ranBody⟩
  · rintro ⟨bytes, rfl, ranBody⟩
    exact ⟨_, _, rfl, _, _, rfl, _, _, ranBody, rfl, rfl⟩

theorem serialize_append (msg : Message) (rest : Bytes) :
    msg.serialize order ++ rest =
      writeU64 msg.epoch ++ (msg.type.serialize ++ (msg.body.serialize order ++ rest)) := by
  simp [serialize]

/-- A message that a reader can return is read back from its encoding. -/
theorem run_serialize (notSnapshot : msg.type ≠ .snapshot) (received : msg.body.Received)
    (rest : Bytes) : deserialize.run (msg.serialize order ++ rest) = some (msg, rest) :=
  run_deserialize.mpr ⟨_, serialize_append order msg rest, Body.run_serialize order notSnapshot received rest⟩

/-- A reader returns nothing but what starts its input. -/
theorem eq_of_run (notSnapshot : msg.type ≠ .snapshot)
    (ran : deserialize.run input = some (msg, rest)) :
    msg.body.Received ∧ input = msg.serialize order ++ rest := by
  obtain ⟨bytes, rfl, ranBody⟩ := run_deserialize.mp ran
  obtain ⟨received, rfl⟩ := Body.eq_of_run order notSnapshot ranBody
  exact ⟨received, (serialize_append order msg rest).symm⟩

theorem type_payloadOnly (msg : Message) : msg.payloadOnly.type = msg.type :=
  Body.type_payloadOnly msg.body

theorem serialize_payloadOnly (msg : Message) :
    msg.payloadOnly.serialize order = msg.serialize order := by
  unfold serialize
  rw [type_payloadOnly]
  simp only [payloadOnly, Body.serialize_payloadOnly]

theorem run_serialize_payloadOnly (notSnapshot : msg.type ≠ .snapshot) (fits : msg.body.Fits)
    (rest : Bytes) :
    deserialize.run (msg.serialize order ++ rest) = some (msg.payloadOnly, rest) := by
  rw [← serialize_payloadOnly]
  refine run_serialize order ?_ (Body.received_payloadOnly fits) rest
  rwa [type_payloadOnly]

/-- What goes out in fewer than `2 ^ 32` bytes is accepted and used up, snapshots included. -/
theorem exists_run (workers : msg.body.WorkersFit) (short : (msg.serialize order).length < 2 ^ 32) :
    ∃ decoded, deserialize.run (msg.serialize order) = some (decoded, []) := by
  have shortBody : (msg.body.serialize order).length < 2 ^ 32 := by
    simp only [serialize, List.length_flatten, List.map_cons, List.sum_cons] at short
    omega
  have fits := Body.fits_payloadOnly order workers shortBody
  by_cases isSnapshot : msg.type = .snapshot
  · obtain ⟨epoch, body⟩ := msg
    cases body with
    | snapshot tasks =>
        obtain ⟨arrived, ran, _⟩ := TaskTable.run_deserialize order fits.1 fits.2 []
        refine ⟨⟨epoch, .snapshot arrived⟩, run_deserialize.mpr ⟨_, rfl, ?_⟩⟩
        exact run_map_eq_some.mpr ⟨arrived, ran, rfl⟩
    | _ => cases isSnapshot
  · have ran := @run_serialize_payloadOnly order msg.payloadOnly
      (type_payloadOnly msg ▸ isSnapshot) fits []
    rw [List.append_nil, serialize_payloadOnly] at ran
    exact ⟨_, ran⟩

/-- Two messages with encodings that start alike have the same type. -/
theorem type_eq_of_header {other : Message} {bytes otherBytes : Bytes}
    (same : writeU64 msg.epoch ++ (msg.type.serialize ++ bytes) =
      writeU64 other.epoch ++ (other.type.serialize ++ otherBytes)) : msg.type = other.type := by
  have afterEpoch := (List.append_inj same (by simp)).2
  have typeByte := (List.append_inj afterEpoch rfl).1
  exact MessageType.toByte_injective (List.cons.inj typeByte).1

/-- The reader fails on everything that is cut off. -/
theorem run_strictPart {part cut : Bytes} (notSnapshot : msg.type ≠ .snapshot)
    (fits : msg.body.Fits) (split : msg.serialize order = part ++ cut) (isCut : cut ≠ []) :
    deserialize.run part = none := by
  cases ran : deserialize.run part with
  | none => rfl
  | some decoded =>
      obtain ⟨other, left⟩ := decoded
      obtain ⟨bytes, header, _⟩ := run_deserialize.mp ran
      have whole := serialize_append order msg []
      rw [List.append_nil, split, header, List.append_assoc, List.append_assoc] at whole
      have sameType := type_eq_of_header whole
      -- The message that would be accepted is no snapshot either, so its encoding is known.
      have otherNotSnapshot : other.type ≠ .snapshot := sameType ▸ notSnapshot
      obtain ⟨received, rfl⟩ := eq_of_run order otherNotSnapshot ran
      have again := run_serialize order otherNotSnapshot received (left ++ cut)
      have complete := run_serialize_payloadOnly order notSnapshot fits []
      rw [List.append_nil, split, List.append_assoc, again] at complete
      have nothingLeft := (Prod.mk.inj (Option.some.inj complete)).2
      exact absurd (List.append_eq_nil_iff.mp nothingLeft).2 isCut

/-! ## Round trip and canonicity -/

/-- Decoding undoes encoding for every message that is not a snapshot, whatever follows it:
exactly the bytes of the message are taken, and the epoch, the type and all fields that mean
something for the task type come back. -/
theorem deserialize_serialize (msg : Message) (notSnapshot : msg.type ≠ .snapshot)
    (fits : msg.body.Fits) (rest : Bytes) :
    deserialize.run (msg.serialize order ++ rest) = some (msg.payloadOnly, rest) ∧
      msg.payloadOnly.epoch = msg.epoch ∧ msg.payloadOnly.type = msg.type :=
  ⟨run_serialize_payloadOnly order notSnapshot fits rest, rfl, type_payloadOnly msg⟩

/-- A `SUBMIT` of a word count. -/
def wordCountSubmit (text : Bytes) : Message where
  epoch := 3
  body := .submit { taskId := 7, clientId := 2, durationUs := 5, type := .wordCount, words := text }

theorem wordCountSubmit_read_back :
    deserialize.run ((wordCountSubmit [97]).serialize id ++ [1]) =
      some ((wordCountSubmit [97]).payloadOnly, [1]) ∧
    (wordCountSubmit [97]).payloadOnly.epoch = 3 ∧
    (wordCountSubmit [97]).payloadOnly.type = .submit :=
  deserialize_serialize id (wordCountSubmit [97]) nofun (by decide : 1 < 2 ^ 32) [1]

/-- The format is canonical and no message is the beginning of another: what is accepted as
a message that is not a snapshot starts with the encoding of that message, and nothing that
is cut off is accepted. -/
theorem serialize_canonical :
    (∀ input msg rest, deserialize.run input = some (msg, rest) → msg.type ≠ .snapshot →
      input = msg.serialize order ++ rest) ∧
    ∀ msg : Message, msg.type ≠ .snapshot → msg.body.Fits →
      ∀ part, part <+: msg.serialize order → part ≠ msg.serialize order →
        deserialize.run part = none := by
  constructor
  · intro input msg rest ran notSnapshot
    exact (eq_of_run order notSnapshot ran).2
  · rintro msg notSnapshot fits part ⟨cut, split⟩ strict
    refine run_strictPart order notSnapshot fits split.symm fun noCut => strict ?_
    rw [← split, noCut, List.append_nil]

/-- Applied to a message of unknown type, which is all header, and to a text without its
last byte. -/
theorem truncated_text_refused :
    (⟨1, .unknown 200 (by decide)⟩ : Message).serialize id = [0, 0, 0, 0, 0, 0, 0, 1, 200] ∧
    deserialize.run ((wordCountSubmit [97, 98]).serialize id).dropLast = none := by
  obtain ⟨canonical, refused⟩ := serialize_canonical id
  refine ⟨?_, refused (wordCountSubmit [97, 98]) nofun (by decide : 2 < 2 ^ 32) _
    (List.dropLast_prefix _) (by decide +kernel)⟩
  have input := canonical [0, 0, 0, 0, 0, 0, 0, 1, 200] ⟨1, .unknown 200 (by decide)⟩ []
    (by rfl) nofun
  rw [List.append_nil] at input
  exact input.symm

end Message

end TaskCoordinator
