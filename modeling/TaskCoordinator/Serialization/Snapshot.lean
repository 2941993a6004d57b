import TaskCoordinator.Coordinator.Replication
import TaskCoordinator.Serialization.Bodies

/-!
# Snapshots on the wire

`Task::serialize` and the task table of a `SNAPSHOT`.  The table is written in the order in
which the hash map is iterated, and rebuilt by insertion.

The case of a word count is commented out on both sides, so that a snapshot carries no
texts.  `AssignedReplicationMsg`, which carries the same tasks one by one, has them.
-/

namespace TaskCoordinator

open Wire Serialization

variable {input rest : Bytes}

/-! ## Tasks -/

def TaskState.toByte : TaskState → UInt8
  | .queued => 0
  | .running => 1
  | .completed => 2
  | .other byte _ => byte

def TaskState.ofByte (byte : UInt8) : TaskState :=
  if unnamed : 2 < byte then .other byte unnamed
  else if byte = 0 then .queued
  else if byte = 1 then .running
  else .completed

@[simp] theorem TaskState.ofByte_toByte (state : TaskState) : ofByte state.toByte = state := by
  cases state with
  | queued => rfl
  | running => rfl
  | completed => rfl
  | other byte unnamed => simp [toByte, ofByte, unnamed]

def TaskState.deserialize : BufferReader TaskState :=
  TaskState.ofByte <$> readU8

namespace Task

/-- The duration takes 64 bits on the wire. -/
def writePayload (task : Task) : Bytes :=
  match task.type with
  | .synthetic => writeU64 task.durationUs.toUInt64
  | .wordCount | .other _ _ => []

def readPayload : TaskType → BufferReader UInt32
  | .synthetic => UInt64.toUInt32 <$> readU64
  | .wordCount | .other _ _ => pure 0

def serialize (task : Task) : Bytes :=
  List.flatten
    [writeU64 task.id, task.type.serialize, writeU8 task.state.toByte, writeU32 task.clientId,
      writeWorkerId task.workerId, writeU64 task.queuedAt, writeU64 task.startedAt,
      writeU64 task.completedAt, writeU8 task.success, writeU32 task.result, task.writePayload]

theorem length_serialize_pos (task : Task) : 0 < task.serialize.length := by
  simp [serialize]

def deserialize : BufferReader Task := do
  let id ← readU64
  let type ← TaskType.deserialize
  let state ← TaskState.deserialize
  let clientId ← readU32
  let workerId ← readWorkerId
  let queuedAt ← readU64
  let startedAt ← readU64
  let completedAt ← readU64
  let success ← readU8
  let result ← readU32
  let durationUs ← readPayload type
  pure { id, type, state, clientId, workerId, queuedAt, startedAt, completedAt, success, result,
         durationUs }

theorem run_readPayload (task : Task) (rest : Bytes) :
    (readPayload task.type).run (task.writePayload ++ rest) =
      some (task.onWire.durationUs, rest) := by
  unfold readPayload writePayload
  cases type : task.type with
  | synthetic =>
      refine run_map_eq_some.mpr ⟨_, run_readU64.mpr rfl, ?_⟩
      simp [type]
  | wordCount =>
      exact run_pure_eq_some.mpr ⟨by simp [type], rfl⟩
  | other byte unnamed =>
      exact run_pure_eq_some.mpr ⟨by simp [type], rfl⟩

theorem run_deserializeState (state : TaskState) (rest : Bytes) :
    TaskState.deserialize.run (writeU8 state.toByte ++ rest) = some (state, rest) := by
  exact run_map_eq_some.mpr ⟨_, run_readU8.mpr rfl, TaskState.ofByte_toByte state⟩

/-- A task arrives without its text. -/
theorem run_deserialize {task : Task} (fits : task.workerId < 2 ^ 32) (rest : Bytes) :
    deserialize.run (task.serialize ++ rest) = some (task.onWire, rest) := by
  simp only [deserialize, serialize, run_bind_eq_some, run_pure_eq_some, run_readU64, run_readU32,
    run_readU8, run_readWorkerId, TaskType.run_deserialize, List.flatten_cons, List.flatten_nil,
    List.append_nil, List.append_assoc]
  exact ⟨_, _, rfl, _, _, rfl, _, _, run_deserializeState _ _, _, _, rfl, _, _, ⟨fits, rfl⟩,
    _, _, rfl, _, _, rfl, _, _, rfl, _, _, rfl, _, _, rfl, _, _, run_readPayload task rest, rfl,
    rfl⟩

end Task

/-! ## Task tables -/

namespace TaskTable

/-- The tasks in the order in which the map is iterated. -/
def visited (order : List TaskId → List TaskId) (table : TaskTable) : List Task :=
  (Unordered.arrange order table.ids).filterMap table.find?

/-- `tasks_.emplace(task.id_, task)`, which keeps a task that is there already. -/
def emplace (table : TaskTable) (task : Task) : TaskTable :=
  match table.find? task.id with
  | some _ => table
  | none => table.set task

/-- `SnapshotMsg::serialize`. -/
def serialize (order : List TaskId → List TaskId) (table : TaskTable) : Bytes :=
  List.flatten
    [writeU32 (UInt32.ofNat table.ids.length), (table.visited order).flatMap Task.serialize]

/-- `SnapshotMsg::deserialize`. -/
def deserialize : BufferReader TaskTable := do
  let numTasks ← readU32
  let tasks ← many Task.deserialize numTasks.toNat
  pure (tasks.foldl emplace .empty)

variable {table : TaskTable}

theorem mem_visited {order : List TaskId → List TaskId} {task : Task} :
    task ∈ table.visited order ↔ table.find? task.id = some task := by
  simp only [visited, List.mem_filterMap, (Unordered.arrange_perm order table.ids).mem_iff]
  constructor
  · rintro ⟨id, _, found⟩
    rwa [id_of_find? found]
  · intro found
    exact ⟨task.id, mem_ids.mpr ⟨task, found⟩, found⟩

/-- Every task is visited once. -/
theorem visited_ids (order : List TaskId → List TaskId) (table : TaskTable) :
    (table.visited order).map Task.id = Unordered.arrange order table.ids := by
  have known : ∀ id ∈ Unordered.arrange order table.ids, ∃ task, table.find? id = some task :=
    fun id member => mem_ids.mp ((Unordered.arrange_perm order table.ids).mem_iff.mp member)
  unfold visited
  generalize Unordered.arrange order table.ids = ids at known
  induction ids with
  | nil => rfl
  | cons id rest ih =>
      obtain ⟨task, found⟩ := known id (by simp)
      rw [List.filterMap_cons_some found, List.map_cons, id_of_find? found,
        ih fun other member => known other (by simp [member])]

theorem length_visited (order : List TaskId → List TaskId) (table : TaskTable) :
    (table.visited order).length = table.ids.length := by
  rw [← List.length_map Task.id, visited_ids]
  exact (Unordered.arrange_perm order table.ids).length_eq

theorem nodup_visited (order : List TaskId → List TaskId) (table : TaskTable) :
    ((table.visited order).map Task.id).Nodup := by
  rw [visited_ids]
  exact (Unordered.arrange_perm order table.ids).nodup_iff.mpr table.entries.keys_nodup

/-- Tasks with different ids are all inserted, and leave the others. -/
theorem find?_emplaceAll {tasks : List Task} (distinct : (tasks.map Task.id).Nodup)
    (fresh : ∀ task ∈ tasks, table.find? task.id = none) :
    (∀ task ∈ tasks, (tasks.foldl emplace table).find? task.id = some task) ∧
    ∀ id, (∀ task ∈ tasks, task.id ≠ id) →
      (tasks.foldl emplace table).find? id = table.find? id := by
  induction tasks generalizing table with
  | nil => simp
  | cons task rest ih =>
      rw [List.map_cons, List.nodup_cons] at distinct
      have apart : ∀ other ∈ rest, other.id ≠ task.id := by
        intro other member same
        exact distinct.1 (List.mem_map.mpr ⟨other, member, same⟩)
      have inserted : table.emplace task = table.set task := by
        simp [emplace, fresh task (by simp)]
      have freshRest : ∀ other ∈ rest, (table.emplace task).find? other.id = none := by
        intro other member
        rw [inserted, find?_set, if_neg (apart other member), fresh other (by simp [member])]
      obtain ⟨present, absent⟩ := ih distinct.2 freshRest
      rw [List.foldl_cons]
      constructor
      · intro other member
        rcases List.mem_cons.mp member with rfl | member
        · rw [absent other.id apart, inserted, find?_set_self]
        · exact present other member
      · intro id different
        rw [absent id fun other member => different other (by simp [member]), inserted, find?_set,
          if_neg (Ne.symm (different task (by simp)))]

/-- A table arrives with all its tasks, each without its text. -/
theorem run_deserialize (order : List TaskId → List TaskId)
    (small : table.ids.length < 2 ^ 32)
    (fits : ∀ id task, table.find? id = some task → task.workerId < 2 ^ 32) (rest : Bytes) :
    ∃ arrived, deserialize.run (table.serialize order ++ rest) = some (arrived, rest) ∧
      ∀ id, arrived.find? id = (table.find? id).map Task.onWire := by
  have tasks : ∀ task ∈ table.visited order, ∀ rest,
      Task.deserialize.run (task.serialize ++ rest) = some (task.onWire, rest) :=
    fun task member rest => Task.run_deserialize (fits _ task (mem_visited.mp member)) rest
  have counted : (UInt32.ofNat table.ids.length).toNat = (table.visited order).length := by
    rw [length_visited]
    exact UInt32.toNat_ofNat_of_lt' small
  have distinct : (((table.visited order).map Task.onWire).map Task.id).Nodup := by
    rw [List.map_map]
    exact nodup_visited order table
  obtain ⟨present, absent⟩ := find?_emplaceAll distinct fun task _ => find?_empty task.id
  refine ⟨((table.visited order).map Task.onWire).foldl emplace .empty, ?_, fun id => ?_⟩
  · simp only [serialize, List.flatten_cons, List.flatten_nil, List.append_nil, List.append_assoc]
    refine run_bind_eq_some.mpr ⟨_, _, run_readU32.mpr rfl, ?_⟩
    rw [counted]
    exact run_bind_eq_some.mpr ⟨_, _, run_many tasks rest, rfl⟩
  · cases found : table.find? id with
    | some task =>
        have sameId := id_of_find? found
        have member : task ∈ table.visited order := mem_visited.mpr (sameId ▸ found)
        have arrived := present task.onWire (List.mem_map_of_mem member)
        rwa [Task.onWire_id, sameId] at arrived
    | none =>
        refine absent id fun task member => ?_
        obtain ⟨sent, isSent, rfl⟩ := List.mem_map.mp member
        rw [Task.onWire_id]
        rintro rfl
        rw [mem_visited.mp isSent] at found
        cases found

end TaskTable

/-! ## What a snapshot carries -/

theorem Task.onWire_eq_iff (task : Task) :
    task.onWire = task ↔ task.words = [] ∧ (task.type ≠ .synthetic → task.durationUs = 0) := by
  obtain ⟨_, _, _, _, _, _, _, _, type, _, _, words⟩ := task
  by_cases synthetic : type = .synthetic
  · simp [Task.onWire, synthetic, eq_comm]
  · simp [Task.onWire, synthetic, eq_comm, and_comm]

/-- The `ASSIGN` for a task that has arrived is the one for the task that was sent, unless
the payload is a text. -/
theorem Coordinator.assignMessage_onWire_iff (s : Coordinator) (task : Task) :
    s.assignMessage task.onWire = s.assignMessage task ↔
      (task.type = .wordCount → task.words = []) := by
  obtain ⟨_, _, _, _, _, _, _, _, type, _, _, words⟩ := task
  cases type with
  | synthetic => simp [Task.onWire, Coordinator.assignMessage]
  | wordCount => simp [Task.onWire, Coordinator.assignMessage, eq_comm]
  | other byte unnamed => simp [Task.onWire, Coordinator.assignMessage]

namespace TaskTable

/-- Every task of the first table is in the second, and would be assigned with the same
message. -/
def SamePayloads (table arrived : TaskTable) : Prop :=
  ∀ id sent, table.find? id = some sent → ∃ received, arrived.find? id = some received ∧
    ∀ s : Coordinator, s.assignMessage received = s.assignMessage sent

/-- The table that is read back from a snapshot is the one that was sent, and its tasks would
be assigned with the same messages. -/
def Carried (order : List TaskId → List TaskId) (table : TaskTable) : Prop :=
  ∃ arrived, deserialize.run (table.serialize order) = some (arrived, []) ∧
    (∀ id, arrived.find? id = table.find? id) ∧ table.SamePayloads arrived

theorem samePayloads_onWire_iff {table arrived : TaskTable}
    (onWire : ∀ id, arrived.find? id = (table.find? id).map Task.onWire) :
    table.SamePayloads arrived ↔
      ∀ id task, table.find? id = some task → task.type = .wordCount → task.words = [] := by
  constructor
  · intro same id task found
    obtain ⟨received, foundAgain, message⟩ := same id task found
    rw [onWire, found] at foundAgain
    cases foundAgain
    exact (Coordinator.assignMessage_onWire_iff .init task).mp (message .init)
  · intro noTexts id task found
    refine ⟨task.onWire, by rw [onWire, found]; rfl, fun s => ?_⟩
    exact (Coordinator.assignMessage_onWire_iff s task).mpr (noTexts id task found)

theorem sameTasks_onWire_iff {table arrived : TaskTable}
    (onWire : ∀ id, arrived.find? id = (table.find? id).map Task.onWire) :
    (∀ id, arrived.find? id = table.find? id) ↔
      ∀ id task, table.find? id = some task →
        task.words = [] ∧ (task.type ≠ .synthetic → task.durationUs = 0) := by
  constructor
  · intro same id task found
    have kept := same id
    rw [onWire, found] at kept
    exact (Task.onWire_eq_iff task).mp (Option.some.inj kept)
  · intro noOthers id
    rw [onWire]
    cases found : table.find? id with
    | none => rfl
    | some task => exact congrArg some ((Task.onWire_eq_iff task).mpr (noOthers id task found))

/-- A snapshot carries the table exactly when no task in it has a text and only synthetic
tasks have a duration.  It carries the payloads for the assignments exactly when the texts of
all word counts are empty. -/
theorem carried_iff {order : List TaskId → List TaskId} {table : TaskTable}
    (small : table.ids.length < 2 ^ 32)
    (fits : ∀ id task, table.find? id = some task → task.workerId < 2 ^ 32) :
    (table.Carried order ↔ ∀ id task, table.find? id = some task →
      task.words = [] ∧ (task.type ≠ .synthetic → task.durationUs = 0)) ∧
    ((∃ arrived, deserialize.run (table.serialize order) = some (arrived, []) ∧
        table.SamePayloads arrived) ↔
      ∀ id task, table.find? id = some task → task.type = .wordCount → task.words = []) := by
  obtain ⟨arrived, ran, onWire⟩ := run_deserialize order small fits []
  rw [List.append_nil] at ran
  refine ⟨⟨?_, fun noOthers => ?_⟩, ?_, fun noTexts => ?_⟩
  · rintro ⟨again, ranAgain, same, _⟩
    rw [ran] at ranAgain
    cases ranAgain
    exact (sameTasks_onWire_iff onWire).mp same
  · refine ⟨arrived, ran, (sameTasks_onWire_iff onWire).mpr noOthers, ?_⟩
    exact (samePayloads_onWire_iff onWire).mpr fun id task found _ => (noOthers id task found).1
  · rintro ⟨again, ranAgain, same⟩
    rw [ran] at ranAgain
    cases ranAgain
    exact (samePayloads_onWire_iff onWire).mp same
  · exact ⟨arrived, ran, (samePayloads_onWire_iff onWire).mpr noTexts⟩

/-- A table with a synthetic task and a word count of the given text. -/
def twoTasks (text : Bytes) : TaskTable :=
  (TaskTable.empty.set { id := 1, state := .running, durationUs := 100 }).set
    { id := 2, type := .wordCount, words := text }

theorem find?_twoTasks {text : Bytes} {id : TaskId} {task : Task}
    (found : (twoTasks text).find? id = some task) :
    task = { id := 2, type := .wordCount, words := text } ∨
      task = { id := 1, state := .running, durationUs := 100 } := by
  simp only [twoTasks, find?_set, find?_empty] at found
  split at found
  next => exact .inl (Option.some.inj found).symm
  next =>
    split at found
    next => exact .inr (Option.some.inj found).symm
    next => cases found

theorem twoTasks_workers {text : Bytes} {id : TaskId} {task : Task}
    (found : (twoTasks text).find? id = some task) : task.workerId < 2 ^ 32 := by
  rcases find?_twoTasks found with rfl | rfl
  · exact Nat.two_pow_pos 32
  · exact Nat.two_pow_pos 32

theorem twoTasks_carried : (twoTasks []).Carried List.reverse := by
  refine (carried_iff (by decide) fun _ _ => twoTasks_workers).1.mpr fun id task found => ?_
  rcases find?_twoTasks found with rfl | rfl
  · exact ⟨rfl, fun _ => rfl⟩
  · exact ⟨rfl, fun other => absurd rfl other⟩

/-- The text of a word count is lost, and the task would be assigned without it. -/
theorem text_lost :
    (twoTasks [97, 32, 98]).ids.length < 2 ^ 32 ∧
    (∀ id task, (twoTasks [97, 32, 98]).find? id = some task →
      task.workerId < 2 ^ 32 ∧ task.words.length < 2 ^ 32) ∧
    ((twoTasks [97, 32, 98]).find? 2).map Task.words = some [97, 32, 98] ∧
    ((deserialize.run ((twoTasks [97, 32, 98]).serialize id)).bind
      fun arrived => arrived.1.find? 2).map Task.words = some [] ∧
    ¬ (twoTasks [97, 32, 98]).Carried id := by
  refine ⟨by decide, fun id task found => ⟨twoTasks_workers found, ?_⟩, by decide,
    by decide +kernel, fun carried => ?_⟩
  · rcases find?_twoTasks found with rfl | rfl <;> decide
  · obtain ⟨arrived, ran, same, _⟩ := carried
    have lost : (arrived.find? 2).map Task.words = some [] := by
      have evaluated : ((deserialize.run ((twoTasks [97, 32, 98]).serialize id)).bind
          fun arrived => arrived.1.find? 2).map Task.words = some [] := by
        decide +kernel
      rw [ran] at evaluated
      exact evaluated
    rw [same] at lost
    exact absurd lost (by decide)

end TaskTable

end TaskCoordinator
