import TaskCoordinator.Coordinator.Safety
import TaskCoordinator.Net.Receiving

/-!
# Snapshots as frames

The task table is never pruned and a snapshot carries all of it in one frame, while the
receiver refuses frames above `MAX_MESSAGE_SIZE`.  The size of a snapshot is 13 bytes, 47 for
every task and 8 more for every synthetic one, so that a coordinator that has seen enough
tasks pushes snapshots that its peer cannot receive.
-/

namespace TaskCoordinator

open Wire Transfer Serialization Transition

/-! ## The size of a snapshot -/

theorem Task.length_serialize (task : Task) :
    task.serialize.length = 47 + if task.type = .synthetic then 8 else 0 := by
  unfold serialize writePayload
  cases task.type <;> simp [TaskType.serialize, writeU8, writeWorkerId]

namespace TaskTable

theorem ids_set_of_fresh {table : TaskTable} {task : Task} (fresh : task.id ∉ table.ids) :
    (table.set task).ids = task.id :: table.ids := by
  unfold ids set at *
  rw [AList.keys_insert, List.erase_of_not_mem fresh]

def synthetic (table : TaskTable) (id : TaskId) : Bool :=
  (table.find? id).any fun task => task.type = .synthetic

def syntheticCount (table : TaskTable) : Nat :=
  table.ids.countP table.synthetic

/-- The size of the payload of a snapshot, with the epoch, the type and the number of tasks. -/
def snapshotSize (table : TaskTable) : Nat :=
  13 + 47 * table.ids.length + 8 * table.syntheticCount

theorem length_flatMap_serialize (tasks : List Task) :
    (tasks.flatMap Task.serialize).length =
      47 * tasks.length + 8 * tasks.countP fun task => task.type = .synthetic := by
  induction tasks with
  | nil => rfl
  | cons task tasks ih =>
      rw [List.flatMap_cons, List.length_append, ih, Task.length_serialize, List.length_cons,
        List.countP_cons]
      simp only [decide_eq_true_eq]
      split <;> omega

theorem countP_visited (order : List TaskId → List TaskId) (table : TaskTable) :
    ((table.visited order).countP fun task => task.type = .synthetic) = table.syntheticCount := by
  rw [visited, List.countP_filterMap, syntheticCount,
    ← (Unordered.arrange_perm order table.ids).countP_eq]
  congr 1
  funext id
  unfold synthetic
  cases table.find? id <;> rfl

/-- The order in which the table is visited does not matter. -/
theorem length_snapshot (order : List TaskId → List TaskId) (epoch : UInt64) (table : TaskTable) :
    (Message.serialize order ⟨epoch, .snapshot table⟩).length = table.snapshotSize := by
  simp only [Message.serialize, MessageType.serialize, Body.serialize, serialize, writeU8,
    List.length_flatten, List.map_cons, List.map_nil, List.sum_cons, List.sum_nil, length_writeU64,
    length_writeU32, length_flatMap_serialize, length_visited, countP_visited, snapshotSize,
    List.length_singleton]
  omega

end TaskTable

/-! ## What the peer accepts -/

namespace Net

/-- The header of the frame of a message is the size of its payload, and a peer that reads it
does not refuse it. -/
structure Receivable (order : List TaskId → List TaskId) (msg : Message) : Prop where
  sized : 4 + (announced (prepareSendBuffer order msg)).toNat = (prepareSendBuffer order msg).length
  accepted : ∀ rest outcomes header pending,
    (getPayloadSize (prepareSendBuffer order msg ++ rest)).run outcomes = some (header, pending) →
      header.status ≠ -3

variable {order : List TaskId → List TaskId} {msg : Message}

theorem announced_prepareSendBuffer (order : List TaskId → List TaskId) (msg : Message)
    (rest : Bytes) :
    announced (prepareSendBuffer order msg ++ rest) =
      UInt32.ofNat (msg.serialize order).length := by
  rw [prepareSendBuffer_eq]
  exact announced_frame _ _

theorem whole_prepareSendBuffer (order : List TaskId → List TaskId) (msg : Message)
    (rest : Bytes) :
    4 ≤ (prepareSendBuffer order msg ++ rest).length := by
  rw [List.length_append, length_prepareSendBuffer]
  omega

/-- A size that the header states and that is above the limit is refused as soon as the header
has been read. -/
theorem not_receivable_of_exceeds (exceeds : 2 ^ 27 < (msg.serialize order).length) :
    ¬ Receivable order msg := by
  intro receivable
  have sized := receivable.sized
  have announcesAlone := announced_prepareSendBuffer order msg []
  rw [List.append_nil] at announcesAlone
  rw [announcesAlone, length_prepareSendBuffer] at sized
  have above : maxMessageSize < announced (prepareSendBuffer order msg ++ []) := by
    rw [announced_prepareSendBuffer, UInt32.lt_iff_toNat_lt]
    change 2 ^ 27 < _
    omega
  have steady : Steady (List.replicate 4 (.moved 1)) := by simp [Steady]
  have reads := getPayloadSize_reads (whole_prepareSendBuffer order msg [])
  obtain ⟨header, pending, ran⟩ := reads.exists_run steady (by decide)
  have isHeader := reads.good_of_run steady ran
  refine receivable.accepted [] _ header pending ran ?_
  rw [isHeader]
  exact headerOf_invalid (.inr above)

theorem receivable_of_le (small : (msg.serialize order).length ≤ 2 ^ 27) :
    Receivable order msg := by
  have positive := length_serialize_pos order msg
  have size : (UInt32.ofNat (msg.serialize order).length).toNat =
      (msg.serialize order).length :=
    UInt32.toNat_ofNat_of_lt' (Nat.lt_of_le_of_lt small (by norm_num))
  constructor
  · have announcesAlone := announced_prepareSendBuffer order msg []
    rw [List.append_nil] at announcesAlone
    rw [announcesAlone, size, length_prepareSendBuffer]
  · intro rest outcomes header pending ran
    rcases getPayloadSize_cuts (.inl (whole_prepareSendBuffer order msg rest)) ran with
      failed | ⟨timedOut, _⟩ | ⟨_, isHeader⟩
    · omega
    · omega
    · have valid : ¬ (announced (prepareSendBuffer order msg ++ rest) = 0 ∨
          maxMessageSize < announced (prepareSendBuffer order msg ++ rest)) := by
        rw [announced_prepareSendBuffer, ← UInt32.toNat_inj, UInt32.lt_iff_toNat_lt, size,
          UInt32.toNat_zero]
        change ¬ (_ ∨ 2 ^ 27 < _)
        omega
      have accepted : header.status = 1 := by
        rw [isHeader]
        exact headerOf_valid valid
      omega

theorem receivable_iff :
    Receivable order msg ↔ (msg.serialize order).length ≤ 2 ^ 27 := by
  constructor
  · intro receivable
    by_contra exceeds
    exact not_receivable_of_exceeds (Nat.not_le.mp exceeds) receivable
  · exact receivable_of_le

end Net

/-! ## Snapshots that cannot be received -/

namespace Coordinator

open Net

/-- The snapshot that a primary pushes when its peer has reconnected can be received exactly
when its 13 bytes, 47 for every task and 8 for every synthetic task are within the limit. -/
theorem snapshot_receivable_iff (s : Coordinator) (env : Env) (primary : s.isPrimary = true)
    (room : env.accepts = true) (order : List TaskId → List TaskId) :
    ∃ sent, (s.processPeerReconnected env).outgoingQueue = s.outgoingQueue ++ [sent] ∧
      sent.msg = ⟨s.currentEpoch + 1, .snapshot s.tasks⟩ ∧
      (Receivable order sent.msg ↔
        13 + 47 * s.tasks.ids.length + 8 * s.tasks.syntheticCount ≤ 2 ^ 27) := by
  refine ⟨{ msg := s.snapshotMessage }, ?_, rfl, ?_⟩
  · simp only [processPeerReconnected, primary, room, if_true]
    rfl
  · rw [receivable_iff, snapshotMessage, TaskTable.length_snapshot]
    rfl

/-- A primary with the tasks 0 and 1, one of either type. -/
theorem small_snapshot_receivable :
    ∃ s, run [.submit 5 { taskId := 0 } {},
        .submit 5 { taskId := 1, type := .wordCount, words := [97] } {}] = .ok s ∧
      ∃ sent, (s.processPeerReconnected {}).outgoingQueue = s.outgoingQueue ++ [sent] ∧
        Receivable id sent.msg := by
  have evaluated : ∃ s, run [.submit 5 { taskId := 0 } {},
        .submit 5 { taskId := 1, type := .wordCount, words := [97] } {}] = .ok s ∧
      s.isPrimary = true ∧ 13 + 47 * s.tasks.ids.length + 8 * s.tasks.syntheticCount ≤ 2 ^ 27 := by
    decide +kernel
  obtain ⟨s, ran, primary, small⟩ := evaluated
  obtain ⟨sent, pushed, _, receivable⟩ := snapshot_receivable_iff s {} primary rfl id
  exact ⟨s, ran, sent, pushed, receivable.mpr small⟩

/-- Synthetic tasks with the ids below `count`. -/
def submissions (count : Nat) : List Event :=
  (List.range count).map fun number => .submit 5 { taskId := UInt64.ofNat number } {}

/-- A coordinator without workers that has accepted `count` synthetic tasks. -/
structure Holds (count : Nat) (s : Coordinator) : Prop where
  sound : s.Sound
  noneActive : s.activeWorkers = []
  counted : s.tasks.ids.length = count
  numbered : ∀ id ∈ s.tasks.ids, id.toNat < count
  allSynthetic : ∀ id ∈ s.tasks.ids, s.tasks.synthetic id = true
  primary : 0 < count → s.isPrimary = true

variable {s s' : Coordinator} {count : Nat}

theorem Holds.next (holds : Holds count s) (small : count < 2 ^ 64) :
    ∃ next, s.step (.submit 5 { taskId := UInt64.ofNat count } {}) = .ok next ∧
      Holds (count + 1) next := by
  have admitted : s.LocalEvent (.submit 5 { taskId := UInt64.ofNat count } {}) := trivial
  obtain ⟨next, stepped⟩ := sound_progresses s _ holds.sound admitted
  refine ⟨next, stepped, ?_⟩
  have sound := sound_preserved s _ next holds.sound admitted stepped
  obtain ⟨middle, received, moves⟩ := step_spec stepped
  have sameTasks : next.tasks = middle.tasks :=
    keeps_of_quiet_moves tasks (fun _ => rfl) id id moves
  have sameActive : next.activeWorkers = middle.activeWorkers :=
    keeps_of_quiet_moves activeWorkers (fun _ => rfl) id id moves
  have sameRole : next.isPrimary = middle.isPrimary :=
    keeps_of_quiet_moves isPrimary (fun _ => rfl) id id moves
  have value : (UInt64.ofNat count).toNat = count := UInt64.toNat_ofNat_of_lt' small
  have fresh : UInt64.ofNat count ∉ s.tasks.ids := by
    intro member
    have below := holds.numbered _ member
    omega
  cases received with
  | submitAssigned now offers =>
      have active := offers.active
      rw [holds.noneActive] at active
      cases active
  | submitQueued =>
      have table : next.tasks = s.tasks.set
          (SubmitMsg.task { taskId := UInt64.ofNat count } (Env.now {})) := sameTasks
      have ids : next.tasks.ids = UInt64.ofNat count :: s.tasks.ids := by
        rw [table, TaskTable.ids_set_of_fresh (by simpa using fresh)]
        simp
      have synthetic : ∀ id ∈ next.tasks.ids, next.tasks.synthetic id = true := by
        intro id member
        rw [TaskTable.synthetic, table, TaskTable.find?_set]
        split
        next => rfl
        next different =>
          rw [ids, List.mem_cons] at member
          exact holds.allSynthetic id (member.resolve_left (by simpa using different))
      exact {
        sound
        noneActive := sameActive.trans holds.noneActive
        counted := by rw [ids, List.length_cons, holds.counted]
        numbered := by
          intro id member
          rw [ids, List.mem_cons] at member
          rcases member with rfl | member
          · omega
          · exact Nat.lt_succ_of_lt (holds.numbered id member)
        allSynthetic := synthetic
        primary := fun _ => sameRole }

theorem holds_submissions (small : count ≤ 2 ^ 64) :
    ∃ s, run (submissions count) = .ok s ∧ Holds count s := by
  induction count with
  | zero =>
      refine ⟨init, rfl, sound_init, rfl, rfl, ?_, ?_, nofun⟩
      · simp [init]
      · simp [init]
  | succ count ih =>
      obtain ⟨s, ran, holds⟩ := ih (by omega)
      obtain ⟨next, stepped, holdsNext⟩ := holds.next (by omega)
      refine ⟨next, ?_, holdsNext⟩
      rw [submissions, List.range_succ, List.map_append]
      exact run_append_eq_ok.mpr ⟨s, ran, run_singleton.trans stepped⟩

theorem Holds.syntheticCount (holds : Holds count s) : s.tasks.syntheticCount = count := by
  rw [TaskTable.syntheticCount, List.countP_eq_length.mpr holds.allSynthetic, holds.counted]

/-- After 2440323 synthetic tasks the snapshot has 134217778 bytes, 50 more than the peer
accepts. -/
theorem large_snapshot_refused :
    ∃ s, run (submissions 2440323) = .ok s ∧
      ∃ sent, (s.processPeerReconnected {}).outgoingQueue = s.outgoingQueue ++ [sent] ∧
        sent.msg.body = .snapshot s.tasks ∧ ∀ order, ¬ Receivable order sent.msg := by
  have small : 2440323 ≤ 2 ^ 64 := by norm_num
  obtain ⟨s, ran, holds⟩ := holds_submissions small
  have primary : s.isPrimary = true := holds.primary (by norm_num)
  refine ⟨s, ran, { msg := s.snapshotMessage }, ?_, rfl, fun order receivable => ?_⟩
  · simp only [processPeerReconnected, primary, if_true]
    rfl
  · have size := receivable_iff.mp receivable
    rw [snapshotMessage, TaskTable.length_snapshot, TaskTable.snapshotSize, holds.counted,
      holds.syntheticCount] at size
    omega

end Coordinator

end TaskCoordinator
