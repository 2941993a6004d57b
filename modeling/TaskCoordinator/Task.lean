import Mathlib

/-!
# Tasks and the task table

The records of `task.hpp`.  Identifiers and clock readings have the widths of the source.
A text is a list of bytes.

A worker id is a position in the coordinator's `workers_states_` vector and is a natural
number here.  The source stores it in 32 bits, which holds every position of a table of
fewer than 2 ^ 32 workers: see `Coordinator.no_index_wraps`.

The coordinator keeps its tasks in an `unordered_map` keyed by the task id.  Every write
of the source stores a task under its own id, and `TaskTable` carries that fact.
-/

namespace TaskCoordinator

abbrev TaskId := UInt64
abbrev ClientId := UInt32
abbrev WorkerId := Nat
abbrev Fd := Int

/-- Readings of `utils::now_ns_u64`. -/
abbrev Nanoseconds := UInt64

/-- The kind of work.  The source casts any byte to this enumeration, so a byte without a
name is kept as it is. -/
inductive TaskType where
  | synthetic
  | wordCount
  | other (byte : UInt8) (unnamed : 1 < byte)
  deriving DecidableEq, Repr

/-- The type has a name. -/
def TaskType.Known : TaskType → Prop
  | .synthetic | .wordCount => True
  | .other _ _ => False

instance : DecidablePred TaskType.Known
  | .synthetic | .wordCount => isTrue trivial
  | .other _ _ => isFalse id

/-- Where a task stands.  A byte without a name is kept here too. -/
inductive TaskState where
  | queued
  | running
  | completed
  | other (byte : UInt8) (unnamed : 2 < byte)
  deriving DecidableEq, Repr

/-- The state has a name. -/
def TaskState.Named : TaskState → Prop
  | .queued | .running | .completed => True
  | .other _ _ => False

/-- One task record. -/
structure Task where
  id : TaskId := 0
  queuedAt : Nanoseconds := 0
  startedAt : Nanoseconds := 0
  completedAt : Nanoseconds := 0
  clientId : ClientId := 0
  workerId : WorkerId := 0
  result : UInt32 := 0
  success : UInt8 := 0
  type : TaskType := .synthetic
  state : TaskState := .queued
  durationUs : UInt32 := 0
  words : List UInt8 := []
  deriving DecidableEq, Repr

/-- The constructor of the source: a queued task stamped with the time `now`. -/
def Task.create (id : TaskId) (clientId : ClientId) (type : TaskType) (now : Nanoseconds) :
    Task :=
  { id, clientId, type, queuedAt := now, state := .queued }

/-- The map from task ids to tasks.  Every task is stored under its own id. -/
structure TaskTable where
  entries : AList fun _ : TaskId => Task
  id_eq : ∀ id task, entries.lookup id = some task → task.id = id

namespace TaskTable

def empty : TaskTable := ⟨∅, by simp⟩

/-- `tasks_.find(id)`. -/
def find? (table : TaskTable) (id : TaskId) : Option Task :=
  table.entries.lookup id

/-- `tasks_[task.id_] = task`. -/
def set (table : TaskTable) (task : Task) : TaskTable where
  entries := table.entries.insert task.id task
  id_eq := by
    intro id stored found
    by_cases same : id = task.id
    · subst same
      rw [AList.lookup_insert] at found
      cases found
      rfl
    · rw [AList.lookup_insert_ne same] at found
      exact table.id_eq id stored found

/-- The keys of the table, in some order. -/
def ids (table : TaskTable) : List TaskId :=
  table.entries.keys

@[simp] theorem find?_empty (id : TaskId) : empty.find? id = none := rfl

theorem find?_set (table : TaskTable) (task : Task) (id : TaskId) :
    (table.set task).find? id = if id = task.id then some task else table.find? id := by
  unfold find? set
  split
  next same => rw [same, AList.lookup_insert]
  next different => rw [AList.lookup_insert_ne different]

@[simp] theorem find?_set_self (table : TaskTable) (task : Task) :
    (table.set task).find? task.id = some task := by
  simp [find?_set]

theorem id_of_find? {table : TaskTable} {id : TaskId} {task : Task}
    (found : table.find? id = some task) : task.id = id :=
  table.id_eq id task found

@[simp] theorem mem_ids {table : TaskTable} {id : TaskId} :
    id ∈ table.ids ↔ ∃ task, table.find? id = some task := by
  rw [← Option.isSome_iff_exists]
  unfold find? ids
  rw [AList.lookup_isSome]
  rfl

end TaskTable

end TaskCoordinator
