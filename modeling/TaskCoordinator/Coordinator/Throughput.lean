import TaskCoordinator.Coordinator.Metrics

/-!
# The rolling throughput

Completions are recorded in the order in which their `COMPLETE` messages arrive, and
`get_rolling_throughput` removes stale completion times from the front of this record only.
A stale completion that was recorded after a recent one is still counted.

A history of the metrics is a list of completions and calls.  The rolling throughput is
exact at every call of a history precisely if no call finds a stale completion that was
recorded after a recent one.
-/

namespace TaskCoordinator

/-! ## Dropping from the front -/

section

variable {α : Type*} (stale : α → Bool)

/-- Dropping from the front leaves just the entries that are not stale if and only if no
stale entry comes after one that is not. -/
theorem length_dropWhile_eq_countP_iff (times : List α) :
    (times.dropWhile stale).length = times.countP (fun time => !stale time) ↔
      times.Pairwise fun earlier later => stale earlier = false → stale later = false := by
  induction times with
  | nil => simp
  | cons time rest ih =>
      rw [List.pairwise_cons, ← ih]
      cases old : stale time with
      | true => simp [old]
      | false =>
          rw [List.dropWhile_cons_of_neg (by simp [old]), List.length_cons,
            List.countP_cons_of_pos (by simp [old]), Nat.add_right_cancel_iff, eq_comm,
            List.countP_eq_length]
          constructor
          · intro recent
            have none : ∀ later ∈ rest, stale later = false := by
              intro later member
              simpa using recent later member
            refine ⟨fun later member _ => none later member, ?_⟩
            rw [ih]
            exact List.pairwise_of_forall_mem_list fun _ _ later member _ => none later member
          · intro ⟨recent, _⟩ later member
            simp [recent later member rfl]

theorem dropWhile_congr {stale other : α → Bool} {times : List α}
    (same : ∀ time ∈ times, stale time = other time) :
    times.dropWhile stale = times.dropWhile other := by
  induction times with
  | nil => rfl
  | cons time rest ih =>
      rw [List.dropWhile_cons, List.dropWhile_cons, same time List.mem_cons_self,
        ih fun later member => same later (List.mem_cons_of_mem time member)]

end

/-! ## Histories of the metrics -/

/-- What happens to the completion times of the metrics. -/
inductive MetricsAction where
  /-- `record_completion_system` for a task. -/
  | complete (task : Task)
  /-- `get_rolling_throughput` at a clock reading. -/
  | call (now : Nanoseconds)

namespace MetricsAction

def apply (metrics : Metrics) : MetricsAction → Metrics
  | .complete task => metrics.recordCompletionSystem task
  | .call now => (metrics.getRollingThroughput now).2

/-- The metrics after a history that starts with fresh ones. -/
def metricsAfter (actions : List MetricsAction) : Metrics :=
  actions.foldl apply {}

def completion? : MetricsAction → Option Nanoseconds
  | .complete task => some task.completedAt
  | .call _ => none

def reading? : MetricsAction → Option Nanoseconds
  | .complete _ => none
  | .call now => some now

/-- The recorded completion times, in the order of their arrival. -/
def recordedTimes (actions : List MetricsAction) : List Nanoseconds :=
  actions.filterMap completion?

/-- No call reads an earlier time than a call before it or than the completion of a task
recorded before it. -/
def Timely (actions : List MetricsAction) : Prop :=
  ∀ i now, actions[i]? = some (.call now) →
    (∀ time ∈ recordedTimes (actions.take i), time ≤ now) ∧
    ∀ reading ∈ (actions.take i).filterMap reading?, reading ≤ now

/-- A completion time at most `THROUGHPUT_WINDOW_NS` before the reading. -/
def recent (now time : Nanoseconds) : Bool :=
  now.toNat ≤ time.toNat + Config.throughputWindowNs.toNat

/-- Every call returns the number of recorded completions that are recent. -/
def ExactThroughput (actions : List MetricsAction) : Prop :=
  ∀ i now, actions[i]? = some (.call now) →
    ((metricsAfter (actions.take i)).getRollingThroughput now).1.toNat =
      (recordedTimes (actions.take i)).countP (recent now)

/-- No call comes when a completion has been recorded that is not recent any more and that
arrived after one that still is. -/
def StaleFirst (actions : List MetricsAction) : Prop :=
  ∀ i now, actions[i]? = some (.call now) →
    (recordedTimes (actions.take i)).Pairwise fun earlier later =>
      recent now earlier = true → recent now later = true

/-! ## What a call counts -/

/-- Up to its reading, the 64-bit comparison of a call tells the recent completions. -/
theorem stale_eq_not_recent {now time : Nanoseconds} (past : time ≤ now) :
    decide (now - time > Config.throughputWindowNs) = !recent now time := by
  have difference : (now - time).toNat = now.toNat - time.toNat := UInt64.toNat_sub_of_le _ _ past
  have order := UInt64.le_iff_toNat_le.mp past
  rw [recent, Bool.eq_iff_iff, Bool.not_eq_true', decide_eq_true_iff, decide_eq_false_iff_not,
    gt_iff_lt, UInt64.lt_iff_toNat_lt, difference]
  omega

/-- A completion that is not recent stays so at later readings. -/
theorem recent_of_le {now later time : Nanoseconds} (order : now ≤ later)
    (stillRecent : recent later time = true) : recent now time = true := by
  have readings := UInt64.le_iff_toNat_le.mp order
  rw [recent, decide_eq_true_iff] at stillRecent ⊢
  omega

theorem Timely.take {actions : List MetricsAction} (timely : Timely actions) (n : Nat) :
    Timely (actions.take n) := by
  intro i now here
  rw [List.getElem?_take] at here
  split at here
  next below =>
    rw [List.take_take, Nat.min_eq_left (Nat.le_of_lt below)]
    exact timely i now here
  next => cases here

/-- The calls have removed a front part of the recorded completions, each of them when it was
not recent any more. -/
theorem recordedTimes_eq {actions : List MetricsAction} (timely : Timely actions) :
    ∃ removed, recordedTimes actions = removed ++ (metricsAfter actions).completionTimesNs ∧
      ∀ time ∈ removed, ∃ reading ∈ actions.filterMap reading?,
        recent reading time = false := by
  induction actions using List.reverseRecOn with
  | nil => exact ⟨[], rfl, by simp⟩
  | append_singleton actions action ih =>
      have before : Timely actions := by
        have taken := timely.take actions.length
        rwa [List.take_left] at taken
      obtain ⟨removed, recorded, staleAt⟩ := ih before
      have times : recordedTimes (actions ++ [action]) =
          recordedTimes actions ++ action.completion?.toList := by
        cases action <;> simp [recordedTimes, completion?]
      have after : metricsAfter (actions ++ [action]) = apply (metricsAfter actions) action := by
        simp [metricsAfter]
      rw [times, after, recorded]
      cases action with
      | complete task =>
          refine ⟨removed, by simp [apply, completion?, Metrics.recordCompletionSystem], ?_⟩
          simpa [reading?] using staleAt
      | call now =>
          have past : ∀ time ∈ recordedTimes actions, time ≤ now := by
            have here := (timely actions.length now (by simp)).1
            rwa [List.take_left] at here
          let stale := fun time => decide (now - time > Config.throughputWindowNs)
          refine ⟨removed ++ (metricsAfter actions).completionTimesNs.takeWhile stale, ?_, ?_⟩
          · rw [List.append_assoc]
            simp [apply, completion?, Metrics.getRollingThroughput, stale]
          · intro time member
            rcases List.mem_append.mp member with earlier | newly
            · obtain ⟨reading, read, old⟩ := staleAt time earlier
              exact ⟨reading, by simp [read], old⟩
            · have recordedTime : time ∈ recordedTimes actions := by
                rw [recorded]
                exact List.mem_append_right _ ((List.takeWhile_sublist _).mem newly)
              have old := List.mem_takeWhile_imp newly
              simp only [stale, stale_eq_not_recent (past time recordedTime)] at old
              exact ⟨now, by simp [reading?], by simpa using old⟩

/-- What a call returns, in terms of all the completions recorded before it. -/
theorem throughput_eq {actions : List MetricsAction} {i : Nat} {now : Nanoseconds}
    (timely : Timely actions) (fits : actions.length < 2 ^ 64)
    (here : actions[i]? = some (.call now)) :
    ((metricsAfter (actions.take i)).getRollingThroughput now).1.toNat =
      ((recordedTimes (actions.take i)).dropWhile fun time => !recent now time).length := by
  obtain ⟨past, readings⟩ := timely i now here
  obtain ⟨removed, recorded, staleAt⟩ := recordedTimes_eq (timely.take i)
  have stillStale : ∀ time ∈ removed, (!recent now time) = true := by
    intro time member
    obtain ⟨reading, read, old⟩ := staleAt time member
    cases again : recent now time with
    | false => rfl
    | true => rw [recent_of_le (readings reading read) again] at old; cases old
  have kept : ∀ time ∈ (metricsAfter (actions.take i)).completionTimesNs, time ≤ now := by
    intro time member
    exact past time (recorded ▸ List.mem_append_right removed member)
  have few : (metricsAfter (actions.take i)).completionTimesNs.length ≤ actions.length := by
    calc
      (metricsAfter (actions.take i)).completionTimesNs.length
          ≤ (recordedTimes (actions.take i)).length := by
            rw [recorded, List.length_append]
            exact Nat.le_add_left _ _
      _ ≤ (actions.take i).length := List.length_filterMap_le _ _
      _ ≤ actions.length := List.length_take_le' i actions
  rw [recorded, List.dropWhile_append_of_pos stillStale,
    ← dropWhile_congr fun time member => stale_eq_not_recent (kept time member)]
  exact UInt64.toNat_ofNat_of_lt'
    (((List.dropWhile_sublist _).length_le.trans few).trans_lt fits)

/-- In a history whose calls read no earlier times, every call is exact if and only if none
comes after a stale completion was recorded behind a recent one. -/
theorem exactThroughput_iff_staleFirst {actions : List MetricsAction} (timely : Timely actions)
    (fits : actions.length < 2 ^ 64) :
    ExactThroughput actions ↔ StaleFirst actions := by
  have exactAt : ∀ i now, actions[i]? = some (.call now) →
      (((metricsAfter (actions.take i)).getRollingThroughput now).1.toNat =
          (recordedTimes (actions.take i)).countP (recent now) ↔
        (recordedTimes (actions.take i)).Pairwise fun earlier later =>
          recent now earlier = true → recent now later = true) := by
    intro i now here
    have dropped := length_dropWhile_eq_countP_iff (fun time => !recent now time)
      (recordedTimes (actions.take i))
    simp only [Bool.not_not, Bool.not_eq_false'] at dropped
    rw [throughput_eq timely fits here]
    exact dropped
  constructor
  · intro exact i now here
    exact (exactAt i now here).mp (exact i now here)
  · intro staleFirst i now here
    exact (exactAt i now here).mpr (staleFirst i now here)

/-- Two workers complete a task each, ten seconds and one second after the start, and the
earlier completion arrives last.  A call at ten seconds counts both. -/
theorem throughput_counts_late_arrival :
    ¬∀ actions : List MetricsAction, Timely actions → ExactThroughput actions := by
  intro always
  have timely : Timely
      [.complete { completedAt := 10000000000 }, .complete { completedAt := 1000000000 },
        .call 10000000000] := by
    intro i now here
    rcases i with _ | _ | _ | i
    · cases here
    · cases here
    · cases here
      simp [recordedTimes, completion?, reading?]
    · cases here
  have exact := always _ timely 2 10000000000 rfl
  revert exact
  decide +kernel

/-- Two completions in the order of their times, of which the first has left the window. -/
theorem exactThroughput_of_two_completions :
    ExactThroughput
      [.complete { completedAt := 1000000000 }, .complete { completedAt := 10000000000 },
        .call 10000000000] := by
  refine (exactThroughput_iff_staleFirst ?_ (by decide)).mpr ?_
  all_goals
    intro i now here
    rcases i with _ | _ | _ | i
    · cases here
    · cases here
    · cases here
      simp [recordedTimes, completion?, reading?, recent]
    · cases here

end MetricsAction

end TaskCoordinator
