import TaskCoordinator.Library.Wire

/-!
# Transfers in pieces

A system call that moves data may move less than it was asked for, be interrupted, run into a
timeout or fail.  `transferAll` calls it again until everything has been moved.  What the
calls do is given from outside as a list of outcomes, and a computation that makes calls is a
reader of that list.  Such a computation has no result while an outcome is missing.

`Completes` is a rule of postconditions for computations that run without timeouts and
failures: they get their result as soon as there are as many moves as there is data to be
moved, however the moves cut the data.
-/

namespace Transfer

open Wire

/-- What one call does.  A call that moves nothing has met a closed connection. -/
inductive Outcome where
  | moved (count : Nat)
  | interrupted
  | timedOut
  | failed
  deriving DecidableEq, Repr

def Outcome.isMove : Outcome → Bool
  | .moved _ => true
  | .interrupted | .timedOut | .failed => false

/-- How much a call offers to move. -/
def Outcome.count : Outcome → Nat
  | .moved count => count
  | .interrupted | .timedOut | .failed => 0

/-- How much a sequence of calls offers to move. -/
def total (outcomes : List Outcome) : Nat :=
  (outcomes.map Outcome.count).sum

/-- How a transfer ends. -/
inductive Ending where
  | complete
  | timedOut
  | failed
  deriving DecidableEq, Repr

variable {β : Type}

/-- What has been moved and what is still there. -/
structure Result (β : Type) where
  ending : Ending
  moved : List β
  source : List β

/-- The result of a transfer that has moved something before. -/
def Result.after (first : List β) (result : Result β) : Result β :=
  { result with moved := first ++ result.moved }

/-- Call until `len` items have been moved from the source.  A call never moves more than is
asked for or there, and it does not return while nothing is there. -/
def transferAll (len : Nat) (source : List β) : Reader Outcome (Result β)
  | [] => if len = 0 then some (⟨.complete, [], source⟩, []) else none
  | outcome :: pending =>
      if len = 0 then some (⟨.complete, [], source⟩, outcome :: pending)
      else
        match outcome with
        | .interrupted => transferAll len source pending
        | .timedOut => some (⟨.timedOut, [], source⟩, pending)
        | .failed => some (⟨.failed, [], source⟩, pending)
        | .moved count =>
            let amount := min count (min len source.length)
            if count = 0 then some (⟨.failed, [], source⟩, pending)
            else if amount = 0 then none
            else
              (transferAll (len - amount) (source.drop amount) pending).map fun ended =>
                (ended.1.after (source.take amount), ended.2)

variable {len count : Nat} {source : List β} {outcomes pending : List Outcome}

theorem transferAll_zero (source : List β) (outcomes : List Outcome) :
    (transferAll 0 source).run outcomes = some (⟨.complete, [], source⟩, outcomes) := by
  cases outcomes <;> rfl

theorem transferAll_nil (positive : 0 < len) : (transferAll len source).run [] = none :=
  if_neg positive.ne'

theorem transferAll_interrupted (positive : 0 < len) :
    (transferAll len source).run (.interrupted :: pending) =
      (transferAll len source).run pending :=
  if_neg positive.ne'

theorem transferAll_timedOut (positive : 0 < len) :
    (transferAll len source).run (.timedOut :: pending) =
      some (⟨.timedOut, [], source⟩, pending) :=
  if_neg positive.ne'

theorem transferAll_failed (positive : 0 < len) :
    (transferAll len source).run (.failed :: pending) = some (⟨.failed, [], source⟩, pending) :=
  if_neg positive.ne'

theorem transferAll_closed (positive : 0 < len) :
    (transferAll len source).run (.moved 0 :: pending) =
      some (⟨.failed, [], source⟩, pending) := by
  simp [StateT.run, transferAll, positive.ne']

theorem transferAll_blocked (positive : 0 < len) (progress : 0 < count) :
    (transferAll len ([] : List β)).run (.moved count :: pending) = none := by
  simp [StateT.run, transferAll, positive.ne', progress.ne']

theorem transferAll_moved (positive : 0 < len) (progress : 0 < count) (available : source ≠ []) :
    (transferAll len source).run (.moved count :: pending) =
      ((transferAll (len - min count (min len source.length))
          (source.drop (min count (min len source.length)))).run pending).map fun ended =>
        (ended.1.after (source.take (min count (min len source.length))), ended.2) := by
  have something : 0 < source.length := List.length_pos_iff.mpr available
  have amount : min count (min len source.length) ≠ 0 := by omega
  simp only [StateT.run, transferAll, positive.ne', if_false, progress.ne', amount]

/-! ## Runs with timeouts -/

/-- What the outcomes that a transfer has used say about its result. -/
def Result.Explained (len : Nat) (source : List β) (used : List Outcome) (result : Result β) :
    Prop :=
  match result.ending with
  | .complete => result.moved = source.take len ∧ .timedOut ∉ used
  | .timedOut => ∃ before, used = before ++ [.timedOut] ∧ .timedOut ∉ before ∧
      (result.moved = [] ↔ ∀ outcome ∈ before, outcome.isMove = false)
  | .failed => True

theorem Result.Explained.interrupted {used : List Outcome} {result : Result β}
    (explained : result.Explained len source used) :
    result.Explained len source (.interrupted :: used) := by
  unfold Result.Explained at *
  split at explained
  next => simpa using explained
  next =>
    obtain ⟨before, rfl, only, empty⟩ := explained
    exact ⟨.interrupted :: before, rfl, by simpa using only, by simpa [Outcome.isMove] using empty⟩
  next => trivial

theorem Result.Explained.moved {used : List Outcome} {result : Result β} {amount : Nat}
    (explained : result.Explained (len - amount) (source.drop amount) used)
    (positive : 0 < amount) (asked : amount ≤ len) (available : amount ≤ source.length) :
    (result.after (source.take amount)).Explained len source (.moved count :: used) := by
  unfold Result.Explained at *
  simp only [Result.after]
  split at explained
  next =>
    refine ⟨?_, by simpa using explained.2⟩
    rw [explained.1, ← List.take_add, Nat.add_sub_cancel' asked]
  next =>
    obtain ⟨before, rfl, only, _⟩ := explained
    refine ⟨.moved count :: before, rfl, by simpa using only, ?_⟩
    have something : source.take amount ≠ [] := by
      rw [← List.length_pos_iff, List.length_take_of_le available]
      exact positive
    simp [something, Outcome.isMove]
  next => trivial

/-- How a transfer that returns comes to its result. -/
inductive Returns (pending : List Outcome) :
    (len : Nat) → (source : List β) → List Outcome → Result β → Prop where
  | finished {source : List β} : Returns pending 0 source pending ⟨.complete, [], source⟩
  | interrupted {len : Nat} {source : List β} {outcomes : List Outcome} {result : Result β}
      (rest : Returns pending len source outcomes result) :
      Returns pending len source (.interrupted :: outcomes) result
  | timedOut {len : Nat} {source : List β} (positive : 0 < len) :
      Returns pending len source (.timedOut :: pending) ⟨.timedOut, [], source⟩
  | failed {len : Nat} {source : List β} {outcome : Outcome} :
      Returns pending len source (outcome :: pending) ⟨.failed, [], source⟩
  | moved {len count amount : Nat} {source : List β} {outcomes : List Outcome}
      {result : Result β} (isAmount : amount = min count (min len source.length))
      (positive : 0 < amount)
      (rest : Returns pending (len - amount) (source.drop amount) outcomes result) :
      Returns pending len source (.moved count :: outcomes) (result.after (source.take amount))

theorem returns_of_run {result : Result β}
    (ran : (transferAll len source).run outcomes = some (result, pending)) :
    Returns pending len source outcomes result := by
  induction outcomes generalizing len source result with
  | nil =>
      rcases Nat.eq_zero_or_pos len with rfl | positive
      · rw [transferAll_zero] at ran
        cases ran
        exact .finished
      · rw [transferAll_nil positive] at ran
        cases ran
  | cons outcome outcomes ih =>
      rcases Nat.eq_zero_or_pos len with rfl | positive
      · rw [transferAll_zero] at ran
        cases ran
        exact .finished
      · cases outcome with
        | interrupted =>
            rw [transferAll_interrupted positive] at ran
            exact .interrupted (ih ran)
        | timedOut =>
            rw [transferAll_timedOut positive] at ran
            cases ran
            exact .timedOut positive
        | failed =>
            rw [transferAll_failed positive] at ran
            cases ran
            exact .failed
        | moved count =>
            rcases Nat.eq_zero_or_pos count with rfl | progress
            · rw [transferAll_closed positive] at ran
              cases ran
              exact .failed
            · rcases eq_or_ne source [] with rfl | available
              · rw [transferAll_blocked positive progress] at ran
                cases ran
              · rw [transferAll_moved positive progress available] at ran
                obtain ⟨⟨ended, left⟩, ranRest, isResult⟩ := Option.map_eq_some_iff.mp ran
                cases isResult
                have something : 0 < source.length := List.length_pos_iff.mpr available
                exact .moved rfl (by omega) (ih ranRest)

/-- A transfer takes its outcomes from the front, and they explain its result. -/
theorem transferAll_explained {result : Result β}
    (ran : (transferAll len source).run outcomes = some (result, pending)) :
    ∃ used, outcomes = used ++ pending ∧ result.Explained len source used := by
  replace ran := returns_of_run ran
  induction ran with
  | finished => exact ⟨[], rfl, rfl, by simp⟩
  | interrupted _ ih =>
      obtain ⟨used, rfl, explained⟩ := ih
      exact ⟨.interrupted :: used, rfl, explained.interrupted⟩
  | timedOut => exact ⟨[.timedOut], rfl, [], rfl, by simp, by simp⟩
  | @failed _ _ outcome => exact ⟨[outcome], rfl, trivial⟩
  | @moved _ count _ _ _ _ isAmount positive _ ih =>
      obtain ⟨used, rfl, explained⟩ := ih
      exact ⟨.moved count :: used, rfl, explained.moved positive (by omega) (by omega)⟩

/-- A transfer cuts the source, and it is complete when all that was asked for has been moved.
When everything asked for is there, a timeout strikes after exactly what the calls before it
have offered. -/
theorem transferAll_cuts {result : Result β}
    (ran : (transferAll len source).run outcomes = some (result, pending)) :
    result.moved ++ result.source = source ∧
    (result.ending = .complete → result.moved.length = len) ∧
    (result.ending = .timedOut → len ≤ source.length ∨ source = [] →
      ∃ before, outcomes = before ++ .timedOut :: pending ∧ total before = result.moved.length ∧
        result.moved.length < len) := by
  replace ran := returns_of_run ran
  induction ran with
  | finished => exact ⟨rfl, fun _ => rfl, nofun⟩
  | interrupted _ ih =>
      obtain ⟨cut, complete, timedOut⟩ := ih
      refine ⟨cut, complete, fun ended available => ?_⟩
      obtain ⟨before, rfl, offered, less⟩ := timedOut ended available
      exact ⟨.interrupted :: before, rfl, by simpa [total, Outcome.count] using offered, less⟩
  | timedOut positive => exact ⟨rfl, nofun, fun _ _ => ⟨[], rfl, rfl, positive⟩⟩
  | failed => exact ⟨rfl, nofun, nofun⟩
  | @moved len count amount source _ _ isAmount positive _ ih =>
      obtain ⟨cut, complete, timedOut⟩ := ih
      have taken : (source.take amount).length = amount := List.length_take_of_le (by omega)
      have something : source ≠ [] := by
        rintro rfl
        simp [isAmount] at positive
      simp only [Result.after]
      refine ⟨?_, fun isComplete => ?_, fun isTimeout available => ?_⟩
      · rw [List.append_assoc, cut, List.take_append_drop]
      · rw [List.length_append, taken, complete isComplete]
        omega
      · have enough : len ≤ source.length := available.resolve_right something
        have left : len - amount ≤ (source.drop amount).length := by
          rw [List.length_drop]
          omega
        obtain ⟨before, rfl, offered, less⟩ := timedOut isTimeout (.inl left)
        refine ⟨.moved count :: before, rfl, ?_, ?_⟩
        · simp only [total, List.map_cons, List.sum_cons, Outcome.count] at offered ⊢
          rw [offered, List.length_append, taken]
          omega
        · rw [List.length_append, taken]
          omega

/-! ## Runs without timeouts -/

/-- No timeout and no failure: calls move something or are interrupted. -/
def Steady (outcomes : List Outcome) : Prop :=
  ∀ outcome ∈ outcomes, outcome = .interrupted ∨ ∃ count, 0 < count ∧ outcome = .moved count

theorem Steady.of_suffix (steady : Steady outcomes) (suffix : pending <:+ outcomes) :
    Steady pending :=
  fun outcome member => steady outcome (suffix.subset member)

/-- The number of calls that move something. -/
def moves (outcomes : List Outcome) : Nat :=
  outcomes.countP Outcome.isMove

theorem moves_interrupted (outcomes : List Outcome) :
    moves (.interrupted :: outcomes) = moves outcomes :=
  List.countP_cons_of_neg (by simp [Outcome.isMove])

theorem moves_moved (count : Nat) (outcomes : List Outcome) :
    moves (.moved count :: outcomes) = moves outcomes + 1 :=
  List.countP_cons_of_pos rfl

/-- Without timeouts and failures the computation has a good result unless the calls have
made fewer moves than there are items to be moved, and every call moves at least one. -/
def Completes {α : Type} (action : Reader Outcome α) (amount : Nat) (good : α → Prop) : Prop :=
  ∀ outcomes, Steady outcomes →
    (action.run outcomes = none ∧ moves outcomes < amount) ∨
    ∃ value pending, action.run outcomes = some (value, pending) ∧ good value ∧
      pending <:+ outcomes ∧ moves outcomes ≤ moves pending + amount

section Completes

variable {α γ : Type} {action : Reader Outcome α} {amount : Nat} {good : α → Prop}

/-- Whatever the calls do, a result is good. -/
theorem Completes.good_of_run {value : α} (completes : Completes action amount good)
    (steady : Steady outcomes) (ran : action.run outcomes = some (value, pending)) :
    good value := by
  rcases completes outcomes steady with ⟨missing, _⟩ | ⟨_, _, ranAgain, isGood, _⟩
  · rw [missing] at ran
    cases ran
  · rw [ran] at ranAgain
    cases ranAgain
    exact isGood

/-- Enough moves give a result. -/
theorem Completes.exists_run (completes : Completes action amount good)
    (steady : Steady outcomes) (enough : amount ≤ moves outcomes) :
    ∃ value pending, action.run outcomes = some (value, pending) := by
  rcases completes outcomes steady with ⟨_, few⟩ | ⟨value, pending, ran, _⟩
  · omega
  · exact ⟨value, pending, ran⟩

theorem Completes.pure {value : α} (isGood : good value) :
    Completes (Pure.pure value) 0 good :=
  fun outcomes _ => .inr ⟨value, outcomes, rfl, isGood, List.suffix_refl _, le_rfl⟩

theorem Completes.bind {next : α → Reader Outcome γ} {later : Nat} {goodNext : γ → Prop}
    (first : Completes action amount good)
    (second : ∀ value, good value → Completes (next value) later goodNext) :
    Completes (action >>= next) (amount + later) goodNext := by
  intro outcomes steady
  rcases first outcomes steady with ⟨missing, few⟩ | ⟨value, middle, ran, isGood, suffix, used⟩
  · left
    exact ⟨by simp [StateT.run_bind, missing], by omega⟩
  · have unfolded : (action >>= next).run outcomes = (next value).run middle := by
      simp [StateT.run_bind, ran]
    rcases second value isGood middle (steady.of_suffix suffix) with
      ⟨missing, few⟩ | ⟨result, pending, ranNext, isGoodNext, suffixNext, usedNext⟩
    · left
      exact ⟨unfolded.trans missing, by omega⟩
    · right
      exact ⟨result, pending, unfolded.trans ranNext, isGoodNext, suffixNext.trans suffix,
        by omega⟩

/-- What follows the last transfer makes no calls. -/
theorem Completes.bind_of_zero {next : α → Reader Outcome γ} {goodNext : γ → Prop}
    (first : Completes action amount good)
    (second : ∀ value, good value → Completes (next value) 0 goodNext) :
    Completes (action >>= next) amount goodNext :=
  first.bind second

end Completes

/-- A transfer moves exactly what was asked for, in order. -/
theorem transferAll_completes (available : len ≤ source.length) :
    Completes (transferAll len source) len
      (· = ⟨.complete, source.take len, source.drop len⟩) := by
  intro outcomes steady
  induction outcomes generalizing len source with
  | nil =>
      rcases Nat.eq_zero_or_pos len with rfl | positive
      · exact .inr ⟨_, _, transferAll_zero source [], rfl, List.suffix_refl _, le_rfl⟩
      · exact .inl ⟨transferAll_nil positive, positive⟩
  | cons outcome outcomes ih =>
      rcases Nat.eq_zero_or_pos len with rfl | positive
      · exact .inr ⟨_, _, transferAll_zero source _, rfl, List.suffix_refl _, le_rfl⟩
      · have steadyRest : Steady outcomes := steady.of_suffix (List.suffix_cons _ _)
        rcases steady outcome (by simp) with rfl | ⟨count, progress, rfl⟩
        · rw [transferAll_interrupted positive, moves_interrupted]
          rcases ih available steadyRest with few | ⟨result, pending, ran, isResult, suffix, used⟩
          · exact .inl few
          · exact .inr ⟨result, pending, ran, isResult, suffix.trans (List.suffix_cons _ _), used⟩
        · have something : source ≠ [] := by
            rw [← List.length_pos_iff]
            omega
          rw [transferAll_moved positive progress something, moves_moved]
          obtain ⟨amount, isAmount⟩ : ∃ amount, min count (min len source.length) = amount :=
            ⟨_, rfl⟩
          rw [isAmount]
          have availableRest : len - amount ≤ (source.drop amount).length := by
            rw [List.length_drop]
            omega
          rcases ih availableRest steadyRest with
            ⟨missing, few⟩ | ⟨result, pending, ran, isResult, suffix, used⟩
          · left
            exact ⟨by rw [missing]; rfl, by omega⟩
          · right
            refine ⟨_, pending, by rw [ran]; rfl, ?_, suffix.trans (List.suffix_cons _ _),
              by omega⟩
            rw [isResult, Result.after, ← List.take_add, List.drop_drop,
              Nat.add_sub_cancel' (by omega : amount ≤ len)]

end Transfer
