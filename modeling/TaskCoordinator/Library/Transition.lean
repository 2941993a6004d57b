import Mathlib

/-!
# Runs of fallible transition functions

A component is a step function `σ → ε → Except φ σ`: it takes a state and an event
and either returns the next state or stops with a fault.  This module supplies the
runs of such a function over a list of events, the predicate that a condition holds at
every step of a run, and the rules by which an invariant is carried through a run.

A single step is often a sequence of smaller moves of the state.  The last section
carries a property along such a sequence.
-/

universe u v w

namespace Transition

/-! ## Sequencing of fallible computations -/

/-- A sequenced computation succeeds exactly when both of its parts do. -/
theorem bind_eq_ok {φ : Type u} {α β : Type v} {first : Except φ α}
    {continuation : α → Except φ β} {result : β} :
    (first >>= continuation) = .ok result ↔
      ∃ value, first = .ok value ∧ continuation value = .ok result := by
  cases first with
  | error fault => simp [bind, Except.bind]
  | ok value => simp [bind, Except.bind]

/-- It fails when its first part fails or when what follows does. -/
theorem bind_eq_error {φ : Type u} {α β : Type v} {first : Except φ α}
    {continuation : α → Except φ β} {fault : φ} :
    (first >>= continuation) = .error fault ↔
      first = .error fault ∨ ∃ value, first = .ok value ∧ continuation value = .error fault := by
  cases first with
  | error other => simp [bind, Except.bind]
  | ok value => simp [bind, Except.bind]

/-! ## Runs -/

variable {σ : Type u} {ε : Type v} {φ : Type w}

/-- Feed a list of events to a step function, stopping at the first fault. -/
def run (step : σ → ε → Except φ σ) : σ → List ε → Except φ σ
  | state, [] => .ok state
  | state, event :: rest => do
      let next ← step state event
      run step next rest

/-- `guard` holds at every step of the run: for each event, in the state in which the
event is handled. -/
def Along (step : σ → ε → Except φ σ) (guard : σ → ε → Prop) : σ → List ε → Prop
  | _, [] => True
  | state, event :: rest =>
      guard state event ∧ ∀ next, step state event = .ok next → Along step guard next rest

variable {step : σ → ε → Except φ σ} {guard : σ → ε → Prop}

@[simp] theorem run_nil (state : σ) : run step state [] = .ok state := rfl

theorem run_cons_eq_ok {state final : σ} {event : ε} {rest : List ε} :
    run step state (event :: rest) = .ok final ↔
      ∃ next, step state event = .ok next ∧ run step next rest = .ok final := by
  simp only [run]
  exact bind_eq_ok

/-- A run over a concatenation splits at the boundary. -/
theorem run_append_eq_ok {state final : σ} {first second : List ε} :
    run step state (first ++ second) = .ok final ↔
      ∃ middle, run step state first = .ok middle ∧ run step middle second = .ok final := by
  induction first generalizing state with
  | nil => simp
  | cons event rest ih =>
      simp only [List.cons_append, run_cons_eq_ok, ih]
      constructor
      · rintro ⟨next, stepped, middle, ran, finished⟩
        exact ⟨middle, ⟨next, stepped, ran⟩, finished⟩
      · rintro ⟨middle, ⟨next, stepped, ran⟩, finished⟩
        exact ⟨next, stepped, middle, ran, finished⟩

@[simp] theorem run_singleton {state : σ} {event : ε} :
    run step state [event] = step state event := by
  simp only [run]
  cases step state event <;> rfl

/-- A run fails at the first step that fails. -/
theorem run_eq_error {state : σ} {events : List ε} {fault : φ} :
    run step state events = .error fault ↔
      ∃ before event after middle, events = before ++ event :: after ∧
        run step state before = .ok middle ∧ step middle event = .error fault := by
  induction events generalizing state with
  | nil => simp [run]
  | cons first rest ih =>
      simp only [run, bind_eq_error, ih]
      constructor
      · rintro (failed | ⟨next, stepped, before, event, after, middle, rfl, ran, failed⟩)
        · exact ⟨[], first, rest, state, rfl, rfl, failed⟩
        · exact ⟨first :: before, event, after, middle, rfl,
            run_cons_eq_ok.mpr ⟨next, stepped, ran⟩, failed⟩
      · rintro ⟨before, event, after, middle, split, ran, failed⟩
        cases before with
        | nil =>
            obtain ⟨rfl, rfl⟩ := List.cons.inj split
            cases ran
            exact .inl failed
        | cons earliest before =>
            obtain ⟨rfl, rfl⟩ := List.cons.inj split
            obtain ⟨next, stepped, ranRest⟩ := run_cons_eq_ok.mp ran
            exact .inr ⟨next, stepped, before, event, after, middle, rfl, ranRest, failed⟩

@[simp] theorem along_nil (state : σ) : Along step guard state [] := trivial

/-- A condition along a concatenation is a condition along both parts. -/
theorem along_append {state : σ} {first second : List ε} :
    Along step guard state (first ++ second) ↔
      Along step guard state first ∧
        ∀ middle, run step state first = .ok middle → Along step guard middle second := by
  induction first generalizing state with
  | nil => simp
  | cons event rest ih =>
      simp only [List.cons_append, Along, ih, run_cons_eq_ok]
      constructor
      · rintro ⟨admitted, later⟩
        refine ⟨⟨admitted, fun next stepped => (later next stepped).1⟩, ?_⟩
        rintro middle ⟨next, stepped, ran⟩
        exact (later next stepped).2 middle ran
      · rintro ⟨⟨admitted, later⟩, last⟩
        refine ⟨admitted, fun next stepped => ⟨later next stepped, ?_⟩⟩
        intro middle ran
        exact last middle ⟨next, stepped, ran⟩

/-- A condition along a run, unfolded to the steps the run takes. -/
theorem along_iff {state : σ} {events : List ε} :
    Along step guard state events ↔
      ∀ before event after middle, events = before ++ event :: after →
        run step state before = .ok middle → guard middle event := by
  constructor
  · rintro along before event after middle rfl ran
    exact ((along_append.mp along).2 middle ran).1
  · intro every
    induction events generalizing state with
    | nil => trivial
    | cons event rest ih =>
        refine ⟨every [] event rest state rfl rfl, fun next stepped => ih ?_⟩
        intro before later after middle split ran
        refine every (event :: before) later after middle (by simp [split]) ?_
        exact run_cons_eq_ok.mpr ⟨next, stepped, ran⟩

theorem Along.mono {weaker : σ → ε → Prop} {state : σ} {events : List ε}
    (along : Along step guard state events)
    (implies : ∀ state event, guard state event → weaker state event) :
    Along step weaker state events := by
  rw [along_iff] at along ⊢
  intro before event after middle split ran
  exact implies middle event (along before event after middle split ran)

theorem Along.and {other : σ → ε → Prop} {state : σ} {events : List ε}
    (first : Along step guard state events) (second : Along step other state events) :
    Along step (fun state event => guard state event ∧ other state event)
      state events := by
  rw [along_iff] at first second ⊢
  intro before event after middle split ran
  exact ⟨first before event after middle split ran, second before event after middle split ran⟩

/-- A condition on the events alone. -/
theorem along_of_forall {holds : ε → Prop} {state : σ} {events : List ε}
    (every : ∀ event ∈ events, holds event) :
    Along step (fun _ event => holds event) state events := by
  rw [along_iff]
  rintro before event after middle rfl _
  exact every event (by simp)

/-- Either no event of a list has a property, or the list splits at the last one that
does. -/
theorem never_or_last (holds : ε → Prop) (events : List ε) :
    (∀ event ∈ events, ¬ holds event) ∨
      ∃ before event after, events = before ++ event :: after ∧ holds event ∧
        ∀ later ∈ after, ¬ holds later := by
  induction events with
  | nil => exact .inl (by simp)
  | cons first rest ih =>
      obtain never | ⟨before, event, after, rfl, found, last⟩ := ih
      · by_cases found : holds first
        · exact .inr ⟨[], first, rest, rfl, found, never⟩
        · refine .inl ?_
          simpa [found] using never
      · exact .inr ⟨first :: before, event, after, rfl, found, last⟩

/-! ## Evaluation

Conditions on what a computation returns, and conditions along a run, are decided by
evaluating the computation. -/

instance decidableForallOk {outcome : Except φ σ} {holds : σ → Prop} [DecidablePred holds] :
    Decidable (∀ value, outcome = .ok value → holds value) :=
  match outcome with
  | .ok value => decidable_of_iff (holds value) (by simp)
  | .error _ => isTrue (by simp)

instance decidableExistsOk {outcome : Except φ σ} {holds : σ → Prop} [DecidablePred holds] :
    Decidable (∃ value, outcome = .ok value ∧ holds value) :=
  match outcome with
  | .ok value => decidable_of_iff (holds value) (by simp)
  | .error _ => isFalse (by simp)

instance decidableEqError [DecidableEq φ] {outcome : Except φ σ} {fault : φ} :
    Decidable (outcome = .error fault) :=
  match outcome with
  | .ok _ => isFalse nofun
  | .error other => decidable_of_iff (other = fault) (by simp)

instance decidableAlong [∀ state event, Decidable (guard state event)] :
    (state : σ) → (events : List ε) → Decidable (Along step guard state events)
  | _, [] => isTrue trivial
  | state, event :: rest =>
      have _ : DecidablePred fun next => Along step guard next rest :=
        fun next => decidableAlong next rest
      inferInstanceAs (Decidable (guard state event ∧
        ∀ next, step state event = .ok next → Along step guard next rest))

/-! ## Invariants -/

/-- `holds` survives every admitted step that succeeds. -/
def Preserves (step : σ → ε → Except φ σ) (guard : σ → ε → Prop) (holds : σ → Prop) : Prop :=
  ∀ state event next, holds state → guard state event →
    step state event = .ok next → holds next

/-- No admitted step faults in a state where `holds` does. -/
def Progresses (step : σ → ε → Except φ σ) (guard : σ → ε → Prop) (holds : σ → Prop) : Prop :=
  ∀ state event, holds state → guard state event → ∃ next, step state event = .ok next

/-- A property is preserved under any guard that, together with the property, implies one
under which it is preserved. -/
theorem Preserves.weaken {holds : σ → Prop} {other : σ → ε → Prop}
    (preserved : Preserves step guard holds)
    (implies : ∀ state event, holds state → other state event → guard state event) :
    Preserves step other holds := by
  intro state event next initially admitted stepped
  exact preserved state event next initially (implies state event initially admitted) stepped

theorem Progresses.weaken {holds : σ → Prop} {other : σ → ε → Prop}
    (progress : Progresses step guard holds)
    (implies : ∀ state event, holds state → other state event → guard state event) :
    Progresses step other holds := by
  intro state event initially admitted
  exact progress state event initially (implies state event initially admitted)

/-- Two preserved properties are preserved together. -/
theorem Preserves.and {holds other : σ → Prop} (first : Preserves step guard holds)
    (second : Preserves step guard other) :
    Preserves step guard fun state => holds state ∧ other state := by
  intro state event next initially admitted stepped
  exact ⟨first state event next initially.1 admitted stepped,
    second state event next initially.2 admitted stepped⟩

/-- A preserved property holds at the end of every run that returns. -/
theorem Preserves.run {holds : σ → Prop} (preserved : Preserves step guard holds)
    {state final : σ} {events : List ε} (initially : holds state)
    (along : Along step guard state events)
    (ran : Transition.run step state events = .ok final) : holds final := by
  induction events generalizing state with
  | nil =>
      cases ran
      exact initially
  | cons event rest ih =>
      obtain ⟨next, stepped, ranRest⟩ := run_cons_eq_ok.mp ran
      have kept := preserved state event next initially along.1 stepped
      exact ih kept (along.2 next stepped) ranRest

/-- A property of a state and of the events that have led to it holds at the end of every run
that returns, if every admitted step keeps it. -/
theorem history_run {holds : List ε → σ → Prop}
    (kept : ∀ before state event next, holds before state → guard state event →
      step state event = .ok next → holds (before ++ [event]) next)
    {start final : σ} {events : List ε} (initially : holds [] start)
    (along : Along step guard start events)
    (ran : Transition.run step start events = .ok final) : holds events final := by
  induction events using List.reverseRecOn generalizing final with
  | nil =>
      cases ran
      exact initially
  | append_singleton before event ih =>
      obtain ⟨alongBefore, alongLast⟩ := along_append.mp along
      obtain ⟨middle, ranBefore, stepped⟩ := run_append_eq_ok.mp ran
      rw [run_singleton] at stepped
      exact kept before middle event final (ih alongBefore ranBefore)
        (alongLast middle ranBefore).1 stepped

/-- Along a run, a preserved property may be used to establish another condition. -/
theorem Preserves.along {holds : σ → Prop} {other : σ → ε → Prop}
    (preserved : Preserves step guard holds) {state : σ} {events : List ε}
    (initially : holds state) (along : Along step guard state events)
    (implies : ∀ state event, holds state → guard state event → other state event) :
    Along step other state events := by
  induction events generalizing state with
  | nil => trivial
  | cons event rest ih =>
      refine ⟨implies state event initially along.1, fun next stepped => ?_⟩
      exact ih (preserved state event next initially along.1 stepped) (along.2 next stepped)

/-- A preserved property that excludes faults makes every admitted run return. -/
theorem Progresses.run {holds : σ → Prop} (progress : Progresses step guard holds)
    (preserved : Preserves step guard holds) {state : σ} {events : List ε}
    (initially : holds state) (along : Along step guard state events) :
    ∃ final, Transition.run step state events = .ok final ∧ holds final := by
  induction events generalizing state with
  | nil => exact ⟨state, rfl, initially⟩
  | cons event rest ih =>
      obtain ⟨next, stepped⟩ := progress state event initially along.1
      have kept := preserved state event next initially along.1 stepped
      obtain ⟨final, ran, holdsFinal⟩ := ih kept (along.2 next stepped)
      exact ⟨final, run_cons_eq_ok.mpr ⟨next, stepped, ran⟩, holdsFinal⟩

/-! ## Descent -/

/-- If every admitted step makes a measure smaller, an admitted run is no longer than the measure
of the state it starts from. -/
theorem length_le_measure {holds : σ → Prop} {measure : σ → Nat}
    (preserved : Preserves step guard holds)
    (decreases : ∀ state event next, holds state → guard state event →
      step state event = .ok next → measure next < measure state)
    {state final : σ} {events : List ε} (initially : holds state)
    (along : Along step guard state events)
    (ran : Transition.run step state events = .ok final) :
    events.length + measure final ≤ measure state := by
  induction events generalizing state with
  | nil =>
      cases ran
      simp
  | cons event rest ih =>
      obtain ⟨next, stepped, ranRest⟩ := run_cons_eq_ok.mp ran
      have kept := preserved state event next initially along.1 stepped
      have shorter := ih kept (along.2 next stepped) ranRest
      have smaller := decreases state event next initially along.1 stepped
      rw [List.length_cons]
      omega

/-! ## Amortised costs -/

/-- What the steps of a run cost together, up to the first fault. -/
def runCost (step : σ → ε → Except φ σ) (cost : σ → ε → σ → Nat) : σ → List ε → Nat
  | _, [] => 0
  | state, event :: rest =>
      match step state event with
      | .ok next => cost state event next + runCost step cost next rest
      | .error _ => 0

/-- If every admitted step pays for what it costs out of a potential, an admitted run costs no
more than the potential of the state it starts from. -/
theorem runCost_le_potential {cost : σ → ε → σ → Nat} {potential : σ → Nat}
    (pays : ∀ state event next, guard state event → step state event = .ok next →
      cost state event next + potential next ≤ potential state)
    {state : σ} {events : List ε} (along : Along step guard state events) :
    runCost step cost state events ≤ potential state := by
  induction events generalizing state with
  | nil => exact Nat.zero_le _
  | cons event rest ih =>
      unfold runCost
      split
      next next stepped =>
        have paid := pays state event next along.1 stepped
        have later := ih (along.2 next stepped)
        omega
      next => exact Nat.zero_le _

/-! ## Observations -/

/-- What can be observed of the steps of a run, up to the first fault. -/
def trace {β : Type v} (step : σ → ε → Except φ σ) (observe : σ → ε → List β) :
    σ → List ε → List β
  | _, [] => []
  | state, event :: rest =>
      match step state event with
      | .ok next => observe state event ++ trace step observe next rest
      | .error _ => []

/-- A property of what has been observed and of the state is carried through a run that returns. -/
theorem trace_run {β : Type v} {observe : σ → ε → List β} {holds : List β → σ → Prop}
    (kept : ∀ observed state event next, holds observed state → guard state event →
      step state event = .ok next → holds (observed ++ observe state event) next)
    {state final : σ} {events : List ε} {observed : List β} (initially : holds observed state)
    (along : Along step guard state events)
    (ran : Transition.run step state events = .ok final) :
    holds (observed ++ trace step observe state events) final := by
  induction events generalizing state observed with
  | nil =>
      cases ran
      simpa [trace] using initially
  | cons event rest ih =>
      obtain ⟨next, stepped, ranRest⟩ := run_cons_eq_ok.mp ran
      have later := ih (kept observed state event next initially along.1 stepped)
        (along.2 next stepped) ranRest
      rw [List.append_assoc] at later
      rw [trace, stepped]
      exact later

/-! ## Steps made of smaller moves -/

/-- A property kept by every move is kept by a sequence of moves. -/
theorem kept_of_moves {move : σ → σ → Prop} {holds : σ → Prop}
    (kept : ∀ first second, move first second → holds first → holds second)
    {start final : σ} (moves : Relation.ReflTransGen move start final)
    (initially : holds start) : holds final := by
  induction moves with
  | refl => exact initially
  | tail _ move ih => exact kept _ _ move ih

end Transition
