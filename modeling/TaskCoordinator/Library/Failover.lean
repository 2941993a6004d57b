import TaskCoordinator.Library.Transition

/-!
# Failing over between two servers

Processes share a register that names one of two servers.  A process loads the register, tries
the server it has loaded, and if that fails it tries the other one.  If the other one answers,
the process moves the register to it by a compare-exchange, some time after the answer.  A process
may start over as often as it likes, and processes may join at any time.

The results of this module are about the time from which one server answers every attempt and
the other one answers none, with the processes wherever they may be.  They say how often the
register can still move and how many attempts of one process can still fail, in terms of the
exchanges that are under way in the wrong direction.
-/

universe u

namespace Failover

/-- Two servers. -/
structure Pair (σ : Type u) where
  other : σ → σ
  other_ne : ∀ server, other server ≠ server
  eq_or_eq_other : ∀ server choice, choice = server ∨ choice = other server

@[simp] theorem Pair.other_other {σ : Type u} (pair : Pair σ) (server : σ) :
    pair.other (pair.other server) = server := by
  obtain same | swapped := pair.eq_or_eq_other server (pair.other (pair.other server))
  · exact same
  · exact absurd swapped (pair.other_ne (pair.other server))

@[simp] theorem Pair.other_ne_self {σ : Type u} (pair : Pair σ) (server : σ) :
    ¬ pair.other server = server :=
  pair.other_ne server

@[simp] theorem Pair.ne_other_self {σ : Type u} (pair : Pair σ) (server : σ) :
    ¬ server = pair.other server :=
  (pair.other_ne server).symm

/-! ## The system -/

/-- Where a process stands, with the server that it has loaded. -/
inductive Place (σ : Type u) where
  | idle
  /-- It tries the server that it has loaded. -/
  | first (loaded : σ)
  /-- It tries the other server. -/
  | second (loaded : σ)
  /-- The other server has answered, and the exchange comes next. -/
  | exchanging (loaded : σ)
  deriving DecidableEq, Repr

structure State (σ : Type u) where
  active : σ
  places : List (Place σ)

variable {σ : Type u}

/-- A process goes to another place. -/
def State.put (s : State σ) (process : Nat) (place : Place σ) : State σ :=
  { s with places := s.places.set process place }

theorem State.put_self {s : State σ} {process : Nat} {place : Place σ}
    (here : s.places[process]? = some place) : s.put process place = s := by
  obtain ⟨inside, rfl⟩ := List.getElem?_eq_some_iff.mp here
  rw [put, List.set_getElem_self]

variable [DecidableEq σ] (pair : Pair σ)

/-- The register after a compare-exchange from `loaded` to the other server. -/
def exchanged (active loaded : σ) : σ :=
  if active = loaded then pair.other loaded else active

/-- One step while `live` answers every attempt and the other server answers none.  The label is
the process whose attempt fails in this step. -/
inductive Step (live : σ) (s : State σ) : Option Nat → State σ → Prop where
  | join : Step live s none { s with places := s.places ++ [.idle] }
  | load {process : Nat} (place : s.places[process]? = some .idle) :
      Step live s none (s.put process (.first s.active))
  | failFirst {process : Nat} (place : s.places[process]? = some (.first (pair.other live))) :
      Step live s (some process) (s.put process (.second (pair.other live)))
  | failSecond {process : Nat} (place : s.places[process]? = some (.second live)) :
      Step live s (some process) (s.put process .idle)
  | succeedFirst {process : Nat} (place : s.places[process]? = some (.first live)) :
      Step live s none (s.put process .idle)
  | succeedSecond {process : Nat}
      (place : s.places[process]? = some (.second (pair.other live))) :
      Step live s none (s.put process (.exchanging (pair.other live)))
  | exchange {process : Nat} {loaded : σ}
      (place : s.places[process]? = some (.exchanging loaded)) :
      Step live s none
        { s.put process .idle with active := exchanged pair s.active loaded }

/-! ## The movements of the register -/

/-- The exchanges under way that would move the register away from the live server. -/
def State.stale (s : State σ) (live : σ) : Nat :=
  s.places.count (.exchanging live)

/-- How often the register may still move. -/
def State.swings (s : State σ) (live : σ) : Nat :=
  2 * s.stale live + if s.active = live then 0 else 1

variable {pair} {live : σ} {s s' : State σ} {label : Option Nat}

/-- The count of stale exchanges, before and after a process has gone to another place. -/
theorem State.stale_put (live : σ) {process : Nat} {before : Place σ} (place : Place σ)
    (here : s.places[process]? = some before) :
    (s.put process place).stale live + (if before = .exchanging live then 1 else 0) =
      s.stale live + if place = .exchanging live then 1 else 0 := by
  obtain ⟨inside, rfl⟩ := List.getElem?_eq_some_iff.mp here
  have counted : (if s.places[process] = .exchanging live then 1 else 0) ≤ s.stale live := by
    split
    next found =>
      rw [State.stale, Nat.one_le_iff_ne_zero, ← Nat.pos_iff_ne_zero, List.count_pos_iff, ← found]
      exact List.getElem_mem inside
    next => exact Nat.zero_le _
  simp only [State.stale, State.put, List.count_set inside, beq_iff_eq] at counted ⊢
  omega

theorem State.stale_put_of_ne {process : Nat} {before place : Place σ}
    (here : s.places[process]? = some before) (left : before ≠ .exchanging live)
    (reached : place ≠ .exchanging live) : (s.put process place).stale live = s.stale live := by
  simpa [left, reached] using State.stale_put live place here

@[simp] theorem State.stale_join :
    State.stale { s with places := s.places ++ [.idle] } live = s.stale live := by
  simp [State.stale]

@[simp] theorem State.stale_active (active : σ) :
    State.stale { s with active } live = s.stale live := rfl

/-- An exchange that comes from the live server leaves the register at the other one, whether or
not it has an effect. -/
theorem exchanged_live (active : σ) : exchanged pair active live = pair.other live := by
  unfold exchanged
  split
  next => rfl
  next differs => exact (pair.eq_or_eq_other live active).resolve_left differs

theorem exchanged_other (active : σ) : exchanged pair active (pair.other live) = live := by
  unfold exchanged
  split
  next => exact pair.other_other live
  next differs => exact (pair.eq_or_eq_other live active).resolve_right differs

/-- What a step does to the register and to the stale exchanges: nothing, or it is an exchange. -/
theorem Step.stale_cases (step : Step pair live s label s') :
    (s'.active = s.active ∧ s'.stale live = s.stale live) ∨
      (s'.active = pair.other live ∧ s'.stale live + 1 = s.stale live) ∨
      (s'.active = live ∧ s'.stale live = s.stale live) := by
  cases step with
  | join => exact .inl ⟨rfl, State.stale_join⟩
  | load here => exact .inl ⟨rfl, State.stale_put_of_ne here (by simp) (by simp)⟩
  | failFirst here => exact .inl ⟨rfl, State.stale_put_of_ne here (by simp) (by simp)⟩
  | failSecond here => exact .inl ⟨rfl, State.stale_put_of_ne here (by simp) (by simp)⟩
  | succeedFirst here => exact .inl ⟨rfl, State.stale_put_of_ne here (by simp) (by simp)⟩
  | succeedSecond here =>
      exact .inl ⟨rfl, State.stale_put_of_ne here (by simp) (by simp)⟩
  | @exchange process loaded here =>
      obtain rfl | rfl := pair.eq_or_eq_other live loaded
      · refine .inr (.inl ⟨exchanged_live s.active, ?_⟩)
        simpa using State.stale_put loaded .idle here
      · refine .inr (.inr ⟨exchanged_other s.active, ?_⟩)
        exact State.stale_put_of_ne here (by simp) (by simp)

/-- A step pays for its movement of the register. -/
theorem Step.swings_le (step : Step pair live s label s') :
    (if s'.active = s.active then 0 else 1) + s'.swings live ≤ s.swings live := by
  unfold State.swings
  obtain ⟨active, stale⟩ | ⟨active, stale⟩ | ⟨active, stale⟩ := step.stale_cases
  · rw [active, stale]
    simp
  · split_ifs <;> omega
  · rw [active, stale, if_pos rfl]
    by_cases same : s.active = live
    · simp [same]
    · simp only [same, Ne.symm same, if_false]
      omega

/-! ## The attempts that fail -/

/-- The server that is being tried. -/
def Place.tries (pair : Pair σ) : Place σ → Option σ
  | .first loaded => some loaded
  | .second loaded => some (pair.other loaded)
  | .idle | .exchanging _ => none

/-- The process has loaded the register, and will move it away from what it has loaded. -/
def Place.loaded? : Place σ → Option σ
  | .first loaded | .second loaded | .exchanging loaded => some loaded
  | .idle => none

variable (pair) in
/-- How many attempts of a process may still fail, apart from those that a stale exchange
leads to: the one that it is making, and one that it makes if it loads the register. -/
def Place.debt (place : Place σ) (active live : σ) : Nat :=
  (if place.tries pair = some (pair.other live) then 1 else 0) +
    if active = live ∨ place.loaded? = some (pair.other live) then 0 else 1

/-- Where a process stands; one that has not joined yet is idle. -/
def State.place (s : State σ) (process : Nat) : Place σ :=
  s.places[process]?.getD .idle

variable (pair) in
/-- How many attempts of a process may still fail. -/
def State.failures (s : State σ) (live : σ) (process : Nat) : Nat :=
  s.stale live + (s.place process).debt pair s.active live

omit [DecidableEq σ] in
theorem State.place_of_getElem? {process : Nat} {place : Place σ}
    (here : s.places[process]? = some place) : s.place process = place := by
  rw [State.place, here]
  rfl

omit [DecidableEq σ] in
theorem State.place_put {process : Nat} {before place : Place σ}
    (here : s.places[process]? = some before) (other : Nat) :
    (s.put process place).place other = if process = other then place else s.place other := by
  obtain ⟨inside, rfl⟩ := List.getElem?_eq_some_iff.mp here
  simp only [State.place, State.put, List.getElem?_set, inside, if_true]
  split <;> rfl

omit [DecidableEq σ] in
theorem State.place_join (process : Nat) :
    State.place { s with places := s.places ++ [.idle] } process = s.place process := by
  simp only [State.place, List.getElem?_append, List.getElem?_singleton]
  split
  next => rfl
  next outside =>
    rw [List.getElem?_eq_none (Nat.le_of_not_lt outside)]
    split <;> rfl

variable (pair) in
theorem Place.debt_le_two (place : Place σ) (active live : σ) : place.debt pair active live ≤ 2 := by
  unfold Place.debt
  split_ifs <;> decide

variable (pair) in
theorem Place.debt_idle (active live : σ) :
    (Place.idle : Place σ).debt pair active live = if active = live then 0 else 1 := by
  simp [Place.debt, Place.tries, Place.loaded?]

variable (pair) in
theorem Place.debt_live_le (place : Place σ) (active live : σ) :
    place.debt pair live live ≤ place.debt pair active live := by
  simp [Place.debt]

variable (pair) in
theorem Place.debt_le_succ (place : Place σ) (active active' live : σ) :
    place.debt pair active' live ≤ place.debt pair active live + 1 := by
  unfold Place.debt
  split_ifs <;> omega

/-- A step in which a process goes to another place and nothing else happens pays for the attempt
that fails in it. -/
theorem State.failures_put {mover : Nat} {before : Place σ} (place : Place σ) (cost : Nat)
    (here : s.places[mover]? = some before) (left : before ≠ .exchanging live)
    (reached : place ≠ .exchanging live)
    (pays : cost + place.debt pair s.active live ≤ before.debt pair s.active live)
    (process : Nat) :
    (if mover = process then cost else 0) + (s.put mover place).failures pair live process ≤
      s.failures pair live process := by
  unfold State.failures
  rw [State.stale_put_of_ne here left reached, State.place_put here]
  split_ifs with same
  · subst same
    rw [State.place_of_getElem? here]
    change cost + (s.stale live + place.debt pair s.active live) ≤ _
    omega
  · exact (Nat.zero_add _).le

/-- An exchange pays for the attempts that it leads to. -/
theorem State.failures_exchange {mover : Nat} {loaded : σ}
    (here : s.places[mover]? = some (.exchanging loaded)) (process : Nat) :
    State.failures pair { s.put mover .idle with active := exchanged pair s.active loaded } live
      process ≤ s.failures pair live process := by
  have moved (active : σ) :
      State.place { s.put mover .idle with active } process =
        if mover = process then .idle else s.place process := State.place_put here process
  unfold State.failures
  rw [moved, State.stale_active]
  obtain rfl | rfl := pair.eq_or_eq_other live loaded
  · have fewer : (s.put mover .idle).stale loaded + 1 = s.stale loaded := by
      simpa using State.stale_put loaded .idle here
    rw [exchanged_live, ← fewer]
    dsimp only
    split
    next =>
      have atMostOne : Place.idle.debt pair (pair.other loaded) loaded ≤ 1 := by
        simp [Place.debt, Place.tries, Place.loaded?]
      omega
    next =>
      have grown := (s.place process).debt_le_succ pair s.active (pair.other loaded) loaded
      omega
  · rw [State.stale_put_of_ne here (by simp) (by simp), exchanged_other]
    split
    next => simp [Place.debt, Place.tries]
    next => exact Nat.add_le_add_left (Place.debt_live_le pair _ _ _) _

/-- A step pays for the attempt that fails in it. -/
theorem Step.failures_le (step : Step pair live s label s') (process : Nat) :
    (if label = some process then 1 else 0) + s'.failures pair live process ≤
      s.failures pair live process := by
  cases step with
  | join =>
      unfold State.failures
      rw [State.place_join, State.stale_join]
      simp
  | load here =>
      have pays : (Place.first s.active).debt pair s.active live ≤
          Place.idle.debt pair s.active live := by
        obtain same | same := pair.eq_or_eq_other live s.active
        · simp [Place.debt, Place.tries, Place.loaded?, same]
        · simp [Place.debt, Place.tries, Place.loaded?, same]
      simpa using State.failures_put (.first s.active) 0 here (by simp) (by simp)
        (by simpa using pays) process
  | failFirst here =>
      simpa using State.failures_put _ 1 here (by simp) (by simp)
        (by simp [Place.debt, Place.tries, Place.loaded?]) process
  | failSecond here =>
      simpa using State.failures_put .idle 1 here (by simp) (by simp)
        (by simp [Place.debt, Place.tries, Place.loaded?]) process
  | succeedFirst here =>
      simpa using State.failures_put .idle 0 here (by simp) (by simp)
        (by simp [Place.debt, Place.tries, Place.loaded?]) process
  | succeedSecond here =>
      simpa using State.failures_put (.exchanging (pair.other live)) 0 here (by simp) (by simp)
        (by simp [Place.debt, Place.tries, Place.loaded?]) process
  | exchange here => simpa using State.failures_exchange here process

end Failover
