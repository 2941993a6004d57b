import TaskCoordinator.Library.Transition

/-!
# Mirroring a component over a lossy channel

A primary emits messages, and a mirror applies them in order.  The channel between the two
may drop a message, but after a drop it delivers nothing before it has asked the primary to
resynchronise.  A resynchronisation emits messages that bring any mirror into agreement.

The rule of this module is: if every step of the primary emits messages that keep an
agreeing mirror in agreement, the mirror agrees whenever nothing is under way and nothing
has been dropped since the last request to resynchronise.

A primary may be silent at first: as long as it has emitted nothing, a request to
resynchronise may find it with nothing to say.
-/

universe u

namespace Mirror

open Transition

variable {σ β μ ι ε φ : Type u}

/-! ## Replaying messages -/

/-- Whatever inputs the mirror gets while it applies the messages, it ends up good. -/
def Brings (apply : ι → β → μ → β) (good : β → Prop) : β → List μ → Prop
  | mirror, [] => good mirror
  | mirror, message :: rest => ∀ input, Brings apply good (apply input mirror message) rest

variable {apply : ι → β → μ → β} {good better : β → Prop}

theorem Brings.mono (implies : ∀ mirror, good mirror → better mirror) {mirror : β}
    {messages : List μ} (brings : Brings apply good mirror messages) :
    Brings apply better mirror messages := by
  induction messages generalizing mirror with
  | nil => exact implies mirror brings
  | cons message rest ih =>
      intro input
      exact ih (brings input)

theorem brings_of_forall (always : ∀ mirror, good mirror) (mirror : β) (messages : List μ) :
    Brings apply good mirror messages := by
  induction messages generalizing mirror with
  | nil => exact always mirror
  | cons message rest ih =>
      intro input
      exact ih (apply input mirror message)

theorem brings_append {mirror : β} {first second : List μ} :
    Brings apply good mirror (first ++ second) ↔
      Brings apply (fun mirror => Brings apply good mirror second) mirror first := by
  induction first generalizing mirror with
  | nil => rfl
  | cons message rest ih =>
      constructor
      · intro brings input
        exact ih.mp (brings input)
      · intro brings input
        exact ih.mpr (brings input)

/-! ## The system -/

/-- A primary, its mirror and the channel between them.  `queued` has been emitted and not
taken by the channel, `delivered` has been delivered and not applied.  `requests` counts the
requests to resynchronise that the primary has not handled.  `lost` says that a message has
been dropped since the last request. -/
structure State (σ β μ : Type u) where
  primary : σ
  mirror : β
  queued : List μ
  delivered : List μ
  requests : Nat
  lost : Bool

/-- What happens next: the primary handles an event, the channel delivers or drops the
oldest message or places a request, or the mirror applies a message. -/
inductive Action (ε ι : Type u) where
  | handle (event : ε)
  | deliver
  | drop
  | request
  | apply (input : ι)

/-- One step of the system.  A step of the primary returns the messages it emits. -/
def next (step : σ → ε → Except φ (σ × List μ)) (resyncs : ε → Bool)
    (apply : ι → β → μ → β) (s : State σ β μ) : Action ε ι → Except φ (State σ β μ)
  | .handle event => do
      let (primary, emitted) ← step s.primary event
      .ok { s with
        primary
        queued := s.queued ++ emitted
        requests := if resyncs event then s.requests - 1 else s.requests }
  | .deliver =>
      match s.queued with
      | [] => .ok s
      | message :: rest =>
          .ok { s with queued := rest, delivered := s.delivered ++ [message] }
  | .drop =>
      match s.queued with
      | [] => .ok s
      | _ :: rest => .ok { s with queued := rest, lost := true }
  | .request => .ok { s with requests := s.requests + 1, lost := false }
  | .apply input =>
      match s.delivered with
      | [] => .ok s
      | message :: rest => .ok { s with mirror := apply input s.mirror message, delivered := rest }

/-- The primary handles what its guard admits, and resynchronises only on a request.  After
a drop nothing is delivered before the next request. -/
def Admits (guard : σ → ε → Prop) (resyncs : ε → Bool) (s : State σ β μ) :
    Action ε ι → Prop
  | .handle event => guard s.primary event ∧ (resyncs event = true → 0 < s.requests)
  | .deliver => s.lost = false
  | .drop | .request | .apply _ => True

instance {guard : σ → ε → Prop} {resyncs : ε → Bool}
    [∀ primary event, Decidable (guard primary event)] (s : State σ β μ) :
    (action : Action ε ι) → Decidable (Admits guard resyncs s action)
  | .handle event => inferInstanceAs (Decidable
      (guard s.primary event ∧ (resyncs event = true → 0 < s.requests)))
  | .deliver => inferInstanceAs (Decidable (s.lost = false))
  | .drop | .request | .apply _ => isTrue trivial

/-- Nothing is under way, no request is pending, and nothing has been dropped since the
last one. -/
structure State.AtRest (s : State σ β μ) : Prop where
  queued : s.queued = []
  delivered : s.delivered = []
  requests : s.requests = 0
  lost : s.lost = false

/-! ## The rule -/

/-- The obligations on a primary with the invariant `holds`.  `silent` says that it has
emitted nothing so far, and `fresh` is the mirror before it has applied anything. -/
structure Mirrors (step : σ → ε → Except φ (σ × List μ)) (guard : σ → ε → Prop)
    (resyncs : ε → Bool) (apply : ι → β → μ → β) (holds silent : σ → Prop)
    (agree : β → σ → Prop) (fresh : β) : Prop where
  kept : ∀ {primary event after emitted}, holds primary → guard primary event →
    step primary event = .ok (after, emitted) → holds after
  follows : ∀ {primary event after emitted mirror}, holds primary → guard primary event →
    step primary event = .ok (after, emitted) → agree mirror primary →
    Brings apply (agree · after) mirror emitted
  repairs : ∀ {primary event after emitted}, holds primary → guard primary event →
    resyncs event = true → step primary event = .ok (after, emitted) → ¬ silent primary →
    ∀ mirror, Brings apply (agree · after) mirror emitted
  speaks : ∀ {primary event after emitted}, holds primary → guard primary event →
    step primary event = .ok (after, emitted) → silent after → silent primary ∧ emitted = []
  agrees : ∀ {primary}, holds primary → silent primary → agree fresh primary

/-- The invariant of the system. -/
structure Consistent (apply : ι → β → μ → β) (holds silent : σ → Prop)
    (agree : β → σ → Prop) (fresh : β) (s : State σ β μ) : Prop where
  primary : holds s.primary
  quiet : silent s.primary → s.queued = [] ∧ s.delivered = [] ∧ s.mirror = fresh
  agreed : s.lost = true ∨ 0 < s.requests ∨
    Brings apply (agree · s.primary) s.mirror (s.delivered ++ s.queued)

variable {step : σ → ε → Except φ (σ × List μ)} {guard : σ → ε → Prop} {resyncs : ε → Bool}
  {holds silent : σ → Prop} {agree : β → σ → Prop} {fresh : β}

/-- The primary handles an event.  If it resynchronises, the emitted messages make up for
whatever is still under way. -/
theorem Mirrors.consistent_handle {s : State σ β μ} {event : ε} {primary : σ}
    {emitted : List μ} (mirrors : Mirrors step guard resyncs apply holds silent agree fresh)
    (consistent : Consistent apply holds silent agree fresh s) (admitted : guard s.primary event)
    (handled : step s.primary event = .ok (primary, emitted)) :
    Consistent apply holds silent agree fresh
      { s with
        primary
        queued := s.queued ++ emitted
        requests := if resyncs event then s.requests - 1 else s.requests } := by
  have handledPrimary := consistent.primary
  refine ⟨mirrors.kept handledPrimary admitted handled, ?_, ?_⟩
  · intro silentAfter
    obtain ⟨silentBefore, rfl⟩ := mirrors.speaks handledPrimary admitted handled silentAfter
    simpa using consistent.quiet silentBefore
  · simp only [← List.append_assoc]
    rw [brings_append]
    obtain lost | pending | brings := consistent.agreed
    · exact .inl lost
    · cases resync : resyncs event with
      | false => exact .inr (.inl (by simpa using pending))
      | true =>
          refine .inr (.inr ?_)
          by_cases isSilent : silent s.primary
          · obtain ⟨noneQueued, noneDelivered, isFresh⟩ := consistent.quiet isSilent
            rw [noneQueued, noneDelivered, isFresh]
            exact mirrors.follows handledPrimary admitted handled
              (mirrors.agrees handledPrimary isSilent)
          · exact brings_of_forall
              (mirrors.repairs handledPrimary admitted resync handled isSilent) _ _
    · refine .inr (.inr (brings.mono fun mirror agreed => ?_))
      exact mirrors.follows handledPrimary admitted handled agreed

theorem Mirrors.consistent_preserved
    (mirrors : Mirrors step guard resyncs apply holds silent agree fresh) :
    Preserves (next step resyncs apply) (Admits guard resyncs)
      (Consistent apply holds silent agree fresh) := by
  intro s action s' consistent admitted stepped
  cases action with
  | handle event =>
      obtain ⟨admitted, _⟩ := admitted
      obtain ⟨⟨primary, emitted⟩, handled, done⟩ := bind_eq_ok.mp stepped
      cases done
      exact mirrors.consistent_handle consistent admitted handled
  | deliver =>
      simp only [next] at stepped
      cases queue : s.queued with
      | nil =>
          simp only [queue] at stepped
          cases stepped
          exact consistent
      | cons message rest =>
          simp only [queue] at stepped
          cases stepped
          refine ⟨consistent.primary, fun isSilent => ?_, ?_⟩
          · have none := (consistent.quiet isSilent).1
            rw [queue] at none
            cases none
          · simpa [queue] using consistent.agreed
  | drop =>
      simp only [next] at stepped
      cases queue : s.queued with
      | nil =>
          simp only [queue] at stepped
          cases stepped
          exact consistent
      | cons message rest =>
          simp only [queue] at stepped
          cases stepped
          refine ⟨consistent.primary, fun isSilent => ?_, .inl rfl⟩
          have none := (consistent.quiet isSilent).1
          rw [queue] at none
          cases none
  | request =>
      cases stepped
      exact ⟨consistent.primary, consistent.quiet, .inr (.inl (Nat.succ_pos _))⟩
  | apply input =>
      simp only [next] at stepped
      cases arrived : s.delivered with
      | nil =>
          simp only [arrived] at stepped
          cases stepped
          exact consistent
      | cons message rest =>
          simp only [arrived] at stepped
          cases stepped
          refine ⟨consistent.primary, fun isSilent => ?_, ?_⟩
          · have none := (consistent.quiet isSilent).2.1
            rw [arrived] at none
            cases none
          · refine consistent.agreed.imp_right (Or.imp_right fun brings => ?_)
            rw [arrived] at brings
            exact brings input

/-- A mirror at rest agrees with its primary. -/
theorem Consistent.agree_of_atRest {s : State σ β μ}
    (consistent : Consistent apply holds silent agree fresh s) (atRest : s.AtRest) :
    agree s.mirror s.primary := by
  obtain lost | pending | brings := consistent.agreed
  · rw [atRest.lost] at lost
    cases lost
  · exact absurd atRest.requests (Nat.ne_of_gt pending)
  · rw [atRest.delivered, atRest.queued] at brings
    exact brings

/-- The system does not fault when its primary does not. -/
theorem next_progresses (progress : ∀ primary event, holds primary → guard primary event →
      ∃ outcome, step primary event = .ok outcome) :
    Progresses (next step resyncs apply) (Admits guard resyncs)
      (Consistent apply holds silent agree fresh) := by
  intro s action consistent admitted
  cases action with
  | handle event =>
      obtain ⟨⟨primary, emitted⟩, handled⟩ := progress s.primary event
        consistent.primary admitted.1
      exact ⟨_, bind_eq_ok.mpr ⟨_, handled, rfl⟩⟩
  | deliver =>
      simp only [next]
      split
      next => exact ⟨_, rfl⟩
      next => exact ⟨_, rfl⟩
  | drop =>
      simp only [next]
      split
      next => exact ⟨_, rfl⟩
      next => exact ⟨_, rfl⟩
  | request => exact ⟨_, rfl⟩
  | apply input =>
      simp only [next]
      split
      next => exact ⟨_, rfl⟩
      next => exact ⟨_, rfl⟩

end Mirror
