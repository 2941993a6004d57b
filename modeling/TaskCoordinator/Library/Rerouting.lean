import TaskCoordinator.Library.Mirror

/-!
# Mirroring over successive lines

`Mirror` has one channel between a primary and its mirror.  Here the primary opens a new line
whenever it has given up the last one, and what it had sent on a former line is not called back:
it may still arrive, at any time and between the messages of later lines, or get lost.

A message carries a stamp, and the mirror has a level, which it raises to the stamps it has
seen.  It takes no notice of a message whose stamp lies below its level, unless this is a reset.
A resynchronisation sends a reset with a stamp that is new.

The rule of this module is: if no outdated reset is applied, the mirror agrees with the primary
whenever the line in use has lost nothing, nothing is under way on it, and no request to
resynchronise is open.
-/

universe u

namespace Rerouting

open Transition Mirror

/-! ## The system -/

/-- A primary and its mirror.  `lines` is what is under way on each line.  `current` is the line in
use, and `intact` says that it has lost nothing.  `requests` counts the requests to
resynchronise that the primary has not handled. -/
structure State (σ β μ : Type u) where
  primary : σ
  mirror : β
  queued : List μ
  lines : Nat → List μ
  current : Option Nat
  intact : Bool
  requests : Nat

/-- What happens next. -/
inductive Action (ε ι : Type u) where
  | handle (event : ε)
  /-- The oldest queued message is put on the line in use. -/
  | send
  /-- It is dropped, and the line is given up. -/
  | drop
  /-- The line is given up. -/
  | fail
  /-- A line is opened, with a request to resynchronise. -/
  | reopen (line : Nat)
  /-- One of the messages that are under way on a line is lost. -/
  | lose (line index : Nat)
  /-- The mirror applies the next message of a line. -/
  | receive (line : Nat) (input : ι)

variable {σ β μ ι ε φ : Type u}

/-- One step of the system. -/
def next (step : σ → ε → Except φ (σ × List μ)) (resyncs : ε → Bool) (apply : ι → β → μ → β)
    (s : State σ β μ) : Action ε ι → Except φ (State σ β μ)
  | .handle event => do
      let (primary, emitted) ← step s.primary event
      .ok { s with
        primary
        queued := s.queued ++ emitted
        requests := if resyncs event then s.requests - 1 else s.requests }
  | .send =>
      match s.queued, s.current with
      | message :: rest, some line =>
          .ok { s with
            queued := rest
            lines := Function.update s.lines line (s.lines line ++ [message]) }
      | _, _ => .ok s
  | .drop => .ok { s with queued := s.queued.tail, current := none }
  | .fail => .ok { s with current := none }
  | .reopen line =>
      .ok { s with current := some line, intact := true, requests := s.requests + 1 }
  | .lose line index =>
      .ok { s with
        lines := Function.update s.lines line ((s.lines line).eraseIdx index)
        intact := if s.current = some line then false else s.intact }
  | .receive line input =>
      match s.lines line with
      | [] => .ok s
      | message :: rest =>
          .ok { s with
            mirror := apply input s.mirror message
            lines := Function.update s.lines line rest }

/-- The primary handles what its guard admits and resynchronises only on a request, and no
outdated reset is applied. -/
def Admits (guard : σ → ε → Prop) (resyncs : ε → Bool) (resets : μ → Bool) (stamp : μ → Nat)
    (level : β → Nat) (s : State σ β μ) : Action ε ι → Prop
  | .handle event => guard s.primary event ∧ (resyncs event = true → 0 < s.requests)
  | .receive line _ => ∀ message ∈ (s.lines line).head?, resets message = true →
      level s.mirror ≤ stamp message
  | .send | .drop | .fail | .reopen _ | .lose .. => True

instance decidableAdmits {guard : σ → ε → Prop} {resyncs : ε → Bool} {resets : μ → Bool}
    {stamp : μ → Nat} {level : β → Nat} [∀ primary event, Decidable (guard primary event)]
    (s : State σ β μ) :
    (action : Action ε ι) → Decidable (Admits guard resyncs resets stamp level s action)
  | .handle event => inferInstanceAs (Decidable
      (guard s.primary event ∧ (resyncs event = true → 0 < s.requests)))
  | .receive line _ => inferInstanceAs (Decidable (∀ message ∈ (s.lines line).head?,
      resets message = true → level s.mirror ≤ stamp message))
  | .send | .drop | .fail | .reopen _ | .lose .. => isTrue trivial

namespace State

/-- What is under way on the line in use, and what is queued for it. -/
def pending (s : State σ β μ) : List μ :=
  s.current.elim [] s.lines ++ s.queued

/-- The message is under way on a line that is not in use any more. -/
def Stray (s : State σ β μ) (message : μ) : Prop :=
  ∃ line, s.current ≠ some line ∧ message ∈ s.lines line

/-- Nothing is under way on the line in use, which has lost nothing, and no request is open. -/
structure AtRest (s : State σ β μ) : Prop where
  queued : s.queued = []
  line : ∃ line, s.current = some line ∧ s.lines line = []
  intact : s.intact = true
  requests : s.requests = 0

end State

/-! ## The rule -/

/-- The obligations on a primary and its mirror, beyond those of `Mirrors`. -/
structure Reroutes (step : σ → ε → Except φ (σ × List μ)) (guard : σ → ε → Prop)
    (resyncs : ε → Bool) (apply : ι → β → μ → β) (holds silent : σ → Prop)
    (agree : β → σ → Prop) (fresh : β) (resets : μ → Bool) (stamp : μ → Nat) (clock : σ → Nat)
    (level : β → Nat) (same : β → β → Prop) : Prop
    extends Mirrors step guard resyncs apply holds silent agree fresh where
  stamped : ∀ {primary event after emitted}, holds primary → guard primary event →
    step primary event = .ok (after, emitted) →
    clock primary ≤ clock after ∧ ∀ message ∈ emitted, stamp message ≤ clock after
  renewed : ∀ {primary event after emitted}, holds primary → guard primary event →
    resyncs event = true → step primary event = .ok (after, emitted) → ¬silent primary →
    ∃ reset, emitted = [reset] ∧ clock primary < stamp reset ∧
      ∀ input mirror, stamp reset ≤ level (apply input mirror reset)
  raised : ∀ {input mirror message},
    (resets message = true → level mirror ≤ stamp message) →
    level mirror ≤ level (apply input mirror message)
  ignored : ∀ {input mirror message}, resets message = false → stamp message < level mirror →
    same mirror (apply input mirror message)
  sameApply : ∀ {input first second message}, same first second →
    same (apply input first message) (apply input second message)
  sameAgree : ∀ {first second primary}, same first second → agree first primary →
    agree second primary
  sameLevel : ∀ {first second}, same first second → level first = level second

/-- The mirror will agree once it has applied what is pending, whatever strays in between:
either a reset that is newer than everything before it is still to come, or everything that may
stray in is outdated. -/
def Covered (apply : ι → β → μ → β) (agree : β → σ → Prop) (stamp : μ → Nat) (level : β → Nat)
    (s : State σ β μ) : Prop :=
  (∃ before reset after, s.pending = before ++ reset :: after ∧
    (∀ mirror, Brings apply (agree · s.primary) mirror (reset :: after)) ∧
    (∀ input mirror, stamp reset ≤ level (apply input mirror reset)) ∧
    (∀ message, s.Stray message → stamp message < stamp reset) ∧
    ∀ message ∈ before, stamp message < stamp reset) ∨
  (Brings apply (agree · s.primary) s.mirror s.pending ∧
    ∀ message, s.Stray message → stamp message < level s.mirror)

/-- The invariant of the system. -/
structure Consistent (apply : ι → β → μ → β) (holds silent : σ → Prop) (agree : β → σ → Prop)
    (fresh : β) (stamp : μ → Nat) (clock : σ → Nat) (level : β → Nat) (s : State σ β μ) :
    Prop where
  primary : holds s.primary
  queuedStamps : ∀ message ∈ s.queued, stamp message ≤ clock s.primary
  lineStamps : ∀ line, ∀ message ∈ s.lines line, stamp message ≤ clock s.primary
  quiet : silent s.primary → s.queued = [] ∧ (∀ line, s.lines line = []) ∧ s.mirror = fresh
  agreed : s.current = none ∨ s.intact = false ∨ 0 < s.requests ∨
    Covered apply agree stamp level s

variable {step : σ → ε → Except φ (σ × List μ)} {guard : σ → ε → Prop} {resyncs : ε → Bool}
  {apply : ι → β → μ → β} {holds silent : σ → Prop} {agree : β → σ → Prop} {fresh : β}
  {resets : μ → Bool} {stamp : μ → Nat} {clock : σ → Nat} {level : β → Nat}
  {same : β → β → Prop} {s : State σ β μ}

/-- Mirrors that are the same end up in agreement by the same messages. -/
theorem Reroutes.brings_same
    (reroutes : Reroutes step guard resyncs apply holds silent agree fresh resets stamp clock level
      same) {first second : β} {primary : σ} {messages : List μ} (isSame : same first second)
    (brings : Brings apply (agree · primary) first messages) :
    Brings apply (agree · primary) second messages := by
  induction messages generalizing first second with
  | nil => exact reroutes.sameAgree isSame brings
  | cons message rest ih =>
      intro input
      exact ih (reroutes.sameApply isSame) (brings input)

/-- Messages that follow a step of the primary keep what is covered covered. -/
theorem Covered.emit {primary : σ} {emitted : List μ} {requests : Nat}
    (covered : Covered apply agree stamp level s)
    (follows : ∀ mirror, agree mirror s.primary → Brings apply (agree · primary) mirror emitted) :
    Covered apply agree stamp level
      { s with primary, queued := s.queued ++ emitted, requests } := by
  have pending : State.pending { s with primary, queued := s.queued ++ emitted, requests } =
      s.pending ++ emitted := by
    simp [State.pending]
  obtain ⟨before, reset, after, split, brings, raises, strays, earlier⟩ | ⟨brings, strays⟩ :=
    covered
  · refine .inl ⟨before, reset, after ++ emitted, ?_, fun mirror => ?_, raises, strays, earlier⟩
    · rw [pending, split, List.append_assoc, List.cons_append]
    · rw [← List.cons_append, brings_append]
      exact (brings mirror).mono follows
  · refine .inr ⟨?_, strays⟩
    rw [pending, brings_append]
    exact brings.mono follows

/-- Everything under way is stamped by the clock of the primary. -/
theorem Consistent.stamps
    (consistent : Consistent apply holds silent agree fresh stamp clock level s) :
    (∀ message, s.Stray message → stamp message ≤ clock s.primary) ∧
      ∀ message ∈ s.pending, stamp message ≤ clock s.primary := by
  constructor
  · rintro message ⟨line, _, member⟩
    exact consistent.lineStamps line message member
  · intro message member
    obtain onLine | queued := List.mem_append.mp member
    · cases inUse : s.current with
      | none => simp [inUse] at onLine
      | some line =>
          rw [inUse] at onLine
          exact consistent.lineStamps line message onLine
    · exact consistent.queuedStamps message queued

/-- A resynchronisation covers whatever is under way. -/
theorem Reroutes.covered_of_resync
    (reroutes : Reroutes step guard resyncs apply holds silent agree fresh resets stamp clock level
      same) (consistent : Consistent apply holds silent agree fresh stamp clock level s) {event : ε}
    {primary : σ} {emitted : List μ} {requests : Nat} (admitted : guard s.primary event)
    (resync : resyncs event = true) (handled : step s.primary event = .ok (primary, emitted)) :
    Covered apply agree stamp level
      { s with primary, queued := s.queued ++ emitted, requests } := by
  by_cases isSilent : silent s.primary
  · obtain ⟨noneQueued, noneOnLines, isFresh⟩ := consistent.quiet isSilent
    have agrees := reroutes.agrees consistent.primary isSilent
    refine Covered.emit (.inr ⟨?_, ?_⟩) fun mirror agreed =>
      reroutes.follows consistent.primary admitted handled agreed
    · have nothing : s.pending = [] := by
        unfold State.pending
        rw [noneQueued]
        cases s.current with
        | none => rfl
        | some line => simp [noneOnLines line]
      rw [nothing, isFresh]
      exact agrees
    · rintro message ⟨line, _, member⟩
      simp [noneOnLines line] at member
  · obtain ⟨reset, rfl, isNew, raises⟩ :=
      reroutes.renewed consistent.primary admitted resync handled isSilent
    obtain ⟨strays, pending⟩ := consistent.stamps
    refine .inl ⟨s.pending, reset, [], ?_, ?_, raises, ?_, ?_⟩
    · simp [State.pending]
    · exact reroutes.repairs consistent.primary admitted resync handled isSilent
    · exact fun message stray => Nat.lt_of_le_of_lt (strays message stray) isNew
    · exact fun message member => Nat.lt_of_le_of_lt (pending message member) isNew

theorem Reroutes.consistent_handle
    (reroutes : Reroutes step guard resyncs apply holds silent agree fresh resets stamp clock level
      same) (consistent : Consistent apply holds silent agree fresh stamp clock level s) {event : ε}
    {primary : σ} {emitted : List μ} (admitted : guard s.primary event)
    (handled : step s.primary event = .ok (primary, emitted)) :
    Consistent apply holds silent agree fresh stamp clock level
      { s with
        primary
        queued := s.queued ++ emitted
        requests := if resyncs event then s.requests - 1 else s.requests } := by
  obtain ⟨onward, stamps⟩ := reroutes.stamped consistent.primary admitted handled
  refine
    { primary := reroutes.kept consistent.primary admitted handled
      queuedStamps := ?_
      lineStamps := ?_
      quiet := ?_
      agreed := ?_ }
  · intro message member
    obtain before | isNew := List.mem_append.mp member
    · exact (consistent.queuedStamps message before).trans onward
    · exact stamps message isNew
  · intro line message member
    exact (consistent.lineStamps line message member).trans onward
  · intro silentAfter
    obtain ⟨silentBefore, rfl⟩ :=
      reroutes.speaks consistent.primary admitted handled silentAfter
    simpa using consistent.quiet silentBefore
  · cases resync : resyncs event with
    | true =>
        exact .inr (.inr (.inr (reroutes.covered_of_resync consistent admitted resync handled)))
    | false =>
        refine consistent.agreed.imp_right (Or.imp_right (Or.imp_right fun covered => ?_))
        exact covered.emit fun mirror agreed =>
          reroutes.follows consistent.primary admitted handled agreed

/-! ### The lines -/

/-- Nothing new strays when the line in use changes, or when another one gets shorter. -/
theorem State.stray_update {s' : State σ β μ} {line : Nat} {messages : List μ}
    (current : s'.current = s.current) (lines : s'.lines = Function.update s.lines line messages)
    (fewer : s.current = some line ∨ ∀ message ∈ messages, message ∈ s.lines line) :
    ∀ message, s'.Stray message → s.Stray message := by
  rintro message ⟨stray, notInUse, member⟩
  rw [current] at notInUse
  rw [lines] at member
  refine ⟨stray, notInUse, ?_⟩
  by_cases isLine : stray = line
  · subst stray
    rw [Function.update_self] at member
    exact fewer.resolve_left notInUse message member
  · rwa [Function.update_of_ne isLine] at member

/-- A change of another line does not change what is pending. -/
theorem State.pending_update {s' : State σ β μ} {line : Nat} {messages : List μ}
    (current : s'.current = s.current) (queued : s'.queued = s.queued)
    (lines : s'.lines = Function.update s.lines line messages)
    (notInUse : s.current ≠ some line) : s'.pending = s.pending := by
  unfold State.pending
  rw [current, queued, lines]
  cases inUse : s.current with
  | none => rfl
  | some other =>
      have different : other ≠ line := by
        rintro rfl
        exact notInUse inUse
      simp [Function.update_of_ne different]

/-- Messages stray no more, and nothing else changes for the mirror. -/
theorem Covered.congr {s' : State σ β μ} (covered : Covered apply agree stamp level s)
    (primary : s'.primary = s.primary) (mirror : s'.mirror = s.mirror)
    (pending : s'.pending = s.pending) (strays : ∀ message, s'.Stray message → s.Stray message) :
    Covered apply agree stamp level s' := by
  unfold Covered at covered ⊢
  rw [primary, mirror, pending]
  obtain ⟨before, reset, after, split, brings, raises, older, earlier⟩ | ⟨brings, older⟩ := covered
  · exact .inl ⟨before, reset, after, split, brings, raises,
      fun message stray => older message (strays message stray), earlier⟩
  · exact .inr ⟨brings, fun message stray => older message (strays message stray)⟩

theorem Consistent.send {line : Nat} {message : μ} {rest : List μ}
    (consistent : Consistent apply holds silent agree fresh stamp clock level s)
    (queue : s.queued = message :: rest) (inUse : s.current = some line) :
    Consistent apply holds silent agree fresh stamp clock level
      { s with
        queued := rest
        lines := Function.update s.lines line (s.lines line ++ [message]) } := by
  have queuedStamps := consistent.queuedStamps
  rw [queue, List.forall_mem_cons] at queuedStamps
  refine
    { primary := consistent.primary
      queuedStamps := queuedStamps.2
      lineStamps := ?_
      quiet := ?_
      agreed := ?_ }
  · intro other
    by_cases isLine : other = line
    · subst other
      simp only [Function.update_self, List.forall_mem_append, List.forall_mem_singleton]
      exact ⟨consistent.lineStamps line, queuedStamps.1⟩
    · simpa [Function.update_of_ne isLine] using consistent.lineStamps other
  · intro isSilent
    have none := (consistent.quiet isSilent).1
    rw [queue] at none
    cases none
  · refine consistent.agreed.imp_right (Or.imp_right (Or.imp_right fun covered => ?_))
    refine covered.congr rfl rfl ?_ (State.stray_update rfl rfl (.inl inUse))
    simp [State.pending, inUse, queue]

theorem Consistent.lose (line index : Nat)
    (consistent : Consistent apply holds silent agree fresh stamp clock level s) :
    Consistent apply holds silent agree fresh stamp clock level
      { s with
        lines := Function.update s.lines line ((s.lines line).eraseIdx index)
        intact := if s.current = some line then false else s.intact } := by
  have fewer : ∀ other,
      ∀ message ∈ Function.update s.lines line ((s.lines line).eraseIdx index) other,
        message ∈ s.lines other := by
    intro other message member
    by_cases isLine : other = line
    · subst other
      rw [Function.update_self] at member
      exact List.mem_of_mem_eraseIdx member
    · rwa [Function.update_of_ne isLine] at member
  refine
    { primary := consistent.primary
      queuedStamps := consistent.queuedStamps
      lineStamps := fun other message member =>
        consistent.lineStamps other message (fewer other message member)
      quiet := ?_
      agreed := ?_ }
  · intro isSilent
    obtain ⟨noneQueued, noneOnLines, isFresh⟩ := consistent.quiet isSilent
    refine ⟨noneQueued, fun other => ?_, isFresh⟩
    refine List.eq_nil_iff_forall_not_mem.mpr fun message member => ?_
    have before := fewer other message member
    simp [noneOnLines other] at before
  · by_cases inUse : s.current = some line
    · exact .inr (.inl (by simp [inUse]))
    · simp only [if_neg inUse]
      refine consistent.agreed.imp_right (Or.imp_right (Or.imp_right fun covered => ?_))
      exact covered.congr rfl rfl (State.pending_update rfl rfl rfl inUse)
        (State.stray_update rfl rfl (.inr fun _ => List.mem_of_mem_eraseIdx))

/-- The mirror applies the next message of the line in use. -/
theorem Reroutes.covered_of_current
    (reroutes : Reroutes step guard resyncs apply holds silent agree fresh resets stamp clock level
      same) (covered : Covered apply agree stamp level s) {line : Nat} {message : μ} {rest : List μ}
    (input : ι) (inUse : s.current = some line) (front : s.lines line = message :: rest)
    (recent : resets message = true → level s.mirror ≤ stamp message) :
    Covered apply agree stamp level
      { s with
        mirror := apply input s.mirror message
        lines := Function.update s.lines line rest } := by
  have pending : s.pending = message :: (rest ++ s.queued) := by
    simp [State.pending, inUse, front]
  have pendingAfter : State.pending
      { s with
        mirror := apply input s.mirror message
        lines := Function.update s.lines line rest } = rest ++ s.queued := by
    simp [State.pending, inUse]
  have strays : ∀ other, State.Stray
      { s with
        mirror := apply input s.mirror message
        lines := Function.update s.lines line rest } other → s.Stray other :=
    State.stray_update rfl rfl (.inl inUse)
  unfold Covered at covered
  rw [pending] at covered
  unfold Covered
  rw [pendingAfter]
  obtain ⟨before, reset, after, split, brings, raises, older, earlier⟩ | ⟨brings, older⟩ := covered
  · cases before with
    | nil =>
        -- The reset itself arrives, and leaves everything that strays behind.
        obtain ⟨rfl, rfl⟩ := List.cons.inj split
        refine .inr ⟨brings s.mirror input, fun other stray => ?_⟩
        exact Nat.lt_of_lt_of_le (older other (strays other stray)) (raises input s.mirror)
    | cons first before =>
        obtain ⟨rfl, later⟩ := List.cons.inj split
        exact .inl ⟨before, reset, after, later, brings, raises,
          fun other stray => older other (strays other stray),
          fun other member => earlier other (List.mem_cons_of_mem _ member)⟩
  · refine .inr ⟨brings input, fun other stray => ?_⟩
    exact Nat.lt_of_lt_of_le (older other (strays other stray)) (reroutes.raised recent)

/-- A message strays in. -/
theorem Reroutes.covered_of_stray
    (reroutes : Reroutes step guard resyncs apply holds silent agree fresh resets stamp clock level
      same) (covered : Covered apply agree stamp level s) {line : Nat} {message : μ} {rest : List μ}
    (input : ι) (notInUse : s.current ≠ some line) (front : s.lines line = message :: rest)
    (recent : resets message = true → level s.mirror ≤ stamp message) :
    Covered apply agree stamp level
      { s with
        mirror := apply input s.mirror message
        lines := Function.update s.lines line rest } := by
  have pending : State.pending
      { s with
        mirror := apply input s.mirror message
        lines := Function.update s.lines line rest } = s.pending :=
    State.pending_update rfl rfl rfl notInUse
  have strays : ∀ other, State.Stray
      { s with
        mirror := apply input s.mirror message
        lines := Function.update s.lines line rest } other → s.Stray other := by
    refine State.stray_update rfl rfl (.inr fun other member => ?_)
    rw [front]
    exact List.mem_cons_of_mem _ member
  unfold Covered
  rw [pending]
  obtain ⟨before, reset, after, split, brings, raises, older, earlier⟩ | ⟨brings, older⟩ := covered
  · exact .inl ⟨before, reset, after, split, brings, raises,
      fun other stray => older other (strays other stray), earlier⟩
  · have outdated : stamp message < level s.mirror :=
      older message ⟨line, notInUse, by simp [front]⟩
    have notReset : resets message = false := by
      cases isReset : resets message with
      | false => rfl
      | true => exact absurd (recent isReset) (Nat.not_le.mpr outdated)
    have isSame : same s.mirror (apply input s.mirror message) :=
      reroutes.ignored notReset outdated
    refine .inr ⟨reroutes.brings_same isSame brings, fun other stray => ?_⟩
    rw [← reroutes.sameLevel isSame]
    exact older other (strays other stray)

theorem Reroutes.consistent_receive
    (reroutes : Reroutes step guard resyncs apply holds silent agree fresh resets stamp clock level
      same) (consistent : Consistent apply holds silent agree fresh stamp clock level s)
    {line : Nat} {message : μ} {rest : List μ} (input : ι) (front : s.lines line = message :: rest)
    (recent : resets message = true → level s.mirror ≤ stamp message) :
    Consistent apply holds silent agree fresh stamp clock level
      { s with
        mirror := apply input s.mirror message
        lines := Function.update s.lines line rest } := by
  refine
    { primary := consistent.primary
      queuedStamps := consistent.queuedStamps
      lineStamps := ?_
      quiet := ?_
      agreed := ?_ }
  · intro other
    by_cases isLine : other = line
    · subst other
      have before := consistent.lineStamps line
      rw [front, List.forall_mem_cons] at before
      simpa using before.2
    · simpa [Function.update_of_ne isLine] using consistent.lineStamps other
  · intro isSilent
    have none := (consistent.quiet isSilent).2.1 line
    rw [front] at none
    cases none
  · refine consistent.agreed.imp_right (Or.imp_right (Or.imp_right fun covered => ?_))
    by_cases inUse : s.current = some line
    · exact reroutes.covered_of_current covered input inUse front recent
    · exact reroutes.covered_of_stray covered input inUse front recent

theorem Reroutes.consistent_preserved
    (reroutes : Reroutes step guard resyncs apply holds silent agree fresh resets stamp clock level
      same) :
    Preserves (next step resyncs apply) (Admits guard resyncs resets stamp level)
      (Consistent apply holds silent agree fresh stamp clock level) := by
  intro s action s' consistent admitted stepped
  cases action with
  | handle event =>
      obtain ⟨⟨primary, emitted⟩, handled, done⟩ := bind_eq_ok.mp stepped
      cases done
      exact reroutes.consistent_handle consistent admitted.1 handled
  | send =>
      simp only [next] at stepped
      split at stepped
      next message rest line queue inUse =>
        cases stepped
        exact consistent.send queue inUse
      next =>
        cases stepped
        exact consistent
  | drop =>
      cases stepped
      refine { consistent with queuedStamps := ?_, quiet := ?_, agreed := .inl rfl }
      · exact fun message member =>
          consistent.queuedStamps message (List.mem_of_mem_tail member)
      · intro isSilent
        obtain ⟨noneQueued, rest⟩ := consistent.quiet isSilent
        exact ⟨by simp [noneQueued], rest⟩
  | fail =>
      cases stepped
      exact { consistent with agreed := .inl rfl }
  | reopen line =>
      cases stepped
      exact { consistent with agreed := .inr (.inr (.inl (Nat.succ_pos _))) }
  | lose line index =>
      cases stepped
      exact consistent.lose line index
  | receive line input =>
      simp only [next] at stepped
      split at stepped
      next =>
        cases stepped
        exact consistent
      next message rest front =>
        cases stepped
        refine reroutes.consistent_receive consistent input front fun isReset => ?_
        exact admitted message (by simp [front]) isReset

/-- A mirror at rest agrees with its primary, whatever still strays. -/
theorem Consistent.agree_of_atRest
    (consistent : Consistent apply holds silent agree fresh stamp clock level s)
    (atRest : s.AtRest) : agree s.mirror s.primary := by
  obtain ⟨line, inUse, empty⟩ := atRest.line
  have nothing : s.pending = [] := by simp [State.pending, inUse, empty, atRest.queued]
  obtain down | lossy | pending | covered := consistent.agreed
  · rw [inUse] at down
    cases down
  · rw [atRest.intact] at lossy
    cases lossy
  · exact absurd atRest.requests (Nat.ne_of_gt pending)
  · obtain ⟨before, reset, after, split, _⟩ | ⟨brings, _⟩ := covered
    · rw [nothing] at split
      exact absurd split (by simp)
    · rw [nothing] at brings
      exact brings

end Rerouting
