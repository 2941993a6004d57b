import TaskCoordinator.Library.Transition
import TaskCoordinator.Net.Framing

/-!
# Receiving from one connection again and again

The threads of the coordinator and of the worker call `receive_message_with_retry` on a
connection as long as it does not return `-1`.  The module follows such a connection over
any number of calls, with timeouts, and asks where in the stream of frames it stands.

Two places of `net_utils.cpp` leave the boundaries of the frames.  A header that times out
is read again from its first byte, so the bytes of it that had arrived are lost.  A size above the
limit returns `-3`, on which the callers go on, and the payload stays in the stream.
-/

namespace TaskCoordinator.Net

open Wire Transfer Serialization Transition

/-- A payload behind its size. -/
def frame (payload : Bytes) : Bytes :=
  writeU32 (UInt32.ofNat payload.length) ++ payload

/-- The size that the next four bytes announce. -/
def announced (stream : Bytes) : UInt32 :=
  ntohl (UInt32.ofNat (ofLittleEndian (stream.take 4)))

/-- One call of `receive_message_with_retry`, with the outcomes of its calls of `recv`. -/
structure ReceiveCall where
  retries : UInt32
  outcomes : List Outcome
  deriving DecidableEq, Repr

/-- Why the caller does not go on: the call has returned `-1`, or it has not returned with
exactly these outcomes. -/
inductive Ended where
  | closed
  | unfinished
  deriving DecidableEq, Repr

/-- The bytes that have not been consumed and what the calls have returned so far. -/
structure Connection where
  stream : Bytes
  receipts : List Receipt := []

namespace Connection

def receive (connection : Connection) (call : ReceiveCall) : Except Ended Connection :=
  match (receiveMessageWithRetry connection.stream call.retries).run call.outcomes with
  | some (receipt, []) =>
      if receipt.status = -1 then .error .closed
      else .ok { stream := receipt.stream, receipts := connection.receipts ++ [receipt] }
  | some (_, _ :: _) | none => .error .unfinished

/-- A positive status comes with the decoding of the payload. -/
def Reported (payload : Bytes) (receipt : Receipt) : Prop :=
  0 < receipt.status → receipt.status = payload.length ∧
    ∃ decoded left, Message.deserialize.run payload = some (decoded, left) ∧
      receipt.message = some decoded

/-- The bytes consumed end with a frame, and every call has reported one of the frames, in
their order. -/
def Framed (payloads : List Bytes) (connection : Connection) : Prop :=
  ∃ consumed left, payloads = consumed ++ left ∧ connection.stream = left.flatMap frame ∧
    List.Forall₂ Reported consumed connection.receipts

end Connection

/-- No timeout strikes when some but not all of the four bytes of a header have arrived. -/
def HeaderWhole (outcomes : List Outcome) : Prop :=
  ∀ index < outcomes.length, outcomes[index]? = some .timedOut →
    total (outcomes.take index) = 0 ∨ 4 ≤ total (outcomes.take index)

instance (outcomes : List Outcome) : Decidable (HeaderWhole outcomes) :=
  inferInstanceAs (Decidable (∀ index < outcomes.length, _))

/-- The header arrives whole and announces a size within the limit. -/
structure Connection.Admits (connection : Connection) (call : ReceiveCall) : Prop where
  headerWhole : HeaderWhole call.outcomes
  withinLimit : announced connection.stream ≤ maxMessageSize

instance (connection : Connection) (call : ReceiveCall) : Decidable (connection.Admits call) :=
  decidable_of_iff
    (HeaderWhole call.outcomes ∧ announced connection.stream ≤ maxMessageSize)
    ⟨fun ⟨headerWhole, withinLimit⟩ => ⟨headerWhole, withinLimit⟩,
      fun ⟨headerWhole, withinLimit⟩ => ⟨headerWhole, withinLimit⟩⟩

theorem HeaderWhole.timedOut {before pending : List Outcome}
    (whole : HeaderWhole (before ++ .timedOut :: pending)) :
    total before = 0 ∨ 4 ≤ total before := by
  have atTimeout := whole before.length (by simp) (by simp)
  rwa [List.take_left] at atTimeout

/-- What follows a timeout that has struck before anything has arrived. -/
theorem HeaderWhole.after {before pending : List Outcome}
    (whole : HeaderWhole (before ++ .timedOut :: pending)) (nothing : total before = 0) :
    HeaderWhole pending := by
  intro index inBounds isTimeout
  have later := whole (before.length + (index + 1))
    (by
      rw [List.length_append, List.length_cons]
      omega)
    (by
      rw [List.getElem?_append_right (by omega), Nat.add_sub_cancel_left]
      exact isTimeout)
  have taken : total ((before ++ .timedOut :: pending).take (before.length + (index + 1))) =
      total (pending.take index) := by
    rw [List.take_length_add_append, List.take_succ_cons, total, List.map_append, List.sum_append,
      List.map_cons, List.sum_cons]
    change total before + (0 + total (pending.take index)) = _
    omega
  rwa [taken] at later

/-! ## What one call does to the stream -/

variable {stream : Bytes} {outcomes pending : List Outcome}

theorem receiveAll_cuts {len : Nat} {arrived : Arrived}
    (ran : (receiveAll len stream).run outcomes = some (arrived, pending)) :
    arrived.bytes ++ arrived.stream = stream ∧
    ((arrived.status = -1) ∨
      (arrived.status = -2 ∧ (len ≤ stream.length ∨ stream = [] →
        ∃ before, outcomes = before ++ .timedOut :: pending ∧
          total before = arrived.bytes.length ∧ arrived.bytes.length < len)) ∨
      (arrived.status = castInt len ∧ arrived.bytes.length = len)) := by
  obtain ⟨result, middle, ranTransfer, isArrived⟩ := run_bind_eq_some.mp ran
  obtain ⟨rfl, rfl⟩ := run_pure_eq_some.mp isArrived
  obtain ⟨cut, complete, timedOut⟩ := transferAll_cuts ranTransfer
  refine ⟨cut, ?_⟩
  cases ending : result.ending with
  | complete => exact .inr (.inr ⟨by simp only [status], complete ending⟩)
  | timedOut => exact .inr (.inl ⟨rfl, timedOut ending⟩)
  | failed => exact .inl rfl

/-- What a header that has arrived says. -/
def headerOf (stream : Bytes) : Header :=
  { status := if announced stream = 0 ∨ maxMessageSize < announced stream then -3 else 1
    payloadSize := announced stream
    stream := stream.drop 4 }

theorem headerOf_invalid (invalid : announced stream = 0 ∨ maxMessageSize < announced stream) :
    (headerOf stream).status = -3 :=
  if_pos invalid

theorem headerOf_valid (valid : ¬ (announced stream = 0 ∨ maxMessageSize < announced stream)) :
    (headerOf stream).status = 1 :=
  if_neg valid

theorem getPayloadSize_cuts {header : Header} (whole : 4 ≤ stream.length ∨ stream = [])
    (ran : (getPayloadSize stream).run outcomes = some (header, pending)) :
    header.status = -1 ∨
    (header.status = -2 ∧ ∃ before, outcomes = before ++ .timedOut :: pending ∧
      total before < 4 ∧ (total before = 0 → header.stream = stream)) ∨
    (4 ≤ stream.length ∧ header = headerOf stream) := by
  obtain ⟨arrived, middle, ranArrive, ranRest⟩ := run_bind_eq_some.mp ran
  obtain ⟨cut, ended⟩ := receiveAll_cuts ranArrive
  rcases ended with failed | ⟨timedOut, explained⟩ | ⟨complete, length⟩
  · simp only [failed] at ranRest
    obtain ⟨rfl, _⟩ := run_pure_eq_some.mp ranRest
    exact .inl rfl
  · simp only [timedOut, if_true] at ranRest
    obtain ⟨rfl, rfl⟩ := run_pure_eq_some.mp ranRest
    obtain ⟨before, split, offered, less⟩ := explained whole
    refine .inr (.inl ⟨rfl, before, split, by omega, fun nothing => ?_⟩)
    have empty : arrived.bytes = [] := List.length_eq_zero_iff.mp (by omega)
    rw [empty] at cut
    exact cut
  · rw [if_neg (by rw [complete]; exact castInt_ne_timeout (by norm_num)),
      if_neg (by rw [complete]; exact castInt_pos (by norm_num) (by norm_num))] at ranRest
    have bytes : stream.take 4 = arrived.bytes := by
      rw [← cut, List.take_left' length]
    have rest : stream.drop 4 = arrived.stream := by
      rw [← cut, List.drop_left' length]
    have available : 4 ≤ stream.length := by
      rw [← cut, List.length_append]
      omega
    refine .inr (.inr ⟨available, ?_⟩)
    rw [headerOf, announced, bytes, rest]
    dsimp only at ranRest
    split at ranRest
    next invalid =>
      obtain ⟨rfl, _⟩ := run_pure_eq_some.mp ranRest
      rw [if_pos invalid]
    next valid =>
      obtain ⟨rfl, _⟩ := run_pure_eq_some.mp ranRest
      rw [if_neg valid]

/-- A header that is there is read once there have been four moves. -/
theorem getPayloadSize_reads (available : 4 ≤ stream.length) :
    Completes (getPayloadSize stream) 4 (· = headerOf stream) := by
  refine Completes.bind_of_zero (receiveAll_completes available) fun arrived isArrived => ?_
  subst isArrived
  rw [if_neg (castInt_ne_timeout (by norm_num)), if_neg (castInt_pos (by norm_num) (by norm_num))]
  unfold headerOf announced
  dsimp only
  split
  next => exact Completes.pure rfl
  next => exact Completes.pure rfl

/-- Attempts that have found nothing leave the stream as it was for the next one. -/
theorem headerAttempts_cuts {retries retry : UInt32} {fuel : Nat} {last header : Header}
    (whole : 4 ≤ last.stream.length ∨ last.stream = []) (headerWhole : HeaderWhole outcomes)
    (lastFailed : last.status = -1 ∨ last.status = -2)
    (ran : (headerAttempts retries fuel retry last).run outcomes = some (header, pending)) :
    header.status = -1 ∨ header.status = -2 ∨
      (4 ≤ last.stream.length ∧ header = headerOf last.stream) := by
  induction fuel generalizing retry last outcomes with
  | zero => cases ran
  | succ fuel ih =>
      rw [headerAttempts] at ran
      split at ran
      next =>
        obtain ⟨first, middle, ranFirst, ranRest⟩ := run_bind_eq_some.mp ran
        rcases getPayloadSize_cuts whole ranFirst with
          failed | ⟨timedOut, before, rfl, less, unmoved⟩ | ⟨available, rfl⟩
        · rw [if_neg (by omega)] at ranRest
          obtain ⟨rfl, _⟩ := run_pure_eq_some.mp ranRest
          exact .inl failed
        · rw [if_pos timedOut] at ranRest
          have nothing : total before = 0 := headerWhole.timedOut.resolve_right (by omega)
          rw [← unmoved nothing] at whole ⊢
          exact ih whole (headerWhole.after nothing) (.inr timedOut) ranRest
        · have notTimedOut : ¬ (headerOf last.stream).status = -2 := by
            simp only [headerOf]
            split <;> omega
          rw [if_neg notTimedOut] at ranRest
          obtain ⟨rfl, _⟩ := run_pure_eq_some.mp ranRest
          exact .inr (.inr ⟨available, rfl⟩)
      next =>
        obtain ⟨rfl, _⟩ := run_pure_eq_some.mp ran
        exact lastFailed.imp_right .inl

/-- A payload that has arrived is decoded, and the stream is left behind it. -/
theorem receivePayload_cuts {header : Header} {receipt : Receipt}
    (ran : (receivePayload header (-1)).run outcomes = some (receipt, pending)) :
    receipt.status = -1 ∨ ∃ payload decoded left,
      payload.length = header.payloadSize.toNat ∧ payload ++ receipt.stream = header.stream ∧
      Message.deserialize.run payload = some (decoded, left) ∧
      receipt.message = some decoded ∧ receipt.status = castInt header.payloadSize.toNat := by
  obtain ⟨arrived, middle, ranArrive, ranRest⟩ := run_bind_eq_some.mp ran
  obtain ⟨cut, ended⟩ := receiveAll_cuts ranArrive
  split at ranRest
  next =>
    obtain ⟨rfl, _⟩ := run_pure_eq_some.mp ranRest
    exact .inl rfl
  next notTimedOut =>
    split at ranRest
    next =>
      obtain ⟨rfl, _⟩ := run_pure_eq_some.mp ranRest
      exact .inl rfl
    next positive =>
      rcases ended with failed | ⟨timedOut, _⟩ | ⟨_, length⟩
      · omega
      · exact absurd timedOut notTimedOut
      · split at ranRest
        next decoded left decodes =>
          obtain ⟨rfl, _⟩ := run_pure_eq_some.mp ranRest
          right
          exact ⟨arrived.bytes, decoded, left, length, cut, decodes, rfl, by simp only⟩
        next => cases ranRest

/-- A call that returns anything but `-1` has read the header and, if that is valid, the
payload behind it. -/
theorem receiveMessageWithRetry_cuts {retries : UInt32} {receipt : Receipt}
    (whole : 4 ≤ stream.length ∨ stream = []) (headerWhole : HeaderWhole outcomes)
    (ran : (receiveMessageWithRetry stream retries).run outcomes = some (receipt, pending)) :
    receipt.status = -1 ∨
    (4 ≤ stream.length ∧ receipt.status = -3 ∧ receipt.stream = stream.drop 4 ∧
      (announced stream = 0 ∨ maxMessageSize < announced stream)) ∨
    ∃ payload decoded left, 4 ≤ stream.length ∧ announced stream ≤ maxMessageSize ∧
      payload.length = (announced stream).toNat ∧ payload ++ receipt.stream = stream.drop 4 ∧
      Message.deserialize.run payload = some (decoded, left) ∧
      receipt.message = some decoded ∧ receipt.status = castInt (announced stream).toNat := by
  obtain ⟨header, middle, ranHeader, ranRest⟩ := run_bind_eq_some.mp ran
  rcases headerAttempts_cuts whole headerWhole (.inl rfl) ranHeader with 
    failed | timedOut | ⟨available, isHeader⟩
  · rw [if_neg (by omega), if_neg (by omega)] at ranRest
    obtain ⟨rfl, _⟩ := run_pure_eq_some.mp ranRest
    exact .inl failed
  · rw [if_neg (by omega), if_pos timedOut] at ranRest
    obtain ⟨rfl, _⟩ := run_pure_eq_some.mp ranRest
    exact .inl rfl
  · change header = headerOf stream at isHeader
    subst isHeader
    by_cases invalid : announced stream = 0 ∨ maxMessageSize < announced stream
    · have isInvalid := headerOf_invalid invalid
      rw [if_neg (by omega), if_neg (by omega)] at ranRest
      obtain ⟨rfl, _⟩ := run_pure_eq_some.mp ranRest
      exact .inr (.inl ⟨available, isInvalid, rfl, invalid⟩)
    · have isValid := headerOf_valid invalid
      rw [if_pos isValid] at ranRest
      rcases receivePayload_cuts ranRest with failed | ⟨payload, decoded, left, decodes⟩
      · exact .inl failed
      · have withinLimit := UInt32.not_lt.mp (not_or.mp invalid).2
        exact .inr (.inr ⟨payload, decoded, left, available, withinLimit, decodes⟩)

/-! ## What a run of calls does to the stream -/

section Frames

variable {payload rest : Bytes}

theorem announced_frame (payload rest : Bytes) :
    announced (frame payload ++ rest) = UInt32.ofNat payload.length := by
  rw [announced, frame, List.append_assoc, List.take_left' (length_writeU32 _), ntohl_writeU32]

theorem drop_frame (payload rest : Bytes) : (frame payload ++ rest).drop 4 = payload ++ rest := by
  rw [frame, List.append_assoc, List.drop_left' (length_writeU32 _)]

theorem length_frame (payload : Bytes) : (frame payload).length = 4 + payload.length := by
  rw [frame, List.length_append, length_writeU32]

theorem toNat_announced (small : payload.length < 2 ^ 32) :
    (announced (frame payload ++ rest)).toNat = payload.length := by
  rw [announced_frame]
  exact UInt32.toNat_ofNat_of_lt' small

end Frames

namespace Connection

variable {payloads : List Bytes} {connection next : Connection} {call : ReceiveCall}

theorem receive_eq_ok (received : connection.receive call = .ok next) :
    ∃ receipt, (receiveMessageWithRetry connection.stream call.retries).run call.outcomes =
        some (receipt, []) ∧
      receipt.status ≠ -1 ∧
      next = ⟨receipt.stream, connection.receipts ++ [receipt]⟩ := by
  unfold receive at received
  split at received
  next receipt ran =>
    split at received
    next => cases received
    next goesOn =>
      cases received
      exact ⟨receipt, ran, goesOn, rfl⟩
  next => cases received
  next => cases received

/-- What a call finds at the beginning of a frame. -/
structure AtFrame (stream payload rest : Bytes) : Prop where
  size : (announced stream).toNat = payload.length
  behind : stream.drop 4 = payload ++ rest
  whole : 4 ≤ stream.length

theorem atFrame_of_eq {stream payload rest : Bytes} (small : payload.length < 2 ^ 32)
    (isFrame : stream = frame payload ++ rest) : AtFrame stream payload rest := by
  subst isFrame
  exact ⟨toNat_announced small, drop_frame payload rest, by simp [frame]⟩

/-- The frames behind some position never have the length that is left when only the header of
one more frame has been consumed. -/
theorem length_suffix_ne {consumed consumed' left left' : List Bytes} {payload : Bytes}
    (nonempty : 0 < payload.length) (same : consumed ++ payload :: left = consumed' ++ left') :
    (left'.flatMap frame).length ≠ payload.length + (left.flatMap frame).length := by
  rcases List.append_eq_append_iff.mp same with ⟨more, _, isLeft⟩ | ⟨more, _, isLeft⟩
  · cases more with
    | nil =>
        rw [List.nil_append] at isLeft
        rw [← isLeft, List.flatMap_cons, List.length_append, length_frame]
        omega
    | cons first more =>
        rw [List.cons_append] at isLeft
        obtain ⟨_, isLater⟩ := List.cons.inj isLeft
        rw [isLater, List.flatMap_append, List.length_append]
        omega
  · rw [isLeft, List.flatMap_append, List.flatMap_cons, List.length_append, List.length_append,
      length_frame]
    omega

/-- One call consumes one frame. -/
theorem framed_receive (sizes : ∀ payload ∈ payloads, payload.length < 2 ^ 32)
    (framed : Framed payloads connection) (admits : connection.Admits call)
    (received : connection.receive call = .ok next) : Framed payloads next := by
  obtain ⟨consumed, left, rfl, isStream, reported⟩ := framed
  obtain ⟨receipt, ran, goesOn, rfl⟩ := receive_eq_ok received
  cases left with
  | nil =>
      have empty : connection.stream = [] := isStream
      rw [empty] at ran
      rcases receiveMessageWithRetry_cuts (.inr rfl) admits.headerWhole ran with
        failed | ⟨available, _⟩ | ⟨_, _, _, available, _⟩
      · exact absurd failed goesOn
      · cases available
      · cases available
  | cons payload left =>
      rw [List.flatMap_cons] at isStream
      obtain ⟨size, behind, whole⟩ := atFrame_of_eq (sizes payload (by simp)) isStream
      have split : consumed ++ payload :: left = (consumed ++ [payload]) ++ left := by simp
      rcases receiveMessageWithRetry_cuts (.inl whole) admits.headerWhole ran with
        failed | ⟨_, invalid, stream, outside⟩ |
          ⟨body, decoded, unread, _, _, length, stream, decodes, message, status⟩
      · exact absurd failed goesOn
      · have isZero : announced connection.stream = 0 :=
          outside.resolve_right (UInt32.not_lt.mpr admits.withinLimit)
        have empty : payload = [] := by
          rw [← List.length_eq_zero_iff, ← size, isZero]
          rfl
        refine ⟨consumed ++ [payload], left, split, ?_, ?_⟩
        · rw [stream, behind, empty, List.nil_append]
        · refine List.rel_append reported (.cons (fun positive => ?_) .nil)
          omega
      · rw [behind] at stream
        rw [size] at length status
        obtain ⟨rfl, isRest⟩ := List.append_inj stream length
        have limited : body.length ≤ 2 ^ 27 := by
          rw [← size]
          exact UInt32.le_iff_toNat_le.mp admits.withinLimit
        refine ⟨consumed ++ [body], left, split, isRest, ?_⟩
        refine List.rel_append reported
          (.cons (fun _ => ⟨?_, decoded, unread, decodes, message⟩) .nil)
        rw [status, castInt_of_lt (by omega)]

/-- The payload behind a size above the limit stays in the stream, so the connection stands
inside a frame. -/
theorem not_framed_of_exceeds (sizes : ∀ payload ∈ payloads, payload.length < 2 ^ 32)
    (framed : Framed payloads connection) (headerWhole : HeaderWhole call.outcomes)
    (exceeds : maxMessageSize < announced connection.stream)
    (received : connection.receive call = .ok next) : ¬ Framed payloads next := by
  obtain ⟨consumed, left, isSplit, isStream, _⟩ := framed
  obtain ⟨receipt, ran, goesOn, rfl⟩ := receive_eq_ok received
  cases left with
  | nil =>
      rw [isStream] at exceeds
      exact absurd exceeds (by decide)
  | cons payload left =>
      rw [List.flatMap_cons] at isStream
      obtain ⟨size, behind, whole⟩ := atFrame_of_eq (sizes payload (by simp [isSplit])) isStream
      have large : 2 ^ 27 < payload.length := by
        rw [← size]
        exact UInt32.lt_iff_toNat_lt.mp exceeds
      have stream : receipt.stream = payload ++ left.flatMap frame := by
        rcases receiveMessageWithRetry_cuts (.inl whole) headerWhole ran with
          failed | ⟨_, _, stream, _⟩ | ⟨_, _, _, _, withinLimit, _⟩
        · exact absurd failed goesOn
        · rw [stream, behind]
        · exact absurd exceeds (UInt32.not_lt.mpr withinLimit)
      rintro ⟨consumedNow, leftNow, isSplitNow, isStreamNow, _⟩
      have sameLength : (leftNow.flatMap frame).length =
          payload.length + (left.flatMap frame).length := by
        rw [← isStreamNow, stream, List.length_append]
      exact length_suffix_ne (Nat.zero_lt_of_lt large) (isSplit.symm.trans isSplitNow) sameLength

/-- As long as headers arrive whole, a call keeps to the boundaries exactly when the frame it
meets is not above the limit. -/
theorem framed_receive_iff (sizes : ∀ payload ∈ payloads, payload.length < 2 ^ 32)
    (framed : Framed payloads connection) (headerWhole : HeaderWhole call.outcomes)
    (received : connection.receive call = .ok next) :
    Framed payloads next ↔ announced connection.stream ≤ maxMessageSize := by
  constructor
  · intro framedNext
    by_contra exceeds
    exact not_framed_of_exceeds sizes framed headerWhole (UInt32.not_le.mp exceeds) received
      framedNext
  · intro withinLimit
    exact framed_receive sizes framed ⟨headerWhole, withinLimit⟩ received

/-- A connection that is used as long as no call returns `-1` stays at the boundaries of its
frames, if every header arrives whole or not at all before each timeout and no frame that a call
meets is larger than the limit. -/
theorem framed_of_run (sizes : ∀ payload ∈ payloads, payload.length < 2 ^ 32)
    {calls : List ReceiveCall} {final : Connection}
    (admitted : Along receive Admits ⟨payloads.flatMap frame, []⟩ calls)
    (ran : run receive ⟨payloads.flatMap frame, []⟩ calls = .ok final) :
    Framed payloads final := by
  have preserved : Preserves receive Admits (Framed payloads) :=
    fun connection call next framed admits received =>
      (framed_receive_iff sizes framed admits.headerWhole received).mpr admits.withinLimit
  exact preserved.run ⟨[], payloads, rfl, rfl, .nil⟩ admitted ran

/-- The payload of a request of the monitoring tool. -/
def topPayload : Bytes :=
  topRequest.serialize id

/-- Timeouts before a header and a frame without a payload. -/
theorem framed_after_timeouts :
    ∃ final, run receive ⟨[topPayload, [], topPayload].flatMap frame, []⟩
        [⟨2, [.timedOut, .interrupted, .moved 3, .moved 1, .moved 9]⟩, ⟨0, [.moved 7]⟩] =
          .ok final ∧
      final.receipts.map Receipt.status = [9, -3] ∧
      Framed [topPayload, [], topPayload] final := by
  have sizes : ∀ payload ∈ [topPayload, [], topPayload], payload.length < 2 ^ 32 := by
    decide +kernel
  have admitted : Along receive Admits ⟨[topPayload, [], topPayload].flatMap frame, []⟩
      [⟨2, [.timedOut, .interrupted, .moved 3, .moved 1, .moved 9]⟩, ⟨0, [.moved 7]⟩] := by
    decide +kernel
  have statuses : ∃ final, run receive ⟨[topPayload, [], topPayload].flatMap frame, []⟩
        [⟨2, [.timedOut, .interrupted, .moved 3, .moved 1, .moved 9]⟩, ⟨0, [.moved 7]⟩] =
          .ok final ∧ final.receipts.map Receipt.status = [9, -3] := by
    decide +kernel
  obtain ⟨final, ran, isStatuses⟩ := statuses
  exact ⟨final, ran, isStatuses, framed_of_run sizes admitted ran⟩

/-- A timeout after three bytes of a header: the next four bytes are taken for a size, the call
returns `-3`, and the connection stands inside the frame. -/
theorem torn_header_misframes :
    ∃ final, run receive ⟨[topPayload].flatMap frame, []⟩
        [⟨1, [.moved 3, .timedOut, .moved 4]⟩] = .ok final ∧
      final.receipts.map Receipt.status = [-3] ∧ ¬ Framed [topPayload] final := by
  have ends : ∃ final, run receive ⟨[topPayload].flatMap frame, []⟩
        [⟨1, [.moved 3, .timedOut, .moved 4]⟩] = .ok final ∧
      final.receipts.map Receipt.status = [-3] ∧ final.stream.length = 6 := by
    decide +kernel
  obtain ⟨final, ran, isStatus, length⟩ := ends
  refine ⟨final, ran, isStatus, ?_⟩
  rintro ⟨consumed, left, split, isStream, _⟩
  rw [isStream] at length
  cases consumed with
  | nil =>
      rw [List.nil_append] at split
      rw [← split] at length
      exact absurd length (by decide +kernel)
  | cons first consumed =>
      have noneLeft : left = [] := by
        have counted := congrArg List.length split
        rw [← List.length_eq_zero_iff]
        simp only [List.length_cons, List.length_nil, List.length_append] at counted
        omega
      rw [noneLeft] at length
      cases length

end Connection

end TaskCoordinator.Net
