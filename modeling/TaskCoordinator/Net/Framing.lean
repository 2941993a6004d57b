import TaskCoordinator.Library.Transfer
import TaskCoordinator.Serialization.Messages

/-!
# Frames on a connection

`net_utils.cpp`: a message goes out as a frame, which is the size of its payload in 32 bits
and the payload.  The functions are computations over the outcomes of the calls of `send` or
`recv`.  The sending ones return the bytes that the socket has accepted over all their calls;
the receiving ones take the bytes that are in the stream and return those they leave there.

A status is the integer that the source returns: a size when positive, `-2` for a timeout,
`-1` for a failure or a closed connection, `-3` for an impossible size.
-/

namespace TaskCoordinator.Net

open Wire Transfer Serialization

/-- `static_cast<int>` of a size. -/
def castInt (size : Nat) : Int :=
  (size : Int).bmod (2 ^ 32)

theorem castInt_of_lt {size : Nat} (small : size < 2 ^ 31) : castInt size = size := by
  unfold castInt
  apply Int.bmod_eq_of_le
  · norm_num
  · norm_num
    omega

theorem castInt_ne_timeout {size : Nat} (small : size < 2 ^ 31) : castInt size ≠ -2 := by
  rw [castInt_of_lt small]
  omega

theorem castInt_pos {size : Nat} (nonempty : 0 < size) (small : size < 2 ^ 31) :
    ¬ castInt size ≤ 0 := by
  rw [castInt_of_lt small]
  omega

/-- What the loops of `send_all` and `receive_all` return. -/
def status (len : Nat) : Ending → Int
  | .complete => castInt len
  | .timedOut => -2
  | .failed => -1

/-! ## Sending -/

/-- The status of a sending function and the bytes that the socket has accepted. -/
structure Sent where
  status : Int
  accepted : Bytes := []
  deriving DecidableEq, Repr

def sendAll (buffer : Bytes) : Reader Outcome Sent := do
  let result ← transferAll buffer.length buffer
  pure { status := status buffer.length result.ending, accepted := result.moved }

/-- The frame of a message: the size is reserved first and filled in last. -/
def prepareSendBuffer (order : List TaskId → List TaskId) (msg : Message) : Bytes :=
  let buffer := writeU32 0 ++ msg.serialize order
  writeU32 (UInt32.ofNat (buffer.length - 4)) ++ buffer.drop 4

def sendMessage (order : List TaskId → List TaskId) (msg : Message) : Reader Outcome Sent := do
  let sent ← sendAll (prepareSendBuffer order msg)
  if sent.status = -2 then pure { sent with status := -2 }
  else if sent.status ≤ 0 then pure { sent with status := -1 }
  else pure sent

/-- The attempts from the given one on.  The counter has 32 bits. -/
def sendAttempts (buffer : Bytes) (retries : UInt32) : Nat → UInt32 → Reader Outcome Sent
  | 0, _ => fun _ => none
  | fuel + 1, retry =>
      if retry ≤ retries then do
        let sent ← sendAll buffer
        if sent.status = -2 then do
          let later ← sendAttempts buffer retries fuel (retry + 1)
          pure { later with accepted := sent.accepted ++ later.accepted }
        else if sent.status ≤ 0 then pure { sent with status := -1 }
        else pure sent
      else pure { status := -1 }

/-- Every attempt makes at least one call, so the outcomes bound the number of attempts. -/
def sendMessageWithRetry (order : List TaskId → List TaskId) (msg : Message) (retries : UInt32) :
    Reader Outcome Sent :=
  fun outcomes =>
    sendAttempts (prepareSendBuffer order msg) retries (outcomes.length + 1) 0 outcomes

/-! ## Receiving -/

/-- The status of `receive_all`, the bytes it has put into its buffer and the stream after. -/
structure Arrived where
  status : Int
  bytes : Bytes
  stream : Bytes

def receiveAll (len : Nat) (stream : Bytes) : Reader Outcome Arrived := do
  let result ← transferAll len stream
  pure { status := status len result.ending, bytes := result.moved, stream := result.source }

/-- The status of a receiving function, what it returns by reference and the stream after. -/
structure Header where
  status : Int
  payloadSize : UInt32 := 0
  stream : Bytes

def maxMessageSize : UInt32 :=
  (1 : UInt32) <<< 27

def getPayloadSize (stream : Bytes) : Reader Outcome Header := do
  let arrived ← receiveAll 4 stream
  if arrived.status = -2 then pure { status := -2, stream := arrived.stream }
  else if arrived.status ≤ 0 then pure { status := -1, stream := arrived.stream }
  else
    let payloadSize := ntohl (UInt32.ofNat (ofLittleEndian arrived.bytes))
    if payloadSize = 0 ∨ maxMessageSize < payloadSize then
      pure { status := -3, payloadSize, stream := arrived.stream }
    else pure { status := 1, payloadSize, stream := arrived.stream }

structure Receipt where
  status : Int
  message : Option Message := none
  stream : Bytes

/-- The payload after its header.  A failed assertion of the reader ends the program, and the
call has no result. -/
def receivePayload (header : Header) (onTimeout : Int) : Reader Outcome Receipt := do
  let arrived ← receiveAll header.payloadSize.toNat header.stream
  if arrived.status = -2 then pure { status := onTimeout, stream := arrived.stream }
  else if arrived.status ≤ 0 then pure { status := -1, stream := arrived.stream }
  else
    match Message.deserialize.run arrived.bytes with
    | some (msg, _) =>
        pure { status := castInt header.payloadSize.toNat, message := some msg,
               stream := arrived.stream }
    | none => fun _ => none

/-- The attempts to get a header from the given one on.  When they are used up, the status of
the last one stands. -/
def headerAttempts (retries : UInt32) : Nat → UInt32 → Header → Reader Outcome Header
  | 0, _, _ => fun _ => none
  | fuel + 1, retry, last =>
      if retry ≤ retries then do
        let header ← getPayloadSize last.stream
        if header.status = -2 then headerAttempts retries fuel (retry + 1) header
        else pure header
      else pure last

def receiveHeader (stream : Bytes) (retries : UInt32) : Reader Outcome Header :=
  fun outcomes => headerAttempts retries (outcomes.length + 1) 0 { status := -1, stream } outcomes

def receiveMessageWithRetry (stream : Bytes) (retries : UInt32) : Reader Outcome Receipt := do
  let header ← receiveHeader stream retries
  if header.status = 1 then receivePayload header (-1)
  else if header.status = -2 then pure { status := -1, stream := header.stream }
  else pure { status := header.status, stream := header.stream }

/-! ## Fragmentation -/

section Frames

variable (order : List TaskId → List TaskId) {msg : Message}

theorem prepareSendBuffer_eq (msg : Message) :
    prepareSendBuffer order msg =
      writeU32 (UInt32.ofNat (msg.serialize order).length) ++ msg.serialize order := by
  have payload : (writeU32 0 ++ msg.serialize order).drop 4 = msg.serialize order :=
    List.drop_left' (length_writeU32 0)
  have size : (writeU32 0 ++ msg.serialize order).length - 4 = (msg.serialize order).length := by
    rw [List.length_append, length_writeU32, Nat.add_sub_cancel_left]
  simp only [prepareSendBuffer, payload, size]

theorem length_prepareSendBuffer (msg : Message) :
    (prepareSendBuffer order msg).length = 4 + (msg.serialize order).length := by
  simp [prepareSendBuffer_eq]

theorem length_serialize_pos (msg : Message) : 0 < (msg.serialize order).length := by
  simp [Message.serialize]

end Frames

theorem sendAll_completes (buffer : Bytes) :
    Completes (sendAll buffer) buffer.length (· = ⟨castInt buffer.length, buffer⟩) := by
  refine Completes.bind_of_zero (transferAll_completes le_rfl) fun result isResult => ?_
  subst isResult
  exact Completes.pure (by simp [status])

theorem receiveAll_completes {len : Nat} {stream : Bytes} (available : len ≤ stream.length) :
    Completes (receiveAll len stream) len
      (· = ⟨castInt len, stream.take len, stream.drop len⟩) := by
  refine Completes.bind_of_zero (transferAll_completes available) fun result isResult => ?_
  subst isResult
  exact Completes.pure rfl

/-- Without timeouts the first attempt sends the buffer. -/
theorem sendAttempts_completes {buffer : Bytes} (nonempty : 0 < buffer.length)
    (small : buffer.length < 2 ^ 31) (retries : UInt32) (fuel : Nat) :
    Completes (sendAttempts buffer retries (fuel + 1) 0) buffer.length
      (· = ⟨buffer.length, buffer⟩) := by
  have first : (0 : UInt32) ≤ retries := UInt32.zero_le
  rw [sendAttempts, if_pos first]
  refine Completes.bind_of_zero (sendAll_completes buffer) fun sent isSent => ?_
  subst isSent
  rw [if_neg (castInt_ne_timeout small), if_neg (castInt_pos nonempty small)]
  exact Completes.pure (by rw [castInt_of_lt small])

section Calls

/-- A call that sends a message, with `send_message` or, when there is a number of retries,
with `send_message_with_retry`.  The order is the one in which the tasks of a snapshot are
visited. -/
structure SendCall where
  order : List TaskId → List TaskId
  msg : Message
  retries : Option UInt32

namespace SendCall

def payload (call : SendCall) : Bytes :=
  call.msg.serialize call.order

def frame (call : SendCall) : Bytes :=
  prepareSendBuffer call.order call.msg

def send (call : SendCall) : Reader Outcome Sent :=
  match call.retries with
  | none => sendMessage call.order call.msg
  | some retries => sendMessageWithRetry call.order call.msg retries

/-- The message can be sent: its payload is no larger than the receiver accepts. -/
structure Sendable (call : SendCall) : Prop where
  workersFit : call.msg.body.WorkersFit
  small : call.payload.length ≤ 2 ^ 27

variable {call : SendCall}

theorem length_frame (call : SendCall) : call.frame.length = 4 + call.payload.length :=
  length_prepareSendBuffer call.order call.msg

theorem length_payload_pos (call : SendCall) : 0 < call.payload.length :=
  length_serialize_pos call.order call.msg

theorem toNat_payloadSize (sendable : call.Sendable) :
    (UInt32.ofNat call.payload.length).toNat = call.payload.length := by
  apply UInt32.toNat_ofNat_of_lt'
  have small := sendable.small
  show call.payload.length < 2 ^ 32
  omega

theorem send_completes (sendable : call.Sendable) :
    Completes call.send call.frame.length (· = ⟨call.frame.length, call.frame⟩) := by
  have small := sendable.small
  have size := length_frame call
  have nonempty : 0 < call.frame.length := by omega
  have castable : call.frame.length < 2 ^ 31 := by omega
  unfold send
  split
  next =>
    refine Completes.bind_of_zero (sendAll_completes call.frame) fun sent isSent => ?_
    subst isSent
    rw [if_neg (castInt_ne_timeout castable), if_neg (castInt_pos nonempty castable)]
    exact Completes.pure (by rw [castInt_of_lt castable])
  next retries _ =>
    intro outcomes steady
    exact sendAttempts_completes nonempty castable retries outcomes.length outcomes steady

end SendCall

/-- Calls one after another on one connection. -/
def sendMessages : List SendCall → Reader Outcome (List Sent)
  | [] => pure []
  | call :: calls => do
      let sent ← call.send
      let later ← sendMessages calls
      pure (sent :: later)

/-- Calls of `receive_message_with_retry` one after another, each with its retries. -/
def receiveMessages (stream : Bytes) : List UInt32 → Reader Outcome (List Receipt)
  | [] => pure []
  | retries :: later => do
      let receipt ← receiveMessageWithRetry stream retries
      let receipts ← receiveMessages receipt.stream later
      pure (receipt :: receipts)

theorem sendMessages_completes {calls : List SendCall}
    (sendable : ∀ call ∈ calls, call.Sendable) :
    Completes (sendMessages calls) (calls.flatMap SendCall.frame).length
      (· = calls.map fun call => ⟨call.frame.length, call.frame⟩) := by
  induction calls with
  | nil => exact Completes.pure rfl
  | cons call calls ih =>
      rw [List.flatMap_cons, List.length_append]
      refine Completes.bind (SendCall.send_completes (sendable call (by simp))) fun sent isSent => ?_
      subst isSent
      refine Completes.bind_of_zero (ih fun other member => sendable other (by simp [member]))
        fun later isLater => ?_
      subst isLater
      exact Completes.pure rfl

/-- The header of a frame gives the size of the payload. -/
theorem getPayloadSize_completes {call : SendCall} (sendable : call.Sendable) (rest : Bytes) :
    Completes (getPayloadSize (call.frame ++ rest)) 4
      (· = ⟨1, UInt32.ofNat call.payload.length, call.payload ++ rest⟩) := by
  have parts : call.frame ++ rest =
      writeU32 (UInt32.ofNat call.payload.length) ++ (call.payload ++ rest) := by
    rw [SendCall.frame, prepareSendBuffer_eq, List.append_assoc]
    rfl
  have available : 4 ≤ (call.frame ++ rest).length := by
    rw [List.length_append, SendCall.length_frame]
    omega
  have sizeOk : ¬ (UInt32.ofNat call.payload.length = 0 ∨
      maxMessageSize < UInt32.ofNat call.payload.length) := by
    have small := sendable.small
    have positive := SendCall.length_payload_pos call
    have size := SendCall.toNat_payloadSize sendable
    have limit : maxMessageSize.toNat = 2 ^ 27 := rfl
    rw [← UInt32.toNat_inj, UInt32.lt_iff_toNat_lt, size, limit, UInt32.toNat_zero]
    omega
  refine Completes.bind_of_zero (receiveAll_completes available) fun arrived isArrived => ?_
  subst isArrived
  rw [if_neg (castInt_ne_timeout (by norm_num)), if_neg (castInt_pos (by norm_num) (by norm_num))]
  simp only [parts, List.take_left' (length_writeU32 _), List.drop_left' (length_writeU32 _),
    ntohl_writeU32, sizeOk, if_false]
  exact Completes.pure rfl

theorem receiveHeader_completes {call : SendCall} (sendable : call.Sendable) (rest : Bytes)
    (retries : UInt32) :
    Completes (receiveHeader (call.frame ++ rest) retries) 4
      (· = ⟨1, UInt32.ofNat call.payload.length, call.payload ++ rest⟩) := by
  intro outcomes
  have first : (0 : UInt32) ≤ retries := UInt32.zero_le
  unfold receiveHeader
  rw [StateT.run, headerAttempts, if_pos first]
  refine Completes.bind_of_zero (getPayloadSize_completes sendable rest)
    (fun header isHeader => ?_) outcomes
  subst isHeader
  exact Completes.pure rfl

/-- After its header a payload is received whole, and the stream is left right after it. -/
theorem receivePayload_completes {call : SendCall} (sendable : call.Sendable) {decoded : Message}
    (decodes : Message.deserialize.run call.payload = some (decoded, [])) (rest : Bytes)
    (onTimeout : Int) :
    Completes
      (receivePayload ⟨1, UInt32.ofNat call.payload.length, call.payload ++ rest⟩ onTimeout)
      call.payload.length (· = ⟨call.payload.length, some decoded, rest⟩) := by
  have small := sendable.small
  have positive := SendCall.length_payload_pos call
  have castable : call.payload.length < 2 ^ 31 := by omega
  simp only [receivePayload, SendCall.toNat_payloadSize sendable]
  refine Completes.bind_of_zero (receiveAll_completes (by simp)) fun arrived isArrived => ?_
  subst isArrived
  rw [if_neg (castInt_ne_timeout castable), if_neg (castInt_pos positive castable)]
  simp only [List.take_left, List.drop_left, decodes]
  exact Completes.pure (by rw [castInt_of_lt castable])

/-- Receiving a frame returns the decoded payload and leaves the stream right after it.  Retries
change nothing without timeouts. -/
theorem receiveMessageWithRetry_completes {call : SendCall} (sendable : call.Sendable)
    {decoded : Message} (decodes : Message.deserialize.run call.payload = some (decoded, []))
    (rest : Bytes) (retries : UInt32) :
    Completes (receiveMessageWithRetry (call.frame ++ rest) retries) call.frame.length
      (· = ⟨call.payload.length, some decoded, rest⟩) := by
  rw [SendCall.length_frame]
  refine Completes.bind (receiveHeader_completes sendable rest retries) fun header isHeader => ?_
  subst isHeader
  exact receivePayload_completes sendable decodes rest (-1)

theorem SendCall.Sendable.decodes {call : SendCall} (sendable : call.Sendable) :
    ∃ decoded, Message.deserialize.run call.payload = some (decoded, []) := by
  refine Message.exists_run call.order sendable.workersFit ?_
  exact Nat.lt_of_le_of_lt sendable.small (by norm_num)

/-- Every call has its receipt: the size of the payload as a positive status, the decoded
payload, and the stream at the frame of the next call. -/
def Delivered (later : Bytes) : List SendCall → List Receipt → Prop
  | [], [] => True
  | call :: calls, receipt :: receipts =>
      receipt.status = call.payload.length ∧ 0 < receipt.status ∧
      (∃ decoded, Message.deserialize.run call.payload = some (decoded, []) ∧
        receipt.message = some decoded) ∧
      receipt.stream = calls.flatMap SendCall.frame ++ later ∧
      Delivered later calls receipts
  | [], _ :: _ | _ :: _, [] => False

theorem receiveMessages_completes {calls : List SendCall} {retries : List UInt32}
    (sendable : ∀ call ∈ calls, call.Sendable) (counted : retries.length = calls.length)
    (later : Bytes) :
    Completes (receiveMessages (calls.flatMap SendCall.frame ++ later) retries)
      (calls.flatMap SendCall.frame).length (Delivered later calls) := by
  induction calls generalizing retries with
  | nil =>
      rw [List.length_nil, List.length_eq_zero_iff] at counted
      subst counted
      exact Completes.pure trivial
  | cons call calls ih =>
      cases retries with
      | nil => cases counted
      | cons retry retries =>
          have sendableCall := sendable call (by simp)
          have positive := SendCall.length_payload_pos call
          obtain ⟨decoded, decodes⟩ := sendableCall.decodes
          rw [List.flatMap_cons, List.length_append, List.append_assoc, receiveMessages]
          refine Completes.bind
            (receiveMessageWithRetry_completes sendableCall decodes _ retry)
            fun receipt isReceipt => ?_
          subst isReceipt
          refine Completes.bind_of_zero
            (ih (fun other member => sendable other (by simp [member])) (by simpa using counted))
            fun receipts delivered => ?_
          exact Completes.pure
            ⟨rfl, Int.natCast_pos.mpr positive, ⟨decoded, decodes, rfl⟩, rfl, delivered⟩

/-- Messages sent one after another are received one by one, in order and complete, however
the calls of `send` and `recv` cut the stream and as often as they are interrupted.  The
calls return as soon as there have been as many moves as there are bytes. -/
theorem framing_survives_fragmentation (calls : List SendCall)
    (sendable : ∀ call ∈ calls, call.Sendable) (retries : List UInt32)
    (counted : retries.length = calls.length) (later : Bytes) {sending receiving : List Outcome}
    (steadySending : Steady sending) (steadyReceiving : Steady receiving) :
    (∀ sent pending, (sendMessages calls).run sending = some (sent, pending) →
      sent = (calls.map fun call => ⟨call.frame.length, call.frame⟩) ∧
      (∀ receipts pending,
        (receiveMessages (sent.flatMap Sent.accepted ++ later) retries).run receiving =
          some (receipts, pending) → Delivered later calls receipts) ∧
      ((sent.flatMap Sent.accepted).length ≤ moves receiving → ∃ receipts pending,
        (receiveMessages (sent.flatMap Sent.accepted ++ later) retries).run receiving =
          some (receipts, pending))) ∧
    ((calls.flatMap SendCall.frame).length ≤ moves sending →
      ∃ sent pending, (sendMessages calls).run sending = some (sent, pending)) := by
  have sends := sendMessages_completes sendable
  have receives := receiveMessages_completes sendable counted later
  refine ⟨fun sent pending ran => ?_, sends.exists_run steadySending⟩
  have isSent := sends.good_of_run steadySending ran
  have stream : sent.flatMap Sent.accepted = calls.flatMap SendCall.frame := by
    rw [isSent, List.flatMap_map]
  rw [stream]
  exact ⟨isSent, fun receipts pending => receives.good_of_run steadyReceiving,
    receives.exists_run steadyReceiving⟩

/-- A heartbeat sent without and a request of the monitoring tool sent with retries. -/
def twoCalls : List SendCall :=
  [⟨id, ⟨1, .heartbeat 4⟩, none⟩, ⟨id, ⟨0, .topRequest⟩, some 2⟩]

theorem twoCalls_delivered :
    ∃ sent left receipts leftAgain,
      (sendMessages twoCalls).run (.interrupted :: List.replicate 30 (.moved 7)) =
        some (sent, left) ∧
      (receiveMessages (sent.flatMap Sent.accepted ++ [5]) [0, 3]).run
        (.moved 2 :: .interrupted :: List.replicate 29 (.moved 3)) = some (receipts, leftAgain) ∧
      Delivered [5] twoCalls receipts := by
  have sendable : ∀ call ∈ twoCalls, call.Sendable := by
    intro call member
    rcases List.mem_cons.mp member with rfl | member
    · exact ⟨(by decide : 4 < 2 ^ 32), by decide +kernel⟩
    · rw [List.mem_singleton.mp member]
      exact ⟨trivial, by decide +kernel⟩
  have steadySending : Steady (.interrupted :: List.replicate 30 (.moved 7)) := by
    simp [Steady]
  have steadyReceiving : Steady (.moved 2 :: .interrupted :: List.replicate 29 (.moved 3)) := by
    simp [Steady]
  obtain ⟨exact_, sends⟩ := framing_survives_fragmentation twoCalls sendable [0, 3] rfl [5]
    steadySending steadyReceiving
  obtain ⟨sent, left, ran⟩ := sends (by decide +kernel)
  obtain ⟨isSent, delivered, receives⟩ := exact_ sent left ran
  obtain ⟨receipts, leftAgain, ranAgain⟩ := receives (by
    rw [isSent]
    decide +kernel)
  exact ⟨sent, left, receipts, leftAgain, ran, ranAgain, delivered receipts leftAgain ranAgain⟩

end Calls

/-! ## Retried sends -/

/-- No call runs into a timeout after one that has moved something. -/
def NoLateTimeout (outcomes : List Outcome) : Prop :=
  outcomes.Pairwise fun earlier later => earlier.isMove = true → later ≠ .timedOut

instance (outcomes : List Outcome) : Decidable (NoLateTimeout outcomes) :=
  inferInstanceAs (Decidable (outcomes.Pairwise _))

theorem noLateTimeout_of_notMem {outcomes : List Outcome} (none_ : .timedOut ∉ outcomes) :
    NoLateTimeout outcomes := by
  refine List.pairwise_of_forall_mem_list fun earlier _ later member _ isTimeout => ?_
  exact none_ (isTimeout ▸ member)

/-- One attempt that ends in a timeout, and what follows it. -/
theorem noLateTimeout_append_iff {before after : List Outcome} (none_ : .timedOut ∉ before) :
    NoLateTimeout (before ++ [.timedOut] ++ after) ↔
      (∀ outcome ∈ before, outcome.isMove = false) ∧ NoLateTimeout after := by
  have beforeOk := noLateTimeout_of_notMem none_
  unfold NoLateTimeout at *
  rw [List.append_assoc, List.singleton_append, List.pairwise_append, List.pairwise_cons]
  constructor
  · rintro ⟨_, ⟨_, afterOk⟩, across⟩
    refine ⟨fun outcome member => ?_, afterOk⟩
    have notMove := across outcome member .timedOut (by simp)
    simpa using notMove
  · rintro ⟨noMoves, afterOk⟩
    refine ⟨beforeOk, ⟨nofun, afterOk⟩, fun outcome member later _ isMove => ?_⟩
    rw [noMoves outcome member] at isMove
    cases isMove

theorem sendAll_explained {buffer : Bytes} {outcomes pending : List Outcome} {sent : Sent}
    (ran : (sendAll buffer).run outcomes = some (sent, pending)) :
    ∃ used, ∃ result : Result UInt8, outcomes = used ++ pending ∧
      sent = ⟨status buffer.length result.ending, result.moved⟩ ∧
      result.Explained buffer.length buffer used := by
  obtain ⟨result, middle, ranTransfer, isSent⟩ := run_bind_eq_some.mp ran
  obtain ⟨rfl, rfl⟩ := run_pure_eq_some.mp isSent
  obtain ⟨used, split, explained⟩ := transferAll_explained ranTransfer
  exact ⟨used, result, split, rfl, explained⟩

/-- The attempts put the buffer on the stream at last, after all that the attempts before had
put there. -/
theorem sendAttempts_accepted {buffer : Bytes} {retries retry : UInt32} {fuel : Nat}
    {outcomes pending : List Outcome} {sent : Sent}
    (ran : (sendAttempts buffer retries fuel retry).run outcomes = some (sent, pending))
    (positive : 0 < sent.status) :
    0 < castInt buffer.length ∧ ∃ used earlier, outcomes = used ++ pending ∧
      sent.accepted = earlier ++ buffer ∧ (earlier = [] ↔ NoLateTimeout used) := by
  induction fuel generalizing retry outcomes sent with
  | zero => cases ran
  | succ fuel ih =>
      rw [sendAttempts] at ran
      split at ran
      next =>
        obtain ⟨first, middle, ranFirst, ranRest⟩ := run_bind_eq_some.mp ran
        obtain ⟨used, result, rfl, rfl, explained⟩ := sendAll_explained ranFirst
        split at ranRest
        next timedOut =>
          obtain ⟨later, _, ranLater, isSent⟩ := run_bind_eq_some.mp ranRest
          obtain ⟨rfl, rfl⟩ := run_pure_eq_some.mp isSent
          obtain ⟨sizePositive, usedLater, earlier, rfl, accepted, once⟩ := ih ranLater positive
          -- A complete transfer of this buffer does not look like a timeout.
          have isTimeout : result.ending = .timedOut := by
            cases ending : result.ending with
            | complete =>
                simp only [status, ending] at timedOut
                omega
            | timedOut => rfl
            | failed =>
                simp only [status, ending] at timedOut
                omega
          simp only [Result.Explained, isTimeout] at explained
          obtain ⟨before, rfl, none_, empty⟩ := explained
          refine ⟨sizePositive, before ++ [.timedOut] ++ usedLater, result.moved ++ earlier, ?_, ?_,
            ?_⟩
          · simp only [List.append_assoc]
          · simp only [accepted, List.append_assoc]
          · rw [noLateTimeout_append_iff none_, List.append_eq_nil_iff, empty, once]
        next notTimedOut =>
          split at ranRest
          next =>
            obtain ⟨rfl, _⟩ := run_pure_eq_some.mp ranRest
            cases positive
          next isPositive =>
            obtain ⟨rfl, rfl⟩ := run_pure_eq_some.mp ranRest
            cases ending : result.ending with
            | complete =>
                simp only [Result.Explained, ending, List.take_length] at explained
                simp only [status, ending] at positive
                refine ⟨positive, used, [], rfl, explained.1, ?_⟩
                exact iff_of_true rfl (noLateTimeout_of_notMem explained.2)
            | timedOut =>
                simp [status, ending] at positive
            | failed =>
                simp [status, ending] at positive
      next =>
        obtain ⟨rfl, _⟩ := run_pure_eq_some.mp ran
        cases positive

/-- Whenever a retried send reports success, the frame is on the stream exactly once if no
call has run into a timeout after one that has moved something, and otherwise the stream has
the beginnings of frames before it. -/
theorem retried_send_once_iff {order : List TaskId → List TaskId} {msg : Message}
    {retries : UInt32} {used pending : List Outcome} {sent : Sent}
    (ran : (sendMessageWithRetry order msg retries).run (used ++ pending) = some (sent, pending))
    (positive : 0 < sent.status) :
    sent.accepted = prepareSendBuffer order msg ↔ NoLateTimeout used := by
  obtain ⟨_, usedAgain, earlier, split, accepted, once⟩ := sendAttempts_accepted ran positive
  obtain rfl := List.append_cancel_right split
  rw [accepted, ← once]
  exact List.append_left_eq_self

/-- A request of the monitoring tool, the smallest message. -/
def topRequest : Message :=
  ⟨0, .topRequest⟩

theorem frame_sent_once_after_timeout :
    ∃ sent, (sendMessageWithRetry id topRequest 1).run
        ([.timedOut, .interrupted, .moved 5, .moved 8] ++ []) = some (sent, []) ∧
      0 < sent.status ∧ sent.accepted = prepareSendBuffer id topRequest := by
  have ran : (sendMessageWithRetry id topRequest 1).run
      ([.timedOut, .interrupted, .moved 5, .moved 8] ++ []) =
        some (⟨13, prepareSendBuffer id topRequest⟩, []) := by
    decide +kernel
  exact ⟨_, ran, by decide, (retried_send_once_iff ran (by decide)).mpr (by decide)⟩

/-- A timeout after five bytes: the whole frame is sent again, and the call reports success. -/
theorem frame_resent_after_part :
    (sendMessageWithRetry id topRequest 1).run [.moved 5, .timedOut, .moved 13] =
      some (⟨13, (prepareSendBuffer id topRequest).take 5 ++ prepareSendBuffer id topRequest⟩,
        []) ∧
    (prepareSendBuffer id topRequest).take 5 ++ prepareSendBuffer id topRequest ≠
      prepareSendBuffer id topRequest := by
  decide +kernel

end TaskCoordinator.Net
