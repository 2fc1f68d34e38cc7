import FifthD.Guarantees.TransmitterFraming

/-!
# The identity frame of the transmitter

Calls of `send` in which all ZeroMQ calls succeed. `init_allmsg` sizes the identity frame of
a slot for `CLIENTS_IDS[0]` and `_send` never sizes it again: a successful `zmq_msg_send`
leaves it empty, and the free list hands the same slot to the next call. So only the first
call, under an identity of just that length, sends the identity.
-/
namespace FifthD.Guarantees.TransmitterIdentity

open FifthD.Library FifthD.Source SlotPool TransmitterFraming

/-- A call of `send` in which all ZeroMQ calls succeed. -/
def sendData (t : Transmitter) (data : Bytes) : Option (Transmitter × Bool × SendTrace) :=
  t.send { data, outcomes := [] }

/-- The first frame of a call is the identity, and its copy stays inside the frame. -/
structure SendsIdentity (identity : Bytes) (trace : SendTrace) : Prop where
  frame : trace.frames.head? = some (identity, true)
  copy : ∀ copy, trace.copies.head? = some copy → copy.InBounds

/-- The identity frame of the slot that every call gets, after `n` calls. -/
def identityFrame (n : Nat) : ZmqMsg := if n = 0 then zmqMsgInitSize identityFrameSize else ⟨[]⟩

/-- A copy of the identity into a frame gives the identity only when the sizes agree. -/
theorem memcpy_eq_iff {dst src : Bytes} : memcpy dst src = src ↔ src.length = dst.length := by
  constructor
  · intro same
    rw [← memcpy_length dst src, same]
  · exact memcpy_eq_of_length

/-- The start of `_send`: the identity is copied into the slot's frame, whatever its size,
and the frame is empty afterwards. -/
theorem sendFrames_identity (identity data : Bytes) (slot : ZMQAllMsg) (sock : Socket) :
    let sent := sendFrames [] identity data slot sock
    sent.1.identity = ⟨[]⟩ ∧
      sent.2.2.copies.head? = some ⟨slot.identity.size, identity.length⟩ ∧
      sent.2.2.frames.head? = some (memcpy slot.identity.data identity, true) := by
  intro sent
  simp only [sent, sendFrames, List.headD_nil, List.tail_nil, zmqMsgSend_ok, sizeRc_ne_neg_one,
    if_false, List.head?_cons, and_self]

/-- The transmitter after `n` calls: under an identity, the slot's frame is the one of `n`. -/
structure Reached (identity : Bytes) (n : Nat) (t : Transmitter) : Prop where
  named : t.identity = identity
  pool : PoolInv t.msgBuffer (0 :: (List.finRange msgBufferSize).tail)
  frame : identity ≠ [] → (t.msgBuffer.data 0).identity = identityFrame n

theorem fresh_reached (identity : Bytes) (error poolError : ErrorHandler) :
    Reached identity 0 (Transmitter.fresh identity error poolError) :=
  ⟨rfl, fresh_pool identity error poolError, fun _ => rfl⟩

variable {identity : Bytes} {n : Nat} {t : Transmitter}

/-- The identity is sent when the frame has just its size. -/
theorem sendsIdentity_iff {trace : SendTrace} {frame : ZmqMsg}
    (copies : trace.copies.head? = some ⟨frame.size, identity.length⟩)
    (frames : trace.frames.head? = some (memcpy frame.data identity, true)) :
    SendsIdentity identity trace ↔ identity.length = frame.size := by
  constructor
  · intro sends
    have same := sends.frame
    rw [frames, Option.some.injEq, Prod.mk.injEq] at same
    exact memcpy_eq_iff.mp same.1
  · intro right
    constructor
    · rw [frames, memcpy_eq_of_length right]
    · intro copy first
      cases copies.symm.trans first
      exact right.le

/-- The frame has the size of the identity before the first call only. -/
theorem identityFrame_size_iff (named : identity ≠ []) :
    identity.length = (identityFrame n).size ↔ identity.length = identityFrameSize ∧ n = 0 := by
  unfold identityFrame
  split
  · next first => simp [first, ZmqMsg.size, zmqMsgInitSize]
  · next later => simp [later, ZmqMsg.size, named]

/-- One more call. -/
theorem sendData_reached (reached : Reached identity n t) (data : Bytes) :
    ∃ after answer trace, sendData t data = some (after, answer, trace) ∧
      Reached identity (n + 1) after ∧
      (SendsIdentity identity trace ↔ identity.length = identityFrameSize ∧ n = 0) := by
  obtain ⟨rfl, pool, frame⟩ := reached
  by_cases named : t.identity = []
  · obtain ⟨after, answer, trace, code, effect⟩ := send_spec pool { data, outcomes := [] }
    have frames := effect.frames
    rw [if_pos named] at frames
    have never : ¬ SendsIdentity t.identity trace := by
      intro sends
      have first := sends.frame
      rw [frames] at first
      cases first
    have short : t.identity.length ≠ identityFrameSize := by
      rw [named]
      decide
    exact ⟨after, answer, trace, code,
      ⟨effect.identity, effect.pool, fun other => absurd named other⟩,
      fun sends => absurd sends never, fun right => absurd right.1 short⟩
  · obtain ⟨spent, copies, frames⟩ :=
      sendFrames_identity t.identity data (t.msgBuffer.data 0) t.sock
    obtain ⟨buffer, code, pool', left⟩ := sendOnce_named pool named [] data
    obtain ⟨answer, answered⟩ := @send_of_sendOnce t _ { data, outcomes := [] } _ code
    rw [frame named] at copies frames
    refine ⟨_, answer, _, answered, ⟨rfl, pool', fun _ => ?_⟩, ?_⟩
    · rw [left, spent, identityFrame, if_neg n.succ_ne_zero]
    · rw [sendsIdentity_iff copies frames, identityFrame_size_iff named]

theorem run_reached (reached : Reached identity n t) (past : List Bytes) :
    ∃ after outs, Machine.run sendData t past = some (after, outs) ∧
      Reached identity (n + past.length) after := by
  induction past generalizing n t with
  | nil => exact ⟨t, [], rfl, reached⟩
  | cons data rest ih =>
    obtain ⟨next, answer, trace, code, reached', _⟩ := sendData_reached reached data
    obtain ⟨after, outs, ran, last⟩ := ih reached'
    refine ⟨after, (answer, trace) :: outs, ?_, ?_⟩
    · exact Machine.run_cons_iff.mpr ⟨next, (answer, trace), outs, code, ran, rfl⟩
    · rwa [List.length_cons, Nat.add_comm rest.length, ← Nat.add_assoc]

/-- For every identity, any number of earlier calls and every payload, all ZeroMQ calls
succeeding: the first frame that `_send` puts on the wire is the identity, and the copy into
it stays inside it, if and only if the identity is as long as `CLIENTS_IDS[0]` and this is
the first call. -/
theorem identity_sent_iff (identity : Bytes) (error poolError : ErrorHandler)
    (past : List Bytes) (data : Bytes) :
    ∃ t outs after answer trace,
      Machine.run sendData (Transmitter.fresh identity error poolError) past = some (t, outs) ∧
      sendData t data = some (after, answer, trace) ∧
      (SendsIdentity identity trace ↔ identity.length = 7 ∧ past = []) := by
  obtain ⟨t, outs, ran, reached⟩ := run_reached (fresh_reached identity error poolError) past
  obtain ⟨after, answer, trace, code, _, sends⟩ := sendData_reached reached data
  refine ⟨t, outs, after, answer, trace, ran, code, ?_⟩
  rw [sends, Nat.zero_add, List.length_eq_zero_iff]
  rfl

/-- The first call under a 16-byte identity: 16 bytes are copied into a frame of seven. -/
theorem long_identity_overruns :
    ∃ after trace,
      sendData (Transmitter.fresh (ascii "test_transmitter") ⟨fun _ => false⟩ ⟨fun _ => false⟩)
        [0xFF, 0xFF, 0xFF, 0xFF] = some (after, true, trace) ∧
      trace.copies.head? = some ⟨7, 16⟩ ∧ ¬ SendsIdentity (ascii "test_transmitter") trace := by
  have sent : (sendData
      (Transmitter.fresh (ascii "test_transmitter") ⟨fun _ => false⟩ ⟨fun _ => false⟩)
        [0xFF, 0xFF, 0xFF, 0xFF]).map
      (fun result => (result.2.1, result.2.2.copies.head?)) = some (true, some ⟨7, 16⟩) := by
    decide +kernel
  obtain ⟨⟨after, answer, trace⟩, code, result⟩ := Option.map_eq_some_iff.mp sent
  obtain ⟨rfl, first⟩ := Prod.mk.inj result
  refine ⟨after, trace, code, first, fun sends => ?_⟩
  exact absurd (sends.copy _ first) (by decide)

end FifthD.Guarantees.TransmitterIdentity
