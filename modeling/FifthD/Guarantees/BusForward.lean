import FifthD.Guarantees.BusRouting

/-!
# What a forward puts on the wire

The frames of a slot are made once, by `init_allmsg`, and the slots of `_handle_msg`
and `_send_message` come back in the order in which they were taken: every forward
of a run uses the second slot. Its first forward finds frames of 7 and 302 bytes and
leaves both empty; all later ones copy into empty frames.
-/
namespace FifthD.Guarantees.BusForward

open FifthD.Library FifthD.Source FifthD.Spec SlotPool BusStep BusRouting

/-- A forward as it is meant: the registered identity, the empty frame and the
message on the wire, and no copy larger than the frame it goes to. -/
structure Delivered (f : Forward) : Prop where
  frames : f.frames = [(f.identity, true), ([], true), (f.msg.bytes, false)]
  copies : ∀ copy ∈ f.copies, copy.InBounds

/-- The forwards of a run, all from one slot with given frames. -/
def forwardsFrom (replay : Fin msgBufferSize) (slot : ZMQAllMsg) :
    List (Bytes × IpcMsg) → List Forward
  | [] => []
  | (route, msg) :: rest =>
    forwardFrom replay slot msg route :: forwardsFrom replay (spent slot) rest

/-- One message: a forward, if there is one, is made from the second free slot and
spends it; else that slot stays as it is. -/
theorem incoming_forward {s : BusState} {past : List Incoming} {allMsg replay : Fin msgBufferSize}
    {rest : List (Fin msgBufferSize)}
    (inv : BusInv s ⟨firstRoute past, []⟩ (allMsg :: replay :: rest)) (m : Incoming) :
    ∃ after trace, busCall s m.call = some (after, trace) ∧
      BusInv after ⟨firstRoute (past ++ [m]), []⟩ (allMsg :: replay :: rest) ∧
      match firstRoute (past ++ [m]) m.body.distId with
      | none =>
        trace.forward = none ∧ after.msgBuffer.data replay = s.msgBuffer.data replay
      | some route =>
        trace.forward = some (forwardFrom replay (s.msgBuffer.data replay) m.body route) ∧
          after.msgBuffer.data replay = spent (s.msgBuffer.data replay) := by
  obtain ⟨after, trace, code, inv', _⟩ := incoming_step inv m
  refine ⟨after, trace, code, inv', ?_⟩
  have nodup := List.nodup_cons.mp inv.pool.threads.nodup
  have other : replay ≠ allMsg := by
    rintro rfl
    exact nodup.1 List.mem_cons_self
  have recv : m.call.env.identityRecv = true := rfl
  have waiting : [] ++ m.call.arrived = m.toRouterMsg :: [] := rfl
  obtain ⟨middle, received, same⟩ := handleMsg_received (inv.arrive m.call.arrived) recv waiting
  change busCall s m.call = _ at same
  have body : m.toRouterMsg.decode m.call.env.stale = m.body := m.decode_eq
  have slotData : middle.msgBuffer.data replay = s.msgBuffer.data replay :=
    received.data replay other
  rw [code, body] at same
  rw [firstRoute_append]
  change some (after, trace) =
    match registerClient (firstRoute past) m.body.srcId m.routingId m.body.distId with
    | none => _
    | some destination => _ at same
  cases destination :
      registerClient (firstRoute past) m.body.srcId m.routingId m.body.distId with
  | none =>
    obtain ⟨buffer, cleanup, _, kept⟩ := bufferCleanup_spec received.pool nodup.1
    rw [destination] at same
    simp only [cleanup, Option.map_some] at same
    cases same
    exact ⟨rfl, by rw [← slotData, ← kept]⟩
  | some route =>
    obtain ⟨sent, send, effect, used⟩ := sendMessage_ok received.pool m.body route
    obtain ⟨buffer, cleanup, _, kept⟩ := bufferCleanup_spec effect.pool nodup.1
    rw [destination] at same
    have ok : m.call.env.sends = SendEnv.ok := rfl
    simp only [ok, send, cleanup, Option.map_some] at same
    cases same
    rw [slotData] at used
    exact ⟨by rw [slotData], by rw [← used, ← kept]⟩

/-- A whole run: the sends of its history, all made from the second slot. -/
theorem run_forwards {s : BusState} {past : List Incoming} {allMsg replay : Fin msgBufferSize}
    {rest : List (Fin msgBufferSize)}
    (inv : BusInv s ⟨firstRoute past, []⟩ (allMsg :: replay :: rest)) (later : List Incoming) :
    ∃ after traces, Machine.run busCall s (later.map Incoming.call) = some (after, traces) ∧
      traces.filterMap HandleTrace.forward =
        forwardsFrom replay (s.msgBuffer.data replay) (expectedSends past later).reduceOption := by
  induction later generalizing s past with
  | nil => exact ⟨s, [], rfl, rfl⟩
  | cons m later ih =>
    obtain ⟨next, trace, code, inv', step⟩ := incoming_forward inv m
    obtain ⟨after, traces, run, forwards⟩ := ih inv'
    refine ⟨after, trace :: traces,
      Machine.run_cons_iff.mpr ⟨next, trace, traces, code, run, rfl⟩, ?_⟩
    unfold expectedSends
    cases destination : firstRoute (past ++ [m]) m.body.distId with
    | none =>
      rw [destination] at step
      obtain ⟨nothing, same⟩ := step
      rw [List.filterMap_cons_none nothing, forwards, same, Option.map_none,
        List.reduceOption_cons_of_none]
    | some route =>
      rw [destination] at step
      obtain ⟨forwarded, used⟩ := step
      rw [List.filterMap_cons_some forwarded, forwards, used, Option.map_some,
        List.reduceOption_cons_of_some, forwardsFrom]

/-! ## Which forwards go out whole -/

/-- From a slot as `init_allmsg` leaves it, a forward is whole exactly for an
identity of the seven bytes the identity frame was made for. -/
theorem delivered_clean_iff (replay : Fin msgBufferSize) (msg : IpcMsg) (route : Bytes) :
    Delivered (forwardFrom replay initAllmsg msg route) ↔ route.length = identityFrameSize := by
  constructor
  · intro delivered
    have first := congrArg List.head? delivered.frames
    simp only [forwardFrom, List.head?_cons, Option.some.injEq, Prod.mk.injEq, and_true] at first
    have size := congrArg List.length first
    rw [memcpy_length] at size
    simpa [initAllmsg, zmqMsgInitSize] using size.symm
  · intro size
    have identity : memcpy initAllmsg.identity.data route = route := by
      apply memcpy_eq_of_length
      simpa [initAllmsg, zmqMsgInitSize] using size
    have body : memcpy initAllmsg.msg.data msg.bytes = msg.bytes := by
      apply memcpy_eq_of_length
      simpa [initAllmsg, zmqMsgInitSize] using msg.length_eq
    constructor
    · simp only [forwardFrom, identity, body]
    · intro copy member
      simp only [forwardFrom, List.mem_cons, List.not_mem_nil, or_false] at member
      rcases member with rfl | rfl
      · simp [FrameCopy.InBounds, ZmqMsg.size, initAllmsg, zmqMsgInitSize, size]
      · simp [FrameCopy.InBounds, ZmqMsg.size, initAllmsg, zmqMsgInitSize]

/-- From a spent slot no forward is whole: the body does not fit an empty frame. -/
theorem not_delivered_spent (replay : Fin msgBufferSize) (slot : ZMQAllMsg) (msg : IpcMsg)
    (route : Bytes) : ¬ Delivered (forwardFrom replay (spent slot) msg route) := by
  intro delivered
  have bodyCopy := delivered.copies ⟨0, sizeofIpcMsg⟩ (by simp [forwardFrom, spent, ZmqMsg.size])
  revert bodyCopy
  decide

theorem forwardsFrom_delivered_iff (replay : Fin msgBufferSize) (sends : List (Bytes × IpcMsg)) :
    (∀ f ∈ forwardsFrom replay initAllmsg sends, Delivered f) ↔
      sends.map Prod.fst = [] ∨
        ∃ route, sends.map Prod.fst = [route] ∧ route.length = identityFrameSize := by
  rcases sends with _ | ⟨⟨route, msg⟩, _ | ⟨⟨second, msg'⟩, rest⟩⟩
  · simp [forwardsFrom]
  · simp [forwardsFrom, delivered_clean_iff]
  · constructor
    · intro delivered
      exact absurd (delivered _ (by simp [forwardsFrom]))
        (not_delivered_spent replay initAllmsg msg' second)
    · rintro (nothing | ⟨_, only, _⟩)
      · simp at nothing
      · simp at only

/-- Every run returns and calls `_send_message` for the registered destinations of
its messages. All these forwards put the identity, the empty frame and the message
on the wire, with no copy past the end of a frame, exactly when the run forwards
nothing, or a single message to a routing id of seven bytes. -/
theorem bus_forwards_whole_iff (error : ErrorHandler) (messages : List Incoming) :
    ∃ after traces,
      Machine.run busCall (BusState.fresh error) (messages.map Incoming.call) =
        some (after, traces) ∧
      traces.map sentTo = expectedSends [] messages ∧
      ((∀ f ∈ traces.filterMap HandleTrace.forward, Delivered f) ↔
        forwardedTo messages = [] ∨
          ∃ route, forwardedTo messages = [route] ∧ route.length = identityFrameSize) := by
  have start : BusInv (BusState.fresh error) ⟨firstRoute [], []⟩
      (0 :: 1 :: (List.finRange msgBufferSize).drop 2) := fresh_inv error
  obtain ⟨after, traces, code, forwards⟩ := run_forwards start messages
  obtain ⟨after', traces', code', _, sends⟩ := runIncoming start messages
  rw [code] at code'
  cases code'
  refine ⟨after, traces, code, sends, ?_⟩
  rw [forwards]
  exact forwardsFrom_delivered_iff 1 _

/-- A client called "manager" that sends two messages to itself. -/
def selfMessage : Incoming where
  routingId := ascii "manager"
  frames := [List.replicate sizeofIpcMsg 0]
  carries := ⟨_, List.mem_singleton_self _, List.length_replicate⟩
  stale := zeroMsg

/-- Its second message goes out as three empty frames, after two copies into them. -/
theorem second_forward_lost :
    ∃ after traces f,
      Machine.run busCall (BusState.fresh ⟨fun _ => false⟩)
        [selfMessage.call, selfMessage.call] = some (after, traces) ∧
      f ∈ traces.filterMap HandleTrace.forward ∧
      f.frames = [([], true), ([], true), ([], false)] ∧
      f.copies = [⟨0, 7⟩, ⟨0, 302⟩] ∧ ¬ Delivered f := by
  have start : BusInv (BusState.fresh ⟨fun _ => false⟩) ⟨firstRoute [], []⟩
      (0 :: 1 :: (List.finRange msgBufferSize).drop 2) := fresh_inv _
  obtain ⟨after, traces, code, forwards⟩ := run_forwards start [selfMessage, selfMessage]
  have sends : (expectedSends [] [selfMessage, selfMessage]).reduceOption =
      [(ascii "manager", selfMessage.body), (ascii "manager", selfMessage.body)] := by
    decide +kernel
  refine ⟨after, traces, forwardFrom 1 (spent initAllmsg) selfMessage.body (ascii "manager"), code,
    ?_, ?_, ?_, not_delivered_spent 1 initAllmsg _ _⟩
  · rw [forwards, sends]
    exact List.mem_cons_of_mem _ List.mem_cons_self
  · simp [forwardFrom, spent, memcpy]
  · simp only [forwardFrom, spent]
    decide

end FifthD.Guarantees.BusForward
