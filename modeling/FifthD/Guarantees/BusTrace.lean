import FifthD.Guarantees.BusStep

/-!
# What a call does to the slots it does not hold

The pool never touches the data of its slots, and a call of `_send_message` the frames of
no slot but its own. With `SendEffect` this tells, for every outcome of the ZeroMQ calls,
the call of `_send_message` a message comes to and the frames the next one will find.
-/
namespace FifthD.Guarantees.BusTrace

open FifthD.Library FifthD.Source FifthD.Spec SlotPool BusStep

/-! ## The data of the pool -/

variable {T : Type*} {Size : Nat}

theorem getSlot_data (b : ManagedBuffer T Size) : b.getSlot.2.data = b.data := by
  unfold ManagedBuffer.getSlot
  split
  · rfl
  · exact setMetadata_data b _ _

theorem releaseSlot_data {b : ManagedBuffer T Size} {slotPtr : Option SlotPtr}
    {released : ManagedBuffer.Released T Size} (returned : b.releaseSlot slotPtr = some released) :
    released.buffer.data = b.data := by
  unfold ManagedBuffer.releaseSlot at returned
  split at returned
  · cases returned
    rfl
  · cases returned
    rfl
  · split at returned
    · cases returned
      rfl
    · dsimp only at returned
      split at returned
      · cases returned
        rfl
      · split at returned
        · cases returned
          exact setMetadata_data b _ _
        · split at returned
          · cases returned
          · cases returned
            exact setMetadata_data b _ _

/-! ## One call of `_send_message` -/

/-- A send that puts nothing on the wire and says nothing of it. -/
def dropped (msg : IpcMsg) (identity : Bytes) : Forward where
  identity := identity
  msg := msg
  slot := none
  copies := []
  frames := []
  ret := .ok ()

/-- The copies of a call from a slot: the routing id, and the message when the first two
frames have gone out. -/
def copiesInto (slot : ZMQAllMsg) (identity : Bytes) (sentFrames : Nat) : List FrameCopy :=
  ⟨slot.identity.size, identity.length⟩ ::
    if 2 ≤ sentFrames then [⟨slot.msg.size, sizeofIpcMsg⟩] else []

/-- What a call of `_send_message` comes to, with the free slots before it and the frames of
all slots before and after it: there is no slot, all three sends succeed, or one fails. -/
inductive Sent (env : SendEnv) (msg : IpcMsg) (identity : Bytes)
    (before after : Fin msgBufferSize → ZMQAllMsg) : List (Fin msgBufferSize) → Forward → Prop where
  | dropped : Sent env msg identity before after [] (dropped msg identity)
  | sent (replay : Fin msgBufferSize) (rest : List (Fin msgBufferSize)) (ok : env = SendEnv.ok)
      (used : after replay = spent (before replay)) (others : ∀ j ∈ rest, after j = before j) :
      Sent env msg identity before after (replay :: rest)
        (forwardFrom replay (before replay) msg identity)
  | failed (replay : Fin msgBufferSize) (rest : List (Fin msgBufferSize)) (forward : Forward)
      (fails : env ≠ SendEnv.ok) (slot : forward.slot = some replay)
      (ret : isErr forward.ret = true) (short : forward.frames.length < 3)
      (target : forward.identity = identity)
      (copies : forward.copies = copiesInto (before replay) identity forward.frames.length)
      (others : ∀ j ∈ rest, after j = before j) :
      Sent env msg identity before after (replay :: rest) forward

/-- A send that fails stops before its last frame and reports it; it has made the copies up
to there. -/
theorem sendMessage_short {env : SendEnv} {msg : IpcMsg} {identity : Bytes} {s after : BusState}
    {forward : Forward} {replay : Fin msgBufferSize}
    {buffer : ManagedBuffer ZMQAllMsg msgBufferSize} (fails : env ≠ SendEnv.ok)
    (sent : sendMessage env msg identity s = some (after, forward))
    (got : s.msgBuffer.getSlot = (some replay, buffer)) :
    isErr forward.ret = true ∧ forward.frames.length < 3 ∧
      forward.copies = copiesInto (s.msgBuffer.data replay) identity forward.frames.length := by
  have same : buffer.data = s.msgBuffer.data := by
    have taken := getSlot_data s.msgBuffer
    rwa [got] at taken
  simp only [sendMessage, got, same] at sent
  rcases env with ⟨identityOk, emptyOk, msgOk⟩
  cases identityOk with
  | false =>
    cases sent
    exact ⟨rfl, by simp, rfl⟩
  | true =>
    cases emptyOk with
    | false =>
      simp only [zmqMsgSend_ok, zmqSend_fail, sizeRc_ne_neg_one, if_false] at sent
      cases sent
      exact ⟨rfl, by simp, rfl⟩
    | true =>
      cases msgOk with
      | false =>
        simp only [zmqMsgSend_ok, zmqSend_ok, sizeRc_ne_neg_one, if_false] at sent
        cases sent
        exact ⟨rfl, by simp, rfl⟩
      | true => exact absurd rfl fails

/-- Whatever fails, the frames of the slots it did not get stay. -/
theorem sendMessage_others {env : SendEnv} {msg : IpcMsg} {identity : Bytes} {s after : BusState}
    {forward : Forward} {replay j : Fin msgBufferSize}
    {buffer : ManagedBuffer ZMQAllMsg msgBufferSize}
    (got : s.msgBuffer.getSlot = (some replay, buffer)) (other : j ≠ replay)
    (sent : sendMessage env msg identity s = some (after, forward)) :
    after.msgBuffer.data j = s.msgBuffer.data j := by
  have same : buffer.data j = s.msgBuffer.data j := by
    have taken := congrFun (getSlot_data s.msgBuffer) j
    rwa [got] at taken
  simp only [sendMessage, got] at sent
  split at sent
  · cases sent
    simp only [setData_data, Function.update_of_ne other, same]
  · split at sent
    · cases sent
      simp only [setData_data, Function.update_of_ne other, same]
    · split at sent
      · cases sent
        simp only [setData_data, Function.update_of_ne other, same]
      · split at sent
        · cases sent
        · next released back =>
          have kept := congrFun (releaseSlot_data back) j
          cases sent
          simp only [setData_data, Function.update_of_ne other, same] at kept
          exact kept

/-- Every call of `_send_message` returns, and comes to one of the three. -/
theorem sendMessage_sent {s : BusState} {stack : List (Fin msgBufferSize)}
    (inv : PoolInv s.msgBuffer stack) (env : SendEnv) (msg : IpcMsg) (identity : Bytes) :
    ∃ after forward, sendMessage env msg identity s = some (after, forward) ∧
      SendEffect env msg identity stack s after forward ∧
      Sent env msg identity s.msgBuffer.data after.msgBuffer.data stack forward := by
  cases stack with
  | nil =>
    obtain ⟨after, forward, code, effect⟩ := sendMessage_spec inv env msg identity
    have same := sendMessage_drop inv env msg identity
    rw [code] at same
    cases same
    exact ⟨_, _, code, effect, .dropped⟩
  | cons replay rest =>
    have held : replay ∉ rest := (List.nodup_cons.mp inv.threads.nodup).1
    obtain ⟨buffer, got, _⟩ := getSlot_cons inv
    have apart : ∀ j ∈ rest, j ≠ replay := by
      rintro j member rfl
      exact held member
    by_cases ok : env = SendEnv.ok
    · subst ok
      obtain ⟨after, code, effect, used⟩ := sendMessage_ok inv msg identity
      refine ⟨after, _, code, effect, .sent replay rest rfl used ?_⟩
      intro j member
      exact sendMessage_others got (apart j member) code
    · obtain ⟨after, forward, code, effect⟩ := sendMessage_spec inv env msg identity
      obtain ⟨ret, short, copies⟩ := sendMessage_short ok code got
      refine ⟨after, forward, code, effect, .failed replay rest forward ok effect.slot ret short
        effect.identity copies ?_⟩
      intro j member
      exact sendMessage_others got (apart j member) code

/-! ## One call of `_handle_msg` -/

/-- What a call does with a message: it passes it on to nobody, or with one call of
`_send_message`, from the slots that are free beside its own. -/
inductive Passed (env : SendEnv) (before after : Fin msgBufferSize → ZMQAllMsg)
    (rest : List (Fin msgBufferSize)) : Option (Bytes × IpcMsg) → Option Forward → Prop where
  | nothing (others : ∀ j ∈ rest, after j = before j) : Passed env before after rest none none
  | on (route : Bytes) (msg : IpcMsg) (forward : Forward)
      (sent : Sent env msg route before after rest forward) :
      Passed env before after rest (some (route, msg)) (some forward)

/-- The frames of the slots may be read before or after a step that leaves them. -/
theorem Sent.congr {env : SendEnv} {msg : IpcMsg} {identity : Bytes}
    {before before' after after' : Fin msgBufferSize → ZMQAllMsg}
    {stack : List (Fin msgBufferSize)} {forward : Forward}
    (sent : Sent env msg identity before after stack forward)
    (start : ∀ j ∈ stack, before j = before' j) (finish : ∀ j ∈ stack, after j = after' j) :
    Sent env msg identity before' after' stack forward := by
  cases sent with
  | dropped => exact .dropped
  | sent replay rest ok used others =>
    have own := List.mem_cons_self (a := replay) (l := rest)
    rw [start replay own]
    refine .sent replay rest ok ?_ ?_
    · rw [← finish replay own, used, start replay own]
    · intro j member
      have tail := List.mem_cons_of_mem replay member
      rw [← finish j tail, others j member, start j tail]
  | failed replay rest forward fails slot ret short target copies others =>
    rw [start replay List.mem_cons_self] at copies
    refine .failed replay rest forward fails slot ret short target copies ?_
    intro j member
    have tail := List.mem_cons_of_mem replay member
    rw [← finish j tail, others j member, start j tail]

/-- The frames that a call of `_send_message`, if there is one, puts on the wire. -/
def framesOf (forward : Option Forward) : List (Bytes × Bool) :=
  forward.toList.flatMap Forward.frames

/-- A call that returns, with the message it passes on, how, and what it puts on the wire. -/
theorem handleMsg_passed {s : BusState} {r next : Router} {out : Routed}
    {allMsg : Fin msgBufferSize} {rest : List (Fin msgBufferSize)}
    (inv : BusInv s r (allMsg :: rest)) {env : HandleEnv}
    (routed : r.handle env = some (next, out)) :
    ∃ after trace, handleMsg env s = some (after, trace) ∧
      CallEffect env next out allMsg rest after trace ∧
      Passed env.sends s.msgBuffer.data after.msgBuffer.data rest out.forward trace.forward ∧
      after.sock.wire = s.sock.wire ++ framesOf trace.forward := by
  obtain ⟨after, trace, code, effect⟩ := handleMsg_spec inv routed
  refine ⟨after, trace, code, effect, ?_⟩
  have held : allMsg ∉ rest := (List.nodup_cons.mp inv.pool.threads.nodup).1
  have apart : ∀ j ∈ rest, j ≠ allMsg := by
    rintro j member rfl
    exact held member
  unfold Router.handle at routed
  split at routed
  · next fails =>
    cases routed
    obtain ⟨buffer, got, taken⟩ := getSlot_cons inv.pool
    have kept : PoolInv (buffer.setData allMsg (buffer.data allMsg)) rest :=
      taken.inv.setData allMsg _
    let middle : BusState := { s with msgBuffer := buffer.setData allMsg (buffer.data allMsg) }
    obtain ⟨cleaned, cleanup, _, same⟩ := @bufferCleanup_spec middle allMsg rest kept held
    simp only [middle] at cleanup same
    simp only [handleMsg, got, fails, zmqMsgRecv_fail, if_true, cleanup, Option.map_some] at code
    cases code
    refine ⟨.nothing ?_, (List.append_nil _).symm⟩
    intro j member
    rw [same, setData_data, taken.data, Function.update_of_ne (apart j member)]
  · next succeeds =>
    have succeeds : env.identityRecv = true := by simpa using succeeds
    split at routed
    · cases routed
    · next m later waiting =>
      cases routed
      obtain ⟨middle, received, same⟩ := handleMsg_received inv succeeds waiting
      have start : ∀ j ∈ rest, middle.msgBuffer.data j = s.msgBuffer.data j :=
        fun j member => received.data j (apart j member)
      rw [code] at same
      cases destination :
          registerClient r.registry (m.decode env.stale).srcId m.routingId
            (m.decode env.stale).distId with
      | none =>
        obtain ⟨buffer, cleanup, _, kept⟩ := bufferCleanup_spec received.pool held
        rw [destination] at same
        simp only [cleanup, Option.map_some] at same
        cases same
        refine ⟨.nothing ?_, ?_⟩
        · intro j member
          rw [kept, start j member]
        · simp only [received.sock, framesOf, Option.toList_none, List.flatMap_nil, List.append_nil]
      | some route =>
        obtain ⟨sent, forward, send, sending, way⟩ :=
          sendMessage_sent received.pool env.sends (m.decode env.stale) route
        have held' : allMsg ∉ afterSend env.sends rest :=
          fun member => held (afterSend_subset env.sends rest member)
        obtain ⟨buffer, cleanup, _, kept⟩ := bufferCleanup_spec sending.pool held'
        rw [destination] at same
        simp only [send, cleanup, Option.map_some] at same
        cases same
        refine ⟨.on route _ forward (way.congr start fun j _ => by rw [kept]), ?_⟩
        simp only [sending.sock, received.sock, framesOf, Option.toList_some,
          List.flatMap_singleton]

/-- The same for a turn of the polling loop. -/
theorem busCall_passed {s : BusState} {r next : Router} {out : Routed}
    {allMsg : Fin msgBufferSize} {rest : List (Fin msgBufferSize)}
    (inv : BusInv s r (allMsg :: rest)) {c : BusCall} (routed : r.call c = some (next, out)) :
    ∃ after trace, busCall s c = some (after, trace) ∧
      CallEffect c.env next out allMsg rest after trace ∧
      Passed c.env.sends s.msgBuffer.data after.msgBuffer.data rest out.forward trace.forward ∧
      after.sock.wire = s.sock.wire ++ framesOf trace.forward :=
  handleMsg_passed (inv.arrive c.arrived) routed

end FifthD.Guarantees.BusTrace
