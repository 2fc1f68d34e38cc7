import FifthD.Guarantees.SlotPool
import FifthD.Spec.Router

/-!
# One call of `_handle_msg`

One specification lemma for each part of a call (`recvLoop`, `sendMessage`,
`bufferCleanup`) and from them what a whole call does, for every outcome of the
ZeroMQ calls: it is the router's step, and the slots behave like the stack of
`SlotPool`, one slot short for every send that fails.
-/
namespace FifthD.Guarantees.BusStep

open FifthD.Library FifthD.Source FifthD.Spec SlotPool

/-! ## The receive loop -/

/-- What the loop keeps of the frames it takes: the last one of the right size. -/
def keepBody (data : IpcMsg) (frame : Bytes) : IpcMsg := (asBody frame).getD data

/-- One received frame, as the loop handles it. -/
theorem keepBody_eq (data : IpcMsg) (frame : Bytes) :
    (if sizeRc frame.length = 0 then data
      else if sizeRc frame.length = sizeofIpcMsg then
        data.write (frame.take (sizeRc frame.length).toNat)
      else data) = keepBody data frame := by
  unfold keepBody asBody
  have small : sizeofIpcMsg < INT_MAX := by decide
  by_cases right : frame.length = sizeofIpcMsg
  · have rc : sizeRc frame.length = sizeofIpcMsg := (sizeRc_eq_iff small).mpr right
    have positive : ((sizeofIpcMsg : Nat) : Int) ≠ 0 := by decide
    have whole : frame.take sizeofIpcMsg = frame := by rw [← right, List.take_length]
    rw [rc, if_neg positive, if_pos rfl, dif_pos right, Int.toNat_natCast, whole,
      data.write_eq right, Option.getD_some]
  · have rc : sizeRc frame.length ≠ sizeofIpcMsg := fun h => right ((sizeRc_eq_iff small).mp h)
    rw [dif_neg right, Option.getD_none, if_neg rc, ite_self]

/-- One round of the loop, once the receive has returned. -/
theorem recvLoop_round {outcomes : List Bool} {sock sock' : Socket} {rc : Int} {msg : ZmqMsg}
    (data : IpcMsg)
    (received : zmqMsgRecv (outcomes.headD true) zmqMsgInit sock = some (rc, msg, sock')) :
    recvLoop outcomes sock data =
      let data' :=
        if rc = 0 then data
        else if rc = sizeofIpcMsg then data.write (msg.data.take rc.toNat)
        else data
      if sock'.rcvMore then recvLoop outcomes.tail sock' data' else some (sock', data') := by
  rw [recvLoop]
  split
  · next blocked =>
    rw [received] at blocked
    cases blocked
  · next returned =>
    rw [received] at returned
    cases returned
    rfl

/-- The message the loop ends with is the last body, or the stale contents. -/
theorem foldl_keepBody (frames : List Bytes) (data : IpcMsg) :
    frames.foldl keepBody data = (lastBody frames).getD data := by
  induction frames using List.reverseRecOn with
  | nil => rfl
  | append_singleton before frame ih =>
    rw [List.foldl_append, List.foldl_cons, List.foldl_nil, ih]
    unfold keepBody lastBody
    rw [List.reverse_append, List.reverse_singleton, List.singleton_append, List.findSome?_cons]
    cases asBody frame with
    | none => rfl
    | some body => rfl

/-- The loop takes all frames of the message it is in, and no other, whatever
receives fail on the way. -/
theorem recvLoop_spec (outcomes : List Bool) (sock : Socket) (data : IpcMsg)
    (pending : sock.current ≠ []) (more : sock.rcvMore = true) :
    recvLoop outcomes sock data =
      some ({ sock with current := [], rcvMore := false }, sock.current.foldl keepBody data) := by
  -- every round uses up an outcome or a frame
  obtain ⟨n, hn⟩ : ∃ n, outcomes.length + sock.current.length ≤ n := ⟨_, Nat.le_refl _⟩
  induction n generalizing outcomes sock data with
  | zero =>
    have none_left : sock.current.length = 0 := by omega
    exact absurd (List.length_eq_zero_iff.mp none_left) pending
  | succ n ih =>
    obtain ⟨frame, rest, hcurrent⟩ := List.exists_cons_of_ne_nil pending
    by_cases fails : outcomes.headD true = false
    · obtain ⟨later, rfl⟩ : ∃ later, outcomes = false :: later := by
        cases outcomes with
        | nil => simp at fails
        | cons first later => exact ⟨later, by simpa using fails⟩
      have failed : zmqMsgRecv ((false :: later).headD true) zmqMsgInit sock =
          some (-1, zmqMsgInit, sock) := zmqMsgRecv_fail zmqMsgInit sock
      rw [recvLoop_round data failed]
      simp only [List.tail_cons, more, if_true]
      rw [if_neg (by decide), if_neg (by decide)]
      exact ih later sock data pending more (by simp only [List.length_cons] at hn; omega)
    · have succeeds : outcomes.headD true = true := by simpa using fails
      have received : zmqMsgRecv (outcomes.headD true) zmqMsgInit sock =
          some (sizeRc frame.length, ⟨frame⟩,
            { sock with current := rest, rcvMore := !rest.isEmpty }) := by
        rw [succeeds]
        simp only [zmqMsgRecv, Bool.true_eq_false, if_false, hcurrent]
      rw [recvLoop_round data received]
      simp only [keepBody_eq]
      rw [hcurrent, List.foldl_cons]
      cases rest with
      | nil => simp
      | cons next later =>
        simp only [List.isEmpty_cons, Bool.not_false, if_true]
        apply ih outcomes.tail
        · exact List.cons_ne_nil next later
        · rfl
        · simp only [List.length_tail, List.length_cons]
          rw [hcurrent] at hn
          simp only [List.length_cons] at hn
          omega

/-! ## Sending -/

/-- The free slots after a `_send_message`: its slot is back when all went well. -/
def afterSend (env : SendEnv) : List (Fin msgBufferSize) → List (Fin msgBufferSize)
  | [] => []
  | replay :: rest => if env = SendEnv.ok then replay :: rest else rest

/-- What every call of `_send_message` leaves. -/
structure SendEffect (env : SendEnv) (msg : IpcMsg) (identity : Bytes)
    (stack : List (Fin msgBufferSize)) (s after : BusState) (forward : Forward) : Prop where
  clients : after.clients = s.clients
  sock : after.sock = { s.sock with wire := s.sock.wire ++ forward.frames }
  pool : PoolInv after.msgBuffer (afterSend env stack)
  identity : forward.identity = identity
  msg : forward.msg = msg
  slot : forward.slot = stack.head?

/-- With no slot left the message is dropped and nothing is touched. -/
theorem sendMessage_drop {s : BusState} (inv : PoolInv s.msgBuffer []) (env : SendEnv)
    (msg : IpcMsg) (identity : Bytes) :
    sendMessage env msg identity s =
      some (s, { identity, msg, slot := none, copies := [], frames := [], ret := .ok () }) := by
  simp only [sendMessage, getSlot_nil inv]

/-- A send that fails somewhere keeps its slot. -/
theorem sendMessage_fail {s : BusState} {replay : Fin msgBufferSize}
    {rest : List (Fin msgBufferSize)} (inv : PoolInv s.msgBuffer (replay :: rest))
    {env : SendEnv} (fails : env ≠ SendEnv.ok) (msg : IpcMsg) (identity : Bytes) :
    ∃ after forward, sendMessage env msg identity s = some (after, forward) ∧
      SendEffect env msg identity (replay :: rest) s after forward := by
  obtain ⟨buffer, got, taken⟩ := getSlot_cons inv
  have kept : afterSend env (replay :: rest) = rest := by simp [afterSend, fails]
  rcases env with ⟨identityOk, emptyOk, msgOk⟩
  cases identityOk with
  | false =>
    simp only [sendMessage, got, zmqMsgSend_fail, if_true]
    refine ⟨_, _, rfl, rfl, by simp, ?_, rfl, rfl, rfl⟩
    rw [kept]
    exact taken.inv.setData replay _
  | true =>
    cases emptyOk with
    | false =>
      simp only [sendMessage, got, zmqMsgSend_ok, zmqSend_fail, sizeRc_ne_neg_one, if_false,
        if_true]
      refine ⟨_, _, rfl, rfl, rfl, ?_, rfl, rfl, rfl⟩
      rw [kept]
      exact taken.inv.setData replay _
    | true =>
      cases msgOk with
      | false =>
        simp only [sendMessage, got, zmqMsgSend_ok, zmqSend_ok, zmqMsgSend_fail,
          sizeRc_ne_neg_one, if_false, if_true]
        refine ⟨_, _, rfl, rfl, by simp, ?_, rfl, rfl, rfl⟩
        rw [kept]
        exact (taken.inv.setData replay _).setData replay _
      | true => exact absurd rfl fails

/-- A slot after a send: both frames that were filled are empty. -/
def spent (slot : ZMQAllMsg) : ZMQAllMsg := { slot with identity := ⟨[]⟩, msg := ⟨[]⟩ }

/-- A call in which all three sends succeed, from a slot with given frames. -/
def forwardFrom (replay : Fin msgBufferSize) (slot : ZMQAllMsg) (msg : IpcMsg) (identity : Bytes) :
    Forward where
  identity := identity
  msg := msg
  slot := some replay
  copies := [⟨slot.identity.size, identity.length⟩, ⟨slot.msg.size, sizeofIpcMsg⟩]
  frames :=
    [(memcpy slot.identity.data identity, true), ([], true),
      (memcpy slot.msg.data msg.bytes, false)]
  ret := .ok ()

/-- A send that succeeds: its slot is back, with both frames empty. -/
theorem sendMessage_ok {s : BusState} {replay : Fin msgBufferSize}
    {rest : List (Fin msgBufferSize)} (inv : PoolInv s.msgBuffer (replay :: rest))
    (msg : IpcMsg) (identity : Bytes) :
    ∃ after, sendMessage SendEnv.ok msg identity s =
        some (after, forwardFrom replay (s.msgBuffer.data replay) msg identity) ∧
      SendEffect SendEnv.ok msg identity (replay :: rest) s after
        (forwardFrom replay (s.msgBuffer.data replay) msg identity) ∧
      after.msgBuffer.data replay = spent (s.msgBuffer.data replay) := by
  obtain ⟨buffer, got, taken⟩ := getSlot_cons inv
  rw [← taken.data]
  have inv' := (taken.inv.setData replay
    { buffer.data replay with identity := ⟨[]⟩ }).setData replay (spent (buffer.data replay))
  have busy : ((buffer.setData replay { buffer.data replay with identity := ⟨[]⟩ }).setData replay
      (spent (buffer.data replay))).inUse replay = true := by
    simp [taken.inUse]
  obtain ⟨freed, released, effect⟩ := releaseSlot_busy inv' busy
  have sent : sendMessage SendEnv.ok msg identity s = some
      ({ s with
          msgBuffer := freed
          sock := { s.sock with
            wire := s.sock.wire ++
              (forwardFrom replay (buffer.data replay) msg identity).frames } },
        forwardFrom replay (buffer.data replay) msg identity) := by
    unfold spent at released
    simp only [sendMessage, got, SendEnv.ok, zmqMsgSend_ok, zmqSend_ok, sizeRc_ne_neg_one,
      if_false, released, forwardFrom, List.append_assoc, List.cons_append, List.nil_append]
  refine ⟨_, sent, ⟨rfl, rfl, ?_, rfl, rfl, rfl⟩, ?_⟩
  · simpa only [afterSend, if_true] using effect.inv
  · change freed.data replay = _
    rw [effect.data]
    simp

/-- Every call of `_send_message` returns, whatever fails. -/
theorem sendMessage_spec {s : BusState} {stack : List (Fin msgBufferSize)}
    (inv : PoolInv s.msgBuffer stack) (env : SendEnv) (msg : IpcMsg) (identity : Bytes) :
    ∃ after forward, sendMessage env msg identity s = some (after, forward) ∧
      SendEffect env msg identity stack s after forward := by
  cases stack with
  | nil =>
    exact ⟨_, _, sendMessage_drop inv env msg identity, rfl, by simp,
      by simpa [afterSend] using inv, rfl, rfl, rfl⟩
  | cons replay rest =>
    by_cases ok : env = SendEnv.ok
    · subst ok
      obtain ⟨after, sent, effect, _⟩ := sendMessage_ok inv msg identity
      exact ⟨after, _, sent, effect⟩
    · exact sendMessage_fail inv ok msg identity

theorem afterSend_ok (stack : List (Fin msgBufferSize)) : afterSend SendEnv.ok stack = stack := by
  cases stack with
  | nil => rfl
  | cons replay rest => simp only [afterSend, if_true]

theorem afterSend_subset (env : SendEnv) (stack : List (Fin msgBufferSize)) :
    afterSend env stack ⊆ stack := by
  cases stack with
  | nil => simp [afterSend]
  | cons replay rest =>
    simp only [afterSend]
    split
    · exact fun _ member => member
    · exact fun _ member => List.mem_cons_of_mem replay member

/-- The scope guard returns the slot of `_handle_msg`. -/
theorem bufferCleanup_spec {s : BusState} {allMsg : Fin msgBufferSize}
    {stack : List (Fin msgBufferSize)} (inv : PoolInv s.msgBuffer stack) (held : allMsg ∉ stack) :
    ∃ buffer, bufferCleanup allMsg s = some { s with msgBuffer := buffer } ∧
      PoolInv buffer (allMsg :: stack) ∧ buffer.data = s.msgBuffer.data := by
  have busy : s.msgBuffer.inUse allMsg = true := by simpa [inv.mem_iff allMsg] using held
  obtain ⟨freed, released, effect⟩ := releaseSlot_busy inv busy
  exact ⟨freed, by simp only [bufferCleanup, released], effect.inv, effect.data⟩

/-! ## A whole call -/

/-- The code's state between two calls: the router's, with a stack of free slots. -/
structure BusInv (s : BusState) (r : Router) (stack : List (Fin msgBufferSize)) : Prop where
  clients : s.clients = r.registry
  inbox : s.sock.inbox = r.queue.map RouterMsg.toMultipart
  current : s.sock.current = []
  pool : PoolInv s.msgBuffer stack

theorem fresh_inv (error : ErrorHandler) :
    BusInv (BusState.fresh error) Router.fresh (List.finRange msgBufferSize) :=
  ⟨rfl, rfl, rfl, init_inv initAllmsg error⟩

/-- `_handle_msg` in the middle of a call: the message is taken and its source
registered, and one slot is held. -/
structure Received (s : BusState) (r : Router) (allMsg : Fin msgBufferSize)
    (rest : List (Fin msgBufferSize)) (middle : BusState) : Prop where
  clients : middle.clients = r.registry
  sock : middle.sock = ⟨r.queue.map RouterMsg.toMultipart, [], false, s.sock.wire⟩
  pool : PoolInv middle.msgBuffer rest
  data : ∀ j, j ≠ allMsg → middle.msgBuffer.data j = s.msgBuffer.data j

/-- A failed receive of the identity leaves the message where it was. -/
theorem handleMsg_recvFailed {s : BusState} {r : Router} {allMsg : Fin msgBufferSize}
    {rest : List (Fin msgBufferSize)} (inv : BusInv s r (allMsg :: rest)) {env : HandleEnv}
    (fails : env.identityRecv = false) :
    ∃ after, handleMsg env s = some (after, {}) ∧ BusInv after r (allMsg :: rest) ∧
      after.sock = s.sock := by
  obtain ⟨buffer, got, taken⟩ := getSlot_cons inv.pool
  have held : allMsg ∉ rest := (List.nodup_cons.mp inv.pool.threads.nodup).1
  let middle : BusState := { s with msgBuffer := buffer.setData allMsg (buffer.data allMsg) }
  have kept : PoolInv middle.msgBuffer rest := taken.inv.setData allMsg (buffer.data allMsg)
  obtain ⟨cleaned, cleanup, pool, _⟩ := bufferCleanup_spec kept held
  simp only [middle] at cleanup
  refine ⟨{ s with msgBuffer := cleaned }, ?_, ⟨inv.clients, inv.inbox, inv.current, pool⟩, rfl⟩
  simp only [handleMsg, got, fails, zmqMsgRecv_fail, if_true, cleanup, Option.map_some]

/-- With no message waiting the call blocks. -/
theorem handleMsg_blocked {s : BusState} {r : Router} {allMsg : Fin msgBufferSize}
    {rest : List (Fin msgBufferSize)} (inv : BusInv s r (allMsg :: rest)) {env : HandleEnv}
    (succeeds : env.identityRecv = true) (empty : r.queue = []) : handleMsg env s = none := by
  obtain ⟨buffer, got, taken⟩ := getSlot_cons inv.pool
  have inbox : s.sock.inbox = [] := by rw [inv.inbox, empty, List.map_nil]
  simp only [handleMsg, got, succeeds, zmqMsgRecv, Bool.true_eq_false, if_false, inv.current, inbox]

/-- A received message: what is left of the call after the registration. -/
theorem handleMsg_received {s : BusState} {r : Router} {allMsg : Fin msgBufferSize}
    {rest : List (Fin msgBufferSize)} (inv : BusInv s r (allMsg :: rest)) {env : HandleEnv}
    (succeeds : env.identityRecv = true) {m : RouterMsg} {later : List RouterMsg}
    (waiting : r.queue = m :: later) :
    let data := m.decode env.stale
    let registry := registerClient r.registry data.srcId m.routingId
    ∃ middle, Received s ⟨registry, later⟩ allMsg rest middle ∧
      handleMsg env s =
        match registry data.distId with
        | none =>
          (bufferCleanup allMsg middle).map fun s =>
            (s, { decoded := some (m.routingId, data), neverRegistered := some data.distId })
        | some destination =>
          match sendMessage env.sends data destination middle with
          | none => none
          | some (s, forward) =>
            (bufferCleanup allMsg s).map fun s =>
              (s, { decoded := some (m.routingId, data), forward := some forward }) := by
  intro data registry
  obtain ⟨buffer, got, taken⟩ := getSlot_cons inv.pool
  have inbox : s.sock.inbox = m.toMultipart :: later.map RouterMsg.toMultipart := by
    rw [inv.inbox, waiting, List.map_cons]
  have identity : zmqMsgRecv env.identityRecv (buffer.data allMsg).identity s.sock =
      some (sizeRc m.routingId.length, ⟨m.routingId⟩,
        { s.sock with
          inbox := later.map RouterMsg.toMultipart, current := m.frames, rcvMore := true }) := by
    have more : (!m.frames.isEmpty) = true := by simpa using m.frames_ne
    simp only [zmqMsgRecv, succeeds, Bool.true_eq_false, if_false, inv.current, inbox,
      RouterMsg.toMultipart, more]
  have loop := recvLoop_spec env.loopRecv
    { s.sock with inbox := later.map RouterMsg.toMultipart, current := m.frames, rcvMore := true }
    env.stale m.frames_ne rfl
  rw [foldl_keepBody] at loop
  let slot : ZMQAllMsg := { buffer.data allMsg with identity := ⟨m.routingId⟩ }
  let middle : BusState :=
    { clients := registry
      msgBuffer := (buffer.setData allMsg slot).setData allMsg
        { slot with msg := zmqMsgClose slot.msg }
      sock := ⟨later.map RouterMsg.toMultipart, [], false, s.sock.wire⟩ }
  refine ⟨middle, ⟨rfl, rfl, (taken.inv.setData allMsg _).setData allMsg _, ?_⟩, ?_⟩
  · intro j other
    simp only [middle, setData_data, taken.data, Function.update_of_ne other]
  · simp only [handleMsg, got, identity, sizeRc_ne_neg_one, if_false, loop, inv.clients]
    rfl

/-- What one call leaves: the router's next state, one free slot less when a send
failed, and a trace that shows what the router shows. -/
structure CallEffect (env : HandleEnv) (r : Router) (out : Routed) (allMsg : Fin msgBufferSize)
    (rest : List (Fin msgBufferSize)) (after : BusState) (trace : HandleTrace) : Prop where
  inv : BusInv after r
    (allMsg :: if out.forward.isSome then afterSend env.sends rest else rest)
  slotNull : trace.slotNull = false
  decoded : trace.decoded = out.decoded
  forward : trace.forward.map (fun f => (f.identity, f.msg)) = out.forward
  slot : ∀ f, trace.forward = some f → f.slot = rest.head?

/-- As long as one slot is free, a call of the code is a step of the router. -/
theorem handleMsg_spec {s : BusState} {r next : Router} {out : Routed}
    {allMsg : Fin msgBufferSize} {rest : List (Fin msgBufferSize)}
    (inv : BusInv s r (allMsg :: rest)) {env : HandleEnv}
    (routed : r.handle env = some (next, out)) :
    ∃ after trace, handleMsg env s = some (after, trace) ∧
      CallEffect env next out allMsg rest after trace := by
  have held : allMsg ∉ rest := (List.nodup_cons.mp inv.pool.threads.nodup).1
  unfold Router.handle at routed
  split at routed
  · next fails =>
    cases routed
    obtain ⟨after, code, inv', _⟩ := handleMsg_recvFailed inv fails
    refine ⟨after, {}, code, by simpa using inv', rfl, rfl, rfl, ?_⟩
    intro f absent
    cases absent
  · next succeeds =>
    have succeeds : env.identityRecv = true := by simpa using succeeds
    split at routed
    · cases routed
    · next m later waiting =>
      cases routed
      obtain ⟨middle, received, code⟩ := handleMsg_received inv succeeds waiting
      have current : middle.sock.current = [] := by rw [received.sock]
      have inbox : middle.sock.inbox = later.map RouterMsg.toMultipart := by rw [received.sock]
      cases destination :
          registerClient r.registry (m.decode env.stale).srcId m.routingId
            (m.decode env.stale).distId with
      | none =>
        obtain ⟨buffer, cleanup, pool, _⟩ := bufferCleanup_spec received.pool held
        rw [destination] at code
        simp only [cleanup, Option.map_some] at code
        refine ⟨_, _, code, ⟨received.clients, inbox, current, by simpa using pool⟩, rfl, rfl,
          rfl, ?_⟩
        intro f absent
        cases absent
      | some route =>
        obtain ⟨sent, forward, send, effect⟩ :=
          sendMessage_spec received.pool env.sends (m.decode env.stale) route
        have held' : allMsg ∉ afterSend env.sends rest :=
          fun member => held (afterSend_subset env.sends rest member)
        obtain ⟨buffer, cleanup, pool, _⟩ := bufferCleanup_spec effect.pool held'
        rw [destination] at code
        simp only [send, cleanup, Option.map_some] at code
        refine ⟨_, _, code, ⟨effect.clients.trans received.clients, ?_, ?_, by simpa using pool⟩,
          rfl, rfl, ?_, ?_⟩
        · simp only [effect.sock, inbox]
        · simp only [effect.sock, current]
        · simp only [Option.map_some, effect.identity, effect.msg]
        · intro f present
          cases present
          exact effect.slot

/-- When the router waits for ever, so does the code. -/
theorem handleMsg_none {s : BusState} {r : Router} {allMsg : Fin msgBufferSize}
    {rest : List (Fin msgBufferSize)} (inv : BusInv s r (allMsg :: rest)) {env : HandleEnv}
    (blocked : r.handle env = none) : handleMsg env s = none := by
  unfold Router.handle at blocked
  split at blocked
  · cases blocked
  · next succeeds =>
    split at blocked
    · next empty => exact handleMsg_blocked inv (by simpa using succeeds) empty
    · cases blocked

/-- Messages that arrive between two calls join the queue on both sides. -/
theorem BusInv.arrive {s : BusState} {r : Router} {stack : List (Fin msgBufferSize)}
    (inv : BusInv s r stack) (arrived : List RouterMsg) :
    BusInv { s with sock := { s.sock with
        inbox := s.sock.inbox ++ arrived.map RouterMsg.toMultipart } }
      { r with queue := r.queue ++ arrived } stack :=
  ⟨inv.clients, by simp only [inv.inbox, List.map_append], inv.current, inv.pool⟩

theorem busCall_spec {s : BusState} {r next : Router} {out : Routed}
    {allMsg : Fin msgBufferSize} {rest : List (Fin msgBufferSize)}
    (inv : BusInv s r (allMsg :: rest)) {c : BusCall} (routed : r.call c = some (next, out)) :
    ∃ after trace, busCall s c = some (after, trace) ∧
      CallEffect c.env next out allMsg rest after trace :=
  handleMsg_spec (inv.arrive c.arrived) routed

theorem busCall_none {s : BusState} {r : Router} {allMsg : Fin msgBufferSize}
    {rest : List (Fin msgBufferSize)} (inv : BusInv s r (allMsg :: rest)) {c : BusCall}
    (blocked : r.call c = none) : busCall s c = none :=
  handleMsg_none (inv.arrive c.arrived) blocked

/-- A message of zeros: from the manager, to the manager. -/
def zeroMsg : IpcMsg := ⟨List.replicate sizeofIpcMsg 0, List.length_replicate⟩

/-- It arrives at the bus. -/
def zeroFromManager : RouterMsg where
  routingId := ascii "manager"
  frames := [List.replicate sizeofIpcMsg 0]
  frames_ne := List.cons_ne_nil _ _

end FifthD.Guarantees.BusStep
