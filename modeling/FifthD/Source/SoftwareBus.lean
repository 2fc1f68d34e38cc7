import FifthD.Source.IpcMsg
import FifthD.Source.ManagedBuffer

/-!
The software bus: 5thD_Software_Bus/core/src/software_bus.cpp:38-135. One call of
`_handle_msg` is one step; what the environment decides during it (which ZeroMQ calls
succeed, what the uninitialised local `data` holds) is a parameter of the call. Besides
the next state a call yields a trace of what it decoded, looked up, copied and sent. A
copy into a frame of a slot is cut to the current size of that frame; its two sizes are
recorded. The copy of the code goes on past the frame, into the canary and the next slot: a
call that makes one is the last of which anything is known (`HandleTrace.inMemory`).
-/
namespace FifthD.Source

structure BusState where
  /-- `_clients`. -/
  clients : BitVec 32 → Option Bytes
  /-- `_msg_buffer`. -/
  msgBuffer : ManagedBuffer ZMQAllMsg msgBufferSize
  /-- The router's socket. -/
  sock : Socket

/-- A `ZMQBus` just constructed, on a socket nothing has happened on. -/
def BusState.fresh (error : ErrorHandler) : BusState where
  clients := fun _ => none
  msgBuffer := ManagedBuffer.init initAllmsg error
  sock := Socket.fresh

/-- Which of the three sends of `_send_message` succeed. -/
structure SendEnv where
  identity : Bool
  empty : Bool
  msg : Bool
  deriving DecidableEq, Repr

def SendEnv.ok : SendEnv := ⟨true, true, true⟩

/-- One call of `_send_message`: its arguments, the slot it got, the copies into
frames it made, the frames the socket accepted and its result. -/
structure Forward where
  identity : Bytes
  msg : IpcMsg
  slot : Option (Fin msgBufferSize)
  copies : List FrameCopy
  frames : List (Bytes × Bool)
  ret : VoidResult
  deriving DecidableEq

/-- `ZMQBus::_send_message`. The slot is given back on the last line only. What it does after
a copy past a frame is not the code's. -/
def sendMessage (env : SendEnv) (msg : IpcMsg) (identity : Bytes) (s : BusState) :
    Option (BusState × Forward) :=
  match s.msgBuffer.getSlot with
  | (none, buffer) =>
    some ({ s with msgBuffer := buffer },
      { identity, msg, slot := none, copies := [], frames := [], ret := .ok () })
  | (some replay, buffer) =>
    let slot := buffer.data replay
    let identityCopy : FrameCopy := ⟨slot.identity.size, identity.length⟩
    let identityFrame : ZmqMsg := ⟨memcpy slot.identity.data identity⟩
    let (rc, identityMsg, sock) := zmqMsgSend env.identity identityFrame true s.sock
    let slot := { slot with identity := identityMsg }
    let buffer := buffer.setData replay slot
    if rc = -1 then
      some ({ s with msgBuffer := buffer, sock },
        { identity, msg, slot := some replay, copies := [identityCopy], frames := []
          ret := err .FAIL_SEND_FRAME "Fail to send identity frame" })
    else
      let (rc, sock) := zmqSend env.empty [] true sock
      if rc = -1 then
        some ({ s with msgBuffer := buffer, sock },
          { identity, msg, slot := some replay, copies := [identityCopy]
            frames := [(identityFrame.data, true)]
            ret := err .FAIL_SEND_FRAME "Fail to send empty frame" })
      else
        let msgCopy : FrameCopy := ⟨slot.msg.size, sizeofIpcMsg⟩
        let msgFrame : ZmqMsg := ⟨memcpy slot.msg.data msg.bytes⟩
        let (rc, msgMsg, sock) := zmqMsgSend env.msg msgFrame false sock
        let buffer := buffer.setData replay { slot with msg := msgMsg }
        if rc = -1 then
          some ({ s with msgBuffer := buffer, sock },
            { identity, msg, slot := some replay, copies := [identityCopy, msgCopy]
              frames := [(identityFrame.data, true), ([], true)]
              ret := err .FAIL_SEND_FRAME "Fail to send message frame" })
        else
          match buffer.releaseSlot (some (some (replay.val : Int))) with
          | none => none
          | some released =>
            some ({ s with msgBuffer := released.buffer, sock },
              { identity, msg, slot := some replay, copies := [identityCopy, msgCopy]
                frames := [(identityFrame.data, true), ([], true), (msgFrame.data, false)]
                ret := .ok () })

/-- What the environment decides during one call of `_handle_msg`: the contents of
the uninitialised `data`, the outcome of each `zmq_msg_recv` (those of the loop in
order, success when the list has ended) and of the sends. -/
structure HandleEnv where
  stale : IpcMsg
  identityRecv : Bool
  loopRecv : List Bool
  sends : SendEnv
  deriving DecidableEq

/-- What one call of `_handle_msg` did: whether it got no slot, the source identity
and message it decoded, the id it looked up in `CLIENTS_IDS` to warn about, and its
call of `_send_message`. -/
structure HandleTrace where
  slotNull : Bool := false
  decoded : Option (Bytes × IpcMsg) := none
  neverRegistered : Option (BitVec 32) := none
  forward : Option Forward := none
  deriving DecidableEq

/-- Whether a call stays in its memory: its copies in their frames, its index in `CLIENTS_IDS`,
and the category that it prints in its 30 bytes. -/
def HandleTrace.inMemory (trace : HandleTrace) : Bool :=
  (trace.forward.all fun f => f.copies.all fun copy => decide copy.InBounds) &&
    (trace.neverRegistered.all fun (id : BitVec 32) =>
      decide (0 ≤ id.toInt ∧ id.toInt < CLIENTS_TOTAL)) &&
    trace.decoded.all fun (_, data) => decide (data.categoryScan ≤ CATEGORY_LENGTH_BYTES)

/-- Frames a socket still has to hand out. -/
def Socket.pending (sock : Socket) : Nat :=
  sock.current.length + (sock.inbox.map fun message => message.rest.length + 1).sum

/-- Every received frame leaves one frame less to receive. -/
theorem zmqMsgRecv_pending {msg msg' : ZmqMsg} {sock sock' : Socket} {rc : Int}
    (h : zmqMsgRecv true msg sock = some (rc, msg', sock')) : sock'.pending < sock.pending := by
  unfold zmqMsgRecv at h
  simp only [Bool.true_eq_false, if_false] at h
  split at h
  · next frame rest hcurrent =>
    simp only [Option.some.injEq, Prod.mk.injEq] at h
    obtain ⟨_, _, rfl⟩ := h
    simp [Socket.pending, hcurrent]
  · next message later hcurrent hinbox =>
    simp only [Option.some.injEq, Prod.mk.injEq] at h
    obtain ⟨_, _, rfl⟩ := h
    simp only [Socket.pending, hcurrent, hinbox, List.length_nil, List.map_cons, List.sum_cons]
    omega
  · cases h

theorem zmqMsgRecv_fail (msg : ZmqMsg) (sock : Socket) :
    zmqMsgRecv false msg sock = some (-1, msg, sock) := rfl

/-- The receive loop of `_handle_msg`: it ends because every round uses up one
outcome of a failed call or one pending frame. -/
def recvLoop (outcomes : List Bool) (sock : Socket) (data : IpcMsg) : Option (Socket × IpcMsg) :=
  match _received : zmqMsgRecv (outcomes.headD true) zmqMsgInit sock with
  | none => none
  | some (rc, msg, sock') =>
    let data' :=
      if rc = 0 then data
      else if rc = sizeofIpcMsg then data.write (msg.data.take rc.toNat)
      else data
    if sock'.rcvMore then recvLoop outcomes.tail sock' data'
    else some (sock', data')
termination_by outcomes.length + sock.pending
decreasing_by
  rcases outcomes with _ | ⟨succeeds, rest⟩
  · have := zmqMsgRecv_pending _received
    simpa using this
  · cases succeeds with
    | true =>
      have := zmqMsgRecv_pending _received
      simp only [List.tail_cons, List.length_cons]
      omega
    | false =>
      simp only [List.headD_cons, zmqMsgRecv_fail, Option.some.injEq, Prod.mk.injEq] at _received
      obtain ⟨_, _, rfl⟩ := _received
      simp

/-- The scope guard of `_handle_msg`; the result of the release is dropped. -/
def bufferCleanup (allMsg : Fin msgBufferSize) (s : BusState) : Option BusState :=
  match s.msgBuffer.releaseSlot (some (some (allMsg.val : Int))) with
  | none => none
  | some released => some { s with msgBuffer := released.buffer }

/-- `_clients.insert` when the id is not there yet. -/
def registerClient (clients : BitVec 32 → Option Bytes) (id : BitVec 32) (identity : Bytes) :
    BitVec 32 → Option Bytes :=
  match clients id with
  | none => Function.update clients id (some identity)
  | some _ => clients

/-- `ZMQBus::_handle_msg`. It does not return (`none`) when a receive blocks for
ever or a release aborts. -/
def handleMsg (env : HandleEnv) (s : BusState) : Option (BusState × HandleTrace) :=
  match s.msgBuffer.getSlot with
  | (none, buffer) => some ({ s with msgBuffer := buffer }, { slotNull := true })
  | (some allMsg, buffer) =>
    match zmqMsgRecv env.identityRecv (buffer.data allMsg).identity s.sock with
    | none => none
    | some (rc, identityMsg, sock) =>
      let slot := { buffer.data allMsg with identity := identityMsg }
      let s := { s with msgBuffer := buffer.setData allMsg slot, sock }
      if rc = -1 then
        (bufferCleanup allMsg s).map fun s => (s, {})
      else
        match recvLoop env.loopRecv s.sock env.stale with
        | none => none
        | some (sock, data) =>
          let srcId := identityMsg.data
          let s :=
            { s with
              msgBuffer := s.msgBuffer.setData allMsg { slot with msg := zmqMsgClose slot.msg }
              sock
              clients := registerClient s.clients data.srcId srcId }
          match s.clients data.distId with
          | none =>
            (bufferCleanup allMsg s).map fun s =>
              (s, { decoded := some (srcId, data), neverRegistered := some data.distId })
          | some destination =>
            match sendMessage env.sends data destination s with
            | none => none
            | some (s, forward) =>
              (bufferCleanup allMsg s).map fun s =>
                (s, { decoded := some (srcId, data), forward := some forward })

end FifthD.Source
