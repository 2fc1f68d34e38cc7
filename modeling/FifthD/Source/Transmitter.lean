import FifthD.Source.IpcMsg
import FifthD.Source.ManagedBuffer

/-!
The transmitter and the client that sends through it: core/transmitter.cpp:7 and
97-157, core/5thdipc_client.cpp:10-12. Which `zmq_msg_send` calls of a `_send`
succeed is a parameter of the call. A call yields a trace of the copies it made into
frames and of the frames the socket accepted; a copy into a frame of a slot is cut
to the current size of that frame.
-/
namespace FifthD.Source

/-- `DEFAULT_DATA_CHUNK`. -/
def DEFAULT_DATA_CHUNK : Nat := sizeofIpcMsg

structure Transmitter where
  /-- `_identity`. -/
  identity : Bytes
  /-- `_msg_buffer`. -/
  msgBuffer : ManagedBuffer ZMQAllMsg msgBufferSize
  /-- `_error`. -/
  error : ErrorHandler
  /-- The socket of `_socket`. -/
  sock : Socket

/-- A `ZMQWTransmitter` just constructed, on a socket nothing was sent on. -/
def Transmitter.fresh (identity : Bytes) (error poolError : ErrorHandler) : Transmitter where
  identity := identity
  msgBuffer := ManagedBuffer.init initAllmsg poolError
  error := error
  sock := Socket.fresh

/-- What one call of `_send` did: its copies into frames, the frames the socket
accepted and its result. -/
structure SendTrace where
  copies : List FrameCopy := []
  frames : List (Bytes × Bool) := []
  ret : VoidResult
  deriving DecidableEq

/-- The chunk loop of `_send`. Every round takes the outcome of one send, success
when the list has ended. -/
def sendChunks (outcomes : List Bool) (data : Bytes) (msg : ZmqMsg) (sock : Socket) :
    ZmqMsg × Socket × SendTrace :=
  if data.length = 0 then (msg, sock, { ret := .ok () })
  else
    let min := min data.length DEFAULT_DATA_CHUNK
    let chunk : ZmqMsg := ⟨memcpy (zmqMsgInitSize min).data (data.take min)⟩
    let copy : FrameCopy := ⟨(zmqMsgInitSize min).size, min⟩
    let more := decide (min < data.length)
    let (rc, sent, sock) := zmqMsgSend (outcomes.headD true) chunk more sock
    if rc = -1 then
      (zmqMsgClose sent, sock,
        { copies := [copy], ret := err .FAIL_SEND_FRAME "Failed to send chunk of data" })
    else
      let (msg, sock, later) := sendChunks outcomes.tail (data.drop min) (zmqMsgClose sent) sock
      (msg, sock,
        { copies := copy :: later.copies
          frames := (chunk.data, more) :: later.frames
          ret := later.ret })
termination_by data.length
decreasing_by
  simp only [List.length_drop, DEFAULT_DATA_CHUNK, sizeofIpcMsg]
  omega

/-- The frames of one `_send`, from a slot: identity, empty, then the chunks. -/
def sendFrames (outcomes : List Bool) (identity data : Bytes) (slot : ZMQAllMsg) (sock : Socket) :
    ZMQAllMsg × Socket × SendTrace :=
  let identityCopy : FrameCopy := ⟨slot.identity.size, identity.length⟩
  let identityFrame : ZmqMsg := ⟨memcpy slot.identity.data identity⟩
  let (rc, identityMsg, sock) := zmqMsgSend (outcomes.headD true) identityFrame true sock
  let slot := { slot with identity := identityMsg }
  if rc = -1 then
    (slot, sock,
      { copies := [identityCopy]
        ret := err .FAIL_SEND_FRAME "Failed to send identity frame" })
  else
    let emptyFrame := slot.empty
    let (rc, emptyMsg, sock) := zmqMsgSend (outcomes.tail.headD true) emptyFrame true sock
    let slot := { slot with empty := emptyMsg }
    if rc = -1 then
      (slot, sock,
        { copies := [identityCopy]
          frames := [(identityFrame.data, true)]
          ret := err .FAIL_SEND_FRAME "Failed to send empty frame" })
    else
      let (msg, sock, chunks) := sendChunks outcomes.tail.tail data slot.msg sock
      ({ slot with msg := msg }, sock,
        { copies := identityCopy :: chunks.copies
          frames := (identityFrame.data, true) :: (emptyFrame.data, true) :: chunks.frames
          ret := chunks.ret })

/-- The scope guard of `_send`: whatever the slot, its pointer is released, and
the result of that is dropped. -/
def Transmitter.bufferCleanup (allMsg : Option (Fin msgBufferSize)) (t : Transmitter) :
    Option Transmitter :=
  match t.msgBuffer.releaseSlot (some (allMsg.map fun i => (i.val : Int))) with
  | none => none
  | some released => some { t with msgBuffer := released.buffer }

/-- `ZMQWTransmitter::_send`. It does not return (`none`) when the release aborts. -/
def Transmitter.sendOnce (outcomes : List Bool) (data : Bytes) (t : Transmitter) :
    Option (Transmitter × SendTrace) :=
  if t.msgBuffer.isFull = .ok true then
    some (t, { ret := err .MANAGE_BUFF_FULL "messages buffer is full" (some .LOW) })
  else
    match t.msgBuffer.getSlot with
    | (none, buffer) =>
      (bufferCleanup none { t with msgBuffer := buffer }).map fun t =>
        (t, { ret := err .MANAGE_BUFF_MONKEY "IDK what happen :/" (some .MEDIUM) })
    | (some allMsg, buffer) =>
      if t.identity.isEmpty then
        (bufferCleanup (some allMsg) { t with msgBuffer := buffer }).map fun t =>
          (t, { ret := err .INVALID_IDENTITY "Identity is empty" })
      else
        let (slot, sock, trace) :=
          sendFrames outcomes t.identity data (buffer.data allMsg) t.sock
        (bufferCleanup (some allMsg)
            { t with msgBuffer := buffer.setData allMsg slot, sock }).map fun t =>
          (t, trace)

/-- One call of `send`: its bytes, and the outcomes of the `zmq_msg_send` calls made
in it, in order. -/
structure SendCall where
  data : Bytes
  outcomes : List Bool
  deriving DecidableEq

/-- `ZMQWTransmitter::send`: the answer, and what the `_send` in it did. -/
def Transmitter.send (t : Transmitter) (c : SendCall) :
    Option (Transmitter × Bool × SendTrace) :=
  match t.sendOnce c.outcomes c.data with
  | none => none
  | some (t, trace) =>
    match trace.ret with
    | .ok _ => some (t, true, trace)
    | .error e => some (t, t.error.handleError e, trace)

/-- `IpcClient::send`, in which all ZeroMQ calls succeed. -/
def ipcClientSend (t : Transmitter) (msg : IpcMsg) : Option (Transmitter × Bool × SendTrace) :=
  t.send { data := msg.bytes, outcomes := [] }

end FifthD.Source
