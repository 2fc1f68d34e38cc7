import FifthD.Source.Transmitter
import Mathlib.Logic.Function.Basic

/-!
Threads in `_send` of one transmitter at the same time: core/transmitter.cpp:105-157. Each
call of `is_full`, `get_slot` and `release_slot` is one step, under the mutex of the pool;
each `zmq_msg_send` is one, together with what its thread does since the step before. The
scheduler picks the thread, and the outcome of the `zmq_msg_send`.
-/
namespace FifthD.Source

/-- Where a thread is: not in `_send`, behind `is_full`, before the send of one of its frames
with the payload that is left, or leaving through the scope guard with a result. -/
inductive Sending where
  | idle
  | checked (data : Bytes)
  | identity (allMsg : Fin msgBufferSize) (data : Bytes)
  | empty (allMsg : Fin msgBufferSize) (data : Bytes)
  | chunk (allMsg : Fin msgBufferSize) (data : Bytes)
  | leaving (allMsg : Option (Fin msgBufferSize)) (ret : VoidResult)

/-- The slot that `all_msg` points to. -/
def Sending.slot : Sending → Option (Fin msgBufferSize)
  | .idle | .checked _ => none
  | .identity allMsg _ | .empty allMsg _ | .chunk allMsg _ => some allMsg
  | .leaving allMsg _ => allMsg

/-- The condition of the chunk loop. -/
def Sending.loop (allMsg : Fin msgBufferSize) (data : Bytes) : Sending :=
  if data.length = 0 then .leaving (some allMsg) (.ok ()) else .chunk allMsg data

namespace Transmitter

/-- A slot's frames and the socket after a send. -/
def sent (allMsg : Fin msgBufferSize) (slot : ZMQAllMsg) (sock : Socket) (t : Transmitter) :
    Transmitter :=
  { t with msgBuffer := t.msgBuffer.setData allMsg slot, sock }

/-- The identity is copied and sent. -/
def sendIdentity (succeeds : Bool) (allMsg : Fin msgBufferSize) (data : Bytes) (t : Transmitter) :
    Transmitter × Sending :=
  let slot := t.msgBuffer.data allMsg
  let frame : ZmqMsg := ⟨memcpy slot.identity.data t.identity⟩
  let (rc, identityMsg, sock) := zmqMsgSend succeeds frame true t.sock
  let t := t.sent allMsg { slot with identity := identityMsg } sock
  if rc = -1 then
    (t, .leaving (some allMsg) (err .FAIL_SEND_FRAME "Failed to send identity frame"))
  else (t, .empty allMsg data)

/-- The empty frame is sent. -/
def sendEmpty (succeeds : Bool) (allMsg : Fin msgBufferSize) (data : Bytes) (t : Transmitter) :
    Transmitter × Sending :=
  let slot := t.msgBuffer.data allMsg
  let (rc, emptyMsg, sock) := zmqMsgSend succeeds slot.empty true t.sock
  let t := t.sent allMsg { slot with empty := emptyMsg } sock
  if rc = -1 then
    (t, .leaving (some allMsg) (err .FAIL_SEND_FRAME "Failed to send empty frame"))
  else (t, .loop allMsg data)

/-- One round of the chunk loop. -/
def sendChunk (succeeds : Bool) (allMsg : Fin msgBufferSize) (data : Bytes) (t : Transmitter) :
    Transmitter × Sending :=
  let slot := t.msgBuffer.data allMsg
  let min := min data.length DEFAULT_DATA_CHUNK
  let chunk : ZmqMsg := ⟨memcpy (zmqMsgInitSize min).data (data.take min)⟩
  let (rc, chunkMsg, sock) := zmqMsgSend succeeds chunk (decide (min < data.length)) t.sock
  let t := t.sent allMsg { slot with msg := zmqMsgClose chunkMsg } sock
  if rc = -1 then
    (t, .leaving (some allMsg) (err .FAIL_SEND_FRAME "Failed to send chunk of data"))
  else (t, .loop allMsg (data.drop min))

end Transmitter

/-- A transmitter and the threads that send through it. -/
structure Senders (Thread : Type*) where
  transmitter : Transmitter
  threads : Thread → Sending

/-- A step that the scheduler may pick; `is_full` is the first of a `_send`. -/
inductive SenderStep (Thread : Type*) where
  | isFull (p : Thread) (data : Bytes)
  | getSlot (p : Thread)
  | zmqMsgSend (p : Thread) (succeeds : Bool)
  | releaseSlot (p : Thread)

namespace Senders

variable {Thread : Type*} [DecidableEq Thread]

/-- No thread is in `_send`. -/
def fresh (identity : Bytes) (error poolError : ErrorHandler) : Senders Thread :=
  ⟨Transmitter.fresh identity error poolError, fun _ => .idle⟩

/-- A thread has done something on the transmitter. -/
def move (s : Senders Thread) (p : Thread) (t : Transmitter) (sending : Sending) :
    Senders Thread :=
  ⟨t, Function.update s.threads p sending⟩

/-- `get_slot`, and the tests of `all_msg` and of the identity behind it. -/
def acquire (t : Transmitter) (data : Bytes) : Transmitter × Sending :=
  match t.msgBuffer.getSlot with
  | (none, buffer) =>
    ({ t with msgBuffer := buffer },
      .leaving none (err .MANAGE_BUFF_MONKEY "IDK what happen :/" (some .MEDIUM)))
  | (some allMsg, buffer) =>
    ({ t with msgBuffer := buffer },
      if t.identity.isEmpty then
        .leaving (some allMsg) (err .INVALID_IDENTITY "Identity is empty")
      else .identity allMsg data)

/-- The `zmq_msg_send` that a thread is before. -/
def transmit (t : Transmitter) (succeeds : Bool) : Sending → Option (Transmitter × Sending)
  | .identity allMsg data => some (t.sendIdentity succeeds allMsg data)
  | .empty allMsg data => some (t.sendEmpty succeeds allMsg data)
  | .chunk allMsg data => some (t.sendChunk succeeds allMsg data)
  | .idle | .checked _ | .leaving _ _ => none

/-- One step, if it is possible, and the thread whose `_send` it ends, with the result. -/
def step (s : Senders Thread) :
    SenderStep Thread → Option (Senders Thread × Option (Thread × VoidResult))
  | .isFull p data =>
    match s.threads p with
    | .idle =>
      if s.transmitter.msgBuffer.isFull = .ok true then
        some (s, some (p, err .MANAGE_BUFF_FULL "messages buffer is full" (some .LOW)))
      else some (s.move p s.transmitter (.checked data), none)
    | _ => none
  | .getSlot p =>
    match s.threads p with
    | .checked data =>
      let (t, sending) := acquire s.transmitter data
      some (s.move p t sending, none)
    | _ => none
  | .zmqMsgSend p succeeds =>
    match transmit s.transmitter succeeds (s.threads p) with
    | some (t, sending) => some (s.move p t sending, none)
    | none => none
  | .releaseSlot p =>
    match s.threads p with
    | .leaving allMsg ret =>
      (s.transmitter.bufferCleanup allMsg).map fun t => (s.move p t .idle, some (p, ret))
    | _ => none

end Senders
end FifthD.Source
