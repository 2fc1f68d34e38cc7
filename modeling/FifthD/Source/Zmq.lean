import Mathlib.Algebra.Ring.Nat
import Mathlib.Data.List.Basic

/-!
What the repository relies on of libzmq. A message frame has a size and bytes;
`zmq_msg_init_size` fixes the size (its unspecified bytes are zero here),
`zmq_msg_recv` replaces the frame, a successful `zmq_msg_send` leaves it empty
and `zmq_msg_close` discards it. A socket hands out the frames of one incoming
multipart message after the other and remembers whether the current one has
more. Whether a call succeeds is decided by the caller of the model.
-/
namespace FifthD.Source

abbrev Bytes := List UInt8

/-- The bytes of a string literal, without the terminating NUL. -/
def ascii (s : String) : Bytes := s.toUTF8.data.toList

/-- `memcpy` to the start of `dst`, cut to the size of `dst`. -/
def memcpy (dst src : Bytes) : Bytes := src.take dst.length ++ dst.drop src.length

@[simp] theorem memcpy_length (dst src : Bytes) : (memcpy dst src).length = dst.length := by
  simp only [memcpy, List.length_append, List.length_take, List.length_drop]
  omega

/-- A source of exactly the size of the destination replaces it. -/
theorem memcpy_eq_of_length {dst src : Bytes} (h : src.length = dst.length) :
    memcpy dst src = src := by
  simp [memcpy, ← h]

/-- The destination size and the byte count of one `memcpy`. -/
structure FrameCopy where
  size : Nat
  len : Nat
  deriving DecidableEq, Repr

def FrameCopy.InBounds (c : FrameCopy) : Prop := c.len ≤ c.size

instance (c : FrameCopy) : Decidable c.InBounds := inferInstanceAs (Decidable (c.len ≤ c.size))

/-- `zmq_msg_t`. -/
structure ZmqMsg where
  data : Bytes
  deriving DecidableEq, Repr

/-- `zmq_msg_size`. -/
def ZmqMsg.size (m : ZmqMsg) : Nat := m.data.length

def zmqMsgInit : ZmqMsg := ⟨[]⟩

def zmqMsgInitSize (n : Nat) : ZmqMsg := ⟨List.replicate n 0⟩

def zmqMsgClose (_ : ZmqMsg) : ZmqMsg := ⟨[]⟩

/-- A whole multipart message: one frame and those after it. -/
structure Multipart where
  first : Bytes
  rest : List Bytes
  deriving DecidableEq, Repr

structure Socket where
  /-- Messages of which no frame has been taken yet. -/
  inbox : List Multipart
  /-- Frames of the message being taken that are still to come. -/
  current : List Bytes
  /-- The value of `ZMQ_RCVMORE`. -/
  rcvMore : Bool
  /-- Frames accepted for sending, each with its `ZMQ_SNDMORE` flag. -/
  wire : List (Bytes × Bool)
  deriving DecidableEq, Repr

def Socket.fresh : Socket := ⟨[], [], false, []⟩

def INT_MAX : Nat := 2 ^ 31 - 1

/-- The return value of a call that moved a frame of `n` bytes: `n` as an `int`,
cut to the largest one. -/
def sizeRc (n : Nat) : Int := (min n INT_MAX : Nat)

/-- `zmq_msg_recv`, blocking: `none` when no frame ever comes. A failed call
returns -1 and takes nothing; else the frame is replaced and its size, cut to the
range of `int`, is returned. -/
def zmqMsgRecv (succeeds : Bool) (msg : ZmqMsg) (sock : Socket) :
    Option (Int × ZmqMsg × Socket) :=
  if succeeds = false then some (-1, msg, sock)
  else
    match sock.current, sock.inbox with
    | frame :: rest, _ =>
      some (sizeRc frame.length, ⟨frame⟩,
        { sock with current := rest, rcvMore := !rest.isEmpty })
    | [], message :: later =>
      some (sizeRc message.first.length, ⟨message.first⟩,
        { sock with
          inbox := later, current := message.rest, rcvMore := !message.rest.isEmpty })
    | [], [] => none

/-- `zmq_msg_send`: on success the frame joins the wire and the message becomes
empty; a failed call (-1) changes nothing. -/
def zmqMsgSend (succeeds : Bool) (msg : ZmqMsg) (more : Bool) (sock : Socket) :
    Int × ZmqMsg × Socket :=
  if succeeds then
    (sizeRc msg.size, ⟨[]⟩, { sock with wire := sock.wire ++ [(msg.data, more)] })
  else (-1, msg, sock)

/-- `zmq_send` of a buffer. -/
def zmqSend (succeeds : Bool) (buf : Bytes) (more : Bool) (sock : Socket) : Int × Socket :=
  if succeeds then
    (sizeRc buf.length, { sock with wire := sock.wire ++ [(buf, more)] })
  else (-1, sock)

@[simp] theorem zmqMsgSend_ok (msg : ZmqMsg) (more : Bool) (sock : Socket) :
    zmqMsgSend true msg more sock =
      (sizeRc msg.size, ⟨[]⟩,
        { sock with wire := sock.wire ++ [(msg.data, more)] }) := rfl

@[simp] theorem zmqMsgSend_fail (msg : ZmqMsg) (more : Bool) (sock : Socket) :
    zmqMsgSend false msg more sock = (-1, msg, sock) := rfl

@[simp] theorem zmqSend_ok (buf : Bytes) (more : Bool) (sock : Socket) :
    zmqSend true buf more sock =
      (sizeRc buf.length, { sock with wire := sock.wire ++ [(buf, more)] }) := rfl

@[simp] theorem zmqSend_fail (buf : Bytes) (more : Bool) (sock : Socket) :
    zmqSend false buf more sock = (-1, sock) := rfl

/-- The size of a frame is never the failure value. -/
@[simp] theorem sizeRc_ne_neg_one (n : Nat) : sizeRc n ≠ -1 := by
  unfold sizeRc
  omega

/-- Below the largest `int` the return value tells the size. -/
theorem sizeRc_eq_iff {n k : Nat} (h : k < INT_MAX) : sizeRc n = k ↔ n = k := by
  unfold sizeRc
  omega

end FifthD.Source
