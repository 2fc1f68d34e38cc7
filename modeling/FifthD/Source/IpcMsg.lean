import FifthD.Source.Zmq

/-!
The message of the bus, the table of client identities and the slots that hold the
frames of one message: core/common/5thdipcmsg.h:13-42, core/5thdipcmsg.c:10-28 and
core/izmq.cpp:8-12. `ipc_msg_t` is packed, so a value is its 302 bytes; integers are
little-endian. `int` is 32 bits.
-/
namespace FifthD.Source

def CATEGORY_LENGTH_BYTES : Nat := 30

def DATA_LENGTH_BYTES : Nat := 256

/-- `sizeof(ipc_msg_t)`: two `int`, one `int64_t`, the category and the data. -/
def sizeofIpcMsg : Nat := 4 + 4 + 8 + CATEGORY_LENGTH_BYTES + DATA_LENGTH_BYTES

/-- `ipc_msg_t`. -/
structure IpcMsg where
  bytes : Bytes
  length_eq : bytes.length = sizeofIpcMsg
  deriving DecidableEq

/-- The `int` at an offset, low byte first. -/
def intAt (bytes : Bytes) (offset : Nat) : BitVec 32 :=
  BitVec.ofNat 32 (((bytes.drop offset).take 4).foldr (fun b acc => b.toNat + 256 * acc) 0)

def IpcMsg.srcId (m : IpcMsg) : BitVec 32 := intAt m.bytes 0

def IpcMsg.distId (m : IpcMsg) : BitVec 32 := intAt m.bytes 4

/-- The bytes of `category`. -/
def IpcMsg.category (m : IpcMsg) : Bytes := (m.bytes.drop 16).take CATEGORY_LENGTH_BYTES

/-- The bytes that `%s` reads in `print_ipc_msg`: from the category on, up to and with the
first NUL; at least these, when there is no NUL up to the end of the message. -/
def IpcMsg.categoryScan (m : IpcMsg) : Nat := ((m.bytes.drop 16).takeWhile (· ≠ 0)).length + 1

/-- `memcpy` into a message object. -/
def IpcMsg.write (m : IpcMsg) (src : Bytes) : IpcMsg :=
  ⟨memcpy m.bytes src, (memcpy_length m.bytes src).trans m.length_eq⟩

theorem IpcMsg.write_eq (m : IpcMsg) {src : Bytes} (h : src.length = sizeofIpcMsg) :
    m.write src = ⟨src, h⟩ := by
  simp only [IpcMsg.write, IpcMsg.mk.injEq]
  exact memcpy_eq_of_length (h.trans m.length_eq.symm)

/-- `enum Clients` without its end marker `CLIENTS_TOTAL`. -/
inductive Clients where
  | MANAGER | PEER | UI | ROUTER
  deriving DecidableEq, Repr

/-- The end marker of `enum Clients`. -/
def CLIENTS_TOTAL : Nat := 4

/-- `CLIENTS_IDS` at a client's number. -/
def CLIENTS_IDS : Clients → Bytes
  | .MANAGER => ascii "manager"
  | .PEER => ascii "peerxxx"
  | .UI => ascii "uixxxxx"
  | .ROUTER => ascii "ipcrout"

/-- `strlen(CLIENTS_IDS[0])`. -/
def identityFrameSize : Nat := (CLIENTS_IDS .MANAGER).length

@[simp] theorem CLIENTS_IDS_length (client : Clients) :
    (CLIENTS_IDS client).length = identityFrameSize := by
  cases client <;> rfl

/-- `ZMQAllMsg`. -/
structure ZMQAllMsg where
  identity : ZmqMsg
  empty : ZmqMsg
  msg : ZmqMsg
  deriving DecidableEq, Repr

/-- `init_allmsg`. -/
def initAllmsg : ZMQAllMsg where
  identity := zmqMsgInitSize identityFrameSize
  empty := zmqMsgInitSize 0
  msg := zmqMsgInitSize sizeofIpcMsg

/-- The number of slots of a `_msg_buffer`, of the bus and of a transmitter. -/
abbrev msgBufferSize : Nat := 10

instance msgBufferSize.neZero : NeZero msgBufferSize := ⟨by decide⟩

end FifthD.Source
