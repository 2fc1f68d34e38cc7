import FifthD.Library.Record
import FifthD.Source.IpcMsg

/-!
The message that a peer sends: 5thD_Peer/peer_module.cpp:27-34 and 94-104, with the members
of `ipc_msg_t` that it writes. An `int` is written as its four bytes, an `int64_t` as its
eight; the time is a parameter.
-/
namespace FifthD.Source

open FifthD.Library

/-- `timestamp`. -/
def IpcMsg.timestamp (m : IpcMsg) : BitVec 64 :=
  BitVec.ofNat 64 (Record.leValue (Record.slice m.bytes 8 8))

/-- `data`. -/
def IpcMsg.data (m : IpcMsg) : Bytes :=
  Record.slice m.bytes (16 + CATEGORY_LENGTH_BYTES) DATA_LENGTH_BYTES

/-- A write to a member, which stays inside the message. -/
def IpcMsg.put (m : IpcMsg) (offset : Nat) (src : Bytes)
    (fits : offset + src.length ≤ sizeofIpcMsg) : IpcMsg where
  bytes := Record.splice m.bytes offset src
  length_eq := (Record.length_splice (by rwa [m.length_eq])).trans m.length_eq

theorem intFits {offset : Nat} (fits : offset + 4 ≤ sizeofIpcMsg) (value : BitVec 32) :
    offset + (Record.leBytes 4 value.toNat).length ≤ sizeofIpcMsg := by
  rwa [Record.length_leBytes]

def IpcMsg.setSrcId (m : IpcMsg) (value : BitVec 32) : IpcMsg :=
  m.put 0 (Record.leBytes 4 value.toNat) (intFits (by decide) value)

def IpcMsg.setDistId (m : IpcMsg) (value : BitVec 32) : IpcMsg :=
  m.put 4 (Record.leBytes 4 value.toNat) (intFits (by decide) value)

def IpcMsg.setTimestamp (m : IpcMsg) (value : BitVec 64) : IpcMsg :=
  m.put 8 (Record.leBytes 8 value.toNat)
    ((Record.length_leBytes 8 value.toNat).symm ▸ (by decide : 8 + 8 ≤ sizeofIpcMsg))

theorem IpcMsg.zeroed_length : (List.replicate sizeofIpcMsg (0 : UInt8)).length = sizeofIpcMsg :=
  List.length_replicate

/-- `memset` of a whole message to zero. -/
def IpcMsg.zeroed : IpcMsg := ⟨List.replicate sizeofIpcMsg 0, IpcMsg.zeroed_length⟩

/-- A client's number as an `int`. -/
def Clients.toInt (client : Clients) : BitVec 32 := BitVec.ofNat 32 client.ctorIdx

/-- `ipc_msg`. -/
def ipcMsg (src dist : BitVec 32) (time : BitVec 64) : IpcMsg :=
  ((IpcMsg.zeroed.setSrcId src).setDistId dist).setTimestamp time

/-- `ipc_peer_msg`, which `main` sends over and over. -/
def ipcPeerMsg (time : BitVec 64) : IpcMsg :=
  ipcMsg Clients.PEER.toInt Clients.ROUTER.toInt time

end FifthD.Source
