import FifthD.Source.PeerModule

/-!
# The layout of a message

The members of `ipc_msg_t` lie one behind the other and fill the message: a member that is
written is read back, no other changes, and the members together are the 302 bytes.
-/
namespace FifthD.Guarantees.MessageFormat

open FifthD.Library FifthD.Library.Record FifthD.Source

/-- The members of a message. -/
structure Members where
  srcId : BitVec 32
  distId : BitVec 32
  timestamp : BitVec 64
  category : Bytes
  data : Bytes
  categoryLength : category.length = CATEGORY_LENGTH_BYTES
  dataLength : data.length = DATA_LENGTH_BYTES

theorem category_length (m : IpcMsg) : m.category.length = CATEGORY_LENGTH_BYTES :=
  length_slice (by rw [m.length_eq]; decide)

theorem data_length (m : IpcMsg) : m.data.length = DATA_LENGTH_BYTES :=
  length_slice (by rw [m.length_eq]; decide)

/-- What the members of a message read. -/
def members (m : IpcMsg) : Members :=
  ⟨m.srcId, m.distId, m.timestamp, m.category, m.data, category_length m, data_length m⟩

/-- The message with given members. -/
def pack (f : Members) : IpcMsg where
  bytes := leBytes 4 f.srcId.toNat ++ (leBytes 4 f.distId.toNat ++
    (leBytes 8 f.timestamp.toNat ++ (f.category ++ f.data)))
  length_eq := by
    simp only [List.length_append, length_leBytes, f.categoryLength, f.dataLength]
    decide

/-! ## One member -/

theorem srcId_eq (m : IpcMsg) : m.srcId = BitVec.ofNat 32 (leValue (slice m.bytes 0 4)) := rfl

theorem distId_eq (m : IpcMsg) : m.distId = BitVec.ofNat 32 (leValue (slice m.bytes 4 4)) := rfl

theorem category_eq (m : IpcMsg) : m.category = slice m.bytes 16 CATEGORY_LENGTH_BYTES := rfl

/-- Integers of a member's size survive. -/
theorem ofNat_leBytes {w n : Nat} (size : 256 ^ n = 2 ^ w) (value : BitVec w) :
    BitVec.ofNat w (leValue (leBytes n value.toNat)) = value := by
  rw [leValue_leBytes, size, Nat.mod_eq_of_lt value.isLt, BitVec.ofNat_toNat, BitVec.setWidth_eq]

/-- So do the bytes they were read from. -/
theorem leBytes_ofNat {w n : Nat} (size : 256 ^ n = 2 ^ w) {bytes : List UInt8}
    (length : bytes.length = n) : leBytes n (BitVec.ofNat w (leValue bytes)).toNat = bytes := by
  have bound := leValue_lt bytes
  rw [length, size] at bound
  rw [BitVec.toNat_ofNat, Nat.mod_eq_of_lt bound, ← length, leBytes_leValue]

/-- An integer that was written to a message is read back, and the fields elsewhere stay. -/
theorem put_int (m : IpcMsg) {offset n w : Nat} (size : 256 ^ n = 2 ^ w) (value : BitVec w)
    (fits : offset + (leBytes n value.toNat).length ≤ sizeofIpcMsg) :
    BitVec.ofNat w (leValue (slice (m.put offset (leBytes n value.toNat) fits).bytes offset n)) =
        value ∧
      ∀ k l, k + l ≤ offset ∨ offset + n ≤ k →
        slice (m.put offset (leBytes n value.toNat) fits).bytes k l = slice m.bytes k l := by
  have inside : offset + (leBytes n value.toNat).length ≤ m.bytes.length := by rwa [m.length_eq]
  constructor
  · have own := slice_splice inside
    rw [length_leBytes] at own
    exact (congrArg (fun bytes => BitVec.ofNat w (leValue bytes)) own).trans
      (ofNat_leBytes size value)
  · intro k l apart
    rw [← length_leBytes n value.toNat] at apart
    exact slice_splice_apart inside apart

/-! ## All members -/

@[ext] theorem Members.ext {f g : Members} (src : f.srcId = g.srcId) (dist : f.distId = g.distId)
    (time : f.timestamp = g.timestamp) (category : f.category = g.category)
    (data : f.data = g.data) : f = g := by
  cases f
  cases g
  cases src
  cases dist
  cases time
  cases category
  cases data
  rfl

/-- The bytes of a message are those of its members. -/
theorem bytes_eq (m : IpcMsg) :
    m.bytes = slice m.bytes 0 4 ++ (slice m.bytes 4 4 ++
      (slice m.bytes 8 8 ++ (m.category ++ m.data))) := by
  have whole : slice m.bytes 0 (4 + (4 + (8 + (CATEGORY_LENGTH_BYTES + DATA_LENGTH_BYTES)))) =
      m.bytes := by
    have all := slice_all m.bytes
    rwa [m.length_eq] at all
  rw [slice_add, slice_add, slice_add, slice_add] at whole
  exact whole.symm

theorem pack_members (m : IpcMsg) : pack (members m) = m := by
  have src : leBytes 4 m.srcId.toNat = slice m.bytes 0 4 :=
    leBytes_ofNat rfl (length_slice (by rw [m.length_eq]; decide))
  have dist : leBytes 4 m.distId.toNat = slice m.bytes 4 4 :=
    leBytes_ofNat rfl (length_slice (by rw [m.length_eq]; decide))
  have time : leBytes 8 m.timestamp.toNat = slice m.bytes 8 8 :=
    leBytes_ofNat rfl (length_slice (by rw [m.length_eq]; decide))
  have bytes : (pack (members m)).bytes = m.bytes := by
    simp only [pack, members, src, dist, time]
    exact (bytes_eq m).symm
  cases m
  simpa only [pack, IpcMsg.mk.injEq] using bytes

theorem members_pack (f : Members) : members (pack f) = f := by
  have src : slice (pack f).bytes 0 4 = leBytes 4 f.srcId.toNat :=
    slice_append_left (leBytes 4 f.srcId.toNat) _
  have dist : slice (pack f).bytes 4 4 = leBytes 4 f.distId.toNat :=
    (slice_append_right (leBytes 4 f.srcId.toNat) _ 0 4).trans
      (slice_append_left (leBytes 4 f.distId.toNat) _)
  have time : slice (pack f).bytes 8 8 = leBytes 8 f.timestamp.toNat :=
    (slice_append_right (leBytes 4 f.srcId.toNat) _ 4 8).trans
      ((slice_append_right (leBytes 4 f.distId.toNat) _ 0 8).trans
        (slice_append_left (leBytes 8 f.timestamp.toNat) _))
  have behind : ∀ k n, slice (pack f).bytes (16 + k) n = slice (f.category ++ f.data) k n := by
    intro k n
    have first := slice_append_right (leBytes 4 f.srcId.toNat)
      (leBytes 4 f.distId.toNat ++ (leBytes 8 f.timestamp.toNat ++ (f.category ++ f.data)))
      (12 + k) n
    have second := slice_append_right (leBytes 4 f.distId.toNat)
      (leBytes 8 f.timestamp.toNat ++ (f.category ++ f.data)) (8 + k) n
    have third := slice_append_right (leBytes 8 f.timestamp.toNat) (f.category ++ f.data) k n
    rw [length_leBytes] at first second third
    have place : 16 + k = 4 + (12 + k) := by omega
    have place' : 12 + k = 4 + (8 + k) := by omega
    rw [place]
    refine first.trans ?_
    rw [place']
    exact second.trans third
  have category : (pack f).category = f.category := by
    rw [category_eq, ← f.categoryLength]
    exact (behind 0 f.category.length).trans (slice_append_left f.category f.data)
  have data : (pack f).data = f.data := by
    have last := slice_append_right f.category f.data 0 DATA_LENGTH_BYTES
    rw [f.categoryLength] at last
    refine (behind CATEGORY_LENGTH_BYTES DATA_LENGTH_BYTES).trans (last.trans ?_)
    rw [← f.dataLength, slice_all]
  apply Members.ext
  · change (pack f).srcId = f.srcId
    rw [srcId_eq, src, ofNat_leBytes rfl]
  · change (pack f).distId = f.distId
    rw [distId_eq, dist, ofNat_leBytes rfl]
  · change (pack f).timestamp = f.timestamp
    unfold IpcMsg.timestamp
    rw [time, ofNat_leBytes rfl]
  · exact category
  · exact data

/-! ## Writes -/

/-- Reads of the integers of a message are reads of their fields. -/
theorem int_congr {m m' : IpcMsg} {k : Nat} (same : slice m.bytes k 4 = slice m'.bytes k 4) :
    intAt m.bytes k = intAt m'.bytes k :=
  congrArg (fun bytes => BitVec.ofNat 32 (leValue bytes)) same

theorem timestamp_congr {m m' : IpcMsg} (same : slice m.bytes 8 8 = slice m'.bytes 8 8) :
    m.timestamp = m'.timestamp :=
  congrArg (fun bytes => BitVec.ofNat 64 (leValue bytes)) same

theorem members_setSrcId (m : IpcMsg) (value : BitVec 32) :
    members (m.setSrcId value) = { members m with srcId := value } := by
  obtain ⟨own, others⟩ := put_int m rfl value (intFits (by decide : 0 + 4 ≤ sizeofIpcMsg) value)
  apply Members.ext
  · exact own
  · exact int_congr (others 4 4 (by decide))
  · exact timestamp_congr (others 8 8 (by decide))
  · exact others 16 CATEGORY_LENGTH_BYTES (by decide)
  · exact others (16 + CATEGORY_LENGTH_BYTES) DATA_LENGTH_BYTES (by decide)

theorem members_setDistId (m : IpcMsg) (value : BitVec 32) :
    members (m.setDistId value) = { members m with distId := value } := by
  obtain ⟨own, others⟩ := put_int m rfl value (intFits (by decide : 4 + 4 ≤ sizeofIpcMsg) value)
  apply Members.ext
  · exact int_congr (others 0 4 (by decide))
  · exact own
  · exact timestamp_congr (others 8 8 (by decide))
  · exact others 16 CATEGORY_LENGTH_BYTES (by decide)
  · exact others (16 + CATEGORY_LENGTH_BYTES) DATA_LENGTH_BYTES (by decide)

theorem members_setTimestamp (m : IpcMsg) (value : BitVec 64) :
    members (m.setTimestamp value) = { members m with timestamp := value } := by
  have fits : 8 + (leBytes 8 value.toNat).length ≤ sizeofIpcMsg := by
    rw [length_leBytes]
    decide
  obtain ⟨own, others⟩ := put_int m rfl value fits
  apply Members.ext
  · exact int_congr (others 0 4 (by decide))
  · exact int_congr (others 4 4 (by decide))
  · exact own
  · exact others 16 CATEGORY_LENGTH_BYTES (by decide)
  · exact others (16 + CATEGORY_LENGTH_BYTES) DATA_LENGTH_BYTES (by decide)

/-- A message of zeros. -/
def zeros : Members :=
  ⟨0, 0, 0, List.replicate CATEGORY_LENGTH_BYTES 0, List.replicate DATA_LENGTH_BYTES 0,
    List.length_replicate, List.length_replicate⟩

theorem members_zeroed : members IpcMsg.zeroed = zeros := by
  apply Members.ext <;> decide +kernel

/-- The members of what `ipc_msg` makes. -/
theorem members_ipcMsg (src dist : BitVec 32) (time : BitVec 64) :
    members (ipcMsg src dist time) =
      { zeros with srcId := src, distId := dist, timestamp := time } := by
  unfold ipcMsg
  rw [members_setTimestamp, members_setDistId, members_setSrcId, members_zeroed]

/-- The members of a message and its 302 bytes determine each other: every message is packed
from its members, every choice of members is read back from the message packed from it, and
a member that is written changes that member and no other. So the message that `ipc_msg`
makes has the source, the destination and the time it was made with, and zeros. -/
theorem message_layout :
    (∀ m, pack (members m) = m) ∧ (∀ f, members (pack f) = f) ∧
      (∀ m value, members (m.setSrcId value) = { members m with srcId := value }) ∧
      (∀ m value, members (m.setDistId value) = { members m with distId := value }) ∧
      (∀ m value, members (m.setTimestamp value) = { members m with timestamp := value }) ∧
      ∀ src dist time, ipcMsg src dist time =
        pack { zeros with srcId := src, distId := dist, timestamp := time } := by
  refine ⟨pack_members, members_pack, members_setSrcId, members_setDistId, members_setTimestamp,
    ?_⟩
  intro src dist time
  rw [← members_ipcMsg, pack_members]

end FifthD.Guarantees.MessageFormat
