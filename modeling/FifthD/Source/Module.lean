import FifthD.Library.Interaction
import FifthD.Library.Transaction
import FifthD.Source.IpcMsg
import FifthD.Source.KeysDb

/-!
The provisioning of a module's key pair: core/module.cpp:7-114, with `exec`,
`begin_transaction`, `end_transaction` and `close` of core/5thdsql.cpp:62-106 and
258-287 and `generate_keys` of core/izmq.cpp:21-23. `_handle_keys` is a program over its
calls of the key store, of the transaction and of `generate_keys`; the database answers
them. `sodium_malloc` fills what it gives with 0xdb and succeeds; `zmq_curve_keypair`
writes 40 characters and a NUL into each buffer.
-/
namespace FifthD.Source

open FifthD.Library

/-! ## Key buffers -/

/-- The 41 bytes that `KeysInfo::init` allocates for one key. -/
structure KeyBuffer where
  bytes : Bytes
  length_eq : bytes.length = 41
  deriving DecidableEq

/-- `allocate_smem(41)`. -/
def KeyBuffer.allocated : KeyBuffer := ⟨List.replicate 41 0xdb, List.length_replicate⟩

/-- `memcpy` into a key buffer. -/
def KeyBuffer.write (buffer : KeyBuffer) (src : Bytes) : KeyBuffer :=
  ⟨memcpy buffer.bytes src, (memcpy_length buffer.bytes src).trans buffer.length_eq⟩

/-- The bytes up to `strlen`. -/
def KeyBuffer.text (buffer : KeyBuffer) : Bytes := buffer.bytes.takeWhile (· ≠ 0)

/-- What `zmq_curve_keypair` writes for one key, its NUL apart. -/
structure CurveKey where
  bytes : Bytes
  length_eq : bytes.length = 40
  printable : 0 ∉ bytes
  deriving DecidableEq

/-- The buffer that `zmq_curve_keypair` has written. -/
def CurveKey.buffer (key : CurveKey) : KeyBuffer where
  bytes := key.bytes ++ [0]
  length_eq := by
    rw [List.length_append, key.length_eq]
    rfl

/-- `strlen` of a generated key finds all of it. -/
@[simp] theorem CurveKey.buffer_text (key : CurveKey) : key.buffer.text = key.bytes := by
  unfold KeyBuffer.text CurveKey.buffer
  rw [List.takeWhile_append_of_pos]
  · simp
  · intro byte member
    have nonzero : byte ≠ 0 := by
      rintro rfl
      exact key.printable member
    simpa using nonzero

/-- `KeysInfo`; no buffer is memory that is not allocated. -/
structure KeysInfo where
  keyType : KeyType
  curvePub : Option KeyBuffer
  curvePrv : Option KeyBuffer
  isReady : Bool
  deriving DecidableEq

/-- `KeysInfo::init` for a curve key. -/
def KeysInfo.init (info : KeysInfo) : KeysInfo :=
  { info with curvePub := some .allocated, curvePrv := some .allocated }

/-- `KeysInfo::deinit` for a curve key. -/
def KeysInfo.deinit (info : KeysInfo) : KeysInfo := { info with curvePub := none, curvePrv := none }

/-- Both buffers written. -/
def KeysInfo.setKeys (info : KeysInfo) (pub prv : KeyBuffer) : KeysInfo :=
  { info with curvePub := some pub, curvePrv := some prv }

/-! ## The calls of `_handle_keys` -/

inductive KeyCall where
  | getKey (moduleName : Bytes) (keyType : KeyType) (keyName : Bytes)
  | generateKeys
  | beginTransaction
  | storeKey (moduleName : Bytes) (keyType : KeyType) (keyName : Bytes) (keyValue : ByteVector)
  | rollback
  | endTransaction
  | close
  deriving DecidableEq

/-- What a call answers; `generate_keys` answers with the keys when it returns 0. -/
abbrev KeyCall.Reply : KeyCall → Type
  | .getKey _ _ _ => Result Bytes
  | .generateKeys => Option (CurveKey × CurveKey)
  | .close => Unit
  | .beginTransaction | .storeKey _ _ _ _ | .rollback | .endTransaction => VoidResult

abbrev KeyProg (α : Type) := Prog KeyCall KeyCall.Reply α

/-- Make a call. -/
def KeyCall.ask (call : KeyCall) : KeyProg call.Reply := Prog.ask call

/-- The `std::vector` of some characters; without any it has no data. -/
def ByteVector.ofText (text : Bytes) : ByteVector := ⟨text, text.isEmpty, List.isEmpty_iff.mp⟩

def publicKey : Bytes := ascii "public_key"

def privateKey : Bytes := ascii "private_key"

/-- `_get_zmq_curve_keys`: the values found, or `none`. -/
def getZmqCurveKeys (id : Clients) : KeyProg (Option (Bytes × Bytes)) := do
  let publicKeyResult ← (KeyCall.getKey (CLIENTS_IDS id) .CURVE25519 publicKey).ask
  let privateKeyResult ← (KeyCall.getKey (CLIENTS_IDS id) .CURVE25519 privateKey).ask
  match publicKeyResult, privateKeyResult with
  | .ok pub, .ok prv => return some (pub, prv)
  | _, _ => return none

/-- What `_handle_keys` leaves: its result, the key info, whether its reads found both
keys, and its copies into the key buffers. -/
structure KeysResult where
  ret : Bool
  info : KeysInfo
  found : Bool
  copies : List FrameCopy
  deriving DecidableEq

/-- The end of `_handle_keys`: `is_ready` tells the result. -/
def KeysResult.leave (ret : Bool) (info : KeysInfo) : KeysResult :=
  ⟨ret, { info with isReady := ret }, false, []⟩

/-- Keys that were found are copied into the buffers, and the result stays false. -/
def loadKeys (info : KeysInfo) (pub prv : Bytes) : KeysResult where
  ret := false
  info := { info.setKeys (KeyBuffer.allocated.write pub) (KeyBuffer.allocated.write prv) with
    isReady := false }
  found := true
  copies := [⟨41, pub.length⟩, ⟨41, prv.length⟩]

/-- The writes of a generated pair inside the transaction, and its end. The result of the
first write is not looked at. -/
def writePair (id : Clients) (info : KeysInfo) (pub prv : KeyBuffer) : KeyProg KeysResult := do
  let _writePub ←
    (KeyCall.storeKey (CLIENTS_IDS id) info.keyType publicKey (.ofText pub.text)).ask
  let writePrv ←
    (KeyCall.storeKey (CLIENTS_IDS id) info.keyType privateKey (.ofText prv.text)).ask
  if isErr writePrv || isErr writePrv then
    let _ ← KeyCall.rollback.ask
    return .leave false info
  let commitRet ← KeyCall.endTransaction.ask
  if isErr commitRet then return .leave false info
  return .leave true info

/-- The transaction that stores a generated pair. -/
def storePair (id : Clients) (info : KeysInfo) (pub prv : KeyBuffer) : KeyProg KeysResult := do
  let beginResult ← KeyCall.beginTransaction.ask
  if isErr beginResult then return .leave false info
  writePair id info pub prv

/-- New keys: when `generate_keys` fails the buffers are freed and `is_ready` is not
written. -/
def generatePair (id : Clients) (info : KeysInfo) : KeyProg KeysResult := do
  match ← KeyCall.generateKeys.ask with
  | none => return ⟨false, info.deinit, false, []⟩
  | some (pub, prv) =>
    storePair id (info.setKeys pub.buffer prv.buffer) pub.buffer prv.buffer

/-- The switch of `_handle_keys` on the key type. -/
def switchKeyType (id : Clients) (info : KeysInfo) : KeyProg KeysResult :=
  match info.keyType with
  | .CURVE25519 => do
    match ← getZmqCurveKeys id with
    | some (pub, prv) => return loadKeys info.init pub prv
    | none => generatePair id info.init
  | _ => return .leave false info

/-- `_handle_keys`; the connection is closed when it returns. -/
def handleKeys (id : Clients) (info : KeysInfo) : KeyProg KeysResult := do
  let result ← switchKeyType id info
  KeyCall.close.ask
  return result

/-! ## The database -/

/-- The database file and its connections, each with the number of its statements not yet
finalized. -/
structure KeyServer (P : Type*) where
  store : TxStore P KeyTables
  alive : P → Nat

namespace KeyServer

variable {P : Type*} [DecidableEq P]

/-- No connection is open. -/
def idle (tables : KeyTables) : KeyServer P := ⟨.fresh tables, fun _ => 0⟩

/-- What a connection sees. -/
def conn (s : KeyServer P) (p : P) : Conn := ⟨s.store.view p, s.alive p⟩

/-- `DatabaseAccess::exec` of a statement of the transaction. -/
def exec (env : StmtEnv) (statement : TxStore P KeyTables → Option (TxStore P KeyTables))
    (s : KeyServer P) : KeyServer P × VoidResult :=
  if env.prepare = false then
    (s, err .DB_PREPARE_STATEMENT_FAILED ("Failed to prepare statement: " ++ env.errmsg))
  else
    match if env.step then statement s.store else none with
    | some store => ({ s with store }, .ok ())
    | none =>
      (s, err .DB_STATEMENT_EXECUTION_FAILED ("Failed to execute statement: " ++ env.errmsg))

end KeyServer

/-- What can fail in one `_handle_keys`: `generate_keys`, and the SQLite calls under each
of its calls. -/
structure StartEnv where
  generated : Option (CurveKey × CurveKey)
  faults : KeyCall → StmtEnv

/-- The answer of the database, or of `generate_keys`, to a call on a connection. Closing
a connection finalizes its statements and discards its transaction. -/
def performCall {P : Type*} [DecidableEq P] (env : StartEnv) (p : P) (s : KeyServer P) :
    (op : KeyCall) → KeyServer P × op.Reply
  | .getKey moduleName keyType keyName =>
    let (ret, c) := getKey (env.faults (.getKey moduleName keyType keyName)) moduleName keyType
      keyName (s.conn p)
    ({ s with alive := Function.update s.alive p c.alive }, ret)
  | .generateKeys => (s, env.generated)
  | .beginTransaction => s.exec (env.faults .beginTransaction) (·.start p)
  | .storeKey moduleName keyType keyName keyValue =>
    let (ret, c) := storeKey (env.faults (.storeKey moduleName keyType keyName keyValue))
      moduleName keyType keyName keyValue none (s.conn p)
    (⟨s.store.write p c.tables, Function.update s.alive p c.alive⟩, ret)
  | .rollback => s.exec (env.faults .rollback) (·.rollback p)
  | .endTransaction => s.exec (env.faults .endTransaction) (·.commit p)
  | .close => (⟨s.store.discard p, Function.update s.alive p 0⟩, ())

end FifthD.Source
