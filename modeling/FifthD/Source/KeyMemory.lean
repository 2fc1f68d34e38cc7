import FifthD.Source.Processes

/-!
`_handle_keys` and the two processes with the memory of the key buffers: core/module.cpp:7-123
with `allocate_smem` and `free_smem` of core/5thdallocator.cpp:10-21, `main` of
5thD_Software_Bus/soft_bus.cpp:8-29 and of 5thD_Peer/peer_module.cpp:36-88. Which of the
`sodium_malloc` and `sodium_mlock` calls of `KeysInfo::init` succeed is a parameter. A process
that uses memory that it has given back or never had, or that lies behind a buffer, ends there.
-/
namespace FifthD.Source

open FifthD.Library

/-! ## The buffers -/

/-- The outcomes of the calls of `KeysInfo::init`. -/
structure MemoryEnv where
  mallocPub : Bool
  mallocPrv : Bool
  mlockPub : Bool
  mlockPrv : Bool
  deriving DecidableEq

/-- `KeysInfo` with its pointers. -/
structure KeyPointers where
  keyType : KeyType
  curvePub : KeyPointer
  curvePrv : KeyPointer
  isReady : Bool
  deriving DecidableEq

/-- `allocate_smem(41)`. -/
def allocateSmem (succeeds : Bool) : KeyPointer := if succeeds then .buffer .allocated else .null

/-- `free_smem`, which wipes the memory first. -/
def freeSmem : KeyPointer → Option KeyPointer
  | .buffer _ => some .freed
  | .null | .freed => none

/-- `memcpy` to a pointer. -/
def KeyPointer.write (src : Bytes) : KeyPointer → Option KeyPointer
  | .buffer b => if src.length ≤ 41 then some (.buffer (b.write src)) else none
  | .null | .freed => none

namespace KeyPointers

/-- `KeysInfo::init` for a curve key, with its result. A lock that fails frees both buffers, and
the result is true all the same. -/
def init (env : MemoryEnv) (info : KeyPointers) : KeyPointers × Bool :=
  let curvePub := allocateSmem env.mallocPub
  let curvePrv := allocateSmem env.mallocPrv
  if curvePub = .null ∨ curvePrv = .null then ({ info with curvePub, curvePrv }, false)
  else if env.mlockPub = false ∨ env.mlockPrv = false then
    ({ info with curvePub := .freed, curvePrv := .freed }, true)
  else ({ info with curvePub, curvePrv }, true)

/-- `KeysInfo::deinit` for a curve key. -/
def deinit (info : KeyPointers) : Option KeyPointers := do
  let curvePub ← freeSmem info.curvePub
  let curvePrv ← freeSmem info.curvePrv
  return { info with curvePub, curvePrv }

end KeyPointers

/-! ## `_handle_keys` -/

/-- What `_handle_keys` leaves: its result, the key info, and whether its reads found both
keys. -/
structure PointersResult where
  ret : Bool
  info : KeyPointers
  found : Bool
  deriving DecidableEq

/-- A result with its buffers, as one with pointers. -/
def KeysResult.pointers (result : KeysResult) : PointersResult where
  ret := result.ret
  info := ⟨result.info.keyType, keyPointer result.info.curvePub, keyPointer result.info.curvePrv,
    result.info.isReady⟩
  found := result.found

/-- The copies of `_get_zmq_curve_keys`. -/
def copyKeys (info : KeyPointers) (pub prv : Bytes) : Option PointersResult := do
  let curvePub ← info.curvePub.write pub
  let curvePrv ← info.curvePrv.write prv
  return ⟨false, { info with curvePub, curvePrv, isReady := false }, true⟩

/-- New keys: `generate_keys` writes through both pointers, or fails and both are freed. -/
def generatePointers (id : Clients) (info : KeyPointers) : KeyProg (Option PointersResult) := do
  match ← KeyCall.generateKeys.ask with
  | none => return info.deinit.map fun info => ⟨false, info, false⟩
  | some (pub, prv) =>
    match info.curvePub, info.curvePrv with
    | .buffer _, .buffer _ =>
      let result ← storePair id ⟨info.keyType, pub.buffer, prv.buffer, info.isReady⟩ pub.buffer
        prv.buffer
      return some result.pointers
    | _, _ => return none

/-- The switch of `_handle_keys` on the key type; what `init` returns is not looked at. -/
def switchPointers (env : MemoryEnv) (id : Clients) (info : KeyPointers) :
    KeyProg (Option PointersResult) :=
  match info.keyType with
  | .CURVE25519 => do
    match ← getZmqCurveKeys id with
    | some (pub, prv) => return copyKeys (info.init env).1 pub prv
    | none => generatePointers id (info.init env).1
  | _ => return some ⟨false, { info with isReady := false }, false⟩

/-- `_handle_keys`; the connection is closed when it returns. -/
def handlePointers (env : MemoryEnv) (id : Clients) (info : KeyPointers) :
    KeyProg (Option PointersResult) := do
  match ← switchPointers env id info with
  | some result =>
    KeyCall.close.ask
    return some result
  | none => return none

/-! ## The processes -/

/-- How `main` fills the key info, with its pointers. -/
def freshPointers : KeyPointers := ⟨.CURVE25519, .null, .null, false⟩

/-- How `module_init` ends. -/
inductive InitEnd where
  | aborted
  | badMemory
  | ready (info : KeyPointers)
  deriving DecidableEq

/-- `module_init`: the committed tables, and what is left of the key info. -/
def moduleInitPointers (mem : MemoryEnv) (env : ModuleEnv) (clientId : Clients)
    (tables : KeyTables) : KeyTables × InitEnd :=
  if env.sodium = false then (tables, .aborted)
  else
    let (server, result) := Prog.run (performCall env.start ()) (.idle tables)
      (handlePointers mem clientId freshPointers)
    (server.store.committed,
      match result with
      | none => .badMemory
      | some result => .ready result.info)

/-- `main` of the router, up to `run`. -/
def routerMainPointers (mem : MemoryEnv) (env : ModuleEnv) (zmq : CurveEnv) (tables : KeyTables) :
    KeyTables × MainEnd :=
  match moduleInitPointers mem env .ROUTER tables with
  | (tables, .aborted) => (tables, .aborted)
  | (tables, .badMemory) => (tables, .badMemory)
  | (tables, .ready info) =>
    match setSecurity zmq info.curvePub info.curvePrv with
    | none => (tables, .badMemory)
    | some options =>
      match info.deinit with
      | none => (tables, .badMemory)
      | some _ => (tables, .running options)

/-- `main` of the peer, up to its loop. -/
def peerMainPointers (mem : MemoryEnv) (env : ModuleEnv) (readRouter : StmtEnv) (zmq : CurveEnv)
    (tables : KeyTables) : KeyTables × MainEnd :=
  match moduleInitPointers mem env .PEER tables with
  | (tables, .aborted) => (tables, .aborted)
  | (tables, .badMemory) => (tables, .badMemory)
  | (tables, .ready info) =>
    match (getKey readRouter (CLIENTS_IDS .ROUTER) .CURVE25519 publicKey ⟨tables, 0⟩).1 with
    | .error _ => (tables, .aborted)
    | .ok ipcroutPubKey =>
      match setPeerKeys zmq ipcroutPubKey info.curvePub info.curvePrv with
      | none => (tables, .badMemory)
      | some options =>
        match info.deinit with
        | none => (tables, .badMemory)
        | some _ => (tables, .running options)

end FifthD.Source
