import FifthD.Source.Module

/-!
The two processes up to their loops: `main` of 5thD_Software_Bus/soft_bus.cpp:8-29 and of
5thD_Peer/peer_module.cpp:36-88, with `module_init` of core/module.cpp:116-123,
`init_sodium` of core/5thdallocator.cpp:28-33, `set_security` of
5thD_Software_Bus/core/src/software_bus.cpp:136-140 and `set_curve_server_options` of
core/receiver.cpp:83-123. Which libzmq calls succeed is a parameter. A process ends where
it aborts, and where it uses memory that it has given back or never had.
-/
namespace FifthD.Source

open FifthD.Library

/-! ## Socket options -/

/-- The options of a socket that name keys. -/
inductive CurveOption where
  | CURVE_SERVER | CURVE_PUBLICKEY | CURVE_SECRETKEY | CURVE_SERVERKEY
  deriving DecidableEq, Repr

/-- What has been set of a socket's options. -/
structure CurveOptions where
  asServer : Bool := false
  publicKey : Option Bytes := none
  secretKey : Option Bytes := none
  serverKey : Option Bytes := none
  deriving DecidableEq

/-- Which options libzmq sets, and what it reads back of `ZMQ_CURVE_SERVER`. -/
structure CurveEnv where
  sets : CurveOption → Bool
  hasCurve : Bool

/-- A pointer to a key buffer. -/
inductive KeyPointer where
  | null
  | freed
  | buffer (b : KeyBuffer)
  deriving DecidableEq

/-- The bytes from the pointer on, when they may be read. -/
def KeyPointer.read : KeyPointer → Option Bytes
  | .buffer b => some b.bytes
  | .null | .freed => none

/-- `set_curve_server_options`: its result and the options; `none` when it reads memory
that is not there. -/
def setCurveServerOptions (zmq : CurveEnv) (selfPubKey selfPrvKey : KeyPointer)
    (keyLengthBytes : Nat) (o : CurveOptions) : Option (Bool × CurveOptions) :=
  if selfPubKey = .null ∨ selfPrvKey = .null then some (false, o)
  else if zmq.sets .CURVE_SERVER = false then some (false, o)
  else
    let o := { o with asServer := true }
    match selfPubKey.read with
    | none => none
    | some pub =>
      if zmq.sets .CURVE_PUBLICKEY = false then some (false, o)
      else
        let o := { o with publicKey := some (pub.take keyLengthBytes) }
        match selfPrvKey.read with
        | none => none
        | some prv =>
          if zmq.sets .CURVE_SECRETKEY = false then some (false, o)
          else some (zmq.hasCurve, { o with secretKey := some (prv.take keyLengthBytes) })

/-- `ZMQBus::set_security`; what `set_curve_server_options` returns is only logged. -/
def setSecurity (zmq : CurveEnv) (pubKey prvKey : KeyPointer) : Option CurveOptions :=
  (setCurveServerOptions zmq pubKey prvKey 40 {}).map Prod.snd

/-! ## Initialization -/

/-- How `main` fills the key info. -/
def freshKeysInfo : KeysInfo := ⟨.CURVE25519, none, none, false⟩

/-- What fails in `module_init`: the first `sodium_init` of the process, and the calls of
`_handle_keys`. -/
structure ModuleEnv where
  sodium : Bool
  start : StartEnv

/-- What `module_init` leaves: the committed tables, and the key info, unless it aborts.
Its result is always Ok, and what `_handle_keys` returns is not looked at. -/
def moduleInit (env : ModuleEnv) (clientId : Clients) (tables : KeyTables) :
    KeyTables × Option KeysInfo :=
  if env.sodium = false then (tables, none)
  else
    let (server, result) := Prog.run (performCall env.start ()) (.idle tables)
      (handleKeys clientId freshKeysInfo)
    (server.store.committed, some result.info)

/-- The pointer that is left of a key buffer: `_handle_keys` has allocated both buffers of a
curve key, and frees them when it makes no keys. -/
def keyPointer : Option KeyBuffer → KeyPointer
  | some b => .buffer b
  | none => .freed

/-! ## The processes -/

/-- How `main` gets on. -/
inductive MainEnd where
  | aborted
  | badMemory
  | running (options : CurveOptions)
  deriving DecidableEq

/-- `main` of the router, up to `run`: the keys are set, and freed. -/
def routerMain (env : ModuleEnv) (zmq : CurveEnv) (tables : KeyTables) : KeyTables × MainEnd :=
  match moduleInit env .ROUTER tables with
  | (tables, none) => (tables, .aborted)
  | (tables, some info) =>
    match setSecurity zmq (keyPointer info.curvePub) (keyPointer info.curvePrv) with
    | none => (tables, .badMemory)
    | some options =>
      match info.curvePub, info.curvePrv with
      | some _, some _ => (tables, .running options)
      | _, _ => (tables, .badMemory)

/-- `set_sockopt` with 40 bytes from a pointer; its result is only logged. -/
def setKey (zmq : CurveEnv) (option : CurveOption) (pointer : KeyPointer)
    (set : Bytes → CurveOptions → CurveOptions) (o : CurveOptions) : Option CurveOptions :=
  match pointer.read with
  | none => none
  | some bytes => if zmq.sets option = false then some o else some (set (bytes.take 40) o)

/-- The keys that the peer sets: 40 bytes of the router's key with its NUL, whatever its
length is, and its own; `none` when it reads memory that is not there. -/
def setPeerKeys (zmq : CurveEnv) (ipcpubKey : Bytes) (curvePub curvePrv : KeyPointer) :
    Option CurveOptions := do
  let text := ipcpubKey ++ [0]
  if text.length < 40 then none
  let o : CurveOptions :=
    if zmq.sets .CURVE_SERVERKEY = false then {} else { serverKey := some (text.take 40) }
  let o ← setKey zmq .CURVE_PUBLICKEY curvePub (fun key o => { o with publicKey := some key }) o
  setKey zmq .CURVE_SECRETKEY curvePrv (fun key o => { o with secretKey := some key }) o

/-- `main` of the peer, up to its loop. The router's key is read on a connection of its own,
with failures of its own. -/
def peerMain (env : ModuleEnv) (readRouter : StmtEnv) (zmq : CurveEnv) (tables : KeyTables) :
    KeyTables × MainEnd :=
  match moduleInit env .PEER tables with
  | (tables, none) => (tables, .aborted)
  | (tables, some info) =>
    match (getKey readRouter (CLIENTS_IDS .ROUTER) .CURVE25519 publicKey ⟨tables, 0⟩).1 with
    | .error _ => (tables, .aborted)
    | .ok ipcroutPubKey =>
      match setPeerKeys zmq ipcroutPubKey (keyPointer info.curvePub) (keyPointer info.curvePrv) with
      | none => (tables, .badMemory)
      | some options => (tables, .running options)

end FifthD.Source
