import FifthD.Library.Framing
import FifthD.Source.SoftwareBus
import FifthD.Source.Transmitter

/-!
Any number of clients, the links from their DEALER sockets to the ROUTER socket of
the bus, and the bus. A link keeps multipart messages whole and in the order of its
client and puts the client's routing id in front. The functions of the code are the
parts of the system; which of them runs next is up to the environment.
-/
namespace FifthD.Spec

open FifthD.Library FifthD.Source

/-- One client: which of the known identities it uses, the routing id of its link,
and the error handlers of its transmitter. -/
structure Client where
  identity : Clients
  routingId : Bytes
  error : ErrorHandler
  poolError : ErrorHandler

structure ClientNet (C : Type*) where
  clients : C → Transmitter
  /-- How many messages of each client its link has handed over. -/
  taken : C → Nat
  bus : BusState

/-- A client sends, a link hands over its next message, or the polling loop of the
bus comes round (with some contents of the uninitialised `data`). -/
inductive NetEvent (C : Type*) where
  | send (c : C) (msg : IpcMsg)
  | handOver (c : C)
  | poll (stale : IpcMsg)

/-- What is seen of a step: a message was handed over, or decoded by the bus. -/
inductive NetOut (C : Type*) where
  | quiet
  | handedOver (c : C)
  | decoded (source : Bytes) (msg : IpcMsg)

namespace ClientNet

variable {C : Type*}

def fresh (config : C → Client) (busError : ErrorHandler) : ClientNet C where
  clients c :=
    Transmitter.fresh (CLIENTS_IDS (config c).identity) (config c).error (config c).poolError
  taken _ := 0
  bus := BusState.fresh busError

/-- The messages a client has sent that its link still has. -/
def inLink (net : ClientNet C) (c : C) : List (List Bytes) :=
  (Framing.messages (net.clients c).sock.wire).drop (net.taken c)

/-- One event. The bus polls its socket before it calls `_handle_msg`; all ZeroMQ
calls succeed. -/
def step [DecidableEq C] (config : C → Client) (net : ClientNet C) :
    NetEvent C → Option (ClientNet C × NetOut C)
  | .send c msg =>
    match ipcClientSend (net.clients c) msg with
    | none => none
    | some (client, _) =>
      some ({ net with clients := Function.update net.clients c client }, .quiet)
  | .handOver c =>
    match net.inLink c with
    | [] => some (net, .quiet)
    | frames :: _ =>
      let sock := net.bus.sock
      let inbox := sock.inbox ++ [⟨(config c).routingId, frames⟩]
      some
        ({ net with
            taken := Function.update net.taken c (net.taken c + 1)
            bus := { net.bus with sock := { sock with inbox } } },
          .handedOver c)
  | .poll stale =>
    if net.bus.sock.inbox = [] then some (net, .quiet)
    else
      match handleMsg { stale, identityRecv := true, loopRecv := [], sends := SendEnv.ok }
          net.bus with
      | none => none
      | some (bus, trace) =>
        some ({ net with bus },
          match trace.decoded with
          | none => .quiet
          | some (source, msg) => .decoded source msg)

end ClientNet

/-- A system, and whether a call of its bus has left its memory: nothing is known of the bus
from then on, and it polls no more. -/
structure LiveNet (C : Type*) where
  net : ClientNet C
  leftMemory : Bool

namespace LiveNet

variable {C : Type*}

def fresh (config : C → Client) (busError : ErrorHandler) : LiveNet C :=
  ⟨ClientNet.fresh config busError, false⟩

/-- One event, for a bus that can leave its memory. -/
def step [DecidableEq C] (config : C → Client) (s : LiveNet C) :
    NetEvent C → Option (LiveNet C × NetOut C)
  | .poll stale =>
    if s.leftMemory = true ∨ s.net.bus.sock.inbox = [] then some (s, .quiet)
    else
      match handleMsg { stale, identityRecv := true, loopRecv := [], sends := SendEnv.ok }
          s.net.bus with
      | none => none
      | some (bus, trace) =>
        some (⟨{ s.net with bus }, !trace.inMemory⟩,
          match trace.decoded with
          | none => .quiet
          | some (source, msg) => .decoded source msg)
  | event => (s.net.step config event).map fun (net, out) => ({ s with net }, out)

end LiveNet

/-- The messages a client sent in a run, in order. -/
def sentBy {C : Type*} [DecidableEq C] (c : C) (events : List (NetEvent C)) : List IpcMsg :=
  events.filterMap fun event =>
    match event with
    | .send sender msg => if sender = c then some msg else none
    | _ => none

/-- The clients whose messages were handed over in a run, in order. -/
def handedOver {C : Type*} (outs : List (NetOut C)) : List C :=
  outs.filterMap fun out =>
    match out with
    | .handedOver c => some c
    | _ => none

/-- The source identities and messages the bus decoded in a run, in order. -/
def decodedBy {C : Type*} (outs : List (NetOut C)) : List (Bytes × IpcMsg) :=
  outs.filterMap fun out =>
    match out with
    | .decoded source msg => some (source, msg)
    | _ => none

/-- The messages of one client among tagged ones. -/
def ofClient {C : Type*} [DecidableEq C] (c : C) (tagged : List (C × IpcMsg)) : List IpcMsg :=
  (tagged.filter fun pair => pair.1 = c).map Prod.snd

end FifthD.Spec
