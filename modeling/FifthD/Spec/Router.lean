import FifthD.Source.SoftwareBus
import Mathlib.Data.List.ReduceOption

/-!
What the bus is for: a router that remembers, for every client id, the routing id
of the first message that carried it, and passes each message on to the client it
is addressed to. Slots, frames and sends do not occur here; the registry rule is
read from the whole history of messages.
-/
namespace FifthD.Spec

open FifthD.Source

/-- A message as a router socket delivers it: the routing id of the sender and at
least one frame. -/
structure RouterMsg where
  routingId : Bytes
  frames : List Bytes
  frames_ne : frames ≠ []
  deriving DecidableEq

def RouterMsg.toMultipart (m : RouterMsg) : Multipart := ⟨m.routingId, m.frames⟩

/-- A frame read as a bus message, if it has the right size. -/
def asBody (frame : Bytes) : Option IpcMsg :=
  if h : frame.length = sizeofIpcMsg then some ⟨frame, h⟩ else none

/-- The last frame of exactly `sizeof(ipc_msg_t)` bytes. -/
def lastBody (frames : List Bytes) : Option IpcMsg := frames.reverse.findSome? asBody

/-- The message the bus decodes: the last body, or what `data` held before. -/
def RouterMsg.decode (m : RouterMsg) (stale : IpcMsg) : IpcMsg := (lastBody m.frames).getD stale

abbrev Registry := BitVec 32 → Option Bytes

/-- The router: its registry and the messages waiting for it. -/
structure Router where
  registry : Registry
  queue : List RouterMsg

def Router.fresh : Router := ⟨fun _ => none, []⟩

/-- What one call shows: the decoded source identity and message, and the
destination a message is passed on to. -/
structure Routed where
  decoded : Option (Bytes × IpcMsg)
  forward : Option (Bytes × IpcMsg)
  deriving DecidableEq

/-- One call of the router; it waits for ever when no message comes. -/
def Router.handle (r : Router) (env : HandleEnv) : Option (Router × Routed) :=
  if env.identityRecv = false then some (r, ⟨none, none⟩)
  else
    match r.queue with
    | [] => none
    | m :: later =>
      let data := m.decode env.stale
      let registry := registerClient r.registry data.srcId m.routingId
      some (⟨registry, later⟩,
        ⟨some (m.routingId, data), (registry data.distId).map fun route => (route, data)⟩)

theorem Router.handle_cons (registry : Registry) (m : RouterMsg) (later : List RouterMsg)
    {env : HandleEnv} (succeeds : env.identityRecv = true) :
    let data := m.decode env.stale
    let registered := registerClient registry data.srcId m.routingId
    Router.handle ⟨registry, m :: later⟩ env =
      some (⟨registered, later⟩,
        ⟨some (m.routingId, data), (registered data.distId).map fun route => (route, data)⟩) := by
  unfold Router.handle
  rw [if_neg (by simp [succeeds])]

/-- One turn of the polling loop: messages arrive, then the callback runs. -/
structure BusCall where
  arrived : List RouterMsg
  env : HandleEnv

def Router.call (r : Router) (c : BusCall) : Option (Router × Routed) :=
  Router.handle { r with queue := r.queue ++ c.arrived } c.env

/-- The same turn of the code. -/
def busCall (s : BusState) (c : BusCall) : Option (BusState × HandleTrace) :=
  handleMsg c.env
    { s with
      sock := { s.sock with inbox := s.sock.inbox ++ c.arrived.map RouterMsg.toMultipart } }

/-- Registering a known source changes nothing. -/
theorem registerClient_known {clients : Registry} {id : BitVec 32} {route : Bytes}
    (known : clients id = some route) (identity : Bytes) :
    registerClient clients id identity = clients := by
  unfold registerClient
  rw [known]

/-- A source that is not known is registered. -/
theorem registerClient_unknown {clients : Registry} {id : BitVec 32}
    (unknown : clients id = none) (identity : Bytes) :
    registerClient clients id identity id = some identity := by
  unfold registerClient
  rw [unknown]
  exact Function.update_self _ _ _

/-- Registering a source leaves every other id. -/
theorem registerClient_other (clients : Registry) {id other : BitVec 32} (different : other ≠ id)
    (identity : Bytes) : registerClient clients id identity other = clients other := by
  unfold registerClient
  cases clients id with
  | none => exact Function.update_of_ne different _ _
  | some route => rfl

/-- The ids of the registry after a registration. -/
theorem registerClient_keys (clients : Registry) (id other : BitVec 32) (identity : Bytes) :
    registerClient clients id identity other ≠ none ↔ clients other ≠ none ∨ other = id := by
  by_cases same : other = id
  · subst same
    cases known : clients other with
    | none => simp [registerClient_unknown known identity]
    | some route => simp [registerClient_known known identity, known]
  · simp [registerClient_other clients same identity, same]

/-- A call either takes no message, or registers the source of the one it takes and looks
up its destination. -/
theorem Router.call_cases {r next : Router} {c : BusCall} {out : Routed}
    (routed : r.call c = some (next, out)) :
    (next.registry = r.registry ∧ out = ⟨none, none⟩) ∨
      ∃ route data, next.registry = registerClient r.registry data.srcId route ∧
        out = ⟨some (route, data),
          (next.registry data.distId).map fun destination => (destination, data)⟩ := by
  unfold Router.call Router.handle at routed
  split at routed
  · left
    cases routed
    exact ⟨rfl, rfl⟩
  · split at routed
    · cases routed
    · next m later waiting =>
      right
      cases routed
      exact ⟨m.routingId, m.decode c.env.stale, rfl, rfl⟩

/-! ## Runs in which every call succeeds -/

/-- A message that carries a body, and what `data` happens to hold before it. -/
structure Incoming where
  routingId : Bytes
  frames : List Bytes
  carries : ∃ frame ∈ frames, frame.length = sizeofIpcMsg
  stale : IpcMsg

namespace Incoming

theorem frames_ne (m : Incoming) : m.frames ≠ [] := by
  obtain ⟨frame, member, _⟩ := m.carries
  exact List.ne_nil_of_mem member

def toRouterMsg (m : Incoming) : RouterMsg := ⟨m.routingId, m.frames, m.frames_ne⟩

theorem lastBody_isSome (m : Incoming) : (lastBody m.frames).isSome = true := by
  obtain ⟨frame, member, right⟩ := m.carries
  unfold lastBody
  rw [List.isSome_findSome?, List.any_eq_true]
  exact ⟨frame, List.mem_reverse.mpr member, by simp [asBody, right]⟩

/-- The last frame of exactly `sizeof(ipc_msg_t)` bytes. -/
def body (m : Incoming) : IpcMsg := (lastBody m.frames).get m.lastBody_isSome

/-- The bus decodes the body, whatever `data` held before. -/
@[simp] theorem decode_eq (m : Incoming) : m.toRouterMsg.decode m.stale = m.body := by
  change (lastBody m.frames).getD m.stale = (lastBody m.frames).get m.lastBody_isSome
  rw [Option.getD_eq_iff]
  exact Or.inl (by simp)

/-- The message arrives and is handled, every ZeroMQ call succeeding. -/
def call (m : Incoming) : BusCall where
  arrived := [m.toRouterMsg]
  env := { stale := m.stale, identityRecv := true, loopRecv := [], sends := SendEnv.ok }

end Incoming

/-- The routing id of the first message that carried a source id. -/
def firstRoute (past : List Incoming) (id : BitVec 32) : Option Bytes :=
  (past.find? fun m => m.body.srcId == id).map Incoming.routingId

/-- What is passed on for each message of a run: to the first route of its
destination, if some message up to and with it carried that id, else nothing. -/
def expectedSends (past : List Incoming) : List Incoming → List (Option (Bytes × IpcMsg))
  | [] => []
  | m :: rest =>
    (firstRoute (past ++ [m]) m.body.distId).map (fun route => (route, m.body)) ::
      expectedSends (past ++ [m]) rest

/-- The routing ids a run passes messages on to, in order. -/
def forwardedTo (messages : List Incoming) : List Bytes :=
  (expectedSends [] messages).reduceOption.map Prod.fst

/-- A longer history looks at its last message only for ids not seen before. -/
theorem firstRoute_snoc (past : List Incoming) (m : Incoming) (id : BitVec 32) :
    firstRoute (past ++ [m]) id =
      (firstRoute past id).or (if m.body.srcId = id then some m.routingId else none) := by
  unfold firstRoute
  rw [List.find?_append, Option.map_or]
  by_cases same : m.body.srcId = id
  · simp [same]
  · simp [same]

/-- Registering a source when it is unknown keeps the first route of every id. -/
theorem firstRoute_append (past : List Incoming) (m : Incoming) :
    firstRoute (past ++ [m]) = registerClient (firstRoute past) m.body.srcId m.routingId := by
  funext id
  rw [firstRoute_snoc]
  unfold registerClient
  by_cases same : m.body.srcId = id
  · subst same
    cases known : firstRoute past m.body.srcId with
    | none => simp
    | some route => simp [known]
  · cases known : firstRoute past m.body.srcId with
    | none => simp [same, Function.update_of_ne (Ne.symm same)]
    | some route => simp [same]

/-- An entry stays as it is when more messages come. -/
theorem firstRoute_extend {past later : List Incoming} {id : BitVec 32} {route : Bytes}
    (h : firstRoute past id = some route) : firstRoute (past ++ later) id = some route := by
  unfold firstRoute at h ⊢
  rw [List.find?_append, Option.map_or, h, Option.some_or]

end FifthD.Spec
