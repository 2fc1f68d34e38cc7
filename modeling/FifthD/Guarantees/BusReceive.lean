import FifthD.Guarantees.BusStep

/-!
# The bus takes one message at a time

The identity receive of `_handle_msg` and the loop behind it, with any finite pattern of
failed receives in the loop. The loop asks `ZMQ_RCVMORE`, not the receive, whether to go on:
so a failed receive costs one more round and no frame, and the loop ends at the last frame of
the message that the identity frame opened.
-/
namespace FifthD.Guarantees.BusReceive

open FifthD.Library FifthD.Source FifthD.Spec BusStep

/-! ## The last body -/

theorem asBody_eq_none_iff {frame : Bytes} : asBody frame = none ↔ frame.length ≠ sizeofIpcMsg := by
  unfold asBody
  split
  · next right => simp [right]
  · next wrong => simp [wrong]

/-- Frames of other sizes hold no body. -/
theorem lastBody_none {frames : List Bytes}
    (others : ∀ frame ∈ frames, frame.length ≠ sizeofIpcMsg) : lastBody frames = none := by
  unfold lastBody
  rw [List.findSome?_eq_none_iff]
  intro frame member
  exact asBody_eq_none_iff.mpr (others frame (List.mem_reverse.mp member))

/-- The last frame of the right size is the last body. -/
theorem lastBody_split {front back : List Bytes} {frame : Bytes}
    (right : frame.length = sizeofIpcMsg)
    (others : ∀ other ∈ back, other.length ≠ sizeofIpcMsg) :
    lastBody (front ++ frame :: back) = some ⟨frame, right⟩ := by
  have skipped : back.reverse.findSome? asBody = none := lastBody_none others
  have found : asBody frame = some ⟨frame, right⟩ := dif_pos right
  unfold lastBody
  rw [List.reverse_append, List.reverse_cons, List.append_assoc, List.findSome?_append, skipped,
    Option.none_or, List.singleton_append, List.findSome?_cons, found]

/-- What `data` holds after frames: the last one of exactly `sizeof(ipc_msg_t)` bytes, and
what it held before if there is none. -/
structure HoldsLast (frames : List Bytes) (before after : IpcMsg) : Prop where
  body : ∀ front frame back, frames = front ++ frame :: back → frame.length = sizeofIpcMsg →
    (∀ other ∈ back, other.length ≠ sizeofIpcMsg) → after.bytes = frame
  none : (∀ frame ∈ frames, frame.length ≠ sizeofIpcMsg) → after = before

theorem foldl_holdsLast (frames : List Bytes) (data : IpcMsg) :
    HoldsLast frames data (frames.foldl keepBody data) := by
  rw [foldl_keepBody]
  constructor
  · rintro front frame back rfl right others
    rw [lastBody_split right others, Option.getD_some]
  · intro others
    rw [lastBody_none others, Option.getD_none]

/-! ## One message -/

/-- A socket between two messages. -/
def between (inbox : List Multipart) (more : Bool) (wire : List (Bytes × Bool)) : Socket :=
  ⟨inbox, [], more, wire⟩

/-- A socket that has handed out the routing id of a message. -/
def opened (m : RouterMsg) (later : List Multipart) (wire : List (Bytes × Bool)) : Socket :=
  ⟨later, m.frames, true, wire⟩

/-- The identity receive opens the next message. -/
theorem recv_identity (m : RouterMsg) (later : List Multipart) (more : Bool)
    (wire : List (Bytes × Bool)) (identity : ZmqMsg) :
    zmqMsgRecv true identity (between (m.toMultipart :: later) more wire) =
      some (sizeRc m.routingId.length, ⟨m.routingId⟩, opened m later wire) := by
  have further : (!m.frames.isEmpty) = true := by simpa using m.frames_ne
  simp only [zmqMsgRecv, between, RouterMsg.toMultipart, Bool.true_eq_false, if_false, further,
    opened]

/-- For every message of a routing id and at least one frame, whatever stands behind it, and
every finite pattern of failed receives: once the routing id is received the loop ends, with
all frames of the message taken and none of the next, and `data` holds the message's last
frame of exactly `sizeof(ipc_msg_t)` bytes, or is as it was if there is none. -/
theorem loop_takes_one_message (m : RouterMsg) (later : List Multipart) (more : Bool)
    (wire : List (Bytes × Bool)) (identity : ZmqMsg) (outcomes : List Bool) (data : IpcMsg) :
    ∃ sock after,
      zmqMsgRecv true identity (between (m.toMultipart :: later) more wire) =
        some (sizeRc m.routingId.length, ⟨m.routingId⟩, sock) ∧
      recvLoop outcomes sock data = some (between later false wire, after) ∧
      HoldsLast m.frames data after := by
  refine ⟨opened m later wire, m.frames.foldl keepBody data, ?_, ?_, ?_⟩
  · exact recv_identity m later more wire identity
  · exact recvLoop_spec outcomes (opened m later wire) data m.frames_ne rfl
  · exact foldl_holdsLast m.frames data

/-! ## Whole runs -/

/-- The routing id of the message that a call decoded. -/
def source (trace : HandleTrace) : Option Bytes := trace.decoded.map Prod.fst

/-- A call of the router takes the message in front, or none. -/
theorem router_takes {r next : Router} {env : HandleEnv} {out : Routed}
    (routed : r.handle env = some (next, out)) :
    ∃ gone, r.queue = gone ++ next.queue ∧
      gone.map RouterMsg.routingId = (out.decoded.map Prod.fst).toList := by
  unfold Router.handle at routed
  split at routed
  · cases routed
    exact ⟨[], rfl, rfl⟩
  · split at routed
    · cases routed
    · next m later waiting =>
      cases routed
      exact ⟨[m], waiting, rfl⟩

/-- A call of the bus takes the message in front, or none, also when it has no slot left. -/
theorem call_takes {s next : BusState} {r : Router} {stack : List (Fin msgBufferSize)}
    (inv : BusInv s r stack) {c : BusCall} {trace : HandleTrace}
    (returned : busCall s c = some (next, trace)) :
    ∃ r' stack' gone, BusInv next r' stack' ∧ r.queue ++ c.arrived = gone ++ r'.queue ∧
      gone.map RouterMsg.routingId = (source trace).toList := by
  have arrived := inv.arrive c.arrived
  cases stack with
  | nil =>
    unfold busCall handleMsg at returned
    rw [SlotPool.getSlot_nil arrived.pool] at returned
    cases returned
    exact ⟨_, [], [], arrived, rfl, rfl⟩
  | cons allMsg rest =>
    cases routed : r.call c with
    | none =>
      rw [busCall_none inv routed] at returned
      cases returned
    | some result =>
      obtain ⟨r', out⟩ := result
      obtain ⟨after, trace', code, effect⟩ := busCall_spec inv routed
      cases returned.symm.trans code
      obtain ⟨gone, queue, ids⟩ := router_takes routed
      rw [← effect.decoded] at ids
      exact ⟨r', _, gone, effect.inv, queue, ids⟩

theorem run_takes {calls : List BusCall} {s final : BusState} {r : Router}
    {stack : List (Fin msgBufferSize)} {traces : List HandleTrace} (inv : BusInv s r stack)
    (ran : Machine.run busCall s calls = some (final, traces)) :
    ∃ r' stack' gone, BusInv final r' stack' ∧
      r.queue ++ calls.flatMap BusCall.arrived = gone ++ r'.queue ∧
      gone.map RouterMsg.routingId = traces.filterMap source := by
  induction calls generalizing s r stack traces with
  | nil =>
    cases ran
    exact ⟨r, stack, [], inv, List.append_nil _, rfl⟩
  | cons c rest ih =>
    obtain ⟨next, trace, later, first, tail, rfl⟩ := Machine.run_cons_iff.mp ran
    obtain ⟨r₁, stack₁, gone₁, inv₁, queue₁, ids₁⟩ := call_takes inv first
    obtain ⟨r₂, stack₂, gone₂, inv₂, queue₂, ids₂⟩ := ih inv₁ tail
    refine ⟨r₂, stack₂, gone₁ ++ gone₂, inv₂, ?_, ?_⟩
    · rw [List.flatMap_cons, ← List.append_assoc, queue₁, List.append_assoc, queue₂,
        List.append_assoc]
    · rw [List.map_append, ids₁, ids₂, List.filterMap_cons]
      cases source trace <;> rfl

/-- In every run of the bus, whatever fails: between two calls the socket is between two
messages, and the messages taken so far are those that the calls decoded, in order. -/
theorem bus_takes_whole_messages (error : ErrorHandler) {calls : List BusCall} {s : BusState}
    {traces : List HandleTrace}
    (ran : Machine.run busCall (BusState.fresh error) calls = some (s, traces)) :
    ∃ gone waiting, calls.flatMap BusCall.arrived = gone ++ waiting ∧
      gone.map RouterMsg.routingId = traces.filterMap source ∧
      s.sock.current = [] ∧ s.sock.inbox = waiting.map RouterMsg.toMultipart := by
  obtain ⟨r, stack, gone, inv, queue, ids⟩ := run_takes (fresh_inv error) ran
  exact ⟨gone, r.queue, queue, ids, inv.current, inv.inbox⟩

end FifthD.Guarantees.BusReceive
