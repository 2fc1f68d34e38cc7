import FifthD.Guarantees.ClientDelivery
import FifthD.Guarantees.MessageFormat

/-!
# A bus with its peers

The programs of the repository are the bus and the peer, and a peer sends one message over
and over: from `PEER`, to `ROUTER`. No program uses the number of the router as its source.
-/
namespace FifthD.Guarantees.PeerTraffic

open FifthD.Library FifthD.Library.Framing FifthD.Source FifthD.Spec
open ClientRoundTrip ClientDelivery

/-! ## Messages to nobody -/

theorem registryOf_eq_none_iff (decoded : List (Bytes × IpcMsg)) (id : BitVec 32) :
    registryOf decoded id = none ↔ ∀ d ∈ decoded, d.2.srcId ≠ id := by
  unfold registryOf firstRoute
  rw [Option.map_eq_none_iff, List.find?_eq_none]
  simp only [List.forall_mem_map, incoming_body, beq_iff_eq, ne_eq]

/-- When no destination is a source, nothing is passed on. -/
theorem passedOn_eq_nil {decoded : List (Bytes × IpcMsg)}
    (apart : ∀ d ∈ decoded, ∀ d' ∈ decoded, d.2.srcId ≠ d'.2.distId) : passedOn decoded = [] := by
  induction decoded using List.reverseRecOn with
  | nil => rfl
  | append_singleton before last ih =>
    obtain ⟨source, msg⟩ := last
    have own : (source, msg) ∈ before ++ [(source, msg)] :=
      List.mem_append_right before (List.mem_singleton_self _)
    have unknown : registryOf (before ++ [(source, msg)]) msg.distId = none :=
      (registryOf_eq_none_iff _ _).mpr fun d member => apart d member (source, msg) own
    rw [registryOf_snoc] at unknown
    have earlier : passedOn before = [] := by
      apply ih
      intro d member d' member'
      exact apart d (List.mem_append_left _ member) d' (List.mem_append_left _ member')
    rw [passedOn_snoc, unknown, earlier]
    rfl

/-! ## Peers -/

/-- What can happen in a system of peers and the bus. -/
inductive PeerEvent (C : Type*) where
  | send (c : C) (time : BitVec 64)
  | handOver (c : C)
  | poll (stale : IpcMsg)

/-- A peer sends `ipc_peer_msg`, with the time of its start. -/
def PeerEvent.toNetEvent {C : Type*} : PeerEvent C → NetEvent C
  | .send c time => .send c (ipcPeerMsg time)
  | .handOver c => .handOver c
  | .poll stale => .poll stale

theorem ipcPeerMsg_srcId (time : BitVec 64) : (ipcPeerMsg time).srcId = Clients.PEER.toInt :=
  congrArg MessageFormat.Members.srcId (MessageFormat.members_ipcMsg _ _ time)

theorem ipcPeerMsg_distId (time : BitVec 64) : (ipcPeerMsg time).distId = Clients.ROUTER.toInt :=
  congrArg MessageFormat.Members.distId (MessageFormat.members_ipcMsg _ _ time)

variable {C : Type*} [DecidableEq C]

/-- All that peers send is `ipc_peer_msg`. -/
theorem sentBy_peers (c : C) (events : List (PeerEvent C)) :
    ∀ msg ∈ sentBy c (events.map PeerEvent.toNetEvent), ∃ time, msg = ipcPeerMsg time := by
  intro msg member
  unfold sentBy at member
  obtain ⟨event, inside, kept⟩ := List.mem_filterMap.mp member
  obtain ⟨peerEvent, _, rfl⟩ := List.mem_map.mp inside
  cases peerEvent with
  | send sender time =>
    simp only [PeerEvent.toNetEvent] at kept
    split at kept
    · cases kept
      exact ⟨time, rfl⟩
    · cases kept
  | handOver _ => cases kept
  | poll _ => cases kept

theorem mem_ofClient {c : C} {msg : IpcMsg} {tagged : List (C × IpcMsg)}
    (member : (c, msg) ∈ tagged) : msg ∈ ofClient c tagged := by
  unfold ofClient
  exact List.mem_map.mpr ⟨(c, msg), List.mem_filter.mpr ⟨member, by simp⟩, rfl⟩

/-- So all that the bus decodes is. -/
theorem handled_peers {config : C → Client} {events : List (PeerEvent C)}
    {handled queue : List (C × IpcMsg)} {net : ClientNet C}
    (inv : NetInv config (events.map PeerEvent.toNetEvent) handled queue net) :
    ∀ pair ∈ handled, ∃ time, pair.2 = ipcPeerMsg time := by
  rintro ⟨c, msg⟩ member
  apply sentBy_peers c events
  have seen := mem_ofClient (List.mem_append_left queue member)
  rw [inv.fifo c] at seen
  exact List.mem_of_mem_take seen

/-- A registry of messages from one source. -/
theorem registryOf_single {decoded : List (Bytes × IpcMsg)} {source : BitVec 32}
    (single : ∀ d ∈ decoded, d.2.srcId = source) (id : BitVec 32) :
    registryOf decoded id = if id = source then decoded.head?.map Prod.fst else none := by
  by_cases own : id = source
  · rw [if_pos own, own]
    cases decoded with
    | nil => rfl
    | cons first later =>
      have known : ((incoming first).body.srcId == source) = true := by
        rw [incoming_body, single first List.mem_cons_self]
        exact beq_self_eq_true source
      unfold registryOf firstRoute
      simp only [List.map_cons, List.find?_cons, known]
      rfl
  · rw [if_neg own, registryOf_eq_none_iff]
    intro d member
    rw [single d member]
    exact fun same => own same.symm

theorem ipcPeerMsg_category (time : BitVec 64) : 0 ∈ (ipcPeerMsg time).category := by
  have zeros : (ipcPeerMsg time).category = List.replicate CATEGORY_LENGTH_BYTES 0 :=
    congrArg MessageFormat.Members.category
      (MessageFormat.members_ipcMsg Clients.PEER.toInt Clients.ROUTER.toInt time)
  rw [zeros]
  exact List.mem_replicate.mpr ⟨by decide, rfl⟩

/-- The bus stays in its memory with a message of a peer after messages of peers. -/
theorem peers_inMemory {earlier : List (Bytes × IpcMsg)} {next : Bytes × IpcMsg}
    (peers : ∀ d ∈ earlier ++ [next], ∃ time, d.2 = ipcPeerMsg time) : InMemory earlier next := by
  obtain ⟨time, same⟩ := peers next (List.mem_append_right earlier (List.mem_singleton_self _))
  have nobody : registryOf (earlier ++ [next]) next.2.distId = none := by
    rw [registryOf_eq_none_iff]
    intro d member
    obtain ⟨time', same'⟩ := peers d member
    rw [same, same', ipcPeerMsg_srcId, ipcPeerMsg_distId]
    decide
  constructor
  · rw [same]
    exact ipcPeerMsg_category time
  · intro _
    rw [same, ipcPeerMsg_distId]
    decide
  · intro route there
    cases nobody.symm.trans there

/-- For any number of peers, whatever routing ids their links have, and every interleaving
of their sends with the links and the bus: the registry knows `PEER` alone, by the routing
id of the first peer handled; the bus never puts a frame on its wire; and between two calls
no slot is in use. Every destination it looks up is a known client that never registers. -/
theorem peers_are_never_answered (config : C → Client) (busError : ErrorHandler)
    (events : List (PeerEvent C)) :
    ∃ net outs, ∃ handled : List (C × IpcMsg),
      Machine.run (ClientNet.step config) (ClientNet.fresh config busError)
        (events.map PeerEvent.toNetEvent) = some (net, outs) ∧
      Spec.decodedBy outs = handled.map (fun pair => ((config pair.1).routingId, pair.2)) ∧
      (∀ id, net.bus.clients id = if id = Clients.PEER.toInt then
        handled.head?.map (fun pair => (config pair.1).routingId) else none) ∧
      net.bus.sock.wire = [] ∧ net.bus.msgBuffer.usedCount = 0 ∧
      ∀ pair ∈ handled, pair.2.distId = Clients.ROUTER.toInt := by
  obtain ⟨s, outs, handled, queue, live, inv⟩ :=
    live_run (fresh_live config busError) (events.map PeerEvent.toNetEvent)
  rw [List.nil_append, List.nil_append] at inv
  have seen := inv.seen
  have peers := handled_peers inv.net
  have here : s.leftMemory = false := by
    by_contra gone
    obtain ⟨before, last, split, _, leaves⟩ := inv.left (eq_true_of_ne_false gone)
    refine leaves (peers_inMemory fun d member => ?_)
    rw [← split, seen.decoded] at member
    obtain ⟨pair, inside, rfl⟩ := List.mem_map.mp member
    exact peers pair inside
  obtain ⟨_, run⟩ := run_net live here
  obtain ⟨_, forwarded⟩ := inv.stays here
  have sources : ∀ d ∈ Spec.decodedBy outs, d.2.srcId = Clients.PEER.toInt := by
    rw [seen.decoded, List.forall_mem_map]
    intro pair member
    obtain ⟨time, same⟩ := peers pair member
    rw [same, ipcPeerMsg_srcId]
  have destinations : ∀ pair ∈ handled, pair.2.distId = Clients.ROUTER.toInt := by
    intro pair member
    obtain ⟨time, same⟩ := peers pair member
    rw [same, ipcPeerMsg_distId]
  have apart : ∀ d ∈ Spec.decodedBy outs, ∀ d' ∈ Spec.decodedBy outs, d.2.srcId ≠ d'.2.distId := by
    intro d member d' member'
    rw [seen.decoded] at member'
    obtain ⟨pair, inside, rfl⟩ := List.mem_map.mp member'
    rw [sources d member, destinations pair inside]
    decide
  have nothing : messages s.net.bus.sock.wire = [] := by
    have wire := forwarded.wire
    rw [passedOn_eq_nil apart] at wire
    exact List.forall₂_nil_right_iff.mp wire
  refine ⟨s.net, outs, handled, run, seen.decoded, ?_, eq_nil_of_messages nothing forwarded.closed,
    ?_, destinations⟩
  · intro id
    rw [forwarded.clients, registryOf_single sources id, seen.decoded, List.head?_map,
      Option.map_map]
    rfl
  · obtain ⟨registry, waiting, _, bus⟩ := inv.net.bus
    have count := bus.pool.count
    have all : (0 :: (List.finRange msgBufferSize).tail).length = msgBufferSize := by decide
    omega

end FifthD.Guarantees.PeerTraffic
