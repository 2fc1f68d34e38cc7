import FifthD.Guarantees.BusStep
import FifthD.Guarantees.TransmitterFraming
import FifthD.Spec.ClientNet

/-!
# From a client to the bus

A client's message is [identity frame, empty, 302 bytes], whatever was sent from its
slot before: the identity frame has 7 bytes the first time and none after that. The
bus looks for frames of 302 bytes and keeps the last one, so it always finds the body.
Over any interleaving the messages decoded from a client, waiting at the bus and
waiting in its link are the messages it sent.
-/
namespace FifthD.Guarantees.ClientRoundTrip

open FifthD.Library FifthD.Library.Framing FifthD.Source FifthD.Spec SlotPool
open TransmitterFraming (chunkFrames meantFrames SendEffect send_spec)
open BusStep (BusInv zeroMsg)

/-! ## One message -/

/-- The frames of a client's message, as they go out. -/
def Carries (frames : List Bytes) (msg : IpcMsg) : Prop :=
  ∃ identity, frames = [identity, [], msg.bytes] ∧
    (identity.length = identityFrameSize ∨ identity.length = 0)

theorem asBody_bytes (msg : IpcMsg) : asBody msg.bytes = some msg := by
  unfold asBody
  rw [dif_pos msg.length_eq]

/-- The bus finds the message in its frames. -/
theorem Carries.lastBody_eq {frames : List Bytes} {msg : IpcMsg} (carries : Carries frames msg) :
    lastBody frames = some msg := by
  obtain ⟨identity, rfl, _⟩ := carries
  simp [lastBody, asBody_bytes]

theorem Carries.frames_ne {frames : List Bytes} {msg : IpcMsg} (carries : Carries frames msg) :
    frames ≠ [] := by
  obtain ⟨identity, rfl, _⟩ := carries
  exact List.cons_ne_nil _ _

/-- A message is one chunk. -/
theorem chunkFrames_bytes (msg : IpcMsg) : chunkFrames msg.bytes = [(msg.bytes, false)] := by
  have length : msg.bytes.length = DEFAULT_DATA_CHUNK := msg.length_eq
  have payload : msg.bytes.length ≠ 0 := by
    rw [length]
    decide
  have whole : msg.bytes.take DEFAULT_DATA_CHUNK = msg.bytes := by rw [← length, List.take_length]
  have nothing : msg.bytes.drop DEFAULT_DATA_CHUNK = [] := by rw [← length, List.drop_length]
  have last : decide (DEFAULT_DATA_CHUNK < msg.bytes.length) = false := by
    rw [length]
    decide
  have done : chunkFrames ([] : Bytes) = [] := by rw [chunkFrames, if_pos List.length_nil]
  rw [chunkFrames, if_neg payload, whole, nothing, last, done]

/-- A client's transmitter between two sends: its wire holds the messages sent so
far, none of them open, and its slot is as it was made or used up. -/
structure ClientInv (t : Transmitter) (sent : List IpcMsg) : Prop where
  identity : t.identity ≠ []
  pool : PoolInv t.msgBuffer (0 :: (List.finRange msgBufferSize).tail)
  identityFrame : (t.msgBuffer.data 0).identity.size = identityFrameSize ∨
    (t.msgBuffer.data 0).identity.size = 0
  emptyFrame : (t.msgBuffer.data 0).empty.size = 0
  closed : openPart t.sock.wire = []
  wire : List.Forall₂ Carries (messages t.sock.wire) sent

theorem fresh_client (client : Clients) (error poolError : ErrorHandler) :
    ClientInv (Transmitter.fresh (CLIENTS_IDS client) error poolError) [] := by
  constructor
  · change CLIENTS_IDS client ≠ []
    cases client <;> decide
  · exact init_inv initAllmsg poolError
  · exact Or.inl (by simp [Transmitter.fresh, ManagedBuffer.init, ManagedBuffer.data, initAllmsg,
      zmqMsgInitSize, ZmqMsg.size])
  · rfl
  · rfl
  · exact List.Forall₂.nil

/-- One `IpcClient::send` adds its message to those on the wire. -/
theorem client_send {t : Transmitter} {sent : List IpcMsg} (inv : ClientInv t sent)
    (msg : IpcMsg) :
    ∃ after out, ipcClientSend t msg = some (after, out) ∧ ClientInv after (sent ++ [msg]) := by
  obtain ⟨after, answer, trace, code, effect⟩ := send_spec inv.pool ⟨msg.bytes, []⟩
  refine ⟨after, (answer, trace), code, ?_⟩
  have empty : (t.msgBuffer.data 0).empty.data = [] := List.length_eq_zero_iff.mp inv.emptyFrame
  have all : Succeed [] (meantFrames (t.msgBuffer.data 0) t.identity msg.bytes).length := by
    simp [Succeed]
  have frames := effect.frames
  rw [if_neg inv.identity, accepted_all all, meantFrames, chunkFrames_bytes, empty] at frames
  have whole : assemble trace.frames =
      ([[memcpy (t.msgBuffer.data 0).identity.data t.identity, [], msg.bytes]], []) := by
    rw [frames]
    exact assemble_complete [memcpy (t.msgBuffer.data 0).identity.data t.identity, []] msg.bytes
  have carries :
      Carries [memcpy (t.msgBuffer.data 0).identity.data t.identity, [], msg.bytes] msg := by
    refine ⟨_, rfl, ?_⟩
    rw [memcpy_length]
    exact inv.identityFrame
  constructor
  · rw [effect.identity]
    exact inv.identity
  · exact effect.pool
  · rcases effect.slot.identity with kept | used
    · rw [kept]
      exact inv.identityFrame
    · exact Or.inr used
  · rcases effect.slot.empty with kept | used
    · rw [kept]
      exact inv.emptyFrame
    · exact used
  · rw [effect.sock, openPart_append inv.closed]
    simp [openPart, whole]
  · rw [effect.sock, messages_append inv.closed]
    simp only [messages, whole]
    exact List.rel_append inv.wire (List.Forall₂.cons carries List.Forall₂.nil)

/-! ## Any interleaving -/

section Net

variable {C : Type*} [DecidableEq C] {config : C → Client}

/-- A message waiting at the bus, and whose it is. -/
def Arrived (config : C → Client) (m : RouterMsg) (tagged : C × IpcMsg) : Prop :=
  m.routingId = (config tagged.1).routingId ∧ Carries m.frames tagged.2

/-- The system after the events `past`: the messages `handled` were decoded and the
messages `queue` wait at the bus; of each client they are the first it sent, and its
link has the others. -/
structure NetInv (config : C → Client) (past : List (NetEvent C))
    (handled queue : List (C × IpcMsg)) (net : ClientNet C) : Prop where
  clients : ∀ c, ClientInv (net.clients c) (sentBy c past)
  fifo : ∀ c, ofClient c (handled ++ queue) = (sentBy c past).take (net.taken c)
  taken : ∀ c, net.taken c ≤ (sentBy c past).length
  bus : ∃ registry waiting, List.Forall₂ (Arrived config) waiting queue ∧
    BusInv net.bus ⟨registry, waiting⟩ (0 :: (List.finRange msgBufferSize).tail)

theorem sentBy_append (c : C) (past later : List (NetEvent C)) :
    sentBy c (past ++ later) = sentBy c past ++ sentBy c later :=
  List.filterMap_append

theorem ofClient_append (c : C) (first second : List (C × IpcMsg)) :
    ofClient c (first ++ second) = ofClient c first ++ ofClient c second := by
  simp [ofClient]

theorem fresh_net (config : C → Client) (busError : ErrorHandler) :
    NetInv config [] [] [] (ClientNet.fresh config busError) := by
  constructor
  · exact fun c => fresh_client (config c).identity (config c).error (config c).poolError
  · exact fun c => rfl
  · exact fun c => Nat.le_refl 0
  · exact ⟨_, [], List.Forall₂.nil, BusStep.fresh_inv busError⟩

variable {past : List (NetEvent C)} {handled queue : List (C × IpcMsg)} {net : ClientNet C}

/-- An event that sends nothing and leaves the clients and links alone. -/
theorem NetInv.quiet (inv : NetInv config past handled queue net) {event : NetEvent C}
    (silent : ∀ c, sentBy c [event] = []) : NetInv config (past ++ [event]) handled queue net := by
  have same : ∀ c, sentBy c (past ++ [event]) = sentBy c past := by
    intro c
    rw [sentBy_append, silent, List.append_nil]
  constructor
  · exact fun c => same c ▸ inv.clients c
  · exact fun c => same c ▸ inv.fifo c
  · exact fun c => same c ▸ inv.taken c
  · exact inv.bus

/-- A client sends: its message is the last of those its link has. -/
theorem send_step (inv : NetInv config past handled queue net) (c : C) (msg : IpcMsg) :
    ∃ after, net.step config (.send c msg) = some (after, .quiet) ∧
      NetInv config (past ++ [.send c msg]) handled queue after := by
  obtain ⟨client, out, code, sent⟩ := client_send (inv.clients c) msg
  refine ⟨{ net with clients := Function.update net.clients c client },
    by simp only [ClientNet.step, code], ?_⟩
  have own : sentBy c [NetEvent.send c msg] = [msg] := by simp [sentBy]
  have others : ∀ d, d ≠ c → sentBy d [NetEvent.send c msg] = [] := by
    intro d other
    simp [sentBy, Ne.symm other]
  constructor
  · intro d
    by_cases same : d = c
    · subst same
      simpa only [Function.update_self, sentBy_append, own] using sent
    · simpa only [Function.update_of_ne same, sentBy_append, others d same, List.append_nil]
        using inv.clients d
  · intro d
    rw [inv.fifo d, sentBy_append, List.take_append_of_le_length (inv.taken d)]
  · intro d
    have := inv.taken d
    rw [sentBy_append, List.length_append]
    exact Nat.le_add_right_of_le this
  · exact inv.bus

/-- A link hands a message over: it is the next one of its client. -/
theorem handOver_step (inv : NetInv config past handled queue net) (c : C) :
    (∃ after msg, net.step config (.handOver c) = some (after, .handedOver c) ∧
        NetInv config (past ++ [.handOver c]) handled (queue ++ [(c, msg)]) after) ∨
      net.step config (.handOver c) = some (net, .quiet) ∧
        NetInv config (past ++ [.handOver c]) handled queue net := by
  have silent : ∀ d, sentBy d [NetEvent.handOver c] = [] := fun d => rfl
  have link : List.Forall₂ Carries (net.inLink c) ((sentBy c past).drop (net.taken c)) :=
    List.forall₂_drop (net.taken c) (inv.clients c).wire
  cases frames_eq : net.inLink c with
  | nil => exact Or.inr ⟨by simp only [ClientNet.step, frames_eq], inv.quiet silent⟩
  | cons frames rest =>
    left
    rw [frames_eq] at link
    cases left_eq : (sentBy c past).drop (net.taken c) with
    | nil =>
      rw [left_eq] at link
      cases link
    | cons msg more =>
      rw [left_eq] at link
      obtain ⟨carries, _⟩ := List.forall₂_cons.mp link
      have next : (sentBy c past).take (net.taken c + 1) =
          (sentBy c past).take (net.taken c) ++ [msg] := by
        rw [List.take_add, left_eq]
        rfl
      have bound : net.taken c < (sentBy c past).length := by
        by_contra beyond
        rw [List.drop_eq_nil_iff.mpr (by omega)] at left_eq
        cases left_eq
      have same : ∀ d, sentBy d (past ++ [NetEvent.handOver c]) = sentBy d past := by
        intro d
        rw [sentBy_append, silent, List.append_nil]
      refine ⟨_, msg, by simp only [ClientNet.step, frames_eq]; rfl, ?_⟩
      constructor
      · exact fun d => same d ▸ inv.clients d
      · intro d
        rw [same, ← List.append_assoc, ofClient_append, inv.fifo d]
        by_cases equal : d = c
        · subst equal
          simp only [Function.update_self, next]
          simp [ofClient]
        · simp only [Function.update_of_ne equal]
          simp [ofClient, Ne.symm equal]
      · intro d
        rw [same]
        by_cases equal : d = c
        · subst equal
          simp only [Function.update_self]
          exact bound
        · simpa only [Function.update_of_ne equal] using inv.taken d
      · obtain ⟨registry, waiting, arrived, bus⟩ := inv.bus
        let arrival : RouterMsg := ⟨(config c).routingId, frames, carries.frames_ne⟩
        refine ⟨registry, waiting ++ [arrival], ?_, bus.arrive [arrival]⟩
        exact List.rel_append arrived (List.Forall₂.cons ⟨rfl, carries⟩ List.Forall₂.nil)

/-- The bus polls: it decodes the first message waiting, if there is one. -/
theorem poll_step (inv : NetInv config past handled queue net) (stale : IpcMsg) :
    (queue = [] ∧ net.step config (.poll stale) = some (net, .quiet) ∧
        NetInv config (past ++ [.poll stale]) handled queue net) ∨
      ∃ after c msg later, queue = (c, msg) :: later ∧
        net.step config (.poll stale) = some (after, .decoded (config c).routingId msg) ∧
        NetInv config (past ++ [.poll stale]) (handled ++ [(c, msg)]) later after := by
  have silent : ∀ d : C, sentBy d [NetEvent.poll stale] = [] := fun d => rfl
  obtain ⟨registry, waiting, arrived, bus⟩ := inv.bus
  cases arrived with
  | nil =>
    left
    have empty : net.bus.sock.inbox = [] := bus.inbox
    exact ⟨rfl, by simp only [ClientNet.step, empty, if_true], inv.quiet silent⟩
  | @cons m tagged waiting later first others =>
    right
    obtain ⟨c, msg⟩ := tagged
    obtain ⟨source, carries⟩ := first
    have some_waiting : net.bus.sock.inbox ≠ [] := by
      rw [bus.inbox]
      exact List.cons_ne_nil _ _
    have decode : m.decode stale = msg := by
      unfold RouterMsg.decode
      rw [carries.lastBody_eq, Option.getD_some]
    let env : HandleEnv :=
      { stale, identityRecv := true, loopRecv := [], sends := SendEnv.ok }
    have routed := Router.handle_cons registry m waiting (rfl : env.identityRecv = true)
    obtain ⟨after, trace, code, effect⟩ := BusStep.handleMsg_spec bus routed
    have decoded : trace.decoded = some ((config c).routingId, msg) := by
      rw [effect.decoded, decode, source]
    refine ⟨{ net with bus := after }, c, msg, later, rfl, ?_, ?_⟩
    · change ClientNet.step config net (.poll env.stale) = _
      simp only [ClientNet.step, if_neg some_waiting, env, code, decoded]
    · have same : ∀ d : C, sentBy d (past ++ [NetEvent.poll stale]) = sentBy d past := by
        intro d
        rw [sentBy_append, silent, List.append_nil]
      constructor
      · exact fun d => same d ▸ inv.clients d
      · intro d
        rw [same, ← inv.fifo d, List.append_assoc, List.singleton_append]
      · exact fun d => same d ▸ inv.taken d
      · have slots := effect.inv
        rw [show env.sends = SendEnv.ok from rfl, BusStep.afterSend_ok, ite_self] at slots
        exact ⟨_, waiting, others, slots⟩

/-- What is seen of a run: the messages decoded and those handed over. -/
structure Seen (config : C → Client) (outs : List (NetOut C)) (handled queue : List (C × IpcMsg)) :
    Prop where
  decoded : decodedBy outs = handled.map fun pair => ((config pair.1).routingId, pair.2)
  handedOver : handedOver outs = (handled ++ queue).map Prod.fst

/-- One event of any kind returns and keeps what is known. -/
theorem net_step (inv : NetInv config past handled queue net) {outs : List (NetOut C)}
    (seen : Seen config outs handled queue) (event : NetEvent C) :
    ∃ after out handled' queue', net.step config event = some (after, out) ∧
      NetInv config (past ++ [event]) handled' queue' after ∧
      Seen config (outs ++ [out]) handled' queue' := by
  have quiet : Seen config (outs ++ [.quiet]) handled queue := by
    constructor
    · simpa [decodedBy] using seen.decoded
    · simpa [Spec.handedOver] using seen.handedOver
  cases event with
  | send c msg =>
    obtain ⟨after, code, inv'⟩ := send_step inv c msg
    exact ⟨after, .quiet, handled, queue, code, inv', quiet⟩
  | handOver c =>
    rcases handOver_step inv c with ⟨after, msg, code, inv'⟩ | ⟨code, inv'⟩
    · refine ⟨after, .handedOver c, handled, queue ++ [(c, msg)], code, inv', ?_⟩
      constructor
      · simpa [decodedBy] using seen.decoded
      · have before := seen.handedOver
        unfold Spec.handedOver at before ⊢
        rw [List.filterMap_append, before]
        simp
    · exact ⟨net, .quiet, handled, queue, code, inv', quiet⟩
  | poll stale =>
    rcases poll_step inv stale with ⟨_, code, inv'⟩ | ⟨after, c, msg, later, rfl, code, inv'⟩
    · exact ⟨net, .quiet, handled, queue, code, inv', quiet⟩
    · refine ⟨after, .decoded (config c).routingId msg, handled ++ [(c, msg)], later, code, inv',
        ?_⟩
      constructor
      · have before := seen.decoded
        unfold decodedBy at before ⊢
        rw [List.filterMap_append, before]
        simp
      · simpa [Spec.handedOver] using seen.handedOver

/-- Every run returns, in a state with the invariant. -/
theorem net_run (inv : NetInv config past handled queue net) {outs : List (NetOut C)}
    (seen : Seen config outs handled queue) (events : List (NetEvent C)) :
    ∃ after outs' handled' queue',
      Machine.run (ClientNet.step config) net events = some (after, outs') ∧
      NetInv config (past ++ events) handled' queue' after ∧
      Seen config (outs ++ outs') handled' queue' := by
  induction events generalizing past handled queue net outs with
  | nil => exact ⟨net, [], handled, queue, rfl, by simpa using inv, by simpa using seen⟩
  | cons event events ih =>
    obtain ⟨next, out, handled₁, queue₁, code, inv₁, seen₁⟩ := net_step inv seen event
    obtain ⟨after, outs', handled', queue', run, inv', seen'⟩ := ih inv₁ seen₁
    refine ⟨after, out :: outs', handled', queue',
      Machine.run_cons_iff.mpr ⟨next, out, outs', code, run, rfl⟩, ?_, ?_⟩
    · simpa [List.append_assoc] using inv'
    · simpa [List.append_assoc] using seen'

/-- What the next event finds in a state with given messages at the bus: a link that has a
message hands it over, and the first message that waits is what `_handle_msg` decodes. -/
structure GoesOn (config : C → Client) (net : ClientNet C) (queue : List (C × IpcMsg)) : Prop where
  handOver : ∀ c, net.inLink c ≠ [] →
    ∃ after, net.step config (.handOver c) = some (after, .handedOver c)
  poll : ∀ c msg later, queue = (c, msg) :: later → ∀ stale,
    ∃ after, net.step config (.poll stale) = some (after, .decoded (config c).routingId msg) ∧
      after.bus.sock.inbox.length = later.length

theorem NetInv.inbox_length (inv : NetInv config past handled queue net) :
    net.bus.sock.inbox.length = queue.length := by
  obtain ⟨registry, waiting, arrived, bus⟩ := inv.bus
  rw [bus.inbox, List.length_map, arrived.length_eq]

theorem NetInv.goesOn (inv : NetInv config past handled queue net) : GoesOn config net queue := by
  constructor
  · intro c waiting
    rcases handOver_step inv c with ⟨after, msg, code, _⟩ | ⟨code, _⟩
    · exact ⟨after, code⟩
    · cases frames_eq : net.inLink c with
      | nil => exact absurd frames_eq waiting
      | cons frames rest =>
        simp only [ClientNet.step, frames_eq] at code
        cases (Prod.mk.inj (Option.some.inj code)).2
  · intro c msg later first stale
    rcases poll_step inv stale with ⟨empty, _, _⟩ | ⟨after, c', msg', later', found, code, inv'⟩
    · cases empty.symm.trans first
    · cases first.symm.trans found
      exact ⟨after, code, inv'.inbox_length⟩

/-- For any clients and any interleaving of their sends with the links and the bus:
every step returns, the bus decodes exactly the messages `handled` with the routing ids
of their clients, in the order in which they were handed over; and what each client sent
is, in order, what was decoded from it, what waits at the bus and what its link has. A link
that has a message hands it over when its turn comes, and a poll decodes the first message
that waits. -/
theorem clients_round_trip (config : C → Client) (busError : ErrorHandler)
    (events : List (NetEvent C)) :
    ∃ net outs handled queue,
      Machine.run (ClientNet.step config) (ClientNet.fresh config busError) events =
        some (net, outs) ∧
      decodedBy outs = handled.map (fun pair => ((config pair.1).routingId, pair.2)) ∧
      handedOver outs = (handled ++ queue).map Prod.fst ∧
      net.bus.sock.inbox.length = queue.length ∧
      (∀ c, ∃ waiting, (net.inLink c).length = waiting.length ∧
        sentBy c events = ofClient c handled ++ ofClient c queue ++ waiting) ∧
      (net.bus.sock.inbox = [] → ∀ c, net.inLink c = [] →
        ofClient c handled = sentBy c events) ∧
      GoesOn config net queue := by
  have nothing : Seen config [] [] [] := ⟨rfl, rfl⟩
  obtain ⟨net, outs, handled, queue, run, inv, seen⟩ :=
    net_run (fresh_net config busError) nothing events
  simp only [List.nil_append] at inv seen
  have inbox := inv.inbox_length
  have link : ∀ c, (net.inLink c).length = ((sentBy c events).drop (net.taken c)).length := by
    intro c
    exact (List.forall₂_drop (net.taken c) (inv.clients c).wire).length_eq
  have split : ∀ c, sentBy c events =
      ofClient c handled ++ ofClient c queue ++ (sentBy c events).drop (net.taken c) := by
    intro c
    rw [← ofClient_append, inv.fifo c, List.take_append_drop]
  refine ⟨net, outs, handled, queue, run, seen.decoded, seen.handedOver, inbox,
    fun c => ⟨_, link c, split c⟩, ?_, inv.goesOn⟩
  intro drained c delivered
  have noQueue : queue = [] := by
    rw [drained, List.length_nil] at inbox
    exact List.length_eq_zero_iff.mp inbox.symm
  have noLink : (sentBy c events).drop (net.taken c) = [] := by
    have count := link c
    rw [delivered, List.length_nil] at count
    exact List.length_eq_zero_iff.mp count.symm
  have whole := split c
  rw [noQueue, noLink] at whole
  simpa [ofClient] using whole.symm

end Net

/-- A manager and a peer on links with routing ids of seven and of two bytes. -/
def twoClients (peer : Bool) : Client :=
  if peer then ⟨.PEER, [0, 9], ⟨fun _ => false⟩, ⟨fun _ => false⟩⟩
  else ⟨.MANAGER, ascii "manager", ⟨fun _ => false⟩, ⟨fun _ => false⟩⟩

/-- A message of the peer to itself. -/
def peerMsg : IpcMsg := zeroMsg.write (1 :: 0 :: 0 :: 0 :: 1 :: List.replicate 297 0)

/-- The manager sends twice, and the peer between; the links hand over the peer's message
first, and three polls decode all three. -/
theorem two_clients_decoded :
    ∃ net outs queue,
      Machine.run (ClientNet.step twoClients) (ClientNet.fresh twoClients ⟨fun _ => false⟩)
        [.send false zeroMsg, .send true peerMsg, .send false peerMsg, .handOver true,
          .handOver false, .poll zeroMsg, .handOver false, .poll zeroMsg, .poll peerMsg] =
        some (net, outs) ∧
      decodedBy outs =
        [([0, 9], peerMsg), (ascii "manager", zeroMsg), (ascii "manager", peerMsg)] ∧
      GoesOn twoClients net queue := by
  let events : List (NetEvent Bool) :=
    [.send false zeroMsg, .send true peerMsg, .send false peerMsg, .handOver true,
      .handOver false, .poll zeroMsg, .handOver false, .poll zeroMsg, .poll peerMsg]
  obtain ⟨net, outs, handled, queue, run, _, _, _, _, _, goesOn⟩ :=
    clients_round_trip twoClients ⟨fun _ => false⟩ events
  have shown : (Machine.run (ClientNet.step twoClients)
      (ClientNet.fresh twoClients ⟨fun _ => false⟩) events).map (fun result => decodedBy result.2) =
      some [([0, 9], peerMsg), (ascii "manager", zeroMsg), (ascii "manager", peerMsg)] := by
    decide +kernel
  rw [run] at shown
  exact ⟨net, outs, queue, run, Option.some.inj shown, goesOn⟩

end FifthD.Guarantees.ClientRoundTrip
