import FifthD.Guarantees.BusMemory
import FifthD.Guarantees.ClientRoundTrip

/-!
# From the bus back to the clients

What the bus puts on its wire in a system of clients, links and the bus, for every
interleaving, as long as it stays in its memory. The decoded messages alone say how long
that is: it passes on one message, to a routing id of at most seven bytes, and the next one
that it would pass on goes past the frames which the first has emptied.
-/
namespace FifthD.Guarantees.ClientDelivery

open FifthD.Library FifthD.Library.Framing FifthD.Source FifthD.Spec SlotPool
open BusStep BusForward BusTrace BusBounds BusLifetime BusMemory ClientRoundTrip

/-! ## The history of the bus -/

/-- A decoded message as one that came in. -/
def incoming (decoded : Bytes × IpcMsg) : Incoming where
  routingId := decoded.1
  frames := [decoded.2.bytes]
  carries := ⟨_, List.mem_singleton_self _, decoded.2.length_eq⟩
  stale := decoded.2

theorem incoming_body (decoded : Bytes × IpcMsg) : (incoming decoded).body = decoded.2 := by
  unfold Incoming.body
  rw [Option.get_of_eq_some]
  change lastBody [decoded.2.bytes] = some decoded.2
  simp [lastBody, asBody_bytes]

/-- The registry that decoded messages make: the first routing id of every source id. -/
def registryOf (decoded : List (Bytes × IpcMsg)) : Registry := firstRoute (decoded.map incoming)

/-- What is passed on for them, and to whom. -/
def passedOn (decoded : List (Bytes × IpcMsg)) : List (Bytes × IpcMsg) :=
  (expectedSends [] (decoded.map incoming)).reduceOption

theorem registryOf_snoc (decoded : List (Bytes × IpcMsg)) (source : Bytes) (msg : IpcMsg) :
    registryOf (decoded ++ [(source, msg)]) =
      registerClient (registryOf decoded) msg.srcId source := by
  unfold registryOf
  rw [List.map_append, List.map_singleton, firstRoute_append, incoming_body]
  rfl

theorem expectedSends_snoc (past later : List Incoming) (m : Incoming) :
    expectedSends past (later ++ [m]) = expectedSends past later ++
      [(firstRoute (past ++ later ++ [m]) m.body.distId).map fun route => (route, m.body)] := by
  induction later generalizing past with
  | nil => simp [expectedSends]
  | cons first later ih =>
    rw [List.cons_append, expectedSends, expectedSends, ih, List.cons_append]
    simp only [List.append_assoc, List.cons_append, List.nil_append]

theorem passedOn_snoc (decoded : List (Bytes × IpcMsg)) (source : Bytes) (msg : IpcMsg) :
    passedOn (decoded ++ [(source, msg)]) = passedOn decoded ++
      ((registerClient (registryOf decoded) msg.srcId source msg.distId).map
        fun route => (route, msg)).toList := by
  have last := registryOf_snoc decoded source msg
  unfold registryOf at last
  rw [List.map_append, List.map_singleton] at last
  unfold passedOn
  rw [List.map_append, List.map_singleton, expectedSends_snoc, List.nil_append, last,
    incoming_body, List.reduceOption_append]
  congr 1

/-! ## What the bus can decode -/

/-- The bus stays in its memory with the next message that it decodes: the category has a
NUL, a destination that is not registered is a client, and the message is the first that is
passed on, to a routing id that fits the identity frame. -/
structure InMemory (earlier : List (Bytes × IpcMsg)) (next : Bytes × IpcMsg) : Prop where
  category : 0 ∈ next.2.category
  destination : registryOf (earlier ++ [next]) next.2.distId = none → IsClient next.2.distId
  forward : ∀ route, registryOf (earlier ++ [next]) next.2.distId = some route →
    passedOn earlier = [] ∧ route.length ≤ identityFrameSize

theorem inMemory_of_none {earlier : List (Bytes × IpcMsg)} {next : Bytes × IpcMsg}
    (nobody : registryOf (earlier ++ [next]) next.2.distId = none) :
    InMemory earlier next ↔ 0 ∈ next.2.category ∧ IsClient next.2.distId := by
  constructor
  · intro stays
    exact ⟨stays.category, stays.destination nobody⟩
  · rintro ⟨category, destination⟩
    refine ⟨category, fun _ => destination, ?_⟩
    intro route there
    cases nobody.symm.trans there

theorem inMemory_of_some {earlier : List (Bytes × IpcMsg)} {next : Bytes × IpcMsg} {route : Bytes}
    (there : registryOf (earlier ++ [next]) next.2.distId = some route) :
    InMemory earlier next ↔
      0 ∈ next.2.category ∧ passedOn earlier = [] ∧ route.length ≤ identityFrameSize := by
  constructor
  · intro stays
    exact ⟨stays.category, stays.forward route there⟩
  · rintro ⟨category, fits⟩
    refine ⟨category, ?_, ?_⟩
    · intro nobody
      cases nobody.symm.trans there
    · intro route' there'
      cases there.symm.trans there'
      exact fits

/-- As long as it does, it passes on one message at most. -/
theorem passedOn_le_one {decoded : List (Bytes × IpcMsg)} (stays : Throughout InMemory decoded) :
    (passedOn decoded).length ≤ 1 := by
  induction decoded using List.reverseRecOn with
  | nil => exact Nat.zero_le 1
  | append_singleton before last ih =>
    obtain ⟨source, msg⟩ := last
    obtain ⟨stays, inMemory⟩ := (throughout_snoc _ _ _).mp stays
    rw [passedOn_snoc, ← registryOf_snoc]
    cases route : registryOf (before ++ [(source, msg)]) msg.distId with
    | none => simpa using ih stays
    | some destination => simp [(inMemory.forward destination route).1]

/-- A message as it goes out: seven bytes that start with the routing id, an empty frame, and
the message. -/
def GoesOut (frames : List Bytes) (sent : Bytes × IpcMsg) : Prop :=
  ∃ identity, frames = [identity, [], sent.2.bytes] ∧ identity.length = identityFrameSize ∧
    sent.1 <+: identity

/-- The frames of one forward are a message of their own. -/
theorem forward_assembles (replay : Fin msgBufferSize) (slot : ZMQAllMsg) (msg : IpcMsg)
    (route : Bytes) :
    assemble (forwardFrom replay slot msg route).frames =
      ([[memcpy slot.identity.data route, [], memcpy slot.msg.data msg.bytes]], []) :=
  assemble_complete [memcpy slot.identity.data route, []] (memcpy slot.msg.data msg.bytes)

/-- From a slot not used yet it goes out whole. -/
theorem clean_goesOut (msg : IpcMsg) {route : Bytes} (fits : route.length ≤ identityFrameSize) :
    GoesOut [memcpy initAllmsg.identity.data route, [], memcpy initAllmsg.msg.data msg.bytes]
      (route, msg) := by
  have body : memcpy initAllmsg.msg.data msg.bytes = msg.bytes := by
    apply memcpy_eq_of_length
    simpa [initAllmsg, zmqMsgInitSize] using msg.length_eq
  have size : initAllmsg.identity.data.length = identityFrameSize := by
    simp [initAllmsg, zmqMsgInitSize]
  refine ⟨memcpy initAllmsg.identity.data route, by rw [body], ?_, ?_⟩
  · rw [memcpy_length, size]
  · rw [memcpy, List.take_of_length_le (fits.trans_eq size.symm)]
    exact List.prefix_append _ _

/-! ## One call -/

/-- The bus after it has decoded given messages in its memory. -/
structure Forwarded (decoded : List (Bytes × IpcMsg)) (s : BusState) : Prop where
  clients : s.clients = registryOf decoded
  closed : openPart s.sock.wire = []
  wire : List.Forall₂ GoesOut (messages s.sock.wire) (passedOn decoded)
  slot : s.msgBuffer.data 1 = if passedOn decoded = [] then initAllmsg else spent initAllmsg

theorem fresh_forwarded (error : ErrorHandler) : Forwarded [] (BusState.fresh error) :=
  ⟨rfl, rfl, .nil, rfl⟩

/-- A call that passes nothing on leaves the wire and the slot alone. -/
theorem Forwarded.unchanged {decoded next : List (Bytes × IpcMsg)} {s after : BusState}
    (forwarded : Forwarded decoded s) (clients : after.clients = registryOf next)
    (sends : passedOn next = passedOn decoded) (wire : after.sock.wire = s.sock.wire)
    (slot : after.msgBuffer.data 1 = s.msgBuffer.data 1) : Forwarded next after := by
  constructor
  · exact clients
  · rw [wire]
    exact forwarded.closed
  · rw [wire, sends]
    exact forwarded.wire
  · rw [slot, sends]
    exact forwarded.slot

/-- The first message passed on goes out whole, and the slot is spent. -/
theorem Forwarded.first {decoded next : List (Bytes × IpcMsg)} {s after : BusState} {msg : IpcMsg}
    {route : Bytes} (forwarded : Forwarded decoded s) (clients : after.clients = registryOf next)
    (fits : route.length ≤ identityFrameSize)
    (sends : passedOn next = passedOn decoded ++ [(route, msg)])
    (wire : after.sock.wire = s.sock.wire ++ (forwardFrom 1 initAllmsg msg route).frames)
    (slot : after.msgBuffer.data 1 = spent initAllmsg) : Forwarded next after := by
  have frames := forward_assembles 1 initAllmsg msg route
  constructor
  · exact clients
  · rw [wire, openPart_append forwarded.closed, openPart, frames]
  · rw [wire, messages_append forwarded.closed, sends]
    refine List.rel_append forwarded.wire ?_
    rw [messages, frames]
    exact .cons (clean_goesOut msg fits) .nil
  · rw [slot, sends, if_neg (List.append_ne_nil_of_right_ne_nil _ (List.cons_ne_nil _ _))]

/-- A forward from the second slot stays in its frames as long as it is the first. -/
theorem overruns_iff {decoded : List (Bytes × IpcMsg)} {s : BusState}
    (forwarded : Forwarded decoded s) (msg : IpcMsg) (route : Bytes) :
    ¬ Overruns (forwardFrom 1 (s.msgBuffer.data 1) msg route) ↔
      passedOn decoded = [] ∧ route.length ≤ identityFrameSize := by
  have copies : (forwardFrom 1 (s.msgBuffer.data 1) msg route).copies =
      copiesInto (if decide (passedOn decoded = []) then initAllmsg else spent initAllmsg)
        route 3 := by
    rw [forwarded.slot]
    simp [forwardFrom, copiesInto]
  rw [overruns_copies copies]
  by_cases first : passedOn decoded = [] <;> simp [first, forwardFrom]

/-- The bus decodes a message: it registers its source, and passes it on if it can. It stays
in its memory exactly when the messages decoded say so. -/
theorem handle_forwarded {s : BusState} {registry : Registry} {m : RouterMsg}
    {later : List RouterMsg} {decoded : List (Bytes × IpcMsg)}
    (inv : BusInv s ⟨registry, m :: later⟩ (0 :: (List.finRange msgBufferSize).tail))
    (forwarded : Forwarded decoded s) (stale : IpcMsg) :
    ∃ after trace,
      handleMsg { stale, identityRecv := true, loopRecv := [], sends := SendEnv.ok } s =
        some (after, trace) ∧
      trace.decoded = some (m.routingId, m.decode stale) ∧
      (trace.inMemory = true ↔ InMemory decoded (m.routingId, m.decode stale)) ∧
      (InMemory decoded (m.routingId, m.decode stale) →
        Forwarded (decoded ++ [(m.routingId, m.decode stale)]) after) := by
  have known : registry = registryOf decoded := inv.clients.symm.trans forwarded.clients
  subst known
  let env : HandleEnv := { stale, identityRecv := true, loopRecv := [], sends := SendEnv.ok }
  obtain ⟨after, trace, code, effect, passed, wire⟩ :=
    handleMsg_passed inv (Router.handle_cons (registryOf decoded) m later
      (rfl : env.identityRecv = true))
  have taken : trace.decoded = some (m.routingId, m.decode stale) := effect.decoded
  refine ⟨after, trace, code, taken, ?_⟩
  have clients := effect.inv.clients
  rw [← registryOf_snoc] at clients
  have sends := passedOn_snoc decoded m.routingId (m.decode stale)
  have warns : Warns trace := neverRegistered_eq code
  have bounds := warns.inBounds_iff taken
  have registered := registryOf_snoc decoded m.routingId (m.decode stale)
  generalize hout : (registerClient (registryOf decoded) (m.decode stale).srcId m.routingId
    (m.decode stale).distId).map (fun route => (route, m.decode stale)) = out at passed sends
  rw [← registered] at hout
  rw [inMemory_iff, bounds]
  generalize hforward : trace.forward = forward at passed wire bounds
  cases passed with
  | nothing others =>
    have nobody := Option.map_eq_none_iff.mp hout
    rw [Option.toList_none, List.append_nil] at sends
    simp only [framesOf, Option.toList_none, List.flatMap_nil, List.append_nil] at wire
    constructor
    · rw [inMemory_of_none nobody]
      simp
    · intro _
      exact forwarded.unchanged clients sends wire (others 1 (by decide))
  | on route msg forward sent =>
    have slots : (List.finRange msgBufferSize).tail =
        1 :: (List.finRange msgBufferSize).drop 2 := rfl
    rw [slots] at sent
    obtain ⟨route', there, same⟩ := Option.map_eq_some_iff.mp hout
    cases same
    cases sent with
    | failed _ _ _ fails => exact absurd rfl fails
    | sent _ _ _ used _ =>
      rw [Option.toList_some] at sends
      simp only [framesOf, Option.toList_some, List.flatMap_singleton] at wire
      constructor
      · rw [inMemory_of_some there, ← overruns_iff forwarded (m.decode stale) route]
        simp [and_comm]
      · intro stays
        obtain ⟨first, room⟩ := stays.forward route there
        have clean : s.msgBuffer.data 1 = initAllmsg := forwarded.slot.trans (if_pos first)
        rw [clean] at wire used
        exact forwarded.first clients room sends wire used

/-! ## One event -/

variable {C : Type*} [DecidableEq C] {config : C → Client}

/-- The system after the events `past`: as long as the bus is in its memory it has forwarded
what it decoded, and the message with which it left it is the last that it decoded. -/
structure LiveInv (config : C → Client) (past : List (NetEvent C))
    (handled queue : List (C × IpcMsg)) (outs : List (NetOut C)) (s : LiveNet C) : Prop where
  net : NetInv config past handled queue s.net
  seen : Seen config outs handled queue
  stays : s.leftMemory = false →
    Throughout InMemory (Spec.decodedBy outs) ∧ Forwarded (Spec.decodedBy outs) s.net.bus
  left : s.leftMemory = true → ∃ before last, Spec.decodedBy outs = before ++ [last] ∧
    Throughout InMemory before ∧ ¬ InMemory before last

theorem fresh_live (config : C → Client) (busError : ErrorHandler) :
    LiveInv config [] [] [] [] (LiveNet.fresh config busError) where
  net := fresh_net config busError
  seen := ⟨rfl, rfl⟩
  stays _ := ⟨throughout_nil InMemory, fresh_forwarded busError⟩
  left h := by cases h

omit [DecidableEq C] in
theorem decodedBy_snoc (outs : List (NetOut C)) (out : NetOut C) :
    Spec.decodedBy (outs ++ [out]) = Spec.decodedBy outs ++ Spec.decodedBy [out] :=
  List.filterMap_append

theorem Forwarded.congr {decoded : List (Bytes × IpcMsg)} {s after : BusState}
    (forwarded : Forwarded decoded s) (clients : after.clients = s.clients)
    (wire : after.sock.wire = s.sock.wire) (buffer : after.msgBuffer = s.msgBuffer) :
    Forwarded decoded after := by
  apply forwarded.unchanged
  · exact clients.trans forwarded.clients
  · rfl
  · exact wire
  · rw [buffer]

/-- A client or a link makes a step: the bus decodes nothing, and only its inbox may change. -/
theorem step_aside {net after : ClientNet C} {event : NetEvent C} {out : NetOut C}
    (aside : ∀ stale, event ≠ .poll stale) (stepped : net.step config event = some (after, out)) :
    Spec.decodedBy [out] = [] ∧ after.bus.clients = net.bus.clients ∧
      after.bus.sock.wire = net.bus.sock.wire ∧ after.bus.msgBuffer = net.bus.msgBuffer := by
  cases event with
  | send c msg =>
    simp only [ClientNet.step] at stepped
    split at stepped
    · cases stepped
    · cases stepped
      exact ⟨rfl, rfl, rfl, rfl⟩
  | handOver c =>
    simp only [ClientNet.step] at stepped
    split at stepped
    · cases stepped
      exact ⟨rfl, rfl, rfl, rfl⟩
    · cases stepped
      exact ⟨rfl, rfl, rfl, rfl⟩
  | poll stale => exact absurd rfl (aside stale)

variable {past : List (NetEvent C)} {handled queue : List (C × IpcMsg)} {outs : List (NetOut C)}
  {s : LiveNet C}

/-- Nothing is seen of the bus. -/
theorem LiveInv.aside (inv : LiveInv config past handled queue outs s) {event : NetEvent C}
    {net : ClientNet C} {out : NetOut C} {handled' queue' : List (C × IpcMsg)}
    (kept : NetInv config (past ++ [event]) handled' queue' net)
    (seen : Seen config (outs ++ [out]) handled' queue')
    (nothing : Spec.decodedBy [out] = [])
    (same : net.bus.clients = s.net.bus.clients ∧ net.bus.sock.wire = s.net.bus.sock.wire ∧
      net.bus.msgBuffer = s.net.bus.msgBuffer) :
    LiveInv config (past ++ [event]) handled' queue' (outs ++ [out]) ⟨net, s.leftMemory⟩ := by
  have decoded : Spec.decodedBy (outs ++ [out]) = Spec.decodedBy outs := by
    rw [decodedBy_snoc, nothing, List.append_nil]
  constructor
  · exact kept
  · exact seen
  · intro inMemory
    obtain ⟨stays, forwarded⟩ := inv.stays inMemory
    rw [decoded]
    exact ⟨stays, forwarded.congr same.1 same.2.1 same.2.2⟩
  · intro left
    rw [decoded]
    exact inv.left left

/-- A poll that finds nothing, or comes too late. -/
theorem LiveInv.idle (inv : LiveInv config past handled queue outs s) {stale : IpcMsg}
    (idle : s.leftMemory = true ∨ s.net.bus.sock.inbox = []) :
    s.step config (.poll stale) = some (s, .quiet) ∧
      LiveInv config (past ++ [.poll stale]) handled queue (outs ++ [.quiet]) s := by
  refine ⟨by simp only [LiveNet.step, if_pos idle], ?_⟩
  have seen : Seen config (outs ++ [.quiet]) handled queue := by
    constructor
    · rw [decodedBy_snoc, show Spec.decodedBy [NetOut.quiet (C := C)] = [] from rfl,
        List.append_nil]
      exact inv.seen.decoded
    · have before := inv.seen.handedOver
      unfold Spec.handedOver at before ⊢
      rw [List.filterMap_append, before]
      exact List.append_nil _
  exact inv.aside (inv.net.quiet fun _ => rfl) seen rfl ⟨rfl, rfl, rfl⟩

/-- A poll that is neither decodes the message that waits. -/
theorem LiveInv.poll (inv : LiveInv config past handled queue outs s) (here : s.leftMemory = false)
    (someWaiting : s.net.bus.sock.inbox ≠ []) (stale : IpcMsg) :
    ∃ bus trace source msg,
      handleMsg { stale, identityRecv := true, loopRecv := [], sends := SendEnv.ok } s.net.bus =
        some (bus, trace) ∧
      trace.decoded = some (source, msg) ∧
      s.step config (.poll stale) =
        some (⟨{ s.net with bus }, !trace.inMemory⟩, .decoded source msg) ∧
      (trace.inMemory = true ↔ InMemory (Spec.decodedBy outs) (source, msg)) ∧
      (InMemory (Spec.decodedBy outs) (source, msg) →
        Forwarded (Spec.decodedBy outs ++ [(source, msg)]) bus) := by
  obtain ⟨registry, waiting, _, bus⟩ := inv.net.bus
  cases waiting with
  | nil => exact absurd bus.inbox someWaiting
  | cons m later =>
    obtain ⟨after, trace, called, decoded, inMemory, forwards⟩ :=
      handle_forwarded bus (inv.stays here).2 stale
    refine ⟨after, trace, m.routingId, m.decode stale, called, decoded, ?_, inMemory, forwards⟩
    simp [LiveNet.step, here, someWaiting, called, decoded]

/-- One event of any kind returns and keeps what is known. -/
theorem live_step (inv : LiveInv config past handled queue outs s) (event : NetEvent C) :
    ∃ after out handled' queue', s.step config event = some (after, out) ∧
      LiveInv config (past ++ [event]) handled' queue' (outs ++ [out]) after := by
  obtain ⟨net, out, handled', queue', code, kept, seen⟩ := net_step inv.net inv.seen event
  cases event with
  | send c msg =>
    obtain ⟨nothing, same⟩ := step_aside (by simp) code
    exact ⟨⟨net, s.leftMemory⟩, out, handled', queue', by simp only [LiveNet.step, code]; rfl,
      inv.aside kept seen nothing same⟩
  | handOver c =>
    obtain ⟨nothing, same⟩ := step_aside (by simp) code
    exact ⟨⟨net, s.leftMemory⟩, out, handled', queue', by simp only [LiveNet.step, code]; rfl,
      inv.aside kept seen nothing same⟩
  | poll stale =>
    by_cases idle : s.leftMemory = true ∨ s.net.bus.sock.inbox = []
    · obtain ⟨code, inv⟩ := inv.idle idle
      exact ⟨s, .quiet, handled, queue, code, inv⟩
    · obtain ⟨here, someWaiting⟩ := not_or.mp idle
      have here := eq_false_of_ne_true here
      obtain ⟨bus, trace, source, msg, called, decoded, polled, inMemory, forwards⟩ :=
        inv.poll here someWaiting stale
      simp only [ClientNet.step, if_neg someWaiting, called, decoded] at code
      cases code
      refine ⟨_, _, handled', queue', polled, kept, seen, ?_, ?_⟩
      · intro left
        have fits := inMemory.mp (by simpa using left)
        rw [decodedBy_snoc]
        exact ⟨(throughout_snoc _ _ _).mpr ⟨(inv.stays here).1, fits⟩, forwards fits⟩
      · intro left
        refine ⟨Spec.decodedBy outs, _, decodedBy_snoc _ _, (inv.stays here).1, fun fits => ?_⟩
        rw [inMemory.mpr fits] at left
        cases left

/-! ## Whole runs -/

/-- Every run returns. -/
theorem live_run (inv : LiveInv config past handled queue outs s) (events : List (NetEvent C)) :
    ∃ after outs' handled' queue',
      Machine.run (LiveNet.step config) s events = some (after, outs') ∧
      LiveInv config (past ++ events) handled' queue' (outs ++ outs') after := by
  induction events generalizing past handled queue s outs with
  | nil =>
    exact ⟨s, [], handled, queue, rfl, by simpa using inv⟩
  | cons event events ih =>
    obtain ⟨next, out, handled₁, queue₁, code, inv₁⟩ := live_step inv event
    obtain ⟨after, outs', handled', queue', run, inv'⟩ := ih inv₁
    refine ⟨after, out :: outs', handled', queue',
      Machine.run_cons_iff.mpr ⟨next, out, outs', code, run, rfl⟩, ?_⟩
    simpa [List.append_assoc] using inv'

/-- For any clients and any interleaving of their sends with the links and the bus: what the
bus decodes from a client is, in order, the beginning of what the client sent. As long as the
bus is in its memory, a poll decodes the message that waits, if there is one. The bus stays in
its memory until it decodes a message whose category has no NUL, whose destination is neither
registered nor a client, or that it passes on though it is not the first or goes to a routing
id of more than seven bytes; that is the last message of which anything is known. Until then
its registry is the first routing id of every source id decoded, and it has put on its wire
the one message that it has passed on, if any, whole, behind an identity frame of seven bytes
that starts with the routing id. -/
theorem clients_delivered (config : C → Client) (busError : ErrorHandler)
    (events : List (NetEvent C)) :
    ∃ s outs handled,
      Machine.run (LiveNet.step config) (LiveNet.fresh config busError) events =
        some (s, outs) ∧
      Spec.decodedBy outs = handled.map (fun pair => ((config pair.1).routingId, pair.2)) ∧
      (∀ c, ofClient c handled <+: sentBy c events) ∧
      (s.leftMemory = false → Throughout InMemory (Spec.decodedBy outs) ∧
        s.net.bus.clients = registryOf (Spec.decodedBy outs) ∧
        openPart s.net.bus.sock.wire = [] ∧
        List.Forall₂ GoesOut (messages s.net.bus.sock.wire) (passedOn (Spec.decodedBy outs)) ∧
        (passedOn (Spec.decodedBy outs)).length ≤ 1) ∧
      (s.leftMemory = false → s.net.bus.sock.inbox ≠ [] → ∀ stale, ∃ after source msg,
        s.step config (.poll stale) = some (after, .decoded source msg)) ∧
      (s.leftMemory = true → ∃ before last, Spec.decodedBy outs = before ++ [last] ∧
        Throughout InMemory before ∧ ¬ InMemory before last) := by
  obtain ⟨s, outs, handled, queue, run, inv⟩ := live_run (fresh_live config busError) events
  rw [List.nil_append, List.nil_append] at inv
  refine ⟨s, outs, handled, run, inv.seen.decoded, ?_, ?_, ?_, inv.left⟩
  · intro c
    have fifo := inv.net.fifo c
    rw [ofClient_append] at fifo
    have first : ofClient c handled <+: (sentBy c events).take (s.net.taken c) := by
      rw [← fifo]
      exact List.prefix_append _ _
    exact first.trans (List.take_prefix _ _)
  · intro inMemory
    obtain ⟨stays, forwarded⟩ := inv.stays inMemory
    exact ⟨stays, forwarded.clients, forwarded.closed, forwarded.wire, passedOn_le_one stays⟩
  · intro here someWaiting stale
    obtain ⟨_, _, source, msg, _, _, polled, _, _⟩ := inv.poll here someWaiting stale
    exact ⟨_, source, msg, polled⟩

/-- A message of the manager to itself goes out; with the second one the bus leaves its memory. -/
example :
    (Machine.run (LiveNet.step twoClients) (LiveNet.fresh twoClients ⟨fun _ => false⟩)
      [.send false zeroMsg, .send false zeroMsg, .handOver false, .handOver false, .poll zeroMsg,
        .poll zeroMsg, .poll zeroMsg]).map
        (fun result => (result.1.leftMemory, Spec.decodedBy result.2)) =
      some (true, [(ascii "manager", zeroMsg), (ascii "manager", zeroMsg)]) := by
  decide +kernel

/-- A bus that is still in its memory has made the step of the system. -/
theorem step_net {s next : LiveNet C} {event : NetEvent C} {out : NetOut C}
    (stepped : s.step config event = some (next, out)) (here : next.leftMemory = false) :
    s.leftMemory = false ∧ s.net.step config event = some (next.net, out) := by
  cases event with
  | send c msg | handOver c =>
    obtain ⟨⟨net, out'⟩, code, same⟩ := Option.map_eq_some_iff.mp stepped
    cases same
    exact ⟨here, code⟩
  | poll stale =>
    simp only [LiveNet.step] at stepped
    split at stepped
    · next idle =>
      cases stepped
      have empty : s.net.bus.sock.inbox = [] := by simpa [here] using idle
      exact ⟨here, by simp only [ClientNet.step, if_pos empty]⟩
    · next busy =>
      obtain ⟨before, someWaiting⟩ := not_or.mp busy
      split at stepped
      · cases stepped
      · next bus trace called =>
        cases stepped
        refine ⟨eq_false_of_ne_true before, ?_⟩
        simp only [ClientNet.step, if_neg someWaiting, called]

/-- A system whose bus is still in its memory is the system itself. -/
theorem run_net {s after : LiveNet C} {outs : List (NetOut C)} {events : List (NetEvent C)}
    (ran : Machine.run (LiveNet.step config) s events = some (after, outs))
    (here : after.leftMemory = false) :
    s.leftMemory = false ∧
      Machine.run (ClientNet.step config) s.net events = some (after.net, outs) := by
  induction events generalizing s outs with
  | nil =>
    cases ran
    exact ⟨here, rfl⟩
  | cons event events ih =>
    obtain ⟨next, out, later, stepped, on, rfl⟩ := Machine.run_cons_iff.mp ran
    obtain ⟨between, onNet⟩ := ih on
    obtain ⟨before, stepNet⟩ := step_net stepped between
    exact ⟨before, Machine.run_cons_iff.mpr ⟨next.net, out, later, stepNet, onNet, rfl⟩⟩

end FifthD.Guarantees.ClientDelivery
