import FifthD.Guarantees.BusStep

/-!
# The bus routes by the history of its messages

Runs in which every ZeroMQ call succeeds and every message carries a body. The
registry is the first route of every source id, and the calls of `_send_message`
are those of `expectedSends`, one for each message whose destination is known.
-/
namespace FifthD.Guarantees.BusRouting

open FifthD.Library FifthD.Source FifthD.Spec SlotPool BusStep

/-- The arguments of the `_send_message` call of a trace. -/
def sentTo (trace : HandleTrace) : Option (Bytes × IpcMsg) :=
  trace.forward.map fun f => (f.identity, f.msg)

/-- One message: the router takes it at once. -/
theorem router_call (registry : Registry) (m : Incoming) :
    Router.call ⟨registry, []⟩ m.call =
      some (⟨registerClient registry m.body.srcId m.routingId, []⟩,
        ⟨some (m.routingId, m.body),
          (registerClient registry m.body.srcId m.routingId m.body.distId).map
            fun route => (route, m.body)⟩) := by
  have succeeds : m.call.env.identityRecv = true := rfl
  have body : m.toRouterMsg.decode m.call.env.stale = m.body := m.decode_eq
  have handled := Router.handle_cons registry m.toRouterMsg [] succeeds
  rw [body] at handled
  exact handled

/-- One message handled by the code, from a state that knows the messages before. -/
theorem incoming_step {s : BusState} {past : List Incoming} {allMsg : Fin msgBufferSize}
    {rest : List (Fin msgBufferSize)}
    (inv : BusInv s ⟨firstRoute past, []⟩ (allMsg :: rest)) (m : Incoming) :
    ∃ after trace, busCall s m.call = some (after, trace) ∧
      BusInv after ⟨firstRoute (past ++ [m]), []⟩ (allMsg :: rest) ∧
      trace.decoded = some (m.routingId, m.body) ∧
      sentTo trace =
        (firstRoute (past ++ [m]) m.body.distId).map fun route => (route, m.body) := by
  obtain ⟨after, trace, code, effect⟩ := busCall_spec inv (router_call (firstRoute past) m)
  rw [← firstRoute_append] at effect
  refine ⟨after, trace, code, ?_, effect.decoded, effect.forward⟩
  have slots := effect.inv
  have all : afterSend m.call.env.sends rest = rest := afterSend_ok rest
  rwa [all, ite_self] at slots

/-- Every run returns, with the registry and the sends of its history. -/
theorem runIncoming {s : BusState} {past : List Incoming} {allMsg : Fin msgBufferSize}
    {rest : List (Fin msgBufferSize)}
    (inv : BusInv s ⟨firstRoute past, []⟩ (allMsg :: rest)) (later : List Incoming) :
    ∃ after traces, Machine.run busCall s (later.map Incoming.call) = some (after, traces) ∧
      BusInv after ⟨firstRoute (past ++ later), []⟩ (allMsg :: rest) ∧
      traces.map sentTo = expectedSends past later := by
  induction later generalizing s past with
  | nil => exact ⟨s, [], rfl, by simpa using inv, rfl⟩
  | cons m later ih =>
    obtain ⟨next, trace, code, inv', _, sent⟩ := incoming_step inv m
    obtain ⟨after, traces, run, last, sends⟩ := ih inv'
    refine ⟨after, trace :: traces,
      Machine.run_cons_iff.mpr ⟨next, trace, traces, code, run, rfl⟩, ?_, ?_⟩
    · simpa [List.append_assoc] using last
    · rw [List.map_cons, sent, sends, expectedSends]

/-- Routing over whole runs. After any messages `past` the registry sends every
source id seen to the routing id of the first message that carried it; the messages
`later` change and remove no entry; and the calls of `_send_message` are, message
by message, those to the destinations registered at that moment. -/
theorem bus_routes_by_history (error : ErrorHandler) (past later : List Incoming) :
    ∃ s after early late,
      Machine.run busCall (BusState.fresh error) (past.map Incoming.call) = some (s, early) ∧
      Machine.run busCall s (later.map Incoming.call) = some (after, late) ∧
      (∀ id, s.clients id = firstRoute past id) ∧
      (∀ id, after.clients id = firstRoute (past ++ later) id) ∧
      (∀ id route, s.clients id = some route → after.clients id = some route) ∧
      (early ++ late).map sentTo = expectedSends [] (past ++ later) := by
  have start : BusInv (BusState.fresh error) ⟨firstRoute [], []⟩ (List.finRange msgBufferSize) :=
    fresh_inv error
  have slots : List.finRange msgBufferSize = 0 :: (List.finRange msgBufferSize).tail := rfl
  rw [slots] at start
  obtain ⟨s, early, run₁, inv₁, _⟩ := runIncoming start past
  rw [List.nil_append] at inv₁
  obtain ⟨after, late, run₂, inv₂, _⟩ := runIncoming inv₁ later
  obtain ⟨whole, traces, run, _, sends⟩ := runIncoming start (past ++ later)
  refine ⟨s, after, early, late, run₁, run₂, congrFun inv₁.clients, congrFun inv₂.clients, ?_, ?_⟩
  · intro id route known
    rw [inv₁.clients] at known
    rw [inv₂.clients]
    exact firstRoute_extend known
  · rw [List.map_append] at run
    obtain ⟨middle, early', late', run₁', run₂', split⟩ := Machine.run_append_iff.mp run
    rw [run₁] at run₁'
    cases run₁'
    rw [run₂] at run₂'
    cases run₂'
    rw [← split]
    exact sends

end FifthD.Guarantees.BusRouting
