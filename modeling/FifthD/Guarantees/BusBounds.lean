import FifthD.Guarantees.BusStep
import FifthD.Library.Recency
import Mathlib.Data.List.TakeWhile

/-!
# What a message can make the bus read

Runs of the bus on any messages. The ids of a message come from the network and go into
the registry and, when the destination is not registered, into `CLIENTS_IDS`; the
category is printed up to its first NUL. All three stay in bounds exactly when every
message that is taken is well formed: nothing in the bus looks at an id or a category.
-/
namespace FifthD.Guarantees.BusBounds

open FifthD.Library FifthD.Source FifthD.Spec SlotPool BusStep

/-- A value of `enum Clients` below `CLIENTS_TOTAL`. -/
def IsClient (id : BitVec 32) : Prop := 0 ≤ id.toInt ∧ id.toInt < CLIENTS_TOTAL

instance (id : BitVec 32) : Decidable (IsClient id) := inferInstanceAs (Decidable (_ ∧ _))

/-- Both ids are clients and the category has a NUL. -/
structure WellFormed (m : IpcMsg) : Prop where
  source : IsClient m.srcId
  destination : IsClient m.distId
  category : 0 ∈ m.category

/-- Every id of a registry is a client. -/
def KeysInBounds (registry : Registry) : Prop := ∀ id, registry id ≠ none → IsClient id

/-- The lookup in `CLIENTS_IDS` and the printed category of a call are in bounds. -/
structure TraceInBounds (trace : HandleTrace) : Prop where
  lookup : ∀ id, trace.neverRegistered = some id → IsClient id
  scan : ∀ route m, trace.decoded = some (route, m) → m.categoryScan ≤ CATEGORY_LENGTH_BYTES

/-- The registry and all calls so far are in bounds. -/
structure InBounds (s : BusState) (traces : List HandleTrace) : Prop where
  keys : KeysInBounds s.clients
  calls : ∀ trace ∈ traces, TraceInBounds trace

/-- Every message that the router takes is well formed. A call that waits for ever ends
the run. -/
def MessagesWellFormed (r : Router) : List BusCall → Prop
  | [] => True
  | c :: rest =>
    match r.call c with
    | none => True
    | some (next, out) =>
      (∀ route m, out.decoded = some (route, m) → WellFormed m) ∧ MessagesWellFormed next rest

/-! ## The category -/

/-- The part before the first NUL is shorter than `n` exactly when one of the first `n`
bytes is NUL. -/
theorem takeWhile_length_lt_iff (bytes : Bytes) {n : Nat} (within : n ≤ bytes.length) :
    (bytes.takeWhile (· ≠ 0)).length < n ↔ 0 ∈ bytes.take n := by
  rw [Recency.mem_take_iff]
  constructor
  · intro short
    refine ⟨?_, short⟩
    by_contra absent
    have whole : bytes.takeWhile (· ≠ 0) = bytes := by
      rw [List.takeWhile_eq_self_iff]
      intro byte member
      exact decide_eq_true fun nul => absent (nul ▸ member)
    rw [whole] at short
    omega
  · exact And.right

/-- The scan ends inside the category exactly when the category has a NUL. -/
theorem categoryScan_le_iff (m : IpcMsg) :
    m.categoryScan ≤ CATEGORY_LENGTH_BYTES ↔ 0 ∈ m.category := by
  have within : CATEGORY_LENGTH_BYTES ≤ (m.bytes.drop 16).length := by
    rw [List.length_drop, m.length_eq]
    decide
  unfold IpcMsg.categoryScan IpcMsg.category
  rw [Nat.succ_le_iff]
  exact takeWhile_length_lt_iff _ within

/-! ## One call -/

/-- The id a call warns about is the destination of a message it does not pass on. -/
theorem neverRegistered_eq {env : HandleEnv} {s after : BusState} {trace : HandleTrace}
    (code : handleMsg env s = some (after, trace)) :
    trace.neverRegistered =
      match trace.decoded, trace.forward with
      | some (_, m), none => some m.distId
      | _, _ => none := by
  unfold handleMsg at code
  split at code
  · cases code
    rfl
  · dsimp only at code
    split at code
    · cases code
    · split at code
      · obtain ⟨s', _, ended⟩ := Option.map_eq_some_iff.mp code
        cases ended
        rfl
      · split at code
        · cases code
        · split at code
          · obtain ⟨s', _, ended⟩ := Option.map_eq_some_iff.mp code
            cases ended
            rfl
          · split at code
            · cases code
            · obtain ⟨s', _, ended⟩ := Option.map_eq_some_iff.mp code
              cases ended
              rfl

/-- A call that takes no message reads nothing. -/
theorem idle_in_bounds {env : HandleEnv} {s after : BusState} {trace : HandleTrace}
    (idle : trace.decoded = none) (code : handleMsg env s = some (after, trace)) :
    TraceInBounds trace := by
  have warned := neverRegistered_eq code
  rw [idle] at warned
  constructor
  · intro id warns
    cases warned.symm.trans warns
  · intro route m decoded
    cases idle.symm.trans decoded

/-- A call from a registry in bounds leaves bounds exactly when the message it takes is
not well formed. -/
theorem call_in_bounds_iff {env : HandleEnv} {r next : Router} {c : BusCall} {out : Routed}
    {allMsg : Fin msgBufferSize} {rest : List (Fin msgBufferSize)} {s after : BusState}
    {trace : HandleTrace} (keys : KeysInBounds r.registry)
    (routed : r.call c = some (next, out)) (code : busCall s c = some (after, trace))
    (effect : CallEffect env next out allMsg rest after trace) :
    (KeysInBounds next.registry ∧ TraceInBounds trace) ↔
      ∀ route m, out.decoded = some (route, m) → WellFormed m := by
  have warned := neverRegistered_eq code
  have forwarded : trace.forward = none ↔ out.forward = none := by
    rw [← effect.forward, Option.map_eq_none_iff]
  rcases Router.call_cases routed with ⟨same, rfl⟩ | ⟨route, data, registered, rfl⟩
  · have inBounds := idle_in_bounds effect.decoded code
    simp [same, keys, inBounds]
  · have taken : trace.decoded = some (route, data) := effect.decoded
    rw [taken] at warned
    constructor
    · intro bounds route' m decoded
      obtain ⟨keys', lookup, scan⟩ := bounds
      cases decoded
      constructor
      · apply keys'
        rw [registered, registerClient_keys]
        exact .inr rfl
      · cases destination : next.registry data.distId with
        | some known => exact keys' data.distId (by simp [destination])
        | none =>
          have dropped : trace.forward = none := forwarded.mpr (by simp [destination])
          rw [dropped] at warned
          exact lookup data.distId warned
      · exact (categoryScan_le_iff data).mp (scan route data taken)
    · intro wellFormed
      obtain ⟨source, destination, category⟩ := wellFormed route data rfl
      refine ⟨?_, ?_, ?_⟩
      · intro id known
        rw [registered, registerClient_keys] at known
        rcases known with before | now
        · exact keys id before
        · rw [now]
          exact source
      · intro id warns
        rw [warned] at warns
        split at warns
        · next m _ decoded _ =>
          cases decoded
          cases warns
          exact destination
        · cases warns
      · intro route' m decoded
        cases taken.symm.trans decoded
        exact (categoryScan_le_iff data).mpr category

/-! ## Whole runs -/

/-- A call in bounds in front changes nothing of what is asked. -/
theorem inBounds_cons {s : BusState} {trace : HandleTrace} (first : TraceInBounds trace)
    (traces : List HandleTrace) : InBounds s (trace :: traces) ↔ InBounds s traces := by
  constructor
  · intro bounds
    exact ⟨bounds.keys, (List.forall_mem_cons.mp bounds.calls).2⟩
  · intro bounds
    exact ⟨bounds.keys, List.forall_mem_cons.mpr ⟨first, bounds.calls⟩⟩

/-- The first message that is not well formed decides. -/
theorem run_in_bounds_iff {s : BusState} {r : Router} {allMsg : Fin msgBufferSize}
    {rest : List (Fin msgBufferSize)} (inv : BusInv s r (allMsg :: rest))
    (keys : KeysInBounds r.registry) (calls : List BusCall) :
    Machine.AtEveryReturn busCall InBounds s calls ↔ MessagesWellFormed r calls := by
  have start : InBounds s [] := by
    constructor
    · rw [inv.clients]
      exact keys
    · simp
  induction calls generalizing s r rest with
  | nil =>
    rw [Machine.atEveryReturn_nil]
    exact ⟨fun _ => trivial, fun _ => start⟩
  | cons c calls ih =>
    unfold MessagesWellFormed
    cases routed : r.call c with
    | none =>
      rw [Machine.atEveryReturn_blocked (busCall_none inv routed)]
      exact ⟨fun _ => trivial, fun _ => start⟩
    | some result =>
      obtain ⟨next, out⟩ := result
      obtain ⟨after, trace, code, effect⟩ := busCall_spec inv routed
      have bounds := call_in_bounds_iff keys routed code effect
      have clients : after.clients = next.registry := effect.inv.clients
      rw [Machine.atEveryReturn_cons code]
      constructor
      · intro kept
        have first := kept.2.start
        have wellFormed := bounds.mp
          ⟨clients ▸ first.keys, first.calls trace (List.mem_singleton_self _)⟩
        obtain ⟨keys', traceOk⟩ := bounds.mpr wellFormed
        refine ⟨wellFormed, (ih effect.inv keys' ?_).mp ?_⟩
        · exact ⟨first.keys, by simp⟩
        · simpa only [inBounds_cons traceOk] using kept.2
      · intro wellFormed
        obtain ⟨keys', traceOk⟩ := bounds.mpr wellFormed.1
        simp only [inBounds_cons traceOk]
        refine ⟨start, (ih effect.inv keys' ?_).mpr wellFormed.2⟩
        exact ⟨clients ▸ keys', by simp⟩

/-- For every sequence of calls on any messages, whatever ZeroMQ calls fail: in every
state reached the keys of the registry are clients, and every lookup in `CLIENTS_IDS`
and every printed category of the calls so far was in bounds, if and only if every
message that is taken is well formed. -/
theorem bus_in_bounds_iff (error : ErrorHandler) (calls : List BusCall) :
    Machine.AtEveryReturn busCall InBounds (BusState.fresh error) calls ↔
      MessagesWellFormed Router.fresh calls := by
  have slots : List.finRange msgBufferSize = 0 :: (List.finRange msgBufferSize).tail := rfl
  have inv := fresh_inv error
  rw [slots] at inv
  apply run_in_bounds_iff inv
  intro id known
  exact absurd rfl known

/-- A message from client 77 to client 78. -/
def strangerCall : BusCall where
  arrived := [⟨ascii "peerxxx", [77 :: 0 :: 0 :: 0 :: 78 :: List.replicate 297 0],
    List.cons_ne_nil _ _⟩]
  env :=
    { stale := zeroMsg
      identityRecv := true
      loopRecv := []
      sends := SendEnv.ok }

/-- One message with ids that are no clients: its source is registered and its
destination looked up. -/
theorem stranger_out_of_bounds :
    (busCall (BusState.fresh ⟨fun _ => false⟩) strangerCall).map
        (fun result => (result.1.clients 77, result.2.neverRegistered)) =
      some (some (ascii "peerxxx"), some 78) ∧
    ¬ Machine.AtEveryReturn busCall InBounds (BusState.fresh ⟨fun _ => false⟩) [strangerCall] := by
  have returned : (busCall (BusState.fresh ⟨fun _ => false⟩) strangerCall).map
      (fun result => (result.1.clients 77, result.2.neverRegistered)) =
        some (some (ascii "peerxxx"), some 78) := by decide +kernel
  refine ⟨returned, fun bounds => ?_⟩
  obtain ⟨⟨after, trace⟩, code, shown⟩ := Option.map_eq_some_iff.mp returned
  have registered : after.clients 77 = some (ascii "peerxxx") := congrArg Prod.fst shown
  rw [Machine.atEveryReturn_cons code] at bounds
  have client : IsClient 77 :=
    bounds.2.start.keys 77 (ne_of_eq_of_ne registered (Option.some_ne_none _))
  revert client
  decide

end FifthD.Guarantees.BusBounds
