import FifthD.Guarantees.BusStep

/-!
# The slots of the bus

`_handle_msg` gives its slot back through a scope guard, on every path;
`_send_message` gives its own back on its last line only. So a run returns every
slot exactly when all three sends succeed for every message that is passed on.
-/
namespace FifthD.Guarantees.BusSlots

open FifthD.Library FifthD.Source FifthD.Spec SlotPool BusStep

/-- No slot is held after a call, and no call so far was refused one. -/
structure SlotsBack (s : BusState) (traces : List HandleTrace) : Prop where
  free : s.msgBuffer.usedCount = 0
  handled : ∀ trace ∈ traces, trace.slotNull = false
  forwarded : ∀ trace ∈ traces, ∀ f, trace.forward = some f → f.slot ≠ none

/-- Every time the router passes a message on, all three sends succeed. A call that
waits for ever ends the run. -/
def SendsSucceed (r : Router) : List BusCall → Prop
  | [] => True
  | c :: rest =>
    match r.call c with
    | none => True
    | some (next, out) =>
      (out.forward.isSome = true → c.env.sends = SendEnv.ok) ∧ SendsSucceed next rest

/-- The pool between two calls, with all slots free. -/
structure Idle (s : BusState) (r : Router) (allMsg replay : Fin msgBufferSize)
    (rest : List (Fin msgBufferSize)) : Prop where
  inv : BusInv s r (allMsg :: replay :: rest)
  all : (allMsg :: replay :: rest).length = msgBufferSize

theorem Idle.usedCount_eq {s : BusState} {r : Router} {allMsg replay : Fin msgBufferSize}
    {rest : List (Fin msgBufferSize)} (idle : Idle s r allMsg replay rest) :
    s.msgBuffer.usedCount = 0 := by
  have count := idle.inv.pool.count
  have all := idle.all
  omega

theorem Idle.back {s : BusState} {r : Router} {allMsg replay : Fin msgBufferSize}
    {rest : List (Fin msgBufferSize)} (idle : Idle s r allMsg replay rest) : SlotsBack s [] := by
  constructor
  · exact idle.usedCount_eq
  · simp
  · simp

/-- One call with its sends succeeding: all slots are back. -/
theorem call_returns_slots {s : BusState} {r next : Router} {out : Routed}
    {allMsg replay : Fin msgBufferSize} {rest : List (Fin msgBufferSize)}
    (idle : Idle s r allMsg replay rest) {c : BusCall} (routed : r.call c = some (next, out))
    (sends : out.forward.isSome = true → c.env.sends = SendEnv.ok) :
    ∃ after trace, busCall s c = some (after, trace) ∧ Idle after next allMsg replay rest ∧
      trace.slotNull = false ∧ ∀ f, trace.forward = some f → f.slot ≠ none := by
  obtain ⟨after, trace, code, effect⟩ := busCall_spec idle.inv routed
  refine ⟨after, trace, code, ⟨?_, idle.all⟩, effect.slotNull, ?_⟩
  · have inv := effect.inv
    split at inv
    · next passed =>
      rw [sends passed] at inv
      simpa only [afterSend, if_true] using inv
    · exact inv
  · intro f forwarded
    rw [effect.slot f forwarded, List.head?_cons]
    exact Option.some_ne_none replay

/-- One call with a failing send: its slot is gone. -/
theorem call_loses_slot {s : BusState} {r next : Router} {out : Routed}
    {allMsg replay : Fin msgBufferSize} {rest : List (Fin msgBufferSize)}
    (idle : Idle s r allMsg replay rest) {c : BusCall} (routed : r.call c = some (next, out))
    (passed : out.forward.isSome = true) (fails : c.env.sends ≠ SendEnv.ok) :
    ∃ after trace, busCall s c = some (after, trace) ∧ after.msgBuffer.usedCount = 1 := by
  obtain ⟨after, trace, code, effect⟩ := busCall_spec idle.inv routed
  refine ⟨after, trace, code, ?_⟩
  have count := effect.inv.pool.count
  have all := idle.all
  simp only [passed, if_true, afterSend, fails, if_false, List.length_cons] at count all
  omega

/-- A call in front that was handed its slots changes nothing of what is asked. -/
theorem slotsBack_cons {s : BusState} {trace : HandleTrace} (null : trace.slotNull = false)
    (slot : ∀ f, trace.forward = some f → f.slot ≠ none) (traces : List HandleTrace) :
    SlotsBack s (trace :: traces) ↔ SlotsBack s traces := by
  constructor
  · intro back
    exact ⟨back.free, (List.forall_mem_cons.mp back.handled).2,
      (List.forall_mem_cons.mp back.forwarded).2⟩
  · intro back
    exact ⟨back.free, List.forall_mem_cons.mpr ⟨null, back.handled⟩,
      List.forall_mem_cons.mpr ⟨slot, back.forwarded⟩⟩

/-- The first call that fails decides; up to there all slots are back. -/
theorem slots_back_iff {s : BusState} {r : Router} {allMsg replay : Fin msgBufferSize}
    {rest : List (Fin msgBufferSize)} (idle : Idle s r allMsg replay rest)
    (calls : List BusCall) :
    Machine.AtEveryReturn busCall SlotsBack s calls ↔ SendsSucceed r calls := by
  induction calls generalizing s r with
  | nil =>
    rw [Machine.atEveryReturn_nil]
    exact ⟨fun _ => trivial, fun _ => idle.back⟩
  | cons c calls ih =>
    unfold SendsSucceed
    cases routed : r.call c with
    | none =>
      rw [Machine.atEveryReturn_blocked (busCall_none idle.inv routed)]
      exact ⟨fun _ => trivial, fun _ => idle.back⟩
    | some result =>
      obtain ⟨next, out⟩ := result
      by_cases sends : out.forward.isSome = true → c.env.sends = SendEnv.ok
      · obtain ⟨after, trace, code, idle', null, slot⟩ := call_returns_slots idle routed sends
        have tail := ih idle'
        rw [Machine.atEveryReturn_cons code]
        simp only [slotsBack_cons null slot]
        rw [tail]
        exact ⟨fun both => ⟨sends, both.2⟩, fun both => ⟨idle.back, both.2⟩⟩
      · obtain ⟨passed, fails⟩ := Classical.not_imp.mp sends
        obtain ⟨after, trace, code, lost⟩ := call_loses_slot idle routed passed fails
        rw [Machine.atEveryReturn_cons code]
        refine ⟨fun back => ?_, fun kept => absurd kept.1 sends⟩
        have free := back.2.start.free
        omega

theorem fresh_idle (error : ErrorHandler) :
    Idle (BusState.fresh error) Router.fresh 0 1 ((List.finRange msgBufferSize).drop 2) :=
  ⟨fresh_inv error, by decide⟩

/-- For every sequence of calls, whatever messages arrive and whatever ZeroMQ calls
fail: every return of `_handle_msg` leaves all slots free, with no call ever refused
a slot, exactly when the three sends succeed for every message passed on. -/
theorem bus_returns_slots_iff (error : ErrorHandler) (calls : List BusCall) :
    Machine.AtEveryReturn busCall SlotsBack (BusState.fresh error) calls ↔
      SendsSucceed Router.fresh calls :=
  slots_back_iff (fresh_idle error) calls

/-- A client that sends a message to itself while the bus cannot send. -/
def unsentCall : BusCall where
  arrived := [zeroFromManager]
  env :=
    { stale := zeroMsg
      identityRecv := true
      loopRecv := []
      sends := ⟨false, true, true⟩ }

/-- One failed send and a slot is still in use when `_handle_msg` returns. -/
theorem failed_send_loses_slot :
    ∃ after traces,
      Machine.run busCall (BusState.fresh ⟨fun _ => false⟩) [unsentCall] = some (after, traces) ∧
      after.msgBuffer.usedCount = 1 ∧ ¬ SlotsBack after traces := by
  have routed : (Router.fresh.call unsentCall).map (fun result => result.2.forward.isSome) =
      some true := by decide +kernel
  obtain ⟨⟨next, out⟩, routed, passed⟩ := Option.map_eq_some_iff.mp routed
  obtain ⟨after, trace, code, lost⟩ :=
    call_loses_slot (fresh_idle ⟨fun _ => false⟩) routed passed (by decide)
  refine ⟨after, [trace], Machine.run_singleton_iff.mpr ⟨trace, code, rfl⟩, lost, ?_⟩
  intro back
  have free := back.free
  omega

end FifthD.Guarantees.BusSlots
