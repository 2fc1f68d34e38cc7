import FifthD.Guarantees.BusForward
import FifthD.Guarantees.BusTrace
import FifthD.Library.History

/-!
# How long the bus lasts

One slot of the pool belongs to `_handle_msg`, the nine others to `_send_message`, which
keeps its slot whenever a send fails. A slot's frames hold a message only once. So what a
forward comes to depends on the forwards before it alone: on how many of them failed, and on
whether the last one did. A copy past a frame destroys what lies behind it, so what is said of
a forward is said of the code as long as no copy before it went past its frame.
-/
namespace FifthD.Guarantees.BusLifetime

open FifthD.Library FifthD.Source FifthD.Spec SlotPool BusStep BusForward BusTrace

/-- The slots that `_send_message` can get. -/
def sendSlots : Nat := msgBufferSize - 1

/-- The calls of `_send_message` of a run. -/
def forwards (traces : List HandleTrace) : List Forward := traces.filterMap HandleTrace.forward

/-- How many of them reported an error. -/
def failures (forwards : List Forward) : Nat := forwards.countP fun f => isErr f.ret

/-- The slot that the next forward gets was not used yet: no forward so far, or the last one
failed. -/
def unused (earlier : List Forward) : Bool := earlier.getLast?.all fun f => isErr f.ret

instance (f : Forward) : Decidable (Delivered f) :=
  decidable_of_iff
    (f.frames = [(f.identity, true), ([], true), (f.msg.bytes, false)] ∧
      ∀ copy ∈ f.copies, copy.InBounds)
    ⟨fun both => ⟨both.1, both.2⟩, fun delivered => ⟨delivered.frames, delivered.copies⟩⟩

@[simp] theorem failures_snoc (earlier : List Forward) (f : Forward) :
    failures (earlier ++ [f]) = failures earlier + if isErr f.ret then 1 else 0 := by
  simp only [failures, List.countP_append, List.countP_singleton]

@[simp] theorem unused_snoc (earlier : List Forward) (f : Forward) :
    unused (earlier ++ [f]) = isErr f.ret := by
  simp only [unused, List.getLast?_concat, Option.all_some]

/-! ## The free slots -/

/-- The frames of the free slots: only those in front may have been used. -/
def Frames (clean : Bool) (data : Fin msgBufferSize → ZMQAllMsg) :
    List (Fin msgBufferSize) → Prop
  | [] => True
  | replay :: rest =>
    data replay = (if clean then initAllmsg else spent initAllmsg) ∧
      ∀ j ∈ rest, data j = initAllmsg

/-- Slots that nothing was sent from since the constructor. -/
theorem frames_of_clean {data : Fin msgBufferSize → ZMQAllMsg} {stack : List (Fin msgBufferSize)}
    (clean : ∀ j ∈ stack, data j = initAllmsg) : Frames true data stack := by
  cases stack with
  | nil => trivial
  | cons replay rest =>
    exact ⟨clean replay List.mem_cons_self, fun j member => clean j (List.mem_cons_of_mem _ member)⟩

theorem Frames.congr {clean : Bool} {data data' : Fin msgBufferSize → ZMQAllMsg}
    {stack : List (Fin msgBufferSize)} (frames : Frames clean data stack)
    (same : ∀ j ∈ stack, data' j = data j) : Frames clean data' stack := by
  cases stack with
  | nil => trivial
  | cons replay rest =>
    refine ⟨(same replay List.mem_cons_self).trans frames.1, ?_⟩
    intro j member
    exact (same j (List.mem_cons_of_mem replay member)).trans (frames.2 j member)

/-- A copy of the call goes past the frame it is made into. -/
def Overruns (f : Forward) : Prop := ∃ copy ∈ f.copies, ¬ copy.InBounds

/-- The bytes of the identity frame that the next forward gets. -/
def identityRoom (earlier : List Forward) : Nat := if unused earlier then identityFrameSize else 0

/-- What a forward comes to, from the forwards before it. -/
structure Fate (earlier : List Forward) (f : Forward) : Prop where
  slot : f.slot = none ↔ failures earlier = sendSlots
  dropped : f.frames = [] ∧ f.ret = .ok () ↔ failures earlier = sendSlots
  whole : Delivered f ↔ f.ret = .ok () ∧ f.slot ≠ none ∧
    f.identity.length = identityFrameSize ∧ unused earlier = true
  overruns : Overruns f ↔ f.slot ≠ none ∧ (identityRoom earlier < f.identity.length ∨
    unused earlier = false ∧ 2 ≤ f.frames.length)

/-- Copies into a slot that was not used yet, or is used up: the routing id may be too long,
and no message fits an emptied frame. -/
theorem overruns_copies {f : Forward} {clean : Bool} {identity : Bytes}
    (copies : f.copies =
      copiesInto (if clean then initAllmsg else spent initAllmsg) identity f.frames.length) :
    Overruns f ↔ (if clean then identityFrameSize else 0) < identity.length ∨
      clean = false ∧ 2 ≤ f.frames.length := by
  unfold Overruns
  rw [copies]
  cases clean <;> by_cases more : 2 ≤ f.frames.length <;>
    simp [copiesInto, more, FrameCopy.InBounds, initAllmsg, spent, zmqMsgInitSize, ZmqMsg.size,
      sizeofIpcMsg]

theorem not_delivered_short {f : Forward} (short : f.frames.length < 3) : ¬ Delivered f := by
  intro delivered
  rw [delivered.frames] at short
  simp at short

/-- One forward: its fate, and the free slots that are left with their frames. -/
theorem sent_fate {env : SendEnv} {msg : IpcMsg} {identity : Bytes}
    {before after : Fin msgBufferSize → ZMQAllMsg} {stack : List (Fin msgBufferSize)}
    {forward : Forward} {earlier : List Forward}
    (sent : Sent env msg identity before after stack forward)
    (count : stack.length + failures earlier = sendSlots)
    (frames : Frames (unused earlier) before stack) :
    Fate earlier forward ∧
      (afterSend env stack).length + failures (earlier ++ [forward]) = sendSlots ∧
      Frames (unused (earlier ++ [forward])) after (afterSend env stack) := by
  cases sent with
  | dropped =>
    rw [List.length_nil, Nat.zero_add] at count
    refine ⟨⟨by simp [dropped, count], by simp [dropped, count], ?_,
      by simp [dropped, Overruns]⟩, ?_, trivial⟩
    · have short : ¬ Delivered (dropped msg identity) := not_delivered_short (by simp [dropped])
      exact iff_of_false short (by simp [dropped])
    · simp [afterSend, dropped, isErr, count]
  | sent replay rest ok used others =>
    have left : afterSend env (replay :: rest) = replay :: rest := by rw [ok, afterSend_ok]
    have room : failures earlier ≠ sendSlots := by
      rw [List.length_cons] at count
      omega
    refine ⟨⟨by simp [forwardFrom, room], by simp [forwardFrom, room], ?_, ?_⟩, ?_, ?_⟩
    · have own := frames.1
      cases clean : unused earlier with
      | true =>
        rw [clean, if_pos rfl] at own
        rw [own, delivered_clean_iff]
        simp [forwardFrom]
      | false =>
        rw [clean, if_neg (by simp)] at own
        rw [own]
        simp [not_delivered_spent]
    · have copies : (forwardFrom replay (before replay) msg identity).copies =
          copiesInto (if unused earlier then initAllmsg else spent initAllmsg) identity 3 := by
        rw [frames.1]
        rfl
      rw [overruns_copies copies]
      simp [forwardFrom, identityRoom]
    · rw [left]
      simpa [forwardFrom, isErr] using count
    · rw [left]
      refine ⟨?_, fun j member => (others j member).trans (frames.2 j member)⟩
      have own := frames.1
      rw [used, own]
      cases unused earlier <;> simp [forwardFrom, isErr, spent]
  | failed replay rest forward fails slot ret short target copies others =>
    have left : afterSend env (replay :: rest) = rest := by simp only [afterSend, if_neg fails]
    have room : failures earlier ≠ sendSlots := by
      rw [List.length_cons] at count
      omega
    have error : forward.ret ≠ .ok () := by
      intro ok
      rw [ok] at ret
      cases ret
    refine ⟨⟨by simp [slot, room], by simp [error, room], ?_, ?_⟩, ?_, ?_⟩
    · simp [not_delivered_short short, error]
    · rw [frames.1] at copies
      rw [overruns_copies copies, target]
      simp [slot, identityRoom]
    · rw [left, failures_snoc, if_pos ret]
      rw [List.length_cons] at count
      omega
    · rw [left, unused_snoc, ret]
      exact frames_of_clean fun j member => (others j member).trans (frames.2 j member)

/-! ## Whole runs -/

/-- The bus between two calls, after given ones. -/
structure Worn (s : BusState) (past : List HandleTrace) (r : Router) (allMsg : Fin msgBufferSize)
    (stack : List (Fin msgBufferSize)) : Prop where
  inv : BusInv s r (allMsg :: stack)
  count : stack.length + failures (forwards past) = sendSlots
  frames : Frames (unused (forwards past)) s.msgBuffer.data stack
  handled : ∀ trace ∈ past, trace.slotNull = false
  fates : Throughout Fate (forwards past)

theorem fresh_worn (error : ErrorHandler) :
    Worn (BusState.fresh error) [] Router.fresh 0 ((List.finRange msgBufferSize).drop 1) where
  inv := fresh_inv error
  count := by decide
  frames := frames_of_clean fun _ _ => rfl
  handled := by simp
  fates := throughout_nil Fate

theorem forwards_snoc (past : List HandleTrace) (trace : HandleTrace) :
    forwards (past ++ [trace]) = forwards past ++ trace.forward.toList := by
  unfold forwards
  rw [List.filterMap_append]
  cases forwarded : trace.forward with
  | none => simp [forwarded]
  | some f => simp [forwarded]

/-- A call that returns wears the bus by at most one slot. -/
theorem call_wears {s next : BusState} {past : List HandleTrace} {r : Router}
    {allMsg : Fin msgBufferSize} {stack : List (Fin msgBufferSize)}
    (worn : Worn s past r allMsg stack) {c : BusCall} {trace : HandleTrace}
    (returned : busCall s c = some (next, trace)) :
    ∃ r' stack', Worn next (past ++ [trace]) r' allMsg stack' := by
  cases routed : r.call c with
  | none =>
    rw [busCall_none worn.inv routed] at returned
    cases returned
  | some result =>
    obtain ⟨r', out⟩ := result
    obtain ⟨after, trace', code, effect, passed, _⟩ := busCall_passed worn.inv routed
    cases returned.symm.trans code
    have handled : ∀ t ∈ past ++ [trace], t.slotNull = false := by
      intro t member
      rcases List.mem_append.mp member with early | last
      · exact worn.handled t early
      · rw [List.mem_singleton.mp last]
        exact effect.slotNull
    have inv := effect.inv
    have history := forwards_snoc past trace
    cases hout : out.forward with
    | none =>
      rw [hout] at passed inv
      generalize hforward : trace.forward = forwarded at passed
      cases passed with
      | nothing others =>
        rw [hforward, Option.toList_none, List.append_nil] at history
        refine ⟨r', stack, inv, ?_, ?_, handled, ?_⟩
        · rw [history]
          exact worn.count
        · rw [history]
          exact worn.frames.congr others
        · rw [history]
          exact worn.fates
    | some sent =>
      rw [hout] at passed inv
      generalize hforward : trace.forward = forwarded at passed
      cases passed with
      | on route msg forward sent =>
        rw [hforward, Option.toList_some] at history
        obtain ⟨fate, count, frames⟩ := sent_fate sent worn.count worn.frames
        refine ⟨r', afterSend c.env.sends stack, inv, ?_, ?_, handled, ?_⟩
        · rw [history]
          exact count
        · rw [history]
          exact frames
        · rw [history, throughout_snoc]
          exact ⟨worn.fates, fate⟩

theorem run_worn (error : ErrorHandler) {calls : List BusCall} {s : BusState}
    {traces : List HandleTrace}
    (ran : Machine.run busCall (BusState.fresh error) calls = some (s, traces)) :
    ∃ r allMsg stack, Worn s traces r allMsg stack := by
  have kept : ∀ {s : BusState} {past : List HandleTrace} {c : BusCall} {next : BusState}
      {trace : HandleTrace}, (∃ r allMsg stack, Worn s past r allMsg stack) →
      busCall s c = some (next, trace) →
      ∃ r allMsg stack, Worn next (past ++ [trace]) r allMsg stack := by
    intro s past c next trace ⟨_, allMsg, _, worn⟩ returned
    obtain ⟨r', stack', worn'⟩ := call_wears worn returned
    exact ⟨r', allMsg, stack', worn'⟩
  have start : ∃ r allMsg stack, Worn (BusState.fresh error) [] r allMsg stack :=
    ⟨_, _, _, fresh_worn error⟩
  exact @Machine.run_keeps _ _ _ busCall
    (fun s past => ∃ r allMsg stack, Worn s past r allMsg stack) kept _ _ [] _ _ start ran

/-- How many of the forwards are whole. -/
def wholes (forwards : List Forward) : Nat := forwards.countP fun f => decide (Delivered f)

theorem wholes_snoc (earlier : List Forward) (f : Forward) :
    wholes (earlier ++ [f]) = wholes earlier + if Delivered f then 1 else 0 := by
  simp only [wholes, List.countP_append, List.countP_singleton, decide_eq_true_eq]

/-- Every whole message but the one the next slot is good for has used up a slot that a
failure then took away. -/
theorem wholes_le {history : List Forward} (fates : Throughout Fate history)
    (bound : failures history ≤ sendSlots) :
    wholes history + (if unused history then 1 else 0) ≤ failures history + 1 ∧
      wholes history ≤ sendSlots := by
  induction history using List.reverseRecOn with
  | nil => simp [wholes, failures, unused]
  | append_singleton earlier f ih =>
    obtain ⟨before, fate⟩ := (throughout_snoc Fate earlier f).mp fates
    rw [failures_snoc] at bound
    obtain ⟨paid, most⟩ := ih before (Nat.le_of_add_right_le bound)
    rw [failures_snoc, wholes_snoc, unused_snoc]
    by_cases whole : Delivered f
    · obtain ⟨ret, slot, _, clean⟩ := fate.whole.mp whole
      have room : failures earlier ≠ sendSlots := fun full => slot (fate.slot.mpr full)
      have good : isErr f.ret = false := by rw [ret]; rfl
      rw [clean, if_pos rfl] at paid
      rw [if_pos whole, good]
      simp only [good, Bool.false_eq_true, if_false] at bound ⊢
      omega
    · rw [if_neg whole]
      split at paid <;> split <;> omega

/-- In every run of the bus, whatever arrives and whatever fails, at most nine messages ever
go out whole, and at most one more than sends have failed. -/
theorem at_most_nine_whole (error : ErrorHandler) (calls : List BusCall) :
    Machine.AtEveryReturn busCall
      (fun _ traces => wholes (forwards traces) ≤ failures (forwards traces) + 1 ∧
        wholes (forwards traces) ≤ 9)
      (BusState.fresh error) calls := by
  intro past later s traces _ ran
  obtain ⟨r, allMsg, stack, worn⟩ := run_worn error ran
  have count := worn.count
  obtain ⟨paid, most⟩ := wholes_le worn.fates (by omega)
  exact ⟨by omega, most⟩

/-- A call for a message of 302 bytes with given ids from a given link. -/
def callFrom (routingId : Bytes) (srcId distId : UInt8) (sends : SendEnv) : BusCall where
  arrived := [⟨routingId, [srcId :: 0 :: 0 :: 0 :: distId :: List.replicate 297 0],
    List.cons_ne_nil _ _⟩]
  env := { stale := zeroMsg, identityRecv := true, loopRecv := [], sends }

/-- Nine are reached, and no tenth, when the slot that a message of the manager has used up
goes with a failed send to a peer whose routing id is empty. No copy goes past a frame. -/
example :
    (Machine.run busCall (BusState.fresh ⟨fun _ => false⟩)
      (callFrom [] 1 3 SendEnv.ok :: (List.replicate 10 [callFrom (ascii "manager") 0 0 SendEnv.ok,
        callFrom [] 1 1 ⟨false, true, true⟩]).flatten)).map
        (fun result => (wholes (forwards result.2), failures (forwards result.2),
          (forwards result.2).all fun f => f.copies.all fun copy => decide copy.InBounds)) =
      some (9, 9, true) := by
  decide +kernel

end FifthD.Guarantees.BusLifetime
