import FifthD.Guarantees.TransmitterFraming
import FifthD.Source.Senders

/-!
# Threads that send at the same time

Any number of threads in `_send`, in any interleaving and with any sends failing. Between
`is_full` and `get_slot` another thread may take the last slot; then `get_slot` gives null,
and the scope guard passes a pointer to null to `release_slot`. The slots in use are always
those that the threads hold, each by one thread.
-/
namespace FifthD.Guarantees.TransmitterSenders

open FifthD.Library FifthD.Source SlotPool TransmitterFraming

variable {Thread : Type*}

/-- The slot that each thread holds. -/
def slots (s : Senders Thread) : Thread → Option (Fin msgBufferSize) := fun p => (s.threads p).slot

/-- The slots in use are those of the threads, and who has none to give back has failed. -/
structure Held (s : Senders Thread) (stack : List (Fin msgBufferSize)) (holders : Finset Thread) :
    Prop where
  pool : PoolInv s.transmitter.msgBuffer stack
  owners : FreeList.Owners stack (slots s) holders
  count : s.transmitter.msgBuffer.usedCount = holders.card
  failed : ∀ p ret, s.threads p = .leaving none ret → isErr ret = true

theorem fresh_held (identity : Bytes) (error poolError : ErrorHandler) :
    Held (Senders.fresh identity error poolError : Senders Thread) (List.finRange msgBufferSize)
      ∅ := by
  constructor
  · exact init_inv initAllmsg poolError
  · constructor
    · exact fun i => iff_of_true (List.mem_finRange i) fun _ => nofun
    · exact fun _ _ _ => nofun
    · exact fun p => ⟨nofun, fun other => absurd rfl other⟩
  · rfl
  · exact fun _ _ => nofun

variable [DecidableEq Thread] {s next : Senders Thread} {stack : List (Fin msgBufferSize)}
  {holders : Finset Thread} {p : Thread} {t : Transmitter} {sending : Sending}

/-! ## What a step of one thread may do -/

theorem slots_move (s : Senders Thread) (p : Thread) (t : Transmitter) (sending : Sending) :
    slots (s.move p t sending) = Function.update (slots s) p sending.slot :=
  Function.comp_update Sending.slot s.threads p sending

/-- Who leaves without a slot leaves with an error. -/
theorem Held.move_failed (held : Held s stack holders)
    (failed : ∀ ret, sending = .leaving none ret → isErr ret = true) (q : Thread)
    (ret : VoidResult) (leaves : (s.move p t sending).threads q = .leaving none ret) :
    isErr ret = true := by
  unfold Senders.move at leaves
  by_cases same : q = p
  · subst same
    exact failed ret ((Function.update_self q sending s.threads).symm.trans leaves)
  · exact held.failed q ret ((Function.update_of_ne same sending s.threads).symm.trans leaves)

/-- A thread goes on with the slot it has, or without one. -/
theorem Held.keep (held : Held s stack holders) (pool : PoolInv t.msgBuffer stack)
    (count : t.msgBuffer.usedCount = s.transmitter.msgBuffer.usedCount)
    (same : sending.slot = slots s p)
    (failed : ∀ ret, sending = .leaving none ret → isErr ret = true) :
    Held (s.move p t sending) stack holders := by
  refine ⟨pool, ?_, count.trans held.count, held.move_failed failed⟩
  rw [slots_move, same, Function.update_eq_self]
  exact held.owners

/-- A thread without a slot gets the top one. -/
theorem Held.take {i : Fin msgBufferSize} (held : Held s (i :: stack) holders)
    (pool : PoolInv t.msgBuffer stack)
    (count : t.msgBuffer.usedCount = s.transmitter.msgBuffer.usedCount + 1)
    (without : slots s p = none) (got : sending.slot = some i) :
    Held (s.move p t sending) stack (insert p holders) := by
  have top := (List.nodup_cons.mp held.pool.threads.nodup).1
  refine ⟨pool, ?_, ?_, held.move_failed ?_⟩
  · rw [slots_move, got]
    exact held.owners.take top without
  · rw [held.owners.card_take without, ← held.count]
    exact count
  · rintro ret rfl
    cases got

/-- A thread gives its slot back. -/
theorem Held.give {i : Fin msgBufferSize} (held : Held s stack holders)
    (pool : PoolInv t.msgBuffer (i :: stack))
    (count : t.msgBuffer.usedCount + 1 = s.transmitter.msgBuffer.usedCount)
    (has : slots s p = some i) : Held (s.move p t .idle) (i :: stack) (holders.erase p) := by
  refine ⟨pool, ?_, ?_, held.move_failed fun _ => nofun⟩
  · rw [slots_move]
    exact held.owners.give has
  · have fewer := held.owners.card_give has
    rw [← held.count, ← count] at fewer
    exact (Nat.succ.inj fewer).symm

/-! ## The steps -/

/-- What `get_slot` leads to: with no slot left an error, and nothing is changed; else the
top slot. -/
theorem acquire_cases (pool : PoolInv t.msgBuffer stack) (data : Bytes) :
    (stack = [] ∧ ∃ e, Senders.acquire t data = (t, .leaving none (.error e))) ∨
      ∃ i rest buffer, stack = i :: rest ∧ PoolInv buffer rest ∧
        buffer.usedCount = t.msgBuffer.usedCount + 1 ∧
        (Senders.acquire t data).1 = { t with msgBuffer := buffer } ∧
        (Senders.acquire t data).2.slot = some i := by
  unfold Senders.acquire
  cases stack with
  | nil =>
    rw [getSlot_nil pool]
    exact .inl ⟨rfl, _, rfl⟩
  | cons i rest =>
    obtain ⟨buffer, got, taken⟩ := getSlot_cons pool
    rw [got]
    refine .inr ⟨i, rest, buffer, rfl, taken.inv, taken.usedCount, rfl, ?_⟩
    dsimp only
    split <;> rfl

/-- A thread goes on with its slot. -/
theorem loop_slot (allMsg : Fin msgBufferSize) (data : Bytes) :
    (Sending.loop allMsg data).slot = some allMsg := by
  unfold Sending.loop
  split <;> rfl

/-- A `zmq_msg_send` keeps the slot of its thread, and touches no more of the pool than the
frames in it. -/
theorem transmit_keeps {next : Transmitter} {succeeds : Bool} {before after : Sending}
    (transmitted : Senders.transmit t succeeds before = some (next, after)) :
    ∃ i slot, before.slot = some i ∧ after.slot = some i ∧
      next.msgBuffer = t.msgBuffer.setData i slot := by
  cases before with
  | idle => cases transmitted
  | checked data => cases transmitted
  | leaving allMsg ret => cases transmitted
  | identity allMsg data =>
    cases succeeds with
    | true =>
      cases transmitted
      exact ⟨allMsg, _, rfl, rfl, rfl⟩
    | false =>
      cases transmitted
      exact ⟨allMsg, _, rfl, rfl, rfl⟩
  | empty allMsg data =>
    cases succeeds with
    | true =>
      cases transmitted
      exact ⟨allMsg, _, rfl, loop_slot allMsg data, rfl⟩
    | false =>
      cases transmitted
      exact ⟨allMsg, _, rfl, rfl, rfl⟩
  | chunk allMsg data =>
    cases succeeds with
    | true =>
      cases transmitted
      exact ⟨allMsg, _, rfl, loop_slot allMsg _, rfl⟩
    | false =>
      cases transmitted
      exact ⟨allMsg, _, rfl, rfl, rfl⟩

/-- The scope guard takes the slot of its thread back. -/
theorem Held.cleanup {i : Fin msgBufferSize} (held : Held s stack holders)
    (has : slots s p = some i) :
    ∃ t, s.transmitter.bufferCleanup (some i) = some t ∧
      Held (s.move p t .idle) (i :: stack) (holders.erase p) := by
  have off : i ∉ stack := fun free => (held.owners.free i).mp free p has
  obtain ⟨buffer, code, pool, _⟩ := bufferCleanup_spec held.pool off
  refine ⟨_, code, held.give pool ?_ has⟩
  have before := held.pool.count
  have after := pool.count
  rw [List.length_cons] at after
  dsimp only
  omega

/-- The scope guard of a thread without a slot changes nothing. -/
theorem cleanup_null (t : Transmitter) : t.bufferCleanup none = some t := rfl

/-- The thread whose step it is. -/
def actor : SenderStep Thread → Thread
  | .isFull p _ | .getSlot p | .zmqMsgSend p _ | .releaseSlot p => p

/-- A thread that has no slot before a step and none behind it has left the pool alone, and
failed if it is through. -/
def LeavesPool (s : Senders Thread) (c : SenderStep Thread) (next : Senders Thread)
    (out : Option (Thread × VoidResult)) : Prop :=
  slots s (actor c) = none → slots next (actor c) = none →
    next.transmitter.msgBuffer = s.transmitter.msgBuffer ∧
      ∀ p ret, out = some (p, ret) → isErr ret = true

omit [DecidableEq Thread] in
/-- A thread that has a slot cannot leave the pool alone for want of one. -/
theorem leavesPool_of_slot {c : SenderStep Thread} {i : Fin msgBufferSize}
    (has : slots s (actor c) = some i ∨ slots next (actor c) = some i)
    (out : Option (Thread × VoidResult)) : LeavesPool s c next out := by
  intro before after
  rcases has with has | has
  · cases before.symm.trans has
  · cases after.symm.trans has

section Step

variable {data : Bytes} {succeeds : Bool} {out : Option (Thread × VoidResult)}

theorem isFull_held (held : Held s stack holders)
    (stepped : s.step (.isFull p data) = some (next, out)) :
    (∃ stack' holders', Held next stack' holders') ∧ LeavesPool s (.isFull p data) next out := by
  unfold Senders.step at stepped
  dsimp only at stepped
  split at stepped
  · next idle =>
    split at stepped
    · cases stepped
      refine ⟨⟨stack, holders, held⟩, fun _ _ => ⟨rfl, ?_⟩⟩
      rintro p ret same
      cases same
      rfl
    · cases stepped
      have without : slots s p = none := congrArg Sending.slot idle
      refine ⟨⟨stack, holders, held.keep held.pool rfl without.symm fun _ => nofun⟩, ?_⟩
      exact fun _ _ => ⟨rfl, fun _ _ => nofun⟩
  · cases stepped

theorem getSlot_held (held : Held s stack holders)
    (stepped : s.step (.getSlot p) = some (next, out)) :
    (∃ stack' holders', Held next stack' holders') ∧ LeavesPool s (.getSlot p) next out := by
  unfold Senders.step at stepped
  dsimp only at stepped
  split at stepped
  · next data checked =>
    have without : slots s p = none := congrArg Sending.slot checked
    rcases acquire_cases held.pool data with
      ⟨_, e, code⟩ | ⟨i, rest, buffer, top, pool, count, code, got⟩
    · rw [code] at stepped
      cases stepped
      refine ⟨⟨stack, holders, held.keep held.pool rfl without.symm ?_⟩, ?_⟩
      · intro ret same
        cases same
        rfl
      · exact fun _ _ => ⟨rfl, fun _ _ => nofun⟩
    · cases stepped
      subst top
      rw [code]
      have has : slots (s.move p { s.transmitter with msgBuffer := buffer }
          (Senders.acquire s.transmitter data).2) p = some i := by
        rw [slots_move, Function.update_self]
        exact got
      exact ⟨⟨rest, _, held.take pool count without got⟩, leavesPool_of_slot (.inr has) none⟩
  · cases stepped

theorem zmqMsgSend_held (held : Held s stack holders)
    (stepped : s.step (.zmqMsgSend p succeeds) = some (next, out)) :
    (∃ stack' holders', Held next stack' holders') ∧
      LeavesPool s (.zmqMsgSend p succeeds) next out := by
  unfold Senders.step at stepped
  dsimp only at stepped
  split at stepped
  · next t sending transmitted =>
    cases stepped
    obtain ⟨i, slot, before, after, buffer⟩ := transmit_keeps transmitted
    have pool : PoolInv t.msgBuffer stack := by
      rw [buffer]
      exact held.pool.setData i slot
    have count : t.msgBuffer.usedCount = s.transmitter.msgBuffer.usedCount := by rw [buffer]; rfl
    refine ⟨⟨stack, holders, held.keep pool count (after.trans before.symm) ?_⟩, ?_⟩
    · rintro ret rfl
      cases after
    · have has : slots s p = some i := before
      exact leavesPool_of_slot (.inl has) none
  · cases stepped

theorem releaseSlot_held (held : Held s stack holders)
    (stepped : s.step (.releaseSlot p) = some (next, out)) :
    (∃ stack' holders', Held next stack' holders') ∧ LeavesPool s (.releaseSlot p) next out := by
  unfold Senders.step at stepped
  dsimp only at stepped
  split at stepped
  · next allMsg ret leaving =>
    have has : slots s p = allMsg := congrArg Sending.slot leaving
    cases allMsg with
    | none =>
      rw [cleanup_null] at stepped
      cases stepped
      refine ⟨⟨stack, holders, held.keep held.pool rfl has.symm fun _ => nofun⟩, ?_⟩
      refine fun _ _ => ⟨rfl, ?_⟩
      rintro q ret same
      cases same
      exact held.failed p ret leaving
    | some i =>
      obtain ⟨t, code, given⟩ := held.cleanup has
      rw [code] at stepped
      cases stepped
      exact ⟨⟨_, _, given⟩, leavesPool_of_slot (.inl has) _⟩
  · cases stepped

end Step

/-- Every step keeps the slots with the threads. -/
theorem step_held (held : Held s stack holders) {c : SenderStep Thread}
    {out : Option (Thread × VoidResult)} (stepped : s.step c = some (next, out)) :
    (∃ stack' holders', Held next stack' holders') ∧ LeavesPool s c next out := by
  cases c with
  | isFull p data => exact isFull_held held stepped
  | getSlot p => exact getSlot_held held stepped
  | zmqMsgSend p succeeds => exact zmqMsgSend_held held stepped
  | releaseSlot p => exact releaseSlot_held held stepped

/-- A thread in `_send` can always go on: no release aborts. -/
theorem goes_on (held : Held s stack holders) (busy : s.threads p ≠ .idle) :
    ∃ c, actor c = p ∧ (s.step c).isSome = true := by
  cases phase : s.threads p with
  | idle => exact absurd phase busy
  | checked data => exact ⟨.getSlot p, rfl, by simp only [Senders.step, phase, Option.isSome_some]⟩
  | identity allMsg data =>
    exact ⟨.zmqMsgSend p true, rfl, by
      simp only [Senders.step, phase, Senders.transmit, Option.isSome_some]⟩
  | empty allMsg data =>
    exact ⟨.zmqMsgSend p true, rfl, by
      simp only [Senders.step, phase, Senders.transmit, Option.isSome_some]⟩
  | chunk allMsg data =>
    exact ⟨.zmqMsgSend p true, rfl, by
      simp only [Senders.step, phase, Senders.transmit, Option.isSome_some]⟩
  | leaving allMsg ret =>
    refine ⟨.releaseSlot p, rfl, ?_⟩
    simp only [Senders.step, phase, Option.isSome_map]
    have has : slots s p = allMsg := congrArg Sending.slot phase
    cases allMsg with
    | none => rfl
    | some i =>
      obtain ⟨t, code, _⟩ := held.cleanup has
      rw [code, Option.isSome_some]

/-! ## Whole runs -/

/-- No two threads hold one slot, the pool counts those that hold one, so none when no thread
is in `_send`; a thread that finds no slot leaves the pool as it is and fails; and every
thread can go on. -/
structure SlotsRight (s : Senders Thread) : Prop where
  apart : ∀ p q i, slots s p = some i → slots s q = some i → p = q
  count : ∃ holders : Finset Thread, (∀ p, p ∈ holders ↔ slots s p ≠ none) ∧
    s.transmitter.msgBuffer.usedCount = holders.card
  idle : (∀ p, s.threads p = .idle) → s.transmitter.msgBuffer.usedCount = 0
  without : ∀ c next out, s.step c = some (next, out) → LeavesPool s c next out
  goesOn : ∀ p, s.threads p ≠ .idle → ∃ c, actor c = p ∧ (s.step c).isSome = true

theorem Held.right (held : Held s stack holders) : SlotsRight s := by
  constructor
  · exact held.owners.apart
  · exact ⟨holders, held.owners.members, held.count⟩
  · intro idle
    have nobody : holders = ∅ := by
      rw [Finset.eq_empty_iff_forall_notMem]
      intro p member
      exact (held.owners.members p).mp member (congrArg Sending.slot (idle p))
    rw [held.count, nobody, Finset.card_empty]
  · exact fun _ _ _ stepped => (step_held held stepped).2
  · exact fun _ busy => goes_on held busy

/-- For any threads that send through one transmitter, in every interleaving of their steps,
with any payloads and any outcome of each ZeroMQ call: in every state no two sends hold the
same slot, `used_count` is the number of sends between a successful `get_slot` and their
release, and a send that finds no slot returns an error and leaves the pool unchanged. -/
theorem senders_hold_apart (identity : Bytes) (error poolError : ErrorHandler)
    (steps : List (SenderStep Thread)) :
    Machine.AtEveryReturn Senders.step (fun s _ => SlotsRight s)
      (Senders.fresh identity error poolError : Senders Thread) steps := by
  refine Machine.atEveryReturn_of_kept (fun s _ => ∃ stack holders, Held s stack holders) ?_ ?_
    ⟨_, _, fresh_held identity error poolError⟩ steps
  · rintro s outs c next out ⟨stack, holders, held⟩ stepped
    exact (step_held held stepped).1
  · rintro s outs ⟨stack, holders, held⟩
    exact held.right

end FifthD.Guarantees.TransmitterSenders
