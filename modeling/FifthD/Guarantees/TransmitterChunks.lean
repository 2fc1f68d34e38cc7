import FifthD.Guarantees.TransmitterFraming

/-!
# The payload on the wire

A `_send` on a transmitter with an identity, after any earlier calls. The chunk loop moves
three quantities together: the payload that is left, its length, and a flag computed before
the length is decreased. The chunks are the payload, whatever its length, and a send that
fails cuts them off right there.
-/
namespace FifthD.Guarantees.TransmitterChunks

open FifthD.Library FifthD.Library.Framing FifthD.Source SlotPool TransmitterFraming

/-- Frames that carry a payload: full chunks with the flag, then one chunk of at least a byte
without it. -/
structure Carries (data : Bytes) (chunks : List (Bytes × Bool)) : Prop where
  contents : (chunks.map Prod.fst).flatten = data
  shape : ∃ (front : List Bytes) (last : Bytes),
    chunks = (front.map fun chunk => (chunk, true)) ++ [(last, false)] ∧
    (∀ chunk ∈ front, chunk.length = sizeofIpcMsg) ∧ 1 ≤ last.length ∧ last.length ≤ sizeofIpcMsg

/-- The chunks of the loop carry the payload. -/
theorem chunkFrames_carries {data : Bytes} (payload : data.length ≠ 0) :
    Carries data (chunkFrames data) := by
  fun_induction chunkFrames data with
  | case1 data empty => exact absurd empty payload
  | case2 data _ ih =>
    by_cases large : DEFAULT_DATA_CHUNK < data.length
    · have more : (data.drop DEFAULT_DATA_CHUNK).length ≠ 0 := by
        rw [List.length_drop]
        omega
      obtain ⟨contents, front, last, later, full, some, small⟩ := ih more
      constructor
      · rw [List.map_cons, List.flatten_cons, contents, List.take_append_drop]
      · refine ⟨data.take DEFAULT_DATA_CHUNK :: front, last, ?_, ?_, some, small⟩
        · rw [later, decide_eq_true large]
          rfl
        · rw [List.forall_mem_cons]
          exact ⟨List.length_take_of_le large.le, full⟩
    · have small : data.length ≤ DEFAULT_DATA_CHUNK := Nat.le_of_not_lt large
      have whole : data.take DEFAULT_DATA_CHUNK = data := List.take_of_length_le small
      have none_left : chunkFrames (data.drop DEFAULT_DATA_CHUNK) = [] := by
        rw [List.drop_eq_nil_iff.mpr small, chunkFrames]
        rfl
      rw [none_left, whole, decide_eq_false large]
      constructor
      · exact List.append_nil data
      · exact ⟨[], data, rfl, List.forall_mem_nil _, Nat.one_le_iff_ne_zero.mpr payload, small⟩

/-- What one `_send` does with the chunks of its payload. -/
structure SendsChunks (t : Transmitter) (c : SendCall) (chunks : List (Bytes × Bool))
    (after : Transmitter) (trace : SendTrace) : Prop where
  wire : after.sock.wire = t.sock.wire ++ trace.frames
  complete : Succeed c.outcomes (2 + chunks.length) →
    trace.ret = .ok () ∧ ∃ identity empty, trace.frames = identity :: empty :: chunks
  cut : ∀ k, k < chunks.length → Succeed c.outcomes (2 + k) → c.outcomes[2 + k]? = some false →
    trace.ret ≠ .ok () ∧ ∃ identity empty, trace.frames = identity :: empty :: chunks.take k

theorem sendOnce_chunks {t : Transmitter} {allMsg : Fin msgBufferSize}
    {rest : List (Fin msgBufferSize)} (inv : PoolInv t.msgBuffer (allMsg :: rest))
    (named : t.identity ≠ []) (c : SendCall) :
    ∃ after trace, t.sendOnce c.outcomes c.data = some (after, trace) ∧
      SendsChunks t c (chunkFrames c.data) after trace := by
  obtain ⟨after, trace, code, effect⟩ := sendOnce_spec inv c
  have frames := effect.frames
  rw [if_neg named] at frames
  have count (n : Nat) : 2 + n = n + 1 + 1 := by omega
  refine ⟨after, trace, code, ?_, ?_, ?_⟩
  · rw [effect.sock]
  · intro succeed
    rw [count] at succeed
    rw [accepted_all succeed] at frames
    exact ⟨effect.ret.mpr ⟨named, succeed⟩, _, _, frames⟩
  · intro k within succeed fails
    constructor
    · intro ok
      refine not_succeed_of_fail fails ?_ (effect.ret.mp ok).2
      rw [count]
      exact Nat.add_lt_add_right within 2
    · rw [accepted_fail succeed fails, count] at frames
      exact ⟨_, _, frames⟩

/-- For every transmitter with an identity, after any earlier calls with any failing sends,
and every payload of at least one byte: the payload is cut into full chunks with the flag
and a last one without; a `_send` in which all sends succeed returns Ok and emits exactly
these behind the identity and the empty frame, and one in which the send of a chunk is the
first to fail returns an error and emits exactly the chunks before it. -/
theorem chunked_send_loses_nothing (identity : Bytes) (named : identity ≠ [])
    (error poolError : ErrorHandler) (past : List SendCall) :
    ∃ t outs, Machine.run Transmitter.send
        (Transmitter.fresh identity error poolError) past = some (t, outs) ∧
      ∀ data, data.length ≠ 0 → ∃ chunks, Carries data chunks ∧ ∀ outcomes,
        ∃ after trace, t.sendOnce outcomes data = some (after, trace) ∧
          SendsChunks t ⟨data, outcomes⟩ chunks after trace := by
  obtain ⟨t, outs, ran, inv, same⟩ := send_run (fresh_pool identity error poolError) past
  have named' : t.identity ≠ [] := by
    rw [same]
    exact named
  refine ⟨t, outs, ran, fun data payload => ?_⟩
  refine ⟨chunkFrames data, chunkFrames_carries payload, fun outcomes => ?_⟩
  exact sendOnce_chunks inv named' ⟨data, outcomes⟩

/-- A payload of 303 bytes behind a failed call: two chunks, the last of one byte. -/
theorem one_byte_over :
    ∃ t outs, Machine.run Transmitter.send
        (Transmitter.fresh (ascii "manager") ⟨fun _ => false⟩ ⟨fun _ => false⟩)
        [⟨[7], [true, false]⟩] = some (t, outs) ∧
      ∃ chunks, Carries (List.replicate 303 1) chunks ∧ ∀ outcomes,
        ∃ after trace, t.sendOnce outcomes (List.replicate 303 1) = some (after, trace) ∧
          SendsChunks t ⟨List.replicate 303 1, outcomes⟩ chunks after trace := by
  obtain ⟨t, outs, ran, sends⟩ := chunked_send_loses_nothing (ascii "manager") (by decide)
    ⟨fun _ => false⟩ ⟨fun _ => false⟩ [⟨[7], [true, false]⟩]
  have payload : (List.replicate 303 (1 : UInt8)).length ≠ 0 := by
    rw [List.length_replicate]
    decide
  exact ⟨t, outs, ran, sends _ payload⟩

end FifthD.Guarantees.TransmitterChunks
