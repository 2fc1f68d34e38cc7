import FifthD.Guarantees.TransmitterSenders

/-!
# A send by itself

A `_send` taken apart is the `_send` of one thread when no other thread takes a step in
between: the same frames, the same slot given back and the same result.
-/
namespace FifthD.Guarantees.SenderAlone

open FifthD.Library FifthD.Source SlotPool TransmitterFraming TransmitterSenders

variable {Thread : Type*} [DecidableEq Thread] {s : Senders Thread} {p : Thread}
  {t : Transmitter} {sending : Sending}

/-- Steps of one thread up to the end of its `_send`, and its result. -/
inductive Alone (p : Thread) (ret : VoidResult) (final : Senders Thread) : Senders Thread → Prop
  | last {s : Senders Thread} {c : SenderStep Thread} (own : actor c = p)
    (ends : s.step c = some (final, some (p, ret))) : Alone p ret final s
  | more {s next : Senders Thread} {c : SenderStep Thread} (own : actor c = p)
    (stepped : s.step c = some (next, none)) (later : Alone p ret final next) : Alone p ret final s

/-- Such steps are a run. -/
theorem Alone.run {ret : VoidResult} {final : Senders Thread} (alone : Alone p ret final s) :
    ∃ steps outs, (∀ c ∈ steps, actor c = p) ∧
      Machine.run Senders.step s steps = some (final, outs ++ [some (p, ret)]) := by
  induction alone with
  | @last s c own ends =>
    refine ⟨[c], [], ?_, Machine.run_singleton_iff.mpr ⟨_, ends, rfl⟩⟩
    simpa using own
  | @more s next c own stepped _ ih =>
    obtain ⟨steps, outs, owns, ran⟩ := ih
    refine ⟨c :: steps, none :: outs, ?_, ?_⟩
    · exact List.forall_mem_cons.mpr ⟨own, owns⟩
    · exact Machine.run_cons_iff.mpr ⟨next, none, _, stepped, ran, rfl⟩

/-! ## Moves of one thread -/

/-- With a payload left the loop goes on. -/
theorem loop_eq {i : Fin msgBufferSize} {data : Bytes} (payload : data.length ≠ 0) :
    Sending.loop i data = .chunk i data := if_neg payload

theorem move_move (s : Senders Thread) (p : Thread) (t t' : Transmitter) (x y : Sending) :
    (s.move p t x).move p t' y = s.move p t' y := by
  simp only [Senders.move, Function.update_idem]

theorem threads_move (s : Senders Thread) (p : Thread) (t : Transmitter) (x : Sending) :
    (s.move p t x).threads p = x := by
  simp only [Senders.move, Function.update_self]

theorem move_same (s : Senders Thread) (p : Thread) :
    s.move p s.transmitter (s.threads p) = s := by
  simp only [Senders.move, Function.update_eq_self]

theorem transmitter_move (s : Senders Thread) (p : Thread) (t : Transmitter) (x : Sending) :
    (s.move p t x).transmitter = t := rfl

theorem sent_sent (t : Transmitter) (i : Fin msgBufferSize) (slot slot' : ZMQAllMsg)
    (sock sock' : Socket) : (t.sent i slot sock).sent i slot' sock' = t.sent i slot' sock' := by
  simp only [Transmitter.sent, ManagedBuffer.setData, Function.update_idem, Function.update_self]

@[simp] theorem sent_data (t : Transmitter) (i : Fin msgBufferSize) (slot : ZMQAllMsg)
    (sock : Socket) : (t.sent i slot sock).msgBuffer.data i = slot := by
  simp only [Transmitter.sent, setData_data, Function.update_self]

@[simp] theorem sent_sock (t : Transmitter) (i : Fin msgBufferSize) (slot : ZMQAllMsg)
    (sock : Socket) : (t.sent i slot sock).sock = sock := rfl

theorem sent_same (t : Transmitter) (i : Fin msgBufferSize) :
    t.sent i (t.msgBuffer.data i) t.sock = t := by
  simp only [Transmitter.sent, ManagedBuffer.setData, ManagedBuffer.data, Function.update_eq_self]

/-! ## The call, step by step -/

section Call

variable {i : Fin msgBufferSize} {after : Transmitter} {ret : VoidResult}

/-- The scope guard ends the call. -/
theorem leaving_alone {allMsg : Option (Fin msgBufferSize)}
    (leaving : s.threads p = .leaving allMsg ret)
    (cleanup : s.transmitter.bufferCleanup allMsg = some after) :
    Alone p ret (s.move p after .idle) s := by
  refine .last (rfl : actor (.releaseSlot p) = p) ?_
  simp only [Senders.step, leaving, cleanup, Option.map_some]

/-- Behind a move of the thread the rest of its call counts. -/
theorem Alone.move {c : SenderStep Thread} (own : actor c = p)
    (stepped : s.step c = some (s.move p t sending, none))
    (later : Alone p ret ((s.move p t sending).move p after .idle) (s.move p t sending)) :
    Alone p ret (s.move p after .idle) s := by
  rw [move_move] at later
  exact .more own stepped later

/-- A `zmq_msg_send` that a thread is before is a step of it. -/
theorem step_of_transmit {before : Sending} {succeeds : Bool} (phase : s.threads p = before)
    (transmitted : Senders.transmit s.transmitter succeeds before = some (t, sending)) :
    s.step (.zmqMsgSend p succeeds) = some (s.move p t sending, none) := by
  simp only [Senders.step, phase, transmitted]

/-- What `get_slot` leads to is a step too. -/
theorem step_of_acquire {data : Bytes} (phase : s.threads p = .checked data)
    (acquired : Senders.acquire s.transmitter data = (t, sending)) :
    s.step (.getSlot p) = some (s.move p t sending, none) := by
  simp only [Senders.step, phase, acquired]

/-- The chunk loop, round by round. -/
theorem chunks_alone {outcomes : List Bool} {data : Bytes} {msg msg' : ZmqMsg}
    {sock sock' : Socket} {trace : SendTrace}
    (sends : sendChunks outcomes data msg sock = (msg', sock', trace))
    (loop : s.threads p = .loop i data) (held : (s.transmitter.msgBuffer.data i).msg = msg)
    (wire : s.transmitter.sock = sock)
    (cleanup : (s.transmitter.sent i { s.transmitter.msgBuffer.data i with msg := msg' }
      sock').bufferCleanup (some i) = some after) :
    Alone p trace.ret (s.move p after .idle) s := by
  fun_induction sendChunks outcomes data msg sock generalizing s trace with
  | case1 outcomes data msg sock empty =>
    cases sends
    subst held wire
    rw [sent_same] at cleanup
    refine leaving_alone ?_ cleanup
    rw [loop, Sending.loop, if_pos empty]
  | case2 outcomes data msg sock payload min chunk copy more sent =>
    rename_i sock₁ first
    cases sends
    subst held wire
    have code : Senders.transmit s.transmitter (outcomes.headD true) (.chunk i data) =
        some (s.transmitter.sent i
          { s.transmitter.msgBuffer.data i with msg := zmqMsgClose sent } sock',
          .leaving (some i) (err .FAIL_SEND_FRAME "Failed to send chunk of data")) := by
      rw [Senders.transmit, Transmitter.sendChunk, first]
      rfl
    have phase : s.threads p = .chunk i data := loop.trans (loop_eq payload)
    exact .move rfl (step_of_transmit phase code) (leaving_alone (threads_move _ _ _ _) cleanup)
  | case3 outcomes data msg sock payload min chunk copy more rc sent =>
    rename_i sock₁ first good msg₁ sock₂ later rest ih
    cases sends
    subst held wire
    have code : Senders.transmit s.transmitter (outcomes.headD true) (.chunk i data) =
        some (s.transmitter.sent i
          { s.transmitter.msgBuffer.data i with msg := zmqMsgClose sent } sock₁,
          .loop i (data.drop min)) := by
      rw [Senders.transmit, Transmitter.sendChunk, first]
      simp only [if_neg good]
      rfl
    have left : (s.transmitter.sent i
        { s.transmitter.msgBuffer.data i with msg := zmqMsgClose sent } sock₁).msgBuffer.data i =
        { s.transmitter.msgBuffer.data i with msg := zmqMsgClose sent } := sent_data _ _ _ _
    have tail := ih rest (threads_move s p (s.transmitter.sent i
        { s.transmitter.msgBuffer.data i with msg := zmqMsgClose sent } sock₁) _)
      (congrArg ZMQAllMsg.msg left) rfl
    rw [transmitter_move, left, sent_sent] at tail
    have phase : s.threads p = .chunk i data := loop.trans (loop_eq payload)
    exact .move rfl (step_of_transmit phase code) (tail cleanup)

/-- The two outcomes of the first two sends. -/
theorem sendIdentity_fail (t : Transmitter) (i : Fin msgBufferSize) (data : Bytes) :
    let slot := t.msgBuffer.data i
    t.sendIdentity false i data =
      (t.sent i { slot with identity := ⟨memcpy slot.identity.data t.identity⟩ } t.sock,
        .leaving (some i) (err .FAIL_SEND_FRAME "Failed to send identity frame")) := by
  rw [Transmitter.sendIdentity, zmqMsgSend_fail]
  rfl

theorem sendIdentity_ok (t : Transmitter) (i : Fin msgBufferSize) (data : Bytes) :
    let slot := t.msgBuffer.data i
    t.sendIdentity true i data =
      (t.sent i { slot with identity := ⟨[]⟩ } { t.sock with
          wire := t.sock.wire ++ [(memcpy slot.identity.data t.identity, true)] },
        .empty i data) := by
  rw [Transmitter.sendIdentity, zmqMsgSend_ok]
  simp only [sizeRc_ne_neg_one, if_false]

theorem sendEmpty_fail (t : Transmitter) (i : Fin msgBufferSize) (data : Bytes) :
    t.sendEmpty false i data =
      (t, .leaving (some i) (err .FAIL_SEND_FRAME "Failed to send empty frame")) := by
  have same := sent_same t i
  rw [Transmitter.sendEmpty, zmqMsgSend_fail]
  simp only [if_true, same]

theorem sendEmpty_ok (t : Transmitter) (i : Fin msgBufferSize) (data : Bytes) :
    let slot := t.msgBuffer.data i
    t.sendEmpty true i data =
      (t.sent i { slot with empty := ⟨[]⟩ } { t.sock with
          wire := t.sock.wire ++ [(slot.empty.data, true)] },
        .loop i data) := by
  rw [Transmitter.sendEmpty, zmqMsgSend_ok]
  simp only [sizeRc_ne_neg_one, if_false]

/-- The frames of a `_send`, one by one. -/
theorem frames_alone {outcomes : List Bool} {data : Bytes} {slot : ZMQAllMsg} {sock : Socket}
    {trace : SendTrace}
    (sends : sendFrames outcomes s.transmitter.identity data (s.transmitter.msgBuffer.data i)
      s.transmitter.sock = (slot, sock, trace))
    (identity : s.threads p = .identity i data)
    (cleanup : (s.transmitter.sent i slot sock).bufferCleanup (some i) = some after) :
    Alone p trace.ret (s.move p after .idle) s := by
  cases first : outcomes.headD true with
  | false =>
    simp only [sendFrames, first, zmqMsgSend_fail, if_true] at sends
    cases sends
    have code := congrArg some (sendIdentity_fail s.transmitter i data)
    exact .move rfl (step_of_transmit identity code) (leaving_alone (threads_move _ _ _ _) cleanup)
  | true =>
    simp only [sendFrames, first, zmqMsgSend_ok, sizeRc_ne_neg_one, if_false] at sends
    refine .move rfl
      (step_of_transmit identity (congrArg some (sendIdentity_ok s.transmitter i data))) ?_
    cases second : outcomes.tail.headD true with
    | false =>
      simp only [second, zmqMsgSend_fail, if_true] at sends
      cases sends
      exact .move rfl
        (step_of_transmit (threads_move _ _ _ _) (congrArg some (sendEmpty_fail _ i data)))
        (leaving_alone (threads_move _ _ _ _) cleanup)
    | true =>
      simp only [second, zmqMsgSend_ok, sizeRc_ne_neg_one, if_false] at sends
      generalize rest : sendChunks outcomes.tail.tail data _ _ = result at sends
      obtain ⟨msg', sock', chunks⟩ := result
      cases sends
      refine .move rfl
        (step_of_transmit (threads_move _ _ _ _) (congrArg some (sendEmpty_ok _ i data))) ?_
      change Alone p chunks.ret _ _
      refine chunks_alone rest (threads_move _ _ _ _) ?_ ?_ ?_
      · simp only [transmitter_move, sent_data]
      · simp only [transmitter_move, sent_data, sent_sock]
      · simpa only [transmitter_move, sent_data, sent_sent] using cleanup

/-- A call that ends behind `get_slot`. -/
theorem refused_alone {allMsg : Option (Fin msgBufferSize)} {data : Bytes}
    (phase : s.threads p = .checked data)
    (acquired : Senders.acquire s.transmitter data = (t, .leaving allMsg ret))
    (cleanup : t.bufferCleanup allMsg = some after) : Alone p ret (s.move p after .idle) s :=
  .move rfl (step_of_acquire phase acquired) (leaving_alone (threads_move _ _ _ _) cleanup)

/-- The whole call. -/
theorem idle_alone {outcomes : List Bool} {data : Bytes} {trace : SendTrace}
    (idle : s.threads p = .idle)
    (code : s.transmitter.sendOnce outcomes data = some (after, trace)) :
    Alone p trace.ret (s.move p after .idle) s := by
  unfold Transmitter.sendOnce at code
  split at code
  · next full =>
    cases code
    refine .last (rfl : actor (.isFull p data) = p) ?_
    rw [← idle, move_same]
    simp only [Senders.step, idle, full, if_true]
  · next room =>
    have first : s.step (.isFull p data) = some (s.move p s.transmitter (.checked data), none) := by
      simp only [Senders.step, idle, if_neg room]
    refine .move rfl first ?_
    split at code
    · next buffer none_left =>
      obtain ⟨t, cleanup, same⟩ := Option.map_eq_some_iff.mp code
      cases same
      have acquired : Senders.acquire s.transmitter data =
          ({ s.transmitter with msgBuffer := buffer },
            .leaving none (err .MANAGE_BUFF_MONKEY "IDK what happen :/" (some .MEDIUM))) := by
        rw [Senders.acquire, none_left]
      exact refused_alone (threads_move _ _ _ _) acquired cleanup
    · next allMsg buffer got =>
      split at code
      · next unnamed =>
        obtain ⟨t, cleanup, same⟩ := Option.map_eq_some_iff.mp code
        cases same
        have acquired : Senders.acquire s.transmitter data =
            ({ s.transmitter with msgBuffer := buffer },
              .leaving (some allMsg) (err .INVALID_IDENTITY "Identity is empty")) := by
          rw [Senders.acquire, got]
          simp only [if_pos unnamed]
        exact refused_alone (threads_move _ _ _ _) acquired cleanup
      · next named =>
        obtain ⟨t, cleanup, same⟩ := Option.map_eq_some_iff.mp code
        cases same
        have acquired : Senders.acquire s.transmitter data =
            ({ s.transmitter with msgBuffer := buffer }, .identity allMsg data) := by
          rw [Senders.acquire, got]
          simp only [if_neg named]
        exact .move rfl (step_of_acquire (threads_move _ _ _ _) acquired)
          (frames_alone rfl (threads_move _ _ _ _) cleanup)

end Call

/-- A `_send` during which no other thread takes a step does what `_send` does. -/
theorem sendOnce_alone {after : Transmitter} {outcomes : List Bool} {data : Bytes}
    {trace : SendTrace} (idle : s.threads p = .idle)
    (code : s.transmitter.sendOnce outcomes data = some (after, trace)) :
    ∃ steps outs, (∀ c ∈ steps, actor c = p) ∧
      Machine.run Senders.step s steps =
        some (s.move p after .idle, outs ++ [some (p, trace.ret)]) :=
  (idle_alone idle code).run

end FifthD.Guarantees.SenderAlone
