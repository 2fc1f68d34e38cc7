import FifthD.Guarantees.SlotPool
import FifthD.Library.Framing
import FifthD.Source.Transmitter

/-!
# The frames of the transmitter

One specification lemma for the chunk loop, the frames and a whole `_send`. A call
is meant to put identity, empty frame and chunks on the wire as one message; the
flag of the last chunk is all that closes it. So a payload without chunks and a
failure behind the first frame leave the message open, and the next call of `send`
continues it.
-/
namespace FifthD.Guarantees.TransmitterFraming

open FifthD.Library FifthD.Library.Framing FifthD.Source SlotPool

/-! ## The chunk loop -/

/-- The chunks of a payload, each with the flag it is sent with. -/
def chunkFrames (data : Bytes) : List (Bytes × Bool) :=
  if data.length = 0 then []
  else
    (data.take DEFAULT_DATA_CHUNK, decide (DEFAULT_DATA_CHUNK < data.length)) ::
      chunkFrames (data.drop DEFAULT_DATA_CHUNK)
termination_by data.length
decreasing_by
  simp only [List.length_drop, DEFAULT_DATA_CHUNK, sizeofIpcMsg]
  omega

/-- Only the last chunk goes without the flag. -/
theorem chunkFrames_shape {data : Bytes} (payload : data.length ≠ 0) :
    ∃ (contents : List Bytes) (last : Bytes), chunkFrames data =
      (contents.map fun content => (content, true)) ++ [(last, false)] := by
  fun_induction chunkFrames data with
  | case1 data empty => exact absurd empty payload
  | case2 data _ ih =>
    by_cases large : DEFAULT_DATA_CHUNK < data.length
    · have more : (data.drop DEFAULT_DATA_CHUNK).length ≠ 0 := by
        rw [List.length_drop]
        omega
      obtain ⟨contents, last, later⟩ := ih more
      refine ⟨data.take DEFAULT_DATA_CHUNK :: contents, last, ?_⟩
      rw [later, decide_eq_true large]
      rfl
    · have none_left : data.drop DEFAULT_DATA_CHUNK = [] :=
        List.drop_eq_nil_iff.mpr (Nat.le_of_not_lt large)
      refine ⟨[], data.take DEFAULT_DATA_CHUNK, ?_⟩
      rw [none_left, decide_eq_false large, chunkFrames]
      rfl

/-- One round of the loop: a frame of the right size is filled and sent. -/
theorem sendChunks_round (outcomes : List Bool) {data : Bytes} (payload : data.length ≠ 0)
    (msg : ZmqMsg) (sock : Socket) :
    let chunk := data.take DEFAULT_DATA_CHUNK
    let more := decide (DEFAULT_DATA_CHUNK < data.length)
    let copy : FrameCopy := ⟨chunk.length, chunk.length⟩
    let later := sendChunks outcomes.tail (data.drop DEFAULT_DATA_CHUNK) zmqMsgInit
      { sock with wire := sock.wire ++ [(chunk, more)] }
    sendChunks outcomes data msg sock =
      if outcomes.headD true then
        (later.1, later.2.1,
          { copies := copy :: later.2.2.copies
            frames := (chunk, more) :: later.2.2.frames
            ret := later.2.2.ret })
      else
        (zmqMsgInit, sock,
          { copies := [copy], ret := err .FAIL_SEND_FRAME "Failed to send chunk of data" }) := by
  intro chunk more copy later
  have size : min data.length DEFAULT_DATA_CHUNK = chunk.length := by
    simp only [chunk, List.length_take, Nat.min_comm]
  have front : data.take chunk.length = chunk := by
    simp only [chunk, List.length_take, ← List.take_eq_take_min]
  have back : data.drop chunk.length = data.drop DEFAULT_DATA_CHUNK := by
    rw [← size]
    rcases Nat.le_total data.length DEFAULT_DATA_CHUNK with small | large
    · rw [Nat.min_eq_left small, List.drop_length, List.drop_eq_nil_iff.mpr small]
    · rw [Nat.min_eq_right large]
  have flag : decide (chunk.length < data.length) = more := by
    simp only [more, decide_eq_decide]
    omega
  have filled : memcpy (zmqMsgInitSize chunk.length).data chunk = chunk :=
    memcpy_eq_of_length (by simp [zmqMsgInitSize])
  have frameSize : (zmqMsgInitSize chunk.length).size = chunk.length := by
    simp [ZmqMsg.size, zmqMsgInitSize]
  rw [sendChunks, if_neg payload]
  simp only [size, front, back, flag, filled, frameSize]
  cases outcomes.headD true with
  | true => simp only [zmqMsgSend_ok, sizeRc_ne_neg_one, if_false, if_true]; rfl
  | false => simp only [zmqMsgSend_fail, if_true, Bool.false_eq_true, if_false]; rfl

/-- The loop sends the chunks up to the first failure, and succeeds without one. -/
theorem sendChunks_spec (outcomes : List Bool) (data : Bytes) (msg : ZmqMsg) (sock : Socket) :
    ∃ msg' trace, sendChunks outcomes data msg sock =
        (msg', { sock with wire := sock.wire ++ trace.frames }, trace) ∧
      trace.frames = accepted outcomes (chunkFrames data) ∧
      (trace.ret = .ok () ↔ Succeed outcomes (chunkFrames data).length) := by
  fun_induction chunkFrames data generalizing outcomes msg sock with
  | case1 data empty =>
    refine ⟨msg, { ret := .ok () }, ?_, rfl, by simp⟩
    rw [sendChunks, if_pos empty, List.append_nil]
  | case2 data payload ih =>
    have round := sendChunks_round outcomes payload msg sock
    obtain ⟨msg', later, rest, frames, ret⟩ := ih outcomes.tail zmqMsgInit
      { sock with
        wire := sock.wire ++
          [(data.take DEFAULT_DATA_CHUNK, decide (DEFAULT_DATA_CHUNK < data.length))] }
    simp only [rest, List.append_assoc, List.cons_append, List.nil_append] at round
    rw [round, List.length_cons, succeed_succ, accepted, ← frames]
    cases outcomes.headD true with
    | true =>
      simp only [if_true, true_and]
      exact ⟨msg', { copies := _, frames := _, ret := later.ret }, rfl, rfl, ret⟩
    | false =>
      simp only [Bool.false_eq_true, if_false, false_and, iff_false]
      refine ⟨zmqMsgInit, _, Prod.ext rfl (Prod.ext ?_ rfl), rfl, ?_⟩
      · simp
      · simp [err]

/-! ## One call -/

/-- The frames a `_send` is meant to put on the wire. -/
def meantFrames (slot : ZMQAllMsg) (identity data : Bytes) : List (Bytes × Bool) :=
  (memcpy slot.identity.data identity, true) :: (slot.empty.data, true) :: chunkFrames data

/-- What a call leaves in its slot: each of the first two frames keeps its size or
is empty. -/
structure SlotLeft (slot after : ZMQAllMsg) : Prop where
  identity : after.identity.size = slot.identity.size ∨ after.identity.size = 0
  empty : after.empty.size = slot.empty.size ∨ after.empty.size = 0

/-- The frames of a call are those meant, up to its first failed send. -/
theorem sendFrames_spec (outcomes : List Bool) (identity data : Bytes) (slot : ZMQAllMsg)
    (sock : Socket) :
    ∃ slot' trace, sendFrames outcomes identity data slot sock =
        (slot', { sock with wire := sock.wire ++ trace.frames }, trace) ∧
      SlotLeft slot slot' ∧
      trace.frames = accepted outcomes (meantFrames slot identity data) ∧
      (trace.ret = .ok () ↔ Succeed outcomes (meantFrames slot identity data).length) := by
  unfold meantFrames
  simp only [sendFrames, List.length_cons, succeed_succ, accepted]
  let copy : FrameCopy := ⟨slot.identity.size, identity.length⟩
  cases outcomes.headD true with
  | false =>
    simp only [zmqMsgSend_fail, if_true, Bool.false_eq_true, if_false, false_and, iff_false]
    refine ⟨{ slot with identity := ⟨memcpy slot.identity.data identity⟩ },
      { copies := [copy], ret := err .FAIL_SEND_FRAME "Failed to send identity frame" },
      ?_, ⟨Or.inl (memcpy_length _ _), Or.inl rfl⟩, rfl, ?_⟩
    · rw [List.append_nil]
    · simp [err]
  | true =>
    simp only [zmqMsgSend_ok, sizeRc_ne_neg_one, if_false, if_true, true_and]
    cases outcomes.tail.headD true with
    | false =>
      simp only [zmqMsgSend_fail, if_true, Bool.false_eq_true, if_false, false_and, iff_false]
      refine ⟨{ slot with identity := ⟨[]⟩ },
        { copies := [copy]
          frames := [(memcpy slot.identity.data identity, true)]
          ret := err .FAIL_SEND_FRAME "Failed to send empty frame" },
        rfl, ⟨Or.inr rfl, Or.inl rfl⟩, rfl, ?_⟩
      simp [err]
    | true =>
      obtain ⟨msg', chunks, rest, frames, ret⟩ := sendChunks_spec outcomes.tail.tail data slot.msg
        { sock with
          wire := sock.wire ++ [(memcpy slot.identity.data identity, true)] ++
            [(slot.empty.data, true)] }
      simp only [zmqMsgSend_ok, sizeRc_ne_neg_one, if_false, if_true, true_and, rest, ← frames]
      refine ⟨⟨⟨[]⟩, ⟨[]⟩, msg'⟩,
        { copies := copy :: chunks.copies
          frames :=
            (memcpy slot.identity.data identity, true) :: (slot.empty.data, true) :: chunks.frames
          ret := chunks.ret }, ?_, ⟨Or.inr rfl, Or.inr rfl⟩, rfl, ret⟩
      simp only [List.append_assoc, List.cons_append, List.nil_append]
      rfl

/-- The scope guard takes any slot in use back. -/
theorem bufferCleanup_spec {t : Transmitter} {allMsg : Fin msgBufferSize}
    {stack : List (Fin msgBufferSize)} (inv : PoolInv t.msgBuffer stack) (held : allMsg ∉ stack) :
    ∃ buffer, t.bufferCleanup (some allMsg) = some { t with msgBuffer := buffer } ∧
      PoolInv buffer (allMsg :: stack) ∧ buffer.data = t.msgBuffer.data := by
  have busy : t.msgBuffer.inUse allMsg = true := by simpa [inv.mem_iff allMsg] using held
  obtain ⟨freed, released, effect⟩ := releaseSlot_busy inv busy
  exact ⟨freed, by simp only [Transmitter.bufferCleanup, Option.map_some, released], effect.inv,
    effect.data⟩

/-- What one call leaves: the slot is back, the frames it sent are at the end of the
wire, and its result is good when none of its sends failed. -/
structure SendEffect (t : Transmitter) (c : SendCall) (allMsg : Fin msgBufferSize)
    (stack : List (Fin msgBufferSize)) (after : Transmitter) (trace : SendTrace) : Prop where
  identity : after.identity = t.identity
  error : after.error = t.error
  sock : after.sock = { t.sock with wire := t.sock.wire ++ trace.frames }
  pool : PoolInv after.msgBuffer stack
  slot : SlotLeft (t.msgBuffer.data allMsg) (after.msgBuffer.data allMsg)
  frames : trace.frames =
    if t.identity = [] then []
    else accepted c.outcomes (meantFrames (t.msgBuffer.data allMsg) t.identity c.data)
  ret : trace.ret = .ok () ↔ t.identity ≠ [] ∧
    Succeed c.outcomes (meantFrames (t.msgBuffer.data allMsg) t.identity c.data).length

/-- A transmitter with a slot free is not full. -/
theorem room_of_free {t : Transmitter} {allMsg : Fin msgBufferSize}
    {rest : List (Fin msgBufferSize)} (inv : PoolInv t.msgBuffer (allMsg :: rest)) :
    t.msgBuffer.isFull ≠ .ok true := by
  have notFull : t.msgBuffer.usedCount ≠ msgBufferSize := by
    rw [Ne, inv.full_iff]
    exact List.cons_ne_nil allMsg rest
  simp [ManagedBuffer.isFull, notFull]

/-- A `_send` under an identity sends its frames from the top slot, which is back after it. -/
theorem sendOnce_named {t : Transmitter} {allMsg : Fin msgBufferSize}
    {rest : List (Fin msgBufferSize)} (inv : PoolInv t.msgBuffer (allMsg :: rest))
    (named : t.identity ≠ []) (outcomes : List Bool) (data : Bytes) :
    let sent := sendFrames outcomes t.identity data (t.msgBuffer.data allMsg) t.sock
    ∃ buffer, t.sendOnce outcomes data =
        some ({ t with msgBuffer := buffer, sock := sent.2.1 }, sent.2.2) ∧
      PoolInv buffer (allMsg :: rest) ∧ buffer.data allMsg = sent.1 := by
  intro sent
  have held : allMsg ∉ rest := (List.nodup_cons.mp inv.threads.nodup).1
  have isEmpty : t.identity.isEmpty = false := by simpa using named
  obtain ⟨buffer, got, taken⟩ := getSlot_cons inv
  let middle : Transmitter :=
    { t with msgBuffer := buffer.setData allMsg sent.1, sock := sent.2.1 }
  have pool : PoolInv middle.msgBuffer rest := taken.inv.setData allMsg sent.1
  obtain ⟨cleaned, cleanup, pool', data'⟩ := bufferCleanup_spec pool held
  simp only [middle, setData_data] at cleanup data'
  refine ⟨cleaned, ?_, pool', ?_⟩
  · unfold Transmitter.sendOnce
    simp only [if_neg (room_of_free inv), got, isEmpty, Bool.false_eq_true, if_false, taken.data]
    change (Transmitter.bufferCleanup (some allMsg) middle).map _ = _
    rw [cleanup]
    rfl
  · rw [data', Function.update_self]

/-- Every `_send` returns, and gives its slot back on every path. -/
theorem sendOnce_spec {t : Transmitter} {allMsg : Fin msgBufferSize}
    {rest : List (Fin msgBufferSize)} (inv : PoolInv t.msgBuffer (allMsg :: rest)) (c : SendCall) :
    ∃ after trace, t.sendOnce c.outcomes c.data = some (after, trace) ∧
      SendEffect t c allMsg (allMsg :: rest) after trace := by
  by_cases empty : t.identity = []
  · have held : allMsg ∉ rest := (List.nodup_cons.mp inv.threads.nodup).1
    have isEmpty : t.identity.isEmpty = true := by simp [empty]
    obtain ⟨buffer, got, taken⟩ := getSlot_cons inv
    let middle : Transmitter := { t with msgBuffer := buffer }
    have pool : PoolInv middle.msgBuffer rest := taken.inv
    obtain ⟨cleaned, cleanup, pool', data⟩ := bufferCleanup_spec pool held
    simp only [middle] at cleanup data
    unfold Transmitter.sendOnce
    simp only [if_neg (room_of_free inv), got, isEmpty, if_true, cleanup, Option.map_some]
    refine ⟨{ t with msgBuffer := cleaned }, { ret := err .INVALID_IDENTITY "Identity is empty" },
      rfl, rfl, rfl, ?_, pool', ?_, ?_, ?_⟩
    · rw [List.append_nil]
    · rw [data, taken.data]
      exact ⟨Or.inl rfl, Or.inl rfl⟩
    · rw [if_pos empty]
    · simp [err, empty]
  · obtain ⟨slot', trace, sent, left, frames, ret⟩ :=
      sendFrames_spec c.outcomes t.identity c.data (t.msgBuffer.data allMsg) t.sock
    obtain ⟨buffer, code, pool, data⟩ := sendOnce_named inv empty c.outcomes c.data
    rw [sent] at code data
    refine ⟨_, trace, code, rfl, rfl, rfl, pool, ?_, ?_, ?_⟩
    · rw [data]
      exact left
    · rw [if_neg empty]
      exact frames
    · rw [ret]
      exact ⟨fun succeed => ⟨empty, succeed⟩, And.right⟩

/-- `send` returns with `_send`, and with the answer of `handle_error` to a failure. -/
theorem send_of_sendOnce {t after : Transmitter} {c : SendCall} {trace : SendTrace}
    (code : t.sendOnce c.outcomes c.data = some (after, trace)) :
    ∃ answer, t.send c = some (after, answer, trace) := by
  unfold Transmitter.send
  rw [code]
  dsimp only
  cases trace.ret with
  | ok _ => exact ⟨true, rfl⟩
  | error e => exact ⟨after.error.handleError e, rfl⟩

/-- Every call of `send` returns. -/
theorem send_spec {t : Transmitter} {allMsg : Fin msgBufferSize}
    {rest : List (Fin msgBufferSize)} (inv : PoolInv t.msgBuffer (allMsg :: rest)) (c : SendCall) :
    ∃ after answer trace, t.send c = some (after, answer, trace) ∧
      SendEffect t c allMsg (allMsg :: rest) after trace := by
  obtain ⟨after, trace, code, effect⟩ := sendOnce_spec inv c
  obtain ⟨answer, answered⟩ := send_of_sendOnce code
  exact ⟨after, answer, trace, answered, effect⟩

/-! ## Which calls leave no message open -/

/-- A call that puts nothing on the wire, or a whole message: it has no identity, its
first send fails, or there is a payload and none of its sends fails. -/
def Closes (identity : Bytes) (c : SendCall) : Prop :=
  identity = [] ∨ c.outcomes.headD true = false ∨
    c.data ≠ [] ∧ Succeed c.outcomes (2 + (chunkFrames c.data).length)

section Call

variable {t after : Transmitter} {c : SendCall} {allMsg : Fin msgBufferSize}
  {stack : List (Fin msgBufferSize)} {trace : SendTrace}

theorem closed_iff (effect : SendEffect t c allMsg stack after trace) :
    openPart trace.frames = [] ↔ Closes t.identity c := by
  rw [effect.frames]
  unfold Closes
  by_cases noIdentity : t.identity = []
  · simp [noIdentity]
  · rw [if_neg noIdentity]
    unfold meantFrames
    generalize memcpy (t.msgBuffer.data allMsg).identity.data t.identity = identity
    generalize (t.msgBuffer.data allMsg).empty.data = empty
    by_cases payload : c.data.length = 0
    · have noChunks : chunkFrames c.data = [] := by rw [chunkFrames, if_pos payload]
      have noData : c.data = [] := List.length_eq_zero_iff.mp payload
      have more : [(identity, true), (empty, true)] =
          [identity, empty].map fun content => (content, true) := rfl
      rw [noChunks, more, accepted_map]
      simp [openPart, assemble_more, accepted_eq_nil_iff, noIdentity, noData]
    · obtain ⟨contents, last, chunks⟩ := chunkFrames_shape payload
      have noData : c.data ≠ [] := fun none => payload (List.length_eq_zero_iff.mpr none)
      have whole := openPart_accepted_iff c.outcomes (identity :: empty :: contents) last
      have count : 2 + (contents.length + 1) = contents.length + 1 + 1 + 1 := by omega
      rw [chunks]
      simpa [noIdentity, noData, count] using whole

/-- A call that succeeds and leaves nothing open has sent one message. -/
theorem whole_message (effect : SendEffect t c allMsg stack after trace)
    (closes : Closes t.identity c) (ok : trace.ret = .ok ()) :
    ∃ message, assemble trace.frames = ([message], []) := by
  obtain ⟨identity, succeed⟩ := effect.ret.mp ok
  have first : c.outcomes.headD true = true := ((succeed_succ _ _).mp succeed).1
  have payload : c.data.length ≠ 0 := by
    rcases closes with none | fails | ⟨payload, _⟩
    · exact absurd none identity
    · rw [fails] at first
      cases first
    · exact fun none => payload (List.length_eq_zero_iff.mp none)
  obtain ⟨contents, last, chunks⟩ := chunkFrames_shape payload
  rw [effect.frames, if_neg identity, accepted_all succeed]
  unfold meantFrames
  rw [chunks]
  exact ⟨_, assemble_complete (_ :: _ :: contents) last⟩

end Call

/-! ## Runs -/

/-- The wire after the calls of a run: it ends with a frame without the flag, its
messages are those each call made of its own frames, in order, and a call that
succeeded made exactly one. -/
structure Framed (t : Transmitter) (outs : List (Bool × SendTrace)) : Prop where
  closed : ∀ frame, t.sock.wire.getLast? = some frame → frame.2 = false
  own : messages t.sock.wire = (outs.map fun out => messages out.2.frames).flatten
  whole : ∀ out ∈ outs, out.2.ret = .ok () → ∃ message, assemble out.2.frames = ([message], [])

theorem framed_step {t after : Transmitter} {c : SendCall} {allMsg : Fin msgBufferSize}
    {stack : List (Fin msgBufferSize)} {trace : SendTrace} {past : List (Bool × SendTrace)}
    (framed : Framed t past) (effect : SendEffect t c allMsg stack after trace)
    (closes : Closes t.identity c) (answer : Bool) : Framed after (past ++ [(answer, trace)]) := by
  have before := (openPart_eq_nil_iff _).mpr framed.closed
  have sent := (closed_iff effect).mpr closes
  constructor
  · rw [← openPart_eq_nil_iff, effect.sock, openPart_append before]
    exact sent
  · rw [effect.sock, messages_append before, framed.own]
    simp
  · intro out member
    rcases List.mem_append.mp member with old | new
    · exact framed.whole out old
    · rw [List.mem_singleton.mp new]
      exact whole_message effect closes

/-- From a wire with no open message: every return leaves it so exactly when every
call closes what it opens. -/
theorem framed_iff {t : Transmitter} {allMsg : Fin msgBufferSize}
    {rest : List (Fin msgBufferSize)} (inv : PoolInv t.msgBuffer (allMsg :: rest))
    {past : List (Bool × SendTrace)} (framed : Framed t past) (calls : List SendCall) :
    Machine.AtEveryReturn Transmitter.send (fun after outs => Framed after (past ++ outs)) t calls ↔
      ∀ c ∈ calls, Closes t.identity c := by
  induction calls generalizing t past with
  | nil =>
    rw [Machine.atEveryReturn_nil]
    simpa using framed
  | cons c calls ih =>
    obtain ⟨after, answer, trace, code, effect⟩ := send_spec inv c
    rw [Machine.atEveryReturn_cons code, List.forall_mem_cons, List.append_nil]
    by_cases closes : Closes t.identity c
    · have tail := ih effect.pool (framed_step framed effect closes answer)
      simp only [List.append_assoc, List.singleton_append] at tail
      rw [tail, effect.identity]
      exact ⟨fun both => ⟨closes, both.2⟩, fun both => ⟨framed, both.2⟩⟩
    · refine ⟨fun always => ?_, fun both => absurd both.1 closes⟩
      have before := (openPart_eq_nil_iff _).mpr framed.closed
      have closed := (openPart_eq_nil_iff _).mpr always.2.start.closed
      rw [effect.sock, openPart_append before] at closed
      exact absurd ((closed_iff effect).mp closed) closes

/-- Every run returns, with the same free slots and under the same identity. -/
theorem send_run {t : Transmitter} {allMsg : Fin msgBufferSize}
    {rest : List (Fin msgBufferSize)} (inv : PoolInv t.msgBuffer (allMsg :: rest))
    (calls : List SendCall) :
    ∃ after outs, Machine.run Transmitter.send t calls = some (after, outs) ∧
      PoolInv after.msgBuffer (allMsg :: rest) ∧ after.identity = t.identity := by
  refine Machine.run_returns (fun after : Transmitter =>
    PoolInv after.msgBuffer (allMsg :: rest) ∧ after.identity = t.identity) ?_ calls ⟨inv, rfl⟩
  rintro now c ⟨inv, same⟩
  obtain ⟨after, answer, trace, code, effect⟩ := send_spec inv c
  exact ⟨after, (answer, trace), code, effect.pool, effect.identity.trans same⟩

theorem fresh_pool (identity : Bytes) (error poolError : ErrorHandler) :
    PoolInv (Transmitter.fresh identity error poolError).msgBuffer
      (0 :: (List.finRange msgBufferSize).tail) :=
  init_inv initAllmsg poolError

/-- For every sequence of `send` calls, with payloads of any length and any failing
sends: every run returns; and after every call no message is open, each message on the
wire is made of the frames of one call, and a call that returned Ok has emitted one
complete message, exactly when every call closes what it opens. -/
theorem transmitter_frames_iff (identity : Bytes) (error poolError : ErrorHandler)
    (calls : List SendCall) :
    (∃ after outs, Machine.run Transmitter.send
        (Transmitter.fresh identity error poolError) calls = some (after, outs)) ∧
      (Machine.AtEveryReturn Transmitter.send Framed
          (Transmitter.fresh identity error poolError) calls ↔
        ∀ c ∈ calls, Closes identity c) := by
  have start := fresh_pool identity error poolError
  obtain ⟨after, outs, run, _⟩ := send_run start calls
  refine ⟨⟨after, outs, run⟩, ?_⟩
  have framed : Framed (Transmitter.fresh identity error poolError) [] := by
    constructor
    · intro frame none
      cases none
    · rfl
    · intro out none
      cases none
  exact framed_iff start framed calls

/-- An empty payload: the call succeeds with two frames that both promise more. -/
theorem empty_payload_left_open :
    ∃ after trace,
      Machine.run Transmitter.send
          (Transmitter.fresh (ascii "manager") ⟨fun _ => false⟩ ⟨fun _ => false⟩) [⟨[], []⟩] =
        some (after, [(true, trace)]) ∧
      trace.ret = .ok () ∧ after.sock.wire = [(ascii "manager", true), ([], true)] ∧
      ¬ Framed after [(true, trace)] := by
  have run : (Machine.run Transmitter.send
      (Transmitter.fresh (ascii "manager") ⟨fun _ => false⟩ ⟨fun _ => false⟩) [⟨[], []⟩]).map
        (fun result => (result.1.sock.wire, result.2)) =
      some ([(ascii "manager", true), ([], true)],
        [(true,
          { copies := [⟨7, 7⟩], frames := [(ascii "manager", true), ([], true)],
            ret := .ok () })]) := by
    decide +kernel
  obtain ⟨⟨after, outs⟩, code, result⟩ := Option.map_eq_some_iff.mp run
  simp only [Prod.mk.injEq] at result
  obtain ⟨wire, rfl⟩ := result
  refine ⟨after, _, code, rfl, wire, ?_⟩
  intro framed
  have last := framed.closed ([], true) (by rw [wire]; rfl)
  cases last

end FifthD.Guarantees.TransmitterFraming
