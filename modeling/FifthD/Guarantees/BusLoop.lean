import FifthD.Guarantees.BusMemory
import FifthD.Source.Receiver

/-!
# The loop of the bus

`worker` calls `_handle_msg` only when a frame is waiting, and one slot is free before every
call. So the loop never waits inside a call: it goes on until a signal, a failed poll or a
call that leaves its memory ends it, and until then it takes the messages in the order in
which they arrive. The calls of the loop are a run of the bus, so what is known of these
runs says when a call leaves its memory.
-/
namespace FifthD.Guarantees.BusLoop

open FifthD.Library FifthD.Source FifthD.Spec BusStep BusLifetime BusMemory

/-- The call of a turn, if it has made one. -/
def handled : Turn HandleTrace → Option HandleTrace
  | .called trace => some trace
  | .ended _ | .timeout => none

/-- What a turn decoded: the routing id and the message. -/
def decodedBy : Turn HandleTrace → Option (Bytes × IpcMsg)
  | .called trace => trace.decoded
  | .ended _ | .timeout => none

/-- A message as a turn decodes it: its routing id, and its last body if it carries one. -/
structure Decodes (m : RouterMsg) (decoded : Bytes × IpcMsg) : Prop where
  source : decoded.1 = m.routingId
  body : ∀ body, lastBody m.frames = some body → decoded.2 = body

/-! ## What ends the loop -/

def terminates (sign : Int) : Bool := sign = SIGINT ∨ sign = SIGTERM

/-- Why `worker` returns in a turn, if it does. -/
def stop (round : BusRound) : Option LoopEnd :=
  if round.signals.any terminates then some .untilCleared
  else if round.pollOk = false then some .pollError
  else none

/-- Why a loop ends with a turn, if it does: `worker` returns, or the call leaves its memory. -/
def ending (round : BusRound) (turn : Turn HandleTrace) : Option LoopEnd :=
  (stop round).or turn.last

/-- Why a loop has ended in some turns: the first of them that ends it. -/
def loopEnd (rounds : List BusRound) (turns : List (Turn HandleTrace)) : Option LoopEnd :=
  (rounds.zip turns).findSome? fun (round, turn) => ending round turn

/-- The flag stays cleared; the two signals clear it. -/
theorem signals_poll (signals : List Int) (poll : Bool) :
    signals.foldl (fun poll sign => signalHandler sign poll) poll =
      (poll && !signals.any terminates) := by
  induction signals generalizing poll with
  | nil => simp
  | cons sign rest ih =>
    rw [List.foldl_cons, ih, List.any_cons]
    by_cases last : sign = SIGINT ∨ sign = SIGTERM
    · simp [signalHandler, terminates, last]
    · simp [signalHandler, terminates, last]

/-! ## The calls of the loop -/

/-- A turn makes no call, or the call that the bus makes of what has arrived. -/
theorem turn_calls {p next : BusProcess} {round : BusRound} {turn : Turn HandleTrace}
    (turned : p.turn round = some (next, turn)) :
    (handled turn = none ∧ next.bus = p.bus.arrive round.arrived) ∨
      ∃ trace, turn = .called trace ∧
        handleMsg round.env (p.bus.arrive round.arrived) = some (next.bus, trace) := by
  unfold BusProcess.turn at turned
  dsimp only at turned
  split at turned
  · cases turned
    exact .inl ⟨rfl, rfl⟩
  · obtain ⟨⟨bus, turn'⟩, worked, result⟩ := Option.map_eq_some_iff.mp turned
    cases result
    unfold workerTurn at worked
    split at worked
    · cases worked
      exact .inl ⟨rfl, rfl⟩
    · split at worked
      · cases worked
        exact .inl ⟨rfl, rfl⟩
      · split at worked
        · cases worked
          exact .inl ⟨rfl, rfl⟩
        · obtain ⟨⟨after, trace⟩, code, result⟩ := Option.map_eq_some_iff.mp worked
          cases result
          exact .inr ⟨trace, rfl, code⟩

theorem arrive_append (s : BusState) (first second : List RouterMsg) :
    (s.arrive first).arrive second = s.arrive (first ++ second) := by
  simp [BusState.arrive]

/-- The calls of a loop are those of a run of the bus, and since the last of them messages
have only arrived. -/
theorem loop_calls (error : ErrorHandler) {rounds : List BusRound} {p : BusProcess}
    {turns : List (Turn HandleTrace)}
    (ran : Machine.run BusProcess.turn (BusProcess.start error) rounds = some (p, turns)) :
    ∃ calls s arrived,
      Machine.run busCall (BusState.fresh error) calls = some (s, turns.filterMap handled) ∧
        p.bus = s.arrive arrived := by
  let Calls (p : BusProcess) (turns : List (Turn HandleTrace)) : Prop :=
    ∃ calls s arrived,
      Machine.run busCall (BusState.fresh error) calls = some (s, turns.filterMap handled) ∧
        p.bus = s.arrive arrived
  have kept : ∀ {p : BusProcess} {past : List (Turn HandleTrace)} {round : BusRound}
      {next : BusProcess} {turn : Turn HandleTrace}, Calls p past →
      p.turn round = some (next, turn) → Calls next (past ++ [turn]) := by
    intro p past round next turn ⟨calls, s, arrived, called, bus⟩ turned
    rcases turn_calls turned with ⟨idle, piled⟩ | ⟨trace, rfl, code⟩
    · refine ⟨calls, s, arrived ++ round.arrived, ?_, ?_⟩
      · rw [List.filterMap_append, List.filterMap_cons_none idle, List.filterMap_nil,
          List.append_nil]
        exact called
      · rw [piled, bus, arrive_append]
    · rw [bus, arrive_append] at code
      refine ⟨calls ++ [⟨arrived ++ round.arrived, round.env⟩], next.bus, [], ?_, ?_⟩
      · rw [List.filterMap_append]
        exact (Machine.run_append_of_run called).mpr
          (Machine.run_singleton_iff.mpr ⟨trace, code, rfl⟩)
      · simp [BusState.arrive]
  have start : Calls (BusProcess.start error) [] :=
    ⟨[], BusState.fresh error, [], rfl, by simp [BusState.arrive, BusProcess.start]⟩
  exact @Machine.run_keeps _ _ _ BusProcess.turn Calls kept _ _ [] _ _ start ran

/-! ## One turn -/

/-- The process between two turns, while it runs: one slot is free for `_handle_msg`. -/
structure Live (p : BusProcess) (r : Router) (allMsg : Fin msgBufferSize)
    (rest : List (Fin msgBufferSize)) : Prop where
  inv : BusInv p.bus r (allMsg :: rest)
  poll : p.ended = none → p.poll = true

theorem start_live (error : ErrorHandler) :
    Live (BusProcess.start error) Router.fresh 0 ((List.finRange msgBufferSize).drop 1) :=
  ⟨fresh_inv error, fun _ => rfl⟩

theorem pending_eq_zero_iff {s : BusState} {r : Router} {stack : List (Fin msgBufferSize)}
    (inv : BusInv s r stack) : s.sock.pending = 0 ↔ r.queue = [] := by
  unfold Socket.pending
  rw [inv.current, inv.inbox]
  cases r.queue with
  | nil => simp
  | cons m later => simp

/-- A call for a waiting message returns; it takes the message, or its receive fails. -/
theorem handle_waiting {s : BusState} {registry : Registry} {m : RouterMsg}
    {later : List RouterMsg} {allMsg : Fin msgBufferSize} {rest : List (Fin msgBufferSize)}
    (inv : BusInv s ⟨registry, m :: later⟩ (allMsg :: rest)) (env : HandleEnv) :
    ∃ after trace r' rest' gone, handleMsg env s = some (after, trace) ∧
      BusInv after r' (allMsg :: rest') ∧ m :: later = gone ++ r'.queue ∧
      List.Forall₂ Decodes gone trace.decoded.toList ∧
      (env.identityRecv = true → gone = [m]) := by
  by_cases succeeds : env.identityRecv = true
  · obtain ⟨after, trace, code, effect⟩ :=
      handleMsg_spec inv (Router.handle_cons registry m later succeeds)
    refine ⟨after, trace, _, _, [m], code, effect.inv, rfl, ?_, fun _ => rfl⟩
    rw [effect.decoded]
    refine .cons ⟨rfl, ?_⟩ .nil
    intro body last
    simp only [RouterMsg.decode, last, Option.getD_some]
  · have fails : env.identityRecv = false := by simpa using succeeds
    obtain ⟨after, code, kept, _⟩ := handleMsg_recvFailed inv fails
    exact ⟨after, {}, _, rest, [], code, kept, rfl, .nil, fun ok => absurd ok succeeds⟩

/-- What a turn leaves of the loop and of the messages waiting. -/
structure TurnEffect (p : BusProcess) (queue : List RouterMsg) (round : BusRound)
    (next : BusProcess) (turn : Turn HandleTrace) (queue' : List RouterMsg) : Prop where
  takes : ∃ gone, queue ++ round.arrived = gone ++ queue' ∧
    List.Forall₂ Decodes gone (decodedBy turn).toList
  ended : next.ended = p.ended.or (ending round turn)
  outcome : ∀ why, turn = .ended why ↔ p.ended.or (stop round) = some why
  progress : p.ended.or (stop round) = none → round.env.identityRecv = true →
    queue' = (queue ++ round.arrived).tail

/-- A turn of a loop that has ended, or that ends with it. -/
theorem turn_stopped {p : BusProcess} {r : Router} {allMsg : Fin msgBufferSize}
    {rest : List (Fin msgBufferSize)} (live : Live p r allMsg rest) {round : BusRound}
    {why : LoopEnd} (stops : p.ended.or (stop round) = some why) :
    ∃ next, p.turn round = some (next, .ended why) ∧ next.ended = some why ∧
      next.bus = p.bus.arrive round.arrived := by
  cases before : p.ended with
  | some earlier =>
    rw [before, Option.some_or] at stops
    cases stops
    let poll := round.signals.foldl (fun poll sign => signalHandler sign poll) p.poll
    refine ⟨⟨p.bus.arrive round.arrived, poll, some why⟩, ?_, rfl, rfl⟩
    simp only [BusProcess.turn, before, poll]
  | none =>
    rw [before, Option.none_or] at stops
    have poll := live.poll before
    unfold stop at stops
    split at stops
    · next signalled =>
      cases stops
      refine ⟨⟨p.bus.arrive round.arrived, false, _⟩, ?_, rfl, rfl⟩
      simp [BusProcess.turn, before, signals_poll, signalled, workerTurn, Turn.last]
    · next unsignalled =>
      split at stops
      · next failed =>
        cases stops
        refine ⟨⟨p.bus.arrive round.arrived, true, _⟩, ?_, rfl, rfl⟩
        simp [BusProcess.turn, before, signals_poll, poll, unsignalled, failed, workerTurn,
          Turn.last]
      · cases stops

/-- A turn of a loop that goes on: the callback runs when a frame is waiting. -/
theorem turn_running {p : BusProcess} {r : Router} {allMsg : Fin msgBufferSize}
    {rest : List (Fin msgBufferSize)} (live : Live p r allMsg rest) {round : BusRound}
    (before : p.ended = none) (goes : stop round = none) :
    p.turn round =
      if (p.bus.arrive round.arrived).sock.pending = 0 then
        some (⟨p.bus.arrive round.arrived, true, none⟩, .timeout)
      else
        (handleMsg round.env (p.bus.arrive round.arrived)).map fun (bus, trace) =>
          (⟨bus, true, (Turn.called trace).last⟩, .called trace) := by
  have poll := live.poll before
  unfold stop at goes
  split at goes
  · cases goes
  · next unsignalled =>
    split at goes
    · cases goes
    · next polled =>
      by_cases nothing : (p.bus.arrive round.arrived).sock.pending = 0
      · simp [BusProcess.turn, before, signals_poll, poll, unsignalled, polled, workerTurn, nothing,
          Turn.last]
      · cases code : handleMsg round.env (p.bus.arrive round.arrived) with
        | none =>
          simp [BusProcess.turn, before, signals_poll, poll, unsignalled, polled, workerTurn,
            nothing, code]
        | some result =>
          simp [BusProcess.turn, before, signals_poll, poll, unsignalled, polled, workerTurn,
            nothing, code]

/-- Every turn returns. -/
theorem turn_effect {p : BusProcess} {r : Router} {allMsg : Fin msgBufferSize}
    {rest : List (Fin msgBufferSize)} (live : Live p r allMsg rest) (round : BusRound) :
    ∃ next turn r' rest', p.turn round = some (next, turn) ∧ Live next r' allMsg rest' ∧
      TurnEffect p r.queue round next turn r'.queue := by
  have arrived := live.inv.arrive round.arrived
  cases stops : p.ended.or (stop round) with
  | some why =>
    obtain ⟨next, code, ended, bus⟩ := turn_stopped live stops
    refine ⟨next, _, ⟨r.registry, r.queue ++ round.arrived⟩, rest, code, ⟨?_, ?_⟩, ?_⟩
    · rw [bus]
      exact arrived
    · intro running
      rw [ended] at running
      cases running
    · refine ⟨⟨[], rfl, .nil⟩, ?_, by simp [stops], ?_⟩
      · rw [ended, ending, ← Option.or_assoc, stops, Option.some_or]
      · intro running
        rw [stops] at running
        cases running
  | none =>
    obtain ⟨before, goes⟩ := Option.or_eq_none_iff.mp stops
    have code := turn_running live before goes
    cases queue : r.queue ++ round.arrived with
    | nil =>
      have nothing := (pending_eq_zero_iff arrived).mpr queue
      have idle : p.turn round = some (⟨p.bus.arrive round.arrived, true, none⟩, .timeout) :=
        code.trans (if_pos nothing)
      refine ⟨_, _, _, rest, idle, ⟨arrived, fun _ => rfl⟩, ⟨[], rfl, .nil⟩, ?_, by simp [stops],
        ?_⟩
      · rw [ending, ← Option.or_assoc, stops]
        rfl
      · intro _ _
        rw [queue, List.tail_nil]
    | cons m later =>
      have waiting : (p.bus.arrive round.arrived).sock.pending ≠ 0 := by
        intro nothing
        have empty := (pending_eq_zero_iff arrived).mp nothing
        rw [queue] at empty
        cases empty
      rw [queue] at arrived
      obtain ⟨after, trace, r', rest', gone, called, inv, split, decodes, takes⟩ :=
        handle_waiting arrived round.env
      have handled : p.turn round =
          some (⟨after, true, (Turn.called trace).last⟩, .called trace) := by
        refine code.trans ((if_neg waiting).trans ?_)
        rw [show handleMsg round.env (p.bus.arrive round.arrived) = some (after, trace) from called]
        rfl
      refine ⟨_, _, r', rest', handled, ⟨inv, fun _ => rfl⟩, ⟨gone, ?_, decodes⟩, ?_,
        by simp [stops], ?_⟩
      · rw [queue, split]
      · rw [ending, ← Option.or_assoc, stops, Option.none_or]
      · intro _ succeeds
        rw [takes succeeds] at split
        rw [queue, split, List.singleton_append, List.tail_cons]

/-! ## Whole runs -/

/-- What a run of the loop has done with the messages that have arrived, and when it ended. -/
structure Served (before : Option LoopEnd) (queue : List RouterMsg) (rounds : List BusRound)
    (final : BusProcess) (turns : List (Turn HandleTrace)) (waiting : List RouterMsg) : Prop where
  order : ∃ taken, queue ++ rounds.flatMap BusRound.arrived = taken ++ waiting ∧
    List.Forall₂ Decodes taken (turns.filterMap decodedBy)
  ended : final.ended = before.or (loopEnd rounds turns)
  stopped : ∀ k round turn, rounds[k]? = some round → turns[k]? = some turn → ∀ why,
    turn = .ended why ↔
      (before.or (loopEnd (rounds.take k) (turns.take k))).or (stop round) = some why

theorem loopEnd_cons (round : BusRound) (rounds : List BusRound) (turn : Turn HandleTrace)
    (turns : List (Turn HandleTrace)) :
    loopEnd (round :: rounds) (turn :: turns) = (ending round turn).or (loopEnd rounds turns) := by
  unfold loopEnd
  rw [List.zip_cons_cons, List.findSome?_cons]
  dsimp only
  cases ending round turn <;> rfl

theorem Served.cons {p next final : BusProcess} {queue queue' waiting : List RouterMsg}
    {round : BusRound} {rounds : List BusRound} {turn : Turn HandleTrace}
    {turns : List (Turn HandleTrace)} (effect : TurnEffect p queue round next turn queue')
    (served : Served next.ended queue' rounds final turns waiting) :
    Served p.ended queue (round :: rounds) final (turn :: turns) waiting := by
  obtain ⟨gone, split, decodes⟩ := effect.takes
  obtain ⟨taken, later, decodes'⟩ := served.order
  have first : ∀ (rounds : List BusRound) (turns : List (Turn HandleTrace)),
      next.ended.or (loopEnd rounds turns) =
        p.ended.or (loopEnd (round :: rounds) (turn :: turns)) := by
    intro rounds turns
    rw [effect.ended, Option.or_assoc, loopEnd_cons]
  refine ⟨⟨gone ++ taken, ?_, ?_⟩, ?_, ?_⟩
  · rw [List.flatMap_cons, ← List.append_assoc, split, List.append_assoc, later, List.append_assoc]
  · have both := List.rel_append decodes decodes'
    rw [List.filterMap_cons]
    cases decoded : decodedBy turn with
    | none => simpa [decoded] using both
    | some pair => simpa [decoded] using both
  · rw [served.ended, first]
  · intro k round' turn' input found why
    cases k with
    | zero =>
      cases input
      cases found
      rw [List.take_zero, List.take_zero, loopEnd, List.zip_nil_left, List.findSome?_nil,
        Option.or_none]
      exact effect.outcome why
    | succ k =>
      rw [List.take_succ_cons, List.take_succ_cons, ← first]
      exact served.stopped k round' turn' input found why

theorem run_serves {p : BusProcess} {r : Router} {allMsg : Fin msgBufferSize}
    {rest : List (Fin msgBufferSize)} (live : Live p r allMsg rest) (rounds : List BusRound) :
    ∃ final turns r' rest', Machine.run BusProcess.turn p rounds = some (final, turns) ∧
      Live final r' allMsg rest' ∧ Served p.ended r.queue rounds final turns r'.queue := by
  induction rounds generalizing p r rest with
  | nil =>
    refine ⟨p, [], r, rest, rfl, live, ⟨[], by simp, .nil⟩, by simp [loopEnd], ?_⟩
    intro k round turn input found
    simp at found
  | cons round rounds ih =>
    obtain ⟨next, turn, r₁, rest₁, code, live₁, effect⟩ := turn_effect live round
    obtain ⟨final, turns, r₂, rest₂, ran, live₂, served⟩ := ih live₁
    exact ⟨final, turn :: turns, r₂, rest₂,
      Machine.run_cons_iff.mpr ⟨next, turn, turns, code, ran, rfl⟩, live₂, served.cons effect⟩

/-- For every sequence of turns, whatever messages arrive, signals are delivered and calls
fail: the loop of the bus never waits inside a call. The messages it has handled are the
first that arrived, in order, each of them once, and the rest are still waiting. The loop
ends with the first turn that finds a terminating signal or a failed poll or whose call
leaves its memory, and after that it handles nothing. A call leaves its memory exactly when
the category it decodes has no NUL, its destination is not registered and no client, or what
it passes on does not fit the frames that the calls before it have left. -/
theorem bus_loop_serves (error : ErrorHandler) (rounds : List BusRound) :
    ∃ final turns waiting,
      Machine.run BusProcess.turn (BusProcess.start error) rounds = some (final, turns) ∧
      Served none [] rounds final turns waiting ∧
      Throughout (fun earlier trace => trace.inMemory = true ↔ Fits (forwards earlier) trace)
        (turns.filterMap handled) ∧
      (final.ended ≠ some .leftMemory →
        final.bus.sock.inbox = waiting.map RouterMsg.toMultipart ∧
          final.bus.sock.current = []) := by
  obtain ⟨final, turns, r, rest, ran, live, served⟩ := run_serves (start_live error) rounds
  obtain ⟨calls, s, arrived, called, _⟩ := loop_calls error ran
  exact ⟨final, turns, r.queue, ran, served, run_inMemory error called,
    fun _ => ⟨live.inv.inbox, live.inv.current⟩⟩

/-! ## Draining -/

/-- A turn with nothing new, in which the poll and the first receive succeed. -/
structure Quiet (round : BusRound) : Prop where
  goes : stop round = none
  arrived : round.arrived = []
  receives : round.env.identityRecv = true

/-- A loop that has ended does not go on again. -/
theorem run_goes_on {p final : BusProcess} {rounds : List BusRound}
    {turns : List (Turn HandleTrace)}
    (ran : Machine.run BusProcess.turn p rounds = some (final, turns))
    (running : final.ended = none) : p.ended = none := by
  by_contra ended
  have kept : ∀ {p : BusProcess} {round : BusRound} {next : BusProcess} {turn : Turn HandleTrace},
      p.ended ≠ none → p.turn round = some (next, turn) → next.ended ≠ none := by
    intro p round next turn before turned
    obtain ⟨why, ended⟩ := Option.ne_none_iff_exists'.mp before
    simp only [BusProcess.turn, ended] at turned
    cases turned
    exact Option.some_ne_none why
  exact @Machine.run_keeps _ _ _ BusProcess.turn (fun p _ => p.ended ≠ none)
    (fun before turned => kept before turned) _ _ [] _ _ ended ran running

/-- Quiet turns of a loop that goes on handle one waiting message each. -/
theorem quiet_drains {p : BusProcess} {r : Router} {allMsg : Fin msgBufferSize}
    {rest : List (Fin msgBufferSize)} (live : Live p r allMsg rest)
    {quiet : List BusRound} (calm : ∀ round ∈ quiet, Quiet round) :
    ∃ final turns r' rest', Machine.run BusProcess.turn p quiet = some (final, turns) ∧
      Live final r' allMsg rest' ∧
      (final.ended = none → r'.queue = r.queue.drop quiet.length) := by
  induction quiet generalizing p r rest with
  | nil => exact ⟨p, [], r, rest, rfl, live, fun _ => rfl⟩
  | cons round quiet ih =>
    obtain ⟨calmly, calm⟩ := List.forall_mem_cons.mp calm
    obtain ⟨next, turn, r₁, rest₁, code, live₁, effect⟩ := turn_effect live round
    obtain ⟨final, turns, r₂, rest₂, ran, live₂, drained⟩ := ih live₁ calm
    refine ⟨final, turn :: turns, r₂, rest₂,
      Machine.run_cons_iff.mpr ⟨next, turn, turns, code, ran, rfl⟩, live₂, ?_⟩
    intro running
    have before := run_goes_on ran running
    rw [effect.ended, Option.or_eq_none_iff] at before
    have goes : p.ended.or (stop round) = none := by rw [before.1, calmly.goes, Option.none_or]
    have one := effect.progress goes calmly.receives
    rw [calmly.arrived, List.append_nil] at one
    rw [drained running, one, List.length_cons, List.drop_tail]

/-- A loop that `worker` does not leave goes on as long as its calls stay in their memory. -/
theorem calm_run {p final : BusProcess} {r : Router} {allMsg : Fin msgBufferSize}
    {rest : List (Fin msgBufferSize)} {rounds : List BusRound} {turns : List (Turn HandleTrace)}
    (live : Live p r allMsg rest) (running : p.ended = none)
    (goes : ∀ round ∈ rounds, stop round = none)
    (ran : Machine.run BusProcess.turn p rounds = some (final, turns)) :
    (final.ended = none ∧ ∀ trace ∈ turns.filterMap handled, trace.inMemory = true) ∨
      (final.ended = some .leftMemory ∧
        ∃ trace ∈ turns.filterMap handled, trace.inMemory = false) := by
  induction rounds generalizing p r rest turns with
  | nil =>
    cases ran
    exact .inl ⟨running, by simp⟩
  | cons round rounds ih =>
    obtain ⟨goesOn, goes⟩ := List.forall_mem_cons.mp goes
    obtain ⟨next, turn, later, turned, on, rfl⟩ := Machine.run_cons_iff.mp ran
    obtain ⟨next', turn', r₁, rest₁, code, live₁, effect⟩ := turn_effect live round
    cases turned.symm.trans code
    have ended := effect.ended
    rw [running, Option.none_or, ending, goesOn, Option.none_or] at ended
    cases turn with
    | ended why =>
      have stopped := (effect.outcome why).mp rfl
      rw [running, goesOn] at stopped
      cases stopped
    | timeout =>
      rw [List.filterMap_cons_none (show handled .timeout = none from rfl)]
      exact ih live₁ ended goes on
    | called trace =>
      rw [List.filterMap_cons_some (show handled (.called trace) = some trace from rfl)]
      by_cases stays : trace.inMemory = true
      · rw [Turn.last, if_pos stays] at ended
        rcases ih live₁ ended goes on with ⟨still, all⟩ | ⟨off, left, member, leaves⟩
        · exact .inl ⟨still, List.forall_mem_cons.mpr ⟨stays, all⟩⟩
        · exact .inr ⟨off, left, List.mem_cons_of_mem _ member, leaves⟩
      · rw [Turn.last, if_neg stays] at ended
        obtain ⟨final', later', _, _, on', _, served⟩ := run_serves live₁ rounds
        cases on.symm.trans on'
        right
        refine ⟨?_, trace, List.mem_cons_self, by simpa using stays⟩
        rw [served.ended, ended, Option.some_or]

/-- After turns in which `worker` does not return, whatever else fails in them, as many quiet
turns as messages have arrived leave no message waiting, if all calls stay in their memory:
all that arrived are handled, in order, each of them once, and the loop goes on. Otherwise
the loop has ended with the first call that has left its memory. -/
theorem quiet_loop_handles_all (error : ErrorHandler) {rounds quiet : List BusRound}
    (goes : ∀ round ∈ rounds, stop round = none) (calm : ∀ round ∈ quiet, Quiet round)
    (enough : (rounds.flatMap BusRound.arrived).length ≤ quiet.length) :
    ∃ final turns,
      Machine.run BusProcess.turn (BusProcess.start error) (rounds ++ quiet) =
        some (final, turns) ∧
      ((∀ trace ∈ turns.filterMap handled, trace.inMemory = true) →
        List.Forall₂ Decodes (rounds.flatMap BusRound.arrived) (turns.filterMap decodedBy) ∧
          final.bus.sock.inbox = [] ∧ final.ended = none) ∧
      ((∃ trace ∈ turns.filterMap handled, trace.inMemory = false) →
        final.ended = some .leftMemory) := by
  obtain ⟨middle, early, r₁, rest₁, ran₁, live₁, served₁⟩ := run_serves (start_live error) rounds
  obtain ⟨final, late, r₂, rest₂, ran₂, live₂, drained⟩ := quiet_drains live₁ calm
  have ran := Machine.run_append_iff.mpr ⟨middle, early, late, ran₁, ran₂, rfl⟩
  obtain ⟨final', turns, r₃, rest₃, ran₃, live₃, served⟩ :=
    run_serves (start_live error) (rounds ++ quiet)
  cases ran.symm.trans ran₃
  have goes' : ∀ round ∈ rounds ++ quiet, stop round = none := by
    intro round member
    rcases List.mem_append.mp member with first | second
    · exact goes round first
    · exact (calm round second).goes
  have ways := calm_run (start_live error) rfl goes' ran
  refine ⟨final, _, ran, ?_, ?_⟩
  · intro stay
    rcases ways with ⟨running, _⟩ | ⟨_, trace, member, leaves⟩
    · have few : r₁.queue.length ≤ quiet.length := by
        obtain ⟨taken, split, _⟩ := served₁.order
        have lengths := congrArg List.length split
        simp only [Router.fresh, List.nil_append, List.length_append] at lengths
        omega
      have none_left : r₂.queue = [] := (drained running).trans (List.drop_eq_nil_of_le few)
      have inbox : final.bus.sock.inbox = [] := by rw [live₂.inv.inbox, none_left, List.map_nil]
      have waiting : r₃.queue = [] := List.map_eq_nil_iff.mp (live₃.inv.inbox.symm.trans inbox)
      have nothing_new : quiet.flatMap BusRound.arrived = [] :=
        List.flatMap_eq_nil_iff.mpr fun round member => (calm round member).arrived
      obtain ⟨taken, split, decodes⟩ := served.order
      rw [waiting, List.append_nil, List.flatMap_append, nothing_new, List.append_nil] at split
      refine ⟨?_, inbox, running⟩
      rw [show rounds.flatMap BusRound.arrived = taken from split]
      exact decodes
    · cases (stay trace member).symm.trans leaves
  · rintro ⟨trace, member, leaves⟩
    rcases ways with ⟨_, stay⟩ | ⟨left, _⟩
    · cases (stay trace member).symm.trans leaves
    · exact left

/-- A message from the peer to the router, which never registers. -/
def peerToRouter : RouterMsg where
  routingId := ascii "peerxxx"
  frames := [[], 1 :: 0 :: 0 :: 0 :: 3 :: List.replicate 297 0]
  frames_ne := List.cons_ne_nil _ _

/-- Two come together, while the receive fails. -/
def failingRound : BusRound :=
  ⟨[], [peerToRouter, peerToRouter], true, ⟨zeroMsg, false, [], SendEnv.ok⟩⟩

def quietRound : BusRound := ⟨[], [], true, ⟨zeroMsg, true, [], SendEnv.ok⟩⟩

/-- Two quiet turns handle both. -/
theorem two_quiet_turns :
    ∃ final turns,
      Machine.run BusProcess.turn (BusProcess.start ⟨fun _ => false⟩)
        ([failingRound] ++ [quietRound, quietRound]) = some (final, turns) ∧
      List.Forall₂ Decodes [peerToRouter, peerToRouter] (turns.filterMap decodedBy) ∧
      final.bus.sock.inbox = [] ∧ final.ended = none := by
  have calm : ∀ round ∈ [quietRound, quietRound], Quiet round := by
    have quiet : Quiet quietRound := ⟨rfl, rfl, rfl⟩
    simpa using quiet
  have goes : ∀ round ∈ [failingRound], stop round = none := by
    intro round member
    rw [List.mem_singleton.mp member]
    rfl
  obtain ⟨final, turns, ran, stay, _⟩ :=
    quiet_loop_handles_all ⟨fun _ => false⟩ goes calm (Nat.le_refl 2)
  have inMemory : (Machine.run BusProcess.turn (BusProcess.start ⟨fun _ => false⟩)
      ([failingRound] ++ [quietRound, quietRound])).map (fun result =>
        (result.2.filterMap handled).all HandleTrace.inMemory) = some true := by
    decide +kernel
  rw [ran] at inMemory
  exact ⟨final, turns, ran, stay (List.all_eq_true.mp (Option.some.inj inMemory))⟩

end FifthD.Guarantees.BusLoop
