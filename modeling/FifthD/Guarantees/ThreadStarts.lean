import FifthD.Guarantees.KilledStarts
import FifthD.Source.Allocator

/-!
# Threads that start a module

Any number of threads of one process call `module_init`. `init_sodium` takes a library that
is initialized already for a failure, so that the second thread that comes to it aborts the
process, wherever the first one is. The mutex of `handle_atomic_opt` is never waited for: one
thread comes to it, and the process commits what the start of that thread commits, or nothing.
-/
namespace FifthD.Guarantees.ThreadStarts

open FifthD.Library FifthD.Source FifthD.Guarantees.Provisioning FifthD.Guarantees.KilledStarts

variable {P : Type*} [DecidableEq P]

/-! ## One connection of the process -/

/-- The database with no connection in use but one. -/
def only (p : P) (s : KeyServer Unit) : KeyServer P :=
  ⟨s.store.only p, Function.update (fun _ => 0) p (s.alive ())⟩

theorem only_idle (p : P) (tables : KeyTables) :
    only p (.idle tables) = (.idle tables : KeyServer P) := by
  unfold only KeyServer.idle
  rw [TxStore.only_fresh, Function.update_eq_self]

section Only

variable (env : StartEnv) (p : P) (s : KeyServer Unit)

theorem only_conn : (only p s).conn p = s.conn () := by
  simp only [KeyServer.conn, only, TxStore.only_view, Function.update_self]

theorem only_alive (n : Nat) :
    Function.update (only p s).alive p n =
      (only p { s with alive := Function.update s.alive () n }).alive :=
  (Function.update_idem _ _ _).trans (by simp only [only, Function.update_self])

theorem only_exec (stmt : StmtEnv) (statement : TxStore P KeyTables → Option (TxStore P KeyTables))
    (own : TxStore Unit KeyTables → Option (TxStore Unit KeyTables))
    (same : statement (s.store.only p) = (own s.store).map (TxStore.only p)) :
    (only p s).exec stmt statement = (only p (s.exec stmt own).1, (s.exec stmt own).2) := by
  have same' : statement (only p s).store = (own s.store).map (TxStore.only p) := same
  unfold KeyServer.exec
  by_cases unprepared : stmt.prepare = false
  · rw [if_pos unprepared, if_pos unprepared]
  · rw [if_neg unprepared, if_neg unprepared, same']
    cases stmt.step with
    | false => rfl
    | true =>
      cases own s.store with
      | none => rfl
      | some store => rfl

/-- A connection that is alone is answered as the only one that there is. -/
theorem perform_only (op : KeyCall) :
    performCall env p (only p s) op =
      (only p (performCall env () s op).1, (performCall env () s op).2) := by
  cases op with
  | getKey moduleName keyType keyName =>
    unfold performCall
    dsimp only
    rw [only_conn, only_alive]
    rfl
  | generateKeys => rfl
  | beginTransaction =>
    exact only_exec p s _ (·.start p) (·.start ()) (TxStore.only_start p s.store)
  | storeKey moduleName keyType keyName keyValue =>
    unfold performCall
    dsimp only
    rw [only_conn, only_alive]
    exact congrArg (fun store => ((⟨store, _⟩ : KeyServer P), _))
      (TxStore.only_write p s.store _)
  | rollback =>
    exact only_exec p s _ (·.rollback p) (·.rollback ()) (TxStore.only_rollback p s.store)
  | endTransaction =>
    exact only_exec p s _ (·.commit p) (·.commit ()) (TxStore.only_commit p s.store)
  | close =>
    unfold performCall
    rw [only_alive]
    exact congrArg (fun store => ((⟨store, _⟩ : KeyServer P), ()))
      (TxStore.only_discard p s.store)

end Only

/-! ## Where a thread is -/

/-- The callback is running, and the mutex is given back after it. -/
def held (rest : KeyProg KeysResult) : ProcessProg KeysResult := do
  let result ← rest.within ProcessCall.key
  ProcessCall.unlock.ask
  return result

def holding (rest : KeyProg KeysResult) : ProcessProg (Option KeysResult) := do
  let result ← held rest
  return some result

/-- `init_sodium` has returned. -/
def entering (clientId : Clients) (info : KeysInfo) : ProcessProg (Option KeysResult) :=
  .call .lock fun _ => holding (handleKeys clientId info)

/-- `init_sodium` has found a failure. -/
def aborting : ProcessProg (Option KeysResult) := .call .abort fun _ => .ret none

theorem threadInit_eq (clientId : Clients) (info : KeysInfo) :
    threadInit clientId info =
      .call .sodiumInit fun rc => if rc = 0 then entering clientId info else aborting := by
  refine congrArg (Prog.call ProcessCall.sodiumInit) (funext fun rc => ?_)
  change Prog.bind (if rc ≠ 0 then _ else _) _ = _
  by_cases zero : rc = 0
  · rw [if_pos zero, if_neg (not_not_intro zero)]
    rfl
  · rw [if_neg zero, if_pos zero]
    rfl

/-- A thread that has not come through `init_sodium`. -/
inductive Outside (alive : Bool) (clientId : Clients) (info : KeysInfo) :
    ProcessProg (Option KeysResult) → Prop
  | calling : Outside alive clientId info (threadInit clientId info)
  | aborting : Outside alive clientId info aborting
  | aborted (down : alive = false) : Outside alive clientId info (.ret none)

theorem Outside.down {alive : Bool} {clientId : Clients} {info : KeysInfo}
    {program : ProcessProg (Option KeysResult)} (outside : Outside alive clientId info program) :
    Outside false clientId info program := by
  cases outside with
  | calling => exact .calling
  | aborting => exact .aborting
  | aborted _ => exact .aborted rfl

/-- What a call of a thread outside leaves of the process, and of the thread. -/
inductive OutsideCall (clientId : Clients) (info : KeysInfo) (s : Process P) :
    Process P → ProcessProg (Option KeysResult) → Prop
  | refused : OutsideCall clientId info s s aborting
  | aborts : OutsideCall clientId info s { s with alive := false } (.ret none)
  | comes (raw : s.sodium = false) :
      OutsideCall clientId info s { s with sodium := true } (entering clientId info)

theorem outside_call (env : ProcessEnv P) {p : P} {s : Process P} {clientId : Clients}
    {info : KeysInfo} {op : ProcessCall} {next : op.Reply → ProcessProg (Option KeysResult)}
    (outside : Outside s.alive clientId info (.call op next)) :
    OutsideCall clientId info s (s.perform env p op).1 (next (s.perform env p op).2) := by
  generalize asks : Prog.call op next = program at outside
  cases outside with
  | calling =>
    rw [threadInit_eq] at asks
    cases asks
    unfold Process.perform
    by_cases ready : s.sodium = true
    · simp only [if_pos ready]
      exact .refused
    · by_cases works : env.sodium p = true
      · simp only [if_neg ready, if_pos works]
        exact .comes (eq_false_of_ne_true ready)
      · simp only [if_neg ready, if_neg works]
        exact .refused
  | aborting =>
    cases asks
    exact .aborts
  | aborted _ => cases asks

section Threads

variable (env : ProcessEnv P) (client : P → Clients) (info : P → KeysInfo) (tables : KeyTables)

/-- The start of a thread. -/
def threadStart (p : P) : Start := ⟨client p, info p, env.starts p⟩

/-- What the start of a thread leaves that is run by itself. -/
def alone (p : P) : KeyServer Unit × KeysResult := runStart tables (threadStart env client info p)

/-- The thread that has come through. What is left of its start leads where the whole start
leads, and changes what is committed once if it has not done so. -/
inductive Inside (p : P) (s : Process P) : ProcessProg (Option KeysResult) → Prop
  | entering (free : s.mutex = none) (idle : s.server = .idle tables) :
      Inside p s (entering (client p) (info p))
  | holding (rest : KeyProg KeysResult) (server : KeyServer Unit) (locked : s.mutex = some p)
      (mine : s.server = only p server)
      (leads : Prog.run (performCall (env.starts p) ()) server rest =
        alone env client info tables p)
      (once : committed server = tables ∧ CommitsOnce (env.starts p) server rest ∨
        KeepsTables (env.starts p) server rest) :
      Inside p s (holding rest)
  | left (free : s.mutex = none) (mine : s.server = only p (alone env client info tables p).1) :
      Inside p s (.ret (some (alone env client info tables p).2))

/-- Nobody has come through, or one thread. -/
inductive Threaded (s : Threads P) : Prop
  | before (raw : s.shared.sodium = false) (free : s.shared.mutex = none)
      (idle : s.shared.server = .idle tables)
      (outside : ∀ p, Outside s.shared.alive (client p) (info p) (s.programs p))
  | through (p : P) (ready : s.shared.sodium = true)
      (inside : Inside env client info tables p s.shared (s.programs p))
      (outside : ∀ q, q ≠ p → Outside s.shared.alive (client q) (info q) (s.programs q))

variable {env client info tables}

theorem Inside.down {p : P} {s : Process P} {program : ProcessProg (Option KeysResult)}
    (inside : Inside env client info tables p s program) :
    Inside env client info tables p { s with alive := false } program := by
  cases inside with
  | entering free idle => exact .entering free idle
  | holding rest server locked mine leads once => exact .holding rest server locked mine leads once
  | left free mine => exact .left free mine

/-- Others stay outside. -/
theorem outside_update {alive : Bool} {programs : P → ProcessProg (Option KeysResult)} {q : P}
    {program : ProcessProg (Option KeysResult)} (among : P → Prop)
    (outside : ∀ p, among p → Outside alive (client p) (info p) (programs p))
    (now : Outside alive (client q) (info q) program) :
    ∀ p, among p → Outside alive (client p) (info p) (Function.update programs q program p) := by
  intro p member
  by_cases same : p = q
  · subst same
    rw [Function.update_self]
    exact now
  · rw [Function.update_of_ne same]
    exact outside p member

/-- One call of the thread that has come through. -/
theorem inside_step {p : P} {s : Process P} {op : ProcessCall}
    {next : op.Reply → ProcessProg (Option KeysResult)}
    (inside : Inside env client info tables p s (.call op next)) :
    (s.perform env p op).1.sodium = s.sodium ∧ (s.perform env p op).1.alive = s.alive ∧
      Inside env client info tables p (s.perform env p op).1 (next (s.perform env p op).2) := by
  generalize asks : Prog.call op next = program at inside
  cases inside with
  | entering free idle =>
    cases asks
    refine ⟨rfl, rfl, .holding _ (.idle tables) rfl ?_ rfl (.inl ⟨rfl, ?_⟩)⟩
    · exact idle.trans (only_idle p tables).symm
    · exact handleKeys_once (threadStart env client info p) tables
  | holding rest server locked mine leads once =>
    cases rest with
    | ret value =>
      cases asks
      refine ⟨rfl, rfl, ?_⟩
      have same : value = (alone env client info tables p).2 := congrArg Prod.snd leads
      rw [same]
      exact .left rfl (mine.trans (congrArg (fun ended => only p ended.1) leads))
    | call call rest =>
      cases asks
      have answers := perform_only (env.starts p) p server call
      rw [← mine] at answers
      refine ⟨rfl, rfl, ?_⟩
      have reply : (s.perform env p (.key call)).2 =
          (performCall (env.starts p) () server call).2 := congrArg Prod.snd answers
      rw [reply]
      refine .holding _ (performCall (env.starts p) () server call).1 locked
        (congrArg Prod.fst answers) leads ?_
      rcases once with ⟨before, ⟨same, once⟩ | keeps⟩ | ⟨_, keeps⟩
      · exact .inl ⟨same.trans before, once⟩
      · exact .inr keeps
      · exact .inr keeps
  | left free mine => cases asks

theorem threaded_step {s t : Threads P} (threaded : Threaded env client info tables s)
    (step : Prog.Step Process.enabled (Process.perform env) s t) :
    Threaded env client info tables t := by
  cases step with
  | call q op next asks through =>
    cases threaded with
    | before raw free idle outside =>
      have own := outside q
      rw [asks] at own
      have called := outside_call env (p := q) own
      generalize Process.perform env q s.shared op = answer at called
      obtain ⟨after, reply⟩ := answer
      dsimp only at called ⊢
      generalize next reply = rest at called
      cases called with
      | refused =>
        exact .before raw free idle fun p =>
          outside_update (fun _ => True) (fun p _ => outside p) .aborting p trivial
      | aborts =>
        exact .before raw free idle fun p =>
          outside_update (fun _ => True) (fun p _ => (outside p).down) (.aborted rfl) p trivial
      | comes _ =>
        refine .through q rfl ?_ ?_
        · dsimp only
          rw [Function.update_self]
          exact .entering free idle
        · intro p other
          dsimp only
          rw [Function.update_of_ne other]
          exact outside p
    | through p ready inside outside =>
      by_cases same : q = p
      · subst same
        rw [asks] at inside
        obtain ⟨sodium, alive, later⟩ := inside_step inside
        refine .through q (sodium.trans ready) ?_ ?_
        · dsimp only
          rw [Function.update_self]
          exact later
        · intro p other
          dsimp only
          rw [Function.update_of_ne other, alive]
          exact outside p other
      · have own := outside q same
        rw [asks] at own
        have called := outside_call env (p := q) own
        generalize Process.perform env q s.shared op = answer at called
        obtain ⟨after, reply⟩ := answer
        dsimp only at called ⊢
        generalize next reply = rest at called
        have kept : Function.update s.programs q rest p = s.programs p :=
          Function.update_of_ne (Ne.symm same) _ _
        cases called with
        | refused =>
          refine .through p ready ?_ (outside_update (· ≠ p) outside .aborting)
          dsimp only
          rw [kept]
          exact inside
        | aborts =>
          refine .through p ready ?_
            (outside_update (· ≠ p) (fun q other => (outside q other).down) (.aborted rfl))
          dsimp only
          rw [kept]
          exact inside.down
        | comes raw => cases ready.symm.trans raw

/-! ## Every run -/

/-- A thread outside goes on while the process is up. -/
theorem Outside.goes {s : Threads P} {p : P}
    (outside : Outside s.shared.alive (client p) (info p) (s.programs p))
    (up : s.shared.alive = true) :
    ∃ t, Prog.Step Process.enabled (Process.perform env) s t := by
  generalize asks : s.programs p = program at outside
  cases outside with
  | calling =>
    rw [threadInit_eq] at asks
    exact ⟨_, .call s p _ _ asks up⟩
  | aborting => exact ⟨_, .call s p _ _ asks up⟩
  | aborted down => cases up.symm.trans down

/-- What holds at any time: what is committed is as before or as one thread's start leaves it
alone; at most one thread has ended its start, as it does alone; a thread that was stopped has
stopped the process; nobody finds the mutex taken; and of two threads or more one can go on
until the process is stopped. -/
structure OneStart (env : ProcessEnv P) (client : P → Clients) (info : P → KeysInfo)
    (tables : KeyTables) (s : Threads P) : Prop where
  committed : s.shared.server.store.committed = tables ∨
    ∃ p, s.shared.server.store.committed = (alone env client info tables p).1.store.committed
  ended : ∀ p result, s.programs p = .ret (some result) →
    result = (alone env client info tables p).2 ∧
      s.shared.server.store.committed = (alone env client info tables p).1.store.committed
  one : ∀ p q result result', s.programs p = .ret (some result) →
    s.programs q = .ret (some result') → p = q
  stopped : ∀ p, s.programs p = .ret none → s.shared.alive = false
  free : ∀ p next, s.programs p = .call .lock next → s.shared.mutex = none
  goesOn : ∀ p q : P, p ≠ q → s.shared.alive = true →
    ∃ t, Prog.Step Process.enabled (Process.perform env) s t

theorem Outside.not_ended {alive : Bool} {clientId : Clients} {info : KeysInfo}
    {result : KeysResult} (outside : Outside alive clientId info (.ret (some result))) : False := by
  generalize ended : Prog.ret (some result) = program at outside
  cases outside with
  | calling =>
    rw [threadInit_eq] at ended
    cases ended
  | aborting => cases ended
  | aborted _ => cases ended

theorem Outside.stopped {alive : Bool} {clientId : Clients} {info : KeysInfo}
    (outside : Outside alive clientId info (.ret none)) : alive = false := by
  generalize ended : Prog.ret none = program at outside
  cases outside with
  | calling =>
    rw [threadInit_eq] at ended
    cases ended
  | aborting => cases ended
  | aborted down => exact down

theorem Outside.not_locking {alive : Bool} {clientId : Clients} {info : KeysInfo}
    {next : Unit → ProcessProg (Option KeysResult)}
    (outside : Outside alive clientId info (.call .lock next)) : False := by
  generalize asks : (Prog.call .lock next : ProcessProg (Option KeysResult)) = program at outside
  cases outside with
  | calling =>
    rw [threadInit_eq] at asks
    cases asks
  | aborting => cases asks
  | aborted _ => cases asks

theorem Inside.free {p : P} {s : Process P} {next : Unit → ProcessProg (Option KeysResult)}
    (inside : Inside env client info tables p s (.call .lock next)) : s.mutex = none := by
  generalize asks : (Prog.call .lock next : ProcessProg (Option KeysResult)) = program at inside
  cases inside with
  | entering free idle => exact free
  | holding rest server locked mine leads once =>
    cases rest with
    | ret value => cases asks
    | call call rest => cases asks
  | left free mine => cases asks

/-- Before its COMMIT a start has committed nothing, and after it everything. -/
theorem Inside.committed {p : P} {s : Process P} {program : ProcessProg (Option KeysResult)}
    (inside : Inside env client info tables p s program) :
    s.server.store.committed = tables ∨
      s.server.store.committed = (alone env client info tables p).1.store.committed := by
  cases inside with
  | entering free idle => exact .inl (congrArg (fun server => server.store.committed) idle)
  | holding rest server locked mine leads once =>
    have seen : s.server.store.committed = KilledStarts.committed server :=
      congrArg (fun server => server.store.committed) mine
    rcases once with ⟨before, _⟩ | keeps
    · exact .inl (seen.trans before)
    · exact .inr (seen.trans (keeps.run.symm.trans
        (congrArg (fun ended => KilledStarts.committed ended.1) leads)))
  | left free mine => exact .inr (congrArg (fun server => server.store.committed) mine)

/-- The thread inside goes on until it has ended. -/
theorem Inside.goes {p : P} {s : Threads P} (up : s.shared.alive = true)
    (inside : Inside env client info tables p s.shared (s.programs p)) :
    (∃ t, Prog.Step Process.enabled (Process.perform env) s t) ∨
      (s.programs p = .ret (some (alone env client info tables p).2) ∧
        s.shared.server = only p (alone env client info tables p).1) := by
  generalize asks : s.programs p = program at inside
  cases inside with
  | entering free idle => exact .inl ⟨_, .call s p _ _ asks ⟨up, free⟩⟩
  | holding rest server locked mine leads once =>
    cases rest with
    | ret value => exact .inl ⟨_, .call s p _ _ asks up⟩
    | call call rest => exact .inl ⟨_, .call s p _ _ asks up⟩
  | left free mine => exact .inr ⟨rfl, mine⟩

theorem Inside.ended {p : P} {s : Process P} {result : Option KeysResult}
    (inside : Inside env client info tables p s (.ret result)) :
    result = some (alone env client info tables p).2 ∧
      s.server.store.committed = (alone env client info tables p).1.store.committed := by
  generalize ended : Prog.ret result = program at inside
  cases inside with
  | entering free idle => cases ended
  | holding rest server locked mine leads once =>
    cases rest with
    | ret value => cases ended
    | call call rest => cases ended
  | left free mine =>
    cases ended
    exact ⟨rfl, congrArg (fun server => server.store.committed) mine⟩

theorem Threaded.oneStart {s : Threads P} (threaded : Threaded env client info tables s) :
    OneStart env client info tables s := by
  cases threaded with
  | before raw free idle outside =>
    have nobody {p : P} {result : KeysResult} (ended : s.programs p = .ret (some result)) :
        False := by
      have own := outside p
      rw [ended] at own
      exact own.not_ended
    refine ⟨.inl (congrArg (fun server => server.store.committed) idle), ?_, ?_, ?_, ?_, ?_⟩
    · exact fun p result ended => (nobody ended).elim
    · exact fun p q result result' ended _ => (nobody ended).elim
    · intro p stopped
      have own := outside p
      rw [stopped] at own
      exact own.stopped
    · exact fun _ _ _ => free
    · exact fun p q _ up => (outside p).goes up
  | through p ready inside outside =>
    have only_p {q : P} {result : KeysResult} (ended : s.programs q = .ret (some result)) :
        q = p := by
      by_contra other
      have own := outside q other
      rw [ended] at own
      exact own.not_ended
    refine ⟨inside.committed.imp id fun same => ⟨p, same⟩, ?_, ?_, ?_, ?_, ?_⟩
    · intro q result ended
      obtain rfl := only_p ended
      rw [ended] at inside
      obtain ⟨same, committed⟩ := inside.ended
      exact ⟨Option.some.inj same, committed⟩
    · exact fun q r result result' ended ended' => (only_p ended).trans (only_p ended').symm
    · intro q stopped
      by_cases same : q = p
      · subst same
        rw [stopped] at inside
        cases inside.ended.1
      · have own := outside q same
        rw [stopped] at own
        exact own.stopped
    · intro q next locks
      by_cases same : q = p
      · subst same
        rw [locks] at inside
        exact inside.free
      · have own := outside q same
        rw [locks] at own
        exact own.not_locking.elim
    · intro q r different up
      rcases inside.goes up with goes | _
      · exact goes
      · by_cases same : q = p
        · exact (outside r fun same' => different (same.trans same'.symm)).goes up
        · exact (outside q same).goes up

end Threads

/-- For any number of threads of a process, each with any module and any failures, for every
content of the tables and whatever the order of the calls. -/
theorem one_start_a_process (env : ProcessEnv P) (client : P → Clients) (info : P → KeysInfo)
    (tables : KeyTables) (s : Threads P)
    (reached : Prog.Reaches Process.enabled (Process.perform env)
      (callingThreads client info tables) s) :
    OneStart env client info tables s := by
  refine (reached.keeps (Threaded env client info tables) (fun _ _ => threaded_step) ?_).oneStart
  exact .before rfl rfl rfl fun _ => .calling

/-- `enabled`, as a check. -/
def enabledCheck (_ : Bool) (s : Process Bool) : ProcessCall → Bool
  | .lock => s.alive && s.mutex.isNone
  | _ => s.alive

theorem enabledCheck_sound (p : Bool) (s : Process Bool) (op : ProcessCall)
    (check : enabledCheck p s op = true) : Process.enabled p s op := by
  cases op with
  | lock =>
    obtain ⟨up, free⟩ := Bool.and_eq_true_iff.mp check
    exact ⟨up, Option.isNone_iff_eq_none.mp free⟩
  | sodiumInit | abort | unlock | key => exact check

/-- Two threads that generate a pair each, and nothing fails. -/
def twoThreadsEnv : ProcessEnv Bool :=
  ⟨fun _ => true, ConcurrentStart.quiet ConcurrentStart.twoPairs ""⟩

/-- One thread has come to its COMMIT when the other one calls `module_init`. -/
def stoppedMidway : Threads Bool :=
  (List.replicate 8 false ++ [true, true]).foldl
    (Prog.System.advance (Process.perform twoThreadsEnv))
    (callingThreads (fun _ => .PEER) (fun _ => ⟨.CURVE25519, none, none, false⟩) .empty)

/-- The process is stopped and has committed nothing. -/
theorem two_threads_stop :
    (stoppedMidway.shared.alive = false ∧
      stoppedMidway.shared.server.store.committed.rows = []) ∧
    OneStart twoThreadsEnv (fun _ => .PEER) (fun _ => ⟨.CURVE25519, none, none, false⟩) .empty
      stoppedMidway := by
  have pass : Prog.passes enabledCheck (Process.perform twoThreadsEnv)
      (callingThreads (fun _ => .PEER) (fun _ => ⟨.CURVE25519, none, none, false⟩) .empty)
      (List.replicate 8 false ++ [true, true]) = true := by
    decide +kernel
  exact ⟨by decide +kernel, one_start_a_process _ _ _ _ _
    (Prog.reaches_of_passes enabledCheck_sound pass)⟩

end FifthD.Guarantees.ThreadStarts
