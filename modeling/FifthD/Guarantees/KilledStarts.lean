import FifthD.Guarantees.ConcurrentStart
import FifthD.Guarantees.Provisioning
import FifthD.Library.Crash

/-!
# Starts that are killed

A process that runs `_handle_keys` can die between any two of its calls; the database then
gives up its transaction, and the next start finds what was committed. One start commits
with its COMMIT alone, so that starts of which some are killed have the effect of some of
them run to their ends. Concurrent first starts agree although any of them are killed, in
the middle of a transaction too, when nothing fails but constraints and `generate_keys` and
an insert waits for the lock as long as it must. The code gives up after five seconds
(core/5thdsql.cpp:51): a first insert that has given up, behind a process that is then
killed, leaves a private row alone and a start that returns true.
-/
namespace FifthD.Guarantees.KilledStarts

open FifthD.Library FifthD.Source FifthD.Spec FifthD.Guarantees.KeyStore
open FifthD.Guarantees.ProvisioningStep FifthD.Guarantees.Provisioning

/-! ## Starts, one after the other -/

section OneAfterAnother

/-- What the database keeps of a process that is gone. -/
abbrev committed (s : KeyServer Unit) : KeyTables := s.store.committed

variable (env : StartEnv) {s : KeyServer Unit}

/-- Nothing a start does from here changes what is committed. -/
abbrev KeepsTables {α : Type} (s : KeyServer Unit) (program : KeyProg α) : Prop :=
  Prog.Keeps committed (performCall env ()) s program

/-- From here a start changes what is committed with one call at most. -/
abbrev CommitsOnce {α : Type} (s : KeyServer Unit) (program : KeyProg α) : Prop :=
  Prog.ChangesOnce committed (performCall env ()) s program

variable {env}

theorem keeps_reads (client : Clients) : KeepsTables env s (getZmqCurveKeys client) := by
  rw [getZmqCurveKeys_eq]
  obtain ⟨s1, publicResult, eq1, store1, _⟩ := performRead_effect env () s (publicName client)
  apply Prog.Keeps.ask_bind eq1 (congrArg TxStore.committed store1)
  obtain ⟨s2, privateResult, eq2, store2, _⟩ := performRead_effect env () s1 (privateName client)
  apply Prog.Keeps.ask_bind eq2 (congrArg TxStore.committed store2)
  cases publicResult with
  | error => trivial
  | ok => cases privateResult <;> trivial

/-- In a transaction: the two writes stay in it, and its end is the last call. -/
theorem writePair_once {info : KeysInfo} (client : Clients) (pub prv : CurveKey)
    (curve : info.keyType = .CURVE25519) (opened : s.store.begun () = true) :
    CommitsOnce env s (writePair client info pub.buffer prv.buffer) := by
  rw [writePair_eq client curve]
  obtain ⟨d, s1, writePub, eq1, store1, _⟩ :=
    performWrite_effect env () s (publicName client) pub
  obtain ⟨_, begun1, committed1⟩ := TxStore.write_of_begun opened d
  rw [← store1] at begun1 committed1
  apply Prog.ChangesOnce.ask_bind eq1 committed1
  have opened1 : s1.store.begun () = true := by rw [begun1, opened]
  obtain ⟨d', s2, writePrv, eq2, store2, _⟩ :=
    performWrite_effect env () s1 (privateName client) prv
  obtain ⟨_, begun2, committed2⟩ := TxStore.write_of_begun opened1 d'
  rw [← store2] at begun2 committed2
  apply Prog.ChangesOnce.ask_bind eq2 committed2
  have opened2 : s2.store.begun () = true := by rw [begun2, opened1]
  split
  · obtain ⟨s3, ret, eq3, ended⟩ := performRollback_effect env () s2 opened2
    have same : committed s3 = committed s2 := by
      rcases ended with rolledBack | ⟨_, stuck⟩
      · unfold committed
        rw [rolledBack, TxStore.discard_committed]
      · exact congrArg TxStore.committed stuck
    exact Prog.ChangesOnce.ask_bind eq3 same trivial
  · obtain ⟨s3, ret, eq3, _⟩ := performCommit_effect env () s2 opened2
    apply Prog.ChangesOnce.last eq3
    split <;> trivial

theorem generatePair_once {info : KeysInfo} (client : Clients)
    (curve : info.keyType = .CURVE25519) (idle : s.store.begun () = false) :
    CommitsOnce env s (generatePair client info) := by
  unfold generatePair
  have answers : performCall env () s .generateKeys = (s, env.generated) := rfl
  apply Prog.ChangesOnce.ask_bind answers rfl
  cases env.generated with
  | none => trivial
  | some pair =>
    obtain ⟨pub, prv⟩ := pair
    dsimp only
    unfold storePair
    obtain ⟨s1, ret, eq1, begin_⟩ := performBegin_effect env () s idle
    rcases begin_ with ⟨rfl, _, started⟩ | ⟨failed, _, stuck⟩
    · obtain ⟨t, ran, opened, same, _⟩ := TxStore.start_of_not_begun idle
      cases started.symm.trans ran
      apply Prog.ChangesOnce.ask_bind eq1 same
      rw [if_neg (by simp [isErr])]
      exact writePair_once client pub prv curve opened
    · apply Prog.ChangesOnce.ask_bind eq1 (congrArg TxStore.committed stuck)
      rw [if_pos failed]
      trivial

/-- A start changes what is committed with one of its calls at most. -/
theorem handleKeys_once (start : Start) (tables : KeyTables) :
    CommitsOnce start.env (.idle tables) (handleKeys start.client start.info) := by
  unfold handleKeys
  refine Prog.ChangesOnce.bind ?_ fun t result => ⟨rfl, trivial⟩
  unfold switchKeyType
  split
  · next curve =>
    refine Prog.Keeps.bind_once (keeps_reads start.client) ?_
    obtain ⟨t, found, ran, store, _⟩ :=
      getZmqCurveKeys_run start.env () (.idle tables) start.client
    rw [ran]
    cases found with
    | some pair => trivial
    | none =>
      apply generatePair_once start.client curve
      rw [store]
      rfl
  · trivial

/-- What is committed after a start that is killed after some of its calls, or not. -/
def committedAfterKill (tables : KeyTables) (killed : Start × Option Nat) : KeyTables :=
  match killed.2 with
  | none => (runStart tables killed.1).1.store.committed
  | some calls =>
    committed (Prog.stateAfter (performCall killed.1.env ()) calls (.idle tables)
      (handleKeys killed.1.client killed.1.info))

/-- For every content of the tables and every sequence of starts, of any modules, with any
of their calls failing and each killed after any number of calls or not at all: what is
committed is what some of the starts commit that run to their ends, among them all that
were not killed. -/
theorem killed_starts_refine (tables : KeyTables) (kills : List (Start × Option Nat)) :
    ∃ done : List (Start × Option Nat),
      (kills.filter fun killed => killed.2.isNone).Sublist done ∧ done.Sublist kills ∧
        kills.foldl committedAfterKill tables =
          committedAfter tables (done.map Prod.fst) :=
  Prog.cut_sessions_refine (fun _ => rfl) (fun tables start => handleKeys_once start tables)
    tables kills

end OneAfterAnother

/-! ## Starts at once -/

section AtOnce

open FifthD.Guarantees.ConcurrentStart

variable {P : Type*} [DecidableEq P]

/-- The processes that run `_handle_keys`; one that was killed has no result. -/
abbrev MortalProcesses (P : Type*) :=
  Prog.System (KeyServer P) P KeyCall KeyCall.Reply (Option KeysResult)

/-- Every process at the start of `_handle_keys`. -/
def startingMortal (client : Clients) (info : P → KeysInfo) (tables : KeyTables) :
    MortalProcesses P :=
  ⟨.idle tables, fun p => some <$> handleKeys client (info p)⟩

/-- A process is gone: its connection is closed, with the transaction it has begun. -/
def kill (p : P) (s : KeyServer P) : KeyServer P :=
  ⟨s.store.discard p, Function.update s.alive p 0⟩

/-- Any interleaving, with any processes killed at any point. -/
abbrev InterleavesKilled (generated : P → Option (CurveKey × CurveKey)) (errmsg : String)
    (s t : MortalProcesses P) : Prop :=
  Prog.CrashReaches enabled (answer generated errmsg) kill none s t

/-- What a process may end with that can be killed: its result, if it has one, is as
allowed, and it holds no transaction. -/
structure EndsMortal (generated : P → Option (CurveKey × CurveKey)) (p : P)
    (result : Option KeysResult) (s : KeyServer P) (winner : Option P) : Prop where
  ends : ∀ ended, result = some ended → Ends generated p ended winner
  released : s.store.begun p = false

variable {client : Clients} {generated : P → Option (CurveKey × CurveKey)} {errmsg : String}

/-- A process that gives up its transaction and ends. -/
theorem safe_released {p : P} {result : Option KeysResult} {s : KeyServer P} {winner : Option P}
    (ends : ∀ ended, result = some ended → Ends generated p ended winner)
    (released : s.store.begun p = false) :
    SafeAt client generated errmsg p (EndsMortal generated p) (pure result) s winner := by
  cases result with
  | none =>
    apply Prog.Safe.pure (fun s _ => s.store.begun p = false) (stable_begun false) released
    intro t k _ released
    refine ⟨fun ended absent => ?_, released⟩
    cases absent
  | some result =>
    apply Prog.Safe.pure
      (fun s winner => Ends generated p result winner ∧ s.store.begun p = false)
      ((stable_ends result).and (stable_begun false)) ⟨ends result rfl, released⟩
    intro t k _ both
    obtain ⟨ends, released⟩ := both
    refine ⟨fun ended same => ?_, released⟩
    cases same
    exact ends

/-- `_handle_keys` ends without a transaction: its last call closes the connection. -/
theorem safe_closed {p : P} (info : KeysInfo) {s : KeyServer P} {winner : Option P}
    (decided : Decided client generated s winner) (ready : s.store.begun p = false) :
    SafeAt client generated errmsg p
      (fun result s winner => Ends generated p result winner ∧ s.store.begun p = false)
      (handleKeys client info) s winner := by
  unfold handleKeys
  apply Prog.Safe.bind decided (safe_switchKeyType info decided ready)
  intro result t k _ ends
  apply safe_call (fun _ winner => Ends generated p result winner) (stable_ends result) ends
  intro t k _ ends _
  refine ⟨_, (), rfl, TxStore.apart_discard _ _, TxStore.discard_committed _ _, ?_⟩
  exact Prog.Safe.pure
    (fun s winner => Ends generated p result winner ∧ s.store.begun p = false)
    ((stable_ends result).and (stable_begun false)) ⟨ends, Function.update_self _ _ _⟩
    fun _ _ _ both => both

theorem safe_mortal {p : P} (info : KeysInfo) {s : KeyServer P} {winner : Option P}
    (decided : Decided client generated s winner) (ready : s.store.begun p = false) :
    SafeAt client generated errmsg p (EndsMortal generated p)
      (some <$> handleKeys client info) s winner := by
  apply Prog.Safe.bind decided (safe_closed info decided ready)
  intro result t k _ both
  obtain ⟨ends, released⟩ := both
  refine safe_released (fun ended same => ?_) released
  cases same
  exact ends

/-- A killed process changes nothing that is committed and has ended as allowed. -/
theorem kill_moves (p : P) (s : KeyServer P) (winner : Option P)
    (decided : Decided client generated s winner) :
    Move p s winner (kill p s) winner ∧ Decided client generated (kill p s) winner ∧
      SafeAt client generated errmsg p (EndsMortal generated p)
        (.ret none : KeyProg (Option KeysResult)) (kill p s) winner := by
  refine ⟨⟨TxStore.apart_discard _ _, .inl ⟨rfl, rfl⟩⟩, decided, ?_⟩
  refine safe_released (fun ended absent => ?_) (Function.update_self _ _ _)
  cases absent

omit [DecidableEq P] in
/-- Under one winner the committed pair is the same. -/
theorem held_of_winner {s t : KeyServer P} {winner : P}
    (before : Decided client generated s (some winner))
    (after : Decided client generated t (some winner)) {pub prv : CurveKey}
    (held : HoldsKeys client s.store.committed pub prv) :
    HoldsKeys client t.store.committed pub prv := by
  obtain ⟨a, b, keys, heldBefore⟩ := before
  obtain ⟨a', b', keys', heldAfter⟩ := after
  cases keys.symm.trans keys'
  constructor
  · rw [heldAfter.publicRow, ← heldBefore.publicRow, held.publicRow]
  · rw [heldAfter.privateRow, ← heldBefore.privateRow, held.privateRow]

/-- What holds at any time: there are no rows, or one process's pair; a committed pair
stays; at most one process returned true; who returned true, or found both keys, has the
committed pair in its buffers; and who has ended or was killed holds up nobody. -/
structure KilledAgreement (client : Clients) (generated : P → Option (CurveKey × CurveKey))
    (errmsg : String) (s : MortalProcesses P) : Prop where
  onePair : NoKeys client s.shared.store.committed ∨
    ∃ q pub prv, generated q = some (pub, prv) ∧
      HoldsKeys client s.shared.store.committed pub prv
  stays : ∀ t pub prv, InterleavesKilled generated errmsg s t →
    HoldsKeys client s.shared.store.committed pub prv →
    HoldsKeys client t.shared.store.committed pub prv
  oneTrue : ∀ p q result result', s.programs p = .ret (some result) →
    s.programs q = .ret (some result') → result.ret = true → result'.ret = true → p = q
  buffers : ∀ p result, s.programs p = .ret (some result) →
    result.ret = true ∨ result.found = true →
    ∃ pub prv, HoldsKeys client s.shared.store.committed pub prv ∧
      InBuffers result.info pub prv
  unlocked : ∀ p result, s.programs p = .ret result → ∀ d, s.shared.store.writer ≠ some (p, d)

/-- For any number of processes that start on a database without rows of the client, any
interleaving of their calls, and any of them killed between any of their calls, when nothing
fails but constraints and `generate_keys` and inserts wait for the lock as long as they must. -/
theorem killed_starts_agree (client : Clients) (info : P → KeysInfo)
    (generated : P → Option (CurveKey × CurveKey)) (errmsg : String) (tables : KeyTables)
    (noKeys : NoKeys client tables) (s : MortalProcesses P)
    (reached : InterleavesKilled generated errmsg (startingMortal client info tables) s) :
    KilledAgreement client generated errmsg s := by
  have start : (contract client generated).inv (startingMortal client info tables).shared none :=
    noKeys
  obtain ⟨winner, decided, _, safe⟩ := @Prog.CrashReaches.safe _ _ _ _ _ _ _ enabled
    (answer generated errmsg) kill none (contract client generated)
    (fun p => EndsMortal generated p) _ s none reached start
    (fun p => safe_mortal (info p) start rfl) kill_moves (fun _ _ => True) trivial
    (fun _ _ _ _ _ _ _ => trivial)
  have ended : ∀ p result, s.programs p = .ret result →
      EndsMortal generated p result s.shared winner := by
    intro p result returned
    have own := safe p
    rw [returned] at own
    obtain ⟨A, _, now, allowed⟩ := own
    exact allowed _ _ decided now
  constructor
  · rcases winner_of_row decided with ⟨_, noKeys⟩ | ⟨q, pub, prv, _, keys, held⟩
    · exact .inl noKeys
    · exact .inr ⟨q, pub, prv, keys, held⟩
  · intro t pub prv later held
    cases winner with
    | none => cases (NoKeys.publicRow decided).symm.trans held.publicRow
    | some q =>
      obtain ⟨winner', decided', rfl, _⟩ := later.safe decided safe kill_moves
        (fun _ winner => winner = some q) rfl (by
          rintro p s winner t winner' ⟨_, moves⟩ rfl
          rcases moves with ⟨rfl, _⟩ | ⟨absent, _⟩
          · rfl
          · cases absent)
      exact held_of_winner decided decided' held
  · intro p q result result' returned returned' claims claims'
    have first := ((ended p _ returned).ends result rfl).won claims
    have second := ((ended q _ returned').ends result' rfl).won claims'
    exact Option.some.inj (first.symm.trans second)
  · intro p result returned claims
    obtain ⟨q, pub, prv, rfl, keys, inBuffers⟩ :=
      ((ended p _ returned).ends result rfl).agrees claims
    obtain ⟨a, b, keys', held⟩ := decided
    cases keys.symm.trans keys'
    exact ⟨pub, prv, held, inBuffers⟩
  · intro p result returned
    exact TxStore.not_writer_of_not_begun (ended p result returned).released

/-- Two first starts of the peer. -/
def mortalRace : MortalProcesses Bool :=
  startingMortal .PEER (fun _ => ⟨.CURVE25519, none, none, false⟩) .empty

/-- One process has written both its keys and not committed them. -/
def beforeKill : MortalProcesses Bool :=
  (List.replicate 6 false).foldl (Prog.System.advance (answer twoPairs "")) mortalRace

/-- It is killed there. -/
def killedMidway : MortalProcesses Bool :=
  ⟨kill false beforeKill.shared, Function.update beforeKill.programs false (.ret none)⟩

/-- The other process runs to its end. -/
def afterKill : MortalProcesses Bool :=
  (List.replicate 8 true).foldl (Prog.System.advance (answer twoPairs "")) killedMidway

/-- The process that was not killed returns true. -/
theorem survivor_agrees :
    (afterKill.programs true).returned.map (Option.map KeysResult.ret) = some (some true) ∧
      KilledAgreement .PEER twoPairs "" afterKill := by
  have ended : (afterKill.programs true).returned.map (Option.map KeysResult.ret) =
      some (some true) := by
    decide +kernel
  have first : Prog.passes enabledCheck (answer twoPairs "") mortalRace
      (List.replicate 6 false) = true := by
    decide +kernel
  have running : (beforeKill.programs false).returned.isNone := by
    decide +kernel
  have second : Prog.passes enabledCheck (answer twoPairs "") killedMidway
      (List.replicate 8 true) = true := by
    decide +kernel
  have reached : InterleavesKilled twoPairs "" mortalRace afterKill :=
    ((Prog.CrashReaches.of_reaches kill none
      (Prog.reaches_of_passes enabledCheck_sound first)).trans
      (Prog.CrashReaches.of_running enabled (answer twoPairs "") kill none running)).trans
      (Prog.CrashReaches.of_reaches kill none
        (Prog.reaches_of_passes enabledCheck_sound second))
  have noKeys : NoKeys .PEER Table.empty := ⟨rfl, rfl⟩
  exact ⟨ended, killed_starts_agree .PEER _ twoPairs "" .empty noKeys afterKill reached⟩

end AtOnce

end FifthD.Guarantees.KilledStarts
