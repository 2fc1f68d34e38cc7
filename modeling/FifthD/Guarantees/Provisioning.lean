import FifthD.Guarantees.ProvisioningStep
import Mathlib.Data.List.Induction

/-!
# Restarts of a module on one database

`_handle_keys` is run any number of times, by any modules, each time on a connection of
its own and with any of its calls failing. What one start commits is one of three things:
nothing, a whole generated pair, or only its private key; the last happens exactly when
the write of the public key fails and everything after it succeeds.
-/
namespace FifthD.Guarantees.Provisioning

open FifthD.Library FifthD.Source FifthD.Spec FifthD.Guarantees.KeyStore
open FifthD.Guarantees.ProvisioningStep

/-- One start of a module. -/
structure Start where
  client : Clients
  info : KeysInfo
  env : StartEnv

/-- Run a start on the committed tables. -/
def runStart (tables : KeyTables) (start : Start) : KeyServer Unit × KeysResult :=
  Prog.run (performCall start.env ()) (.idle tables) (handleKeys start.client start.info)

/-- Closing the connection is the last step and does not change the result. -/
theorem runStart_result (tables : KeyTables) (start : Start) :
    (runStart tables start).2 = (Prog.run (performCall start.env ()) (.idle tables)
      (switchKeyType start.client start.info)).2 := by
  unfold runStart handleKeys
  rw [Prog.run_bind]
  rfl

/-- What is committed after starts, one after the other. -/
def committedAfter (tables : KeyTables) (starts : List Start) : KeyTables :=
  starts.foldl (fun tables start => (runStart tables start).1.store.committed) tables

/-! ## What one start commits -/

/-- Only the private key of a generated pair is added: its write and the commit run, and
the write of the public key fails, as a statement or because the row exists. -/
structure HalfWritten (env : StartEnv) (client : Clients) (pub prv : CurveKey)
    (before : KeyMap KeyTriple Bytes) : Prop where
  publicFails : Runs (env.faults (writeCall (publicName client) pub)) 5 →
    before (publicName client).triple ≠ none
  privateRuns : Runs (env.faults (writeCall (privateName client) prv)) 5
  privateAbsent : before (privateName client).triple = none
  commits : Runs (env.faults .endTransaction) 0

/-- A map with a generated pair added. -/
def addPair (m : KeyMap KeyTriple Bytes) (client : Clients) (pub prv : CurveKey) :
    KeyMap KeyTriple Bytes :=
  Function.update (Function.update m (publicName client).triple (some ⟨pub.bytes, true⟩))
    (privateName client).triple (some ⟨prv.bytes, true⟩)

/-- What the transaction of a generated pair commits. -/
inductive PairEffect (half : Prop) (client : Clients) (pub prv : CurveKey)
    (before after : KeyMap KeyTriple Bytes) : Prop
  | unchanged (same : after = before) (whole : ¬ half)
  | pair (publicAbsent : before (publicName client).triple = none)
    (privateAbsent : before (privateName client).triple = none)
    (added : after = addPair before client pub prv) (whole : ¬ half)
  | half (missed : half) (privateAbsent : before (privateName client).triple = none)
    (added : after =
      Function.update before (privateName client).triple (some ⟨prv.bytes, true⟩))

/-- The result says whether the private row was added. -/
def TellsPrivate (client : Clients) (info : KeysInfo) (before after : KeyMap KeyTriple Bytes)
    (result : KeysResult) : Prop :=
  ∃ ret, result = .leave ret info ∧
    (ret = true ↔ after (privateName client).triple ≠ before (privateName client).triple)

theorem tellsPrivate_unchanged {client : Clients} (info : KeysInfo)
    {before after : KeyMap KeyTriple Bytes} (same : after = before) :
    TellsPrivate client info before after (.leave false info) := by
  refine ⟨false, rfl, ?_⟩
  simp [same]

theorem tellsPrivate_added {client : Clients} (info : KeysInfo)
    {before after : KeyMap KeyTriple Bytes} {entry : Entry Bytes}
    (absent : before (privateName client).triple = none)
    (added : after (privateName client).triple = some entry) :
    TellsPrivate client info before after (.leave true info) := by
  refine ⟨true, rfl, ?_⟩
  simp [absent, added]

/-- What the transaction of a generated pair commits and returns. -/
structure PairOutcome (half : Prop) (client : Clients) (info : KeysInfo) (pub prv : CurveKey)
    (before : KeyMap KeyTriple Bytes) (ended : KeyServer Unit × KeysResult) : Prop where
  effect : PairEffect half client pub prv before (view ended.1.store.committed)
  tells : TellsPrivate client info before (view ended.1.store.committed) ended.2

variable (env : StartEnv) (client : Clients) {info : KeysInfo} (pub prv : CurveKey)

/-- What is committed behind a write of the private key that ran: with the public key the
whole pair, else half of it. -/
theorem pairEffect_of_writes {env client pub prv} {before middle : KeyMap KeyTriple Bytes}
    {ret : VoidResult}
    (first : WriteEffect (Runs (env.faults (writeCall (publicName client) pub)) 5) before middle
      (publicName client).triple pub ret)
    (ran : Runs (env.faults (writeCall (privateName client) prv)) 5)
    (absent : before (privateName client).triple = none)
    (commits : Runs (env.faults .endTransaction) 0) :
    PairEffect (HalfWritten env client pub prv before) client pub prv before
      (Function.update middle (privateName client).triple (some ⟨prv.bytes, true⟩)) := by
  cases first with
  | added runs _ fresh write =>
    refine .pair fresh absent ?_ (fun half => half.publicFails runs fresh)
    rw [write, addPair]
  | refused _ same fails =>
    refine .half ⟨fails, ran, absent, commits⟩ absent ?_
    rw [same]

/-- Inside a transaction that has written nothing. -/
theorem writePair_outcome (s : KeyServer Unit) (curve : info.keyType = .CURVE25519)
    (opened : s.store.begun () = true) (clean : s.store.view () = s.store.committed) :
    PairOutcome (HalfWritten env client pub prv (view s.store.committed)) client info pub prv
      (view s.store.committed)
      (Prog.run (performCall env ()) s (writePair client info pub.buffer prv.buffer)) := by
  rw [writePair_eq client curve]
  obtain ⟨d, s1, writePub, eq1, store1, first⟩ :=
    performWrite_effect env () s (publicName client) pub
  obtain ⟨writer1, begun1, committed1⟩ := TxStore.write_of_begun opened d
  rw [← store1] at writer1 begun1 committed1
  have opened1 : s1.store.begun () = true := by rw [begun1, opened]
  obtain ⟨d', s2, writePrv, eq2, store2, second⟩ :=
    performWrite_effect env () s1 (privateName client) prv
  obtain ⟨writer2, begun2, committed2⟩ := TxStore.write_of_begun opened1 d'
  rw [← store2] at writer2 begun2 committed2
  have opened2 : s2.store.begun () = true := by rw [begun2, opened1]
  have kept : s2.store.committed = s.store.committed := committed2.trans committed1
  rw [clean] at first
  rw [TxStore.view_of_writer writer1] at second
  rw [KeyCall.ask, Prog.run_ask_bind eq1, KeyCall.ask, Prog.run_ask_bind eq2, Bool.or_self]
  have samePrivate : view d (privateName client).triple =
      view s.store.committed (privateName client).triple :=
    first.elsewhere (public_ne_private client).symm
  cases second with
  | refused failed _ taken =>
    obtain ⟨s3, ret, eq3, ended⟩ := performRollback_effect env () s2 opened2
    rw [if_pos failed, KeyCall.ask, Prog.run_ask_bind eq3, Prog.run_pure]
    have same : view s3.store.committed = view s.store.committed := by
      rcases ended with rolledBack | ⟨_, stuck⟩
      · rw [rolledBack, TxStore.discard_committed, kept]
      · rw [stuck, kept]
    refine ⟨.unchanged same (fun half => ?_), tellsPrivate_unchanged info same⟩
    exact taken half.privateRuns (samePrivate.trans half.privateAbsent)
  | added ran ok absent entry =>
    rw [samePrivate] at absent
    subst ok
    obtain ⟨s3, ret, eq3, ended⟩ := performCommit_effect env () s2 opened2
    rw [if_neg (by simp [isErr]), KeyCall.ask, Prog.run_ask_bind eq3]
    rcases ended with ⟨rfl, commits, committed⟩ | ⟨failed, stops, stuck⟩
    · rw [if_neg (by simp [isErr]), Prog.run_pure]
      obtain ⟨t, ran', _, seen⟩ := TxStore.commit_of_begun opened2
      cases committed.symm.trans ran'
      have after : view s3.store.committed =
          Function.update (view d) (privateName client).triple (some ⟨prv.bytes, true⟩) := by
        rw [seen, TxStore.view_of_writer writer2, entry]
      constructor
      · rw [after]
        exact pairEffect_of_writes first ran absent commits
      · apply tellsPrivate_added info absent
        rw [after]
        exact Function.update_self _ _ _
    · rw [if_pos failed, Prog.run_pure]
      have same : view s3.store.committed = view s.store.committed := by rw [stuck, kept]
      refine ⟨.unchanged same (fun half => stops half.commits), tellsPrivate_unchanged info same⟩

/-- Outside a transaction. -/
theorem storePair_outcome (s : KeyServer Unit) (curve : info.keyType = .CURVE25519)
    (idle : s.store.begun () = false) :
    PairOutcome (Runs (env.faults .beginTransaction) 0 ∧
        HalfWritten env client pub prv (view s.store.committed)) client info pub prv
      (view s.store.committed)
      (Prog.run (performCall env ()) s (storePair client info pub.buffer prv.buffer)) := by
  unfold storePair
  obtain ⟨s1, ret, eq1, begin_⟩ := performBegin_effect env () s idle
  rw [KeyCall.ask, Prog.run_ask_bind eq1]
  rcases begin_ with ⟨rfl, runs, started⟩ | ⟨failed, stops, stuck⟩
  · rw [if_neg (by simp [isErr])]
    obtain ⟨t, ran, opened, committed, writer⟩ := TxStore.start_of_not_begun idle
    cases started.symm.trans ran
    have clean : s1.store.view () = s1.store.committed := by
      apply TxStore.view_of_not_writer
      rw [writer]
      exact TxStore.not_writer_of_not_begun idle
    obtain ⟨effect, tells⟩ := writePair_outcome env client pub prv s1 curve opened clean
    rw [committed] at effect tells
    refine ⟨?_, tells⟩
    cases effect with
    | unchanged same whole => exact .unchanged same fun half => whole half.2
    | pair publicAbsent privateAbsent added whole =>
      exact .pair publicAbsent privateAbsent added fun half => whole half.2
    | half missed privateAbsent added => exact .half ⟨runs, missed⟩ privateAbsent added
  · rw [if_pos failed, Prog.run_pure]
    have same : view s1.store.committed = view s.store.committed := by rw [stuck]
    exact ⟨.unchanged same fun half => stops half.1, tellsPrivate_unchanged info same⟩

/-- The start adds a private key without its public key: the key type is the curve's, a
pair is generated, BEGIN succeeds, the write of the public key fails, as a statement or
because the row exists, the private row is absent, and its write and the COMMIT succeed. -/
def MissedWrite (before : KeyMap KeyTriple Bytes) (start : Start) : Prop :=
  start.info.keyType = .CURVE25519 ∧
    ∃ pub prv, start.env.generated = some (pub, prv) ∧
      Runs (start.env.faults .beginTransaction) 0 ∧
      HalfWritten start.env start.client pub prv before

/-- What a start commits. -/
inductive StartEffect (start : Start) (before after : KeyMap KeyTriple Bytes) : Prop
  | unchanged (same : after = before) (whole : ¬ MissedWrite before start)
  | generated (pub prv : CurveKey) (keys : start.env.generated = some (pub, prv))
    (effect : PairEffect (MissedWrite before start) start.client pub prv before after)

/-- A start that generates keys: it stores them, outside a transaction. -/
theorem generatePair_outcome (start : Start) (s : KeyServer Unit)
    (curve : start.info.keyType = .CURVE25519) (idle : s.store.begun () = false)
    {pub prv : CurveKey} (keys : start.env.generated = some (pub, prv)) :
    PairOutcome (MissedWrite (view s.store.committed) start) start.client
      (start.info.init.setKeys pub.buffer prv.buffer) pub prv (view s.store.committed)
      (Prog.run (performCall start.env ()) s (generatePair start.client start.info.init)) := by
  unfold generatePair
  have answers : performCall start.env () s .generateKeys = (s, start.env.generated) := rfl
  rw [KeyCall.ask, Prog.run_ask_bind answers, keys]
  have missed : (Runs (start.env.faults .beginTransaction) 0 ∧
      HalfWritten start.env start.client pub prv (view s.store.committed)) =
        MissedWrite (view s.store.committed) start := by
    unfold MissedWrite
    rw [keys]
    simp [curve]
  rw [← missed]
  exact storePair_outcome start.env start.client pub prv s curve idle

/-- A start that generates no keys frees its buffers. -/
theorem generatePair_failed (start : Start) (s : KeyServer Unit)
    (keys : start.env.generated = none) :
    Prog.run (performCall start.env ()) s (generatePair start.client start.info.init) =
      (s, ⟨false, start.info.init.deinit, false, []⟩) := by
  unfold generatePair
  have answers : performCall start.env () s .generateKeys = (s, start.env.generated) := rfl
  rw [KeyCall.ask, Prog.run_ask_bind answers, keys]
  rfl

/-- A start whose reads did not find both keys. -/
theorem generatePair_effect (start : Start) (s : KeyServer Unit)
    (curve : start.info.keyType = .CURVE25519) (idle : s.store.begun () = false) :
    StartEffect start (view s.store.committed)
      (view (Prog.run (performCall start.env ()) s
        (generatePair start.client start.info.init)).1.store.committed) := by
  cases keys : start.env.generated with
  | none =>
    rw [generatePair_failed start s keys]
    apply StartEffect.unchanged rfl
    intro missed
    obtain ⟨_, pub, prv, generated, _⟩ := missed
    rw [keys] at generated
    cases generated
  | some pair =>
    obtain ⟨pub, prv⟩ := pair
    exact .generated pub prv keys (generatePair_outcome start s curve idle keys).effect

/-- A key that was read is not absent, so its pair is not half written. -/
theorem not_missed_of_read {start : Start} {tables : KeyTables} {value : Bytes}
    (read : Reads start.env tables (privateName start.client) value) :
    ¬ MissedWrite (view tables) start := by
  rintro ⟨_, _, _, _, _, half⟩
  have readable := ((reads_iff _ _ _ _).mp read).2
  unfold KeyMap.get at readable
  rw [half.privateAbsent] at readable
  cases readable

theorem switchKeyType_effect (start : Start) (tables : KeyTables) :
    StartEffect start (view tables) (view (Prog.run (performCall start.env ()) (.idle tables)
      (switchKeyType start.client start.info)).1.store.committed) := by
  unfold switchKeyType
  split
  · next curve =>
    obtain ⟨s, found, ran, store, reads⟩ :=
      getZmqCurveKeys_run start.env () (.idle tables) start.client
    rw [Prog.run_bind, ran]
    have committed : s.store.committed = tables := by rw [store]; rfl
    cases found with
    | none =>
      have effect := generatePair_effect start s curve (by rw [store]; rfl)
      rw [committed] at effect
      exact effect
    | some pair =>
      obtain ⟨pub, prv⟩ := pair
      obtain ⟨_, privateRead⟩ := (reads pub prv).mp rfl
      refine .unchanged ?_ (not_missed_of_read privateRead)
      rw [← committed]
      rfl
  · next other =>
    refine .unchanged rfl ?_
    rintro ⟨curve, _⟩
    exact other curve

theorem runStart_effect (tables : KeyTables) (start : Start) :
    StartEffect start (view tables) (view (runStart tables start).1.store.committed) := by
  have effect := switchKeyType_effect start tables
  unfold runStart handleKeys
  rw [Prog.run_bind]
  exact effect

/-! ## Runs of starts -/

theorem committedAfter_snoc (tables : KeyTables) (past : List Start) (start : Start) :
    committedAfter tables (past ++ [start]) =
      (runStart (committedAfter tables past) start).1.store.committed := by
  unfold committedAfter
  rw [List.foldl_append]
  rfl

/-- The names of a client are bound to rows of its own. -/
theorem triple_ne_of_client {client other : Clients} (different : client ≠ other)
    (name name' : KeyName) (own : name.moduleName = CLIENTS_IDS client)
    (others : name'.moduleName = CLIENTS_IDS other) : name.triple ≠ name'.triple := by
  intro same
  have modules : bindText (CLIENTS_IDS client) = bindText (CLIENTS_IDS other) := by
    rw [← own, ← others]
    exact congrArg Prod.fst same
  revert modules different
  cases client <;> cases other <;> decide

/-- A start touches the rows of its own client only. -/
theorem startEffect_frame {start : Start} {before after : KeyMap KeyTriple Bytes}
    (effect : StartEffect start before after) {triple : KeyTriple}
    (notPublic : triple ≠ (publicName start.client).triple)
    (notPrivate : triple ≠ (privateName start.client).triple) : after triple = before triple := by
  cases effect with
  | unchanged same _ => rw [same]
  | generated pub prv _ effect =>
    cases effect with
    | unchanged same _ => rw [same]
    | pair _ _ added _ =>
      rw [added, addPair, Function.update_of_ne notPrivate, Function.update_of_ne notPublic]
    | half _ _ added => rw [added, Function.update_of_ne notPrivate]

/-- Two tables have the same rows of a client. -/
structure SameRows (client : Clients) (before after : KeyMap KeyTriple Bytes) : Prop where
  publicRow : after (publicName client).triple = before (publicName client).triple
  privateRow : after (privateName client).triple = before (privateName client).triple

theorem sameRows_of_other {start : Start} {before after : KeyMap KeyTriple Bytes}
    (effect : StartEffect start before after) {client : Clients} (other : client ≠ start.client) :
    SameRows client before after := by
  constructor
  · apply startEffect_frame effect
    · exact triple_ne_of_client other _ _ rfl rfl
    · exact triple_ne_of_client other _ _ rfl rfl
  · apply startEffect_frame effect
    · exact triple_ne_of_client other _ _ rfl rfl
    · exact triple_ne_of_client other _ _ rfl rfl

/-- A start that does not miss the public key leaves a client's rows, or adds both. -/
theorem whole_effect {start : Start} {before after : KeyMap KeyTriple Bytes}
    (effect : StartEffect start before after) (client : Clients)
    (whole : start.client = client → ¬ MissedWrite before start) :
    SameRows client before after ∨
      start.client = client ∧ ∃ pub prv, start.env.generated = some (pub, prv) ∧
        before (publicName client).triple = none ∧ before (privateName client).triple = none ∧
        after (publicName client).triple = some ⟨pub.bytes, true⟩ ∧
        after (privateName client).triple = some ⟨prv.bytes, true⟩ := by
  by_cases other : client = start.client
  · subst other
    cases effect with
    | unchanged same _ => exact .inl ⟨by rw [same], by rw [same]⟩
    | generated pub prv keys effect =>
      cases effect with
      | unchanged same _ => exact .inl ⟨by rw [same], by rw [same]⟩
      | pair publicAbsent privateAbsent added _ =>
        right
        refine ⟨rfl, pub, prv, keys, publicAbsent, privateAbsent, ?_, ?_⟩
        · rw [added, addPair, Function.update_of_ne (public_ne_private start.client),
            Function.update_self]
        · rw [added, addPair, Function.update_self]
      | half missed _ _ => exact absurd missed (whole rfl)
  · exact .inl (sameRows_of_other effect other)

/-! ## Atomic provisioning -/

/-- A row is committed that was not there. -/
def Adds (before after : KeyTables) (name : KeyName) : Prop :=
  view before name.triple = none ∧ view after name.triple ≠ none

/-- Both rows of a client are there, with these values. -/
def HoldsPair (tables : KeyTables) (client : Clients) (pub prv : Bytes) : Prop :=
  (∃ active, view tables (publicName client).triple = some ⟨pub, active⟩) ∧
    ∃ active, view tables (privateName client).triple = some ⟨prv, active⟩

/-- The pair was there at the beginning, or one start of the client generated it. -/
def OneGeneration (client : Clients) (tables : KeyTables) (starts : List Start) (pub prv : Bytes) :
    Prop :=
  HoldsPair tables client pub prv ∨
    ∃ start ∈ starts, start.client = client ∧
      ∃ a b, start.env.generated = some (a, b) ∧ pub = a.bytes ∧ prv = b.bytes

/-- What a start after others commits for a client: both rows or neither, and never keys
of two generations. -/
structure PairAtomic (client : Clients) (tables : KeyTables) (past : List Start) (start : Start) :
    Prop where
  together :
    Adds (committedAfter tables past) (committedAfter tables (past ++ [start]))
        (publicName client) ↔
      Adds (committedAfter tables past) (committedAfter tables (past ++ [start]))
        (privateName client)
  oneGeneration : ∀ pub prv, HoldsPair (committedAfter tables (past ++ [start])) client pub prv →
    OneGeneration client tables (past ++ [start]) pub prv

theorem OneGeneration.snoc {client : Clients} {tables : KeyTables} {past : List Start}
    {pub prv : Bytes} (one : OneGeneration client tables past pub prv) (start : Start) :
    OneGeneration client tables (past ++ [start]) pub prv := by
  rcases one with held | ⟨earlier, member, generated⟩
  · exact .inl held
  · exact .inr ⟨earlier, List.mem_append_left _ member, generated⟩

/-- One start that does not miss the public key keeps the values of one generation. -/
theorem oneGeneration_step {client : Clients} {tables : KeyTables} {past : List Start}
    {start : Start}
    (whole : start.client = client → ¬ MissedWrite (view (committedAfter tables past)) start)
    (before : ∀ pub prv, HoldsPair (committedAfter tables past) client pub prv →
      OneGeneration client tables past pub prv) {pub prv : Bytes}
    (held : HoldsPair (committedAfter tables (past ++ [start])) client pub prv) :
    OneGeneration client tables (past ++ [start]) pub prv := by
  have effect := runStart_effect (committedAfter tables past) start
  unfold HoldsPair at held
  rw [committedAfter_snoc] at held
  obtain ⟨⟨active, publicHeld⟩, active', privateHeld⟩ := held
  rcases whole_effect effect client whole with
    same | ⟨own, a, b, keys, _, _, publicAdded, privateAdded⟩
  · rw [same.publicRow] at publicHeld
    rw [same.privateRow] at privateHeld
    exact (before pub prv ⟨⟨active, publicHeld⟩, active', privateHeld⟩).snoc start
  · rw [publicAdded] at publicHeld
    rw [privateAdded] at privateHeld
    cases publicHeld
    cases privateHeld
    have member : start ∈ past ++ [start] :=
      List.mem_append_right _ (List.mem_singleton_self _)
    exact .inr ⟨start, member, own, a, b, keys, rfl, rfl⟩

/-- After starts none of which misses the public key, the values are of one generation. -/
theorem oneGeneration_run {client : Clients} {tables : KeyTables} {starts : List Start}
    (whole : ∀ past start later, starts = past ++ start :: later → start.client = client →
      ¬ MissedWrite (view (committedAfter tables past)) start) :
    ∀ pub prv, HoldsPair (committedAfter tables starts) client pub prv →
      OneGeneration client tables starts pub prv := by
  induction starts using List.reverseRecOn with
  | nil => exact fun pub prv held => .inl held
  | append_singleton past start ih =>
    intro pub prv held
    refine oneGeneration_step (whole past start [] rfl) (ih ?_) held
    intro past' start' later split
    exact whole past' start' (later ++ [start]) (by rw [split]; simp)

/-- The rows of a start that does not miss the public key are added together. -/
theorem adds_together {client : Clients} {before after : KeyTables} {start : Start}
    (effect : StartEffect start (view before) (view after))
    (whole : start.client = client → ¬ MissedWrite (view before) start) :
    Adds before after (publicName client) ↔ Adds before after (privateName client) := by
  unfold Adds
  rcases whole_effect effect client whole with
    same | ⟨_, a, b, _, publicAbsent, privateAbsent, publicAdded, privateAdded⟩
  · rw [same.publicRow, same.privateRow]
    simp
  · rw [publicAbsent, privateAbsent, publicAdded, privateAdded]
    simp

/-- A start that misses the public key adds the private row alone. -/
theorem missed_adds_alone {before after : KeyTables} {start : Start}
    (effect : StartEffect start (view before) (view after))
    (missed : MissedWrite (view before) start) :
    Adds before after (privateName start.client) ∧
      ¬ Adds before after (publicName start.client) := by
  cases effect with
  | unchanged _ whole => exact absurd missed whole
  | generated pub prv _ effect =>
    cases effect with
    | unchanged _ whole => exact absurd missed whole
    | pair _ _ _ whole => exact absurd missed whole
    | half _ privateAbsent added =>
      unfold Adds
      rw [added, Function.update_self, Function.update_of_ne (public_ne_private start.client)]
      exact ⟨⟨privateAbsent, by simp⟩, fun adds => adds.2 adds.1⟩

/-- For every content of the tables and every sequence of starts, of any modules and with
any of their calls failing: each start commits both rows of a client or neither, and
keys of one generation only, if and only if no start of the client misses the write of
the public key. -/
theorem provisioning_atomic_iff (client : Clients) (tables : KeyTables) (starts : List Start) :
    (∀ past start later, starts = past ++ start :: later →
      PairAtomic client tables past start) ↔
    ∀ past start later, starts = past ++ start :: later → start.client = client →
      ¬ MissedWrite (view (committedAfter tables past)) start := by
  constructor
  · rintro atomic past start later split rfl missed
    obtain ⟨together, _⟩ := atomic past start later split
    have effect := runStart_effect (committedAfter tables past) start
    rw [← committedAfter_snoc] at effect
    obtain ⟨added, alone⟩ := missed_adds_alone effect missed
    exact alone (together.mpr added)
  · intro whole past start later split
    have effect := runStart_effect (committedAfter tables past) start
    rw [← committedAfter_snoc] at effect
    constructor
    · exact adds_together effect (whole past start later split)
    · apply oneGeneration_run
      intro past' start' later' split'
      apply whole past' start' (later' ++ later)
      rw [split, List.append_cons, split']
      simp

/-- A start of the peer that generates a pair; nothing fails but constraints. -/
def healthyStart : Start where
  client := .PEER
  info := ⟨.CURVE25519, none, none, false⟩
  env := ⟨some (keyB, keyC), fun _ => .ok ""⟩

/-- The tables with the peer's public key, of 40 times the character 65, and nothing
else. -/
def onlyPublicKey : KeyTables :=
  (storeKey (.ok "") (publicName .PEER).moduleName .CURVE25519 publicKey
    (.ofText (List.replicate 40 65)) none ⟨.empty, 0⟩).2.tables

/-- From a public key without its private key, one start in which nothing fails commits
the private key of another pair next to it. -/
theorem private_key_of_another_pair :
    view onlyPublicKey (privateName .PEER).triple = none ∧
      HoldsPair (committedAfter onlyPublicKey [healthyStart]) .PEER (List.replicate 40 65)
        (List.replicate 40 67) ∧
      ¬ PairAtomic .PEER onlyPublicKey [] healthyStart := by
  have absent : view onlyPublicKey (privateName .PEER).triple = none := by decide +kernel
  have publicHeld : view onlyPublicKey (publicName .PEER).triple =
      some ⟨List.replicate 40 65, true⟩ := by decide +kernel
  have publicKept : view (committedAfter onlyPublicKey [healthyStart]) (publicName .PEER).triple =
      some ⟨List.replicate 40 65, true⟩ := by decide +kernel
  have privateAdded :
      view (committedAfter onlyPublicKey [healthyStart]) (privateName .PEER).triple =
        some ⟨List.replicate 40 67, true⟩ := by decide +kernel
  refine ⟨absent, ⟨⟨true, publicKept⟩, true, privateAdded⟩, fun atomic => ?_⟩
  have added : Adds onlyPublicKey (committedAfter onlyPublicKey [healthyStart])
      (privateName .PEER) := by
    refine ⟨absent, ?_⟩
    rw [privateAdded]
    exact Option.some_ne_none _
  have publicAbsent : view onlyPublicKey (publicName .PEER).triple = none :=
    (atomic.together.mpr added).1
  rw [publicHeld] at publicAbsent
  cases publicAbsent

end FifthD.Guarantees.Provisioning
