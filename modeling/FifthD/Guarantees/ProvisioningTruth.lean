import FifthD.Guarantees.StoredIdentity

/-!
# What the result of `_handle_keys` says

The result and `is_ready` against the committed rows and the key buffers, for every
content of the tables and any failures. Keys that are found are loaded, and reported as
a failure: the assignment of the result stands inside the branch for missing keys. Keys
that are generated are reported by the write of the private key alone.
-/
namespace FifthD.Guarantees.ProvisioningTruth

open FifthD.Library FifthD.Source FifthD.Spec FifthD.Guarantees.KeyStore
open FifthD.Guarantees.ProvisioningStep FifthD.Guarantees.Provisioning
open FifthD.Guarantees.StoredIdentity

/-- Both rows of a client are active, with these values. -/
def ActivePair (m : KeyMap KeyTriple Bytes) (client : Clients) (pub prv : Bytes) : Prop :=
  m (publicName client).triple = some ⟨pub, true⟩ ∧
    m (privateName client).triple = some ⟨prv, true⟩

/-- Both rows of a client are active, and their values are the first 40 bytes of the
buffers. -/
def BuffersHold (m : KeyMap KeyTriple Bytes) (client : Clients) (info : KeysInfo) : Prop :=
  ∃ publicBuffer privateBuffer, info.curvePub = some publicBuffer ∧
    info.curvePrv = some privateBuffer ∧
    ActivePair m client (publicBuffer.bytes.take 40) (privateBuffer.bytes.take 40)

/-- The start returns true and sets `is_ready` exactly when the buffers hold the rows. -/
def TellsTruth (tables : KeyTables) (start : Start) : Prop :=
  ((runStart tables start).2.ret = true ∧ (runStart tables start).2.info.isReady = true) ↔
    BuffersHold (view (runStart tables start).1.store.committed) start.client
      (runStart tables start).2.info

/-- Both rows are active, and no SQLite call of the two reads fails. -/
def FindsKeys (m : KeyMap KeyTriple Bytes) (start : Start) : Prop :=
  Runs (start.env.faults (readCall (publicName start.client))) 3 ∧
    Runs (start.env.faults (readCall (privateName start.client))) 3 ∧
    ∃ pub prv, ActivePair m start.client pub prv

/-! ## The two ways of a start -/

/-- The reads find both keys exactly when both rows are active and nothing fails. -/
theorem findsKeys_iff (tables : KeyTables) (start : Start) :
    FindsKeys (view tables) start ↔ ∃ pub prv,
      Reads start.env tables (publicName start.client) pub ∧
        Reads start.env tables (privateName start.client) prv := by
  constructor
  · intro finds
    obtain ⟨publicRuns, privateRuns, pub, prv, publicThere, privateThere⟩ := finds
    refine ⟨pub, prv, ?_, ?_⟩
    · exact (reads_iff _ _ _ _).mpr ⟨publicRuns, (KeyMap.get_eq_some_iff _ _ _).mpr publicThere⟩
    · exact (reads_iff _ _ _ _).mpr ⟨privateRuns, (KeyMap.get_eq_some_iff _ _ _).mpr privateThere⟩
  · intro reads
    obtain ⟨pub, prv, publicRead, privateRead⟩ := reads
    obtain ⟨publicRuns, publicThere⟩ := (reads_iff _ _ _ _).mp publicRead
    obtain ⟨privateRuns, privateThere⟩ := (reads_iff _ _ _ _).mp privateRead
    exact ⟨publicRuns, privateRuns, pub, prv, (KeyMap.get_eq_some_iff _ _ _).mp publicThere,
      (KeyMap.get_eq_some_iff _ _ _).mp privateThere⟩

/-- Closing the connection commits nothing. -/
theorem runStart_committed (tables : KeyTables) (start : Start) :
    (runStart tables start).1.store.committed =
      (Prog.run (performCall start.env ()) (.idle tables)
        (switchKeyType start.client start.info)).1.store.committed := by
  unfold runStart handleKeys
  rw [Prog.run_bind]
  rfl

/-- A start of a curve key goes one of two ways: the reads find both keys and the tables
stay as they are, or a pair is generated. -/
theorem runStart_ways {tables : KeyTables} {start : Start}
    (curve : start.info.keyType = .CURVE25519) :
    (FindsKeys (view tables) start ∧ (runStart tables start).1.store.committed = tables) ∨
      (¬ FindsKeys (view tables) start ∧ ∃ s : KeyServer Unit,
        s.store = (KeyServer.idle tables).store ∧
        (runStart tables start).2 = (Prog.run (performCall start.env ()) s
          (generatePair start.client start.info.init)).2 ∧
        (runStart tables start).1.store.committed = (Prog.run (performCall start.env ()) s
          (generatePair start.client start.info.init)).1.store.committed) := by
  obtain ⟨s, found, ran, store, reads⟩ :=
    getZmqCurveKeys_run start.env () (.idle tables) start.client
  rw [findsKeys_iff, runStart_committed, runStart_result]
  unfold switchKeyType
  rw [curve]
  dsimp only
  rw [Prog.run_bind, ran]
  cases found with
  | some pair =>
    left
    refine ⟨⟨pair.1, pair.2, (reads pair.1 pair.2).mp rfl⟩, ?_⟩
    change s.store.committed = tables
    rw [store]
    rfl
  | none =>
    right
    refine ⟨?_, s, store, rfl, rfl⟩
    intro found
    obtain ⟨pub, prv, both⟩ := found
    cases (reads pub prv).mpr both

/-! ## Keys that are found -/

/-- The buffers after loading start with the values, when these have 40 bytes. -/
theorem write_take {value : Bytes} (size : value.length = 40) (buffer : KeyBuffer) :
    (buffer.write value).bytes.take 40 = value := by
  rw [keyBuffer_write_bytes buffer (by omega), ← size, List.take_left]

/-- A start that finds its keys loads them and reports a failure. -/
theorem not_tellsTruth_of_found {tables : KeyTables} {start : Start}
    (curve : start.info.keyType = .CURVE25519) (finds : FindsKeys (view tables) start)
    (kept : (runStart tables start).1.store.committed = tables)
    (publicSize : ∀ entry, view tables (publicName start.client).triple = some entry →
      entry.value.length = 40)
    (privateSize : ∀ entry, view tables (privateName start.client).triple = some entry →
      entry.value.length = 40) : ¬ TellsTruth tables start := by
  obtain ⟨publicRuns, privateRuns, pub, prv, publicThere, privateThere⟩ := finds
  have publicRead : Reads start.env tables (publicName start.client) pub :=
    (reads_iff _ _ _ _).mpr ⟨publicRuns, (KeyMap.get_eq_some_iff _ _ _).mpr publicThere⟩
  have privateRead : Reads start.env tables (privateName start.client) prv :=
    (reads_iff _ _ _ _).mpr ⟨privateRuns, (KeyMap.get_eq_some_iff _ _ _).mpr privateThere⟩
  intro truth
  unfold TellsTruth at truth
  rw [kept, runStart_of_reads curve publicRead privateRead] at truth
  have holds : BuffersHold (view tables) start.client (loadKeys start.info.init pub prv).info := by
    refine ⟨_, _, rfl, rfl, ?_⟩
    rw [write_take (publicSize _ publicThere), write_take (privateSize _ privateThere)]
    exact ⟨publicThere, privateThere⟩
  have reported := (truth.mpr holds).1
  cases reported

/-! ## Keys that are generated -/

/-- The generated pair is not what the tables hold already, and when only its private
key is added the public row holds its public key. -/
def StoresWell (m : KeyMap KeyTriple Bytes) (start : Start) : Prop :=
  ∀ pub prv, start.env.generated = some (pub, prv) →
    ¬ ActivePair m start.client pub.bytes prv.bytes ∧
      (MissedWrite m start → m (publicName start.client).triple = some ⟨pub.bytes, true⟩)

/-- The key in the buffer that `zmq_curve_keypair` has written. -/
theorem buffer_take (key : CurveKey) : key.buffer.bytes.take 40 = key.bytes := by
  unfold CurveKey.buffer
  rw [← key.length_eq, List.take_left]

/-- The buffers hold the rows when these are the generated pair. -/
theorem buffersHold_generated (m : KeyMap KeyTriple Bytes) (client : Clients) (ret : Bool)
    (info : KeysInfo) (pub prv : CurveKey) :
    BuffersHold m client (KeysResult.leave ret (info.setKeys pub.buffer prv.buffer)).info ↔
      ActivePair m client pub.bytes prv.bytes := by
  constructor
  · intro holds
    obtain ⟨publicBuffer, privateBuffer, publicIs, privateIs, active⟩ := holds
    obtain rfl : pub.buffer = publicBuffer := Option.some.inj publicIs
    obtain rfl : prv.buffer = privateBuffer := Option.some.inj privateIs
    rw [buffer_take, buffer_take] at active
    exact active
  · intro active
    refine ⟨pub.buffer, prv.buffer, rfl, rfl, ?_⟩
    rw [buffer_take, buffer_take]
    exact active

/-- The result of a generated pair is true to the rows exactly when the pair was not
there before, and a missed public key stands in its row. -/
theorem pairOutcome_truth {start : Start} {info : KeysInfo} {pub prv : CurveKey}
    {before : KeyMap KeyTriple Bytes} {ended : KeyServer Unit × KeysResult}
    (outcome : PairOutcome (MissedWrite before start) start.client
      (info.setKeys pub.buffer prv.buffer) pub prv before ended) :
    ((ended.2.ret = true ∧ ended.2.info.isReady = true) ↔
        BuffersHold (view ended.1.store.committed) start.client ended.2.info) ↔
      ¬ ActivePair before start.client pub.bytes prv.bytes ∧
        (MissedWrite before start →
          before (publicName start.client).triple = some ⟨pub.bytes, true⟩) := by
  obtain ⟨effect, ret, result, added⟩ := outcome
  have reported : (ended.2.ret = true ∧ ended.2.info.isReady = true) ↔ ret = true := by
    rw [result]
    exact and_self_iff
  rw [reported, result, buffersHold_generated, added]
  unfold ActivePair
  cases effect with
  | unchanged same whole => simp [same, whole]
  | pair publicAbsent privateAbsent both whole =>
    rw [both]
    simp [addPair, publicAbsent, privateAbsent, whole, public_ne_private]
  | half missed privateAbsent alone =>
    rw [alone]
    simp [privateAbsent, missed, public_ne_private]

/-- For every content of the tables in which the client's two rows hold 40 bytes, every
client and any failures: a start of a curve key tells the truth if and only if its reads
do not find both keys and, if it generates a pair, this is not the active pair already
there and its public key is in its row when the write of that row is missed. -/
theorem handleKeys_truth_iff (tables : KeyTables) (start : Start)
    (curve : start.info.keyType = .CURVE25519)
    (publicSize : ∀ entry, view tables (publicName start.client).triple = some entry →
      entry.value.length = 40)
    (privateSize : ∀ entry, view tables (privateName start.client).triple = some entry →
      entry.value.length = 40) :
    TellsTruth tables start ↔
      ¬ FindsKeys (view tables) start ∧ StoresWell (view tables) start := by
  rcases runStart_ways curve with ⟨finds, kept⟩ | ⟨missing, s, store, result, committed⟩
  · have lies := not_tellsTruth_of_found curve finds kept publicSize privateSize
    simp [lies, finds]
  · have fresh : s.store.committed = tables := by
      rw [store]
      rfl
    unfold TellsTruth
    rw [result, committed]
    cases keys : start.env.generated with
    | none =>
      rw [generatePair_failed start s keys]
      have stores : StoresWell (view tables) start := by
        intro pub prv generated
        rw [keys] at generated
        cases generated
      simp [missing, stores, BuffersHold, KeysInfo.deinit]
    | some pair =>
      obtain ⟨pub, prv⟩ := pair
      have outcome := generatePair_outcome start s curve (by rw [store]; rfl) keys
      rw [pairOutcome_truth outcome, fresh]
      unfold StoresWell
      simp [keys, missing]

/-- The rows of the stored pair. -/
theorem storedPair_rows :
    view storedPair (publicName .PEER).triple = some ⟨List.replicate 40 65, true⟩ ∧
      view storedPair (privateName .PEER).triple = some ⟨List.replicate 40 68, true⟩ := by
  decide +kernel

/-- Both values of the stored pair have 40 bytes. -/
theorem storedPair_sizes :
    (∀ entry, view storedPair (publicName .PEER).triple = some entry → entry.value.length = 40) ∧
      ∀ entry, view storedPair (privateName .PEER).triple = some entry →
        entry.value.length = 40 := by
  constructor
  · intro entry there
    cases storedPair_rows.1.symm.trans there
    rfl
  · intro entry there
    cases storedPair_rows.2.symm.trans there
    rfl

/-- A start on the stored pair. -/
theorem stored_pair_truth :
    TellsTruth storedPair healthyStart ↔
      ¬ FindsKeys (view storedPair) healthyStart ∧ StoresWell (view storedPair) healthyStart := by
  apply handleKeys_truth_iff storedPair healthyStart rfl
  · exact storedPair_sizes.1
  · exact storedPair_sizes.2

/-- A start on a stored pair, in which nothing fails, loads the pair into its buffers and
returns false. -/
theorem loaded_pair_reported_failed :
    (view storedPair (publicName .PEER).triple = some ⟨List.replicate 40 65, true⟩ ∧
      view storedPair (privateName .PEER).triple = some ⟨List.replicate 40 68, true⟩) ∧
      (runStart storedPair healthyStart).2.ret = false ∧ ¬ TellsTruth storedPair healthyStart := by
  refine ⟨storedPair_rows, by decide +kernel, ?_⟩
  have finds : FindsKeys (view storedPair) healthyStart :=
    ⟨runs_ok "" 3, runs_ok "" 3, _, _, storedPair_rows⟩
  rcases @runStart_ways storedPair healthyStart rfl with
    ⟨_, kept⟩ | ⟨missing, _⟩
  · exact not_tellsTruth_of_found rfl finds kept storedPair_sizes.1 storedPair_sizes.2
  · exact absurd finds missing

end FifthD.Guarantees.ProvisioningTruth
