import FifthD.Guarantees.Provisioning

/-!
# A stored identity is never rotated

Once both rows of a client exist, no start of any module changes them, whatever fails:
an insert on a taken name is refused, and nothing else in a start writes. A start whose
reads return both rows copies exactly their values into the key buffers.
-/
namespace FifthD.Guarantees.StoredIdentity

open FifthD.Library FifthD.Source FifthD.Spec FifthD.Guarantees.KeyStore
open FifthD.Guarantees.ProvisioningStep FifthD.Guarantees.Provisioning

/-- One start leaves both rows of a client that has them. -/
theorem runStart_keeps {tables : KeyTables} {start : Start} {client : Clients}
    {publicEntry privateEntry : Entry Bytes}
    (publicThere : view tables (publicName client).triple = some publicEntry)
    (privateThere : view tables (privateName client).triple = some privateEntry) :
    view (runStart tables start).1.store.committed (publicName client).triple =
        some publicEntry ∧
      view (runStart tables start).1.store.committed (privateName client).triple =
        some privateEntry := by
  have effect := runStart_effect tables start
  have whole : start.client = client → ¬ MissedWrite (view tables) start := by
    rintro rfl ⟨_, _, _, _, _, half⟩
    cases privateThere.symm.trans half.privateAbsent
  rcases whole_effect effect client whole with same | ⟨_, _, _, _, publicAbsent, _⟩
  · rw [same.publicRow, same.privateRow]
    exact ⟨publicThere, privateThere⟩
  · cases publicThere.symm.trans publicAbsent

/-- The rows survive any number of starts. -/
theorem committedAfter_keeps {tables : KeyTables} {client : Clients}
    {publicEntry privateEntry : Entry Bytes} (starts : List Start)
    (publicThere : view tables (publicName client).triple = some publicEntry)
    (privateThere : view tables (privateName client).triple = some privateEntry) :
    view (committedAfter tables starts) (publicName client).triple = some publicEntry ∧
      view (committedAfter tables starts) (privateName client).triple = some privateEntry := by
  induction starts generalizing tables with
  | nil => exact ⟨publicThere, privateThere⟩
  | cons start rest ih =>
    obtain ⟨publicKept, privateKept⟩ :=
      @runStart_keeps _ start _ _ _ publicThere privateThere
    exact ih publicKept privateKept

/-- What a start returns whose reads return both keys. -/
theorem runStart_of_reads {tables : KeyTables} {start : Start} {pub prv : Bytes}
    (curve : start.info.keyType = .CURVE25519)
    (publicRead : Reads start.env tables (publicName start.client) pub)
    (privateRead : Reads start.env tables (privateName start.client) prv) :
    (runStart tables start).2 = loadKeys start.info.init pub prv := by
  obtain ⟨s, found, ran, _, reads⟩ :=
    getZmqCurveKeys_run start.env () (.idle tables) start.client
  have both : found = some (pub, prv) := (reads pub prv).mpr ⟨publicRead, privateRead⟩
  have switched : Prog.run (performCall start.env ()) (.idle tables)
      (switchKeyType start.client start.info) = (s, loadKeys start.info.init pub prv) := by
    unfold switchKeyType
    rw [curve]
    dsimp only
    rw [Prog.run_bind, ran, both]
    rfl
  rw [runStart_result, switched]

/-- For every content of the tables in which both rows of a client exist, and every
sequence of starts of any modules with any of their calls failing: both rows keep their
value and their mark, and a later start of the client whose reads return both keys leaves
exactly the stored bytes in its buffers. -/
theorem stored_identity_kept (tables : KeyTables) (client : Clients)
    (publicEntry privateEntry : Entry Bytes) (starts : List Start)
    (publicThere : view tables (publicName client).triple = some publicEntry)
    (privateThere : view tables (privateName client).triple = some privateEntry) :
    (view (committedAfter tables starts) (publicName client).triple = some publicEntry ∧
      view (committedAfter tables starts) (privateName client).triple = some privateEntry) ∧
    ∀ info env pub prv, info.keyType = .CURVE25519 →
      Reads env (committedAfter tables starts) (publicName client) pub →
      Reads env (committedAfter tables starts) (privateName client) prv →
      publicEntry.value.length ≤ 41 → privateEntry.value.length ≤ 41 →
      ∃ publicBuffer privateBuffer,
        (runStart (committedAfter tables starts) ⟨client, info, env⟩).2.info.curvePub =
            some publicBuffer ∧
          (runStart (committedAfter tables starts) ⟨client, info, env⟩).2.info.curvePrv =
            some privateBuffer ∧
          publicBuffer.bytes = publicEntry.value ++
            KeyBuffer.allocated.bytes.drop publicEntry.value.length ∧
          privateBuffer.bytes = privateEntry.value ++
            KeyBuffer.allocated.bytes.drop privateEntry.value.length := by
  have kept := committedAfter_keeps starts publicThere privateThere
  refine ⟨kept, ?_⟩
  intro info env pub prv curve publicRead privateRead publicFits privateFits
  have value_of_read : ∀ {name entry value},
      view (committedAfter tables starts) name.triple = some entry →
      Reads env (committedAfter tables starts) name value → value = entry.value := by
    intro name entry value there read
    have readable := (KeyMap.get_eq_some_iff _ _ _).mp ((reads_iff _ _ _ _).mp read).2
    cases there.symm.trans readable
    rfl
  have publicValue := value_of_read kept.1 publicRead
  have privateValue := value_of_read kept.2 privateRead
  subst publicValue privateValue
  rw [@runStart_of_reads _ ⟨client, info, env⟩ _ _ curve publicRead privateRead]
  refine ⟨_, _, rfl, rfl, ?_, ?_⟩
  · exact keyBuffer_write_bytes _ publicFits
  · exact keyBuffer_write_bytes _ privateFits

/-- The peer's keys, of 40 times the characters 65 and 68. -/
def storedPair : KeyTables :=
  (storeKey (.ok "") (privateName .PEER).moduleName .CURVE25519 privateKey
    (.ofText (List.replicate 40 68)) none ⟨onlyPublicKey, 0⟩).2.tables

/-- Two healthy starts on stored keys. -/
theorem stored_pair_loaded :
    ∃ publicBuffer privateBuffer,
      (runStart (committedAfter storedPair [healthyStart]) healthyStart).2.info.curvePub =
          some publicBuffer ∧
        (runStart (committedAfter storedPair [healthyStart]) healthyStart).2.info.curvePrv =
          some privateBuffer ∧
        publicBuffer.bytes = List.replicate 40 65 ++
          KeyBuffer.allocated.bytes.drop (List.replicate 40 (65 : UInt8)).length ∧
        privateBuffer.bytes = List.replicate 40 68 ++
          KeyBuffer.allocated.bytes.drop (List.replicate 40 (68 : UInt8)).length := by
  have publicThere : view storedPair (publicName .PEER).triple =
      some ⟨List.replicate 40 65, true⟩ := by decide +kernel
  have privateThere : view storedPair (privateName .PEER).triple =
      some ⟨List.replicate 40 68, true⟩ := by decide +kernel
  have publicRead : (getKey (.ok "") (publicName .PEER).moduleName .CURVE25519 publicKey
      ⟨committedAfter storedPair [healthyStart], 0⟩).1 = .ok (List.replicate 40 65) := by
    decide +kernel
  have privateRead : (getKey (.ok "") (privateName .PEER).moduleName .CURVE25519 privateKey
      ⟨committedAfter storedPair [healthyStart], 0⟩).1 = .ok (List.replicate 40 68) := by
    decide +kernel
  exact (stored_identity_kept storedPair .PEER _ _ [healthyStart] publicThere privateThere).2
    healthyStart.info healthyStart.env _ _ rfl publicRead privateRead (by decide) (by decide)

end FifthD.Guarantees.StoredIdentity
