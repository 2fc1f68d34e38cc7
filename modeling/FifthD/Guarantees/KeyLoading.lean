import FifthD.Guarantees.KeyHistory
import FifthD.Guarantees.StoredIdentity

/-!
# The copies of stored keys into the key buffers

`_get_zmq_curve_keys` copies as many bytes as the database holds into buffers of 41. It
stays inside them, and fills the 40 bytes of each key, exactly when the two values have
40 or 41 bytes; nothing between a write to the store and the copy looks at a length.
-/
namespace FifthD.Guarantees.KeyLoading

open FifthD.Library FifthD.Source FifthD.Spec FifthD.Guarantees.KeyStore
open FifthD.Guarantees.KeyHistory FifthD.Guarantees.ProvisioningStep
open FifthD.Guarantees.Provisioning FifthD.Guarantees.StoredIdentity

/-! ## Which starts copy -/

/-- A start that does not find its keys copies none. -/
theorem writePair_notFound (client : Clients) (info : KeysInfo) (pub prv : KeyBuffer) :
    (writePair client info pub prv).Yields fun result => result.found = false := by
  unfold writePair
  apply Prog.Yields.ask_bind
  intro writePub
  apply Prog.Yields.ask_bind
  intro writePrv
  split
  · apply Prog.Yields.ask_bind
    intro _
    exact Prog.yields_pure rfl
  · apply Prog.Yields.ask_bind
    intro commitRet
    split
    · exact Prog.yields_pure rfl
    · exact Prog.yields_pure rfl

theorem generatePair_notFound (client : Clients) (info : KeysInfo) :
    (generatePair client info).Yields fun result => result.found = false := by
  unfold generatePair
  apply Prog.Yields.ask_bind
  intro generated
  cases generated with
  | none => exact Prog.yields_pure rfl
  | some pair =>
    unfold storePair
    apply Prog.Yields.ask_bind
    intro beginResult
    split
    · exact Prog.yields_pure rfl
    · exact writePair_notFound client _ _ _

/-- A start that finds its keys is of a curve key, and its reads return both. -/
theorem reads_of_found {tables : KeyTables} {start : Start}
    (found : (runStart tables start).2.found = true) :
    start.info.keyType = .CURVE25519 ∧
      ∃ pub prv, Reads start.env tables (publicName start.client) pub ∧
        Reads start.env tables (privateName start.client) prv := by
  obtain ⟨s, values, ran, _, reads⟩ :=
    getZmqCurveKeys_run start.env () (.idle tables) start.client
  rw [runStart_result] at found
  unfold switchKeyType at found
  split at found
  · next curve =>
    refine ⟨curve, ?_⟩
    rw [Prog.run_bind, ran] at found
    cases values with
    | none =>
      have notFound := (generatePair_notFound start.client start.info.init).run
        (performCall start.env ()) s
      cases found.symm.trans notFound
    | some pair => exact ⟨pair.1, pair.2, (reads pair.1 pair.2).mp rfl⟩
  · cases found

/-! ## Copies that fit -/

/-- A start finds no keys, or copies at most the 41 bytes of each buffer and at least the
40 bytes of each key. -/
def LoadsSafely (tables : KeyTables) (start : Start) : Prop :=
  (runStart tables start).2.found = false ∨
    ∀ copy ∈ (runStart tables start).2.copies, copy.InBounds ∧ 40 ≤ copy.len

instance (tables : KeyTables) (start : Start) : Decidable (LoadsSafely tables start) :=
  inferInstanceAs (Decidable (_ ∨ _))

/-- A value that fits a key buffer and fills the key. -/
def Fits (value : Bytes) : Prop := 40 ≤ value.length ∧ value.length ≤ 41

/-- A start whose reads return both keys is safe when both values fit. -/
theorem loadsSafely_of_reads {tables : KeyTables} {start : Start} {pub prv : Bytes}
    (curve : start.info.keyType = .CURVE25519)
    (publicRead : Reads start.env tables (publicName start.client) pub)
    (privateRead : Reads start.env tables (privateName start.client) prv) :
    LoadsSafely tables start ↔ Fits pub ∧ Fits prv := by
  unfold LoadsSafely
  rw [runStart_of_reads curve publicRead privateRead]
  simp only [loadKeys, Bool.true_eq_false, false_or, List.forall_mem_cons, FrameCopy.InBounds,
    Fits, List.not_mem_nil, false_implies, implies_true, and_true]
  constructor
  · intro bounds
    omega
  · intro bounds
    omega

/-- A start in which nothing fails. -/
def plainStart (client : Clients) : Start :=
  ⟨client, ⟨.CURVE25519, none, none, false⟩, ⟨none, fun _ => .ok ""⟩⟩

/-- For every client and every sequence of calls of the store on the empty tables, by
any caller and with any failures: every start of the client afterwards finds no keys, or
stays inside its buffers and fills both keys, if and only if the values of the client's
two rows, when both are active, have 40 or 41 bytes. -/
theorem key_loading_in_bounds_iff (client : Clients) (history : List Call) :
    (∀ info env, LoadsSafely (afterCalls history).tables ⟨client, info, env⟩) ↔
      ∀ pub prv, view (afterCalls history).tables (publicName client).triple = some ⟨pub, true⟩ →
        view (afterCalls history).tables (privateName client).triple = some ⟨prv, true⟩ →
        Fits pub ∧ Fits prv := by
  constructor
  · intro safe pub prv publicThere privateThere
    apply (loadsSafely_of_reads rfl _ _).mp (safe (plainStart client).info (plainStart client).env)
    · exact (reads_iff _ _ _ _).mpr ⟨runs_ok "" 3, (KeyMap.get_eq_some_iff _ _ _).mpr publicThere⟩
    · exact (reads_iff _ _ _ _).mpr ⟨runs_ok "" 3, (KeyMap.get_eq_some_iff _ _ _).mpr privateThere⟩
  · intro fit info env
    cases found : (runStart (afterCalls history).tables ⟨client, info, env⟩).2.found with
    | false => exact .inl found
    | true =>
      obtain ⟨curve, pub, prv, publicRead, privateRead⟩ := reads_of_found found
      apply (loadsSafely_of_reads curve publicRead privateRead).mpr
      apply fit pub prv
      · exact (KeyMap.get_eq_some_iff _ _ _).mp ((reads_iff _ _ _ _).mp publicRead).2
      · exact (KeyMap.get_eq_some_iff _ _ _).mp ((reads_iff _ _ _ _).mp privateRead).2

/-- A key of 42 bytes stored under the peer's two names overruns both buffers. -/
theorem long_key_overruns :
    let long : ByteVector := .ofText (List.replicate 42 65)
    ¬ LoadsSafely
      (afterCalls [⟨.ok "", .store (publicName .PEER) long none⟩,
        ⟨.ok "", .store (privateName .PEER) long none⟩]).tables
      (plainStart .PEER) := by
  decide +kernel

end FifthD.Guarantees.KeyLoading
