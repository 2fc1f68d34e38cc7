import FifthD.Guarantees.KeyStore
import FifthD.Source.Module

/-!
# The calls of `_handle_keys` on the database

What each call of `_handle_keys` does to the store, for any connection and any failures:
reads change nothing, the write of a generated key either adds its row or leaves every
row as it is, and a statement of the transaction does its work or nothing.
-/
namespace FifthD.Guarantees.ProvisioningStep

open FifthD.Library FifthD.Source FifthD.Spec FifthD.Guarantees.KeyStore

/-- The name of a client's public key. -/
def publicName (client : Clients) : KeyName := ⟨CLIENTS_IDS client, .CURVE25519, publicKey⟩

/-- The name of a client's private key. -/
def privateName (client : Clients) : KeyName := ⟨CLIENTS_IDS client, .CURVE25519, privateKey⟩

theorem public_ne_private (client : Clients) :
    (publicName client).triple ≠ (privateName client).triple := by
  cases client <;> decide

/-- A generated key is bound as its 40 bytes. -/
theorem bindBlob_generated (key : CurveKey) :
    bindBlob (.ofText key.buffer.text) = some key.bytes := by
  have filled : key.bytes ≠ [] := by
    intro empty
    have length := key.length_eq
    rw [empty] at length
    cases length
  simp [bindBlob, ByteVector.ofText, filled]

/-- The call that reads a key. -/
def readCall (name : KeyName) : KeyCall := .getKey name.moduleName name.keyType name.keyName

/-- The call that writes a generated key. -/
def writeCall (name : KeyName) (key : CurveKey) : KeyCall :=
  .storeKey name.moduleName name.keyType name.keyName (.ofText key.buffer.text)

/-- What the write of a generated key does to the keys: it adds the row, when the
statement runs and the row is absent; else it fails and changes nothing. -/
inductive WriteEffect (runs : Prop) (before after : KeyMap KeyTriple Bytes) (triple : KeyTriple)
    (key : CurveKey) (ret : VoidResult) : Prop
  | added (ran : runs) (ok : ret = .ok ()) (absent : before triple = none)
    (entry : after = Function.update before triple (some ⟨key.bytes, true⟩))
  | refused (failed : isErr ret = true) (same : after = before)
    (taken : runs → before triple ≠ none)

/-- A write does not touch other rows. -/
theorem WriteEffect.elsewhere {runs : Prop} {before after : KeyMap KeyTriple Bytes}
    {triple other : KeyTriple} {key : CurveKey} {ret : VoidResult}
    (effect : WriteEffect runs before after triple key ret) (different : other ≠ triple) :
    after other = before other := by
  cases effect with
  | added _ _ _ entry =>
    rw [entry]
    exact Function.update_of_ne different _ _
  | refused _ same _ => rw [same]

theorem isErr_of_ne_ok {ret : VoidResult} (failed : ret ≠ .ok ()) : isErr ret = true := by
  cases ret with
  | ok => exact absurd rfl failed
  | error e => rfl

/-- Storing a generated key. -/
theorem storeKey_effect (name : KeyName) (key : CurveKey) (c : Conn) (stmtEnv : StmtEnv) :
    WriteEffect (Runs stmtEnv 5) (view c.tables)
      (view (storeKey stmtEnv name.moduleName name.keyType name.keyName
        (.ofText key.buffer.text) none c).2.tables) name.triple key
      (storeKey stmtEnv name.moduleName name.keyType name.keyName
        (.ofText key.buffer.text) none c).1 := by
  obtain ⟨granted, failed⟩ :=
    storeKey_matches stmtEnv name (.ofText key.buffer.text) none c
  rw [bindBlob_generated] at granted
  by_cases runs : Runs stmtEnv 5
  · obtain ⟨after, answer⟩ := granted runs
    cases entry : view c.tables name.triple with
    | none =>
      simp only [KeyMap.call, entry] at after answer
      exact .added runs (answer.mpr trivial) entry after.symm
    | some taken =>
      simp only [KeyMap.call, entry] at after answer
      refine .refused (isErr_of_ne_ok fun ok => ?_) after.symm (fun _ => ?_)
      · cases answer.mp ok
      · rw [entry]
        exact Option.some_ne_none taken
  · obtain ⟨same, notOk⟩ := failed runs
    exact .refused (isErr_of_ne_ok notOk) same (fun ran => absurd ran runs)

variable {P : Type*} [DecidableEq P] (env : StartEnv) (p : P) (s : KeyServer P)

omit [DecidableEq P] in
/-- A statement of the transaction runs, or nothing changes. -/
theorem exec_cases (stmtEnv : StmtEnv)
    (statement : TxStore P KeyTables → Option (TxStore P KeyTables)) :
    (∃ store, statement s.store = some store ∧ Runs stmtEnv 0 ∧
        s.exec stmtEnv statement = ({ s with store }, .ok ())) ∨
      ∃ e, s.exec stmtEnv statement = (s, .error e) ∧
        (Runs stmtEnv 0 → statement s.store = none) := by
  unfold KeyServer.exec
  split
  · next stopped =>
    right
    refine ⟨_, rfl, fun runs => ?_⟩
    rw [runs.1] at stopped
    cases stopped
  · next prepared =>
    cases steps : stmtEnv.step with
    | false =>
      right
      refine ⟨_, rfl, fun runs => ?_⟩
      rw [runs.2.2] at steps
      cases steps
    | true =>
      cases ran : statement s.store with
      | none =>
        right
        exact ⟨_, rfl, fun _ => rfl⟩
      | some store =>
        left
        refine ⟨store, rfl, ⟨?_, ?_, steps⟩, by simp⟩
        · simpa using prepared
        · simp

/-- `get_key` returns a value. -/
def Reads (tables : KeyTables) (name : KeyName) (value : Bytes) : Prop :=
  (getKey (env.faults (readCall name)) name.moduleName name.keyType name.keyName
    ⟨tables, 0⟩).1 = .ok value

theorem reads_iff (tables : KeyTables) (name : KeyName) (value : Bytes) :
    Reads env tables name value ↔
      Runs (env.faults (readCall name)) 3 ∧ (view tables).get name.triple = some value :=
  (getKey_spec _ name ⟨tables, 0⟩).2.1 value

/-- Reading a key leaves the store. -/
theorem performRead_effect (name : KeyName) :
    ∃ t, ∃ ret : Result Bytes, performCall env p s (readCall name) = (t, ret) ∧
      t.store = s.store ∧ ∀ v, ret = .ok v ↔ Reads env (s.store.view p) name v := by
  refine ⟨_, _, rfl, rfl, fun v => ?_⟩
  rw [reads_iff]
  exact (getKey_spec _ name (s.conn p)).2.1 v

/-- Storing a generated key on a connection. -/
theorem performWrite_effect (name : KeyName) (key : CurveKey) :
    ∃ d t, ∃ ret : VoidResult, performCall env p s (writeCall name key) = (t, ret) ∧
      t.store = s.store.write p d ∧
      WriteEffect (Runs (env.faults (writeCall name key)) 5) (view (s.store.view p)) (view d)
        name.triple key ret :=
  ⟨_, _, _, rfl, rfl, storeKey_effect name key (s.conn p) _⟩

/-- Outside a transaction, BEGIN opens one or fails. -/
theorem performBegin_effect (idle : s.store.begun p = false) :
    ∃ t, ∃ ret : VoidResult, performCall env p s .beginTransaction = (t, ret) ∧
      ((ret = .ok () ∧ Runs (env.faults .beginTransaction) 0 ∧ s.store.start p = some t.store) ∨
        (isErr ret = true ∧ ¬ Runs (env.faults .beginTransaction) 0 ∧ t.store = s.store)) := by
  obtain ⟨opened, started, _⟩ := TxStore.start_of_not_begun idle
  rcases exec_cases s (env.faults .beginTransaction) (·.start p) with
    ⟨store, ran, runs, eq⟩ | ⟨e, eq, stopped⟩
  · exact ⟨_, _, eq, .inl ⟨rfl, runs, ran⟩⟩
  · refine ⟨_, _, eq, .inr ⟨rfl, fun runs => ?_, rfl⟩⟩
    cases (stopped runs).symm.trans started

/-- In a transaction, COMMIT commits it or fails. -/
theorem performCommit_effect (opened : s.store.begun p = true) :
    ∃ t, ∃ ret : VoidResult, performCall env p s .endTransaction = (t, ret) ∧
      ((ret = .ok () ∧ Runs (env.faults .endTransaction) 0 ∧
          s.store.commit p = some t.store) ∨
        (isErr ret = true ∧ ¬ Runs (env.faults .endTransaction) 0 ∧ t.store = s.store)) := by
  obtain ⟨closed, committed, _⟩ := TxStore.commit_of_begun opened
  rcases exec_cases s (env.faults .endTransaction) (·.commit p) with
    ⟨store, ran, runs, eq⟩ | ⟨e, eq, stopped⟩
  · exact ⟨_, _, eq, .inl ⟨rfl, runs, ran⟩⟩
  · refine ⟨_, _, eq, .inr ⟨rfl, fun runs => ?_, rfl⟩⟩
    cases (stopped runs).symm.trans committed

/-- In a transaction, ROLLBACK discards it or fails. -/
theorem performRollback_effect (opened : s.store.begun p = true) :
    ∃ t, ∃ ret : VoidResult, performCall env p s .rollback = (t, ret) ∧
      (t.store = s.store.discard p ∨
        (¬ Runs (env.faults .rollback) 0 ∧ t.store = s.store)) := by
  have discards := TxStore.rollback_of_begun opened
  rcases exec_cases s (env.faults .rollback) (·.rollback p) with
    ⟨store, ran, _, eq⟩ | ⟨e, eq, stopped⟩
  · exact ⟨_, _, eq, .inl (Option.some.inj (ran.symm.trans discards))⟩
  · refine ⟨_, _, eq, .inr ⟨fun runs => ?_, rfl⟩⟩
    cases (stopped runs).symm.trans discards

/-! ## The programs, call by call -/

/-- A value that fits lies at the start of its buffer; the rest is as it was. -/
theorem keyBuffer_write_bytes (buffer : KeyBuffer) {value : Bytes} (fits : value.length ≤ 41) :
    (buffer.write value).bytes = value ++ buffer.bytes.drop value.length := by
  simp only [KeyBuffer.write, memcpy]
  rw [List.take_of_length_le]
  rw [buffer.length_eq]
  exact fits

theorem getZmqCurveKeys_eq (client : Clients) :
    getZmqCurveKeys client = (do
      let pub ← (readCall (publicName client)).ask
      let prv ← (readCall (privateName client)).ask
      match (pub : Result Bytes), (prv : Result Bytes) with
      | .ok pub, .ok prv => return some (pub, prv)
      | _, _ => return none) :=
  rfl

/-- The reads leave the store and find the pair when both keys are found. -/
theorem getZmqCurveKeys_run (client : Clients) :
    ∃ t found, Prog.run (performCall env p) s (getZmqCurveKeys client) = (t, found) ∧
      t.store = s.store ∧
      ∀ pub prv, found = some (pub, prv) ↔
        Reads env (s.store.view p) (publicName client) pub ∧
          Reads env (s.store.view p) (privateName client) prv := by
  obtain ⟨s1, publicResult, eq1, store1, read1⟩ := performRead_effect env p s (publicName client)
  obtain ⟨s2, privateResult, eq2, store2, read2⟩ :=
    performRead_effect env p s1 (privateName client)
  rw [store1] at read2
  rw [getZmqCurveKeys_eq, KeyCall.ask, Prog.run_ask_bind eq1, KeyCall.ask, Prog.run_ask_bind eq2]
  have store : s2.store = s.store := store2.trans store1
  cases publicResult with
  | error e =>
    refine ⟨s2, none, rfl, store, fun pub prv => ?_⟩
    rw [← read1, ← read2]
    simp
  | ok foundPub =>
    cases privateResult with
    | error e =>
      refine ⟨s2, none, rfl, store, fun pub prv => ?_⟩
      rw [← read1, ← read2]
      simp
    | ok foundPrv =>
      refine ⟨s2, some (foundPub, foundPrv), rfl, store, fun pub prv => ?_⟩
      rw [← read1, ← read2]
      simp

theorem writePair_eq (client : Clients) {info : KeysInfo} (curve : info.keyType = .CURVE25519)
    (pub prv : CurveKey) :
    writePair client info pub.buffer prv.buffer = (do
      let _ ← (writeCall (publicName client) pub).ask
      let writePrv ← (writeCall (privateName client) prv).ask
      if isErr (writePrv : VoidResult) || isErr (writePrv : VoidResult) then
        let _ ← KeyCall.rollback.ask
        return .leave false info
      let commitRet ← KeyCall.endTransaction.ask
      if isErr commitRet then return .leave false info
      return .leave true info) := by
  unfold writePair
  rw [curve]
  rfl

/-- A key that is one character 40 times. -/
def repeatedKey (character : UInt8) (printable : character ≠ 0) : CurveKey where
  bytes := List.replicate 40 character
  length_eq := List.length_replicate
  printable := by
    intro member
    exact printable (List.eq_of_mem_replicate member).symm

def keyA : CurveKey := repeatedKey 65 (by decide)

def keyB : CurveKey := repeatedKey 66 (by decide)

def keyC : CurveKey := repeatedKey 67 (by decide)

def keyD : CurveKey := repeatedKey 68 (by decide)

end FifthD.Guarantees.ProvisioningStep
