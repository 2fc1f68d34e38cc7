import FifthD.Guarantees.ProvisioningStep

/-!
# Concurrent first starts agree

Any number of processes run `_handle_keys` for one client on one database that has no
rows of it, interleaved call by call; an insert waits while another process is the
writer, and nothing fails but constraints. The ghost value is the process whose pair is
committed: it is decided once, by a COMMIT whose transaction saw no rows, and whoever
reads a key or finds a name taken meets that process's pair.
-/
namespace FifthD.Guarantees.ConcurrentStart

open FifthD.Library FifthD.Source FifthD.Spec FifthD.Guarantees.KeyStore
open FifthD.Guarantees.ProvisioningStep

variable {P : Type*} [DecidableEq P]

/-! ## The system -/

section

variable (client : Clients) (generated : P → Option (CurveKey × CurveKey)) (errmsg : String)

/-- Nothing fails in a process but constraints and `generate_keys`. -/
def quiet (p : P) : StartEnv := ⟨generated p, fun _ => .ok errmsg⟩

/-- An insert waits for another writer; everything else is answered at once. -/
def enabled (p : P) (s : KeyServer P) : KeyCall → Prop
  | .storeKey _ _ _ _ => s.store.CanWrite p
  | _ => True

/-- The processes answered by one database. -/
def answer (p : P) (s : KeyServer P) (op : KeyCall) : KeyServer P × op.Reply :=
  performCall (quiet generated errmsg p) p s op

/-- The processes and the database they share. -/
abbrev Processes (P : Type*) := Prog.System (KeyServer P) P KeyCall KeyCall.Reply KeysResult

/-- Every process at the start of `_handle_keys`. -/
def starting (info : P → KeysInfo) (tables : KeyTables) : Processes P :=
  ⟨.idle tables, fun p => handleKeys client (info p)⟩

/-- Any interleaving. -/
abbrev Interleaves (s t : Processes P) : Prop := Prog.Reaches enabled (answer generated errmsg) s t

/-! ## The contract -/

/-- The rows hold one pair of keys. -/
structure HoldsKeys (tables : KeyTables) (pub prv : CurveKey) : Prop where
  publicRow : view tables (publicName client).triple = some ⟨pub.bytes, true⟩
  privateRow : view tables (privateName client).triple = some ⟨prv.bytes, true⟩

/-- There are no rows. -/
structure NoKeys (tables : KeyTables) : Prop where
  publicRow : view tables (publicName client).triple = none
  privateRow : view tables (privateName client).triple = none

/-- The committed rows are the pair of the winner, if there is one. -/
def Decided (s : KeyServer P) : Option P → Prop
  | none => NoKeys client s.store.committed
  | some q => ∃ pub prv, generated q = some (pub, prv) ∧ HoldsKeys client s.store.committed pub prv

/-- What a process does: it keeps the other transactions, and changes what is committed
only when it is the writer and nobody has won; then it wins. -/
structure Move (p : P) (s : KeyServer P) (winner : Option P) (t : KeyServer P)
    (winner' : Option P) : Prop where
  apart : TxStore.Apart p s.store t.store
  wins : (winner' = winner ∧ t.store.committed = s.store.committed) ∨
    (winner = none ∧ winner' = some p ∧ ∃ d, s.store.writer = some (p, d))

def contract : Prog.Contract (KeyServer P) (Option P) P := ⟨Decided client generated, Move⟩

/-- A process's buffers hold a pair in their first 40 bytes, which is what is read of
them. -/
def InBuffers (info : KeysInfo) (pub prv : CurveKey) : Prop :=
  ∃ publicBuffer privateBuffer, info.curvePub = some publicBuffer ∧
    info.curvePrv = some privateBuffer ∧ publicBuffer.bytes.take 40 = pub.bytes ∧
    privateBuffer.bytes.take 40 = prv.bytes

/-- What a process may end with: true only if it won, and true or with keys found only
with the winner's pair in its buffers. -/
structure Ends (p : P) (result : KeysResult) (winner : Option P) : Prop where
  won : result.ret = true → winner = some p
  agrees : result.ret = true ∨ result.found = true →
    ∃ q pub prv, winner = some q ∧ generated q = some (pub, prv) ∧ InBuffers result.info pub prv

end

/-! ## Assertions that others keep -/

section Assertions

variable {client : Clients} {generated : P → Option (CurveKey × CurveKey)} {p : P}

omit [DecidableEq P] in
/-- A winner stays the winner. -/
theorem stable_of_winner {A : Option P → Prop} (decided : ∀ q, A none → A (some q)) :
    Prog.Stable (contract client generated) p fun _ winner => A winner := by
  intro q s winner t winner' _ move holds
  obtain ⟨_, wins⟩ := move
  rcases wins with ⟨rfl, _⟩ | ⟨rfl, rfl, _⟩
  · exact holds
  · exact decided q holds

omit [DecidableEq P] in
/-- Nobody else begins or ends a transaction of a process. -/
theorem stable_begun (begun : Bool) :
    Prog.Stable (contract client generated) p fun s _ => s.store.begun p = begun := by
  intro q s winner t winner' other move holds
  obtain ⟨apart, _⟩ := move
  rw [apart.begun p (Ne.symm other)]
  exact holds

omit [DecidableEq P] in
theorem stable_not_writer :
    Prog.Stable (contract client generated) p fun s _ => ∀ d, s.store.writer ≠ some (p, d) := by
  intro q s winner t winner' other move holds d writes
  obtain ⟨apart, _⟩ := move
  exact holds d ((apart.writer p d (Ne.symm other)).mp writes)

omit [DecidableEq P] in
/-- While a process is the writer, nobody else changes what it sees or wins. -/
theorem stable_writer {A : KeyTables → Option P → Prop} :
    Prog.Stable (contract client generated) p
      fun s winner => ∃ d, s.store.writer = some (p, d) ∧ A d winner := by
  intro q s winner t winner' other move present
  obtain ⟨apart, wins⟩ := move
  obtain ⟨d, writes, holds⟩ := present
  refine ⟨d, (apart.writer p d (Ne.symm other)).mpr writes, ?_⟩
  rcases wins with ⟨rfl, _⟩ | ⟨_, _, d', others⟩
  · exact holds
  · rw [writes] at others
    cases others
    exact absurd rfl other

omit [DecidableEq P] in
/-- A row that is committed is the winner's. -/
theorem winner_of_row {s : KeyServer P} {winner : Option P}
    (decided : Decided client generated s winner) :
    (winner = none ∧ NoKeys client s.store.committed) ∨
      ∃ q pub prv, winner = some q ∧ generated q = some (pub, prv) ∧
        HoldsKeys client s.store.committed pub prv := by
  cases winner with
  | none => exact .inl ⟨rfl, decided⟩
  | some q =>
    obtain ⟨pub, prv, keys, held⟩ := decided
    exact .inr ⟨q, pub, prv, rfl, keys, held⟩

end Assertions

/-! ## One process -/

section Process

variable {client : Clients} {generated : P → Option (CurveKey × CurveKey)} {errmsg : String} {p : P}

/-- A process that is safe among the others. -/
abbrev SafeAt {α : Type} (client : Clients) (generated : P → Option (CurveKey × CurveKey))
    (errmsg : String) (p : P) (post : α → KeyServer P → Option P → Prop) :
    KeyProg α → KeyServer P → Option P → Prop :=
  Prog.Safe enabled (answer generated errmsg) (contract client generated) p post

/-- A process that ends as allowed. -/
abbrev SafeStart (client : Clients) (generated : P → Option (CurveKey × CurveKey))
    (errmsg : String) (p : P) : KeyProg KeysResult → KeyServer P → Option P → Prop :=
  SafeAt client generated errmsg p fun result _ => Ends generated p result

/-- A call that leaves what is committed and the transactions of the others. -/
theorem safe_call {β : Type} {post : β → KeyServer P → Option P → Prop} {op : KeyCall}
    {rest : op.Reply → KeyProg β} {s : KeyServer P} {winner : Option P}
    (A : KeyServer P → Option P → Prop) (stable : Prog.Stable (contract client generated) p A)
    (now : A s winner)
    (steps : ∀ t k, Decided client generated t k → A t k → enabled p t op →
      ∃ u reply, performCall (quiet generated errmsg p) p t op = (u, reply) ∧
        TxStore.Apart p t.store u.store ∧ u.store.committed = t.store.committed ∧
        SafeAt client generated errmsg p post (rest reply) u k) :
    SafeAt client generated errmsg p post (op.ask >>= rest) s winner := by
  refine Prog.Safe.ask_bind A stable now ?_
  intro t k decided holds through
  obtain ⟨u, reply, eq, apart, same, safe⟩ := steps t k decided holds through
  refine ⟨u, reply, k, eq, ⟨apart, .inl ⟨rfl, same⟩⟩, ?_, safe⟩
  change Decided client generated u k
  unfold Decided at decided ⊢
  rw [same]
  exact decided

/-- A process that ends without claiming anything. -/
theorem safe_without_keys {result : KeysResult} (failed : result.ret = false)
    (missing : result.found = false) (s : KeyServer P) (winner : Option P) :
    SafeStart client generated errmsg p (pure result) s winner := by
  apply Prog.Safe.pure (fun _ _ => True) (fun _ _ _ _ _ _ _ _ => trivial) trivial
  intro t k _ _
  constructor
  · intro claims
    cases failed.symm.trans claims
  · intro claims
    cases claims with
    | inl claims => cases failed.symm.trans claims
    | inr claims => cases missing.symm.trans claims

/-- A commit of the pair by the writer that saw no rows: it wins. -/
theorem safe_commit {info : KeysInfo} {pub prv : CurveKey} (keys : generated p = some (pub, prv))
    (buffers : InBuffers info pub prv) {s : KeyServer P} {winner : Option P}
    (ready : ∃ d, s.store.writer = some (p, d) ∧ winner = none ∧ HoldsKeys client d pub prv) :
    SafeStart client generated errmsg p
      (do
        let commitRet ← KeyCall.endTransaction.ask
        if isErr commitRet then return .leave false info
        return .leave true info) s winner := by
  apply Prog.Safe.ask_bind
    (fun s winner => ∃ d, s.store.writer = some (p, d) ∧ winner = none ∧ HoldsKeys client d pub prv)
    stable_writer ready
  intro t k inv ready _
  obtain ⟨d, writes, rfl, held⟩ := ready
  have opened := t.store.owned p d writes
  obtain ⟨u, ret, eq, ended⟩ := performCommit_effect (quiet generated errmsg p) p t opened
  rcases ended with ⟨rfl, _, commits⟩ | ⟨_, stops, _⟩
  · obtain ⟨u', ran, _, committed⟩ := TxStore.commit_of_begun opened
    cases commits.symm.trans ran
    rw [TxStore.view_of_writer writes] at committed
    refine ⟨u, .ok (), some p, eq, ⟨TxStore.apart_commit commits, .inr ⟨rfl, rfl, d, writes⟩⟩,
      ⟨pub, prv, keys, ?_⟩, ?_⟩
    · rw [committed]
      exact held
    · rw [if_neg (by simp [isErr])]
      refine Prog.Safe.pure (fun _ winner => winner = some p) ?_ rfl ?_
      · exact stable_of_winner fun q absent => by cases absent
      · rintro _ _ _ rfl
        exact ⟨fun _ => rfl, fun _ => ⟨p, pub, prv, rfl, keys, buffers⟩⟩
  · exact absurd (runs_ok errmsg 0) stops

/-- A rollback. -/
theorem safe_rollback {info : KeysInfo} {s : KeyServer P} {winner : Option P}
    (ready : s.store.begun p = true) :
    SafeStart client generated errmsg p
      (do
        let _ ← KeyCall.rollback.ask
        return .leave false info) s winner := by
  apply safe_call (fun s _ => s.store.begun p = true) (stable_begun true) ready
  intro t k _ opened _
  obtain ⟨u, ret, eq, ended⟩ := performRollback_effect (quiet generated errmsg p) p t opened
  rcases ended with discards | ⟨stops, _⟩
  · refine ⟨u, ret, eq, ?_, ?_, safe_without_keys rfl rfl u k⟩
    · rw [discards]
      exact TxStore.apart_discard _ _
    · rw [discards, TxStore.discard_committed]
  · exact absurd (runs_ok errmsg 0) stops

/-- The second write: it succeeds only when nobody has won, and then both keys of the
process are its changes. -/
theorem safe_writePrivate {info : KeysInfo} {pub prv : CurveKey}
    (keys : generated p = some (pub, prv)) (buffers : InBuffers info pub prv) {s : KeyServer P}
    {winner : Option P}
    (ready : ∃ d, s.store.writer = some (p, d) ∧
      (view d (privateName client).triple = none →
        winner = none ∧ view d (publicName client).triple = some ⟨pub.bytes, true⟩)) :
    SafeStart client generated errmsg p
      (do
        let writePrv ← (writeCall (privateName client) prv).ask
        if isErr (writePrv : VoidResult) || isErr (writePrv : VoidResult) then
          let _ ← KeyCall.rollback.ask
          return .leave false info
        let commitRet ← KeyCall.endTransaction.ask
        if isErr commitRet then return .leave false info
        return .leave true info) s winner := by
  apply safe_call
    (fun s winner => ∃ d, s.store.writer = some (p, d) ∧
      (view d (privateName client).triple = none →
        winner = none ∧ view d (publicName client).triple = some ⟨pub.bytes, true⟩))
    stable_writer ready
  intro t k _ ready through
  obtain ⟨d, writes, first⟩ := ready
  have opened := t.store.owned p d writes
  obtain ⟨d', u, ret, eq, wrote, effect⟩ :=
    performWrite_effect (quiet generated errmsg p) p t (privateName client) prv
  obtain ⟨writes', begun', committed'⟩ := TxStore.write_of_begun opened d'
  rw [← wrote] at writes' begun' committed'
  rw [TxStore.view_of_writer writes] at effect
  refine ⟨u, ret, eq, ?_, committed', ?_⟩
  · rw [wrote]
    exact TxStore.apart_write through d'
  · cases effect with
    | added _ ok absent entry =>
      obtain ⟨noWinner, publicRow⟩ := first absent
      rw [ok, if_neg (by simp [isErr])]
      refine safe_commit keys buffers ⟨d', writes', noWinner, ?_, ?_⟩
      · rw [entry, Function.update_of_ne (public_ne_private client)]
        exact publicRow
      · rw [entry, Function.update_self]
    | refused failed _ _ =>
      rw [if_pos (by rw [failed]; rfl)]
      refine safe_rollback ?_
      rw [begun', opened]

/-- The first write: after it, the private row is absent only when nobody has won and the
public key is the process's change. -/
theorem safe_writePair {info : KeysInfo} (curve : info.keyType = .CURVE25519)
    {pub prv : CurveKey} (keys : generated p = some (pub, prv))
    (buffers : InBuffers info pub prv) {s : KeyServer P} {winner : Option P}
    (ready : s.store.begun p = true ∧ ∀ d, s.store.writer ≠ some (p, d)) :
    SafeStart client generated errmsg p
      (writePair client info pub.buffer prv.buffer) s winner := by
  rw [writePair_eq client curve]
  apply safe_call
    (fun s _ => s.store.begun p = true ∧ ∀ d, s.store.writer ≠ some (p, d))
    ((stable_begun true).and stable_not_writer) ready
  intro t k decided ready through
  obtain ⟨opened, reads⟩ := ready
  obtain ⟨d, u, ret, eq, wrote, effect⟩ :=
    performWrite_effect (quiet generated errmsg p) p t (publicName client) pub
  obtain ⟨writes, _, committed⟩ := TxStore.write_of_begun opened d
  rw [← wrote] at writes committed
  rw [TxStore.view_of_not_writer reads] at effect
  refine ⟨u, ret, eq, ?_, committed, ?_⟩
  · rw [wrote]
    exact TxStore.apart_write through d
  · refine safe_writePrivate keys buffers ⟨d, writes, ?_⟩
    intro privateAbsent
    cases effect with
    | added _ _ absent entry =>
      rcases winner_of_row decided with ⟨noWinner, _⟩ | ⟨_, _, _, _, _, held⟩
      · exact ⟨noWinner, by rw [entry, Function.update_self]⟩
      · cases absent.symm.trans held.publicRow
    | refused _ same taken =>
      rw [same] at privateAbsent
      rcases winner_of_row decided with ⟨_, noKeys⟩ | ⟨_, _, _, _, _, held⟩
      · exact absurd noKeys.publicRow (taken (runs_ok errmsg 5))
      · cases privateAbsent.symm.trans held.privateRow

/-- The transaction of a generated pair. -/
theorem safe_storePair {info : KeysInfo} (curve : info.keyType = .CURVE25519)
    {pub prv : CurveKey} (keys : generated p = some (pub, prv))
    (buffers : InBuffers info pub prv) {s : KeyServer P} {winner : Option P}
    (ready : s.store.begun p = false) :
    SafeStart client generated errmsg p
      (storePair client info pub.buffer prv.buffer) s winner := by
  unfold storePair
  apply safe_call (fun s _ => s.store.begun p = false) (stable_begun false) ready
  intro t k _ idle _
  obtain ⟨u, ret, eq, begins⟩ := performBegin_effect (quiet generated errmsg p) p t idle
  rcases begins with ⟨rfl, _, starts⟩ | ⟨_, stops, _⟩
  · obtain ⟨u', ran, opened, committed, writer⟩ := TxStore.start_of_not_begun idle
    cases starts.symm.trans ran
    refine ⟨u, .ok (), eq, TxStore.apart_start starts, committed, ?_⟩
    rw [if_neg (by simp [isErr])]
    refine safe_writePair curve keys buffers ⟨opened, ?_⟩
    rw [writer]
    exact TxStore.not_writer_of_not_begun idle
  · exact absurd (runs_ok errmsg 0) stops

/-- A process whose reads did not find both keys. -/
theorem safe_generatePair {info : KeysInfo} (curve : info.keyType = .CURVE25519)
    {s : KeyServer P} {winner : Option P} (ready : s.store.begun p = false) :
    SafeStart client generated errmsg p
      (generatePair client info) s winner := by
  unfold generatePair
  apply safe_call (fun s _ => s.store.begun p = false) (stable_begun false) ready
  intro t k _ idle _
  refine ⟨t, generated p, rfl, TxStore.apart_refl p t.store, rfl, ?_⟩
  cases keys : generated p with
  | none =>
    exact safe_without_keys rfl rfl t k
  | some pair =>
    obtain ⟨pub, prv⟩ := pair
    have buffers : InBuffers (info.setKeys pub.buffer prv.buffer) pub prv :=
      ⟨pub.buffer, prv.buffer, rfl, rfl, List.take_left' pub.length_eq,
        List.take_left' prv.length_eq⟩
    have curve' : (info.setKeys pub.buffer prv.buffer).keyType = .CURVE25519 := curve
    exact safe_storePair curve' keys buffers idle

/-- What a process knows that has read the winner's key, for one of its two keys. -/
def ReadOf (generated : P → Option (CurveKey × CurveKey)) (key : CurveKey × CurveKey → CurveKey)
    (ret : Result Bytes) (winner : Option P) : Prop :=
  ∀ v, ret = .ok v → ∃ q pair, winner = some q ∧ generated q = some pair ∧ v = (key pair).bytes

omit [DecidableEq P] in
theorem stable_readOf (key : CurveKey × CurveKey → CurveKey) (ret : Result Bytes) :
    Prog.Stable (contract client generated) p fun _ winner => ReadOf generated key ret winner := by
  apply stable_of_winner
  intro q known v found
  obtain ⟨_, _, absent, _⟩ := known v found
  cases absent

/-- A read outside a transaction finds the winner's key, if anything. -/
theorem performRead_winner {name : KeyName} {key : CurveKey × CurveKey → CurveKey}
    (absent : ∀ tables, NoKeys client tables → view tables name.triple = none)
    (held : ∀ tables pub prv, HoldsKeys client tables pub prv →
      view tables name.triple = some ⟨(key (pub, prv)).bytes, true⟩)
    {s : KeyServer P} {winner : Option P} (decided : Decided client generated s winner)
    (idle : s.store.begun p = false) :
    ∃ u, ∃ ret : Result Bytes,
      performCall (quiet generated errmsg p) p s (readCall name) = (u, ret) ∧
        u.store = s.store ∧ ReadOf generated key ret winner := by
  obtain ⟨u, ret, eq, store, reads⟩ := performRead_effect (quiet generated errmsg p) p s name
  refine ⟨u, ret, eq, store, fun v found => ?_⟩
  have seen := TxStore.view_of_not_writer (TxStore.not_writer_of_not_begun idle)
  rw [reads, seen, reads_iff] at found
  have readable := found.2
  unfold KeyMap.get at readable
  rcases winner_of_row decided with ⟨_, noKeys⟩ | ⟨q, pub, prv, wins, keys, holds⟩
  · rw [absent _ noKeys] at readable
    cases readable
  · rw [held _ _ _ holds] at readable
    exact ⟨q, (pub, prv), wins, keys, (Option.some.inj readable).symm⟩

/-- The reads of a process: what it found is the winner's pair. -/
theorem safe_getZmqCurveKeys {s : KeyServer P} {winner : Option P}
    (ready : s.store.begun p = false) :
    SafeAt client generated errmsg p
      (fun found s winner => s.store.begun p = false ∧ ∀ pub prv, found = some (pub, prv) →
        ∃ q a b, winner = some q ∧ generated q = some (a, b) ∧ pub = a.bytes ∧ prv = b.bytes)
      (getZmqCurveKeys client) s winner := by
  rw [getZmqCurveKeys_eq]
  apply safe_call (fun s _ => s.store.begun p = false) (stable_begun false) ready
  intro t k decided idle _
  obtain ⟨u, publicResult, eq, store, publicRead⟩ :=
    @performRead_winner _ _ client generated errmsg p (publicName client) Prod.fst
      (fun _ noKeys => noKeys.publicRow) (fun _ _ _ holds => holds.publicRow) _ _ decided idle
  refine ⟨u, publicResult, eq, ?_, by rw [store], ?_⟩
  · rw [store]
    exact TxStore.apart_refl p t.store
  apply safe_call
    (fun s winner => s.store.begun p = false ∧ ReadOf generated Prod.fst publicResult winner)
    ((stable_begun false).and (stable_readOf _ _)) ⟨by rw [store, idle], publicRead⟩
  intro t k decided known _
  obtain ⟨idle, publicRead⟩ := known
  obtain ⟨u, privateResult, eq, store, privateRead⟩ :=
    @performRead_winner _ _ client generated errmsg p (privateName client) Prod.snd
      (fun _ noKeys => noKeys.privateRow) (fun _ _ _ holds => holds.privateRow) _ _ decided idle
  refine ⟨u, privateResult, eq, ?_, by rw [store], ?_⟩
  · rw [store]
    exact TxStore.apart_refl p t.store
  have idle' : u.store.begun p = false := by rw [store, idle]
  cases publicResult with
  | error e =>
    apply Prog.Safe.pure (fun s _ => s.store.begun p = false) (stable_begun false) idle'
    intro t k _ idle
    exact ⟨idle, fun pub prv absent => by cases absent⟩
  | ok foundPub =>
    cases privateResult with
    | error e =>
      apply Prog.Safe.pure (fun s _ => s.store.begun p = false) (stable_begun false) idle'
      intro t k _ idle
      exact ⟨idle, fun pub prv absent => by cases absent⟩
    | ok foundPrv =>
      apply Prog.Safe.pure
        (fun s winner => s.store.begun p = false ∧
          ReadOf generated Prod.fst (.ok foundPub) winner ∧
          ReadOf generated Prod.snd (.ok foundPrv) winner)
        ((stable_begun false).and ((stable_readOf _ _).and (stable_readOf _ _)))
        ⟨idle', publicRead, privateRead⟩
      intro t k _ known
      obtain ⟨idle, publicRead, privateRead⟩ := known
      refine ⟨idle, fun pub prv found => ?_⟩
      cases found
      obtain ⟨q, pair, rfl, keys, publicValue⟩ := publicRead _ rfl
      obtain ⟨q', pair', wins, keys', privateValue⟩ := privateRead _ rfl
      cases wins
      cases keys.symm.trans keys'
      exact ⟨q, pair.1, pair.2, rfl, keys, publicValue, privateValue⟩

/-- Keys of 40 characters that were found are in the buffers. -/
theorem inBuffers_loadKeys (info : KeysInfo) (pub prv : CurveKey) :
    InBuffers (loadKeys info pub.bytes prv.bytes).info pub prv := by
  refine ⟨_, _, rfl, rfl, ?_, ?_⟩
  · rw [keyBuffer_write_bytes _ (by rw [pub.length_eq]; omega)]
    exact List.take_left' pub.length_eq
  · rw [keyBuffer_write_bytes _ (by rw [prv.length_eq]; omega)]
    exact List.take_left' prv.length_eq

omit [DecidableEq P] in
/-- What a process may end with stays so when there is a winner. -/
theorem stable_ends (result : KeysResult) :
    Prog.Stable (contract client generated) p fun _ winner => Ends generated p result winner := by
  apply stable_of_winner
  intro q ends
  obtain ⟨won, agrees⟩ := ends
  constructor
  · intro claims
    cases won claims
  · intro claims
    obtain ⟨_, _, _, absent, _⟩ := agrees claims
    cases absent

/-- The switch on the key type. -/
theorem safe_switchKeyType (info : KeysInfo) {s : KeyServer P} {winner : Option P}
    (decided : Decided client generated s winner) (ready : s.store.begun p = false) :
    SafeStart client generated errmsg p
      (switchKeyType client info) s winner := by
  unfold switchKeyType
  split
  · next curve =>
    apply Prog.Safe.bind decided (safe_getZmqCurveKeys ready)
    intro found t k _ read
    obtain ⟨idle, known⟩ := read
    cases found with
    | none => exact safe_generatePair curve idle
    | some pair =>
      obtain ⟨q, pub, prv, rfl, keys, publicValue, privateValue⟩ := known pair.1 pair.2 rfl
      refine Prog.Safe.pure (fun _ winner => winner = some q) ?_ rfl ?_
      · exact stable_of_winner fun _ absent => by cases absent
      · rintro _ _ _ rfl
        rw [publicValue, privateValue]
        constructor
        · intro claims
          cases claims
        · intro _
          exact ⟨q, pub, prv, rfl, keys, inBuffers_loadKeys _ pub prv⟩
  · exact safe_without_keys rfl rfl s winner

/-- `_handle_keys`. -/
theorem safe_handleKeys (info : KeysInfo) {s : KeyServer P} {winner : Option P}
    (decided : Decided client generated s winner) (ready : s.store.begun p = false) :
    SafeStart client generated errmsg p
      (handleKeys client info) s winner := by
  unfold handleKeys
  apply Prog.Safe.bind decided (safe_switchKeyType info decided ready)
  intro result t k _ ends
  apply safe_call (fun _ winner => Ends generated p result winner) (stable_ends result) ends
  intro t k _ ends _
  refine ⟨_, (), rfl, TxStore.apart_discard _ _, TxStore.discard_committed _ _, ?_⟩
  exact Prog.Safe.pure (fun _ winner => Ends generated p result winner) (stable_ends result) ends
    fun _ _ _ ends => ends

end Process

/-! ## All processes -/

/-- What holds of the processes at any time: there are no rows, or one process's pair; a
committed pair stays; at most one process returned true; and who returned true, or found
both keys, has the committed pair in its buffers. -/
structure Agreement (client : Clients) (generated : P → Option (CurveKey × CurveKey))
    (errmsg : String) (s : Processes P) : Prop where
  onePair : NoKeys client s.shared.store.committed ∨
    ∃ q pub prv, generated q = some (pub, prv) ∧
      HoldsKeys client s.shared.store.committed pub prv
  stays : ∀ t pub prv, Interleaves generated errmsg s t →
    HoldsKeys client s.shared.store.committed pub prv →
    HoldsKeys client t.shared.store.committed pub prv
  oneTrue : ∀ p q result result', s.programs p = .ret result → s.programs q = .ret result' →
    result.ret = true → result'.ret = true → p = q
  buffers : ∀ p result, s.programs p = .ret result → result.ret = true ∨ result.found = true →
    ∃ pub prv, HoldsKeys client s.shared.store.committed pub prv ∧
      InBuffers result.info pub prv

/-- For any number of processes that start on a database without rows of the client, and
any interleaving of their calls. -/
theorem concurrent_starts_agree (client : Clients) (info : P → KeysInfo)
    (generated : P → Option (CurveKey × CurveKey)) (errmsg : String) (tables : KeyTables)
    (noKeys : NoKeys client tables) (s : Processes P)
    (reached : Interleaves generated errmsg (starting client info tables) s) :
    Agreement client generated errmsg s := by
  have start : (contract client generated).inv (starting client info tables).shared none := noKeys
  obtain ⟨winner, decided, _, safe⟩ := @Prog.Reaches.safe _ _ _ _ _ _ _ enabled
    (answer generated errmsg) (contract client generated)
    (fun p result _ => Ends generated p result) _ s none reached start
    (fun p => safe_handleKeys (info p) start rfl) (fun _ _ => True) trivial
    (fun _ _ _ _ _ _ _ => trivial)
  have ends : ∀ p result, s.programs p = .ret result → Ends generated p result winner := by
    intro p result returned
    have own := safe p
    rw [returned] at own
    obtain ⟨A, _, now, allowed⟩ := own
    exact allowed _ _ decided now
  refine ⟨?_, ?_, ?_, ?_⟩
  · rcases winner_of_row decided with ⟨_, noKeys⟩ | ⟨q, pub, prv, _, keys, held⟩
    · exact .inl noKeys
    · exact .inr ⟨q, pub, prv, keys, held⟩
  · intro t pub prv later held
    rcases winner_of_row decided with ⟨_, noKeys⟩ | ⟨q, a, b, wins, keys, heldNow⟩
    · cases noKeys.publicRow.symm.trans held.publicRow
    · obtain ⟨winner', decided', wins', _⟩ := later.safe decided safe
        (fun _ winner => winner = some q) wins (by
          rintro p s winner t winner' ⟨_, moves⟩ rfl
          rcases moves with ⟨rfl, _⟩ | ⟨absent, _⟩
          · rfl
          · cases absent)
      rcases winner_of_row decided' with ⟨rfl, _⟩ | ⟨q', a', b', rfl, keys', held'⟩
      · cases wins'
      · cases wins'
        cases keys.symm.trans keys'
        constructor
        · rw [held'.publicRow, ← heldNow.publicRow, held.publicRow]
        · rw [held'.privateRow, ← heldNow.privateRow, held.privateRow]
  · intro p q result result' returned returned' claims claims'
    have first := (ends p result returned).won claims
    have second := (ends q result' returned').won claims'
    exact Option.some.inj (first.symm.trans second)
  · intro p result returned claims
    obtain ⟨q, pub, prv, rfl, keys, inBuffers⟩ := (ends p result returned).agrees claims
    obtain ⟨a, b, keys', held⟩ := decided
    cases keys.symm.trans keys'
    exact ⟨pub, prv, held, inBuffers⟩

/-- The pairs of two processes. -/
def twoPairs : Bool → Option (CurveKey × CurveKey)
  | false => some (keyA, keyB)
  | true => some (keyC, keyD)

/-- Two first starts of the peer. -/
def race : Processes Bool :=
  starting .PEER (fun _ => ⟨.CURVE25519, none, none, false⟩) .empty

/-- One process reads its public key, the other one provisions, and the first one goes on
to its end. -/
def raceSchedule : List Bool := [true] ++ List.replicate 8 false ++ List.replicate 7 true

def afterRace : Processes Bool :=
  raceSchedule.foldl (Prog.System.advance (answer twoPairs "")) race

/-- `enabled`, as a check. -/
def enabledCheck (p : Bool) (s : KeyServer Bool) (_ : KeyCall) : Bool :=
  s.store.writer.all fun writer => writer.1 = p

theorem enabledCheck_sound (p : Bool) (s : KeyServer Bool) (op : KeyCall)
    (check : enabledCheck p s op = true) : enabled p s op := by
  cases op with
  | storeKey =>
    intro q d writes
    unfold enabledCheck at check
    rw [writes] at check
    simpa using check
  | _ => trivial

/-- The first process to insert returns true, the other one false. -/
theorem race_agrees :
    ((afterRace.programs false).returned.map KeysResult.ret = some true ∧
      (afterRace.programs true).returned.map KeysResult.ret = some false) ∧
    Agreement .PEER twoPairs "" afterRace := by
  have ended : (afterRace.programs false).returned.map KeysResult.ret = some true ∧
      (afterRace.programs true).returned.map KeysResult.ret = some false := by
    decide +kernel
  have noKeys : NoKeys .PEER Table.empty := ⟨rfl, rfl⟩
  have pass : Prog.passes enabledCheck (answer twoPairs "") race raceSchedule = true := by
    decide +kernel
  exact ⟨ended, concurrent_starts_agree .PEER _ twoPairs "" .empty noKeys afterRace
    (Prog.reaches_of_passes enabledCheck_sound pass)⟩

end FifthD.Guarantees.ConcurrentStart
