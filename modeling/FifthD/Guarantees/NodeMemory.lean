import FifthD.Guarantees.KeyMemorySafety
import FifthD.Guarantees.NodeStart

/-!
# The memory of the processes

`main` uses the pointers that its start leaves, whatever became of them: it sets the keys
from them and frees them. So a process leaves its memory with its start, or when the start
has freed both buffers, or, as a peer, when the router's key is too short for the 40 bytes
that it passes on.
-/
namespace FifthD.Guarantees.NodeMemory

open FifthD.Library FifthD.Source FifthD.Spec FifthD.Guarantees.KeyStore
open FifthD.Guarantees.ProvisioningStep FifthD.Guarantees.Provisioning
open FifthD.Guarantees.ProvisioningTruth FifthD.Guarantees.NodeStart
open FifthD.Guarantees.KeyMemorySafety

/-! ## Buffers that are gone -/

/-- The start finds no keys and makes none. -/
def NoBuffers (tables : KeyTables) (start : Start) : Prop :=
  ¬ FindsKeys (view tables) start ∧ start.env.generated = none

/-- Then, and only then, both buffers are gone. -/
theorem buffers_gone_iff {tables : KeyTables} {start : Start}
    (curve : start.info.keyType = .CURVE25519) :
    (NoBuffers tables start → (runStart tables start).2.info.curvePub = none) ∧
      (¬ NoBuffers tables start → ∃ pub prv, (runStart tables start).2.info.curvePub = some pub ∧
        (runStart tables start).2.info.curvePrv = some prv) := by
  have buffers := @start_buffers tables start curve
  constructor
  · rintro ⟨missing, keys⟩
    cases buffers with
    | found _ _ _ finds _ _ => exact absurd finds missing
    | made _ _ _ made _ _ => cases keys.symm.trans made
    | freed _ _ publicFreed _ => exact publicFreed
  · intro there
    cases buffers with
    | found _ _ _ _ publicIs privateIs => exact ⟨_, _, publicIs, privateIs⟩
    | made _ _ _ _ publicIs privateIs => exact ⟨_, _, publicIs, privateIs⟩
    | freed missing keys _ _ => exact absurd ⟨missing, keys⟩ there

/-- Keys in buffers are set without reading anything else. -/
theorem setSecurity_buffers (zmq : CurveEnv) (pub prv : KeyBuffer) :
    ∃ o, setSecurity zmq (.buffer pub) (.buffer prv) = some o := by
  unfold setSecurity setCurveServerOptions KeyPointer.read
  rw [if_neg (by simp)]
  dsimp only
  split
  · exact ⟨_, rfl⟩
  · split
    · exact ⟨_, rfl⟩
    · split
      · exact ⟨_, rfl⟩
      · exact ⟨_, rfl⟩

theorem router_bad_memory_iff (env : ModuleEnv) (zmq : CurveEnv) (tables : KeyTables) :
    (routerMain env zmq tables).2 = .badMemory ↔
      env.sodium = true ∧ NoBuffers tables (mainStart .ROUTER env) := by
  unfold routerMain
  cases sodium : env.sodium with
  | false =>
    unfold moduleInit
    rw [if_pos sodium]
    simp
  | true =>
    rw [moduleInit_eq .ROUTER tables sodium]
    obtain ⟨gone, there⟩ := @buffers_gone_iff tables (mainStart .ROUTER env) rfl
    generalize (runStart tables (mainStart .ROUTER env)).2.info = info at gone there
    dsimp only
    by_cases none : NoBuffers tables (mainStart .ROUTER env)
    · rw [gone none]
      cases setSecurity zmq (keyPointer .none) (keyPointer info.curvePrv) <;> simp [none]
    · obtain ⟨pub, prv, publicIs, privateIs⟩ := there none
      obtain ⟨o, set⟩ := setSecurity_buffers zmq pub prv
      rw [publicIs, privateIs]
      simp [keyPointer, set, none]

/-- A key is set from a buffer, and from nothing else. -/
theorem setKey_buffer (zmq : CurveEnv) (option : CurveOption) (b : KeyBuffer)
    (set : Bytes → CurveOptions → CurveOptions) (o : CurveOptions) :
    ∃ o', setKey zmq option (keyPointer (some b)) set o = some o' := by
  unfold setKey keyPointer KeyPointer.read
  dsimp only
  split
  · exact ⟨_, rfl⟩
  · exact ⟨_, rfl⟩

/-- The peer sets its keys from buffers and a router's key that is long enough. -/
theorem setPeerKeys_runs (zmq : CurveEnv) {value : Bytes} (pub prv : KeyBuffer)
    (long : 39 ≤ value.length) :
    ∃ o, setPeerKeys zmq value (keyPointer (some pub)) (keyPointer (some prv)) = some o := by
  unfold setPeerKeys
  dsimp only
  rw [if_neg (by rw [List.length_append, List.length_singleton]; omega)]
  obtain ⟨o, first⟩ := setKey_buffer zmq .CURVE_PUBLICKEY pub
    (fun key o => { o with publicKey := some key })
    (if zmq.sets .CURVE_SERVERKEY = false then {}
      else { serverKey := some ((value ++ [0]).take 40) })
  rw [first]
  exact setKey_buffer zmq .CURVE_SECRETKEY prv (fun key o => { o with secretKey := some key }) o

/-- Without its buffer, or with a short key of the router, it reads memory that is not
there. -/
theorem setPeerKeys_fails (zmq : CurveEnv) {value : Bytes} {curvePub : KeyPointer}
    (curvePrv : KeyPointer) (fails : value.length < 39 ∨ curvePub = .freed) :
    setPeerKeys zmq value curvePub curvePrv = none := by
  unfold setPeerKeys
  dsimp only
  split
  · rfl
  · next long =>
    rcases fails with short | gone
    · rw [List.length_append, List.length_singleton] at long
      omega
    · rw [gone]
      rfl

/-- A start of another module leaves the router's row. -/
theorem other_row {tables : KeyTables} {start : Start} {client : Clients}
    (other : client ≠ start.client) :
    view (runStart tables start).1.store.committed (publicName client).triple =
      view tables (publicName client).triple :=
  (sameRows_of_other (runStart_effect tables start) other).publicRow

theorem peer_bad_memory_iff (env : ModuleEnv) (readRouter : StmtEnv) (zmq : CurveEnv)
    (tables : KeyTables) :
    (peerMain env readRouter zmq tables).2 = .badMemory ↔
      env.sodium = true ∧ Runs readRouter 3 ∧
        ∃ value, view tables (publicName .ROUTER).triple = some ⟨value, true⟩ ∧
          (value.length < 39 ∨ NoBuffers tables (mainStart .PEER env)) := by
  unfold peerMain
  cases sodium : env.sodium with
  | false =>
    unfold moduleInit
    rw [if_pos sodium]
    simp
  | true =>
    rw [moduleInit_eq .PEER tables sodium]
    obtain ⟨gone, there⟩ := @buffers_gone_iff tables (mainStart .PEER env) rfl
    have row := @other_row tables (mainStart .PEER env) .ROUTER (by simp [mainStart])
    generalize (runStart tables (mainStart .PEER env)).2.info = info at gone there
    generalize (runStart tables (mainStart .PEER env)).1.store.committed = after at row
    have reads := (getKey_spec readRouter (publicName .ROUTER) ⟨after, 0⟩).2.1
    simp only [KeyMap.get_eq_some_iff, row] at reads
    dsimp only
    cases read : (getKey readRouter (CLIENTS_IDS .ROUTER) .CURVE25519 publicKey ⟨after, 0⟩).1 with
    | error e =>
      constructor
      · intro ended
        cases ended
      · rintro ⟨_, runs, value, there, _⟩
        cases read.symm.trans ((reads value).mpr ⟨runs, there⟩)
    | ok value =>
      obtain ⟨runs, there'⟩ := (reads value).mp read
      have bad : (value.length < 39 ∨ NoBuffers tables (mainStart .PEER env)) ↔
          setPeerKeys zmq value (keyPointer info.curvePub) (keyPointer info.curvePrv) = none := by
        constructor
        · rintro (short | none)
          · exact setPeerKeys_fails zmq _ (.inl short)
          · exact setPeerKeys_fails zmq _ (.inr (by rw [gone none]; rfl))
        · intro fails
          by_contra both
          obtain ⟨long, buffers⟩ := not_or.mp both
          obtain ⟨pub, prv, publicIs, privateIs⟩ := there buffers
          rw [publicIs, privateIs] at fails
          obtain ⟨o, set⟩ := setPeerKeys_runs zmq pub prv (Nat.not_lt.mp long)
          cases set.symm.trans fails
      constructor
      · intro ended
        refine ⟨rfl, runs, value, there', bad.mpr ?_⟩
        cases set : setPeerKeys zmq value (keyPointer info.curvePub) (keyPointer info.curvePrv) with
        | none => rfl
        | some o =>
          dsimp only at ended
          rw [set] at ended
          cases ended
      · rintro ⟨_, _, value', row', fails⟩
        cases there'.symm.trans row'
        dsimp only
        rw [bad.mp fails]

/-! ## With the memory of the start -/

section Start

variable {mem : MemoryEnv} {env : ModuleEnv} {client : Clients} {tables : KeyTables}

theorem moduleInitPointers_aborts (mem : MemoryEnv) (client : Clients) (tables : KeyTables)
    (sodium : env.sodium = false) :
    moduleInitPointers mem env client tables = (tables, .aborted) := by
  unfold moduleInitPointers
  rw [if_pos sodium]

theorem moduleInitPointers_eq (mem : MemoryEnv) (client : Clients) (tables : KeyTables)
    (sodium : env.sodium = true) :
    moduleInitPointers mem env client tables =
      ((runPointers mem tables (mainStart client env)).1.store.committed,
        match (runPointers mem tables (mainStart client env)).2 with
        | none => .badMemory
        | some result => .ready result.info) := by
  unfold moduleInitPointers
  rw [if_neg (by simp [sodium])]
  rfl

/-- A start that leaves its memory has committed nothing. -/
theorem moduleInitPointers_leaves (sodium : env.sodium = true)
    (leaves : LeavesMemory mem tables (mainStart client env)) :
    moduleInitPointers mem env client tables = (tables, .badMemory) := by
  have outcome := @start_memory mem tables (mainStart client env) rfl
  rw [moduleInitPointers_eq mem client tables sodium]
  generalize runPointers mem tables (mainStart client env) = ran at outcome
  cases outcome with
  | left _ s untouched =>
    dsimp only
    rw [untouched]
  | inside stays => exact absurd leaves stays

/-- Any other start leaves what it leaves on buffers that are always there. -/
theorem moduleInitPointers_stays (sodium : env.sodium = true)
    (stays : ¬ LeavesMemory mem tables (mainStart client env)) :
    moduleInitPointers mem env client tables =
      ((runStart tables (mainStart client env)).1.store.committed,
        .ready (runStart tables (mainStart client env)).2.pointers.info) := by
  have outcome := @start_memory mem tables (mainStart client env) rfl
  rw [moduleInitPointers_eq mem client tables sodium]
  generalize runPointers mem tables (mainStart client env) = ran at outcome
  cases outcome with
  | left leaves => exact absurd leaves stays
  | inside _ => rfl

end Start

/-- A key that is set was in a buffer. -/
theorem setKey_some {zmq : CurveEnv} {option : CurveOption} {key : Option KeyBuffer}
    {set : Bytes → CurveOptions → CurveOptions} {o o' : CurveOptions}
    (ran : setKey zmq option (keyPointer key) set o = some o') : ∃ b, key = some b := by
  cases key with
  | none => cases ran
  | some b => exact ⟨b, rfl⟩

/-- A peer that has set its keys has both buffers to free. -/
theorem setPeerKeys_some {zmq : CurveEnv} {value : Bytes} {curvePub curvePrv : Option KeyBuffer}
    {o : CurveOptions}
    (ran : setPeerKeys zmq value (keyPointer curvePub) (keyPointer curvePrv) = some o) :
    ∃ pub prv, curvePub = some pub ∧ curvePrv = some prv := by
  unfold setPeerKeys at ran
  dsimp only at ran
  split at ran
  · cases ran
  · obtain ⟨middle, first, second⟩ := Option.bind_eq_some_iff.mp ran
    obtain ⟨pub, publicIs⟩ := setKey_some first
    obtain ⟨prv, privateIs⟩ := setKey_some second
    exact ⟨pub, prv, publicIs, privateIs⟩

/-- With its memory the router's `main` ends where its start leaves it, or does what it does on
buffers that are always there. -/
theorem routerMainPointers_eq (mem : MemoryEnv) (env : ModuleEnv) (zmq : CurveEnv)
    (tables : KeyTables) :
    (env.sodium = true ∧ LeavesMemory mem tables (mainStart .ROUTER env) →
        routerMainPointers mem env zmq tables = (tables, .badMemory)) ∧
      (¬ (env.sodium = true ∧ LeavesMemory mem tables (mainStart .ROUTER env)) →
        routerMainPointers mem env zmq tables = routerMain env zmq tables) := by
  constructor
  · rintro ⟨sodium, leaves⟩
    unfold routerMainPointers
    rw [moduleInitPointers_leaves sodium leaves]
  · intro other
    unfold routerMainPointers routerMain
    cases sodium : env.sodium with
    | false =>
      rw [moduleInitPointers_aborts mem .ROUTER tables sodium, moduleInit, if_pos sodium]
    | true =>
      have stays : ¬ LeavesMemory mem tables (mainStart .ROUTER env) :=
        fun leaves => other ⟨sodium, leaves⟩
      rw [moduleInitPointers_stays sodium stays, moduleInit_eq .ROUTER tables sodium]
      generalize (runStart tables (mainStart .ROUTER env)).2 = result
      obtain ⟨ret, ⟨keyType, curvePub, curvePrv, isReady⟩, found, copies⟩ := result
      cases curvePub <;> cases curvePrv <;> rfl

theorem peerMainPointers_eq (mem : MemoryEnv) (env : ModuleEnv) (readRouter : StmtEnv)
    (zmq : CurveEnv) (tables : KeyTables) :
    (env.sodium = true ∧ LeavesMemory mem tables (mainStart .PEER env) →
        peerMainPointers mem env readRouter zmq tables = (tables, .badMemory)) ∧
      (¬ (env.sodium = true ∧ LeavesMemory mem tables (mainStart .PEER env)) →
        peerMainPointers mem env readRouter zmq tables = peerMain env readRouter zmq tables) := by
  constructor
  · rintro ⟨sodium, leaves⟩
    unfold peerMainPointers
    rw [moduleInitPointers_leaves sodium leaves]
  · intro other
    unfold peerMainPointers peerMain
    cases sodium : env.sodium with
    | false =>
      rw [moduleInitPointers_aborts mem .PEER tables sodium, moduleInit, if_pos sodium]
    | true =>
      have stays : ¬ LeavesMemory mem tables (mainStart .PEER env) :=
        fun leaves => other ⟨sodium, leaves⟩
      rw [moduleInitPointers_stays sodium stays, moduleInit_eq .PEER tables sodium]
      generalize (runStart tables (mainStart .PEER env)).2 = result
      obtain ⟨ret, ⟨keyType, curvePub, curvePrv, isReady⟩, found, copies⟩ := result
      dsimp only
      generalize (getKey readRouter (CLIENTS_IDS .ROUTER) .CURVE25519 publicKey
        ⟨(runStart tables (mainStart .PEER env)).1.store.committed, 0⟩).1 = read
      cases read with
      | error e => rfl
      | ok value =>
        dsimp only [KeysResult.pointers]
        cases set : setPeerKeys zmq value (keyPointer curvePub) (keyPointer curvePrv) with
        | none => rfl
        | some options =>
          obtain ⟨pub, prv, rfl, rfl⟩ := setPeerKeys_some set
          rfl

/-- For every content of the tables and any failures, those of the allocations and locks of
`KeysInfo::init` among them. The router's `main` uses memory that it has given back or never
had, or that lies behind a buffer, if and only if an allocation or a lock fails, its start
finds keys of which one does not fit its buffer, or it finds none and makes none. The peer's
`main` does so if and only if one of the first two holds of its own start, or it reads an
active key of the router, and this is shorter than 39 bytes or its own start finds no keys
and makes none. -/
theorem mains_use_bad_memory_iff (mem : MemoryEnv) (env : ModuleEnv) (readRouter : StmtEnv)
    (zmq : CurveEnv) (tables : KeyTables) :
    ((routerMainPointers mem env zmq tables).2 = .badMemory ↔
        env.sodium = true ∧ (LeavesMemory mem tables (mainStart .ROUTER env) ∨
          NoBuffers tables (mainStart .ROUTER env))) ∧
      ((peerMainPointers mem env readRouter zmq tables).2 = .badMemory ↔
        env.sodium = true ∧ (LeavesMemory mem tables (mainStart .PEER env) ∨
          Runs readRouter 3 ∧
            ∃ value, view tables (publicName .ROUTER).triple = some ⟨value, true⟩ ∧
              (value.length < 39 ∨ NoBuffers tables (mainStart .PEER env)))) := by
  have router := routerMainPointers_eq mem env zmq tables
  have peer := peerMainPointers_eq mem env readRouter zmq tables
  constructor
  · by_cases leaves : env.sodium = true ∧ LeavesMemory mem tables (mainStart .ROUTER env)
    · rw [router.1 leaves]
      simp [leaves.1, leaves.2]
    · rw [router.2 leaves, router_bad_memory_iff]
      constructor
      · rintro ⟨sodium, nothing⟩
        exact ⟨sodium, .inr nothing⟩
      · rintro ⟨sodium, lost | nothing⟩
        · exact absurd ⟨sodium, lost⟩ leaves
        · exact ⟨sodium, nothing⟩
  · by_cases leaves : env.sodium = true ∧ LeavesMemory mem tables (mainStart .PEER env)
    · rw [peer.1 leaves]
      simp [leaves.1, leaves.2]
    · rw [peer.2 leaves, peer_bad_memory_iff]
      constructor
      · rintro ⟨sodium, reads⟩
        exact ⟨sodium, .inr reads⟩
      · rintro ⟨sodium, lost | reads⟩
        · exact absurd ⟨sodium, lost⟩ leaves
        · exact ⟨sodium, reads⟩

end FifthD.Guarantees.NodeMemory
