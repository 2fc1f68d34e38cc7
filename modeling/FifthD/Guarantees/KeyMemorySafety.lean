import FifthD.Guarantees.ProvisioningTruth
import FifthD.Source.KeyMemory

/-!
# The memory of a start

A start stays in its own memory exactly when both buffers are allocated and locked and no key
that it finds is longer than a buffer; `init` frees both buffers when it cannot lock them, and
nobody looks at that. A start that leaves its memory has committed nothing before, and every
other start does what it does on buffers that are always there.
-/
namespace FifthD.Guarantees.KeyMemorySafety

open FifthD.Library FifthD.Source FifthD.Spec FifthD.Guarantees.KeyStore
open FifthD.Guarantees.ProvisioningStep FifthD.Guarantees.Provisioning
open FifthD.Guarantees.ProvisioningTruth

/-! ## The buffers -/

/-- All calls of `init` succeed. -/
structure Allocates (mem : MemoryEnv) : Prop where
  mallocPub : mem.mallocPub = true
  mallocPrv : mem.mallocPrv = true
  mlockPub : mem.mlockPub = true
  mlockPrv : mem.mlockPrv = true

/-- Both pointers are to buffers. -/
def Owned (info : KeyPointers) : Prop :=
  ∃ pub prv, info.curvePub = .buffer pub ∧ info.curvePrv = .buffer prv

theorem init_allocates {mem : MemoryEnv} (allocates : Allocates mem) (info : KeyPointers) :
    (info.init mem).1 =
      { info with curvePub := .buffer .allocated, curvePrv := .buffer .allocated } := by
  obtain ⟨mallocPub, mallocPrv, mlockPub, mlockPrv⟩ := allocates
  simp [KeyPointers.init, allocateSmem, mallocPub, mallocPrv, mlockPub, mlockPrv]

theorem init_fails {mem : MemoryEnv} (fails : ¬ Allocates mem) (info : KeyPointers) :
    ¬ Owned (info.init mem).1 := by
  rintro ⟨pub, prv, publicIs, privateIs⟩
  unfold KeyPointers.init at publicIs privateIs
  dsimp only at publicIs privateIs
  split at publicIs
  · next missing =>
    rw [if_pos missing] at privateIs
    rcases missing with null | null
    · cases null.symm.trans publicIs
    · cases null.symm.trans privateIs
  · split at publicIs
    · cases publicIs
    · next there locked =>
      obtain ⟨mlockPub, mlockPrv⟩ := not_or.mp locked
      refine fails ⟨?_, ?_, ?_, ?_⟩
      · by_contra missing
        exact there (.inl (if_neg missing))
      · by_contra missing
        exact there (.inr (if_neg missing))
      · exact eq_true_of_ne_false mlockPub
      · exact eq_true_of_ne_false mlockPrv

theorem copyKeys_lost {info : KeyPointers} (lost : ¬ Owned info) (pub prv : Bytes) :
    copyKeys info pub prv = none := by
  unfold copyKeys
  cases publicIs : info.curvePub with
  | null | freed => rfl
  | buffer a =>
    cases privateIs : info.curvePrv with
    | null | freed => simp [KeyPointer.write]
    | buffer b => exact absurd ⟨a, b, publicIs, privateIs⟩ lost

theorem deinit_lost {info : KeyPointers} (lost : ¬ Owned info) : info.deinit = none := by
  unfold KeyPointers.deinit
  cases publicIs : info.curvePub with
  | null | freed => rfl
  | buffer a =>
    cases privateIs : info.curvePrv with
    | null | freed => rfl
    | buffer b => exact absurd ⟨a, b, publicIs, privateIs⟩ lost

/-! ## One start -/

/-- The pointers of a start that has not allocated anything. -/
def unallocated (start : Start) : KeyPointers :=
  ⟨start.info.keyType, .null, .null, start.info.isReady⟩

/-- Run a start with its memory on the committed tables. -/
def runPointers (mem : MemoryEnv) (tables : KeyTables) (start : Start) :
    KeyServer Unit × Option PointersResult :=
  Prog.run (performCall start.env ()) (.idle tables)
    (handlePointers mem start.client (unallocated start))

/-- The start finds both keys, and one of them does not fit its buffer. -/
def TooLong (tables : KeyTables) (start : Start) : Prop :=
  Runs (start.env.faults (readCall (publicName start.client))) 3 ∧
    Runs (start.env.faults (readCall (privateName start.client))) 3 ∧
    ∃ pub prv, ActivePair (view tables) start.client pub prv ∧
      (41 < pub.length ∨ 41 < prv.length)

/-- The start uses memory that is not its own. -/
def LeavesMemory (mem : MemoryEnv) (tables : KeyTables) (start : Start) : Prop :=
  ¬ Allocates mem ∨ TooLong tables start

/-- What becomes of a start with its memory: it leaves it, and has committed nothing before,
or it does what it does on buffers that are always there. -/
inductive StartMemory (mem : MemoryEnv) (tables : KeyTables) (start : Start) :
    KeyServer Unit × Option PointersResult → Prop
  | left (leaves : LeavesMemory mem tables start) (s : KeyServer Unit)
    (untouched : s.store.committed = tables) : StartMemory mem tables start (s, none)
  | inside (stays : ¬ LeavesMemory mem tables start) :
    StartMemory mem tables start
      ((runStart tables start).1, some (runStart tables start).2.pointers)

/-- Two keys that are read are too long when one of them is. -/
theorem tooLong_iff_of_reads {tables : KeyTables} {start : Start} {pub prv : Bytes}
    (publicRead : Reads start.env tables (publicName start.client) pub)
    (privateRead : Reads start.env tables (privateName start.client) prv) :
    TooLong tables start ↔ 41 < pub.length ∨ 41 < prv.length := by
  obtain ⟨publicRuns, publicThere⟩ := (reads_iff _ _ _ _).mp publicRead
  obtain ⟨privateRuns, privateThere⟩ := (reads_iff _ _ _ _).mp privateRead
  rw [KeyMap.get_eq_some_iff] at publicThere privateThere
  constructor
  · rintro ⟨_, _, pub', prv', ⟨publicThere', privateThere'⟩, long⟩
    cases publicThere.symm.trans publicThere'
    cases privateThere.symm.trans privateThere'
    exact long
  · intro long
    exact ⟨publicRuns, privateRuns, pub, prv, ⟨publicThere, privateThere⟩, long⟩

theorem TooLong.finds {tables : KeyTables} {start : Start} (long : TooLong tables start) :
    FindsKeys (view tables) start := by
  obtain ⟨publicRuns, privateRuns, pub, prv, active, _⟩ := long
  exact ⟨publicRuns, privateRuns, pub, prv, active⟩

section Start

variable {mem : MemoryEnv} {start : Start} {s : KeyServer Unit}

/-- Without its buffers a start that found no keys gets no further. -/
theorem generatePointers_lost {info : KeyPointers} (lost : ¬ Owned info) (client : Clients) :
    Prog.run (performCall start.env ()) s (generatePointers client info) = (s, none) := by
  unfold generatePointers
  have answers : performCall start.env () s .generateKeys = (s, start.env.generated) := rfl
  rw [KeyCall.ask, Prog.run_ask_bind answers]
  cases start.env.generated with
  | none =>
    dsimp only
    rw [deinit_lost lost]
    rfl
  | some pair =>
    dsimp only
    split
    · next a b publicIs privateIs => exact absurd ⟨a, b, publicIs, privateIs⟩ lost
    · rfl

/-- With its buffers it goes on as with buffers that are always there. -/
theorem generatePointers_owned (client : Clients) (info : KeysInfo) :
    Prog.run (performCall start.env ()) s (generatePointers client
        ⟨info.keyType, .buffer .allocated, .buffer .allocated, info.isReady⟩) =
      match Prog.run (performCall start.env ()) s (generatePair client info.init) with
      | (t, result) => (t, some result.pointers) := by
  unfold generatePointers generatePair
  have answers : performCall start.env () s .generateKeys = (s, start.env.generated) := rfl
  rw [KeyCall.ask, Prog.run_ask_bind answers, Prog.run_ask_bind answers]
  cases start.env.generated with
  | none => rfl
  | some pair =>
    dsimp only
    rw [Prog.run_bind]
    rfl

/-- Keys that fit are copied into the buffers. -/
theorem copyKeys_owned (start : Start) (pub prv : Bytes) :
    copyKeys ⟨start.info.keyType, .buffer .allocated, .buffer .allocated, start.info.isReady⟩
        pub prv =
      if 41 < pub.length ∨ 41 < prv.length then none
      else some (loadKeys start.info.init pub prv).pointers := by
  unfold copyKeys KeyPointer.write
  by_cases publicFits : pub.length ≤ 41
  · by_cases privateFits : prv.length ≤ 41
    · rw [if_neg (by omega)]
      simp [publicFits, privateFits, loadKeys, KeysResult.pointers, KeysInfo.setKeys, KeysInfo.init,
        keyPointer]
    · rw [if_pos (by omega)]
      simp [publicFits, privateFits]
  · rw [if_pos (by omega)]
    simp [publicFits]

/-- The switch on a curve key goes on from what its reads found. -/
theorem switchPointers_run {client : Clients} {info : KeyPointers}
    (curve : info.keyType = .CURVE25519) :
    Prog.run (performCall start.env ()) s (switchPointers mem client info) =
      match Prog.run (performCall start.env ()) s (getZmqCurveKeys client) with
      | (t, some (pub, prv)) => (t, copyKeys (info.init mem).1 pub prv)
      | (t, none) =>
        Prog.run (performCall start.env ()) t (generatePointers client (info.init mem).1) := by
  rw [switchPointers, curve]
  dsimp only
  rw [Prog.run_bind]
  rcases Prog.run (performCall start.env ()) s (getZmqCurveKeys client) with ⟨t, _ | _⟩
  · rfl
  · rfl

theorem switchKeyType_run {client : Clients} {info : KeysInfo}
    (curve : info.keyType = .CURVE25519) :
    Prog.run (performCall start.env ()) s (switchKeyType client info) =
      match Prog.run (performCall start.env ()) s (getZmqCurveKeys client) with
      | (t, some (pub, prv)) => (t, loadKeys info.init pub prv)
      | (t, none) => Prog.run (performCall start.env ()) t (generatePair client info.init) := by
  rw [switchKeyType, curve]
  dsimp only
  rw [Prog.run_bind]
  rcases Prog.run (performCall start.env ()) s (getZmqCurveKeys client) with ⟨t, _ | _⟩
  · rfl
  · rfl

/-- A start closes its connection when it has stayed in its memory. -/
theorem runPointers_eq (tables : KeyTables) (start : Start) :
    runPointers mem tables start =
      match Prog.run (performCall start.env ()) (.idle tables)
        (switchPointers mem start.client (unallocated start)) with
      | (t, none) => (t, none)
      | (t, some result) => ((performCall start.env () t .close).1, some result) := by
  unfold runPointers handlePointers
  rw [Prog.run_bind]
  rcases Prog.run (performCall start.env ()) (.idle tables)
    (switchPointers mem start.client (unallocated start)) with ⟨t, _ | _⟩
  · rfl
  · rfl

theorem runStart_eq (tables : KeyTables) (start : Start) :
    runStart tables start =
      match Prog.run (performCall start.env ()) (.idle tables)
        (switchKeyType start.client start.info) with
      | (t, result) => ((performCall start.env () t .close).1, result) := by
  unfold runStart handleKeys
  rw [Prog.run_bind]
  rfl

end Start

/-- Every start of a curve key leaves its memory, or does what it does on buffers that are
always there. -/
theorem start_memory (mem : MemoryEnv) (tables : KeyTables) {start : Start}
    (curve : start.info.keyType = .CURVE25519) :
    StartMemory mem tables start (runPointers mem tables start) := by
  obtain ⟨t, found, ran, store, reads⟩ :=
    getZmqCurveKeys_run start.env () (.idle tables) start.client
  have committed : t.store.committed = tables := by rw [store]; rfl
  have own : (unallocated start).keyType = .CURVE25519 := curve
  have finds := findsKeys_iff tables start
  have onBuffers := runStart_eq tables start
  rw [switchKeyType_run curve, ran] at onBuffers
  rw [runPointers_eq, switchPointers_run own, ran]
  by_cases allocates : Allocates mem
  · have buffers := init_allocates allocates (unallocated start)
    cases found with
    | some pair =>
      obtain ⟨pub, prv⟩ := pair
      obtain ⟨publicRead, privateRead⟩ := (reads pub prv).mp rfl
      have long := tooLong_iff_of_reads publicRead privateRead
      dsimp only at onBuffers ⊢
      rw [buffers, unallocated, copyKeys_owned]
      by_cases tooLong : 41 < pub.length ∨ 41 < prv.length
      · rw [if_pos tooLong]
        exact .left (.inr (long.mpr tooLong)) t committed
      · rw [if_neg tooLong]
        have stays : ¬ LeavesMemory mem tables start :=
          not_or.mpr ⟨not_not.mpr allocates, fun lost => tooLong (long.mp lost)⟩
        have inside := StartMemory.inside stays
        rwa [onBuffers] at inside
    | none =>
      have stays : ¬ LeavesMemory mem tables start := by
        rintro (fails | long)
        · exact fails allocates
        · obtain ⟨pub, prv, found⟩ := finds.mp long.finds
          cases (reads pub prv).mpr found
      have inside := StartMemory.inside stays
      dsimp only at onBuffers ⊢
      rw [buffers, unallocated, generatePointers_owned]
      rwa [onBuffers] at inside
  · have lost := init_fails allocates (unallocated start)
    cases found with
    | some pair =>
      dsimp only
      rw [copyKeys_lost lost]
      exact .left (.inl allocates) t committed
    | none =>
      dsimp only
      rw [generatePointers_lost lost]
      exact .left (.inl allocates) t committed

end FifthD.Guarantees.KeyMemorySafety
