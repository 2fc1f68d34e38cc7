import FifthD.Guarantees.ProvisioningTruth
import FifthD.Source.Processes

/-!
# Router and peer processes on one database

Processes start one after the other, in any order and with any failures. A row of a key
that exists is never changed, and a public row that is missing beside its private row is
never written. A process goes on with the keys that its start found or made; when it found
none and made none, both buffers are gone, and `main` uses them all the same.
-/
namespace FifthD.Guarantees.NodeStart

open FifthD.Library FifthD.Source FifthD.Spec FifthD.Guarantees.KeyStore
open FifthD.Guarantees.ProvisioningStep FifthD.Guarantees.Provisioning
open FifthD.Guarantees.StoredIdentity FifthD.Guarantees.ProvisioningTruth

/-- The start in `main`. -/
def mainStart (client : Clients) (env : ModuleEnv) : Start := ⟨client, freshKeysInfo, env.start⟩

theorem moduleInit_eq {env : ModuleEnv} (client : Clients) (tables : KeyTables)
    (sodium : env.sodium = true) :
    moduleInit env client tables =
      ((runStart tables (mainStart client env)).1.store.committed,
        some (runStart tables (mainStart client env)).2.info) := by
  unfold moduleInit
  rw [if_neg (by simp [sodium])]
  rfl

/-! ## The key buffers -/

/-- What a start of a curve key leaves in the buffers: the keys it found, the keys it made,
or no buffers. -/
inductive StartBuffers (tables : KeyTables) (start : Start) (info : KeysInfo) : Prop
  | found (pub prv : Bytes) (active : ActivePair (view tables) start.client pub prv)
    (finds : FindsKeys (view tables) start)
    (publicIs : info.curvePub = some (KeyBuffer.allocated.write pub))
    (privateIs : info.curvePrv = some (KeyBuffer.allocated.write prv))
  | made (missing : ¬ FindsKeys (view tables) start) (pub prv : CurveKey)
    (keys : start.env.generated = some (pub, prv)) (publicIs : info.curvePub = some pub.buffer)
    (privateIs : info.curvePrv = some prv.buffer)
  | freed (missing : ¬ FindsKeys (view tables) start) (keys : start.env.generated = none)
    (publicFreed : info.curvePub = none) (privateFreed : info.curvePrv = none)

theorem start_buffers {tables : KeyTables} {start : Start}
    (curve : start.info.keyType = .CURVE25519) :
    StartBuffers tables start (runStart tables start).2.info := by
  rcases @runStart_ways tables start curve with
    ⟨finds, _⟩ | ⟨missing, s, store, result, _⟩
  · obtain ⟨publicRuns, privateRuns, pub, prv, publicThere, privateThere⟩ := id finds
    have publicRead : Reads start.env tables (publicName start.client) pub :=
      (reads_iff _ _ _ _).mpr ⟨publicRuns, (KeyMap.get_eq_some_iff _ _ _).mpr publicThere⟩
    have privateRead : Reads start.env tables (privateName start.client) prv :=
      (reads_iff _ _ _ _).mpr ⟨privateRuns, (KeyMap.get_eq_some_iff _ _ _).mpr privateThere⟩
    rw [runStart_of_reads curve publicRead privateRead]
    exact .found pub prv ⟨publicThere, privateThere⟩ finds rfl rfl
  · rw [result]
    cases keys : start.env.generated with
    | none =>
      rw [generatePair_failed start s keys]
      exact .freed missing keys rfl rfl
    | some pair =>
      obtain ⟨pub, prv⟩ := pair
      obtain ⟨_, ret, returned, _⟩ :=
        generatePair_outcome start s curve (by rw [store]; rfl) keys
      rw [returned]
      exact .made missing pub prv keys rfl rfl

/-! ## A start in which nothing fails -/

end FifthD.Guarantees.NodeStart
