import FifthD.Source.Database

/-!
# Opening the database again

Any opens and closes after construction, with any of the SQLite calls failing. A failed
`open` keeps the key for the next, the first that succeeds wipes it, and `close` gives no key
back: so the object goes through three phases, and in the last one no `open` can succeed.
-/
namespace FifthD.Guarantees.DatabaseReopen

open FifthD.Source DatabaseAccess

/-! ## Phases -/

/-- SQLite grants an open. -/
def Granted (env : OpenEnv) : Prop := env.opens = true ∧ env.accepts = true

instance (env : OpenEnv) : Decidable (Granted env) := inferInstanceAs (Decidable (_ ∧ _))

/-- Never opened, open, or closed after it was open. -/
inductive Phase where
  | unopened | opened | spent
  deriving DecidableEq

/-- The phase behind a call. -/
def Phase.next : Phase → DatabaseAccess.Call → Phase
  | .unopened, .openDb env => if Granted env then .opened else .unopened
  | .opened, .close env => if env.closes then .spent else .opened
  | phase, _ => phase

/-- The opens that construction makes. -/
def initCalls (env : InitEnv) : List DatabaseAccess.Call :=
  if env.fileExists then [.openDb env.lastOpen] else [.openDb env.newOpen, .openDb env.lastOpen]

/-- The phase behind construction and calls. -/
def phaseAfter (env : InitEnv) (calls : List DatabaseAccess.Call) : Phase :=
  (initCalls env ++ calls).foldl Phase.next .unopened

/-- The object of each phase: the key is there until the first open that succeeds. -/
def Tracks (key : Bytes) : Phase → DatabaseAccess → Prop
  | .unopened, d => d.db = none ∧ d.key = some key ∧ d.keyNumByte = key.length
  | .opened, d => d.db = some ⟨key⟩ ∧ d.key = none
  | .spent, d => d.db = none ∧ d.key = none

/-! ## One call -/

/-- The key of construction is accepted when any is. -/
theorem sqlite3Key_whole {key : Bytes} (nonempty : key ≠ []) (accepts : Bool) :
    sqlite3Key accepts (some key) key.length = if accepts then some ⟨key⟩ else none := by
  have size : key.length ≠ 0 := fun zero => nonempty (List.length_eq_zero_iff.mp zero)
  unfold sqlite3Key
  cases accepts <;> simp [size]

section Step

variable {key : Bytes} {phase : Phase} {d : DatabaseAccess}

/-- Before the first success an open that is granted succeeds, and wipes the key. -/
theorem openDb_granted (nonempty : key ≠ []) (tracks : Tracks key .unopened d) {env : OpenEnv}
    (granted : Granted env) :
    (d.openDb env).1 = .ok () ∧ Tracks key .opened (d.openDb env).2 := by
  obtain ⟨closed, kept, size⟩ := tracks
  unfold openDb
  rw [closed, kept, size, sqlite3Key_whole nonempty, granted.1, granted.2]
  exact ⟨rfl, rfl, rfl⟩

/-- An open that is refused leaves the object, and the key for the next. -/
theorem openDb_refused (nonempty : key ≠ []) (tracks : Tracks key .unopened d) {env : OpenEnv}
    (refused : ¬ Granted env) : (d.openDb env).1 ≠ .ok () ∧ (d.openDb env).2 = d := by
  obtain ⟨closed, kept, size⟩ := tracks
  unfold openDb
  rw [closed, kept, size, sqlite3Key_whole nonempty]
  cases opens : env.opens with
  | false => simp [err]
  | true =>
    have rejects : env.accepts = false := by
      rw [Bool.eq_false_iff]
      exact fun accepts => refused ⟨opens, accepts⟩
    simp [rejects, err]

/-- An open of an open object does nothing. -/
theorem openDb_opened (tracks : Tracks key .opened d) (env : OpenEnv) :
    d.openDb env = (.ok (), d) := by
  unfold openDb
  rw [tracks.1]

/-- Without the key no open succeeds. -/
theorem openDb_spent (tracks : Tracks key .spent d) (env : OpenEnv) :
    (d.openDb env).1 ≠ .ok () ∧ (d.openDb env).2 = d := by
  unfold openDb
  rw [tracks.1, tracks.2]
  cases env.opens with
  | false => simp [err]
  | true => simp [sqlite3Key, err]

theorem close_tracks (tracks : Tracks key phase d) (env : CloseEnv) :
    Tracks key (phase.next (.close env)) (d.close env).2 := by
  unfold close
  cases phase with
  | unopened =>
    rw [tracks.1]
    exact tracks
  | opened =>
    rw [tracks.1, Phase.next]
    cases env.closes with
    | false => exact tracks
    | true => exact ⟨rfl, tracks.2⟩
  | spent =>
    rw [tracks.1]
    exact tracks

/-- Every call leaves the object of its phase. -/
theorem after_tracks (nonempty : key ≠ []) (tracks : Tracks key phase d)
    (call : DatabaseAccess.Call) : Tracks key (phase.next call) (d.after call) := by
  cases call with
  | close env => exact close_tracks tracks env
  | openDb env =>
    rw [after]
    cases phase with
    | unopened =>
      rw [Phase.next]
      by_cases granted : Granted env
      · rw [if_pos granted]
        exact (openDb_granted nonempty tracks granted).2
      · rw [if_neg granted, (openDb_refused nonempty tracks granted).2]
        exact tracks
    | opened =>
      rw [openDb_opened tracks env]
      exact tracks
    | spent =>
      rw [(openDb_spent tracks env).2]
      exact tracks

theorem run_tracks (nonempty : key ≠ []) (tracks : Tracks key phase d)
    (calls : List DatabaseAccess.Call) :
    Tracks key (calls.foldl Phase.next phase) (calls.foldl after d) := by
  induction calls generalizing phase d with
  | nil => exact tracks
  | cons call rest ih => exact ih (after_tracks nonempty tracks call)

/-- An `open` as it should be: Ok only on a connection with the key of construction, and Ok
whenever a closed object is granted it. -/
structure OpenRight (key : Bytes) (d : DatabaseAccess) (env : OpenEnv) : Prop where
  keyed : (d.openDb env).1 = .ok () → (d.openDb env).2.db = some ⟨key⟩
  reopens : d.db = none → Granted env → (d.openDb env).1 = .ok ()

theorem openRight_iff (nonempty : key ≠ []) (tracks : Tracks key phase d) (env : OpenEnv) :
    OpenRight key d env ↔ (Granted env → phase ≠ .spent) := by
  cases phase with
  | unopened =>
    refine iff_of_true ?_ fun _ => nofun
    by_cases granted : Granted env
    · have opened := openDb_granted nonempty tracks granted
      exact ⟨fun _ => opened.2.1, fun _ _ => opened.1⟩
    · have refused := openDb_refused nonempty tracks granted
      exact ⟨fun ok => absurd ok refused.1, fun _ other => absurd other granted⟩
  | opened =>
    refine iff_of_true ⟨fun _ => ?_, fun _ _ => ?_⟩ fun _ => nofun
    · rw [openDb_opened tracks env]
      exact tracks.1
    · rw [openDb_opened tracks env]
  | spent =>
    have fails := (openDb_spent tracks env).1
    constructor
    · exact fun right granted => absurd (right.reopens tracks.1 granted) fails
    · intro never
      exact ⟨fun ok => absurd ok fails, fun _ granted => absurd rfl (never granted)⟩

end Step

/-! ## Construction and runs -/

/-- `_new_db` opens once, and leaves the object like that. -/
theorem newDb_object {env : InitEnv} {d next : DatabaseAccess} {ret : VoidResult}
    (returned : d.newDb env = some (ret, next)) : next = (d.openDb env.newOpen).2 := by
  unfold newDb at returned
  dsimp only at returned
  split at returned
  · cases returned
  · split at returned
    · cases returned
    · split at returned
      · cases returned
      · cases returned
        rfl
      · cases returned
        rfl

/-- Construction leaves the object that its opens lead to. -/
theorem init_object {key : Bytes} {path : String} {error : ErrorHandler} {env : InitEnv}
    {d : DatabaseAccess} (constructed : init env path key error = some d) :
    d = (initCalls env).foldl after
      { dbPath := path, key := some key, keyNumByte := key.length, db := none, error } := by
  unfold init at constructed
  unfold initCalls
  dsimp only at constructed
  cases found : env.fileExists with
  | true =>
    rw [found, if_pos rfl] at constructed
    exact (Option.some.inj constructed).symm
  | false =>
    rw [found, if_neg Bool.false_ne_true] at constructed
    split at constructed
    · cases constructed
    · next ret next made =>
      split at constructed
      · cases constructed
      · rw [newDb_object made] at constructed
        exact (Option.some.inj constructed).symm

theorem init_tracks {key : Bytes} (nonempty : key ≠ []) {path : String} {error : ErrorHandler}
    {env : InitEnv} {d : DatabaseAccess} (constructed : init env path key error = some d) :
    Tracks key ((initCalls env).foldl Phase.next .unopened) d := by
  have start : Tracks key .unopened
      { dbPath := path, key := some key, keyNumByte := key.length, db := none, error } :=
    ⟨rfl, rfl, rfl⟩
  rw [init_object constructed]
  exact run_tracks nonempty start (initCalls env)

/-- Every `open` of a sequence of calls is as it should be. -/
def OpensRight (key : Bytes) (d : DatabaseAccess) (calls : List DatabaseAccess.Call) : Prop :=
  ∀ past env later, calls = past ++ .openDb env :: later → OpenRight key (past.foldl after d) env

/-- For every non-empty key, every construction that returns and every sequence of opens and
closes, with any SQLite call failing: each `open` returns Ok only on a connection with the
key of construction, and returns Ok on a closed object when SQLite grants it, if and only if
no `open` is granted to an object that was closed after it had been open. -/
theorem opens_right_iff {key : Bytes} (nonempty : key ≠ []) {path : String}
    {error : ErrorHandler} {env : InitEnv} {d : DatabaseAccess}
    (constructed : init env path key error = some d) (calls : List DatabaseAccess.Call) :
    OpensRight key d calls ↔
      ∀ past openEnv later, calls = past ++ .openDb openEnv :: later → Granted openEnv →
        phaseAfter env past ≠ .spent := by
  have right (past : List DatabaseAccess.Call) (openEnv : OpenEnv) :
      OpenRight key (past.foldl after d) openEnv ↔
        (Granted openEnv → phaseAfter env past ≠ .spent) := by
    unfold phaseAfter
    rw [List.foldl_append]
    exact openRight_iff nonempty (run_tracks nonempty (init_tracks nonempty constructed) past) _
  constructor
  · intro opens past openEnv later split
    exact (right past openEnv).mp (opens past openEnv later split)
  · intro never past openEnv later split
    exact (right past openEnv).mpr (never past openEnv later split)

/-- SQLite grants every call. -/
def grants : OpenEnv := ⟨true, true⟩

/-- A construction on a database that is there, with every SQLite call granted. -/
def existing : InitEnv := ⟨true, grants, true, true, true, none, grants⟩

/-- What it makes under a key of four bytes. -/
def constructed : DatabaseAccess := ⟨"fithd.db", none, 0, some ⟨ascii "lock"⟩, ⟨fun _ => false⟩⟩

/-- One close before the object is opened again. -/
theorem closed_for_good :
    ¬ OpensRight (ascii "lock") constructed [.close ⟨true, ""⟩, .openDb grants] := by
  intro opens
  have opened := (opens [.close ⟨true, ""⟩] grants [] rfl).reopens rfl ⟨rfl, rfl⟩
  revert opened
  decide

/-- An open of the object as it was made, and a close. -/
theorem opens_right_once :
    ascii "lock" ≠ [] ∧
      init existing "fithd.db" (ascii "lock") ⟨fun _ => false⟩ = some constructed ∧
      (OpensRight (ascii "lock") constructed [.openDb grants, .close ⟨true, ""⟩] ↔
        ∀ past openEnv later,
          [Call.openDb grants, .close ⟨true, ""⟩] = past ++ .openDb openEnv :: later →
            Granted openEnv → phaseAfter existing past ≠ .spent) := by
  have nonempty : ascii "lock" ≠ [] := by decide
  have made : init existing "fithd.db" (ascii "lock") ⟨fun _ => false⟩ = some constructed := rfl
  exact ⟨nonempty, made, opens_right_iff nonempty made _⟩

end FifthD.Guarantees.DatabaseReopen
