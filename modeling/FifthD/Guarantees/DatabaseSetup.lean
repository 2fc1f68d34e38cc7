import FifthD.Guarantees.DatabaseReopen
import FifthD.Guarantees.SchemaCheck
import FifthD.Source.DatabaseFile

/-!
# The tables are made once or never

Any number of objects are constructed on one path, one after the other, with any failures.
The script runs only where there was no file, and `open` makes the file before it: so the
object that makes the file decides whether there will ever be tables.
-/
namespace FifthD.Guarantees.DatabaseSetup

open FifthD.Source DatabaseAccess FifthD.Guarantees.DatabaseReopen FifthD.Guarantees.SchemaCheck

variable (path : String) (key : Bytes) (error : ErrorHandler)

/-- The file after constructions, from no file. -/
def fileAfter (starts : List SetupEnv) : DbFile :=
  starts.foldl (fun file env => initFile env path key error file) none

/-- Where there is a file, construction leaves it. -/
theorem initFile_some (env : SetupEnv) (schema : List SchemaObject) :
    initFile env path key error (some schema) = some schema := by
  simp [initFile, openFile]

/-- The tables of the script are there after three of its statements. -/
theorem complete_of_script (n : Nat) :
    Complete ((tableKeysSql.take n).foldl runStatement []) ↔ 3 ≤ n := by
  unfold Complete HasTable
  match n with
  | 0 | 1 | 2 | 3 | 4 | 5 => decide
  | m + 6 =>
    rw [List.take_of_length_le (by simp [tableKeysSql])]
    refine iff_of_true ?_ (by omega)
    decide

/-- The error of an `open` that finds no way to the file. -/
def openFailed : Error := ⟨.FAIL_OPEN_DB_FILE, "Fail to open db file: " ++ path, some .HIGH⟩

/-- The error of a schema that was not applied. -/
def schemeFailed : Error := ⟨.FAIL_CREATE_DB_SCHEME, "Fail to create db scheme", some .HIGH⟩

/-- The construction makes the file: its first open does, or after two errors that are
recovered from its last. -/
def Creates (env : SetupEnv) : Prop :=
  env.newOpen.opens = true ∨
    (error.handleError (openFailed path) = true ∧ env.scriptExists = true ∧
      error.handleError schemeFailed = true ∧ env.lastOpen.opens = true)

/-- Its first open succeeds, and of the script the statements up to the second table run. -/
def BuildsTables (env : SetupEnv) : Prop :=
  key ≠ [] ∧ Granted env.newOpen ∧ env.scriptExists = true ∧ env.scriptReads = true ∧
    (env.scheme = true ∨ 3 ≤ env.executed)

variable {path key error}

/-- Without its open, construction makes a file without tables, or none. -/
theorem initFile_unopened {env : SetupEnv} (fails : env.newOpen.opens = false) :
    initFile env path key error none =
      if error.handleError (openFailed path) && env.scriptExists &&
        error.handleError schemeFailed && env.lastOpen.opens then some [] else none := by
  have refused : DatabaseAccess.openDb env.newOpen
      { dbPath := path, key := some key, keyNumByte := key.length, db := none, error } =
        (.error (openFailed path),
          { dbPath := path, key := some key, keyNumByte := key.length, db := none, error }) := by
    unfold openDb
    dsimp only
    rw [if_pos fails]
    rfl
  unfold initFile newDbFile newDb
  dsimp only
  rw [refused]
  cases openRecovers : error.handleError (openFailed path) with
  | false => simp [recovers, openRecovers, openFile, fails]
  | true =>
    cases scriptExists : env.scriptExists with
    | false => simp [recovers, openRecovers, openFile, fails]
    | true =>
      have answer : ∀ recovered, error.handleError schemeFailed = recovered →
          error.handleError ⟨.FAIL_CREATE_DB_SCHEME, "Fail to create db scheme", some .HIGH⟩ =
            recovered := fun _ same => same
      cases schemeRecovers : error.handleError schemeFailed with
      | false =>
        simp [recovers, openRecovers, openFile, fails, addScheme, addSchemeFile, err,
          answer _ schemeRecovers]
      | true =>
        simp [recovers, openRecovers, openFile, fails, addScheme, addSchemeFile, err,
          answer _ schemeRecovers]

/-- Without a key that is accepted, construction makes a file without tables. -/
theorem initFile_refused {env : SetupEnv} (opens : env.newOpen.opens = true)
    (refused : ¬ (key ≠ [] ∧ Granted env.newOpen)) :
    initFile env path key error none = some [] := by
  have decrypt : DatabaseAccess.openDb env.newOpen
      { dbPath := path, key := some key, keyNumByte := key.length, db := none, error } =
        (err .FAIL_DECRYPT_DB "fail to decrypt the database" (some .HIGH),
          { dbPath := path, key := some key, keyNumByte := key.length, db := none, error }) := by
    have rejects : sqlite3Key env.newOpen.accepts (some key) key.length = none := by
      unfold sqlite3Key
      refine if_pos ?_
      by_contra accepted
      obtain ⟨accepts, size⟩ := not_or.mp accepted
      apply refused
      refine ⟨?_, opens, by simpa using accepts⟩
      rintro rfl
      exact size rfl
    unfold openDb
    dsimp only
    rw [if_neg (by simp [opens]), rejects]
  unfold initFile newDbFile newDb
  dsimp only
  rw [decrypt]
  cases env.scriptExists with
  | false => simp [openFile, opens]
  | true =>
    cases recovered : error.handleError
        ⟨.FAIL_DECRYPT_DB, "fail to decrypt the database", some .HIGH⟩ with
    | false => simp [recovers, recovered, openFile, opens, err]
    | true => simp [recovers, recovered, openFile, opens, addScheme, addSchemeFile, err]

/-- With the key accepted, the script decides. -/
theorem initFile_granted {env : SetupEnv} (nonempty : key ≠ []) (granted : Granted env.newOpen) :
    ∃ schema, initFile env path key error none = some schema ∧
      (Complete schema ↔ BuildsTables key env) := by
  have tracks : Tracks key .unopened
      { dbPath := path, key := some key, keyNumByte := key.length, db := none, error } :=
    ⟨rfl, rfl, rfl⟩
  obtain ⟨ok, opened, _⟩ := openDb_granted nonempty tracks granted
  have made : DatabaseAccess.openFile env.newOpen
      { dbPath := path, key := some key, keyNumByte := key.length, db := none, error } none =
        some [] := by
    simp [openFile, granted.1]
  have empty : ¬ Complete [] := (complete_of_script 0).not.mpr (by omega)
  unfold initFile newDbFile newDb
  dsimp only
  rw [made]
  generalize DatabaseAccess.openDb env.newOpen
    { dbPath := path, key := some key, keyNumByte := key.length, db := none, error } = answer
    at ok opened
  obtain ⟨ret, d⟩ := answer
  dsimp only at ok opened
  subst ok
  unfold BuildsTables
  cases scriptExists : env.scriptExists with
  | false => exact ⟨[], by simp [recovers], by simp [empty]⟩
  | true =>
    cases scriptReads : env.scriptReads with
    | false =>
      refine ⟨[], ?_, by simp [empty]⟩
      simp [recovers, addScheme, addSchemeFile, opened, scriptReads]
    | true =>
      cases scheme : env.scheme with
      | false =>
        refine ⟨(tableKeysSql.take env.executed).foldl runStatement [], ?_, ?_⟩
        · simp [recovers, addScheme, addSchemeFile, opened, openFile, scriptReads, scheme, err]
        · rw [complete_of_script]
          simp [nonempty, granted]
      | true =>
        refine ⟨(tableKeysSql.take 6).foldl runStatement [], ?_, ?_⟩
        · simp [recovers, addScheme, addSchemeFile, opened, openFile, scriptReads, scheme,
            List.take_of_length_le (show tableKeysSql.length ≤ 6 from Nat.le_refl 6)]
        · rw [complete_of_script]
          simp [nonempty, granted]

theorem initFile_opened {env : SetupEnv} (opens : env.newOpen.opens = true) :
    ∃ schema, initFile env path key error none = some schema ∧
      (Complete schema ↔ BuildsTables key env) := by
  by_cases granted : key ≠ [] ∧ Granted env.newOpen
  · obtain ⟨nonempty, granted⟩ := granted
    exact initFile_granted nonempty granted
  · refine ⟨[], initFile_refused opens granted, ?_⟩
    have empty : ¬ Complete [] := (complete_of_script 0).not.mpr (by omega)
    refine iff_of_false empty fun builds => granted ⟨builds.1, builds.2.1⟩

/-- A construction that makes no file leaves none. -/
theorem initFile_absent {env : SetupEnv} (absent : ¬ Creates path error env) :
    initFile env path key error none = none := by
  obtain ⟨closed, unrecovered⟩ := not_or.mp absent
  rw [initFile_unopened (by simpa using closed)]
  refine if_neg ?_
  simpa [and_assoc] using unrecovered

/-- A construction that makes the file decides about its tables. -/
theorem initFile_creates {env : SetupEnv} (creates : Creates path error env) :
    ∃ schema, initFile env path key error none = some schema ∧
      (Complete schema ↔ BuildsTables key env) := by
  cases opens : env.newOpen.opens with
  | true => exact initFile_opened opens
  | false =>
    have empty : ¬ Complete [] := (complete_of_script 0).not.mpr (by omega)
    refine ⟨[], ?_, iff_of_false empty ?_⟩
    · rw [initFile_unopened opens]
      rcases creates with opened | ⟨first, script, second, last⟩
      · cases opens.symm.trans opened
      · simp [first, script, second, last]
    · rintro ⟨_, granted, _⟩
      cases opens.symm.trans granted.1

theorem fileAfter_some (starts : List SetupEnv) (schema : List SchemaObject) :
    starts.foldl (fun file env => initFile env path key error file) (some schema) =
      some schema := by
  induction starts with
  | nil => rfl
  | cons env later ih =>
    rw [List.foldl_cons, initFile_some]
    exact ih

variable (path key error)

/-- For every path, key and handler, and every sequence of constructions on a path without a
file, with any failures: there are both tables in the end if and only if the first
construction that makes the file opens it and runs the script up to the second table. -/
theorem tables_made_once (starts : List SetupEnv) :
    (∃ schema, fileAfter path key error starts = some schema ∧ Complete schema) ↔
      ∃ past env later, starts = past ++ env :: later ∧
        (∀ earlier ∈ past, ¬ Creates path error earlier) ∧ Creates path error env ∧
        BuildsTables key env := by
  induction starts with
  | nil =>
    constructor
    · rintro ⟨schema, absent, _⟩
      cases absent
    · rintro ⟨past, env, later, split, _⟩
      simp at split
  | cons first rest ih =>
    by_cases creates : Creates path error first
    · obtain ⟨schema, made, tables⟩ := @initFile_creates path key error first creates
      have kept : fileAfter path key error (first :: rest) = some schema := by
        unfold fileAfter
        rw [List.foldl_cons, made]
        exact fileAfter_some rest schema
      rw [kept]
      constructor
      · rintro ⟨schema', same, complete⟩
        cases same
        exact ⟨[], first, rest, rfl, by simp, creates, tables.mp complete⟩
      · rintro ⟨past, env, later, split, absent, _, builds⟩
        cases past with
        | nil =>
          cases split
          exact ⟨schema, rfl, tables.mpr builds⟩
        | cons earlier past =>
          cases split
          exact absurd creates (absent first List.mem_cons_self)
    · have skipped : fileAfter path key error (first :: rest) = fileAfter path key error rest := by
        unfold fileAfter
        rw [List.foldl_cons, initFile_absent creates]
      rw [skipped, ih]
      constructor
      · rintro ⟨past, env, later, rfl, absent, made, builds⟩
        refine ⟨first :: past, env, later, rfl, ?_, made, builds⟩
        intro earlier member
        rcases List.mem_cons.mp member with rfl | member
        · exact creates
        · exact absent earlier member
      · rintro ⟨past, env, later, split, absent, made, builds⟩
        cases past with
        | nil =>
          cases split
          exact absurd made creates
        | cons earlier past =>
          cases split
          exact ⟨past, env, later, rfl,
            fun earlier member => absent earlier (List.mem_cons_of_mem _ member), made, builds⟩

end FifthD.Guarantees.DatabaseSetup
