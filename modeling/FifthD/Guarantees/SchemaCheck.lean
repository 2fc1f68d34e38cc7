import FifthD.Source.Schema

/-!
# Schema verification

`verify_tables` on any schema. The loop reads just the names of the rows that the query
returns, each once. But the WHERE clause asks for one row with two names, so no schema has
such a row: every schema is reported as incomplete.
-/
namespace FifthD.Guarantees.SchemaCheck

open FifthD.Source

/-- A table of a name. -/
def HasTable (name : String) (schema : List SchemaObject) : Prop :=
  ⟨ascii "table", ascii name⟩ ∈ schema

/-- Both tables of the key store. -/
def Complete (schema : List SchemaObject) : Prop :=
  HasTable "key_types" schema ∧ HasTable "module_keys" schema

/-- Ok for just the complete schemas, and DB_MISSING_TABLES for the others. -/
structure Exact (schema : List SchemaObject) (ret : Option VoidResult) : Prop where
  ok : ret = some (.ok ()) ↔ Complete schema
  missing : ¬ Complete schema → ∃ message, ret = some (err .DB_MISSING_TABLES message)

/-- The loop reads the cells behind those it has passed. -/
theorem cells_read (before names : List Bytes) :
    ((List.range' before.length names.length).mapM fun i => (before ++ names)[i * 1]?) =
      some names := by
  induction names generalizing before with
  | nil => rfl
  | cons name rest ih =>
    have first : (before ++ name :: rest)[before.length * 1]? = some name := by simp
    have later := ih (before ++ [name])
    rw [List.append_assoc, List.singleton_append, List.length_append, List.length_singleton]
      at later
    rw [List.length_cons, List.range'_succ, List.mapM_cons, first, later]
    rfl

/-- The loop finds the names behind the header. -/
theorem foundTables_names (header : Bytes) (names : List Bytes) :
    foundTables ⟨header :: names, names.length, 1⟩ = some names.toFinset := by
  have read := cells_read [header] names
  unfold foundTables
  exact congrArg (Option.map List.toFinset) read

/-- No row has two names. -/
theorem checkTables_false (row : SchemaObject) : checkTables row = false := by
  have differ : ascii "key_types" ≠ ascii "module_keys" := by decide
  refine decide_eq_false ?_
  rintro ⟨_, keyTypes, moduleKeys⟩
  exact differ (keyTypes.symm.trans moduleKeys)

theorem checkTablesSql_names (schema : List SchemaObject) :
    checkTablesSql schema = ⟨[ascii "name"], 0, 1⟩ := by
  have none : schema.filter checkTables = [] := by
    rw [List.filter_eq_nil_iff]
    intro row _
    simp [checkTables_false row]
  unfold checkTablesSql
  rw [none]
  rfl

/-- Every schema is reported as incomplete. -/
theorem verifyTables_missing (errmsg : Option String) (schema : List SchemaObject) :
    verifyTables ⟨true, errmsg⟩ schema =
      some (err .DB_MISSING_TABLES "Not all required tables were created") := by
  have found : foundTables ⟨[ascii "name"], 0, 1⟩ = some ∅ := foundTables_names (ascii "name") []
  unfold verifyTables
  rw [checkTablesSql_names, found]
  rfl

/-- For every schema, when the query succeeds: `verify_tables` returns Ok for just the
schemas with both tables and DB_MISSING_TABLES for the others, if and only if the schema is
one of the others. -/
theorem verify_exact_iff (errmsg : Option String) (schema : List SchemaObject) :
    Exact schema (verifyTables ⟨true, errmsg⟩ schema) ↔ ¬ Complete schema := by
  rw [verifyTables_missing]
  constructor
  · intro exact complete
    cases exact.ok.mpr complete
  · intro incomplete
    constructor
    · exact ⟨nofun, fun complete => absurd complete incomplete⟩
    · exact fun _ => ⟨_, rfl⟩

/-- The tables that the script makes. -/
theorem complete_schema_refused :
    ¬ Exact [⟨ascii "table", ascii "key_types"⟩, ⟨ascii "table", ascii "module_keys"⟩]
      (verifyTables ⟨true, none⟩
        [⟨ascii "table", ascii "key_types"⟩, ⟨ascii "table", ascii "module_keys"⟩]) := by
  rw [verifyTables_missing]
  intro exact
  cases exact.ok.mpr ⟨List.mem_cons_self, List.mem_cons_of_mem _ List.mem_cons_self⟩

end FifthD.Guarantees.SchemaCheck
