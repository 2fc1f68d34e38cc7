import FifthD.Source.KeysDb
import Mathlib.Data.Finset.Card

/-!
Looking at the schema: `verify_tables` of core/5thdsql.cpp:190-224, `check_key_types` and
`print_schema` of core/keys_db.cpp:6-44. The rows of `sqlite_master` are those of any
database, with the columns that the statements read; what the two functions of the key store
print of the rows they get is left out.
-/
namespace FifthD.Source

/-- A row of `sqlite_master`. -/
structure SchemaObject where
  type : Bytes
  name : Bytes
  deriving DecidableEq

/-- What `sqlite3_get_table` fills in: the cells, the header row first, and their shape. -/
structure TableResult where
  results : List Bytes
  rows : Nat
  columns : Nat

/-- The outcome of `sqlite3_get_table`, and its `errmsg` when it fails. -/
structure QueryEnv where
  succeeds : Bool
  errmsg : Option String

/-- `type='table' AND (name='key_types' AND name='module_keys')`. -/
def checkTables (row : SchemaObject) : Bool :=
  row.type = ascii "table" ∧ row.name = ascii "key_types" ∧ row.name = ascii "module_keys"

/-- `SELECT name FROM sqlite_master WHERE ..`. -/
def checkTablesSql (schema : List SchemaObject) : TableResult :=
  let names := (schema.filter checkTables).map SchemaObject.name
  { results := ascii "name" :: names, rows := names.length, columns := 1 }

/-- The loop of `verify_tables`: `none` when it reads behind the cells. -/
def foundTables (table : TableResult) : Option (Finset Bytes) :=
  ((List.range' 1 table.rows).mapM fun i => table.results[i * table.columns]?).map List.toFinset

/-- `DatabaseAccess::verify_tables`. -/
def verifyTables (env : QueryEnv) (schema : List SchemaObject) : Option VoidResult :=
  if env.succeeds = false then
    some (err .DB_ERROR ("Failed to verify tables: " ++ env.errmsg.getD "Unknown error"))
  else
    match foundTables (checkTablesSql schema) with
    | none => none
    | some found =>
      if found.card ≠ 2 then
        some (err .DB_MISSING_TABLES "Not all required tables were created")
      else some (.ok ())

/-- A function that only reads: prepare, then one query. -/
def prepareAndQuery (env : StmtEnv) (prepareMessage queryMessage : String)
    (statement : KeyTables → List Bytes) (c : Conn) : VoidResult × Conn :=
  match prepareAndBind env .DB_ERROR prepareMessage [] c with
  | (.error e, c) => (.error e, c)
  | (.ok _, c) =>
    match query env statement c with
    | .error _ => (err .DB_ERROR queryMessage, c)
    | .ok _ => (.ok (), c)

/-- `check_key_types`. -/
def checkKeyTypes (env : StmtEnv) (c : Conn) : VoidResult × Conn :=
  prepareAndQuery env "Failed to prepare key_types query" "Failed to query key_types"
    (fun _ => keyTypes.map ascii) c

/-- `print_schema`, on the rows of `sqlite_master`. -/
def printSchema (env : StmtEnv) (schema : List SchemaObject) (c : Conn) : VoidResult × Conn :=
  prepareAndQuery env "Failed to prepare schema query" "Failed to query schema"
    (fun _ => (schema.filter fun row => row.type = ascii "table").map SchemaObject.name) c

end FifthD.Source
