import FifthD.Source.Database
import FifthD.Source.Schema

/-!
The database file under construction: what `_init`, `_new_db`, `open` and `add_scheme` of
core/5thdsql.cpp:25-60, 170-188 and 300-354 do to the file at the path, and the statements
of db_scripts/table_keys.sql. `sqlite3_open` creates a file that is not there, without
tables; `sqlite3_exec` runs the statements one by one and stops at the first that fails.
The objects that SQLite makes of its own are left out.
-/
namespace FifthD.Source

/-- The tables and indices of the file at the path, or no file. -/
abbrev DbFile := Option (List SchemaObject)

/-- What each statement of the script makes, unless it is there. -/
def tableKeysSql : List (Option SchemaObject) :=
  [some ⟨ascii "table", ascii "key_types"⟩, none, some ⟨ascii "table", ascii "module_keys"⟩,
    some ⟨ascii "index", ascii "idx_module_name"⟩, some ⟨ascii "index", ascii "idx_key_type_id"⟩,
    some ⟨ascii "index", ascii "idx_is_active"⟩]

/-- One statement. -/
def runStatement (schema : List SchemaObject) : Option SchemaObject → List SchemaObject
  | none => schema
  | some object => if object ∈ schema then schema else schema ++ [object]

namespace DatabaseAccess

/-- What the environment decides during construction: of a script that fails, how many of
its statements have run. -/
structure SetupEnv extends InitEnv where
  executed : Nat

/-- The file after `open`. -/
def openFile (env : OpenEnv) (d : DatabaseAccess) (file : DbFile) : DbFile :=
  match d.db with
  | some _ => file
  | none => if env.opens then some (file.getD []) else file

/-- The file after `add_scheme`. -/
def addSchemeFile (env : SetupEnv) (d : DatabaseAccess) (file : DbFile) : DbFile :=
  match d.db with
  | none => file
  | some _ =>
    if env.scriptReads = false then file
    else
      let ran := if env.scheme then tableKeysSql else tableKeysSql.take env.executed
      file.map fun schema => ran.foldl runStatement schema

/-- The file after `_new_db`, also when it aborts. -/
def newDbFile (env : SetupEnv) (d : DatabaseAccess) (file : DbFile) : DbFile :=
  let file := d.openFile env.newOpen file
  let (retOpen, d) := d.openDb env.newOpen
  if d.recovers retOpen = false then file
  else if env.scriptExists = false then file
  else d.addSchemeFile env file

/-- The file after `_init`, also when it aborts. -/
def initFile (env : SetupEnv) (path : String) (encryptionKey : Bytes) (error : ErrorHandler)
    (file : DbFile) : DbFile :=
  let d : DatabaseAccess :=
    { dbPath := path, key := some encryptionKey, keyNumByte := encryptionKey.length, db := none
      error }
  if file.isSome then d.openFile env.lastOpen file
  else
    let file := d.newDbFile env file
    match d.newDb env.toInitEnv with
    | none => file
    | some (ret, d) => if d.recovers ret = false then file else d.openFile env.lastOpen file

end DatabaseAccess
end FifthD.Source
