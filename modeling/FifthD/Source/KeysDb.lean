import FifthD.Library.Table
import FifthD.Source.ErrorHandler
import FifthD.Source.Zmq

/-!
The key store: core/keys_db.cpp:88-254 on the tables of db_scripts/table_keys.sql, with
`prepare`, `bind_text`, `bind_null`, `bind_blob`, `execute` and `query` of
core/5thdsql.cpp:108-168 and 226-256. Each SQL statement of the source is a function on
the rows of `module_keys`; which SQLite calls fail is a parameter of each function of
the store. A connection counts the prepared statements it has not finalized.
`created_at` and the row ids, which nothing reads, are left out; a time is the text that
is bound for it, and no time is the default `time_point`.
-/
namespace FifthD.Source

open FifthD.Library

/-- `enum class KeyType`. -/
inductive KeyType where
  | CURVE25519 | ED25519 | AES | RSA | API_KEY
  deriving DecidableEq, Repr

/-- `key_type_to_string`. -/
def keyTypeToString : KeyType → String
  | .CURVE25519 => "CURVE25519"
  | .ED25519 => "ED25519"
  | .AES => "AES"
  | .RSA => "RSA"
  | .API_KEY => "API_KEY"

/-- The rows of `key_types`, in the order in which the script inserts them. -/
def keyTypes : List String := ["CURVE25519", "ED25519", "AES", "RSA", "API_KEY"]

/-- `SELECT id FROM key_types WHERE type_name = ?`, NULL when there is no row. Ids count
from one. -/
def keyTypeId (typeName : Bytes) : Option Nat :=
  ((keyTypes.map ascii).idxOf? typeName).map (· + 1)

/-- A row of `module_keys`. -/
structure ModuleKey where
  moduleName : Bytes
  keyTypeId : Nat
  keyName : Bytes
  keyValue : Bytes
  expiresAt : Option Bytes
  isActive : Bool
  deriving DecidableEq

/-- The columns of the UNIQUE constraint. -/
abbrev KeyTriple := Bytes × Nat × Bytes

def ModuleKey.triple (row : ModuleKey) : KeyTriple := (row.moduleName, row.keyTypeId, row.keyName)

/-- `SET key_value = ?, expires_at = ?`. -/
def ModuleKey.setValue (keyValue : Bytes) (expiresAt : Option Bytes) (row : ModuleKey) :
    ModuleKey :=
  { row with keyValue, expiresAt }

/-- `SET is_active = 0`. -/
def ModuleKey.deactivate (row : ModuleKey) : ModuleKey := { row with isActive := false }

@[simp] theorem ModuleKey.setValue_triple (keyValue : Bytes) (expiresAt : Option Bytes)
    (row : ModuleKey) : (row.setValue keyValue expiresAt).triple = row.triple := rfl

@[simp] theorem ModuleKey.deactivate_triple (row : ModuleKey) :
    row.deactivate.triple = row.triple := rfl

/-- `module_keys`. -/
abbrev KeyTables := Table ModuleKey KeyTriple ModuleKey.triple

/-! ## The statements -/

/-- `INSERT INTO module_keys .. VALUES (?, (SELECT id ..), ?, ?, ?)`; `none` when a NOT
NULL or the UNIQUE constraint fails. -/
def insertModuleKey (moduleName typeName keyName : Bytes) (keyValue expiresAt : Option Bytes)
    (tables : KeyTables) : Option KeyTables :=
  match keyTypeId typeName, keyValue with
  | some keyTypeId, some keyValue =>
    tables.insert { moduleName, keyTypeId, keyName, keyValue, expiresAt, isActive := true }
  | _, _ => none

/-- `UPDATE module_keys SET key_value = ?, expires_at = ? WHERE ..`; `none` when the NOT
NULL constraint of a row it touches fails. -/
def updateModuleKey (keyValue expiresAt : Option Bytes) (moduleName typeName keyName : Bytes)
    (tables : KeyTables) : Option KeyTables :=
  match keyTypeId typeName with
  | none => some tables
  | some keyTypeId =>
    let triple := (moduleName, keyTypeId, keyName)
    match keyValue with
    | some keyValue =>
      some (tables.modify triple (ModuleKey.setValue keyValue expiresAt)
        (ModuleKey.setValue_triple keyValue expiresAt))
    | none => if (tables.lookup triple).isSome then none else some tables

/-- `UPDATE module_keys SET is_active = 0 WHERE ..`. -/
def deactivateModuleKey (moduleName typeName keyName : Bytes) (tables : KeyTables) :
    Option KeyTables :=
  match keyTypeId typeName with
  | none => some tables
  | some keyTypeId =>
    some (tables.modify (moduleName, keyTypeId, keyName) ModuleKey.deactivate
      ModuleKey.deactivate_triple)

/-- `SELECT key_value FROM module_keys WHERE .. AND is_active = 1`. -/
def selectKeyValue (moduleName typeName keyName : Bytes) (tables : KeyTables) : List Bytes :=
  match keyTypeId typeName with
  | none => []
  | some keyTypeId =>
    ((tables.select (moduleName, keyTypeId, keyName)).filter ModuleKey.isActive).map
      ModuleKey.keyValue

/-! ## Connections -/

/-- What a connection sees of the tables, and its statements not yet finalized. -/
structure Conn where
  tables : KeyTables
  alive : Nat

/-- The outcomes of one function of the store: of `sqlite3_prepare_v2`, of its bind calls
in order (success when the list has ended), of `sqlite3_step`, and what `sqlite3_errmsg`
says of a failed step. A step also fails on a constraint. -/
structure StmtEnv where
  prepare : Bool
  binds : List Bool
  step : Bool
  errmsg : String
  deriving DecidableEq

/-- Nothing fails but constraints. -/
def StmtEnv.ok (errmsg : String) : StmtEnv := ⟨true, [], true, errmsg⟩

/-- `bind_text`: with length -1 the text ends at the first NUL. -/
def bindText (value : Bytes) : Bytes := value.takeWhile (· ≠ 0)

/-- `std::vector<unsigned char>`: its bytes, and whether `data()` is null, which only an
empty vector's can be. -/
structure ByteVector where
  bytes : Bytes
  dataNull : Bool
  null_empty : dataNull = true → bytes = []
  deriving DecidableEq

/-- `bind_blob`: a null pointer binds NULL. -/
def bindBlob (data : ByteVector) : Option Bytes := if data.dataNull then none else some data.bytes

/-- `prepare`, then the bind calls of a function, one for each message. The first failure
ends the function with its code; the statement stays prepared. -/
def prepareAndBind (env : StmtEnv) (code : ErrorCode) (prepareMessage : String)
    (bindMessages : List String) (c : Conn) : VoidResult × Conn :=
  if env.prepare = false then (err code prepareMessage, c)
  else
    let c := { c with alive := c.alive + 1 }
    match (env.binds.zip bindMessages).find? fun bind => bind.1 = false with
    | some (_, message) => (err code message, c)
    | none => (.ok (), c)

/-- `DatabaseAccess::execute`: one step, and the statement is finalized. -/
def execute (env : StmtEnv) (statement : KeyTables → Option KeyTables) (c : Conn) :
    VoidResult × Conn :=
  let c := { c with alive := c.alive - 1 }
  match if env.step then statement c.tables else none with
  | some tables => (.ok (), { c with tables })
  | none =>
    (err .DB_STATEMENT_EXECUTION_FAILED ("Failed to execute statement: " ++ env.errmsg), c)

/-- `DatabaseAccess::query`: all rows; the statement is not finalized. -/
def query (env : StmtEnv) (statement : KeyTables → List Bytes) (c : Conn) : Result (List Bytes) :=
  if env.step then .ok (statement c.tables) else err .DB_ERROR "Db step"

/-! ## The functions of the store -/

/-- A function that changes the store: prepare, bind, execute. -/
def prepareAndExecute (env : StmtEnv) (code : ErrorCode) (prepareMessage : String)
    (bindMessages : List String) (statement : KeyTables → Option KeyTables) (c : Conn) :
    VoidResult × Conn :=
  match prepareAndBind env code prepareMessage bindMessages c with
  | (.error e, c) => (.error e, c)
  | (.ok _, c) => execute env statement c

/-- `store_key`. -/
def storeKey (env : StmtEnv) (moduleName : Bytes) (keyType : KeyType) (keyName : Bytes)
    (keyValue : ByteVector) (expiresAt : Option Bytes) (c : Conn) : VoidResult × Conn :=
  prepareAndExecute env .FAIL_ADD_KEY "Failed to prepare statement to add key"
    ["Failed to bind module_name", "Failed to bind key_type", "Failed to bind key_name",
      "Failed to bind key_value", "Failed to bind expires_at"]
    (insertModuleKey (bindText moduleName) (bindText (ascii (keyTypeToString keyType)))
      (bindText keyName) (bindBlob keyValue) (expiresAt.map bindText)) c

/-- `update_key`. -/
def updateKey (env : StmtEnv) (moduleName : Bytes) (keyType : KeyType) (keyName : Bytes)
    (newKeyValue : ByteVector) (newExpiresAt : Option Bytes) (c : Conn) : VoidResult × Conn :=
  prepareAndExecute env .FAIL_UPDATE_KEY "Failed to prepare statement to update key"
    ["Failed to bind new_key_value", "Failed to bind new_expires_at",
      "Failed to bind module_name", "Failed to bind key_type", "Failed to bind key_name"]
    (updateModuleKey (bindBlob newKeyValue) (newExpiresAt.map bindText) (bindText moduleName)
      (bindText (ascii (keyTypeToString keyType))) (bindText keyName)) c

/-- `get_key`. A failed query and a query without rows are reported alike. -/
def getKey (env : StmtEnv) (moduleName : Bytes) (keyType : KeyType) (keyName : Bytes) (c : Conn) :
    Result Bytes × Conn :=
  match prepareAndBind env .FAIL_GET_KEY "Failed to prepare key query"
      ["Failed to bind module_name", "Failed to bind key_type", "Failed to bind key_name"] c with
  | (.error e, c) => (.error e, c)
  | (.ok _, c) =>
    match query env
        (selectKeyValue (bindText moduleName) (bindText (ascii (keyTypeToString keyType)))
          (bindText keyName)) c with
    | .ok (keyValue :: _) => (.ok keyValue, c)
    | _ => (err .KEY_NOT_FOUND "Key not found", c)

/-- `remove_key`. -/
def removeKey (env : StmtEnv) (moduleName : Bytes) (keyType : KeyType) (keyName : Bytes)
    (c : Conn) : VoidResult × Conn :=
  prepareAndExecute env .FAIL_REMOVE_KEY "Failed to prepare statement to remove key"
    ["Failed to bind module_name", "Failed to bind key_type", "Failed to bind key_name"]
    (deactivateModuleKey (bindText moduleName) (bindText (ascii (keyTypeToString keyType)))
      (bindText keyName)) c

end FifthD.Source
