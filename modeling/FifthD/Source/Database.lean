import FifthD.Source.ErrorHandler
import FifthD.Source.Zmq

/-!
The database object: construction, `open` and `close`, core/5thdsql.cpp:25-60, 70-106,
170-188 and 300-354. Which SQLite calls succeed is a parameter of each function. Of a
connection the model keeps the bytes it was keyed with. The two settings that `open` makes
on a keyed connection are left out, and so is the result of `verify_tables`, which is only
logged.
-/
namespace FifthD.Source

/-- A connection that `sqlite3_key` has accepted a key for. -/
structure SqliteDb where
  keyedWith : Bytes
  deriving DecidableEq

/-- `sqlite3_key`, whether or not it accepts a key: an error for a null key and for one of
no bytes. -/
def sqlite3Key (accepts : Bool) (key : Option Bytes) (numByte : Nat) : Option SqliteDb :=
  match key with
  | none => none
  | some bytes => if accepts = false ∨ numByte = 0 then none else some ⟨bytes.take numByte⟩

/-- The outcomes of `sqlite3_open` and `sqlite3_key`. -/
structure OpenEnv where
  opens : Bool
  accepts : Bool
  deriving DecidableEq

/-- The outcome of `sqlite3_close`, and `sqlite3_errmsg` when it fails. -/
structure CloseEnv where
  closes : Bool
  errmsg : String
  deriving DecidableEq

structure DatabaseAccess where
  dbPath : String
  /-- `_key`; none is null. -/
  key : Option Bytes
  /-- `_key_num_byte`. -/
  keyNumByte : Nat
  /-- `_db`; none is null. -/
  db : Option SqliteDb
  error : ErrorHandler

namespace DatabaseAccess

/-- `open`. -/
def openDb (env : OpenEnv) (d : DatabaseAccess) : VoidResult × DatabaseAccess :=
  match d.db with
  | some _ => (.ok (), d)
  | none =>
    if env.opens = false then
      (err .FAIL_OPEN_DB_FILE ("Fail to open db file: " ++ d.dbPath) (some .HIGH), d)
    else
      match sqlite3Key env.accepts d.key d.keyNumByte with
      | none => (err .FAIL_DECRYPT_DB "fail to decrypt the database" (some .HIGH), d)
      | some db => (.ok (), { d with db := some db, key := none, keyNumByte := 0 })

/-- `close`. -/
def close (env : CloseEnv) (d : DatabaseAccess) : VoidResult × DatabaseAccess :=
  match d.db with
  | none => (.ok (), d)
  | some _ =>
    if env.closes = false then
      (err .FAIL_CLOSE_DB ("Failed to close database: " ++ env.errmsg), d)
    else (.ok (), { d with db := none })

/-! ## Construction -/

/-- What the environment decides during construction: whether the database file is there,
the outcomes of the two `open`, and what happens to the script. -/
structure InitEnv where
  fileExists : Bool
  newOpen : OpenEnv
  scriptExists : Bool
  scriptReads : Bool
  scheme : Bool
  errmsg : Option String
  lastOpen : OpenEnv

/-- `add_scheme`. It does not return (`none`) when the script cannot be read. -/
def addScheme (env : InitEnv) (d : DatabaseAccess) : Option VoidResult :=
  match d.db with
  | none => some (err .NO_VALID_DB "Db pointer is null")
  | some _ =>
    if env.scriptReads = false then none
    else if env.scheme = false then
      some (err .FAIL_CREATE_DB_SCHEME
        ("Failed to create db scheme: " ++ env.errmsg.getD "Unknown error"))
    else some (.ok ())

/-- No error, or one that `handle_error` recovers from. -/
def recovers (ret : VoidResult) (d : DatabaseAccess) : Bool :=
  match ret with
  | .ok _ => true
  | .error e => d.error.handleError e

/-- `_new_db`. It does not return (`none`) when it aborts. -/
def newDb (env : InitEnv) (d : DatabaseAccess) : Option (VoidResult × DatabaseAccess) :=
  let (retOpen, d) := d.openDb env.newOpen
  if d.recovers retOpen = false then none
  else if env.scriptExists = false then none
  else
    match d.addScheme env with
    | none => none
    | some (.error _) =>
      some (err .FAIL_CREATE_DB_SCHEME "Fail to create db scheme" (some .HIGH), d)
    | some (.ok _) => some (.ok (), d)

/-- `_init`. It does not return (`none`) when it aborts. -/
def init (env : InitEnv) (path : String) (encryptionKey : Bytes) (error : ErrorHandler) :
    Option DatabaseAccess :=
  let d : DatabaseAccess :=
    { dbPath := path, key := some encryptionKey, keyNumByte := encryptionKey.length, db := none
      error }
  if env.fileExists then some (d.openDb env.lastOpen).2
  else
    match d.newDb env with
    | none => none
    | some (ret, d) => if d.recovers ret = false then none else some (d.openDb env.lastOpen).2

/-- A call after construction. -/
inductive Call where
  | openDb (env : OpenEnv)
  | close (env : CloseEnv)

/-- The object after a call. -/
def after (d : DatabaseAccess) : Call → DatabaseAccess
  | .openDb env => (d.openDb env).2
  | .close env => (d.close env).2

end DatabaseAccess
end FifthD.Source
