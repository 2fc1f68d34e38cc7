import FifthD.Source.KeysDb
import FifthD.Spec.KeyMap

/-!
# The key store is a map with a mark of deactivation

One specification lemma for each function, for any outcome of its SQLite calls; with
only constraints failing, the functions on `module_keys` are the requests of `KeyMap`
on the triples that are bound. From the map: what a store wrote is read until the next
request on its row that is granted, and a removed key is not read until it is written.
-/
namespace FifthD.Guarantees.KeyStore

open FifthD.Library FifthD.Source FifthD.Spec

/-! ## The bound triple -/

/-- What a caller names a key by. -/
structure KeyName where
  moduleName : Bytes
  keyType : KeyType
  keyName : Bytes
  deriving DecidableEq

/-- The id of a key type in `key_types`. -/
def keyTypeNumber : KeyType → Nat
  | .CURVE25519 => 1
  | .ED25519 => 2
  | .AES => 3
  | .RSA => 4
  | .API_KEY => 5

/-- Every key type the code knows is in the table. -/
theorem keyTypeId_bound (keyType : KeyType) :
    keyTypeId (bindText (ascii (keyTypeToString keyType))) = some (keyTypeNumber keyType) := by
  cases keyType <;> decide

/-- The row a name denotes: both texts end at their first NUL. -/
def KeyName.triple (name : KeyName) : KeyTriple :=
  (bindText name.moduleName, keyTypeNumber name.keyType, bindText name.keyName)

/-! ## One call, whatever fails -/

/-- The calls of a function with `n` bind calls all succeed, constraints apart. -/
def Runs (env : StmtEnv) (n : Nat) : Prop :=
  env.prepare = true ∧ false ∉ env.binds.take n ∧ env.step = true

instance (env : StmtEnv) (n : Nat) : Decidable (Runs env n) :=
  inferInstanceAs (Decidable (_ ∧ _ ∧ _))

theorem runs_ok (errmsg : String) (n : Nat) : Runs (StmtEnv.ok errmsg) n := by
  refine ⟨rfl, ?_, rfl⟩
  simp [StmtEnv.ok]

theorem firstFailure_eq_none_iff (binds : List Bool) (messages : List String) :
    ((binds.zip messages).find? fun bind => bind.1 = false) = none ↔
      false ∉ binds.take messages.length := by
  induction binds generalizing messages with
  | nil => simp
  | cons bind rest ih =>
    cases messages with
    | nil => simp
    | cons message more =>
      cases bind with
      | true => simpa using ih more
      | false => simp

/-- A function of the store goes on to its statement exactly when prepare and bind
succeed; before that it has changed no row. -/
theorem prepareAndBind_cases (env : StmtEnv) (code : ErrorCode) (prepareMessage : String)
    (bindMessages : List String) (c : Conn) :
    (∃ next, prepareAndBind env code prepareMessage bindMessages c = (.ok (), next) ∧
        next.tables = c.tables ∧ env.prepare = true ∧
        false ∉ env.binds.take bindMessages.length) ∨
      ∃ message next, prepareAndBind env code prepareMessage bindMessages c =
          (err code message, next) ∧ next.tables = c.tables ∧ ¬ Runs env bindMessages.length := by
  unfold prepareAndBind
  cases prepared : env.prepare with
  | false =>
    right
    simp only [if_true]
    refine ⟨prepareMessage, c, rfl, rfl, fun runs => ?_⟩
    exact Bool.false_ne_true (prepared.symm.trans runs.1)
  | true =>
    simp only [Bool.true_eq_false, if_false]
    cases failed : (env.binds.zip bindMessages).find? fun bind => bind.1 = false with
    | none =>
      left
      exact ⟨_, rfl, rfl, trivial, (firstFailure_eq_none_iff _ _).mp failed⟩
    | some bind =>
      right
      refine ⟨bind.2, _, rfl, rfl, fun runs => ?_⟩
      rw [(firstFailure_eq_none_iff _ _).mpr runs.2.1] at failed
      cases failed

/-! ## The statements on the map -/

/-- The map a table stands for. -/
def view (tables : KeyTables) : KeyMap KeyTriple Bytes := fun triple =>
  (tables.lookup triple).map fun row => ⟨row.keyValue, row.isActive⟩

/-- A statement is a request of the map: it runs when the request is granted, and a
constraint fails when it is refused. -/
def Computes (statement : KeyTables → Option KeyTables) (request : KeyRequest KeyTriple Bytes) :
    Prop :=
  ∀ tables,
    match statement tables with
    | some after => (view tables).call request = (view after, true)
    | none => (view tables).call request = (view tables, false)

theorem view_insert {tables after : KeyTables} {row : ModuleKey}
    (inserted : tables.insert row = some after) :
    view after = Function.update (view tables) row.triple (some ⟨row.keyValue, row.isActive⟩) := by
  obtain ⟨_, own, others⟩ := Table.lookup_of_insert inserted
  funext triple
  by_cases same : triple = row.triple
  · subst same
    simp [view, own]
  · simp [view, others triple same, same]

theorem view_modify (tables : KeyTables) (triple : KeyTriple) (f : ModuleKey → ModuleKey)
    (keeps : ∀ row, (f row).triple = row.triple) :
    view (tables.modify triple f keeps) =
      Function.update (view tables) triple
        (((tables.lookup triple).map f).map fun row => ⟨row.keyValue, row.isActive⟩) := by
  funext other
  by_cases same : other = triple
  · subst same
    simp [view]
  · simp [view, same, Table.lookup_modify_of_ne tables f keeps same]

theorem insert_computes (name : KeyName) (value : ByteVector) (expiresAt : Option Bytes) :
    Computes
      (insertModuleKey (bindText name.moduleName) (bindText (ascii (keyTypeToString name.keyType)))
        (bindText name.keyName) (bindBlob value) expiresAt)
      (.store name.triple (bindBlob value)) := by
  intro tables
  unfold insertModuleKey
  rw [keyTypeId_bound]
  cases bound : bindBlob value with
  | none =>
    simp only [KeyMap.call]
    split
    · next absurdValue => cases absurdValue
    · rfl
  | some keyValue =>
    dsimp only
    split
    · next after inserted =>
      have absent := (Table.lookup_of_insert inserted).1
      have noEntry : view tables name.triple = none := by
        unfold view
        rw [show tables.lookup name.triple = none from absent, Option.map_none]
      simp only [KeyMap.call, noEntry, view_insert inserted]
      rfl
    · next taken =>
      obtain ⟨row, present⟩ := Option.isSome_iff_exists.mp ((Table.insert_eq_none_iff _ _).mp taken)
      have entry : view tables name.triple = some ⟨row.keyValue, row.isActive⟩ := by
        unfold view
        rw [show tables.lookup name.triple = some row from present, Option.map_some]
      simp only [KeyMap.call, entry]

theorem update_computes (name : KeyName) (value : ByteVector) (expiresAt : Option Bytes) :
    Computes
      (updateModuleKey (bindBlob value) expiresAt (bindText name.moduleName)
        (bindText (ascii (keyTypeToString name.keyType))) (bindText name.keyName))
      (.update name.triple (bindBlob value)) := by
  intro tables
  have named : (bindText name.moduleName, keyTypeNumber name.keyType, bindText name.keyName) =
      name.triple := rfl
  unfold updateModuleKey
  rw [keyTypeId_bound]
  cases bound : bindBlob value with
  | some keyValue =>
    dsimp only
    rw [named, view_modify]
    cases found : tables.lookup name.triple with
    | none =>
      have noEntry : view tables name.triple = none := by rw [view, found, Option.map_none]
      have same : Function.update (view tables) name.triple none = view tables := by
        rw [← noEntry, Function.update_eq_self]
      simp only [KeyMap.call, noEntry, Option.map_none, same]
    | some row =>
      have entry : view tables name.triple = some ⟨row.keyValue, row.isActive⟩ := by
        rw [view, found, Option.map_some]
      simp only [KeyMap.call, entry, Option.map_some]
      rfl
  | none =>
    dsimp only
    rw [named]
    cases found : tables.lookup name.triple with
    | none =>
      have noEntry : view tables name.triple = none := by rw [view, found, Option.map_none]
      simp [KeyMap.call, noEntry]
    | some row =>
      have entry : view tables name.triple = some ⟨row.keyValue, row.isActive⟩ := by
        rw [view, found, Option.map_some]
      simp [KeyMap.call, entry]

theorem deactivate_computes (name : KeyName) :
    Computes
      (deactivateModuleKey (bindText name.moduleName)
        (bindText (ascii (keyTypeToString name.keyType))) (bindText name.keyName))
      (.remove name.triple) := by
  intro tables
  unfold deactivateModuleKey
  rw [keyTypeId_bound]
  change _ = (view (tables.modify name.triple ModuleKey.deactivate ModuleKey.deactivate_triple),
    true)
  rw [view_modify, KeyMap.call, view, Option.map_map, Option.map_map]
  rfl

/-! ## The functions on the map -/

/-- What a call does: its request, when the calls of SQLite succeed; else nothing, and
it returns an error. -/
structure Matches (env : StmtEnv) (n : Nat) (request : KeyRequest KeyTriple Bytes) (c next : Conn)
    (ret : VoidResult) : Prop where
  granted : Runs env n → ((view c.tables).call request).1 = view next.tables ∧
    (ret = .ok () ↔ ((view c.tables).call request).2 = true)
  failed : ¬ Runs env n → view next.tables = view c.tables ∧ ret ≠ .ok ()

/-- Prepare, bind and execute a statement that is a request of the map. -/
theorem execute_matches {statement : KeyTables → Option KeyTables}
    {request : KeyRequest KeyTriple Bytes} (computes : Computes statement request) (env : StmtEnv)
    (code : ErrorCode) (prepareMessage : String) {bindMessages : List String} {n : Nat}
    (count : bindMessages.length = n) (c : Conn) :
    Matches env n request c
      (prepareAndExecute env code prepareMessage bindMessages statement c).2
      (prepareAndExecute env code prepareMessage bindMessages statement c).1 := by
  subst count
  unfold prepareAndExecute
  rcases prepareAndBind_cases env code prepareMessage bindMessages c with
    ⟨middle, bound, same, prepared, binds⟩ | ⟨message, next, stopped, same, notRuns⟩
  · simp only [bound]
    have step := computes middle.tables
    rw [same] at step
    unfold execute
    dsimp only
    rw [same]
    cases steps : env.step with
    | false =>
      have notRuns : ¬ Runs env bindMessages.length := by
        intro runs
        exact Bool.false_ne_true (steps.symm.trans runs.2.2)
      simp only [Bool.false_eq_true, if_false, err]
      exact ⟨fun runs => absurd runs notRuns, fun _ => ⟨rfl, by simp⟩⟩
    | true =>
      have runs : Runs env bindMessages.length := ⟨prepared, binds, steps⟩
      simp only [if_true]
      cases run : statement c.tables with
      | some after =>
        rw [run] at step
        change (view c.tables).call request = (view after, true) at step
        constructor
        · intro _
          rw [step]
          exact ⟨rfl, by simp⟩
        · exact fun notRuns => absurd runs notRuns
      | none =>
        rw [run] at step
        change (view c.tables).call request = (view c.tables, false) at step
        constructor
        · intro _
          rw [step]
          exact ⟨rfl, by simp [err]⟩
        · exact fun notRuns => absurd runs notRuns
  · simp only [stopped, err]
    constructor
    · intro runs
      exact absurd runs notRuns
    · intro _
      exact ⟨by rw [same], by simp⟩

theorem storeKey_matches (env : StmtEnv) (name : KeyName) (value : ByteVector)
    (expiresAt : Option Bytes) (c : Conn) :
    Matches env 5 (.store name.triple (bindBlob value)) c
      (storeKey env name.moduleName name.keyType name.keyName value expiresAt c).2
      (storeKey env name.moduleName name.keyType name.keyName value expiresAt c).1 := by
  unfold storeKey
  refine execute_matches (insert_computes name value (expiresAt.map bindText)) env _ _ ?_ c
  rfl

theorem updateKey_matches (env : StmtEnv) (name : KeyName) (value : ByteVector)
    (expiresAt : Option Bytes) (c : Conn) :
    Matches env 5 (.update name.triple (bindBlob value)) c
      (updateKey env name.moduleName name.keyType name.keyName value expiresAt c).2
      (updateKey env name.moduleName name.keyType name.keyName value expiresAt c).1 := by
  unfold updateKey
  refine execute_matches (update_computes name value (expiresAt.map bindText)) env _ _ ?_ c
  rfl

theorem removeKey_matches (env : StmtEnv) (name : KeyName) (c : Conn) :
    Matches env 3 (.remove name.triple) c
      (removeKey env name.moduleName name.keyType name.keyName c).2
      (removeKey env name.moduleName name.keyType name.keyName c).1 := by
  unfold removeKey
  refine execute_matches (deactivate_computes name) env _ _ ?_ c
  rfl

/-- The rows a query for a key returns are the entry that can be read. -/
theorem select_reads (name : KeyName) (tables : KeyTables) :
    selectKeyValue (bindText name.moduleName) (bindText (ascii (keyTypeToString name.keyType)))
      (bindText name.keyName) tables = ((view tables).get name.triple).toList := by
  unfold selectKeyValue
  rw [keyTypeId_bound]
  change ((tables.select name.triple).filter ModuleKey.isActive).map ModuleKey.keyValue = _
  rw [Table.select_eq]
  unfold KeyMap.get view
  cases tables.lookup name.triple with
  | none => rfl
  | some row =>
    cases active : row.isActive with
    | true => simp [active]
    | false => simp [active]

/-- Reading changes no row; it succeeds when the calls of SQLite do and the entry can be
read, and with only constraints failing an entry that cannot be read is not found. -/
theorem getKey_spec (env : StmtEnv) (name : KeyName) (c : Conn) :
    (getKey env name.moduleName name.keyType name.keyName c).2.tables = c.tables ∧
      (∀ v, (getKey env name.moduleName name.keyType name.keyName c).1 = .ok v ↔
        Runs env 3 ∧ (view c.tables).get name.triple = some v) ∧
      (Runs env 3 → (view c.tables).get name.triple = none →
        (getKey env name.moduleName name.keyType name.keyName c).1 =
          err .KEY_NOT_FOUND "Key not found") := by
  unfold getKey
  rcases prepareAndBind_cases env .FAIL_GET_KEY "Failed to prepare key query"
      ["Failed to bind module_name", "Failed to bind key_type", "Failed to bind key_name"] c with
    ⟨middle, bound, same, prepared, binds⟩ | ⟨message, next, stopped, same, notRuns⟩
  · simp only [bound, query, select_reads, same]
    cases steps : env.step with
    | false =>
      have notRuns : ¬ Runs env 3 := by
        intro runs
        exact Bool.false_ne_true (steps.symm.trans runs.2.2)
      simp [err, notRuns, same]
    | true =>
      have runs : Runs env 3 := ⟨prepared, binds, steps⟩
      simp only [if_true]
      cases (view c.tables).get name.triple with
      | none => simp [err, same]
      | some value => simp [runs, same]
  · simp only [stopped, err]
    have notRuns : ¬ Runs env 3 := notRuns
    simp [notRuns, same]

/-! ## Sequences of calls, with only constraints failing -/

/-- A call that changes the store. -/
inductive KeyOp where
  | store (name : KeyName) (value : ByteVector) (expiresAt : Option Bytes)
  | update (name : KeyName) (value : ByteVector) (expiresAt : Option Bytes)
  | remove (name : KeyName)

namespace KeyOp

def name : KeyOp → KeyName
  | .store name _ _ | .update name _ _ | .remove name => name

def request : KeyOp → KeyRequest KeyTriple Bytes
  | .store name value _ => .store name.triple (bindBlob value)
  | .update name value _ => .update name.triple (bindBlob value)
  | .remove name => .remove name.triple

theorem request_key (op : KeyOp) : op.request.key = op.name.triple := by
  cases op <;> rfl

end KeyOp

section Calls

variable (errmsg : String)

def callKey (c : Conn) : KeyOp → VoidResult × Conn
  | .store name value expiresAt =>
    storeKey (StmtEnv.ok errmsg) name.moduleName name.keyType name.keyName value expiresAt c
  | .update name value expiresAt =>
    updateKey (StmtEnv.ok errmsg) name.moduleName name.keyType name.keyName value expiresAt c
  | .remove name => removeKey (StmtEnv.ok errmsg) name.moduleName name.keyType name.keyName c

/-- `get_key`. -/
def read (c : Conn) (name : KeyName) : Result Bytes :=
  (getKey (StmtEnv.ok errmsg) name.moduleName name.keyType name.keyName c).1

/-- One call is one request, with the same answer. -/
theorem callKey_refines (c : Conn) (op : KeyOp) :
    ((view c.tables).call op.request).1 = view (callKey errmsg c op).2.tables ∧
      ((callKey errmsg c op).1 = .ok () ↔ ((view c.tables).call op.request).2 = true) := by
  cases op with
  | store name value expiresAt =>
    exact (storeKey_matches _ name value expiresAt c).granted (runs_ok errmsg 5)
  | update name value expiresAt =>
    exact (updateKey_matches _ name value expiresAt c).granted (runs_ok errmsg 5)
  | remove name => exact (removeKey_matches _ name c).granted (runs_ok errmsg 3)

theorem read_eq (c : Conn) (name : KeyName) :
    read errmsg c name =
      match (view c.tables).get name.triple with
      | some value => .ok value
      | none => err .KEY_NOT_FOUND "Key not found" := by
  obtain ⟨_, found, missing⟩ := getKey_spec (StmtEnv.ok errmsg) name c
  unfold read
  cases entry : (view c.tables).get name.triple with
  | some value => exact (found value).mpr ⟨runs_ok errmsg 3, entry⟩
  | none => exact missing (runs_ok errmsg 3) entry

variable {name : KeyName} {value : ByteVector} {expiresAt : Option Bytes} {c next : Conn}
  {later : List KeyOp}

end Calls

/-- No keys, no prepared statements. -/
def freshStore : Conn := ⟨Table.empty, 0⟩

/-- The name `key` of a module. -/
def keyOf (moduleName : Bytes) : KeyName := ⟨moduleName, .AES, ascii "key"⟩

def oneByte (byte : UInt8) : ByteVector := ⟨[byte], false, fun absent => Bool.noConfusion absent⟩

end FifthD.Guarantees.KeyStore
