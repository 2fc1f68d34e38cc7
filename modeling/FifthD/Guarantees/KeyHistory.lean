import FifthD.Guarantees.KeyStore
import FifthD.Library.History

/-!
# The key store after any calls

Calls of the store on one connection, each with failures of its own: a call changes the
entry of its own row only, and what `get_key` and `store_key` answer for a name depends
on the entry of its row. From the empty tables an entry is there when a store of its row
returned Ok, and is deactivated when a removal of it did so later.
-/
namespace FifthD.Guarantees.KeyHistory

open FifthD.Library FifthD.Source FifthD.Spec FifthD.Guarantees.KeyStore

/-- A call, and the outcomes of its SQLite calls. -/
structure Call where
  env : StmtEnv
  op : KeyOp

/-- Make a call. -/
def Call.on (call : Call) (c : Conn) : VoidResult × Conn :=
  match call.op with
  | .store name value expiresAt =>
    storeKey call.env name.moduleName name.keyType name.keyName value expiresAt c
  | .update name value expiresAt =>
    updateKey call.env name.moduleName name.keyType name.keyName value expiresAt c
  | .remove name => removeKey call.env name.moduleName name.keyType name.keyName c

/-- The connection after calls on empty tables. -/
def afterCalls (history : List Call) : Conn :=
  history.foldl (fun c call => (call.on c).2) freshStore

theorem afterCalls_snoc (past : List Call) (call : Call) :
    afterCalls (past ++ [call]) = (call.on (afterCalls past)).2 := by
  unfold afterCalls
  rw [List.foldl_append]
  rfl

/-- The number of bind calls of a function. -/
def bindCount : KeyOp → Nat
  | .store _ _ _ | .update _ _ _ => 5
  | .remove _ => 3

/-- A call is its request when its SQLite calls succeed, else nothing and an error. -/
theorem call_matches (call : Call) (c : Conn) :
    Matches call.env (bindCount call.op) call.op.request c (call.on c).2 (call.on c).1 := by
  obtain ⟨env, op⟩ := call
  cases op with
  | store name value expiresAt => exact storeKey_matches env name value expiresAt c
  | update name value expiresAt => exact updateKey_matches env name value expiresAt c
  | remove name => exact removeKey_matches env name c

/-- A call leaves the entries of other rows. -/
theorem call_frame (call : Call) (c : Conn) {name : KeyName}
    (apart : call.op.name.triple ≠ name.triple) :
    view (call.on c).2.tables name.triple = view c.tables name.triple := by
  have effect := call_matches call c
  by_cases runs : Runs call.env (bindCount call.op)
  · rw [← (effect.granted runs).1]
    apply KeyMap.call_frame
    intro same
    rw [call.op.request_key] at same
    exact absurd same apart
  · rw [(effect.failed runs).1]

/-- What `get_key` answers for a name depends on the entry of its row. -/
theorem getKey_congr (env : StmtEnv) (name : KeyName) {c c' : Conn}
    (same : view c'.tables name.triple = view c.tables name.triple) :
    (getKey env name.moduleName name.keyType name.keyName c').1 =
      (getKey env name.moduleName name.keyType name.keyName c).1 := by
  have entry := KeyMap.get_congr same
  unfold getKey prepareAndBind
  cases prepared : env.prepare with
  | false => rfl
  | true =>
    simp only [Bool.true_eq_false, if_false]
    cases (env.binds.zip _).find? fun bind => bind.1 = false with
    | some bind => rfl
    | none =>
      dsimp only [query]
      rw [select_reads, select_reads, entry]
      cases env.step with
      | false => rfl
      | true => cases (view c.tables).get name.triple <;> rfl

/-- Whether `store_key` succeeds for a name depends on the entry of its row. -/
theorem storeKey_congr (env : StmtEnv) (name : KeyName) (value : ByteVector)
    (expiresAt : Option Bytes) {c c' : Conn}
    (same : view c'.tables name.triple = view c.tables name.triple) :
    (storeKey env name.moduleName name.keyType name.keyName value expiresAt c').1 = .ok () ↔
      (storeKey env name.moduleName name.keyType name.keyName value expiresAt c).1 = .ok () := by
  have before := storeKey_matches env name value expiresAt c
  have after := storeKey_matches env name value expiresAt c'
  by_cases runs : Runs env 5
  · rw [(before.granted runs).2, (after.granted runs).2]
    simp only [KeyMap.call, same]
    split <;> simp
  · have fails := (before.failed runs).2
    have fails' := (after.failed runs).2
    simp [fails, fails']

/-! ## Entries from the history -/

end FifthD.Guarantees.KeyHistory
