import FifthD.Guarantees.KeyHistory
import FifthD.Source.Schema

/-!
# Prepared statements

Any operations on one connection, each with failures of its own. `prepare` makes a
statement, and of what may follow only `execute` finalizes it: not `query`, and not a failed
bind. So an operation keeps the number of statements when it makes none, or goes through
to `execute`.
-/
namespace FifthD.Guarantees.StatementLeaks

open FifthD.Library FifthD.Source KeyStore KeyHistory

/-- An operation, and the outcomes of its SQLite calls. -/
inductive Operation where
  /-- `store_key`, `update_key` or `remove_key`. -/
  | change (call : Call)
  | getKey (env : StmtEnv) (name : KeyName)
  | checkKeyTypes (env : StmtEnv)
  | printSchema (env : StmtEnv) (schema : List SchemaObject)

namespace Operation

/-- The connection after an operation. -/
def on (c : Conn) : Operation → Conn
  | .change call => (call.on c).2
  | .getKey env name => (Source.getKey env name.moduleName name.keyType name.keyName c).2
  | .checkKeyTypes env => (Source.checkKeyTypes env c).2
  | .printSchema env schema => (Source.printSchema env schema c).2

/-- No statement is made, or it is executed. -/
def Finalizes : Operation → Prop
  | .change call => call.env.prepare = false ∨ false ∉ call.env.binds.take (bindCount call.op)
  | .getKey env _ | .checkKeyTypes env | .printSchema env _ => env.prepare = false

instance : (op : Operation) → Decidable op.Finalizes
  | .change _ => inferInstanceAs (Decidable (_ ∨ _))
  | .getKey _ _ | .checkKeyTypes _ | .printSchema _ _ => inferInstanceAs (Decidable (_ = _))

end Operation

/-- The statements that `prepare` and the binds add. -/
theorem prepareAndBind_alive (env : StmtEnv) (code : ErrorCode) (prepareMessage : String)
    (bindMessages : List String) (c : Conn) :
    (prepareAndBind env code prepareMessage bindMessages c).2.alive =
      if env.prepare = false then c.alive else c.alive + 1 := by
  unfold prepareAndBind
  cases env.prepare with
  | false => rfl
  | true =>
    simp only [Bool.true_eq_false, if_false]
    cases (env.binds.zip bindMessages).find? fun bind => bind.1 = false with
    | none => rfl
    | some bind => rfl

/-- `execute` finalizes the statement, also when the step fails. -/
theorem execute_alive (env : StmtEnv) (statement : KeyTables → Option KeyTables) (c : Conn) :
    (execute env statement c).2.alive = c.alive - 1 := by
  unfold execute
  dsimp only
  cases (if env.step then statement c.tables else none) with
  | none => rfl
  | some tables => rfl

/-- A function that changes the store leaves its statement when a bind fails. -/
theorem prepareAndExecute_alive (env : StmtEnv) (code : ErrorCode) (prepareMessage : String)
    (bindMessages : List String) (statement : KeyTables → Option KeyTables) (c : Conn) :
    (prepareAndExecute env code prepareMessage bindMessages statement c).2.alive =
      if env.prepare = false ∨ false ∉ env.binds.take bindMessages.length then c.alive
      else c.alive + 1 := by
  unfold prepareAndExecute prepareAndBind
  cases env.prepare with
  | false => simp [err]
  | true =>
    have fails := firstFailure_eq_none_iff env.binds bindMessages
    simp only [Bool.true_eq_false, if_false, false_or]
    cases found : (env.binds.zip bindMessages).find? fun bind => bind.1 = false with
    | none =>
      rw [if_pos (fails.mp found)]
      exact execute_alive env statement _
    | some bind =>
      rw [found] at fails
      have leaves : ¬ false ∉ env.binds.take bindMessages.length := by
        intro whole
        cases fails.mpr whole
      rw [if_neg leaves]
      rfl

/-- A function that reads leaves its statement. -/
theorem prepareAndQuery_alive (env : StmtEnv) (prepareMessage queryMessage : String)
    (statement : KeyTables → List Bytes) (c : Conn) :
    (prepareAndQuery env prepareMessage queryMessage statement c).2.alive =
      if env.prepare = false then c.alive else c.alive + 1 := by
  have alive := prepareAndBind_alive env .DB_ERROR prepareMessage [] c
  unfold prepareAndQuery
  split
  · next e next stopped =>
    rw [stopped] at alive
    exact alive
  · next done next bound =>
    rw [bound] at alive
    split <;> exact alive

theorem getKey_alive (env : StmtEnv) (moduleName : Bytes) (keyType : KeyType) (keyName : Bytes)
    (c : Conn) :
    (getKey env moduleName keyType keyName c).2.alive =
      if env.prepare = false then c.alive else c.alive + 1 := by
  have alive := prepareAndBind_alive env .FAIL_GET_KEY "Failed to prepare key query"
    ["Failed to bind module_name", "Failed to bind key_type", "Failed to bind key_name"] c
  unfold getKey
  split
  · next e next stopped =>
    rw [stopped] at alive
    exact alive
  · next done next bound =>
    rw [bound] at alive
    split <;> exact alive

/-- An operation finalizes the statement it makes, or leaves it. -/
theorem on_alive (c : Conn) (op : Operation) :
    (op.on c).alive = if op.Finalizes then c.alive else c.alive + 1 := by
  cases op with
  | change call =>
    obtain ⟨env, op⟩ := call
    cases op with
    | store name value expiresAt => exact prepareAndExecute_alive env _ _ _ _ c
    | update name value expiresAt => exact prepareAndExecute_alive env _ _ _ _ c
    | remove name => exact prepareAndExecute_alive env _ _ _ _ c
  | getKey env name => exact getKey_alive env name.moduleName name.keyType name.keyName c
  | checkKeyTypes env => exact prepareAndQuery_alive env _ _ _ c
  | printSchema env schema => exact prepareAndQuery_alive env _ _ _ c

theorem on_alive_iff (c : Conn) (op : Operation) : (op.on c).alive = c.alive ↔ op.Finalizes := by
  rw [on_alive]
  split
  · next finalizes => simp [finalizes]
  · next leaves => simp [leaves]

/-! ## Sequences -/

/-- Every operation of a sequence returns with the statements that were there before it. -/
def KeepsStatements (c : Conn) (ops : List Operation) : Prop :=
  ∀ past op later, ops = past ++ op :: later →
    (op.on (past.foldl Operation.on c)).alive = (past.foldl Operation.on c).alive

/-- For every sequence of operations and every pattern of failing calls: each operation
returns with exactly the statements alive that were alive before it, if and only if each
fails at `prepare`, or changes the store and none of its binds fails. -/
theorem keeps_statements_iff (c : Conn) (ops : List Operation) :
    KeepsStatements c ops ↔ ∀ op ∈ ops, op.Finalizes := by
  constructor
  · intro keeps op member
    obtain ⟨past, later, split⟩ := List.append_of_mem member
    exact (on_alive_iff _ op).mp (keeps past op later split)
  · rintro finalize past op later rfl
    exact (on_alive_iff _ op).mpr (finalize op (List.mem_append_right past List.mem_cons_self))

/-- A `get_key` in which nothing fails, on the empty tables. -/
theorem read_leaves_statement :
    ¬ KeepsStatements freshStore
      [.getKey (StmtEnv.ok "") ⟨ascii "manager", .CURVE25519, ascii "public_key"⟩] := by
  intro keeps
  have same := keeps [] _ [] rfl
  revert same
  decide

end FifthD.Guarantees.StatementLeaks
