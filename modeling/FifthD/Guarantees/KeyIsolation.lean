import FifthD.Guarantees.KeyHistory

/-!
# Isolation of the keys of two names

A call on one name leaves what is read and what can be stored under another, exactly
when the two are bound to different rows: `bind_text` gives SQLite the length -1, so
what a name holds behind its first NUL is not part of the row.
-/
namespace FifthD.Guarantees.KeyIsolation

open FifthD.Source FifthD.Spec FifthD.Guarantees.KeyStore FifthD.Guarantees.KeyHistory

/-- The names differ in their key type or before their first NUL. -/
def Apart (a b : KeyName) : Prop :=
  a.keyType ≠ b.keyType ∨ bindText a.moduleName ≠ bindText b.moduleName ∨
    bindText a.keyName ≠ bindText b.keyName

theorem keyTypeNumber_injective : Function.Injective keyTypeNumber := by
  intro a b same
  cases a <;> cases b <;> first | rfl | cases same

theorem apart_iff (a b : KeyName) : Apart a b ↔ a.triple ≠ b.triple := by
  have types : a.keyType = b.keyType ↔ keyTypeNumber a.keyType = keyTypeNumber b.keyType :=
    keyTypeNumber_injective.eq_iff.symm
  unfold Apart KeyName.triple
  rw [Ne, Ne, Ne, Ne, Prod.ext_iff, Prod.ext_iff, types]
  dsimp only
  tauto

/-- A call leaves what `get_key` answers for another name, and whether `store_key`
succeeds on it, whatever fails in those. -/
structure Spares (call : Call) (c : Conn) (other : KeyName) : Prop where
  reads : ∀ env,
    (getKey env other.moduleName other.keyType other.keyName (call.on c).2).1 =
      (getKey env other.moduleName other.keyType other.keyName c).1
  stores : ∀ env value expiresAt,
    (storeKey env other.moduleName other.keyType other.keyName value expiresAt
        (call.on c).2).1 = .ok () ↔
      (storeKey env other.moduleName other.keyType other.keyName value expiresAt c).1 = .ok ()

/-- A call on another row spares a name. -/
theorem spares_of_other_row {call : Call} {other : KeyName}
    (apart : call.op.name.triple ≠ other.triple) (c : Conn) : Spares call c other := by
  have same := call_frame call c apart
  constructor
  · intro env
    exact getKey_congr env other same
  · intro env value expiresAt
    exact storeKey_congr env other value expiresAt same

/-- Nothing is found in the empty tables. -/
theorem view_freshStore (name : KeyName) : view freshStore.tables name.triple = none := rfl

/-- On the empty tables a store under one name is read under every name of its row. -/
theorem store_read_by_twin {a b : KeyName} (same : a.triple = b.triple) :
    read "" freshStore b = err .KEY_NOT_FOUND "Key not found" ∧
      read "" (callKey "" freshStore (.store a (oneByte 1) none)).2 b = .ok [1] := by
  have fresh := view_freshStore a
  have step := (callKey_refines "" freshStore (.store a (oneByte 1) none)).1
  have stored : bindBlob (oneByte 1) = some [1] := rfl
  rw [KeyOp.request, stored, KeyMap.call_store_absent fresh] at step
  rw [read_eq, read_eq, ← step, ← same]
  unfold KeyMap.get
  dsimp only
  rw [fresh, Function.update_self]
  exact ⟨rfl, rfl⟩

/-- For every two names: no call on the first changes what the second reads or whether
it can be stored, after any calls on the empty tables and with any failures, if and only
if the names differ in their key type or before their first NUL. -/
theorem key_isolation_iff (a b : KeyName) :
    (∀ history call, call.op.name = a → Spares call (afterCalls history) b) ↔ Apart a b := by
  rw [apart_iff]
  constructor
  · intro spared same
    obtain ⟨before, after⟩ := store_read_by_twin same
    have reads := (spared [] ⟨.ok "", .store a (oneByte 1) none⟩ rfl).reads (.ok "")
    change read "" (callKey "" freshStore (.store a (oneByte 1) none)).2 b =
      read "" freshStore b at reads
    rw [before, after] at reads
    cases reads
  · intro apart history call on
    apply spares_of_other_row
    rw [on]
    exact apart

/-- Module names that differ behind a NUL: a store under one is read under the other. -/
theorem nul_shares_row :
    let first := keyOf (ascii "peer" ++ [0, 1])
    let second := keyOf (ascii "peer" ++ [0, 2])
    first ≠ second ∧
      ¬ Spares ⟨.ok "", .store first (oneByte 1) none⟩ (afterCalls []) second := by
  intro first second
  constructor
  · decide
  · intro spared
    have reads := spared.reads (.ok "")
    revert reads
    decide

end FifthD.Guarantees.KeyIsolation
