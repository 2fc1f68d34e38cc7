import Mathlib.Logic.Function.Basic
import Mathlib.Data.List.Basic

/-!
What the key store is for: a map from keys to values with a mark of deactivation. A
key is stored once; an update changes the value of an entry, deactivated or not, and
finds nothing to change where there is none; a removal deactivates; only active entries
are read. Rows, statements and connections do not occur here.
-/
namespace FifthD.Spec

/-- A value, and whether it can be read. -/
structure Entry (V : Type*) where
  value : V
  active : Bool
  deriving DecidableEq

abbrev KeyMap (K V : Type*) := K → Option (Entry V)

/-- What is asked of the map; a value that is absent is refused. -/
inductive KeyRequest (K V : Type*) where
  | store (k : K) (value : Option V)
  | update (k : K) (value : Option V)
  | remove (k : K)

namespace KeyRequest

variable {K V : Type*}

def key : KeyRequest K V → K
  | .store k _ | .update k _ | .remove k => k

end KeyRequest

namespace KeyMap

variable {K V : Type*} [DecidableEq K]

/-- One request: the next map, and whether it was granted. -/
def call (m : KeyMap K V) : KeyRequest K V → KeyMap K V × Bool
  | .store k value =>
    match m k, value with
    | none, some v => (Function.update m k (some ⟨v, true⟩), true)
    | _, _ => (m, false)
  | .update k value =>
    match m k, value with
    | none, _ => (m, true)
    | some entry, some v => (Function.update m k (some { entry with value := v }), true)
    | some _, none => (m, false)
  | .remove k =>
    (Function.update m k ((m k).map fun entry => { entry with active := false }), true)

/-- The value that can be read. -/
def get (m : KeyMap K V) (k : K) : Option V :=
  match m k with
  | some ⟨value, true⟩ => some value
  | _ => none

/-- The map after requests. -/
def after (m : KeyMap K V) (requests : List (KeyRequest K V)) : KeyMap K V :=
  requests.foldl (fun m request => (m.call request).1) m

/-- A request leaves every other entry, and its own when it is not granted. -/
theorem call_frame (m : KeyMap K V) (request : KeyRequest K V) {k : K}
    (spared : request.key = k → (m.call request).2 = false) : (m.call request).1 k = m k := by
  cases request with
  | store key value =>
    simp only [call, KeyRequest.key] at spared ⊢
    split at spared
    · have different : k ≠ key := by
        rintro rfl
        cases spared rfl
      exact Function.update_of_ne different _ _
    · rfl
  | update key value =>
    simp only [call, KeyRequest.key] at spared ⊢
    split at spared
    · rfl
    · have different : k ≠ key := by
        rintro rfl
        cases spared rfl
      exact Function.update_of_ne different _ _
    · rfl
  | remove key =>
    have different : k ≠ key := by
      rintro rfl
      cases spared rfl
    exact Function.update_of_ne different _ _

omit [DecidableEq K] in
/-- What can be read of a key depends on its entry only. -/
theorem get_congr {m m' : KeyMap K V} {k : K} (same : m' k = m k) : m'.get k = m.get k := by
  unfold get
  rw [same]

omit [DecidableEq K] in
/-- A value can be read exactly when it stands in an active entry. -/
theorem get_eq_some_iff (m : KeyMap K V) (k : K) (v : V) :
    m.get k = some v ↔ m k = some ⟨v, true⟩ := by
  unfold KeyMap.get
  split
  · next entry => simp [entry]
  · next inactive =>
    constructor
    · intro absent
      cases absent
    · intro there
      exact absurd there (inactive v)

/-- A value is stored where there is no entry. -/
theorem call_store_absent {m : KeyMap K V} {k : K} (absent : m k = none) (v : V) :
    m.call (.store k (some v)) = (Function.update m k (some ⟨v, true⟩), true) := by
  simp only [call, absent]

end KeyMap

end FifthD.Spec
