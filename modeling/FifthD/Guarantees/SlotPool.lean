import FifthD.Library.Machine
import FifthD.Source.ManagedBuffer

/-!
# The slot pool is a stack of free indices

`get_slot` and `release_slot` thread the free list through `meta.next`. Once the
pool has been exhausted, `current_free` and the `next` of slots in use are stale,
so `PoolInv` reads the list for as many steps as there are free slots only. The
abstract pool is a stack of free indices that starts as 0, 1, .., Size-1; every
result of the code is the result of the stack.
-/
namespace FifthD.Guarantees.SlotPool

open FifthD.Library FifthD.Source

variable {T : Type*} {Size : Nat}

/-- The free list of the pool, top first, and the canaries of its slots. -/
structure PoolInv (b : ManagedBuffer T Size) (stack : List (Fin Size)) : Prop where
  threads : FreeList.Threads b.next b.currentFree b.inUse b.usedCount stack
  canaries : ∀ i, (b.buffer i).canary = CANARY_VALUE

namespace PoolInv

variable {b : ManagedBuffer T Size} {stack : List (Fin Size)}

theorem count (inv : PoolInv b stack) : stack.length + b.usedCount = Size := by
  simpa using inv.threads.count

theorem full_iff (inv : PoolInv b stack) : b.usedCount = Size ↔ stack = [] := by
  simpa using inv.threads.full_iff

theorem mem_iff (inv : PoolInv b stack) (i : Fin Size) : i ∈ stack ↔ b.inUse i = false :=
  inv.threads.idle i

end PoolInv

/-! ## Frames of a write to one slot -/

section Frame

variable (b : ManagedBuffer T Size) (i : Fin Size)

@[simp] theorem setData_data (x : T) : (b.setData i x).data = Function.update b.data i x := by
  funext j
  by_cases equal : j = i
  · subst equal
    simp [ManagedBuffer.setData, ManagedBuffer.data]
  · simp [ManagedBuffer.setData, ManagedBuffer.data, equal]

@[simp] theorem setData_metadata (x : T) : (b.setData i x).metadata = b.metadata := by
  funext j
  by_cases equal : j = i
  · subst equal
    simp [ManagedBuffer.setData, ManagedBuffer.metadata]
  · simp [ManagedBuffer.setData, ManagedBuffer.metadata, equal]

@[simp] theorem setData_canary (x : T) (j : Fin Size) :
    ((b.setData i x).buffer j).canary = (b.buffer j).canary := by
  by_cases equal : j = i
  · subst equal
    simp [ManagedBuffer.setData]
  · simp [ManagedBuffer.setData, equal]

@[simp] theorem setData_next (x : T) : (b.setData i x).next = b.next :=
  funext fun j => congrArg Metadata.next (congrFun (setData_metadata b i x) j)

@[simp] theorem setData_inUse (x : T) : (b.setData i x).inUse = b.inUse :=
  funext fun j => congrArg Metadata.inUse (congrFun (setData_metadata b i x) j)

@[simp] theorem setData_currentFree (x : T) : (b.setData i x).currentFree = b.currentFree := rfl

@[simp] theorem setData_usedCount (x : T) : (b.setData i x).usedCount = b.usedCount := rfl

theorem setMetadata_metadata (m : Metadata Size) :
    (b.setMetadata i m).metadata = Function.update b.metadata i m := by
  funext j
  by_cases equal : j = i
  · subst equal
    simp [ManagedBuffer.setMetadata, ManagedBuffer.metadata]
  · simp [ManagedBuffer.setMetadata, ManagedBuffer.metadata, equal]

theorem setMetadata_next (m : Metadata Size) :
    (b.setMetadata i m).next = Function.update b.next i m.next := by
  funext j
  unfold ManagedBuffer.next
  rw [setMetadata_metadata]
  by_cases equal : j = i
  · subst equal
    simp
  · simp [equal]

theorem setMetadata_inUse (m : Metadata Size) :
    (b.setMetadata i m).inUse = Function.update b.inUse i m.inUse := by
  funext j
  unfold ManagedBuffer.inUse
  rw [setMetadata_metadata]
  by_cases equal : j = i
  · subst equal
    simp
  · simp [equal]

theorem setMetadata_data (m : Metadata Size) : (b.setMetadata i m).data = b.data := by
  funext j
  by_cases equal : j = i
  · subst equal
    simp [ManagedBuffer.setMetadata, ManagedBuffer.data]
  · simp [ManagedBuffer.setMetadata, ManagedBuffer.data, equal]

theorem setMetadata_canary (m : Metadata Size) (j : Fin Size) :
    ((b.setMetadata i m).buffer j).canary = (b.buffer j).canary := by
  by_cases equal : j = i
  · subst equal
    simp [ManagedBuffer.setMetadata]
  · simp [ManagedBuffer.setMetadata, equal]

end Frame

/-- Writing a slot's data does not touch the pool's own fields. -/
theorem PoolInv.setData {b : ManagedBuffer T Size} {stack : List (Fin Size)}
    (inv : PoolInv b stack) (i : Fin Size) (x : T) : PoolInv (b.setData i x) stack :=
  ⟨by simpa using inv.threads, by simpa using inv.canaries⟩

/-! ## One specification for each operation -/

/-- An exhausted pool hands out null and stays as it is. -/
theorem getSlot_nil {b : ManagedBuffer T Size} (inv : PoolInv b []) : b.getSlot = (none, b) := by
  simp [ManagedBuffer.getSlot, inv.full_iff.mpr rfl]

/-- What a successful `get_slot` leaves: the top slot is marked, nothing else. -/
structure Taken (b after : ManagedBuffer T Size) (i : Fin Size) (rest : List (Fin Size)) :
    Prop where
  inv : PoolInv after rest
  data : after.data = b.data
  inUse : after.inUse = Function.update b.inUse i true
  usedCount : after.usedCount = b.usedCount + 1

theorem getSlot_cons {b : ManagedBuffer T Size} {i : Fin Size} {rest : List (Fin Size)}
    (inv : PoolInv b (i :: rest)) :
    ∃ after, b.getSlot = (some i, after) ∧ Taken b after i rest := by
  have room : b.usedCount ≠ Size := by
    intro full
    exact absurd (inv.full_iff.mp full) (by simp)
  have top : b.currentFree = i := inv.threads.head_eq rfl
  have step : b.getSlot = (some i,
      { b.setMetadata i { b.metadata i with inUse := true } with
        currentFree := b.next i, usedCount := b.usedCount + 1 }) := by
    simp only [ManagedBuffer.getSlot, if_neg room, top]
  have used := setMetadata_inUse b i { b.metadata i with inUse := true }
  -- only the flag changes, so the links are the old ones
  have links : (b.setMetadata i { b.metadata i with inUse := true }).next = b.next :=
    (setMetadata_next b i _).trans (Function.update_eq_self i b.next)
  refine ⟨_, step, ⟨?_, ?_⟩, ?_, used, rfl⟩
  · have taken := inv.threads.take rfl
    rw [top] at taken
    change FreeList.Threads (b.setMetadata i _).next _ (b.setMetadata i _).inUse _ rest
    rw [links, used]
    exact taken
  · exact fun j => (setMetadata_canary b i _ j).trans (inv.canaries j)
  · exact setMetadata_data b i _

/-- What a successful `release_slot` leaves: the slot is unmarked and on top. -/
structure Freed (b after : ManagedBuffer T Size) (i : Fin Size) (stack : List (Fin Size)) :
    Prop where
  inv : PoolInv after (i :: stack)
  data : after.data = b.data
  inUse : after.inUse = Function.update b.inUse i false
  usedCount : after.usedCount + 1 = b.usedCount

theorem releaseSlot_busy {b : ManagedBuffer T Size} {i : Fin Size} {stack : List (Fin Size)}
    (inv : PoolInv b stack) (busy : b.inUse i = true) :
    ∃ after, b.releaseSlot (some (some (i.val : Int))) = some ⟨.ok true, some none, after⟩ ∧
      Freed b after i stack := by
  have inRange : ¬ ((i.val : Int) < 0 ∨ (Size : Int) ≤ (i.val : Int)) := by
    have := i.isLt
    omega
  have intact : ManagedBuffer.checkCanary (b.buffer i) = .ok () := by
    simp [ManagedBuffer.checkCanary, inv.canaries i]
  have given := inv.threads.give busy
  have positive : 0 < b.usedCount := by
    have count := inv.count
    have count' := given.count
    simp only [List.length_cons, Fintype.card_fin] at count'
    omega
  have step : b.releaseSlot (some (some (i.val : Int))) = some ⟨.ok true, some none,
      { b.setMetadata i { b.metadata i with inUse := false, next := b.currentFree } with
        currentFree := i, usedCount := b.usedCount - 1 }⟩ := by
    simp only [ManagedBuffer.releaseSlot, dif_neg inRange, Int.toNat_natCast, Fin.eta, busy,
      intact, Bool.true_eq_false, if_false, Bool.false_eq_true]
  have used := setMetadata_inUse b i { b.metadata i with inUse := false, next := b.currentFree }
  have links := setMetadata_next b i { b.metadata i with inUse := false, next := b.currentFree }
  refine ⟨_, step, ⟨?_, ?_⟩, ?_, used, ?_⟩
  · change FreeList.Threads (b.setMetadata i _).next i (b.setMetadata i _).inUse _ (i :: stack)
    rw [links, used]
    exact given
  · exact fun j => (setMetadata_canary b i _ j).trans (inv.canaries j)
  · exact setMetadata_data b i _
  · change b.usedCount - 1 + 1 = b.usedCount
    omega

/-- The positions a fresh pool's chain visits: the wrapped successor of `_init`
is the plain one for every slot but the last. -/
theorem init_iterate [NeZero Size] (initData : T) (error : ErrorHandler) (k : Nat)
    (bound : k < Size) :
    ((ManagedBuffer.init initData error : ManagedBuffer T Size).next^[k] 0).val = k := by
  induction k with
  | zero => simp
  | succ k ih =>
    rw [Function.iterate_succ_apply']
    change (_ + 1) % Size = k + 1
    rw [ih (by omega), Nat.mod_eq_of_lt bound]

/-- A fresh pool pops 0, 1, .., Size-1. -/
theorem init_inv [NeZero Size] (initData : T) (error : ErrorHandler) :
    PoolInv (ManagedBuffer.init initData error : ManagedBuffer T Size) (List.finRange Size) := by
  refine ⟨⟨?_, ?_, List.nodup_finRange Size, ?_⟩, fun i => rfl⟩
  · apply List.ext_getElem?
    intro k
    by_cases bound : k < Size
    · rw [List.getElem?_iterate _ _ _ _ (by simpa using bound),
        List.getElem?_eq_getElem (by simpa using bound)]
      apply congrArg some
      apply Fin.ext
      rw [List.getElem_finRange]
      exact init_iterate initData error k bound
    · rw [List.getElem?_eq_none (by simpa using Nat.le_of_not_lt bound),
        List.getElem?_eq_none (by simpa using Nat.le_of_not_lt bound)]
  · intro i
    simp [ManagedBuffer.inUse, ManagedBuffer.metadata, ManagedBuffer.init]
  · simp [ManagedBuffer.init]

theorem releaseSlot_idle {b : ManagedBuffer T Size} {i : Fin Size} (idle : b.inUse i = false) :
    b.releaseSlot (some (some (i.val : Int))) =
      some ⟨err .MANAGE_BUFF_MONKEY "Slot is not in use", some (some (i.val : Int)), b⟩ := by
  have inRange : ¬ ((i.val : Int) < 0 ∨ (Size : Int) ≤ (i.val : Int)) := by
    have := i.isLt
    omega
  simp only [ManagedBuffer.releaseSlot, dif_neg inRange, Int.toNat_natCast, Fin.eta, idle, if_true]

/-! ## Whole runs against a stack -/

/-- The calls a user of the pool makes. -/
inductive PoolOp where
  | getSlot
  | releaseSlot (slotPtr : Option SlotPtr)
  deriving DecidableEq

/-- What a call gives back: a data pointer, or the result of the release and the
caller's pointer after it. -/
inductive PoolResult (Size : Nat) where
  | slot (ptr : Option (Fin Size))
  | released (ret : Result Bool) (slotPtr : Option SlotPtr)
  deriving DecidableEq

def callPool (b : ManagedBuffer T Size) : PoolOp → Option (ManagedBuffer T Size × PoolResult Size)
  | .getSlot => some (b.getSlot.2, .slot b.getSlot.1)
  | .releaseSlot slotPtr =>
    (b.releaseSlot slotPtr).map fun r => (r.buffer, .released r.ret r.slotPtr)

end FifthD.Guarantees.SlotPool
