import FifthD.Library.Mutex
import FifthD.Source.ManagedBuffer

/-!
The member functions of `ManagedBuffer<T, Size>` a read or a write at a time:
core/common/5thdbuffer.h:102-193. `std::lock_guard` holds `_mutex` from its line to the end
of the function; what `release_slot` does before that line is not under it. A program that
ends without a result has called `std::abort`.
-/
namespace FifthD.Source

open FifthD.Library

/-- A call of a member function. -/
inductive PoolCall where
  | getSlot
  | releaseSlot (slotPtr : Option SlotPtr)
  | isEmpty
  | isFull
  | size
  | checkIntegrity
  deriving DecidableEq

/-- What a member function returns; `release_slot` also changes the caller's pointer. -/
inductive PoolReturn (Size : Nat) where
  | slot (ptr : Option (Fin Size))
  | released (ret : Result Bool) (slotPtr : Option SlotPtr)
  | empty (ret : Result Bool)
  | full (ret : Result Bool)
  | size (ret : Result Nat)
  | checked (ret : VoidResult)
  deriving DecidableEq

/-- A read or a write of a field of the pool, or of one slot of `_buffer`. -/
inductive PoolAccess (Size : Nat) where
  | usedCount
  | currentFree
  | next (i : Fin Size)
  | inUse (i : Fin Size)
  | canary (i : Fin Size)
  | setUsedCount (n : Nat)
  | setCurrentFree (i : Fin Size)
  | setNext (i next : Fin Size)
  | setInUse (i : Fin Size) (inUse : Bool)

variable {T : Type*} {Size : Nat}

abbrev PoolAccess.Reply : PoolAccess Size → Type
  | .usedCount => Nat
  | .currentFree | .next _ => Fin Size
  | .inUse _ => Bool
  | .canary _ => BitVec 64
  | .setUsedCount _ | .setCurrentFree _ | .setNext _ _ | .setInUse _ _ => Unit

/-- One access. -/
def ManagedBuffer.access (b : ManagedBuffer T Size) :
    (op : PoolAccess Size) → ManagedBuffer T Size × op.Reply
  | .usedCount => (b, b.usedCount)
  | .currentFree => (b, b.currentFree)
  | .next i => (b, b.next i)
  | .inUse i => (b, b.inUse i)
  | .canary i => (b, (b.buffer i).canary)
  | .setUsedCount n => ({ b with usedCount := n }, ())
  | .setCurrentFree i => ({ b with currentFree := i }, ())
  | .setNext i next => (b.setMetadata i { b.metadata i with next }, ())
  | .setInUse i inUse => (b.setMetadata i { b.metadata i with inUse }, ())

def PoolAccess.ask (op : PoolAccess Size) : Prog (PoolAccess Size) PoolAccess.Reply op.Reply :=
  Prog.ask op

/-- The code of a member function under the mutex. -/
abbrev PoolProg (Size : Nat) := Prog (PoolAccess Size) PoolAccess.Reply (Option (PoolReturn Size))

namespace PoolProg

/-- `get_slot`. -/
def getSlot : PoolProg Size := do
  let usedCount ← PoolAccess.ask .usedCount
  if usedCount = Size then return some (.slot none)
  let slotIndex ← PoolAccess.ask .currentFree
  let next ← PoolAccess.ask (.next slotIndex)
  PoolAccess.ask (.setCurrentFree next)
  PoolAccess.ask (.setInUse slotIndex true)
  let usedCount ← PoolAccess.ask .usedCount
  PoolAccess.ask (.setUsedCount (usedCount + 1))
  return some (.slot (some slotIndex))

/-- `check_canary` of the canary it reads, and what its callers do with an error: whether
they go on. -/
def checkCanary (error : ErrorHandler) (canary : BitVec 64) : Bool :=
  if canary ≠ CANARY_VALUE then
    error.handleError ⟨.MANAGE_BUFF_OVERFLOW, "Buffer overflow detected", some .CRITICAL⟩
  else true

theorem toNat_lt {position : Int} (inRange : ¬ (position < 0 ∨ (Size : Int) ≤ position)) :
    position.toNat < Size := by omega

/-- `release_slot` from its `lock_guard` on. -/
def releaseSlot (error : ErrorHandler) (position : Int) : PoolProg Size :=
  if h : position < 0 ∨ (Size : Int) ≤ position then
    return some (.released
      (err .MANAGE_BUFF_SLOT_NOT_IN_RANGE "Slot not in range of buffer memory")
      (some (some position)))
  else do
    let releasedIndex : Fin Size := ⟨position.toNat, toNat_lt h⟩
    let inUse ← PoolAccess.ask (.inUse releasedIndex)
    if inUse = false then
      return some (.released (err .MANAGE_BUFF_MONKEY "Slot is not in use") (some (some position)))
    let canary ← PoolAccess.ask (.canary releasedIndex)
    if checkCanary error canary = false then return none
    PoolAccess.ask (.setInUse releasedIndex false)
    let currentFree ← PoolAccess.ask .currentFree
    PoolAccess.ask (.setNext releasedIndex currentFree)
    PoolAccess.ask (.setCurrentFree releasedIndex)
    let usedCount ← PoolAccess.ask .usedCount
    PoolAccess.ask (.setUsedCount (usedCount - 1))
    return some (.released (.ok true) (some none))

/-- The loop of `check_integrity`. -/
def checkSlots (error : ErrorHandler) : List (Fin Size) → PoolProg Size
  | [] => return some (.checked (.ok ()))
  | i :: rest => do
    let canary ← PoolAccess.ask (.canary i)
    if checkCanary error canary = false then return none
    checkSlots error rest

end PoolProg

/-- The member functions. -/
def poolCode (Size : Nat) (error : ErrorHandler) :
    Mutex.Code PoolCall (PoolReturn Size) (PoolAccess Size) PoolAccess.Reply where
  early
    | .releaseSlot none =>
      some (.released (err .MANAGE_BUFF_NULL_ON_RELEASE "Null was given to release") none)
    | .releaseSlot (some none) =>
      some (.released (err .MANAGE_BUFF_NULL_ON_RELEASE "Null was given to release") (some none))
    | _ => none
  body
    | .getSlot => PoolProg.getSlot
    | .releaseSlot (some (some position)) => PoolProg.releaseSlot error position
    | .releaseSlot _ => return none
    | .isEmpty => do
      let usedCount ← PoolAccess.ask .usedCount
      return some (.empty (.ok (usedCount == 0)))
    | .isFull => do
      let usedCount ← PoolAccess.ask .usedCount
      return some (.full (.ok (usedCount == Size)))
    | .size => do
      let usedCount ← PoolAccess.ask .usedCount
      return some (.size (.ok usedCount))
    | .checkIntegrity => PoolProg.checkSlots error (List.finRange Size)

end FifthD.Source
