import FifthD.Library.FreeList
import FifthD.Source.ErrorHandler
import Mathlib.Algebra.Ring.Nat

/-!
The slot pool `ManagedBuffer<T, Size>`: core/common/5thdbuffer.h:14-221. The
mutex makes every member function one atomic step. Indices into `_buffer` are
`Fin Size`, so the array is never read out of range; that `current_free` and
every `meta.next` stay in range is what this type records. A data pointer is the
position of its slot relative to `&_buffer[0]`, so an address outside the array
is a position below zero or from `Size` on.
-/
namespace FifthD.Source

/-- `ManagedBuffer::Metadata`. -/
structure Metadata (Size : Nat) where
  inUse : Bool
  id : Fin Size
  next : Fin Size
  deriving DecidableEq, Repr

/-- `ManagedBuffer::Slot`. -/
structure Slot (T : Type*) (Size : Nat) where
  metadata : Metadata Size
  data : T
  canary : BitVec 64

def CANARY_VALUE : BitVec 64 := 0xDEADBEEFCAFEBABE#64

structure ManagedBuffer (T : Type*) (Size : Nat) where
  buffer : Fin Size → Slot T Size
  currentFree : Fin Size
  usedCount : Nat
  error : ErrorHandler

/-- `T*`: null, or the data pointer of the slot at this position. -/
abbrev SlotPtr := Option Int

namespace ManagedBuffer

variable {T : Type*} {Size : Nat}

def metadata (b : ManagedBuffer T Size) (i : Fin Size) : Metadata Size := (b.buffer i).metadata

def next (b : ManagedBuffer T Size) (i : Fin Size) : Fin Size := (b.metadata i).next

def inUse (b : ManagedBuffer T Size) (i : Fin Size) : Bool := (b.metadata i).inUse

def data (b : ManagedBuffer T Size) (i : Fin Size) : T := (b.buffer i).data

/-- A write through a data pointer that stays inside the slot's `data`. -/
def setData (b : ManagedBuffer T Size) (i : Fin Size) (x : T) : ManagedBuffer T Size :=
  { b with buffer := Function.update b.buffer i { b.buffer i with data := x } }

/-- A write to the metadata of one slot. -/
def setMetadata (b : ManagedBuffer T Size) (i : Fin Size) (m : Metadata Size) :
    ManagedBuffer T Size :=
  { b with buffer := Function.update b.buffer i { b.buffer i with metadata := m } }

/-- The constructor with `_init`: every slot is free, linked to its successor
modulo `Size`, and its data is what the init callback leaves there. -/
def init [NeZero Size] (initData : T) (error : ErrorHandler) : ManagedBuffer T Size where
  buffer i :=
    { metadata :=
        { inUse := false
          id := i
          next := ⟨(i.val + 1) % Size, Nat.mod_lt _ (NeZero.pos Size)⟩ }
      data := initData
      canary := CANARY_VALUE }
  currentFree := 0
  usedCount := 0
  error := error

/-- `ManagedBuffer::get_slot`. -/
def getSlot (b : ManagedBuffer T Size) : Option (Fin Size) × ManagedBuffer T Size :=
  if b.usedCount = Size then (none, b)
  else
    let slotIndex := b.currentFree
    (some slotIndex,
      { b.setMetadata slotIndex { b.metadata slotIndex with inUse := true } with
        currentFree := b.next slotIndex
        usedCount := b.usedCount + 1 })

/-- `ManagedBuffer::check_canary`. -/
def checkCanary (slot : Slot T Size) : VoidResult :=
  if slot.canary ≠ CANARY_VALUE then
    err .MANAGE_BUFF_OVERFLOW "Buffer overflow detected" (some .CRITICAL)
  else .ok ()

/-- What `release_slot` reports and leaves behind: its result, the pointer the
caller passed by address, and the pool. -/
structure Released (T : Type*) (Size : Nat) where
  ret : Result Bool
  slotPtr : Option SlotPtr
  buffer : ManagedBuffer T Size

/-- `ManagedBuffer::release_slot`. The argument is a pointer to a data pointer,
either of which may be null. The function does not return (`none`) when it calls
`std::abort` on a damaged canary. -/
def releaseSlot (b : ManagedBuffer T Size) (slotPtr : Option SlotPtr) :
    Option (Released T Size) :=
  match slotPtr with
  | none | some none =>
    some ⟨err .MANAGE_BUFF_NULL_ON_RELEASE "Null was given to release", slotPtr, b⟩
  | some (some position) =>
    if h : position < 0 ∨ (Size : Int) ≤ position then
      some ⟨err .MANAGE_BUFF_SLOT_NOT_IN_RANGE "Slot not in range of buffer memory", slotPtr, b⟩
    else
      let releasedIndex : Fin Size := ⟨position.toNat, by omega⟩
      if b.inUse releasedIndex = false then
        some ⟨err .MANAGE_BUFF_MONKEY "Slot is not in use", slotPtr, b⟩
      else
        let aborts :=
          match checkCanary (b.buffer releasedIndex) with
          | .ok _ => false
          | .error e => !b.error.handleError e
        if aborts then none
        else
          some ⟨.ok true, some none,
            { b.setMetadata releasedIndex
                { b.metadata releasedIndex with inUse := false, next := b.currentFree } with
              currentFree := releasedIndex
              usedCount := b.usedCount - 1 }⟩

/-- `ManagedBuffer::is_full`. -/
def isFull (b : ManagedBuffer T Size) : Result Bool := .ok (b.usedCount == Size)

/-- `ManagedBuffer::is_empty`. -/
def isEmpty (b : ManagedBuffer T Size) : Result Bool := .ok (b.usedCount == 0)

/-- `ManagedBuffer::size`. -/
def size (b : ManagedBuffer T Size) : Result Nat := .ok b.usedCount

/-- `ManagedBuffer::capacity`. -/
def capacity (_ : ManagedBuffer T Size) : Nat := Size

/-- `ManagedBuffer::check_integrity`. It does not return (`none`) when it calls
`std::abort` on a damaged canary. -/
def checkIntegrity (b : ManagedBuffer T Size) : Option VoidResult :=
  let passes := (List.finRange Size).all fun i =>
    match checkCanary (b.buffer i) with
    | .ok _ => true
    | .error e => b.error.handleError e
  if passes then some (.ok ()) else none

end ManagedBuffer

end FifthD.Source
