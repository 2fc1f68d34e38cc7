import FifthD.Guarantees.SlotPool
import FifthD.Library.MutexProgress
import FifthD.Library.MutexTraces
import FifthD.Source.PoolAccess

/-!
# Threads in one slot pool

Any number of threads call the pool at the same time, and each read and each write of the
pool's fields is a step of its own. Because every member function holds `_mutex` around its
reads and writes, what the threads see is what they would see if each call were one step:
the pool is one stack of free indices that all threads share.
-/
namespace FifthD.Guarantees.LockedPool

open FifthD.Library FifthD.Source SlotPool

variable {T : Type*} {Size : Nat}

/-! ## One call at a time -/

/-- A whole call of a member function. -/
def callBuffer (b : ManagedBuffer T Size) :
    PoolCall → Option (ManagedBuffer T Size × PoolReturn Size)
  | .getSlot => some (b.getSlot.2, .slot b.getSlot.1)
  | .releaseSlot slotPtr =>
    (b.releaseSlot slotPtr).map fun r => (r.buffer, .released r.ret r.slotPtr)
  | .isEmpty => some (b, .empty b.isEmpty)
  | .isFull => some (b, .full b.isFull)
  | .size => some (b, .size b.size)
  | .checkIntegrity => b.checkIntegrity.map fun ret => (b, .checked ret)

section Code

variable (b : ManagedBuffer T Size)

theorem run_getSlot : Prog.run ManagedBuffer.access b PoolProg.getSlot =
    (b.getSlot.2, some (.slot b.getSlot.1)) := by
  unfold PoolProg.getSlot ManagedBuffer.getSlot
  change Prog.run _ b (if b.usedCount = Size then _ else _) = _
  split
  · rfl
  · rfl

theorem checkCanary_eq (i : Fin Size) :
    PoolProg.checkCanary b.error (b.buffer i).canary =
      match ManagedBuffer.checkCanary (b.buffer i) with
      | .ok _ => true
      | .error e => b.error.handleError e := by
  unfold PoolProg.checkCanary ManagedBuffer.checkCanary
  split
  · rfl
  · rfl

/-- The two writes of `release_slot` to the metadata of its slot are one. -/
theorem access_setNext (i : Fin Size) :
    ((b.setMetadata i { b.metadata i with inUse := false }).access (.setNext i b.currentFree)).1 =
      b.setMetadata i { b.metadata i with inUse := false, next := b.currentFree } := by
  unfold ManagedBuffer.access ManagedBuffer.setMetadata ManagedBuffer.metadata
  simp only [Function.update_self, Function.update_idem]

theorem run_releaseSlot (position : Int) :
    Prog.run ManagedBuffer.access b (PoolProg.releaseSlot b.error position) =
      (match b.releaseSlot (some (some position)) with
        | some r => (r.buffer, some (.released r.ret r.slotPtr))
        | none => (b, none)) := by
  unfold PoolProg.releaseSlot ManagedBuffer.releaseSlot
  dsimp only
  split
  · rfl
  · next inside =>
    generalize (⟨position.toNat, _⟩ : Fin Size) = i
    change Prog.run _ b (if b.inUse i = false then _ else _) = _
    split
    · rfl
    · change Prog.run _ b (if PoolProg.checkCanary _ (b.buffer i).canary = false then _ else _) = _
      rw [checkCanary_eq, ← access_setNext]
      generalize ManagedBuffer.checkCanary (b.buffer i) = checked
      cases checked with
      | ok _ => rfl
      | error e =>
        cases handled : b.error.handleError e with
        | false => simp only [handled]; rfl
        | true => simp only [handled]; rfl

/-- The loop goes through the slots and leaves the pool. -/
theorem run_checkSlots (slots : List (Fin Size)) :
    Prog.run ManagedBuffer.access b (PoolProg.checkSlots b.error slots) =
      (b, if slots.all fun i => PoolProg.checkCanary b.error (b.buffer i).canary then
        some (.checked (.ok ())) else none) := by
  induction slots with
  | nil => rfl
  | cons i rest ih =>
    rw [List.all_cons]
    change Prog.run _ b (if PoolProg.checkCanary _ (b.buffer i).canary = false then _ else _) = _
    cases PoolProg.checkCanary b.error (b.buffer i).canary with
    | false => rfl
    | true => simpa using ih

theorem checkIntegrity_eq : b.checkIntegrity =
    if (List.finRange Size).all fun i => PoolProg.checkCanary b.error (b.buffer i).canary then
      some (.ok ()) else none :=
  congrArg
    (fun passes => if (List.finRange Size).all passes then some (.ok () : VoidResult) else none)
    (funext fun i => (checkCanary_eq b i).symm)

theorem run_checkIntegrity :
    Prog.run ManagedBuffer.access b (PoolProg.checkSlots b.error (List.finRange Size)) =
      (b, b.checkIntegrity.map .checked) := by
  rw [run_checkSlots, checkIntegrity_eq]
  split
  · rfl
  · rfl

/-- The code of a member function, run by itself, is the whole call. -/
theorem perform_eq (c : PoolCall) :
    Mutex.perform (poolCode Size b.error) ManagedBuffer.access b c = callBuffer b c := by
  cases c with
  | getSlot =>
    unfold Mutex.perform poolCode
    dsimp only
    rw [run_getSlot]
    rfl
  | releaseSlot slotPtr =>
    rcases slotPtr with _ | _ | position
    · rfl
    · rfl
    · unfold Mutex.perform poolCode callBuffer
      dsimp only
      rw [run_releaseSlot]
      cases b.releaseSlot (some (some position)) with
      | none => rfl
      | some r => rfl
  | isEmpty => rfl
  | isFull => rfl
  | size => rfl
  | checkIntegrity =>
    unfold Mutex.perform poolCode callBuffer
    dsimp only
    rw [run_checkIntegrity]
    cases b.checkIntegrity with
    | none => rfl
    | some ret => rfl

end Code

/-! ## The stack that all threads share -/

theorem length_checkSlots (error : ErrorHandler) (b : ManagedBuffer T Size)
    (slots : List (Fin Size)) :
    Prog.length ManagedBuffer.access b (PoolProg.checkSlots error slots) ≤ slots.length := by
  induction slots with
  | nil => exact Nat.le_refl 0
  | cons i rest ih =>
    change Prog.length _ b (if PoolProg.checkCanary _ (b.buffer i).canary = false then _ else _) + 1
      ≤ rest.length + 1
    split
    · exact Nat.succ_le_succ (Nat.zero_le _)
    · exact Nat.succ_le_succ ih

/-- No member function makes more than eight accesses, except the loop over all slots. -/
theorem length_body (error : ErrorHandler) (b : ManagedBuffer T Size) (c : PoolCall) :
    Prog.length ManagedBuffer.access b ((poolCode Size error).body c) ≤ max 8 Size := by
  have few {n : Nat} (short : n ≤ 8) : n ≤ max 8 Size := short.trans (Nat.le_max_left _ _)
  cases c with
  | getSlot =>
    apply few
    change Prog.length _ b (if b.usedCount = Size then _ else _) + 1 ≤ 8
    split
    · exact (by decide : 0 + 1 ≤ 8)
    · exact (by decide : 7 ≤ 8)
  | releaseSlot slotPtr =>
    apply few
    rcases slotPtr with _ | _ | position
    · exact Nat.zero_le 8
    · exact Nat.zero_le 8
    · unfold poolCode PoolProg.releaseSlot
      dsimp only
      split
      · exact Nat.zero_le 8
      · next inside =>
        generalize (⟨position.toNat, _⟩ : Fin Size) = i
        change Prog.length _ b (if b.inUse i = false then _ else _) + 1 ≤ 8
        split
        · exact (by decide : 0 + 1 ≤ 8)
        · change Prog.length _ b
            (if PoolProg.checkCanary _ (b.buffer i).canary = false then _ else _) + 1 + 1 ≤ 8
          split
          · exact (by decide : 0 + 1 + 1 ≤ 8)
          · exact Nat.le_refl 8
  | isEmpty | isFull | size => exact few (by decide : 1 ≤ 8)
  | checkIntegrity =>
    refine (length_checkSlots error b _).trans ?_
    rw [List.length_finRange]
    exact Nat.le_max_right _ _

/-- For every pool in whatever state and any finite number of threads, whatever the order of their
reads and writes: a run takes at most `max 8 Size + 4` steps for each call; and wherever it is,
`std::abort` was called, no call is open, or some thread can go on without another call. -/
theorem locked_pool_goes_on {P : Type*} [DecidableEq P] [Fintype P] (b : ManagedBuffer T Size)
    (moves : List (Mutex.GuardedMove P PoolCall)) :
    Machine.AtEveryReturn (Mutex.Guarded.step (poolCode Size b.error) ManagedBuffer.access)
      (fun s outs => outs.length ≤ (max 8 Size + 4) * Mutex.Guarded.calls outs ∧
        (s.object.alive = false ∨ (∀ p, s.object.callers p = .idle) ∨
          Mutex.Guarded.GoesOn (poolCode Size b.error) ManagedBuffer.access s))
      (Mutex.Guarded.start b) moves :=
  Mutex.Guarded.runs_end (length_body b.error) b moves

end FifthD.Guarantees.LockedPool
