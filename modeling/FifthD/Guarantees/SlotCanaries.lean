import FifthD.Guarantees.SlotPool

/-!
# Slots with a damaged canary

A holder that writes past the data of its slot changes the canary behind it. The pool looks
at a canary when the slot is released and in `check_integrity`, and aborts when the handler
does not recover from an overflow. Nothing else in the pool reads a canary, so that until
then every result is that of the stack of free indices; and a damaged slot is never free
again.
-/
namespace FifthD.Guarantees.SlotCanaries

open FifthD.Library FifthD.Source FifthD.Guarantees.SlotPool

variable {T : Type*} {Size : Nat}

/-- A call of the pool, or a write past the data of a slot into its canary. -/
inductive HolderOp (Size : Nat) where
  | call (op : PoolOp)
  | isEmpty
  | size
  | checkIntegrity
  | overrun (i : Fin Size) (canary : BitVec 64)
  deriving DecidableEq

/-- What it gives back. -/
inductive HolderResult (Size : Nat) where
  | called (result : PoolResult Size)
  | empty (ret : Result Bool)
  | size (ret : Result Nat)
  | checked (ret : VoidResult)
  | wrote
  deriving DecidableEq

/-- A write past the data of a slot. -/
def setCanary (b : ManagedBuffer T Size) (i : Fin Size) (canary : BitVec 64) :
    ManagedBuffer T Size :=
  { b with buffer := Function.update b.buffer i { b.buffer i with canary } }

/-- One call; only a slot that somebody holds is written to. -/
def callHolder (b : ManagedBuffer T Size) :
    HolderOp Size → Option (ManagedBuffer T Size × HolderResult Size)
  | .call op => (callPool b op).map fun (after, result) => (after, .called result)
  | .isEmpty => some (b, .empty b.isEmpty)
  | .size => some (b, .size b.size)
  | .checkIntegrity => b.checkIntegrity.map fun ret => (b, .checked ret)
  | .overrun i canary => if b.inUse i then some (setCanary b i canary, .wrote) else none

/-! ## Canaries of free slots -/

/-- The canary of every free slot is intact. -/
def FreeIntact (b : ManagedBuffer T Size) : Prop :=
  ∀ i, b.inUse i = false → (b.buffer i).canary = CANARY_VALUE

/-- What `check_canary` reports. -/
def overflow : Error := ⟨.MANAGE_BUFF_OVERFLOW, "Buffer overflow detected", some .CRITICAL⟩

@[simp] theorem setCanary_metadata (b : ManagedBuffer T Size) (i : Fin Size) (canary : BitVec 64) :
    (setCanary b i canary).metadata = b.metadata := by
  funext j
  by_cases same : j = i
  · subst same
    simp [setCanary, ManagedBuffer.metadata]
  · simp [setCanary, ManagedBuffer.metadata, same]

theorem setCanary_inUse (b : ManagedBuffer T Size) (i : Fin Size) (canary : BitVec 64) :
    (setCanary b i canary).inUse = b.inUse :=
  funext fun j => congrArg Metadata.inUse (congrFun (setCanary_metadata b i canary) j)

theorem setCanary_canary (b : ManagedBuffer T Size) {i j : Fin Size} (canary : BitVec 64)
    (other : j ≠ i) : ((setCanary b i canary).buffer j).canary = (b.buffer j).canary := by
  simp [setCanary, other]

/-- The canaries of the free slots stay intact. -/
theorem getSlot_intact {b : ManagedBuffer T Size} (intact : FreeIntact b) :
    FreeIntact b.getSlot.2 := by
  unfold ManagedBuffer.getSlot
  split
  · exact intact
  · intro j free
    have used : Function.update b.inUse b.currentFree true j = false := by
      rw [← setMetadata_inUse b b.currentFree { b.metadata b.currentFree with inUse := true }]
      exact free
    have other : j ≠ b.currentFree := by
      rintro rfl
      simp at used
    rw [Function.update_of_ne other] at used
    exact (setMetadata_canary b _ _ j).trans (intact j used)

/-- A slot has one position. -/
theorem index_of_pointer {i j : Fin Size} {slotPtr : Option SlotPtr}
    (first : slotPtr = some (some (i.val : Int))) (second : slotPtr = some (some (j.val : Int))) :
    i = j := by
  apply Fin.ext
  have positions := Option.some.inj (Option.some.inj (first.symm.trans second))
  omega

/-- What `release_slot` does: it refuses a pointer that is not to a slot in use and changes
nothing, it aborts on a damaged canary when the handler does not recover, or it frees the
slot. -/
inductive Release (b : ManagedBuffer T Size) (slotPtr : Option SlotPtr) :
    Option (ManagedBuffer.Released T Size) → Prop
  | refused (e : Error) (idle : ∀ i : Fin Size, slotPtr = some (some (i.val : Int)) →
      b.inUse i = false) : Release b slotPtr (some ⟨.error e, slotPtr, b⟩)
  | aborted (i : Fin Size) (pointer : slotPtr = some (some (i.val : Int)))
    (busy : b.inUse i = true) (damaged : (b.buffer i).canary ≠ CANARY_VALUE)
    (refuses : b.error.handleError overflow = false) : Release b slotPtr none
  | freed (i : Fin Size) (pointer : slotPtr = some (some (i.val : Int)))
    (busy : b.inUse i = true)
    (passes : (b.buffer i).canary = CANARY_VALUE ∨ b.error.handleError overflow = true) :
    Release b slotPtr (some ⟨.ok true, some none,
      { b.setMetadata i { b.metadata i with inUse := false, next := b.currentFree } with
        currentFree := i
        usedCount := b.usedCount - 1 }⟩)

theorem releaseSlot_release (b : ManagedBuffer T Size) (slotPtr : Option SlotPtr) :
    Release b slotPtr (b.releaseSlot slotPtr) := by
  rcases slotPtr with _ | _ | position
  · exact .refused _ (by simp)
  · exact .refused _ (by simp)
  · by_cases outside : position < 0 ∨ (Size : Int) ≤ position
    · simp only [ManagedBuffer.releaseSlot, dif_pos outside]
      refine .refused _ fun i pointer => ?_
      have := i.isLt
      cases pointer
      omega
    · obtain ⟨i, rfl⟩ : ∃ i : Fin Size, position = (i.val : Int) :=
        ⟨⟨position.toNat, by omega⟩, by simp only; omega⟩
      cases busy : b.inUse i with
      | false =>
        rw [releaseSlot_idle busy]
        refine .refused _ fun j pointer => ?_
        obtain rfl := index_of_pointer rfl pointer
        exact busy
      | true =>
        simp only [ManagedBuffer.releaseSlot, dif_neg outside, Int.toNat_natCast, Fin.eta, busy,
          Bool.true_eq_false, if_false]
        by_cases intact : (b.buffer i).canary = CANARY_VALUE
        · have passes : ManagedBuffer.checkCanary (b.buffer i) = .ok () :=
            if_neg (not_not.mpr intact)
          rw [passes]
          exact .freed i rfl busy (.inl intact)
        · have fails : ManagedBuffer.checkCanary (b.buffer i) = .error overflow := if_pos intact
          rw [fails]
          dsimp only
          by_cases handler : b.error.handleError overflow = true
          · rw [if_neg (by simp [handler])]
            exact .freed i rfl busy (.inr handler)
          · rw [if_pos (by simp [handler])]
            exact .aborted i rfl busy intact (by simpa using handler)

/-- A handler that does not recover lets no damaged slot through. -/
theorem releaseSlot_intact {b : ManagedBuffer T Size} {slotPtr : Option SlotPtr}
    {r : ManagedBuffer.Released T Size} (refuses : b.error.handleError overflow = false)
    (intact : FreeIntact b) (returned : b.releaseSlot slotPtr = some r) : FreeIntact r.buffer := by
  have release := releaseSlot_release b slotPtr
  rw [returned] at release
  cases release with
  | refused e idle => exact intact
  | freed i pointer busy passes =>
    have own : (b.buffer i).canary = CANARY_VALUE := by
      rcases passes with intact | recovers
      · exact intact
      · cases refuses.symm.trans recovers
    intro j free
    have canary := setMetadata_canary b i
      { b.metadata i with inUse := false, next := b.currentFree } j
    by_cases same : j = i
    · subst same
      exact canary.trans own
    · have used : Function.update b.inUse i false j = false := by
        rw [← setMetadata_inUse b i { b.metadata i with inUse := false, next := b.currentFree }]
        exact free
      rw [Function.update_of_ne same] at used
      exact canary.trans (intact j used)

theorem releaseSlot_error {b : ManagedBuffer T Size} {slotPtr : Option SlotPtr}
    {r : ManagedBuffer.Released T Size} (returned : b.releaseSlot slotPtr = some r) :
    r.buffer.error = b.error := by
  have release := releaseSlot_release b slotPtr
  rw [returned] at release
  cases release with
  | refused e idle => rfl
  | freed i pointer busy passes => rfl

theorem getSlot_error (b : ManagedBuffer T Size) : b.getSlot.2.error = b.error := by
  unfold ManagedBuffer.getSlot
  split <;> rfl

/-- One call with a handler that does not recover. -/
theorem callHolder_intact {b after : ManagedBuffer T Size} {op : HolderOp Size}
    {result : HolderResult Size}
    (kept : b.error.handleError overflow = false ∧ FreeIntact b)
    (returned : callHolder b op = some (after, result)) :
    after.error.handleError overflow = false ∧ FreeIntact after := by
  obtain ⟨refuses, intact⟩ := kept
  unfold callHolder at returned
  cases op with
  | call op =>
    obtain ⟨⟨next, out⟩, called, same⟩ := Option.map_eq_some_iff.mp returned
    cases same
    cases op with
    | getSlot =>
      cases called
      rw [getSlot_error]
      exact ⟨refuses, getSlot_intact intact⟩
    | releaseSlot slotPtr =>
      obtain ⟨r, released, same⟩ := Option.map_eq_some_iff.mp called
      cases same
      rw [releaseSlot_error released]
      exact ⟨refuses, releaseSlot_intact refuses intact released⟩
  | isEmpty =>
    cases returned
    exact ⟨refuses, intact⟩
  | size =>
    cases returned
    exact ⟨refuses, intact⟩
  | checkIntegrity =>
    obtain ⟨ret, _, same⟩ := Option.map_eq_some_iff.mp returned
    cases same
    exact ⟨refuses, intact⟩
  | overrun i canary =>
    dsimp only at returned
    split at returned
    · next busy =>
      cases returned
      refine ⟨refuses, fun j free => ?_⟩
      rw [setCanary_inUse] at free
      have other : j ≠ i := by
        rintro rfl
        cases busy.symm.trans free
      rw [setCanary_canary b canary other]
      exact intact j free
    · cases returned

/-- With a handler that recovers, a slot that is overrun and released is free and damaged. -/
theorem damaged_slot_freed [NeZero Size] (initData : T) {error : ErrorHandler}
    (recovers : error.handleError overflow = true) :
    ∃ (after : ManagedBuffer T Size) (outs : List (HolderResult Size)),
      Machine.run callHolder (ManagedBuffer.init initData error)
        [.call .getSlot, .overrun 0 0#64, .call (.releaseSlot (some (some 0)))] =
          some (after, outs) ∧ ¬ FreeIntact after := by
  obtain ⟨rest, top⟩ : ∃ rest, List.finRange Size = 0 :: rest := by
    obtain ⟨n, rfl⟩ := Nat.exists_eq_succ_of_ne_zero (NeZero.ne Size)
    exact ⟨_, List.finRange_succ⟩
  have start := @init_inv T Size _ initData error
  rw [top] at start
  obtain ⟨taken, got, takes⟩ := getSlot_cons start
  have same : taken.error = error := by
    have kept := getSlot_error (ManagedBuffer.init initData error : ManagedBuffer T Size)
    rw [got] at kept
    exact kept
  have busy : taken.inUse 0 = true := by rw [takes.inUse, Function.update_self]
  have damaged : (setCanary taken 0 0#64).inUse 0 = true := by rw [setCanary_inUse, busy]
  have position : (some (some 0) : Option SlotPtr) = some (some ((0 : Fin Size).val : Int)) := by
    simp
  have first : callHolder (ManagedBuffer.init initData error : ManagedBuffer T Size)
      (.call .getSlot) = some (taken, .called (.slot (some 0))) := by
    simp [callHolder, callPool, got]
  have second : callHolder taken (.overrun 0 0#64) = some (setCanary taken 0 0#64, .wrote) := by
    simp [callHolder, busy]
  have release := releaseSlot_release (setCanary taken 0 0#64) (some (some 0))
  cases released : (setCanary taken 0 0#64).releaseSlot (some (some 0)) with
  | none =>
    rw [released] at release
    cases release with
    | aborted _ _ _ _ refuses =>
      change taken.error.handleError overflow = false at refuses
      rw [same, recovers] at refuses
      cases refuses
  | some r =>
    have third : callHolder (setCanary taken 0 0#64) (.call (.releaseSlot (some (some 0)))) =
        some (r.buffer, .called (.released r.ret r.slotPtr)) := by
      simp [callHolder, callPool, released]
    refine ⟨r.buffer, _, Machine.run_cons_iff.mpr ⟨_, _, _, first,
      Machine.run_cons_iff.mpr ⟨_, _, _, second,
        Machine.run_cons_iff.mpr ⟨_, _, _, third, rfl, rfl⟩, rfl⟩, rfl⟩, ?_⟩
    rw [released] at release
    cases release with
    | refused e idle => cases damaged.symm.trans (idle 0 position)
    | freed i pointer _ _ =>
      obtain rfl := index_of_pointer position pointer
      intro intact
      have free := setMetadata_inUse (setCanary taken 0 0#64) 0
        { (setCanary taken 0 0#64).metadata 0 with
          inUse := false, next := (setCanary taken 0 0#64).currentFree }
      have canary := intact 0 (by
        refine (congrFun free 0).trans ?_
        rw [Function.update_self])
      change (((setCanary taken 0 0#64).setMetadata 0 _).buffer 0).canary = CANARY_VALUE at canary
      rw [setMetadata_canary] at canary
      simp [setCanary, CANARY_VALUE] at canary

/-- For every pool size from one on and every handler: in every run of any calls, with any
writes past the data of slots in use, the canary of every free slot is intact in every
state, if and only if the handler does not recover from an overflow. -/
theorem damage_contained_iff [NeZero Size] (initData : T) (error : ErrorHandler) :
    (∀ ops : List (HolderOp Size), Machine.AtEveryReturn callHolder (fun b _ => FreeIntact b)
      (ManagedBuffer.init initData error) ops) ↔ error.handleError overflow = false := by
  constructor
  · intro contained
    by_contra recovers
    obtain ⟨after, outs, ran, damaged⟩ :=
      @damaged_slot_freed T Size _ initData error (by simpa using recovers)
    exact damaged (contained _ _ [] after outs (List.append_nil _).symm ran)
  · intro refuses ops
    refine Machine.atEveryReturn_of_kept
      (fun b _ => b.error.handleError overflow = false ∧ FreeIntact b) ?_ ?_ ⟨refuses, ?_⟩ ops
    · intro b outs op after result kept returned
      exact callHolder_intact kept returned
    · intro b outs kept
      exact kept.2
    · exact fun i _ => rfl

/-- Two slots: a handler that recovers from nothing contains the damage, and one that
recovers from everything does not. -/
theorem two_slots_contained :
    (∀ ops : List (HolderOp 2), Machine.AtEveryReturn callHolder (fun b _ => FreeIntact b)
        (ManagedBuffer.init () ⟨fun _ => false⟩ : ManagedBuffer Unit 2) ops) ∧
      ¬ ∀ ops : List (HolderOp 2), Machine.AtEveryReturn callHolder (fun b _ => FreeIntact b)
        (ManagedBuffer.init () ⟨fun _ => true⟩ : ManagedBuffer Unit 2) ops := by
  constructor
  · exact (damage_contained_iff () ⟨fun _ => false⟩).mpr rfl
  · intro contained
    cases (damage_contained_iff () ⟨fun _ => true⟩).mp contained

/-! ## The results of a damaged pool -/

end FifthD.Guarantees.SlotCanaries
