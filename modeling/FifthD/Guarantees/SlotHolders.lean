import FifthD.Guarantees.SlotPool

/-!
# Who holds a slot

Any number of holders of one pool. A holder keeps a copy of the pointer that `get_slot` gave
it, and may release through it again: `release_slot` nulls the pointer it is passed, not the
copy. What stops the second release is the `in_use` flag of the slot, and `get_slot` sets
that again for the next holder. So everything goes well as long as nobody releases again
what somebody else holds by then.
-/
namespace FifthD.Guarantees.SlotHolders

open FifthD.Library FifthD.Source SlotPool

variable {Holder T : Type*} {Size : Nat}

/-- What `get_slot` gave to a holder, and whether the holder has released it. -/
structure Allocation (Holder : Type*) (Size : Nat) where
  holder : Holder
  slot : Fin Size
  released : Bool

/-- A pool and the allocations from it, the oldest first. -/
structure SharedPool (Holder T : Type*) (Size : Nat) where
  pool : ManagedBuffer T Size
  allocations : List (Allocation Holder Size)

/-- A holder asks for a slot, or releases one of its allocations. -/
inductive HolderCall (Holder : Type*) where
  | getSlot (holder : Holder)
  | releaseSlot (allocation : Nat)

namespace SharedPool

def init [NeZero Size] (initData : T) (error : ErrorHandler) : SharedPool Holder T Size :=
  ⟨ManagedBuffer.init initData error, []⟩

/-- One call; there is none for an allocation that was never made. -/
def call (s : SharedPool Holder T Size) :
    HolderCall Holder → Option (SharedPool Holder T Size × PoolResult Size)
  | .getSlot holder =>
    match s.pool.getSlot with
    | (none, pool) => some ({ s with pool }, .slot none)
    | (some slot, pool) =>
      some (⟨pool, s.allocations ++ [⟨holder, slot, false⟩]⟩, .slot (some slot))
  | .releaseSlot n =>
    match s.allocations[n]? with
    | none => none
    | some a =>
      match s.pool.releaseSlot (some (some (a.slot.val : Int))) with
      | none => none
      | some r =>
        some (⟨r.buffer, s.allocations.set n { a with released := true }⟩,
          .released r.ret r.slotPtr)

/-- The slots of the allocations that are not released. -/
def held (s : SharedPool Holder T Size) : List (Fin Size) :=
  (s.allocations.filter fun a => !a.released).map Allocation.slot

end SharedPool

open SharedPool

/-! ## What a release should do -/

/-- The first release of an allocation returns Ok; a later one returns an error and changes
nothing. -/
def CallRight (s : SharedPool Holder T Size) (c : HolderCall Holder) : Prop :=
  ∀ n a, c = .releaseSlot n → s.allocations[n]? = some a →
    ∃ r, s.pool.releaseSlot (some (some (a.slot.val : Int))) = some r ∧
      if a.released then isErr r.ret = true ∧ r.buffer = s.pool else r.ret = .ok true

/-- A second release of an allocation whose slot is held again. -/
def Reissued (s : SharedPool Holder T Size) (c : HolderCall Holder) : Prop :=
  ∃ n a, c = .releaseSlot n ∧ s.allocations[n]? = some a ∧ a.released = true ∧ a.slot ∈ held s

/-- The slots held are apart, and are just those that the pool has given away. -/
structure Ledger (s : SharedPool Holder T Size) (stack : List (Fin Size)) : Prop where
  pool : PoolInv s.pool stack
  apart : (held s).Nodup
  given : ∀ i, i ∈ stack ↔ i ∉ held s

/-- The pool goes with its allocations. -/
def Accounted (s : SharedPool Holder T Size) : Prop := ∃ stack, Ledger s stack

variable {s next : SharedPool Holder T Size} {stack : List (Fin Size)}

theorem init_ledger [NeZero Size] (initData : T) (error : ErrorHandler) :
    Ledger (SharedPool.init initData error : SharedPool Holder T Size) (List.finRange Size) :=
  ⟨init_inv initData error, List.nodup_nil, fun i => by simp [held, SharedPool.init]⟩

/-- A release takes the slot of the allocation out of those held. -/
theorem held_release {n : Nat} {a : Allocation Holder Size} (found : s.allocations[n]? = some a)
    (first : a.released = false) (pool : ManagedBuffer T Size) :
    (held s).Perm (a.slot :: held ⟨pool, s.allocations.set n { a with released := true }⟩) := by
  obtain ⟨below, rfl⟩ := List.getElem?_eq_some_iff.mp found
  obtain ⟨front, back, parts, _, marked⟩ := @List.exists_of_set _ n
    { s.allocations[n] with released := true } _ below
  unfold held
  dsimp only
  rw [marked]
  conv_lhs => rw [parts]
  simp only [List.filter_append, List.map_append, List.filter_cons, first, Bool.not_false, if_true,
    Bool.not_true, Bool.false_eq_true, if_false, List.map_cons]
  exact List.perm_middle

/-- Marking an allocation that is marked changes nothing. -/
theorem set_released {n : Nat} {a : Allocation Holder Size} (found : s.allocations[n]? = some a)
    (again : a.released = true) :
    s.allocations.set n { a with released := true } = s.allocations := by
  obtain ⟨below, rfl⟩ := List.getElem?_eq_some_iff.mp found
  rw [← again]
  exact List.set_getElem_self below

/-- An allocation that is not released is held. -/
theorem mem_held {n : Nat} {a : Allocation Holder Size} (found : s.allocations[n]? = some a)
    (first : a.released = false) : a.slot ∈ held s :=
  (held_release found first s.pool).mem_iff.mpr List.mem_cons_self

/-! ## One call -/

/-- A slot is in use exactly when it is held. -/
theorem Ledger.inUse_iff (ledger : Ledger s stack) (i : Fin Size) :
    s.pool.inUse i = true ↔ i ∈ held s := by
  rw [← Bool.not_eq_false, ← ledger.pool.mem_iff, ledger.given, not_not]

/-- A call is as it should be unless it is a second release and the slot is held again. -/
theorem callRight_iff (ledger : Ledger s stack) (c : HolderCall Holder) :
    CallRight s c ↔ ¬ Reissued s c := by
  constructor
  · rintro right ⟨n, a, rfl, found, again, reissued⟩
    obtain ⟨freed, code, _⟩ := releaseSlot_busy ledger.pool ((ledger.inUse_iff a.slot).mpr reissued)
    obtain ⟨r, released, what⟩ := right n a rfl found
    rw [if_pos again] at what
    cases code.symm.trans released
    cases what.1
  · rintro fine n a rfl found
    cases marked : a.released with
    | false =>
      have busy := (ledger.inUse_iff a.slot).mpr (mem_held found marked)
      obtain ⟨freed, code, _⟩ := releaseSlot_busy ledger.pool busy
      exact ⟨_, code, rfl⟩
    | true =>
      have idle : s.pool.inUse a.slot = false := by
        rw [← ledger.pool.mem_iff, ledger.given]
        exact fun reissued => fine ⟨n, a, rfl, found, marked, reissued⟩
      exact ⟨_, releaseSlot_idle idle, rfl, rfl⟩

theorem getSlot_ledger (ledger : Ledger s stack) {holder : Holder} {out : PoolResult Size}
    (returned : s.call (.getSlot holder) = some (next, out)) : Accounted next := by
  unfold SharedPool.call at returned
  dsimp only at returned
  cases stack with
  | nil =>
    rw [getSlot_nil ledger.pool] at returned
    cases returned
    exact ⟨[], ledger.pool, ledger.apart, ledger.given⟩
  | cons slot rest =>
    obtain ⟨pool, got, taken⟩ := getSlot_cons ledger.pool
    rw [got] at returned
    cases returned
    have given : held ⟨pool, s.allocations ++ [⟨holder, slot, false⟩]⟩ = held s ++ [slot] := by
      simp [held]
    have free : slot ∉ held s := (ledger.given slot).mp List.mem_cons_self
    refine ⟨rest, taken.inv, ?_, fun i => ?_⟩
    · rw [given]
      exact List.nodup_append_comm.mp (List.nodup_cons.mpr ⟨free, ledger.apart⟩)
    · have top := (List.nodup_cons.mp ledger.pool.threads.nodup).1
      have others := ledger.given i
      rw [given, List.mem_append, List.mem_singleton]
      by_cases same : i = slot
      · subst same
        simp [top]
      · simpa [same] using others

theorem releaseSlot_ledger (ledger : Ledger s stack) {n : Nat} {out : PoolResult Size}
    (fine : ¬ Reissued s (.releaseSlot n)) (returned : s.call (.releaseSlot n) = some (next, out)) :
    Accounted next := by
  unfold SharedPool.call at returned
  dsimp only at returned
  cases found : s.allocations[n]? with
  | none =>
    rw [found] at returned
    cases returned
  | some a =>
    rw [found] at returned
    dsimp only at returned
    cases marked : a.released with
    | true =>
      obtain ⟨r, code, what⟩ := (callRight_iff ledger _).mpr fine n a rfl found
      rw [if_pos marked] at what
      rw [code, set_released found marked] at returned
      cases returned
      rw [what.2]
      exact ⟨stack, ledger⟩
    | false =>
      have busy := (ledger.inUse_iff a.slot).mpr (mem_held found marked)
      obtain ⟨freed, code, effect⟩ := releaseSlot_busy ledger.pool busy
      rw [code] at returned
      cases returned
      have without := held_release found marked freed
      have apart := without.nodup_iff.mp ledger.apart
      refine ⟨a.slot :: stack, effect.inv, (List.nodup_cons.mp apart).2, fun i => ?_⟩
      have others := ledger.given i
      rw [without.mem_iff, List.mem_cons] at others
      rw [List.mem_cons]
      by_cases same : i = a.slot
      · subst same
        simp [(List.nodup_cons.mp apart).1]
      · simpa [same] using others

/-- Every call but a bad release keeps the pool with its allocations. -/
theorem call_accounted {c : HolderCall Holder} {out : PoolResult Size} (accounted : Accounted s)
    (fine : ¬ Reissued s c) (returned : s.call c = some (next, out)) : Accounted next := by
  obtain ⟨stack, ledger⟩ := accounted
  cases c with
  | getSlot holder => exact getSlot_ledger ledger returned
  | releaseSlot n => exact releaseSlot_ledger ledger fine returned

/-! ## Runs -/

/-- In every state that a run goes through no slot is held twice, and every call is as it
should be. -/
def OnlyHoldersRelease (start : SharedPool Holder T Size) (calls : List (HolderCall Holder)) :
    Prop :=
  Machine.AtEveryReturn SharedPool.call (fun s _ => (held s).Nodup) start calls ∧
    Machine.AtEveryStep SharedPool.call CallRight start calls

/-- For every pool size from one on and every interleaving of `get_slot` and `release_slot`
calls by any holders: the first release of an allocation returns Ok, every later one returns
an error and changes nothing, and no slot is held twice at once, if and only if no
allocation is released again while its slot is held by somebody else. -/
theorem only_holders_release_iff [NeZero Size] (initData : T) (error : ErrorHandler)
    (calls : List (HolderCall Holder)) :
    OnlyHoldersRelease (SharedPool.init initData error : SharedPool Holder T Size) calls ↔
      Machine.AtEveryStep SharedPool.call (fun s c => ¬ Reissued s c)
        (SharedPool.init initData error : SharedPool Holder T Size) calls := by
  have start : Accounted (SharedPool.init initData error : SharedPool Holder T Size) :=
    ⟨_, init_ledger initData error⟩
  constructor
  · rintro ⟨_, right⟩
    refine right.imp ?_ ?_ start
    · rintro s c next out ⟨stack, ledger⟩ right
      exact call_accounted ⟨stack, ledger⟩ ((callRight_iff ledger c).mp right)
    · rintro s c ⟨stack, ledger⟩
      exact (callRight_iff ledger c).mp
  · intro fine
    constructor
    · intro past later s outs split ran
      rw [split] at fine
      obtain ⟨stack, ledger⟩ := fine.left.keeps call_accounted start ran
      exact ledger.apart
    · refine fine.imp call_accounted ?_ start
      rintro s c ⟨stack, ledger⟩
      exact (callRight_iff ledger c).mpr

/-- Two slots. The first holder releases again what the second has got meanwhile, and the
third gets it while the second still holds it. -/
theorem freed_by_stranger :
    (∃ (s : SharedPool String Unit 2) (outs : List (PoolResult 2)),
      Machine.run SharedPool.call (SharedPool.init () ⟨fun _ => false⟩)
          [.getSlot "first", .releaseSlot 0, .getSlot "second", .releaseSlot 0, .getSlot "third"] =
        some (s, outs) ∧ held s = [0, 0]) ∧
      ¬ OnlyHoldersRelease (SharedPool.init () ⟨fun _ => false⟩ : SharedPool String Unit 2)
        [.getSlot "first", .releaseSlot 0, .getSlot "second", .releaseSlot 0,
          .getSlot "third"] := by
  have shared : (Machine.run SharedPool.call
      (SharedPool.init () ⟨fun _ => false⟩ : SharedPool String Unit 2)
        [.getSlot "first", .releaseSlot 0, .getSlot "second", .releaseSlot 0,
          .getSlot "third"]).map (fun result => held result.1) = some [0, 0] := by decide
  obtain ⟨⟨s, outs⟩, ran, twice⟩ := Option.map_eq_some_iff.mp shared
  dsimp only at twice
  refine ⟨⟨s, outs, ran, twice⟩, fun right => ?_⟩
  have apart : (held s).Nodup := right.1 _ [] s outs (List.append_nil _).symm ran
  rw [twice] at apart
  exact absurd apart (by decide)

/-- Two slots and a second release that comes while nobody holds the slot. -/
theorem released_twice_unharmed :
    OnlyHoldersRelease (SharedPool.init () ⟨fun _ => false⟩ : SharedPool String Unit 2)
        [.getSlot "first", .releaseSlot 0, .releaseSlot 0] ↔
      Machine.AtEveryStep SharedPool.call (fun s c => ¬ Reissued s c)
        (SharedPool.init () ⟨fun _ => false⟩ : SharedPool String Unit 2)
        [.getSlot "first", .releaseSlot 0, .releaseSlot 0] :=
  only_holders_release_iff () ⟨fun _ => false⟩ _

end FifthD.Guarantees.SlotHolders
