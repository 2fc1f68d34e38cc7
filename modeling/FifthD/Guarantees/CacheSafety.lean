import FifthD.Guarantees.CacheRecency

/-!
# The cache's list and map

The constructor takes any capacity, zero included. `push` makes room by stepping back from
the end of the list when the map is as large as the capacity, and at capacity zero that is
so while the list is empty. With room for a node, or without a push, every call is safe and
leaves a list of distinct keys, a map with the iterators of just these, and no more nodes
than the capacity.
-/
namespace FifthD.Guarantees.CacheSafety

open FifthD.Library FifthD.Source LruCache CacheStep CacheRecency

variable {Tkey Tval : Type*} [DecidableEq Tkey]

/-- List and map go together, within the capacity. -/
structure Represents (c : UInt16) (s : LruCache Tkey Tval) : Prop where
  wired : Wired s
  maxSize : s.maxSize = c
  bounded : s.cacheItemsList.length ≤ c.toNat

/-- No call goes wrong, and list and map go together after each. -/
def SafeRun (c : UInt16) (calls : List (CacheCall Tkey Tval)) : Prop :=
  (∃ s events, Machine.run LruCache.call (new c) calls = some (s, events)) ∧
    Machine.AtEveryReturn LruCache.call (fun s _ => Represents c s) (new c) calls

theorem represents_of_inv {c : UInt16} {s : LruCache Tkey Tval}
    {events : List (CacheEvent Tkey Tval)} (inv : CacheInv c s events) : Represents c s := by
  constructor
  · exact inv.wired
  · exact inv.maxSize
  · have bounded := inv.bounded
    rwa [inv.maxSize] at bounded

/-- With room for a node every run is safe. -/
theorem safe_of_room {c : UInt16} (room : 0 < c.toNat) (calls : List (CacheCall Tkey Tval)) :
    SafeRun c calls := by
  constructor
  · obtain ⟨s, events, ran, _⟩ := run_inv room calls
    exact ⟨s, events, ran⟩
  · refine Machine.atEveryReturn_of_kept (CacheInv c) ?_ represents_of_inv (new_inv c) calls
    intro s events call next event inv returned
    obtain ⟨next', event', returned', kept⟩ := call_inv inv room call
    cases returned.symm.trans returned'
    exact kept

/-! ## Without a push -/

/-- A get finds nothing in a new cache. -/
theorem new_get (c : UInt16) (key : Tkey) :
    (new c : LruCache Tkey Tval).call (.get key) = some (new c, .missed key) := by
  rw [LruCache.call, get_missed (new_inv c).wired List.not_mem_nil]
  rfl

/-- Gets alone leave the cache as it was made. -/
theorem gets_return (c : UInt16) {calls : List (CacheCall Tkey Tval)}
    (gets : ∀ key value, .push key value ∉ calls) :
    ∃ events, Machine.run LruCache.call (new c) calls = some (new c, events) := by
  induction calls with
  | nil => exact ⟨[], rfl⟩
  | cons call rest ih =>
    obtain ⟨events, ran⟩ := ih fun key value member => gets key value (.tail call member)
    cases call with
    | push key value => exact absurd List.mem_cons_self (gets key value)
    | get key =>
      exact ⟨.missed key :: events,
        Machine.run_cons_iff.mpr ⟨new c, .missed key, events, new_get c key, ran, rfl⟩⟩

theorem safe_of_gets (c : UInt16) {calls : List (CacheCall Tkey Tval)}
    (gets : ∀ key value, .push key value ∉ calls) : SafeRun c calls := by
  constructor
  · obtain ⟨events, ran⟩ := gets_return c gets
    exact ⟨new c, events, ran⟩
  · intro past later s events split ran
    obtain ⟨_, ran'⟩ := gets_return c fun key value member =>
      gets key value (split ▸ List.mem_append_left later member)
    cases ran.symm.trans ran'
    exact represents_of_inv (new_inv c)

/-! ## Without room -/

/-- At capacity zero a push into the empty cache steps back from the end of an empty list. -/
theorem push_no_room {c : UInt16} (zero : c.toNat = 0) (key : Tkey) (value : Tval) :
    (new c).call (.push key value) = none := by
  have unknown : (new c : LruCache Tkey Tval).cacheItemsMap.lookup key = none :=
    AList.lookup_empty key
  have full : (new c : LruCache Tkey Tval).maxSize.toNat ≤ (new c : LruCache Tkey Tval).mapSize :=
    zero.le
  unfold LruCache.call push
  dsimp only
  rw [unknown]
  dsimp only
  rw [if_pos full]
  rfl

/-- A run that returns at capacity zero has no push in it. -/
theorem gets_of_returned {c : UInt16} (zero : c.toNat = 0) {calls : List (CacheCall Tkey Tval)}
    {s : LruCache Tkey Tval} {events : List (CacheEvent Tkey Tval)}
    (ran : Machine.run LruCache.call (new c) calls = some (s, events)) (key : Tkey)
    (value : Tval) : .push key value ∉ calls := by
  induction calls generalizing events with
  | nil => exact List.not_mem_nil
  | cons call rest ih =>
    obtain ⟨next, event, later, first, tail, rfl⟩ := Machine.run_cons_iff.mp ran
    cases call with
    | push key value =>
      rw [push_no_room zero] at first
      cases first
    | get other =>
      cases (new_get c other).symm.trans first
      intro member
      rcases List.mem_cons.mp member with same | member
      · cases same
      · exact ih tail member

/-- For every capacity and every sequence of calls: no call steps back from, dereferences or
pops the end of an empty list, and after each the list's keys are distinct, the map has an
iterator to the node of each and nothing else, and the list is within the capacity, if and
only if the capacity is not zero or no call is a push. -/
theorem cache_safe_iff (c : UInt16) (calls : List (CacheCall Tkey Tval)) :
    SafeRun c calls ↔ 0 < c.toNat ∨ ∀ key value, .push key value ∉ calls := by
  constructor
  · rintro ⟨⟨s, events, ran⟩, _⟩
    rcases Nat.eq_zero_or_pos c.toNat with zero | room
    · exact .inr (gets_of_returned zero ran)
    · exact .inl room
  · rintro (room | gets)
    · exact safe_of_room room calls
    · exact safe_of_gets c gets

/-- A cache of capacity zero and one push. -/
theorem empty_list_stepped_back : ¬ SafeRun 0 [CacheCall.push "key" 1] := by
  rintro ⟨⟨s, events, ran⟩, _⟩
  exact gets_of_returned rfl ran "key" 1 List.mem_cons_self

end FifthD.Guarantees.CacheSafety
