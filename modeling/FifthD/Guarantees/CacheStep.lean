import FifthD.Library.Recency
import FifthD.Source.LruCache

/-!
# One call on the cache

The map has an iterator to the node of every key of the list and nothing else; each call
keeps this. What a call does to the list is taking one node out of it and putting one in
front: a push of a known key, a push that evicts, and a get that hits.
-/
namespace FifthD.Guarantees.CacheStep

open FifthD.Library FifthD.Source LruCache

variable {Tkey Tval : Type*} [DecidableEq Tkey]

/-- A map of iterators goes with a list of nodes whose addresses are below `next`. -/
structure Linked (map : AList fun _ : Tkey => Nat) (list : List (CacheNode Tkey Tval))
    (next : Nat) : Prop where
  keys : (list.map CacheNode.first).Nodup
  addresses : (list.map CacheNode.address).Nodup
  below : ∀ node ∈ list, node.address < next
  points : ∀ key it, map.lookup key = some it ↔
    ∃ node ∈ list, node.first = key ∧ node.address = it

/-- The cache's map goes with its list. -/
def Wired (s : LruCache Tkey Tval) : Prop := Linked s.cacheItemsMap s.cacheItemsList s.nextAddress

/-- The keys of the list, front first. -/
def order (s : LruCache Tkey Tval) : List Tkey := s.cacheItemsList.map CacheNode.first

namespace Linked

variable {map : AList fun _ : Tkey => Nat} {list : List (CacheNode Tkey Tval)} {next : Nat}

theorem mem_map_iff (linked : Linked map list next) (key : Tkey) :
    key ∈ map ↔ key ∈ list.map CacheNode.first := by
  rw [← AList.lookup_isSome, Option.isSome_iff_exists, List.mem_map]
  constructor
  · rintro ⟨it, found⟩
    obtain ⟨node, member, same, _⟩ := (linked.points key it).mp found
    exact ⟨node, member, same⟩
  · rintro ⟨node, member, same⟩
    exact ⟨node.address, (linked.points key node.address).mpr ⟨node, member, same, rfl⟩⟩

theorem lookup_none_iff (linked : Linked map list next) (key : Tkey) :
    map.lookup key = none ↔ key ∉ list.map CacheNode.first := by
  rw [AList.lookup_eq_none, linked.mem_map_iff]

/-- The map is as large as the list. -/
theorem size_eq (linked : Linked map list next) : map.keys.length = list.length := by
  have same : map.keys.Perm (list.map CacheNode.first) := by
    rw [List.perm_ext_iff_of_nodup map.keys_nodup linked.keys]
    intro key
    rw [← AList.mem_keys]
    exact linked.mem_map_iff key
  rw [same.length_eq, List.length_map]

/-- The order of the nodes does not matter. -/
theorem perm (linked : Linked map list next) {other : List (CacheNode Tkey Tval)}
    (moved : list.Perm other) : Linked map other next := by
  constructor
  · exact (moved.map _).nodup_iff.mp linked.keys
  · exact (moved.map _).nodup_iff.mp linked.addresses
  · intro node member
    exact linked.below node (moved.mem_iff.mpr member)
  · intro key it
    rw [linked.points]
    simp only [moved.mem_iff]

/-- A node taken out of the list, and its key out of the map. -/
theorem remove {front back : List (CacheNode Tkey Tval)} {node : CacheNode Tkey Tval}
    (linked : Linked map (front ++ node :: back) next) :
    Linked (map.erase node.first) (front ++ back) next := by
  have first := linked.perm List.perm_middle
  obtain ⟨off, keys⟩ := List.nodup_cons.mp first.keys
  constructor
  · exact keys
  · exact (List.nodup_cons.mp first.addresses).2
  · intro other member
    exact first.below other (List.mem_cons_of_mem _ member)
  · intro key it
    by_cases same : key = node.first
    · subst same
      rw [AList.lookup_erase]
      constructor
      · nofun
      · rintro ⟨other, member, same, _⟩
        exact absurd (same ▸ List.mem_map_of_mem member) off
    · rw [AList.lookup_erase_ne same, first.points]
      constructor
      · rintro ⟨other, member, sameKey, sameAddress⟩
        rcases List.mem_cons.mp member with rfl | kept
        · exact absurd sameKey.symm same
        · exact ⟨other, kept, sameKey, sameAddress⟩
      · rintro ⟨other, member, both⟩
        exact ⟨other, List.mem_cons_of_mem _ member, both⟩

/-- A new node in front, and an iterator to it under its key. -/
theorem insert (linked : Linked map list next) {key : Tkey} (new : key ∉ list.map CacheNode.first)
    (value : Tval) : Linked (map.insert key next) (⟨next, key, value⟩ :: list) (next + 1) := by
  constructor
  · exact List.nodup_cons.mpr ⟨new, linked.keys⟩
  · refine List.nodup_cons.mpr ⟨?_, linked.addresses⟩
    intro taken
    obtain ⟨node, member, same⟩ := List.mem_map.mp taken
    have below := linked.below node member
    dsimp only at same
    omega
  · intro node member
    rcases List.mem_cons.mp member with rfl | old
    · exact Nat.lt_succ_self next
    · exact Nat.lt_succ_of_lt (linked.below node old)
  · intro other it
    by_cases same : other = key
    · subst same
      rw [AList.lookup_insert]
      constructor
      · intro found
        exact ⟨_, List.mem_cons_self, rfl, Option.some.inj found⟩
      · rintro ⟨node, member, same, rfl⟩
        rcases List.mem_cons.mp member with rfl | old
        · rfl
        · exact absurd (same ▸ List.mem_map_of_mem old) new
    · rw [AList.lookup_insert_ne same, linked.points]
      constructor
      · rintro ⟨node, member, both⟩
        exact ⟨node, List.mem_cons_of_mem _ member, both⟩
      · rintro ⟨node, member, sameKey, sameAddress⟩
        rcases List.mem_cons.mp member with rfl | old
        · exact absurd sameKey.symm same
        · exact ⟨node, old, sameKey, sameAddress⟩

end Linked

/-- Writing a key over needs no erasure before. -/
theorem insert_erase (map : AList fun _ : Tkey => Nat) (key : Tkey) (it : Nat) :
    (map.erase key).insert key it = map.insert key it := by
  have gone : key ∉ map.erase key := by
    rw [AList.mem_erase]
    exact fun both => both.1 rfl
  apply AList.ext
  rw [AList.entries_insert_of_notMem gone, AList.entries_insert]
  rfl

/-! ## Reaching a node -/

/-- A key of the list: its node, what stands on both sides, and the iterator. -/
theorem Wired.split {s : LruCache Tkey Tval} (wired : Wired s) {key : Tkey}
    (known : key ∈ order s) :
    ∃ front node back, s.cacheItemsList = front ++ node :: back ∧ node.first = key ∧
      s.cacheItemsMap.lookup key = some node.address := by
  obtain ⟨node, member, same⟩ := List.mem_map.mp known
  obtain ⟨front, back, parts⟩ := List.append_of_mem member
  have found := (wired.points key node.address).mpr ⟨node, member, same, rfl⟩
  exact ⟨front, node, back, parts, same, found⟩

/-- No node before has the address of a node. -/
theorem Wired.address_ne {s : LruCache Tkey Tval} (wired : Wired s)
    {front back : List (CacheNode Tkey Tval)} {node : CacheNode Tkey Tval}
    (parts : s.cacheItemsList = front ++ node :: back) :
    ∀ other ∈ front, ¬ (decide (other.address = node.address) = true) := by
  have addresses := wired.addresses
  rw [parts, List.map_append, List.map_cons] at addresses
  intro other member same
  have before : other.address ∈ front.map CacheNode.address := List.mem_map_of_mem member
  rw [of_decide_eq_true same] at before
  exact List.disjoint_of_nodup_append addresses before List.mem_cons_self

theorem Wired.nodeAt_eq {s : LruCache Tkey Tval} (wired : Wired s)
    {front back : List (CacheNode Tkey Tval)} {node : CacheNode Tkey Tval}
    (parts : s.cacheItemsList = front ++ node :: back) : s.nodeAt node.address = some node := by
  unfold nodeAt
  rw [parts, List.find?_append, List.find?_eq_none.mpr (wired.address_ne parts),
    List.find?_cons_of_pos (by simp)]
  rfl

theorem Wired.without_eq {s : LruCache Tkey Tval} (wired : Wired s)
    {front back : List (CacheNode Tkey Tval)} {node : CacheNode Tkey Tval}
    (parts : s.cacheItemsList = front ++ node :: back) :
    s.without node.address = front ++ back := by
  unfold without
  rw [parts, List.eraseP_append_right _ (wired.address_ne parts),
    List.eraseP_cons_of_pos (by simp)]

/-- The keys without the key of a node. -/
theorem Wired.order_erase {s : LruCache Tkey Tval} (wired : Wired s)
    {front back : List (CacheNode Tkey Tval)} {node : CacheNode Tkey Tval}
    (parts : s.cacheItemsList = front ++ node :: back) :
    (order s).erase node.first = (front ++ back).map CacheNode.first := by
  have keys := wired.keys
  unfold order
  rw [parts, List.map_append, List.map_cons] at keys ⊢
  have off : node.first ∉ front.map CacheNode.first := by
    intro before
    exact List.disjoint_of_nodup_append keys before List.mem_cons_self
  rw [List.erase_append_right _ off, List.erase_cons_head, List.map_append]

/-- The cache with a node taken out of the list and its key out of the map. -/
def removed (s : LruCache Tkey Tval) (node : CacheNode Tkey Tval)
    (others : List (CacheNode Tkey Tval)) : LruCache Tkey Tval :=
  { s with cacheItemsMap := s.cacheItemsMap.erase node.first, cacheItemsList := others }

theorem Wired.removed {s : LruCache Tkey Tval} (wired : Wired s)
    {front back : List (CacheNode Tkey Tval)} {node : CacheNode Tkey Tval}
    (parts : s.cacheItemsList = front ++ node :: back) :
    Wired (removed s node (front ++ back)) := by
  unfold Wired at wired
  rw [parts] at wired
  exact wired.remove

/-! ## The calls -/

/-- What a push leaves: the key in front with its value, and behind it the most recent of
the others, untouched. -/
structure PushEffect (key : Tkey) (value : Tval) (s next : LruCache Tkey Tval) : Prop where
  wired : Wired next
  maxSize : next.maxSize = s.maxSize
  order : order next = (Recency.touch key (order s)).take s.maxSize.toNat
  nodes : ∀ node ∈ next.cacheItemsList,
    (node.first = key ∧ node.second = value) ∨ (node.first ≠ key ∧ node ∈ s.cacheItemsList)

/-- A push in front of some of the other nodes. -/
theorem pushFront_effect {s rest : LruCache Tkey Tval} {key : Tkey} {value : Tval}
    (wired : Wired rest) (new : key ∉ order rest) (maxSize : rest.maxSize = s.maxSize)
    (subset : rest.cacheItemsList ⊆ s.cacheItemsList)
    (kept : key :: order rest = (Recency.touch key (order s)).take s.maxSize.toNat) :
    PushEffect key value s (rest.pushFront key value) := by
  constructor
  · exact wired.insert new value
  · exact maxSize
  · exact kept
  · intro node member
    rcases List.mem_cons.mp member with rfl | old
    · exact .inl ⟨rfl, rfl⟩
    · right
      constructor
      · rintro rfl
        exact new (List.mem_map_of_mem old)
      · exact subset old

/-- A push of a key that is there. -/
theorem push_known {s : LruCache Tkey Tval} (wired : Wired s)
    (bounded : s.cacheItemsList.length ≤ s.maxSize.toNat) {key : Tkey} (known : key ∈ order s)
    (value : Tval) : ∃ next, s.push key value = some next ∧ PushEffect key value s next := by
  have sizes : (order s).length = s.cacheItemsList.length := List.length_map _
  have fewer := List.length_erase_of_mem known
  have one : 0 < (order s).length := List.length_pos_of_mem known
  obtain ⟨front, node, back, parts, rfl, found⟩ := wired.split known
  have others := wired.order_erase parts
  -- The map is written over: as if the key had been erased before.
  have same : { s with cacheItemsList := front ++ back }.pushFront node.first value =
      (removed s node (front ++ back)).pushFront node.first value := by
    unfold pushFront removed
    rw [insert_erase]
  unfold push
  rw [found]
  dsimp only
  rw [wired.nodeAt_eq parts, wired.without_eq parts]
  dsimp only
  rw [same]
  refine ⟨_, rfl, pushFront_effect (wired.removed parts) ?_ rfl ?_ ?_⟩
  · change node.first ∉ (front ++ back).map CacheNode.first
    rw [← others]
    exact List.Nodup.not_mem_erase wired.keys
  · rw [parts]
    exact (List.Sublist.append_left (List.sublist_cons_self node back) front).subset
  · rw [Recency.touch, List.take_of_length_le]
    · rw [others]
      rfl
    · rw [List.length_cons, fewer]
      omega

/-- A push of a new key into a full cache: the last node goes. -/
theorem push_full {s : LruCache Tkey Tval} (wired : Wired s) (room : 0 < s.maxSize.toNat)
    (full : s.cacheItemsList.length = s.maxSize.toNat) {key : Tkey} (new : key ∉ order s)
    (value : Tval) : ∃ next, s.push key value = some next ∧ PushEffect key value s next := by
  have sizes : (order s).length = s.cacheItemsList.length := List.length_map _
  have size : s.mapSize = s.cacheItemsList.length := wired.size_eq
  unfold push
  rw [(wired.lookup_none_iff key).mpr new]
  dsimp only
  rw [size, if_pos full.ge]
  cases ended : s.cacheItemsList.getLast? with
  | none =>
    rw [List.getLast?_eq_none_iff.mp ended, List.length_nil] at full
    omega
  | some last =>
    have parts : s.cacheItemsList = s.cacheItemsList.dropLast ++ last :: [] :=
      (List.dropLast_append_getLast? last ended).symm
    have evicted := wired.removed parts
    rw [List.append_nil] at evicted
    have others : order (removed s last s.cacheItemsList.dropLast) = (order s).dropLast :=
      List.map_dropLast
    refine ⟨(removed s last s.cacheItemsList.dropLast).pushFront key value, rfl, ?_⟩
    refine pushFront_effect evicted ?_ rfl (List.dropLast_subset _) ?_
    · rw [others]
      exact fun member => new (List.mem_of_mem_dropLast member)
    · rw [others, Recency.touch, List.erase_of_not_mem new, List.dropLast_eq_take, sizes, full]
      exact (List.take_cons room).symm

/-- A push of a new key into a cache that is not full. -/
theorem push_free {s : LruCache Tkey Tval} (wired : Wired s)
    (free : s.cacheItemsList.length < s.maxSize.toNat) {key : Tkey} (new : key ∉ order s)
    (value : Tval) : ∃ next, s.push key value = some next ∧ PushEffect key value s next := by
  have sizes : (order s).length = s.cacheItemsList.length := List.length_map _
  have size : s.mapSize = s.cacheItemsList.length := wired.size_eq
  unfold push
  rw [(wired.lookup_none_iff key).mpr new]
  dsimp only
  rw [size, if_neg free.not_ge]
  refine ⟨_, rfl, ?_⟩
  apply pushFront_effect wired new rfl (List.Subset.refl _)
  rw [Recency.touch, List.erase_of_not_mem new, List.take_of_length_le]
  rw [List.length_cons]
  omega

/-- A push returns when the cache has room for a node. -/
theorem push_spec {s : LruCache Tkey Tval} (wired : Wired s) (room : 0 < s.maxSize.toNat)
    (bounded : s.cacheItemsList.length ≤ s.maxSize.toNat) (key : Tkey) (value : Tval) :
    ∃ next, s.push key value = some next ∧ PushEffect key value s next := by
  by_cases known : key ∈ order s
  · exact push_known wired bounded known value
  · rcases Nat.lt_or_eq_of_le bounded with free | full
    · exact push_free wired free known value
    · exact push_full wired room full known value

/-- A get of a key that is there: its node comes to the front. -/
structure HitEffect (key : Tkey) (value : Tval) (s next : LruCache Tkey Tval) : Prop where
  wired : Wired next
  maxSize : next.maxSize = s.maxSize
  order : order next = Recency.touch key (order s)
  nodes : next.cacheItemsList.Perm s.cacheItemsList
  found : ∃ node ∈ s.cacheItemsList, node.first = key ∧ node.second = value

theorem get_hit {s : LruCache Tkey Tval} (wired : Wired s) {key : Tkey} (known : key ∈ order s) :
    ∃ next value, s.get key = some (next, some value) ∧ HitEffect key value s next := by
  obtain ⟨front, node, back, parts, rfl, found⟩ := wired.split known
  have moved : (node :: (front ++ back)).Perm s.cacheItemsList := by
    rw [parts]
    exact List.perm_middle.symm
  unfold LruCache.get
  rw [found]
  dsimp only
  rw [wired.nodeAt_eq parts, wired.without_eq parts]
  refine ⟨_, node.second, rfl, ?_⟩
  constructor
  · exact wired.perm moved.symm
  · rfl
  · rw [Recency.touch, wired.order_erase parts]
    rfl
  · exact moved
  · exact ⟨node, moved.mem_iff.mp List.mem_cons_self, rfl, rfl⟩

/-- A get of another key changes nothing. -/
theorem get_missed {s : LruCache Tkey Tval} (wired : Wired s) {key : Tkey}
    (unknown : key ∉ order s) : s.get key = some (s, none) := by
  unfold LruCache.get
  rw [(wired.lookup_none_iff key).mpr unknown]

end FifthD.Guarantees.CacheStep
