import FifthD.Guarantees.CacheRecency
import FifthD.Library.MutexProgress
import FifthD.Library.MutexTraces
import FifthD.Source.CacheAccess

/-!
# Threads in one cache

Any number of threads push and get at the same time, and each operation of the list and of
the map is a step of its own. The cache is what it is for: a list of entries, the one last
used in front, that all threads share and that is cut to the capacity.
-/
namespace FifthD.Guarantees.LockedCache

open FifthD.Library FifthD.Source CacheStep LruCache

variable {Tkey Tval : Type} [DecidableEq Tkey]

/-! ## One call at a time -/

section Code

variable (s : LruCache Tkey Tval)

/-- A program that is run, with its result if it has one. -/
def outcome (program : CacheProg Tkey Tval (Option (CacheEvent Tkey Tval))) :
    Option (LruCache Tkey Tval × CacheEvent Tkey Tval) :=
  (Prog.run LruCache.access s program).2.map fun event =>
    ((Prog.run LruCache.access s program).1, event)

theorem outcome_ask {op : CacheAccess Tkey Tval} {after : LruCache Tkey Tval} {reply : op.Reply}
    (answers : s.access op = (after, reply))
    (rest : op.Reply → CacheProg Tkey Tval (Option (CacheEvent Tkey Tval))) :
    outcome s (CacheAccess.ask op >>= rest) = outcome after (rest reply) := by
  unfold outcome CacheAccess.ask
  rw [Prog.run_ask_bind answers]

variable {s}

theorem access_find {key : Tkey} {it : Option Nat} (found : s.cacheItemsMap.lookup key = it) :
    s.access (.find key) = (s, it) := congrArg (Prod.mk s) found

theorem access_size : s.access .size = (s, s.mapSize) := rfl

theorem access_maxSize : s.access .maxSize = (s, s.maxSize) := rfl

theorem access_last {last : Option (CacheNode Tkey Tval)}
    (ended : s.cacheItemsList.getLast? = last) :
    s.access .last = (s, last.map CacheNode.first) :=
  congrArg (fun last => (s, last.map CacheNode.first)) ended

theorem access_erase_none {it : Nat} (gone : s.nodeAt it = none) :
    s.access (.erase it) = (s, false) := by
  simp only [LruCache.access, gone]

theorem access_erase {it : Nat} {node : CacheNode Tkey Tval} (found : s.nodeAt it = some node) :
    s.access (.erase it) = ({ s with cacheItemsList := s.without it }, true) := by
  simp only [LruCache.access, found]

theorem access_eraseKey {key : Tkey} : s.access (.eraseKey key) =
    ({ s with cacheItemsMap := s.cacheItemsMap.erase key }, ()) := rfl

theorem access_splice_none {it : Nat} (gone : s.nodeAt it = none) :
    s.access (.splice it) = (s, false) := by
  simp only [LruCache.access, gone]

theorem access_splice {it : Nat} {node : CacheNode Tkey Tval} (found : s.nodeAt it = some node) :
    s.access (.splice it) = ({ s with cacheItemsList := node :: s.without it }, true) := by
  simp only [LruCache.access, found]

theorem access_popBack (some : s.cacheItemsList ≠ []) :
    s.access .popBack = ({ s with cacheItemsList := s.cacheItemsList.dropLast }, true) := by
  simp only [LruCache.access, List.isEmpty_iff, if_neg some]

/-- What an iterator is at when its node has come to the front. -/
theorem access_value {it : Nat} {node : CacheNode Tkey Tval} (found : s.nodeAt it = some node)
    (rest : List (CacheNode Tkey Tval)) :
    ({ s with cacheItemsList := node :: rest } : LruCache Tkey Tval).access (.value it) =
      ({ s with cacheItemsList := node :: rest }, some node.second) := by
  have first : ({ s with cacheItemsList := node :: rest } : LruCache Tkey Tval).nodeAt it =
      some node := by
    have same : decide (node.address = it) = true :=
      List.find?_some (p := fun node : CacheNode Tkey Tval => decide (node.address = it)) found
    exact List.find?_cons_of_pos same
  simp only [LruCache.access, first, Option.map_some]

theorem outcome_push (key : Tkey) (value : Tval) :
    outcome s (CacheProg.push key value) =
      (s.push key value).map fun next => (next, .pushed key value) := by
  unfold CacheProg.push LruCache.push
  cases found : s.cacheItemsMap.lookup key with
  | some it =>
    rw [outcome_ask s (access_find found)]
    dsimp only
    cases node : s.nodeAt it with
    | none =>
      rw [outcome_ask s (access_erase_none node)]
      rfl
    | some node' =>
      rw [outcome_ask s (access_erase node)]
      rfl
  | none =>
    rw [outcome_ask s (access_find found)]
    dsimp only
    rw [outcome_ask s access_size, outcome_ask s access_maxSize]
    split
    · cases ended : s.cacheItemsList.getLast? with
      | none =>
        rw [outcome_ask s (access_last ended)]
        rfl
      | some last =>
        have some : s.cacheItemsList ≠ [] := by
          intro empty
          rw [empty] at ended
          cases ended
        rw [outcome_ask s (access_last ended), Option.map_some]
        dsimp only
        rw [outcome_ask s access_eraseKey, outcome_ask _ (access_popBack
          (s := { s with cacheItemsMap := s.cacheItemsMap.erase last.first }) some)]
        rfl
    · rfl

theorem outcome_get (key : Tkey) :
    outcome s (CacheProg.get key) =
      (s.get key).map fun
        | (next, some value) => (next, .hit key value)
        | (next, none) => (next, .missed key) := by
  unfold CacheProg.get LruCache.get
  cases found : s.cacheItemsMap.lookup key with
  | none =>
    rw [outcome_ask s (access_find found)]
    rfl
  | some it =>
    rw [outcome_ask s (access_find found)]
    dsimp only
    cases node : s.nodeAt it with
    | none =>
      rw [outcome_ask s (access_splice_none node)]
      rfl
    | some node' =>
      rw [outcome_ask s (access_splice node), if_neg (by simp),
        outcome_ask _ (access_value node _)]
      rfl

/-- The code of a member function, run by itself, is the whole call. -/
theorem perform_eq (s : LruCache Tkey Tval) (c : CacheCall Tkey Tval) :
    Mutex.perform cacheCode LruCache.access s c = s.call c := by
  cases c with
  | push key value => exact outcome_push key value
  | get key => exact outcome_get key

end Code

/-! ## The list that all threads share -/

/-- The entries of other keys. -/
def others (key : Tkey) (entries : List (Tkey × Tval)) : List (Tkey × Tval) :=
  entries.filter fun entry => entry.1 ≠ key

/-- A whole call on a list of entries of which `capacity` are kept, the one last used in front;
without room a push is undefined. -/
def callEntries (capacity : Nat) (entries : List (Tkey × Tval)) :
    CacheCall Tkey Tval → Option (List (Tkey × Tval) × CacheEvent Tkey Tval)
  | .push key value =>
    if capacity = 0 then none
    else some (((key, value) :: others key entries).take capacity, .pushed key value)
  | .get key =>
    match entries.find? fun entry => entry.1 = key with
    | none => some (entries, .missed key)
    | some entry => some (entry :: others key entries, .hit key entry.2)

/-- The cache keeps these entries, in this order. -/
structure Keeps (c : UInt16) (s : LruCache Tkey Tval) (entries : List (Tkey × Tval)) : Prop where
  wired : Wired s
  maxSize : s.maxSize = c
  keys : entries.map Prod.fst = order s
  values : ∀ node ∈ s.cacheItemsList, (node.first, node.second) ∈ entries
  bounded : entries.length ≤ c.toNat

theorem new_keeps (c : UInt16) : Keeps c (new c : LruCache Tkey Tval) [] := by
  refine ⟨(CacheRecency.new_inv c).wired, rfl, rfl, ?_, Nat.zero_le _⟩
  intro node member
  cases member

/-- The keys of the others. -/
theorem map_others (key : Tkey) {entries : List (Tkey × Tval)}
    (nodup : (entries.map Prod.fst).Nodup) :
    (others key entries).map Prod.fst = (entries.map Prod.fst).erase key := by
  rw [nodup.erase_eq_filter, List.filter_map]
  congr 1
  apply List.filter_congr
  intro entry _
  by_cases same : entry.1 = key
  · simp [same]
  · simp [same]

omit [DecidableEq Tkey] in
/-- One key has one entry. -/
theorem entry_eq {entries : List (Tkey × Tval)} (nodup : (entries.map Prod.fst).Nodup)
    {first second : Tkey × Tval} (member : first ∈ entries) (member' : second ∈ entries)
    (same : first.1 = second.1) : first = second :=
  List.inj_on_of_nodup_map nodup member member' same

variable {c : UInt16} {s : LruCache Tkey Tval} {entries : List (Tkey × Tval)}

theorem Keeps.nodup (keeps : Keeps c s entries) : (entries.map Prod.fst).Nodup := by
  rw [keeps.keys]
  exact keeps.wired.keys

theorem Keeps.push {next : LruCache Tkey Tval} {key : Tkey} {value : Tval}
    (keeps : Keeps c s entries) (room : 0 < c.toNat) (effect : PushEffect key value s next) :
    Keeps c next (((key, value) :: others key entries).take c.toNat) := by
  have keys : (((key, value) :: others key entries).take c.toNat).map Prod.fst = order next := by
    rw [effect.order, keeps.maxSize, List.map_take, List.map_cons, map_others key keeps.nodup,
      keeps.keys, Recency.touch]
  refine ⟨effect.wired, effect.maxSize.trans keeps.maxSize, keys, ?_, ?_⟩
  · intro node member
    rcases effect.nodes node member with ⟨rfl, rfl⟩ | ⟨other, old⟩
    · obtain ⟨n, eq⟩ := Nat.exists_eq_succ_of_ne_zero room.ne'
      rw [eq, List.take_succ_cons]
      exact List.mem_cons_self
    · have kept : node.first ∈
          (((key, value) :: others key entries).take c.toNat).map Prod.fst := by
        rw [keys]
        exact List.mem_map_of_mem member
      obtain ⟨entry, there, same⟩ := List.mem_map.mp kept
      rcases List.mem_cons.mp (List.mem_of_mem_take there) with rfl | among
      · exact absurd same.symm other
      · have before := List.mem_of_mem_filter among
        rw [← entry_eq keeps.nodup before (keeps.values node old) same]
        exact there
  · exact List.length_take_le _ _

theorem Keeps.hit {next : LruCache Tkey Tval} {key : Tkey} {value : Tval}
    (keeps : Keeps c s entries) (effect : HitEffect key value s next) :
    Keeps c next ((key, value) :: others key entries) := by
  have keys : ((key, value) :: others key entries).map Prod.fst = order next := by
    rw [effect.order, List.map_cons, map_others key keeps.nodup, keeps.keys, Recency.touch]
  obtain ⟨found, there, rfl, rfl⟩ := effect.found
  refine ⟨effect.wired, effect.maxSize.trans keeps.maxSize, keys, ?_, ?_⟩
  · intro node member
    have old := keeps.values node (effect.nodes.mem_iff.mp member)
    by_cases same : node.first = found.first
    · rw [entry_eq keeps.nodup old (keeps.values found there) same]
      exact List.mem_cons_self
    · exact List.mem_cons_of_mem _ (List.mem_filter.mpr ⟨old, decide_eq_true same⟩)
  · have sizes := congrArg List.length keys
    have sizes' := congrArg List.length keeps.keys
    have before := keeps.bounded
    have moved := effect.nodes.length_eq
    unfold order at sizes sizes'
    rw [List.length_map, List.length_map] at sizes sizes'
    omega

/-- Without room a push reaches for the last node of an empty list. -/
theorem push_no_room (keeps : Keeps c s entries) (zero : c.toNat = 0) (key : Tkey) (value : Tval) :
    s.push key value = none := by
  have nothing : entries = [] := List.length_eq_zero_iff.mp (Nat.le_zero.mp (zero ▸ keeps.bounded))
  have empty : s.cacheItemsList = [] := by
    have keys := keeps.keys
    rw [nothing, List.map_nil] at keys
    exact List.map_eq_nil_iff.mp keys.symm
  have unknown : s.cacheItemsMap.lookup key = none := by
    refine (keeps.wired.lookup_none_iff key).mpr ?_
    rw [empty]
    exact List.not_mem_nil
  unfold LruCache.push
  rw [unknown, keeps.maxSize, zero]
  dsimp only
  rw [if_pos (Nat.zero_le _), empty]
  rfl

/-- The entry of a key that the cache knows. -/
theorem find_entry (keeps : Keeps c s entries) {node : CacheNode Tkey Tval}
    (member : node ∈ s.cacheItemsList) :
    (entries.find? fun entry => entry.1 = node.first) = some (node.first, node.second) := by
  have there := keeps.values node member
  cases found : entries.find? fun entry => entry.1 = node.first with
  | none => exact absurd (decide_eq_true rfl) (List.find?_eq_none.mp found _ there)
  | some entry =>
    have same : entry.1 = node.first := of_decide_eq_true (List.find?_some
      (p := fun entry : Tkey × Tval => decide (entry.1 = node.first)) found)
    rw [entry_eq keeps.nodup (List.mem_of_find?_eq_some found) there same]

theorem find_none (keeps : Keeps c s entries) {key : Tkey} (unknown : key ∉ order s) :
    (entries.find? fun entry => entry.1 = key) = none := by
  refine List.find?_eq_none.mpr fun entry member same => unknown ?_
  rw [← keeps.keys]
  exact List.mem_map.mpr ⟨entry, member, of_decide_eq_true same⟩

/-- A cache and the list of its entries return the same. -/
theorem call_matches (keeps : Keeps c s entries) (call : CacheCall Tkey Tval) :
    Option.Rel (fun after rest => Keeps c after.1 rest.1 ∧ after.2 = rest.2) (s.call call)
      (callEntries c.toNat entries call) := by
  unfold LruCache.call callEntries
  cases call with
  | push key value =>
    dsimp only
    by_cases zero : c.toNat = 0
    · rw [push_no_room keeps zero, if_pos zero]
      exact .none
    · have room := Nat.pos_of_ne_zero zero
      have sizes := congrArg List.length keeps.keys
      unfold order at sizes
      rw [List.length_map, List.length_map] at sizes
      have bounded : s.cacheItemsList.length ≤ s.maxSize.toNat := by
        rw [keeps.maxSize, ← sizes]
        exact keeps.bounded
      obtain ⟨next, code, effect⟩ :=
        push_spec keeps.wired (keeps.maxSize ▸ room) bounded key value
      rw [code, if_neg zero]
      exact .some ⟨keeps.push room effect, rfl⟩
  | get key =>
    dsimp only
    by_cases known : key ∈ order s
    · obtain ⟨next, value, code, effect⟩ := get_hit keeps.wired known
      obtain ⟨node, member, same, same'⟩ := effect.found
      have found := find_entry keeps member
      rw [same, same'] at found
      rw [code, found]
      exact .some ⟨keeps.hit effect, rfl⟩
    · rw [get_missed keeps.wired known, find_none keeps known]
      exact .some ⟨keeps, rfl⟩

/-- For every capacity and any number of threads, whatever the order of their operations on the
list and the map: what is seen of their calls, up to a push without room, is what is seen of
calls of which each takes one step, somewhere between its invocation and its return, on a list
of the entries last used; and everything that can be seen of these calls can be seen of the
code. -/
theorem locked_cache_is_list {P : Type*} [DecidableEq P] (c : UInt16)
    (events : List (Mutex.Event P (CacheCall Tkey Tval) (CacheEvent Tkey Tval))) :
    Machine.Trace (Mutex.Guarded.step cacheCode LruCache.access) (Mutex.Guarded.start (new c))
        events ↔
      Machine.Trace (Mutex.Object.step (callEntries c.toNat)) (Mutex.Object.start []) events := by
  rw [Mutex.trace_iff]
  refine Mutex.Object.trace_iff (Keeps c) ?_ (new_keeps c) events
  intro s entries call keeps
  rw [perform_eq]
  exact call_matches keeps call

end FifthD.Guarantees.LockedCache
